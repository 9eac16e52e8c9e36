import Outbox.Hooks
import Outbox.Link
import Outbox.Pool
import Outbox.RateLimit.Double
import Outbox.Smtp.Connection

/-!
# Outbox.World — the surroundings of a send

All that a send depends on and changes: the clock, the tokens and when someone is going
to raise them, the network, the pools and buckets that sends share, and the journal of
what hooks were told.
-/

namespace Outbox

/-- What comes of an attempt to open a connection. -/
inductive Dial where
  | opens (link : Link)
  | refused (e : StreamError)
  | silent
deriving DecidableEq

/-- The failure of a network that has no way to a host. -/
def noRoute : StreamError := ⟨.networkUnreachable, .system "network unreachable"⟩

/-- The surroundings of a send. -/
structure World where
  now : Instant := .start
  signals : Signals := .empty
  /-- The tokens that are going to be raised, and when. -/
  planned : List (Instant × Token) := []
  /-- The links that were opened, in order. -/
  links : List Link := []
  /-- What comes of the next attempts to open a connection. After these there is no way to
  any host. -/
  dials : List Dial := []
  /-- The stocks of the pools. -/
  stocks : Nat → Stock Smtp.Connection := fun _ => .empty
  /-- The buckets of rate limits. -/
  buckets : Nat → Bucket Float := fun _ => .make 1 1 .start
  journal : List Event := []

namespace World

/-- Puts a value in one place of a family. -/
def put {α : Type} (family : Nat → α) (slot : Nat) (a : α) : Nat → α :=
  fun i => if i = slot then a else family i

/-- What hooks can change of the surroundings, under a context. -/
def ambient (w : World) (c : Context) : Ambient := ⟨c, w.signals, w.journal⟩

/-- The surroundings after hooks were called. -/
def heed (w : World) (a : Ambient) : World := { w with signals := a.signals, journal := a.journal }

/-- Changes a link. -/
def onLink (w : World) (i : Nat) (f : Link → Link) : World := { w with links := w.links.modify i f }

/-- Lets the clock reach a time. Tokens that are planned before it are raised, and those
that are planned for that very time only if `inclusive`. -/
def reach (w : World) (t : Instant) (inclusive : Bool) : World :=
  let (due, later) := w.planned.partition fun p =>
    if inclusive then decide (p.1 ≤ t) else decide (p.1 < t)
  { w with
    now := t
    signals := due.foldl (fun s p => s.raise p.2) w.signals
    planned := later }

/-- Lets a time pass, to its end. -/
def pass (w : World) (d : Duration) : World := w.reach (w.now.timer d).tick true

/-- Plans to raise a token after a time. What is due is raised at once. -/
def plan (w : World) (d : Duration) (t : Token) : World :=
  { w with planned := w.planned ++ [((w.now.timer d).tick, t)] }.reach w.now true

end World
end Outbox
