import Outbox.Error
import Outbox.Time.Instant

/-!
# Outbox.Context — how long a send may go on

A context ends when its token is raised or when its deadline passes. Tokens form a
forest: raising a token ends every context whose token is that one or descends from
it. Deadlines are copied when a context is derived, so a derived context never
outlives the deadline its parent had at that time.

* `Signals` says which tokens have been handed out and which are raised.
* `Context` joins a token and a deadline.
* `Context.failure?` is the error of a context that has ended.
-/

namespace Outbox

/-! ## Tokens -/

/-- A token, by its own number and those of its ancestors, the nearest first. -/
structure Token where
  id : Nat
  ancestors : List Nat
deriving DecidableEq, Repr

namespace Token

/-- The numbers of a token and of all its ancestors. -/
def lineage (t : Token) : List Nat := t.id :: t.ancestors

/-- Whether raising `above` raises `t`. -/
def descendsFrom (t above : Token) : Bool := t.lineage.contains above.id

end Token

/-- The tokens handed out so far, which are those with a number below `fresh`, and
the numbers of those that were raised themselves. -/
structure Signals where
  fresh : Nat
  raised : List Nat
deriving DecidableEq, Repr

namespace Signals

/-- No tokens handed out yet. -/
def empty : Signals := ⟨0, []⟩

/-- Hands out a token without ancestors. -/
def newToken : StateM Signals Token := fun s => (⟨s.fresh, []⟩, { s with fresh := s.fresh + 1 })

/-- Hands out a token that is raised whenever `t` is. -/
def childOf (t : Token) : StateM Signals Token := fun s =>
  (⟨s.fresh, t.lineage⟩, { s with fresh := s.fresh + 1 })

/-- Raises a token. -/
def raise (t : Token) (s : Signals) : Signals := { s with raised := t.id :: s.raised }

/-- Whether a token or one of its ancestors was raised. -/
def isRaised (s : Signals) (t : Token) : Bool := t.lineage.any s.raised.contains

end Signals

/-! ## Contexts -/

/-- Bounds an activity by a token and perhaps by a deadline. -/
structure Context where
  token : Token
  deadline : Option Instant
deriving DecidableEq

namespace Context

/-- A context of its own, without a deadline. -/
def make : StateM Signals Context := do return ⟨← Signals.newToken, none⟩

/-- A context that ends with a token, without a deadline. -/
def ofToken (t : Token) : Context := ⟨t, none⟩

/-- The context with a deadline. If it has one already, the earlier one stays. -/
def withDeadline (c : Context) (deadline : Instant) : Context :=
  { c with deadline := some (match c.deadline with
      | some current => if current < deadline then current else deadline
      | none => deadline) }

/-- The context with a deadline `timeout` from now, if the clock has room for it. -/
def withTimeout? (c : Context) (now : Instant) (timeout : Duration) : Option Context :=
  (now.after? timeout).map c.withDeadline

/-- A context that ends with this one and can be cancelled by itself. -/
def child (c : Context) : StateM Signals Context := do
  return ⟨← Signals.childOf c.token, c.deadline⟩

/-- Cancels a context, and with it everything derived from it. -/
def cancel (c : Context) (s : Signals) : Signals := s.raise c.token

/-- Whether the deadline of a context has passed. -/
def isOverdue (c : Context) (now : Instant) : Bool :=
  match c.deadline with
  | some deadline => decide (deadline ≤ now)
  | none => false

/-- The error of a context that has ended. Cancellation comes before the deadline. -/
def failure? (c : Context) (s : Signals) (now : Instant) : Option Error :=
  if s.isRaised c.token then some .cancelled
  else if c.isOverdue now then some .deadlineExceeded
  else none

end Context
end Outbox
