import Outbox.World
import Outbox.Smtp.Reader

/-!
# Outbox.Act — what happens over time

An act changes the surroundings and has an outcome. It runs under limits: a timer cuts it
short when it is due, a context when it ends. An act can be cut short only while it
waits, so everything between two waits happens at once.

1. `Outcome` tells a failure of the act itself from being cut short by a limit around it.
2. `Act.wait` lets time pass until the first of: what is waited for, the end of a context,
   a timer.
3. `Act.limited` puts a limit around an act and turns the cut into the limit's error.
-/

namespace Outbox

/-- A limit on an act. -/
inductive Limit where
  | timer (due : Instant)
  | context (c : Context)

/-- What comes of an act. -/
inductive Outcome (α : Type) where
  | done (a : α)
  | failed (e : Error)
  /-- The limit with `depth` limits around it cut the act short. -/
  | cut (depth : Nat) (cause : Error)
  /-- A time was out of the range of the clock. -/
  | overflow
  /-- The act waits for something that never happens. -/
  | stuck

/-- Something that happens over time, under limits, of which the outermost is first. -/
def Act (α : Type) : Type := List Limit → World → Outcome α × World

namespace Act

variable {α β : Type}

/-- Does nothing. -/
protected def pure (a : α) : Act α := fun _ w => (.done a, w)

/-- One act after another, if the first is done. -/
protected def bind (x : Act α) (f : α → Act β) : Act β := fun limits w =>
  match x limits w with
  | (.done a, w) => f a limits w
  | (.failed e, w) => (.failed e, w)
  | (.cut depth cause, w) => (.cut depth cause, w)
  | (.overflow, w) => (.overflow, w)
  | (.stuck, w) => (.stuck, w)

instance : Monad Act where
  pure := Act.pure
  bind := Act.bind

/-- Fails. -/
def fail (e : Error) : Act α := fun _ w => (.failed e, w)

/-- Stops because a time is out of range. -/
def overflow : Act α := fun _ w => (.overflow, w)

/-- Stops because nothing more can happen. -/
def stuck : Act α := fun _ w => (.stuck, w)

/-- The surroundings. -/
def world : Act World := fun _ w => (.done w, w)

/-- The time. -/
def now : Act Instant := fun _ w => (.done w.now, w)

/-- Changes the surroundings. -/
def change (f : World → World) : Act Unit := fun _ w => (.done (), f w)

/-- Changes the surroundings and looks at what came of it. -/
def changing (f : World → α × World) : Act α := fun _ w => let (a, w) := f w; (.done a, w)

/-- The result of an act that is not cut short. -/
def attempt (x : Act α) : Act (Result α) := fun limits w =>
  match x limits w with
  | (.done a, w) => (.done (.ok a), w)
  | (.failed e, w) => (.done (.error e), w)
  | (.cut depth cause, w) => (.cut depth cause, w)
  | (.overflow, w) => (.overflow, w)
  | (.stuck, w) => (.stuck, w)

/-- A result as an act. -/
def ofResult : Result α → Act α
  | .ok a => pure a
  | .error e => fail e

/-! ## Waiting -/

/-- How a wait may end, when, and with what precedence over others at the same time: first
by its rank and then by its order. -/
structure Ending where
  time : Instant
  rank : Nat
  order : Nat
  /-- The limit that ends the wait and its error, if it is a limit. -/
  cutBy : Option (Nat × Error)

/-- Whether one ending comes before another. -/
def Ending.precedes (a b : Ending) : Bool :=
  if a.time = b.time then
    if a.rank = b.rank then a.order < b.order else a.rank < b.rank
  else a.time < b.time

/-- The first of several endings. -/
def firstEnding : List Ending → Option Ending
  | [] => none
  | e :: rest =>
    match firstEnding rest with
    | some best => some (if best.precedes e then best else e)
    | none => some e

/-- When a timer ends a wait that is going on now. -/
def dueFrom (now due : Instant) : Instant := max now due.tick

/-- The ways in which a limit may end a wait; `i` limits are around it and `n` there are.
Contexts come before what is waited for and timers after it. Of contexts the outer comes
first and of timers the inner. A token that is going to be raised comes last. -/
def endingsOf (w : World) (n i : Nat) : Limit → List Ending
  | .timer due => [⟨dueFrom w.now due, 2, n - i, some (i, .timeout)⟩]
  | .context c =>
    (if w.signals.isRaised c.token then [⟨w.now, 0, i, some (i, .cancelled)⟩] else []) ++
    (c.deadline.toList.map fun d => ⟨dueFrom w.now d, 0, i, some (i, .deadlineExceeded)⟩) ++
    ((w.planned.filter fun p => c.token.descendsFrom p.2).map fun p =>
      ⟨max w.now p.1, 3, i, some (i, .cancelled)⟩)

/-- All ways in which a wait may end. -/
def endings (limits : List Limit) (w : World) (due : Option Instant) : List Ending :=
  (due.toList.map fun t => ⟨dueFrom w.now t, 1, 0, none⟩) ++
    limits.zipIdx.flatMap fun (limit, i) => endingsOf w limits.length i limit

/-- Waits for a time, or, without one, for the end that a limit makes. -/
def wait (due : Option Instant) : Act Unit := fun limits w =>
  match firstEnding (endings limits w due) with
  | none => (.stuck, w)
  | some e =>
    (match e.cutBy with
      | none => .done ()
      | some (depth, cause) => .cut depth cause,
     w.reach e.time (e.rank == 3))

/-- Waits for a duration. -/
def sleep (d : Duration) : Act Unit := do wait (some ((← now).timer d))

/-- Waits for something that never happens. -/
def hang : Act α := do
  wait none
  stuck

/-! ## Limits -/

/-- Puts a limit around an act. -/
def limited (limit : Limit) (x : Act α) : Act α := fun limits w =>
  match x (limits ++ [limit]) w with
  | (.cut depth cause, w) => (if depth = limits.length then .failed cause else .cut depth cause, w)
  | (outcome, w) => (outcome, w)

/-- Lets an act take so much time. -/
def within (d : Duration) (x : Act α) : Act α := do
  limited (.timer ((← now).timer d)) x

/-- Lets an act go on until a time, if one is given. -/
def until? (due : Option Instant) (x : Act α) : Act α :=
  match due with
  | some due => limited (.timer due) x
  | none => x

/-- The error of a context, if it has ended. -/
def failureOf (c : Context) : Act (Option Error) := do
  let w ← world
  pure (c.failure? w.signals w.now)

/-- Lets an act go on until a context ends. It does not begin if the context has ended
already. -/
def under (c : Context) (x : Act α) : Act α := do
  match ← failureOf c with
  | some e => fail e
  | none => limited (.context c) x

/-! ## Links -/

/-- Writes octets to a link. -/
def write (link : Nat) (octets : Octets) : Act Unit := do
  let w ← world
  match w.links[link]? with
  | none => fail (.stream ⟨.notConnected, .plain⟩)
  | some l =>
    let (result, l) := l.write octets
    change fun w => w.onLink link fun _ => l
    ofResult result

/-- Sets what is still to arrive on a link. -/
def leave (link : Nat) (arrivals : List Arrival) : Act Unit :=
  change fun w => w.onLink link fun l => { l with arrivals }

/-- Reads an answer from what arrives on a link; `taken` octets of it were taken so far. -/
def readFrom {σ : Type} (r : Smtp.Reader σ α) (link : Nat) (s : σ) (taken : Nat) :
    List Arrival → Act α
  | [] => do
    leave link []
    fail .unparseableReply
  | .octets content :: rest =>
    let piece := (Link.split content rest).1
    if piece.isEmpty || r.isOver (taken + piece.length) then do
      leave link (Link.split content rest).2
      fail .unparseableReply
    else
      match r.feed s piece with
      | .finished result => do
        leave link (Link.split content rest).2
        ofResult result
      | .more s => readFrom r link s (taken + piece.length) (Link.split content rest).2
  | .pause time :: rest => do
    leave link rest
    sleep time
    readFrom r link s taken rest
  | .silence :: rest => do
    leave link (.silence :: rest)
    hang
  | .failure e :: rest => do
    leave link rest
    fail (.stream e)
termination_by arrivals => Link.weight arrivals
decreasing_by
  · exact Link.weight_split content rest
  · simp [Link.weight]

/-- Reads an answer from a link. -/
def read {σ : Type} (r : Smtp.Reader σ α) (link : Nat) : Act α := do
  let w ← world
  match w.links[link]? with
  | none => fail (.stream ⟨.notConnected, .plain⟩)
  | some l => readFrom r link r.start 0 l.arrivals

/-- Opens a connection and gives the number of its link. -/
def dial : Act Nat := do
  let w ← world
  match w.dials with
  | [] => fail (.stream noRoute)
  | .refused e :: rest => do
    change fun w => { w with dials := rest }
    fail (.stream e)
  | .silent :: rest => do
    change fun w => { w with dials := rest }
    hang
  | .opens link :: rest => do
    change fun w => { w with dials := rest, links := w.links ++ [link] }
    pure w.links.length

/-- Makes a link secure. -/
def secure (link : Nat) : Act Unit := do
  let w ← world
  match (w.links[link]?).map Link.handshake with
  | some .completes => pure ()
  | some (.fails fault) => fail fault.error
  | some .stalls => hang
  | none => fail (.stream ⟨.notConnected, .plain⟩)

end Act
end Outbox
