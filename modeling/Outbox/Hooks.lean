import Outbox.Context
import Outbox.Message
import Outbox.Text.Describe

/-!
# Outbox.Hooks — what is told to the caller during a send

A hook is called at the start or at the end of a build or of an attempt. A hook at a
start may put another context in place of the one it is given; every hook may hand
out and raise tokens. Each call of a hook leaves an event in the journal, and so does
every question to the schedule of attempts: the journal is what an observer who sets all
four hooks would write down.

* `Ambient` is what hooks can change.
* `Hooks.buildStart`, `Hooks.buildDone`, `Hooks.attemptStart` and `Hooks.attemptDone` call
  the hook of that name, if it is set.
-/

namespace Outbox

/-- Something that was told to the caller. -/
inductive Event where
  /-- A payload is about to be built. -/
  | buildStart (subject : String)
  /-- A payload of `size` octets was built, or none because of `failure`; `standing` is the
  error of the context if it has ended by then. -/
  | buildDone (subject : String) (standing : Option Error) (size : Nat) (failure : Option Error)
  /-- An attempt begins. -/
  | attemptStart (attempt : Nat)
  /-- The schedule was asked for the delay before an attempt. -/
  | asked (attempt : Nat) (delay : Option Duration)
  /-- An attempt has ended. -/
  | attemptDone (attempt : Nat) (failure : Option Error)

/-- The context of a send, the tokens, and the events so far. -/
structure Ambient where
  context : Context
  signals : Signals
  journal : List Event

namespace Ambient

/-- Writes an event down. -/
def note (e : Event) (a : Ambient) : Ambient := { a with journal := a.journal ++ [e] }

/-- Puts a context in place, if there is one. -/
def replace (context : Option Context) (a : Ambient) : Ambient :=
  { a with context := context.getD a.context }

/-- The error of the context, if it has ended. -/
def standing (a : Ambient) (now : Instant) : Option Error := a.context.failure? a.signals now

end Ambient

/-- A hook that is called at a start: it sees the context and the time, and may hand
out a context to go on with. -/
abbrev StartHook (α : Type) := Context → α → Instant → StateM Signals (Option Context)

/-- A hook that is called at an end, with the error if there is one. -/
abbrev DoneHook (α : Type) := Context → α → Option Error → Instant → StateM Signals Unit

/-- The hooks of a send. -/
structure Hooks where
  onBuildStart : Option (StartHook Message) := none
  /-- Is given the size of the payload too. -/
  onBuildDone : Option (DoneHook (Message × Nat)) := none
  onAttemptStart : Option (StartHook Nat) := none
  onAttemptDone : Option (DoneHook Nat) := none

/-- Calls a hook at a start. -/
def StartHook.call {α : Type} (hook : StartHook α) (event : Event) (subject : α) (now : Instant)
    (a : Ambient) : Ambient :=
  let (context, signals) := hook a.context subject now a.signals
  ({ a with signals }.replace context).note event

/-- Calls a hook at an end. -/
def DoneHook.call {α : Type} (hook : DoneHook α) (event : Event) (subject : α)
    (failure : Option Error) (now : Instant) (a : Ambient) : Ambient :=
  let (_, signals) := hook a.context subject failure now a.signals
  { a with signals }.note event

namespace Hooks

/-- Tells that a payload is about to be built. -/
def buildStart (h : Hooks) (m : Message) (now : Instant) (a : Ambient) : Ambient :=
  match h.onBuildStart with
  | some hook => hook.call (.buildStart m.subject) m now a
  | none => a

/-- Tells that a payload was built or could not be built. -/
def buildDone (h : Hooks) (m : Message) (size : Nat) (failure : Option Error) (now : Instant)
    (a : Ambient) : Ambient :=
  match h.onBuildDone with
  | some hook =>
    hook.call (.buildDone m.subject (a.standing now) size failure) (m, size) failure now a
  | none => a

/-- Tells that an attempt begins. -/
def attemptStart (h : Hooks) (attempt : Nat) (now : Instant) (a : Ambient) : Ambient :=
  match h.onAttemptStart with
  | some hook => hook.call (.attemptStart attempt) attempt now a
  | none => a

/-- Tells that an attempt has ended. -/
def attemptDone (h : Hooks) (attempt : Nat) (failure : Option Error) (now : Instant)
    (a : Ambient) : Ambient :=
  match h.onAttemptDone with
  | some hook => hook.call (.attemptDone attempt failure) attempt failure now a
  | none => a

/-- A description that says which hooks are set. -/
def describe (h : Hooks) : String :=
  Text.describeRecord "Hooks"
    [("on_build_start", Text.describeBool h.onBuildStart.isSome),
     ("on_build_done", Text.describeBool h.onBuildDone.isSome),
     ("on_attempt_start", Text.describeBool h.onAttemptStart.isSome),
     ("on_attempt_done", Text.describeBool h.onAttemptDone.isSome)] false

end Hooks
end Outbox
