import Outbox.Error
import Outbox.Octets

/-!
# Outbox.Smtp.Reader — reading what a server says

A reader is a machine that takes one octet at a time and stops at the octet that
completes an answer or makes one impossible. `Reader.feed` runs it over the octets of one
read; what is left of them when it stops is lost.
-/

namespace Outbox.Smtp

/-- A reader that wants more octets, or its answer. -/
inductive Progress (σ α : Type) where
  | more (state : σ)
  | finished (result : Result α)

/-- A machine that reads an answer of a server. -/
structure Reader (σ α : Type) where
  /-- The state before the first octet. -/
  start : σ
  step : σ → UInt8 → Progress σ α
  /-- An answer has to be complete before this many octets have arrived. -/
  capacity : Option Nat := none

namespace Reader

/-- Takes the octets of one read. -/
def feed {σ α : Type} (r : Reader σ α) (s : σ) : Octets → Progress σ α
  | [] => .more s
  | b :: rest =>
    match r.step s b with
    | .more s => r.feed s rest
    | .finished result => .finished result

/-- Whether `n` octets are too many. -/
def isOver {σ α : Type} (r : Reader σ α) (n : Nat) : Bool :=
  match r.capacity with
  | some capacity => capacity ≤ n
  | none => false

/-- What a server's answer comes to that arrives in the given pieces, after `taken` octets
of it, when the server then closes the stream. -/
def resume {σ α : Type} (r : Reader σ α) (s : σ) (taken : Nat) : List Octets → Result α
  | [] => .error .unparseableReply
  | piece :: rest =>
    if piece.isEmpty || r.isOver (taken + piece.length) then .error .unparseableReply
    else
      match r.feed s piece with
      | .more s => r.resume s (taken + piece.length) rest
      | .finished result => result

/-- What a server's answer in pieces comes to. -/
def read {σ α : Type} (r : Reader σ α) (pieces : List Octets) : Result α :=
  r.resume r.start 0 pieces

end Reader
end Outbox.Smtp
