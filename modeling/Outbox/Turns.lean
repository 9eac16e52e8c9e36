import Outbox.Error

/-!
# Outbox.Turns — acts of which many take turns

An act that is cut into turns. In each turn it makes one move, which is undivided, and goes
on with what comes of the move. What happens between two of its turns is up to others.

Only the first turns of an act that may go on for ever can be written down. The act is known by
all that is written down in this way.
-/

namespace Outbox

/-- An act in turns; `Answer` says what comes of each kind of move. -/
inductive Turns {Move : Type} (Answer : Move → Type) (α : Type) where
  | done (result : Result α)
  | turn (move : Move) (next : Answer move → Turns Answer α)
  /-- It goes on, but what it does is not written down. -/
  | unfinished

namespace Turns

variable {Move : Type} {Answer : Move → Type} {α β : Type}

/-- One act after another, if the first succeeds. -/
protected def bind (f : α → Turns Answer β) : Turns Answer α → Turns Answer β
  | done (.ok a) => f a
  | done (.error e) => done (.error e)
  | turn move next => turn move fun answer => Turns.bind f (next answer)
  | unfinished => unfinished

instance : Monad (Turns Answer) where
  pure a := done (.ok a)
  bind x f := Turns.bind f x

/-- A single move. -/
def make (move : Move) : Turns Answer (Answer move) := turn move fun answer => done (.ok answer)

/-- The result of an act, also if it fails. -/
def attempt : Turns Answer α → Turns Answer (Result α)
  | done result => done (.ok result)
  | turn move next => turn move fun answer => (next answer).attempt
  | unfinished => unfinished

end Turns
end Outbox
