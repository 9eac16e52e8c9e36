import Outbox.Error
import Outbox.Octets
import Outbox.Smtp.Capabilities

/-!
# Outbox.Smtp.Dialogue — what a client says and hears

A dialogue is a tree: at each node the client makes a request, and how it goes on depends
on the answer. A dialogue says nothing about time or about the network, so what a
client does against any server at all is what it does on the paths of this tree.

* `Request` is what a client can do, and `Request.Answer` what it hears.
* `Dialogue` is the tree, a monad that stops at the first error.
-/

namespace Outbox.Smtp

/-- What a client does to hear an answer. -/
inductive Request where
  /-- Waits for the server to speak first. -/
  | listen
  /-- Sends a line. -/
  | command (line : Octets)
  /-- Sends the content of a message and its end. -/
  | message (content : Octets)
  /-- Sends EHLO with its name. -/
  | hello (host : String)
  /-- Makes the connection secure with a server of this name. -/
  | secure (server : String)
deriving DecidableEq, Repr

/-- What is heard after a request. -/
def Request.Answer : Request → Type
  | .listen => Reply
  | .command _ => Reply
  | .message _ => Reply
  | .hello _ => Capabilities
  | .secure _ => Unit

/-- What a client says and hears until it has a result. -/
inductive Dialogue (α : Type) where
  | finished (result : Result α)
  | ask (request : Request) (next : Result request.Answer → Dialogue α)

namespace Dialogue

variable {α β : Type}

/-- A dialogue in which nothing is said. -/
protected def pure (a : α) : Dialogue α := finished (.ok a)

/-- Stops with an error. -/
def fail (e : Error) : Dialogue α := finished (.error e)

/-- One dialogue after another. -/
protected def bind (f : α → Dialogue β) : Dialogue α → Dialogue β
  | finished (.ok a) => f a
  | finished (.error e) => finished (.error e)
  | ask request next => ask request fun answer => Dialogue.bind f (next answer)

instance : Monad Dialogue where
  pure := Dialogue.pure
  bind d f := Dialogue.bind f d

/-- The result of a dialogue, also if it is an error. -/
def attempt : Dialogue α → Dialogue (Result α)
  | finished result => finished (.ok result)
  | ask request next => ask request fun answer => (next answer).attempt

/-- Names the step at which a dialogue fails. -/
def atStage (stage : Stage) : Dialogue α → Dialogue α
  | finished (.ok a) => finished (.ok a)
  | finished (.error e) => finished (.error (e.atStage stage))
  | ask request next => ask request fun answer => (next answer).atStage stage

/-- A result as a dialogue. -/
def ofResult (result : Result α) : Dialogue α := finished result

/-- Makes a request and gives the answer. -/
def request (r : Request) : Dialogue r.Answer := ask r finished

end Dialogue
end Outbox.Smtp
