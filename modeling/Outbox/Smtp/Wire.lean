import Outbox.Act
import Outbox.Smtp.Ehlo
import Outbox.Smtp.Setup
import Outbox.Smtp.Transparency

/-!
# Outbox.Smtp.Wire — dialogues over links

Carries a dialogue out over a link: what a request puts on the wire, what is read after
it, and how long that may take.
-/

namespace Outbox

/-- Names the step at which an act fails. -/
def Act.atStage {α : Type} (stage : Smtp.Stage) (x : Act α) : Act α := do
  match ← x.attempt with
  | .ok a => pure a
  | .error e => Act.fail (e.atStage stage)

namespace Smtp

/-- The octets that a request puts on the wire. -/
def Request.octets : Request → Octets
  | .listen => []
  | .command line => line
  | .message text => content text
  | .hello host => commandLine ("EHLO " ++ host)
  | .secure _ => []

/-- Makes a request on a link. Only the greeting may take any time. -/
def Request.perform (link : Nat) (patience : Duration) : (r : Request) → Act r.Answer
  | .listen => Act.read replyReader link
  | .command line =>
    Act.within patience do
      Act.write link (Request.octets (.command line))
      Act.read replyReader link
  | .message text =>
    Act.within patience do
      Act.write link (Request.octets (.message text))
      Act.read replyReader link
  | .hello host =>
    Act.within patience do
      Act.write link (Request.octets (.hello host))
      Act.read ehloReader link
  | .secure _ => Act.within patience (Act.secure link)

namespace Dialogue

/-- Carries a dialogue out on a link. -/
def run {α : Type} (link : Nat) (patience : Duration) : Dialogue α → Act α
  | finished result => Act.ofResult result
  | ask request next => do
    let answer ← (request.perform link patience).attempt
    run link patience (next answer)

/-- Carries a dialogue out in a session. -/
def on {α : Type} (d : Dialogue α) (c : Connection) : Act α := d.run c.link c.patience

end Dialogue

/-- Opens a session. -/
def Endpoint.connect (e : Endpoint) : Act Connection :=
  Act.within e.timeout do
    let link ← Act.dial.atStage .connect
    let (capabilities, isSecure) ← e.setUp.run link e.timeout
    pure { link, patience := e.timeout, capabilities, isSecure }

end Smtp
end Outbox
