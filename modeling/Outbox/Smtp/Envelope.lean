import Outbox.Address
import Outbox.Smtp.Dialogue

/-!
# Outbox.Smtp.Envelope — handing over a message

The commands of a mail transaction. Each is sent only after the one before it was
accepted, and an address that could break out of its command is never sent.
-/

namespace Outbox.Smtp

/-- The octets of a command line. -/
def commandLine (text : String) : Octets := Octets.ofString text ++ Octets.crlf

/-- Sends a command and gives the reply. -/
def command (text : String) : Dialogue Reply := .request (.command (commandLine text))

/-- Sends a command that has to be carried out. -/
def perform (text : String) : Dialogue Unit := do
  let reply ← command text
  .ofResult reply.assertPositive

/-- A mailbox as it can stand in a command. -/
def commandMailbox (mailbox : String) : Result String :=
  if isValidMailbox mailbox then .ok mailbox else .error (.invalidAddress (Text.escaped mailbox))

/-- Names the sender. -/
def mailFrom (mailbox : String) : Dialogue Unit := do
  let mailbox ← .ofResult (commandMailbox mailbox)
  perform ("MAIL FROM:<" ++ mailbox ++ ">")

/-- Names a recipient. -/
def rcptTo (mailbox : String) : Dialogue Unit := do
  let mailbox ← .ofResult (commandMailbox mailbox)
  perform ("RCPT TO:<" ++ mailbox ++ ">")

/-- Hands over the message itself. -/
def data (message : Octets) : Dialogue Unit := do
  let reply ← command "DATA"
  .ofResult (reply.assertCode 354)
  let reply ← .request (.message message)
  .ofResult (Reply.assertPositive reply)

/-- Names all recipients. -/
def rcptToAll : List String → Dialogue Unit
  | [] => pure ()
  | mailbox :: rest => do
    (rcptTo mailbox).atStage .rcptTo
    rcptToAll rest

/-- Hands over a message with its envelope. -/
def sendEnvelope (sender : String) (recipients : List String) (message : Octets) :
    Dialogue Unit := do
  (mailFrom sender).atStage .mailFrom
  rcptToAll recipients
  (data message).atStage .data

/-- Asks for nothing. -/
def noop : Dialogue Unit := perform "NOOP"

/-- Drops what was said of a message so far. -/
def rset : Dialogue Unit := perform "RSET"

/-- Ends the session. -/
def quit : Dialogue Unit := perform "QUIT"

end Outbox.Smtp
