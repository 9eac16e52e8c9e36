import Outbox.Address
import Outbox.Headers
import Outbox.Octets
import Outbox.Text.Describe

/-!
# Outbox.Message — what is to be sent

A message as the caller describes it, and the conditions under which it can be
sent.
-/

namespace Outbox

/-- Where the content of an attachment is read from: the octets, and an error that
comes after them once, if any. -/
structure Source where
  content : Octets
  fault : Option StreamError
deriving DecidableEq, Repr

/-- Reads a source to its end. A read that was interrupted is tried again. -/
def Source.readAll (s : Source) : Result Octets :=
  match s.fault with
  | none => .ok s.content
  | some e => if e.fault = .interrupted then .ok s.content else .error (.stream e)

/-- A file that goes with a message. One that has a content identifier is shown in
place, where the HTML body refers to it. -/
structure Attachment where
  filename : String
  contentType : Option String
  contentId : Option String
  source : Source
deriving DecidableEq, Repr

/-- Whether an attachment is shown in place. -/
def Attachment.isInline (a : Attachment) : Bool := a.contentId.isSome

/-- A description without the content. -/
def Attachment.describe (a : Attachment) : String :=
  Text.describeRecord "Attachment"
    [("filename", Text.quoted a.filename),
     ("content_type", Text.describeOption (a.contentType.map Text.quoted)),
     ("content_id", Text.describeOption (a.contentId.map Text.quoted))] true

/-- A message as the caller describes it. -/
structure Message where
  sender : Address
  direct : List Address
  copies : List Address
  blindCopies : List Address
  subject : String
  textBody : Option Octets
  htmlBody : Option Octets
  attachments : List Attachment
  headers : Headers
  trackingId : Option String
deriving DecidableEq, Repr

namespace Message

/-- All addresses that the message goes to: primary, copy and blind copy. -/
def addressees (m : Message) : List Address := m.direct ++ m.copies ++ m.blindCopies

/-- The mailboxes that the envelope names, in order. -/
def recipients (m : Message) : List String :=
  (m.addressees.filter fun a => !a.isEmpty).map Address.bare

/-- A body that has content. -/
def nonempty? (body : Option Octets) : Option Octets := body.filter fun b => !b.isEmpty

/-- The plain text body, if it has content. -/
def text? (m : Message) : Option Octets := nonempty? m.textBody

/-- The HTML body, if it has content. -/
def html? (m : Message) : Option Octets := nonempty? m.htmlBody

/-- Whether there is anything to read. -/
def hasContent (m : Message) : Bool :=
  m.text?.isSome || m.html?.isSome || !m.attachments.isEmpty

/-- Checks every address that has a mailbox; the first one that fails decides. -/
def checkAll : List Address → Result Unit
  | [] => .ok ()
  | a :: rest =>
    if a.isEmpty then checkAll rest
    else match a.check with
      | .ok () => checkAll rest
      | .error e => .error e

/-- Whether the message can be sent: it has a well formed sender, at least one
recipient, no recipient that is not well formed, and some content. -/
def validate (m : Message) : Result Unit := do
  if m.sender.isEmpty then throw .missingSender
  m.sender.check
  checkAll m.addressees
  if m.addressees.all Address.isEmpty then throw .missingRecipients
  if m.hasContent then pure () else throw .missingBody

end Message
end Outbox
