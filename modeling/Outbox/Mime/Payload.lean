import Outbox.Dkim.Signature
import Outbox.Message
import Outbox.Mime.Base64Lines
import Outbox.Mime.Field
import Outbox.Mime.QuotedPrintable
import Outbox.Time.Date

/-!
# Outbox.Mime.Payload — from a message to octets

The payload of a message is its header fields, an empty line and its encoded body.

1. `finalHeaders` copies the caller's fields and sets those that are derived from the
   message.
2. `compose` encodes the body in one of four shapes and sets the fields that describe
   it.
3. `Composed.sign` puts a signature over the result at the top.
4. `payload` does all of it for a message that can be sent.

The clock and everything random enter as an `Occasion`, so a payload is a function of
its inputs.
-/

namespace Outbox.Mime

/-- What a payload takes from its time and from chance. -/
structure Occasion where
  /-- The date of the message, in seconds since the start of 1970. -/
  date : Nat
  /-- The time in the message identifier, in nanoseconds since the start of 1970. -/
  idTime : Nat
  /-- The random octets in the message identifier. -/
  idOctets : Octets
  /-- The number in the boundary of the outer multipart body. -/
  boundary₁ : BitVec 128
  /-- The number in the boundary of the multipart body inside it. -/
  boundary₂ : BitVec 128
  /-- The time of the signature, in seconds since the start of 1970. -/
  signed : Nat

/-- What is added to a message on its way out. -/
structure Finishing where
  /-- The value of the `List-Unsubscribe` field. -/
  listUnsubscribe : Option String
  /-- How the message is signed. -/
  dkim : Option Dkim.Settings
deriving DecidableEq, Repr

/-! ## Boundaries -/

/-- The digits of a number in lower case hexadecimal, at least as many as `width`. -/
def hexDigits (width n : Nat) : List Char :=
  let digits := Nat.toDigits 16 n
  List.replicate (width - digits.length) '0' ++ digits

/-- The boundary with a given number. No encoded line begins like one, as an equals sign
is never followed by an underscore there. -/
def boundary (n : BitVec 128) : String := String.ofList ('=' :: '_' :: hexDigits 32 n.toNat)

/-- The line before a part. -/
def delimiter (boundary : String) : Octets := Octets.ofString ("--" ++ boundary) ++ Octets.crlf

/-- The line after the last part. -/
def closing (boundary : String) : Octets :=
  Octets.ofString ("--" ++ boundary ++ "--") ++ Octets.crlf

/-! ## Parts -/

/-- The type of a plain text body. -/
def plainType : String := "text/plain; charset=\"UTF-8\""

/-- The type of an HTML body. -/
def htmlType : String := "text/html; charset=\"UTF-8\""

/-- The type of a multipart body. -/
def multipartType (kind boundary : String) : String :=
  "multipart/" ++ kind ++ "; boundary=\"" ++ boundary ++ "\""

/-- A block of header fields. -/
def fieldBlock (fields : List Field) : Octets := fields.flatMap fun e => fieldOctets e.1 e.2

/-- A block of header fields, an empty line and a content. -/
def part (fields : List Field) (content : Octets) : Octets :=
  fieldBlock fields ++ Octets.crlf ++ content

/-- A body in quoted-printable, as a part. -/
def textPart (type : String) (body : Octets) : Octets :=
  part [("Content-Type", type), ("Content-Transfer-Encoding", "quoted-printable")]
    (quotedPrintable body)

/-- The bodies of a message as the parts of an alternative, the plain one first. -/
def alternative (boundary : String) (text html : Option Octets) : Octets :=
  (text.toList.map (textPart plainType) ++ html.toList.map (textPart htmlType)).flatMap
    (delimiter boundary ++ ·) ++ closing boundary

/-- The type of an attachment, which is unknown unless it is given. -/
def attachmentType (a : Attachment) : String :=
  match a.contentType.map Text.trimmed with
  | none => "application/octet-stream"
  | some type => if type.isEmpty then "application/octet-stream" else type

/-- The header fields of an attachment. -/
def attachmentFields (a : Attachment) : List Field :=
  let disposition (kind : String) : Field :=
    ("Content-Disposition",
      kind ++ "; filename=" ++ String.ofList (quotedFilename a.filename.toList))
  [("Content-Type", attachmentType a), ("Content-Transfer-Encoding", "base64")] ++
  match a.contentId with
  | some id =>
    [disposition "inline", ("Content-ID", String.ofList ('<' :: headerText id.toList ++ ['>']))]
  | none => [disposition "attachment"]

/-- An attachment as a part. -/
def attachmentPart (a : Attachment) : Result Octets :=
  a.source.readAll.map fun content => part (attachmentFields a) (base64Lines content)

/-! ## The header -/

/-- The domain of a mailbox, which is what follows the last at sign. -/
def domainOf (mailbox : String) : String :=
  let text := mailbox.toList
  let domain := (text.reverse.takeWhile (· != '@')).reverse
  if text.contains '@' && !domain.isEmpty then String.ofList domain else "localhost"

/-- A message identifier from a time, from random octets and from the sender's domain. -/
def messageId (o : Occasion) (sender : Address) : String :=
  String.ofList ('<' :: hexDigits 1 o.idTime ++ Octets.toHex o.idOctets ++ ['@'])
    ++ domainOf sender.bare ++ ">"

/-- Sets a field unless its value is empty. -/
def insertUnlessEmpty (h : Headers) (name value : String) : Headers :=
  if value.isEmpty then h else h.insert name value

/-- Free text as a header value. -/
def headerString (text : String) : String := String.ofList (headerText text.toList)

/-- The fields of a message: those of the caller without blind copies, and the ones that
are derived from the message in place of any of the same name. -/
def finalHeaders (m : Message) (f : Finishing) (o : Occasion) : Headers :=
  let h := m.headers.erase "Bcc"
  let h := match f.listUnsubscribe with
    | some value => if Text.isBlank value then h else h.insert "List-Unsubscribe" value
    | none => h
  let h := h.insert "From" m.sender.display
  let h := insertUnlessEmpty h "To" (Address.displayList m.direct)
  let h := insertUnlessEmpty h "Cc" (Address.displayList m.copies)
  let h := insertUnlessEmpty h "Subject" (headerString m.subject)
  let h := h.insert "Date" (Date.render o.date)
  let h := h.insert "MIME-Version" "1.0"
  let h := insertUnlessEmpty h "X-Tracking-ID" (headerString (m.trackingId.getD ""))
  if h.contains "Message-ID" then h else h.insert "Message-ID" (messageId o m.sender)

/-! ## The body -/

/-- The final fields of a message and its encoded body. -/
structure Composed where
  headers : Headers
  body : Octets
deriving DecidableEq, Repr

/-- Marks a header as that of a multipart body, which has no encoding of its own. -/
def markMultipart (h : Headers) (kind boundary : String) : Headers :=
  (h.erase "Content-Transfer-Encoding").insert "Content-Type" (multipartType kind boundary)

/-- Marks a header as that of a single body in quoted-printable. -/
def markText (h : Headers) (type : String) : Headers :=
  (h.insert "Content-Type" type).insert "Content-Transfer-Encoding" "quoted-printable"

/-- The bodies of a message as one part next to its attachments, if there are any. -/
def bodyPart (outer inner : String) (text html : Option Octets) : Octets :=
  if text.isSome || html.isSome then
    delimiter outer ++ part [("Content-Type", multipartType "alternative" inner)]
      (alternative inner text html)
  else []

/-- Encodes the body of a message: with attachments as a mixed body, with both a plain
and an HTML body as an alternative, and else as a single one. -/
def compose (m : Message) (f : Finishing) (o : Occasion) : Result Composed :=
  let h := finalHeaders m f o
  let outer := boundary o.boundary₁
  let inner := boundary o.boundary₂
  if m.attachments.isEmpty then
    match m.text?, m.html? with
    | some text, some html =>
      .ok ⟨markMultipart h "alternative" outer, alternative outer (some text) (some html)⟩
    | none, some html => .ok ⟨markText h htmlType, quotedPrintable html⟩
    | text, none => .ok ⟨markText h plainType, quotedPrintable (text.getD [])⟩
  else
    (m.attachments.mapM attachmentPart).map fun parts =>
      ⟨markMultipart h "mixed" outer,
        bodyPart outer inner m.text? m.html? ++ parts.flatMap (delimiter outer ++ ·)
          ++ closing outer⟩

namespace Composed

/-- Puts a signature over the fields and the body at the top. -/
def sign (c : Composed) (dkim : Option Dkim.Settings) (time : Nat) : Result Composed :=
  match dkim with
  | none => .ok c
  | some settings =>
    match settings.signAt c.headers c.body time with
    | .error e => .error (.signing e)
    | .ok signature =>
      .ok { c with headers := c.headers.insertFirst Dkim.Signature.fieldName signature.render }

/-- The octets that are sent. -/
def octets (c : Composed) : Octets := part c.headers.entries c.body

end Composed

/-- The payload of a message that can be sent. -/
def payload (m : Message) (f : Finishing) (o : Occasion) : Result Octets := do
  let composed ← compose m f o
  let signed ← composed.sign f.dkim o.signed
  pure signed.octets

end Outbox.Mime
