import Outbox.Error
import Outbox.Mime.EncodedWord
import Outbox.Text.Quote

/-!
# Outbox.Address — mailboxes with display names

An address is what the caller wrote; nothing is checked when it is made. `check` says
whether it can stand in an SMTP command and in a header field, and `display` is its
form in a header.
-/

namespace Outbox

/-- A mailbox with an optional display name. -/
structure Address where
  name : Option String
  mailbox : String
deriving DecidableEq, Repr

/-- Whether a mailbox can stand between the angle brackets of a command. -/
def isValidMailbox (mailbox : String) : Bool :=
  mailbox.toList.all fun c => !(Text.isControl c || c == '<' || c == '>')

namespace Address

/-- A mailbox without a name. -/
def ofMailbox (mailbox : String) : Address := ⟨none, mailbox⟩

/-- A mailbox with a name. A blank name is none. -/
def named (name mailbox : String) : Address :=
  ⟨if Text.isBlank name then none else some name, mailbox⟩

/-- Whether there is no mailbox. -/
def isEmpty (a : Address) : Bool := Text.isBlank a.mailbox

/-- The mailbox as it goes into a command. -/
def bare (a : Address) : String := Text.trimmed a.mailbox

/-- Refuses an address that could break out of a command line or a header field. -/
def check (a : Address) : Result Unit :=
  let nameOk := match a.name with
    | none => true
    | some name => !name.toList.any Text.isLineBreak
  if nameOk && isValidMailbox a.bare then .ok ()
  else .error (.invalidAddress (Text.escaped a.mailbox))

/-- The mailbox between angle brackets after a phrase. -/
def withPhrase (phrase : List Char) (mailbox : String) : String :=
  String.ofList (phrase ++ " <".toList ++ mailbox.toList ++ ['>'])

/-- An address as it stands in a header. -/
def display (a : Address) : String :=
  match a.name with
  | none => a.mailbox
  | some name =>
    let name := name.toList
    withPhrase (if name.all Text.isAscii then Mime.quotedString name else Mime.encodedWords name)
      a.mailbox

/-- The addresses of a field, without those that have no mailbox. -/
def displayList (addresses : List Address) : String :=
  ", ".intercalate ((addresses.filter fun a => !a.isEmpty).map display)

end Address
end Outbox
