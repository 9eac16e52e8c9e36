/-!
# Outbox.Smtp.ServerName — the name a server is known by

The name for which a certificate is checked: a host name or the address of a host.
-/

namespace Outbox.Smtp.ServerName

/-- The parts of a text between a separator. -/
def splitAt (sep : Char) : List Char → List (List Char)
  | [] => [[]]
  | c :: rest =>
    match splitAt sep rest with
    | [] => [[c]]
    | part :: parts => if c = sep then [] :: part :: parts else (c :: part) :: parts

/-- Whether a character may stand in a label of a host name. -/
def isLabelChar (c : Char) : Bool := c.isAlphanum || c == '-' || c == '_'

/-- Whether a text is a label of a host name. -/
def isLabel (label : List Char) : Bool :=
  !label.isEmpty && label.length ≤ 63 && label.all isLabelChar &&
    label.head? != some '-' && label.getLast? != some '-'

/-- Whether a text is a host name: labels between dots, perhaps with a dot at the end, of
which the last is no number. -/
def isHost (name : List Char) : Bool :=
  let labels := splitAt '.' name
  let labels := if labels.getLast? = some [] then labels.dropLast else labels
  name.length ≤ 253 && !labels.isEmpty && labels.all isLabel &&
    ((labels.getLast?).map fun last => !last.all Char.isDigit).getD false

/-- Whether a text is a number below 256 without leading zeros. -/
def isByte (text : List Char) : Bool :=
  !text.isEmpty && text.length ≤ 3 && text.all Char.isDigit &&
    (text.head? != some '0' || text.length == 1) &&
    decide ((text.foldl (fun n c => n * 10 + (c.toNat - 48)) 0) < 256)

/-- Whether a text is an address of four numbers. -/
def isAddress4 (text : List Char) : Bool :=
  let parts := splitAt '.' text
  parts.length == 4 && parts.all isByte

/-- Whether a character is a hexadecimal digit. -/
def isHexDigit (c : Char) : Bool :=
  c.isDigit || ('a' ≤ c && c ≤ 'f') || ('A' ≤ c && c ≤ 'F')

/-- How many groups of sixteen bits a part of an address stands for, if it is one. An
address of four numbers may stand for the last two. -/
def groupsOf? (isLast : Bool) (part : List Char) : Option Nat :=
  if !part.isEmpty && part.length ≤ 4 && part.all isHexDigit then some 1
  else if isLast && isAddress4 part then some 2
  else none

/-- How many groups the parts of an address stand for, if all of them do. -/
def countGroups? (atEnd : Bool) : List (List Char) → Option Nat
  | [] => some 0
  | part :: rest =>
    match groupsOf? (atEnd && rest.isEmpty) part, countGroups? atEnd rest with
    | some m, some n => some (m + n)
    | _, _ => none

/-- The text before and after the first two colons in a row, if there are any. -/
def cutGap : List Char → Option (List Char × List Char)
  | ':' :: ':' :: rest => some ([], rest)
  | c :: rest => (cutGap rest).map fun (before, after) => (c :: before, after)
  | [] => none

/-- The parts of an address between colons; nothing has none. -/
def partsOf (text : List Char) : List (List Char) :=
  if text.isEmpty then [] else splitAt ':' text

/-- Whether a text is an address of eight groups, of which a run of zeros may be left
out once. -/
def isAddress6 (text : List Char) : Bool :=
  match cutGap text with
  | none => countGroups? true (partsOf text) == some 8
  | some (before, after) =>
    match countGroups? false (partsOf before), countGroups? true (partsOf after) with
    | some m, some n => m + n ≤ 7
    | _, _ => false

/-- Whether a text can be the name of a server. -/
def isValid (name : String) : Bool :=
  let text := name.toList
  isHost text || isAddress4 text || isAddress6 text

end Outbox.Smtp.ServerName
