import Outbox.Base64
import Outbox.Text.Classes

/-!
# Outbox.Dkim.Pem — keys as text

A key is kept as text between a `BEGIN` and an `END` line. The label of the first
`BEGIN` line says what kind of key it is; the reading itself is strict: lines of
exactly 64 characters but for the last, no header fields, nothing after the `END` line,
and no blank lines but for one after the last.
-/

namespace Outbox.Dkim.Pem

/-- What a line that begins a key starts with. -/
def beginMark : List Char := "-----BEGIN ".toList

/-- What a line that ends a key starts with. -/
def endMark : List Char := "-----END ".toList

/-- What both lines end with. -/
def dashes : List Char := "-----".toList

/-- The text without a given end. -/
def stripSuffix? (suffix text : List Char) : Option (List Char) :=
  if suffix.isSuffixOf text then some (text.take (text.length - suffix.length)) else none

/-- The text without a given beginning. -/
def stripPrefix? (start text : List Char) : Option (List Char) :=
  if start.isPrefixOf text then some (text.drop start.length) else none

/-- The lines of a text; a line ends with a line feed. -/
def lines : List Char → List (List Char)
  | [] => [[]]
  | c :: rest =>
    match lines rest with
    | [] => [[c]]
    | line :: more => if c = '\n' then [] :: line :: more else (c :: line) :: more

/-- The label of a line that begins a key. -/
def lineLabel? (line : List Char) : Option (List Char) :=
  (stripPrefix? beginMark (Text.trim line)).bind (stripSuffix? dashes)

/-- The label of the first line that begins a key. -/
def label? (text : List Char) : Option (List Char) := (lines text).findSome? lineLabel?

/-- The text after the first `BEGIN` mark that starts a line. -/
def afterBegin : List Char → Option (List Char)
  | [] => none
  | c :: rest =>
    if c = '\x00' then none
    else if c = '\n' then
      match stripPrefix? beginMark rest with
      | some body => some body
      | none => afterBegin rest
    else afterBegin rest

/-- The text after the line end that it begins with. -/
def afterLineEnd : List Char → Option (List Char)
  | '\r' :: '\n' :: rest => some rest
  | '\r' :: rest => some rest
  | '\n' :: rest => some rest
  | _ => none

/-- The text before the line end that it ends with. -/
def beforeLineEnd (text : List Char) : Option (List Char) :=
  match text.reverse with
  | '\n' :: '\r' :: rest => some rest.reverse
  | '\n' :: rest => some rest.reverse
  | '\r' :: rest => some rest.reverse
  | _ => none

/-- The width of every line but the last. -/
abbrev width : Nat := 64

theorem afterLineEnd_length {text rest : List Char} (h : afterLineEnd text = some rest) :
    rest.length < text.length := by
  unfold afterLineEnd at h
  split at h
  next => obtain rfl := Option.some.inj h; simp only [List.length_cons]; omega
  next => obtain rfl := Option.some.inj h; simp only [List.length_cons]; omega
  next => obtain rfl := Option.some.inj h; simp only [List.length_cons]; omega
  next => simp at h

/-- The characters of the last line, which may have an end of its own but is not blank. -/
def lastLine (text : List Char) : Option (List Char) :=
  let line := (beforeLineEnd text).getD text
  if line.isEmpty && !text.isEmpty then none else some line

/-- The characters of the lines, put together. -/
def joinLines (text : List Char) : Option (List Char) :=
  if _h : text.length ≤ width then lastLine text
  else
    match _hr : afterLineEnd (text.drop width) with
    | none => none
    | some rest => (joinLines rest).map (text.take width ++ ·)
termination_by text.length
decreasing_by
  have := afterLineEnd_length _hr
  simp only [List.length_drop] at this
  omega

/-- The octets between the lines that begin and end a key with a given label. -/
def decode? (label text : List Char) : Option Octets := do
  let body ← afterBegin ('\n' :: text)
  let body ← stripPrefix? (label ++ dashes) body
  let body ← afterLineEnd body
  let body ← stripSuffix? (endMark ++ label ++ dashes) body
  let body ← beforeLineEnd body
  let symbols ← joinLines body
  Base64.decodeText symbols

end Outbox.Dkim.Pem
