import Outbox.Base64
import Outbox.Text.Classes

/-!
# Outbox.Mime.EncodedWord — free text in a header

Header values are ASCII. Text that is not goes into encoded words: each takes
whole characters of at most 45 octets, which keeps the word within 75 characters,
and words are separated by a space, which a reader drops again.
-/

namespace Outbox.Mime

/-- The most octets of text that one encoded word takes. -/
abbrev wordLimit : Nat := 45

/-- Cuts a text into pieces of at most `wordLimit` octets, each as long as it can
be; `current` is the piece that is being filled, backwards, and `used` its size. -/
def piecesFrom (current : List Char) (used : Nat) : List Char → List (List Char)
  | [] => if current.isEmpty then [] else [current.reverse]
  | c :: rest =>
    if used + c.utf8Size ≤ wordLimit then piecesFrom (c :: current) (used + c.utf8Size) rest
    else current.reverse :: piecesFrom [c] c.utf8Size rest

/-- Cuts a text into pieces for encoded words. -/
def pieces (text : List Char) : List (List Char) := piecesFrom [] 0 text

/-- One encoded word. -/
def encodedWord (piece : List Char) : List Char :=
  "=?UTF-8?B?".toList ++ Base64.encodeText (Octets.ofChars piece) ++ "?=".toList

/-- A text as encoded words. -/
def encodedWords (text : List Char) : List Char :=
  [' '].intercalate ((pieces text).map encodedWord)

/-- Free text as it can stand in a header: without control characters, and in encoded
words unless it is ASCII. -/
def headerText (text : List Char) : List Char :=
  let visible := text.filter fun c => !Text.isControl c
  if visible.all Text.isAscii then visible else encodedWords visible

/-- Puts a backslash before every quotation mark and backslash. -/
def escapeQuotes (text : List Char) : List Char :=
  text.flatMap fun c => if c == '"' || c == '\\' then ['\\', c] else [c]

/-- A text as a quoted string. -/
def quotedString (text : List Char) : List Char := ('"' :: escapeQuotes text) ++ ['"']

/-- A file name as a quoted string. -/
def quotedFilename (name : List Char) : List Char := quotedString (headerText name)

end Outbox.Mime
