import Outbox.Octets
import Outbox.Text.Classes

/-!
# Outbox.Mime.Field — writing a header field

A field is written on one line if it fits, and otherwise as its words, separated
by single spaces and folded before a word that would pass the limit. A word that
is longer than a line stands alone on one. Line breaks in a value are dropped, so
no value can begin another field.
-/

namespace Outbox.Mime

/-- The longest line of a header, in octets, that is written without need. -/
abbrev lineLimit : Nat := 78

/-- The words of a text, separated by ASCII white space; `current` is the word that
is being read, backwards. -/
def wordsFrom (current : List Char) : List Char → List (List Char)
  | [] => if current.isEmpty then [] else [current.reverse]
  | c :: rest =>
    if Text.isAsciiWhite c then
      if current.isEmpty then wordsFrom [] rest else current.reverse :: wordsFrom [] rest
    else wordsFrom (c :: current) rest

/-- The words of a text. -/
def words (text : List Char) : List (List Char) := wordsFrom [] text

/-- Lays words out after `used` octets of a line. A line is broken before a word only
if it already holds one (`begun`) and the next would pass the limit. -/
def layWords (used : Nat) (begun : Bool) : List (List Char) → List Char
  | [] => []
  | word :: rest =>
    if begun && lineLimit < used + 1 + Text.size word then
      '\r' :: '\n' :: ' ' :: word ++ layWords (1 + Text.size word) true rest
    else
      ' ' :: word ++ layWords (used + 1 + Text.size word) true rest

/-- A header field with its line end. -/
def field (name value : List Char) : List Char :=
  let value := value.filter fun c => !Text.isLineBreak c
  let body :=
    if Text.size name + 2 + Text.size value ≤ lineLimit then ' ' :: value
    else layWords (Text.size name + 1) false (words value)
  name ++ (':' :: body) ++ ['\r', '\n']

/-- The octets of a header field. -/
def fieldOctets (name value : String) : Octets := Octets.ofChars (field name.toList value.toList)

end Outbox.Mime
