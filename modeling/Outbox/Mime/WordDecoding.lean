import Outbox.Charset
import Outbox.Mime.EncodedWord

/-!
# Outbox.Mime.WordDecoding — reading encoded words

A reader is lenient where a writer is strict: the charset may be followed by a
language, the base64 may hold blanks and need not be whole, and octets that are no
text of the charset are replaced. What is no encoded word is left alone.

`encodedWord?` reads one word that begins at a given place and says how many octets
it takes.
-/

namespace Outbox.Mime

/-- Prepends an octet to a reading and counts `used` octets more. -/
def Reading.push (used : Nat) (octets : Octets) :
    Option (Octets × Nat) → Option (Octets × Nat) :=
  Option.map fun (more, n) => (octets ++ more, n + used)

/-! ## The two encodings -/

/-- The value of a hexadecimal digit. -/
def hexValue? (b : UInt8) : Option UInt8 :=
  if 48 ≤ b ∧ b ≤ 57 then some (b - 48)
  else if 65 ≤ b ∧ b ≤ 70 then some (b - 55)
  else if 97 ≤ b ∧ b ≤ 102 then some (b - 87)
  else none

/-- How far a reader is in the hexadecimal spelling of an octet. -/
inductive HexPlace where
  | outside
  | atFirst
  | atSecond (high : UInt8)
deriving DecidableEq, Repr

/-- Reads the text of a word in which an equals sign begins the spelling of an octet and an
underscore is a space, up to the end of the word. -/
def readQuoted (place : HexPlace) : Octets → Option (Octets × Nat)
  | 63 :: 61 :: _ => some ([], 2)
  | 61 :: rest => if place = .outside then Reading.push 1 [] (readQuoted .atFirst rest) else none
  | 95 :: rest => Reading.push 1 [Octets.space] (readQuoted place rest)
  | 63 :: rest => Reading.push 1 [63] (readQuoted place rest)
  | 13 :: rest => Reading.push 1 [] (readQuoted place rest)
  | 10 :: _ => none
  | b :: rest =>
    match place with
    | .outside => Reading.push 1 [b] (readQuoted .outside rest)
    | .atFirst =>
      match hexValue? b with
      | some high => Reading.push 1 [] (readQuoted (.atSecond high) rest)
      | none => none
    | .atSecond high =>
      match hexValue? b with
      | some low => Reading.push 1 [high * 16 + low] (readQuoted .outside rest)
      | none => none
  | [] => none

/-- The octets in a group of base64 values that ends early. -/
def flush : List UInt8 → Octets
  | [a] => [a <<< 2]
  | [a, b] => [a <<< 2 ||| b >>> 4]
  | [a, b, c] => [a <<< 2 ||| b >>> 4, b <<< 4 ||| c >>> 2]
  | _ => []

/-- Reads the base64 text of a word up to the end of the word; `group` holds the values of
the group that is being read. Padding ends a group wherever it stands. -/
def readBase64 (group : List UInt8) : Octets → Option (Octets × Nat)
  | 63 :: 61 :: _ => some ([], 2)
  | 61 :: rest => Reading.push 1 (flush group) (readBase64 [] rest)
  | b :: rest =>
    if b = 32 ∨ b = 9 ∨ b = 13 ∨ b = 10 then Reading.push 1 [] (readBase64 group rest)
    else
      match Base64.value? b, group with
      | some d, [a, b, c] =>
        Reading.push 1 [a <<< 2 ||| b >>> 4, b <<< 4 ||| c >>> 2, c <<< 6 ||| d]
          (readBase64 [] rest)
      | some v, group => Reading.push 1 [] (readBase64 (group ++ [v]) rest)
      | none, _ => none
  | [] => none

/-! ## Words -/

/-- The name of a charset, without the language that may follow it. -/
def charsetName : Octets → Octets
  | [] => []
  | b :: rest => b :: rest.takeWhile (· != 42)

/-- Octets of a charset as text. A charset that is not known is read as UTF-8. -/
def decodeCharset (charset octets : Octets) : List Char :=
  let name := charset.map fun b => Char.ofNat b.toNat
  ((Charset.ofName? name).getD .utf8).decode octets

/-- Reads the encoding and the text of a word. -/
def readEncoded : Octets → Option (Octets × Nat)
  | encoding :: 63 :: rest =>
    if encoding = 113 ∨ encoding = 81 then Reading.push 2 [] (readQuoted .outside rest)
    else if encoding = 98 ∨ encoding = 66 then Reading.push 2 [] (readBase64 [] rest)
    else none
  | _ => none

/-- Reads the encoded word at the start of `octets`, if there is one: its text and the
number of its octets. -/
def encodedWord? : Octets → Option (List Char × Nat)
  | 61 :: 63 :: rest =>
    let charset := rest.takeWhile (· != 63)
    if charset.contains Octets.lf || (charsetName charset).length < 2 then none
    else
      (readEncoded (rest.drop (charset.length + 1))).map fun (octets, used) =>
        (decodeCharset (charsetName charset) octets, charset.length + 3 + used)
  | _ => none

end Outbox.Mime
