/-!
# Outbox.Octets — mail as octets

What is sent and received is a list of octets, so that every statement about a
wire format is a statement about a list. This module fixes the few octets that
mail gives a meaning to, the octets of a text, and the two spellings of an octet
in hexadecimal.
-/

namespace Outbox

/-- A sequence of octets, the unit in which mail travels. -/
abbrev Octets := List UInt8

namespace Octets

/-- Carriage return. -/
abbrev cr : UInt8 := 13

/-- Line feed. -/
abbrev lf : UInt8 := 10

/-- Space. -/
abbrev space : UInt8 := 32

/-- Horizontal tab. -/
abbrev tab : UInt8 := 9

/-- The full stop, which leads a line that has to be stuffed. -/
abbrev dot : UInt8 := 46

/-- The end of every line that is sent. -/
abbrev crlf : Octets := [cr, lf]

/-- The UTF-8 octets of a list of characters. -/
def ofChars (text : List Char) : Octets := text.flatMap String.utf8EncodeChar

/-- The UTF-8 octets of a text. -/
def ofString (text : String) : Octets := ofChars text.toList

@[simp] theorem ofChars_nil : ofChars [] = [] := rfl

@[simp] theorem ofChars_append (a b : List Char) :
    ofChars (a ++ b) = ofChars a ++ ofChars b := by
  simp [ofChars]

/-- Whether the octets end with `tail`. -/
def endsWith (octets tail : Octets) : Bool := tail.isSuffixOf octets

/-- A digit of an octet's upper case hexadecimal spelling. -/
def upperHexDigit (n : UInt8) : UInt8 := if n < 10 then 48 + n else 55 + n

/-- The lower case hexadecimal spelling of an octet, always two digits. -/
def hexPair (b : UInt8) : List Char := [Nat.digitChar (b.toNat / 16), Nat.digitChar (b.toNat % 16)]

/-- The lower case hexadecimal spelling of octets. -/
def toHex (octets : Octets) : List Char := octets.flatMap hexPair

end Octets
end Outbox
