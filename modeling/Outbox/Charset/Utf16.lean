import Outbox.Text.Utf8

/-!
# Outbox.Charset.Utf16 — text in units of sixteen bits

Two octets make a unit, in one of two orders. A unit is a character or half of one: a high
half and a low half after it make one character, and a half that stands alone is replaced
by U+FFFD. An octet that is left over is dropped.
-/

namespace Outbox.Charset

/-- The order of the octets of a unit. -/
inductive OctetOrder where
  /-- The less significant octet comes first. -/
  | little
  /-- The more significant octet comes first. -/
  | big
deriving DecidableEq, Repr

namespace Utf16

/-- The unit that two octets make. -/
def unit (order : OctetOrder) (a b : UInt8) : Nat :=
  match order with
  | .little => b.toNat * 256 + a.toNat
  | .big => a.toNat * 256 + b.toNat

/-- The units of octets. -/
def units (order : OctetOrder) : Octets → List Nat
  | a :: b :: rest => unit order a b :: units order rest
  | _ => []

/-- Whether a unit is the high half of a character. -/
def isHigh (u : Nat) : Bool := 0xD800 ≤ u && u < 0xDC00

/-- Whether a unit is the low half of a character. -/
def isLow (u : Nat) : Bool := 0xDC00 ≤ u && u < 0xE000

/-- Reads units as text. -/
def ofUnits : List Nat → List Char
  | [] => []
  | [u] => [if isHigh u || isLow u then Utf8.replacement else Char.ofNat u]
  | u :: v :: rest =>
    if isHigh u && isLow v then
      Char.ofNat (0x10000 + (u - 0xD800) * 1024 + (v - 0xDC00)) :: ofUnits rest
    else if isHigh u || isLow u then Utf8.replacement :: ofUnits (v :: rest)
    else Char.ofNat u :: ofUnits (v :: rest)

/-- Reads octets as text in a given order. -/
def decode (order : OctetOrder) (octets : Octets) : List Char := ofUnits (units order octets)

/-- Reads octets as text in the order that a mark at their start names, and without one in
the little order. -/
def decodeMarked : Octets → List Char
  | 0xFE :: 0xFF :: rest => decode .big rest
  | 0xFF :: 0xFE :: rest => decode .little rest
  | octets => decode .little octets

end Utf16
end Outbox.Charset
