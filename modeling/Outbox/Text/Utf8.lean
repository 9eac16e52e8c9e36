import Outbox.Octets

/-!
# Outbox.Text.Utf8 — reading octets as text

Octets that come from a server are read as UTF-8. Where they are not UTF-8, each
longest piece that could still have begun a character, or else the single octet,
is replaced by U+FFFD.
-/

namespace Outbox.Utf8

/-- The character that stands for octets that are no text. -/
abbrev replacement : Char := '\uFFFD'

/-- What the first octet of a longer character asks for: how many octets the
character has, and the range of the second one. -/
def lead (a : UInt8) : Option (Nat × UInt8 × UInt8) :=
  if 0xC2 ≤ a ∧ a ≤ 0xDF then some (2, 0x80, 0xBF)
  else if a = 0xE0 then some (3, 0xA0, 0xBF)
  else if a = 0xED then some (3, 0x80, 0x9F)
  else if 0xE1 ≤ a ∧ a ≤ 0xEF then some (3, 0x80, 0xBF)
  else if a = 0xF0 then some (4, 0x90, 0xBF)
  else if 0xF1 ≤ a ∧ a ≤ 0xF3 then some (4, 0x80, 0xBF)
  else if a = 0xF4 then some (4, 0x80, 0x8F)
  else none

/-- Whether an octet continues a character after its second octet. -/
def isTail (b : UInt8) : Bool := 0x80 ≤ b && b ≤ 0xBF

/-- The six bits that a continuing octet carries. -/
def tailBits (b : UInt8) : Nat := b.toNat % 64

/-- The character that begins with `a`, and how many of the octets after `a`
belong to it. -/
def charAt (a : UInt8) (rest : Octets) : Char × Nat :=
  match lead a, rest with
  | some (width, low, high), b :: more =>
    if low ≤ b ∧ b ≤ high then
      let two := tailBits b
      match width, more with
      | 2, _ => (Char.ofNat (a.toNat % 32 * 64 + two), 1)
      | 3, c :: _ =>
        if isTail c then (Char.ofNat ((a.toNat % 16 * 64 + two) * 64 + tailBits c), 2)
        else (replacement, 1)
      | 4, c :: d :: _ =>
        if isTail c then
          if isTail d then
            (Char.ofNat (((a.toNat % 8 * 64 + two) * 64 + tailBits c) * 64 + tailBits d), 3)
          else (replacement, 2)
        else (replacement, 1)
      | 4, [c] => (replacement, if isTail c then 2 else 1)
      | _, _ => (replacement, 1)
    else (replacement, 0)
  | _, _ => (replacement, 0)

/-- Reads octets as text. -/
def decode : Octets → List Char
  | [] => []
  | a :: rest =>
    if a < 0x80 then Char.ofNat a.toNat :: decode rest
    else
      let (c, used) := charAt a rest
      c :: decode (rest.drop used)
termination_by octets => octets.length
decreasing_by all_goals (simp only [List.length_cons, List.length_drop]; omega)

/-- Reads octets as a text. -/
def decodeString (octets : Octets) : String := String.ofList (decode octets)

end Outbox.Utf8
