import Outbox.Charset.Grid
import Outbox.Charset.Ksx

/-!
# Outbox.Charset.Korean — EUC-KR

The grid of KS X 1001 in the upper half of both octets. The syllables that it has no room for
follow elsewhere in code point order.
-/

namespace Outbox.Charset

/-- The syllables that are not in the grid. -/
def moreSyllables : Array Char := complement ksx 0xAC00 0xD7A3

/-- The place of a second octet among those that are used outside the grid. -/
def syllableColumn? (b : UInt8) : Option Nat :=
  if 0x41 ≤ b ∧ b ≤ 0x5A then some (b.toNat - 0x41)
  else if 0x61 ≤ b ∧ b ≤ 0x7A then some (b.toNat - 0x61 + 26)
  else if 0x81 ≤ b ∧ b ≤ 0xFE then some (b.toNat - 0x81 + 52)
  else none

/-- The character of two octets of EUC-KR. -/
def eucKrPair? (a b : UInt8) : Option Char :=
  if isUpperIndex a && isUpperIndex b then upperCell? ksx a b
  else
    (syllableColumn? b).bind fun column =>
      if a < 0xA1 then moreSyllables[(a.toNat - 0x81) * 178 + column]?
      else moreSyllables[32 * 178 + (a.toNat - 0xA1) * 84 + column]?

/-- Reads a character of EUC-KR. -/
def nextEucKr (a : UInt8) (octets : Octets) : List Char × Nat :=
  match octets with
  | [] => ([Utf8.replacement], 0)
  | b :: _ =>
    if a = 0x80 ∨ a = 0xFF then ([Utf8.replacement], 0) else pair ((eucKrPair? a b).map ([·])) b

end Outbox.Charset
