import Outbox.Charset.Grid
import Outbox.Charset.Jis
import Outbox.Charset.JisSupplement

/-!
# Outbox.Charset.Japanese — Shift_JIS, EUC-JP and ISO-2022-JP

Three ways to write the grid of JIS X 0208. Shift_JIS folds two rows into one, EUC-JP sets
the high bit of both octets, and ISO-2022-JP has seven bits and escape sequences that say
what the octets after them mean.
-/

namespace Outbox.Charset

/-- A katakana of half the width by its octet. -/
def halfKatakana (b : UInt8) : Char := Char.ofNat (0xFF61 + (b.toNat - 0xA1))

/-- The character of a number in Shift_JIS, where there is room for private use between the
grid and its extension. -/
def shiftJisChar? (n : Nat) : Option Char :=
  if n < 8836 then cell? jis (n / 94) (n % 94)
  else if n < 10716 then some (Char.ofNat (0xE000 + (n - 8836)))
  else cell? jisExtension (n / 94 - 114) (n % 94)

/-- The character of two octets of Shift_JIS. -/
def shiftJisPair? (a b : UInt8) : Option Char :=
  if 0x40 ≤ b ∧ b ≤ 0xFC ∧ b ≠ 0x7F then
    shiftJisChar? ((a.toNat - (if a < 0xA0 then 0x81 else 0xC1)) * 188 +
      (b.toNat - (if b < 0x7F then 0x40 else 0x41)))
  else none

/-- Reads a character of Shift_JIS. -/
def nextShiftJis (a : UInt8) (octets : Octets) : List Char × Nat :=
  if a = 0x80 then ([Char.ofNat 0x80], 0)
  else if 0xA1 ≤ a ∧ a ≤ 0xDF then ([halfKatakana a], 0)
  else if a = 0xA0 ∨ 0xFD ≤ a then ([Utf8.replacement], 0)
  else
    match octets with
    | [] => ([Utf8.replacement], 0)
    | b :: _ => pair ((shiftJisPair? a b).map ([·])) b

/-- Reads a character of EUC-JP. -/
def nextEucJp (a : UInt8) (octets : Octets) : List Char × Nat :=
  match octets with
  | [] => ([Utf8.replacement], 0)
  | b :: more =>
    if a = 0x8E then pair (if 0xA1 ≤ b ∧ b ≤ 0xDF then some [halfKatakana b] else none) b
    else if a = 0x8F && isUpperIndex b then
      match more with
      | [] => ([Utf8.replacement], 1)
      | c :: _ =>
        let (text, used) := pair ((upperCell? jisSupplement b c).map ([·])) c
        (text, used + 1)
    else if a = 0x8F || isUpperIndex a then pair ((upperCell? jis a b).map ([·])) b
    else ([Utf8.replacement], 0)

/-- What octets mean in ISO-2022-JP. -/
inductive JisMode where
  | ascii
  /-- ASCII with a yen sign and an overline. -/
  | roman
  | katakana
  /-- Pairs that count rows and columns of the grid. -/
  | grid
deriving DecidableEq, Repr

/-- The mode that an escape sequence names, without the escape before it. -/
def jisMode? : Octets → Option JisMode
  | 40 :: 66 :: _ => some .ascii
  | 40 :: 74 :: _ => some .roman
  | 40 :: 73 :: _ => some .katakana
  | 36 :: 64 :: _ => some .grid
  | 36 :: 66 :: _ => some .grid
  | _ => none

/-- The character of one octet in a mode. -/
def jisSingle? (mode : JisMode) (a : UInt8) : Option Char :=
  match mode with
  | .ascii => if a < 0x80 ∧ a ≠ 14 ∧ a ≠ 15 then some (Char.ofNat a.toNat) else none
  | .roman =>
    if a = 0x5C then some '¥'
    else if a = 0x7E then some '‾'
    else if a < 0x80 ∧ a ≠ 14 ∧ a ≠ 15 then some (Char.ofNat a.toNat)
    else none
  | .katakana => if 0x21 ≤ a ∧ a ≤ 0x5F then some (halfKatakana (a + 0x80)) else none
  | .grid => none

/-- Whether an octet counts rows or columns of a grid in the lower half. -/
def isLowerIndex (b : UInt8) : Bool := 0x21 ≤ b && b ≤ 0x7E

/-- Reads octets of ISO-2022-JP in a mode. A change of the mode that follows another one
without a character between them is replaced; `changed` says whether there was one. -/
def readIso2022Jp (mode : JisMode) (changed : Bool) : Octets → List Char
  | [] => []
  | 27 :: octets =>
    match jisMode? octets with
    | some mode =>
      (if changed then [Utf8.replacement] else []) ++ readIso2022Jp mode true (octets.drop 2)
    | none => Utf8.replacement :: readIso2022Jp mode false octets
  | a :: octets =>
    if mode = .grid && isLowerIndex a then
      match octets with
      | [] => [Utf8.replacement]
      | b :: more =>
        if b = 27 then Utf8.replacement :: readIso2022Jp mode false (b :: more)
        else
          let c? := if isLowerIndex b then cell? jis (a.toNat - 0x21) (b.toNat - 0x21) else none
          c?.getD Utf8.replacement :: readIso2022Jp mode false more
    else (jisSingle? mode a).getD Utf8.replacement :: readIso2022Jp mode false octets
termination_by octets => octets.length
decreasing_by all_goals (simp only [List.length_cons, List.length_drop]; omega)

end Outbox.Charset
