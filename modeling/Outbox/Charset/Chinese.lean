import Outbox.Charset.Big5
import Outbox.Charset.Gb
import Outbox.Charset.Grid

/-!
# Outbox.Charset.Chinese — GB 18030 and Big5

GB 18030 has the grid of GB 2312 in the upper half of both octets. The other unified ideographs
follow around it in code point order, and all other characters have codes of four octets.
-/

namespace Outbox.Charset

/-- The unified ideographs that are not in the grid of GB 18030. -/
def moreIdeographs : Array Char := complement gb 0x4E00 0x9FA5

/-- The number of columns of GB 18030 that are not in the grid. -/
abbrev gbMargin : Nat := 96

/-- The character of a number among the ideographs outside the grid. -/
def gbIdeograph? (n : Nat) : Option Char :=
  if n < moreIdeographs.size then moreIdeographs[n]?
  else cell? gbIdeographs ((n - moreIdeographs.size) / 51) ((n - moreIdeographs.size) % 51)

/-- The character for private use of two octets of GB 18030. Three areas are set apart for
them, with one space in the first, and some cells among the signs. -/
def gbPrivate? (a b : UInt8) : Option Char :=
  let column := b.toNat - (if b < 0x7F then 0x40 else 0x41)
  let code := a.toNat * 256 + b.toNat
  if a = 0xA3 ∧ b = 0xA0 then some '\u3000'
  else if 0xA1 ≤ a ∧ a ≤ 0xA7 ∧ column < gbMargin then
    some (Char.ofNat (0xE4C6 + (a.toNat - 0xA1) * gbMargin + column))
  else if 0xAA ≤ a ∧ a ≤ 0xAF ∧ isUpperIndex b then
    some (Char.ofNat (0xE000 + (a.toNat - 0xAA) * 94 + (b.toNat - 0xA1)))
  else if 0xF8 ≤ a ∧ a ≤ 0xFE ∧ isUpperIndex b then
    some (Char.ofNat (0xE234 + (a.toNat - 0xF8) * 94 + (b.toNat - 0xA1)))
  else
    (gbPrivate.find? fun (first, last, _) => first ≤ code && code ≤ last).map
      fun (first, _, start) => Char.ofNat (start + (code - first))

/-- The character of two octets of GB 18030. -/
def gbPair? (a b : UInt8) : Option Char :=
  let column := b.toNat - (if b < 0x7F then 0x40 else 0x41)
  if b < 0x40 ∨ b = 0x7F ∨ b = 0xFF then none
  else
    gbPrivate? a b <|>
      if isUpperIndex a && isUpperIndex b then upperCell? gb a b
      else if a < 0xA1 then gbIdeograph? ((a.toNat - 0x81) * 190 + column)
      else if a = 0xA8 ∨ a = 0xA9 then cell? gbSigns (a.toNat - 0xA8) column
      else if 0xAA ≤ a then gbIdeograph? (32 * 190 + (a.toNat - 0xAA) * gbMargin + column)
      else none

/-- The character of a number among the codes of four octets. -/
def gbFour? (n : Nat) : Option Char :=
  if n < 39420 then
    (gbRuns.reverse.find? fun run => decide (run.1 ≤ n)).map fun (start, code) =>
      Char.ofNat (code + (n - start))
  else if 189000 ≤ n ∧ n ≤ 1237575 then some (Char.ofNat (0x10000 + (n - 189000)))
  else none

/-- Whether an octet is a digit. -/
def isDigit (b : UInt8) : Bool := 0x30 ≤ b && b ≤ 0x39

/-- Reads a character of GB 18030. -/
def nextGb (a : UInt8) (octets : Octets) : List Char × Nat :=
  if a = 0x80 then (['€'], 0)
  else if a = 0xFF then ([Utf8.replacement], 0)
  else
    match octets with
    | [] => ([Utf8.replacement], 0)
    | b :: more =>
      if isDigit b then
        match more with
        | [] => ([Utf8.replacement], 1)
        | c :: more =>
          if c < 0x81 ∨ c = 0xFF then ([Utf8.replacement], 0)
          else
            match more with
            | [] => ([Utf8.replacement], 2)
            | d :: _ =>
              if isDigit d then
                let n := ((a.toNat - 0x81) * 10 + (b.toNat - 0x30)) * 126 + (c.toNat - 0x81)
                let n := n * 10 + (d.toNat - 0x30)
                ([(gbFour? n).getD Utf8.replacement], 3)
              else ([Utf8.replacement], 0)
      else pair ((gbPair? a b).map ([·])) b

/-- The letters of Big5 that are written as a letter and an accent. -/
def accented? (a b : UInt8) : Option (List Char) :=
  if a ≠ 0x88 then none
  else if b = 0x62 then some ['Ê', '\u0304']
  else if b = 0x64 then some ['Ê', '\u030C']
  else if b = 0xA3 then some ['ê', '\u0304']
  else if b = 0xA5 then some ['ê', '\u030C']
  else none

/-- The text of two octets of Big5. -/
def big5Pair? (a b : UInt8) : Option (List Char) :=
  let row := 2 * (a.toNat - 0x87)
  if a < 0x87 then none
  else if 0x40 ≤ b ∧ b ≤ 0x7E then
    accented? a b <|> (cell? big5Rows row (b.toNat - 0x40)).map ([·])
  else if isUpperIndex b then
    accented? a b <|> (cell? big5Rows (row + 1) (b.toNat - 0xA1)).map ([·])
  else none

/-- Reads a character of Big5. -/
def nextBig5 (a : UInt8) (octets : Octets) : List Char × Nat :=
  match octets with
  | [] => ([Utf8.replacement], 0)
  | b :: _ => if a = 0x80 ∨ a = 0xFF then ([Utf8.replacement], 0) else pair (big5Pair? a b) b

end Outbox.Charset
