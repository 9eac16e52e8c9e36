import Outbox.Text.Utf8

/-!
# Outbox.Charset.Grid — characters of two octets

The charsets of East Asia put their characters into grids, and two octets count the row and
the column. An octet below 0x80 at the start of a character is ASCII in most of them.

What makes no character is replaced by U+FFFD, but an ASCII octet is never lost in it: it is
read again on its own.
-/

namespace Outbox.Charset

/-- The character in a cell of a grid, if there is one. -/
def cell? (grid : List String) (row column : Nat) : Option Char :=
  (grid[row]?.bind fun line => line.toList[column]?).filter (· != Utf8.replacement)

/-- The characters of a range that are not in a grid, in order. -/
def complement (grid : List String) (first last : Nat) : Array Char :=
  let size := last + 1 - first
  let mark (found : Array Bool) (c : Char) :=
    if first ≤ c.toNat then found.setIfInBounds (c.toNat - first) true else found
  let found := grid.foldl (fun found line => line.toList.foldl mark found) (.replicate size false)
  (Array.range size).filterMap fun i =>
    if found.getD i true then none else some (Char.ofNat (first + i))

/-- What is read from two octets of which `b` is the second, and how many octets after the
first are used up. -/
def pair (text? : Option (List Char)) (b : UInt8) : List Char × Nat :=
  match text? with
  | some text => (text, 1)
  | none => ([Utf8.replacement], if b < 0x80 then 0 else 1)

/-- Reads octets as text. A character that is not ASCII is read by `next` from its first
octet and those after it, and `next` says how many of these it takes. -/
def readBy (next : UInt8 → Octets → List Char × Nat) : Octets → List Char
  | [] => []
  | a :: octets =>
    if a < 0x80 then Char.ofNat a.toNat :: readBy next octets
    else
      let (text, used) := next a octets
      text ++ readBy next (octets.drop used)
termination_by octets => octets.length
decreasing_by all_goals (simp only [List.length_cons, List.length_drop]; omega)

/-- Whether an octet counts rows or columns of a grid in the upper half. -/
def isUpperIndex (b : UInt8) : Bool := 0xA1 ≤ b && b ≤ 0xFE

/-- The character of two octets in the upper half that count a grid's rows and columns. -/
def upperCell? (grid : List String) (a b : UInt8) : Option Char :=
  if isUpperIndex a && isUpperIndex b then cell? grid (a.toNat - 0xA1) (b.toNat - 0xA1) else none

end Outbox.Charset
