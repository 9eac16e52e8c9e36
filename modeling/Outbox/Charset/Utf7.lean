import Outbox.Base64
import Outbox.Charset.Utf16

/-!
# Outbox.Charset.Utf7 — text in seven bits

In UTF-7 (RFC 2152) most of ASCII stands for itself, and a plus sign begins a run of base64
without padding, which holds UTF-16 units with the more significant octet first. The run
ends with the first octet that is no base64 symbol; a minus sign there is dropped. An
empty run stands for the plus sign.
-/

namespace Outbox.Charset.Utf7

/-- The bits of a base64 value, the most significant first. -/
def bitsOf (v : UInt8) : List Bool := [5, 4, 3, 2, 1, 0].map fun i => v.toNat.testBit i

/-- The number that bits make, the most significant first. -/
def ofBits (bits : List Bool) : Nat := bits.foldl (fun n b => n * 2 + b.toNat) 0

/-- The whole units in a run's bits. Bits that make no whole unit are dropped. -/
def unitsOf (bits : List Bool) : List Nat :=
  if _h : bits.length < 16 then [] else ofBits (bits.take 16) :: unitsOf (bits.drop 16)
termination_by bits.length
decreasing_by simp only [List.length_drop]; omega

/-- The values of the base64 symbols at the start of octets, and the octets after them. -/
def run : Octets → List UInt8 × Octets
  | [] => ([], [])
  | b :: rest =>
    match Base64.value? b with
    | some v => (v :: (run rest).1, (run rest).2)
    | none => ([], b :: rest)

theorem length_run_le (octets : Octets) : (run octets).2.length ≤ octets.length := by
  fun_induction run octets <;> grind

/-- The octets after the sign that ends a run, if one stands there. -/
def dropMinus : Octets → Octets
  | 45 :: rest => rest
  | octets => octets

theorem length_dropMinus_le (octets : Octets) : (dropMinus octets).length ≤ octets.length := by
  fun_cases dropMinus octets <;> grind

/-- The units of octets. -/
def units : Octets → List Nat
  | [] => []
  | b :: rest =>
    if b = 43 then
      let values := (run rest).1
      let after := (run rest).2
      have := length_run_le rest
      have := length_dropMinus_le after
      (if values.isEmpty && after.head? = some 45 then [43] else unitsOf (values.flatMap bitsOf)) ++
        units (dropMinus after)
    else b.toNat :: units rest
termination_by octets => octets.length
decreasing_by all_goals grind

/-- Reads octets as text. The halves of a character may be in different runs. -/
def decode (octets : Octets) : List Char := Utf16.ofUnits (units octets)

end Outbox.Charset.Utf7
