import Outbox.Octets

/-!
# Outbox.Base64 — the base64 encoding

The standard alphabet with padding. Writing is total; reading is strict: it
accepts whole groups of four symbols only, padding nowhere but at the end, and
no stray bits under the padding, so that every octet string has one encoding.
-/

namespace Outbox.Base64

/-- The padding symbol. -/
abbrev pad : UInt8 := 61

/-- The symbol for a value below 64. -/
def symbol (v : UInt8) : UInt8 :=
  if v < 26 then v + 65
  else if v < 52 then v + 71
  else if v < 62 then v - 4
  else if v = 62 then 43
  else 47

/-- The value of a symbol. -/
def value? (s : UInt8) : Option UInt8 :=
  if 65 ≤ s ∧ s ≤ 90 then some (s - 65)
  else if 97 ≤ s ∧ s ≤ 122 then some (s - 71)
  else if 48 ≤ s ∧ s ≤ 57 then some (s + 4)
  else if s = 43 then some 62
  else if s = 47 then some 63
  else none

/-- Writes octets in base64. -/
def encode : Octets → Octets
  | a :: b :: c :: rest =>
    symbol (a >>> 2) :: symbol ((a &&& 3) <<< 4 ||| b >>> 4)
      :: symbol ((b &&& 15) <<< 2 ||| c >>> 6) :: symbol (c &&& 63) :: encode rest
  | [a, b] =>
    [symbol (a >>> 2), symbol ((a &&& 3) <<< 4 ||| b >>> 4), symbol ((b &&& 15) <<< 2), pad]
  | [a] => [symbol (a >>> 2), symbol ((a &&& 3) <<< 4), pad, pad]
  | [] => []

/-- Reads one octet from a group that ends in two padding symbols. -/
def decodeOne (s₁ s₂ : UInt8) : Option Octets := do
  let a ← value? s₁
  let b ← value? s₂
  if b &&& 15 = 0 then some [a <<< 2 ||| b >>> 4] else none

/-- Reads two octets from a group that ends in one padding symbol. -/
def decodeTwo (s₁ s₂ s₃ : UInt8) : Option Octets := do
  let a ← value? s₁
  let b ← value? s₂
  let c ← value? s₃
  if c &&& 3 = 0 then some [a <<< 2 ||| b >>> 4, b <<< 4 ||| c >>> 2] else none

/-- Reads three octets from a full group. -/
def decodeThree (s₁ s₂ s₃ s₄ : UInt8) : Option Octets := do
  let a ← value? s₁
  let b ← value? s₂
  let c ← value? s₃
  let d ← value? s₄
  some [a <<< 2 ||| b >>> 4, b <<< 4 ||| c >>> 2, c <<< 6 ||| d]

/-- Reads base64; `none` for anything that `encode` does not write. -/
def decode : Octets → Option Octets
  | [] => some []
  | s₁ :: s₂ :: s₃ :: s₄ :: rest =>
    if rest.isEmpty && s₃ == pad && s₄ == pad then decodeOne s₁ s₂
    else if rest.isEmpty && s₄ == pad then decodeTwo s₁ s₂ s₃
    else do
      let group ← decodeThree s₁ s₂ s₃ s₄
      let more ← decode rest
      some (group ++ more)
  | _ => none

/-- Writes octets in base64, as text. -/
def encodeText (octets : Octets) : List Char := (encode octets).map fun s => Char.ofNat s.toNat

/-- Reads base64 from a text. -/
def decodeText (text : List Char) : Option Octets := decode (Octets.ofChars text)

end Outbox.Base64
