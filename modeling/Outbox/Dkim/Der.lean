import Outbox.Octets

/-!
# Outbox.Dkim.Der — the encoding of keys

The part of DER that private keys use: items of a tag, a length in its shortest
form and that many octets of content. A reader takes an item off the front and
returns what follows it.
-/

namespace Outbox.Dkim.Der

/-- A number from octets, the most significant first. -/
def ofOctets (octets : Octets) : Nat := octets.foldl (fun n b => n * 256 + b.toNat) 0

/-- The length at the front of the octets, in its shortest form. -/
def readLength : Octets → Option (Nat × Octets)
  | [] => none
  | b :: rest =>
    if b < 0x80 then some (b.toNat, rest)
    else
      let count := b.toNat - 0x80
      let n := ofOctets (rest.take count)
      if count = 0 ∨ 4 < count ∨ rest.length < count then none
      else if n < 0x80 ∨ n < Nat.pow 256 (count - 1) then none
      else some (n, rest.drop count)

/-- The tags of the universal types that are told apart. -/
def universalTags : List UInt8 :=
  [0x01, 0x02, 0x03, 0x04, 0x05, 0x06, 0x09, 0x0A, 0x0C, 0x12, 0x13, 0x14, 0x15, 0x16, 0x17, 0x18,
   0x1A, 0x1B, 0x1E, 0x30, 0x31]

/-- Whether an octet is a tag: its number is not 31, which would say that the number
follows, and the universal type is known. -/
def isTag (tag : UInt8) : Bool :=
  tag &&& 0x1F != 0x1F && (0x40 ≤ tag || universalTags.contains tag)

/-- The item at the front of the octets: its tag, its content, and what follows. -/
def readItem : Octets → Option (UInt8 × Octets × Octets)
  | [] => none
  | tag :: rest =>
    match readLength rest with
    | none => none
    | some (n, rest) =>
      if rest.length < n || !isTag tag then none else some (tag, rest.take n, rest.drop n)

/-- The content of an item with a given tag, and what follows. -/
def read (tag : UInt8) (octets : Octets) : Option (Octets × Octets) :=
  match readItem octets with
  | some (t, content, rest) => if t = tag then some (content, rest) else none
  | none => none

/-- The content of an item that is all there is. -/
def readOnly (tag : UInt8) (octets : Octets) : Option Octets :=
  match read tag octets with
  | some (content, []) => some content
  | _ => none

/-- The tag of a sequence. -/
abbrev sequence : UInt8 := 0x30

/-- The tag of an octet string. -/
abbrev octetString : UInt8 := 0x04

/-- The tag of an integer. -/
abbrev integer : UInt8 := 0x02

/-- The tag of a field whose number says what it is and whose content is plain. -/
def field (number : UInt8) : UInt8 := 0x80 + number

/-- The tag of a field whose number says what it is and whose content is an item. -/
def constructedField (number : UInt8) : UInt8 := 0xA0 + number

/-- The value of an integer's content, which is not negative and has no needless
leading zero. -/
def natOfContent : Octets → Option Nat
  | [] => none
  | [b] => if b < 0x80 then some b.toNat else none
  | b :: c :: rest =>
    if 0x80 ≤ b ∨ (b = 0 ∧ c < 0x80) then none else some (ofOctets (b :: c :: rest))

/-- The integer at the front of the octets, and what follows. -/
def readNat (octets : Octets) : Option (Nat × Octets) := do
  let (content, rest) ← read integer octets
  let n ← natOfContent content
  some (n, rest)

/-- A number of integers at the front of the octets, and what follows. -/
def readNats : Nat → Octets → Option (List Nat × Octets)
  | 0, octets => some ([], octets)
  | count + 1, octets => do
    let (n, rest) ← readNat octets
    let (more, rest) ← readNats count rest
    some (n :: more, rest)

end Outbox.Dkim.Der
