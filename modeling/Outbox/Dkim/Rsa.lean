import Outbox.Dkim.Der

/-!
# Outbox.Dkim.Rsa — RSA signatures

A private key of two primes, the conditions under which it is accepted, and the
signature of RFC 8017 section 8.2 (PKCS#1 v1.5) over a SHA-256 hash. Nothing in it
is random: a key signs a hash in one way only.
-/

namespace Outbox.Dkim

/-- `b` to the power `e`, modulo `n`. -/
def powMod (n b e : Nat) : Nat :=
  if e = 0 then 1 % n
  else
    let half := powMod n (b * b % n) (e / 2)
    if e % 2 = 1 then b * half % n else half
termination_by e

/-- A private key. -/
structure PrivateKey where
  modulus : Nat
  publicExponent : Nat
  privateExponent : Nat
  prime₁ : Nat
  prime₂ : Nat
deriving DecidableEq, Repr

namespace PrivateKey

/-- Whether the numbers of a key belong together and the exponent is of a usable size. -/
def isConsistent (k : PrivateKey) : Bool :=
  k.modulus % 2 == 1 &&
  k.publicExponent < k.modulus && k.publicExponent % 2 == 1 &&
  2 ≤ k.publicExponent && k.publicExponent < 8589934592 &&
  1 ≤ k.prime₁ && 1 ≤ k.prime₂ && k.prime₁ * k.prime₂ == k.modulus &&
  k.publicExponent * k.privateExponent % (k.prime₁ - 1) == 1 &&
  k.publicExponent * k.privateExponent % (k.prime₂ - 1) == 1

/-- A key from the content of a PKCS#1 sequence: version zero and eight integers. -/
def ofPkcs1? (der : Octets) : Option PrivateKey := do
  let content ← Der.readOnly Der.sequence der
  match ← Der.readNats 9 content with
  | ([0, n, e, d, p, q, _, _, _], []) =>
    let key : PrivateKey := ⟨n, e, d, p, q⟩
    if key.isConsistent then some key else none
  | _ => none

/-- The content of an algorithm identifier for RSA without parameters. -/
def rsaAlgorithm : Octets :=
  [0x06, 0x09, 0x2a, 0x86, 0x48, 0x86, 0xf7, 0x0d, 0x01, 0x01, 0x01, 0x05, 0x00]

/-- Skips the fields with the number zero that stand before a public key. -/
def skipAttributes : Nat → Octets → Option Octets
  | 0, octets => some octets
  | most + 1, octets =>
    match octets with
    | [] => some []
    | tag :: _ =>
      if tag = Der.field 0 ∨ tag = Der.constructedField 0 then
        (Der.readItem octets).bind fun (_, _, rest) => skipAttributes most rest
      else some octets

/-- Reads a public key, a bit string of whole octets, if one comes next. Returns whether it
did and what follows. -/
def readPublicKey (octets : Octets) : Option (Bool × Octets) :=
  match octets with
  | [] => some (false, [])
  | tag :: _ =>
    if tag = Der.field 1 then
      match Der.readItem octets with
      | some (_, 0 :: _, rest) => some (true, rest)
      | _ => none
    else if tag = Der.constructedField 1 then none
    else some (false, octets)

/-- Whether the octets are fields that hold one item each. -/
def areFields : Nat → Octets → Bool
  | _, [] => true
  | 0, _ => false
  | most + 1, octets =>
    match Der.readItem octets with
    | some (tag, content, rest) =>
      tag &&& 0xE0 = 0xA0 && (Der.readItem content).any (·.2.2.isEmpty) && areFields most rest
    | none => false

/-- A key from a PKCS#8 envelope. Version one carries a public key after the private
one, and version zero does not. -/
def ofPkcs8? (der : Octets) : Option PrivateKey := do
  let content ← Der.readOnly Der.sequence der
  let (version, rest) ← Der.readNat content
  let (algorithm, rest) ← Der.read Der.sequence rest
  let (key, rest) ← Der.read Der.octetString rest
  let rest ← skipAttributes rest.length rest
  let (hasPublicKey, rest) ← readPublicKey rest
  if version ≤ 1 ∧ (hasPublicKey ↔ version = 1) ∧ areFields rest.length rest ∧
      algorithm = rsaAlgorithm then
    ofPkcs1? key
  else none

/-- The number of octets of the modulus. -/
def size (k : PrivateKey) : Nat := (k.modulus.log2 + 8) / 8

/-- What stands before a SHA-256 hash to name it. -/
def hashName : Octets :=
  [0x30, 0x31, 0x30, 0x0d, 0x06, 0x09, 0x60, 0x86, 0x48, 0x01, 0x65, 0x03, 0x04, 0x02, 0x01,
   0x05, 0x00, 0x04, 0x20]

/-- The octets of a number, the most significant first, in a given width. -/
def octetsOf (width n : Nat) : Octets :=
  ((List.range width).map fun i => UInt8.ofNat (n / Nat.pow 256 i % 256)).reverse

/-- The block that is signed for a hash: filled up to the width of the modulus, which
has to leave room for eight octets of filling. -/
def paddedHash? (width : Nat) (hash : Octets) : Option Octets :=
  let named := hashName ++ hash
  if width < named.length + 11 then none
  else some ([0, 1] ++ List.replicate (width - named.length - 3) 0xff ++ [0] ++ named)

/-- The signature over a hash, if the key can hold it. The signature is checked with
the public exponent before it is given out. -/
def sign? (k : PrivateKey) (hash : Octets) : Option Octets := do
  let block ← paddedHash? k.size hash
  let m := Der.ofOctets block
  let s := powMod k.modulus m k.privateExponent
  if powMod k.modulus s k.publicExponent = m then some (octetsOf k.size s) else none

end PrivateKey
end Outbox.Dkim
