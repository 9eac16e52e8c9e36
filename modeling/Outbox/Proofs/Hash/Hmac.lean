import Outbox.Hash.Hmac
import Outbox.Hash.Md5

/-!
# Outbox.Proofs.Hash.Hmac — keyed hashing as it is prescribed

HMAC is defined by a key that is filled up with zeros and then combined with two blocks of a
constant. The pads are made the other way round: a block of the constant is there first, and the
key is written over its beginning, octet by octet. A key of any length is at most one block long
by then, so all that is written has its place.

* `overwrite?_eq` — which keys have their place, and what stands in the block afterwards.
* `padWith_eq` — a pad is the key with zeros, combined with the constant.
* `mac_eq_prescribed` — the keyed hash is HMAC, for any hash that fits in a block.
-/

namespace Outbox

namespace Hmac

/-! ## The definition -/

/-- Two blocks, combined octet by octet. -/
def combine (a b : Octets) : Octets := List.zipWith (· ^^^ ·) a b

/-- A block of one octet. -/
def constant (b : UInt8) : Octets := List.replicate blockSize b

/-- A key filled up with zeros to a block. -/
def zeroFilled (key : Octets) : Octets := key ++ List.replicate (blockSize - key.length) 0

/-- HMAC. A key that is longer than a block is hashed first. -/
def prescribed (hash : Octets → Octets) (key message : Octets) : Octets :=
  let block := zeroFilled (if blockSize < key.length then hash key else key)
  hash (combine block (constant 0x5c) ++ hash (combine block (constant 0x36) ++ message))

/-! ## Writing a pad -/

/-- Writes the octets of a key over a block, from a place on, each combined with the octet that
stands there at first. There is no result if the block does not have all these places. -/
def overwrite? (fill : UInt8) : Nat → Octets → Octets → Option Octets
  | _, [], block => some block
  | i, b :: key, block =>
    if i < block.length then overwrite? fill (i + 1) key (block.set i (b ^^^ fill)) else none

/-- By induction on the key. What was written stands in front of the place that is next. -/
theorem overwrite?_append (fill : UInt8) (key before after : Octets) :
    overwrite? fill before.length key (before ++ after) =
      if key.length ≤ after.length then
        some (before ++ key.map (· ^^^ fill) ++ after.drop key.length)
      else none := by
  induction key generalizing before after with
  | nil => simp [overwrite?]
  | cons b key ih =>
    cases after with
    | nil => simp [overwrite?]
    | cons c after =>
      have place : before.length < (before ++ c :: after).length := by simp
      have written : (before ++ c :: after).set before.length (b ^^^ fill) =
          (before ++ [b ^^^ fill]) ++ after := by simp
      have next : before.length + 1 = (before ++ [b ^^^ fill]).length := by simp
      rw [overwrite?, if_pos place, written, next, ih]
      simp

/-- A key has its place in a block if it is not longer than the block. -/
theorem overwrite?_eq (fill : UInt8) (key : Octets) :
    overwrite? fill 0 key (constant fill) =
      if key.length ≤ blockSize then some (padWith fill key) else none := by
  have written := overwrite?_append fill key [] (constant fill)
  simpa [constant, padWith] using written

theorem length_shorten {hash : Octets → Octets} (short : ∀ m, (hash m).length ≤ blockSize)
    (key : Octets) : (shorten hash key).length ≤ blockSize := by
  unfold shorten
  split
  case isTrue fits => exact fits
  case isFalse => exact short key

/-! ## The keyed hash -/

theorem combine_constant {block : Octets} (whole : block.length = blockSize) (b : UInt8) :
    combine block (constant b) = block.map (· ^^^ b) := by
  rw [combine, constant, ← whole]
  clear whole
  induction block with
  | nil => rfl
  | cons c block ih => rw [List.length_cons, List.replicate_succ, List.zipWith_cons_cons, ih]; rfl

theorem length_zeroFilled {key : Octets} (fits : key.length ≤ blockSize) :
    (zeroFilled key).length = blockSize := by
  rw [zeroFilled, List.length_append, List.length_replicate]
  exact Nat.add_sub_cancel' fits

/-- A pad is the key with zeros, combined with the constant. -/
theorem padWith_eq {key : Octets} (fits : key.length ≤ blockSize) (fill : UInt8) :
    padWith fill key = combine (zeroFilled key) (constant fill) := by
  rw [combine_constant (length_zeroFilled fits), zeroFilled, List.map_append, List.map_replicate,
    UInt8.zero_xor, padWith]

/-- The keyed hash is HMAC. -/
theorem mac_eq_prescribed {hash : Octets → Octets} (short : ∀ m, (hash m).length ≤ blockSize)
    (key message : Octets) : mac hash key message = prescribed hash key message := by
  have shortened : shorten hash key = if blockSize < key.length then hash key else key := by
    unfold shorten
    split
    case isTrue fits => rw [if_neg (Nat.not_lt.2 fits)]
    case isFalse long => rw [if_pos (Nat.lt_of_not_le long)]
  have fits := length_shorten short key
  rw [mac, padWith_eq fits, padWith_eq fits, shortened]
  rfl

end Hmac

/-- The hash of any message has 16 octets. -/
theorem Md5.length_hash (message : Octets) : (Md5.hash message).length = 16 := rfl

end Outbox
