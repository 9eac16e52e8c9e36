import Outbox.Octets

/-!
# Outbox.Hash.Hmac — keyed hashing

HMAC over any hash that works on blocks of 64 octets. A key that is longer than a
block is hashed first; the rest of the block is filled with the pad octet itself,
which is what a zero becomes under it.
-/

namespace Outbox.Hmac

/-- The block size of the hash. -/
abbrev blockSize : Nat := 64

/-- A key as it enters the pads, at most one block long if the hash is. -/
def shorten (hash : Octets → Octets) (key : Octets) : Octets :=
  if key.length ≤ blockSize then key else hash key

/-- A block of the pad octet with the key laid over its beginning. -/
def padWith (fill : UInt8) (key : Octets) : Octets :=
  key.map (· ^^^ fill) ++ List.replicate (blockSize - key.length) fill

/-- The keyed hash of a message. -/
def mac (hash : Octets → Octets) (key message : Octets) : Octets :=
  let key := shorten hash key
  hash (padWith 0x5c key ++ hash (padWith 0x36 key ++ message))

end Outbox.Hmac
