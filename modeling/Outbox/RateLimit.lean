import Outbox.Time.Instant

/-!
# Outbox.RateLimit — a bucket of tokens

A bucket fills at a steady rate up to its burst and gives one token to each send. What
it computes with is a parameter: a `Quantity` is a kind of number in which amounts of
tokens and times in seconds are measured, so that the same bucket runs on floating point
numbers and can be reasoned about over exact ones.

`Bucket.take` is the only step that changes a bucket. It also says how long to wait when
there is no token.
-/

namespace Outbox

/-- A kind of number for amounts of tokens and for times. -/
class Quantity (K : Type) extends Add K, Sub K, Mul K, Div K where
  ofNat : Nat → K
  /-- A time in seconds. -/
  ofDuration : Duration → K
  /-- The duration of a number of seconds, if it is one. -/
  toDuration? : K → Option Duration
  /-- Whether the first number is at most the second. -/
  atMost : K → K → Bool
  /-- Whether a number can be a rate: it is positive and finite. -/
  isRate : K → Bool

/-- A bucket of tokens. -/
structure Bucket (K : Type) where
  /-- The tokens that come in a second. -/
  rate : K
  /-- The most tokens there can be. -/
  burst : K
  /-- The tokens there were at the last check. -/
  tokens : K
  /-- The time of the last check. -/
  last : Instant
deriving DecidableEq

/-- What became of a request for a token. -/
inductive Taking where
  | granted
  /-- There is no token, and there will not be one before a time has passed. -/
  | refused (wait : Duration)
  /-- There is no token, and the time until there is one is too long for a duration. -/
  | unbounded
deriving DecidableEq

namespace Bucket

variable {K : Type} [Quantity K]

/-- A full bucket. What cannot be a rate stands for one token a second, and there is always
room for one token. -/
def make (rate : K) (burst : Nat) (now : Instant) : Bucket K :=
  let burst := Quantity.ofNat (max burst 1)
  { rate := if Quantity.isRate rate then rate else Quantity.ofNat 1
    burst
    tokens := burst
    last := now }

/-- The tokens that there are at a time. -/
def tokensAt (b : Bucket K) (now : Instant) : K :=
  let tokens := b.tokens + Quantity.ofDuration (now.since b.last) * b.rate
  if Quantity.atMost tokens b.burst then tokens else b.burst

/-- The bucket at a time. -/
def filled (b : Bucket K) (now : Instant) : Bucket K :=
  { b with tokens := b.tokensAt now, last := now }

/-- The seconds until there is a token. -/
def deficit (b : Bucket K) : K := (Quantity.ofNat 1 - b.tokens) / b.rate

/-- Asks for a token. -/
def take (b : Bucket K) (now : Instant) : Taking × Bucket K :=
  let b := b.filled now
  if Quantity.atMost (Quantity.ofNat 1) b.tokens then
    (.granted, { b with tokens := b.tokens - Quantity.ofNat 1 })
  else
    match Quantity.toDuration? b.deficit with
    | some wait => (.refused wait, b)
    | none => (.unbounded, b)

end Bucket

/-- The least time that is waited for a token. -/
def leastWait : Duration := .ofMillis 1

end Outbox
