import Outbox.RateLimit

/-!
# Outbox.RateLimit.Double — buckets over double precision numbers

Amounts of tokens and times as IEEE 754 doubles. Arithmetic rounds to nearest; a time
becomes the nearest whole number of nanoseconds, and of two equally near ones the even.
-/

namespace Outbox.Double

/-- The leading bit of a fraction, 2^52, which is not stored. -/
abbrev hidden : Nat := 4503599627370496

/-- A nonnegative number as `m * 2 ^ (e - 1075)`, if it is finite. -/
def parts? (x : Float) : Option (Nat × Nat) :=
  let bits := x.toBits.toNat
  let exponent := bits / hidden % 2048
  let fraction := bits % hidden
  if 2048 * hidden ≤ bits || exponent = 2047 then none
  else if exponent = 0 then some (fraction, 1)
  else some (fraction + hidden, exponent)

/-- The whole number nearest to a quotient, the even one of two. -/
def roundQuotient (n d : Nat) : Nat :=
  let q := n / d
  let r := n % d
  if d < 2 * r || (d = 2 * r && q % 2 = 1) then q + 1 else q

/-- The duration of a number of seconds. -/
def toDuration? (x : Float) : Option Duration :=
  if x == 0 then some .zero
  else
    match parts? x with
    | none => none
    | some (m, e) =>
      let scaled := m * Duration.second
      Duration.ofNanos?
        (if 1075 ≤ e then scaled * Nat.pow 2 (e - 1075)
          else roundQuotient scaled (Nat.pow 2 (1075 - e)))

/-- A time in seconds: whole seconds and nanoseconds are converted each for itself. -/
def ofDuration (d : Duration) : Float :=
  Float.ofNat (d.nanos / Duration.second) + Float.ofNat (d.nanos % Duration.second) / 1000000000

end Outbox.Double

namespace Outbox

instance : Quantity Float where
  ofNat := Float.ofNat
  ofDuration := Double.ofDuration
  toDuration? := Double.toDuration?
  atMost a b := a ≤ b
  isRate x := x > 0 && x.isFinite

end Outbox
