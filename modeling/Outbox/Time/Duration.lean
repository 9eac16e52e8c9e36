/-!
# Outbox.Time.Duration — lengths of time

A duration is a whole number of nanoseconds below 2^64 seconds. The bound is part
of the type, so an operation that could leave the range says what it does there:
`mul?` fails, `ofNanos` stops at the longest duration.
-/

namespace Outbox

/-- A length of time. -/
structure Duration where
  /-- The whole number of nanoseconds. -/
  nanos : Nat
  /-- Durations are shorter than 2^64 seconds. -/
  nanos_lt : nanos < 18446744073709551616000000000
deriving DecidableEq

namespace Duration

/-- Nanoseconds in a second. -/
abbrev second : Nat := 1000000000

/-- Nanoseconds in a millisecond, the resolution of timers. -/
abbrev milli : Nat := 1000000

/-- No time at all. -/
def zero : Duration := ⟨0, by decide⟩

/-- The longest duration. -/
def longest : Duration := ⟨18446744073709551615999999999, by decide⟩

/-- A number of nanoseconds, or the longest duration if it is longer than that. -/
def ofNanos (n : Nat) : Duration :=
  if h : n < 18446744073709551616000000000 then ⟨n, h⟩ else longest

/-- A number of nanoseconds, if they make a duration. -/
def ofNanos? (n : Nat) : Option Duration :=
  if h : n < 18446744073709551616000000000 then some ⟨n, h⟩ else none

/-- A number of milliseconds, or the longest duration. -/
def ofMillis (n : Nat) : Duration := ofNanos (n * milli)

/-- A number of seconds, or the longest duration. -/
def ofSeconds (n : Nat) : Duration := ofNanos (n * second)

/-- Whether there is any time in it. -/
def isZero (d : Duration) : Bool := d.nanos == 0

instance : LE Duration := ⟨fun a b => a.nanos ≤ b.nanos⟩

instance : LT Duration := ⟨fun a b => a.nanos < b.nanos⟩

instance (a b : Duration) : Decidable (a ≤ b) := inferInstanceAs (Decidable (a.nanos ≤ b.nanos))

instance (a b : Duration) : Decidable (a < b) := inferInstanceAs (Decidable (a.nanos < b.nanos))

instance : Min Duration := minOfLe

instance : Max Duration := maxOfLe

/-- The duration taken a number of times, if it is still one. -/
def mul? (d : Duration) (n : Nat) : Option Duration := ofNanos? (d.nanos * n)

/-! ## Description -/

/-- A number of units of ten to the power `places`, as a decimal without trailing
zeros. -/
def decimal (value places : Nat) : List Char :=
  let fraction := Nat.toDigits 10 (value % Nat.pow 10 places)
  let padded := List.replicate (places - fraction.length) '0' ++ fraction
  let shown := (padded.reverse.dropWhile (· == '0')).reverse
  Nat.toDigits 10 (value / Nat.pow 10 places) ++ (if shown.isEmpty then [] else '.' :: shown)

/-- A duration in the largest of the units s, ms, µs and ns that it fills. -/
def describe (d : Duration) : String :=
  let n := d.nanos
  String.ofList <|
    if second ≤ n then decimal n 9 ++ ['s']
    else if milli ≤ n then decimal n 6 ++ ['m', 's']
    else if 1000 ≤ n then decimal n 3 ++ ['µ', 's']
    else Nat.toDigits 10 n ++ ['n', 's']

end Duration
end Outbox
