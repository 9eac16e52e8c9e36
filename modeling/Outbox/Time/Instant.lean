import Outbox.Time.Duration

/-!
# Outbox.Time.Instant — points on a monotone clock

An instant counts nanoseconds from the start of the clock. The clock itself has
room for 2^63 seconds; `after?` says whether a sum still fits. Timers work in
whole milliseconds and never fire early: a timer for `t` fires at `t.tick`.
-/

namespace Outbox

/-- A point on a monotone clock. -/
structure Instant where
  /-- Nanoseconds since the clock's start. -/
  nanos : Nat
deriving DecidableEq

namespace Instant

instance : LE Instant := ⟨fun a b => a.nanos ≤ b.nanos⟩

instance : LT Instant := ⟨fun a b => a.nanos < b.nanos⟩

instance (a b : Instant) : Decidable (a ≤ b) := inferInstanceAs (Decidable (a.nanos ≤ b.nanos))

instance (a b : Instant) : Decidable (a < b) := inferInstanceAs (Decidable (a.nanos < b.nanos))

instance : Min Instant := minOfLe

instance : Max Instant := maxOfLe

/-- The start of the clock. -/
def start : Instant := ⟨0⟩

/-- The instant a number of milliseconds after the clock's start. -/
def ofMillis (n : Nat) : Instant := ⟨n * Duration.milli⟩

/-- The whole milliseconds since the clock's start. -/
def millis (t : Instant) : Nat := t.nanos / Duration.milli

/-- The time from `s` to `t`, none if `t` is earlier. -/
def since (t s : Instant) : Duration := Duration.ofNanos (t.nanos - s.nanos)

/-- The instant `d` after `t`, if the clock has room for it. -/
def after? (t : Instant) (d : Duration) : Option Instant :=
  let sum := t.nanos + d.nanos
  if sum / Duration.second < 9223372036854775808 then some ⟨sum⟩ else none

/-- How far away a timer is put that the clock has no room for: thirty years. -/
def horizon : Duration := Duration.ofSeconds (86400 * 365 * 30)

/-- When a timer that is set to `d` after `t` is due. -/
def timer (t : Instant) (d : Duration) : Instant :=
  match t.after? d with
  | some due => due
  | none => ⟨t.nanos + horizon.nanos⟩

/-- The first whole millisecond that is not before `t`. -/
def tick (t : Instant) : Instant :=
  ⟨(t.nanos + (Duration.milli - 1)) / Duration.milli * Duration.milli⟩

end Instant
end Outbox
