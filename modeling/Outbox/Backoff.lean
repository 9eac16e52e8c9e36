import Outbox.Time.Duration

/-!
# Outbox.Backoff — when to try again

A schedule says for each attempt how long to wait before it, or that there is no such
attempt. The first attempt is never delayed.

* `Exponential.delay` is the delay before an attempt without regard to chance: twice the
  one before, up to a limit.
* `Jitter.bound` and `Jitter.spread` say what a random draw makes of a delay.
-/

namespace Outbox

/-- How a delay is spread at random. -/
inductive Jitter where
  /-- Anything from nothing to the whole delay. -/
  | full
  /-- Anything from half of the delay to all of it. -/
  | half
  /-- The delay itself. -/
  | none
deriving DecidableEq, Repr

namespace Jitter

/-- The nanoseconds of a delay that is spread, which have 64 bits. -/
def nanos (delay : Duration) : Nat := min delay.nanos 18446744073709551615

/-- The largest number that may be drawn to spread a delay. -/
def bound (j : Jitter) (delay : Duration) : Nat :=
  match j with
  | .full => nanos delay
  | .half => nanos delay - nanos delay / 2
  | .none => 0

/-- The delay that a drawn number makes. -/
def spread (j : Jitter) (delay : Duration) (drawn : Nat) : Duration :=
  match j with
  | .full => .ofNanos drawn
  | .half => .ofNanos (nanos delay / 2 + drawn)
  | .none => delay

end Jitter

/-- A schedule in which every delay is twice the one before. -/
structure Exponential where
  attempts : Nat
  base : Duration
  /-- The longest delay. Zero sets no limit. -/
  max : Duration
  jitter : Jitter
deriving DecidableEq

namespace Exponential

/-- A schedule of at least one attempt. -/
def make (attempts : Nat) (base max : Duration) (jitter : Jitter) : Exponential :=
  ⟨Nat.max attempts 1, base, max, jitter⟩

/-- The factor before a delay, if 32 bits can hold it. -/
def factor? (attempt : Nat) : Option Nat :=
  if attempt - 1 < 32 then some (Nat.pow 2 (attempt - 1)) else none

/-- The delay before an attempt other than the first one. -/
def delay (e : Exponential) (attempt : Nat) : Duration :=
  let delay := ((factor? attempt).bind e.base.mul?).getD .longest
  if !e.max.isZero && decide (e.max < delay) then e.max else delay

/-- The largest number that may be drawn for an attempt. -/
def bound (e : Exponential) (attempt : Nat) : Nat :=
  if attempt = 0 then 0 else e.jitter.bound (e.delay attempt)

/-- The delay before an attempt when `drawn` is drawn, if there is such an attempt. -/
def next (e : Exponential) (attempt drawn : Nat) : Option Duration :=
  if e.attempts ≤ attempt then none
  else if attempt = 0 then some .zero
  else some (e.jitter.spread (e.delay attempt) drawn)

end Exponential

/-- When a send is tried. -/
structure Schedule where
  /-- The delay before an attempt when a number is drawn for it, if there is such an attempt. -/
  next : Nat → Nat → Option Duration
  /-- An attempt that there is not. -/
  limit : Nat
  next_limit : ∀ drawn, next limit drawn = none

/-- One attempt only. -/
def Schedule.single : Schedule where
  next attempt _ := if attempt = 0 then some .zero else none
  limit := 1
  next_limit _ := rfl

/-- The attempts of an exponential schedule. -/
def Exponential.schedule (e : Exponential) : Schedule where
  next := e.next
  limit := e.attempts
  next_limit _ := by simp [next]

end Outbox
