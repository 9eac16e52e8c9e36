import Outbox.Backoff
import Outbox.Proofs.Time

/-!
# Outbox.Proofs.Backoff — doubled delays and their limits

An exponential schedule doubles its delay before every attempt. The factor is made in 32 bits,
the product in a duration, and what is drawn to spread it in 64 bits, so there are three places
where a number may be too large, and the limit of the schedule comes on top of them.

* `nanos_delay` — what these come to: the product, or the limit where that is less, as long as
  32 bits hold the factor, and the limit itself from then on.
* `next_eq_ideal_iff` — that is the product by the rule exactly if 32 bits hold the factor or the
  product reaches the limit anyway.
* `nextInWords?_eq` — the same program over words, where every operation that leaves its range
  gives nothing, always gives what `next` gives.
* `isBounded_make` — when there is a delay, and what bounds it before and after it is spread.
-/

namespace Outbox

/-! ## Durations -/

namespace Duration

/-- A product that is no duration counts as the longest one. -/
theorem nanos_mul?_getD (d : Duration) (n : Nat) :
    ((d.mul? n).getD longest).nanos = Nat.min (d.nanos * n) longest.nanos := by
  rw [← nanos_ofNanos]
  unfold mul? ofNanos? ofNanos
  split
  · rfl
  · rfl

end Duration

namespace Exponential

open Duration

/-! ## The delay without regard to chance -/

/-- The longest delay of a schedule. -/
def limit (e : Exponential) : Duration := if e.max.isZero then longest else e.max

/-- The delay before an attempt other than the first one by the rule, in nanoseconds: the base,
doubled for every earlier delay, or the limit if that is exceeded. -/
def ideal (e : Exponential) (attempt : Nat) : Nat :=
  let doubled := e.base.nanos * Nat.pow 2 (attempt - 1)
  if e.limit.nanos < doubled then e.limit.nanos else doubled

theorem ideal_eq_min (e : Exponential) (attempt : Nat) :
    e.ideal attempt = Nat.min (e.base.nanos * Nat.pow 2 (attempt - 1)) e.limit.nanos := by
  unfold ideal
  dsimp only
  split
  · rename_i hlimit
    exact (Nat.min_eq_right (Nat.le_of_lt hlimit)).symm
  · rename_i hlimit
    exact (Nat.min_eq_left (Nat.not_lt.1 hlimit)).symm

/-- A delay that is cut off at the maximum is cut off at the limit. -/
theorem nanos_capped (e : Exponential) (d : Duration) :
    (if !e.max.isZero && decide (e.max < d) then e.max else d).nanos =
      Nat.min d.nanos e.limit.nanos := by
  unfold limit
  cases hzero : e.max.isZero with
  | true => exact (Nat.min_eq_left (nanos_le_longest d)).symm
  | false =>
    by_cases hmax : e.max < d
    · have hle : e.max.nanos ≤ d.nanos := Nat.le_of_lt hmax
      simp only [hmax]
      exact (Nat.min_eq_right hle).symm
    · have hle : d.nanos ≤ e.max.nanos := Nat.not_lt.1 hmax
      simp only [hmax]
      exact (Nat.min_eq_left hle).symm

/-- The delay before an attempt. From the thirty-third delay on 32 bits do not hold the factor,
and the delay is the limit, whatever the base is. -/
theorem nanos_delay (e : Exponential) (attempt : Nat) :
    (e.delay attempt).nanos =
      if attempt - 1 < 32 then e.ideal attempt else e.limit.nanos := by
  have hlimit : e.limit.nanos ≤ longest.nanos := nanos_le_longest e.limit
  unfold delay
  dsimp only
  rw [nanos_capped]
  unfold factor?
  split
  · -- The product is cut off at the longest duration first, which the limit never exceeds.
    rw [Option.bind_some, nanos_mul?_getD, ideal_eq_min]
    exact (Nat.min_assoc _ _ _).trans (congrArg (Nat.min _) (Nat.min_eq_right hlimit))
  · rw [Option.bind_none, Option.getD_none]
    exact Nat.min_eq_right hlimit

/-- The delay before an attempt without regard to chance. -/
def plain (e : Exponential) (attempt : Nat) : Duration :=
  if attempt = 0 then .zero else e.delay attempt

theorem next_none_eq (e : Exponential) {attempt : Nat} (h : attempt < e.attempts) (drawn : Nat) :
    { e with jitter := .none }.next attempt drawn = some (e.plain attempt) := by
  unfold next plain
  rw [if_neg (Nat.not_le.2 h)]
  split
  · rfl
  · rfl

theorem plain_of_ne_zero (e : Exponential) {attempt : Nat} (h : attempt ≠ 0) :
    e.plain attempt = e.delay attempt := if_neg h

/-- The delay is the one by the rule exactly if 32 bits hold the factor, or if the product reaches
the limit anyway. Where it is not, it is the limit. -/
theorem next_eq_ideal_iff (attempts : Nat) (base max : Duration) (attempt drawn : Nat)
    (hfirst : 1 ≤ attempt) (hlast : attempt < Nat.max attempts 1) :
    ∃ d, (make attempts base max .none).next attempt drawn = some d ∧
      (d.nanos = (make attempts base max .none).ideal attempt ↔
        attempt ≤ 32 ∨ (make attempts base max .none).limit.nanos ≤
          base.nanos * Nat.pow 2 (attempt - 1)) ∧
      (32 < attempt → d = (make attempts base max .none).limit) := by
  generalize he : make attempts base max .none = e
  have hbase : e.base = base := by rw [← he]; rfl
  have hjitter : { e with jitter := .none } = e := by rw [← he]; rfl
  have hattempts : attempt < e.attempts := by rw [← he]; exact hlast
  have hnext := e.next_none_eq hattempts drawn
  rw [hjitter, e.plain_of_ne_zero (Nat.ne_of_gt hfirst)] at hnext
  refine ⟨e.delay attempt, hnext, ?_, ?_⟩
  · rw [nanos_delay, ← hbase]
    split
    · -- 32 bits hold the factor.
      rename_i hfactor
      constructor
      · intro _
        left
        omega
      · intro _
        rfl
    · -- The delay is the limit, and that is right if the product is not below it.
      rename_i hfactor
      rw [ideal_eq_min]
      constructor
      · intro heq
        right
        rw [heq]
        exact Nat.min_le_left _ _
      · intro h
        rcases h with hsmall | hlimit
        · omega
        · exact (Nat.min_eq_right hlimit).symm
  · intro hlarge
    apply eq_of_nanos_eq
    rw [nanos_delay, if_neg (by omega)]

/-- A maximum of five seconds and a base of one. -/
def cappedSeconds : Exponential := make 50 (.ofSeconds 1) (.ofSeconds 5) .none

/-- Before the fortieth attempt the product is far above the maximum. -/
theorem next_eq_ideal_fortieth :
    (1 ≤ 40 ∧ 40 < Nat.max 50 1) ∧ cappedSeconds.next 40 0 = some (.ofSeconds 5) ∧
      (Duration.ofSeconds 5).nanos = cappedSeconds.ideal 40 := by
  have hfirst : 1 ≤ 40 := by decide
  have hlast : 40 < Nat.max 50 1 := by decide
  rcases next_eq_ideal_iff 50 (.ofSeconds 1) (.ofSeconds 5) 40 0 hfirst hlast with
    ⟨d, hnext, hideal, hlarge⟩
  have hlimit : d = .ofSeconds 5 := hlarge (by decide)
  subst hlimit
  refine ⟨⟨hfirst, hlast⟩, hnext, hideal.2 ?_⟩
  right
  decide

/-- Nanoseconds without a maximum. -/
def nanoseconds : Exponential := make 40 ⟨1, by decide⟩ .zero .none

/-- After thirty-two doublings a nanosecond is four seconds, and the delay is the longest one. -/
theorem next_nanoseconds_not_ideal :
    nanoseconds.ideal 33 = 4294967296 ∧ nanoseconds.next 33 0 = some .longest ∧
      Duration.longest.nanos ≠ nanoseconds.ideal 33 := by
  decide

/-! ## Numbers in words -/

/-- A number, if it is one of so many bits. -/
def fit? (bits n : Nat) : Option Nat := if n < Nat.pow 2 bits then some n else none

/-- A difference, if it is not below zero. -/
def sub? (a b : Nat) : Option Nat := if b ≤ a then some (a - b) else none

/-- What is drawn from the numbers up to a bound, if it is one of them. -/
def draw? (bound drawn : Nat) : Option Nat := if drawn ≤ bound then some drawn else none

/-- The factor before a delay as a word of 32 bits with one bit set. There is none if that bit is
not one of the word's, and no result if the word does not hold it. -/
def factorInWord? (shift : Nat) : Option (Option Nat) :=
  if shift < 32 then (fit? 32 (1 <<< shift)).map some else some none

/-- The delay before an attempt, if no operation leaves its range. -/
def delayInWords? (e : Exponential) (attempt : Nat) : Option Duration := do
  let shift ← sub? attempt 1
  let factor ← factorInWord? shift
  let delay := (factor.bind e.base.mul?).getD .longest
  pure (if !e.max.isZero && decide (e.max < delay) then e.max else delay)

/-- The delay that a drawn number makes, if no operation leaves its range. -/
def spreadInWords? (j : Jitter) (delay : Duration) (drawn : Nat) : Option Duration := do
  let nanos ← fit? 128 delay.nanos
  -- A delay with more nanoseconds than 64 bits hold is spread like the longest one that has not.
  let whole := (fit? 64 nanos).getD (Nat.pow 2 64 - 1)
  match j with
  | .full =>
    let drawn ← draw? whole drawn
    ofNanos? drawn
  | .half =>
    let half := whole / 2
    let rest ← sub? whole half
    let drawn ← draw? rest drawn
    let sum ← fit? 64 (half + drawn)
    ofNanos? sum
  | .none => pure delay

/-- The delay before an attempt when `drawn` is drawn, if no operation leaves its range. -/
def nextInWords? (e : Exponential) (attempt drawn : Nat) : Option (Option Duration) :=
  if e.attempts ≤ attempt then some none
  else if attempt = 0 then some (some .zero)
  else do
    let delay ← e.delayInWords? attempt
    let spread ← spreadInWords? e.jitter delay drawn
    pure (some spread)

theorem fit?_eq_some {bits n : Nat} (h : n < Nat.pow 2 bits) : fit? bits n = some n := if_pos h

theorem sub?_eq_some {a b : Nat} (h : b ≤ a) : sub? a b = some (a - b) := if_pos h

theorem draw?_eq_some {bound drawn : Nat} (h : drawn ≤ bound) : draw? bound drawn = some drawn :=
  if_pos h

/-- A bit of a word of 32 bits fits into it. -/
theorem factorInWord?_eq (attempt : Nat) : factorInWord? (attempt - 1) = some (factor? attempt) := by
  unfold factorInWord? factor?
  split
  · rename_i hshift
    have hpow : Nat.pow 2 (attempt - 1) < Nat.pow 2 32 :=
      Nat.pow_lt_pow_right (by decide) hshift
    have hbit : 1 <<< (attempt - 1) = Nat.pow 2 (attempt - 1) := Nat.one_shiftLeft _
    rw [hbit, fit?_eq_some hpow]
    rfl
  · rfl

theorem delayInWords?_eq (e : Exponential) {attempt : Nat} (h : attempt ≠ 0) :
    e.delayInWords? attempt = some (e.delay attempt) := by
  have hone : 1 ≤ attempt := Nat.one_le_iff_ne_zero.2 h
  unfold delayInWords?
  rw [sub?_eq_some hone, Option.bind_eq_bind, Option.bind_some, factorInWord?_eq]
  rfl

theorem nanos_lt_word (d : Duration) : Jitter.nanos d < Nat.pow 2 64 := by
  have hword : Nat.pow 2 64 = 18446744073709551616 := by decide
  unfold Jitter.nanos
  omega

theorem fit?_getD (d : Duration) :
    (fit? 64 d.nanos).getD (Nat.pow 2 64 - 1) = Jitter.nanos d := by
  have hword : Nat.pow 2 64 = 18446744073709551616 := by decide
  unfold fit? Jitter.nanos
  split
  · rw [Option.getD_some]
    omega
  · rw [Option.getD_none]
    omega

/-- A word of 64 bits is a number of nanoseconds of some duration. -/
theorem ofNanos?_of_lt_word {n : Nat} (h : n < Nat.pow 2 64) :
    ofNanos? n = some (ofNanos n) ∧ (ofNanos n).nanos = n := by
  have hword : Nat.pow 2 64 = 18446744073709551616 := by decide
  have hn : n < 18446744073709551616000000000 := by omega
  constructor
  · rw [ofNanos?, dif_pos hn, ofNanos, dif_pos hn]
  · rw [ofNanos, dif_pos hn]

theorem spreadInWords?_eq (j : Jitter) (delay : Duration) {drawn : Nat}
    (h : drawn ≤ j.bound delay) :
    spreadInWords? j delay drawn = some (j.spread delay drawn) := by
  have hwhole := nanos_lt_word delay
  have hnanos : delay.nanos < Nat.pow 2 128 := Nat.lt_trans delay.nanos_lt (by decide)
  unfold spreadInWords?
  rw [fit?_eq_some hnanos, Option.bind_eq_bind, Option.bind_some, fit?_getD]
  cases j with
  | full =>
    have hdrawn : drawn ≤ Jitter.nanos delay := h
    simp only [draw?_eq_some hdrawn, Option.bind_some]
    exact (ofNanos?_of_lt_word (Nat.lt_of_le_of_lt hdrawn hwhole)).1
  | half =>
    have hdrawn : drawn ≤ Jitter.nanos delay - Jitter.nanos delay / 2 := h
    -- The half that is always there and what is drawn from the other one make the whole at most.
    have hsum : Jitter.nanos delay / 2 + drawn < Nat.pow 2 64 := by omega
    have hhalf : Jitter.nanos delay / 2 ≤ Jitter.nanos delay := Nat.div_le_self _ 2
    simp only [sub?_eq_some hhalf, draw?_eq_some hdrawn, fit?_eq_some hsum, Option.bind_some]
    exact (ofNanos?_of_lt_word hsum).1
  | none => rfl

/-- No operation leaves its range, whatever is drawn. -/
theorem nextInWords?_eq (e : Exponential) {attempt drawn : Nat} (h : drawn ≤ e.bound attempt) :
    e.nextInWords? attempt drawn = some (e.next attempt drawn) := by
  unfold nextInWords? next
  split
  · rfl
  · split
    · rfl
    · rename_i hzero
      have hbound : drawn ≤ e.jitter.bound (e.delay attempt) := by
        rw [bound, if_neg hzero] at h
        exact h
      rw [delayInWords?_eq e hzero, Option.bind_eq_bind, Option.bind_some,
        spreadInWords?_eq e.jitter _ hbound]
      rfl

/-! ## Bounds -/

/-- The delays into which a delay can be spread. -/
def Allows (j : Jitter) (delay d : Duration) : Prop :=
  match j with
  | .full => d.nanos ≤ Jitter.nanos delay
  | .half => Jitter.nanos delay / 2 ≤ d.nanos ∧ d.nanos ≤ Jitter.nanos delay
  | .none => d = delay

theorem plain_mono (e : Exponential) (attempt : Nat) :
    e.plain attempt ≤ e.plain (attempt + 1) := by
  change (e.plain attempt).nanos ≤ (e.plain (attempt + 1)).nanos
  rw [e.plain_of_ne_zero (Nat.succ_ne_zero attempt), nanos_delay]
  by_cases hzero : attempt = 0
  · subst hzero
    exact Nat.zero_le _
  · rw [e.plain_of_ne_zero hzero, nanos_delay, ideal_eq_min, ideal_eq_min]
    have hpow : Nat.pow 2 (attempt - 1) ≤ Nat.pow 2 (attempt + 1 - 1) :=
      Nat.pow_le_pow_right (by decide) (by omega)
    have hproduct : e.base.nanos * Nat.pow 2 (attempt - 1) ≤
        e.base.nanos * Nat.pow 2 (attempt + 1 - 1) := Nat.mul_le_mul_left _ hpow
    split
    · split
      · exact Nat.le_min.2 ⟨Nat.le_trans (Nat.min_le_left _ _) hproduct, Nat.min_le_right _ _⟩
      · -- The next factor is too large, and its delay is the limit.
        exact Nat.min_le_right _ _
    · -- After a factor that is too large comes a larger one.
      rename_i hlarge
      have hnext : ¬ attempt + 1 - 1 < 32 := by omega
      exact Nat.le_of_eq (if_neg hnext).symm

theorem plain_le_limit (e : Exponential) (attempt : Nat) : e.plain attempt ≤ e.limit := by
  change (e.plain attempt).nanos ≤ e.limit.nanos
  by_cases hzero : attempt = 0
  · subst hzero
    exact Nat.zero_le _
  · rw [e.plain_of_ne_zero hzero, nanos_delay, ideal_eq_min]
    split
    · exact Nat.min_le_right _ _
    · exact Nat.le_refl _

theorem nanos_le (d : Duration) : Jitter.nanos d ≤ d.nanos := Nat.min_le_left _ _

/-- What is drawn makes all of the allowed delays, and no other. -/
theorem exists_spread_iff (j : Jitter) (delay d : Duration) :
    (∃ drawn, drawn ≤ j.bound delay ∧ j.spread delay drawn = d) ↔ Allows j delay d := by
  have hwhole := nanos_lt_word delay
  cases j with
  | full =>
    constructor
    · rintro ⟨drawn, hdrawn, rfl⟩
      have hvalue := (ofNanos?_of_lt_word (Nat.lt_of_le_of_lt hdrawn hwhole)).2
      change (ofNanos drawn).nanos ≤ Jitter.nanos delay
      rw [hvalue]
      exact hdrawn
    · intro hallows
      refine ⟨d.nanos, hallows, ?_⟩
      exact eq_of_nanos_eq (ofNanos?_of_lt_word (Nat.lt_of_le_of_lt hallows hwhole)).2
  | half =>
    constructor
    · rintro ⟨drawn, hdrawn, rfl⟩
      change drawn ≤ Jitter.nanos delay - Jitter.nanos delay / 2 at hdrawn
      have hvalue := (ofNanos?_of_lt_word (n := Jitter.nanos delay / 2 + drawn) (by omega)).2
      change _ ≤ (ofNanos _).nanos ∧ (ofNanos _).nanos ≤ _
      rw [hvalue]
      constructor
      · exact Nat.le_add_right _ _
      · omega
    · rintro ⟨hleast, hmost⟩
      refine ⟨d.nanos - Jitter.nanos delay / 2, Nat.sub_le_sub_right hmost _, ?_⟩
      apply eq_of_nanos_eq
      change (ofNanos _).nanos = d.nanos
      rw [Nat.add_sub_cancel' hleast]
      exact (ofNanos?_of_lt_word (Nat.lt_of_le_of_lt hmost hwhole)).2
  | none =>
    constructor
    · rintro ⟨_, _, rfl⟩
      rfl
    · intro hsame
      exact ⟨0, Nat.le_refl 0, hsame.symm⟩

/-- No delay is not spread, so the first attempt is like the other ones. -/
theorem bound_eq (e : Exponential) (attempt : Nat) :
    e.bound attempt = e.jitter.bound (e.plain attempt) := by
  unfold bound plain
  split
  · cases e.jitter with
    | full => rfl
    | half => rfl
    | none => rfl
  · rfl

theorem spread_zero (j : Jitter) : j.spread .zero 0 = .zero := by
  cases j with
  | full => rfl
  | half => rfl
  | none => rfl

theorem next_eq (e : Exponential) {attempt drawn : Nat} (hattempt : attempt < e.attempts)
    (hdrawn : drawn ≤ e.bound attempt) :
    e.next attempt drawn = some (e.jitter.spread (e.plain attempt) drawn) := by
  rw [next, if_neg (Nat.not_le.2 hattempt)]
  split
  · rename_i hzero
    subst hzero
    have hnone : drawn = 0 := Nat.le_zero.1 hdrawn
    subst hnone
    exact congrArg some (spread_zero e.jitter).symm
  · rename_i hzero
    rw [e.plain_of_ne_zero hzero]

/-- What is drawn for an attempt makes the delays into which its plain delay can be spread. -/
theorem exists_next_iff (e : Exponential) (attempt : Nat) (d : Duration) :
    (∃ drawn, drawn ≤ e.bound attempt ∧ e.next attempt drawn = some d) ↔
      attempt < e.attempts ∧ Allows e.jitter (e.plain attempt) d := by
  rw [← exists_spread_iff, ← bound_eq]
  constructor
  · rintro ⟨drawn, hdrawn, hnext⟩
    have hattempt : attempt < e.attempts := by
      apply Nat.lt_of_not_le
      intro hle
      rw [next, if_pos hle] at hnext
      cases hnext
    rw [e.next_eq hattempt hdrawn, Option.some.injEq] at hnext
    exact ⟨hattempt, drawn, hdrawn, hnext⟩
  · rintro ⟨hattempt, drawn, hdrawn, hspread⟩
    refine ⟨drawn, hdrawn, ?_⟩
    rw [e.next_eq hattempt hdrawn, hspread]

theorem le_of_allows {j : Jitter} {delay d : Duration} (h : Allows j delay d) : d ≤ delay := by
  change d.nanos ≤ delay.nanos
  cases j with
  | full => exact Nat.le_trans h (nanos_le delay)
  | half => exact Nat.le_trans h.2 (nanos_le delay)
  | none =>
    have hsame : d = delay := h
    exact Nat.le_of_eq (congrArg Duration.nanos hsame)

/-- What a schedule promises about its delays, whatever is drawn for them. -/
structure IsBounded (e : Exponential) : Prop where
  /-- There is a delay before each attempt of the schedule and before no other. -/
  isSome_next : ∀ attempt drawn, (e.next attempt drawn).isSome = true ↔ attempt < e.attempts
  /-- No operation leaves its range. -/
  inWords : ∀ attempt drawn, drawn ≤ e.bound attempt →
    e.nextInWords? attempt drawn = some (e.next attempt drawn)
  /-- The plain delays are those of the schedule without chance. -/
  plain : ∀ attempt drawn, attempt < e.attempts →
    { e with jitter := .none }.next attempt drawn = some (e.plain attempt)
  first : e.plain 0 = .zero
  mono : ∀ attempt, e.plain attempt ≤ e.plain (attempt + 1)
  le_max : e.max.isZero = false → ∀ attempt, e.plain attempt ≤ e.max
  /-- What is drawn makes the delays that the plain one can be spread into, and no other. -/
  spread : ∀ attempt d, (∃ drawn, drawn ≤ e.bound attempt ∧ e.next attempt drawn = some d) ↔
    attempt < e.attempts ∧ Allows e.jitter (e.plain attempt) d
  /-- No delay exceeds the plain one. -/
  le_plain : ∀ attempt drawn d, drawn ≤ e.bound attempt → e.next attempt drawn = some d →
    d ≤ e.plain attempt

theorem isSome_next_iff (e : Exponential) (attempt drawn : Nat) :
    (e.next attempt drawn).isSome = true ↔ attempt < e.attempts := by
  unfold next
  split
  · rename_i hle
    simpa using hle
  · rename_i hlt
    split
    · simpa using hlt
    · simpa using hlt

/-- Every schedule has at least one attempt and keeps within its bounds. -/
theorem isBounded_make (attempts : Nat) (base max : Duration) (jitter : Jitter) :
    (make attempts base max jitter).attempts = Nat.max attempts 1 ∧
      IsBounded (make attempts base max jitter) := by
  refine ⟨rfl, ?_⟩
  generalize make attempts base max jitter = e
  constructor
  case isSome_next => exact e.isSome_next_iff
  case inWords =>
    intro attempt drawn hdrawn
    exact e.nextInWords?_eq hdrawn
  case plain =>
    intro attempt drawn hattempt
    exact e.next_none_eq hattempt drawn
  case first => rfl
  case mono => exact e.plain_mono
  case le_max =>
    intro hmax attempt
    have hlimit : e.limit = e.max := if_neg (by simp [hmax])
    rw [← hlimit]
    exact e.plain_le_limit attempt
  case spread => exact e.exists_next_iff
  case le_plain =>
    intro attempt drawn d hdrawn hnext
    rcases (e.exists_next_iff attempt d).1 ⟨drawn, hdrawn, hnext⟩ with ⟨-, hallows⟩
    exact le_of_allows hallows

end Exponential
end Outbox
