import Mathlib
import Outbox.Proofs.Time
import Outbox.RateLimit.Double

/-!
# Outbox.Proofs.RateLimit.Bucket — buckets that count exactly

A bucket whose amounts and times are rational numbers, so that nothing is lost when it is
filled. Every request fills the bucket up to the time of the request, also one that is refused.

* `Bucket.take_cases` — all that can come of a request.
* `Bucket.IsSound` — what every bucket keeps to, whenever it is asked.
* `Bucket.after` and `Bucket.grants` are a run of requests: the bucket after it, and the times at
  which a token was given.
* `Bucket.keepsRate_make` — in no span of time a bucket gives more tokens than its burst and what
  comes in during that span.
-/

namespace Outbox

/-! ## Exact numbers -/

/-- A duration in seconds. -/
def Duration.seconds (d : Duration) : ℚ := (d.nanos : ℚ) / 1000000000

/-- The seconds from the start of the clock to an instant. -/
def Instant.seconds (t : Instant) : ℚ := (t.nanos : ℚ) / 1000000000

/-- The duration of a number of seconds, to the nearest nanosecond, if there is one. -/
def Exact.toDuration? (x : ℚ) : Option Duration :=
  if x < 0 then none
  else
    let scaled := x * 1000000000
    Duration.ofNanos? (Double.roundQuotient scaled.num.toNat scaled.den)

instance : Quantity ℚ where
  add := Rat.add
  sub := Rat.sub
  mul := Rat.mul
  div := Rat.div
  ofNat n := (n : ℚ)
  ofDuration := Duration.seconds
  toDuration? := Exact.toDuration?
  atMost a b := decide (a ≤ b)
  isRate x := decide (0 < x)

theorem Duration.seconds_nonneg (d : Duration) : 0 ≤ d.seconds := by
  unfold seconds
  exact div_nonneg (Nat.cast_nonneg _) (by norm_num)

namespace Instant

variable {s t u : Instant}

theorem seconds_le (h : s ≤ t) : s.seconds ≤ t.seconds := by
  have hcast : (s.nanos : ℚ) ≤ t.nanos := Nat.cast_le.2 h
  unfold seconds
  linarith

theorem seconds_since (h : s ≤ t) (near : s.Reaches t) :
    (t.since s).seconds = t.seconds - s.seconds := by
  unfold Duration.seconds
  rw [nanos_since_of_reaches near, Nat.cast_sub h]
  unfold seconds
  ring

/-- The time between two instants stops at the longest duration. -/
theorem seconds_since_le (h : s ≤ t) : (t.since s).seconds ≤ t.seconds - s.seconds := by
  have hle : (t.since s).nanos ≤ t.nanos - s.nanos := by
    rw [nanos_since]
    exact Nat.min_le_left _ _
  have hcast : ((t.since s).nanos : ℚ) ≤ t.nanos - s.nanos := by
    rw [← Nat.cast_sub h]
    exact Nat.cast_le.2 hle
  unfold Duration.seconds seconds
  linarith

end Instant

namespace Bucket

/-! ## Filling -/

section Filling

variable (b : Bucket ℚ) (t : Instant)

theorem tokensAt_eq :
    b.tokensAt t = min (b.tokens + (t.since b.last).seconds * b.rate) b.burst := by
  show (if decide (b.tokens + (t.since b.last).seconds * b.rate ≤ b.burst) = true
    then b.tokens + (t.since b.last).seconds * b.rate else b.burst) = _
  by_cases hle : b.tokens + (t.since b.last).seconds * b.rate ≤ b.burst
  · rw [if_pos (decide_eq_true hle), min_eq_left hle]
  · rw [if_neg (by simpa using hle), min_eq_right (le_of_not_ge hle)]

theorem deficit_eq : b.deficit = (1 - b.tokens) / b.rate := rfl

/-- All that can come of asking for a token. Only a token that is given is taken off, and a bucket
that refuses is left as it is filled. -/
theorem take_cases :
    (1 ≤ b.tokensAt t ∧
      b.take t = (.granted, { b.filled t with tokens := b.tokensAt t - 1 })) ∨
    (b.tokensAt t < 1 ∧ (b.take t).1 ≠ .granted ∧ (b.take t).2 = b.filled t ∧
      ((b.take t).1 = .unbounded ↔ Exact.toDuration? (b.filled t).deficit = none)) := by
  have htest : Quantity.atMost (Quantity.ofNat 1) (b.filled t).tokens =
      decide (1 ≤ b.tokensAt t) := by
    show decide (((1 : ℕ) : ℚ) ≤ b.tokensAt t) = _
    rw [Nat.cast_one]
  have hone : (Quantity.ofNat 1 : ℚ) = 1 := Nat.cast_one
  by_cases htoken : 1 ≤ b.tokensAt t
  · left
    refine ⟨htoken, ?_⟩
    unfold take
    dsimp only
    rw [if_pos (htest.trans (decide_eq_true htoken)), hone]
    rfl
  · right
    unfold take
    dsimp only
    rw [if_neg (by rw [htest]; simpa using htoken)]
    show _ ∧ _ ∧ _ ∧ (_ ↔ Quantity.toDuration? (b.filled t).deficit = none)
    refine ⟨not_le.1 htoken, ?_⟩
    cases Quantity.toDuration? (b.filled t).deficit with
    | some wait => exact ⟨nofun, rfl, nofun, nofun⟩
    | none => exact ⟨nofun, rfl, fun _ => rfl, fun _ => rfl⟩

/-- A token is given exactly if there is one. -/
theorem take_granted_iff : (b.take t).1 = .granted ↔ 1 ≤ b.tokensAt t := by
  rcases b.take_cases t with ⟨htoken, htake⟩ | ⟨hnone, hrefused, -⟩
  · rw [htake]
    exact ⟨fun _ => htoken, fun _ => rfl⟩
  · exact ⟨fun hgranted => absurd hgranted hrefused, fun htoken => absurd htoken (not_le.2 hnone)⟩

theorem take_of_refused (hrefused : (b.take t).1 ≠ .granted) : (b.take t).2 = b.filled t := by
  rcases b.take_cases t with ⟨-, htake⟩ | ⟨-, -, hfilled, -⟩
  · rw [htake] at hrefused
    exact absurd rfl hrefused
  · exact hfilled

/-- Of a bucket that is filled, a request changes nothing but the tokens. -/
theorem take_eq_filled : ∃ tokens, (b.take t).2 = { b.filled t with tokens := tokens } := by
  rcases b.take_cases t with ⟨-, htake⟩ | ⟨-, -, hfilled, -⟩
  · rw [htake]
    exact ⟨b.tokensAt t - 1, rfl⟩
  · rw [hfilled]
    exact ⟨b.tokensAt t, rfl⟩

@[simp]
theorem rate_take : (b.take t).2.rate = b.rate := by
  obtain ⟨tokens, htake⟩ := b.take_eq_filled t
  rw [htake]
  rfl

@[simp]
theorem burst_take : (b.take t).2.burst = b.burst := by
  obtain ⟨tokens, htake⟩ := b.take_eq_filled t
  rw [htake]
  rfl

@[simp]
theorem last_take : (b.take t).2.last = t := by
  obtain ⟨tokens, htake⟩ := b.take_eq_filled t
  rw [htake]
  rfl

/-- What a bucket holds after a request and what it gave are what it was filled up to. -/
theorem tokens_take :
    (b.take t).2.tokens + (if (b.take t).1 = .granted then 1 else 0) = b.tokensAt t := by
  rcases b.take_cases t with ⟨-, htake⟩ | ⟨-, hrefused, hfilled, -⟩
  · rw [htake, if_pos rfl]
    exact sub_add_cancel _ _
  · rw [if_neg hrefused, hfilled, add_zero]
    rfl

end Filling

/-! ## What every bucket keeps to -/

/-- A bucket with a rate and a burst that it can work with, and with an amount of tokens that it
has room for. -/
structure IsSound (b : Bucket ℚ) : Prop where
  rate_pos : 0 < b.rate
  one_le_burst : 1 ≤ b.burst
  tokens_nonneg : 0 ≤ b.tokens
  tokens_le_burst : b.tokens ≤ b.burst

theorem rate_make (rate : ℚ) (burst : Nat) (now : Instant) :
    (make rate burst now).rate = if 0 < rate then rate else 1 := by
  show (if decide (0 < rate) = true then rate else ((1 : ℕ) : ℚ)) = _
  simp only [decide_eq_true_eq, Nat.cast_one]

theorem burst_make (rate : ℚ) (burst : Nat) (now : Instant) :
    (make rate burst now).burst = (Nat.max burst 1 : ℕ) := rfl

theorem tokens_make (rate : ℚ) (burst : Nat) (now : Instant) :
    (make rate burst now).tokens = (make rate burst now).burst := rfl

theorem isSound_make (rate : ℚ) (burst : Nat) (now : Instant) : (make rate burst now).IsSound := by
  have hburst : (1 : ℚ) ≤ (make rate burst now).burst := by
    rw [burst_make]
    exact_mod_cast Nat.le_max_right burst 1
  constructor
  case rate_pos =>
    rw [rate_make]
    split
    · assumption
    · exact one_pos
  case one_le_burst => exact hburst
  case tokens_nonneg => exact le_trans zero_le_one hburst
  case tokens_le_burst => exact le_refl _

section Sound

variable {b : Bucket ℚ}

theorem tokensAt_le_burst (t : Instant) : b.tokensAt t ≤ b.burst := by
  rw [tokensAt_eq]
  exact min_le_right _ _

theorem IsSound.tokensAt_nonneg (h : b.IsSound) (t : Instant) : 0 ≤ b.tokensAt t := by
  have hcome : 0 ≤ (t.since b.last).seconds * b.rate :=
    mul_nonneg (Duration.seconds_nonneg _) (le_of_lt h.rate_pos)
  rw [tokensAt_eq]
  exact le_min (add_nonneg h.tokens_nonneg hcome) (le_trans zero_le_one h.one_le_burst)

/-- A request leaves a bucket sound, whenever it is made. -/
theorem IsSound.take (h : b.IsSound) (t : Instant) : (b.take t).2.IsSound := by
  constructor
  case rate_pos =>
    rw [rate_take]
    exact h.rate_pos
  case one_le_burst =>
    rw [burst_take]
    exact h.one_le_burst
  case tokens_nonneg =>
    rcases b.take_cases t with ⟨htoken, htake⟩ | ⟨-, -, hfilled, -⟩
    · rw [htake]
      exact sub_nonneg.2 htoken
    · rw [hfilled]
      exact h.tokensAt_nonneg t
  case tokens_le_burst =>
    rw [burst_take]
    rcases b.take_cases t with ⟨-, htake⟩ | ⟨-, -, hfilled, -⟩
    · rw [htake]
      exact le_trans (sub_le_self _ zero_le_one) (tokensAt_le_burst t)
    · rw [hfilled]
      exact tokensAt_le_burst t

end Sound

/-! ## Runs of requests -/

/-- The bucket after it was asked at these times, one after another, by whomever. -/
def after {K : Type} [Quantity K] (b : Bucket K) (times : List Instant) : Bucket K :=
  times.foldl (fun b t => (b.take t).2) b

/-- The times at which a token was given, of those at which the bucket was asked. -/
def grants {K : Type} [Quantity K] (b : Bucket K) : List Instant → List Instant
  | [] => []
  | t :: rest =>
    if (b.take t).1 = .granted then t :: (b.take t).2.grants rest else (b.take t).2.grants rest

/-- The number of tokens that were given from `s` to `t`. -/
def grantedIn {K : Type} [Quantity K] (b : Bucket K) (times : List Instant) (s t : Instant) : Nat :=
  (b.grants times).countP fun u => decide (s ≤ u ∧ u ≤ t)

@[simp]
theorem after_cons {K : Type} [Quantity K] (b : Bucket K) (t : Instant) (times : List Instant) :
    b.after (t :: times) = (b.take t).2.after times := rfl

theorem mem_of_mem_grants {K : Type} [Quantity K] {b : Bucket K} {times : List Instant}
    {u : Instant} (h : u ∈ b.grants times) : u ∈ times := by
  induction times generalizing b with
  | nil => cases h
  | cons t rest ih =>
    rw [grants] at h
    split at h
    · rcases List.mem_cons.1 h with rfl | hrest
      · exact List.mem_cons_self
      · exact List.mem_cons_of_mem _ (ih hrest)
    · exact List.mem_cons_of_mem _ (ih h)

section Runs

variable {b : Bucket ℚ} {s t u : Instant}

theorem IsSound.after (h : b.IsSound) (times : List Instant) : (b.after times).IsSound := by
  induction times generalizing b with
  | nil => exact h
  | cons t rest ih => exact ih (h.take t)

@[simp]
theorem rate_after (b : Bucket ℚ) (times : List Instant) : (b.after times).rate = b.rate := by
  induction times generalizing b with
  | nil => rfl
  | cons t rest ih => rw [after_cons, ih, rate_take]

@[simp]
theorem burst_after (b : Bucket ℚ) (times : List Instant) : (b.after times).burst = b.burst := by
  induction times generalizing b with
  | nil => rfl
  | cons t rest ih => rw [after_cons, ih, burst_take]

/-- The first request of a run counts if a token is given and its time is in the span. -/
theorem grantedIn_cons (u : Instant) (rest : List Instant) :
    b.grantedIn (u :: rest) s t =
      (b.take u).2.grantedIn rest s t +
        (if (b.take u).1 = .granted ∧ s ≤ u ∧ u ≤ t then 1 else 0) := by
  unfold grantedIn
  rw [grants]
  by_cases hgranted : (b.take u).1 = .granted
  · rw [if_pos hgranted, List.countP_cons]
    by_cases hspan : s ≤ u ∧ u ≤ t
    · simp [hgranted, hspan]
    · simp [hspan]
  · simp [hgranted]

/-- A run gives nothing in a span that ends before its first request. -/
theorem grantedIn_eq_zero {times : List Instant} (hordered : (u :: times).Pairwise (· ≤ ·))
    (hlater : ¬ u ≤ t) : b.grantedIn (u :: times) s t = 0 := by
  refine List.countP_eq_zero.2 ?_
  intro v hgranted hspan
  have hv : v.nanos ≤ t.nanos := (of_decide_eq_true hspan).2
  have huv : u.nanos ≤ v.nanos := by
    rcases List.mem_cons.1 (mem_of_mem_grants hgranted) with rfl | hrest
    · exact Nat.le_refl _
    · exact (List.pairwise_cons.1 hordered).1 v hrest
  exact hlater (Nat.le_trans huv hv)

/-- What comes in during a span of time. -/
theorem IsSound.income_nonneg (h : b.IsSound) (hspan : s ≤ t) :
    0 ≤ b.rate * (t.seconds - s.seconds) :=
  mul_nonneg (le_of_lt h.rate_pos) (sub_nonneg.2 (Instant.seconds_le hspan))

/-- What a request gives in a span and what it leaves are together no more than what the bucket was
filled up to. -/
theorem tokens_take_le (b : Bucket ℚ) (u : Instant) :
    (b.take u).2.tokens + (if (b.take u).1 = .granted ∧ s ≤ u ∧ u ≤ t then 1 else 0) ≤
      b.tokensAt u := by
  rw [← tokens_take]
  by_cases hgranted : (b.take u).1 = .granted
  · rw [if_pos hgranted]
    split
    · exact le_refl _
    · linarith
  · rw [if_neg hgranted, if_neg (fun h => hgranted h.1)]

theorem IsSound.tokensAt_le (h : b.IsSound) (hlast : b.last ≤ u) :
    b.tokensAt u ≤ b.tokens + b.rate * (u.seconds - b.last.seconds) := by
  have hcome : (u.since b.last).seconds * b.rate ≤ (u.seconds - b.last.seconds) * b.rate :=
    mul_le_mul_of_nonneg_right (Instant.seconds_since_le hlast) (le_of_lt h.rate_pos)
  rw [tokensAt_eq]
  refine le_trans (min_le_left _ _) ?_
  linarith

/-- What a bucket gives from its last check on until a time is at most what it holds and what comes
in until then. -/
theorem grantedIn_le_tokens (hb : b.IsSound) (times : List Instant)
    (hordered : (b.last :: times).Pairwise (· ≤ ·)) (ht : b.last ≤ t) :
    (b.grantedIn times s t : ℚ) ≤ b.tokens + b.rate * (t.seconds - b.last.seconds) := by
  have hnone : (0 : ℚ) ≤ b.tokens + b.rate * (t.seconds - b.last.seconds) :=
    add_nonneg hb.tokens_nonneg (hb.income_nonneg ht)
  -- By induction on the requests. The first one fills the bucket up to its time, and from then on
  -- its time is that of the last check.
  induction times generalizing b with
  | nil => exact hnone
  | cons u rest ih =>
    rw [List.pairwise_cons] at hordered
    have hu : b.last ≤ u := hordered.1 u List.mem_cons_self
    by_cases hin : u ≤ t
    · have hstep := tokens_take_le (s := s) (t := t) b u
      have hfilled := hb.tokensAt_le hu
      have hrest : ((b.take u).2.grantedIn rest s t : ℚ) ≤
          (b.take u).2.tokens + b.rate * (t.seconds - u.seconds) := by
        have hsound := hb.take u
        have hincome := hsound.income_nonneg hin
        have hih := ih hsound
        rw [rate_take, last_take] at hih
        rw [rate_take] at hincome
        exact hih hordered.2 hin (add_nonneg hsound.tokens_nonneg hincome)
      rw [grantedIn_cons, Nat.cast_add, Nat.cast_ite, Nat.cast_one, Nat.cast_zero]
      linarith
    · rw [grantedIn_eq_zero hordered.2 hin]
      exact hnone

/-- In a span of time a bucket gives at most its burst and what comes in during that span. -/
theorem grantedIn_le (hb : b.IsSound) (times : List Instant) (hordered : times.Pairwise (· ≤ ·))
    (hspan : s ≤ t) :
    (b.grantedIn times s t : ℚ) ≤ b.burst + b.rate * (t.seconds - s.seconds) := by
  have hnone : (0 : ℚ) ≤ b.burst + b.rate * (t.seconds - s.seconds) :=
    add_nonneg (le_trans zero_le_one hb.one_le_burst) (hb.income_nonneg hspan)
  -- By induction on the requests before the span.
  induction times generalizing b with
  | nil => exact hnone
  | cons u rest ih =>
    by_cases hbefore : s ≤ u
    · by_cases hin : u ≤ t
      · -- The first request in the span finds a full bucket at most. What follows is given from
        -- what it leaves and from what comes in after it.
        have hstep := tokens_take_le (s := s) (t := t) b u
        have hfull := tokensAt_le_burst (b := b) u
        have hrest : ((b.take u).2.grantedIn rest s t : ℚ) ≤
            (b.take u).2.tokens + b.rate * (t.seconds - u.seconds) := by
          have hle := grantedIn_le_tokens (s := s) (t := t) (hb.take u) rest
          rw [rate_take, last_take] at hle
          exact hle hordered hin
        have hincome := hb.income_nonneg hbefore
        rw [grantedIn_cons, Nat.cast_add, Nat.cast_ite, Nat.cast_one, Nat.cast_zero]
        linarith
      · rw [grantedIn_eq_zero hordered hin]
        exact hnone
    · have hih := ih (hb.take u) (List.pairwise_cons.1 hordered).2
      rw [rate_take, burst_take] at hih
      rw [grantedIn_cons, if_neg (fun h => hbefore h.2.1), add_zero]
      exact hih hnone

/-- A bucket that is asked at these times, by one after another of any number of callers, never
holds less than nothing or more than its burst, and in no span of time it gives more than its burst
and what comes in during that span. -/
theorem keepsRate_make (rate : ℚ) (burst : Nat) (start : Instant) (times : List Instant)
    (hordered : times.Pairwise (· ≤ ·)) :
    (∀ asked, asked <+: times →
      0 ≤ ((make rate burst start).after asked).tokens ∧
        ((make rate burst start).after asked).tokens ≤ (Nat.max burst 1 : ℕ)) ∧
      ∀ s t, s ≤ t →
        ((make rate burst start).grantedIn times s t : ℚ) ≤
          (Nat.max burst 1 : ℕ) + (if 0 < rate then rate else 1) * (t.seconds - s.seconds) := by
  have hsound := isSound_make rate burst start
  constructor
  · intro asked _
    have hafter := hsound.after asked
    refine ⟨hafter.tokens_nonneg, ?_⟩
    rw [← burst_make rate burst start, ← burst_after (make rate burst start) asked]
    exact hafter.tokens_le_burst
  · intro s t hspan
    rw [← burst_make rate burst start, ← rate_make rate burst start]
    exact grantedIn_le hsound times hordered hspan

/-- With two tokens at the start and ten in a second, four requests in a tenth of a second get the
three tokens that the bound allows. -/
theorem keepsRate_make_four :
    (make (10 : ℚ) 2 .start).grantedIn [.start, .start, .start, .ofMillis 100] .start
        (.ofMillis 100) = 3 ∧
      (3 : ℚ) ≤ (Nat.max 2 1 : ℕ) + 10 * ((Instant.ofMillis 100).seconds - Instant.start.seconds) := by
  have hcount : (make (10 : ℚ) 2 .start).grantedIn [.start, .start, .start, .ofMillis 100] .start
      (.ofMillis 100) = 3 := by
    cbv
  have hbound := (keepsRate_make 10 2 .start [.start, .start, .start, .ofMillis 100]
    (by decide)).2 .start (.ofMillis 100) (by decide)
  rw [hcount, if_pos (by norm_num)] at hbound
  exact ⟨hcount, hbound⟩

end Runs

end Bucket
end Outbox
