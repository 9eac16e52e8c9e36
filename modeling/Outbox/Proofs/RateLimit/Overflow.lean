import Outbox.Proofs.Mailer.Deadline
import Outbox.Proofs.RateLimit.Polling

/-!
# Outbox.Proofs.RateLimit.Overflow — waits that are no durations

A bucket that refuses says how long to wait. That is a quotient of what is missing and of the rate,
and durations end at 2^64 seconds, so at a small enough rate there is nothing it could say.

* `Exact.toDuration?_eq_none_iff` — half a nanosecond more than the longest duration is too long.
* `Bucket.IsSound.take_ne_unbounded` — a bucket never has to wait for longer than one token takes
  to come.
* `Bucket.take_drained_iff` — a bucket whose burst was used up at once has to wait for just as long.
* `Queue.wait_ne_unbounded` and `Act.unbounded_of_waitForToken` — what this means for those who
  wait, alone or with others, and for a send.
-/

namespace Outbox

/-! ## Rounding -/

/-- Of two equally near numbers the even one is taken, so an odd bound is kept exactly below the
half above it. -/
theorem Double.roundQuotient_le_iff {n d bound : Nat} (hd : 0 < d) (hodd : bound % 2 = 1) :
    roundQuotient n d ≤ bound ↔ 2 * n < (2 * bound + 1) * d := by
  have hn : d * (n / d) + n % d = n := Nat.div_add_mod n d
  have hr : n % d < d := Nat.mod_lt n hd
  have hbound : (2 * bound + 1) * d = 2 * (d * bound) + d := by ring
  rw [hbound]
  unfold roundQuotient
  simp only [Bool.or_eq_true, Bool.and_eq_true, decide_eq_true_eq]
  -- Below the bound, at it and above it: only at it the remainder decides.
  generalize n / d = q at hn ⊢
  generalize n % d = r at hn hr ⊢
  rcases Nat.lt_trichotomy q bound with hlt | rfl | hgt
  · have hmul : d * q + d ≤ d * bound := Nat.mul_succ d q ▸ Nat.mul_le_mul_left d hlt
    split <;> omega
  · split <;> omega
  · have hmul : d * bound + d ≤ d * q := Nat.mul_succ d bound ▸ Nat.mul_le_mul_left d hgt
    split <;> omega

theorem Duration.ofNanos?_eq_none_iff (n : Nat) : ofNanos? n = none ↔ ¬ n ≤ longest.nanos := by
  have hlongest : longest.nanos = 18446744073709551615999999999 := rfl
  unfold ofNanos?
  split
  · exact iff_of_false (Option.some_ne_none _) (by omega)
  · exact iff_of_true rfl (by omega)

/-- Half a nanosecond more than the longest duration is rounded up, to what is no duration. -/
theorem Exact.toDuration?_eq_none_iff {x : ℚ} (hx : 0 ≤ x) :
    toDuration? x = none ↔ Duration.longest.seconds + 1 / 2000000000 ≤ x := by
  have hscaled : 0 ≤ x * 1000000000 := mul_nonneg hx (by norm_num)
  -- The rounding is one of natural numbers: numerator and denominator of the nanoseconds.
  have hnum : (((x * 1000000000).num.toNat : ℕ) : ℚ) =
      x * 1000000000 * ((x * 1000000000).den : ℚ) := by
    rw [Rat.mul_den_eq_num, ← Int.cast_natCast, Int.toNat_of_nonneg (Rat.num_nonneg.2 hscaled)]
  have hden : (0 : ℚ) < ((x * 1000000000).den : ℚ) := Nat.cast_pos.2 (Rat.den_pos _)
  rw [toDuration?, if_neg (not_lt.2 hx)]
  dsimp only
  rw [Duration.ofNanos?_eq_none_iff, Double.roundQuotient_le_iff (Rat.den_pos _) (by decide),
    not_lt, ← Nat.cast_le (α := ℚ)]
  push_cast
  rw [hnum, ← mul_assoc, mul_le_mul_iff_of_pos_right hden]
  unfold Duration.seconds
  constructor
  · intro h
    linarith
  · intro h
    linarith

/-! ## Buckets -/

namespace Bucket

variable {b : Bucket ℚ} {t : Instant}

/-- A sound bucket that holds no token says how long to wait, unless that is no duration. -/
theorem IsSound.take_unbounded_iff (h : b.IsSound) (hnone : b.tokensAt t < 1) :
    (b.take t).1 = .unbounded ↔
      Duration.longest.seconds + 1 / 2000000000 ≤ (1 - b.tokensAt t) / b.rate := by
  rcases b.take_cases t with ⟨htoken, -⟩ | ⟨-, -, -, hunbounded⟩
  · exact absurd hnone (not_lt.2 htoken)
  · have hnonneg : 0 ≤ (1 - b.tokensAt t) / b.rate :=
      div_nonneg (sub_nonneg.2 (le_of_lt hnone)) (le_of_lt h.rate_pos)
    rw [hunbounded, deficit_eq]
    exact Exact.toDuration?_eq_none_iff hnonneg

/-- A bucket that gets a token in the time of a duration always says how long to wait. -/
theorem IsSound.take_ne_unbounded (h : b.IsSound)
    (hrate : 1 / b.rate < Duration.longest.seconds + 1 / 2000000000) (t : Instant) :
    (b.take t).1 ≠ .unbounded := by
  intro hunbounded
  rcases b.take_cases t with ⟨-, htake⟩ | ⟨hnone, -, -, -⟩
  · rw [htake] at hunbounded
    cases hunbounded
  · -- At most one whole token is missing.
    have hlong := (h.take_unbounded_iff hnone).1 hunbounded
    have hmost : (1 - b.tokensAt t) / b.rate ≤ 1 / b.rate :=
      div_le_div_of_nonneg_right (sub_le_self _ (h.tokensAt_nonneg t)) (le_of_lt h.rate_pos)
    linarith

theorem tokensAt_of_last (hlast : b.last = t) (hroom : b.tokens ≤ b.burst) :
    b.tokensAt t = b.tokens := by
  -- No time has passed since the last check, so nothing came in.
  have hnow : (t.since t).seconds = 0 := by
    unfold Duration.seconds
    rw [Instant.nanos_since, Nat.sub_self]
    exact zero_div _
  rw [tokensAt_eq, hlast, hnow, zero_mul, add_zero, min_eq_left hroom]

theorem last_after_replicate (hlast : b.last = t) (n : Nat) :
    (b.after (List.replicate n t)).last = t := by
  induction n generalizing b with
  | zero => exact hlast
  | succ n ih => exact ih (last_take b t)

/-- As long as there are tokens, requests at the time of the last check use them up. -/
theorem tokens_after_replicate (hlast : b.last = t) (hroom : b.tokens ≤ b.burst) (n : Nat)
    (hn : (n : ℚ) ≤ b.tokens) : (b.after (List.replicate n t)).tokens = b.tokens - n := by
  induction n generalizing b with
  | zero => exact (sub_eq_self.2 Nat.cast_zero).symm
  | succ n ih =>
    rw [Nat.cast_succ] at hn
    have htoken : 1 ≤ b.tokensAt t := by
      rw [tokensAt_of_last hlast hroom]
      linarith [(Nat.cast_nonneg n : (0 : ℚ) ≤ n)]
    have htokens : (b.take t).2.tokens = b.tokens - 1 := by
      have htake := tokens_take b t
      rw [if_pos ((take_granted_iff b t).2 htoken), tokensAt_of_last hlast hroom] at htake
      linarith
    have hrest := ih (last_take b t) (by rw [htokens, burst_take]; linarith)
      (by rw [htokens]; linarith)
    rw [List.replicate_succ, after_cons, hrest, htokens, Nat.cast_succ]
    ring

/-- The requests that use up the burst of a new bucket at once. -/
def drain (burst : Nat) (start : Instant) : List Instant := List.replicate (Nat.max burst 1) start

theorem pairwise_drain (burst : Nat) (start : Instant) :
    (start :: drain burst start ++ [start]).Pairwise (· ≤ ·) := by
  unfold drain
  rw [← List.replicate_succ, ← List.replicate_succ']
  exact List.pairwise_replicate.2 (.inr (Nat.le_refl _))

theorem tokens_after_drain (rate : ℚ) (burst : Nat) (start : Instant) :
    ((make rate burst start).after (drain burst start)).tokens = 0 := by
  have hfull := tokens_make rate burst start
  have hcount : (make rate burst start).tokens = (Nat.max burst 1 : ℕ) :=
    hfull.trans (burst_make rate burst start)
  unfold drain
  rw [tokens_after_replicate (t := start) rfl (le_of_eq hfull) _ (le_of_eq hcount.symm), hcount,
    sub_self]

/-- A bucket whose burst was used up at once has to wait for as long as one token takes to come. -/
theorem take_drained_iff (rate : ℚ) (burst : Nat) (start : Instant) :
    (((make rate burst start).after (drain burst start)).take start).1 = .unbounded ↔
      Duration.longest.seconds + 1 / 2000000000 ≤ 1 / (make rate burst start).rate := by
  have hsound := (isSound_make rate burst start).after (drain burst start)
  have hempty := tokens_after_drain rate burst start
  have hnow : ((make rate burst start).after (drain burst start)).tokensAt start = 0 := by
    have hlast : ((make rate burst start).after (drain burst start)).last = start :=
      last_after_replicate rfl _
    rw [tokensAt_of_last hlast hsound.tokens_le_burst, hempty]
  rw [hsound.take_unbounded_iff (by rw [hnow]; exact one_pos), hnow, sub_zero, rate_after]

end Bucket

/-! ## Waiting -/

namespace Queue

section

variable {K : Type} [Quantity K] {P : Bucket K → Prop} {q : Queue K}

/-- What a request keeps of a bucket, a waiter keeps of it too. -/
theorem bucket_ask (step : ∀ b t, P b → P (b.take t).2) (w : Waiter) (h : P q.bucket) :
    P (q.ask w).bucket := by
  have hstep := step q.bucket q.now h
  unfold ask
  dsimp only
  cases (q.bucket.take q.now).1 <;> exact hstep

theorem bucket_foldl_ask (step : ∀ b t, P b → P (b.take t).2) (waiters : List Waiter)
    (h : P q.bucket) : P (waiters.foldl ask q).bucket := by
  induction waiters generalizing q with
  | nil => exact h
  | cons w rest ih => exact ih (bucket_ask step w h)

theorem bucket_askDue (step : ∀ b t, P b → P (b.take t).2) (most : Nat) (time : Instant)
    (h : P q.bucket) : P (askDue most q time).bucket := bucket_foldl_ask step _ h

theorem bucket_advance (step : ∀ b t, P b → P (b.take t).2) (rounds : Nat) (target : Instant)
    (h : P q.bucket) : P (advance rounds q target).bucket := by
  induction rounds generalizing q with
  | zero => exact h
  | succ rounds ih =>
    unfold advance
    split
    · exact h
    · split
      · exact ih (bucket_askDue step _ _ h)
      · exact h

theorem bucket_sleepUntil (step : ∀ b t, P b → P (b.take t).2) (target : Instant)
    (h : P q.bucket) : P (q.sleepUntil target).bucket := by
  unfold sleepUntil
  split
  · exact h
  · exact bucket_advance step _ _ h

/-- If no request to a bucket can overflow, no wait can, whoever else waits. -/
theorem wait_ne_unbounded (step : ∀ b t, P b → P (b.take t).2)
    (fits : ∀ b t, P b → (b.take t).1 ≠ .unbounded) (rounds : Nat) (h : P q.bucket) :
    (q.wait rounds).1 ≠ .unbounded := by
  induction rounds generalizing q with
  | zero =>
    rw [wait_zero]
    exact fits _ _ h
  | succ rounds ih =>
    by_cases hrefused : ∃ d, (q.bucket.take q.now).1 = .refused d
    · obtain ⟨d, hrefused⟩ := hrefused
      rw [wait_of_refused hrefused]
      exact ih (bucket_sleepUntil step _ (step _ _ h))
    · rw [wait_of_not_refused (not_exists.1 hrefused)]
      exact fits _ _ h

end

end Queue

/-! ## Sends -/

/-- The surroundings after a bucket was asked for a token. -/
def World.asked (w : World) (slot : Nat) : World :=
  { w with buckets := World.put w.buckets slot ((w.buckets slot).take w.now).2 }

theorem World.buckets_asked (w : World) (slot : Nat) :
    (w.asked slot).buckets slot = ((w.buckets slot).take w.now).2 := if_pos rfl

namespace Act

variable {limits : List Limit} {w : World}

/-- Nothing but time and the planned tokens change in a sleep. -/
theorem sleep_run (d : Duration) (limits : List Limit) (w : World) :
    w.now ≤ (Act.sleep d limits w).2.now ∧ (Act.sleep d limits w).2.buckets = w.buckets := by
  show w.now ≤ (Act.wait (some (w.now.timer d)) limits w).2.now ∧
    (Act.wait (some (w.now.timer d)) limits w).2.buckets = w.buckets
  unfold Act.wait
  split
  · exact ⟨Nat.le_refl _, rfl⟩
  next e first => exact ⟨now_le_of_mem_endings (firstEnding_mem first), rfl⟩

theorem waitForToken_succ (slot n : Nat) (limits : List Limit) (w : World) :
    waitForToken slot (n + 1) limits w =
      (match ((w.buckets slot).take w.now).1 with
        | .granted => pure ()
        | .refused d => Act.sleep (max d leastWait) >>= fun _ => waitForToken slot n
        | .unbounded => Act.overflow : Act Unit) limits (w.asked slot) := rfl

/-- The wait for a token overflows only after a run of refusals whose last one tells no time. -/
theorem unbounded_of_waitForToken {slot n : Nat}
    (h : (waitForToken slot n limits w).1 = .overflow) :
    ∃ times t, (w.now :: times ++ [t]).Pairwise (· ≤ ·) ∧
      (((w.buckets slot).after times).take t).1 = .unbounded := by
  -- By induction on the requests that are left. After a refusal the sleep leaves the bucket as it
  -- is and does not go back in time.
  induction n generalizing w with
  | zero => cases h
  | succ n ih =>
    rw [waitForToken_succ] at h
    cases htaking : ((w.buckets slot).take w.now).1 with
    | granted =>
      rw [htaking] at h
      cases h
    | unbounded => exact ⟨[], w.now, List.pairwise_pair.2 (Nat.le_refl _), htaking⟩
    | refused d =>
      rw [htaking] at h
      dsimp only at h
      have hslept := sleep_run (max d leastWait) limits (w.asked slot)
      rcases bind_cases (Act.sleep (max d leastWait)) (fun _ => waitForToken slot n) limits
        (w.asked slot) with ⟨-, -, run⟩ | ⟨stopped, -⟩
      · rw [run] at h
        obtain ⟨times, t, hordered, hunbounded⟩ := ih h
        rw [hslept.2, World.buckets_asked] at hunbounded
        rw [List.cons_append, List.pairwise_cons] at hordered
        have hlater : ∀ u ∈ times ++ [t], w.now ≤ u := fun u hu =>
          Nat.le_trans hslept.1 (hordered.1 u hu)
        refine ⟨w.now :: times, t, ?_, hunbounded⟩
        simp only [List.cons_append, List.pairwise_cons, List.mem_cons]
        refine ⟨?_, hlater, hordered.2⟩
        rintro u (rfl | hu)
        · exact Nat.le_refl _
        · exact hlater u hu
      · rw [h] at stopped
        exact absurd stopped.eq_overflow (InRange.compositional.sleep _ _ _)

end Act

namespace Mailer

variable {limits : List Limit} {w : World}

/-- The rate limit of a send is out of range only if its bucket is. -/
theorem unbounded_of_takeToken {c : Context} {s : SendSettings}
    (h : (takeToken c s limits w).1 = .overflow) :
    ∃ slot times t, s.rateLimit = some slot ∧ (w.now :: times ++ [t]).Pairwise (· ≤ ·) ∧
      (((w.buckets slot).after times).take t).1 = .unbounded := by
  unfold takeToken at h
  cases hslot : s.rateLimit with
  | none =>
    rw [hslot] at h
    cases h
  | some slot =>
    rw [hslot] at h
    dsimp only at h
    cases hended : c.failure? w.signals w.now with
    | some e =>
      rw [Act.under_ended _ _ hended] at h
      cases h
    | none =>
      rw [Act.under_open _ _ hended, Act.limited_overflow] at h
      obtain ⟨times, t, hordered, hunbounded⟩ := Act.unbounded_of_waitForToken h
      exact ⟨slot, times, t, rfl, hordered, hunbounded⟩

/-- A send whose bucket cannot say how long to wait fails by that. -/
theorem send_overflow (m : Mailer) (c : Context) (message : Message) (s : SendSettings)
    (o : Mime.Occasion) (draw : Nat → Nat) {slot : Nat} (hslot : s.rateLimit = some slot)
    (hopen : c.failure? w.signals w.now = none)
    (hunbounded : ((w.buckets slot).take w.now).1 = .unbounded) :
    (m.send c message s o draw limits w).1 = .overflow := by
  have hwait : (waitForToken slot askLimit (limits ++ [.context c]) w).1 = .overflow := by
    rw [Act.waitForToken_succ slot 999999, hunbounded]
    rfl
  refine m.send_of_takeToken_overflow c message s o draw ?_
  unfold takeToken
  rw [hslot]
  dsimp only
  rw [Act.under_open _ _ hopen]
  exact (Act.limited_overflow _ _ _ _).2 hwait

end Mailer
/-- Exactly if the time in which one token comes is a duration, when it is rounded to nanoseconds,
a new bucket answers every run of requests, however long its burst lasts, and no wait for it
overflows, whoever else waits. A send overflows at its rate limit only if there is such a run of
requests to its bucket from then on, and it does so if its first request is one. -/
theorem Bucket.take_ne_unbounded_iff (rate : ℚ) (burst : Nat) (start : Instant) :
    ((∀ times t, (start :: times ++ [t]).Pairwise (· ≤ ·) →
        (((make rate burst start).after times).take t).1 ≠ .unbounded) ↔
      1 / (if 0 < rate then rate else 1) < Duration.longest.seconds + 1 / 2000000000) ∧
    ((∀ (q : Queue ℚ) times, q.bucket = (make rate burst start).after times →
        q.tryTake.1 ≠ .unbounded ∧ ∀ rounds, (q.wait rounds).1 ≠ .unbounded) ↔
      1 / (if 0 < rate then rate else 1) < Duration.longest.seconds + 1 / 2000000000) ∧
    ∀ (m : Mailer) (c : Context) (message : Message) (s : SendSettings) (o : Mime.Occasion)
      (draw : Nat → Nat) (limits : List Limit) (w : World),
      ((Mailer.takeToken c s limits w).1 = .overflow →
        ∃ slot times t, s.rateLimit = some slot ∧ (w.now :: times ++ [t]).Pairwise (· ≤ ·) ∧
          (((w.buckets slot).after times).take t).1 = .unbounded) ∧
      ∀ slot, s.rateLimit = some slot → c.failure? w.signals w.now = none →
        ((w.buckets slot).take w.now).1 = .unbounded →
        (m.send c message s o draw limits w).1 = .overflow := by
  have hsound := isSound_make rate burst start
  have hdrained := take_drained_iff rate burst start
  rw [← rate_make rate burst start]
  refine ⟨⟨?_, ?_⟩, ⟨?_, ?_⟩, ?_⟩
  · -- At a smaller rate, a run that uses up the burst at once and asks again overflows.
    intro hanswers
    refine lt_of_not_ge fun hlong => ?_
    exact hanswers _ start (pairwise_drain burst start) (hdrained.2 hlong)
  · intro hrate times t _
    refine (hsound.after times).take_ne_unbounded ?_ t
    rw [rate_after]
    exact hrate
  · intro hwaits
    refine lt_of_not_ge fun hlong => ?_
    exact (hwaits ⟨(make rate burst start).after (drain burst start), start, [], []⟩ _ rfl).1
      (hdrained.2 hlong)
  · intro hrate q times hbucket
    -- What holds of the bucket at first and after every request: its rate and that it is sound.
    have hstep : ∀ (b : Bucket ℚ) t, b.IsSound ∧ b.rate = (make rate burst start).rate →
        (b.take t).2.IsSound ∧ (b.take t).2.rate = (make rate burst start).rate :=
      fun b t h => ⟨h.1.take t, (rate_take b t).trans h.2⟩
    have hfits : ∀ (b : Bucket ℚ) t, b.IsSound ∧ b.rate = (make rate burst start).rate →
        (b.take t).1 ≠ .unbounded :=
      fun b t h => h.1.take_ne_unbounded (by rw [h.2]; exact hrate) t
    have hfirst : q.bucket.IsSound ∧ q.bucket.rate = (make rate burst start).rate := by
      rw [hbucket]
      exact ⟨hsound.after times, rate_after _ times⟩
    refine ⟨hfits _ q.now hfirst, fun rounds => ?_⟩
    exact Queue.wait_ne_unbounded hstep hfits rounds hfirst
  · intro m c message s o draw limits w
    refine ⟨Mailer.unbounded_of_takeToken, fun slot hslot hopen hunbounded => ?_⟩
    exact m.send_overflow c message s o draw hslot hopen hunbounded

/-- With one token in 10^20 seconds, the second request overflows. -/
theorem Bucket.take_rare_unbounded :
    (((make (1 / 100000000000000000000 : ℚ) 1 .start).after [.start]).take .start).1 =
      .unbounded := by
  cbv

end Outbox
