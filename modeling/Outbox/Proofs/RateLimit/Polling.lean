import Outbox.Proofs.RateLimit.Bucket
import Outbox.RateLimit.Queue

/-!
# Outbox.Proofs.RateLimit.Polling — asking again and again

A request that is refused changes a bucket: it writes down what the bucket holds by then and when
that was. None of this can be told from outside.

* `Bucket.filled_filled` — filling a bucket on the way to a later time changes nothing of what it
  holds then, also where it runs over.
* `Bucket.polling_leaves_no_trace` — a request after others that were refused is answered as if it
  were the only one, and leaves the same bucket.
* `Queue.wait_of_refused` and `Queue.wait_of_not_refused` — what one round of a wait is.
* `Queue.wait_alone` — who is refused and sleeps for as long as that takes is served when he asks
  again, if nobody else waits.
-/

namespace Outbox

namespace Bucket

variable {b : Bucket ℚ} {s t u : Instant}

/-- A bucket that is filled on the way holds later what it would hold without that. -/
theorem tokensAt_filled (hrate : 0 < b.rate) (hlast : b.last ≤ t) (hlater : t ≤ u)
    (near : b.last.Reaches u) : (b.filled t).tokensAt u = b.tokensAt u := by
  have hnanos : b.last.nanos ≤ t.nanos := hlast
  have hnanos' : t.nanos ≤ u.nanos := hlater
  have hnear : u.nanos - b.last.nanos ≤ Duration.longest.nanos := near
  have hfirst : b.last.Reaches t := by
    show t.nanos - b.last.nanos ≤ _
    omega
  have hsecond : t.Reaches u := by
    show u.nanos - t.nanos ≤ _
    omega
  have hsum : (u.since b.last).seconds = (t.since b.last).seconds + (u.since t).seconds := by
    rw [Instant.seconds_since hlast hfirst, Instant.seconds_since hlater hsecond,
      Instant.seconds_since (Nat.le_trans hnanos hnanos') near]
    ring
  have hcome : 0 ≤ (u.since t).seconds * b.rate :=
    mul_nonneg (Duration.seconds_nonneg _) (le_of_lt hrate)
  rw [tokensAt_eq (b.filled t), tokensAt_eq b u]
  show min (b.tokensAt t + (u.since t).seconds * b.rate) b.burst = _
  rw [tokensAt_eq b t, hsum, add_mul, ← add_assoc]
  -- Where the bucket runs over on the way, it is full then and it is full later.
  rcases le_total (b.tokens + (t.since b.last).seconds * b.rate) b.burst with hroom | hfull
  · rw [min_eq_left hroom]
  · rw [min_eq_right hfull, min_eq_right (by linarith), min_eq_right (by linarith)]

theorem filled_filled (hrate : 0 < b.rate) (hlast : b.last ≤ t) (hlater : t ≤ u)
    (near : b.last.Reaches u) : (b.filled t).filled u = b.filled u := by
  show { b.filled t with tokens := (b.filled t).tokensAt u, last := u } = b.filled u
  rw [tokensAt_filled hrate hlast hlater near]
  rfl

/-- What comes of a request depends on the bucket only as it is filled up to that time. -/
theorem take_congr {b' : Bucket ℚ} (h : b.filled t = b'.filled t) : b.take t = b'.take t := by
  unfold take
  rw [h]

/-- Requests that are refused leave no trace in what the bucket is filled up to later. -/
theorem filled_after_refusals (hrate : 0 < b.rate) {polls : List Instant}
    (hordered : (b.last :: polls).Pairwise (· ≤ ·)) (hbefore : ∀ t ∈ b.last :: polls, t ≤ u)
    (near : b.last.Reaches u) (hrefused : b.grants polls = []) :
    (b.after polls).filled u = b.filled u := by
  -- By induction on the polls: each of them fills the bucket up to its time and does nothing else.
  induction polls generalizing b with
  | nil => rfl
  | cons t rest ih =>
    have hnone : (b.take t).1 ≠ .granted := by
      intro hgranted
      rw [grants, if_pos hgranted] at hrefused
      cases hrefused
    have hrest : (b.take t).2.grants rest = [] := by
      rw [grants, if_neg hnone] at hrefused
      exact hrefused
    rw [take_of_refused b t hnone] at hrest
    rw [List.pairwise_cons] at hordered
    have hlast : b.last ≤ t := hordered.1 t List.mem_cons_self
    have hlater : t ≤ u := hbefore t (List.mem_cons_of_mem _ List.mem_cons_self)
    have hnear : t.Reaches u := Nat.le_trans (Nat.sub_le_sub_left hlast _) near
    have hmem : ∀ v ∈ t :: rest, v ≤ u := fun v hv => hbefore v (List.mem_cons_of_mem _ hv)
    have hrun : ((b.filled t).after rest).filled u = (b.filled t).filled u :=
      ih (b := b.filled t) hrate hordered.2 hmem hnear hrest
    rw [after_cons, take_of_refused b t hnone, hrun]
    exact filled_filled hrate hlast hlater near

/-- A bucket without a token gives one exactly when its deficit has passed. -/
theorem take_granted_iff_deficit (hrate : 0 < b.rate) (hburst : 1 ≤ b.burst) (hlater : b.last ≤ u)
    (near : b.last.Reaches u) :
    (b.take u).1 = .granted ↔ b.deficit ≤ u.seconds - b.last.seconds := by
  rw [take_granted_iff, tokensAt_eq, Instant.seconds_since hlater near, deficit_eq,
    div_le_iff₀ hrate, le_min_iff]
  constructor
  · rintro ⟨htoken, -⟩
    linarith
  · intro hpassed
    exact ⟨by linarith, hburst⟩

end Bucket

/-! ## Waiting -/

namespace Queue

section

variable {K : Type} [Quantity K] {q : Queue K}

theorem wait_zero : q.wait 0 = q.tryTake := by
  rw [wait]
  cases q.tryTake with
  | mk taking q' => cases taking <;> rfl

/-- Whoever is not told to wait has his answer. -/
theorem wait_of_not_refused (h : ∀ d, (q.bucket.take q.now).1 ≠ .refused d) (rounds : Nat) :
    q.wait rounds = q.tryTake := by
  have htry : q.tryTake =
      ((q.bucket.take q.now).1, { q with bucket := (q.bucket.take q.now).2 }) := rfl
  rw [wait, htry]
  cases htaking : (q.bucket.take q.now).1 with
  | granted => rfl
  | refused d => exact absurd htaking (h d)
  | unbounded => rfl

/-- Whoever is told to wait asks again later. -/
theorem wait_of_refused {d : Duration} (h : (q.bucket.take q.now).1 = .refused d) (rounds : Nat) :
    q.wait (rounds + 1) = (q.tryTake.2.sleepUntil (retryAt q.now d)).wait rounds := by
  have htry : q.tryTake = (.refused d, { q with bucket := (q.bucket.take q.now).2 }) := by
    rw [← h]
    rfl
  rw [wait, htry]

theorem wait_of_granted (hgranted : (q.bucket.take q.now).1 = .granted) (rounds : Nat) :
    (q.wait rounds).1 = .granted := by
  rw [wait_of_not_refused (by rw [hgranted]; exact nofun)]
  exact hgranted

theorem lt_retryAt (t : Instant) (d : Duration) : t < retryAt t d := by
  have hleast : leastWait.nanos ≤ (max d leastWait).nanos := le_max_right d leastWait
  have htimer : t.nanos < (t.timer (max d leastWait)).nanos :=
    t.lt_timer (Nat.lt_of_lt_of_le (by decide) hleast)
  exact Nat.lt_of_lt_of_le htimer (Instant.le_tick _)

/-- Who is told to wait sleeps for at least as long as that, if the clock has room for it. -/
theorem seconds_le_retryAt {t : Instant} {d : Duration} (hroom : t.HasRoom (max d leastWait)) :
    d.seconds ≤ (retryAt t d).seconds - t.seconds := by
  have hlong : d.nanos ≤ (max d leastWait).nanos := le_max_left d leastWait
  have htimer : t.nanos + (max d leastWait).nanos ≤ (retryAt t d).nanos :=
    Instant.le_tick_timer hroom
  have hcast : (t.nanos : ℚ) + d.nanos ≤ (retryAt t d).nanos := by
    rw [← Nat.cast_add]
    exact Nat.cast_le.2 (by omega)
  unfold Duration.seconds Instant.seconds
  linarith

/-- Where nobody waits in the background, nothing but time passes in a sleep. -/
theorem sleepUntil_alone (halone : q.waiters = []) {target : Instant} (hlater : q.now < target) :
    q.sleepUntil target = { q with now := target } := by
  have hdue : q.nextDue? = none := by
    unfold nextDue?
    rw [halone]
    rfl
  have hnot : ¬ target ≤ q.now := Nat.not_le.2 hlater
  unfold sleepUntil
  rw [if_neg hnot, advance, hdue]

end

/-- Who is refused, is told the whole deficit and is alone is served when he asks again. -/
theorem wait_alone {q : Queue ℚ} (hrate : 0 < q.bucket.rate) (hburst : 1 ≤ q.bucket.burst)
    (halone : q.waiters = []) {d : Duration} (hrefused : (q.bucket.take q.now).1 = .refused d)
    (htold : (q.bucket.take q.now).2.deficit ≤ d.seconds) (hroom : q.now.HasRoom (max d leastWait))
    (rounds : Nat) : (q.wait (rounds + 1)).1 = .granted := by
  have hlast : (q.bucket.take q.now).2.last = q.now := Bucket.last_take _ _
  have hlater : q.now < retryAt q.now d := lt_retryAt _ _
  have hgranted : ((q.bucket.take q.now).2.take (retryAt q.now d)).1 = .granted := by
    refine (Bucket.take_granted_iff_deficit ?_ ?_ ?_ ?_).2 ?_
    · rw [Bucket.rate_take]
      exact hrate
    · rw [Bucket.burst_take]
      exact hburst
    · rw [hlast]
      exact Nat.le_of_lt hlater
    · rw [hlast]
      exact Instant.reaches_tick_timer _ _
    · rw [hlast]
      exact le_trans htold (seconds_le_retryAt hroom)
  have htry : q.tryTake.2 = { q with bucket := (q.bucket.take q.now).2 } := rfl
  -- Nobody else asks during the sleep, so the bucket is the one that the refusal left.
  rw [wait_of_refused hrefused, htry]
  generalize (q.bucket.take q.now).2 = b at hgranted
  rw [sleepUntil_alone (q := { q with bucket := b }) halone hlater]
  exact wait_of_granted (q := { q with bucket := b, now := retryAt q.now d }) hgranted rounds

end Queue

/-- After a request is refused, a bucket gives the next token when the deficit that was told then
has passed. Others who ask in vain in between do not delay it, do not bring it forward and change
nothing of the bucket, and who is alone and sleeps for what he is told, which is the deficit if that
is not rounded down, has the token when he asks again. -/
theorem Bucket.polling_leaves_no_trace (b : Bucket ℚ) (hrate : 0 < b.rate) (hburst : 1 ≤ b.burst)
    (t : Instant) (hrefused : (b.take t).1 ≠ .granted) :
    (∀ polls u, (t :: polls ++ [u]).Pairwise (· ≤ ·) → t.Reaches u →
      (b.take t).2.grants polls = [] →
      ((((b.take t).2.after polls).take u).1 = .granted ↔
          (b.take t).2.deficit ≤ u.seconds - t.seconds) ∧
        ((b.take t).2.after polls).take u = (b.take t).2.take u) ∧
      ∀ (q : Queue ℚ) (d : Duration) (rounds : Nat), q.bucket = b → q.now = t → q.waiters = [] →
        (b.take t).1 = .refused d → (b.take t).2.deficit ≤ d.seconds →
        t.HasRoom (max d leastWait) →
        (q.wait (rounds + 1)).1 = .granted := by
  constructor
  · intro polls u hordered near hpolls
    have hlast : (b.take t).2.last = t := last_take b t
    have hbetween : (t :: polls).Pairwise (· ≤ ·) := (List.pairwise_append.1 hordered).1
    have hbefore : ∀ v ∈ t :: polls, v ≤ u := fun v hv =>
      (List.pairwise_append.1 hordered).2.2 v hv u List.mem_cons_self
    -- The polls do nothing but fill the bucket on the way to `u`, and that cannot be told there.
    have hsame : ((b.take t).2.after polls).take u = (b.take t).2.take u := by
      refine take_congr (filled_after_refusals ?_ ?_ ?_ ?_ hpolls)
      · rw [rate_take]
        exact hrate
      · rw [hlast]
        exact hbetween
      · rw [hlast]
        exact hbefore
      · rw [hlast]
        exact near
    refine ⟨?_, hsame⟩
    rw [hsame, take_granted_iff_deficit, hlast]
    · rw [rate_take]
      exact hrate
    · rw [burst_take]
      exact hburst
    · rw [hlast]
      exact hbefore t List.mem_cons_self
    · rw [hlast]
      exact near
  · rintro q d rounds rfl rfl halone hrefused htold hroom
    exact Queue.wait_alone hrate hburst halone hrefused htold hroom rounds

/-- Where both tokens are gone and ten come in a second, two requests in vain do not change that
the next token is there after a tenth of a second. -/
theorem Bucket.polling_leaves_no_trace_tenth :
    ((((make (10 : ℚ) 2 .start).after [.start, .start, .start, .ofMillis 30, .ofMillis 60]).take
        (.ofMillis 99)).1 ≠ .granted) ∧
      (((make (10 : ℚ) 2 .start).after [.start, .start, .start, .ofMillis 30, .ofMillis 60]).take
        (.ofMillis 100)).1 = .granted ∧
      (Queue.wait 1
        { bucket := (make (10 : ℚ) 2 .start).after [.start, .start], now := .start, waiters := [],
          served := [] }).1 = .granted := by
  have hdeficit : (((make (10 : ℚ) 2 .start).after [.start, .start]).take .start).2.deficit =
      1 / 10 := by
    cbv
  have hseconds : ∀ n, (Instant.ofMillis n).seconds - Instant.start.seconds = (n : ℚ) / 1000 := by
    intro n
    show ((n * 1000000 : ℕ) : ℚ) / 1000000000 - ((0 : ℕ) : ℚ) / 1000000000 = _
    push_cast
    ring
  have htold : (Duration.ofMillis 100).seconds = 1 / 10 := by
    show ((100000000 : ℕ) : ℚ) / 1000000000 = 1 / 10
    norm_num
  obtain ⟨hpolls, halone⟩ := polling_leaves_no_trace ((make 10 2 .start).after [.start, .start])
    (by cbv) (by cbv) .start (by cbv; decide)
  rw [hdeficit] at hpolls halone
  refine ⟨?_, ?_, ?_⟩
  · refine fun hgranted => absurd ((hpolls [.ofMillis 30, .ofMillis 60] (.ofMillis 99) (by decide)
      (by decide) (by cbv)).1.1 hgranted) ?_
    rw [hseconds]
    norm_num
  · refine (hpolls [.ofMillis 30, .ofMillis 60] (.ofMillis 100) (by decide) (by decide)
      (by cbv)).1.2 ?_
    rw [hseconds]
    norm_num
  · refine halone _ (.ofMillis 100) 0 rfl rfl rfl (by cbv) ?_ (by decide)
    rw [htold]

end Outbox
