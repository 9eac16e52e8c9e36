import Outbox.Proofs.Composition

/-!
# Outbox.Proofs.Mailer.Deadline — deadlines that the clock has no room for

A timer that is set too far ahead is put thirty years away. A deadline is a sum of a time and a
timeout, which the clock may have no room for.

* `Context.isSome_withTimeout?` — when a context can be given a timeout.
* `Mailer.deadlineAt` is the deadline that an attempt should have: none if there is no room for it.
* `Mailer.deadline_of_room` and `Mailer.deadline_of_no_room` — when the attempt has that deadline,
  and what becomes of it otherwise.
* `Mailer.send_overflow_iff` — a send whose attempts have no time of their own overflows nowhere but
  at its rate limit.
* `Mailer.attempt_eq_attemptBy_iff` — a deadline is all that can overflow in an attempt.
-/

namespace Outbox

theorem Context.isSome_withTimeout? (c : Context) (now : Instant) (timeout : Duration) :
    (c.withTimeout? now timeout).isSome ↔ now.HasRoom timeout := by
  unfold withTimeout?
  rw [Option.isSome_map]
  exact now.isSome_after? timeout

namespace Mailer

open Act (InRange)

variable (m : Mailer) (c : Context)

/-- The end of an attempt that begins at a time: the deadline of its context, or else the time that
the settings allow, if the clock has room for it. -/
def deadlineAt (now : Instant) : Option Instant :=
  match c.deadline with
  | some deadline => some deadline
  | none => if m.settings.timeout.isZero then none else now.after? m.settings.timeout

/-- The clock has room for the end of an attempt that begins at a time, if it is to have one. -/
def CanEnd (now : Instant) : Prop :=
  c.deadline.isSome ∨ m.settings.timeout.isZero ∨ now.HasRoom m.settings.timeout

variable {m c} {limits : List Limit} {w : World}

theorem deadline_of_room (h : m.CanEnd c w.now) :
    m.deadline c limits w = (.done (m.deadlineAt c w.now), w) := by
  unfold deadline deadlineAt
  cases hdeadline : c.deadline with
  | some deadline => rfl
  | none =>
    dsimp only
    by_cases hzero : m.settings.timeout.isZero
    · rw [if_pos hzero, if_pos hzero]
      rfl
    · -- The context has no deadline and the timeout is not zero: there must be room for the sum.
      have hroom : w.now.HasRoom m.settings.timeout := by
        rcases h with hsome | hzero' | hroom
        · rw [hdeadline] at hsome
          cases hsome
        · exact absurd hzero' hzero
        · exact hroom
      have time : Act.now limits w = (.done w.now, w) := rfl
      rw [if_neg hzero, if_neg hzero, Act.bind_done time, Instant.after?_of_hasRoom hroom]
      rfl

theorem deadline_of_no_room (h : ¬ m.CanEnd c w.now) : m.deadline c limits w = (.overflow, w) := by
  obtain ⟨hnone, hrest⟩ := not_or.1 h
  obtain ⟨hzero, hroom⟩ := not_or.1 hrest
  have time : Act.now limits w = (.done w.now, w) := rfl
  unfold deadline
  rw [Option.not_isSome_iff_eq_none.1 hnone]
  dsimp only
  rw [if_neg hzero, Act.bind_done time, Instant.after?_of_not_hasRoom hroom]
  rfl

theorem attempt_of_room {pool : Option SessionPool} {e : Envelope} (h : m.CanEnd c w.now) :
    m.attempt c pool e limits w =
      (m.attemptBy c (m.deadlineAt c w.now) pool e : Act Unit) limits w :=
  Act.bind_done (deadline_of_room h)

theorem attempt_of_no_room {pool : Option SessionPool} {e : Envelope} (h : ¬ m.CanEnd c w.now) :
    m.attempt c pool e limits w = (.overflow, w) := Act.bind_overflow (deadline_of_no_room h)

/-! ## Sends -/

theorem inRange_attempt (hzero : m.settings.timeout.isZero) (c : Context)
    (pool : Option SessionPool) (e : Envelope) : InRange (m.attempt c pool e) := by
  intro limits w
  rw [attempt_of_room (.inr (.inl hzero))]
  exact InRange.compositional.attemptBy m c _ pool e limits w

theorem inRange_tryAttempt (hattempt : ∀ c pool e, InRange (m.attempt c pool e)) (p : Plan)
    (s : Standing) (c : Context) : InRange (m.tryAttempt p s c) := by
  have hin := InRange.compositional
  refine .bind (hin.attempt (hattempt c _ _)) fun result => .bind (hin.changing _) fun c => ?_
  cases result with
  | ok _ => exact hin.pure _
  | error e =>
    refine .bind (.bind hin.world fun _ => hin.pure _) fun failure => ?_
    split
    · exact hin.pure _
    · exact hin.pure _

theorem inRange_tryOnce (hattempt : ∀ c pool e, InRange (m.attempt c pool e)) (p : Plan)
    (s : Standing) : InRange (m.tryOnce p s) := by
  have hin := InRange.compositional
  refine .bind (hin.changing _) fun c => .bind (hin.changing _) fun delay => ?_
  cases delay with
  | none => exact .bind (hin.changing _) fun _ => hin.pure _
  | some delay =>
    have hpause : InRange (pause c delay) := by
      unfold pause
      split
      · exact hin.pure _
      · exact hin.under c (hin.sleep delay)
    refine .bind (hin.attempt hpause) fun paused => ?_
    cases paused with
    | ok _ => exact inRange_tryAttempt hattempt p s c
    | error e => exact .bind (hin.changing _) fun _ => hin.pure _

theorem inRange_tries (hattempt : ∀ c pool e, InRange (m.attempt c pool e)) (p : Plan) (n : Nat)
    (s : Standing) : InRange (m.tries p n s) := by
  -- By induction on the tries that are left.
  induction n generalizing s with
  | zero => exact fun _ _ => nofun
  | succ n ih =>
    refine .bind (inRange_tryOnce hattempt p s) fun verdict => ?_
    cases verdict with
    | decided result => exact InRange.compositional.ofResult result
    | again next => exact ih next

/-- A send that overflows at its rate limit does nothing more. -/
theorem send_of_takeToken_overflow (m : Mailer) (c : Context) (message : Message)
    (s : SendSettings) (o : Mime.Occasion) (draw : Nat → Nat)
    (h : (takeToken c s limits w).1 = .overflow) :
    (m.send c message s o draw limits w).1 = .overflow := by
  have hbegin : (m.begin c message s o draw limits w).1 = .overflow := by
    unfold begin
    rw [Act.bind_overflow (Prod.ext h rfl)]
  unfold send
  rw [Act.bind_overflow (Prod.ext hbegin rfl)]

/-- Without a timeout, a send overflows nowhere but at its rate limit. -/
theorem send_overflow_iff (m : Mailer) (hzero : m.settings.timeout.isZero) (c : Context)
    (message : Message) (s : SendSettings) (o : Mime.Occasion) (draw : Nat → Nat) :
    (m.send c message s o draw limits w).1 = .overflow ↔
      (takeToken c s limits w).1 = .overflow := by
  refine ⟨fun hsend => ?_, m.send_of_takeToken_overflow c message s o draw⟩
  refine Classical.byContradiction fun hgate => ?_
  have hin := InRange.compositional
  have hprepare : InRange (prepare message s o c) :=
    .bind (hin.changing _) fun _ => .bind (hin.ofResult _) fun _ => hin.pure _
  have hbegin : (m.begin c message s o draw limits w).1 ≠ .overflow :=
    InRange.bind_ne_overflow hgate fun _ => .bind hprepare fun _ => hin.pure _
  refine InRange.bind_ne_overflow hbegin (fun started => ?_) hsend
  exact inRange_tries (inRange_attempt hzero) _ _ _

end Mailer

/-- An attempt is the one with the deadline that it should have, exactly if there is room for that
deadline or none is asked for; otherwise the attempt overflows before it does anything, and it
overflows only then. In the same way a context is given a timeout only if the clock has room for it.
Where the same time is used for a timer only, in opening a session and in every request, nothing
overflows. -/
theorem Mailer.attempt_eq_attemptBy_iff (m : Mailer) (c : Context) (pool : Option SessionPool)
    (e : Envelope) (limits : List Limit) (w : World) :
    (m.attempt c pool e limits w =
        (m.attemptBy c (m.deadlineAt c w.now) pool e : Act Unit) limits w ↔
      c.deadline.isSome ∨ m.settings.timeout.isZero ∨ w.now.HasRoom m.settings.timeout) ∧
    (m.attempt c pool e limits w = (.overflow, w) ↔
      ¬ (c.deadline.isSome ∨ m.settings.timeout.isZero ∨ w.now.HasRoom m.settings.timeout)) ∧
    (∀ timeout, (c.withTimeout? w.now timeout).isSome ↔ w.now.HasRoom timeout) ∧
    (∀ endpoint : Smtp.Endpoint, (endpoint.connect limits w).1 ≠ .overflow) ∧
    ∀ link patience (r : Smtp.Request), (r.perform link patience limits w).1 ≠ .overflow := by
  have hin := Act.InRange.compositional
  have hby : ((m.attemptBy c (m.deadlineAt c w.now) pool e : Act Unit) limits w).1 ≠ .overflow :=
    hin.attemptBy m c _ pool e limits w
  refine ⟨⟨?_, attempt_of_room⟩, ⟨?_, attempt_of_no_room⟩, c.isSome_withTimeout? w.now, ?_, ?_⟩
  · intro hsame
    refine Decidable.byContradiction fun hroom => ?_
    rw [attempt_of_no_room hroom] at hsame
    exact hby (congrArg Prod.fst hsame).symm
  · intro hoverflow hroom
    rw [attempt_of_room hroom] at hoverflow
    exact hby (congrArg Prod.fst hoverflow)
  · exact fun endpoint => hin.connect endpoint limits w
  · exact fun link patience r => hin.perform link patience r limits w

/-- With the longest timeout that there is, where a timer would be put far away, an attempt overflows
instead of going on without an end, and a context cannot be given that timeout. -/
theorem Mailer.attempt_longest_overflow :
    let m := Mailer.make { host := "mail.example", port := 25, timeout := .longest } "client" 0
    let c := Context.ofToken ⟨0, []⟩
    let e : Envelope := ⟨"a@x.org", ["b@x.org"], []⟩
    (m.attempt c none e [] {}).1 = .overflow ∧
      ((m.attemptBy c none none e : Act Unit) [] {}).1 =
        .failed (.step .connect (.stream noRoute)) ∧
      c.withTimeout? .start .longest = none := by
  intro m c e
  refine ⟨?_, ?_, ?_⟩
  · have hroom : ¬ m.CanEnd c Instant.start := by
      rintro (hsome | hzero | hroom)
      · cases hsome
      · exact absurd hzero (by decide)
      · exact absurd hroom (by decide)
    exact congrArg Prod.fst (attempt_of_no_room (w := {}) hroom)
  · rfl
  · rfl

end Outbox
