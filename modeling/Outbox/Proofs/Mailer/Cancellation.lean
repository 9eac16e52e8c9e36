import Outbox.Proofs.Mailer.Delivery

/-!
# Outbox.Proofs.Mailer.Cancellation — a send whose context ends

A send waits under its context: for a token, before a try, and in the parts of an attempt. The
context may end at any moment, and every hook at a start may put another one in its place.

* `Act.Interrupted` says that a context ended something that was done under it.
* `Bound` are the acts whose errors are their own unless the context has ended by then. Parts of
  an attempt are bound to its context (`bound_attempt`).
* `Error.IsClear` says that the end of a context is the whole error or no part of it.
* `send_heeds` — whatever a context ends, the send returns the error of the context and makes no
  further attempt.
-/

namespace Outbox

/-! ## Interruptions -/

/-- A context ends what is done under it, where nothing else limits it: it does not begin because
the context has ended before, or it is cut short by the context. -/
inductive Act.Interrupted {α : Type} (c : Context) (x : Act α) (w : World) (e : Error) : Prop where
  | before (ended : c.failure? w.signals w.now = some e)
  | during (goesOn : c.failure? w.signals w.now = none) (cut : (x [.context c] w).1 = .cut 0 e)

/-- What was interrupted fails with the error of the context. -/
theorem Act.Interrupted.ended {α : Type} {c : Context} {x : Act α} {w : World} {e : Error}
    (h : Interrupted c x w e) (hx : Act.Tame x) :
    (Act.under c x [] w).1 = .failed e ∧ Limit.Ended (Act.under c x [] w).2 (.context c) e := by
  cases h with
  | before ended =>
    rw [Act.under_ended x [] ended]
    exact ⟨rfl, Context.ended_of_failure? ended⟩
  | during goesOn cut =>
    have run : x ([] ++ [.context c]) w = (.cut 0 e, (x [.context c] w).2) := Prod.ext cut rfl
    obtain ⟨limit, at_depth, ended⟩ := hx.cut [.context c] w 0 e cut
    obtain rfl := Option.some.inj at_depth
    rw [Act.under_open x [] goesOn, Act.limited, run]
    exact ⟨rfl, ended⟩

-- A token that is raised after a second ends a wait of a minute.
example : Act.Interrupted (.ofToken ⟨0, []⟩) (Act.sleep (.ofSeconds 60))
    { planned := [(.ofMillis 1000, ⟨0, []⟩)] } .cancelled :=
  .during (by decide) rfl

/-- Whether a context has ended does not change while no time passes, but it may be cancelled. -/
theorem Limit.Ended.of_now {w w' : World} {c : Context} {e : Error}
    (h : Limit.Ended w (.context c) e) (same : w'.now = w.now) :
    Limit.Ended w' (.context c) e := by
  cases h with
  | cancelled => exact .cancelled c
  | overdue _ overdue => exact .overdue c (by rw [same]; exact overdue)

/-- After its context has ended, no try is repeated. -/
theorem Limit.Ended.not_retried {w : World} {c : Context} {e : Error}
    (h : Limit.Ended w (.context c) e) (signals : Signals) :
    (e.isTransient && (c.failure? signals w.now).isNone) = false := by
  cases h with
  | cancelled => rfl
  | overdue _ overdue =>
    -- Its error is transient, but the deadline has passed.
    have failure : (c.failure? signals w.now).isNone = false := by
      unfold Context.failure?
      split
      · rfl
      · rfl
    rw [failure, Bool.and_false]

/-! ## Errors -/

namespace Error

/-- Neither the end of a context nor an error that was caused by one. -/
def IsOwn : Error → Prop
  | cancelled | deadlineExceeded => False
  | step _ cause => cause.IsOwn
  | exhausted _ (some last) => last.IsOwn
  | _ => True

/-- The end of a context is the whole error or no part of it. -/
def IsClear (e : Error) : Prop := e.IsContextual ∨ e.IsOwn

variable {e : Error}

theorem IsLocal.isOwn (h : e.IsLocal) : e.IsOwn := by
  cases e <;> trivial

theorem OfAttempt.isOwn (h : e.OfAttempt) : e.IsOwn := by
  cases h with
  | timeout => trivial
  | step stage isLocal => exact isLocal.isOwn

theorem OfTry.isClear (h : e.OfTry) : e.IsClear :=
  h.symm.imp_right OfAttempt.isOwn

theorem isClear_exhausted {attempts : Nat} {last : Option Error}
    (h : ∀ e ∈ last, e.OfAttempt) : (exhausted attempts last).IsClear := by
  cases last with
  | none => exact .inr trivial
  | some e => exact .inr (h e rfl).isOwn

end Error

namespace Mailer

/-! ## Attempts -/

/-- What the act fails with is an error of its own, or the context has ended by then. -/
def Bound {α : Type} (c : Context) (x : Act α) : Prop :=
  ∀ w e, (x [] w).1 = .failed e → e.OfAttempt ∨ Limit.Ended (x [] w).2 (.context c) e

section Bound

variable {α β : Type} {c : Context} {x : Act α}

theorem Bound.of_candid (hx : Act.Candid Error.OfAttempt x) : Bound c x :=
  fun w e failed => .inl (hx.fails [] w e failed)

theorem Bound.bind {f : α → Act β} (hx : Bound c x) (hf : ∀ a, Bound c (f a)) :
    Bound c (x >>= f) := by
  intro w e failed
  rcases Act.bind_cases x f [] w with ⟨a, -, run⟩ | ⟨stopped, world⟩
  · rw [run] at failed ⊢
    exact hf a _ e failed
  · rw [failed] at stopped
    rw [world]
    exact hx w e stopped.eq_failed

theorem bound_bounded (deadline : Option Instant) (hx : Act.Candid Error.OfAttempt x) :
    Bound c (Means.bounded c deadline x) :=
  fun _ _ failed => (hx.until? deadline .timeout).under_failed failed

theorem bound_openSession (m : Mailer) (c : Context) (deadline : Option Instant) :
    Bound c (m.openSession c deadline : Act Prepared) :=
  .bind (bound_bounded deadline (.connect _)) fun _ => .of_candid (.pure _)

theorem bound_prepareSession (m : Mailer) (c : Context) (deadline : Option Instant)
    (pool : Option SessionPool) : Bound c (m.prepareSession c deadline pool : Act Prepared) := by
  cases pool with
  | none => exact bound_openSession m c deadline
  | some p =>
    refine .bind (bound_bounded deadline .acquire) fun session => ?_
    cases session with
    | some session => exact .of_candid (.pure _)
    | none => exact bound_openSession m c deadline

/-- No time passes when a session is left after a failure. -/
theorem leave_error (s : Prepared) (e : Error) (w : World) :
    ((leave s (.error e) : Act Unit) [] w).2.now = w.now := by
  rcases s with ⟨session, _ | p⟩
  · rfl
  · rfl

/-- If a message is not handed over, that is the failure of its delivery, and no time passes
until then. -/
theorem deliver_failed {deadline : Option Instant} {e : Envelope} {s : Prepared} {w : World}
    {error : Error} (failed : (transacting c deadline e s w).1 = .failed error) :
    ((deliver c deadline e s : Act Unit) [] w).1 = .failed error ∧
      ((deliver c deadline e s : Act Unit) [] w).2.now = (transacting c deadline e s w).2.now := by
  obtain ⟨w', left, run⟩ := deliver_finished (Outcome.result?_eq_error.2 failed)
  have now := leave_error s error (transacting c deadline e s w).2
  rw [left] at now
  rw [run]
  exact ⟨rfl, now⟩

theorem bound_deliver (c : Context) (deadline : Option Instant) (e : Envelope) (s : Prepared) :
    Bound c (deliver c deadline e s : Act Unit) := by
  intro w error failed
  rw [← Outcome.result?_eq_error] at failed
  cases finished : (transacting c deadline e s w).1.result? with
  | none =>
    rw [deliver_unfinished finished] at failed
    cases failed
  | some result =>
    obtain ⟨w', -, run⟩ := deliver_finished finished
    rw [run, (Act.ofResult_run result [] w').1] at failed
    obtain rfl := Option.some.inj failed
    have failed := Outcome.result?_eq_error.1 finished
    have bound : Bound c (transact c deadline e s : Act Unit) := bound_bounded deadline (.talk e s)
    exact (bound w error failed).imp_right fun ended => ended.of_now (deliver_failed failed).2

/-- An attempt that fails does so with an error of its own, or its context has ended. -/
theorem bound_attempt (m : Mailer) (c : Context) (pool : Option SessionPool) (e : Envelope) :
    Bound c (m.attempt c pool e) :=
  .bind (.of_candid (.deadline m c)) fun deadline =>
    .bind (bound_prepareSession m c deadline pool) fun session => bound_deliver c deadline e session

end Bound

/-- An attempt gets to opening a session of its own: it has no pool, or its pool has none. -/
def Attempt.Connects (a : Attempt) (deadline : Option Instant) (w : World) : Prop :=
  (a.plan.pool = none ∧ w = a.world) ∨
    ∃ p, a.plan.pool = some p ∧
      (Means.bounded a.context deadline p.acquire : Act (Option Smtp.Connection)) [] a.world =
        (.done none, w)

/-- An attempt that has to end at `deadline` does this under its context, from `w` on: it takes a
session from its pool, opens one, or hands its message over. -/
inductive Attempt.Does (m : Mailer) (a : Attempt) (deadline : Option Instant) :
    {α : Type} → Act α → World → Prop where
  | acquire {p : SessionPool}
      (limited : m.deadline a.context [] a.world = (.done deadline, a.world))
      (pooled : a.plan.pool = some p) : Does m a deadline p.acquire a.world
  | connect {w : World} (limited : m.deadline a.context [] a.world = (.done deadline, a.world))
      (connects : a.Connects deadline w) : Does m a deadline m.endpoint.connect w
  | talk {session : Prepared} {w : World}
      (limited : m.deadline a.context [] a.world = (.done deadline, a.world))
      (prepares : (m.prepareSession a.context deadline a.plan.pool : Act Prepared) [] a.world =
        (.done session, w)) :
      Does m a deadline ((session.dialogue a.plan.envelope).on session.session) w

section Attempts

variable {m : Mailer} {a : Attempt} {e : Error}

/-- What comes of an attempt. -/
abbrev Attempt.run (m : Mailer) (a : Attempt) : Outcome Unit × World :=
  m.attempt a.context a.plan.pool a.plan.envelope [] a.world

theorem Attempt.run_eq {deadline : Option Instant}
    (limited : m.deadline a.context [] a.world = (.done deadline, a.world)) :
    a.run m = ((m.prepareSession a.context deadline a.plan.pool : Act Prepared) >>=
      deliver a.context deadline a.plan.envelope) [] a.world :=
  Act.bind_done limited

theorem Attempt.Does.tame {deadline : Option Instant} {α : Type} {x : Act α} {w : World}
    (h : a.Does m deadline x w) : Act.Tame x := by
  cases h with
  | acquire => exact Act.Candid.acquire.toTame
  | connect => exact (Act.Candid.connect _).toTame
  | talk => exact (Act.Candid.talk _ _).toTame

/-- If its context has a deadline, that is the end of an attempt. -/
theorem Attempt.Does.deadline_eq {deadline : Option Instant} {α : Type} {x : Act α} {w : World}
    (h : a.Does m deadline x w) {d : Instant} (isDeadline : a.context.deadline = some d) :
    deadline = some d := by
  have known : m.deadline a.context [] a.world = (.done (some d), a.world) := by
    rw [Mailer.deadline, isDeadline]
    rfl
  have limited : m.deadline a.context [] a.world = (.done deadline, a.world) := by
    cases h <;> assumption
  cases limited.symm.trans known
  rfl

/-- An attempt fails with the error of its context if that ends something it does. -/
theorem Attempt.Does.failed {deadline : Option Instant} {α : Type} {x : Act α} {w : World}
    (h : a.Does m deadline x w)
    (interrupted : Act.Interrupted a.context (Act.until? deadline x) w e) :
    (a.run m).1 = .failed e ∧ Limit.Ended (a.run m).2 (.context a.context) e := by
  obtain ⟨failed, ended⟩ := interrupted.ended (.until? deadline h.tame)
  cases h with
  | @acquire p limited pooled =>
    have acquired : (Means.bounded a.context deadline p.acquire :
        Act (Option Smtp.Connection)) [] a.world = (.failed e, _) := Prod.ext failed rfl
    rw [Attempt.run_eq limited, pooled, prepareSession, Act.bind_failed (Act.bind_failed acquired)]
    exact ⟨rfl, ended⟩
  | connect limited connects =>
    have connected : (Means.bounded a.context deadline (Means.connect m.endpoint) :
        Act Smtp.Connection) [] w = (.failed e, _) := Prod.ext failed rfl
    have opened : (m.openSession a.context deadline : Act Prepared) [] w = (.failed e, _) :=
      Act.bind_failed connected
    rw [Attempt.run_eq limited]
    rcases connects with ⟨pooled, rfl⟩ | ⟨p, pooled, acquired⟩
    · rw [pooled, prepareSession, Act.bind_failed opened]
      exact ⟨rfl, ended⟩
    · have prepared : (m.prepareSession a.context deadline (some p) : Act Prepared) [] a.world =
          (.failed e, _) := (Act.bind_done acquired).trans opened
      rw [pooled, Act.bind_failed prepared]
      exact ⟨rfl, ended⟩
  | talk limited prepares =>
    obtain ⟨delivered, now⟩ := deliver_failed failed
    rw [Attempt.run_eq limited, Act.bind_done prepares]
    exact ⟨delivered, ended.of_now now⟩

/-- The timer of an attempt that is set to the deadline of its context does not end it. -/
theorem Attempt.Does.not_timed {deadline : Option Instant} {α : Type} {x : Act α} {w : World}
    (h : a.Does m deadline x w) {d : Instant} (isDeadline : a.context.deadline = some d)
    (cause : Error) : (x [.context a.context, .timer d] w).1 ≠ .cut 1 cause :=
  h.tame.yields _ w a.context d 1 cause List.mem_cons_self isDeadline rfl

/-- An attempt whose context has ended before takes no session, opens no connection and writes
nothing: it leaves everything as it is. -/
theorem Attempt.run_ended
    (ended : a.context.failure? a.world.signals a.world.now = some e) :
    (a.run m).2 = a.world ∧ ((a.run m).1 = .failed e ∨ (a.run m).1 = .overflow) := by
  rcases m.deadline_cases a.context [] a.world with ⟨deadline, limited⟩ | overflow
  · have notBegun {α : Type} (x : Act α) :
        (Means.bounded a.context deadline x : Act α) [] a.world = (.failed e, a.world) :=
      Act.under_ended _ _ ended
    have prepared : (m.prepareSession a.context deadline a.plan.pool : Act Prepared) [] a.world =
        (.failed e, a.world) := by
      cases a.plan.pool with
      | none => exact Act.bind_failed (notBegun _)
      | some p => exact Act.bind_failed (notBegun _)
    rw [Attempt.run_eq limited, Act.bind_failed prepared]
    exact ⟨rfl, .inl rfl⟩
  · have run : a.run m = (.overflow, a.world) := Act.bind_overflow overflow
    rw [run]
    exact ⟨rfl, .inr rfl⟩

/-! ## Tries -/

variable {p : Plan} {s : Standing} {c : Context} {w w' : World}

/-- A hook at the end of a try cannot put another context in place, and no time passes. -/
theorem close_keeps (h : Hooks) (c : Context) (k : Nat) (result : Result Unit)
    (limits : List Limit) (w : World) :
    ∃ w', close h c k result limits w = (.done c, w') ∧ w'.now = w.now := by
  have context : (h.attemptDone k (errorOf? result) w.now (w.ambient c)).context = c := by
    unfold Hooks.attemptDone
    split
    · rfl
    · rfl
  exact ⟨w.heed (h.attemptDone k (errorOf? result) w.now (w.ambient c)),
    Prod.ext (congrArg Outcome.done context) rfl, rfl⟩

/-- An attempt that fails decides the send, or it failed for the time being and its context has
not ended. -/
theorem tryAttempt_failed {e : Error}
    (failed : (m.attempt c p.pool p.envelope [] w).1 = .failed e) :
    ∃ w' : World, w'.now = (m.attempt c p.pool p.envelope [] w).2.now ∧
      (m.tryAttempt p s c [] w).1 =
        .done (if e.isTransient && (c.failure? w'.signals w'.now).isNone
          then .again ⟨s.attempt + 1, c, some e⟩ else .decided (.error e)) := by
  obtain ⟨w', closed, now⟩ :=
    close_keeps p.hooks c s.attempt (.error e) [] (m.attempt c p.pool p.envelope [] w).2
  have standing : Act.failureOf c [] w' = (.done (c.failure? w'.signals w'.now), w') := rfl
  refine ⟨w', now, ?_⟩
  rw [tryAttempt, Act.attempt_bind_finished (Outcome.result?_eq_error.2 failed),
    Act.bind_done closed]
  dsimp only
  rw [Act.bind_done standing]
  split
  · rfl
  · rfl

/-- An attempt that its context ends decides the send. -/
theorem tryAttempt_ended {e : Error}
    (failed : (m.attempt c p.pool p.envelope [] w).1 = .failed e)
    (ended : Limit.Ended (m.attempt c p.pool p.envelope [] w).2 (.context c) e) :
    (m.tryAttempt p s c [] w).1 = .done (.decided (.error e)) := by
  obtain ⟨w', now, run⟩ := tryAttempt_failed (s := s) failed
  have stops := (ended.of_now now).not_retried w'.signals
  rw [run, stops]
  rfl

/-- The error of a try after which another one follows is that of its attempt. -/
theorem tryAttempt_again {next : Standing}
    (again : (m.tryAttempt p s c [] w).1 = .done (.again next)) :
    ∀ e ∈ next.last, e.OfAttempt := by
  obtain ⟨result, finished, -⟩ := Act.attempt_bind_eq_done.1 again
  cases result with
  | ok _ =>
    rw [tryAttempt_succeeded.2 (Outcome.result?_eq_ok.1 finished)] at again
    cases again
  | error e =>
    have failed := Outcome.result?_eq_error.1 finished
    rcases bound_attempt m c p.pool p.envelope w e failed with ofAttempt | ended
    · obtain ⟨w', -, run⟩ := tryAttempt_failed (s := s) failed
      rw [run] at again
      split at again <;> cases again
      intro e' same
      obtain rfl := Option.some.inj same
      exact ofAttempt
    · rw [tryAttempt_ended failed ended] at again
      cases again

theorem tryAttempt_decided {e : Error}
    (decided : (m.tryAttempt p s c [] w).1 = .done (.decided (.error e))) :
    (m.attempt c p.pool p.envelope [] w).1 = .failed e := by
  obtain ⟨result, finished, -⟩ := Act.attempt_bind_eq_done.1 decided
  cases result with
  | ok _ =>
    rw [tryAttempt_succeeded.2 (Outcome.result?_eq_ok.1 finished)] at decided
    cases decided
  | error e' =>
    have failed := Outcome.result?_eq_error.1 finished
    obtain ⟨w', -, run⟩ := tryAttempt_failed (s := s) failed
    rw [run] at decided
    split at decided <;> cases decided
    exact failed

theorem tryOnce_again {next : Standing} (again : (m.tryOnce p s [] w).1 = .done (.again next)) :
    ∀ e ∈ next.last, e.OfAttempt := by
  obtain impossible | ⟨e, -, impossible⟩ | ⟨c, w', -, again⟩ := tryOnce_cases again
  · cases impossible
  · cases impossible
  · exact tryAttempt_again again

/-- If no context ended the try before, the error of a try is clear. -/
theorem tryOnce_clear (last : ∀ e ∈ s.last, e.OfAttempt) {e : Error}
    (decided : (m.tryOnce p s [] w).1 = .done (.decided (.error e))) : e.IsClear := by
  obtain exhausted | ⟨e', contextual, paused⟩ | ⟨c, w', -, decided⟩ := tryOnce_cases decided
  · cases exhausted
    exact Error.isClear_exhausted last
  · cases paused
    exact .inl contextual
  · have failed := tryAttempt_decided decided
    exact ((Act.Candid.makeAttempt m c p.pool p.envelope).fails [] w' e failed).isClear

/-- A try does not fail: its error, if it has one, decides the send. -/
theorem tryOnce_not_failed (m : Mailer) (p : Plan) (s : Standing) (limits : List Limit) (w : World)
    (e : Error) : (m.tryOnce p s limits w).1 ≠ .failed e := by
  intro failed
  have tried := tryOnce_tried m p s limits w
  rw [failed] at tried
  cases tried with
  | unfinished _ _ noResult _ => cases noResult

theorem tries_clear (n : Nat) (last : ∀ e ∈ s.last, e.OfAttempt) {e : Error}
    (failed : (m.tries p n s [] w).1 = .failed e) : e.IsClear := by
  -- By induction on the tries that are left: none of them was repeated after its context ended.
  induction n generalizing s w with
  | zero => cases failed
  | succ n ih =>
    rw [tries] at failed
    rcases Act.bind_cases (m.tryOnce p s) _ [] w with ⟨verdict, made, run⟩ | ⟨stopped, -⟩
    · rw [run] at failed
      cases verdict with
      | decided result =>
        rw [← Outcome.result?_eq_error, (Act.ofResult_run result [] _).1] at failed
        obtain rfl := Option.some.inj failed
        exact tryOnce_clear last made
      | again next => exact ih (tryOnce_again made) failed
    · rw [failed] at stopped
      exact absurd stopped.eq_failed (tryOnce_not_failed m p s [] w e)

end Attempts

/-! ## Sends -/

/-- A delay of a send before one of its attempts. -/
structure Delay where
  number : Nat
  plan : Plan
  context : Context
  duration : Duration
  /-- The surroundings in which it begins. -/
  world : World

section Sends

variable (m : Mailer) (c : Context) (message : Message) (s : SendSettings) (o : Mime.Occasion)
  (draw : Nat → Nat) (w : World)

/-- The send makes this delay, after tries that failed. -/
inductive Delays (d : Delay) : Prop where
  | intro {start : Context} {w₁ w₂ w₃ : World} {failed : List Error} {st : Standing}
      (begun : m.begin c message s o draw [] w = (.done (d.plan, start), w₁))
      (retried : Retried m d.plan [] (⟨0, start, none⟩, w₁) failed st w₂)
      (number : st.attempt = d.number)
      (told : tell st.context (d.plan.hooks.attemptStart st.attempt) [] w₂ = (.done d.context, w₃))
      (asked : ask d.plan.schedule d.plan.draw st.attempt [] w₃ = (.done (some d.duration), d.world))
      (lasts : d.duration.isZero = false)

/-- What is true of a send and the contexts that it waits under. -/
structure Heeds : Prop where
  /-- If its context ends the wait for a token, the send fails with the error of the context and
  makes no attempt. -/
  token : ∀ slot e, s.rateLimit = some slot →
    Act.Interrupted c (waitForToken slot askLimit) w e →
    e.IsContextual ∧ (m.send c message s o draw [] w).1 = .failed e ∧
      ∀ a, ¬ Attempts m c message s o draw w a
  /-- If its context ends a delay, the attempt after it is not made, and none after that. -/
  delay : ∀ d e, Delays m c message s o draw w d →
    Act.Interrupted d.context (Act.sleep d.duration) d.world e →
    e.IsContextual ∧ (m.send c message s o draw [] w).1 = .failed e ∧
      ∀ a, Attempts m c message s o draw w a → a.number < d.number
  /-- If its context ends something that an attempt does, there is no other attempt after it. -/
  attempt : ∀ a deadline α (x : Act α) w' e, Attempts m c message s o draw w a →
    a.Does m deadline x w' → Act.Interrupted a.context (Act.until? deadline x) w' e →
    e.IsContextual ∧ (m.send c message s o draw [] w).1 = .failed e ∧
      ∀ a', Attempts m c message s o draw w a' → a'.number ≤ a.number
  /-- When the deadline of its context passes, it is the context that ends an attempt, and not the
  timer that is set to the same time. -/
  deadline : ∀ a deadline α (x : Act α) w' d, Attempts m c message s o draw w a →
    a.Does m deadline x w' → a.context.deadline = some d →
    deadline = some d ∧ ∀ cause, (x [.context a.context, .timer d] w').1 ≠ .cut 1 cause
  /-- If its context has ended before an attempt, the attempt changes nothing. -/
  before : ∀ a e, Attempts m c message s o draw w a →
    a.context.failure? a.world.signals a.world.now = some e →
    (a.run m).2 = a.world ∧ ((a.run m).1 = .failed e ∨ (a.run m).1 = .overflow)
  /-- The end of a context is never part of another error, neither of an attempt … -/
  attempts_clear : ∀ a e, Attempts m c message s o draw w a → (a.run m).1 = .failed e → e.IsClear
  /-- … nor of the send. -/
  clear : ∀ e, (m.send c message s o draw [] w).1 = .failed e → e.IsClear

variable {m c message s o draw w}

/-- If no token is granted, the send fails with that error and makes no attempt. -/
theorem send_notGranted {e : Error} (failed : (takeToken c s [] w).1 = .failed e) :
    (m.send c message s o draw [] w).1 = .failed e ∧ ∀ a, ¬ Attempts m c message s o draw w a := by
  have begun : m.begin c message s o draw [] w = (.failed e, (takeToken c s [] w).2) :=
    Act.bind_failed (Prod.ext failed rfl)
  constructor
  · rw [send, Act.bind_failed begun]
  · rintro a ⟨begun', -, -, -⟩
    cases begun.symm.trans begun'

theorem prepare_local {limits : List Limit} {e : Error}
    (failed : (prepare message s o c limits w).1 = .failed e) : e.IsLocal := by
  cases valid : message.validate with
  | error e' =>
    rw [prepare_error (build_invalid valid _ _ o w.now (w.ambient c))] at failed
    cases failed
    exact FailsWith.validate message e valid
  | ok _ =>
    obtain ⟨a, standing, built, -⟩ :=
      build_valid valid s.toFinishing (s.hooks.getD {}) o w.now (w.ambient c)
    cases payload : Mime.payload message s.toFinishing o with
    | error e' =>
      rw [payload] at built
      rw [prepare_error built] at failed
      cases failed
      exact FailsWith.payload message _ o e payload
    | ok content =>
      rw [payload] at built
      rw [prepare_ok built] at failed
      cases failed

theorem begin_clear {e : Error} (failed : (m.begin c message s o draw [] w).1 = .failed e) :
    e.IsClear := by
  rcases Act.bind_cases (takeToken c s) _ [] w with ⟨_, -, run⟩ | ⟨stopped, -⟩
  · rw [begin, run] at failed
    rcases Act.bind_cases (prepare message s o c) _ [] _ with ⟨_, -, run⟩ | ⟨stopped, -⟩
    · rw [run] at failed
      cases failed
    · rw [failed] at stopped
      exact .inr (prepare_local stopped.eq_failed).isOwn
  · rw [← begin, failed] at stopped
    exact .inl ((Act.Candid.takeToken c s).fails [] w e stopped.eq_failed)

/-- If a delay fails, the try that it belongs to decides the send. -/
theorem Delays.decided {d : Delay} (h : Delays m c message s o draw w d) {e : Error}
    (failed : (Act.under d.context (Act.sleep d.duration) [] d.world).1 = .failed e) :
    (m.send c message s o draw [] w).1 = .failed e ∧
      ∀ a, Attempts m c message s o draw w a → a.number < d.number := by
  obtain @⟨start, w₁, w₂, w₃, before, st, begun, retried, number, told, asked, lasts⟩ := h
  have paused : (pause d.context d.duration [] d.world).1 = .failed e := by
    rw [pause, lasts]
    exact failed
  have decided : (m.tryOnce d.plan st [] w₂).1 = .done (.decided (.error e)) := by
    obtain ⟨w₄, closed, -⟩ := close_keeps d.plan.hooks d.context st.attempt (.error e) []
      (pause d.context d.duration [] d.world).2
    rw [tryOnce, Act.bind_done told, Act.bind_done asked]
    dsimp only
    rw [Act.attempt_bind_finished (Outcome.result?_eq_error.2 paused)]
    dsimp only
    rw [Act.bind_done closed]
    rfl
  obtain ⟨result, atMost⟩ := send_decided begun retried decided
  refine ⟨Outcome.result?_eq_error.1 result, fun a attempts => ?_⟩
  refine Nat.lt_of_le_of_ne (number ▸ atMost a attempts) fun same => ?_
  -- An attempt of this number would have come after this very delay.
  rcases d with ⟨_, p, context, duration, world⟩
  rcases a with ⟨_, p', context', world'⟩
  obtain @⟨start', w₁', w₂', before', st', begun', retried', number', reaches⟩ := attempts
  have first := begun.symm.trans begun'
  simp only [Prod.mk.injEq, Outcome.done.injEq] at first
  obtain ⟨⟨rfl, rfl⟩, rfl⟩ := first
  have count : before.length = before'.length := by
    rw [← retried.account.attempt, ← retried'.account.attempt, number, number', same]
  obtain ⟨rfl, rfl⟩ := retried.unique retried' count
  obtain ⟨told', asked', paused'⟩ := reaches
  cases told.symm.trans told'
  cases asked.symm.trans asked'
  rw [paused'] at paused
  cases paused

/-- Whatever is ended by a context, at whatever moment: the send returns the error of the context
itself and makes no further attempt. -/
theorem send_heeds (m : Mailer) (c : Context) (message : Message) (s : SendSettings)
    (o : Mime.Occasion) (draw : Nat → Nat) (w : World) : Heeds m c message s o draw w where
  token := by
    intro slot e limiter interrupted
    obtain ⟨failed, ended⟩ :=
      interrupted.ended (Act.Candid.waitForToken (E := fun _ => False) slot askLimit).toTame
    have taken : takeToken c s = Act.under c (waitForToken slot askLimit) := by
      rw [takeToken, limiter]
    exact ⟨ended.isContextual, send_notGranted (by rw [taken]; exact failed)⟩
  delay := by
    intro d e delays interrupted
    obtain ⟨failed, ended⟩ := interrupted.ended (.sleep d.duration)
    exact ⟨ended.isContextual, delays.decided failed⟩
  attempt := by
    intro a deadline α x w' e attempts does interrupted
    obtain ⟨failed, ended⟩ := does.failed interrupted
    obtain ⟨begun, retried, number, reaches⟩ := attempts
    have decided := reaches.tryOnce_eq (m := m)
    have last := send_decided begun retried
      ((congrArg Prod.fst decided).trans (tryAttempt_ended failed ended))
    rw [number, Outcome.result?_eq_error] at last
    exact ⟨ended.isContextual, last⟩
  deadline := fun a deadline α x w' d _ does isDeadline =>
    ⟨does.deadline_eq isDeadline, does.not_timed isDeadline⟩
  before := fun a e _ ended => Attempt.run_ended ended
  attempts_clear := fun a e _ failed =>
    ((Act.Candid.makeAttempt m a.context a.plan.pool a.plan.envelope).fails [] a.world e
      failed).isClear
  clear := by
    intro e failed
    rcases Act.bind_cases (m.begin c message s o draw) _ [] w with ⟨⟨p, start⟩, -, run⟩ | ⟨stopped, -⟩
    · rw [send, run] at failed
      exact tries_clear _ (by simp) failed
    · rw [← send, failed] at stopped
      exact begin_clear stopped.eq_failed

end Sends

end Mailer
end Outbox
