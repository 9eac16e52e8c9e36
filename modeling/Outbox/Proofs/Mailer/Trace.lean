import Mathlib.Tactic.ByContra
import Outbox.Proofs.Act

/-!
# Outbox.Proofs.Mailer.Trace — what hooks are told during a send

A send tells its hooks of the build and of each try, at the start and at the end of each.

* `Tried` says what a try comes to and what hooks were told of it (`tryOnce_tried`).
* `Retried` is the run of tries after which another one was made. What such a run told, and
  where it leaves the send, is proved by induction on the run (`Retried.account`).
* `Traced` is the trace of a whole send (`send_traced`).
-/

namespace Outbox

/-! ## Events -/

/-- Whether an event is something that a hook was told. -/
def Event.isTold : Event → Bool
  | .asked _ _ => false
  | _ => true

/-- What hooks were told so far. -/
def World.told (w : World) : List Event := w.journal.filter Event.isTold

theorem StartHook.journal_call {α : Type} (hook : StartHook α) (event : Event) (subject : α)
    (now : Instant) (a : Ambient) :
    (hook.call event subject now a).journal = a.journal ++ [event] := rfl

theorem DoneHook.journal_call {α : Type} (hook : DoneHook α) (event : Event) (subject : α)
    (failure : Option Error) (now : Instant) (a : Ambient) :
    (hook.call event subject failure now a).journal = a.journal ++ [event] := rfl

namespace Hooks

/-- Whether the hook is set that is told of an event. -/
def hears (h : Hooks) : Event → Bool
  | .buildStart _ => h.onBuildStart.isSome
  | .buildDone .. => h.onBuildDone.isSome
  | .attemptStart _ => h.onAttemptStart.isSome
  | .attemptDone .. => h.onAttemptDone.isSome
  | .asked .. => false

/-- The events of which the hooks that are set are told. -/
def heard (h : Hooks) (events : List Event) : List Event := events.filter h.hears

@[simp] theorem heard_append (h : Hooks) (events more : List Event) :
    h.heard (events ++ more) = h.heard events ++ h.heard more :=
  List.filter_append ..

@[simp] theorem heard_nil (h : Hooks) : h.heard [] = [] := rfl

/-! ## Calls -/

variable (h : Hooks) (now : Instant) (a : Ambient)

theorem journal_buildStart (m : Message) :
    (h.buildStart m now a).journal = a.journal ++ h.heard [.buildStart m.subject] := by
  unfold buildStart heard
  cases set : h.onBuildStart with
  | none => simp [hears, set]
  | some hook => simp [hears, set, StartHook.journal_call]

theorem journal_buildDone (m : Message) (size : Nat) (failure : Option Error) :
    (h.buildDone m size failure now a).journal =
      a.journal ++ h.heard [.buildDone m.subject (a.standing now) size failure] := by
  unfold buildDone heard
  cases set : h.onBuildDone with
  | none => simp [hears, set]
  | some hook => simp [hears, set, DoneHook.journal_call]

theorem journal_attemptStart (k : Nat) :
    (h.attemptStart k now a).journal = a.journal ++ h.heard [.attemptStart k] := by
  unfold attemptStart heard
  cases set : h.onAttemptStart with
  | none => simp [hears, set]
  | some hook => simp [hears, set, StartHook.journal_call]

theorem journal_attemptDone (k : Nat) (failure : Option Error) :
    (h.attemptDone k failure now a).journal = a.journal ++ h.heard [.attemptDone k failure] := by
  unfold attemptDone heard
  cases set : h.onAttemptDone with
  | none => simp [hears, set]
  | some hook => simp [hears, set, DoneHook.journal_call]

/-- What the hooks that are set hear of a send they are told. -/
theorem filter_isTold_heard (events : List Event) :
    (h.heard events).filter Event.isTold = h.heard events := by
  rw [heard, List.filter_eq_self]
  intro event isHeard
  have hears := (List.mem_filter.1 isHeard).2
  cases event with
  | asked k delay => exact absurd hears Bool.false_ne_true
  | _ => rfl

theorem told_append {w w' : World} {events : List Event}
    (journal : w'.journal = w.journal ++ h.heard events) : w'.told = w.told ++ h.heard events := by
  rw [World.told, journal, List.filter_append, h.filter_isTold_heard, World.told]

end Hooks

/-- Hooks are told nothing by a tame act. -/
theorem Act.Tame.told {α : Type} {x : Act α} (h : Tame x) (limits : List Limit) (w : World) :
    (x limits w).2.told = w.told := by
  rw [World.told, h.silent, World.told]

/-! ## Tries -/

/-- The events of a try: its start, and its end once it has a result. -/
def bracket (k : Nat) (closing : Option (Result Unit)) : List Event :=
  .attemptStart k :: (closing.map fun result => Event.attemptDone k (errorOf? result)).toList

/-- The events of tries that failed with these errors, one after another. -/
def brackets (failed : List Error) : List Event :=
  failed.zipIdx.flatMap fun (e, k) => bracket k (some (.error e))

theorem brackets_concat (failed : List Error) (e : Error) :
    brackets (failed ++ [e]) = brackets failed ++ bracket failed.length (some (.error e)) := by
  simp [brackets, List.zipIdx_append]

namespace Mailer

variable {m : Mailer} {p : Plan} {limits : List Limit} {s : Standing} {w w' : World}

/-- What a try comes to, what hooks were told of it, and what is known of its result. -/
inductive Tried (p : Plan) (s : Standing) (w w' : World) : Outcome Verdict → Prop where
  | exhausted (delay : p.schedule.next s.attempt (p.draw s.attempt) = none)
      (told : w'.told = w.told ++
        p.hooks.heard (bracket s.attempt (some (.error (.exhausted s.attempt s.last))))) :
      Tried p s w w' (.done (.decided (.error (.exhausted s.attempt s.last))))
  | decided (delay : (p.schedule.next s.attempt (p.draw s.attempt)).isSome) (result : Result Unit)
      (ordinary : FailsWith Error.IsOrdinary result)
      (told : w'.told = w.told ++ p.hooks.heard (bracket s.attempt (some result))) :
      Tried p s w w' (.done (.decided result))
  | again (delay : (p.schedule.next s.attempt (p.draw s.attempt)).isSome) (e : Error)
      (c : Context) (transient : e.isTransient) (goesOn : c.failure? w'.signals w'.now = none)
      (told : w'.told = w.told ++ p.hooks.heard (bracket s.attempt (some (.error e)))) :
      Tried p s w w' (.done (.again ⟨s.attempt + 1, c, some e⟩))
  | unfinished (delay : (p.schedule.next s.attempt (p.draw s.attempt)).isSome)
      (outcome : Outcome Verdict) (noResult : outcome.result? = none)
      (told : w'.told = w.told ++ p.hooks.heard (bracket s.attempt none)) :
      Tried p s w w' outcome

/-- A hook is called at the start of a try. -/
theorem tell_attemptStart (h : Hooks) (c : Context) (k : Nat) (limits : List Limit) (w : World) :
    ∃ c' w', tell c (h.attemptStart k) limits w = (.done c', w') ∧
      w'.told = w.told ++ h.heard [.attemptStart k] := by
  refine ⟨_, _, rfl, ?_⟩
  exact h.told_append (h.journal_attemptStart w.now (w.ambient c) k)

/-- The schedule is asked, of which no hook is told. -/
theorem ask_run (schedule : Schedule) (draw : Nat → Nat) (k : Nat) (limits : List Limit)
    (w : World) :
    ∃ w', ask schedule draw k limits w = (.done (schedule.next k (draw k)), w') ∧
      w'.told = w.told := by
  refine ⟨_, rfl, ?_⟩
  simp [World.told, Event.isTold]

/-- A hook is called at the end of a try. -/
theorem close_run (h : Hooks) (c : Context) (k : Nat) (result : Result Unit)
    (limits : List Limit) (w : World) :
    ∃ c' w', close h c k result limits w = (.done c', w') ∧
      w'.told = w.told ++ h.heard [.attemptDone k (errorOf? result)] := by
  refine ⟨_, _, rfl, ?_⟩
  exact h.told_append (h.journal_attemptDone w.now (w.ambient c) k (errorOf? result))

/-- A try has begun by `w₁`, and hooks were told nothing more since then. -/
structure Begun (p : Plan) (s : Standing) (w w₁ : World) : Prop where
  delay : (p.schedule.next s.attempt (p.draw s.attempt)).isSome
  told : w₁.told = w.told ++ p.hooks.heard [.attemptStart s.attempt]

/-- The end of a try closes its bracket. -/
theorem told_bracket {w₁ w₂ : World} {result : Result Unit}
    (told₁ : w₁.told = w.told ++ p.hooks.heard [.attemptStart s.attempt])
    (told₂ : w₂.told = w₁.told ++ p.hooks.heard [.attemptDone s.attempt (errorOf? result)]) :
    w₂.told = w.told ++ p.hooks.heard (bracket s.attempt (some result)) := by
  rw [told₂, told₁, List.append_assoc, ← Hooks.heard_append]
  rfl

/-- What comes of a try whose attempt is made under the context `c`. -/
theorem Begun.tryAttempt {w₁ : World} (begun : Begun p s w w₁) (m : Mailer) (c : Context)
    (limits : List Limit) :
    Tried p s w (m.tryAttempt p s c limits w₁).2 (m.tryAttempt p s c limits w₁).1 := by
  have attempt := Act.Candid.makeAttempt m c p.pool p.envelope
  have silent := attempt.told limits w₁
  rw [Mailer.tryAttempt]
  rcases finished : (m.attempt c p.pool p.envelope limits w₁).1.result? with _ | result
  · -- Without a result the bracket stays open.
    obtain ⟨noResult, world⟩ := Act.attempt_bind_unfinished finished
    rw [world]
    have told : (m.attempt c p.pool p.envelope limits w₁).2.told =
        w.told ++ p.hooks.heard (bracket s.attempt none) := by
      rw [silent, begun.told]
      rfl
    exact .unfinished begun.delay _ noResult told
  · rw [Act.attempt_bind_finished finished]
    obtain ⟨c', w₂, close, told⟩ := close_run p.hooks c s.attempt result limits _
    have told : w₂.told = w.told ++ p.hooks.heard (bracket s.attempt (some result)) :=
      told_bracket (by rw [silent, begun.told]) told
    have ordinary : FailsWith Error.IsOrdinary result := by
      intro e same
      rw [same] at finished
      exact (attempt.fails limits w₁ e (Outcome.result?_eq_error.1 finished)).isOrdinary
    rw [Act.bind_done close]
    cases result with
    | ok _ => exact .decided begun.delay (.ok ()) ordinary told
    | error e =>
      have standing : Act.failureOf c' limits w₂ =
          (.done (c'.failure? w₂.signals w₂.now), w₂) := rfl
      dsimp only
      rw [Act.bind_done standing]
      split
      next again =>
        rw [Bool.and_eq_true, Option.isNone_iff_eq_none] at again
        exact .again begun.delay e c' again.1 again.2 told
      next => exact .decided begun.delay (.error e) ordinary told

/-- A try is told of at its start and, if it comes to its end, once more with its result. -/
theorem tryOnce_tried (m : Mailer) (p : Plan) (s : Standing) (limits : List Limit) (w : World) :
    Tried p s w (m.tryOnce p s limits w).2 (m.tryOnce p s limits w).1 := by
  obtain ⟨c, w₁, start, told₁⟩ := tell_attemptStart p.hooks s.context s.attempt limits w
  obtain ⟨w₂, asked, told₂⟩ := ask_run p.schedule p.draw s.attempt limits w₁
  rw [tryOnce, Act.bind_done start, Act.bind_done asked]
  rcases next : p.schedule.next s.attempt (p.draw s.attempt) with _ | delay
  · -- There are no attempts left.
    obtain ⟨c', w₃, close, told₃⟩ :=
      close_run p.hooks c s.attempt (.error (.exhausted s.attempt s.last)) limits w₂
    dsimp only
    rw [Act.bind_done close]
    exact .exhausted next (told_bracket (by rw [told₂, told₁]) told₃)
  · have pause := Act.Candid.pause c delay
    have begun : Begun p s w (Mailer.pause c delay limits w₂).2 :=
      ⟨by rw [next]; rfl, by rw [pause.told, told₂, told₁]⟩
    dsimp only
    rcases finished : (Mailer.pause c delay limits w₂).1.result? with _ | (e | ⟨⟩)
    · -- The wait does not come to its end.
      obtain ⟨noResult, world⟩ := Act.attempt_bind_unfinished finished
      rw [world]
      exact .unfinished begun.delay _ noResult begun.told
    · -- The wait is interrupted, and no attempt is made.
      rw [Act.attempt_bind_finished finished]
      obtain ⟨c', w₃, close, told₃⟩ := close_run p.hooks c s.attempt (.error e) limits _
      have ordinary : e.IsOrdinary :=
        (pause.fails limits w₂ e (Outcome.result?_eq_error.1 finished)).isOrdinary
      dsimp only
      rw [Act.bind_done close]
      exact .decided begun.delay (.error e) (.error ordinary) (told_bracket begun.told told₃)
    · -- The attempt is made.
      rw [Act.attempt_bind_finished finished]
      exact begun.tryAttempt m c limits

/-! ## Runs of tries -/

/-- From `start` on, tries failed with these errors, and after each of them the send went on. -/
inductive Retried (m : Mailer) (p : Plan) (limits : List Limit) (start : Standing × World) :
    List Error → Standing → World → Prop where
  | start : Retried m p limits start [] start.1 start.2
  | again {failed : List Error} {e : Error} {s next : Standing} {w w' : World}
      (before : Retried m p limits start failed s w)
      (run : m.tryOnce p s limits w = (.done (.again next), w')) (last : next.last = some e) :
      Retried m p limits start (failed ++ [e]) next w'

/-- What is known of a send after tries that failed with these errors. -/
structure Account (p : Plan) (start : World) (failed : List Error) (s : Standing) (w : World) :
    Prop where
  attempt : s.attempt = failed.length
  last : s.last = failed.getLast?
  told : w.told = start.told ++ p.hooks.heard (brackets failed)

variable {c : Context} {start : World} {failed : List Error}

theorem Retried.account (h : Retried m p limits (⟨0, c, none⟩, start) failed s w) :
    Account p start failed s w := by
  -- By induction on the run: each of its tries adds a bracket.
  induction h with
  | start => exact ⟨rfl, rfl, by simp [brackets]⟩
  | @again failed e s next w w' before run last ih =>
    have tried := tryOnce_tried m p s limits w
    rw [run] at tried
    cases tried with
    | again delay e c transient goesOn told =>
      obtain rfl := Option.some.inj last
      refine ⟨?_, ?_, ?_⟩
      · simp [ih.attempt]
      · simp
      rw [told, ih.told, ih.attempt, brackets_concat, Hooks.heard_append, List.append_assoc]
    | unfinished _ _ noResult _ => cases noResult

/-- After a try that failed with the error `e`, another one was rightly made. -/
structure Renewed (m : Mailer) (p : Plan) (limits : List Limit) (start : Standing × World)
    (failed : List Error) (e : Error) : Prop where
  allowed : (p.schedule.next failed.length (p.draw failed.length)).isSome
  transient : e.isTransient
  goesOn : ∃ s w, Retried m p limits start (failed ++ [e]) s w ∧
    s.context.failure? w.signals w.now = none

theorem Retried.renewed (h : Retried m p limits (⟨0, c, none⟩, start) failed s w) {k : Nat}
    {e : Error} (at_k : failed[k]? = some e) :
    Renewed m p limits (⟨0, c, none⟩, start) (failed.take k) e := by
  induction h with
  | start => cases at_k
  | @again failed e' s next w w' before run last ih =>
    by_cases earlier : k < failed.length
    · rw [List.getElem?_append_left earlier] at at_k
      rw [List.take_append_of_le_length (by omega)]
      exact ih at_k
    · -- This is the last try of the run.
      obtain rfl : k = failed.length := by
        have := (List.getElem?_eq_some_iff.1 at_k).1
        rw [List.length_append, List.length_singleton] at this
        omega
      obtain rfl : e' = e := by simpa using at_k
      have count := before.account.attempt
      have tried := tryOnce_tried m p s limits w
      have whole := Retried.again before run last
      rw [run] at tried
      rw [List.take_left]
      cases tried with
      | again delay e c transient goesOn told =>
        obtain rfl := Option.some.inj last
        exact ⟨by rwa [← count], transient, _, _, whole, goesOn⟩
      | unfinished _ _ noResult _ => cases noResult

/-- There are no more tries than the schedule allows. -/
theorem Retried.length_le (h : Retried m p limits (⟨0, c, none⟩, start) failed s w) :
    failed.length ≤ p.schedule.limit := by
  by_contra more
  have inside := Nat.lt_of_not_le more
  -- The try at the limit of the schedule would have been made against it.
  have allowed := (h.renewed (List.getElem?_eq_getElem inside)).allowed
  rw [List.length_take, Nat.min_eq_left (Nat.le_of_lt inside), p.schedule.next_limit] at allowed
  cases allowed

/-- The tries of a send that are made from `start` on, under the context `c`, and end with
`outcome` in `w'`. After those that failed with the errors `failed` another one was made, and
none after the one that followed them. -/
structure Course (m : Mailer) (p : Plan) (limits : List Limit) (c : Context) (start : World)
    (failed : List Error) (outcome : Outcome Unit) (w' : World) : Prop where
  told : w'.told = start.told ++
    p.hooks.heard (brackets failed ++ bracket failed.length outcome.result?)
  renewed : ∀ k e, failed[k]? = some e →
    Renewed m p limits (⟨0, c, none⟩, start) (failed.take k) e
  exhausted : ∀ attempts last, outcome = .failed (.exhausted attempts last) ↔
    p.schedule.next failed.length (p.draw failed.length) = none ∧
      attempts = failed.length ∧ last = failed.getLast?

theorem tries_decided {result : Result Unit} (n : Nat)
    (run : m.tryOnce p s limits w = (.done (.decided result), w')) :
    m.tries p (n + 1) s limits w = Act.ofResult result limits w' := by
  rw [tries, Act.bind_done run]

theorem tries_again {next : Standing} (n : Nat)
    (run : m.tryOnce p s limits w = (.done (.again next), w')) :
    m.tries p (n + 1) s limits w = m.tries p n next limits w' := by
  rw [tries, Act.bind_done run]

theorem tries_unfinished (n : Nat) (run : (m.tryOnce p s limits w).1.result? = none) :
    (m.tries p (n + 1) s limits w).1.result? = none ∧
      (m.tries p (n + 1) s limits w).2 = (m.tryOnce p s limits w).2 := by
  rw [tries]
  exact Act.bind_unfinished run

/-- The course of a send whose last try is made now. -/
theorem Retried.ended (h : Retried m p limits (⟨0, c, none⟩, start) failed s w)
    {outcome : Outcome Unit} {closing : Option (Result Unit)} (result : outcome.result? = closing)
    (told : w'.told = w.told ++ p.hooks.heard (bracket s.attempt closing))
    (exhausted : ∀ attempts last, closing = some (.error (.exhausted attempts last)) ↔
      p.schedule.next s.attempt (p.draw s.attempt) = none ∧
        attempts = s.attempt ∧ last = s.last) :
    Course m p limits c start failed outcome w' where
  told := by
    rw [told, h.account.told, h.account.attempt, Hooks.heard_append, List.append_assoc, result]
  renewed k e := h.renewed
  exhausted attempts last := by
    rw [← Outcome.result?_eq_error, result, exhausted, h.account.attempt, h.account.last]

/-- A try that the schedule allows does not end with exhausted attempts. -/
theorem not_exhausted {closing : Option (Result Unit)}
    (delay : (p.schedule.next s.attempt (p.draw s.attempt)).isSome)
    (ordinary : ∀ e, closing = some (.error e) → e.IsOrdinary) (attempts : Nat)
    (last : Option Error) :
    closing = some (.error (.exhausted attempts last)) ↔
      p.schedule.next s.attempt (p.draw s.attempt) = none ∧
        attempts = s.attempt ∧ last = s.last := by
  constructor
  · intro exhausted
    exact absurd rfl (ordinary _ exhausted attempts last)
  · rintro ⟨none, -, -⟩
    rw [none] at delay
    cases delay

/-- If there are enough tries left for the schedule, they follow its course. -/
theorem Retried.course (h : Retried m p limits (⟨0, c, none⟩, start) failed s w) (n : Nat)
    (enough : p.schedule.limit < s.attempt + n) :
    ∃ failed, Course m p limits c start failed (m.tries p n s limits w).1
      (m.tries p n s limits w).2 := by
  -- By induction on the tries that are left.
  induction n generalizing failed s w with
  | zero =>
    -- The schedule has ended before so many tries were made.
    rw [Nat.add_zero, h.account.attempt] at enough
    exact absurd h.length_le (Nat.not_le_of_lt enough)
  | succ n ih =>
    have tried := tryOnce_tried m p s limits w
    rcases run : m.tryOnce p s limits w with ⟨outcome, w'⟩
    rw [run] at tried
    cases tried with
    | exhausted delay told =>
      have given := Act.ofResult_run (.error (.exhausted s.attempt s.last) : Result Unit) limits w'
      rw [tries_decided n run, given.2]
      refine ⟨failed, h.ended given.1 told ?_⟩
      intro attempts last
      simp [delay, eq_comm]
    | decided delay result ordinary told =>
      have given := Act.ofResult_run result limits w'
      rw [tries_decided n run, given.2]
      refine ⟨failed, h.ended given.1 told (not_exhausted delay ?_)⟩
      intro e same
      exact ordinary e (Option.some.inj same)
    | again delay e c transient goesOn told =>
      rw [tries_again n run]
      exact ih (h.again run rfl) (by dsimp only; omega)
    | unfinished delay _ noResult told =>
      obtain ⟨unfinished, world⟩ := tries_unfinished n (by rw [run]; exact noResult)
      rw [run] at world
      rw [world]
      exact ⟨failed, h.ended unfinished told (not_exhausted delay fun _ => nofun)⟩

/-- All tries of a send follow the course of its schedule. -/
theorem course_tries (m : Mailer) (p : Plan) (limits : List Limit) (c : Context) (w : World) :
    ∃ failed, Course m p limits c w failed
      (m.tries p (p.schedule.limit + 1) ⟨0, c, none⟩ limits w).1
      (m.tries p (p.schedule.limit + 1) ⟨0, c, none⟩ limits w).2 :=
  Retried.start.course _ (by rw [Nat.zero_add]; exact Nat.lt_succ_self _)

/-! ## Builds -/

/-- The events of a build that gave `result`, when the context stood so at its end. -/
def buildEvents (subject : String) (standing : Option Error) (result : Result Octets) :
    List Event :=
  [.buildStart subject, .buildDone subject standing (payloadSize result) (errorOf? result)]

theorem build_invalid {message : Message} {e : Error} (invalid : message.validate = .error e)
    (f : Mime.Finishing) (hooks : Hooks) (o : Mime.Occasion) (now : Instant) (a : Ambient) :
    build message f hooks o now a = (.error e, a) := by
  rw [build, invalid]

/-- A message that can be sent is built between the two hooks of a build. -/
theorem build_valid {message : Message} (valid : message.validate = .ok ())
    (f : Mime.Finishing) (hooks : Hooks) (o : Mime.Occasion) (now : Instant) (a : Ambient) :
    ∃ a' standing, build message f hooks o now a = (Mime.payload message f o, a') ∧
      a'.journal = a.journal ++
        hooks.heard (buildEvents message.subject standing (Mime.payload message f o)) := by
  rw [build, valid]
  refine ⟨_, (hooks.buildStart message now a).standing now, rfl, ?_⟩
  rw [Hooks.journal_buildDone, Hooks.journal_buildStart, List.append_assoc, ← Hooks.heard_append]
  rfl

theorem prepare_ok {message : Message} {s : SendSettings} {o : Mime.Occasion} {c : Context}
    {content : Octets} {a : Ambient}
    (built : build message s.toFinishing (s.hooks.getD {}) o w.now (w.ambient c) =
      (.ok content, a)) :
    prepare message s o c limits w = (.done (content, a.context), w.heed a) := by
  simp only [prepare, Act.changing, bind, Act.bind, built]
  rfl

theorem prepare_error {message : Message} {s : SendSettings} {o : Mime.Occasion} {c : Context}
    {e : Error} {a : Ambient}
    (built : build message s.toFinishing (s.hooks.getD {}) o w.now (w.ambient c) =
      (.error e, a)) :
    prepare message s o c limits w = (.failed e, w.heed a) := by
  simp only [prepare, Act.changing, bind, Act.bind, built]
  rfl

theorem payload_of_prepare {message : Message} {s : SendSettings} {o : Mime.Occasion}
    {c c' : Context} {content : Octets}
    (h : prepare message s o c limits w = (.done (content, c'), w')) :
    Mime.payload message s.toFinishing o = .ok content := by
  cases valid : message.validate with
  | error e =>
    rw [prepare_error (build_invalid valid _ _ o w.now (w.ambient c))] at h
    cases h
  | ok _ =>
    obtain ⟨a, standing, built, -⟩ :=
      build_valid valid s.toFinishing (s.hooks.getD {}) o w.now (w.ambient c)
    cases payload : Mime.payload message s.toFinishing o with
    | error e =>
      rw [payload] at built
      rw [prepare_error built] at h
      cases h
    | ok _ =>
      rw [payload] at built
      rw [prepare_ok built] at h
      cases h
      rfl

/-! ## Sends -/

/-- The trace of a send that ends with `outcome` in `w'`. -/
inductive Traced (m : Mailer) (c : Context) (message : Message) (s : SendSettings)
    (o : Mime.Occasion) (draw : Nat → Nat) (limits : List Limit) (w w' : World)
    (outcome : Outcome Unit) : Prop where
  /-- No token was granted. -/
  | notGranted (notGranted : (takeToken c s limits w).1 ≠ .done ())
      (same : outcome = (takeToken c s limits w).1)
      (ordinary : ∀ e, outcome = .failed e → e.IsOrdinary) (told : w'.told = w.told)
  /-- The message cannot be sent. -/
  | invalid (granted : (takeToken c s limits w).1 = .done ()) (e : Error)
      (invalid : message.validate = .error e) (ordinary : e.IsOrdinary)
      (failed : outcome = .failed e) (told : w'.told = w.told)
  /-- Its payload cannot be built. -/
  | unbuilt (granted : (takeToken c s limits w).1 = .done ())
      (valid : message.validate = .ok ()) (e : Error) (standing : Option Error)
      (payload : Mime.payload message s.toFinishing o = .error e) (ordinary : e.IsOrdinary)
      (failed : outcome = .failed e)
      (told : w'.told = w.told ++
        (s.hooks.getD {}).heard (buildEvents message.subject standing (.error e)))
  /-- There were tries. -/
  | tried (granted : (takeToken c s limits w).1 = .done ())
      (valid : message.validate = .ok ()) (content : Octets) (standing : Option Error)
      (payload : Mime.payload message s.toFinishing o = .ok content) (c' : Context) (w₁ : World)
      (begun : m.begin c message s o draw limits w =
        (.done (m.planFor message s draw content, c'), w₁))
      (told : w₁.told = w.told ++
        (s.hooks.getD {}).heard (buildEvents message.subject standing (.ok content)))
      (failed : List Error)
      (course : Course m (m.planFor message s draw content) limits c' w₁ failed outcome w')

theorem send_eq (m : Mailer) (c : Context) (message : Message) (s : SendSettings)
    (o : Mime.Occasion) (draw : Nat → Nat) :
    m.send c message s o draw = (do
      takeToken c s
      let (content, c') ← prepare message s o c
      let p := m.planFor message s draw content
      m.tries p (p.schedule.limit + 1) ⟨0, c', none⟩) := by
  simp only [send, begin, Act.bind_assoc]
  rfl

/-- Whatever the hooks, the schedule and the surroundings of a send are, its hooks hear a trace
of well closed brackets that agrees with what the send returns. -/
theorem send_traced (m : Mailer) (c : Context) (message : Message) (s : SendSettings)
    (o : Mime.Occasion) (draw : Nat → Nat) (limits : List Limit) (w : World) :
    Traced m c message s o draw limits w (m.send c message s o draw limits w).2
      (m.send c message s o draw limits w).1 := by
  have token := Act.Candid.takeToken c s
  have silent := token.told limits w
  rw [send_eq]
  by_cases granted : (takeToken c s limits w).1 = .done ()
  case neg =>
    rw [Act.bind_eq_self granted]
    exact .notGranted granted rfl (fun e failed => (token.fails limits w e failed).isOrdinary) silent
  have taken : takeToken c s limits w = (.done (), (takeToken c s limits w).2) := by rw [← granted]
  rw [Act.bind_done taken]
  generalize (takeToken c s limits w).2 = w₁ at silent taken
  cases valid : message.validate with
  | error e =>
    -- Hooks hear nothing of a message that cannot be sent.
    rw [Act.bind_failed (prepare_error (build_invalid valid _ _ o w₁.now (w₁.ambient c)))]
    refine .invalid granted e valid (FailsWith.validate message e valid).isOrdinary rfl ?_
    exact silent
  | ok _ =>
    obtain ⟨a, standing, built, journal⟩ :=
      build_valid valid s.toFinishing (s.hooks.getD {}) o w₁.now (w₁.ambient c)
    have told : (w₁.heed a).told = w.told ++ (s.hooks.getD {}).heard
        (buildEvents message.subject standing (Mime.payload message s.toFinishing o)) := by
      rw [← silent]
      exact Hooks.told_append _ journal
    cases payload : Mime.payload message s.toFinishing o with
    | error e =>
      -- Without a payload there are no tries.
      rw [payload] at built told
      rw [Act.bind_failed (prepare_error built)]
      exact .unbuilt granted valid e standing payload
        (FailsWith.payload message _ o e payload).isOrdinary rfl told
    | ok content =>
      rw [payload] at built told
      have prepared : prepare message s o c limits w₁ =
          (.done (content, a.context), w₁.heed a) := prepare_ok built
      have begun : m.begin c message s o draw limits w =
          (.done (m.planFor message s draw content, a.context), w₁.heed a) := by
        rw [begin, Act.bind_done taken, Act.bind_done prepared]
        rfl
      rw [Act.bind_done prepared]
      obtain ⟨failed, course⟩ :=
        course_tries m (m.planFor message s draw content) limits a.context (w₁.heed a)
      exact .tried granted valid content standing payload a.context (w₁.heed a) begun told failed
        course

end Mailer
end Outbox
