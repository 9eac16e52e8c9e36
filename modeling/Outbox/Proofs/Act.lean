import Outbox.Proofs.Error
import Outbox.Proofs.Time

/-!
# Outbox.Proofs.Act — what acts leave alone, and how they end

Rules for acts, one for each way in which acts are put together.

* `Act.Tame` — the act tells hooks nothing, and what cuts it short is a limit around it that has
  ended.
* `Act.Candid` — it is tame, and if it fails, its error is of a certain kind.

All parts of a send are candid except those that call hooks or ask the schedule. What is done
under a context fails with an error of its own, or it was ended by the context
(`Act.Candid.under_failed`).
-/

namespace Outbox

/-- The result of an act that has come to its end. -/
def Outcome.result? {α : Type} : Outcome α → Option (Result α)
  | .done a => some (.ok a)
  | .failed e => some (.error e)
  | _ => none

theorem Outcome.result?_eq_ok {α : Type} {outcome : Outcome α} {a : α} :
    outcome.result? = some (.ok a) ↔ outcome = .done a := by
  cases outcome <;> simp [result?]

theorem Outcome.result?_eq_error {α : Type} {outcome : Outcome α} {e : Error} :
    outcome.result? = some (.error e) ↔ outcome = .failed e := by
  cases outcome <;> simp [result?]

/-- Two acts stopped for the same reason, and none of them is done. -/
inductive Outcome.Stopped {α β : Type} : Outcome α → Outcome β → Prop where
  | failed (e : Error) : Stopped (.failed e) (.failed e)
  | cut (depth : Nat) (cause : Error) : Stopped (.cut depth cause) (.cut depth cause)
  | overflow : Stopped .overflow .overflow
  | stuck : Stopped .stuck .stuck

namespace Outcome.Stopped

variable {α β : Type} {outcome : Outcome α} {outcome' : Outcome β}

theorem not_done {b : β} : ¬ Stopped outcome (.done b) := nofun

theorem eq_failed {e : Error} (h : Stopped outcome (.failed e : Outcome β)) :
    outcome = .failed e := by
  cases h
  rfl

theorem eq_cut {depth : Nat} {cause : Error} (h : Stopped outcome (.cut depth cause : Outcome β)) :
    outcome = .cut depth cause := by
  cases h
  rfl

theorem eq_overflow (h : Stopped outcome (.overflow : Outcome β)) : outcome = .overflow := by
  cases h
  rfl

theorem eq {outcome outcome' : Outcome α} (h : Stopped outcome outcome') : outcome' = outcome := by
  cases h <;> rfl

/-- What did not come to its end did so in neither act. -/
theorem result?_eq_none (h : Stopped outcome outcome') (unfinished : outcome.result? = none) :
    outcome'.result? = none := by
  cases h with
  | failed e => cases unfinished
  | _ => rfl

end Outcome.Stopped

/-- This limit has ended in these surroundings with this error. -/
inductive Limit.Ended (w : World) : Limit → Error → Prop where
  | timer (due : Instant) : Ended w (.timer due) .timeout
  | cancelled (c : Context) : Ended w (.context c) .cancelled
  | overdue (c : Context) (overdue : c.isOverdue w.now = true) :
      Ended w (.context c) .deadlineExceeded

/-- The error of a context that has ended. -/
theorem Context.ended_of_failure? {c : Context} {w : World} {e : Error}
    (h : c.failure? w.signals w.now = some e) : Limit.Ended w (.context c) e := by
  unfold Context.failure? at h
  split at h
  next => cases h; exact .cancelled c
  next =>
    split at h <;> cases h
    rename_i overdue
    exact .overdue c overdue

theorem Limit.Ended.isContextual {w : World} {c : Context} {e : Error}
    (h : Limit.Ended w (.context c) e) : e.IsContextual := by
  cases h
  · exact .cancelled
  · exact .deadlineExceeded

namespace Act

variable {α β : Type} {x : Act α} {f : α → Act β} {limits : List Limit} {w w₁ : World}

/-! ## Runs -/

theorem ofResult_run (result : Result α) (limits : List Limit) (w : World) :
    (ofResult result limits w).1.result? = some result ∧ (ofResult result limits w).2 = w := by
  cases result <;> exact ⟨rfl, rfl⟩

theorem bind_done {a : α} (h : x limits w = (.done a, w₁)) :
    (x >>= f) limits w = f a limits w₁ := by
  simp only [bind, Act.bind, h]

theorem bind_failed {e : Error} (h : x limits w = (.failed e, w₁)) :
    (x >>= f) limits w = (.failed e, w₁) := by
  simp only [bind, Act.bind, h]

theorem bind_cut {depth : Nat} {cause : Error} (h : x limits w = (.cut depth cause, w₁)) :
    (x >>= f) limits w = (.cut depth cause, w₁) := by
  simp only [bind, Act.bind, h]

theorem bind_overflow (h : x limits w = (.overflow, w₁)) :
    (x >>= f) limits w = (.overflow, w₁) := by
  simp only [bind, Act.bind, h]

theorem bind_stuck (h : x limits w = (.stuck, w₁)) : (x >>= f) limits w = (.stuck, w₁) := by
  simp only [bind, Act.bind, h]

/-- All that can happen where one act follows another: the first is done and the second is
carried out, or the first is stopped and nothing else happens. -/
theorem bind_cases (x : Act α) (f : α → Act β) (limits : List Limit) (w : World) :
    (∃ a, (x limits w).1 = .done a ∧ (x >>= f) limits w = f a limits (x limits w).2) ∨
      ((x limits w).1.Stopped ((x >>= f) limits w).1 ∧
        ((x >>= f) limits w).2 = (x limits w).2) := by
  rcases run : x limits w with ⟨a | e | ⟨depth, cause⟩ | _ | _, w₁⟩
  · left
    exact ⟨a, rfl, bind_done run⟩
  · right
    rw [bind_failed run]
    exact ⟨.failed e, rfl⟩
  · right
    rw [bind_cut run]
    exact ⟨.cut depth cause, rfl⟩
  · right
    rw [bind_overflow run]
    exact ⟨.overflow, rfl⟩
  · right
    rw [bind_stuck run]
    exact ⟨.stuck, rfl⟩

/-- What follows an act matters only for what the act gives. -/
theorem bind_congr {g : α → Act β}
    (h : ∀ a w₁, x limits w = (.done a, w₁) → f a limits w₁ = g a limits w₁) :
    (x >>= f) limits w = (x >>= g) limits w := by
  rcases run : x limits w with ⟨a | e | ⟨depth, cause⟩ | _ | _, w₁⟩
  · rw [bind_done run, bind_done run, h a w₁ run]
  · rw [bind_failed run, bind_failed run]
  · rw [bind_cut run, bind_cut run]
  · rw [bind_overflow run, bind_overflow run]
  · rw [bind_stuck run, bind_stuck run]

/-- An act is done after another one exactly if both are done. -/
theorem bind_eq_done {b : β} :
    ((x >>= f) limits w).1 = .done b ↔
      ∃ a w₁, x limits w = (.done a, w₁) ∧ (f a limits w₁).1 = .done b := by
  constructor
  · intro done
    rcases bind_cases x f limits w with ⟨a, first, run⟩ | ⟨stopped, -⟩
    · rw [run] at done
      exact ⟨a, _, Prod.ext first rfl, done⟩
    · rw [done] at stopped
      exact absurd stopped Outcome.Stopped.not_done
  · rintro ⟨a, w₁, run, done⟩
    rw [bind_done run]
    exact done

/-- An act that is not done is all that happens. -/
theorem bind_eq_self {x : Act Unit} {f : Unit → Act Unit} (h : (x limits w).1 ≠ .done ()) :
    (x >>= f) limits w = x limits w := by
  rcases bind_cases x f limits w with ⟨_, first, -⟩ | ⟨stopped, world⟩
  · exact absurd first h
  · exact Prod.ext stopped.eq world

/-- A value that is computed from what an act gives changes nothing else. -/
theorem bind_pure_run (x : Act α) (g : α → β) (limits : List Limit) (w : World) :
    ((x >>= fun a => Pure.pure (g a)) limits w).2 = (x limits w).2 ∧
      ((x >>= fun a => Pure.pure (g a)) limits w).1.result? =
        (x limits w).1.result?.map (Except.map g) := by
  rcases run : x limits w with ⟨a | e | ⟨depth, cause⟩ | _ | _, w₁⟩
  · rw [bind_done run]
    exact ⟨rfl, rfl⟩
  · rw [bind_failed run]
    exact ⟨rfl, rfl⟩
  · rw [bind_cut run]
    exact ⟨rfl, rfl⟩
  · rw [bind_overflow run]
    exact ⟨rfl, rfl⟩
  · rw [bind_stuck run]
    exact ⟨rfl, rfl⟩

theorem bind_assoc {γ : Type} (x : Act α) (f : α → Act β) (g : β → Act γ) :
    x >>= f >>= g = x >>= fun a => f a >>= g := by
  funext limits w
  rcases run : x limits w with ⟨a | e | ⟨depth, cause⟩ | _ | _, w₁⟩
  · rw [bind_done run]
    simp only [bind, Act.bind, run]
  · rw [bind_failed run, bind_failed (bind_failed run)]
  · rw [bind_cut run, bind_cut (bind_cut run)]
  · rw [bind_overflow run, bind_overflow (bind_overflow run)]
  · rw [bind_stuck run, bind_stuck (bind_stuck run)]

/-- An act is tried and comes to its end: the next one gets its result. -/
theorem attempt_bind_finished {g : Result α → Act β} {result : Result α}
    (h : (x limits w).1.result? = some result) :
    (x.attempt >>= g) limits w = g result limits (x limits w).2 := by
  rcases run : x limits w with ⟨a | e | ⟨depth, cause⟩ | _ | _, w₁⟩ <;> rw [run] at h <;> cases h
  · exact bind_done (by rw [attempt, run])
  · exact bind_done (by rw [attempt, run])

/-- An act does not come to its end: the next one does not begin. -/
theorem bind_unfinished (h : (x limits w).1.result? = none) :
    ((x >>= f) limits w).1.result? = none ∧ ((x >>= f) limits w).2 = (x limits w).2 := by
  rcases bind_cases x f limits w with ⟨a, first, -⟩ | ⟨stopped, world⟩
  · rw [first] at h
    cases h
  · exact ⟨stopped.result?_eq_none h, world⟩

/-- An act is tried and does not come to its end: the next one does not begin. -/
theorem attempt_bind_unfinished {g : Result α → Act β} (h : (x limits w).1.result? = none) :
    ((x.attempt >>= g) limits w).1.result? = none ∧
      ((x.attempt >>= g) limits w).2 = (x limits w).2 := by
  have unfinished : (x.attempt limits w).1.result? = none ∧
      (x.attempt limits w).2 = (x limits w).2 := by
    unfold attempt
    rcases run : x limits w with ⟨a | e | ⟨depth, cause⟩ | _ | _, w₁⟩ <;>
      rw [run] at h <;> cases h <;> exact ⟨rfl, rfl⟩
  rw [← unfinished.2]
  exact bind_unfinished unfinished.1

theorem attempt_bind_eq_done {g : Result α → Act β} {b : β} :
    ((x.attempt >>= g) limits w).1 = .done b ↔
      ∃ result, (x limits w).1.result? = some result ∧
        (g result limits (x limits w).2).1 = .done b := by
  cases finished : (x limits w).1.result? with
  | none =>
    have unfinished := (attempt_bind_unfinished (g := g) finished).1
    constructor
    · intro done
      rw [done] at unfinished
      cases unfinished
    · rintro ⟨result, impossible, -⟩
      cases impossible
  | some result =>
    rw [attempt_bind_finished finished]
    simp only [Option.some.injEq, exists_eq_left']

/-- To look at the result of an act takes no time that the act does not take. -/
theorem attempt_overflow : (x.attempt limits w).1 = .overflow ↔ (x limits w).1 = .overflow := by
  unfold Act.attempt
  rcases run : x limits w with ⟨a | e | ⟨depth, cause⟩ | _ | _, w₁⟩ <;> simp

theorem under_ended {c : Context} {e : Error} (x : Act α) (limits : List Limit)
    (ended : c.failure? w.signals w.now = some e) : under c x limits w = (.failed e, w) := by
  simp [under, failureOf, world, ended, Bind.bind, Act.bind, Pure.pure, Act.pure, fail]

theorem under_open {c : Context} (x : Act α) (limits : List Limit)
    (goesOn : c.failure? w.signals w.now = none) :
    under c x limits w = limited (.context c) x limits w := by
  simp [under, failureOf, world, goesOn, Bind.bind, Act.bind, Pure.pure, Act.pure]

/-- A limit changes nothing of what an act does, only what comes of it when it is cut short. -/
theorem limited_run (limit : Limit) (x : Act α) (limits : List Limit) (w : World) :
    (limited limit x limits w).2 = (x (limits ++ [limit]) w).2 ∧
      ∀ a, (limited limit x limits w).1 = .done a ↔ (x (limits ++ [limit]) w).1 = .done a := by
  unfold limited
  rcases run : x (limits ++ [limit]) w with ⟨a | e | ⟨depth, cause⟩ | _ | _, w₁⟩
  · exact ⟨rfl, fun _ => .rfl⟩
  · exact ⟨rfl, fun _ => .rfl⟩
  · -- Cut short, by this limit or by one further out: it is not done in either case.
    refine ⟨rfl, ?_⟩
    intro a
    dsimp only
    split <;> simp
  · exact ⟨rfl, fun _ => .rfl⟩
  · exact ⟨rfl, fun _ => .rfl⟩

/-- An act under a limit overflows exactly if it does without that limit. -/
theorem limited_overflow (limit : Limit) (x : Act α) (limits : List Limit) (w : World) :
    (limited limit x limits w).1 = .overflow ↔ (x (limits ++ [limit]) w).1 = .overflow := by
  unfold limited
  rcases run : x (limits ++ [limit]) w with ⟨a | e | ⟨depth, cause⟩ | _ | _, w₁⟩
  · exact .rfl
  · exact .rfl
  · dsimp only
    split <;> simp
  · exact .rfl
  · exact .rfl

/-- The name of a step changes nothing of what is done in it. -/
theorem atStage_run (stage : Smtp.Stage) (x : Act α) (limits : List Limit) (w : World) :
    (x.atStage stage limits w).2 = (x limits w).2 ∧
      ∀ a, (x.atStage stage limits w).1 = .done a ↔ (x limits w).1 = .done a := by
  rcases run : x limits w with ⟨a | e | ⟨depth, cause⟩ | _ | _, w₁⟩ <;>
    simp [Act.atStage, attempt, fail, run, Bind.bind, Act.bind, Pure.pure, Act.pure]

/-! ## What acts keep -/

/-- The act leaves a part of the surroundings as it is. -/
def Keeps {γ : Type} (part : World → γ) (x : Act α) : Prop :=
  ∀ limits w, part (x limits w).2 = part w

namespace Keeps

variable {γ : Type} {part : World → γ}

theorem of_run (hx : Keeps part x) {outcome : Outcome α} (run : x limits w = (outcome, w₁)) :
    part w₁ = part w := by
  have kept := hx limits w
  rwa [run] at kept

theorem pure (a : α) : Keeps part (Pure.pure a : Act α) := fun _ _ => rfl

theorem fail (e : Error) : Keeps part (Act.fail e : Act α) := fun _ _ => rfl

theorem stuck : Keeps part (Act.stuck : Act α) := fun _ _ => rfl

theorem world : Keeps part Act.world := fun _ _ => rfl

theorem now : Keeps part Act.now := fun _ _ => rfl

theorem bind (hx : Keeps part x) (hf : ∀ a, Keeps part (f a)) : Keeps part (x >>= f) := by
  intro limits w
  rcases bind_cases x f limits w with ⟨a, -, run⟩ | ⟨-, world⟩
  · rw [run, hf a, hx]
  · rw [world, hx]

theorem attempt (hx : Keeps part x) : Keeps part x.attempt := by
  intro limits w
  have before := hx limits w
  unfold Act.attempt
  rcases run : x limits w with ⟨a | e | ⟨depth, cause⟩ | _ | _, w₁⟩ <;>
    rw [run] at before <;> exact before

theorem limited (limit : Limit) (hx : Keeps part x) : Keeps part (Act.limited limit x) := by
  intro limits w
  have before := hx (limits ++ [limit]) w
  unfold Act.limited
  rcases run : x (limits ++ [limit]) w with ⟨a | e | ⟨depth, cause⟩ | _ | _, w₁⟩ <;>
    rw [run] at before <;> exact before

theorem within (d : Duration) (hx : Keeps part x) : Keeps part (Act.within d x) :=
  .bind .now fun _ => .limited _ hx

/-- Time may pass. -/
theorem wait (reach : ∀ w t inclusive, part (World.reach w t inclusive) = part w)
    (due : Option Instant) : Keeps part (Act.wait due) := by
  intro limits w
  unfold Act.wait
  split
  · rfl
  · exact reach _ _ _

end Keeps

/-! ## Tame acts -/

/-- An act that tells hooks nothing and is cut short by nothing but a limit around it that has
ended. -/
structure Tame (x : Act α) : Prop where
  silent : Keeps World.journal x
  cut : ∀ limits w depth cause, (x limits w).1 = .cut depth cause →
    ∃ limit, limits[depth]? = some limit ∧ limit.Ended (x limits w).2 cause
  /-- A context comes before a timer that is set to its deadline. -/
  yields : ∀ limits w c deadline depth cause, .context c ∈ limits → c.deadline = some deadline →
    limits[depth]? = some (.timer deadline) → (x limits w).1 ≠ .cut depth cause

namespace Tame

/-- An act without a wait. -/
theorem of_change (silent : Keeps World.journal x)
    (whole : ∀ limits w depth cause, (x limits w).1 ≠ .cut depth cause) : Tame x where
  silent := silent
  cut := fun limits w depth cause h => absurd h (whole limits w depth cause)
  yields := fun limits w _ _ depth cause _ _ _ => whole limits w depth cause

theorem pure (a : α) : Tame (Pure.pure a : Act α) := of_change (.pure a) (fun _ _ _ _ => nofun)

theorem fail (e : Error) : Tame (Act.fail e : Act α) := of_change (.fail e) (fun _ _ _ _ => nofun)

theorem overflow : Tame (Act.overflow : Act α) :=
  of_change (fun _ _ => rfl) (fun _ _ _ _ => nofun)

theorem stuck : Tame (Act.stuck : Act α) := of_change .stuck (fun _ _ _ _ => nofun)

theorem world : Tame Act.world := of_change .world (fun _ _ _ _ => nofun)

theorem now : Tame Act.now := of_change .now (fun _ _ _ _ => nofun)

theorem ofResult (result : Result α) : Tame (Act.ofResult result) := by
  cases result with
  | ok a => exact .pure a
  | error e => exact .fail e

theorem bind (hx : Tame x) (hf : ∀ a, Tame (f a)) : Tame (x >>= f) where
  silent := .bind hx.silent fun a => (hf a).silent
  cut := by
    intro limits w depth cause h
    rcases bind_cases x f limits w with ⟨a, -, run⟩ | ⟨stopped, world⟩
    · rw [run] at h ⊢
      exact (hf a).cut limits _ depth cause h
    · rw [h] at stopped
      rw [world]
      exact hx.cut limits w depth cause stopped.eq_cut
  yields := by
    intro limits w c deadline depth cause isContext isDeadline at_depth h
    rcases bind_cases x f limits w with ⟨a, -, run⟩ | ⟨stopped, -⟩
    · rw [run] at h
      exact (hf a).yields limits _ c deadline depth cause isContext isDeadline at_depth h
    · rw [h] at stopped
      exact hx.yields limits w c deadline depth cause isContext isDeadline at_depth stopped.eq_cut

theorem attempt_cut {depth : Nat} {cause : Error} (h : (x.attempt limits w).1 = .cut depth cause) :
    (x limits w).1 = .cut depth cause ∧ (x.attempt limits w).2 = (x limits w).2 := by
  unfold Act.attempt at h ⊢
  rcases run : x limits w with ⟨a | e | ⟨depth', cause'⟩ | _ | _, w₁⟩ <;> rw [run] at h <;> cases h
  exact ⟨rfl, rfl⟩

theorem attempt (hx : Tame x) : Tame x.attempt where
  silent := .attempt hx.silent
  cut := by
    intro limits w depth cause h
    obtain ⟨cut, world⟩ := attempt_cut h
    rw [world]
    exact hx.cut limits w depth cause cut
  yields := fun limits w c deadline depth cause isContext isDeadline at_depth h =>
    hx.yields limits w c deadline depth cause isContext isDeadline at_depth (attempt_cut h).1

theorem limited_cut {limit : Limit} {depth : Nat} {cause : Error}
    (h : (Act.limited limit x limits w).1 = .cut depth cause) :
    depth ≠ limits.length ∧ (x (limits ++ [limit]) w).1 = .cut depth cause ∧
      (Act.limited limit x limits w).2 = (x (limits ++ [limit]) w).2 := by
  unfold Act.limited at h ⊢
  rcases run : x (limits ++ [limit]) w with ⟨a | e | ⟨depth', cause'⟩ | _ | _, w₁⟩ <;>
    rw [run] at h <;> try cases h
  dsimp only at h ⊢
  split at h <;> cases h
  rename_i other
  exact ⟨other, rfl, rfl⟩

theorem limited (limit : Limit) (hx : Tame x) : Tame (Act.limited limit x) where
  silent := .limited limit hx.silent
  cut := by
    intro limits w depth cause h
    obtain ⟨other, cut, world⟩ := limited_cut h
    obtain ⟨around, at_depth, ended⟩ := hx.cut (limits ++ [limit]) w depth cause cut
    -- Of the limits inside, only the last one is not around the whole act.
    have bound := (List.getElem?_eq_some_iff.1 at_depth).1
    rw [List.length_append, List.length_singleton] at bound
    rw [List.getElem?_append_left (by omega)] at at_depth
    rw [world]
    exact ⟨around, at_depth, ended⟩
  yields := by
    intro limits w c deadline depth cause isContext isDeadline at_depth h
    have bound := (List.getElem?_eq_some_iff.1 at_depth).1
    refine hx.yields (limits ++ [limit]) w c deadline depth cause ?_ isDeadline ?_ (limited_cut h).2.1
    · exact List.mem_append_left _ isContext
    · rw [List.getElem?_append_left bound]
      exact at_depth

/-- What fails under a limit failed by itself, or the limit has ended. -/
theorem limited_failed (hx : Tame x) {limit : Limit} {e : Error}
    (h : (Act.limited limit x limits w).1 = .failed e) :
    (x (limits ++ [limit]) w).1 = .failed e ∨ limit.Ended (Act.limited limit x limits w).2 e := by
  have cut := hx.cut (limits ++ [limit]) w
  unfold Act.limited at h ⊢
  rcases run : x (limits ++ [limit]) w with ⟨a | e' | ⟨depth, cause⟩ | _ | _, w₁⟩ <;>
    rw [run] at h cut <;> dsimp only at h ⊢
  · cases h
  · cases h
    exact .inl rfl
  · -- The limit itself cut the act short, and its error is that of the limit.
    split at h <;> cases h
    rename_i same
    obtain ⟨limit', at_depth, isEnded⟩ := cut depth _ rfl
    rw [same, List.getElem?_concat_length] at at_depth
    obtain rfl := Option.some.inj at_depth
    exact .inr isEnded
  · cases h
  · cases h

/-- Where there are no limits, nothing is cut short. -/
theorem not_cut (h : Tame x) (w : World) (depth : Nat) (cause : Error) :
    (x [] w).1 ≠ .cut depth cause := by
  intro cut
  obtain ⟨limit, impossible, -⟩ := h.cut [] w depth cause cut
  cases impossible

end Tame

/-! ## Waiting -/

theorem firstEnding_mem {endings : List Ending} {e : Ending} (h : firstEnding endings = some e) :
    e ∈ endings := by
  induction endings generalizing e with
  | nil => cases h
  | cons first rest ih =>
    rw [firstEnding] at h
    split at h
    next best found =>
      obtain rfl := Option.some.inj h
      split
      · exact .tail _ (ih found)
      · exact .head _
    next =>
      obtain rfl := Option.some.inj h
      exact .head _

theorem Ending.precedes_iff (a b : Ending) :
    a.precedes b = true ↔ a.time.nanos < b.time.nanos ∨
      a.time.nanos = b.time.nanos ∧ (a.rank < b.rank ∨ a.rank = b.rank ∧ a.order < b.order) := by
  have time : a.time = b.time ↔ a.time.nanos = b.time.nanos := by
    rcases a with ⟨⟨s⟩, _, _, _⟩
    rcases b with ⟨⟨t⟩, _, _, _⟩
    simp
  have before : a.time < b.time ↔ a.time.nanos < b.time.nanos := .rfl
  unfold Ending.precedes
  split
  next same =>
    rw [time] at same
    split <;> simp only [decide_eq_true_eq] <;> omega
  next other =>
    rw [time] at other
    rw [decide_eq_true_eq, before]
    omega

/-- No other ending precedes the first one. -/
theorem not_precedes_firstEnding {endings : List Ending} {first : Ending}
    (h : firstEnding endings = some first) : ∀ e ∈ endings, ¬ e.precedes first = true := by
  induction endings generalizing first with
  | nil => cases h
  | cons e' rest ih =>
    intro e isEnding
    rw [firstEnding] at h
    split at h
    next best found =>
      have least := ih found
      obtain rfl := Option.some.inj h
      rcases List.mem_cons.1 isEnding with rfl | later
      · split
        next earlier =>
          rw [Ending.precedes_iff] at earlier ⊢
          omega
        next => rw [Ending.precedes_iff]; omega
      · have notBefore := least e later
        split
        next => exact notBefore
        next notEarlier =>
          rw [Ending.precedes_iff] at notBefore notEarlier ⊢
          omega
    next none =>
      obtain rfl := Option.some.inj h
      have empty : rest = [] := by
        cases rest with
        | nil => rfl
        | cons r rest =>
          rw [firstEnding] at none
          split at none <;> cases none
      rw [empty, List.mem_singleton] at isEnding
      rw [isEnding, Ending.precedes_iff]
      omega

/-- A limit that ends a wait has ended when the wait is over. -/
theorem mem_endingsOf {n i depth : Nat} {limit : Limit} {e : Ending} {cause : Error}
    (h : e ∈ endingsOf w n i limit) (cut : e.cutBy = some (depth, cause)) (inclusive : Bool) :
    depth = i ∧ limit.Ended (w.reach e.time inclusive) cause := by
  cases limit with
  | timer due =>
    obtain rfl := List.mem_singleton.1 h
    cases cut
    exact ⟨rfl, .timer due⟩
  | context c =>
    simp only [endingsOf, List.mem_append, List.mem_map] at h
    obtain (raised | ⟨deadline, isDeadline, rfl⟩) | ⟨planned, -, rfl⟩ := h
    · split at raised
      · obtain rfl := List.mem_singleton.1 raised
        cases cut
        exact ⟨rfl, .cancelled c⟩
      · cases raised
    · cases cut
      refine ⟨rfl, .overdue c ?_⟩
      have due : c.deadline = some deadline := by simpa using isDeadline
      have reached : deadline ≤ dueFrom w.now deadline :=
        Nat.le_trans deadline.le_tick (le_max_right w.now deadline.tick)
      rw [Context.isOverdue, due]
      exact decide_eq_true reached
    · cases cut
      exact ⟨rfl, .cancelled c⟩

/-- A wait is cut short by a limit around it that has ended by then. -/
theorem mem_endings {due : Option Instant} {e : Ending} {depth : Nat} {cause : Error}
    (h : e ∈ endings limits w due) (cut : e.cutBy = some (depth, cause)) (inclusive : Bool) :
    ∃ limit, limits[depth]? = some limit ∧ limit.Ended (w.reach e.time inclusive) cause := by
  rw [endings, List.mem_append, List.mem_map, List.mem_flatMap] at h
  obtain ⟨t, -, rfl⟩ | ⟨⟨limit, i⟩, indexed, inLimit⟩ := h
  · cases cut
  · obtain ⟨rfl, ended⟩ := mem_endingsOf inLimit cut inclusive
    exact ⟨limit, List.mem_zipIdx_iff_getElem?.1 indexed, ended⟩

/-- No wait ends before it begins. -/
theorem now_le_of_mem_endings {due : Option Instant} {e : Ending}
    (h : e ∈ endings limits w due) : w.now ≤ e.time := by
  rw [endings, List.mem_append, List.mem_map, List.mem_flatMap] at h
  obtain ⟨t, -, rfl⟩ | ⟨⟨limit, i⟩, -, inLimit⟩ := h
  · exact le_max_left w.now t.tick
  · cases limit with
    | timer due =>
      obtain rfl := List.mem_singleton.1 inLimit
      exact le_max_left w.now due.tick
    | context c =>
      simp only [endingsOf, List.mem_append, List.mem_map] at inLimit
      obtain (raised | ⟨deadline, -, rfl⟩) | ⟨planned, -, rfl⟩ := inLimit
      · split at raised
        · obtain rfl := List.mem_singleton.1 raised
          exact Nat.le_refl _
        · cases raised
      · exact le_max_left w.now deadline.tick
      · exact le_max_left w.now planned.1

/-- The deadline of a context is one of the ways in which a wait may end. -/
theorem mem_endings_of_deadline {c : Context} {i : Nat} {deadline : Instant}
    (due : Option Instant) (w : World) (at_i : limits[i]? = some (.context c))
    (isDeadline : c.deadline = some deadline) :
    ⟨dueFrom w.now deadline, 0, i, some (i, .deadlineExceeded)⟩ ∈ endings limits w due := by
  refine List.mem_append_right _ (List.mem_flatMap.2 ⟨(.context c, i), ?_, ?_⟩)
  · exact List.mem_zipIdx_iff_getElem?.2 at_i
  · simp [endingsOf, isDeadline]

/-- An ending by a timer is at its time. -/
theorem ending_of_timer {due : Option Instant} {e : Ending} {depth : Nat} {cause : Error}
    {deadline : Instant} (h : e ∈ endings limits w due) (cut : e.cutBy = some (depth, cause))
    (at_depth : limits[depth]? = some (.timer deadline)) :
    e.time = dueFrom w.now deadline ∧ e.rank = 2 := by
  rw [endings, List.mem_append, List.mem_map, List.mem_flatMap] at h
  obtain ⟨t, -, rfl⟩ | ⟨⟨limit, i⟩, indexed, inLimit⟩ := h
  · cases cut
  · obtain ⟨rfl, -⟩ := mem_endingsOf inLimit cut true
    rw [List.mem_zipIdx_iff_getElem?.1 indexed] at at_depth
    obtain rfl := Option.some.inj at_depth
    obtain rfl := List.mem_singleton.1 inLimit
    exact ⟨rfl, rfl⟩

namespace Tame

theorem wait (due : Option Instant) : Tame (Act.wait due) where
  silent := .wait (fun _ _ _ => rfl) due
  cut := by
    intro limits w depth cause h
    unfold Act.wait at h ⊢
    split at h
    next => cases h
    next e first =>
      dsimp only at h
      split at h <;> cases h
      rename_i cutBy
      exact mem_endings (firstEnding_mem first) cutBy _
  yields := by
    intro limits w c deadline depth cause isContext isDeadline at_depth h
    unfold Act.wait at h
    split at h
    next => cases h
    next e first =>
      dsimp only at h
      split at h <;> cases h
      rename_i cutBy
      -- The deadline of the context is an ending of the same time and of a lower rank.
      obtain ⟨i, at_i⟩ := List.mem_iff_getElem?.1 isContext
      have other := mem_endings_of_deadline due w at_i isDeadline
      have least := not_precedes_firstEnding first _ other
      obtain ⟨time, rank⟩ := ending_of_timer (firstEnding_mem first) cutBy at_depth
      rw [Ending.precedes_iff, time, rank] at least
      dsimp only at least
      omega

theorem sleep (d : Duration) : Tame (Act.sleep d) := .bind .now fun _ => .wait _

theorem until? (due : Option Instant) (hx : Tame x) : Tame (Act.until? due x) := by
  cases due with
  | none => exact hx
  | some due => exact .limited _ hx

theorem failureOf (c : Context) : Tame (Act.failureOf c) := .bind .world fun _ => .pure _

theorem under (c : Context) (hx : Tame x) : Tame (Act.under c x) := by
  refine .bind (.failureOf c) fun failure => ?_
  cases failure with
  | none => exact .limited _ hx
  | some e => exact .fail e

theorem atStage (stage : Smtp.Stage) (hx : Tame x) : Tame (x.atStage stage) := by
  refine .bind hx.attempt fun result => ?_
  cases result with
  | ok a => exact .pure a
  | error e => exact .fail _

end Tame

/-! ## Links -/

/-- A property that reading from a link has if its parts have it, where those that fail do so with
certain errors. -/
structure Closed (E : Error → Prop) (P : (α : Type) → Act α → Prop) : Prop where
  ofLink : ∀ {e : Error}, e.OfLink → E e
  fail : ∀ {α : Type} {e : Error}, E e → P α (Act.fail e)
  pure : ∀ {α : Type} (a : α), P α (Pure.pure a)
  bind : ∀ {α β : Type} {x : Act α} {f : α → Act β}, P α x → (∀ a, P β (f a)) → P β (x >>= f)
  world : P World Act.world
  sleep : ∀ d, P Unit (Act.sleep d)
  hang : ∀ {α : Type}, P α Act.hang
  leave : ∀ link arrivals, P Unit (Act.leave link arrivals)

namespace Closed

variable {E : Error → Prop} {P : (α : Type) → Act α → Prop} (h : Closed E P)
include h

theorem ofResult {result : Result α} (fails : FailsWith E result) :
    P α (Act.ofResult result) := by
  cases result with
  | ok a => exact h.pure a
  | error e => exact h.fail (fails e rfl)

theorem readFrom {σ : Type} {r : Smtp.Reader σ α} (apt : r.IsApt E) (link : Nat) (s : σ)
    (taken : Nat) (arrivals : List Arrival) : P α (Act.readFrom r link s taken arrivals) := by
  -- The cases are those of what arrives; octets may end the answer or ask for more.
  induction s, taken, arrivals using Act.readFrom.induct (r := r) with
  | case1 s taken =>
    rw [Act.readFrom]
    exact h.bind (h.leave _ _) fun _ => h.fail (h.ofLink .unparseableReply)
  | case2 s taken content rest piece ended =>
    rw [Act.readFrom, if_pos ended]
    exact h.bind (h.leave _ _) fun _ => h.fail (h.ofLink .unparseableReply)
  | case3 s taken content rest piece notOver result fed =>
    rw [Act.readFrom, if_neg notOver, fed]
    exact h.bind (h.leave _ _) fun _ => h.ofResult (apt.feed fed)
  | case4 s taken content rest piece notOver s' fed ih =>
    rw [Act.readFrom, if_neg notOver, fed]
    exact ih
  | case5 s taken time rest ih =>
    rw [Act.readFrom]
    exact h.bind (h.leave _ _) fun _ => h.bind (h.sleep time) fun _ => ih
  | case6 s taken rest =>
    rw [Act.readFrom]
    exact h.bind (h.leave _ _) fun _ => h.hang
  | case7 s taken e rest =>
    rw [Act.readFrom]
    exact h.bind (h.leave _ _) fun _ => h.fail (h.ofLink (.stream e))

theorem read {σ : Type} {r : Smtp.Reader σ α} (apt : r.IsApt E) (link : Nat) :
    P α (Act.read r link) := by
  refine h.bind h.world fun w => ?_
  cases w.links[link]? with
  | none => exact h.fail (h.ofLink (.stream _))
  | some l => exact h.readFrom apt link r.start 0 l.arrivals

theorem reply (link : Nat) : P Smtp.Reply (Act.read Smtp.replyReader link) :=
  h.read (fun s b result finished e same =>
    h.ofLink (Smtp.isApt_replyReader s b result finished e same)) link

theorem ehlo (host : String) (refused : ∀ {e}, (Smtp.Request.hello host).Fails e → E e)
    (link : Nat) : P Smtp.Capabilities (Act.read Smtp.ehloReader link) :=
  h.read (fun s b result finished e same =>
    refused (Smtp.isApt_ehloReader host s b result finished e same)) link

theorem secure (server : String) (failed : ∀ {e}, (Smtp.Request.secure server).Fails e → E e)
    (link : Nat) : P Unit (Act.secure link) := by
  refine h.bind h.world fun w => ?_
  rcases (w.links[link]?).map Link.handshake with _ | _ | fault | _
  · exact h.fail (h.ofLink (.stream _))
  · exact h.pure _
  · exact h.fail (failed (fault.fails_error server))
  · exact h.hang

end Closed

/-- To read an answer keeps what the passing of time and what is taken from a link keep. -/
theorem Keeps.closed {γ : Type} {part : World → γ}
    (reach : ∀ w t inclusive, part (World.reach w t inclusive) = part w)
    (leave : ∀ link arrivals, Keeps part (Act.leave link arrivals)) :
    Closed (fun _ => True) fun _ x => Keeps part x where
  ofLink _ := trivial
  fail _ := .fail _
  pure := .pure
  bind := .bind
  world := .world
  sleep _ := .bind .now fun _ => .wait reach _
  hang := .bind (.wait reach none) fun _ => .stuck
  leave := leave

/-! ## Candid acts -/

/-- A tame act that fails with one of these errors, if it does. -/
structure Candid (E : Error → Prop) (x : Act α) : Prop extends Tame x where
  fails : ∀ limits w e, (x limits w).1 = .failed e → E e

variable {E E' : Error → Prop}

/-- A tame act that does not fail. -/
theorem Tame.candid (hx : Tame x) (whole : ∀ limits w e, (x limits w).1 ≠ .failed e) :
    Candid E x :=
  { hx with fails := fun limits w e h => absurd h (whole limits w e) }

namespace Candid

theorem mono (hx : Candid E x) (hE : ∀ e, E e → E' e) : Candid E' x :=
  { hx with fails := fun limits w e h => hE e (hx.fails limits w e h) }

/-- An act that is always done. -/
theorem changed (silent : Keeps World.journal x)
    (done : ∀ limits w, ∃ a, (x limits w).1 = .done a) : Candid E x where
  toTame := by
    refine .of_change silent fun limits w depth cause h => ?_
    obtain ⟨a, isDone⟩ := done limits w
    rw [isDone] at h
    cases h
  fails := by
    intro limits w e h
    obtain ⟨a, isDone⟩ := done limits w
    rw [isDone] at h
    cases h

theorem pure (a : α) : Candid E (Pure.pure a : Act α) :=
  .changed (fun _ _ => rfl) (fun _ _ => ⟨a, rfl⟩)

theorem overflow : Candid E (Act.overflow : Act α) := Tame.overflow.candid fun _ _ _ => nofun

theorem stuck : Candid E (Act.stuck : Act α) := Tame.stuck.candid fun _ _ _ => nofun

theorem now : Candid E Act.now := .changed (fun _ _ => rfl) (fun _ w => ⟨w.now, rfl⟩)

theorem world : Candid E Act.world := .changed (fun _ _ => rfl) (fun _ w => ⟨w, rfl⟩)

theorem change {g : World → World} (h : ∀ w, (g w).journal = w.journal) :
    Candid E (Act.change g) :=
  .changed (fun _ w => h w) (fun _ _ => ⟨(), rfl⟩)

theorem changing {g : World → α × World} (h : ∀ w, (g w).2.journal = w.journal) :
    Candid E (Act.changing g) :=
  .changed (fun _ w => h w) (fun _ w => ⟨(g w).1, rfl⟩)

theorem fail {e : Error} (h : E e) : Candid E (Act.fail e : Act α) where
  toTame := .fail e
  fails := by
    intro limits w e' failed
    cases failed
    exact h

theorem ofResult {result : Result α} (h : FailsWith E result) : Candid E (Act.ofResult result) := by
  cases result with
  | ok a => exact .pure a
  | error e => exact .fail (h e rfl)

theorem bind (hx : Candid E x) (hf : ∀ a, Candid E (f a)) : Candid E (x >>= f) where
  toTame := .bind hx.toTame fun a => (hf a).toTame
  fails := by
    intro limits w e h
    rcases bind_cases x f limits w with ⟨a, -, run⟩ | ⟨stopped, -⟩
    · rw [run] at h
      exact (hf a).fails limits _ e h
    · rw [h] at stopped
      exact hx.fails limits w e stopped.eq_failed

/-- What an attempt at an act gives is a result, even where the act fails. -/
theorem attempt (hx : Tame x) : Candid E x.attempt := by
  apply hx.attempt.candid
  intro limits w e h
  unfold Act.attempt at h
  rcases run : x limits w with ⟨a | e | ⟨depth, cause⟩ | _ | _, w₁⟩ <;> rw [run] at h <;> cases h

/-- The result of an act has an error of those that the act fails with. -/
theorem attempt_bind (hx : Candid E x) {f : Result α → Act β} (tame : ∀ result, Tame (f result))
    (hf : ∀ result, FailsWith E result → Candid E' (f result)) :
    Candid E' (x.attempt >>= f) where
  toTame := .bind (.attempt hx.toTame) tame
  fails := by
    intro limits w e h
    rcases finished : (x limits w).1.result? with _ | result
    · have unfinished := (attempt_bind_unfinished (g := f) finished).1
      rw [h] at unfinished
      cases unfinished
    · rw [attempt_bind_finished finished] at h
      have fails : FailsWith E result := by
        intro e' same
        rw [same] at finished
        exact hx.fails limits w e' (Outcome.result?_eq_error.1 finished)
      exact (hf result fails).fails limits _ e h

theorem limited {limit : Limit} (hx : Candid E x) (ended : ∀ w e, limit.Ended w e → E e) :
    Candid E (Act.limited limit x) where
  toTame := .limited limit hx.toTame
  fails := by
    intro limits w e h
    rcases hx.limited_failed h with failed | isEnded
    · exact hx.fails _ w e failed
    · exact ended _ e isEnded

theorem timer (due : Instant) (timeout : E .timeout) (hx : Candid E x) :
    Candid E (Act.limited (.timer due) x) := by
  refine .limited hx fun w e ended => ?_
  cases ended
  exact timeout

theorem wait (due : Option Instant) : Candid E (Act.wait due) := by
  apply (Tame.wait due).candid
  intro limits w e h
  unfold Act.wait at h
  split at h
  · cases h
  · dsimp only at h
    split at h <;> cases h

theorem sleep (d : Duration) : Candid E (Act.sleep d) := .bind .now fun _ => .wait _

theorem within (d : Duration) (timeout : E .timeout) (hx : Candid E x) :
    Candid E (Act.within d x) :=
  .bind .now fun _ => .timer _ timeout hx

theorem until? (due : Option Instant) (timeout : E .timeout) (hx : Candid E x) :
    Candid E (Act.until? due x) := by
  cases due with
  | none => exact hx
  | some due => exact .timer due timeout hx

theorem under_failed (hx : Candid E x) {c : Context} {e : Error}
    (h : (Act.under c x limits w).1 = .failed e) :
    E e ∨ Limit.Ended (Act.under c x limits w).2 (.context c) e := by
  cases ended : c.failure? w.signals w.now with
  | some e' =>
    rw [under_ended x limits ended] at h ⊢
    cases h
    exact .inr (Context.ended_of_failure? ended)
  | none =>
    rw [under_open x limits ended] at h ⊢
    exact (hx.limited_failed h).imp_left (hx.fails _ w e)

/-- What is done under a context fails with an error of its own, or the context has ended. -/
theorem under (c : Context) (hx : Candid E x) :
    Candid (fun e => E e ∨ e.IsContextual) (Act.under c x) where
  toTame := .under c hx.toTame
  fails := fun _ _ _ h => (hx.under_failed h).imp_right Limit.Ended.isContextual

/-- A failure is named by its step. -/
theorem atStage (stage : Smtp.Stage) (hx : Candid Error.IsLocal x) :
    Candid (fun e => ∃ cause, cause.IsLocal ∧ e = .step stage cause) (x.atStage stage) := by
  refine .attempt_bind hx (fun result => ?_) fun result fails => ?_
  · cases result with
    | ok a => exact .pure a
    | error e => exact .fail _
  · cases result with
    | ok a => exact .pure a
    | error e => exact .fail ⟨e, fails e rfl, (fails e rfl).atStage stage⟩

/-! ### Requests and dialogues -/

theorem closed (ofLink : ∀ {e}, e.OfLink → E e) : Closed E fun _ x => Candid E x where
  ofLink := ofLink
  fail := .fail
  pure := .pure
  bind := .bind
  world := .world
  sleep := .sleep
  hang := .bind (.wait none) fun _ => .stuck
  leave _ _ := .change fun _ => rfl

theorem write (ofLink : ∀ {e}, e.OfLink → E e) (link : Nat) (octets : Octets) :
    Candid E (Act.write link octets) := by
  refine .bind .world fun w => ?_
  cases w.links[link]? with
  | none => exact .fail (ofLink (.stream _))
  | some l =>
    exact .bind (.change fun _ => rfl) fun _ => .ofResult fun e failed =>
      ofLink (l.fails_write octets e failed)

theorem dial : Candid Error.OfLink Act.dial := by
  refine .bind .world fun w => ?_
  rcases w.dials with _ | ⟨_ | e | _, rest⟩
  · exact .fail (.stream _)
  · exact .bind (.change fun _ => rfl) fun _ => .pure _
  · exact .bind (.change fun _ => rfl) fun _ => .fail (.stream e)
  · exact .bind (.change fun _ => rfl) fun _ => (closed id).hang

/-- A request fails with an error of that request, whatever the server does. -/
theorem perform (link : Nat) (patience : Duration) (r : Smtp.Request) :
    Candid r.Fails (r.perform link patience) := by
  have ofLink : ∀ {e}, e.OfLink → r.Fails e := .link r
  have timeout : r.Fails .timeout := ofLink .timeout
  cases r with
  | listen => exact (closed ofLink).reply _
  | command line =>
    exact .within _ timeout (.bind (.write ofLink _ _) fun _ => (closed ofLink).reply _)
  | message text =>
    exact .within _ timeout (.bind (.write ofLink _ _) fun _ => (closed ofLink).reply _)
  | hello host =>
    exact .within _ timeout (.bind (.write ofLink _ _) fun _ => (closed ofLink).ehlo host id _)
  | secure server => exact .within _ timeout ((closed ofLink).secure server id _)

end Candid

/-- A dialogue is tame on any link. -/
theorem Tame.run (link : Nat) (patience : Duration) (d : Smtp.Dialogue α) :
    Tame (d.run link patience) := by
  induction d with
  | finished result => exact .ofResult result
  | ask r next ih => exact .bind (.attempt (Candid.perform link patience r).toTame) ih

namespace Candid

/-- A dialogue that is carried out fails with an error of the dialogue. -/
theorem run (link : Nat) (patience : Duration) {d : Smtp.Dialogue α} (h : d.FailsWith E) :
    Candid E (d.run link patience) := by
  induction d with
  | finished result => exact .ofResult h
  | ask r next ih =>
    refine .attempt_bind (.perform link patience r) (fun answer => ?_) fun answer fails => ?_
    · exact .run link patience (next answer)
    · exact ih answer (h answer fails)

theorem dial_atStage :
    Candid (fun e => ∃ cause, cause.IsLocal ∧ e = .step .connect cause)
      (Act.dial.atStage .connect) :=
  .atStage _ (dial.mono fun _ ofLink => (Error.OfRequest.link ofLink).isLocal)

theorem connect (e : Smtp.Endpoint) : Candid Error.OfAttempt e.connect := by
  refine .within _ .timeout (.bind (dial_atStage.mono ?_) fun _ => ?_)
  · rintro _ ⟨cause, isLocal, rfl⟩
    exact .step _ isLocal
  · exact .bind (.run _ _ (.setUp e)) fun _ => .pure _

/-! ### Attempts -/

section

variable {p : SessionPool}

theorem close (c : Smtp.Connection) : Candid E (Pool.close p.keeper c : Act Unit) :=
  .bind (.attempt (.run _ _ _)) fun _ => .pure _

theorem isUsable (item : Shelved Smtp.Connection) :
    Candid E (p.pool.isUsable p.keeper item : Act Bool) := by
  refine .bind .now fun time => ?_
  split
  · refine .bind (.attempt (.run _ _ _)) fun result => ?_
    cases result with
    | ok _ => exact .pure _
    | error _ => exact .pure _
  · exact .pure _

theorem update (g : Stock Smtp.Connection → β × Stock Smtp.Connection) :
    Candid E (p.keeper.update g : Act β) :=
  .changed (fun _ _ => rfl) (fun _ _ => ⟨_, rfl⟩)

theorem stamp (g : Instant → Stock Smtp.Connection → β × Stock Smtp.Connection) :
    Candid E (p.keeper.stamp g : Act β) :=
  .changed (fun _ _ => rfl) (fun _ _ => ⟨_, rfl⟩)

theorem create : Candid Error.OfAttempt (Pool.create p.keeper : Act (Option Smtp.Connection)) :=
  .bind (.connect _) fun _ => .bind (.update _) fun _ => .pure _

theorem look : Candid Error.OfAttempt (p.pool.look p.keeper : Act (Pool.Look Smtp.Connection)) := by
  refine .bind (.update _) fun taken => ?_
  cases taken with
  | none => exact .bind .create fun _ => .pure _
  | some item =>
    refine .bind (.isUsable item) fun usable => ?_
    cases usable with
    | true => exact .bind (.update _) fun _ => .pure _
    | false => exact .bind (.close _) fun _ => .pure _

theorem rounds (n : Nat) :
    Candid Error.OfAttempt (Pool.Look.rounds (Pure.pure none) (p.pool.look p.keeper) n :
      Act (Option Smtp.Connection)) := by
  -- By induction on the looks that are left.
  induction n with
  | zero => exact .pure none
  | succ n ih =>
    refine .bind .look fun found => ?_
    cases found with
    | found c => exact .pure c
    | again => exact ih

theorem acquire : Candid Error.OfAttempt (p.acquire : Act (Option Smtp.Connection)) :=
  .bind (x := Act.changing fun w => ((w.stocks p.slot).idle.length, w))
    (.changed (fun _ _ => rfl) fun _ _ => ⟨_, rfl⟩) fun n => .rounds (n + 1)

end

theorem leave (s : Mailer.Prepared) (result : Result Unit) :
    Candid E (Mailer.leave s result : Act Unit) := by
  rcases s with ⟨session, _ | p⟩
  · cases result with
    | ok _ => exact .bind (.attempt (.run _ _ _)) fun _ => .pure _
    | error e => exact .pure _
  · cases result with
    | ok _ =>
      refine .bind (.stamp _) fun rejected => ?_
      cases rejected with
      | some rejected => exact .close rejected
      | none => exact .pure _
    | error e => exact .update _

theorem talk (e : Envelope) (s : Mailer.Prepared) :
    Candid Error.OfAttempt ((s.dialogue e).on s.session) := by
  rcases s with ⟨session, _ | p⟩
  · exact .run _ _ (.sendEnvelope _ _ _)
  · exact .run _ _ (.resend e)

theorem bounded (c : Context) (deadline : Option Instant) (hx : Candid Error.OfAttempt x) :
    Candid Error.OfTry (Means.bounded c deadline x) :=
  .under c (.until? deadline .timeout hx)

theorem deliver (c : Context) (deadline : Option Instant) (e : Envelope) (s : Mailer.Prepared) :
    Candid Error.OfTry (Mailer.deliver c deadline e s : Act Unit) := by
  refine .attempt_bind (.bounded c deadline (.talk e s)) (fun result => ?_) fun result fails => ?_
  · exact .bind (leave (E := Error.OfTry) s result).toTame fun _ => .ofResult result
  · exact .bind (.leave s result) fun _ => .ofResult fails

theorem openSession (m : Mailer) (c : Context) (deadline : Option Instant) :
    Candid Error.OfTry (m.openSession c deadline : Act Mailer.Prepared) :=
  .bind (.bounded c deadline (.connect _)) fun _ => .pure _

theorem prepareSession (m : Mailer) (c : Context) (deadline : Option Instant)
    (pool : Option SessionPool) :
    Candid Error.OfTry (m.prepareSession c deadline pool : Act Mailer.Prepared) := by
  cases pool with
  | none => exact .openSession m c deadline
  | some p =>
    refine .bind (.bounded c deadline .acquire) fun session => ?_
    cases session with
    | some session => exact .pure _
    | none => exact .openSession m c deadline

theorem deadline (m : Mailer) (c : Context) : Candid E (m.deadline c) := by
  unfold Mailer.deadline
  split
  · exact .pure _
  · split
    · exact .pure _
    · refine .bind .now fun time => ?_
      cases time.after? m.settings.timeout with
      | some deadline => exact .pure _
      | none => exact .overflow

theorem makeAttempt (m : Mailer) (c : Context) (pool : Option SessionPool) (e : Envelope) :
    Candid Error.OfTry (m.attempt c pool e) := by
  refine .bind (.deadline m c) fun deadline => .bind (.prepareSession m c deadline pool) ?_
  exact fun session => .deliver c deadline e session

theorem pause (c : Context) (delay : Duration) :
    Candid Error.IsContextual (Mailer.pause c delay) := by
  unfold Mailer.pause
  split
  · exact .pure _
  · exact (under c (.sleep delay)).mono fun _ => or_self_iff.1

theorem waitForToken (slot n : Nat) : Candid E (Outbox.waitForToken slot n) := by
  induction n with
  | zero => exact .stuck
  | succ n ih =>
    refine .bind (.changing fun _ => rfl) fun taking => ?_
    cases taking with
    | granted => exact .pure _
    | refused d => exact .bind (.sleep _) fun _ => ih
    | unbounded => exact .overflow

theorem takeToken (c : Context) (s : SendSettings) :
    Candid Error.IsContextual (Mailer.takeToken c s) := by
  unfold Mailer.takeToken
  split
  · exact (under c (.waitForToken _ _)).mono fun _ => or_self_iff.1
  · exact .pure _

end Candid

end Act
end Outbox
