import Mathlib.Data.List.Forall2
import Outbox.Proofs.Composition
import Outbox.Proofs.Smtp.Exchange

/-!
# Outbox.Proofs.Smtp.Wire — exchanges over links

What a dialogue does when it is carried out on a link.

* `World.sent` is what was written to each link. A request writes its octets and no others
  (`perform_sent`).
* `Exchanged` are the exchanges of a dialogue on a link, one after another.
* `Performs.run` — a dialogue that takes certain steps makes exchanges that carry them out, and
  it is done when all of them are.
* `Act.Timed` — under a timer the act comes to an end, and so does every command.
-/

namespace Outbox

/-! ## What is written -/

theorem Link.write_sent (l : Link) (octets : Octets) :
    ∃ part, part <+: octets ∧ (l.write octets).2.sent = l.sent ++ part ∧
      ((l.write octets).1 = .ok () → part = octets) := by
  unfold Link.write
  split
  next => exact ⟨octets, List.prefix_rfl, rfl, fun _ => rfl⟩
  next n e _ =>
    split
    next => exact ⟨octets, List.prefix_rfl, rfl, fun _ => rfl⟩
    next => exact ⟨octets.take n, List.take_prefix _ _, rfl, nofun⟩

/-- What was written to each link. -/
def World.sent (w : World) : List Octets := w.links.map Link.sent

theorem World.sent_onLink (w : World) (i : Nat) (f : Link → Link) (g : Octets → Octets)
    (h : ∀ l, w.links[i]? = some l → (f l).sent = g l.sent) :
    (w.onLink i f).sent = w.sent.modify i g := by
  apply List.ext_getElem?
  intro j
  simp only [World.sent, World.onLink, List.getElem?_map, List.getElem?_modify]
  by_cases same : i = j
  · subst same
    cases at_i : w.links[i]? with
    | none => rfl
    | some l => simp [h l at_i]
  · cases w.links[j]? <;> simp [same]

theorem modify_append_nil (texts : List Octets) (i : Nat) : texts.modify i (· ++ []) = texts := by
  have same : (fun text : Octets => text ++ []) = id := funext List.append_nil
  rw [same, List.modify_id]

theorem modify_append_append (texts : List Octets) (i : Nat) (first more : Octets) :
    (texts.modify i (· ++ first)).modify i (· ++ more) = texts.modify i (· ++ (first ++ more)) := by
  apply List.ext_getElem?
  intro j
  simp only [List.getElem?_modify]
  by_cases same : i = j
  · cases texts[j]? <;> simp [same]
  · cases texts[j]? <;> simp [same]

namespace Act

variable {α β : Type} {x : Act α}

theorem Keeps.leave_sent (link : Nat) (arrivals : List Arrival) :
    Keeps World.sent (Act.leave link arrivals) := by
  intro limits w
  refine (w.sent_onLink link (fun l => { l with arrivals }) id fun _ _ => rfl).trans ?_
  exact List.modify_id _ _

/-- What is read from a link is not written to it. -/
theorem Keeps.closed_sent : Closed (fun _ => True) fun _ x => Keeps World.sent x :=
  Keeps.closed (fun _ _ _ => rfl) .leave_sent

/-- The link takes these octets. -/
def Takes (w : World) (link : Nat) (octets : Octets) : Prop :=
  ∃ l, w.links[link]? = some l ∧ (l.write octets).1 = .ok ()

/-- The act writes these octets to a link, or only the first of them if the link does not take them
all. Then it is not done. -/
def Writes (link : Nat) (octets : Octets) (x : Act α) : Prop :=
  ∀ limits w, ∃ part, part <+: octets ∧
    (x limits w).2.sent = w.sent.modify link (· ++ part) ∧
    (Takes w link octets → part = octets) ∧ ∀ a, (x limits w).1 = .done a → part = octets

namespace Writes

theorem of_keeps (link : Nat) (h : Keeps World.sent x) : Writes link [] x := by
  intro limits w
  refine ⟨[], List.prefix_rfl, ?_, fun _ => rfl, fun _ _ => rfl⟩
  rw [modify_append_nil]
  exact h limits w

theorem write (link : Nat) (octets : Octets) : Writes link octets (Act.write link octets) := by
  intro limits w
  have seen : Act.world limits w = (.done w, w) := rfl
  cases at_link : w.links[link]? with
  | none =>
    have run : Act.write link octets limits w = (.failed (.stream ⟨.notConnected, .plain⟩), w) := by
      rw [Act.write, bind_done seen, at_link]
      rfl
    rw [run]
    refine ⟨[], List.nil_prefix, (modify_append_nil _ _).symm, ?_, fun _ => nofun⟩
    rintro ⟨l, at_link', -⟩
    cases at_link.symm.trans at_link'
  | some l =>
    rcases written : l.write octets with ⟨result, l'⟩
    have run : Act.write link octets limits w =
        ofResult result limits (w.onLink link fun _ => l') := by
      rw [Act.write, bind_done seen, at_link]
      dsimp only
      rw [written]
      exact bind_done rfl
    obtain ⟨given, world⟩ := ofResult_run result limits (w.onLink link fun _ => l')
    obtain ⟨part, isPrefix, sent, whole⟩ := l.write_sent octets
    rw [written] at sent whole
    rw [run, world]
    refine ⟨part, isPrefix, ?_, ?_, ?_⟩
    · apply w.sent_onLink
      intro l₀ same
      obtain rfl := Option.some.inj (at_link.symm.trans same)
      exact sent
    · rintro ⟨l₀, same, taken⟩
      obtain rfl := Option.some.inj (at_link.symm.trans same)
      rw [written] at taken
      exact whole taken
    · intro a done
      apply whole
      rw [done] at given
      exact (Option.some.inj given).symm

/-- What is done after octets are written may only read. -/
theorem bind {link : Nat} {octets : Octets} (hx : Writes link octets x) {f : α → Act β}
    (hf : ∀ a, Keeps World.sent (f a)) : Writes link octets (x >>= f) := by
  intro limits w
  obtain ⟨part, isPrefix, sent, taken, whole⟩ := hx limits w
  rcases bind_cases x f limits w with ⟨a, first, run⟩ | ⟨stopped, world⟩
  · rw [run, hf a]
    exact ⟨part, isPrefix, sent, taken, fun _ _ => whole a first⟩
  · rw [world]
    refine ⟨part, isPrefix, sent, taken, ?_⟩
    intro b done
    rw [done] at stopped
    exact absurd stopped Outcome.Stopped.not_done

theorem within {link : Nat} {octets : Octets} (d : Duration) (hx : Writes link octets x) :
    Writes link octets (Act.within d x) := by
  intro limits w
  obtain ⟨world, done⟩ := limited_run (.timer (w.now.timer d)) x limits w
  obtain ⟨part, isPrefix, sent, taken, whole⟩ := hx (limits ++ [.timer (w.now.timer d)]) w
  refine ⟨part, isPrefix, ?_, taken, ?_⟩
  · rw [← sent, ← world]
    rfl
  · intro a isDone
    exact whole a ((done a).1 isDone)

/-- A request writes its octets, and no others. -/
theorem perform (link : Nat) (patience : Duration) (r : Smtp.Request) :
    Writes link r.octets (r.perform link patience) := by
  have closed := Keeps.closed_sent
  cases r with
  | listen => exact of_keeps link (closed.reply _)
  | command line => exact .within _ (.bind (.write _ _) fun _ => closed.reply _)
  | message text => exact .within _ (.bind (.write _ _) fun _ => closed.reply _)
  | hello host =>
    exact .within _ (.bind (.write _ _) fun _ => closed.ehlo host (fun _ => trivial) _)
  | secure server => exact of_keeps link (.within _ (closed.secure server (fun _ => trivial) _))

end Writes
end Act

/-! ## Acts under a timer -/

/-- The act came to an end or was cut short. -/
def Outcome.Settled {α : Type} : Outcome α → Prop
  | .overflow | .stuck => False
  | _ => True

theorem Outcome.Stopped.settled {α β : Type} {outcome : Outcome α} {outcome' : Outcome β}
    (h : outcome.Stopped outcome') (settled : outcome.Settled) : outcome'.Settled := by
  cases h <;> exact settled

namespace Act

variable {α β : Type} {x : Act α} {f : α → Act β} {limits : List Limit} {w : World}

theorem firstEnding_ne_none {endings : List Ending} {e : Ending} (h : e ∈ endings) :
    firstEnding endings ≠ none := by
  cases endings with
  | nil => cases h
  | cons first rest =>
    rw [firstEnding]
    split <;> exact Option.some_ne_none _

/-- A limit that ends a wait cuts it short. -/
theorem cutBy_ne_none {e : Ending} (h : e ∈ endings limits w none) : e.cutBy ≠ none := by
  rw [endings, List.mem_append, List.mem_flatMap] at h
  obtain h | ⟨⟨limit, i⟩, -, h⟩ := h
  · cases h
  · cases limit with
    | timer due =>
      obtain rfl := List.mem_singleton.1 h
      exact Option.some_ne_none _
    | context c =>
      simp only [endingsOf, List.mem_append, List.mem_map] at h
      obtain (raised | ⟨deadline, -, rfl⟩) | ⟨planned, -, rfl⟩ := h
      · split at raised
        · obtain rfl := List.mem_singleton.1 raised
          exact Option.some_ne_none _
        · cases raised
      · exact Option.some_ne_none _
      · exact Option.some_ne_none _

theorem endings_of_timer {due : Instant} (timer : .timer due ∈ limits) (w : World)
    (awaited : Option Instant) : ∃ e, e ∈ endings limits w awaited := by
  obtain ⟨i, at_i⟩ := List.mem_iff_getElem?.1 timer
  have indexed : (Limit.timer due, i) ∈ limits.zipIdx := List.mem_zipIdx_iff_getElem?.2 at_i
  have inLimit : (⟨dueFrom w.now due, 2, limits.length - i, some (i, .timeout)⟩ : Ending) ∈
      endingsOf w limits.length i (.timer due) := List.mem_singleton.2 rfl
  exact ⟨_, List.mem_append.2 (.inr (List.mem_flatMap.2 ⟨_, indexed, inLimit⟩))⟩

/-- Under a timer the act comes to an end or is cut short. -/
def Timed (x : Act α) : Prop :=
  ∀ limits w due, .timer due ∈ limits → (x limits w).1.Settled

namespace Timed

theorem bind (hx : Timed x) (hf : ∀ a, Timed (f a)) : Timed (x >>= f) := by
  intro limits w due timer
  rcases bind_cases x f limits w with ⟨a, -, run⟩ | ⟨stopped, -⟩
  · rw [run]
    exact hf a limits _ due timer
  · exact stopped.settled (hx limits w due timer)

theorem wait (awaited : Option Instant) : Timed (Act.wait awaited) := by
  intro limits w due timer
  obtain ⟨e, isEnding⟩ := endings_of_timer timer w awaited
  unfold Act.wait
  split
  next never => exact absurd never (firstEnding_ne_none isEnding)
  next first _ =>
    dsimp only
    cases first.cutBy <;> trivial

/-- Who waits for nothing under a timer is cut short by it or by another limit. -/
theorem hang : Timed (Act.hang : Act α) := by
  intro limits w due timer
  obtain ⟨e, isEnding⟩ := endings_of_timer timer w none
  rcases ending : firstEnding (endings limits w none) with _ | first
  · exact absurd ending (firstEnding_ne_none isEnding)
  · rcases cutBy : first.cutBy with _ | ⟨depth, cause⟩
    · exact absurd cutBy (cutBy_ne_none (firstEnding_mem ending))
    · have run : Act.wait none limits w =
          (.cut depth cause, w.reach first.time (first.rank == 3)) := by
        simp only [Act.wait, ending, cutBy]
      rw [Act.hang, bind_cut run]
      trivial

theorem attempt (hx : Timed x) : Timed x.attempt := by
  intro limits w due timer
  have settled := hx limits w due timer
  unfold Act.attempt
  rcases run : x limits w with ⟨a | e | ⟨depth, cause⟩ | _ | _, w₁⟩ <;> rw [run] at settled <;>
    exact settled

theorem settled_limited (limit : Limit) (h : (x (limits ++ [limit]) w).1.Settled) :
    (Act.limited limit x limits w).1.Settled := by
  unfold Act.limited
  rcases run : x (limits ++ [limit]) w with ⟨a | e | ⟨depth, cause⟩ | _ | _, w₁⟩ <;> rw [run] at h
  · trivial
  · trivial
  · dsimp only
    split <;> trivial
  · cases h
  · cases h

theorem compositional : Compositional fun _ x => Timed x where
  changing _ := fun _ _ _ _ => trivial
  fail _ := fun _ _ _ _ => trivial
  bind := .bind
  sleep _ := .bind (fun _ _ _ _ => trivial) fun _ => .wait _
  hang := .hang
  attempt := .attempt
  limited limit hx := fun _ w due timer =>
    settled_limited limit (hx _ w due (List.mem_append_left _ timer))

/-- An act that has a time of its own comes to an end wherever nothing cuts it short. -/
theorem within (d : Duration) (h : Timed x) (limits : List Limit) (w : World) :
    (Act.within d x limits w).1.Settled :=
  settled_limited (.timer (w.now.timer d))
    (h _ w _ (List.mem_append.2 (.inr (List.mem_singleton.2 rfl))))

/-- Opening a session comes to an end wherever nothing cuts it short. -/
theorem connect (e : Smtp.Endpoint) (limits : List Limit) (w : World) :
    (e.connect limits w).1.Settled :=
  within e.timeout (.bind (compositional.atStage .connect compositional.dial) fun _ =>
    .bind (compositional.run _ _ e.setUp) fun _ => compositional.pure _) limits w

theorem command (link : Nat) (patience : Duration) (line : Octets) (limits : List Limit)
    (w : World) : (Smtp.Request.perform link patience (.command line) limits w).1.Settled :=
  within patience (.bind (compositional.write _ _) fun _ => compositional.closed.reply _) limits w

end Timed

theorem settled_ofResult (result : Result α) (limits : List Limit) (w : World) :
    (Act.ofResult result limits w).1.Settled := by
  cases result <;> trivial

/-- A command in a session: its line is sent, and the answer judged. -/
theorem perform_on (text : String) (c : Smtp.Connection) :
    (Smtp.perform text).on c =
      (Smtp.Request.perform c.link c.patience (.command (Smtp.commandLine text))).attempt >>=
        fun answer => Act.ofResult (answer >>= fun reply => Smtp.Reply.assertPositive reply) := by
  refine congrArg (_ >>= ·) (funext fun answer => ?_)
  cases answer <;> rfl

/-- A command comes to an end, whatever the server does, unless a limit around it cuts it
short. -/
theorem settled_command (text : String) (c : Smtp.Connection) (limits : List Limit) (w : World) :
    ((Smtp.perform text).on c limits w).1.Settled := by
  have spoken := Timed.command c.link c.patience (Smtp.commandLine text) limits w
  rw [perform_on]
  rcases run : Smtp.Request.perform c.link c.patience (.command (Smtp.commandLine text)) limits w
    with ⟨a | e | ⟨depth, cause⟩ | _ | _, w₁⟩ <;> rw [run] at spoken
  · rw [attempt_bind_finished (by rw [run]; rfl)]
    exact settled_ofResult _ _ _
  · rw [attempt_bind_finished (by rw [run]; rfl)]
    exact settled_ofResult _ _ _
  · rw [bind_cut (by rw [Act.attempt, run])]
    trivial
  · cases spoken
  · cases spoken

/-- Where there are no limits, a command that is tried gives a result. -/
theorem attempt_command (text : String) (c : Smtp.Connection) (w : World) :
    ∃ result w', ((Smtp.perform text).on c).attempt [] w = (.done result, w') := by
  have settled := settled_command text c [] w
  have tame := Tame.run c.link c.patience (Smtp.perform text)
  rcases run : (Smtp.perform text).on c [] w with ⟨a | e | ⟨depth, cause⟩ | _ | _, w₁⟩ <;>
    rw [run] at settled
  · exact ⟨_, _, by rw [Act.attempt, run]⟩
  · exact ⟨_, _, by rw [Act.attempt, run]⟩
  · exact absurd (congrArg Prod.fst run) (tame.not_cut w depth cause)
  · cases settled
  · cases settled

end Act

/-! ## Exchanges -/

namespace Smtp

variable {link : Nat} {patience : Duration} {limits : List Limit} {w w' : World}

/-- These exchanges are made on a link one after another. Only the last one may end before
there is an answer. -/
inductive Exchanged (link : Nat) (patience : Duration) (limits : List Limit) :
    List Exchange → World → World → Prop where
  | none (w : World) : Exchanged link patience limits [] w w
  | answered {r : Request} {answer : Result r.Answer} {xs : List Exchange} {w w' : World}
      (result : (r.perform link patience limits w).1.result? = some answer)
      (rest : Exchanged link patience limits xs (r.perform link patience limits w).2 w') :
      Exchanged link patience limits (⟨r, some answer⟩ :: xs) w w'
  | unanswered {r : Request} {w : World}
      (noResult : (r.perform link patience limits w).1.result? = Option.none) :
      Exchanged link patience limits [⟨r, Option.none⟩] w (r.perform link patience limits w).2

/-- The octets of these exchanges, of the last one perhaps only the first of them. -/
inductive Written : List Exchange → Octets → Prop where
  | none : Written [] []
  | partly (x : Exchange) {part : Octets} (isPrefix : part <+: x.request.octets) : Written [x] part
  | whole (x : Exchange) {xs : List Exchange} {octets : Octets} (rest : Written xs octets) :
      Written (x :: xs) (x.request.octets ++ octets)

/-- Exchanges write their octets to the link, in order, and nothing to any other link. -/
theorem Exchanged.written {xs : List Exchange} (h : Exchanged link patience limits xs w w')
    (answered : ∀ x ∈ xs.dropLast, x.IsAnswered) :
    ∃ octets, Written xs octets ∧ w'.sent = w.sent.modify link (· ++ octets) := by
  -- By induction on the exchanges: all but the last one were answered, so they wrote everything.
  induction h with
  | none w => exact ⟨[], .none, (modify_append_nil _ _).symm⟩
  | @unanswered r w noResult =>
    obtain ⟨part, isPrefix, sent, -⟩ := Act.Writes.perform link patience r limits w
    exact ⟨part, .partly _ isPrefix, sent⟩
  | @answered r answer xs w w' result rest ih =>
    obtain ⟨part, isPrefix, sent, -, whole⟩ := Act.Writes.perform link patience r limits w
    cases xs with
    | nil =>
      cases rest
      exact ⟨part, .partly _ isPrefix, sent⟩
    | cons y ys =>
      rw [List.dropLast_cons_cons] at answered
      obtain ⟨octets, written, sentMore⟩ := ih fun x mem => answered x (.tail _ mem)
      have isOk : ∃ a : r.Answer, answer = .ok a := by
        obtain ⟨a, same⟩ := answered _ (.head _)
        exact ⟨a, Option.some.inj same⟩
      obtain ⟨a, rfl⟩ := isOk
      obtain rfl := whole a (Outcome.result?_eq_ok.1 result)
      refine ⟨_, .whole _ written, ?_⟩
      rw [sentMore, sent, modify_append_append]

/-- All steps were made and accepted. -/
abbrev Completed : List Step → List Exchange → Prop := List.Forall₂ Step.IsDone

theorem run_finished (result : Result Unit) :
    (Dialogue.finished result).run link patience limits w = Act.ofResult result limits w := rfl

/-- A dialogue stops after an answer that does not accept its first step. -/
theorem run_stopped {s : Step} {next : Result s.request.Answer → Dialogue Unit}
    {answer : Result s.request.Answer} {e : Error}
    (result : (s.request.perform link patience limits w).1.result? = some answer)
    (stops : next answer = .finished (.error e)) (rejected : ∀ a, answer = .ok a → ¬ s.accepts a)
    (steps : List Step) :
    ∃ xs, Carried (s :: steps) xs ∧
      Exchanged link patience limits xs w
        ((Dialogue.ask s.request next).run link patience limits w).2 ∧
      (((Dialogue.ask s.request next).run link patience limits w).1 = .done () ↔
        Completed (s :: steps) xs) := by
  rw [Dialogue.run, Act.attempt_bind_finished result, stops, run_finished]
  refine ⟨[⟨s.request, some answer⟩], .last _ _ _ rfl, .answered result (.none _), ?_⟩
  constructor
  · exact nofun
  · rintro (- | ⟨⟨a, same, accepts⟩, -⟩)
    cases same
    exact absurd accepts (rejected a rfl)

/-- A dialogue that takes certain steps makes exchanges that carry them out, and it is done
exactly if all of them are accepted. -/
theorem Performs.run {steps : List Step} {d : Dialogue Unit} (h : Performs steps d) (link : Nat)
    (patience : Duration) (limits : List Limit) (w : World) :
    ∃ xs, Carried steps xs ∧ Exchanged link patience limits xs w (d.run link patience limits w).2 ∧
      ((d.run link patience limits w).1 = .done () ↔ Completed steps xs) := by
  -- By induction on the steps: what comes after an answer is the run of the other steps.
  induction h generalizing w with
  | done =>
    rw [run_finished]
    exact ⟨[], .begun _, .none w, fun _ => .nil, fun _ => rfl⟩
  | refused s steps e =>
    rw [run_finished]
    exact ⟨[], .begun _, .none w, nofun, nofun⟩
  | @step s steps next accepted rejected unanswered ih =>
    rcases result : (s.request.perform link patience limits w).1.result? with _ | (error | answer)
    · -- The request is cut short.
      rw [Dialogue.run]
      obtain ⟨noResult, world⟩ := Act.attempt_bind_unfinished result
      rw [world]
      refine ⟨[⟨s.request, none⟩], .last _ _ _ rfl, .unanswered result, ?_, ?_⟩
      · intro done
        rw [done] at noResult
        cases noResult
      · rintro (- | ⟨⟨a, same, -⟩, -⟩)
        cases same
    · -- The link fails, or the time for an answer is over.
      obtain ⟨e, stops⟩ := unanswered error
      exact run_stopped result stops (fun _ => nofun) steps
    · by_cases accepts : s.accepts answer
      · rw [Dialogue.run, Act.attempt_bind_finished result]
        obtain ⟨xs, carried, exchanged, done⟩ := ih answer accepts _
        have isDone : s.IsDone ⟨s.request, some (.ok answer)⟩ := ⟨answer, rfl, accepts⟩
        refine ⟨_ :: xs, .next isDone carried, .answered result exchanged, ?_⟩
        rw [done]
        constructor
        · exact fun rest => .cons isDone rest
        · rintro (- | ⟨-, rest⟩)
          exact rest
      · obtain ⟨e, stops⟩ := rejected answer accepts
        refine run_stopped result stops ?_ steps
        intro a same
        cases same
        exact accepts

end Smtp
end Outbox
