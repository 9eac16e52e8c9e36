import Outbox.Proofs.Act
import Outbox.Proofs.Context.Deeds

/-!
# Outbox.Proofs.Context.Forest — contexts are what was done with them

Whoever cancels a context ends all that hold its token or one that descends from it, and nothing
else. A deadline that was given to a context after another one was derived from it does not count
for that one. So tokens and deadlines of all contexts follow from the deeds.

* `Does` — what one deed does.
* `Consistent` — tokens and deadlines are what a history says, and every deed keeps it so.
* `context_follows` — when a context has ended and with which error, after any deeds.
-/

namespace Outbox

/-! ## Contexts that have ended -/

/-- A token is raised if it was raised itself or one of its ancestors was. -/
theorem Signals.isRaised_iff {s : Signals} {t : Token} :
    s.isRaised t = true ↔ ∃ id ∈ t.lineage, id ∈ s.raised := by
  simp [isRaised]

namespace Context

variable {c : Context} {s : Signals} {now : Instant}

/-- A context has one of two errors, and cancellation comes before the deadline. -/
theorem failure?_eq_some {e : Error} : c.failure? s now = some e ↔
    (s.isRaised c.token = true ∧ .cancelled = e) ∨
      ¬ s.isRaised c.token = true ∧ c.isOverdue now = true ∧ .deadlineExceeded = e := by
  unfold failure?
  split
  next raised => simp [raised]
  next goesOn =>
    split
    next overdue => simp [goesOn, overdue]
    next inTime => simp [goesOn, inTime]

theorem isSome_failure? :
    (c.failure? s now).isSome ↔ s.isRaised c.token = true ∨ c.isOverdue now = true := by
  unfold failure?
  split
  next raised => simp [raised]
  next goesOn =>
    split
    next overdue => simp [overdue]
    next inTime => simp [goesOn, inTime]

end Context

/-! ## What a deed does -/

open Deed

namespace Forest

/-- All that a deed can do. -/
inductive Does (f : Forest) : Deed → Forest → Prop
  | new : Does f .new
    ⟨{ f.signals with fresh := f.signals.fresh + 1 }, f.contexts ++ [⟨⟨f.signals.fresh, []⟩, none⟩]⟩
  | withToken {i c} : f.contexts[i]? = some c →
    Does f (.withToken i) { f with contexts := f.contexts ++ [⟨c.token, none⟩] }
  | clone {i c} : f.contexts[i]? = some c →
    Does f (.clone i) { f with contexts := f.contexts ++ [c] }
  | child {i c} : f.contexts[i]? = some c → Does f (.child i)
    ⟨{ f.signals with fresh := f.signals.fresh + 1 },
      f.contexts ++ [⟨⟨f.signals.fresh, c.token.lineage⟩, c.deadline⟩]⟩
  | bound {d i c t} : f.contexts[i]? = some c → d.gives? = some (i, t) →
    Does f d { f with contexts := f.contexts.set i (c.withDeadline t) }
  | cancel {i c} : f.contexts[i]? = some c →
    Does f (.cancel i) { f with signals := f.signals.raise c.token }

theorem does_of_step {f f' : Forest} {d : Deed} (h : f.step d = some f') : Does f d f' := by
  cases d with
  | new =>
    cases h
    exact .new
  | withToken i =>
    obtain ⟨c, found, rfl⟩ := Option.map_eq_some_iff.1 h
    exact .withToken found
  | clone i =>
    obtain ⟨c, found, rfl⟩ := Option.map_eq_some_iff.1 h
    exact .clone found
  | child i =>
    obtain ⟨c, found, rfl⟩ := Option.map_eq_some_iff.1 h
    exact .child found
  | withDeadline i t =>
    obtain ⟨c, found, rfl⟩ := Option.map_eq_some_iff.1 h
    exact .bound found rfl
  | withTimeout i now timeout =>
    obtain ⟨c, found, set⟩ := Option.bind_eq_some_iff.1 h
    obtain ⟨b, bounded, rfl⟩ := Option.map_eq_some_iff.1 set
    obtain ⟨t, room, rfl⟩ := Option.map_eq_some_iff.1 bounded
    exact .bound found (congrArg (Option.map (i, ·)) room)
  | cancel i =>
    obtain ⟨c, found, rfl⟩ := Option.map_eq_some_iff.1 h
    exact .cancel found

theorem getElem?_tokens {f : Forest} {i : Nat} {c : Context} (found : f.contexts[i]? = some c) :
    f.tokens[i]? = some c.token := by
  rw [tokens, List.getElem?_map, found, Option.map_some]

theorem tokens_concat (signals : Signals) (f : Forest) (c : Context) :
    (Forest.mk signals (f.contexts ++ [c])).tokens = f.tokens ++ [c.token] :=
  List.map_append

/-- A deadline changes no token. -/
theorem tokens_set {f : Forest} {i : Nat} {c : Context} (found : f.contexts[i]? = some c)
    (t : Instant) : (Forest.mk f.signals (f.contexts.set i (c.withDeadline t))).tokens = f.tokens := by
  have held := getElem?_tokens found
  refine List.ext_getElem? fun k => ?_
  rw [tokens, List.map_set, List.getElem?_set]
  split
  next same =>
    subst same
    obtain ⟨inside, -⟩ := List.getElem?_eq_some_iff.1 found
    rw [if_pos (by simpa using inside), held]
    rfl
  next => rfl

/-- A token stays, and no context goes away. -/
theorem Does.tokens_prefix {f f' : Forest} {d : Deed} (h : Does f d f') :
    f.tokens <+: f'.tokens := by
  cases h with
  | new => exact ⟨_, (tokens_concat ..).symm⟩
  | withToken => exact ⟨_, (tokens_concat ..).symm⟩
  | clone => exact ⟨_, (tokens_concat ..).symm⟩
  | child => exact ⟨_, (tokens_concat ..).symm⟩
  | bound found => exact (tokens_set found _).symm ▸ List.prefix_rfl
  | cancel => exact List.prefix_rfl

theorem Does.keeps {f f' : Forest} {d : Deed} (h : Does f d f') {i : Nat} {t : Token}
    (found : f.tokens[i]? = some t) : f'.tokens[i]? = some t := by
  obtain ⟨inside, rfl⟩ := List.getElem?_eq_some_iff.1 found
  exact List.prefix_iff_getElem?.1 h.tokens_prefix i inside

/-- A token is raised by a cancellation only, and stays so. -/
theorem Does.mem_raised {f f' : Forest} {d : Deed} (h : Does f d f') (id : Nat) :
    id ∈ f'.signals.raised ↔ id ∈ f.signals.raised ∨
      ∃ a t, d = .cancel a ∧ f.tokens[a]? = some t ∧ t.id = id := by
  cases h with
  | @cancel i c found =>
    constructor
    · intro mem
      rcases List.mem_cons.1 mem with rfl | old
      · exact .inr ⟨i, c.token, rfl, getElem?_tokens found, rfl⟩
      · exact .inl old
    · rintro (old | ⟨a, t, ⟨⟩, held, rfl⟩)
      · exact List.mem_cons_of_mem _ old
      · have same : c.token = t := Option.some.inj ((getElem?_tokens found).symm.trans held)
        exact same ▸ List.mem_cons_self
  | bound _ gives =>
    refine (or_iff_left ?_).symm
    rintro ⟨a, t, rfl, -⟩
    cases gives
  | _ =>
    refine (or_iff_left ?_).symm
    rintro ⟨a, t, ⟨⟩, -⟩

/-! ## What a history says of a forest -/

/-- Tokens and deadlines are what a history says. -/
structure Consistent (history : List Deed) (f : Forest) : Prop where
  size : f.tokens.length = made history
  /-- All tokens were handed out. -/
  fresh : ∀ t ∈ f.tokens, ∀ id ∈ t.lineage, id < f.signals.fresh
  shared : ∀ i j, Shares history i j → ∃ t, f.tokens[i]? = some t ∧ f.tokens[j]? = some t
  derived : ∀ i j, Done history j (.child i) →
    ∃ s t, f.tokens[i]? = some s ∧ f.tokens[j]? = some t ∧ t.ancestors = s.lineage
  covered : ∀ a i s t, f.tokens[a]? = some s → f.tokens[i]? = some t → s.id ∈ t.lineage →
    Covers history a i
  raised : ∀ a, .cancel a ∈ history → ∃ t, f.tokens[a]? = some t ∧ t.id ∈ f.signals.raised
  cancelled : ∀ id ∈ f.signals.raised, ∃ a t, .cancel a ∈ history ∧ f.tokens[a]? = some t ∧ t.id = id
  given : ∀ i t, Given history i t → i < made history
  earliest : ∀ i c, f.contexts[i]? = some c → IsEarliest (deadlines history i) c.deadline

theorem consistent_nil : Consistent [] ⟨.empty, []⟩ where
  size := rfl
  fresh := by simp [tokens]
  shared i j h := by rcases h with h | h <;> cases h
  derived i j h := by cases h
  covered a i s t h := by simp [tokens] at h
  raised a h := by simp at h
  cancelled id h := by simp [Signals.empty] at h
  given i t h := by cases h
  earliest i c h := by simp at h

section

variable {past : List Deed} {f f' : Forest} {d : Deed}

theorem old_or_new {α : Type} {l : List α} {x y : α} {i : Nat} (found : (l ++ [x])[i]? = some y) :
    l[i]? = some y ∨ i = l.length ∧ y = x := by
  rw [List.getElem?_append] at found
  split at found
  · exact .inl found
  next outside =>
    have place : i - l.length < 1 := (List.getElem?_eq_some_iff.1 found).1
    have last : i = l.length := by omega
    rw [last, Nat.sub_self] at found
    exact .inr ⟨last, (Option.some.inj found).symm⟩

theorem Consistent.size_step (h : Consistent past f) (does : Does f d f') :
    f'.tokens.length = made (d :: past) := by
  cases does with
  | new | withToken | clone | child =>
    rw [tokens_concat, List.length_append, h.size]
    rfl
  | bound found gives => rw [tokens_set found, h.size, made_of_gives gives]
  | cancel => exact h.size

theorem Consistent.fresh_step (h : Consistent past f) (does : Does f d f') :
    ∀ t ∈ f'.tokens, ∀ id ∈ t.lineage, id < f'.signals.fresh := by
  have held {i : Nat} {t : Token} (found : f.tokens[i]? = some t) :
      ∀ id ∈ t.lineage, id < f.signals.fresh := h.fresh t (List.mem_of_getElem? found)
  intro t mem
  cases does with
  | new =>
    rw [tokens_concat] at mem
    rcases List.mem_append.1 mem with old | new
    · exact fun id hid => Nat.lt_succ_of_lt (h.fresh t old id hid)
    · cases List.mem_singleton.1 new
      simp [Token.lineage]
  | child found =>
    rw [tokens_concat] at mem
    rcases List.mem_append.1 mem with old | new
    · exact fun id hid => Nat.lt_succ_of_lt (h.fresh t old id hid)
    · cases List.mem_singleton.1 new
      intro id hid
      rcases List.mem_cons.1 hid with rfl | hid
      · exact Nat.lt_succ_self _
      · exact Nat.lt_succ_of_lt (held (getElem?_tokens found) id hid)
  | withToken found | clone found =>
    rw [tokens_concat] at mem
    rcases List.mem_append.1 mem with old | new
    · exact h.fresh t old
    · cases List.mem_singleton.1 new
      have source := getElem?_tokens found
      exact held source
  | bound found =>
    rw [tokens_set found] at mem
    exact h.fresh t mem
  | cancel => exact h.fresh t mem

theorem Consistent.getElem?_last (h : Consistent past f) (t : Token) :
    (f.tokens ++ [t])[made past]? = some t := by
  rw [← h.size]
  exact List.getElem?_concat_length

theorem Consistent.old_or_last (h : Consistent past f) {i : Nat} {s t : Token}
    (found : (f.tokens ++ [s])[i]? = some t) :
    f.tokens[i]? = some t ∨ i = made past ∧ t = s := h.size ▸ old_or_new found

theorem Consistent.shared_step (h : Consistent past f) (does : Does f d f') {i j : Nat}
    (shares : Shares (d :: past) i j) : ∃ t, f'.tokens[i]? = some t ∧ f'.tokens[j]? = some t := by
  have kept {k : Nat} {t : Token} : f.tokens[k]? = some t → f'.tokens[k]? = some t :=
    does.keeps
  have earlier (shares : Shares past i j) :
      ∃ t, f'.tokens[i]? = some t ∧ f'.tokens[j]? = some t := by
    obtain ⟨t, left, right⟩ := h.shared i j shares
    exact ⟨t, kept left, kept right⟩
  have copied {c : Context} (found : f.contexts[i]? = some c)
      (copy : f'.tokens = f.tokens ++ [c.token]) :
      ∃ t, f'.tokens[i]? = some t ∧ f'.tokens[made past]? = some t := by
    refine ⟨c.token, kept (getElem?_tokens found), ?_⟩
    rw [copy]
    exact h.getElem?_last _
  rcases shares with done | done
  · cases done with
    | earlier done => exact earlier (.inl done)
    | last =>
      cases does with
      | clone found => exact copied found (tokens_concat ..)
      | bound _ gives => cases gives
  · cases done with
    | earlier done => exact earlier (.inr done)
    | last =>
      cases does with
      | withToken found => exact copied found (tokens_concat ..)
      | bound _ gives => cases gives

theorem Consistent.derived_step (h : Consistent past f) (does : Does f d f') {i j : Nat}
    (done : Done (d :: past) j (.child i)) :
    ∃ s t, f'.tokens[i]? = some s ∧ f'.tokens[j]? = some t ∧ t.ancestors = s.lineage := by
  have kept {k : Nat} {t : Token} : f.tokens[k]? = some t → f'.tokens[k]? = some t :=
    does.keeps
  cases done with
  | earlier done =>
    obtain ⟨s, t, left, right, descends⟩ := h.derived i j done
    exact ⟨s, t, kept left, kept right, descends⟩
  | last =>
    cases does with
    | @child _ c found =>
      refine ⟨_, ⟨f.signals.fresh, c.token.lineage⟩, kept (getElem?_tokens found), ?_, rfl⟩
      rw [tokens_concat]
      exact h.getElem?_last _
    | bound _ gives => cases gives

/-- A context is made with a token that is there. -/
theorem Consistent.covered_copy (h : Consistent past f) {a i k : Nat} {s t u : Token}
    (found : f.tokens[k]? = some u) (shares : Shares (d :: past) k (made past))
    (ha : (f.tokens ++ [u])[a]? = some s) (hi : (f.tokens ++ [u])[i]? = some t)
    (mem : s.id ∈ t.lineage) : Covers (d :: past) a i := by
  rcases h.old_or_last ha with oldA | ⟨rfl, rfl⟩
  · rcases h.old_or_last hi with oldI | ⟨rfl, rfl⟩
    · exact (h.covered a i s t oldA oldI mem).earlier
    · exact .copy (h.covered a k s t oldA found mem).earlier shares
  · rcases h.old_or_last hi with oldI | ⟨rfl, rfl⟩
    · have back : Covers (d :: past) (made past) k := .original .self shares
      exact back.trans (h.covered k i s t found oldI mem).earlier
    · exact .self

/-- A context is made with a token of its own. No token that is there descends from it. -/
theorem Consistent.covered_fresh (h : Consistent past f) {a i : Nat} {s t : Token}
    {ancestors : List Nat}
    (covers : ∀ a s, f.tokens[a]? = some s → s.id ∈ ancestors → Covers (d :: past) a (made past))
    (ha : (f.tokens ++ [⟨f.signals.fresh, ancestors⟩])[a]? = some s)
    (hi : (f.tokens ++ [⟨f.signals.fresh, ancestors⟩])[i]? = some t)
    (mem : s.id ∈ t.lineage) : Covers (d :: past) a i := by
  rcases h.old_or_last ha with oldA | ⟨rfl, rfl⟩
  · rcases h.old_or_last hi with oldI | ⟨rfl, rfl⟩
    · exact (h.covered a i s t oldA oldI mem).earlier
    · have own : s.id < f.signals.fresh :=
        h.fresh s (List.mem_of_getElem? oldA) s.id List.mem_cons_self
      rcases List.mem_cons.1 mem with same | above
      · exact absurd same (Nat.ne_of_lt own)
      · exact covers a s oldA above
  · rcases h.old_or_last hi with oldI | ⟨rfl, rfl⟩
    · exact absurd (h.fresh t (List.mem_of_getElem? oldI) _ mem) (Nat.lt_irrefl _)
    · exact .self

theorem Consistent.covered_step (h : Consistent past f) (does : Does f d f') {a i : Nat}
    {s t : Token} (ha : f'.tokens[a]? = some s) (hi : f'.tokens[i]? = some t)
    (mem : s.id ∈ t.lineage) : Covers (d :: past) a i := by
  cases does with
  | new =>
    rw [tokens_concat] at ha hi
    exact h.covered_fresh (fun a s _ none => absurd none List.not_mem_nil) ha hi mem
  | @child k c found =>
    rw [tokens_concat] at ha hi
    refine h.covered_fresh (fun a s held above => ?_) ha hi mem
    exact .child (h.covered a k s c.token held (getElem?_tokens found) above).earlier .last
  | withToken found =>
    rw [tokens_concat] at ha hi
    exact h.covered_copy (getElem?_tokens found) (.inr .last) ha hi mem
  | clone found =>
    rw [tokens_concat] at ha hi
    exact h.covered_copy (getElem?_tokens found) (.inl .last) ha hi mem
  | bound found =>
    rw [tokens_set found] at ha hi
    exact (h.covered a i s t ha hi mem).earlier
  | cancel => exact (h.covered a i s t ha hi mem).earlier

theorem Consistent.raised_step (h : Consistent past f) (does : Does f d f') {a : Nat}
    (mem : .cancel a ∈ d :: past) :
    ∃ t, f'.tokens[a]? = some t ∧ t.id ∈ f'.signals.raised := by
  rcases List.mem_cons.1 mem with rfl | old
  · cases does with
    | cancel found => exact ⟨_, getElem?_tokens found, List.mem_cons_self⟩
    | bound _ gives => cases gives
  · obtain ⟨t, found, raised⟩ := h.raised a old
    exact ⟨t, does.keeps found, (does.mem_raised t.id).2 (.inl raised)⟩

theorem Consistent.cancelled_step (h : Consistent past f) (does : Does f d f') {id : Nat}
    (mem : id ∈ f'.signals.raised) :
    ∃ a t, .cancel a ∈ d :: past ∧ f'.tokens[a]? = some t ∧ t.id = id := by
  rcases (does.mem_raised id).1 mem with old | ⟨a, t, rfl, found, rfl⟩
  · obtain ⟨a, t, cancelled, found, rfl⟩ := h.cancelled id old
    exact ⟨a, t, List.mem_cons_of_mem d cancelled, does.keeps found, rfl⟩
  · exact ⟨a, t, List.mem_cons_self, does.keeps found, rfl⟩

theorem Consistent.given_step (h : Consistent past f) (does : Does f d f') {i : Nat} {t : Instant}
    (given : Given (d :: past) i t) : i < made (d :: past) := by
  cases given with
  | given gives =>
    cases does with
    | bound found own =>
      cases Option.some.inj (own.symm.trans gives)
      rw [made_of_gives gives, ← h.size]
      exact (List.getElem?_eq_some_iff.1 (getElem?_tokens found)).1
    | _ => cases gives
  | clone => exact Nat.lt_succ_self _
  | child => exact Nat.lt_succ_self _
  | earlier given => exact Nat.lt_of_lt_of_le (h.given i t given) le_made_cons

theorem Consistent.earliest_step (h : Consistent past f) (does : Does f d f') {i : Nat}
    {c : Context} (found : f'.contexts[i]? = some c) :
    IsEarliest (deadlines (d :: past) i) c.deadline := by
  have count : f.contexts.length = made past := by simpa [tokens] using h.size
  have old {k : Nat} {b : Context} (held : f.contexts[k]? = some b)
      (none : ∀ t, d.gives? ≠ some (k, t)) : IsEarliest (deadlines (d :: past) k) b.deadline := by
    have inside : k < made past := count ▸ (List.getElem?_eq_some_iff.1 held).1
    rw [deadlines_of_lt inside none]
    exact h.earliest k b held
  cases does with
  | new =>
    rcases old_or_new found with held | ⟨rfl, rfl⟩
    · exact old held nofun
    · rw [count]
      exact deadlines_of_new h.given (.inl rfl)
  | withToken =>
    rcases old_or_new found with held | ⟨rfl, rfl⟩
    · exact old held nofun
    · rw [count]
      exact deadlines_of_new h.given (.inr ⟨_, rfl⟩)
  | clone source =>
    rcases old_or_new found with held | ⟨rfl, rfl⟩
    · exact old held nofun
    · rw [count, deadlines_of_derived h.given (.inl rfl)]
      exact h.earliest _ _ source
  | @child k b source =>
    rcases old_or_new found with held | ⟨rfl, rfl⟩
    · exact old held nofun
    · rw [count, deadlines_of_derived h.given (.inr rfl)]
      exact h.earliest k b source
  | @bound _ k b t held gives =>
    by_cases same : k = i
    · subst same
      rw [List.getElem?_set_self (List.getElem?_eq_some_iff.1 held).1] at found
      cases found
      rw [deadlines_of_gives gives]
      exact isEarliest_withDeadline (h.earliest k b held) t
    · rw [List.getElem?_set_ne same] at found
      refine old found fun u own => same ?_
      exact congrArg Prod.fst (Option.some.inj (gives.symm.trans own))
  | cancel => exact old found nofun

theorem consistent_step (h : Consistent past f) (does : Does f d f') : Consistent (d :: past) f' where
  size := h.size_step does
  fresh := h.fresh_step does
  shared _ _ := h.shared_step does
  derived _ _ := h.derived_step does
  covered _ _ _ _ := h.covered_step does
  raised _ := h.raised_step does
  cancelled _ := h.cancelled_step does
  given _ _ := h.given_step does
  earliest _ _ := h.earliest_step does

end

theorem consistent_after {history : List Deed} {f : Forest} (h : after history = some f) :
    Consistent history f := by
  induction history generalizing f with
  | nil =>
    cases h
    exact consistent_nil
  | cons d past ih =>
    obtain ⟨g, before, step⟩ := Option.bind_eq_some_iff.1 h
    exact consistent_step (ih before) (does_of_step step)

/-! ## Deeds that can be done -/

section

variable {history : List Deed} {f : Forest} {i : Nat}

theorem Consistent.exists_context (h : Consistent history f) (inside : i < made history) :
    ∃ c, f.contexts[i]? = some c := by
  rw [← h.size, tokens, List.length_map] at inside
  exact ⟨_, List.getElem?_eq_getElem inside⟩

theorem Consistent.exists_step (h : Consistent history f) {d : Deed}
    (possible : d.CanFollow history) : ∃ f', f.step d = some f' := by
  cases d with
  | new => exact ⟨_, rfl⟩
  | withToken i | clone i | child i | withDeadline i t | cancel i =>
    obtain ⟨c, found⟩ := h.exists_context possible
    simp [step, found]
  | withTimeout i now timeout =>
    obtain ⟨c, found⟩ := h.exists_context possible.1
    obtain ⟨t, room⟩ := Option.isSome_iff_exists.1 possible.2
    simp [step, found, Context.withTimeout?, room]

theorem exists_after_of_possible (possible : Possible history) : ∃ f, after history = some f := by
  induction history with
  | nil => exact ⟨_, rfl⟩
  | cons d past ih =>
    obtain ⟨f, before⟩ := ih possible.2
    obtain ⟨f', step⟩ := (consistent_after before).exists_step possible.1
    exact ⟨f', Option.bind_eq_some_iff.2 ⟨f, before, step⟩⟩

end

/-! ## When a context has ended -/

section

variable {history : List Deed} {f : Forest} {i : Nat} {c : Context}

/-- A context descends from those that cover it. -/
theorem Consistent.lineage_of_covers (h : Consistent history f) {a : Nat} {s t : Token}
    (ha : f.tokens[a]? = some s) (covers : Covers history a i) (hi : f.tokens[i]? = some t) :
    s.id ∈ t.lineage := by
  induction covers generalizing t with
  | self =>
    cases Option.some.inj (ha.symm.trans hi)
    exact List.mem_cons_self
  | copy _ shares ih =>
    obtain ⟨u, left, right⟩ := h.shared _ _ shares
    cases Option.some.inj (right.symm.trans hi)
    exact ih left
  | original _ shares ih =>
    obtain ⟨u, left, right⟩ := h.shared _ _ shares
    cases Option.some.inj (left.symm.trans hi)
    exact ih right
  | child _ done ih =>
    obtain ⟨u, v, left, right, descends⟩ := h.derived _ _ done
    cases Option.some.inj (right.symm.trans hi)
    exact List.mem_cons_of_mem _ (descends ▸ ih left)

theorem Consistent.isRaised_iff (h : Consistent history f) (found : f.contexts[i]? = some c) :
    f.signals.isRaised c.token = true ↔ Cancelled history i := by
  have held := getElem?_tokens found
  rw [Signals.isRaised_iff]
  constructor
  · rintro ⟨id, above, mem⟩
    obtain ⟨a, s, cancelled, ha, rfl⟩ := h.cancelled id mem
    exact ⟨a, cancelled, h.covered a i s c.token ha held above⟩
  · rintro ⟨a, cancelled, covers⟩
    obtain ⟨s, ha, mem⟩ := h.raised a cancelled
    exact ⟨s.id, h.lineage_of_covers ha covers held, mem⟩

theorem Consistent.isOverdue_iff (h : Consistent history f) (found : f.contexts[i]? = some c)
    (now : Instant) :
    c.isOverdue now = true ↔ ∃ t, IsLeast (deadlines history i) t ∧ t ≤ now := by
  have earliest := h.earliest i c found
  constructor
  · intro passed
    cases deadline : c.deadline with
    | none => simp [Context.isOverdue, deadline] at passed
    | some t =>
      rw [deadline] at earliest
      exact ⟨t, earliest, by simpa [Context.isOverdue, deadline] using passed⟩
  · rintro ⟨t, least, passed⟩
    obtain ⟨u, deadline, -, before⟩ := earliest.exists_least least.1
    have reached : u ≤ now := Nat.le_trans before passed
    simpa [Context.isOverdue, deadline] using reached

theorem Consistent.isSome_failure? (h : Consistent history f) (found : f.contexts[i]? = some c)
    (now : Instant) : (c.failure? f.signals now).isSome ↔
      Cancelled history i ∨ ∃ t ∈ deadlines history i, t ≤ now := by
  have least : (∃ t, IsLeast (deadlines history i) t ∧ t ≤ now) ↔
      ∃ t ∈ deadlines history i, t ≤ now := by
    constructor
    · rintro ⟨t, least, passed⟩
      exact ⟨t, least.1, passed⟩
    · rintro ⟨t, given, passed⟩
      obtain ⟨u, -, least, before⟩ := (h.earliest i c found).exists_least given
      exact ⟨u, least, Nat.le_trans before passed⟩
  rw [Context.isSome_failure?, h.isRaised_iff found, h.isOverdue_iff found, least]

theorem Consistent.lt_made (h : Consistent history f) (found : f.contexts[i]? = some c) :
    i < made history := by
  rw [← h.size]
  exact (List.getElem?_eq_some_iff.1 (getElem?_tokens found)).1

theorem exists_after {later : List Deed} (h : after (later ++ history) = some f) :
    ∃ g, after history = some g := by
  induction later generalizing f with
  | nil => exact ⟨f, h⟩
  | cons d later ih =>
    obtain ⟨g, before, -⟩ := Option.bind_eq_some_iff.1 h
    exact ih before

/-- A context has at most the deadline that its parent had when it was derived from it. -/
theorem Consistent.derived_bounded (h : Consistent history f) (reached : after history = some f)
    (found : f.contexts[i]? = some c) {later past : List Deed} {d : Deed} {p : Nat}
    (split : history = later ++ d :: past) (derives : d = .clone p ∨ d = .child p)
    (own : i = made past) : ∃ g parent, after past = some g ∧ g.contexts[p]? = some parent ∧
      ∀ t, parent.deadline = some t → ∃ u, c.deadline = some u ∧ u ≤ t := by
  subst split own
  obtain ⟨g', then'⟩ := exists_after reached
  obtain ⟨g, before, step⟩ := Option.bind_eq_some_iff.1 then'
  have source : ∃ parent, g.contexts[p]? = some parent := by
    rcases derives with rfl | rfl
    · obtain ⟨parent, held, -⟩ := Option.map_eq_some_iff.1 step
      exact ⟨parent, held⟩
    · obtain ⟨parent, held, -⟩ := Option.map_eq_some_iff.1 step
      exact ⟨parent, held⟩
  obtain ⟨parent, held⟩ := source
  refine ⟨g, parent, before, held, fun t bounded => ?_⟩
  have earliest := (consistent_after before).earliest p parent held
  rw [bounded] at earliest
  have given : Given (d :: past) (made past) t := by
    rcases derives with rfl | rfl
    · exact .clone earliest.1
    · exact .child earliest.1
  obtain ⟨u, deadline, -, le⟩ := (h.earliest _ c found).exists_least given.append
  exact ⟨u, deadline, le⟩

theorem le_made_append {later : List Deed} : made history ≤ made (later ++ history) := by
  induction later with
  | nil => exact Nat.le_refl _
  | cons d later ih => exact Nat.le_trans ih le_made_cons

/-- What has ended a context does so at any later time. -/
theorem Consistent.stays_ended (h : Consistent history f) (found : f.contexts[i]? = some c)
    {later : List Deed} {g : Forest} {now now' : Instant}
    (reached : after (later ++ history) = some g) (passes : now ≤ now')
    (ended : (c.failure? f.signals now).isSome) :
    ∃ b, g.contexts[i]? = some b ∧ (b.failure? g.signals now').isSome := by
  have h' := consistent_after reached
  obtain ⟨b, held⟩ := h'.exists_context (Nat.lt_of_lt_of_le (h.lt_made found) le_made_append)
  refine ⟨b, held, (h'.isSome_failure? held now').2 ?_⟩
  rcases (h.isSome_failure? found now).1 ended with cancelled | ⟨t, given, passed⟩
  · exact .inl cancelled.append
  · exact .inr ⟨t, given.append, Nat.le_trans passed passes⟩

end

end Forest

/-- What holds of context `i` after a history. -/
structure Context.Follows (c : Context) (history : List Deed) (f : Forest) (i : Nat) : Prop where
  deadline : IsEarliest (deadlines history i) c.deadline
  /-- A context does not outlive the deadline that `parent` had when it was derived from it. -/
  derived : ∀ later d past p, history = later ++ d :: past → d = .clone p ∨ d = .child p →
    i = made past → ∃ g parent, Forest.after past = some g ∧ g.contexts[p]? = some parent ∧
      ∀ t, parent.deadline = some t → ∃ u, c.deadline = some u ∧ u ≤ t
  cancelled : ∀ now, c.failure? f.signals now = some .cancelled ↔ Cancelled history i
  overdue : ∀ now, c.failure? f.signals now = some .deadlineExceeded ↔
    ¬ Cancelled history i ∧ ∃ t, IsLeast (deadlines history i) t ∧ t ≤ now
  errors : ∀ now e, c.failure? f.signals now = some e → e = .cancelled ∨ e = .deadlineExceeded
  /-- A context that has ended stays so, whatever is done and however much time passes. -/
  lasting : ∀ later g now now', Forest.after (later ++ history) = some g → now ≤ now' →
    (c.failure? f.signals now).isSome →
      ∃ b, g.contexts[i]? = some b ∧ (b.failure? g.signals now').isSome
  /-- Under a context that has ended, nothing is begun. -/
  run : ∀ {α : Type} (x : Act α) limits w e, w.signals = f.signals →
    c.failure? f.signals w.now = some e → Act.under c x limits w = (.failed e, w)

/-- After deeds that can be done, every context that they made is what the deeds say. -/
theorem context_follows {history : List Deed} {i : Nat} (possible : Possible history)
    (inside : i < made history) : ∃ f c, Forest.after history = some f ∧
      f.contexts[i]? = some c ∧ c.Follows history f i := by
  obtain ⟨f, reached⟩ := Forest.exists_after_of_possible possible
  have h := Forest.consistent_after reached
  obtain ⟨c, found⟩ := h.exists_context inside
  refine ⟨f, c, reached, found, ?_⟩
  exact
    { deadline := h.earliest i c found
      derived := fun _ _ _ _ split derives own => h.derived_bounded reached found split derives own
      cancelled := fun now => by
        rw [Context.failure?_eq_some, h.isRaised_iff found]
        simp
      overdue := fun now => by
        rw [Context.failure?_eq_some, h.isRaised_iff found, h.isOverdue_iff found]
        simp
      errors := fun now e failure => by
        rcases Context.failure?_eq_some.1 failure with ⟨-, same⟩ | ⟨-, -, same⟩
        · exact .inl same.symm
        · exact .inr same.symm
      lasting := fun _ _ _ _ later passes ended => h.stays_ended found later passes ended
      run := fun x limits w e same ended => Act.under_ended x limits (same ▸ ended) }

/-- A child is given a later deadline than the one that its parent has from a timeout, and is
cancelled with its parent. -/
theorem child_follows :
    let history : List Deed := [.cancel 0, .withDeadline 1 ⟨7⟩, .child 0,
      .withTimeout 0 ⟨2⟩ (.ofNanos 3), .new]
    Possible history ∧ 1 < made history ∧ ∃ f c, Forest.after history = some f ∧
      f.contexts[1]? = some c ∧ c.Follows history f 1 :=
  ⟨by decide, by decide, context_follows (by decide) (by decide)⟩

end Outbox
