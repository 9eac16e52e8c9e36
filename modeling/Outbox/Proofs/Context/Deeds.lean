import Mathlib.Order.Bounds.Basic
import Outbox.Context

/-!
# Outbox.Proofs.Context.Deeds — what is done with contexts

Contexts are made of each other, given deadlines and cancelled. What counts for one of them is
said here by the deeds alone: contexts that are made of each other share a token or have one that
descends from the other's, and a derived context has a copy of the deadline at that time.

* `Deed`, `Forest.after` — what is done with contexts, and what they are then.
* `Deed.Possible` — which deeds can be done at all.
* `Deed.Covers`, `Deed.Cancelled` — which contexts end when one is cancelled.
* `Deed.Given`, `Deed.deadlines` — which deadlines count for a context.

A history is a list of deeds, the latest of which comes first.
-/

namespace Outbox

/-! ## Deeds -/

/-- What is done with contexts, which are told apart by the order in which they were made. -/
inductive Deed where
  | new
  /-- A context is made of the token of one. A token that is no context's is taken to be that of
  one that has no deadline. -/
  | withToken (i : Nat)
  | clone (i : Nat)
  | child (i : Nat)
  | withDeadline (i : Nat) (deadline : Instant)
  /-- The clock shows `now`. -/
  | withTimeout (i : Nat) (now : Instant) (timeout : Duration)
  | cancel (i : Nat)
deriving DecidableEq

namespace Deed

/-- The deadline that a deed gives, and to which context. -/
def gives? : Deed → Option (Nat × Instant)
  | withDeadline i deadline => some (i, deadline)
  | withTimeout i now timeout => (now.after? timeout).map (i, ·)
  | _ => none

end Deed

/-- The tokens that were handed out, and the contexts that were made. -/
structure Forest where
  signals : Signals
  contexts : List Context
deriving DecidableEq

namespace Forest

/-- A deed, unless there is no such context or the clock has no room for a deadline. -/
def step (f : Forest) : Deed → Option Forest
  | .new =>
    let (c, signals) := Context.make f.signals
    some ⟨signals, f.contexts ++ [c]⟩
  | .withToken i =>
    f.contexts[i]?.map fun c => { f with contexts := f.contexts ++ [.ofToken c.token] }
  | .clone i => f.contexts[i]?.map fun c => { f with contexts := f.contexts ++ [c] }
  | .child i => f.contexts[i]?.map fun c =>
    let (derived, signals) := c.child f.signals
    ⟨signals, f.contexts ++ [derived]⟩
  | .withDeadline i deadline => f.contexts[i]?.map fun c =>
    { f with contexts := f.contexts.set i (c.withDeadline deadline) }
  | .withTimeout i now timeout => f.contexts[i]?.bind fun c =>
    (c.withTimeout? now timeout).map fun c => { f with contexts := f.contexts.set i c }
  | .cancel i => f.contexts[i]?.map fun c => { f with signals := c.cancel f.signals }

/-- What there is after deeds. -/
def after : List Deed → Option Forest
  | [] => some ⟨.empty, []⟩
  | d :: past => (after past).bind fun f => f.step d

/-- The tokens of the contexts. -/
def tokens (f : Forest) : List Token := f.contexts.map Context.token

end Forest

/-! ## What a history says -/

namespace Deed

/-- The number of contexts that deeds made. -/
def made : List Deed → Nat
  | [] => 0
  | .new :: past => made past + 1
  | .withToken _ :: past => made past + 1
  | .clone _ :: past => made past + 1
  | .child _ :: past => made past + 1
  | _ :: past => made past

/-- A deed can be done after others: the context has been made by then, and the clock has room
for the deadline. -/
def CanFollow (past : List Deed) : Deed → Prop
  | .new => True
  | .withToken i | .clone i | .child i | .withDeadline i _ | .cancel i => i < made past
  | .withTimeout i now timeout => i < made past ∧ (now.after? timeout).isSome

instance decidableCanFollow (past : List Deed) : (d : Deed) → Decidable (d.CanFollow past)
  | .new => .isTrue trivial
  | .withToken i | .clone i | .child i | .withDeadline i _ | .cancel i =>
    inferInstanceAs (Decidable (i < made past))
  | .withTimeout i now timeout =>
    inferInstanceAs (Decidable (i < made past ∧ (now.after? timeout).isSome))

/-- All deeds of a history can be done. -/
def Possible : List Deed → Prop
  | [] => True
  | d :: past => d.CanFollow past ∧ Possible past

instance decidablePossible : (history : List Deed) → Decidable (Possible history)
  | [] => .isTrue trivial
  | d :: past =>
    have := decidablePossible past
    inferInstanceAs (Decidable (d.CanFollow past ∧ Possible past))

/-- A deed was done when there were `n` contexts, which is the number of a context it made. -/
inductive Done : List Deed → Nat → Deed → Prop
  | last {past d} : Done (d :: past) (made past) d
  | earlier {past n d e} : Done past n d → Done (e :: past) n d

/-- Context `j` was made with the very token of context `i`. -/
def Shares (history : List Deed) (i j : Nat) : Prop :=
  Done history j (.clone i) ∨ Done history j (.withToken i)

/-- Cancelling context `a` ends another one: itself, those that share its token, and all that
descend from one of these. -/
inductive Covers (history : List Deed) (a : Nat) : Nat → Prop
  | self : Covers history a a
  | copy {i j} : Covers history a i → Shares history i j → Covers history a j
  | original {i j} : Covers history a j → Shares history i j → Covers history a i
  | child {i j} : Covers history a i → Done history j (.child i) → Covers history a j

/-- A context was cancelled, or one with the same token, or one that it descends from. -/
def Cancelled (history : List Deed) (i : Nat) : Prop :=
  ∃ a, .cancel a ∈ history ∧ Covers history a i

/-- A deadline counts for a context: it was given to it, or it counted for the one that it was
derived from when it was. -/
inductive Given : List Deed → Nat → Instant → Prop
  | given {past e i t} : e.gives? = some (i, t) → Given (e :: past) i t
  | clone {past i t} : Given past i t → Given (.clone i :: past) (made past) t
  | child {past i t} : Given past i t → Given (.child i :: past) (made past) t
  | earlier {past e i t} : Given past i t → Given (e :: past) i t

/-- The deadlines that count for a context. -/
def deadlines (history : List Deed) (i : Nat) : Set Instant := {t | Given history i t}

/-- The least of a set of instants, none if there are none. -/
def IsEarliest (s : Set Instant) : Option Instant → Prop
  | none => s = ∅
  | some t => IsLeast s t

section

variable {past more : List Deed} {d e : Deed} {a b i j n : Nat} {t : Instant}

theorem Shares.earlier (h : Shares past i j) : Shares (e :: past) i j :=
  h.imp Done.earlier Done.earlier

theorem Covers.earlier (h : Covers past a i) : Covers (e :: past) a i := by
  induction h with
  | self => exact .self
  | copy _ shares ih => exact .copy ih shares.earlier
  | original _ shares ih => exact .original ih shares.earlier
  | child _ derived ih => exact .child ih derived.earlier

theorem Covers.trans (first : Covers past a b) (second : Covers past b i) : Covers past a i := by
  induction second with
  | self => exact first
  | copy _ shares ih => exact .copy ih shares
  | original _ shares ih => exact .original ih shares
  | child _ derived ih => exact .child ih derived

theorem Cancelled.append (h : Cancelled past i) : Cancelled (more ++ past) i := by
  induction more with
  | nil => exact h
  | cons e more ih =>
    obtain ⟨a, cancelled, covers⟩ := ih
    exact ⟨a, List.mem_cons_of_mem e cancelled, covers.earlier⟩

theorem made_of_gives (h : d.gives? = some (i, t)) : made (d :: past) = made past := by
  cases d with
  | withDeadline => rfl
  | withTimeout => rfl
  | _ => cases h

theorem le_made_cons : made past ≤ made (d :: past) := by
  cases d with
  | withDeadline | withTimeout | cancel => exact Nat.le_refl _
  | _ => exact Nat.le_succ _

theorem Given.append (h : Given past i t) : Given (more ++ past) i t := by
  induction more with
  | nil => exact h
  | cons e more ih => exact .earlier ih

end

/-! ## Deadlines -/

section

variable {past : List Deed} {d : Deed} {i k : Nat} {t : Instant}

theorem deadlines_of_lt (inside : k < made past) (none : ∀ t, d.gives? ≠ some (k, t)) :
    deadlines (d :: past) k = deadlines past k := by
  ext t
  refine ⟨fun given => ?_, .earlier⟩
  cases given with
  | given gives => exact absurd gives (none t)
  | clone => exact absurd inside (Nat.lt_irrefl _)
  | child => exact absurd inside (Nat.lt_irrefl _)
  | earlier given => exact given

/-- A context begins with the deadlines of the one it is derived from. -/
theorem deadlines_of_derived (inside : ∀ k t, Given past k t → k < made past)
    (derived : d = .clone i ∨ d = .child i) :
    deadlines (d :: past) (made past) = deadlines past i := by
  ext t
  constructor
  · intro given
    cases given with
    | given gives => rcases derived with rfl | rfl <;> cases gives
    | clone given =>
      rcases derived with same | same <;> cases same
      exact given
    | child given =>
      rcases derived with same | same <;> cases same
      exact given
    | earlier given => exact absurd (inside _ _ given) (Nat.lt_irrefl _)
  · intro given
    rcases derived with rfl | rfl
    · exact .clone given
    · exact .child given

/-- A context that is not derived from one begins with no deadline. -/
theorem deadlines_of_new (inside : ∀ k t, Given past k t → k < made past)
    (new : d = .new ∨ ∃ i, d = .withToken i) : deadlines (d :: past) (made past) = ∅ := by
  refine Set.eq_empty_iff_forall_notMem.2 fun t given => ?_
  cases given with
  | given gives => rcases new with rfl | ⟨i, rfl⟩ <;> cases gives
  | clone => rcases new with new | ⟨i, new⟩ <;> cases new
  | child => rcases new with new | ⟨i, new⟩ <;> cases new
  | earlier given => exact absurd (inside _ _ given) (Nat.lt_irrefl _)

theorem deadlines_of_gives (gives : d.gives? = some (i, t)) :
    deadlines (d :: past) i = insert t (deadlines past i) := by
  ext u
  constructor
  · intro given
    cases given with
    | given own => exact .inl (congrArg Prod.snd (Option.some.inj (own.symm.trans gives)))
    | clone => cases gives
    | child => cases gives
    | earlier given => exact .inr given
  · rintro (rfl | given)
    · exact .given gives
    · exact .earlier given

theorem IsEarliest.exists_least {s : Set Instant} {deadline : Option Instant}
    (h : IsEarliest s deadline) (mem : t ∈ s) : ∃ u, deadline = some u ∧ IsLeast s u ∧ u ≤ t := by
  cases deadline with
  | none => exact absurd mem (h ▸ Set.notMem_empty t)
  | some u => exact ⟨u, rfl, h, h.2 mem⟩

theorem isEarliest_withDeadline {s : Set Instant} {c : Context} (h : IsEarliest s c.deadline)
    (t : Instant) : IsEarliest (insert t s) (c.withDeadline t).deadline := by
  cases current : c.deadline with
  | none =>
    have bounded : (c.withDeadline t).deadline = some t := by simp [Context.withDeadline, current]
    rw [current] at h
    rw [bounded]
    refine ⟨Set.mem_insert t s, ?_⟩
    rintro u (rfl | mem)
    · exact Nat.le_refl _
    · exact absurd (h ▸ mem) (Set.notMem_empty u)
  | some u =>
    have bounded : (c.withDeadline t).deadline = some (if u < t then u else t) := by
      simp [Context.withDeadline, current]
    rw [current] at h
    rw [bounded]
    obtain ⟨mem, least⟩ := h
    by_cases earlier : u < t
    · rw [if_pos earlier]
      refine ⟨Set.mem_insert_of_mem t mem, ?_⟩
      rintro v (rfl | mem)
      · exact Nat.le_of_lt earlier
      · exact least mem
    · rw [if_neg earlier]
      refine ⟨Set.mem_insert t s, ?_⟩
      rintro v (rfl | mem)
      · exact Nat.le_refl _
      · exact Nat.le_trans (Nat.le_of_not_lt earlier) (least mem)

end

end Deed

end Outbox
