import Mathlib.Algebra.BigOperators.Group.Finset.Basic
import Mathlib.Algebra.Order.BigOperators.Group.Finset
import Mathlib.Tactic.Abel
import Outbox.Proofs.Pool.System

/-!
# Outbox.Proofs.Pool.Accounts — what a pool keeps account of

The invariant `Sound` is about all callers at once: nothing is stored or held twice, and the
number of connections in use is the sum of what everybody counts. As a step changes the
hands of one caller only, that it is kept follows from `Moves` (`Sound.step`).

* `existsUnique_at` — a connection that was made is at exactly one place.
* `reachable_account` — the account of a pool in every state that can be reached.
-/

namespace Outbox.Pool

variable {ι C : Type}

/-! ## The invariant -/

variable [Fintype ι] {p : Pool} {f : Fittings} {s s' : System ι C}

/-- All connections that are stored or in somebody's hands. -/
def System.everywhere (s : System ι C) : Multiset C :=
  connections s.stock.idle + ∑ i, (s.callers i).hands

/-- The accounts of a pool are in order. -/
structure Sound (p : Pool) (s : System ι C) : Prop where
  room : s.stock.idle.length ≤ p.maxIdle
  ordered : Ordered s.now s.stock.idle
  nodup : s.everywhere.Nodup
  made : ∀ c ∈ s.everywhere, c ∈ s.made
  inUse : s.stock.inUse = ∑ i, (s.callers i).checkedOut.length

theorem sound_initial (p : Pool) (now : Instant) : Sound p (System.initial now : System ι C) where
  room := Nat.zero_le _
  ordered := ⟨.nil, by simp [System.initial, Stock.empty]⟩
  nodup := by simp [System.everywhere, System.initial, Stock.empty]
  made := by simp [System.everywhere, System.initial, Stock.empty]
  inUse := by simp [System.initial, Stock.empty]

/-! ## Places -/

/-- Where a connection can be. -/
inductive Place (ι : Type) where
  /-- In the stock. -/
  | idle
  /-- In somebody's hands. -/
  | inHands (i : ι) (reason : Reason)
  /-- Closed, or given up. -/
  | gone

/-- Whether a connection is at a place. -/
def System.At (s : System ι C) (c : C) : Place ι → Prop
  | .idle => c ∈ connections s.stock.idle
  | .inHands i reason => c ∈ (s.callers i).has reason
  | .gone => c ∈ s.made ∧ c ∉ s.everywhere

theorem mem_everywhere {c : C} :
    c ∈ s.everywhere ↔ c ∈ connections s.stock.idle ∨ ∃ i, c ∈ (s.callers i).hands := by
  simp [System.everywhere, Multiset.mem_sum]

theorem mem_hands {a : Caller C} {c : C} : c ∈ a.hands ↔ ∃ reason, c ∈ a.has reason := by
  constructor
  · intro h
    simp only [Caller.hands, Multiset.mem_add, Multiset.mem_coe] at h
    rcases h with (h | h) | h
    · exact ⟨_, h⟩
    · exact ⟨_, h⟩
    · exact ⟨_, h⟩
  · rintro ⟨reason, h⟩
    cases reason <;> simp_all [Caller.hands]

/-- Nobody has a connection for two reasons. -/
theorem eq_of_mem_has {a : Caller C} {c c' : C} {reason reason' : Reason} (h : c ∈ a.has reason)
    (h' : c' ∈ a.has reason') : reason = reason' := by
  cases a with
  | resting => simp at h
  | holding d => cases reason <;> cases reason' <;> simp_all
  | calling call => cases call <;> cases reason <;> cases reason' <;> simp_all

/-- Nothing is in two hands. -/
theorem hands_disjoint (h : s.everywhere.Nodup) {i j : ι} (hne : i ≠ j) :
    Disjoint (s.callers i).hands (s.callers j).hands := by
  have two : (s.callers i).hands + (s.callers j).hands ≤ s.everywhere :=
    (Finset.add_le_sum (f := fun i => (s.callers i).hands) (fun _ _ => Multiset.zero_le _)
      (Finset.mem_univ i) (Finset.mem_univ j) hne).trans (Multiset.le_add_left _ _)
  exact (Multiset.nodup_add.1 (Multiset.nodup_of_le two h)).2.2

/-- Nothing that is stored is in somebody's hands. -/
theorem idle_disjoint (h : s.everywhere.Nodup) (i : ι) :
    Disjoint (connections s.stock.idle) (s.callers i).hands := by
  have two : connections s.stock.idle + (s.callers i).hands ≤ s.everywhere :=
    Multiset.add_le_add_left (Finset.single_le_sum (f := fun i => (s.callers i).hands)
      (fun _ _ => Multiset.zero_le _) (Finset.mem_univ i))
  exact (Multiset.nodup_add.1 (Multiset.nodup_of_le two h)).2.2

/-- A connection that was made is at exactly one place. -/
theorem existsUnique_at (h : Sound p s) {c : C} (made : c ∈ s.made) : ∃! place, s.At c place := by
  by_cases there : c ∈ s.everywhere
  · -- It cannot be at two places, as everything is there only once.
    have inHands : ∀ {i reason}, s.At c (.inHands i reason) → c ∈ (s.callers i).hands :=
      fun h => mem_hands.2 ⟨_, h⟩
    rcases mem_everywhere.1 there with stored | ⟨i, held⟩
    · refine ⟨.idle, stored, ?_⟩
      rintro (_ | ⟨j, reason⟩ | _) isAt
      · rfl
      · exact absurd (inHands isAt) (Multiset.disjoint_left.1 (idle_disjoint h.nodup j) stored)
      · exact absurd there isAt.2
    · obtain ⟨reason, has⟩ := mem_hands.1 held
      refine ⟨.inHands i reason, has, ?_⟩
      rintro (_ | ⟨j, reason'⟩ | _) isAt
      · exact absurd held (Multiset.disjoint_left.1 (idle_disjoint h.nodup i) isAt)
      · by_cases hne : j = i
        · subst hne
          rw [eq_of_mem_has isAt has]
        · exact absurd (inHands isAt) (Multiset.disjoint_left.1 (hands_disjoint h.nodup (Ne.symm hne)) held)
      · exact absurd there isAt.2
  · refine ⟨.gone, ⟨made, there⟩, ?_⟩
    rintro (_ | ⟨j, reason⟩ | _) isAt
    · exact absurd (mem_everywhere.2 (.inl isAt)) there
    · exact absurd (mem_everywhere.2 (.inr ⟨j, mem_hands.2 ⟨_, isAt⟩⟩)) there
    · rfl

theorem has_le_hands (a : Caller C) (reason : Reason) : (a.has reason : Multiset C) ≤ a.hands := by
  rw [Caller.hands]
  cases reason with
  | acquiring => exact (Multiset.le_add_right _ _).trans (Multiset.le_add_right _ _)
  | checkedOut => exact (Multiset.le_add_left _ _).trans (Multiset.le_add_right _ _)
  | closing => exact Multiset.le_add_left _ _

theorem hands_le_everywhere (s : System ι C) (i : ι) : (s.callers i).hands ≤ s.everywhere :=
  (Finset.single_le_sum (f := fun i => (s.callers i).hands) (fun _ _ => Multiset.zero_le _)
    (Finset.mem_univ i)).trans (Multiset.le_add_left _ _)

theorem Sound.counted (h : Sound p s) (i : ι) :
    (s.callers i).checkedOut.length ≤ s.stock.inUse := by
  rw [h.inUse]
  exact Finset.single_le_sum (f := fun j => (s.callers j).checkedOut.length)
    (fun _ _ => Nat.zero_le _) (Finset.mem_univ i)

/-- The account of a pool at one time. -/
structure Account (maxIdle : Nat) (s : System ι C) : Prop where
  idle_le : s.stock.idle.length ≤ maxIdle
  /-- A connection that was made is at exactly one place, -/
  one_place : ∀ c ∈ s.made, ∃! place, s.At c place
  /-- and there it is only once, -/
  once : (connections s.stock.idle).Nodup ∧ ∀ i reason, ((s.callers i).has reason).Nodup
  /-- and nothing else is anywhere. -/
  no_other : ∀ c place, s.At c place → c ∈ s.made
  ordered : s.stock.idle.Pairwise fun later earlier => earlier.since ≤ later.since
  inUse_eq : s.stock.inUse = ∑ i, (s.callers i).checkedOut.length
  /-- Whoever is going to take one off the count finds one counted. -/
  inUse_pos : ∀ i, (s.callers i).checkedOut ≠ [] → 0 < s.stock.inUse

theorem Sound.account (h : Sound p s) : Account p.maxIdle s where
  idle_le := h.room
  one_place := fun c made => existsUnique_at h made
  once := by
    refine ⟨Multiset.nodup_of_le (Multiset.le_add_right _ _) h.nodup, fun i reason => ?_⟩
    have le : ((s.callers i).has reason : Multiset C) ≤ s.everywhere :=
      (has_le_hands _ reason).trans (hands_le_everywhere s i)
    exact Multiset.coe_nodup.1 (Multiset.nodup_of_le le h.nodup)
  no_other := by
    rintro c (_ | ⟨i, reason⟩ | _) isAt
    · exact h.made c (mem_everywhere.2 (.inl isAt))
    · exact h.made c (mem_everywhere.2 (.inr ⟨i, mem_hands.2 ⟨reason, isAt⟩⟩))
    · exact isAt.1
  ordered := h.ordered.sorted
  inUse_eq := h.inUse
  inUse_pos := by
    intro i has
    exact (List.length_pos_of_ne_nil has).trans_le (h.counted i)

/-! ## Steps -/

variable [DecidableEq ι]

/-- A sum over all callers changes with the one who moves. -/
theorem sum_update {M : Type} [AddCommMonoid M] (g : Caller C → M) (callers : ι → Caller C) (i : ι)
    (a : Caller C) :
    ∑ j, g (Function.update callers i a j) + g (callers i) = ∑ j, g (callers j) + g a := by
  rw [← Finset.add_sum_erase _ _ (Finset.mem_univ i), ← Finset.add_sum_erase _ _ (Finset.mem_univ i)]
  have others : ∑ j ∈ Finset.univ.erase i, g (Function.update callers i a j) =
      ∑ j ∈ Finset.univ.erase i, g (callers j) := by
    refine Finset.sum_congr rfl fun j hj => ?_
    rw [Function.update_of_ne (Finset.ne_of_mem_erase hj)]
  rw [others, Function.update_self]
  abel

/-- After a move there is nothing anywhere that was not there before or was made in it. -/
theorem everywhere_move {i : ι} {fresh : List C} {stock' : Stock C} {a' : Caller C}
    (moves : Moves p s.now fresh s.stock stock' (s.callers i) a') :
    (s.moved i fresh stock' a').everywhere ≤ fresh + s.everywhere := by
  have hands := moves.hands
  have sum := sum_update Caller.hands s.callers i a'
  -- Compared with what the one who moved has had in hand, both sides grow by the same.
  refine (add_le_add_iff_right (s.callers i).hands).1 ?_
  calc connections stock'.idle + ∑ j, (Function.update s.callers i a' j).hands + (s.callers i).hands
    _ = connections stock'.idle + a'.hands + ∑ j, (s.callers j).hands := by
      rw [add_assoc, sum]
      abel
    _ ≤ fresh + (connections s.stock.idle + (s.callers i).hands) + ∑ j, (s.callers j).hands :=
      Multiset.add_le_add_right hands
    _ = fresh + s.everywhere + (s.callers i).hands := by
      rw [System.everywhere]
      abel

/-- A move of one caller keeps the accounts in order. -/
theorem Sound.move (h : Sound p s) {i : ι} {fresh : List C} {stock' : Stock C} {a' : Caller C}
    (moves : Moves p s.now fresh s.stock stock' (s.callers i) a') (nodup : fresh.Nodup)
    (new : ∀ c ∈ fresh, c ∉ s.made) :
    Sound p (s.moved i fresh stock' a') where
  room := moves.room h.room
  ordered := moves.ordered h.ordered
  nodup := by
    have both : ((fresh : Multiset C) + s.everywhere).Nodup := by
      rw [Multiset.nodup_add]
      refine ⟨nodup, h.nodup, ?_⟩
      rw [Multiset.disjoint_left]
      intro c isFresh isThere
      exact new c isFresh (h.made c isThere)
    exact Multiset.nodup_of_le (everywhere_move moves) both
  made := by
    intro c isThere
    rcases Multiset.mem_add.1 (Multiset.mem_of_le (everywhere_move moves) isThere) with h' | h'
    · exact List.mem_append.2 (.inl h')
    · exact List.mem_append.2 (.inr (h.made c h'))
  inUse := by
    -- The count and the sum change by what the one who moves counts.
    have change := moves.inUse (h.counted i)
    have sum := sum_update (fun a => a.checkedOut.length) s.callers i a'
    have before := h.inUse
    show stock'.inUse = ∑ j, (Function.update s.callers i a' j).checkedOut.length
    omega

/-- Every step keeps the accounts in order. -/
theorem Sound.step (h : Sound p s) (step : Step p f s s') : Sound p s' := by
  obtain ⟨time, later, rfl⟩ | ⟨i, fresh, stock', a', rfl, moves, nodup, new⟩ := step_cases step
  · exact { h with ordered := h.ordered.later later }
  · exact h.move moves nodup new

theorem Reachable.sound (h : Reachable p f s) : Sound p s := by
  obtain ⟨now, steps⟩ := h
  -- By induction on the steps.
  induction steps with
  | refl => exact sound_initial p now
  | tail _ step ih => exact ih.step step

/-- What is gone does not come back. -/
theorem gone_step {c : C} (gone : s.At c .gone) (step : Step p f s s') : s'.At c .gone := by
  obtain ⟨time, later, rfl⟩ | ⟨i, fresh, stock', a', rfl, moves, nodup, new⟩ := step_cases step
  · exact gone
  · refine ⟨List.mem_append.2 (.inr gone.1), fun there => ?_⟩
    rcases Multiset.mem_add.1 (Multiset.mem_of_le (everywhere_move moves) there) with made | there
    · exact new c made gone.1
    · exact gone.2 there

/-! ## Accounts of running pools -/

/-- The functions of a pool, carried out in turns, make the moves of its calls. Of acquiring a
connection, which may take any number of looks, as many as one likes are written down. -/
structure Carried (C : Type) (p : Pool) (f : Fittings) : Prop where
  look : ∀ n, Follows p f afterLook (.calling .taking) (p.look (f.keeper (C := C) n))
  acquire : ∀ n, Follows p f afterAcquire (.calling .taking) (p.acquire (f.keeper (C := C) n))
  release : ∀ n (c : C),
    Follows p f afterwards (.calling (.returning c)) (p.release (f.keeper n) c)
  discard : ∀ n (c : C),
    Follows p f afterwards (.calling (.dropping c)) (discard (f.keeper (C := C) n))
  drain : ∀ n, Follows p f afterwards (.calling .emptying) (drain (f.keeper (C := C) n))

/-- However many callers use a pool at the same time, and whatever becomes of making, probing
and closing connections, its account is right at all times, and no connection comes back that
is gone. -/
theorem reachable_account (maxIdle : Nat) (idleTtl : Duration) (f : Fittings) :
    Carried C (.make maxIdle idleTtl) f ∧
    ∀ s : System ι C, Reachable (.make maxIdle idleTtl) f s →
      Account (if maxIdle = 0 then 2 else maxIdle) s ∧
      ∀ s' c, Step (.make maxIdle idleTtl) f s s' → s.At c .gone → s'.At c .gone := by
  constructor
  · exact ⟨follows_look _ f, follows_acquire _ f, follows_release _ f, follows_discard _ f,
      follows_drain _ f⟩
  · intro s reachable
    refine ⟨reachable.sound.account, ?_⟩
    intro s' c step gone
    exact gone_step gone step

/-- Two callers, `a` and `b`, at the start of the clock. -/
def pair (stock : Stock Nat) (a b : Caller Nat) (made : List Nat) : System Bool Nat :=
  ⟨.start, stock, fun i => if i then b else a, made⟩

theorem moved_first (stock stock' : Stock Nat) (a a' b : Caller Nat) (made fresh : List Nat) :
    (pair stock a b made).moved false fresh stock' a' = pair stock' a' b (fresh ++ made) := by
  simp only [pair, System.moved, System.mk.injEq, true_and, and_true]
  funext i
  cases i <;> rfl

theorem moved_second (stock stock' : Stock Nat) (a b b' : Caller Nat) (made fresh : List Nat) :
    (pair stock a b made).moved true fresh stock' b' = pair stock' a b' (fresh ++ made) := by
  simp only [pair, System.moved, System.mk.injEq, true_and, and_true]
  funext i
  cases i <;> rfl

/-- One caller is putting back a connection while another one is made for the other. -/
theorem reachable_account_pair :
    let s := pair ⟨[], 1⟩ (.calling (.returning 0)) (.calling .creating) [0]
    Reachable (.make 1 .zero) ⟨true, true, true⟩ s ∧ s.At 0 (.inHands false .checkedOut) ∧
      0 < s.stock.inUse ∧ Account 1 s := by
  let after := Relation.ReflTransGen
    (Step (ι := Bool) (C := Nat) (.make 1 .zero) ⟨true, true, true⟩) (System.initial .start)
  have start : after (pair ⟨[], 0⟩ .resting .resting []) := by
    have same : System.initial .start = pair ⟨[], 0⟩ .resting .resting [] := by
      simp [System.initial, pair, Stock.empty]
    rw [← same]
  have taking : after (pair ⟨[], 0⟩ (.calling .taking) .resting []) := by
    have step := start.tail (.start false .taking .acquire)
    rwa [moved_first] at step
  have creating : after (pair ⟨[], 0⟩ (.calling .creating) .resting []) := by
    have step := taking.tail (.turn false .taking (.start, ⟨[], 0⟩) rfl rfl)
    rwa [moved_first] at step
  have counting : after (pair ⟨[], 0⟩ (.calling (.counting 0)) .resting [0]) := by
    have step := creating.tail (.turn false .creating (.ok (0 : Nat)) rfl List.not_mem_nil)
    rwa [moved_first] at step
  have holding : after (pair ⟨[], 1⟩ (.holding 0) .resting [0]) := by
    have step := counting.tail (.turn false (.counting 0) (.start, ⟨[], 0⟩) rfl rfl)
    rwa [moved_first] at step
  have returning : after (pair ⟨[], 1⟩ (.calling (.returning 0)) .resting [0]) := by
    have step := holding.tail (.start false (.returning 0) (.release 0))
    rwa [moved_first] at step
  have joined : after (pair ⟨[], 1⟩ (.calling (.returning 0)) (.calling .taking) [0]) := by
    have step := returning.tail (.start true .taking .acquire)
    rwa [moved_second] at step
  have both : after (pair ⟨[], 1⟩ (.calling (.returning 0)) (.calling .creating) [0]) := by
    have step := joined.tail (.turn true .taking (.start, ⟨[], 1⟩) rfl rfl)
    rwa [moved_second] at step
  have account := ((reachable_account 1 .zero ⟨true, true, true⟩).2 _ ⟨.start, both⟩).1
  have atHands : (pair ⟨[], 1⟩ (.calling (.returning 0)) (.calling .creating) [0]).At 0
      (.inHands false .checkedOut) := by
    simp [System.At, pair]
  exact ⟨⟨.start, both⟩, atHands, account.inUse_pos false (by simp [pair]), account⟩

end Outbox.Pool
