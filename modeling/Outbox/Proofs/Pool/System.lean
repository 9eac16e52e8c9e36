import Mathlib.Algebra.Order.BigOperators.Group.Finset
import Mathlib.Algebra.Order.Group.Multiset
import Mathlib.Logic.Relation
import Outbox.Proofs.Pool.Calls

/-!
# Outbox.Proofs.Pool.System — a pool and all who use it

Any number of callers use a pool at the same time. A `System` is the pool together with all of
them, and in a `Step` one caller makes one turn, begins a call, or is abandoned while it
waits. A caller acquires one connection at a time; whoever wants several is several callers.

What a single move does to the stock and to the hands of the caller who makes it is said
once, in `Moves`, with one lemma for each move that changes the stock. `step_cases` says that
every step is such a move or lets time pass.
-/

namespace Outbox.Pool

variable {ι C : Type}

/-! ## Hands -/

/-- Why somebody has a connection in their hands. -/
inductive Reason where
  /-- They are going to hand it out, or have not decided about it. -/
  | acquiring
  /-- It was handed out and is not yet taken back. -/
  | checkedOut
  /-- They are closing it. -/
  | closing

namespace Call

/-- The connections that a call has in its hands for a reason. -/
@[simp] def has (reason : Reason) (call : Call C) : List C :=
  match reason, call with
  | .acquiring, dating item => [item.connection]
  | .acquiring, probing c | .acquiring, counting c => [c]
  | .checkedOut, returning c | .checkedOut, dropping c => [c]
  | .closing, retiring c | .closing, rejecting c => [c]
  | .closing, clearing c rest => c :: rest
  | _, _ => []

/-- Whether a call can be abandoned, as it does not have the lock. -/
def isWaiting : Call C → Bool
  | probing _ | retiring _ | creating | rejecting _ | clearing _ _ => true
  | _ => false

end Call

namespace Caller

/-- The connections that somebody has in their hands for a reason. -/
@[simp] def has (reason : Reason) (a : Caller C) : List C :=
  match reason, a with
  | .checkedOut, holding c => [c]
  | _, calling call => call.has reason
  | _, _ => []

/-- All connections that somebody has in their hands. -/
@[simp] def hands (a : Caller C) : Multiset C :=
  a.has .acquiring + a.has .checkedOut + a.has .closing

/-- The connections that count as in use. -/
@[simp] abbrev checkedOut (a : Caller C) : List C := a.has .checkedOut

end Caller

/-! ## Systems -/

/-- A pool and all who use it. -/
structure System (ι C : Type) where
  now : Instant
  stock : Stock C
  callers : ι → Caller C
  /-- Every connection that was ever made. -/
  made : List C

/-- The stock after a move. -/
def Move.stockAfter (move : Move C) (now : Instant) (stock : Stock C) : Stock C :=
  match move with
  | change f => f now stock
  | _ => stock

/-- The connections that were made in a move. -/
def Move.fresh : (move : Move C) → move.Answer → List C
  | create, .ok c => [c]
  | _, _ => []

/-- How a call begins: anybody may acquire a connection or drain the pool, and who has a
connection may release or discard it. -/
inductive Begins : Caller C → Call C → Prop where
  | acquire : Begins .resting .taking
  | drain : Begins .resting .emptying
  | release (c : C) : Begins (.holding c) (.returning c)
  | discard (c : C) : Begins (.holding c) (.dropping c)

namespace System

/-- The system before anything has happened. -/
def initial (now : Instant) : System ι C := ⟨now, .empty, fun _ => .resting, []⟩

/-- What may come of a move. A connection that is made is a new one. -/
def Allows (s : System ι C) : (move : Move C) → move.Answer → Prop
  | .clock, time => time = s.now
  | .change _, seen => seen = (s.now, s.stock)
  | .create, .ok c => c ∉ s.made
  | .create, .error _ => True
  | .close _, _ => True
  | .probe _, _ => True

end System

/-! ## One move -/

/-- The connections of stored items. -/
def connections (idle : List (Shelved C)) : Multiset C := (idle.map (·.connection) : List C)

@[simp] theorem connections_nil : connections ([] : List (Shelved C)) = 0 := rfl

@[simp] theorem connections_cons (item : Shelved C) (rest : List (Shelved C)) :
    connections (item :: rest) = {item.connection} + connections rest := by
  simp [connections]

/-- The one that was returned last is first, and none will be returned in the future. -/
structure Ordered (now : Instant) (idle : List (Shelved C)) : Prop where
  sorted : idle.Pairwise fun a b => b.since ≤ a.since
  past : ∀ item ∈ idle, item.since ≤ now

namespace Ordered

variable {now now' : Instant} {first idle : List (Shelved C)}

theorem nil (now : Instant) : Ordered now ([] : List (Shelved C)) :=
  ⟨.nil, fun _ mem => absurd mem List.not_mem_nil⟩

theorem later (h : Ordered now idle) (le : now ≤ now') : Ordered now' idle :=
  ⟨h.sorted, fun item mem => Nat.le_trans (h.past item mem) le⟩

theorem of_append (h : Ordered now (first ++ idle)) : Ordered now idle :=
  ⟨(List.pairwise_append.1 h.sorted).2.1, fun item mem => h.past item (List.mem_append_right _ mem)⟩

theorem of_cons {item : Shelved C} (h : Ordered now (item :: idle)) : Ordered now idle :=
  ⟨h.sorted.of_cons, fun other mem => h.past other (.tail _ mem)⟩

/-- What is returned now is returned last. -/
theorem cons (h : Ordered now idle) (c : C) : Ordered now (⟨c, now⟩ :: idle) :=
  ⟨List.pairwise_cons.2 ⟨h.past, h.sorted⟩, List.forall_mem_cons.2 ⟨Nat.le_refl now.nanos, h.past⟩⟩

end Ordered

/-- What a move does to the stock and to the hands of the caller: nothing appears that was
not there before or was just made, and who is counted is known. -/
structure Moves (p : Pool) (now : Instant) (fresh : List C) (stock stock' : Stock C)
    (a a' : Caller C) : Prop where
  hands : connections stock'.idle + a'.hands ≤ fresh + (connections stock.idle + a.hands)
  inUse : a.checkedOut.length ≤ stock.inUse →
    stock'.inUse + a.checkedOut.length = stock.inUse + a'.checkedOut.length
  room : stock.idle.length ≤ p.maxIdle → stock'.idle.length ≤ p.maxIdle
  ordered : Ordered now stock.idle → Ordered now stock'.idle

theorem hands_clear (f : Fittings) (items : List C) : (Call.clear f items).hands ≤ items := by
  cases items with
  | nil => simp [Call.clear]
  | cons c rest =>
    rw [Call.clear]
    split <;> simp

theorem checkedOut_clear (f : Fittings) (items : List C) :
    (Call.clear f items).checkedOut = [] := by
  cases items with
  | nil => rfl
  | cons c rest =>
    rw [Call.clear]
    split <;> rfl

namespace Moves

variable {p : Pool} {f : Fittings} {now : Instant} {stock : Stock C} {a a' : Caller C}

/-- A caller who lets go of connections that are not counted, and leaves the stock alone. -/
theorem letGo (hands : a'.hands ≤ a.hands)
    (checkedOut : a'.checkedOut.length = a.checkedOut.length) :
    Moves p now [] stock stock a a' where
  hands := by
    rw [Multiset.coe_nil, zero_add]
    exact Multiset.add_le_add_left hands
  inUse := by
    intro _
    rw [checkedOut]
  room := id
  ordered := id

theorem retire {c : C} (hands : {c} ≤ a.hands) (checkedOut : a.checkedOut = []) :
    Moves p now [] stock stock a (Call.retire f c) := by
  rw [Call.retire]
  split
  · exact letGo (by simpa using hands) (by rw [checkedOut]; rfl)
  · exact letGo (by simp) (by rw [checkedOut]; rfl)

/-- Who takes the connection that was returned last has it in hand. -/
theorem taking : Moves p now [] stock stock.pop.2 (.calling .taking)
    (Call.taking.after p f (now, stock)) := by
  rcases stock with ⟨idle, inUse⟩
  rw [Call.after_taking]
  cases idle with
  | nil =>
    simp only [Stock.pop]
    split
    · exact letGo (by simp) rfl
    · exact letGo (by simp) rfl
  | cons item rest =>
    simp only [Stock.pop]
    refine ⟨?_, ?_, ?_, ?_⟩
    · simp [add_comm]
    · intro _
      rfl
    · intro room
      exact (Nat.le_succ _).trans room
    · exact Ordered.of_cons

/-- Who puts a connection back has it no longer, unless there is no room for it. -/
theorem returning {c : C} : Moves p now [] stock (stock.putBack p.maxIdle c now).2
    (.calling (.returning c)) ((Call.returning c).after p f (now, stock)) := by
  rw [Call.after_returning]
  simp only [Stock.putBack]
  split
  case isTrue full =>
    -- It is not stored, whether it is closed or only forgotten.
    dsimp only
    split
    · refine ⟨by simp, ?_, id, id⟩
      intro counted
      exact Nat.sub_add_cancel counted
    · refine ⟨by simp, ?_, id, id⟩
      intro counted
      exact Nat.sub_add_cancel counted
  case isFalse space =>
    refine ⟨?_, ?_, ?_, ?_⟩
    · simp [add_comm]
    · intro counted
      exact Nat.sub_add_cancel counted
    · intro _
      exact Nat.lt_of_not_le space
    · exact fun ordered => ordered.cons c

theorem counting {c : C} :
    Moves p now [] stock stock.checkOut.2 (.calling (.counting c)) (.holding c) :=
  ⟨by simp [Stock.checkOut], fun _ => rfl, id, id⟩

theorem dropping {c : C} :
    Moves p now [] stock stock.writeOff.2 (.calling (.dropping c)) .resting :=
  ⟨by simp [Stock.writeOff], fun counted => Nat.sub_add_cancel counted, id, id⟩

theorem creating {c : C} :
    Moves p now [c] stock stock (.calling .creating) (.calling (.counting c)) :=
  ⟨by simp [add_comm], fun _ => rfl, id, id⟩

/-- Who empties the stock has all of it in hand. -/
theorem emptying : Moves p now [] stock stock.takeAll.2 (.calling .emptying)
    (Call.emptying.after p f (now, stock)) := by
  have taken : ((stock.takeAll.1.map (·.connection) : List C) : Multiset C) =
      connections stock.idle := by
    rw [connections, Stock.takeAll, List.map_reverse, Multiset.coe_reverse]
  refine ⟨?_, ?_, ?_, ?_⟩
  · calc connections [] + (Call.emptying.after p f (now, stock)).hands
      _ = (Call.clear f (stock.takeAll.1.map (·.connection))).hands := zero_add _
      _ ≤ (stock.takeAll.1.map (·.connection) : List C) := hands_clear f _
      _ = connections stock.idle := taken
      _ ≤ ↑([] : List C) + (connections stock.idle + Caller.hands (.calling .emptying)) := by simp
  · intro _
    rw [Call.after_emptying, checkedOut_clear]
    rfl
  · intro _
    exact Nat.zero_le _
  · intro _
    exact .nil now

/-- Every turn is such a move. -/
theorem turn {s : System ι C} (call : Call C) (answer : (call.move p).Answer)
    (allowed : s.Allows (call.move p) answer) :
    Moves p s.now ((call.move p).fresh answer) s.stock ((call.move p).stockAfter s.now s.stock)
      (.calling call) (call.after p f answer) := by
  cases call with
  | taking =>
    obtain rfl : answer = (s.now, s.stock) := allowed
    exact taking
  | dating item =>
    rw [Call.after_dating]
    split
    · rw [Call.check]
      split
      · exact letGo (by simp) rfl
      · exact letGo (by simp) rfl
    · exact retire (by simp) rfl
  | probing c =>
    cases answer with
    | true => exact letGo (by simp [Call.after]) rfl
    | false => exact retire (by simp) rfl
  | counting c => exact counting
  | retiring c => exact letGo (by simp [Call.after]) rfl
  | creating =>
    cases answer with
    | ok c => exact creating
    | error e => exact letGo (by simp [Call.after]) rfl
  | returning c =>
    obtain rfl : answer = (s.now, s.stock) := allowed
    exact returning
  | rejecting c => exact letGo (by simp [Call.after]) rfl
  | dropping c => exact dropping
  | emptying =>
    obtain rfl : answer = (s.now, s.stock) := allowed
    exact emptying
  | clearing c rest =>
    apply letGo
    · calc (Call.clear f rest).hands
        _ ≤ rest := hands_clear f rest
        _ ≤ c ::ₘ rest := Multiset.le_cons_self _ c
        _ = Caller.hands (.calling (.clearing c rest)) := by simp
    · rw [Call.after_clearing, checkedOut_clear]
      rfl

theorem start {now : Instant} {call : Call C} (h : Begins a call) :
    Moves p now [] stock stock a (.calling call) := by
  cases h with
  | acquire => exact letGo (by simp) rfl
  | drain => exact letGo (by simp) rfl
  | release c => exact letGo (by simp) rfl
  | discard c => exact letGo (by simp) rfl

theorem abandon {now : Instant} {call : Call C} (waits : call.isWaiting = true) :
    Moves p now [] stock stock (.calling call) .resting := by
  apply letGo
  · simp
  · cases call <;> simp_all [Call.isWaiting]

end Moves

/-- What is made in a move is new. -/
theorem fresh_new {s : System ι C} {move : Move C} {answer : move.Answer}
    (allowed : s.Allows move answer) :
    (move.fresh answer).Nodup ∧ ∀ c ∈ move.fresh answer, c ∉ s.made := by
  cases move with
  | create =>
    cases answer with
    | ok c =>
      have new : c ∉ s.made := allowed
      simp [Move.fresh, new]
    | error e => simp [Move.fresh]
  | clock => simp [Move.fresh]
  | change g => simp [Move.fresh]
  | close c => simp [Move.fresh]
  | probe c => simp [Move.fresh]

/-! ## Steps -/

variable [DecidableEq ι]

/-- The system after one caller has made some connections, changed the stock, and got to
another place. -/
def System.moved (s : System ι C) (i : ι) (fresh : List C) (stock' : Stock C) (a' : Caller C) :
    System ι C :=
  ⟨s.now, stock', Function.update s.callers i a', fresh ++ s.made⟩

/-- What can happen next. -/
inductive Step (p : Pool) (f : Fittings) (s : System ι C) : System ι C → Prop where
  | pass (time : Instant) (h : s.now ≤ time) : Step p f s { s with now := time }
  | start (i : ι) (call : Call C) (h : Begins (s.callers i) call) :
      Step p f s (s.moved i [] s.stock (.calling call))
  | turn (i : ι) (call : Call C) (answer : (call.move p).Answer)
      (h : s.callers i = .calling call) (allowed : s.Allows (call.move p) answer) :
      Step p f s (s.moved i ((call.move p).fresh answer) ((call.move p).stockAfter s.now s.stock)
        (call.after p f answer))
  | abandon (i : ι) (call : Call C) (h : s.callers i = .calling call)
      (waits : call.isWaiting = true) : Step p f s (s.moved i [] s.stock .resting)

/-- What can happen from the start on. -/
def Reachable (p : Pool) (f : Fittings) (s : System ι C) : Prop :=
  ∃ now, Relation.ReflTransGen (Step p f) (System.initial now) s

/-- All that a step can do: time passes, or one caller makes a move. -/
theorem step_cases {p : Pool} {f : Fittings} {s s' : System ι C} (step : Step p f s s') :
    (∃ time, s.now ≤ time ∧ s' = { s with now := time }) ∨
    ∃ i fresh stock' a', s' = s.moved i fresh stock' a' ∧
      Moves p s.now fresh s.stock stock' (s.callers i) a' ∧
      fresh.Nodup ∧ ∀ c ∈ fresh, c ∉ s.made := by
  cases step with
  | pass time later => exact .inl ⟨time, later, rfl⟩
  | start i call begins => exact .inr ⟨i, [], _, _, rfl, .start begins, .nil, by simp⟩
  | turn i call answer calls allowed =>
    have moves := Moves.turn (f := f) call answer allowed
    rw [← calls] at moves
    exact .inr ⟨i, _, _, _, rfl, moves, fresh_new allowed⟩
  | abandon i call calls waits =>
    have moves : Moves p s.now [] s.stock s.stock (.calling call) .resting := .abandon waits
    rw [← calls] at moves
    exact .inr ⟨i, [], _, _, rfl, moves, .nil, by simp⟩

end Outbox.Pool
