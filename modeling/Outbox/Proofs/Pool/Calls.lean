import Outbox.Pool
import Outbox.Turns

/-!
# Outbox.Proofs.Pool.Calls — the turns of a call on a pool

Between two uses of its lock a call on a pool waits: for a connection to be made, to be
closed or to be probed. `Call` says where a call stands and which connections it has in its
hands, `Call.move` what it does in its next turn and `Call.after` where it stands then.

`Follows` compares this with an act in turns, for every answer that its moves may get. The
functions of `Pool`, carried out in turns, follow `Call` (`follows_look`, `follows_acquire`,
`follows_release`, `follows_discard`, `follows_drain`). Whoever acquires a connection may look for
one without an end, and follows `Call` for any number of looks.
-/

namespace Outbox.Pool

variable {C : Type}

/-! ## Moves -/

/-- What a call does in one turn. -/
inductive Move (C : Type) where
  /-- Looks at the clock. -/
  | clock
  /-- Changes the stock, under the lock. -/
  | change (f : Instant → Stock C → Stock C)
  | create
  | close (connection : C)
  | probe (connection : C)

/-- What comes of a move. A change shows the time and the stock before it. -/
abbrev Move.Answer : Move C → Type
  | clock => Instant
  | change _ => Instant × Stock C
  | create => Result C
  | close _ => Result Unit
  | probe _ => Bool

/-- Acts in turns of which each is a move. -/
abbrev Act (C : Type) : Type → Type := Turns (Move.Answer (C := C))

/-- Which of its three means a pool was given. -/
structure Fittings where
  creates : Bool
  closes : Bool
  probes : Bool
deriving DecidableEq, Repr

/-- A keeper for acts in turns, of which up to `n` looks are written down. -/
def Fittings.keeper (f : Fittings) (n : Nat) : Keeper (Act C) C where
  now := .make Move.clock
  update g := .turn (.change fun _ s => (g s).2) fun seen => .done (.ok (g seen.2).1)
  stamp g := .turn (.change fun t s => (g t s).2) fun seen => .done (.ok (g seen.1 seen.2).1)
  loop look := Look.rounds .unfinished look n
  create := if f.creates then some (.turn .create .done) else none
  close := if f.closes then some fun c => .make (Move.close c) else none
  probe := if f.probes then some fun c => .make (Move.probe c) else none

theorem close_keeper (f : Fittings) (n : Nat) (c : C) :
    close (f.keeper n) c =
      if f.closes then .turn (Move.close c) fun _ => .done (.ok ()) else pure () := by
  rcases f with ⟨creates, closes, probes⟩
  cases closes <;> rfl

theorem isHealthy_keeper (f : Fittings) (n : Nat) (c : C) :
    isHealthy (f.keeper n) c = if f.probes then .make (Move.probe c) else pure true := by
  rcases f with ⟨creates, closes, probes⟩
  cases probes <;> rfl

theorem create_keeper (f : Fittings) (n : Nat) :
    create (f.keeper (C := C) n) =
      if f.creates then do
        let c ← Turns.turn Move.create .done
        (f.keeper n).update Stock.checkOut
        pure (some c)
      else pure none := by
  rcases f with ⟨creates, closes, probes⟩
  cases creates <;> rfl

/-! ## Where a call stands -/

/-- A call on a pool by what it does next. -/
inductive Call (C : Type) where
  /-- To take the connection that was returned last. -/
  | taking
  /-- To see how long a connection was stored. -/
  | dating (item : Shelved C)
  | probing (connection : C)
  /-- To count a connection that is going to be handed out. -/
  | counting (connection : C)
  /-- To close a connection that cannot be used, and to take another one then. -/
  | retiring (connection : C)
  | creating
  /-- To put a connection back. -/
  | returning (connection : C)
  /-- To close a connection for which there was no room. -/
  | rejecting (connection : C)
  /-- To give a connection up. -/
  | dropping (connection : C)
  /-- To take all connections that are stored. -/
  | emptying
  /-- To close one of them, and the rest then. -/
  | clearing (connection : C) (rest : List C)

/-- What somebody who uses a pool is doing. -/
inductive Caller (C : Type) where
  | resting
  /-- Has a connection that was handed out. -/
  | holding (connection : C)
  | calling (call : Call C)

namespace Call

/-- The next move of a call. -/
abbrev move (p : Pool) : Call C → Move C
  | taking => .change fun _ s => s.pop.2
  | dating _ => .clock
  | probing c => .probe c
  | counting _ => .change fun _ s => s.checkOut.2
  | retiring c => .close c
  | creating => .create
  | returning c => .change fun t s => (s.putBack p.maxIdle c t).2
  | rejecting c => .close c
  | dropping _ => .change fun _ s => s.writeOff.2
  | emptying => .change fun _ s => s.takeAll.2
  | clearing c _ => .close c

/-- Goes on with a connection that cannot be used. -/
def retire (f : Fittings) (c : C) : Caller C :=
  .calling (if f.closes then retiring c else taking)

/-- Goes on with a connection that was not stored for too long. -/
def check (f : Fittings) (c : C) : Caller C :=
  .calling (if f.probes then probing c else counting c)

/-- Goes on with connections that are to be closed. -/
def clear (f : Fittings) : List C → Caller C
  | [] => .resting
  | c :: rest => if f.closes then .calling (clearing c rest) else .resting

/-- Where somebody stands after the next move of a call. -/
def after (p : Pool) (f : Fittings) : (call : Call C) → (call.move p).Answer → Caller C
  | taking, (_, s) =>
    match s.pop.1 with
    | some item => .calling (dating item)
    | none => if f.creates then .calling creating else .resting
  | dating item, time =>
    if Instant.since time item.since ≤ p.idleTtl then check f item.connection
    else retire f item.connection
  | probing c, true => .calling (counting c)
  | probing c, false => retire f c
  | counting c, _ => .holding c
  | retiring _, _ => .calling taking
  | creating, .ok c => .calling (counting c)
  | creating, .error _ => .resting
  | returning c, (t, s) =>
    match (s.putBack p.maxIdle c t).1 with
    | some rejected => if f.closes then .calling (rejecting rejected) else .resting
    | none => .resting
  | rejecting _, _ => .resting
  | dropping _, _ => .resting
  | emptying, (_, s) => clear f (s.takeAll.1.map (·.connection))
  | clearing _ rest, _ => clear f rest

end Call

namespace Call

variable (p : Pool) (f : Fittings)

theorem after_taking (seen : Instant × Stock C) :
    taking.after p f seen =
      match seen.2.pop.1 with
      | some item => .calling (dating item)
      | none => if f.creates then .calling creating else .resting := rfl

theorem after_dating (item : Shelved C) (time : Instant) :
    (dating item).after p f time =
      if time.since item.since ≤ p.idleTtl then check f item.connection
      else retire f item.connection := rfl

theorem after_returning (c : C) (seen : Instant × Stock C) :
    (returning c).after p f seen =
      match (seen.2.putBack p.maxIdle c seen.1).1 with
      | some rejected => if f.closes then .calling (rejecting rejected) else .resting
      | none => .resting := rfl

theorem after_emptying (seen : Instant × Stock C) :
    emptying.after p f seen = clear f (seen.2.takeAll.1.map (·.connection)) := rfl

theorem after_clearing (c : C) (rest : List C) (answer : Result Unit) :
    (clearing c rest).after p f answer = clear f rest := rfl

end Call

/-! ## Acts that follow calls -/

/-- An act does what somebody does who stands at `caller`, whatever comes of its moves, and
`standing` says where its result leaves them. Of an act that is not written down to its end this
is said of what is. -/
inductive Follows {α : Type} (p : Pool) (f : Fittings) (standing : Result α → Caller C) :
    Caller C → Act C α → Prop where
  | done {caller : Caller C} {result : Result α} (h : standing result = caller) :
      Follows p f standing caller (.done result)
  | turn (call : Call C) (next : (call.move p).Answer → Act C α)
      (h : ∀ answer, Follows p f standing (call.after p f answer) (next answer)) :
      Follows p f standing (.calling call) (.turn (call.move p) next)
  | unfinished {caller : Caller C} : Follows p f standing caller .unfinished

/-- Where a look at the stock leaves somebody. -/
def afterLook : Result (Look C) → Caller C
  | .ok (.found (some c)) => .holding c
  | .ok (.found none) => .resting
  | .ok .again => .calling .taking
  | .error _ => .resting

/-- Where somebody stands after acquiring a connection. -/
def afterAcquire : Result (Option C) → Caller C
  | .ok (some c) => .holding c
  | _ => .resting

/-- Where anything else leaves somebody. -/
def afterwards : Result Unit → Caller C := fun _ => .resting

namespace Follows

variable {p : Pool} {f : Fittings} {n : Nat} {α β : Type} {standing : Result α → Caller C}

/-- One act after another. The second one begins where the first one leaves off. -/
theorem bind {standing' : Result β → Caller C} {caller : Caller C} {x : Act C α}
    {g : α → Act C β} (h : Follows p f standing caller x)
    (failed : ∀ e, standing' (.error e) = standing (.error e))
    (hg : ∀ a, Follows p f standing' (standing (.ok a)) (g a)) :
    Follows p f standing' caller (x >>= g) := by
  induction h with
  | @done caller result same =>
    subst same
    cases result with
    | ok a => exact hg a
    | error e => exact .done (failed e)
  | turn call next _ ih => exact .turn call _ ih
  | unfinished => exact .unfinished

/-- Handing out a connection that is in hand. -/
theorem count {c : C} {result : α} (h : standing (.ok result) = .holding c) :
    Follows p f standing (.calling (.counting c))
      ((f.keeper n).update Stock.checkOut >>= fun _ => pure result) :=
  .turn (.counting c) _ fun _ => .done h

theorem retire {c : C} {result : α} (h : standing (.ok result) = .calling .taking) :
    Follows p f standing (Call.retire f c) (close (f.keeper n) c >>= fun _ => pure result) := by
  rw [close_keeper, Call.retire]
  split
  · exact .turn (.retiring c) _ fun _ => .done h
  · exact .done h

end Follows

variable (p : Pool) (f : Fittings) (n : Nat)

/-- A look at a connection that was stored. -/
theorem follows_dating (item : Shelved C) :
    Follows p f afterLook (.calling (.dating item)) (do
      if ← p.isUsable (f.keeper n) item then
        (f.keeper n).update Stock.checkOut
        return .found (some item.connection)
      else
        close (f.keeper n) item.connection
        return .again) := by
  refine .turn (.dating item) _ ?_
  intro time
  simp only [Call.after_dating, bind, Turns.bind]
  split
  case isTrue =>
    rw [isHealthy_keeper, Call.check]
    split
    · refine .turn (.probing item.connection) _ ?_
      rintro (unhealthy | healthy)
      · exact .retire rfl
      · exact .count (n := n) rfl
    · -- Nothing is probed, and what is not too old is handed out.
      exact .count (n := n) rfl
  case isFalse => exact .retire rfl

theorem follows_look :
    Follows p f afterLook (.calling .taking) (p.look (f.keeper (C := C) n)) := by
  refine .turn .taking _ ?_
  intro seen
  simp only [Call.after_taking, Turns.bind]
  cases seen.2.pop.1 with
  | none =>
    simp only [create_keeper]
    split
    · refine .turn .creating _ ?_
      rintro (e | c)
      · exact .done rfl
      · exact .turn (.counting c) _ fun _ => .done rfl
    · exact .done rfl
  | some item => exact follows_dating p f n item

/-- After a look in which a connection was closed, whoever acquires one looks again. -/
theorem acquire_succ : p.acquire (f.keeper (C := C) (n + 1)) = (do
    match ← p.look (f.keeper n) with
    | .found connection => pure connection
    | .again => p.acquire (f.keeper n)) := rfl

theorem follows_acquire :
    Follows p f afterAcquire (.calling .taking) (p.acquire (f.keeper (C := C) n)) := by
  -- By induction on the looks that are written down.
  induction n with
  | zero => exact .unfinished
  | succ n ih =>
    rw [acquire_succ]
    refine (follows_look p f n).bind (fun _ => rfl) ?_
    rintro ((_ | c) | _)
    · exact .done rfl
    · exact .done rfl
    · exact ih

theorem follows_release (c : C) :
    Follows p f afterwards (.calling (.returning c)) (p.release (f.keeper n) c) := by
  refine .turn (.returning c) _ ?_
  intro seen
  simp only [Call.after_returning, Turns.bind]
  cases (seen.2.putBack p.maxIdle c seen.1).1 with
  | none => exact .done rfl
  | some rejected =>
    simp only [close_keeper]
    split
    · exact .turn (.rejecting rejected) _ fun _ => .done rfl
    · exact .done rfl

theorem follows_discard (c : C) :
    Follows p f afterwards (.calling (.dropping c)) (discard (f.keeper (C := C) n)) :=
  .turn (.dropping c) _ fun _ => .done rfl

/-- Closing connections one after another. -/
theorem follows_clear (items : List (Shelved C)) :
    Follows p f afterwards (Call.clear f (items.map (·.connection)))
      (items.forM fun item => close (f.keeper n) item.connection) := by
  -- By induction on the connections that are left to close.
  induction items with
  | nil => exact .done rfl
  | cons item rest ih =>
    show Follows p f afterwards (Call.clear f (item.connection :: rest.map (·.connection)))
      (close (f.keeper n) item.connection >>= fun _ => rest.forM _)
    rw [close_keeper, Call.clear]
    split
    case isTrue => exact .turn (.clearing item.connection _) _ fun _ => ih
    case isFalse notCloses =>
      have hrest : Call.clear f (rest.map (·.connection)) = .resting := by
        cases rest <;> simp [Call.clear, notCloses]
      rw [hrest] at ih
      exact ih

theorem follows_drain :
    Follows p f afterwards (.calling .emptying) (drain (f.keeper (C := C) n)) :=
  .turn .emptying _ fun seen => follows_clear p f n seen.2.takeAll.1

end Outbox.Pool
