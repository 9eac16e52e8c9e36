import Mathlib.Algebra.BigOperators.Group.Finset.Piecewise
import Outbox.Proofs.Mailer.Turns
import Outbox.Proofs.Pool.Accounts
import Outbox.Proofs.Smtp.Wire

/-!
# Outbox.Proofs.Mailer.Sessions — sessions that many attempts share

Any number of senders make attempts with sessions of one pool. A `System` is the pool together
with all of them and with what was said in each session. In a `Step` one sender takes a turn,
is cut short while it waits, or begins an attempt.

`System.pool` shows a system as a pool and its callers. Every turn is a move of one of these
(`Phase.moves`), so the accounts of the pool stay in order. `Kept` adds to that what was said in
the sessions that are stored and in those that are used.

* `Lost.step` — a session on which an attempt failed is not used any more.
* `reachable_clean` — the sessions of a pool in every state that can be reached.
-/

namespace Outbox.Mailer

open Smtp (Connection Dialogue Exchange Completed Performs Request)

/-! ## Senders -/

/-- What an attempt is doing, for its pool. -/
@[simp] def Phase.caller : Phase → Pool.Caller Connection
  | ready _ => .resting
  | seeking _ call => .calling call
  | reaching _ session | talking session _ _ => .holding session
  | returning session => .calling (.returning session)
  | rejecting session => .calling (.rejecting session)
  | dropping session => .calling (.dropping session)

namespace Sender

/-- What a sender is doing, for its pool. -/
@[simp] def caller : Sender → Pool.Caller Connection
  | trying phase => phase.caller
  | _ => .resting

/-- Whether a sender has a session, for any reason. -/
def Has (session : Connection) (sender : Sender) : Prop := session ∈ sender.caller.hands

/-- Whether a sender holds a session: it got it from the pool, and has not yet put it back or
given it up. -/
def holds : Sender → Bool
  | trying (.reaching _ _) | trying (.talking _ _ _) => true
  | trying (.returning _) | trying (.dropping _) => true
  | _ => false

/-- Whether a sender has no attempt under way. -/
def isIdle : Sender → Bool
  | trying _ => false
  | _ => true

/-- Whether an attempt has succeeded or failed, if that is decided. -/
def outcome? : Sender → Option Bool
  | trying (.returning _) | trying (.rejecting _) => some true
  | trying (.dropping _) => some false
  | finished succeeded => some succeeded
  | _ => none

end Sender

/-! ## Systems -/

/-- All who send with sessions of one pool. -/
structure System (ι : Type) where
  now : Instant
  stock : Stock Connection
  senders : ι → Sender
  /-- Every session that was ever opened. -/
  made : List Connection
  /-- What was said in a session since it was opened. -/
  history : Connection → List Exchange

namespace Move

/-- The stock after a move. -/
def stockAfter (move : Move) (now : Instant) (stock : Stock Connection) : Stock Connection :=
  match move with
  | change f => f now stock
  | _ => stock

/-- The sessions that are opened in a move. -/
def fresh : (move : Move) → move.Answer → List Connection
  | connect, .ok session => [session]
  | _, _ => []

end Move

namespace Turn

/-- The move of a turn. -/
abbrev move : Turn → Move
  | free move | guarded move => move

/-- What comes of the move of a turn, if it is not cut short. -/
abbrev outcome : (turn : Turn) → turn.Answer → Option turn.move.Answer
  | free _, answer => some answer
  | guarded _, .ok answer => some answer
  | guarded _, .error _ => none

/-- The sessions that are opened in a turn. -/
def fresh (turn : Turn) (answer : turn.Answer) : List Connection :=
  match turn.outcome answer with
  | some answer => turn.move.fresh answer
  | none => []

/-- What is said in a turn, and in which session. -/
def said (turn : Turn) (answer : turn.Answer) : Option (Connection × Exchange) :=
  match turn.move, turn.outcome answer with
  | .say session request, answer => some (session, ⟨request, answer⟩)
  | _, _ => none

end Turn

namespace System

variable {ι : Type}

/-- The system before anything has happened. -/
def initial (now : Instant) : System ι := ⟨now, .empty, fun _ => .resting, [], fun _ => []⟩

/-- A system as a pool and all who use it. -/
def pool (s : System ι) : Pool.System ι Connection :=
  ⟨s.now, s.stock, fun i => (s.senders i).caller, s.made⟩

/-- What may come of a move. A session that is opened is a new one. -/
def Allows (s : System ι) : (move : Move) → move.Answer → Prop
  | .clock, time => time = s.now
  | .change _, seen => seen = (s.now, s.stock)
  | .connect, .ok session => session ∉ s.made
  | .connect, .error _ => True
  | .say _ _, _ => True
  | .glance, _ => True

/-- What may come of a turn. Only a move that takes time can be cut short. -/
def AllowsTurn (s : System ι) (turn : Turn) (answer : turn.Answer) : Prop :=
  match turn.outcome answer with
  | some answer => s.Allows turn.move answer
  | none => turn.move.isWaiting

/-- What is opened in a move is new. -/
theorem Allows.new {s : System ι} {move : Move} {answer : move.Answer}
    (allowed : s.Allows move answer) :
    (move.fresh answer).Nodup ∧ ∀ session ∈ move.fresh answer, session ∉ s.made := by
  cases move with
  | connect =>
    cases answer with
    | ok session =>
      have new : session ∉ s.made := allowed
      simp [Move.fresh, new]
    | error error => simp [Move.fresh]
  | _ => simp [Move.fresh]

theorem AllowsTurn.new {s : System ι} {turn : Turn} {answer : turn.Answer}
    (allowed : s.AllowsTurn turn answer) :
    (turn.fresh answer).Nodup ∧ ∀ session ∈ turn.fresh answer, session ∉ s.made := by
  rw [AllowsTurn] at allowed
  rw [Turn.fresh]
  cases outcome : turn.outcome answer with
  | none => simp
  | some answer =>
    rw [outcome] at allowed
    exact Allows.new allowed

/-- What was said in each session, after a turn. -/
def historyAfter (s : System ι) (turn : Turn) (answer : turn.Answer) :
    Connection → List Exchange :=
  match turn.said answer with
  | some (session, x) => Function.update s.history session (s.history session ++ [x])
  | none => s.history

end System

/-! ## Turns as moves on the pool -/

variable {ι : Type} {p : Pool}

theorem System.callers_pool {s : System ι} {i : ι} {phase : Phase}
    (tries : s.senders i = .trying phase) : s.pool.callers i = phase.caller :=
  congrArg Sender.caller tries

theorem stockAfter_spoken (move : Pool.Move Connection) :
    (spoken move).stockAfter = move.stockAfter := by
  cases move <;> rfl

theorem fresh_spoken (move : Pool.Move Connection) (answer : (spoken move).Answer) :
    (spoken move).fresh answer = move.fresh (heard move answer) := by
  cases move with
  | create => cases answer <;> rfl
  | _ => rfl

theorem allows_heard {s : System ι} {move : Pool.Move Connection} {answer : (spoken move).Answer}
    (allowed : s.Allows (spoken move) answer) : s.pool.Allows move (heard move answer) := by
  cases move with
  | create => cases answer <;> exact allowed
  | close session => trivial
  | probe session => trivial
  | clock => exact allowed
  | change f => exact allowed

/-- A call that waits for a session can be abandoned. -/
theorem isWaiting_of_spoken {call : Pool.Call Connection}
    (waits : (spoken (call.move p)).isWaiting = true) : call.isWaiting = true := by
  cases call <;> first | rfl | cases waits

theorem caller_toSeek (e : Envelope) (a : Pool.Caller Connection) :
    (Sender.toSeek e a).caller = a := by
  cases a <;> rfl

theorem caller_after_returning (session : Connection) (seen : Instant × Stock Connection) :
    ((Phase.returning session).after p seen).caller =
      (Pool.Call.returning session).after p fittings seen := by
  simp only [Phase.after, Pool.Call.after_returning]
  cases (seen.2.putBack p.maxIdle session seen.1).1 <;> rfl

theorem stockAfter_of_waiting {move : Move} (waits : move.isWaiting = true) (now : Instant)
    (stock : Stock Connection) : move.stockAfter now stock = stock := by
  cases move <;> first | rfl | cases waits

/-- Whatever is to be said next, the session is held or begins to be left. -/
theorem moves_toTalk {now : Instant} {stock : Stock Connection} (session : Connection)
    (d : Dialogue Unit) :
    Pool.Moves p now [] stock stock (.holding session) (Sender.toTalk session d).caller := by
  rcases d with (error | _) | ⟨request, next⟩
  · exact .start (.discard session)
  · exact .start (.release session)
  · exact .letGo (by simp [Sender.toTalk]) rfl

/-- Every turn is a move of a caller of the pool. -/
theorem Phase.moves {s : System ι} (phase : Phase) (answer : (phase.turn p).Answer)
    (allowed : s.AllowsTurn (phase.turn p) answer) :
    Pool.Moves p s.now ((phase.turn p).fresh answer) s.stock
      ((phase.turn p).move.stockAfter s.now s.stock) phase.caller (phase.after p answer).caller := by
  cases phase with
  | ready e =>
    cases answer with
    | none => exact .start .acquire
    | some ended => exact .letGo (by simp [Phase.after]) rfl
  | seeking e call =>
    cases answer with
    | ok answer =>
      -- What comes of the turn is what the pool makes of the answer.
      have moves := Pool.Moves.turn (f := fittings) call (heard (call.move p) answer)
        (allows_heard allowed)
      rw [← fresh_spoken, ← stockAfter_spoken, ← caller_toSeek e (call.after _ _ _)] at moves
      exact moves
    | error error =>
      -- Cut short: nothing has happened to the stock.
      rw [stockAfter_of_waiting allowed]
      exact .abandon (isWaiting_of_spoken allowed)
  | reaching e session =>
    cases answer with
    | none => exact moves_toTalk session (resend e)
    | some ended => exact .start (.discard session)
  | talking session request next =>
    cases answer with
    | ok answer => exact moves_toTalk session (next answer)
    | error error => exact .start (.discard session)
  | returning session =>
    rw [caller_after_returning]
    exact .turn (s := s.pool) (f := fittings) (.returning session) answer allowed
  | rejecting session => exact .letGo (by simp [Phase.after]) rfl
  | dropping session => exact .dropping

/-! ## Steps -/

variable [DecidableEq ι]

/-- The system after a turn of one sender. -/
def System.turned (s : System ι) (p : Pool) (i : ι) (phase : Phase)
    (answer : (phase.turn p).Answer) : System ι where
  now := s.now
  stock := (phase.turn p).move.stockAfter s.now s.stock
  senders := Function.update s.senders i (phase.after p answer)
  made := (phase.turn p).fresh answer ++ s.made
  history := s.historyAfter (phase.turn p) answer

/-- The system after a sender has begun an attempt. -/
def System.begun (s : System ι) (i : ι) (e : Envelope) : System ι :=
  { s with senders := Function.update s.senders i (.trying (.ready e)) }

variable {s s' : System ι}

theorem System.senders_turned_self (s : System ι) (i : ι) {phase : Phase}
    (answer : (phase.turn p).Answer) :
    (s.turned p i phase answer).senders i = phase.after p answer :=
  Function.update_self ..

theorem System.senders_turned_of_ne {i j : ι} (other : j ≠ i) {phase : Phase}
    (answer : (phase.turn p).Answer) : (s.turned p i phase answer).senders j = s.senders j :=
  Function.update_of_ne other ..

theorem System.senders_begun_self (s : System ι) (i : ι) (e : Envelope) :
    (s.begun i e).senders i = .trying (.ready e) :=
  Function.update_self ..

theorem System.senders_begun_of_ne {i j : ι} (other : j ≠ i) (e : Envelope) :
    (s.begun i e).senders j = s.senders j :=
  Function.update_of_ne other ..

/-- What can happen next. -/
inductive Step (p : Pool) (s : System ι) : System ι → Prop where
  | pass (time : Instant) (later : s.now ≤ time) : Step p s { s with now := time }
  | begin (i : ι) (e : Envelope) (idle : (s.senders i).isIdle = true) :
      Step p s (s.begun i e)
  | turn (i : ι) (phase : Phase) (answer : (phase.turn p).Answer)
      (tries : s.senders i = .trying phase) (allowed : s.AllowsTurn (phase.turn p) answer) :
      Step p s (s.turned p i phase answer)

/-- What can happen from the start on. -/
def Reachable (p : Pool) (s : System ι) : Prop :=
  ∃ now, Relation.ReflTransGen (Step p) (System.initial now) s

theorem System.pool_turned (s : System ι) (p : Pool) (i : ι) (phase : Phase)
    (answer : (phase.turn p).Answer) :
    (s.turned p i phase answer).pool =
      s.pool.moved i ((phase.turn p).fresh answer)
        ((phase.turn p).move.stockAfter s.now s.stock) (phase.after p answer).caller := by
  simp only [pool, turned, Pool.System.moved, Pool.System.mk.injEq, true_and, and_true]
  exact Function.comp_update Sender.caller s.senders i (phase.after p answer)

/-- The pool does not take notice of an attempt that begins. -/
theorem System.pool_begun {i : ι} (idle : (s.senders i).isIdle = true) (e : Envelope) :
    (s.begun i e).pool = s.pool := by
  have resting : (s.senders i).caller = .resting := by
    cases sender : s.senders i with
    | trying phase => rw [sender] at idle; cases idle
    | _ => rfl
  simp only [pool, begun, Pool.System.mk.injEq, true_and, and_true]
  calc (fun j => (Function.update s.senders i (.trying (.ready e)) j).caller)
    _ = Function.update (fun j => (s.senders j).caller) i .resting :=
      Function.comp_update Sender.caller s.senders i _
    _ = fun j => (s.senders j).caller := by rw [← resting, Function.update_eq_self]

/-! ## What was said -/

/-- After these exchanges a dialogue goes on as another one. -/
inductive GoesOn (d : Dialogue Unit) : List Exchange → Dialogue Unit → Prop where
  | start : GoesOn d [] d
  | said {xs : List Exchange} {request : Request} {next : Result request.Answer → Dialogue Unit}
      (before : GoesOn d xs (.ask request next)) (answer : Result request.Answer) :
      GoesOn d (xs ++ [⟨request, some answer⟩]) (next answer)

/-- As long as a dialogue has not failed, the steps that it has taken were accepted. -/
theorem GoesOn.performs {d d' : Dialogue Unit} {xs : List Exchange} {steps : List Smtp.Step}
    (h : GoesOn d xs d') (performs : Performs steps d) :
    (∃ e, d' = .finished (.error e)) ∨
      ∃ done rest, steps = done ++ rest ∧ Completed done xs ∧ Performs rest d' := by
  -- By induction on what was said: the last answer decides about the last step.
  induction h with
  | start =>
    right
    exact ⟨[], steps, rfl, .nil, performs⟩
  | said before answer ih =>
    rcases ih with ⟨e, failed⟩ | ⟨done, rest, rfl, completed, performs⟩
    · cases failed
    · cases performs with
      | step s accepted rejected unanswered =>
        cases answer with
        | error error =>
          left
          exact unanswered error
        | ok answer =>
          by_cases accepts : s.accepts answer
          · right
            refine ⟨done ++ [s], _, List.append_cons .., ?_, accepted answer accepts⟩
            exact List.rel_append completed (.cons ⟨answer, rfl, accepts⟩ .nil)
          · left
            exact rejected answer accepts

/-- The last thing that was said is an envelope that was accepted, with its message. -/
def Accepted (said : List Exchange) : Prop :=
  ∃ before e xs, said = before ++ xs ∧ Completed (Smtp.resendSteps e) xs

/-- An envelope was begun after everything else, and goes on as this dialogue. -/
def Underway (said : List Exchange) (d : Dialogue Unit) : Prop :=
  ∃ before e xs, said = before ++ xs ∧ GoesOn (resend e) xs d

theorem underway_resend (said : List Exchange) (e : Envelope) : Underway said (resend e) :=
  ⟨said, e, [], (List.append_nil said).symm, .start⟩

theorem Underway.said {said : List Exchange} {request : Request}
    {next : Result request.Answer → Dialogue Unit} (h : Underway said (.ask request next))
    (answer : Result request.Answer) :
    Underway (said ++ [⟨request, some answer⟩]) (next answer) := by
  obtain ⟨before, e, xs, rfl, goesOn⟩ := h
  exact ⟨before, e, _, List.append_assoc .., goesOn.said answer⟩

theorem Underway.accepted {said : List Exchange} (h : Underway said (.finished (.ok ()))) :
    Accepted said := by
  obtain ⟨before, e, xs, rfl, goesOn⟩ := h
  rcases goesOn.performs (Smtp.performs_resend e) with
    ⟨error, failed⟩ | ⟨done, rest, steps, completed, performs⟩
  · cases failed
  · -- A dialogue that has succeeded has no steps left.
    cases performs
    rw [List.append_nil] at steps
    exact ⟨before, e, xs, rfl, steps ▸ completed⟩

/-! ## What senders are doing -/

/-- Whether a call is a part of the search for a session. -/
def isSeeking : Pool.Call Connection → Bool
  | .taking | .dating _ | .probing _ | .counting _ | .retiring _ | .creating => true
  | _ => false

/-- What was said in the session of a sender fits what the sender is doing. -/
def Fits (history : Connection → List Exchange) : Sender → Prop
  | .trying (.seeking _ call) => isSeeking call = true
  | .trying (.talking session request next) => Underway (history session) (.ask request next)
  | .trying (.returning session) => Accepted (history session)
  | _ => True

theorem Fits.congr {history history' : Connection → List Exchange} {sender : Sender}
    (h : Fits history sender)
    (same : ∀ session, sender.Has session → history' session = history session) :
    Fits history' sender := by
  rcases sender with _ | phase | succeeded
  · trivial
  · cases phase with
    | talking session request next =>
      have has : (Sender.trying (.talking session request next)).Has session := by
        simp [Sender.Has]
      rw [Fits, same session has]
      exact h
    | returning session =>
      have has : (Sender.trying (.returning session)).Has session := by simp [Sender.Has]
      rw [Fits, same session has]
      exact h
    | _ => exact h
  · trivial

theorem fits_toTalk {history : Connection → List Exchange} {session : Connection}
    {d : Dialogue Unit} (h : Underway (history session) d) :
    Fits history (Sender.toTalk session d) := by
  rcases d with (error | _) | ⟨request, next⟩
  · trivial
  · exact h.accepted
  · exact h

/-- A search stays a search. -/
theorem fits_toSeek (history : Connection → List Exchange) (e : Envelope)
    {call : Pool.Call Connection} (seeks : isSeeking call = true) (answer : (call.move p).Answer) :
    Fits history (.toSeek e (call.after p fittings answer)) := by
  cases call with
  | taking =>
    rw [Pool.Call.after_taking]
    cases answer.2.pop.1 <;> rfl
  | dating item =>
    rw [Pool.Call.after_dating]
    split <;> rfl
  | probing session => cases answer <;> rfl
  | counting session => trivial
  | retiring session => rfl
  | creating => cases answer <;> trivial
  | _ => cases seeks

/-! ## What a turn changes -/

/-- An attempt speaks only in a session that it has. -/
theorem Phase.has_of_said {phase : Phase} {answer : (phase.turn p).Answer} {session : Connection}
    {x : Exchange} (said : (phase.turn p).said answer = some (session, x)) :
    session ∈ phase.caller.hands := by
  cases phase with
  | seeking e call => cases call <;> cases said <;> simp
  | talking session request next => cases said; simp
  | rejecting session => cases said; simp
  | _ => cases said

/-- What was said in other sessions stays as it is. -/
theorem System.history_turned (s : System ι) (i : ι) {phase : Phase}
    (answer : (phase.turn p).Answer) {session : Connection}
    (hasNot : session ∉ phase.caller.hands) :
    (s.turned p i phase answer).history session = s.history session := by
  simp only [turned, historyAfter]
  cases said : (phase.turn p).said answer with
  | none => rfl
  | some spoken =>
    have other : session ≠ spoken.1 := by
      rintro rfl
      exact hasNot (Phase.has_of_said said)
    exact Function.update_of_ne other _ _

/-- Only a session that is put back gets into the stock. -/
theorem Phase.idle_turned {phase : Phase} {now : Instant} {stock : Stock Connection}
    {history : Connection → List Exchange} (fits : Fits history (.trying phase))
    {session : Connection}
    (stored : session ∈ Pool.connections ((phase.turn p).move.stockAfter now stock).idle) :
    session ∈ Pool.connections stock.idle ∨ phase = .returning session := by
  cases phase with
  | seeking e call =>
    left
    cases call with
    | taking =>
      rcases stock with ⟨_ | ⟨item, rest⟩, inUse⟩
      · exact stored
      · rw [Pool.connections_cons]
        exact Multiset.mem_add.2 (.inr stored)
    | dating item => exact stored
    | probing c => exact stored
    | counting c => exact stored
    | retiring c => exact stored
    | creating => exact stored
    | _ => cases fits
  | returning c =>
    simp only [Move.stockAfter, Stock.putBack] at stored
    split at stored
    · exact .inl stored
    · rw [Pool.connections_cons, Multiset.mem_add, Multiset.mem_singleton] at stored
      rcases stored with rfl | before
      · exact .inr rfl
      · exact .inl before
  | _ => exact .inl stored

/-- After a turn, what the sender is doing fits again. -/
theorem Phase.fits_after {phase : Phase} {answer : (phase.turn p).Answer} {i : ι}
    (fits : Fits s.history (.trying phase)) :
    Fits (s.turned p i phase answer).history (phase.after p answer) := by
  cases phase with
  | ready e => cases answer <;> trivial
  | seeking e call =>
    cases answer with
    | ok answer => exact fits_toSeek _ e fits _
    | error error => trivial
  | reaching e session =>
    cases answer with
    | none => exact fits_toTalk (underway_resend _ e)
    | some ended => trivial
  | talking session request next =>
    cases answer with
    | ok answer =>
      have said : (s.turned p i (.talking session request next) (.ok answer)).history session =
          s.history session ++ [⟨request, some answer⟩] := Function.update_self ..
      refine fits_toTalk ?_
      rw [said]
      exact Underway.said fits answer
    | error error => trivial
  | returning session =>
    simp only [after]
    split <;> trivial
  | rejecting session => trivial
  | dropping session => trivial

/-! ## Sessions on which an attempt failed -/

/-- In a step from `s` to `s'` the attempt of a sender fails, and it has this session. -/
structure Fails (s s' : System ι) (i : ι) (session : Connection) : Prop where
  has : (s.senders i).Has session
  undecided : (s.senders i).outcome? = none
  failed : (s'.senders i).outcome? = some false

/-- A session is not stored, and nobody has it; only the one sender whose attempt failed may
still be going to give it up. -/
structure Lost (i : ι) (session : Connection) (s : System ι) : Prop where
  made : session ∈ s.made
  notStored : session ∉ Pool.connections s.stock.idle
  givenUp : ∀ j, (s.senders j).Has session → j = i ∧ s.senders i = .trying (.dropping session)

theorem toTalk_failed {session : Connection} {d : Dialogue Unit}
    (failed : (Sender.toTalk session d).outcome? = some false) :
    Sender.toTalk session d = .trying (.dropping session) := by
  rcases d with (error | _) | ⟨request, next⟩
  · rfl
  · cases failed
  · cases failed

/-- A search that fails by itself has no session. -/
theorem toSeek_failed {e : Envelope} {call : Pool.Call Connection} {answer : (call.move p).Answer}
    (seeks : isSeeking call = true)
    (failed : (Sender.toSeek e (call.after p fittings answer)).outcome? = some false) :
    Pool.Caller.hands (.calling call) = 0 := by
  cases call with
  | taking => simp
  | dating item =>
    rw [Pool.Call.after_dating] at failed
    split at failed <;> cases failed
  | probing session => cases answer <;> cases failed
  | counting session => cases failed
  | retiring session => cases failed
  | creating => simp
  | _ => cases seeks

omit [DecidableEq ι] in
/-- An attempt that fails gives its session up, or has lost it already. -/
theorem Phase.fails {phase : Phase} {answer : (phase.turn p).Answer} {session : Connection}
    (fits : Fits s.history (.trying phase))
    (allowed : s.AllowsTurn (phase.turn p) answer) (has : session ∈ phase.caller.hands)
    (undecided : (Sender.trying phase).outcome? = none)
    (failed : (phase.after p answer).outcome? = some false) :
    (phase.turn p).move.stockAfter s.now s.stock = s.stock ∧
      (phase.after p answer = .finished false ∨
        phase.after p answer = .trying (.dropping session)) := by
  cases phase with
  | ready e => simp at has
  | seeking e call =>
    cases answer with
    | ok answer =>
      rw [caller, toSeek_failed fits failed] at has
      cases has
    | error error => exact ⟨stockAfter_of_waiting allowed _ _, .inl rfl⟩
  | reaching e holds =>
    obtain rfl : session = holds := by simpa using has
    cases answer with
    | none => cases failed
    | some ended => exact ⟨rfl, .inr rfl⟩
  | talking holds request next =>
    obtain rfl : session = holds := by simpa using has
    cases answer with
    | ok answer =>
      exact ⟨rfl, .inr (toTalk_failed failed)⟩
    | error error => exact ⟨rfl, .inr rfl⟩
  | _ => cases undecided

/-- Only a turn of its sender makes an attempt fail. -/
theorem Fails.turn (step : Step p s s') {i : ι} {session : Connection}
    (fails : Fails s s' i session) :
    ∃ phase answer, s.senders i = .trying phase ∧ s.AllowsTurn (phase.turn p) answer ∧
      s' = s.turned p i phase answer := by
  have changed : s'.senders i ≠ s.senders i := by
    intro same
    have failed := fails.failed
    rw [same, fails.undecided] at failed
    cases failed
  cases step with
  | pass time later => exact absurd rfl changed
  | begin k e idle =>
    by_cases same : i = k
    · have failed := fails.failed
      rw [same, System.senders_begun_self] at failed
      cases failed
    · exact absurd (System.senders_begun_of_ne same e) changed
  | turn k phase answer tries allowed =>
    by_cases same : i = k
    · subst same
      exact ⟨phase, answer, tries, allowed, rfl⟩
    · exact absurd (System.senders_turned_of_ne same answer) changed

/-- The one turn that is left to the sender who has a lost session is to give it up. -/
theorem Lost.givesUp {i : ι} {session : Connection} (h : Lost i session s)
    {answer : ((Phase.dropping session).turn p).Answer} :
    Lost i session (s.turned p i (.dropping session) answer) := by
  refine ⟨h.made, h.notStored, ?_⟩
  intro j has
  by_cases same : j = i
  · rw [same, System.senders_turned_self] at has
    simp [Sender.Has, Phase.after] at has
  · rw [System.senders_turned_of_ne same] at has
    exact absurd (h.givenUp j has).1 same

/-- In a turn of somebody who does not have it, a lost session does not come back. -/
theorem Lost.turned {i k : ι} {session : Connection} (h : Lost i session s) {phase : Phase}
    {answer : (phase.turn p).Answer} (allowed : s.AllowsTurn (phase.turn p) answer)
    (hasNot : session ∉ phase.caller.hands) : Lost i session (s.turned p k phase answer) := by
  have old : session ∉ (phase.turn p).fresh answer := by
    intro new
    exact allowed.new.2 session new h.made
  have nowhere : session ∉ ((phase.turn p).fresh answer : Multiset Connection) +
      (Pool.connections s.stock.idle + phase.caller.hands) := by
    rw [Multiset.mem_add, Multiset.mem_add, not_or, not_or]
    exact ⟨old, h.notStored, hasNot⟩
  -- A turn moves sessions around and opens new ones, and there is no other place.
  have still : session ∉ Pool.connections ((phase.turn p).move.stockAfter s.now s.stock).idle +
      (phase.after p answer).caller.hands := by
    intro there
    exact nowhere (Multiset.mem_of_le (phase.moves answer allowed).hands there)
  rw [Multiset.mem_add, not_or] at still
  refine ⟨List.mem_append_right _ h.made, still.1, ?_⟩
  intro j has
  by_cases same : j = k
  · rw [same, System.senders_turned_self] at has
    exact absurd has still.2
  · rw [System.senders_turned_of_ne same] at has
    obtain ⟨rfl, dropping⟩ := h.givenUp j has
    exact ⟨rfl, (System.senders_turned_of_ne same answer).trans dropping⟩

/-- A session that is lost stays so, and nothing is said in it. -/
theorem Lost.step {i : ι} {session : Connection} (h : Lost i session s) (step : Step p s s') :
    Lost i session s' ∧ s'.history session = s.history session := by
  cases step with
  | pass time later => exact ⟨⟨h.made, h.notStored, h.givenUp⟩, rfl⟩
  | begin k e idle =>
    refine ⟨⟨h.made, h.notStored, ?_⟩, rfl⟩
    intro j has
    by_cases same : j = k
    · rw [same, System.senders_begun_self] at has
      simp [Sender.Has] at has
    · rw [System.senders_begun_of_ne same] at has
      obtain ⟨rfl, dropping⟩ := h.givenUp j has
      exact ⟨rfl, (System.senders_begun_of_ne same e).trans dropping⟩
  | turn k phase answer tries allowed =>
    by_cases has : session ∈ phase.caller.hands
    · obtain ⟨rfl, dropping⟩ := h.givenUp k (by rw [tries]; exact has)
      rw [tries] at dropping
      obtain rfl := Sender.trying.inj dropping
      exact ⟨h.givesUp, rfl⟩
    · exact ⟨h.turned allowed has, s.history_turned k answer has⟩

/-! ## Sessions that are in order -/

variable [Fintype ι]

/-- The sessions of a pool are in order: the accounts of the pool are, and what was said in each
session fits what is done with it. -/
structure Kept (p : Pool) (s : System ι) : Prop where
  sound : Pool.Sound p s.pool
  idle : ∀ session ∈ Pool.connections s.stock.idle, Accepted (s.history session)
  fits : ∀ i, Fits s.history (s.senders i)

omit [DecidableEq ι] in
theorem kept_initial (p : Pool) (now : Instant) : Kept p (System.initial now : System ι) where
  sound := Pool.sound_initial p now
  idle := nofun
  fits _ := trivial

/-- Every turn keeps the sessions in order. -/
theorem Kept.turn (h : Kept p s) {i : ι} {phase : Phase} {answer : (phase.turn p).Answer}
    (tries : s.senders i = .trying phase) (allowed : s.AllowsTurn (phase.turn p) answer) :
    Kept p (s.turned p i phase answer) where
  sound := by
    have moves := phase.moves answer allowed
    rw [← System.callers_pool tries] at moves
    rw [System.pool_turned]
    exact h.sound.move moves allowed.new.1 allowed.new.2
  idle := by
    intro session stored
    have fits : Fits s.history (.trying phase) := tries ▸ h.fits i
    rcases Phase.idle_turned fits stored with before | rfl
    · -- It was stored before, so it is not the one in which something was said.
      have hasNot : session ∉ phase.caller.hands := by
        have apart := Pool.idle_disjoint h.sound.nodup i
        rw [System.callers_pool tries] at apart
        exact Multiset.disjoint_left.1 apart before
      rw [s.history_turned i answer hasNot]
      exact h.idle session before
    · exact fits
  fits := by
    intro j
    by_cases same : j = i
    · subst same
      have fits : Fits s.history (.trying phase) := tries ▸ h.fits j
      rw [System.senders_turned_self]
      exact Phase.fits_after fits
    · -- Nobody else has the session in which something was said.
      rw [System.senders_turned_of_ne same]
      apply (h.fits j).congr
      intro session has
      have apart := Pool.hands_disjoint h.sound.nodup same
      rw [System.callers_pool tries] at apart
      exact s.history_turned i answer (Multiset.disjoint_left.1 apart has)

/-- Every step keeps the sessions in order. -/
theorem Kept.step (h : Kept p s) (step : Step p s s') : Kept p s' := by
  cases step with
  | pass time later =>
    have sound : Pool.Sound p { s.pool with now := time } :=
      h.sound.step (f := fittings) (.pass time later)
    exact ⟨sound, h.idle, h.fits⟩
  | begin i e idle =>
    refine ⟨?_, h.idle, ?_⟩
    · rw [System.pool_begun idle]
      exact h.sound
    · intro j
      by_cases same : j = i
      · rw [same, System.senders_begun_self]
        trivial
      · rw [System.senders_begun_of_ne same]
        exact h.fits j
  | turn i phase answer tries allowed => exact h.turn tries allowed

theorem Reachable.kept (h : Reachable p s) : Kept p s := by
  obtain ⟨now, steps⟩ := h
  induction steps with
  | refl => exact kept_initial p now
  | tail _ step ih => exact ih.step step

/-- A session on which an attempt fails is lost. -/
theorem Kept.lost (h : Kept p s) (step : Step p s s') {i : ι} {session : Connection}
    (fails : Fails s s' i session) : Lost i session s' := by
  obtain ⟨phase, answer, tries, allowed, rfl⟩ := fails.turn step
  obtain ⟨has, undecided, failed⟩ := fails
  have fits : Fits s.history (.trying phase) := tries ▸ h.fits i
  have inHands : session ∈ phase.caller.hands := System.callers_pool tries ▸ has
  rw [tries] at undecided
  rw [System.senders_turned_self] at failed
  obtain ⟨stock, left⟩ := Phase.fails fits allowed inHands undecided failed
  refine ⟨?_, ?_, ?_⟩
  · have there : session ∈ s.pool.everywhere := Pool.mem_everywhere.2 (.inr ⟨i, has⟩)
    exact List.mem_append_right _ (h.sound.made session there)
  · rw [System.turned, stock]
    intro stored
    exact Multiset.disjoint_left.1 (Pool.idle_disjoint h.sound.nodup i) stored has
  · intro j hasNow
    by_cases same : j = i
    · subst same
      rw [System.senders_turned_self] at hasNow ⊢
      rcases left with finished | dropping
      · rw [finished] at hasNow
        simp [Sender.Has] at hasNow
      · exact ⟨rfl, dropping⟩
    · rw [System.senders_turned_of_ne same] at hasNow
      exact absurd has (Multiset.disjoint_left.1 (Pool.hands_disjoint h.sound.nodup same) hasNow)

/-- It stays lost in all that can happen from then on. -/
theorem Reachable.lost (h : Reachable p s) (step : Step p s s') {i : ι} {session : Connection}
    (fails : Fails s s' i session) {later : System ι}
    (steps : Relation.ReflTransGen (Step p) s' later) :
    Lost i session later ∧ later.history session = s'.history session := by
  induction steps with
  | refl => exact ⟨h.kept.lost step fails, rfl⟩
  | tail _ next ih =>
    obtain ⟨lost, before⟩ := ih
    obtain ⟨stays, same⟩ := lost.step next
    exact ⟨stays, same.trans before⟩

omit [DecidableEq ι] [Fintype ι] in
/-- A sender is counted once if it holds a session, and else not at all. -/
theorem Fits.counted {history : Connection → List Exchange} {sender : Sender}
    (fits : Fits history sender) :
    sender.caller.checkedOut.length = if sender.holds then 1 else 0 := by
  rcases sender with _ | phase | succeeded
  · rfl
  · cases phase with
    | seeking e call => cases call <;> first | rfl | cases fits
    | _ => rfl
  · rfl

/-! ## Clean sessions -/

/-- The functions of a mailer and of its pool, carried out in turns, go through the phases of an
attempt. Of the search for a session, which may take any number of looks, as many as one likes are
written down. -/
structure Staged (p : SessionPool) : Prop where
  /-- A look that does not fail hands out a session or closes one. -/
  finds : ∀ n, Yields (· ≠ .ok (.found none)) (p.pool.look p.keeper : Doing n _)
  begins : ∀ n c deadline e, Follows p.pool (afterLook e) (.trying (.ready e))
    (Means.bounded c deadline (p.pool.look p.keeper) : Doing n _)
  looks : ∀ n e, Follows p.pool (afterLook e) (.trying (.seeking e .taking))
    (guard (p.pool.look p.keeper) : Doing n _)
  prepares : ∀ n (m : Mailer) c deadline e, Follows p.pool (afterPrepare e) (.trying (.ready e))
    (m.prepareSession c deadline (some p) : Doing n Prepared)
  /-- The session that it gets is known to be from the pool. -/
  remembers : ∀ n (m : Mailer) c deadline,
    Yields (fun result => ∀ s, result = .ok s → s.pool = some p)
      (m.prepareSession c deadline (some p) : Doing n Prepared)
  delivers : ∀ n c deadline e session,
    Follows p.pool afterAttempt (.trying (.reaching e session))
      (deliver c deadline e ⟨session, some p⟩ : Doing n Unit)
  /-- So does a whole attempt, from its beginning to its end. -/
  attempts : ∀ n (m : Mailer) c deadline e, Follows p.pool afterAttempt (.trying (.ready e))
    (m.attemptBy c deadline (some p) e : Doing n Unit)

/-- The sessions of a pool are clean. -/
structure Clean (p : Pool) (s : System ι) : Prop where
  inUse_eq : s.stock.inUse = (Finset.univ.filter fun i => (s.senders i).holds = true).card
  /-- Hence none is in use when all attempts have ended. -/
  inUse_eq_zero : (∀ i, (s.senders i).isIdle = true) → s.stock.inUse = 0
  /-- The last envelope in a session that is stored was accepted with its message. -/
  accepted : ∀ item ∈ s.stock.idle, Accepted (s.history item.connection)
  /-- A session on which an attempt fails is not stored, nobody else gets it, and nothing is
  written to it, at any time from then on. -/
  lost : ∀ s' i session, Step p s s' → Fails s s' i session →
    ∀ later, Relation.ReflTransGen (Step p) s' later →
      Lost i session later ∧ later.history session = s'.history session

omit [DecidableEq ι] in
theorem Kept.inUse_eq (h : Kept p s) :
    s.stock.inUse = (Finset.univ.filter fun i => (s.senders i).holds = true).card := by
  rw [Finset.card_filter]
  calc s.stock.inUse
    _ = ∑ i, (s.senders i).caller.checkedOut.length := h.sound.inUse
    _ = ∑ i, if (s.senders i).holds = true then 1 else 0 := by
      apply Finset.sum_congr rfl
      intro i _
      exact (h.fits i).counted

omit [DecidableEq ι] in
theorem Kept.inUse_eq_zero (h : Kept p s) (ended : ∀ i, (s.senders i).isIdle = true) :
    s.stock.inUse = 0 := by
  rw [h.inUse_eq, Finset.card_eq_zero, Finset.filter_eq_empty_iff]
  intro i _
  have idle := ended i
  cases sender : s.senders i with
  | trying phase => rw [sender] at idle; cases idle
  | _ => exact nofun

/-- Whatever becomes of the attempts of any number of senders, the sessions of their pool are
clean at all times. -/
theorem reachable_clean (ι : Type) [Fintype ι] [DecidableEq ι] (p : SessionPool) :
    Staged p ∧ ∀ s : System ι, Reachable p.pool s → Clean p.pool s := by
  constructor
  · refine ⟨fun n => yields_look p, ?_, fun n => follows_look p, ?_, ?_, ?_, ?_⟩
    · intro n c deadline e
      exact (follows_look p e).bounded (fun _ => rfl) c deadline
    · exact fun n => follows_prepareSession p
    · exact fun n => yields_prepareSession p
    · exact fun n => follows_deliver p
    · exact fun n => follows_attemptBy p
  · intro s reachable
    refine ⟨reachable.kept.inUse_eq, reachable.kept.inUse_eq_zero, ?_, ?_⟩
    · intro item stored
      apply reachable.kept.idle
      exact Multiset.mem_coe.2 (List.mem_map_of_mem stored)
    · intro s' i session step fails later steps
      exact reachable.lost step fails steps

/-- An attempt whose context ends when it has just got a session. -/
theorem reachable_clean_ended :
    let p : SessionPool := ⟨0, .make 1 .zero, .make "mx" 25 "here"⟩
    let session : Connection := { link := 0, patience := .zero }
    ∃ s s' : System Unit, Reachable p.pool s ∧ Clean p.pool s ∧ s.stock.inUse = 1 ∧
      Step p.pool s s' ∧ Fails s s' () session ∧ Lost () session s' := by
  intro p session
  let e : Envelope := ⟨"a@x.org", ["b@x.org"], []⟩
  let stock : Stock Connection := .empty
  let s₀ : System Unit := System.initial .start
  let s₁ := s₀.begun () e
  let s₂ := s₁.turned p.pool () (.ready e) none
  let s₃ := s₂.turned p.pool () (.seeking e .taking) (.ok (.start, stock))
  let s₄ := s₃.turned p.pool () (.seeking e .creating) (.ok (.ok session))
  let s₅ := s₄.turned p.pool () (.seeking e (.counting session)) (.ok (.start, stock))
  let s₆ := s₅.turned p.pool () (.reaching e session) (some .cancelled)
  have begun : Step p.pool s₀ s₁ := .begin () e rfl
  have looks : Step p.pool s₁ s₂ := .turn () (.ready e) none rfl trivial
  have finds : Step p.pool s₂ s₃ := .turn () (.seeking e .taking) (.ok (.start, stock)) rfl rfl
  have opened : Step p.pool s₃ s₄ :=
    .turn () (.seeking e .creating) (.ok (.ok session)) rfl List.not_mem_nil
  have counts : Step p.pool s₄ s₅ :=
    .turn () (.seeking e (.counting session)) (.ok (.start, stock)) rfl rfl
  have ends : Step p.pool s₅ s₆ := .turn () (.reaching e session) (some .cancelled) rfl trivial
  have reachable : Reachable p.pool s₅ :=
    ⟨.start, ((((Relation.ReflTransGen.single begun).tail looks).tail finds).tail opened).tail
      counts⟩
  have clean := (reachable_clean Unit p).2 s₅ reachable
  have holds : (s₅.senders ()).caller = .holding session := rfl
  have fails : Fails s₅ s₆ () session := by
    refine ⟨?_, rfl, rfl⟩
    rw [Sender.Has, holds]
    simp
  have lost := clean.lost s₆ () session ends fails s₆ .refl
  exact ⟨s₅, s₆, reachable, clean, rfl, ends, fails, lost.1⟩

end Outbox.Mailer
