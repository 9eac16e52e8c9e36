import Outbox.Mailer
import Outbox.Proofs.Pool.Calls

/-!
# Outbox.Proofs.Mailer.Turns — the turns of an attempt on a pool

Many attempts on sessions of one pool take turns: between two of its requests an attempt waits
for the server, and others go on.

* `Move` is what an attempt does in one turn. A `Turn` that is guarded may be cut short while it
  waits, by the end of the context or of the time that an attempt has.
* `Means (Doing n)` makes acts in turns of the functions of `Mailer` and of `SessionPool`, of which
  up to `n` looks at the stock are written down. What they ask of their pool is what `Pool` does for
  anybody who takes turns (`calling_acquire`).
* `Phase` says what an attempt is about to do, and `Follows` compares phases with an act, for
  every answer that its turns may get.
* `follows_attemptBy` — an attempt on a pool goes through these phases from its beginning to its
  end: it gets a session (`follows_prepareSession`) and delivers its message in it
  (`follows_deliver`). That the session is from the pool is not forgotten in between
  (`yields_prepareSession`).
-/

namespace Outbox.Mailer

open Smtp (Connection Request Dialogue)

/-! ## Turns -/

/-- What an attempt does in one turn. -/
inductive Move where
  /-- Looks at the clock. -/
  | clock
  /-- Changes the stock of the pool, under its lock. -/
  | change (f : Instant → Stock Connection → Stock Connection)
  | connect
  /-- Makes a request in a session. -/
  | say (session : Connection) (request : Request)
  /-- Sees whether the context has ended. -/
  | glance

/-- What comes of a move. -/
abbrev Move.Answer : Move → Type
  | clock => Instant
  | change _ => Instant × Stock Connection
  | connect => Result Connection
  | say _ request => Result request.Answer
  | glance => Option Error

/-- Whether a move takes time. -/
def Move.isWaiting : Move → Bool
  | connect | say _ _ => true
  | _ => false

/-- A move, and whether it may be cut short. -/
inductive Turn where
  | free (move : Move)
  | guarded (move : Move)

/-- What comes of a turn; an error if it is cut short. -/
abbrev Turn.Answer : Turn → Type
  | free move => move.Answer
  | guarded move => Result move.Answer

/-- Acts of which each turn is a move, and of which up to `n` looks at a pool are written down. -/
def Doing (_n : Nat) (α : Type) : Type := Turns Turn.Answer α

variable {n : Nat} {α β : Type}

instance : Monad (Doing n) := inferInstanceAs (Monad (Turns Turn.Answer))

/-- Carries a dialogue out in a session. -/
def talking (session : Connection) : Dialogue α → Doing n α
  | .finished result => .done result
  | .ask request next => .turn (.free (.say session request)) fun answer =>
    talking session (next answer)

/-- The same move, which may be cut short. -/
abbrev Turn.guard : Turn → Turn
  | free move | guarded move => guarded move

/-- What comes of a turn that was not cut short. -/
def Turn.unguard : (turn : Turn) → turn.guard.Answer → Result turn.Answer
  | free _, answer => answer
  | guarded _, .ok answer => .ok (.ok answer)
  | guarded _, .error e => .error e

/-- Lets all turns of an act be cut short, which ends the act. -/
def guard : Doing n α → Doing n α
  | .done result => .done result
  | .turn turn next => .turn turn.guard fun answer =>
    .bind (fun answer => guard (next answer)) (.done (turn.unguard answer))
  | .unfinished => .unfinished

/-- Attempts in turns. There is one stock, whatever its place is. -/
instance : Means (Doing n) where
  now := .make (Turn.free .clock)
  change _ f := .turn (.free (.change fun time stock => (f time stock).2)) fun seen =>
    .done (.ok (f seen.1 seen.2).1)
  loop _ look := Pool.Look.rounds .unfinished look n
  connect _ := .turn (.free .connect) .done
  talk := talking
  bounded _ _ x := .turn (.free .glance) fun
    | none => guard x
    | some e => .done (.error e)
  attempt := Turns.attempt
  ofResult := .done

/-! ## Calls on a pool of sessions -/

/-- The move of an attempt that makes a move of a call on its pool: a session is closed by QUIT
and probed by NOOP. -/
abbrev spoken : Pool.Move Connection → Move
  | .clock => .clock
  | .change f => .change f
  | .create => .connect
  | .close session => .say session (.command (Smtp.commandLine "QUIT"))
  | .probe session => .say session (.command (Smtp.commandLine "NOOP"))

/-- What a call on the pool makes of the answer. -/
def heard : (move : Pool.Move Connection) → (spoken move).Answer → move.Answer
  | .clock, time => time
  | .change _, seen => seen
  | .create, result => result
  | .close _, .ok reply => Smtp.Reply.assertPositive reply
  | .close _, .error e => .error e
  | .probe _, .ok reply => Smtp.Reply.isPositive reply
  | .probe _, .error _ => false

/-- A call on a pool as a part of an attempt. -/
def calling : Pool.Act Connection α → Doing n α
  | .done result => .done result
  | .turn move next => .turn (.free (spoken move)) fun answer => calling (next (heard move answer))
  | .unfinished => .unfinished

theorem calling_bind (x : Pool.Act Connection α) (f : α → Pool.Act Connection β) :
    (calling (x >>= f) : Doing n β) = calling x >>= fun a => calling (f a) := by
  induction x with
  | done result => cases result <;> rfl
  | turn move next ih =>
    apply congrArg (Turns.turn _)
    funext answer
    exact ih _
  | unfinished => rfl

/-- A pool of sessions makes, closes and probes connections. -/
abbrev fittings : Pool.Fittings := ⟨true, true, true⟩

/-- The keeper of a pool whose users take turns. -/
abbrev shared (n : Nat) : Keeper (Pool.Act Connection) Connection := fittings.keeper n

variable (p : SessionPool)

/-- A session is closed with one request, and what is answered makes no difference. -/
theorem calling_close (session : Connection) :
    (Pool.close p.keeper session : Doing n Unit) = calling (Pool.close (shared n) session) := by
  apply congrArg (Turns.turn _)
  funext answer
  rcases answer with e | reply
  · rfl
  · show (talking session (.ofResult (Smtp.Reply.assertPositive reply))).attempt >>= _ = _
    cases Smtp.Reply.assertPositive reply <;> rfl

/-- A session can be used if it answers well to one request. -/
theorem calling_isHealthy (session : Connection) :
    (Pool.isHealthy p.keeper session : Doing n Bool) =
      calling (Pool.isHealthy (shared n) session) := by
  apply congrArg (Turns.turn _)
  funext answer
  rcases answer with e | reply
  · rfl
  · -- The judgement of the reply is the answer to the probe.
    show (talking session (.ofResult (if Smtp.Reply.isPositive reply then .ok ()
      else .error (.unexpectedReply reply)))).attempt >>= _ =
        .done (.ok (Smtp.Reply.isPositive reply))
    cases Smtp.Reply.isPositive reply <;> rfl

theorem calling_create :
    (Pool.create p.keeper : Doing n (Option Connection)) = calling (Pool.create (shared n)) := by
  apply congrArg (Turns.turn _)
  funext answer
  cases answer <;> rfl

theorem calling_isUsable (item : Shelved Connection) :
    (p.pool.isUsable p.keeper item : Doing n Bool) =
      calling (p.pool.isUsable (shared n) item) := by
  apply congrArg (Turns.turn _)
  funext time
  show (if Instant.since time item.since ≤ p.pool.idleTtl then
      Pool.isHealthy p.keeper item.connection else pure false : Doing n Bool) =
    calling (if Instant.since time item.since ≤ p.pool.idleTtl then
      Pool.isHealthy (shared n) item.connection else pure false)
  rw [apply_ite calling, ← calling_isHealthy]
  rfl

/-- A look at the stock of a pool of sessions is a look at the stock of a pool. -/
theorem calling_look : (p.pool.look p.keeper : Doing n (Pool.Look Connection)) =
    calling (p.pool.look (shared n)) := by
  apply congrArg (Turns.turn _)
  funext seen
  simp only [Turns.bind, heard]
  cases seen.2.pop.1 with
  | none =>
    -- Nothing is stored, and a session is opened.
    dsimp only
    rw [calling_bind, calling_create]
    rfl
  | some item =>
    dsimp only
    rw [calling_bind, calling_isUsable]
    apply congrArg (calling _ >>= ·)
    funext usable
    cases usable with
    | false =>
      simp only [Bool.false_eq_true, if_false]
      rw [calling_bind, calling_close]
      rfl
    | true => rfl

/-- Looking again and again for a session is looking again and again for a connection. -/
theorem calling_acquire :
    (p.acquire : Doing n (Option Connection)) = calling (p.pool.acquire (shared n)) := by
  have rounds (looks : Nat) :
      (Pool.Look.rounds .unfinished (p.pool.look p.keeper) looks : Doing n (Option Connection)) =
        calling (Pool.Look.rounds .unfinished (p.pool.look (shared n)) looks) := by
    -- By induction on the looks that are written down.
    induction looks with
    | zero => rfl
    | succ looks ih =>
      change (p.pool.look p.keeper >>= _ : Doing n _) = calling (p.pool.look (shared n) >>= _)
      rw [calling_bind, ← calling_look]
      apply congrArg (p.pool.look p.keeper >>= ·)
      funext look
      cases look with
      | found connection => rfl
      | again => exact ih
  exact rounds n

/-! ## What acts give -/

/-- Whatever comes of its turns, the result of an act has a property. -/
def Yields {M : Type} {Answer : M → Type} (P : Result α → Prop) : Turns Answer α → Prop
  | .done result => P result
  | .turn _ next => ∀ answer, Yields P (next answer)
  | .unfinished => True

theorem Yields.bind {M : Type} {Answer : M → Type} {P : Result α → Prop} {Q : Result β → Prop}
    {x : Turns Answer α} {f : α → Turns Answer β} (h : Yields P x) (failed : ∀ e, Q (.error e))
    (hf : ∀ a, P (.ok a) → Yields Q (f a)) : Yields Q (x >>= f) := by
  induction x with
  | done result =>
    cases result with
    | ok a => exact hf a h
    | error e => exact failed e
  | turn move next ih =>
    intro answer
    exact ih _ (h answer)
  | unfinished => trivial

theorem yields_calling {P : Result α → Prop} {x : Pool.Act Connection α} (h : Yields P x) :
    Yields P (calling x : Doing n α) := by
  induction x with
  | done result => exact h
  | turn move next ih =>
    intro answer
    exact ih _ (h _)
  | unfinished => trivial

/-- An act that may be cut short gives what it gives or an error. -/
theorem Yields.bounded {P : Result α → Prop} {x : Doing n α} (h : Yields P x)
    (failed : ∀ e, P (.error e)) (c : Context) (deadline : Option Instant) :
    Yields P (Means.bounded c deadline x : Doing n α) := by
  have guarded : Yields P (guard x) := by
    induction x with
    | done result => exact h
    | turn turn next ih =>
      intro answer
      show Yields P (Turns.bind _ (.done (turn.unguard answer)))
      cases turn.unguard answer with
      | ok answer => exact ih answer (h answer)
      | error e => exact failed e
    | unfinished => trivial
  rintro (_ | ended)
  · exact guarded
  · exact failed ended

/-- A look at the stock closes a session or hands one out, unless it fails. -/
theorem yields_look : Yields (· ≠ .ok (.found none)) (p.pool.look p.keeper : Doing n _) := by
  rw [calling_look]
  apply yields_calling
  intro seen
  simp only [Turns.bind]
  cases seen.2.pop.1 with
  | none =>
    rintro (error | session)
    · rintro ⟨⟩
    · rintro counted ⟨⟩
  | some item =>
    intro time
    simp only [Turns.bind]
    split
    · rintro (unhealthy | healthy)
      · rintro closed ⟨⟩
      · rintro counted ⟨⟩
    · rintro closed ⟨⟩

/-- A pool that opens sessions does not run out of them. -/
theorem yields_acquire : Yields (· ≠ .ok none) (p.acquire : Doing n _) := by
  have rounds (looks : Nat) : Yields (· ≠ .ok none)
      (Pool.Look.rounds .unfinished (p.pool.look p.keeper) looks : Doing n _) := by
    -- By induction on the looks that are written down: a look that finds something finds a
    -- session.
    induction looks with
    | zero => trivial
    | succ looks ih =>
      refine (yields_look p).bind (fun _ => nofun) ?_
      rintro ((_ | session) | _) found
      · exact absurd rfl found
      · exact nofun
      · exact ih
  exact rounds n

/-- The pool that a session is from is remembered. -/
theorem yields_prepareSession (m : Mailer) (c : Context) (deadline : Option Instant) :
    Yields (fun result => ∀ s, result = .ok s → s.pool = some p)
      (m.prepareSession c deadline (some p) : Doing n Prepared) := by
  refine ((yields_acquire p).bounded (fun _ => nofun) c deadline).bind (fun _ _ => nofun) ?_
  rintro (_ | session) found
  · exact absurd rfl found
  · rintro s ⟨⟩
    rfl

/-! ## Phases of an attempt -/

/-- What an attempt on a pool is about to do. -/
inductive Phase where
  /-- To see whether the context has ended, before it looks for a session. -/
  | ready (e : Envelope)
  /-- To take a session from the pool. -/
  | seeking (e : Envelope) (call : Pool.Call Connection)
  /-- To see whether the context has ended, before it uses its session. -/
  | reaching (e : Envelope) (session : Connection)
  /-- To hand its message over in its session. -/
  | talking (session : Connection) (request : Request)
      (next : Result request.Answer → Dialogue Unit)
  /-- It has succeeded, and is to put its session back. -/
  | returning (session : Connection)
  /-- It has succeeded, and is to close its session, for which there was no room. -/
  | rejecting (session : Connection)
  /-- It has failed, and is to give its session up. -/
  | dropping (session : Connection)

/-- Somebody who makes an attempt, then another one, and so on. -/
inductive Sender where
  | resting
  | trying (phase : Phase)
  | finished (succeeded : Bool)

namespace Sender

/-- Goes on looking for a session. -/
def toSeek (e : Envelope) : Pool.Caller Connection → Sender
  | .resting => finished false
  | .holding session => trying (.reaching e session)
  | .calling call => trying (.seeking e call)

/-- Goes on with what is to be said. The pool gets a session back only if all went well. -/
def toTalk (session : Connection) : Dialogue Unit → Sender
  | .finished (.ok ()) => trying (.returning session)
  | .finished (.error _) => trying (.dropping session)
  | .ask request next => trying (.talking session request next)

end Sender

namespace Phase

variable (p : Pool)

/-- The next turn of an attempt. Only while it looks for a session and while it uses one, it
can be cut short. -/
abbrev turn : Phase → Turn
  | ready _ | reaching _ _ => .free .glance
  | seeking _ call => .guarded (spoken (call.move p))
  | talking session request _ => .guarded (.say session request)
  | returning session => .free (spoken (Pool.Call.move p (.returning session)))
  | rejecting session => .free (spoken (Pool.Call.move p (.rejecting session)))
  | dropping session => .free (spoken (Pool.Call.move p (.dropping session)))

/-- Where a sender stands after the next turn of an attempt. -/
def after : (phase : Phase) → (phase.turn p).Answer → Sender
  | ready e, none => .trying (.seeking e .taking)
  | ready _, some _ => .finished false
  | seeking e call, .ok answer =>
    .toSeek e (call.after p fittings (heard (call.move p) answer))
  | seeking _ _, .error _ => .finished false
  | reaching e session, none => .toTalk session (resend e)
  | reaching _ session, some _ => .trying (.dropping session)
  | talking session _ next, .ok answer => .toTalk session (next answer)
  | talking session _ _, .error _ => .trying (.dropping session)
  | returning session, (time, stock) =>
    match (stock.putBack p.maxIdle session time).1 with
    | some rejected => .trying (.rejecting rejected)
    | none => .finished true
  | rejecting _, _ => .finished true
  | dropping _, _ => .finished false

end Phase

/-! ## Acts that follow phases -/

/-- An act does what a sender does who stands at `sender`, whatever comes of its turns, and
`standing` says where its result leaves the sender. Of an act that is not written down to its end
this is said of what is. -/
inductive Follows (p : Pool) (standing : Result α → Sender) : Sender → Doing n α → Prop where
  | done {sender : Sender} {result : Result α} (h : standing result = sender) :
      Follows p standing sender (.done result)
  | turn (phase : Phase) (next : (phase.turn p).Answer → Doing n α)
      (h : ∀ answer, Follows p standing (phase.after p answer) (next answer)) :
      Follows p standing (.trying phase) (.turn (phase.turn p) next)
  | unfinished {sender : Sender} : Follows p standing sender .unfinished

/-- Where a look at the stock leaves a sender. After a look in which a session was closed there
is another one. -/
def afterLook (e : Envelope) (result : Result (Pool.Look Connection)) : Sender :=
  .toSeek e (Pool.afterLook result)

/-- Where a sender stands after taking a session from the pool. -/
def afterAcquire (e : Envelope) (result : Result (Option Connection)) : Sender :=
  .toSeek e (Pool.afterAcquire result)

/-- Where a sender stands who has a session for an attempt. -/
def afterPrepare (e : Envelope) : Result Prepared → Sender
  | .ok s => .trying (.reaching e s.session)
  | .error _ => .finished false

/-- Where an attempt leaves a sender. -/
def afterAttempt (result : Result Unit) : Sender := .finished result.isOk

/-- One act after another. The second one begins where the first one leaves off. -/
theorem Follows.bind {p : Pool} {standing : Result α → Sender} {standing' : Result β → Sender}
    {P : Result α → Prop} {sender : Sender} {x : Doing n α} {f : α → Doing n β}
    (h : Follows p standing sender x) (yields : Yields P x)
    (failed : ∀ e, standing' (.error e) = standing (.error e))
    (hf : ∀ a, P (.ok a) → Follows p standing' (standing (.ok a)) (f a)) :
    Follows p standing' sender (x >>= f) := by
  induction h with
  | @done sender result same =>
    subst same
    cases result with
    | ok a => exact hf a yields
    | error e => exact .done (failed e)
  | turn phase next _ ih =>
    refine .turn phase _ ?_
    intro answer
    exact ih answer (yields answer)
  | unfinished => exact .unfinished

/-- What follows a call while it can be cut short follows the search for a session. -/
theorem Follows.guard_calling {p : Pool} {e : Envelope}
    {standing : Result α → Pool.Caller Connection}
    (failed : ∀ error, standing (.error error) = .resting)
    {caller : Pool.Caller Connection} {x : Pool.Act Connection α}
    (h : Pool.Follows p fittings standing caller x) :
    Follows p (fun result => .toSeek e (standing result)) (.toSeek e caller)
      (guard (calling x) : Doing n α) := by
  induction h with
  | done same => exact .done (congrArg _ same)
  | turn call next _ ih =>
    refine .turn (.seeking e call) _ ?_
    rintro (error | answer)
    · -- Cut short: the search is at its end.
      apply Follows.done
      rw [failed]
      rfl
    · exact ih _
  | unfinished => exact .unfinished

/-- An act does not begin if its context has ended. -/
theorem Follows.bounded {p : Pool} {standing : Result α → Sender} {e : Envelope} {x : Doing n α}
    (h : Follows p standing (.trying (.seeking e .taking)) (guard x))
    (failed : ∀ error, standing (.error error) = .finished false) (c : Context)
    (deadline : Option Instant) :
    Follows p standing (.trying (.ready e)) (Means.bounded c deadline x) := by
  refine .turn (.ready e) _ ?_
  rintro (_ | ended)
  · exact h
  · exact .done (failed ended)

theorem follows_look (e : Envelope) :
    Follows p.pool (afterLook e) (.trying (.seeking e .taking))
      (guard (p.pool.look p.keeper) : Doing n _) := by
  rw [calling_look]
  exact Follows.guard_calling (fun _ => rfl) (Pool.follows_look p.pool fittings n)

theorem follows_acquire (e : Envelope) :
    Follows p.pool (afterAcquire e) (.trying (.seeking e .taking))
      (guard p.acquire : Doing n _) := by
  rw [calling_acquire]
  exact Follows.guard_calling (fun _ => rfl) (Pool.follows_acquire p.pool fittings n)

/-- An attempt that is to use a session of a pool gets one, or it fails. -/
theorem follows_prepareSession (m : Mailer) (c : Context) (deadline : Option Instant)
    (e : Envelope) :
    Follows p.pool (afterPrepare e) (.trying (.ready e))
      (m.prepareSession c deadline (some p) : Doing n Prepared) := by
  have acquires := (follows_acquire p (n := n) e).bounded (fun _ => rfl) c deadline
  refine acquires.bind ((yields_acquire p).bounded (fun _ => nofun) c deadline) (fun _ => rfl) ?_
  rintro (_ | session) found
  · exact absurd rfl found
  · exact .done rfl

/-- A session that is put back is closed if there is no room for it. -/
theorem follows_release (session : Connection) :
    Follows p.pool afterAttempt (.trying (.returning session))
      (p.release session >>= fun _ => .done (.ok ()) : Doing n Unit) := by
  refine .turn (.returning session) _ ?_
  intro seen
  simp only [Phase.after, Turns.bind]
  cases (seen.2.putBack p.pool.maxIdle session seen.1).1 with
  | none => exact .done rfl
  | some rejected =>
    dsimp only
    rw [calling_close]
    refine .turn (.rejecting rejected) _ ?_
    intro closed
    exact .done rfl

theorem follows_discard (session : Connection) (error : Error) :
    Follows p.pool afterAttempt (.trying (.dropping session))
      (p.discard >>= fun _ => .done (.error error) : Doing n Unit) :=
  .turn (.dropping session) _ fun _ => .done rfl

theorem follows_talking (session : Connection) (d : Dialogue Unit) :
    Follows p.pool afterAttempt (.toTalk session d) (do
      let result ← Means.attempt (guard (talking session d))
      leave ⟨session, some p⟩ result
      Means.ofResult result : Doing n Unit) := by
  induction d with
  | finished result =>
    cases result with
    | ok _ => exact follows_release p session
    | error error => exact follows_discard p session error
  | ask request next ih =>
    refine .turn (.talking session request next) _ ?_
    rintro (error | answer)
    · -- Cut short while it waits for the answer.
      exact follows_discard p session error
    · exact ih answer

theorem follows_deliver (c : Context) (deadline : Option Instant) (e : Envelope)
    (session : Connection) :
    Follows p.pool afterAttempt (.trying (.reaching e session))
      (deliver c deadline e ⟨session, some p⟩ : Doing n Unit) := by
  refine .turn (.reaching e session) _ ?_
  rintro (_ | ended)
  · exact follows_talking p session (resend e)
  · exact follows_discard p session ended

/-- A whole attempt on a pool. -/
theorem follows_attemptBy (m : Mailer) (c : Context) (deadline : Option Instant) (e : Envelope) :
    Follows p.pool afterAttempt (.trying (.ready e))
      (m.attemptBy c deadline (some p) e : Doing n Unit) := by
  refine (follows_prepareSession p m c deadline e).bind
    (yields_prepareSession p m c deadline) (fun _ => rfl) ?_
  rintro ⟨session, pool⟩ remembered
  obtain rfl : pool = some p := remembered _ rfl
  exact follows_deliver p c deadline e session

end Outbox.Mailer
