import Outbox.Build
import Outbox.Means

/-!
# Outbox.Mailer — sending messages

A mailer hands messages over to one server. A send takes a token, builds the payload and
then makes attempts as its schedule allows, until one succeeds, one fails for good, or
the context of the send ends.

* `Mailer.attempt` is one attempt, on a pooled session or on a session of its own.
* `Mailer.tryOnce` is one try: the hooks, the delay, the attempt, and what follows from it.
* `Mailer.tries` makes tries until one decides the send.
* `Mailer.send` is the whole send.
-/

namespace Outbox

/-! ## Tokens -/

/-- The most often a send asks for a token before it gives up. Every refusal tells how long
to wait, so more than a few are never needed by one who waits alone. -/
abbrev askLimit : Nat := 1000000

/-- Takes a token from a bucket, after as many refusals as it takes. -/
def waitForToken (slot : Nat) : Nat → Act Unit
  | 0 => Act.stuck
  | n + 1 => do
    let taking ← Act.changing fun w =>
      let (taking, bucket) := (w.buckets slot).take w.now
      (taking, { w with buckets := World.put w.buckets slot bucket })
    match taking with
    | .granted => pure ()
    | .refused d => do
      Act.sleep (max d leastWait)
      waitForToken slot n
    | .unbounded => Act.overflow

/-! ## Mailers -/

/-- Hands messages over to one server. -/
structure Mailer where
  settings : ServerSettings
  endpoint : Smtp.Endpoint
  pool : Option SessionPool
deriving DecidableEq

/-- What is handed over. -/
structure Envelope where
  sender : String
  recipients : List String
  payload : Octets
deriving DecidableEq, Repr

namespace Mailer

/-- A mailer on a machine of this name. If it keeps sessions, their stock is at `slot`. -/
def make (settings : ServerSettings) (machine : String) (slot : Nat) : Mailer :=
  let endpoint := settings.endpoint machine
  { settings
    endpoint
    pool := if settings.poolMaxIdle = 0 then none
      else some ⟨slot, .make settings.poolMaxIdle settings.poolIdleTtl, endpoint⟩ }

/-- The end of an attempt that begins now: the deadline of its context, or else the time that
the settings allow. -/
def deadline (m : Mailer) (c : Context) : Act (Option Instant) := do
  match c.deadline with
  | some deadline => pure (some deadline)
  | none =>
    if m.settings.timeout.isZero then pure none
    else
      match (← Act.now).after? m.settings.timeout with
      | some deadline => pure (some deadline)
      | none => Act.overflow

section Attempts

variable {a : Type → Type} [Monad a] [Means a]

/-- Hands a message over in a session that may have been used before. -/
def resend (e : Envelope) : Smtp.Dialogue Unit := do
  Smtp.rset.atStage .reset
  Smtp.sendEnvelope e.sender e.recipients e.payload

/-- A session for an attempt, and the pool that it is from, if it is from one. -/
structure Prepared where
  session : Smtp.Connection
  pool : Option SessionPool

/-- Opens a session for an attempt. -/
def openSession (m : Mailer) (c : Context) (deadline : Option Instant) : a Prepared := do
  return ⟨← Means.bounded c deadline (Means.connect m.endpoint), none⟩

/-- Takes a session from a pool, if there is one that has one, or else opens one. -/
def prepareSession (m : Mailer) (c : Context) (deadline : Option Instant) :
    Option SessionPool → a Prepared
  | none => m.openSession c deadline
  | some p => do
    match ← Means.bounded c deadline p.acquire with
    | some session => return ⟨session, some p⟩
    | none => m.openSession c deadline

/-- What is said in a session to deliver a message. -/
def Prepared.dialogue (s : Prepared) (e : Envelope) : Smtp.Dialogue Unit :=
  match s.pool with
  | some _ => resend e
  | none => Smtp.sendEnvelope e.sender e.recipients e.payload

/-- Hands a message over in a session, for as long as the context and the attempt go on. -/
def transact (c : Context) (deadline : Option Instant) (e : Envelope) (s : Prepared) : a Unit :=
  Means.bounded c deadline (Means.talk s.session (s.dialogue e))

/-- Leaves a session after an attempt. A pool gets it back only if that succeeded. A session of
its own is ended only then; it does not matter how. -/
def leave (s : Prepared) (result : Result Unit) : a Unit :=
  match s.pool, result with
  | some p, .ok () => p.release s.session
  | some p, .error _ => p.discard
  | none, .ok () => do
    let _ ← Means.attempt (Means.talk s.session Smtp.quit)
  | none, .error _ => pure ()

/-- Delivers a message in a session. -/
def deliver (c : Context) (deadline : Option Instant) (e : Envelope) (s : Prepared) : a Unit := do
  let result ← Means.attempt (transact c deadline e s)
  leave s result
  Means.ofResult result

/-- Makes one attempt, which has to end by a time if one is given. -/
def attemptBy (m : Mailer) (c : Context) (deadline : Option Instant) (pool : Option SessionPool)
    (e : Envelope) : a Unit := do
  deliver c deadline e (← m.prepareSession c deadline pool)

end Attempts

/-- Makes one attempt. -/
def attempt (m : Mailer) (c : Context) (pool : Option SessionPool) (e : Envelope) : Act Unit := do
  m.attemptBy c (← m.deadline c) pool e

/-- Calls a hook and gives the context to go on with. -/
def tell (c : Context) (call : Instant → Ambient → Ambient) : Act Context :=
  Act.changing fun w =>
    let a := call w.now (w.ambient c)
    (a.context, w.heed a)

/-- Asks the schedule for the delay before an attempt. -/
def ask (s : Schedule) (draw : Nat → Nat) (attempt : Nat) : Act (Option Duration) :=
  Act.changing fun w =>
    let delay := s.next attempt (draw attempt)
    (delay, { w with journal := w.journal ++ [.asked attempt delay] })

/-- Ends an attempt with a result. -/
def close (hooks : Hooks) (c : Context) (attempt : Nat) (result : Result Unit) : Act Context :=
  tell c (hooks.attemptDone attempt (errorOf? result))

/-- What a send needs for its attempts. -/
structure Plan where
  schedule : Schedule
  /-- The numbers that are drawn for the attempts. -/
  draw : Nat → Nat
  hooks : Hooks
  pool : Option SessionPool
  envelope : Envelope

/-- Waits before an attempt. -/
def pause (c : Context) (delay : Duration) : Act Unit :=
  if delay.isZero then pure () else Act.under c (Act.sleep delay)

/-- Where a send stands before a try: the number of the try, the context to go on with, and
the error of the try before. -/
structure Standing where
  attempt : Nat
  context : Context
  last : Option Error

/-- What comes of a try. -/
inductive Verdict where
  | again (next : Standing)
  | decided (result : Result Unit)

/-- Makes the attempt of a try. Another try follows only if it failed for the time being and
the context has not ended. -/
def tryAttempt (m : Mailer) (p : Plan) (s : Standing) (c : Context) : Act Verdict := do
  let result ← (m.attempt c p.pool p.envelope).attempt
  let c ← close p.hooks c s.attempt result
  match result with
  | .ok () => return .decided result
  | .error e =>
    if e.isTransient && (← Act.failureOf c).isNone then
      return .again ⟨s.attempt + 1, c, some e⟩
    else return .decided result

/-- Makes a try: waits as long as the schedule says and then makes the attempt. -/
def tryOnce (m : Mailer) (p : Plan) (s : Standing) : Act Verdict := do
  let c ← tell s.context (p.hooks.attemptStart s.attempt)
  match ← ask p.schedule p.draw s.attempt with
  | none =>
    let e := Error.exhausted s.attempt s.last
    let _ ← close p.hooks c s.attempt (.error e)
    return .decided (.error e)
  | some delay =>
    match ← (pause c delay).attempt with
    | .error e =>
      let _ ← close p.hooks c s.attempt (.error e)
      return .decided (.error e)
    | .ok () => m.tryAttempt p s c

/-- Makes tries until one decides the send, `n` at most. -/
def tries (m : Mailer) (p : Plan) : Nat → Standing → Act Unit
  | 0, _ => Act.stuck
  | n + 1, s => do
    match ← m.tryOnce p s with
    | .decided result => Act.ofResult result
    | .again next => tries m p n next

/-- Builds the payload of a message. -/
def prepare (m : Message) (s : SendSettings) (o : Mime.Occasion) (c : Context) :
    Act (Octets × Context) := do
  let (result, c) ← Act.changing fun w =>
    let (result, a) := build m s.toFinishing (s.hooks.getD {}) o w.now (w.ambient c)
    ((result, a.context), w.heed a)
  return (← Act.ofResult result, c)

/-- Takes a token, if the rate of sends is limited. -/
def takeToken (c : Context) (s : SendSettings) : Act Unit :=
  match s.rateLimit with
  | some slot => Act.under c (waitForToken slot askLimit)
  | none => pure ()

/-- What the attempts to send a message need, once its payload is built. -/
def planFor (m : Mailer) (message : Message) (s : SendSettings) (draw : Nat → Nat)
    (payload : Octets) : Plan where
  schedule := s.schedule.getD .single
  draw := draw
  hooks := s.hooks.getD {}
  pool := s.pool <|> m.pool
  envelope := ⟨message.sender.bare, message.recipients, payload⟩

/-- Does what comes before the first try: takes a token and builds the payload. -/
def begin (m : Mailer) (c : Context) (message : Message) (s : SendSettings) (o : Mime.Occasion)
    (draw : Nat → Nat) : Act (Plan × Context) := do
  takeToken c s
  let (payload, c) ← prepare message s o c
  return (m.planFor message s draw payload, c)

/-- Sends a message. -/
def send (m : Mailer) (c : Context) (message : Message) (s : SendSettings) (o : Mime.Occasion)
    (draw : Nat → Nat) : Act Unit := do
  let (plan, c) ← m.begin c message s o draw
  m.tries plan (plan.schedule.limit + 1) ⟨0, c, none⟩

end Mailer
end Outbox
