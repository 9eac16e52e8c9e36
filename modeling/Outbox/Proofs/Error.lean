import Outbox.Mailer

/-!
# Outbox.Proofs.Error — where errors come from

Every part of a send fails with errors of certain kinds.

* What is decided in one place fails with local errors: validating a message and building its
  payload (`FailsWith.validate`, `FailsWith.payload`).
* A request fails with `Error.OfRequest`, and a dialogue on requests with errors that name the
  step at which it stopped (`Smtp.Dialogue.FailsWith.setUp`, `.sendEnvelope`, `.resend`).
* A context that ends has errors of its own, and a send that has no attempts left has one.
-/

namespace Outbox

/-! ## Kinds of errors -/

namespace Error

/-- The errors of a context that has ended. -/
inductive IsContextual : Error → Prop where
  | cancelled : IsContextual .cancelled
  | deadlineExceeded : IsContextual .deadlineExceeded

/-- An error that arose where it is reported: it names no step, counts no attempts and is not
the end of a context. -/
def IsLocal : Error → Prop
  | step _ _ | exhausted _ _ | cancelled | deadlineExceeded => False
  | _ => True

/-- The errors of a link on which an answer is awaited. -/
inductive OfLink : Error → Prop where
  | stream (cause : StreamError) : OfLink (.stream cause)
  | unparseableReply : OfLink .unparseableReply
  | timeout : OfLink .timeout

/-- The errors of a request and of judging its answer, whatever the server does. -/
inductive OfRequest : Error → Prop where
  | link {e : Error} (ofLink : e.OfLink) : OfRequest e
  | tls : OfRequest .tls
  | unexpectedReply (reply : Smtp.Reply) : OfRequest (.unexpectedReply reply)

/-- The errors of an attempt that no context ends: its time is over, or a step failed. -/
inductive OfAttempt : Error → Prop where
  | timeout : OfAttempt .timeout
  | step (stage : Smtp.Stage) {cause : Error} (isLocal : cause.IsLocal) :
      OfAttempt (.step stage cause)

/-- The errors of a try to deliver a message. -/
def OfTry (e : Error) : Prop := e.OfAttempt ∨ e.IsContextual

/-- An error that does not say that no attempts are left. -/
def IsOrdinary (e : Error) : Prop := ∀ attempts last, e ≠ .exhausted attempts last

variable {e : Error}

theorem OfRequest.isLocal (h : e.OfRequest) : e.IsLocal := by
  rcases h with ⟨_ | _ | _⟩ | _ | _ <;> trivial

theorem IsLocal.isOrdinary (h : e.IsLocal) : e.IsOrdinary := by
  rintro attempts last rfl
  exact h

theorem OfAttempt.isOrdinary (h : e.OfAttempt) : e.IsOrdinary := by
  cases h <;> exact nofun

theorem IsContextual.isOrdinary (h : e.IsContextual) : e.IsOrdinary := by
  cases h <;> exact nofun

theorem OfTry.isOrdinary (h : e.OfTry) : e.IsOrdinary := by
  rcases h with h | h
  · exact h.isOrdinary
  · exact h.isOrdinary

/-- A local error is not the end of a context, so it is named as the failure of a step. -/
theorem IsLocal.atStage (h : e.IsLocal) (stage : Smtp.Stage) : e.atStage stage = .step stage e := by
  cases e <;> first | rfl | exact h.elim

theorem IsLocal.ofAttempt (h : e.IsLocal) (stage : Smtp.Stage) : (e.atStage stage).OfAttempt := by
  rw [h.atStage stage]
  exact .step stage h

end Error

/-! ## Results -/

/-- If this is a failure, its error is one of these. -/
def FailsWith {α : Type} (E : Error → Prop) (result : Result α) : Prop :=
  ∀ e, result = .error e → E e

namespace FailsWith

variable {α β : Type} {E : Error → Prop}

theorem ok (a : α) : FailsWith E (.ok a) := fun _ => nofun

theorem error {e : Error} (h : E e) : FailsWith E (.error e : Result α) := by
  intro e' same
  cases same
  exact h

theorem bind {r : Result α} {f : α → Result β} (hr : FailsWith E r)
    (hf : ∀ a, FailsWith E (f a)) : FailsWith E (r >>= f) := by
  cases r with
  | ok a => exact hf a
  | error e => exact .error (hr e rfl)

theorem map {r : Result α} {f : α → β} (hr : FailsWith E r) : FailsWith E (r.map f) := by
  cases r with
  | ok a => exact .ok _
  | error e => exact .error (hr e rfl)

theorem mapM {f : α → Result β} (hf : ∀ a, FailsWith E (f a)) (items : List α) :
    FailsWith E (items.mapM f) := by
  induction items with
  | nil => exact .ok _
  | cons item rest ih =>
    rw [List.mapM_cons]
    exact .bind (hf item) fun _ => .bind ih fun _ => .ok _

theorem readAll (s : Source) : FailsWith Error.IsLocal s.readAll := by
  unfold Source.readAll
  split
  · exact .ok _
  · split
    · exact .ok _
    · exact .error trivial

theorem sign (c : Mime.Composed) (dkim : Option Dkim.Settings) (time : Nat) :
    FailsWith Error.IsLocal (c.sign dkim time) := by
  cases dkim with
  | none => exact .ok _
  | some settings =>
    rw [Mime.Composed.sign]
    cases settings.signAt c.headers c.body time with
    | error e => exact .error trivial
    | ok signature => exact .ok _

theorem compose (m : Message) (f : Mime.Finishing) (o : Mime.Occasion) :
    FailsWith Error.IsLocal (Mime.compose m f o) := by
  rw [Mime.compose]
  split
  · cases m.text? with
    | none => cases m.html? <;> exact .ok _
    | some text => cases m.html? <;> exact .ok _
  · exact .map (.mapM (fun attachment => .map (.readAll _)) _)

theorem payload (m : Message) (f : Mime.Finishing) (o : Mime.Occasion) :
    FailsWith Error.IsLocal (Mime.payload m f o) := by
  refine .bind ?_ fun composed => .bind ?_ fun signed => .ok _
  · exact .compose m f o
  · exact .sign _ _ _

theorem check (a : Address) : FailsWith Error.IsLocal a.check := by
  unfold Address.check
  exact iteInduction (fun _ => ok ()) (fun _ => error trivial)

theorem checkAll (addresses : List Address) :
    FailsWith Error.IsLocal (Message.checkAll addresses) := by
  induction addresses with
  | nil => exact .ok _
  | cons a rest ih =>
    rw [Message.checkAll]
    split
    · exact ih
    · have checked := check a
      split
      · exact ih
      next e failed => exact .error (checked e failed)

theorem validate (m : Message) : FailsWith Error.IsLocal m.validate := by
  unfold Message.validate
  dsimp only
  split
  · exact .error trivial
  · refine .bind (.check _) fun _ => .bind (.checkAll _) fun _ => ?_
    split
    · exact .error trivial
    · split
      · exact .ok _
      · exact .error trivial

theorem commandMailbox (mailbox : String) :
    FailsWith Error.IsLocal (Smtp.commandMailbox mailbox) := by
  unfold Smtp.commandMailbox
  exact iteInduction (fun _ => ok mailbox) (fun _ => error trivial)

theorem assertPositive (reply : Smtp.Reply) : FailsWith Error.OfRequest reply.assertPositive := by
  unfold Smtp.Reply.assertPositive
  exact iteInduction (fun _ => ok ()) (fun _ => error (.unexpectedReply reply))

theorem assertCode (reply : Smtp.Reply) (code : Nat) :
    FailsWith Error.OfRequest (reply.assertCode code) := by
  unfold Smtp.Reply.assertCode
  exact iteInduction (fun _ => ok ()) (fun _ => error (.unexpectedReply reply))

theorem respond (m : Smtp.Mechanism) (c : Smtp.Credentials) (challenge : String) :
    FailsWith Error.IsLocal (m.respond c challenge) := by
  have decoded : FailsWith Error.IsLocal (Smtp.Mechanism.decodeChallenge challenge) := by
    unfold Smtp.Mechanism.decodeChallenge
    split
    · exact .ok _
    · exact .error trivial
  refine .map ?_
  unfold Smtp.Mechanism.answer
  cases m with
  | plain => exact .ok _
  | login =>
    dsimp only
    split
    next e failed => exact .error (decoded e failed)
    next =>
      refine iteInduction (fun _ => ok _) fun _ => ?_
      exact iteInduction (fun _ => ok _) (fun _ => error trivial)
  | cramMd5 =>
    dsimp only
    split
    next e failed => exact .error (decoded e failed)
    next => exact .ok _

end FailsWith

/-! ## Requests -/

/-- The errors with which a request can be answered. -/
inductive Smtp.Request.Fails : Request → Error → Prop where
  | link (r : Request) {e : Error} (ofLink : e.OfLink) : Fails r e
  /-- The answer to EHLO is judged as it is read. -/
  | refused (host : String) (reply : Reply) : Fails (.hello host) (.unexpectedReply reply)
  | tls (server : String) : Fails (.secure server) .tls

theorem Smtp.Request.Fails.ofRequest {r : Request} {e : Error} (h : r.Fails e) : e.OfRequest := by
  cases h with
  | link _ ofLink => exact .link ofLink
  | refused _ reply => exact .unexpectedReply reply
  | tls _ => exact .tls

theorem HandshakeFault.fails_error (fault : HandshakeFault) (server : String) :
    (Smtp.Request.secure server).Fails fault.error := by
  cases fault with
  | protocol => exact .tls server
  | stream e =>
    rw [HandshakeFault.error]
    cases e.text with
    | message text => exact .link _ (.stream e)
    | _ => exact .link _ (.stream _)

theorem Link.fails_write (l : Link) (octets : Octets) :
    FailsWith Error.OfLink (l.write octets).1 := by
  unfold Link.write
  split
  · exact .ok _
  · split
    · exact .ok _
    · exact .error (.stream _)

namespace Smtp

/-- The reader refuses what it reads only with such errors. -/
def Reader.IsApt {σ α : Type} (E : Error → Prop) (r : Reader σ α) : Prop :=
  ∀ s b result, r.step s b = .finished result → FailsWith E result

theorem Reader.IsApt.feed {σ α : Type} {E : Error → Prop} {r : Reader σ α} (h : r.IsApt E) {s : σ}
    {octets : Octets} {result : Result α} (finished : r.feed s octets = .finished result) :
    FailsWith E result := by
  induction octets generalizing s with
  | nil => cases finished
  | cons b rest ih =>
    rw [Reader.feed] at finished
    split at finished
    next => exact ih finished
    next result' step =>
      obtain rfl := Progress.finished.inj finished
      exact h s b result' step

/-- A reply is refused in one way only. -/
theorem isApt_replyReader_unparseable : replyReader.IsApt fun e => e = .unparseableReply := by
  intro s b result finished
  change s.step b = .finished result at finished
  unfold ReplyState.step at finished
  split at finished
  · cases finished
    exact .error rfl
  · -- A line feed ends the reply or not, and every other octet is taken.
    split at finished
    · split at finished
      · cases finished
        exact .ok _
      · cases finished
    · cases finished

theorem isApt_replyReader : replyReader.IsApt Error.OfLink := by
  intro s b result finished e same
  rw [isApt_replyReader_unparseable s b result finished e same]
  exact .unparseableReply

theorem isApt_ehloReader (host : String) : ehloReader.IsApt (Request.hello host).Fails := by
  intro s b result finished
  change s.step b = .finished result at finished
  unfold AnswerState.step at finished
  split at finished
  · split at finished <;> cases finished
    · exact .ok _
    · exact .error (.link _ .unparseableReply)
  next s =>
    -- A refusal is a reply, and is read as one.
    split at finished
    · cases finished
    · cases finished
      exact .error (.refused host _)
    next e refused =>
      cases finished
      exact .error (.link _ (isApt_replyReader s b _ refused e rfl))

end Smtp

/-! ## Dialogues -/

/-- If the dialogue fails, its error is one of these, whatever is answered to its requests. -/
def Smtp.Dialogue.FailsWith {α : Type} (E : Error → Prop) : Smtp.Dialogue α → Prop
  | .finished result => Outbox.FailsWith E result
  | .ask r next => ∀ answer, Outbox.FailsWith r.Fails answer → (next answer).FailsWith E

namespace Smtp.Dialogue.FailsWith

variable {α β : Type} {E E' : Error → Prop}

theorem pure (a : α) : Dialogue.FailsWith E (Pure.pure a : Dialogue α) := .ok a

theorem fail {e : Error} (h : E e) : Dialogue.FailsWith E (Dialogue.fail e : Dialogue α) := .error h

theorem ofResult {result : Result α} (h : Outbox.FailsWith E result) :
    Dialogue.FailsWith E (Dialogue.ofResult result) := h

theorem bind {d : Dialogue α} {f : α → Dialogue β} (hd : d.FailsWith E)
    (hf : ∀ a, (f a).FailsWith E) : Dialogue.FailsWith E (d >>= f) := by
  induction d with
  | finished result =>
    cases result with
    | ok a => exact hf a
    | error e => exact .error (hd e rfl)
  | ask r next ih => exact fun answer fails => ih answer (hd answer fails)

theorem mono {d : Dialogue α} (h : d.FailsWith E) (hE : ∀ e, E e → E' e) : d.FailsWith E' := by
  induction d with
  | finished result => exact fun e same => hE e (h e same)
  | ask r next ih => exact fun answer fails => ih answer (h answer fails)

/-- What follows a dialogue that is tried gets its result, which may be an error. -/
theorem attempt_bind {d : Dialogue α} {f : Result α → Dialogue β} (hd : d.FailsWith E)
    (hf : ∀ result, Outbox.FailsWith E result → (f result).FailsWith E') :
    Dialogue.FailsWith E' (d.attempt >>= f) := by
  induction d with
  | finished result => exact hf result hd
  | ask r next ih => exact fun answer fails => ih answer (hd answer fails)

theorem atStage (stage : Stage) {d : Dialogue α} (hd : d.FailsWith Error.IsLocal) :
    (d.atStage stage).FailsWith Error.OfAttempt := by
  induction d with
  | finished result =>
    cases result with
    | ok a => exact .ok a
    | error e => exact .error ((hd e rfl).ofAttempt stage)
  | ask r next ih => exact fun answer fails => ih answer (hd answer fails)

theorem request (r : Request) : (Dialogue.request r).FailsWith Error.OfRequest :=
  fun _ fails e same => (fails e same).ofRequest

theorem perform (text : String) : (Smtp.perform text).FailsWith Error.OfRequest :=
  .bind (.request _) fun reply => .assertPositive reply

theorem isLocal {d : Dialogue α} (h : d.FailsWith Error.OfRequest) : d.FailsWith Error.IsLocal :=
  h.mono fun _ => Error.OfRequest.isLocal

theorem mailFrom (mailbox : String) : (Smtp.mailFrom mailbox).FailsWith Error.IsLocal :=
  .bind (.ofResult (.commandMailbox mailbox)) fun _ => (perform _).isLocal

theorem rcptTo (mailbox : String) : (Smtp.rcptTo mailbox).FailsWith Error.IsLocal :=
  .bind (.ofResult (.commandMailbox mailbox)) fun _ => (perform _).isLocal

theorem data (content : Octets) : (Smtp.data content).FailsWith Error.OfRequest :=
  .bind (.request _) fun reply => .bind (.assertCode reply 354) fun _ =>
    .bind (.request (.message content)) fun reply => .assertPositive reply

theorem sendEnvelope (sender : String) (recipients : List String) (message : Octets) :
    (Smtp.sendEnvelope sender recipients message).FailsWith Error.OfAttempt := by
  refine .bind (.atStage _ (.mailFrom sender)) fun _ => .bind ?_ fun _ =>
    .atStage _ (data message).isLocal
  induction recipients with
  | nil => exact .pure ()
  | cons mailbox rest ih => exact .bind (.atStage _ (.rcptTo mailbox)) fun _ => ih

theorem resend (e : Envelope) : (Mailer.resend e).FailsWith Error.OfAttempt :=
  .bind (.atStage _ (perform "RSET").isLocal) fun _ => .sendEnvelope _ _ _

theorem greet : Smtp.greet.FailsWith Error.OfAttempt :=
  .atStage _ (isLocal (.bind (.request .listen) fun reply => .assertPositive reply))

theorem introduce (e : Endpoint) : e.introduce.FailsWith Error.OfAttempt :=
  .atStage _ (request (.hello e.localHost)).isLocal

theorem secureAs (server : String) : (Smtp.secureAs server).FailsWith Error.IsLocal := by
  unfold Smtp.secureAs
  exact iteInduction (fun _ => (request (.secure server)).isLocal) (fun _ => .fail trivial)

theorem exchange (m : Mechanism) (c : Credentials) (rounds : Nat) (reply : Reply) :
    (Smtp.exchange m c rounds reply).FailsWith Error.IsLocal := by
  induction rounds generalizing reply with
  | zero => exact .fail trivial
  | succ rounds ih =>
    rw [Smtp.exchange]
    split
    · exact .bind (.ofResult (.respond m c reply.text)) fun _ => .bind (request _).isLocal ih
    · split
      · exact .pure ()
      · exact .fail trivial

theorem login (m : Mechanism) (c : Credentials) : (Smtp.login m c).FailsWith Error.IsLocal := by
  have rest : ∀ text,
      (Smtp.command text >>= Smtp.exchange m c 3).FailsWith Error.IsLocal :=
    fun text => .bind (request _).isLocal (.exchange m c 3)
  unfold Smtp.login
  split
  · exact .bind (.ofResult (.respond m c "")) fun _ => rest _
  · exact rest _

theorem loginByAny (c : Credentials) (last : Option Reply) (mechanisms : List Mechanism) :
    (Smtp.loginByAny c last mechanisms).FailsWith Error.IsLocal := by
  induction mechanisms generalizing last with
  | nil =>
    unfold Smtp.loginByAny
    split
    · exact .fail trivial
    · exact .fail trivial
  | cons m rest ih =>
    refine .attempt_bind (.login m c) fun result fails => ?_
    split
    · exact .pure ()
    · split
      · exact .fail trivial
      · exact ih _
    · exact .fail (fails _ rfl)

theorem setUp (e : Endpoint) : e.setUp.FailsWith Error.OfAttempt := by
  refine .bind ?_ fun (offered, isSecure) => .bind ?_ fun _ => .pure _
  · unfold Endpoint.greetAndSecure
    split
    · exact .bind (.atStage _ (.secureAs _)) fun _ => .bind .greet fun _ =>
        .bind (.introduce e) fun _ => .pure _
    · refine .bind .greet fun _ => .bind (.introduce e) fun offered => ?_
      split
      · have upgrade : (Smtp.upgrade e.tlsHostname).FailsWith Error.IsLocal :=
          .bind (perform _).isLocal fun _ => .secureAs _
        exact .bind (.atStage _ upgrade) fun _ => .bind (.introduce e) fun _ => .pure _
      · exact .pure _
  · unfold Endpoint.logIn
    split
    · split
      · exact .atStage _ (.loginByAny _ _ _)
      · exact .pure _
    · exact .pure _

end Smtp.Dialogue.FailsWith

end Outbox
