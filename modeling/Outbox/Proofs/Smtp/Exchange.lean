import Outbox.Mailer

/-!
# Outbox.Proofs.Smtp.Exchange — the steps of a mail transaction

A mail transaction is a fixed sequence of steps. The client takes a step only after the server
has accepted the one before, and it is done when the server has accepted all of them.

* `Step` is a request together with the answers that accept it.
* `Performs` says of a dialogue that it takes given steps in this way. The dialogues of an
  envelope do (`performs_sendEnvelope`, `performs_resend`).
* `Carried` says the same of exchanges that were made.
-/

namespace Outbox.Smtp

/-! ## Steps -/

/-- A request and, if there was one, its answer. -/
structure Exchange where
  request : Request
  answer : Option (Result request.Answer)

/-- The request did not fail. What it was answered is not judged here. -/
def Exchange.IsAnswered (x : Exchange) : Prop := ∃ answer, x.answer = some (.ok answer)

/-- A request that has to be answered in a certain way. -/
structure Step where
  request : Request
  accepts : request.Answer → Bool

namespace Step

/-- A command that has to be carried out. -/
def command (text : String) : Step := ⟨.command (commandLine text), Reply.isPositive⟩

/-- The command after which the server waits for a message. -/
def data : Step := ⟨.command (commandLine "DATA"), fun reply => Reply.code reply == 354⟩

/-- The content of a message. -/
def message (content : Octets) : Step := ⟨.message content, Reply.isPositive⟩

/-- An exchange that made the step, and the server accepted it. -/
def IsDone (s : Step) (x : Exchange) : Prop :=
  ∃ answer, x = ⟨s.request, some (.ok answer)⟩ ∧ s.accepts answer

end Step

/-- The steps in which a message is handed over with its envelope. -/
def envelopeSteps (e : Envelope) : List Step :=
  .command ("MAIL FROM:<" ++ e.sender ++ ">") ::
    (e.recipients.map fun mailbox => .command ("RCPT TO:<" ++ mailbox ++ ">")) ++
      [.data, .message e.payload]

/-- The same in a session that may have been used before. -/
def resendSteps (e : Envelope) : List Step := .command "RSET" :: envelopeSteps e

/-- Exchanges that made some of these steps in order, each one after the server had accepted
the one before. -/
inductive Carried : List Step → List Exchange → Prop where
  | begun (steps : List Step) : Carried steps []
  | last (s : Step) (steps : List Step) (x : Exchange) (same : x.request = s.request) :
      Carried (s :: steps) [x]
  | next {s : Step} {x : Exchange} {steps : List Step} {xs : List Exchange} (done : s.IsDone x)
      (rest : Carried steps xs) : Carried (s :: steps) (x :: xs)

theorem Carried.answered {steps : List Step} {xs : List Exchange} (h : Carried steps xs) :
    ∀ x ∈ xs.dropLast, x.IsAnswered := by
  induction h with
  | begun | last => exact nofun
  | @next s x steps xs done rest ih =>
    intro y mem
    cases xs with
    | nil => cases mem
    | cons z zs =>
      rcases List.mem_cons.1 mem with rfl | mem
      · obtain ⟨answer, rfl, -⟩ := done
        exact ⟨answer, rfl⟩
      · exact ih y mem

/-! ## Dialogues -/

/-- The dialogue takes these steps and stops before the first one that it cannot take, or after
the first one that the server does not accept. -/
inductive Performs : List Step → Dialogue Unit → Prop where
  | done : Performs [] (.finished (.ok ()))
  | refused (s : Step) (steps : List Step) (e : Error) :
      Performs (s :: steps) (.finished (.error e))
  | step (s : Step) {steps : List Step} {next : Result s.request.Answer → Dialogue Unit}
      (accepted : ∀ answer, s.accepts answer → Performs steps (next (.ok answer)))
      (rejected : ∀ answer, ¬ s.accepts answer → ∃ e, next (.ok answer) = .finished (.error e))
      (unanswered : ∀ error, ∃ e, next (.error error) = .finished (.error e)) :
      Performs (s :: steps) (.ask s.request next)

namespace Dialogue

variable {α β γ : Type}

theorem bind_assoc (d : Dialogue α) (f : α → Dialogue β) (g : β → Dialogue γ) :
    d >>= f >>= g = d >>= fun a => f a >>= g := by
  induction d with
  | finished result => cases result <;> rfl
  | ask request next ih => exact congrArg (ask request) (funext ih)

theorem atStage_bind (stage : Stage) (d : Dialogue α) (f : α → Dialogue β) :
    (d >>= f).atStage stage = d.atStage stage >>= fun a => (f a).atStage stage := by
  induction d with
  | finished result => cases result <;> rfl
  | ask request next ih => exact congrArg (ask request) (funext ih)

theorem bind_pure (d : Dialogue α) : d >>= pure = d := by
  induction d with
  | finished result => cases result <;> rfl
  | ask request next ih => exact congrArg (ask request) (funext ih)

end Dialogue

namespace Performs

variable {steps : List Step} {next : Unit → Dialogue Unit}

/-- A step is taken and its answer judged, and then the dialogue goes on. -/
theorem judged (s : Step) {judge : s.request.Answer → Result Unit} (stage : Stage)
    (accepted : ∀ answer, s.accepts answer → judge answer = .ok ())
    (rejected : ∀ answer, ¬ s.accepts answer → ∃ e, judge answer = .error e)
    (h : Performs steps (next ())) :
    Performs (s :: steps) ((Dialogue.request s.request).atStage stage >>= fun answer =>
      (Dialogue.ofResult (judge answer)).atStage stage >>= next) := by
  refine .step s (fun answer accepts => ?_) (fun answer rejects => ?_) (fun error => ⟨_, rfl⟩)
  · show Performs steps ((Dialogue.ofResult (judge answer)).atStage stage >>= next)
    rw [accepted answer accepts]
    exact h
  · show ∃ e, (Dialogue.ofResult (judge answer)).atStage stage >>= next = .finished (.error e)
    obtain ⟨e, judged⟩ := rejected answer rejects
    rw [judged]
    exact ⟨_, rfl⟩

/-- A step that the server has to carry out. -/
theorem judged_positive (request : Request) (reply : request.Answer → Reply) (stage : Stage)
    (h : Performs steps (next ())) :
    Performs (⟨request, fun answer => (reply answer).isPositive⟩ :: steps)
      ((Dialogue.request request).atStage stage >>= fun answer =>
        (Dialogue.ofResult (reply answer).assertPositive).atStage stage >>= next) := by
  refine judged ⟨request, fun answer => (reply answer).isPositive⟩ stage ?_ ?_ h
  · exact fun answer positive => if_pos positive
  · exact fun answer negative => ⟨_, if_neg negative⟩

theorem perform (text : String) (stage : Stage) (h : Performs steps (next ())) :
    Performs (.command text :: steps) ((Smtp.perform text).atStage stage >>= next) := by
  rw [Smtp.perform, Dialogue.atStage_bind, Dialogue.bind_assoc]
  exact judged_positive (.command (commandLine text)) id stage h

/-- A command that names a mailbox. One that cannot stand in a command is never sent. -/
theorem performMailbox (mailbox : String) (text : String → String) (stage : Stage)
    (h : Performs steps (next ())) :
    Performs (.command (text mailbox) :: steps)
      ((Dialogue.ofResult (commandMailbox mailbox) >>= fun mailbox =>
        Smtp.perform (text mailbox)).atStage stage >>= next) := by
  rw [Dialogue.atStage_bind, Dialogue.bind_assoc]
  cases isMailbox : isValidMailbox mailbox with
  | true =>
    have valid : commandMailbox mailbox = .ok mailbox := if_pos isMailbox
    rw [valid]
    exact perform (text mailbox) stage h
  | false =>
    have invalid : ∃ e, commandMailbox mailbox = .error e := ⟨_, if_neg (by simp [isMailbox])⟩
    obtain ⟨e, invalid⟩ := invalid
    rw [invalid]
    exact .refused _ _ _

theorem data (content : Octets) (stage : Stage) :
    Performs [.data, .message content] ((Smtp.data content).atStage stage) := by
  rw [← Dialogue.bind_pure ((Smtp.data content).atStage stage), Smtp.data]
  simp only [Dialogue.atStage_bind, Dialogue.bind_assoc]
  refine judged .data stage (fun reply code => if_pos ?_) (fun reply code => ⟨_, if_neg ?_⟩) ?_
  · exact eq_of_beq code
  · exact fun same => code (beq_iff_eq.2 same)
  · exact judged_positive (.message content) id stage .done

theorem rcptToAll (mailboxes : List String) (h : Performs steps (next ())) :
    Performs ((mailboxes.map fun mailbox => .command ("RCPT TO:<" ++ mailbox ++ ">")) ++ steps)
      (Smtp.rcptToAll mailboxes >>= next) := by
  induction mailboxes with
  | nil => exact h
  | cons mailbox rest ih =>
    rw [Smtp.rcptToAll, Dialogue.bind_assoc]
    refine performMailbox mailbox (fun mailbox => "RCPT TO:<" ++ mailbox ++ ">") .rcptTo ?_
    exact ih

end Performs

theorem performs_sendEnvelope (e : Envelope) :
    Performs (envelopeSteps e) (sendEnvelope e.sender e.recipients e.payload) := by
  refine .performMailbox e.sender (fun mailbox => "MAIL FROM:<" ++ mailbox ++ ">") .mailFrom ?_
  refine .rcptToAll e.recipients ?_
  exact .data e.payload .data

theorem performs_resend (e : Envelope) : Performs (resendSteps e) (Mailer.resend e) := by
  refine .perform "RSET" .reset ?_
  exact performs_sendEnvelope e

end Outbox.Smtp
