import Mathlib.Data.List.DropRight
import Outbox.Proofs.Mailer.Delivery
import Outbox.Proofs.Mime.Payload
import Outbox.Proofs.Smtp.Envelope

/-!
# Outbox.Proofs.Mailer.Recipients — whom a message is handed over for

A message is validated before anything is sent, and every command checks its mailbox again.

* `IsTrimmed` says what it is to trim a text.
* `Names` says of an envelope that it names the sender and the recipients of a message, and that no
  command refuses one of them.
* `Addresses` says the same of what is said in a session.
* `validate_complete` — the envelopes of a message that is valid name its recipients, so do the
  dialogues of its attempts, and for every text a command that names it is refused before it is sent
  or is one line.
-/

namespace Outbox

/-! ## Trimming -/

/-- A text without the white space around it. -/
structure IsTrimmed (text trimmed : String) : Prop where
  around : ∃ before after, text.toList = before ++ trimmed.toList ++ after ∧
    ∀ ch ∈ before ++ after, Text.isWhite ch = true
  first : ∀ ch ∈ trimmed.toList.head?, Text.isWhite ch = false
  last : ∀ ch ∈ trimmed.toList.getLast?, Text.isWhite ch = false

theorem head?_dropWhile {p : Char → Bool} {text : List Char} {ch : Char}
    (h : (text.dropWhile p).head? = some ch) : p ch = false := by
  have first := List.head?_dropWhile_not p text
  rw [h] at first
  exact first

theorem isTrimmed_trimmed (text : String) : IsTrimmed text (Text.trimmed text) := by
  have isTrimmed : (Text.trimmed text).toList =
      (text.toList.dropWhile Text.isWhite).rdropWhile Text.isWhite := String.toList_ofList
  have split : (Text.trimmed text).toList ++
      (text.toList.dropWhile Text.isWhite).rtakeWhile Text.isWhite =
        text.toList.dropWhile Text.isWhite := by
    rw [isTrimmed]
    exact List.rdropWhile_append_rtakeWhile
  refine ⟨⟨text.toList.takeWhile Text.isWhite,
    (text.toList.dropWhile Text.isWhite).rtakeWhile Text.isWhite, ?_, ?_⟩, ?_, ?_⟩
  · rw [List.append_assoc, split, List.takeWhile_append_dropWhile]
  · intro ch mem
    rcases List.mem_append.1 mem with mem | mem
    · exact List.mem_takeWhile_imp mem
    · exact List.mem_rtakeWhile_imp mem
  · -- What is dropped at the end does not change how the rest begins.
    intro ch first
    apply head?_dropWhile
    rw [← split, List.head?_append, Option.mem_def.1 first]
    rfl
  · intro ch last
    rw [isTrimmed, List.rdropWhile, List.getLast?_reverse] at last
    exact head?_dropWhile last

namespace Message

/-! ## Validation -/

theorem checkAll_ok {addresses : List Address} (h : checkAll addresses = .ok ()) :
    ∀ a ∈ addresses, a.isEmpty = false → a.check = .ok () := by
  induction addresses with
  | nil => exact nofun
  | cons a rest ih =>
    rw [checkAll] at h
    intro a' mem nonempty
    split at h
    next empty =>
      rcases List.mem_cons.1 mem with rfl | mem
      · rw [empty] at nonempty
        cases nonempty
      · exact ih h a' mem nonempty
    next =>
      split at h
      next checked =>
        rcases List.mem_cons.1 mem with rfl | mem
        · exact checked
        · exact ih h a' mem nonempty
      next => cases h

theorem isValidMailbox_of_check {a : Address} (h : a.check = .ok ()) : isValidMailbox a.bare := by
  by_contra invalid
  have refused : a.check = .error (.invalidAddress (Text.escaped a.mailbox)) :=
    if_neg (by simp [invalid])
  cases refused.symm.trans h

theorem validate_ok {m : Message} (h : m.validate = .ok ()) :
    m.sender.check = .ok () ∧ checkAll m.addressees = .ok () ∧
      m.addressees.all Address.isEmpty = false := by
  unfold validate at h
  dsimp only at h
  split at h
  next => cases h
  next =>
    cases checked : m.sender.check with
    | error e =>
      rw [checked] at h
      cases h
    | ok u =>
      cases all : checkAll m.addressees with
      | error e =>
        rw [checked, all] at h
        cases h
      | ok v =>
        refine ⟨rfl, rfl, ?_⟩
        by_contra blank
        have blank : m.addressees.all Address.isEmpty = true := by simpa using blank
        rw [checked, all, if_pos blank] at h
        cases h

/-- Every mailbox that an envelope of a valid message names can stand in a command. -/
theorem isValidMailbox_of_validate {m : Message} (valid : m.validate = .ok ()) :
    isValidMailbox m.sender.bare ∧ ∀ mailbox ∈ m.recipients, isValidMailbox mailbox := by
  obtain ⟨sender, addressees, -⟩ := validate_ok valid
  refine ⟨isValidMailbox_of_check sender, fun mailbox named => ?_⟩
  obtain ⟨a, kept, rfl⟩ := List.mem_map.1 named
  obtain ⟨mem, nonempty⟩ := List.mem_filter.1 kept
  exact isValidMailbox_of_check (checkAll_ok addressees a mem (by simpa using nonempty))

theorem recipients_ne_nil {m : Message} (valid : m.validate = .ok ()) : m.recipients ≠ [] := by
  intro none
  have blank : m.addressees.all Address.isEmpty = true := by
    simpa [recipients] using none
  rw [(validate_ok valid).2.2] at blank
  cases blank

end Message

/-! ## Envelopes -/

namespace Mailer

/-- The envelope names the sender and all recipients of the message, so that no command refuses
one of them. -/
structure Names (message : Message) (e : Envelope) : Prop where
  sender : IsTrimmed message.sender.mailbox e.sender
  /-- The addresses that are not blank, in order. -/
  recipients : List.Forall₂ (fun a mailbox => IsTrimmed a.mailbox mailbox)
    ((message.direct ++ message.copies ++ message.blindCopies).filter fun a =>
      !Text.isBlank a.mailbox) e.recipients
  nonempty : e.recipients ≠ []
  mailFrom : ∀ c limits w text,
    ((Smtp.mailFrom e.sender).on c limits w).1 ≠ .failed (.invalidAddress text)
  rcptTo : ∀ mailbox ∈ e.recipients, ∀ c limits w text,
    ((Smtp.rcptTo mailbox).on c limits w).1 ≠ .failed (.invalidAddress text)

theorem not_ofRequest_invalidAddress (text : String) : ¬ (Error.invalidAddress text).OfRequest := by
  rintro (⟨ofLink⟩ | _ | _)
  cases ofLink

theorem names_of_validate {message : Message} (valid : message.validate = .ok ())
    (payload : Octets) : Names message ⟨message.sender.bare, message.recipients, payload⟩ := by
  obtain ⟨sender, recipients⟩ := Message.isValidMailbox_of_validate valid
  refine ⟨isTrimmed_trimmed _, ?_, Message.recipients_ne_nil valid, ?_, ?_⟩
  · exact List.forall₂_map_right_iff.2 (List.forall₂_same.2 fun a _ => isTrimmed_trimmed _)
  · intro c limits w text failed
    exact not_ofRequest_invalidAddress text (Smtp.perform_accepted sender
      (fun mailbox => "MAIL FROM:<" ++ mailbox ++ ">") c limits w _ failed)
  · intro mailbox mem c limits w text failed
    exact not_ofRequest_invalidAddress text (Smtp.perform_accepted (recipients mailbox mem)
      (fun mailbox => "RCPT TO:<" ++ mailbox ++ ">") c limits w _ failed)

/-- What is said in a session to deliver a message names its sender and then its recipients, in
order, and nobody else. -/
structure Addresses (message : Message) (s : Prepared) (e : Envelope) : Prop where
  names : Names message e
  steps : ∃ first : List Smtp.Step, (first = [] ∨ first = [.command "RSET"]) ∧
    s.steps e = first ++ .command ("MAIL FROM:<" ++ e.sender ++ ">") ::
      (e.recipients.map fun mailbox => .command ("RCPT TO:<" ++ mailbox ++ ">")) ++
        [.data, .message e.payload]
  /-- These steps are taken one after another, and no others. -/
  performs : Smtp.Performs (s.steps e) (s.dialogue e)

theorem Names.addresses {message : Message} {e : Envelope} (names : Names message e)
    (s : Prepared) : Addresses message s e := by
  refine ⟨names, ?_, performs_dialogue s e⟩
  rcases s with ⟨session, _ | p⟩
  · exact ⟨[], .inl rfl, rfl⟩
  · exact ⟨[.command "RSET"], .inr rfl, rfl⟩

/-- Validation leaves nothing for a command to refuse. -/
structure IsComplete (message : Message) : Prop where
  /-- Whatever its payload is. -/
  envelope : ∀ payload, Names message ⟨message.sender.bare, message.recipients, payload⟩
  /-- Every attempt of every send is for the recipients of its message. -/
  attempts : ∀ m c s o draw w a, Attempts m c message s o draw w a →
    Names message a.plan.envelope
  /-- And in whatever session it is made, it is for them that the message is handed over. -/
  addresses : ∀ m c s o draw w a, Attempts m c message s o draw w a →
    ∀ session : Prepared, Addresses message session a.plan.envelope

/-- A message that is valid is handed over for its recipients, and no command refuses one of them.
And whatever a mailbox is, a command that names it is refused before it is sent or is one line. -/
theorem validate_complete (message : Message) (mailbox : String) :
    (message.validate = .ok () → IsComplete message) ∧
      Smtp.Guarded mailbox (Smtp.mailFrom mailbox) ∧
      Smtp.Guarded mailbox (Smtp.rcptTo mailbox) := by
  refine ⟨fun valid => ?_, Smtp.guarded_mailFrom mailbox, Smtp.guarded_rcptTo mailbox⟩
  have attempts : ∀ m c s o draw w a, Attempts m c message s o draw w a →
      Names message a.plan.envelope := by
    intro m c s o draw w a attempts
    obtain ⟨payload, -, envelope⟩ := attempts.envelope_eq
    rw [envelope]
    exact names_of_validate valid payload
  refine ⟨names_of_validate valid, attempts, ?_⟩
  intro m c s o draw w a isAttempt session
  exact (attempts m c s o draw w a isAttempt).addresses session

/-- A note to a mailbox with white space around it, to nobody, and to one who has a name. -/
def spacedNote : Message :=
  { dotNote with
    direct := [.ofMailbox "\t b@x.org "]
    copies := [.ofMailbox " "]
    blindCopies := [.named "C" "c@x.org"] }

theorem validate_complete_spacedNote : spacedNote.validate = .ok () ∧
    spacedNote.recipients = ["b@x.org", "c@x.org"] ∧ IsComplete spacedNote :=
  ⟨rfl, by decide, (validate_complete spacedNote "").1 rfl⟩

end Mailer
end Outbox
