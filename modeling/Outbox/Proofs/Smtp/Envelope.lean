import Mathlib.Data.Bool.AllAny
import Outbox.Proofs.Smtp.Wire
import Outbox.Proofs.Text.Encoding

/-!
# Outbox.Proofs.Smtp.Envelope — commands that name a mailbox

A mailbox is put between angle brackets in a command, whatever its text is.

* `IsCommandText` is what can stand in one line of a command with one mailbox.
* `Guarded` — a command that names a mailbox is refused before anything is written, or it writes
  one such line (`guarded_mailFrom`, `guarded_rcptTo`). Which one it is does not depend on the
  server.
-/

namespace Outbox.Smtp

/-! ## Command lines -/

/-- A text that makes one line and holds one pair of angle brackets. -/
structure IsCommandText (text : String) : Prop where
  plain : ∀ ch ∈ text.toList, Text.isControl ch = false
  /-- No octet of it ends a line. -/
  unbroken : ∀ b ∈ Octets.ofString text, b ≠ Octets.cr ∧ b ≠ Octets.lf
  opening : text.toList.count '<' = 1
  closing : text.toList.count '>' = 1

theorem unbroken_of_plain {text : String} (plain : ∀ ch ∈ text.toList, Text.isControl ch = false) :
    ∀ b ∈ Octets.ofString text, b ≠ Octets.cr ∧ b ≠ Octets.lf := by
  have absent : ∀ ch : Char, ch.toNat < 128 → Text.isControl ch = true →
      UInt8.ofNat ch.toNat ∉ Octets.ofString text := by
    intro ch ascii control mem
    have plain := plain ch (Octets.mem_of_mem_ofChars ascii mem)
    rw [control] at plain
    cases plain
  intro b mem
  constructor
  · rintro rfl
    exact absent '\r' (by decide) (by decide) mem
  · rintro rfl
    exact absent '\n' (by decide) (by decide) mem

/-- A valid mailbox after words with an opening bracket at their end. -/
theorem isCommandText_of_mailbox {words mailbox : String}
    (plain : ∀ ch ∈ words.toList, Text.isControl ch = false) (opening : words.toList.count '<' = 1)
    (closing : words.toList.count '>' = 0) (valid : isValidMailbox mailbox) :
    IsCommandText (words ++ mailbox ++ ">") := by
  have letters : ∀ ch ∈ mailbox.toList, Text.isControl ch = false ∧ ch ≠ '<' ∧ ch ≠ '>' := by
    intro ch mem
    have allowed := List.all_eq_true.1 valid ch mem
    simpa [not_or, and_assoc] using allowed
  have unopened : mailbox.toList.count '<' = 0 :=
    List.count_eq_zero_of_not_mem fun mem => (letters _ mem).2.1 rfl
  have unclosed : mailbox.toList.count '>' = 0 :=
    List.count_eq_zero_of_not_mem fun mem => (letters _ mem).2.2 rfl
  have all : ∀ ch ∈ (words ++ mailbox ++ ">").toList, Text.isControl ch = false := by
    intro ch mem
    rw [String.toList_append, String.toList_append, List.mem_append, List.mem_append] at mem
    rcases mem with (mem | mem) | mem
    · exact plain ch mem
    · exact (letters ch mem).1
    · obtain rfl := List.mem_singleton.1 mem
      rfl
  refine ⟨all, unbroken_of_plain all, ?_, ?_⟩
  · rw [String.toList_append, String.toList_append, List.count_append, List.count_append, opening,
      unopened]
    rfl
  · rw [String.toList_append, String.toList_append, List.count_append, List.count_append, closing,
      unclosed]
    rfl

/-! ## Commands -/

/-- What is written when a command is sent in a session, whatever is answered: its line, or the
first octets of it if the link does not take them all. -/
theorem perform_sent (text : String) (c : Connection) (limits : List Limit) (w : World) :
    ∃ part, part <+: commandLine text ∧
      ((perform text).on c limits w).2.sent = w.sent.modify c.link (· ++ part) ∧
      (Act.Takes w c.link (commandLine text) → part = commandLine text) := by
  obtain ⟨part, isPrefix, sent, taken, -⟩ :=
    Act.Writes.perform c.link c.patience (.command (commandLine text)) limits w
  refine ⟨part, isPrefix, ?_, taken⟩
  rw [← sent, Act.perform_on]
  rcases result : (Request.perform c.link c.patience (.command (commandLine text)) limits
    w).1.result? with _ | answer
  · rw [(Act.attempt_bind_unfinished result).2]
  · rw [Act.attempt_bind_finished result, (Act.ofResult_run _ limits _).2]

/-- A command that names a valid mailbox fails only with errors of requests. -/
theorem perform_accepted {mailbox : String} (valid : isValidMailbox mailbox) (text : String → String)
    (c : Connection) (limits : List Limit) (w : World) (e : Error)
    (failed : ((Dialogue.ofResult (commandMailbox mailbox) >>= fun mailbox =>
      perform (text mailbox)).on c limits w).1 = .failed e) : e.OfRequest := by
  have accepted : commandMailbox mailbox = .ok mailbox := if_pos valid
  rw [accepted] at failed
  exact (Act.Candid.run c.link c.patience (.perform _)).fails limits w e failed

/-- A command that names a mailbox is refused, or it is sent in a line of its own. -/
inductive Guarded (mailbox : String) (d : Dialogue Unit) : Prop where
  /-- Nothing is written, and nothing else happens. -/
  | refused (invalid : ∀ c limits w,
      d.on c limits w = (.failed (.invalidAddress (Text.escaped mailbox)), w))
  /-- The line is written, and the mailbox is not refused. -/
  | sent (text : String) (isText : IsCommandText text)
      (written : ∀ c limits w, ∃ part, part <+: commandLine text ∧
        (d.on c limits w).2.sent = w.sent.modify c.link (· ++ part) ∧
        (Act.Takes w c.link (commandLine text) → part = commandLine text))
      (accepted : ∀ c limits w e, (d.on c limits w).1 = .failed e → e.OfRequest)

theorem guarded (words mailbox : String) (plain : ∀ ch ∈ words.toList, Text.isControl ch = false)
    (opening : words.toList.count '<' = 1) (closing : words.toList.count '>' = 0) :
    Guarded mailbox (Dialogue.ofResult (commandMailbox mailbox) >>= fun mailbox =>
      perform (words ++ mailbox ++ ">")) := by
  cases valid : isValidMailbox mailbox with
  | false =>
    have refused : commandMailbox mailbox = .error (.invalidAddress (Text.escaped mailbox)) :=
      if_neg (by simp [valid])
    rw [refused]
    exact .refused fun _ _ _ => rfl
  | true =>
    refine .sent (words ++ mailbox ++ ">") ?_ (fun c limits w => ?_) ?_
    · exact isCommandText_of_mailbox plain opening closing valid
    · have accepted : commandMailbox mailbox = .ok mailbox := if_pos valid
      rw [accepted]
      exact perform_sent _ c limits w
    · exact perform_accepted valid fun mailbox => words ++ mailbox ++ ">"

theorem guarded_mailFrom (mailbox : String) : Guarded mailbox (mailFrom mailbox) :=
  guarded "MAIL FROM:<" mailbox (List.all_iff_forall_prop.1 (by decide)) (by decide) (by decide)

theorem guarded_rcptTo (mailbox : String) : Guarded mailbox (rcptTo mailbox) :=
  guarded "RCPT TO:<" mailbox (List.all_iff_forall_prop.1 (by decide)) (by decide) (by decide)

end Outbox.Smtp
