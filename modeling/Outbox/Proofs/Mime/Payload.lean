import Mathlib.Data.List.Infix
import Outbox.Build

/-!
# Outbox.Proofs.Mime.Payload — how a payload comes about

What it means that a payload was built, step by step: `build` validates, `payload`
composes, signs and writes, and `compose` takes one of four shapes. Whoever reasons about
a payload starts from these inversions and does not open the functions again.
-/

namespace Outbox

open Octets

theorem payload_of_build {m : Message} {f : Mime.Finishing} {hooks : Hooks} {o : Mime.Occasion}
    {now : Instant} {a : Ambient} {p : Octets} (h : (build m f hooks o now a).1 = .ok p) :
    m.validate = .ok () ∧ Mime.payload m f o = .ok p := by
  unfold build at h
  split at h
  case h_1 e he => simp at h
  case h_2 hvalid => exact ⟨hvalid, h⟩

namespace Mime

/-- A payload is a composed message that was signed and written. -/
theorem payload_eq_ok_iff {m : Message} {f : Finishing} {o : Occasion} {p : Octets} :
    payload m f o = .ok p ↔
      ∃ c signed, compose m f o = .ok c ∧ c.sign f.dkim o.signed = .ok signed ∧
        p = signed.octets := by
  unfold payload
  cases hc : compose m f o with
  | error e => simp [bind, Except.bind]
  | ok c =>
    cases hs : c.sign f.dkim o.signed with
    | error e => simp [bind, Except.bind, hs]
    | ok signed => simp [bind, Except.bind, hs, pure, Except.pure, eq_comm]

/-- Signing leaves the body alone, and the header but for the field that it adds. -/
theorem sign_cases {c signed : Composed} {dkim : Option Dkim.Settings} {time : Nat}
    (h : c.sign dkim time = .ok signed) :
    (dkim = none ∧ signed = c) ∨
      ∃ s signature, dkim = some s ∧ s.signAt c.headers c.body time = .ok signature ∧
        signed = ⟨c.headers.insertFirst Dkim.Signature.fieldName signature.render, c.body⟩ := by
  unfold Composed.sign at h
  split at h
  case h_1 => exact Or.inl ⟨rfl, by simpa using h.symm⟩
  case h_2 s =>
    right
    split at h
    case h_1 e he => simp at h
    case h_2 signature hsign =>
      exact ⟨s, signature, rfl, hsign, by simpa using h.symm⟩

theorem body_of_sign {c signed : Composed} {dkim : Option Dkim.Settings} {time : Nat}
    (h : c.sign dkim time = .ok signed) : signed.body = c.body := by
  rcases sign_cases h with ⟨_, rfl⟩ | ⟨s, signature, _, _, rfl⟩
  · rfl
  · rfl

/-- A message as it is written: composed, and signed if there is a key. -/
def IsFinal (m : Message) (f : Finishing) (o : Occasion) (signed : Composed) : Prop :=
  ∃ c, compose m f o = .ok c ∧ c.sign f.dkim o.signed = .ok signed

theorem isFinal_of_build {m : Message} {f : Finishing} {hooks : Hooks} {o : Occasion}
    {now : Instant} {a : Ambient} {p : Octets} (h : (build m f hooks o now a).1 = .ok p) :
    ∃ signed, IsFinal m f o signed ∧ p = signed.octets := by
  rcases payload_eq_ok_iff.1 (payload_of_build h).2 with ⟨c, signed, hcompose, hsign, heq⟩
  exact ⟨signed, ⟨c, hcompose, hsign⟩, heq⟩

/-- The four shapes of a composed message. -/
inductive Shape (m : Message) (f : Finishing) (o : Occasion) : Composed → Prop
  /-- Attachments, after the bodies if there are any. -/
  | mixed (parts : List Octets) (hattached : m.attachments ≠ [])
      (hparts : m.attachments.mapM attachmentPart = .ok parts) :
      Shape m f o ⟨markMultipart (finalHeaders m f o) "mixed" (boundary o.boundary₁),
        bodyPart (boundary o.boundary₁) (boundary o.boundary₂) m.text? m.html?
          ++ parts.flatMap (delimiter (boundary o.boundary₁) ++ ·)
          ++ closing (boundary o.boundary₁)⟩
  /-- Both bodies. -/
  | alternative (text html : Octets) (hattached : m.attachments = [])
      (htext : m.text? = some text) (hhtml : m.html? = some html) :
      Shape m f o ⟨markMultipart (finalHeaders m f o) "alternative" (boundary o.boundary₁),
        Mime.alternative (boundary o.boundary₁) (some text) (some html)⟩
  /-- An HTML body alone. -/
  | html (html : Octets) (hattached : m.attachments = [])
      (htext : m.text? = none) (hhtml : m.html? = some html) :
      Shape m f o ⟨markText (finalHeaders m f o) htmlType, quotedPrintable html⟩
  /-- A plain text body alone, which may be empty. -/
  | plain (hattached : m.attachments = []) (hhtml : m.html? = none) :
      Shape m f o ⟨markText (finalHeaders m f o) plainType, quotedPrintable (m.text?.getD [])⟩

theorem shape_of_compose {m : Message} {f : Finishing} {o : Occasion} {c : Composed}
    (h : compose m f o = .ok c) : Shape m f o c := by
  simp only [compose, List.isEmpty_iff] at h
  split at h
  case isTrue hattached =>
    split at h
    case h_1 text html htext hhtml =>
      rw [← Except.ok.inj h]
      exact .alternative text html hattached htext hhtml
    case h_2 html htext hhtml =>
      rw [← Except.ok.inj h]
      exact .html html hattached htext hhtml
    case h_3 htext hhtml =>
      rw [← Except.ok.inj h]
      exact .plain hattached hhtml
  case isFalse hattached =>
    cases hparts : m.attachments.mapM attachmentPart with
    | error e => simp [hparts, Except.map] at h
    | ok parts =>
      simp only [hparts, Except.map] at h
      rw [← Except.ok.inj h]
      exact .mixed parts hattached hparts

/-! ## The end of a payload -/

theorem crlf_suffix_quotedPrintableFrom (column : Nat) (body : Octets) :
    crlf <:+ quotedPrintableFrom column body := by
  induction body generalizing column with
  | nil => exact List.suffix_rfl
  | cons b rest ih =>
    rw [quotedPrintableFrom]
    split
    · exact ih column
    · split
      · exact (ih 0).trans (List.suffix_append _ _)
      · dsimp only
        split
        · exact (ih _).trans (List.suffix_append _ _)
        · exact (ih _).trans (List.suffix_append _ _)

theorem crlf_suffix_closing (boundary : String) : crlf <:+ closing boundary :=
  List.suffix_append _ _

theorem crlf_suffix_body {m : Message} {f : Finishing} {o : Occasion} {c : Composed}
    (h : Shape m f o c) : crlf <:+ c.body := by
  cases h with
  | mixed parts => exact (crlf_suffix_closing _).trans (List.suffix_append _ _)
  | alternative text html => exact (crlf_suffix_closing _).trans (List.suffix_append _ _)
  | html html => exact crlf_suffix_quotedPrintableFrom 0 html
  | plain => exact crlf_suffix_quotedPrintableFrom 0 _

/-- A payload ends a line. -/
theorem crlf_suffix_payload {m : Message} {f : Finishing} {o : Occasion} {p : Octets}
    (h : payload m f o = .ok p) : crlf <:+ p := by
  obtain ⟨c, signed, hc, hs, rfl⟩ := payload_eq_ok_iff.1 h
  have hbody : crlf <:+ signed.body := by
    rw [body_of_sign hs]
    exact crlf_suffix_body (shape_of_compose hc)
  exact hbody.trans (List.suffix_append _ _)

end Mime

/-! ## A message to look at -/

/-- A note of one dot. -/
def dotNote : Message where
  sender := .ofMailbox "a@x.org"
  direct := [.ofMailbox "b@x.org"]
  copies := []
  blindCopies := []
  subject := ""
  textBody := some [dot]
  htmlBody := none
  attachments := []
  headers := .empty
  trackingId := none

/-- The start of 1970, at which nothing is random. -/
def Mime.epoch : Mime.Occasion where
  date := 0
  idTime := 0
  idOctets := []
  boundary₁ := 0
  boundary₂ := 1
  signed := 0

/-- A context that nothing ends. -/
def atRest : Ambient := ⟨.ofToken ⟨0, []⟩, .empty, []⟩

theorem exists_ok {α : Type} {r : Result α} (h : r.toOption.isSome = true) : ∃ a, r = .ok a := by
  cases r with
  | error e => simp [Except.toOption] at h
  | ok a => exact ⟨a, rfl⟩

end Outbox
