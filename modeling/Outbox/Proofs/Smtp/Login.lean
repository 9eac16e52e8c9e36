import Outbox.Proofs.Base64
import Outbox.Proofs.Text.Encoding
import Outbox.Smtp.Login

/-!
# Outbox.Proofs.Smtp.Login — the lines of a login

A login is a line that names a mechanism and answers to challenges, which are texts in base64.

* `LoginLine` are these lines.
* `LoginLine.ne_startTlsLine` — whatever the credentials are and whatever the server asks, none of
  them asks for a handshake.
-/

namespace Outbox.Smtp

/-- The line that asks for a handshake. -/
abbrev startTlsLine : Octets := commandLine "STARTTLS"

/-- The lines that a client with these credentials writes to log in to a server that offers this.
Each belongs to a mechanism that the server offers. -/
inductive LoginLine (credentials : Credentials) (c : Capabilities) : Octets → Prop where
  | opens {m : Mechanism} (offers : c.offersLogin m.name) (other : m ≠ .plain) :
      LoginLine credentials c (commandLine ("AUTH " ++ m.name))
  | begins {initial : String} (offers : c.offersLogin Mechanism.plain.name)
      (responds : Mechanism.plain.respond credentials "" = .ok initial) :
      LoginLine credentials c (commandLine ("AUTH PLAIN " ++ initial))
  | answers {m : Mechanism} {challenge response : String} (offers : c.offersLogin m.name)
      (responds : m.respond credentials challenge = .ok response) :
      LoginLine credentials c (commandLine response)

/-- Every answer to a challenge is a text, in base64. -/
theorem Mechanism.respond_text {m : Mechanism} {credentials : Credentials}
    {challenge response : String} (h : m.respond credentials challenge = .ok response) :
    ∃ text, response.toList = Base64.encodeText (Octets.ofChars text) := by
  have answered : ∃ octets, m.answer credentials challenge = .ok octets ∧
      response = String.ofList (Base64.encodeText octets) := by
    rw [Mechanism.respond] at h
    cases result : m.answer credentials challenge with
    | ok octets =>
      rw [result] at h
      cases h
      exact ⟨octets, rfl, rfl⟩
    | error e =>
      rw [result] at h
      cases h
  obtain ⟨octets, answered, rfl⟩ := answered
  suffices isText : ∃ text, octets = Octets.ofChars text by
    obtain ⟨text, rfl⟩ := isText
    exact ⟨text, String.toList_ofList⟩
  cases m with
  | plain =>
    cases answered
    refine ⟨'\x00' :: credentials.username.toList ++ '\x00' :: credentials.secret.toList, ?_⟩
    rw [Octets.ofChars_append, Octets.ofChars_cons_of_ascii (by decide),
      Octets.ofChars_cons_of_ascii (by decide)]
    rfl
  | login =>
    simp only [Mechanism.answer] at answered
    split at answered
    · cases answered
    · split at answered
      · cases answered
        exact ⟨_, rfl⟩
      · split at answered
        · cases answered
          exact ⟨_, rfl⟩
        · cases answered
  | cramMd5 =>
    simp only [Mechanism.answer] at answered
    split at answered
    next => cases answered
    next challenge _ =>
      cases answered
      refine ⟨credentials.username.toList ++ ' ' ::
        Octets.toHex (Hmac.mac Md5.hash (Octets.ofString credentials.secret) challenge), ?_⟩
      rw [Octets.ofChars_append, Octets.ofChars_cons_of_ascii (by decide)]
      rfl

/-- What the word says in base64 is no text: it ends in an octet that begins a character. -/
theorem encodeText_ne_startTls (text : List Char) :
    Base64.encodeText (Octets.ofChars text) ≠ "STARTTLS".toList := by
  intro same
  have octets := congrArg (List.map fun c => UInt8.ofNat c.toNat) same
  rw [Base64.encodeText, List.map_map] at octets
  have isOctet : ∀ s : UInt8, UInt8.ofNat (Char.ofNat s.toNat).toNat = s :=
    fun s => Base64.forall_octet
      (P := fun s => UInt8.ofNat (Char.ofNat s.toNat).toNat = s) (by decide) s
  have unchanged : (Base64.encode (Octets.ofChars text)).map
      ((fun c => UInt8.ofNat c.toNat) ∘ fun s => Char.ofNat s.toNat) =
        Base64.encode (Octets.ofChars text) :=
    (List.map_congr_left fun s _ => isOctet s).trans (List.map_id _)
  rw [unchanged] at octets
  have decoded := Base64.decode_encode (Octets.ofChars text)
  rw [octets] at decoded
  have decoded : Octets.ofChars text = [0x49, 0x30, 0x11, 0x4D, 0x32, 0xD2] :=
    (Option.some.inj (Eq.trans (by decide) decoded)).symm
  have last : (Octets.ofChars text).getLast? = some 0xD2 := by
    rw [decoded]
    rfl
  exact absurd (Octets.getLast?_ofChars_lt last) (by decide)

theorem toList_eq_of_commandLine_eq {a b : String} (h : commandLine a = commandLine b) :
    a.toList = b.toList :=
  Octets.ofChars_injective (List.append_cancel_right h)

theorem LoginLine.ne_startTlsLine {credentials : Credentials} {c : Capabilities} {line : Octets}
    (h : LoginLine credentials c line) : line ≠ startTlsLine := by
  have differs : ∀ text : String, text.toList.head? = some 'A' →
      commandLine text ≠ startTlsLine := by
    intro text first same
    rw [toList_eq_of_commandLine_eq same] at first
    exact absurd first (by decide)
  cases h with
  | @opens m offers other =>
    apply differs
    rw [String.toList_append]
    rfl
  | @begins initial offers responds =>
    apply differs
    rw [String.toList_append]
    rfl
  | answers offers responds =>
    obtain ⟨text, isText⟩ := Mechanism.respond_text responds
    exact fun same =>
      encodeText_ne_startTls text (isText.symm.trans (toList_eq_of_commandLine_eq same))

end Outbox.Smtp
