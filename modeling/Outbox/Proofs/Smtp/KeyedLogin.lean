import Outbox.Proofs.Base64
import Outbox.Proofs.Hash.Hmac
import Outbox.Proofs.Mime.Boundary
import Outbox.Proofs.Text.Encoding
import Outbox.Smtp.Login

/-!
# Outbox.Proofs.Smtp.KeyedLogin — the answer to a challenge under CRAM-MD5

The challenge is a text in base64, perhaps with white space around it. It is answered with the
name of the user and the keyed hash of what the challenge says, under the secret.

* `decodeText_eq_some_iff` — which texts are base64, and of what.
* `keyedText` — the answer, as HMAC prescribes it.
* `respond_keyed` — it is what every challenge in base64 is answered with, and any other one is
  an error.
-/

namespace Outbox

/-- A text is read from base64 exactly if it is the base64 of what is read. -/
theorem Base64.decodeText_eq_some_iff {text : List Char} {octets : Octets} :
    decodeText text = some octets ↔ text = prescribed octets := by
  rw [decodeText, decode_eq_some_iff, ← encodeText_eq_prescribed, ← ofChars_encodeText]
  exact ⟨fun same => Octets.ofChars_injective same, fun same => same ▸ rfl⟩

/-- The lower case hexadecimal digits of octets, two for each, the higher one first. -/
def lowerHex (octets : Octets) : List Char :=
  octets.flatMap fun b => [b.toNat / 16, b.toNat % 16].map fun d => Mime.hexAlphabet.getD d '0'

theorem toHex_eq_lowerHex (octets : Octets) : Octets.toHex octets = lowerHex octets := by
  have pair : ∀ b, Octets.hexPair b =
      [b.toNat / 16, b.toNat % 16].map fun d => Mime.hexAlphabet.getD d '0' :=
    Base64.forall_octet (by decide)
  exact List.flatMap_congr fun b _ => pair b

namespace Smtp

/-- What CRAM-MD5 answers a challenge with: the name of the user, a space and the digits of the
keyed hash of the challenge. -/
def keyedText (c : Credentials) (challenge : Octets) : List Char :=
  c.username.toList ++
    ' ' :: lowerHex (Hmac.prescribed Md5.hash (Octets.ofString c.secret) challenge)

namespace Mechanism

theorem short_hash (message : Octets) : (Md5.hash message).length ≤ Hmac.blockSize := by
  rw [Md5.length_hash]
  decide

theorem decodeChallenge_ok_iff {challenge : String} {octets : Octets} :
    decodeChallenge challenge = .ok octets ↔
      Text.trim challenge.toList = Base64.prescribed octets := by
  rw [← Base64.decodeText_eq_some_iff, decodeChallenge]
  cases Base64.decodeText (Text.trim challenge.toList) with
  | some read => simp
  | none => simp

theorem respond_of_decodeChallenge (c : Credentials) {challenge : String} {octets : Octets}
    (decoded : decodeChallenge challenge = .ok octets) :
    cramMd5.respond c challenge =
      .ok (String.ofList (Base64.prescribed (Octets.ofChars (keyedText c octets)))) := by
  have answered : cramMd5.answer c challenge = .ok (Octets.ofChars (keyedText c octets)) := by
    rw [answer, decoded, keyedText, Octets.ofChars_append, Octets.ofChars_cons_of_ascii (by decide),
      ← Hmac.mac_eq_prescribed short_hash, ← toHex_eq_lowerHex]
    rfl
  rw [respond, answered, ← Base64.encodeText_eq_prescribed]
  rfl

/-- How a challenge is dealt with under CRAM-MD5. -/
structure AnswersKeyed (c : Credentials) (challenge : String) : Prop where
  /-- A challenge in base64 is answered with the keyed text, in base64. -/
  answered : ∀ octets, Text.trim challenge.toList = Base64.prescribed octets →
    cramMd5.respond c challenge =
      .ok (String.ofList (Base64.prescribed (Octets.ofChars (keyedText c octets))))
  /-- Any other one is an error. -/
  failed : cramMd5.respond c challenge = .error .base64 ↔
    ∀ octets, Text.trim challenge.toList ≠ Base64.prescribed octets
  /-- Every octet of the key that is written over a pad has its place in it. -/
  inRange : ∀ fill, Hmac.overwrite? fill 0 (Hmac.shorten Md5.hash (Octets.ofString c.secret))
    (Hmac.constant fill) =
      some (Hmac.padWith fill (Hmac.shorten Md5.hash (Octets.ofString c.secret)))

/-- The answer under CRAM-MD5 is HMAC with MD5, for every user, secret and challenge. -/
theorem respond_keyed (c : Credentials) (challenge : String) : AnswersKeyed c challenge where
  answered octets isBase64 := respond_of_decodeChallenge c (decodeChallenge_ok_iff.2 isBase64)
  failed := by
    constructor
    · intro failed octets isBase64
      rw [respond_of_decodeChallenge c (decodeChallenge_ok_iff.2 isBase64)] at failed
      cases failed
    · intro noBase64
      cases decoded : decodeChallenge challenge with
      | ok octets => exact absurd (decodeChallenge_ok_iff.1 decoded) (noBase64 octets)
      | error e =>
        have isBase64Error : e = .base64 := by
          rw [decodeChallenge] at decoded
          split at decoded <;> cases decoded
          rfl
        rw [respond, answer, decoded, isBase64Error]
        rfl
  inRange fill := by
    rw [Hmac.overwrite?_eq, if_pos (Hmac.length_shorten short_hash _)]

end Mechanism
end Smtp
end Outbox
