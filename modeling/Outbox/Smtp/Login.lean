import Outbox.Base64
import Outbox.Hash.Hmac
import Outbox.Hash.Md5
import Outbox.Smtp.Envelope
import Outbox.Text.Describe
import Outbox.Text.Utf8

/-!
# Outbox.Smtp.Login — authentication

The client tries the mechanisms that it knows and the server offers, the strongest first,
until one succeeds or the server says that the credentials are wrong.

* `Mechanism.respond` answers a challenge.
* `login` is one exchange, `authenticate` all of them.
-/

namespace Outbox.Smtp

/-- Who logs in. -/
structure Credentials where
  username : String
  secret : String
deriving DecidableEq

/-- A description without the secret. -/
def Credentials.describe (c : Credentials) : String :=
  Text.describeRecord "Credentials" [("username", Text.quoted c.username)] true

/-- The login mechanisms that the client knows. -/
inductive Mechanism where
  | cramMd5
  | login
  | plain
deriving DecidableEq, Repr

namespace Mechanism

/-- All mechanisms, the strongest first. -/
def preference : List Mechanism := [.cramMd5, .login, .plain]

/-- The name of a mechanism. -/
def name : Mechanism → String
  | cramMd5 => "CRAM-MD5"
  | login => "LOGIN"
  | plain => "PLAIN"

/-- The octets of a challenge, which is sent in base64. -/
def decodeChallenge (challenge : String) : Result Octets :=
  match Base64.decodeText (Text.trim challenge.toList) with
  | some octets => .ok octets
  | none => .error .base64

/-- Whether a prompt begins with a word, in any case. -/
def asksFor (prompt : Octets) (word : String) : Bool :=
  word.toList.isPrefixOf (Text.lower (Utf8.decode prompt))

/-- The answer to a challenge, before it is encoded. -/
def answer (c : Credentials) (challenge : String) : Mechanism → Result Octets
  | .plain => .ok (0 :: Octets.ofString c.username ++ 0 :: Octets.ofString c.secret)
  | .login =>
    match decodeChallenge challenge with
    | .error e => .error e
    | .ok prompt =>
      if asksFor prompt "user name" || asksFor prompt "username" then
        .ok (Octets.ofString c.username)
      else if asksFor prompt "password" then .ok (Octets.ofString c.secret)
      else .error .challenge
  | .cramMd5 =>
    match decodeChallenge challenge with
    | .error e => .error e
    | .ok challenge =>
      let mac := Hmac.mac Md5.hash (Octets.ofString c.secret) challenge
      .ok (Octets.ofString c.username ++ Octets.space :: Octets.ofChars (Octets.toHex mac))

/-- The answer to a challenge, in base64. -/
def respond (m : Mechanism) (c : Credentials) (challenge : String) : Result String :=
  (m.answer c challenge).map fun octets => String.ofList (Base64.encodeText octets)

end Mechanism

/-- The code of a challenge. -/
abbrev challengeCode : Nat := 334

/-- The code of a login that succeeded. -/
abbrev grantedCode : Nat := 235

/-- The code that says that the credentials are wrong. -/
abbrev refusedCode : Nat := 535

/-- Looks at up to `rounds` replies and answers those that are challenges. -/
def exchange (m : Mechanism) (c : Credentials) : Nat → Reply → Dialogue Unit
  | 0, reply => .fail (.unexpectedReply reply)
  | rounds + 1, reply =>
    if reply.code = challengeCode then do
      let response ← .ofResult (m.respond c reply.text)
      let next ← command response
      exchange m c rounds next
    else if reply.code = grantedCode then pure ()
    else .fail (.unexpectedReply reply)

/-- Logs in by one mechanism. -/
def login (m : Mechanism) (c : Credentials) : Dialogue Unit := do
  let reply ←
    if m = .plain then do
      let initial ← .ofResult (m.respond c "")
      command ("AUTH PLAIN " ++ initial)
    else command ("AUTH " ++ m.name)
  exchange m c 3 reply

/-- Logs in by the first mechanism of a list that succeeds; `last` is the reply that ended the
attempt before. -/
def loginByAny (c : Credentials) (last : Option Reply) : List Mechanism → Dialogue Unit
  | [] =>
    match last with
    | some reply => .fail (.authenticationFailed reply)
    | none => .fail .unsupportedMechanism
  | m :: rest => do
    match ← (login m c).attempt with
    | .ok () => pure ()
    | .error (.unexpectedReply reply) =>
      if reply.code = refusedCode then .fail (.authenticationFailed reply)
      else loginByAny c (some reply) rest
    | .error e => .fail e

/-- Logs in by the mechanisms that a server offers. -/
def authenticate (offered : Capabilities) (c : Credentials) : Dialogue Unit :=
  loginByAny c none (Mechanism.preference.filter fun m => offered.offersLogin m.name)

end Outbox.Smtp
