import Outbox.Smtp.Reply
import Outbox.Smtp.Stage
import Outbox.Text.Classes

/-!
# Outbox.Error — what can go wrong

Every failure of the library is an `Error`. Its wording is in one place, `Error.render`,
which also tells the library's own words from text that it passes on; whether a
retry is worth while is decided by `Error.isTransient`.
-/

namespace Outbox

/-! ## Failures of the stream -/

/-- The kinds of failure that a stream reports. -/
inductive StreamFault where
  | notFound
  | permissionDenied
  | connectionRefused
  | connectionReset
  | connectionAborted
  | hostUnreachable
  | networkUnreachable
  | networkDown
  | notConnected
  | addressInUse
  | addressNotAvailable
  | brokenPipe
  | alreadyExists
  | wouldBlock
  | invalidInput
  | invalidData
  | timedOut
  | writeZero
  | interrupted
  | unsupported
  | unexpectedEnd
  | outOfMemory
  | other
deriving DecidableEq, Repr

namespace StreamFault

/-- The words for a kind of failure. -/
def words : StreamFault → String
  | notFound => "entity not found"
  | permissionDenied => "permission denied"
  | connectionRefused => "connection refused"
  | connectionReset => "connection reset"
  | connectionAborted => "connection aborted"
  | hostUnreachable => "host unreachable"
  | networkUnreachable => "network unreachable"
  | networkDown => "network down"
  | notConnected => "not connected"
  | addressInUse => "address in use"
  | addressNotAvailable => "address not available"
  | brokenPipe => "broken pipe"
  | alreadyExists => "entity already exists"
  | wouldBlock => "operation would block"
  | invalidInput => "invalid input parameter"
  | invalidData => "invalid data"
  | timedOut => "timed out"
  | writeZero => "write zero"
  | interrupted => "operation interrupted"
  | unsupported => "unsupported"
  | unexpectedEnd => "unexpected end of file"
  | outOfMemory => "out of memory"
  | other => "other error"

/-- The kinds after which a second try may well succeed. -/
def isTransient : StreamFault → Bool
  | timedOut | connectionReset | connectionAborted | connectionRefused | brokenPipe
  | unexpectedEnd | interrupted => true
  | _ => false

end StreamFault

/-- Where the text of a stream error comes from. -/
inductive StreamText where
  /-- The words for the kind. -/
  | plain
  /-- A message that was given with the error. -/
  | message (text : String)
  /-- The text of the operating system. -/
  | system (text : String)
deriving DecidableEq, Repr

/-- A failure of a stream. -/
structure StreamError where
  fault : StreamFault
  text : StreamText := .plain
deriving DecidableEq, Repr

/-- The text of a stream error. -/
def StreamError.message (e : StreamError) : String :=
  match e.text with
  | .plain => e.fault.words
  | .message text => text
  | .system text => text

/-! ## Failures of signing -/

/-- Why a message could not be signed. -/
inductive SigningError where
  /-- Domain, selector or key is empty. -/
  | incomplete
  /-- The key text has no line that begins a key. -/
  | noKeyBlock
  /-- The key text begins something else than a private key. -/
  | unsupportedKey (label : String)
  /-- The key is no PKCS#1 key. -/
  | badPkcs1
  /-- The key is no PKCS#8 key. -/
  | badPkcs8
  /-- The key cannot sign. -/
  | unusableKey
deriving DecidableEq, Repr

/-! ## Errors -/

/-- A failure of the library. -/
inductive Error where
  /-- A stream failed. -/
  | stream (cause : StreamError)
  /-- The TLS handshake failed. -/
  | tls
  /-- A challenge was no base64. -/
  | base64
  /-- A challenge asked for something unknown. -/
  | challenge
  /-- The message could not be signed. -/
  | signing (cause : SigningError)
  /-- The server's reply follows no rule. -/
  | unparseableReply
  /-- The server refused a command. -/
  | unexpectedReply (reply : Smtp.Reply)
  /-- The server refused the login. -/
  | authenticationFailed (reply : Smtp.Reply)
  /-- The server's name cannot stand in a certificate. -/
  | invalidTlsName
  /-- The message has no sender. -/
  | missingSender
  /-- The message has no recipient. -/
  | missingRecipients
  /-- The message has no content. -/
  | missingBody
  /-- The address cannot be used. -/
  | invalidAddress (text : String)
  /-- A template could not be rendered. -/
  | template (text : String)
  /-- The server offers no login that the client knows. -/
  | unsupportedMechanism
  /-- A step took longer than it may. -/
  | timeout
  /-- A step of a session failed. -/
  | step (stage : Smtp.Stage) (cause : Error)
  /-- No attempts are left; `last` is the failure of the last one made. -/
  | exhausted (attempts : Nat) (last : Option Error)
  /-- The send was cancelled. -/
  | cancelled
  /-- The send's deadline has passed. -/
  | deadlineExceeded
deriving Repr, Inhabited

/-- A result or a failure. -/
abbrev Result (α : Type) := Except Error α

/-- Whether a text speaks of a passing failure: by a reply code that begins with 4,
or by one of five phrases. -/
def speaksOfTransience (text : String) : Bool :=
  let chars := text.toList
  Text.occurs " 4".toList chars || Text.occurs "4xx".toList chars ||
    ["timeout", "temporarily", "try again", "connection reset", "broken pipe"].any
      fun phrase => Text.occurs phrase.toList (Text.lower chars)

namespace SigningError

/-- The words for a signing error, and the foreign text that they introduce, if
they do. -/
def render : SigningError → String × Option String
  | incomplete => ("Incomplete DKIM configuration", none)
  | noKeyBlock => ("No PEM block found", none)
  | unsupportedKey label => ("Unsupported key type: " ++ label, none)
  | badPkcs1 => ("PKCS#1 error: ", some "malformed key")
  | badPkcs8 => ("PKCS#8 error: ", some "malformed key")
  | unusableKey => ("RSA error: ", some "the key cannot hold the signature")

end SigningError

namespace Error

/-- Names the step at which a failure occurred. The end of the send is no failure of
a step. -/
def atStage (stage : Smtp.Stage) : Error → Error
  | cancelled => cancelled
  | deadlineExceeded => deadlineExceeded
  | e => step stage e

/-- The innermost error: steps and exhausted attempts only say where it arose. -/
def rootCause : Error → Error
  | step _ cause => cause.rootCause
  | exhausted _ (some last) => last.rootCause
  | e => e

/-- Whether another attempt at the same send is likely to succeed. -/
def isTransient : Error → Bool
  | step _ cause => cause.isTransient
  | deadlineExceeded => true
  | timeout => true
  | unexpectedReply reply => reply.isTransient
  | authenticationFailed reply => reply.isTransient
  | stream cause => cause.fault.isTransient || speaksOfTransience cause.message
  | _ => false

/-- Puts words before a rendering. -/
def introduce (words : String) (rest : String × Option String) : String × Option String :=
  (words ++ rest.1, rest.2)

/-- The library's own words for an error, and the text from elsewhere that follows
them, if there is any. -/
def render : Error → String × Option String
  | stream cause =>
    match cause.text with
    | .system text => ("I/O error: ", some text)
    | _ => ("I/O error: " ++ cause.message, none)
  | tls => ("TLS error: ", some "handshake failed")
  | base64 => ("Base64 decode error: ", some "not base64")
  | challenge => ("SMTP authentication error: Invalid challenge received", none)
  | signing cause => introduce "DKIM signing error: " cause.render
  | unparseableReply => ("Unparseable SMTP reply", none)
  | unexpectedReply reply => ("Unexpected reply: " ++ reply.code.repr ++ " " ++ reply.text, none)
  | authenticationFailed reply =>
    ("Authentication failed: " ++ reply.code.repr ++ " " ++ reply.text, none)
  | invalidTlsName => ("Invalid TLS name provided", none)
  | missingSender => ("Missing message sender", none)
  | missingRecipients => ("Missing message recipients", none)
  | missingBody => ("Missing message body or attachments", none)
  | invalidAddress text => ("Invalid address: " ++ text, none)
  | template text => ("Template error: " ++ text, none)
  | unsupportedMechanism =>
    ("The server does no support any of the available authentication methods", none)
  | timeout => ("Connection timeout", none)
  | step stage cause => introduce ("smtp " ++ stage.word ++ ": ") cause.render
  | exhausted attempts none =>
    ("send attempts exhausted after " ++ attempts.repr ++ " tries", none)
  | exhausted attempts (some last) =>
    introduce ("send attempts exhausted after " ++ attempts.repr ++ " tries: ") last.render
  | cancelled => ("Operation cancelled", none)
  | deadlineExceeded => ("Deadline exceeded", none)

/-- The whole text of an error. -/
def message (e : Error) : String := e.render.1 ++ e.render.2.getD ""

/-- The texts of the causes of an error, the outermost first. A stream's own error
speaks for itself, without the library's introduction. -/
def causes : Error → List String
  | stream cause => [cause.message]
  | tls => ["handshake failed"]
  | base64 => ["not base64"]
  | step _ cause => cause.message :: cause.causes
  | exhausted _ (some last) => last.message :: last.causes
  | _ => []

end Error

/-! ## Judging replies -/

namespace Smtp.Reply

/-- Takes a reply to a command that has to be carried out. -/
def assertPositive (r : Reply) : Result Unit :=
  if r.isPositive then .ok () else .error (.unexpectedReply r)

/-- Takes a reply that has to have a certain code. -/
def assertCode (r : Reply) (code : Nat) : Result Unit :=
  if r.code = code then .ok () else .error (.unexpectedReply r)

end Smtp.Reply
end Outbox
