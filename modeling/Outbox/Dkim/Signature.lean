import Outbox.Dkim.Pem
import Outbox.Dkim.Relaxed
import Outbox.Dkim.Rsa
import Outbox.Error
import Outbox.Hash.Sha256
import Outbox.Headers
import Outbox.Text.Describe

/-!
# Outbox.Dkim.Signature — signing a message

A signature covers the hash of the body and a selection of header fields, and
finally its own tags, all in relaxed form.

* `Settings.select` chooses the fields that are signed.
* `hashedHeader` is the exact input of the header hash.
* `Settings.sign` makes a signature; `Signature.render` is the value of its field.
-/

namespace Outbox.Dkim

/-- The fields that are signed unless others are named. -/
def defaultHeaders : List String :=
  ["from", "to", "subject", "date", "mime-version", "content-type", "message-id"]

/-- How messages are signed: the signing domain, the selector of its key, the key as
text, and the names of the fields to sign in order, or none for the default. -/
structure Settings where
  domain : String
  selector : String
  privateKey : String
  headers : List String
deriving DecidableEq, Repr

/-- A signature, by its tags. -/
structure Signature where
  domain : String
  selector : String
  /-- The signature itself, in base64. -/
  value : String
  /-- The hash of the body, in base64. -/
  bodyHash : String
  /-- The names of the signed fields, in lower case. -/
  signedHeaders : List String
  timestamp : Nat
deriving DecidableEq, Repr

namespace Signature

/-- The tags sorted by name, and at the end the one of the signature itself, still empty. -/
def tags (s : Signature) : String :=
  "a=rsa-sha256; bh=" ++ s.bodyHash ++ "; c=relaxed/relaxed; d=" ++ s.domain ++ "; h="
    ++ ":".intercalate s.signedHeaders ++ "; s=" ++ s.selector ++ "; t=" ++ s.timestamp.repr
    ++ "; v=1; b="

/-- The value of the signature's field. -/
def render (s : Signature) : String := s.tags ++ s.value

/-- The name of the signature's field. -/
def fieldName : String := "DKIM-Signature"

end Signature

/-- The relaxed form of a field with its line end. -/
def relaxedField (name value : String) : List Char :=
  relaxedHeader name.toList value.toList ++ ['\r', '\n']

/-- The input of the header hash: the signed fields in order, and then the field of
the signature itself while its value is still empty. -/
def hashedHeader (fields : List Field) (unsigned : Signature) : Octets :=
  Octets.ofChars (fields.flatMap (fun e => relaxedField e.1 e.2)
    ++ relaxedField Signature.fieldName unsigned.render)

/-- The text of octets in base64. -/
def base64 (octets : Octets) : String := String.ofList (Base64.encodeText octets)

/-- Reads a key from its text. The label of the text says in which form the key is. -/
def readKey (text : List Char) : Except SigningError PrivateKey :=
  let text := Text.trim text
  match Pem.label? text with
  | none => .error .noKeyBlock
  | some label =>
    if label = "RSA PRIVATE KEY".toList then
      match (Pem.decode? label text).bind PrivateKey.ofPkcs1? with
      | some key => .ok key
      | none => .error .badPkcs1
    else if label = "PRIVATE KEY".toList then
      match (Pem.decode? label text).bind PrivateKey.ofPkcs8? with
      | some key => .ok key
      | none => .error .badPkcs8
    else .error (.unsupportedKey (String.ofList label))

namespace Settings

/-- The names of the fields to sign. -/
def names (s : Settings) : List String :=
  if s.headers.isEmpty then defaultHeaders else s.headers

/-- The fields that are signed: for every name the field that the message has of that
name, if any. -/
def select (s : Settings) (headers : Headers) : List Field := s.names.filterMap headers.getEntry?

/-- The signing key. -/
def key (s : Settings) : Except SigningError PrivateKey := readKey s.privateKey.toList

/-- The signature of a message while its own value is still empty. -/
def unsigned (s : Settings) (headers : Headers) (body : Octets) (time : Nat) : Signature where
  domain := s.domain
  selector := s.selector
  value := ""
  bodyHash := base64 (Sha256.hash (relaxedBody body))
  signedHeaders := (s.select headers).map fun e => String.ofList (Text.lower e.1.toList)
  timestamp := time

/-- Signs the header fields and the body of a message at a time, in seconds since the
start of 1970. -/
def signAt (s : Settings) (headers : Headers) (body : Octets) (time : Nat) :
    Except SigningError Signature :=
  if s.domain.isEmpty || s.selector.isEmpty || s.privateKey.isEmpty then .error .incomplete
  else
    match s.key with
    | .error e => .error e
    | .ok key =>
      let draft := s.unsigned headers body time
      match key.sign? (Sha256.hash (hashedHeader (s.select headers) draft)) with
      | none => .error .unusableKey
      | some value => .ok { draft with value := base64 value }

/-- A description without the key. -/
def describe (s : Settings) : String :=
  Text.describeRecord "DkimConfig"
    [("domain", Text.quoted s.domain), ("selector", Text.quoted s.selector),
     ("headers", Text.describeList (s.headers.map Text.quoted))] true

end Settings
end Outbox.Dkim
