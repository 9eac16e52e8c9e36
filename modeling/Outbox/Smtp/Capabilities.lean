/-!
# Outbox.Smtp.Capabilities — what a server offers

The extensions and login mechanisms that a server names in its greeting, by the names
they are registered under, with the parameters of those extensions that have some.
-/

namespace Outbox.Smtp

/-- The extensions that are told apart. -/
def extensions : List String :=
  ["8BITMIME", "ATRN", "AUTH", "BINARYMIME", "BURL", "CHECKPOINT", "CHUNKING", "CONNEG",
   "CONPERM", "DELIVERBY", "DSN", "ENHANCEDSTATUSCODES", "ETRN", "FUTURERELEASE", "HELP",
   "MT-PRIORITY", "MTRK", "NO-SOLICITING", "ONEX", "PIPELINING", "REQUIRETLS", "RRVS", "SIZE",
   "SMTPUTF8", "STARTTLS", "VERB", "EXPN", "VRFY"]

/-- The login mechanisms that are told apart. -/
def mechanisms : List String :=
  ["SCRAM-SHA-256-PLUS", "SCRAM-SHA-256", "SCRAM-SHA-1-PLUS", "SCRAM-SHA-1", "OAUTHBEARER",
   "XOAUTH", "XOAUTH2", "9798-M-DSA-SHA1", "9798-M-ECDSA-SHA1", "9798-M-RSA-SHA1-ENC",
   "9798-U-DSA-SHA1", "9798-U-ECDSA-SHA1", "9798-U-RSA-SHA1-ENC", "EAP-AES128",
   "EAP-AES128-PLUS", "ECDH-X25519-CHALLENGE", "ECDSA-NIST256P-CHALLENGE", "EXTERNAL",
   "GS2-KRB5", "GS2-KRB5-PLUS", "GSS-SPNEGO", "GSSAPI", "KERBEROS-V4", "KERBEROS-V5",
   "NMAS-SAMBA-AUTH", "NMAS-AUTHEN", "NMAS-LOGIN", "NTLM", "OAUTH10A", "OPENID20", "OTP",
   "SAML20", "SECURID", "SKEY", "SPNEGO", "SPNEGO-PLUS", "SXOVER-PLUS", "CRAM-MD5",
   "DIGEST-MD5", "LOGIN", "PLAIN", "ANONYMOUS"]

/-- The policies for the priority of a message. -/
inductive PriorityPolicy where
  | mixer
  | stanag4406
  | nsep
deriving DecidableEq, Repr

/-- What a server offers. -/
structure Capabilities where
  hostname : String := ""
  offered : List String := []
  logins : List String := []
  deliverBy : Nat := 0
  futureReleaseInterval : Nat := 0
  futureReleaseDatetime : Nat := 0
  size : Nat := 0
  priority : PriorityPolicy := .mixer
  noSoliciting : Option String := none
deriving DecidableEq, Repr

namespace Capabilities

/-- Whether an extension is offered. -/
def offers (c : Capabilities) (extension : String) : Bool := c.offered.contains extension

/-- Whether a login mechanism is offered. -/
def offersLogin (c : Capabilities) (mechanism : String) : Bool := c.logins.contains mechanism

/-- Forgets the parameters of an extension. -/
def forget (c : Capabilities) (extension : String) : Capabilities :=
  if extension = "DELIVERBY" then { c with deliverBy := 0 }
  else if extension = "FUTURERELEASE" then
    { c with futureReleaseInterval := 0, futureReleaseDatetime := 0 }
  else if extension = "SIZE" then { c with size := 0 }
  else if extension = "MT-PRIORITY" then { c with priority := .mixer }
  else if extension = "NO-SOLICITING" then { c with noSoliciting := none }
  else c

/-- Adds an extension, without parameters yet: if it is named again, it starts afresh. -/
def offer (c : Capabilities) (extension : String) : Capabilities :=
  { c.forget extension with offered := extension :: c.offered }

/-- Adds a login mechanism. -/
def offerLogin (c : Capabilities) (mechanism : String) : Capabilities :=
  { c with logins := mechanism :: c.logins }

end Capabilities
end Outbox.Smtp
