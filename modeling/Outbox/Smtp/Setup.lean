import Outbox.Smtp.Login
import Outbox.Smtp.ServerName
import Outbox.Time.Duration

/-!
# Outbox.Smtp.Setup — opening a session

How a session is opened with a server, up to the point where mail can be handed over:
greeting, EHLO, perhaps TLS, perhaps a login. Everything known of a server is forgotten
when the connection becomes secure, and asked for again.
-/

namespace Outbox.Smtp

/-- A server and how to open a session with it. -/
structure Endpoint where
  /-- The host and port that is called. -/
  address : String
  /-- How long opening a session may take, and every command after that. -/
  timeout : Duration
  /-- The name in the server's certificate. -/
  tlsHostname : String
  /-- Whether the connection is secure from the start. -/
  implicitTls : Bool
  /-- Whether it is made secure later, if the server offers that. -/
  startTls : Bool
  allowInvalidCerts : Bool
  credentials : Option Credentials
  /-- The name under which the client introduces itself. -/
  localHost : String
deriving DecidableEq

/-- The endpoint of a host and port for a client on a machine of this name. -/
def Endpoint.make (host : String) (port : Nat) (machine : String) : Endpoint where
  address := host ++ ":" ++ port.repr
  timeout := .ofSeconds 3600
  tlsHostname := host
  implicitTls := false
  startTls := false
  allowInvalidCerts := false
  credentials := none
  localHost := machine

/-- Waits for a server's greeting. -/
def greet : Dialogue Unit :=
  Dialogue.atStage .greeting do
    let reply ← .request .listen
    .ofResult (Reply.assertPositive reply)

/-- Introduces the client and hears what the server offers. -/
def hello (host : String) : Dialogue Capabilities := .request (.hello host)

/-- Makes the connection secure. -/
def secureAs (server : String) : Dialogue Unit :=
  if ServerName.isValid server then .request (.secure server) else .fail .invalidTlsName

/-- Asks the server to make the connection secure, and does so. -/
def upgrade (server : String) : Dialogue Unit := do
  perform "STARTTLS"
  secureAs server

namespace Endpoint

/-- Introduces the client. -/
def introduce (e : Endpoint) : Dialogue Capabilities := (hello e.localHost).atStage .ehlo

/-- Opens a session up to the login. The answer says what the server offers and whether the
connection is secure. -/
def greetAndSecure (e : Endpoint) : Dialogue (Capabilities × Bool) :=
  if e.implicitTls then do
    (secureAs e.tlsHostname).atStage .connect
    greet
    return (← e.introduce, true)
  else do
    greet
    let offered ← e.introduce
    if e.startTls && offered.offers "STARTTLS" then
      (upgrade e.tlsHostname).atStage .startTls
      return (← e.introduce, true)
    else
      return (offered, false)

/-- Logs in, if there are credentials and the server offers logins. -/
def logIn (e : Endpoint) (offered : Capabilities) : Dialogue Unit :=
  match e.credentials with
  | some credentials =>
    if offered.offers "AUTH" then (authenticate offered credentials).atStage .auth else pure ()
  | none => pure ()

/-- Opens a session on a new connection. -/
def setUp (e : Endpoint) : Dialogue (Capabilities × Bool) := do
  let (offered, isSecure) ← e.greetAndSecure
  e.logIn offered
  return (offered, isSecure)

end Endpoint
end Outbox.Smtp
