import Outbox.Backoff
import Outbox.Hooks
import Outbox.Mime.Payload
import Outbox.Pool
import Outbox.Smtp.Setup

/-!
# Outbox.Settings — what a caller can choose

`ServerSettings` describe the server that mail is handed over to, `SendSettings` a single
send.
-/

namespace Outbox

/-! ## The server -/

/-- The server that mail is handed over to. -/
structure ServerSettings where
  host : String
  port : Nat
  username : String := ""
  password : String := ""
  /-- The name under which the client introduces itself. -/
  localName : Option String := none
  timeout : Duration := .ofSeconds 30
  startTls : Bool := false
  implicitTls : Bool := false
  allowInvalidCerts : Bool := false
  /-- How many sessions are kept for later use. -/
  poolMaxIdle : Nat := 0
  poolIdleTtl : Duration := .zero
deriving DecidableEq

namespace ServerSettings

/-- The credentials, if they are complete. -/
def credentials? (s : ServerSettings) : Option Smtp.Credentials :=
  if s.username.isEmpty || s.password.isEmpty then none else some ⟨s.username, s.password⟩

/-- The endpoint that the settings describe, for a client on a machine of this name. -/
def endpoint (s : ServerSettings) (machine : String) : Smtp.Endpoint :=
  let e := Smtp.Endpoint.make s.host s.port machine
  { e with
    timeout := if s.timeout.isZero then e.timeout else s.timeout
    implicitTls := s.implicitTls
    startTls := s.startTls
    allowInvalidCerts := s.allowInvalidCerts
    credentials := s.credentials?
    localHost := match s.localName with
      | some name => if name.isEmpty then machine else name
      | none => machine }

/-- A description without the password. -/
def describe (s : ServerSettings) : String :=
  Text.describeRecord "SmtpConfig"
    [("host", Text.quoted s.host), ("port", s.port.repr), ("username", Text.quoted s.username),
     ("local_name", Text.describeOption (s.localName.map Text.quoted)),
     ("timeout", s.timeout.describe), ("start_tls", Text.describeBool s.startTls),
     ("implicit_tls", Text.describeBool s.implicitTls),
     ("allow_invalid_certs", Text.describeBool s.allowInvalidCerts),
     ("pool_max_idle", s.poolMaxIdle.repr), ("pool_idle_ttl", s.poolIdleTtl.describe)] true

end ServerSettings

/-! ## A send -/

/-- A pool of sessions: where its stock is, and how its sessions are opened. -/
structure SessionPool where
  slot : Nat
  pool : Pool
  endpoint : Smtp.Endpoint
deriving DecidableEq

/-- How a message is sent. -/
structure SendSettings extends Mime.Finishing where
  /-- When attempts are made; only one if nothing is chosen. -/
  schedule : Option Schedule := none
  /-- The bucket that a token is taken from. -/
  rateLimit : Option Nat := none
  /-- The pool that is used in place of the mailer's own. -/
  pool : Option SessionPool := none
  hooks : Option Hooks := none

/-- A description of how a message is sent. -/
def SendSettings.describe (s : SendSettings) : String :=
  Text.describeRecord "SendConfig"
    [("list_unsubscribe", Text.describeOption (s.listUnsubscribe.map Text.quoted)),
     ("backoff", Text.describeBool s.schedule.isSome),
     ("rate_limit", Text.describeOption
       (s.rateLimit.map fun _ => Text.describeRecord "TokenBucket" [] true)),
     ("pool", Text.describeBool s.pool.isSome),
     ("hooks", Text.describeOption (s.hooks.map Hooks.describe)),
     ("dkim", Text.describeOption (s.dkim.map Dkim.Settings.describe))] false

end Outbox
