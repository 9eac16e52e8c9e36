/-!
# Outbox.Smtp.Stage — the steps of a session

The steps at which a session can fail. An error names its step by the command
that was sent.
-/

namespace Outbox.Smtp

/-- A step of a session. -/
inductive Stage where
  | connect
  | greeting
  | ehlo
  | startTls
  | auth
  | reset
  | mailFrom
  | rcptTo
  | data
  | quit
deriving DecidableEq, Repr

/-- The word for a step. -/
def Stage.word : Stage → String
  | connect => "dial"
  | greeting => "greeting"
  | ehlo => "EHLO"
  | startTls => "STARTTLS"
  | auth => "auth"
  | reset => "RSET"
  | mailFrom => "MAIL FROM"
  | rcptTo => "RCPT TO"
  | data => "DATA"
  | quit => "QUIT"

end Outbox.Smtp
