import Outbox.Smtp.Capabilities
import Outbox.Time.Duration

/-!
# Outbox.Smtp.Connection — an open session

A session by the link that it runs over and by what is known of the server.
-/

namespace Outbox.Smtp

/-- An open session. -/
structure Connection where
  /-- The number of its link. -/
  link : Nat
  /-- How long a command may take. -/
  patience : Duration
  capabilities : Capabilities := {}
  isSecure : Bool := false
deriving DecidableEq

end Outbox.Smtp
