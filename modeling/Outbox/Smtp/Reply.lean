/-!
# Outbox.Smtp.Reply — replies of a server

A reply by what a client looks at, and the two judgements that its code allows.
-/

namespace Outbox.Smtp

/-- A reply of a server: its code, its enhanced status, and its text. -/
structure Reply where
  code : Nat
  status : Nat × Nat × Nat
  text : String
deriving DecidableEq, Repr

/-- Whether the command was carried out. -/
def Reply.isPositive (r : Reply) : Bool := 200 ≤ r.code && r.code ≤ 299

/-- Whether the command failed for the time being. -/
def Reply.isTransient (r : Reply) : Bool := 400 ≤ r.code && r.code ≤ 499

end Outbox.Smtp
