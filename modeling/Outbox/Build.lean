import Outbox.Hooks
import Outbox.Mime.Payload

/-!
# Outbox.Build — building a payload under hooks

A message that cannot be sent is refused before any hook is called. Otherwise the
payload is built between the two hooks of a build, and both hooks are called even if
it fails.
-/

namespace Outbox

/-- The error of a result that failed. -/
def errorOf? {α : Type} : Result α → Option Error
  | .ok _ => none
  | .error e => some e

/-- The size of a payload, zero if there is none. -/
def payloadSize : Result Octets → Nat
  | .ok payload => payload.length
  | .error _ => 0

/-- Validates a message and builds its payload. -/
def build (m : Message) (f : Mime.Finishing) (hooks : Hooks) (o : Mime.Occasion) (now : Instant)
    (a : Ambient) : Result Octets × Ambient :=
  match m.validate with
  | .error e => (.error e, a)
  | .ok () =>
    let a := hooks.buildStart m now a
    let result := Mime.payload m f o
    (result, hooks.buildDone m (payloadSize result) (errorOf? result) now a)

end Outbox
