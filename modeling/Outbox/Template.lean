import Outbox.Message

/-!
# Outbox.Template — bodies from templates

What a template store hands back, and how it enters a message.
-/

namespace Outbox

/-- The bodies that a template produced, at least one. -/
structure RenderedBody where
  text : Option Octets
  html : Option Octets
deriving DecidableEq, Repr

namespace RenderedBody

/-- The bodies that were produced under a name. There is no such template if there
are none. -/
def make (name : String) (text html : Option Octets) : Result RenderedBody :=
  if text.isNone && html.isNone then
    .error (.template ("template " ++ Text.quoted name ++ " not found"))
  else .ok ⟨text, html⟩

/-- Puts the bodies into a message. A body that was not produced stays as it is. -/
def apply (b : RenderedBody) (m : Message) : Message :=
  { m with textBody := b.text <|> m.textBody, htmlBody := b.html <|> m.htmlBody }

end RenderedBody
end Outbox
