import Outbox.Base64

/-!
# Outbox.Mime.Base64Lines — attachments

Base64 in lines. Each line takes 57 octets, a multiple of three, and so has 76
characters without padding, but for the last one.
-/

namespace Outbox.Mime

/-- The octets that one line takes. -/
abbrev lineOctets : Nat := 57

/-- Encodes octets in base64, a line for every 57. -/
def base64Lines (content : Octets) : Octets :=
  if content.isEmpty then []
  else
    Base64.encode (content.take lineOctets) ++ Octets.crlf ++
      base64Lines (content.drop lineOctets)
termination_by content.length
decreasing_by
  have h : content ≠ [] := by simpa using ‹¬content.isEmpty = true›
  have := List.length_pos_iff.2 h
  simp only [List.length_drop, lineOctets]
  omega

end Outbox.Mime
