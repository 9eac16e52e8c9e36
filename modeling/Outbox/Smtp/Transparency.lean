import Outbox.Octets

/-!
# Outbox.Smtp.Transparency — the content of a message on the wire

The content of a message ends with a line that holds a single dot. A line of the message
that begins with a dot gets another one in front, so that none of them is that line.
-/

namespace Outbox.Smtp

/-- Where in a line the next octet stands. -/
inductive LinePlace where
  | first
  /-- After a carriage return. -/
  | afterReturn
  | inside
deriving DecidableEq, Repr

/-- Where the octet after `b` stands. -/
def LinePlace.after (p : LinePlace) (b : UInt8) : LinePlace :=
  if b = Octets.cr then .afterReturn
  else if b = Octets.lf && p = .afterReturn then .first
  else .inside

/-- Doubles the dot at the start of every line. -/
def stuffFrom (p : LinePlace) : Octets → Octets
  | [] => []
  | b :: rest =>
    if b = Octets.dot && p = .first then Octets.dot :: b :: stuffFrom (p.after b) rest
    else b :: stuffFrom (p.after b) rest

/-- Doubles the dot at the start of every line of a message. -/
def stuff (message : Octets) : Octets := stuffFrom .first message

/-- The end of a message's content: a line with a dot, after the end of the last line. -/
def ending (message : Octets) : Octets :=
  if message.isEmpty || Octets.endsWith message Octets.crlf then Octets.dot :: Octets.crlf
  else Octets.crlf ++ Octets.dot :: Octets.crlf

/-- The content of a message and its end, as they are written. -/
def content (message : Octets) : Octets := stuff message ++ ending message

end Outbox.Smtp
