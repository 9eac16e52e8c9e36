import Outbox.Error
import Outbox.Octets
import Outbox.Time.Duration

/-!
# Outbox.Link — a connection and its far end

A link is the near end of a connection together with all that its far end is going to do:
what will arrive, whether a TLS handshake would succeed, and how much can be written. So
everything a server might do is a value, and what was written to it is one, too.
-/

namespace Outbox

/-- Something that a read meets. -/
inductive Arrival where
  /-- Octets that arrive together. None at all is the end of the stream. -/
  | octets (content : Octets)
  /-- Nothing arrives for a time. -/
  | pause (time : Duration)
  /-- Nothing arrives any more. -/
  | silence
  | failure (e : StreamError)
deriving DecidableEq

/-- Why a TLS handshake failed. -/
inductive HandshakeFault where
  /-- By a rule of TLS. -/
  | protocol
  | stream (e : StreamError)
deriving DecidableEq

/-- The error of a failed handshake. A failure of the stream that has no message of its own
is given one. -/
def HandshakeFault.error : HandshakeFault → Error
  | protocol => .tls
  | stream e =>
    match e.text with
    | .message _ => .stream e
    | _ => .stream ⟨e.fault, .message "TLS handshake failed"⟩

/-- What comes of a TLS handshake. -/
inductive Handshake where
  | completes
  | fails (fault : HandshakeFault)
  | stalls
deriving DecidableEq

/-- A connection. -/
structure Link where
  /-- What is still to arrive. After that the stream is at its end. -/
  arrivals : List Arrival
  /-- The number of octets that can still be written and the error after them, if writing
  is going to fail. -/
  room : Option (Nat × StreamError) := none
  handshake : Handshake := .completes
  /-- What was written. -/
  sent : Octets := []
deriving DecidableEq

namespace Link

/-- The most octets that one read takes. -/
abbrev readLimit : Nat := 1024

/-- A measure that every read makes smaller. -/
def weight : List Arrival → Nat
  | [] => 0
  | .octets content :: rest => content.length + 1 + weight rest
  | _ :: rest => 1 + weight rest

/-- What one read takes of octets that arrived together, and what is left to arrive. -/
def split (content : Octets) (rest : List Arrival) : Octets × List Arrival :=
  if content.length ≤ readLimit then (content, rest)
  else (content.take readLimit, .octets (content.drop readLimit) :: rest)

theorem weight_split (content : Octets) (rest : List Arrival) :
    weight (split content rest).2 < weight (.octets content :: rest) := by
  unfold split
  split
  next => simp [weight]
  next long => simp [weight, readLimit] at long ⊢; omega

/-- Writes octets. -/
def write (l : Link) (octets : Octets) : Result Unit × Link :=
  match l.room with
  | none => (.ok (), { l with sent := l.sent ++ octets })
  | some (n, e) =>
    if octets.length ≤ n then
      (.ok (), { l with sent := l.sent ++ octets, room := some (n - octets.length, e) })
    else (.error (.stream e), { l with sent := l.sent ++ octets.take n, room := some (0, e) })

end Link
end Outbox
