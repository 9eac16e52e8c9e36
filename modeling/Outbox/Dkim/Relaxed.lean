import Outbox.Octets
import Outbox.Text.Classes

/-!
# Outbox.Dkim.Relaxed — relaxed canonicalization

The forms of a header field and of a body over which a signature is computed.
They are meant to absorb what a transport may change: the case of field names,
runs of blanks, line ends and empty lines at the end of the body.
-/

namespace Outbox.Dkim

/-- Reduces every run of blanks to one space; `after` says whether a blank came just
before. -/
def squeeze {α : Type} (isBlank : α → Bool) (space : α) (after : Bool) : List α → List α
  | [] => []
  | x :: rest =>
    if isBlank x then
      if after then squeeze isBlank space true rest
      else space :: squeeze isBlank space true rest
    else x :: squeeze isBlank space false rest

/-! ## Bodies -/

/-- A space or a tab. -/
def isBlankOctet (b : UInt8) : Bool := b == Octets.space || b == Octets.tab

/-- Cuts octets at every line feed. -/
def splitLines : Octets → List Octets
  | [] => [[]]
  | b :: rest =>
    match splitLines rest with
    | [] => [[b]]
    | line :: lines => if b = Octets.lf then [] :: line :: lines else (b :: line) :: lines

/-- Drops the last element if it is the given one. -/
def dropLastIf (b : UInt8) (octets : Octets) : Octets :=
  if octets.getLast? = some b then octets.dropLast else octets

/-- A line with runs of blanks reduced and none at its end. -/
def relaxedLine (line : Octets) : Octets :=
  ((squeeze isBlankOctet Octets.space false (dropLastIf Octets.cr line)).reverse.dropWhile
    (· == Octets.space)).reverse

/-- Lines without the empty ones at the end, but at least one. -/
def dropEmptyEnd (lines : List Octets) : List Octets :=
  match (lines.reverse.dropWhile List.isEmpty).reverse with
  | [] => [[]]
  | kept => kept

/-- The relaxed form of a body. An empty body is a single line end. -/
def relaxedBody (body : Octets) : Octets :=
  (dropEmptyEnd ((splitLines (dropLastIf Octets.lf body)).map relaxedLine)).flatMap
    (· ++ Octets.crlf)

/-! ## Header fields -/

/-- A space or a tab. -/
def isBlankChar (c : Char) : Bool := c == ' ' || c == '\t'

/-- A value without its line ends. A carriage return that ends no line stays. -/
def unfold : List Char → List Char
  | '\r' :: '\n' :: rest => unfold rest
  | '\n' :: rest => unfold rest
  | c :: rest => c :: unfold rest
  | [] => []

/-- The relaxed form of a header field, without a line end. -/
def relaxedHeader (name value : List Char) : List Char :=
  Text.lower (Text.trim name) ++ ':' :: squeeze isBlankChar ' ' false (Text.trim (unfold value))

end Outbox.Dkim
