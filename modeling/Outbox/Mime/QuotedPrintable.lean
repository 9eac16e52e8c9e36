import Outbox.Octets

/-!
# Outbox.Mime.QuotedPrintable — text bodies

The quoted-printable encoding of RFC 2045. Every line feed ends a line, carriage
returns are dropped, and a soft break keeps each line within 76 columns. The
output always ends a line.
-/

namespace Outbox.Mime

open Octets

/-- Whether an octet stands for itself. -/
def isLiteral (b : UInt8) : Bool := 32 ≤ b && b ≤ 126 && b != 61

/-- An octet as it is written within a line. -/
def quoteOctet (b : UInt8) : Octets :=
  if isLiteral b then [b] else [61, upperHexDigit (b >>> 4), upperHexDigit (b &&& 15)]

/-- The soft line break. -/
abbrev softBreak : Octets := 61 :: crlf

/-- Encodes octets after `column` columns of a line. -/
def quotedPrintableFrom (column : Nat) : Octets → Octets
  | [] => crlf
  | b :: rest =>
    if b = cr then quotedPrintableFrom column rest
    else if b = lf then crlf ++ quotedPrintableFrom 0 rest
    else
      let quoted := quoteOctet b
      if column + quoted.length ≤ 75 then
        quoted ++ quotedPrintableFrom (column + quoted.length) rest
      else softBreak ++ quoted ++ quotedPrintableFrom quoted.length rest

/-- Encodes a text body. -/
def quotedPrintable (body : Octets) : Octets := quotedPrintableFrom 0 body

end Outbox.Mime
