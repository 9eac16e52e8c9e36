import Outbox.Smtp.Reader
import Outbox.Text.Utf8

/-!
# Outbox.Smtp.ReplyReader — reading replies

A reply is one or more lines. Each has a code of three digits, a mark that says whether
more lines follow, perhaps an enhanced status of three numbers, and text. The code is
that of the first line, the status that of the last line that has one, and the text is
that of all lines.

What looks like a status and turns out not to be one belongs to the text.
-/

namespace Outbox.Smtp

/-- The most octets that the text of a reply may have before one more is refused. -/
abbrev textLimit : Nat := 4096

/-- Where in a line a reader is. -/
inductive ReplyPlace where
  /-- After so many digits of the code. -/
  | code (digits : Nat)
  | mark
  /-- In one of the three numbers of the status. -/
  | status (index : Nat)
  | text
deriving DecidableEq, Repr

/-- The state of a reader of replies. -/
structure ReplyState where
  place : ReplyPlace := .code 0
  code : Nat := 0
  /-- Whether this line is the last one. -/
  isLast : Bool := false
  status : Nat × Nat × Nat := (0, 0, 0)
  /-- The octets that may be a status. -/
  pending : Octets := []
  /-- The numbers in them. -/
  numbers : Nat × Nat × Nat := (0, 0, 0)
  text : Octets := []
deriving DecidableEq, Repr

/-- The value of a digit. -/
def digit? (b : UInt8) : Option Nat := if 48 ≤ b ∧ b ≤ 57 then some (b.toNat - 48) else none

/-- One of three numbers. -/
def number (numbers : Nat × Nat × Nat) : Nat → Nat
  | 0 => numbers.1
  | 1 => numbers.2.1
  | _ => numbers.2.2

/-- Sets one of three numbers. -/
def setNumber (numbers : Nat × Nat × Nat) (n : Nat) : Nat → Nat × Nat × Nat
  | 0 => (n, numbers.2)
  | 1 => (numbers.1, n, numbers.2.2)
  | _ => (numbers.1, numbers.2.1, n)

namespace ReplyState

/-- The reply that was read. -/
def reply (s : ReplyState) : Reply := ⟨s.code, s.status, Utf8.decodeString s.text⟩

/-- Gives up on a status: its octets and the one after them are text. -/
def asText (s : ReplyState) (b : UInt8) : ReplyState :=
  { s with place := .text, pending := [], numbers := (0, 0, 0), text := s.text ++ s.pending ++ [b] }

/-- Takes an octet of a code. Only the first line's digits count. -/
def takeCode (s : ReplyState) (digits : Nat) (b : UInt8) : Option ReplyState :=
  (digit? b).map fun d =>
    { s with
      place := if digits < 2 then .code (digits + 1) else .mark
      code := if s.text.isEmpty then min 65535 (s.code * 10 + d) else s.code }

/-- Takes the octet after a code. -/
def takeMark (s : ReplyState) (b : UInt8) : Option ReplyState :=
  if b = Octets.space then some { s with place := .status 0, isLast := true }
  else if b = 45 then some { s with place := .status 0 }
  else if b = Octets.cr then some s
  else if b = Octets.lf then some { s with isLast := true }
  else none

/-- Takes an octet that may belong to a status. -/
def takeStatus (s : ReplyState) (index : Nat) (b : UInt8) : ReplyState :=
  match digit? b with
  | some d =>
    let n := number s.numbers index
    if n < 100 && s.pending.length < 10 then
      { s with
        pending := s.pending ++ [b]
        numbers := setNumber s.numbers (min 255 (n * 10 + d)) index }
    else s.asText b
  | none =>
    if b = Octets.dot && index < 2 && s.pending.length < 10 then
      { s with place := .status (index + 1), pending := s.pending ++ [b] }
    else if (b = Octets.space || b = Octets.cr || b = Octets.lf) && index = 2 then
      { s with place := .text, pending := [], numbers := (0, 0, 0), status := s.numbers }
    else s.asText b

/-- Takes an octet of the text. -/
def takeText (s : ReplyState) (b : UInt8) : Option ReplyState :=
  if b = Octets.cr || b = Octets.lf then some s
  else if s.text.length < textLimit then some { s with text := s.text ++ [b] }
  else none

/-- Takes an octet, without regard to the end of a line. -/
def take (s : ReplyState) (b : UInt8) : Option ReplyState :=
  match s.place with
  | .code digits => s.takeCode digits b
  | .mark => s.takeMark b
  | .status index => some (s.takeStatus index b)
  | .text => s.takeText b

/-- Takes an octet. A line feed ends the reply or begins the next line. -/
def step (s : ReplyState) (b : UInt8) : Progress ReplyState Reply :=
  match s.take b with
  | none => .finished (.error .unparseableReply)
  | some s =>
    if b = Octets.lf then
      if s.isLast then .finished (.ok s.reply)
      else .more { s with place := .code 0, text := s.text ++ [Octets.lf] }
    else .more s

end ReplyState

/-- Reads a reply. -/
def replyReader : Reader ReplyState Reply := { start := {}, step := ReplyState.step }

end Outbox.Smtp
