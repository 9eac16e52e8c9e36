import Outbox.Smtp.Capabilities
import Outbox.Smtp.ReplyReader

/-!
# Outbox.Smtp.Ehlo — reading the answer to EHLO

The first line of the answer names the server, each other line an extension with its
parameters. An answer whose code is not 250 is a refusal and is read as a reply.

Every word or number is read up to the octet after it, which decides what comes next: a
line feed there ends the line, anything else leaves a rest of the line to be read or
skipped.
-/

namespace Outbox.Smtp

/-! ## Words and numbers -/

/-- An octet of a keyword, as an upper case one. -/
def keywordOctet? (b : UInt8) : Option UInt8 :=
  if 97 ≤ b ∧ b ≤ 122 then some (b - 32)
  else if 65 ≤ b ∧ b ≤ 90 ∨ 48 ≤ b ∧ b ≤ 57 ∨ b = 45 then some b
  else none

/-- A letter as an upper case one. -/
def upperOctet (b : UInt8) : UInt8 := if 97 ≤ b ∧ b ≤ 122 then b - 32 else b

/-- A word that is longer, or the octet after it. -/
inductive Reach (α : Type) where
  | going (more : α)
  | stopped

/-- Takes an octet into a word of at most `limit` octets. -/
def reachWord (limit : Nat) (word : Octets) (b : UInt8) : Reach Octets :=
  match keywordOctet? b with
  | some c => if word.length < limit then .going (word ++ [c]) else .stopped
  | none =>
    if b = Octets.cr || b = Octets.space && word.isEmpty then .going word else .stopped

/-- The largest number, which stands for no number. -/
abbrev unbounded : Nat := 18446744073709551615

/-- Takes an octet into a number; `unbounded` is the number without digits. A number that
would be larger is `unbounded`, too. -/
def reachNumber (n : Nat) (b : UInt8) : Reach Nat :=
  match digit? b with
  | some d => .going (if n = unbounded then d else min unbounded (n * 10 + d))
  | none => if b = Octets.cr || b = Octets.space && n = unbounded then .going n else .stopped

/-- The value of a number that was read. -/
def numberValue (n : Nat) : Nat := if n = unbounded then 0 else n

/-! ## Lines -/

/-- A number that is read for an extension. -/
inductive Parameter where
  | deliverBy
  | releaseInterval
  | releaseDatetime
  | size
deriving DecidableEq, Repr

/-- Where in an answer the reader is. -/
inductive EhloPlace where
  | code (digits : Nat) (value : Nat)
  | mark
  | host (name : Octets)
  | keyword (word : Octets)
  /-- Before the octets that end a keyword too long to be read at once. -/
  | ending (missing : List UInt8)
  | parameter (of : Parameter) (value : Nat)
  | priority (word : Octets)
  | soliciting (word : Octets)
  | login (word : Octets)
  /-- In a login mechanism that did not end where a word ends. -/
  | loginRest (word : Octets)
  | rest
deriving DecidableEq, Repr

/-- The state of the reader. -/
structure EhloState where
  place : EhloPlace := .code 0 0
  isFirst : Bool := true
  isLast : Bool := false
  found : Capabilities := {}
deriving DecidableEq, Repr

/-- What an octet makes of an answer. -/
inductive EhloStep where
  | more (s : EhloState)
  | accepted (c : Capabilities)
  | rejected (code : Nat)
  | malformed

namespace EhloState

/-- Goes to another place. -/
def goto (s : EhloState) (place : EhloPlace) : EhloStep := .more { s with place }

/-- Ends a line. -/
def endLine (s : EhloState) : EhloStep :=
  if s.isLast then .accepted s.found else s.goto (.code 0 0)

/-- Goes on after the octet `b` ended what was read: with `next` in the same line, unless the
line has ended. -/
def proceed (s : EhloState) (next : EhloPlace) (b : UInt8) : EhloStep :=
  if b = Octets.lf then s.endLine else s.goto next

/-- Sets a number that was read. -/
def assign (s : EhloState) (p : Parameter) (n : Nat) : EhloState :=
  { s with found := match p with
    | .deliverBy => { s.found with deliverBy := n }
    | .releaseInterval => { s.found with futureReleaseInterval := n }
    | .releaseDatetime => { s.found with futureReleaseDatetime := n }
    | .size => { s.found with size := n } }

/-- The name in a list whose octets are `word`. -/
def named? (names : List String) (word : Octets) : Option String :=
  names.find? fun name => Octets.ofString name == word

/-- What follows the keyword of an extension. -/
def parametersOf (extension : String) : EhloPlace :=
  if extension = "AUTH" then .login []
  else if extension = "DELIVERBY" then .parameter .deliverBy unbounded
  else if extension = "FUTURERELEASE" then .parameter .releaseInterval unbounded
  else if extension = "SIZE" then .parameter .size unbounded
  else if extension = "MT-PRIORITY" then .priority []
  else if extension = "NO-SOLICITING" then .soliciting []
  else .rest

/-- Judges a keyword that was ended by `b`. -/
def endKeyword (s : EhloState) (word : Octets) (b : UInt8) : EhloStep :=
  match named? extensions word with
  | some name => { s with found := s.found.offer name }.proceed (parametersOf name) b
  | none =>
    if word = Octets.ofString "ENHANCEDSTATUSCO" && upperOctet b = 68 then s.goto (.ending [69, 83])
    else s.proceed .rest b

/-- Takes an octet of the end of a keyword. -/
def takeEnding (s : EhloState) (missing : List UInt8) (b : UInt8) : EhloStep :=
  match missing with
  | [c] =>
    if upperOctet b = c then { s with found := s.found.offer "ENHANCEDSTATUSCODES" }.goto .rest
    else s.goto .rest
  | c :: more => if upperOctet b = c then s.goto (.ending more) else s.goto .rest
  | [] => s.goto .rest

/-- What is read after a number that was ended by `b`. -/
def endParameter (s : EhloState) (p : Parameter) (value : Nat) (b : UInt8) : EhloStep :=
  (s.assign p (numberValue value)).proceed
    (if p = .releaseInterval then .parameter .releaseDatetime unbounded else .rest) b

/-- The policy that a word names. -/
def policy (word : Octets) : PriorityPolicy :=
  if word = Octets.ofString "STANAG4406" then .stanag4406
  else if word = Octets.ofString "NSEP" then .nsep
  else .mixer

/-- Adds a login mechanism that was read, if it is known. -/
def addLogin (s : EhloState) (word : Octets) : EhloState :=
  match named? mechanisms word with
  | some name => { s with found := s.found.offerLogin name }
  | none => s

/-- Whether an octet is white space. -/
def isSeparator (b : UInt8) : Bool := b = 32 || b = 9 || b = 10 || b = 12 || b = 13

/-- Takes an octet of a code. -/
def takeCode (s : EhloState) (digits value : Nat) (b : UInt8) : EhloStep :=
  match digit? b with
  | none => .malformed
  | some d =>
    let value := value * 10 + d
    if digits < 2 then s.goto (.code (digits + 1) value)
    else if value = 250 then s.goto .mark
    else .rejected value

/-- Takes the octet after a code. -/
def takeMark (s : EhloState) (b : UInt8) : EhloStep :=
  let next : EhloPlace := if s.isFirst then .host [] else .keyword []
  if b = Octets.space then { s with isLast := true }.goto next
  else if b = 45 then s.goto next
  else if b = Octets.lf then .accepted s.found
  else .malformed

/-- Takes an octet of the server's name. -/
def takeHost (s : EhloState) (name : Octets) (b : UInt8) : EhloStep :=
  if b = Octets.lf || b = Octets.space then
    { s with
      isFirst := false
      found := { s.found with hostname := Utf8.decodeString name } }.proceed .rest b
  else if b = Octets.cr then s.goto (.host name)
  else s.goto (.host (name ++ [b]))

/-- Takes an octet of the keywords that must not be in a message. -/
def takeSoliciting (s : EhloState) (word : Octets) (b : UInt8) : EhloStep :=
  if b = Octets.lf || b = Octets.space then
    let keyword? := if word.isEmpty then none else some (Utf8.decodeString word)
    { s with found := { s.found with noSoliciting := keyword? } }.proceed .rest b
  else if b = Octets.cr then s.goto (.soliciting word)
  else s.goto (.soliciting (word ++ [b]))

/-- Takes an octet. -/
def step (s : EhloState) (b : UInt8) : EhloStep :=
  match s.place with
  | .code digits value => s.takeCode digits value b
  | .mark => s.takeMark b
  | .host name => s.takeHost name b
  | .keyword word =>
    match reachWord 16 word b with
    | .going word => s.goto (.keyword word)
    | .stopped => s.endKeyword word b
  | .ending missing => s.takeEnding missing b
  | .parameter p value =>
    match reachNumber value b with
    | .going value => s.goto (.parameter p value)
    | .stopped => s.endParameter p value b
  | .priority word =>
    match reachWord 16 word b with
    | .going word => s.goto (.priority word)
    | .stopped => { s with found := { s.found with priority := policy word } }.proceed .rest b
  | .soliciting word => s.takeSoliciting word b
  | .login word =>
    match reachWord 16 word b with
    | .going word => s.goto (.login word)
    | .stopped =>
      if isSeparator b then (s.addLogin word).proceed (.login []) b
      else s.goto (.loginRest (word ++ [b]))
  | .loginRest word =>
    if isSeparator b then (s.addLogin word).proceed (.login []) b
    else s.goto (.loginRest (word ++ [upperOctet b]))
  | .rest => s.proceed .rest b

end EhloState

/-! ## The answer -/

/-- The state of a reader of an answer: in the list of extensions, or in a refusal. -/
inductive AnswerState where
  | listing (s : EhloState)
  | refusal (s : ReplyState)
deriving DecidableEq, Repr

namespace AnswerState

/-- Takes an octet. -/
def step (s : AnswerState) (b : UInt8) : Progress AnswerState Capabilities :=
  match s with
  | .listing s =>
    match s.step b with
    | .more s => .more (.listing s)
    | .accepted c => .finished (.ok c)
    | .rejected code => .more (.refusal { place := .mark, code })
    | .malformed => .finished (.error .unparseableReply)
  | .refusal s =>
    match s.step b with
    | .more s => .more (.refusal s)
    | .finished (.ok reply) => .finished (.error (.unexpectedReply reply))
    | .finished (.error e) => .finished (.error e)

end AnswerState

/-- Reads the answer to EHLO. -/
def ehloReader : Reader AnswerState Capabilities :=
  { start := .listing {}, step := AnswerState.step, capacity := some 4096 }

end Outbox.Smtp
