import Outbox.Address
import Outbox.Mime.WordDecoding

/-!
# Outbox.Address.Grammar — reading address fields

Reads the value of an address field as people write it: mailboxes with phrases, quoted
strings, comments, groups and encoded words, in any mixture. The reader is a machine
that takes one octet at a time.

1. `Place` says what the octets belong to: a phrase, a quoted string, a comment, or a
   mailbox between angle brackets.
2. A *token* goes from its first to its last octet that is no blank; in a quoted string
   blanks belong to it. `endToken` files it under names, mailboxes or comments.
3. `endEntry` makes an entry of what was filed, `endGroup` a group of the entries so far.

`Address.parse` and `Address.parseList` accept what was read if every mailbox has
something on both sides of its at sign.
-/

namespace Outbox.Address

/-- What an octet belongs to. -/
inductive Place where
  | phrase
  | quoted
  | angle
  | comment
deriving DecidableEq, Repr

/-- What was read for one address. -/
structure Entry where
  name : Option String
  mailbox : Option String
deriving DecidableEq, Repr

/-- The state of the reader. -/
structure Scanner where
  place : Place := .phrase
  /-- The places around this one, the innermost first. -/
  around : List Place := []
  /-- The octets of the token being read, backwards. -/
  token : Octets := []
  /-- The blanks read after the token, backwards. -/
  blanks : Octets := []
  /-- Whether the token holds an at sign. -/
  sawAt : Bool := false
  /-- Whether a word may begin here. -/
  wordStart : Bool := true
  /-- Whether the octet before was a backslash. -/
  escaped : Bool := false
  names : List String := []
  mailboxes : List String := []
  comments : List String := []
  /-- The entries since the last group. -/
  entries : List Entry := []
  /-- The name of the group that is being read. -/
  groupName : Option String := none
  /-- The groups that were read, each with its entries. -/
  groups : List (List Entry) := []

namespace Scanner

/-- The parts of a phrase or comment with one more, after a space unless it is the first. -/
def joined (parts : List String) (part : String) : List String :=
  if parts.isEmpty then [part] else parts ++ [" ", part]

/-- Files a token under what it is. -/
def file (s : Scanner) (token : String) : Scanner :=
  match s.place with
  | .angle => { s with mailboxes := s.mailboxes ++ [token] }
  | .phrase =>
    if s.sawAt then { s with mailboxes := s.mailboxes ++ [token] }
    else { s with names := joined s.names token }
  | .quoted => { s with names := s.names ++ [token] }
  | .comment => { s with comments := joined s.comments token }

/-- Forgets the token and the marks that belong to it. -/
def rested (s : Scanner) : Scanner :=
  { s with token := [], blanks := [], sawAt := false, wordStart := true, escaped := false }

/-- Ends the token that is being read, if there is one. -/
def endToken (s : Scanner) : Scanner :=
  if s.token.isEmpty then { s with blanks := [] }
  else (s.file (Utf8.decodeString s.token.reverse)).rested

/-- The text of a list of parts, if there are any. -/
def text? (parts : List String) : Option String :=
  if parts.isEmpty then none else some (String.join parts)

/-- The entry that names, mailboxes and comments make. -/
def entry? (names mailboxes comments : List String) : Option Entry :=
  match text? names, text? mailboxes, text? comments with
  | some name, some mailbox, some comment =>
    some ⟨some (name ++ " (" ++ comment ++ ")"), some mailbox⟩
  | name, some mailbox, none => some ⟨name, some mailbox⟩
  | none, some mailbox, comment => some ⟨comment, some mailbox⟩
  | some name, none, some comment => some ⟨some comment, some name⟩
  | some name, none, none => some ⟨some name, none⟩
  | none, none, some comment => some ⟨some comment, none⟩
  | none, none, none => none

/-- Ends an entry, if anything was read for it. -/
def endEntry (s : Scanner) : Scanner :=
  match entry? s.names s.mailboxes s.comments with
  | none => s
  | some entry =>
    { s with names := [], mailboxes := [], comments := [], entries := s.entries ++ [entry] }

/-- Ends a group, if it has a name or entries. -/
def endGroup (s : Scanner) : Scanner :=
  if s.groupName.isSome || !s.entries.isEmpty then
    { s with groupName := none, entries := [], groups := s.groups ++ [s.entries] }
  else s

/-- Begins a group that is named by what was read last. -/
def nameGroup (s : Scanner) : Scanner :=
  let name := match text? s.names, text? s.mailboxes with
    | some name, some mailbox => some (name ++ " " ++ mailbox)
    | some name, none => some name
    | none, some mailbox => some mailbox
    | none, none => s.groupName
  { s with names := [], mailboxes := [], comments := [], groupName := name }

/-- Goes to a place inside this one. -/
def enter (place : Place) (s : Scanner) : Scanner :=
  { s with place, around := s.place :: s.around }

/-- Goes back to the place around this one. -/
def leave (s : Scanner) : Scanner :=
  { s with place := s.around.headD .phrase, around := s.around.tail }

/-- Takes an octet as it is. -/
def take (s : Scanner) (b : UInt8) : Scanner :=
  { s with
    token := if s.token.isEmpty then [b] else b :: (s.blanks ++ s.token)
    blanks := []
    escaped := false
    wordStart := false }

/-- Takes a blank. -/
def takeBlank (s : Scanner) (b : UInt8) : Scanner :=
  let s := { s with wordStart := true, escaped := false }
  if s.place = .quoted then { s with token := b :: (s.blanks ++ s.token), blanks := [] }
  else { s with blanks := b :: s.blanks }

/-- Takes the text of an encoded word. -/
def takeWord (s : Scanner) (word : String) : Scanner :=
  let pending := !s.token.isEmpty
  let spaced := pending && s.place != .quoted
  let mailbox := s.place = .angle || (s.place = .phrase && s.sawAt)
  let place := s.place
  let s := s.endToken
  let space (here : Bool) (parts : List String) := if spaced && here then parts ++ [" "] else parts
  let names := space (!mailbox && place != .comment) s.names
  let comments := space (place = .comment) s.comments
  let mailboxes := space mailbox s.mailboxes
  if place = .comment then { s with names, mailboxes, comments := comments ++ [word] }
  else { s with names := names ++ [word], mailboxes, comments }

/-- Takes an octet. -/
def step (s : Scanner) (b : UInt8) : Scanner :=
  match b, s.place with
  | 32, _ => s.takeBlank b
  | 9, _ => s.takeBlank b
  | 13, _ => s
  | 44, .phrase => s.endToken.endEntry
  | 60, .phrase => enter .angle { s with sawAt := false }.endToken
  | 62, .angle => s.endToken.leave
  | 58, .phrase => if s.escaped then s.take b else s.endGroup.endToken.nameGroup
  | 59, .phrase => s.endToken.endEntry.endGroup
  | 64, .phrase => { s with sawAt := true }.take b
  | 92, .phrase => s.take b
  | 92, _ => if s.escaped then s.take b else { s.endToken with escaped := true }
  | 34, .phrase => if s.escaped then s.take b else (s.enter .quoted).endToken
  | 34, .quoted => if s.escaped then s.take b else s.endToken.leave
  | 40, .quoted => s.take b
  | 40, .comment => if s.escaped then s.take b else (s.enter .comment).take b
  | 40, _ => if s.escaped then s.take b else s.endToken.enter .comment
  | 41, .comment =>
    if s.escaped then s.take b
    else if s.around.headD .phrase = .comment then s.leave.take b
    else s.endToken.leave
  | _, _ => s.take b

/-- Reads octets; the first `skip` of them belong to an encoded word that was read. -/
def scan (skip : Nat) : Octets → Scanner → Scanner
  | [], s => s.endToken.endEntry
  | b :: rest, s =>
    match skip with
    | n + 1 => scan n rest s
    | 0 =>
      if b = 61 && s.wordStart && !s.escaped then
        match Mime.encodedWord? (b :: rest) with
        | some (word, used) => scan (used - 1) rest (s.takeWord (String.ofList word))
        | none => scan 0 rest (s.step b)
      else scan 0 rest (s.step b)

/-- All entries, those of groups too, or none if there is neither an entry nor a group. -/
def result? (s : Scanner) : Option (List Entry) :=
  if s.groupName.isSome || !s.groups.isEmpty then some (s.groups.flatten ++ s.entries)
  else if s.entries.isEmpty then none
  else some s.entries

end Scanner

/-- The entries of an address field. -/
def entries? (text : List Char) : Option (List Entry) :=
  (Scanner.scan 0 (Octets.ofChars text) {}).result?

/-! ## Addresses -/

/-- Whether a mailbox has something before and after its first at sign, and no white
space. -/
def isComplete (mailbox : List Char) : Bool :=
  let domain := (mailbox.dropWhile (· != '@')).drop 1
  !(mailbox.takeWhile (· != '@')).isEmpty && !domain.isEmpty && !mailbox.any Text.isWhite

/-- The address of an entry, if its mailbox is complete. -/
def ofEntry? (e : Entry) : Option Address :=
  let mailbox := Text.trim (e.mailbox.getD "").toList
  if isComplete mailbox then some (named (e.name.getD "") (String.ofList mailbox)) else none

/-- The addresses of a text. Line breaks are refused, as the text goes into a header. -/
def parseAll (text : String) : Result (List Address) :=
  if text.toList.any Text.isLineBreak then .error (.invalidAddress text)
  else
    match (entries? text.toList).bind fun entries => entries.mapM ofEntry? with
    | some addresses => .ok addresses
    | none => .error (.invalidAddress text)

/-- The one address of a text. -/
def parse (text : String) : Result Address :=
  match parseAll text with
  | .ok [a] => .ok a
  | _ => .error (.invalidAddress text)

/-- The addresses of all texts that are not blank. -/
def parseList (texts : List String) : Result (List Address) :=
  ((texts.filter fun text => !Text.isBlank text).mapM parseAll).map List.flatten

end Outbox.Address
