import Outbox.Text.Printable

/-!
# Outbox.Text.Quote — quoting text in messages

How foreign text is shown inside an error message or a description: control
characters and everything else that cannot be seen are spelled out.

* `escaped` is the form without quotation marks, used for a mailbox that was
  refused.
* `quoted` is the form between quotation marks, used for names and settings.
-/

namespace Outbox.Text

/-- A character by its number. -/
def spellCode (c : Char) : List Char :=
  "\\u\x7b".toList ++ Nat.toDigits 16 c.toNat ++ ['\x7d']

/-- The escape that a character has of its own, whatever surrounds it. -/
def shortEscape (c : Char) : Option (List Char) :=
  match c with
  | '\x00' => some ['\\', '0']
  | '\t' => some ['\\', 't']
  | '\r' => some ['\\', 'r']
  | '\n' => some ['\\', 'n']
  | '\\' => some ['\\', '\\']
  | '"' => some ['\\', '"']
  | _ => none

/-- A character as it is shown: by its own escape, by its number, or as it is. -/
def showChar (hideExtending : Bool) (c : Char) : List Char :=
  match shortEscape c with
  | some escape => escape
  | none =>
    if hideExtending && isExtending c then spellCode c
    else if isPrintable c then [c]
    else spellCode c

/-- A character inside an escaped text, where the single quote is escaped too. -/
def showBare (hideExtending : Bool) (c : Char) : List Char :=
  if c == '\x27' then ['\\', c] else showChar hideExtending c

/-- A text with everything escaped that cannot be shown. A character that extends
the one before it is spelled out only where there is none before it. -/
def escaped (text : String) : String :=
  match text.toList with
  | [] => ""
  | c :: rest => String.ofList (showBare true c ++ rest.flatMap (showBare false))

/-- A text between quotation marks. -/
def quoted (text : String) : String :=
  String.ofList (('"' :: text.toList.flatMap (showChar true)) ++ ['"'])

end Outbox.Text
