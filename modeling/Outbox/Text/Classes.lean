/-!
# Outbox.Text.Classes — classes of characters

The three classes of characters that the rules of mail speak of, and trimming.
White space here is the Unicode property; where a rule means blanks only, it
says so.
-/

namespace Outbox.Text

/-- White space, the Unicode property `White_Space`. -/
def isWhite (c : Char) : Bool :=
  let n := c.toNat
  (9 ≤ n && n ≤ 13) || n == 0x20 || n == 0x85 || n == 0xA0 || n == 0x1680 ||
  (0x2000 ≤ n && n ≤ 0x200A) || n == 0x2028 || n == 0x2029 || n == 0x202F ||
  n == 0x205F || n == 0x3000

/-- Control characters, the Unicode category `Cc`. -/
def isControl (c : Char) : Bool :=
  let n := c.toNat
  n < 0x20 || (0x7F ≤ n && n ≤ 0x9F)

/-- ASCII characters. -/
def isAscii (c : Char) : Bool := c.toNat < 0x80

/-- The white space of ASCII at which a long header field may be folded. -/
def isAsciiWhite (c : Char) : Bool :=
  c == ' ' || c == '\t' || c == '\n' || c == '\x0c' || c == '\r'

/-- A carriage return or a line feed. -/
def isLineBreak (c : Char) : Bool := c == '\r' || c == '\n'

/-- Drops the members of a class from both ends. -/
def strip (p : Char → Bool) (text : List Char) : List Char :=
  ((text.dropWhile p).reverse.dropWhile p).reverse

theorem strip_of_plain {p : Char → Bool} {text : List Char} (h : ∀ c ∈ text, p c = false) :
    strip p text = text := by
  have hdrop : ∀ t : List Char, (∀ c ∈ t, p c = false) → t.dropWhile p = t := by
    intro t ht
    cases t with
    | nil => rfl
    | cons c rest => exact List.dropWhile_cons_of_neg (by simp [ht c List.mem_cons_self])
  rw [strip, hdrop text h, hdrop text.reverse fun c hc => h c (List.mem_reverse.1 hc),
    List.reverse_reverse]

/-- A text without white space at its ends. -/
def trim (text : List Char) : List Char := strip isWhite text

/-- A text without white space at its ends. -/
def trimmed (text : String) : String := String.ofList (trim text.toList)

/-- Whether a text is empty or white space only. -/
def isBlank (text : String) : Bool := text.toList.all isWhite

/-- A text with its ASCII letters in lower case. -/
def lower (text : List Char) : List Char := text.map Char.toLower

/-- Whether `needle` occurs in a text. -/
def occurs (needle : List Char) : List Char → Bool
  | [] => needle.isEmpty
  | c :: rest => needle.isPrefixOf (c :: rest) || occurs needle rest

/-- The number of octets in the UTF-8 form of a text. -/
def size (text : List Char) : Nat := text.foldr (fun c n => c.utf8Size + n) 0

end Outbox.Text
