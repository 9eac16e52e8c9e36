import Mathlib.Data.List.Basic
import Outbox.Mime.Payload
import Outbox.Proofs.Text.Encoding
import Outbox.Proofs.Text.Lines

/-!
# Outbox.Proofs.Mime.Field — reading a header back

A long field is a cut of its words into lines (`layLines`). A reader takes the line ends
before blanks out again and finds the words with single spaces between them.

* `field_eq` — a field is the lines `fieldLines`, and these are what a reader joins.
* `readPart?_part` — the fields of a part are read back under their names, each with the
  value `written`, and the content of the part is what follows.
-/

namespace Outbox.Mime

open Octets Text

/-! ## Words -/

/-- Words with a space before each of them. -/
def spaced (ws : List (List Char)) : List Char := ws.flatMap (' ' :: ·)

@[simp] theorem spaced_nil : spaced [] = [] := rfl

theorem spaced_cons (w : List Char) (ws : List (List Char)) :
    spaced (w :: ws) = ' ' :: w ++ spaced ws := rfl

theorem spaced_append (a b : List (List Char)) : spaced (a ++ b) = spaced a ++ spaced b :=
  List.flatMap_append

theorem spaced_flatten (lines : List (List (List Char))) :
    spaced lines.flatten = (lines.map spaced).flatten := by
  induction lines with
  | nil => rfl
  | cons line lines ih =>
    rw [List.flatten_cons, spaced_append, ih, List.map_cons, List.flatten_cons]

theorem intercalate_cons (w : List Char) (ws : List (List Char)) :
    [' '].intercalate (w :: ws) = w ++ spaced ws := by
  induction ws generalizing w with
  | nil => simp [List.intercalate]
  | cons w' ws ih =>
    rw [spaced_cons, List.cons_append, ← ih w']
    simp [List.intercalate]

theorem spaced_eq {ws : List (List Char)} (h : ws ≠ []) :
    spaced ws = ' ' :: [' '].intercalate ws := by
  obtain ⟨w, rest, rfl⟩ := List.exists_cons_of_ne_nil h
  rw [spaced_cons, intercalate_cons]
  rfl

theorem mem_spaced {ws : List (List Char)} {c : Char} (h : c ∈ [' '].intercalate ws) :
    c ∈ spaced ws := by
  cases ws with
  | nil => simp [List.intercalate] at h
  | cons w ws =>
    rw [spaced_eq (by simp)]
    exact List.mem_cons_of_mem _ h

/-- The words of a text are not empty, and what is in them is the text but for its white space. -/
theorem mem_wordsFrom {current text w : List Char} (h : w ∈ wordsFrom current text)
    (hcurrent : ∀ c ∈ current, isAsciiWhite c = false) :
    w ≠ [] ∧ ∀ c ∈ w, isAsciiWhite c = false ∧ (c ∈ current ∨ c ∈ text) := by
  -- By induction on the text, with the word that is being read on the way.
  induction text generalizing current with
  | nil =>
    by_cases hnil : current = []
    · simp [wordsFrom, hnil] at h
    · have hw : w = current.reverse := by simpa [wordsFrom, hnil] using h
      subst hw
      refine ⟨by simpa using hnil, fun c hc => ?_⟩
      have hc' : c ∈ current := List.mem_reverse.1 hc
      exact ⟨hcurrent c hc', Or.inl hc'⟩
  | cons x rest ih =>
    rw [wordsFrom] at h
    split at h
    case isTrue hx =>
      have hrest (hmem : w ∈ wordsFrom [] rest) :
          w ≠ [] ∧ ∀ c ∈ w, isAsciiWhite c = false ∧ (c ∈ current ∨ c ∈ x :: rest) := by
        obtain ⟨hne, hw⟩ := ih hmem (by simp)
        refine ⟨hne, fun c hc => ⟨(hw c hc).1, Or.inr ?_⟩⟩
        exact List.mem_cons_of_mem x (by simpa using (hw c hc).2)
      split at h
      case isTrue => exact hrest h
      case isFalse hnil =>
        rcases List.mem_cons.1 h with rfl | h
        · refine ⟨by simpa using hnil, fun c hc => ?_⟩
          have hc' : c ∈ current := List.mem_reverse.1 hc
          exact ⟨hcurrent c hc', Or.inl hc'⟩
        · exact hrest h
    case isFalse hx =>
      have hcurrent' : ∀ c ∈ x :: current, isAsciiWhite c = false := by
        intro c hc
        rcases List.mem_cons.1 hc with rfl | hc
        · simpa using hx
        · exact hcurrent c hc
      obtain ⟨hne, hw⟩ := ih h hcurrent'
      refine ⟨hne, fun c hc => ⟨(hw c hc).1, ?_⟩⟩
      have := (hw c hc).2
      simp only [List.mem_cons] at this ⊢
      tauto

theorem mem_words {text w : List Char} (h : w ∈ words text) :
    w ≠ [] ∧ ∀ c ∈ w, isAsciiWhite c = false ∧ c ∈ text := by
  obtain ⟨hne, hw⟩ := mem_wordsFrom h (by simp)
  exact ⟨hne, fun c hc => ⟨(hw c hc).1, by simpa using (hw c hc).2⟩⟩

theorem wordsFrom_append (current rest : List Char) {w : List Char}
    (h : ∀ c ∈ w, isAsciiWhite c = false) :
    wordsFrom current (w ++ rest) = wordsFrom (w.reverse ++ current) rest := by
  induction w generalizing current with
  | nil => rfl
  | cons c w ih =>
    have hc := h c List.mem_cons_self
    rw [List.cons_append, wordsFrom, hc, if_neg (by simp),
      ih _ fun x hx => h x (List.mem_cons_of_mem c hx)]
    simp

/-- Words are the words of the text in which they stand with single spaces. -/
theorem words_intercalate {ws : List (List Char)}
    (h : ∀ w ∈ ws, w ≠ [] ∧ ∀ c ∈ w, isAsciiWhite c = false) :
    words ([' '].intercalate ws) = ws := by
  cases ws with
  | nil => rfl
  | cons w ws =>
    rw [intercalate_cons, words]
    induction ws generalizing w with
    | nil =>
      obtain ⟨hne, hw⟩ := h w List.mem_cons_self
      rw [wordsFrom_append [] _ hw]
      simp [wordsFrom, hne]
    | cons w' ws ih =>
      obtain ⟨hne, hw⟩ := h w List.mem_cons_self
      have hspace : isAsciiWhite ' ' = true := by decide
      rw [wordsFrom_append [] _ hw, spaced_cons, List.cons_append, wordsFrom, if_pos hspace,
        if_neg (by simpa using hne), ih w' fun x hx => h x (List.mem_cons_of_mem w hx)]
      simp

/-! ## Lines -/

/-- Cuts words into lines as they are laid out: the words that go on in the line that is being
written, and those of each line after it. -/
def layLines (used : Nat) (begun : Bool) :
    List (List Char) → List (List Char) × List (List (List Char))
  | [] => ([], [])
  | word :: rest =>
    if begun && lineLimit < used + 1 + size word then
      let (line, more) := layLines (1 + size word) true rest
      ([], (word :: line) :: more)
    else
      let (line, more) := layLines (used + 1 + size word) true rest
      (word :: line, more)

/-- Laid out words are their lines, each but the first after a line end. -/
theorem layWords_eq (used : Nat) (begun : Bool) (ws : List (List Char)) :
    layWords used begun ws = spaced (layLines used begun ws).1 ++
      (layLines used begun ws).2.flatMap (fun line => '\r' :: '\n' :: spaced line) := by
  induction ws generalizing used begun with
  | nil => rfl
  | cons w ws ih =>
    rw [layWords, layLines]
    split
    · simp [ih, spaced_cons]
    · simp [ih, spaced_cons]

/-- The lines hold the words in order. -/
theorem layLines_flatten (used : Nat) (begun : Bool) (ws : List (List Char)) :
    (layLines used begun ws).1 ++ (layLines used begun ws).2.flatten = ws := by
  induction ws generalizing used begun with
  | nil => rfl
  | cons w ws ih =>
    rw [layLines]
    split
    · simpa using ih _ _
    · simpa using ih _ _

theorem ne_nil_of_mem_layLines {used : Nat} {begun : Bool} {ws line : List (List Char)}
    (h : line ∈ (layLines used begun ws).2) : line ≠ [] := by
  induction ws generalizing used begun with
  | nil => simp [layLines] at h
  | cons w ws ih =>
    rw [layLines] at h
    split at h
    · rcases List.mem_cons.1 h with rfl | h
      · simp
      · exact ih h
    · exact ih h

/-- A value without its line breaks, as it is written. -/
def onOneLine (value : List Char) : List Char := value.filter fun c => !isLineBreak c

/-- Whether a field is written on one line. -/
def isShort (name value : List Char) : Bool := size name + 2 + size (onOneLine value) ≤ lineLimit

/-- The lines of a field. -/
def fieldLines (name value : List Char) : List (List Char) :=
  if isShort name value then [name ++ ':' :: ' ' :: onOneLine value]
  else
    let (line, more) := layLines (size name + 1) false (words (onOneLine value))
    (name ++ ':' :: spaced line) :: more.map spaced

/-- A value as a reader finds it in the field that was written for it. -/
def written (name value : List Char) : List Char :=
  if isShort name value then onOneLine value else [' '].intercalate (words (onOneLine value))

/-- A value that is words with single spaces between them is written as it is. -/
theorem written_intercalate (name : List Char) {ws : List (List Char)}
    (h : ∀ w ∈ ws, w ≠ [] ∧ ∀ c ∈ w, isAsciiWhite c = false) :
    written name ([' '].intercalate ws) = [' '].intercalate ws := by
  have hline : onOneLine ([' '].intercalate ws) = [' '].intercalate ws := by
    refine List.filter_eq_self.2 fun c hc => ?_
    obtain ⟨w, hw, hcw⟩ := List.mem_flatMap.1 (mem_spaced hc)
    rcases List.mem_cons.1 hcw with rfl | hcw
    · rfl
    · have hwhite := (h w hw).2 c hcw
      simp only [isAsciiWhite, Bool.or_eq_false_iff] at hwhite
      simp [isLineBreak, hwhite]
  unfold written
  split
  · exact hline
  · rw [hline, words_intercalate h]

theorem field_eq (name value : List Char) :
    field name value = (fieldLines name value).flatMap (· ++ ['\r', '\n']) := by
  -- A line end before each later line is one after each earlier one.
  have hmove : ∀ lines : List (List (List Char)),
      lines.flatMap (fun line => '\r' :: '\n' :: spaced line) ++ ['\r', '\n'] =
        '\r' :: '\n' :: (lines.map spaced).flatMap (· ++ ['\r', '\n']) := by
    intro lines
    induction lines with
    | nil => rfl
    | cons line lines ih => simpa using ih
  have hfield : field name value = name ++ (':' :: if isShort name value then
      ' ' :: onOneLine value
      else layWords (size name + 1) false (words (onOneLine value))) ++ ['\r', '\n'] := by
    simp only [isShort, decide_eq_true_eq]
    rfl
  rw [hfield]
  by_cases hshort : isShort name value = true
  · simp [fieldLines, hshort]
  · simp [fieldLines, hshort, layWords_eq, hmove]

/-- A line of a field begins with the name, or else with a space before a word. -/
theorem mem_fieldLines {name value line : List Char} (h : line ∈ fieldLines name value) :
    (∃ rest, line = name ++ ':' :: rest) ∨ ∃ rest, line = ' ' :: rest := by
  unfold fieldLines at h
  split at h
  · left
    exact ⟨_, List.mem_singleton.1 h⟩
  · rcases List.mem_cons.1 h with rfl | h
    · exact Or.inl ⟨_, rfl⟩
    · right
      obtain ⟨ws, hws, rfl⟩ := List.mem_map.1 h
      exact ⟨_, spaced_eq (ne_nil_of_mem_layLines hws)⟩

theorem not_isLineBreak_spaced {ws : List (List Char)}
    (h : ∀ w ∈ ws, ∀ c ∈ w, isLineBreak c = false) : ∀ c ∈ spaced ws, isLineBreak c = false := by
  intro c hc
  obtain ⟨w, hw, hcw⟩ := List.mem_flatMap.1 hc
  rcases List.mem_cons.1 hcw with rfl | hcw
  · rfl
  · exact h w hw c hcw

theorem onOneLine_plain (value : List Char) : ∀ c ∈ onOneLine value, isLineBreak c = false := by
  intro c hc
  simpa using (List.mem_filter.1 hc).2

theorem words_plain (value : List Char) :
    ∀ w ∈ words (onOneLine value), ∀ c ∈ w, isLineBreak c = false :=
  fun _ hw c hc => onOneLine_plain value c ((mem_words hw).2 c hc).2

theorem written_plain (name value : List Char) :
    ∀ c ∈ written name value, isLineBreak c = false := by
  intro c hc
  unfold written at hc
  split at hc
  · exact onOneLine_plain value c hc
  · exact not_isLineBreak_spaced (words_plain value) c (mem_spaced hc)

/-- No line of a field has a line break in it. -/
theorem not_isLineBreak_of_mem_fieldLines {name value line : List Char}
    (hname : ∀ c ∈ name, isLineBreak c = false) (h : line ∈ fieldLines name value) :
    ∀ c ∈ line, isLineBreak c = false := by
  unfold fieldLines at h
  split at h
  · rw [List.mem_singleton.1 h]
    intro c hc
    rcases List.mem_append.1 hc with hc | hc
    · exact hname c hc
    · rcases List.mem_cons.1 hc with rfl | hc
      · rfl
      · rcases List.mem_cons.1 hc with rfl | hc
        · rfl
        · exact onOneLine_plain value c hc
  · have hcut := layLines_flatten (size name + 1) false (words (onOneLine value))
    have hwords := words_plain value
    rw [← hcut] at hwords
    rcases List.mem_cons.1 h with rfl | h
    · have hspaced := not_isLineBreak_spaced fun w hw => hwords w (List.mem_append_left _ hw)
      intro c hc
      rcases List.mem_append.1 hc with hc | hc
      · exact hname c hc
      · rcases List.mem_cons.1 hc with rfl | hc
        · rfl
        · exact hspaced c hc
    · obtain ⟨ws, hws, rfl⟩ := List.mem_map.1 h
      exact not_isLineBreak_spaced fun w hw =>
        hwords w (List.mem_append_right _ (List.mem_flatten.2 ⟨ws, hws, hw⟩))

/-! ## Octets -/

theorem isLine_ofChars {text : List Char} (h : ∀ c ∈ text, isLineBreak c = false) :
    IsLine (ofChars text) := by
  constructor
  · intro hcr
    have hmem : '\r' ∈ text := mem_of_mem_ofChars (by decide) hcr
    exact absurd (h _ hmem) (by decide)
  · intro hlf
    have hmem : '\n' ∈ text := mem_of_mem_ofChars (by decide) hlf
    exact absurd (h _ hmem) (by decide)

/-- The octets of lines of text. -/
theorem ofChars_flatMap_crlf (lines : List (List Char)) :
    ofChars (lines.flatMap (· ++ ['\r', '\n'])) = unlines (lines.map ofChars) := by
  have hcrlf : ofChars ['\r', '\n'] = crlf := by decide
  induction lines with
  | nil => rfl
  | cons line lines ih =>
    rw [List.flatMap_cons, ofChars_append, ofChars_append, hcrlf, ih, List.map_cons,
      unlines_cons]

/-- The lines of a block of fields. -/
def blockLines (fields : List Field) : List (List Char) :=
  fields.flatMap fun e => fieldLines e.1.toList e.2.toList

theorem fieldBlock_eq (fields : List Field) :
    fieldBlock fields = unlines ((blockLines fields).map ofChars) := by
  induction fields with
  | nil => rfl
  | cons e fields ih =>
    have hcons : fieldBlock (e :: fields) = fieldOctets e.1 e.2 ++ fieldBlock fields := rfl
    rw [hcons, ih, fieldOctets, field_eq, ofChars_flatMap_crlf, ← unlines_append]
    simp [blockLines]

/-! ## Reading -/

/-- Whether a line belongs to the field of the line before it. -/
def continues : List Char → Bool
  | c :: _ => Dkim.isBlankChar c
  | [] => false

/-- Joins the lines of every field. -/
def unfoldLines : List (List Char) → List (List Char)
  | [] => []
  | line :: rest =>
    match unfoldLines rest with
    | [] => [line]
    | next :: more => if continues next then (line ++ next) :: more else line :: next :: more

/-- A text without the space that it begins with. -/
def dropSpace : List Char → List Char
  | ' ' :: rest => rest
  | text => text

/-- Reads a field from its line: the name comes before the first colon. -/
def readField? (line : List Char) : Option Field :=
  match line.dropWhile (· != ':') with
  | [] => none
  | _ :: value =>
    some (String.ofList (line.takeWhile (· != ':')), String.ofList (dropSpace value))

/-- The value of the first field of a name. -/
def valueOf? (fields : List Field) (name : String) : Option String :=
  (fields.find? fun e => sameName e.1 name).map Prod.snd

theorem valueOf?_cons (e : Field) (fields : List Field) (name : String) :
    valueOf? (e :: fields) name = if sameName e.1 name then some e.2 else valueOf? fields name := by
  rw [valueOf?, List.find?_cons]
  cases sameName e.1 name with
  | true => rfl
  | false => rfl

/-- Reads fields from the lines of a header. -/
def readFields? (lines : List Octets) : Option (List Field) :=
  (lines.mapM text?).bind fun texts => (unfoldLines texts).mapM readField?

/-- Reads a part: its fields, and its content after an empty line. -/
def readPart? (octets : Octets) : Option (List Field × Octets) :=
  (untilEmpty? octets).bind fun (lines, content) =>
    (readFields? lines).map fun fields => (fields, content)

/-- A name that a reader takes for nothing else. -/
structure IsFieldName (name : List Char) : Prop where
  ne_nil : name ≠ []
  plain : ∀ c ∈ name, c ≠ ':' ∧ isLineBreak c = false ∧ Dkim.isBlankChar c = false

/-- Names under which a reader finds fields again: none holds a colon or a line break, and none
but the first begins with a blank, which would make its line one of the field before. -/
structure NamesHold (names : List String) : Prop where
  plain : ∀ name ∈ names, ∀ c ∈ name.toList, c ≠ ':' ∧ isLineBreak c = false
  apart : ∀ name ∈ names.tail, continues name.toList = false

theorem IsFieldName.continues_eq_false {name : List Char} (h : IsFieldName name) :
    continues name = false := by
  obtain ⟨c, rest, rfl⟩ := List.exists_cons_of_ne_nil h.ne_nil
  exact (h.plain c List.mem_cons_self).2.2

theorem NamesHold.of_isFieldName {fields : List Field}
    (h : ∀ e ∈ fields, IsFieldName e.1.toList) : NamesHold (fields.map Prod.fst) := by
  have hnames : ∀ name ∈ fields.map Prod.fst, IsFieldName name.toList := List.forall_mem_map.2 h
  constructor
  · intro name hname c hc
    have hplain := (hnames name hname).plain c hc
    exact ⟨hplain.1, hplain.2.1⟩
  · exact fun name hname => (hnames name (List.mem_of_mem_tail hname)).continues_eq_false

/-- A field as a reader finds it. -/
def readBack (e : Field) : Field := (e.1, String.ofList (written e.1.toList e.2.toList))

theorem continues_append {line : List Char} (h : continues line = true) (rest : List Char) :
    continues (line ++ rest) = true := by
  cases line with
  | nil => simp [continues] at h
  | cons c line => exact h

/-- A line is joined with all lines after it that belong to its field. -/
theorem unfoldLines_append (line : List Char) {more rest : List (List Char)}
    (hmore : ∀ l ∈ more, continues l = true)
    (hrest : ∀ next ∈ (unfoldLines rest).head?, continues next = false) :
    unfoldLines (line :: more ++ rest) = (line ++ more.flatten) :: unfoldLines rest := by
  induction more generalizing line with
  | nil =>
    rw [List.cons_append, List.nil_append, unfoldLines]
    cases hunfold : unfoldLines rest with
    | nil => simp
    | cons next others =>
      have hnext : continues next = false := hrest next (by simp [hunfold])
      simp [hnext]
  | cons l more ih =>
    have hl := continues_append (hmore l List.mem_cons_self) more.flatten
    have hunfold := ih l fun x hx => hmore x (List.mem_cons_of_mem l hx)
    rw [List.cons_append, unfoldLines, hunfold]
    simp [hl]

theorem dropSpace_spaced (ws : List (List Char)) :
    dropSpace (spaced ws) = [' '].intercalate ws := by
  by_cases hnil : ws = []
  · subst hnil
    rfl
  · rw [spaced_eq hnil]
    rfl

/-- What stands after the colon of a field, once its lines are joined. -/
def afterColon (name value : List Char) : List Char :=
  if isShort name value then ' ' :: onOneLine value else spaced (words (onOneLine value))

/-- The lines of a field, joined. -/
theorem flatten_fieldLines_eq (name value : List Char) :
    (fieldLines name value).flatten = name ++ ':' :: afterColon name value := by
  by_cases hshort : isShort name value = true
  · simp [fieldLines, afterColon, hshort]
  · have hcut := layLines_flatten (size name + 1) false (words (onOneLine value))
    have hafter : afterColon name value = spaced (words (onOneLine value)) := if_neg hshort
    rw [hafter, ← hcut, spaced_append, spaced_flatten]
    simp [fieldLines, hshort]

theorem dropSpace_afterColon (name value : List Char) :
    dropSpace (afterColon name value) = written name value := by
  unfold afterColon written
  split
  · rfl
  · exact dropSpace_spaced _

theorem flatten_fieldLines (name value : List Char) :
    ∃ gap, (fieldLines name value).flatten = name ++ ':' :: gap ∧
      dropSpace gap = written name value :=
  ⟨afterColon name value, flatten_fieldLines_eq name value, dropSpace_afterColon name value⟩

theorem afterColon_plain (name value : List Char) :
    ∀ c ∈ afterColon name value, isLineBreak c = false := by
  intro c hc
  unfold afterColon at hc
  split at hc
  · rcases List.mem_cons.1 hc with rfl | hc
    · decide
    · exact onOneLine_plain value c hc
  · exact not_isLineBreak_spaced (words_plain value) c hc

theorem mapM_text?_ofChars (lines : List (List Char)) :
    (lines.map ofChars).mapM text? = some lines := by
  induction lines with
  | nil => rfl
  | cons line lines ih => simp [text?_ofChars, ih]

theorem readField?_eq {name : List Char} (hname : ∀ c ∈ name, c ≠ ':') (gap : List Char) :
    readField? (name ++ ':' :: gap) = some (String.ofList name, String.ofList (dropSpace gap)) := by
  have hcolon : ∀ c ∈ name, (c != ':') = true := fun c hc => by simpa using hname c hc
  have htake : (name ++ ':' :: gap).takeWhile (· != ':') = name := by
    rw [List.takeWhile_append_of_pos hcolon]
    simp
  have hdrop : (name ++ ':' :: gap).dropWhile (· != ':') = ':' :: gap := by
    rw [List.dropWhile_append_of_pos hcolon]
    simp
  rw [readField?, htake, hdrop]

/-- All lines of a field but the first belong to it. -/
theorem fieldLines_eq_cons (name value : List Char) : ∃ line more,
    fieldLines name value = line :: more ∧ ∀ l ∈ more, continues l = true := by
  unfold fieldLines
  split
  · exact ⟨_, _, rfl, by simp⟩
  · refine ⟨_, _, rfl, fun l hl => ?_⟩
    obtain ⟨ws, hws, rfl⟩ := List.mem_map.1 hl
    rw [spaced_eq (ne_nil_of_mem_layLines hws)]
    rfl

/-- A line that is a whole field belongs to no other if its name does not. -/
theorem continues_flatten_fieldLines {name : List Char} (h : continues name = false)
    (value : List Char) : continues (fieldLines name value).flatten = false := by
  obtain ⟨gap, hline, -⟩ := flatten_fieldLines name value
  rw [hline]
  cases name with
  | nil => rfl
  | cons c rest => exact h

/-- The lines of a block, joined, are its fields. -/
theorem unfoldLines_blockLines {fields : List Field}
    (h : ∀ name ∈ (fields.map Prod.fst).tail, continues name.toList = false) :
    unfoldLines (blockLines fields) =
      fields.map fun e => (fieldLines e.1.toList e.2.toList).flatten := by
  induction fields with
  | nil => rfl
  | cons e fields ih =>
    have hunfold := ih fun name hname => h name (List.mem_of_mem_tail hname)
    -- What comes after this field, once its lines are joined, is a field itself.
    have hnext : ∀ next ∈ (unfoldLines (blockLines fields)).head?, continues next = false := by
      rw [hunfold]
      intro next hnext
      cases fields with
      | nil => simp at hnext
      | cons e' fields =>
        have hfirst : next = (fieldLines e'.1.toList e'.2.toList).flatten := by
          simpa [eq_comm] using hnext
        rw [hfirst]
        exact continues_flatten_fieldLines (h e'.1 (by simp)) e'.2.toList
    obtain ⟨line, more, hlines, hmore⟩ := fieldLines_eq_cons e.1.toList e.2.toList
    have hblock : blockLines (e :: fields) = line :: more ++ blockLines fields := by
      rw [← hlines]
      rfl
    rw [hblock, unfoldLines_append line hmore hnext, hunfold, List.map_cons, hlines,
      List.flatten_cons]

theorem readFields?_blockLines {fields : List Field} (h : NamesHold (fields.map Prod.fst)) :
    readFields? ((blockLines fields).map ofChars) = some (fields.map readBack) := by
  rw [readFields?, mapM_text?_ofChars, Option.bind_some, unfoldLines_blockLines h.apart]
  have hplain := h.plain
  clear h
  induction fields with
  | nil => rfl
  | cons e fields ih =>
    have hname : ∀ c ∈ e.1.toList, c ≠ ':' := fun c hc => (hplain e.1 List.mem_cons_self c hc).1
    obtain ⟨gap, hline, hgap⟩ := flatten_fieldLines e.1.toList e.2.toList
    have hfield : readField? (fieldLines e.1.toList e.2.toList).flatten = some (readBack e) := by
      rw [hline, readField?_eq hname, hgap, String.ofList_toList]
      rfl
    have hrest := ih fun name hname => hplain name (List.mem_cons_of_mem e.1 hname)
    simp [hfield, hrest]

theorem blockLines_isLine {fields : List Field}
    (h : ∀ e ∈ fields, ∀ c ∈ e.1.toList, isLineBreak c = false) :
    ∀ line ∈ (blockLines fields).map ofChars, IsLine line ∧ line ≠ [] := by
  intro line hline
  obtain ⟨text, htext, rfl⟩ := List.mem_map.1 hline
  obtain ⟨e, he, hmem⟩ := List.mem_flatMap.1 htext
  refine ⟨isLine_ofChars (not_isLineBreak_of_mem_fieldLines (h e he) hmem), ofChars_ne_nil ?_⟩
  rcases mem_fieldLines hmem with ⟨rest, rfl⟩ | ⟨rest, rfl⟩
  · simp
  · simp

theorem find?_map_readBack (fields : List Field) (name : String) :
    (fields.map readBack).find? (fun e => sameName e.1 name) =
      (fields.find? fun e => sameName e.1 name).map readBack :=
  List.find?_map

/-- The fields and the content of a part are read back. -/
theorem readPart?_part {fields : List Field} (h : NamesHold (fields.map Prod.fst))
    (content : Octets) : readPart? (part fields content) = some (fields.map readBack, content) := by
  have hlines := blockLines_isLine fun e he c hc => (h.plain e.1 (List.mem_map_of_mem he) c hc).2
  rw [readPart?, part, fieldBlock_eq, untilEmpty?_unlines hlines, Option.bind_some]
  dsimp only
  rw [readFields?_blockLines h, Option.map_some]

end Outbox.Mime
