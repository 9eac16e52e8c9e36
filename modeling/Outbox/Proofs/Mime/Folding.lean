import Mathlib.Data.Bool.AllAny
import Mathlib.Data.List.Chain
import Outbox.Proofs.Mime.Field

/-!
# Outbox.Proofs.Mime.Folding — the shape of a folded field

A field that does not fit in one line is laid out word by word. What is carried from word to word
is the size of the line so far and whether it holds a word; `layLines_break` and `layLines_room`
are the two steps. Each of them keeps three facts.

* `layLines_flatten` (in `Field`) — the lines hold the words in order.
* `fits_layLines` — a line that is too long holds one word.
* `isChain_layLines` — a line is broken before a word only if the word would have made it too
  long.

`folded_fieldOctets` puts them together for all names and values.
-/

namespace Outbox.Mime

open Octets Text

/-! ## Sizes -/

theorem size_spaced_cons (w : List Char) (ws : List (List Char)) :
    size (spaced (w :: ws)) = 1 + size w + size (spaced ws) := by
  have hspace : ' '.utf8Size = 1 := rfl
  rw [spaced_cons, List.cons_append, size_cons, size_append, hspace, Nat.add_assoc]

/-! ## Words of a line -/

/-- A word: not empty, and without white space. -/
def IsWord (w : List Char) : Prop := w ≠ [] ∧ ∀ c ∈ w, isAsciiWhite c = false

theorem isWord_of_mem_words (text : List Char) : ∀ w ∈ words text, IsWord w := by
  intro w h
  rcases mem_words h with ⟨hne, hw⟩
  exact ⟨hne, fun c hc => (hw c hc).1⟩

theorem words_space (text : List Char) : words (' ' :: text) = words text := rfl

/-- The words of a line are those that were put into it. -/
theorem words_spaced {ws : List (List Char)} (h : ∀ w ∈ ws, IsWord w) : words (spaced ws) = ws := by
  by_cases hnil : ws = []
  · subst hnil
    rfl
  · rw [spaced_eq hnil, words_space, words_intercalate h]

/-- The words of lines are those that were put into them. -/
theorem flatMap_words_spaced {lines : List (List (List Char))}
    (h : ∀ line ∈ lines, ∀ w ∈ line, IsWord w) :
    (lines.map spaced).flatMap words = lines.flatten := by
  induction lines with
  | nil => rfl
  | cons line lines ih =>
    have hrest := ih fun l hl => h l (List.mem_cons_of_mem line hl)
    rw [List.map_cons, List.flatMap_cons, words_spaced (h line List.mem_cons_self), hrest,
      List.flatten_cons]

/-! ## Steps of a layout -/

section

variable {used : Nat} {begun : Bool} {w : List Char} {ws : List (List Char)}

theorem layLines_break (h : begun = true ∧ lineLimit < used + 1 + size w) :
    layLines used begun (w :: ws) =
      ([], (w :: (layLines (1 + size w) true ws).1) :: (layLines (1 + size w) true ws).2) := by
  rw [layLines, if_pos (by simpa using h)]

theorem layLines_room (h : ¬ (begun = true ∧ lineLimit < used + 1 + size w)) :
    layLines used begun (w :: ws) =
      (w :: (layLines (used + 1 + size w) true ws).1, (layLines (used + 1 + size w) true ws).2) := by
  rw [layLines, if_neg (by simpa using h)]

/-- All words of the lines are words that were laid out. -/
theorem forall_layLines {P : List Char → Prop} (h : ∀ w ∈ ws, P w) (used : Nat) (begun : Bool) :
    (∀ w ∈ (layLines used begun ws).1, P w) ∧
      ∀ line ∈ (layLines used begun ws).2, ∀ w ∈ line, P w := by
  rw [← layLines_flatten used begun ws] at h
  constructor
  · intro w hw
    exact h w (List.mem_append_left _ hw)
  · intro line hline w hw
    exact h w (List.mem_append_right _ (List.mem_flatten.2 ⟨line, hline, hw⟩))

/-- What goes on in a line that holds a word does not pass the limit. -/
theorem fits_layLines_begun (used : Nat) (ws : List (List Char)) :
    (layLines used true ws).1 = [] ∨
      used + size (spaced (layLines used true ws).1) ≤ lineLimit := by
  induction ws generalizing used with
  | nil => exact Or.inl rfl
  | cons w ws ih =>
    by_cases hbreak : true = true ∧ lineLimit < used + 1 + size w
    · left
      rw [layLines_break hbreak]
    · right
      rw [layLines_room hbreak, size_spaced_cons]
      rcases ih (used + 1 + size w) with hnil | hfits
      · have hsize : size (spaced []) = 0 := rfl
        simp only [true_and, Nat.not_lt] at hbreak
        rw [hnil, hsize]
        omega
      · omega

/-- The first word of a line is taken in any case, and a line that takes more fits. -/
theorem fits_cons (used : Nat) (w : List Char) (ws : List (List Char)) :
    (w :: (layLines (used + 1 + size w) true ws).1).length = 1 ∨
      used + size (spaced (w :: (layLines (used + 1 + size w) true ws).1)) ≤ lineLimit := by
  rcases fits_layLines_begun (used + 1 + size w) ws with hnil | hfits
  · left
    rw [hnil, List.length_singleton]
  · right
    rw [size_spaced_cons]
    omega

/-- A new line holds one word, or it fits. -/
theorem fits_layLines (used : Nat) (begun : Bool) (ws : List (List Char)) :
    ∀ line ∈ (layLines used begun ws).2, line.length = 1 ∨ size (spaced line) ≤ lineLimit := by
  induction ws generalizing used begun with
  | nil => exact fun line hline => absurd hline List.not_mem_nil
  | cons w ws ih =>
    by_cases hbreak : begun = true ∧ lineLimit < used + 1 + size w
    · rw [layLines_break hbreak, List.forall_mem_cons]
      constructor
      · have hline := fits_cons 0 w ws
        rwa [Nat.zero_add, Nat.zero_add] at hline
      · exact ih (1 + size w) true
    · rw [layLines_room hbreak]
      exact ih (used + 1 + size w) true

/-- The line that the words begin in holds one of them, or it fits, if there are any. -/
theorem fits_layLines_first (used : Nat) (hne : ws ≠ []) :
    (layLines used false ws).1.length = 1 ∨
      used + size (spaced (layLines used false ws).1) ≤ lineLimit := by
  cases ws with
  | nil => exact absurd rfl hne
  | cons w ws =>
    rw [layLines_room (by simp)]
    exact fits_cons used w ws

end

/-! ## Breaks -/

/-- The first word of the next line would have made a line too long. -/
def BreaksBefore (line next : List Char) : Prop :=
  ∃ word rest, words next = word :: rest ∧
    lineLimit < (ofChars line).length + 1 + (ofChars word).length

/-- Every break is one that was needed; `current` is what the line that goes on held before. -/
theorem isChain_layLines (current : List Char) (begun : Bool) {ws : List (List Char)}
    (h : ∀ w ∈ ws, IsWord w) :
    ((current ++ spaced (layLines (size current) begun ws).1) ::
      (layLines (size current) begun ws).2.map spaced).IsChain BreaksBefore := by
  induction ws generalizing current begun with
  | nil => exact List.IsChain.singleton _
  | cons w ws ih =>
    have hrest : ∀ x ∈ ws, IsWord x := fun x hx => h x (List.mem_cons_of_mem w hx)
    have hspace : size (' ' :: w) = 1 + size w := rfl
    by_cases hbreak : begun = true ∧ lineLimit < size current + 1 + size w
    · -- The line ends as it is, and the word that had no room is the first of the next line.
      rw [layLines_break hbreak, List.map_cons, List.isChain_cons_cons]
      constructor
      · have hwords : ∀ x ∈ w :: (layLines (1 + size w) true ws).1, IsWord x := by
          rw [List.forall_mem_cons]
          exact ⟨h w List.mem_cons_self, (forall_layLines hrest (1 + size w) true).1⟩
        refine ⟨w, _, words_spaced hwords, ?_⟩
        rw [spaced_nil, List.append_nil, length_ofChars, length_ofChars]
        exact hbreak.2
      · have hnext := ih (' ' :: w) true hrest
        rw [hspace] at hnext
        rw [spaced_cons]
        exact hnext
    · -- The line goes on with the word in it.
      have hnext := ih (current ++ ' ' :: w) true hrest
      rw [size_append, hspace, ← Nat.add_assoc, List.append_assoc, ← spaced_cons] at hnext
      rw [layLines_room hbreak]
      exact hnext

/-! ## Fields -/

/-- The shape of a field: `first` is what stands after the name and the colon, and `more` are the
lines after that. -/
structure IsFolded (name value first : List Char) (more : List (List Char)) : Prop where
  plain : ∀ line ∈ (name ++ ':' :: first) :: more, ∀ c ∈ line, isLineBreak c = false
  continued : ∀ line ∈ more, ∃ c rest, line = ' ' :: c :: rest ∧ isAsciiWhite c = false
  words_eq : (first :: more).flatMap words = words (onOneLine value)
  greedy : ((name ++ ':' :: first) :: more).IsChain BreaksBefore

/-- No line but one with a single word passes the limit, unless the field has no word and is the
name and the colon alone. -/
structure IsLimited (name first : List Char) (more : List (List Char)) : Prop where
  first : lineLimit < (ofChars (name ++ ':' :: first)).length →
    (words first).length = 1 ∨ (first = [] ∧ more = [])
  more : ∀ line ∈ more, lineLimit < (ofChars line).length → (words line).length = 1

theorem length_ofChars_named (name text : List Char) :
    (ofChars (name ++ ':' :: text)).length = size name + 1 + size text := by
  have hcolon : ':'.utf8Size = 1 := rfl
  rw [length_ofChars, size_append, size_cons, hcolon, Nat.add_assoc]

/-! ### In one line -/

section

variable {name value : List Char}

theorem isFolded_short (hname : ∀ c ∈ name, isLineBreak c = false)
    (hshort : isShort name value = true) :
    IsFolded name value (' ' :: onOneLine value) [] := by
  have hlines : fieldLines name value = [name ++ ':' :: ' ' :: onOneLine value] := if_pos hshort
  constructor
  · intro line hline
    rw [← hlines] at hline
    exact not_isLineBreak_of_mem_fieldLines hname hline
  · exact fun line hline => absurd hline List.not_mem_nil
  · rw [List.flatMap_singleton, words_space]
  · exact List.IsChain.singleton _

theorem isLimited_short (hshort : isShort name value = true) :
    IsLimited name (' ' :: onOneLine value) [] := by
  constructor
  · intro hlong
    have hspace : ' '.utf8Size = 1 := rfl
    simp only [isShort, decide_eq_true_eq] at hshort
    rw [length_ofChars_named, size_cons, hspace] at hlong
    omega
  · exact fun line hline => absurd hline List.not_mem_nil

/-! ### In several lines -/

variable {line : List (List Char)} {lines : List (List (List Char))}

theorem fieldLines_long (hlong : ¬ isShort name value = true)
    (hcut : layLines (size name + 1) false (words (onOneLine value)) = (line, lines)) :
    fieldLines name value = (name ++ ':' :: spaced line) :: lines.map spaced := by
  rw [fieldLines, if_neg hlong, hcut]

theorem isFolded_long (hname : ∀ c ∈ name, isLineBreak c = false)
    (hlong : ¬ isShort name value = true)
    (hcut : layLines (size name + 1) false (words (onOneLine value)) = (line, lines)) :
    IsFolded name value (spaced line) (lines.map spaced) := by
  have hwords := forall_layLines (isWord_of_mem_words (onOneLine value)) (size name + 1) false
  have hflatten := layLines_flatten (size name + 1) false (words (onOneLine value))
  have hsize : size (name ++ [':']) = size name + 1 := size_append name [':']
  have hchain := isChain_layLines (name ++ [':']) false (isWord_of_mem_words (onOneLine value))
  rw [hsize, hcut, List.append_assoc, List.singleton_append] at hchain
  rw [hcut] at hwords hflatten
  constructor
  · intro l hl
    rw [← fieldLines_long hlong hcut] at hl
    exact not_isLineBreak_of_mem_fieldLines hname hl
  · intro l hl
    rcases List.mem_map.1 hl with ⟨ws, hws, rfl⟩
    have hne : ws ≠ [] := by
      apply ne_nil_of_mem_layLines
      rw [hcut]
      exact hws
    rcases List.exists_cons_of_ne_nil hne with ⟨w, rest, rfl⟩
    rcases hwords.2 _ hws w List.mem_cons_self with ⟨hword, hplain⟩
    rcases List.exists_cons_of_ne_nil hword with ⟨c, w', rfl⟩
    exact ⟨c, w' ++ spaced rest, rfl, hplain c List.mem_cons_self⟩
  · rw [← List.map_cons, flatMap_words_spaced (List.forall_mem_cons.2 hwords), List.flatten_cons]
    exact hflatten
  · exact hchain

theorem isLimited_long
    (hcut : layLines (size name + 1) false (words (onOneLine value)) = (line, lines)) :
    IsLimited name (spaced line) (lines.map spaced) := by
  have hwords := forall_layLines (isWord_of_mem_words (onOneLine value)) (size name + 1) false
  have hfits := fits_layLines (size name + 1) false (words (onOneLine value))
  rw [hcut] at hwords hfits
  constructor
  · intro hlong
    rw [length_ofChars_named] at hlong
    by_cases hnil : words (onOneLine value) = []
    · -- Without a word nothing is put after the colon.
      right
      rw [hnil] at hcut
      cases hcut
      exact ⟨rfl, rfl⟩
    · left
      have hfirst := fits_layLines_first (size name + 1) hnil
      rw [hcut] at hfirst
      dsimp only at hfirst
      rw [words_spaced hwords.1]
      rcases hfirst with hone | hroom
      · exact hone
      · omega
  · intro l hl hlong
    rcases List.mem_map.1 hl with ⟨ws, hws, rfl⟩
    rw [length_ofChars] at hlong
    rw [words_spaced (hwords.2 ws hws)]
    rcases hfits ws hws with hone | hroom
    · exact hone
    · omega

end

/-- Every field is written as lines. The first begins with the name and a colon, and each other
with one space before a word. The lines hold the words of the value in order, a line of more than
78 octets holds one word, unless the value has none at all, and a line is broken only before a
word that would have taken it past 78 octets. -/
theorem folded_fieldOctets (name value : String)
    (hname : ∀ c ∈ name.toList, isLineBreak c = false) :
    ∃ first more,
      fieldOctets name value =
        unlines (((name.toList ++ ':' :: first) :: more).map ofChars) ∧
      IsFolded name.toList value.toList first more ∧ IsLimited name.toList first more := by
  rw [fieldOctets, field_eq, ofChars_flatMap_crlf]
  by_cases hshort : isShort name.toList value.toList = true
  · refine ⟨_, _, ?_, isFolded_short hname hshort, isLimited_short hshort⟩
    rw [fieldLines, if_pos hshort]
  · cases hcut : layLines (size name.toList + 1) false (words (onOneLine value.toList)) with
    | mk line lines =>
      refine ⟨_, _, ?_, isFolded_long hname hshort hcut, isLimited_long hcut⟩
      rw [fieldLines_long hshort hcut]

/-- A name of 78 octets. -/
def wideName : String :=
  "X-Wide-Wide-Wide-Wide-Wide-Wide-Wide-Wide-Wide-Wide-Wide-Wide-Wide-Wide-Wide-N"

theorem wideName_plain : ∀ c ∈ wideName.toList, isLineBreak c = false :=
  List.all_iff_forall_prop.1 (by decide)

/-- With a value of two words, the line with the name takes the first of them. -/
theorem folded_wideName : ∃ first more,
    fieldOctets wideName "a b" =
      unlines (((wideName.toList ++ ':' :: first) :: more).map ofChars) ∧
    IsFolded wideName.toList "a b".toList first more ∧ IsLimited wideName.toList first more :=
  folded_fieldOctets wideName "a b" wideName_plain

/-- Without a word in the value, the name and the colon are a line of 79 octets that holds none. -/
theorem not_folded_wideName :
    fieldOctets wideName "" = ofString wideName ++ ofString ":" ++ crlf ∧
      ¬ ∃ first more,
        fieldOctets wideName "" =
          unlines (((wideName.toList ++ ':' :: first) :: more).map ofChars) ∧
        IsFolded wideName.toList "".toList first more ∧
        (lineLimit < (ofChars (wideName.toList ++ ':' :: first)).length →
          (words first).length = 1) ∧
        ∀ line ∈ more, lineLimit < (ofChars line).length → (words line).length = 1 := by
  have hsize : size wideName.toList = lineLimit := rfl
  constructor
  · have hlong : ¬ isShort wideName.toList "".toList = true := by
      simp only [isShort, decide_eq_true_eq, hsize]
      omega
    have hcut : layLines (size wideName.toList + 1) false (words (onOneLine "".toList)) = ([], []) :=
      rfl
    have hcolon : ":".toList = [':'] := rfl
    rw [fieldOctets, field_eq, fieldLines_long hlong hcut, ofChars_flatMap_crlf, ofString, ofString,
      ← ofChars_append, hcolon, spaced_nil]
    simp [unlines]
  · -- The first line is too long for any `first`, so it would have to hold a word of the value.
    rintro ⟨first, more, -, hfolded, hone, -⟩
    have hwords := hfolded.words_eq
    have hnone : words (onOneLine "".toList) = [] := rfl
    rw [hnone, List.flatMap_cons] at hwords
    rw [length_ofChars_named, hsize] at hone
    have hfirst := hone (by omega)
    rw [(List.append_eq_nil_iff.1 hwords).1] at hfirst
    cases hfirst

end Outbox.Mime
