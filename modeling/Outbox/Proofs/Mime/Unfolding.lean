import Mathlib.Data.Bool.AllAny
import Mathlib.Data.List.Chain
import Outbox.Proofs.Mime.Field

/-!
# Outbox.Proofs.Mime.Unfolding — what folding does to a value

RFC 5322 folds a field by a line end put before a blank, so a reader unfolds it by removing the
line ends that stand before blanks. A short field is written as it is. A long one is written as
its words with one space before each, wherever its lines are broken.

* `unfoldOctets_fieldOctets` — what a reader gets from a field.
* `spaced_words_eq_iff` — the words of a text, with one space before each, are that text exactly
  if it is words with single spaces between them.
* `unfoldOctets_fieldOctets_eq_iff` — so a long value is read as it was given exactly if it is
  such a text. Other blanks in it are lost.
-/

namespace Outbox.Mime

open Octets Text

/-- Whether octets begin with a space or a tab. -/
def beginsBlank : Octets → Bool
  | b :: _ => Dkim.isBlankOctet b
  | [] => false

/-- Unfolds a field as RFC 5322, section 2.2.3, has it: every line end before a blank goes. -/
def unfoldOctets : Octets → Octets
  | 13 :: 10 :: rest =>
    if beginsBlank rest then unfoldOctets rest else 13 :: 10 :: unfoldOctets rest
  | b :: rest => b :: unfoldOctets rest
  | [] => []

/-- Words with single spaces between them: there is no other white space, and no two spaces are
neighbours even if one more is put at each end. -/
structure IsSingleSpaced (text : List Char) : Prop where
  white : ∀ c ∈ text, isAsciiWhite c = true → c = ' '
  apart : (' ' :: (text ++ [' '])).IsChain fun a b => a = ' ' → b ≠ ' '

/-! ## Unfolding lines -/

theorem unfoldOctets_cons {b : UInt8} (hcr : b ≠ cr) (rest : Octets) :
    unfoldOctets (b :: rest) = b :: unfoldOctets rest := by
  rw [unfoldOctets]
  rintro more rfl
  exact absurd rfl hcr

theorem unfoldOctets_line {line : Octets} (hline : IsLine line) (rest : Octets) :
    unfoldOctets (line ++ crlf ++ rest) =
      line ++ if beginsBlank rest then unfoldOctets rest else crlf ++ unfoldOctets rest := by
  induction line with
  | nil => rfl
  | cons b line ih =>
    rw [isLine_cons] at hline
    rcases hline with ⟨hcr, -, hline⟩
    rw [List.cons_append, List.cons_append, unfoldOctets_cons hcr, ih hline]
    rfl

theorem beginsBlank_append {octets : Octets} (h : beginsBlank octets = true) (rest : Octets) :
    beginsBlank (octets ++ rest) = true := by
  cases octets with
  | nil => cases h
  | cons b octets => exact h

/-- A line and lines after it that begin with blanks are unfolded to one line. -/
theorem unfoldOctets_unlines {line : Octets} (hline : IsLine line) {more : List Octets}
    (hmore : ∀ l ∈ more, IsLine l ∧ beginsBlank l = true) :
    unfoldOctets (unlines (line :: more)) = line ++ more.flatten ++ crlf := by
  induction more generalizing line with
  | nil =>
    rw [unlines_cons, unfoldOctets_line hline]
    simp [beginsBlank, unfoldOctets]
  | cons next more ih =>
    rcases hmore next List.mem_cons_self with ⟨hnext, hblank⟩
    have hrest := ih hnext fun l hl => hmore l (List.mem_cons_of_mem next hl)
    have hbegins : beginsBlank (unlines (next :: more)) = true := by
      rw [unlines_cons, List.append_assoc]
      exact beginsBlank_append hblank _
    rw [unlines_cons, unfoldOctets_line hline, if_pos hbegins, hrest, List.flatten_cons]
    simp only [List.append_assoc]

theorem beginsBlank_ofChars {text : List Char} (h : continues text = true) :
    beginsBlank (ofChars text) = true := by
  cases text with
  | nil => cases h
  | cons c rest =>
    simp only [continues, Dkim.isBlankChar, Bool.or_eq_true, beq_iff_eq] at h
    rcases h with rfl | rfl
    · rw [ofChars_cons_of_ascii (by decide)]
      rfl
    · rw [ofChars_cons_of_ascii (by decide)]
      rfl

/-- A reader gets one line from a field: its value if it is short, and else its words with one
space before each. -/
theorem unfoldOctets_fieldOctets {name : String}
    (hname : ∀ c ∈ name.toList, isLineBreak c = false) (value : String) :
    unfoldOctets (fieldOctets name value) =
      ofChars (name.toList ++ ':' :: afterColon name.toList value.toList) ++ crlf := by
  have hplain : ∀ line ∈ fieldLines name.toList value.toList, IsLine (ofChars line) :=
    fun line hline => isLine_ofChars (not_isLineBreak_of_mem_fieldLines hname hline)
  have hflatten := flatten_fieldLines_eq name.toList value.toList
  rw [fieldOctets, field_eq, ofChars_flatMap_crlf]
  rcases fieldLines_eq_cons name.toList value.toList with ⟨line, more, hlines, hmore⟩
  rw [hlines] at hplain hflatten ⊢
  -- Each line but the first begins with the space before its first word.
  have hblank : ∀ l ∈ more.map ofChars, IsLine l ∧ beginsBlank l = true := by
    intro l hl
    rcases List.mem_map.1 hl with ⟨text, htext, rfl⟩
    exact ⟨hplain text (List.mem_cons_of_mem line htext), beginsBlank_ofChars (hmore text htext)⟩
  rw [List.map_cons, unfoldOctets_unlines (hplain line List.mem_cons_self) hblank,
    ← ofChars_flatten, ← ofChars_append, ← hflatten, List.flatten_cons]

/-! ## Single spaces -/

theorem spaced_eq_cons_iff {ws : List (List Char)} {c : Char} {text : List Char}
    (h : spaced ws = c :: text) : c = ' ' ∧ ∃ w more, ws = w :: more ∧ text = w ++ spaced more := by
  cases ws with
  | nil => cases h
  | cons w more =>
    rw [spaced_cons, List.cons_append, List.cons.injEq] at h
    exact ⟨h.1.symm, w, more, rfl, h.2.symm⟩

/-- After one space of words with a space before each of them there is no other. -/
theorem not_isAsciiWhite_of_spaced_words {text rest : List Char} {c : Char}
    (h : spaced (words text) = ' ' :: c :: rest) : isAsciiWhite c = false := by
  rcases spaced_eq_cons_iff h with ⟨-, w, more, hws, hrest⟩
  have hmem : w ∈ words text := by
    rw [hws]
    exact List.mem_cons_self
  have hw := mem_words hmem
  rcases List.exists_cons_of_ne_nil hw.1 with ⟨x, w', rfl⟩
  obtain rfl : c = x := (List.cons.inj hrest).1
  exact (hw.2 c List.mem_cons_self).1

/-- The words from the middle of one on, with a space before each of them, are the text with a
space before it exactly if that text is single spaced. `prev` is a character that stands for what
was read before: a space if no word has begun. -/
theorem spaced_wordsFrom_eq_iff (current text : List Char) (prev : Char)
    (hcurrent : ∀ c ∈ current, isAsciiWhite c = false) (hprev : prev = ' ' ↔ current = []) :
    spaced (wordsFrom current text) = ' ' :: (current.reverse ++ text) ↔
      (∀ c ∈ text, isAsciiWhite c = true → c = ' ') ∧
        (prev :: (text ++ [' '])).IsChain fun a b => a = ' ' → b ≠ ' ' := by
  induction text generalizing current prev with
  | nil =>
    by_cases hnil : current = []
    · subst hnil
      simp [wordsFrom, hprev.2 rfl]
    · have hne : prev ≠ ' ' := fun h => hnil (hprev.1 h)
      simp [wordsFrom, hnil, spaced_cons, hne]
  | cons c rest ih =>
    rw [wordsFrom, List.cons_append, List.isChain_cons_cons, List.forall_mem_cons]
    cases hwhite : isAsciiWhite c with
    | true =>
      have hspaces := ih [] ' ' (by simp) (by simp)
      rw [if_pos rfl]
      by_cases hnil : current = []
      · -- A blank before any word is one that is not written.
        have hspace := hprev.2 hnil
        subst hnil
        rw [if_pos (by rfl)]
        constructor
        · intro h
          rw [not_isAsciiWhite_of_spaced_words h] at hwhite
          cases hwhite
        · rintro ⟨⟨hc, -⟩, hne, -⟩
          exact absurd (hc rfl) (hne hspace)
      · -- A blank after a word is written as the space before the next word.
        have hne : prev ≠ ' ' := fun h => hnil (hprev.1 h)
        rw [if_neg (by simpa using hnil), spaced_cons]
        have hcut : ' ' :: current.reverse ++ spaced (wordsFrom [] rest) =
            ' ' :: (current.reverse ++ c :: rest) ↔ spaced (wordsFrom [] rest) = c :: rest := by
          rw [List.cons_append, List.cons_inj_right, List.append_cancel_left_eq]
        rw [hcut]
        constructor
        · intro h
          obtain rfl := (spaced_eq_cons_iff h).1
          have hrest := hspaces.1 h
          exact ⟨⟨fun _ => rfl, hrest.1⟩, fun hspace => absurd hspace hne, hrest.2⟩
        · rintro ⟨⟨hc, hrest⟩, -, hchain⟩
          obtain rfl := hc rfl
          exact hspaces.2 ⟨hrest, hchain⟩
    | false =>
      have hne : c ≠ ' ' := by
        rintro rfl
        cases hwhite
      have hgrown : ∀ x ∈ c :: current, isAsciiWhite x = false := by
        intro x hx
        rcases List.mem_cons.1 hx with rfl | hx
        · exact hwhite
        · exact hcurrent x hx
      have hword := ih (c :: current) c hgrown (by simp [hne])
      rw [List.reverse_cons, List.append_assoc, List.singleton_append] at hword
      rw [if_neg (by simp), hword]
      simp [hne]

/-- A text is its words with single spaces exactly if it is single spaced. -/
theorem spaced_words_eq_iff (text : List Char) :
    spaced (words text) = ' ' :: text ↔ IsSingleSpaced text := by
  have h := spaced_wordsFrom_eq_iff [] text ' ' (by simp) (by simp)
  rw [words]
  constructor
  · intro heq
    rcases h.1 heq with ⟨hwhite, hapart⟩
    exact ⟨hwhite, hapart⟩
  · rintro ⟨hwhite, hapart⟩
    exact h.2 ⟨hwhite, hapart⟩

/-! ## Fields -/

/-- A reader gets the value that was given, but for its line breaks, exactly if the field is short
or the value is words with single spaces between them. In a long field all other blanks are lost:
those at the ends, all but one of a run, and tabs and form feeds, which become spaces. -/
theorem unfoldOctets_fieldOctets_eq_iff (name value : String)
    (hname : ∀ c ∈ name.toList, isLineBreak c = false) :
    unfoldOctets (fieldOctets name value) =
        ofString name ++ ofString ": " ++ ofChars (onOneLine value.toList) ++ crlf ↔
      isShort name.toList value.toList = true ∨ IsSingleSpaced (onOneLine value.toList) := by
  have hgiven : ofString name ++ ofString ": " ++ ofChars (onOneLine value.toList) ++ crlf =
      ofChars (name.toList ++ ':' :: ' ' :: onOneLine value.toList) ++ crlf := by
    have hcolon : ofString ": " = ofChars [':', ' '] := by decide
    rw [hcolon, ofString, ← ofChars_append, ← ofChars_append]
    simp
  rw [unfoldOctets_fieldOctets hname, hgiven, List.append_cancel_right_eq]
  have hafter : ofChars (name.toList ++ ':' :: afterColon name.toList value.toList) =
      ofChars (name.toList ++ ':' :: ' ' :: onOneLine value.toList) ↔
        afterColon name.toList value.toList = ' ' :: onOneLine value.toList := by
    constructor
    · intro h
      exact List.cons.inj (List.append_cancel_left (ofChars_injective h)) |>.2
    · intro h
      rw [h]
  rw [hafter, afterColon]
  by_cases hshort : isShort name.toList value.toList = true
  · simp [hshort]
  · simp [hshort, spaced_words_eq_iff]

/-- The disposition of a file whose name has single spaces. -/
def minutes : String := "attachment; filename=\"minutes of the annual meeting, second draft.pdf\""

/-- It takes two lines, and a reader gets it as it is. -/
theorem unfoldOctets_minutes :
    isShort "Content-Disposition".toList minutes.toList = false ∧
      unfoldOctets (fieldOctets "Content-Disposition" minutes) =
        ofString "Content-Disposition" ++ ofString ": " ++ ofChars (onOneLine minutes.toList) ++
          crlf := by
  have hname : ∀ c ∈ "Content-Disposition".toList, isLineBreak c = false :=
    List.all_iff_forall_prop.1 (by decide)
  have hspaced : IsSingleSpaced (onOneLine minutes.toList) := (spaced_words_eq_iff _).1 rfl
  exact ⟨rfl, (unfoldOctets_fieldOctets_eq_iff _ _ hname).2 (Or.inr hspaced)⟩

/-- The disposition of a file with two spaces in its name. -/
def spacedMinutes : String :=
  "attachment; filename=\"minutes of the annual meeting,  second draft.pdf\""

/-- A reader finds the file under another name, with one space. -/
theorem unfoldOctets_spacedMinutes :
    unfoldOctets (fieldOctets "Content-Disposition" spacedMinutes) =
        ofString "Content-Disposition: " ++ ofString minutes ++ crlf ∧
      unfoldOctets (fieldOctets "Content-Disposition" spacedMinutes) ≠
        ofString "Content-Disposition" ++ ofString ": " ++
          ofChars (onOneLine spacedMinutes.toList) ++ crlf := by
  decide

end Outbox.Mime
