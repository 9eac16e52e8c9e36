import Mathlib.Data.List.DropRight
import Outbox.Dkim.Relaxed
import Outbox.Proofs.Mime.Field
import Outbox.Proofs.Text.Trim

/-!
# Outbox.Proofs.Dkim.Relaxed — what relaxed canonicalization absorbs

The relaxed form reduces every run of blanks to one space. `squeeze_run` says that the length of
a run does not matter, and `not_spaces_squeeze` that no two spaces are left side by side.

Writing a long value puts single spaces between its words and takes its line ends out. The
relaxed form does the same to blanks, but trims all white space at the ends of a value, so the
two have to be exchanged:

* `trim_squeeze` — trimming commutes with the reduction of blanks.
* `intercalate_wordsFrom` — words with single spaces are the text with its blanks reduced.
* `relaxedHeader_written` — the relaxed form of a value is that of the value as it is written.
-/

namespace Outbox.Dkim

open Text

/-! ## Runs of blanks -/

section

variable {α : Type} {isBlank : α → Bool} {space x : α}

theorem squeeze_blank (h : isBlank x = true) (after : Bool) (rest : List α) :
    squeeze isBlank space after (x :: rest) =
      if after then squeeze isBlank space true rest
      else space :: squeeze isBlank space true rest := by
  simp [squeeze, h]

theorem squeeze_other (h : isBlank x = false) (after : Bool) (rest : List α) :
    squeeze isBlank space after (x :: rest) = x :: squeeze isBlank space false rest := by
  simp [squeeze, h]

/-- A run at the start leaves a space, so something is left of any text. -/
theorem squeeze_eq_nil_iff {text : List α} :
    squeeze isBlank space false text = [] ↔ text = [] := by
  cases text with
  | nil => simp [squeeze]
  | cons c rest =>
    cases hc : isBlank c with
    | true => simp [squeeze_blank hc]
    | false => simp [squeeze_other hc]

theorem squeeze_squeeze (hspace : isBlank space = true) (after : Bool) (text : List α) :
    squeeze isBlank space after (squeeze isBlank space after text) =
      squeeze isBlank space after text := by
  induction text generalizing after with
  | nil => rfl
  | cons c rest ih =>
    cases hc : isBlank c with
    | true =>
      rw [squeeze_blank hc]
      cases after with
      | true => exact ih true
      | false =>
        simp only [Bool.false_eq_true, if_false]
        rw [squeeze_blank hspace, if_neg (by simp), ih true]
    | false => rw [squeeze_other hc, squeeze_other hc, ih false]

theorem squeeze_append_cons (hx : isBlank x = false) (after : Bool) (a b : List α) :
    squeeze isBlank space after (a ++ x :: b) =
      squeeze isBlank space after a ++ x :: squeeze isBlank space false b := by
  induction a generalizing after with
  | nil => exact squeeze_other hx after b
  | cons c a ih =>
    rw [List.cons_append]
    cases hc : isBlank c with
    | true =>
      rw [squeeze_blank hc, squeeze_blank hc, ih true]
      cases after <;> rfl
    | false => rw [squeeze_other hc, squeeze_other hc, ih false, List.cons_append]

/-- A blank at the end is one space more, or none. -/
theorem squeeze_concat_blank (hx : isBlank x = true) (after : Bool) (a : List α) :
    squeeze isBlank space after (a ++ [x]) = squeeze isBlank space after a ∨
      squeeze isBlank space after (a ++ [x]) = squeeze isBlank space after a ++ [space] := by
  induction a generalizing after with
  | nil =>
    rw [List.nil_append, squeeze_blank hx]
    cases after with
    | true => exact Or.inl rfl
    | false => exact Or.inr rfl
  | cons c a ih =>
    rw [List.cons_append]
    cases hc : isBlank c with
    | true =>
      rw [squeeze_blank hc, squeeze_blank hc]
      cases after with
      | true => exact ih true
      | false => exact (ih true).imp (congrArg (space :: ·)) (congrArg (space :: ·))
    | false =>
      rw [squeeze_other hc, squeeze_other hc]
      exact (ih false).imp (congrArg (c :: ·)) (congrArg (c :: ·))

theorem mem_squeeze {after : Bool} {text : List α} (h : x ∈ squeeze isBlank space after text) :
    x = space ∨ x ∈ text := by
  induction text generalizing after with
  | nil => cases h
  | cons c rest ih =>
    have hrest {after' : Bool} (h' : x ∈ squeeze isBlank space after' rest) :
        x = space ∨ x ∈ c :: rest := (ih h').imp id (List.mem_cons_of_mem c)
    cases hc : isBlank c with
    | true =>
      rw [squeeze_blank hc] at h
      cases after with
      | true => exact hrest h
      | false =>
        rcases List.mem_cons.1 h with rfl | h
        · exact Or.inl rfl
        · exact hrest h
    | false =>
      rw [squeeze_other hc] at h
      rcases List.mem_cons.1 h with rfl | h
      · exact Or.inr List.mem_cons_self
      · exact hrest h

/-- Of the blanks only the space is left. -/
theorem eq_space_of_mem_squeeze {after : Bool} {text : List α}
    (h : x ∈ squeeze isBlank space after text) (hx : isBlank x = true) : x = space := by
  induction text generalizing after with
  | nil => cases h
  | cons c rest ih =>
    cases hc : isBlank c with
    | true =>
      rw [squeeze_blank hc] at h
      cases after with
      | true => exact ih h
      | false =>
        rcases List.mem_cons.1 h with rfl | hrest
        · rfl
        · exact ih hrest
    | false =>
      rw [squeeze_other hc] at h
      rcases List.mem_cons.1 h with rfl | hrest
      · rw [hc] at hx
        cases hx
      · exact ih hrest

/-- After a blank no space comes first. -/
theorem head?_squeeze_ne (hspace : isBlank space = true) (text : List α) :
    (squeeze isBlank space true text).head? ≠ some space := by
  induction text with
  | nil => simp [squeeze]
  | cons c rest ih =>
    cases hc : isBlank c with
    | true =>
      rw [squeeze_blank hc]
      exact ih
    | false =>
      rw [squeeze_other hc, List.head?_cons]
      intro heq
      rw [Option.some.inj heq, hspace] at hc
      cases hc

/-- No space is next to another. -/
theorem not_spaces_squeeze (hspace : isBlank space = true) (after : Bool) (text : List α) :
    ¬ [space, space] <:+: squeeze isBlank space after text := by
  induction text generalizing after with
  | nil => simp [squeeze]
  | cons c rest ih =>
    cases hc : isBlank c with
    | true =>
      rw [squeeze_blank hc]
      cases after with
      | true => exact ih true
      | false =>
        intro hspaces
        rcases List.infix_cons_iff.1 hspaces with hfirst | hlater
        · rcases (List.cons_prefix_cons.1 hfirst).2 with ⟨more, hmore⟩
          have hhead : (squeeze isBlank space true rest).head? = some space := by
            rw [← hmore]
            rfl
          exact head?_squeeze_ne hspace rest hhead
        · exact ih true hlater
    | false =>
      rw [squeeze_other hc]
      intro hspaces
      rcases List.infix_cons_iff.1 hspaces with hfirst | hlater
      · rw [← (List.cons_prefix_cons.1 hfirst).1, hspace] at hc
        cases hc
      · exact ih false hlater

/-- A run of blanks counts as one. -/
theorem squeeze_run {run : List α} (hrun : ∀ x ∈ run, isBlank x = true) (hne : run ≠ [])
    (after : Bool) (rest : List α) :
    squeeze isBlank space after (run ++ rest) =
      if after then squeeze isBlank space true rest
      else space :: squeeze isBlank space true rest := by
  induction run generalizing after with
  | nil => exact absurd rfl hne
  | cons c run ih =>
    rw [List.cons_append, squeeze_blank (hrun c List.mem_cons_self)]
    cases run with
    | nil => rfl
    | cons d run =>
      have hmore : ∀ x ∈ d :: run, isBlank x = true :=
        fun x hx => hrun x (List.mem_cons_of_mem c hx)
      rw [ih hmore (List.cons_ne_nil d run) true, if_pos rfl]

theorem squeeze_congr_append {b c : List α}
    (h : ∀ after, squeeze isBlank space after b = squeeze isBlank space after c)
    (after : Bool) (a : List α) :
    squeeze isBlank space after (a ++ b) = squeeze isBlank space after (a ++ c) := by
  induction a generalizing after with
  | nil => exact h after
  | cons x a ih =>
    rw [List.cons_append, List.cons_append]
    cases hx : isBlank x with
    | true => rw [squeeze_blank hx, squeeze_blank hx, ih true]
    | false => rw [squeeze_other hx, squeeze_other hx, ih false]

theorem rdropWhile_congr {p q : α → Bool} {text : List α} (h : ∀ x ∈ text, p x = q x) :
    text.rdropWhile p = text.rdropWhile q := by
  induction text using List.reverseRecOn with
  | nil => rfl
  | append_singleton text c ih =>
    have hc := h c (List.mem_append_right text (List.mem_singleton_self c))
    have hrest := ih fun x hx => h x (List.mem_append_left [c] hx)
    rw [List.rdropWhile_concat, List.rdropWhile_concat, hc, hrest]

/-- White space at the end, of which the blanks are a part, can be dropped before or after. -/
theorem rdropWhile_squeeze {isWhite : α → Bool} (h : ∀ x, isBlank x = true → isWhite x = true)
    (hspace : isWhite space = true) (after : Bool) (text : List α) :
    (squeeze isBlank space after text).rdropWhile isWhite =
      squeeze isBlank space after (text.rdropWhile isWhite) := by
  -- From the end of the text: a blank there leaves at most a space, and that is dropped too.
  induction text using List.reverseRecOn with
  | nil => rfl
  | append_singleton text c ih =>
    cases hc : isBlank c with
    | true =>
      rw [List.rdropWhile_concat_pos _ _ _ (h c hc), ← ih]
      rcases squeeze_concat_blank hc after text with heq | heq
      · rw [heq]
      · rw [heq, List.rdropWhile_concat_pos _ _ _ hspace]
    | false =>
      have hsplit : squeeze isBlank space after (text ++ [c]) =
          squeeze isBlank space after text ++ [c] := squeeze_append_cons hc after text []
      by_cases hwhite : isWhite c = true
      · rw [List.rdropWhile_concat_pos _ _ _ hwhite, ← ih, hsplit]
        exact List.rdropWhile_concat_pos _ _ _ hwhite
      · rw [List.rdropWhile_concat_neg _ _ _ hwhite, hsplit]
        exact List.rdropWhile_concat_neg _ _ _ hwhite

end

/-! ## Trimming -/

theorem trim_eq (text : List Char) : trim text = (text.dropWhile isWhite).rdropWhile isWhite :=
  strip_eq isWhite text

theorem isWhite_of_isBlankChar {c : Char} (h : isBlankChar c = true) : isWhite c = true := by
  simp only [isBlankChar, Bool.or_eq_true, beq_iff_eq] at h
  rcases h with rfl | rfl
  · decide
  · decide

theorem dropWhile_squeeze (after : Bool) (text : List Char) :
    (squeeze isBlankChar ' ' after text).dropWhile isWhite =
      squeeze isBlankChar ' ' false (text.dropWhile isWhite) := by
  induction text generalizing after with
  | nil => rfl
  | cons c rest ih =>
    cases hc : isBlankChar c with
    | true =>
      have hspace : isWhite ' ' = true := by decide
      rw [squeeze_blank hc, List.dropWhile_cons_of_pos (isWhite_of_isBlankChar hc)]
      cases after with
      | true => exact ih true
      | false =>
        simp only [Bool.false_eq_true, if_false]
        rw [List.dropWhile_cons_of_pos hspace, ih true]
    | false =>
      rw [squeeze_other hc]
      by_cases hwhite : isWhite c = true
      · rw [List.dropWhile_cons_of_pos hwhite, List.dropWhile_cons_of_pos hwhite, ih false]
      · rw [List.dropWhile_cons_of_neg hwhite, List.dropWhile_cons_of_neg hwhite,
          squeeze_other hc]

/-- Trimming and the reduction of blanks can be exchanged. -/
theorem trim_squeeze (after : Bool) (text : List Char) :
    trim (squeeze isBlankChar ' ' after text) = squeeze isBlankChar ' ' false (trim text) := by
  rw [trim_eq, trim_eq, dropWhile_squeeze,
    rdropWhile_squeeze (fun _ => isWhite_of_isBlankChar) (by decide)]

/-- Blanks at the end of a text do not matter to trimming. -/
theorem trim_rdropWhile (text : List Char) : trim (text.rdropWhile isBlankChar) = trim text := by
  induction text using List.reverseRecOn with
  | nil => rfl
  | append_singleton text c ih =>
    by_cases hc : isBlankChar c = true
    · rw [List.rdropWhile_concat_pos _ _ _ hc, ih]
      exact (strip_concat (isWhite_of_isBlankChar hc) text).symm
    · rw [List.rdropWhile_concat_neg _ _ _ hc]

/-! ## Words -/

theorem rdropWhile_cons {p : Char → Bool} (c : Char) (text : List Char) :
    (c :: text).rdropWhile p =
      if p c ∧ text.rdropWhile p = [] then [] else c :: text.rdropWhile p := by
  have hreverse : (c :: text).rdropWhile p = ((text.reverse ++ [c]).dropWhile p).reverse := by
    simp [List.rdropWhile]
  have hrest : text.rdropWhile p = (text.reverse.dropWhile p).reverse := rfl
  rw [hreverse, hrest, List.dropWhile_append]
  by_cases hnil : text.reverse.dropWhile p = []
  · by_cases hc : p c = true
    · simp [hnil, hc]
    · simp [hnil, hc]
  · simp [hnil]

theorem isAsciiWhite_eq {c : Char} (hbreak : isLineBreak c = false) (hfeed : c ≠ '\x0c') :
    isAsciiWhite c = isBlankChar c := by
  simp only [isLineBreak, Bool.or_eq_false_iff] at hbreak
  have hfeed' : (c == '\x0c') = false := by simpa using hfeed
  simp [isAsciiWhite, isBlankChar, hbreak, hfeed']

/-- Where blanks are all the white space there is, the words from the middle of one on are the
text with its blanks reduced and none at its end. -/
theorem intercalate_wordsFrom {text : List Char} (current : List Char)
    (h : ∀ c ∈ text, isLineBreak c = false ∧ c ≠ '\x0c') :
    [' '].intercalate (Mime.wordsFrom current text) =
      current.reverse ++ (squeeze isBlankChar ' ' current.isEmpty text).rdropWhile isBlankChar := by
  induction text generalizing current with
  | nil =>
    cases current with
    | nil => rfl
    | cons c current => simp [Mime.wordsFrom, List.intercalate, squeeze]
  | cons c rest ih =>
    obtain ⟨hbreak, hfeed⟩ := h c List.mem_cons_self
    have hrest : ∀ x ∈ rest, isLineBreak x = false ∧ x ≠ '\x0c' :=
      fun x hx => h x (List.mem_cons_of_mem c hx)
    rw [Mime.wordsFrom, isAsciiWhite_eq hbreak hfeed]
    cases hc : isBlankChar c with
    | true =>
      rw [squeeze_blank hc]
      have ih := ih [] hrest
      cases current with
      | nil => exact ih
      | cons d current =>
        have hspace : isBlankChar ' ' = true := by decide
        simp only [List.isEmpty_nil, List.reverse_nil, List.nil_append] at ih
        simp only [if_true, List.isEmpty_cons, Bool.false_eq_true, if_false]
        rw [Mime.intercalate_cons, rdropWhile_cons, ← ih]
        congr 1
        -- The space after this word stays if another word follows.
        by_cases hnil : Mime.wordsFrom [] rest = []
        · simp [hnil, hspace, List.intercalate]
        · obtain ⟨w, ws, hws⟩ := List.exists_cons_of_ne_nil hnil
          have hw : w ≠ [] := (Mime.mem_wordsFrom (hws ▸ List.mem_cons_self) (by simp)).1
          rw [Mime.spaced_eq hnil, if_neg]
          rintro ⟨-, hempty⟩
          rw [hws, Mime.intercalate_cons] at hempty
          exact hw (List.append_eq_nil_iff.1 hempty).1
    | false =>
      have hother : ¬ (isBlankChar c = true ∧
          (squeeze isBlankChar ' ' false rest).rdropWhile isBlankChar = []) := by
        rintro ⟨hblank, -⟩
        rw [hc] at hblank
        cases hblank
      rw [squeeze_other hc, rdropWhile_cons, if_neg hother, if_neg (by simp),
        ih (c :: current) hrest]
      simp

/-- Words with single spaces are the text with its blanks reduced, but for blanks at the ends. -/
theorem trim_intercalate_words {text : List Char}
    (h : ∀ c ∈ text, isLineBreak c = false ∧ c ≠ '\x0c') :
    trim ([' '].intercalate (Mime.words text)) = squeeze isBlankChar ' ' false (trim text) := by
  have hwords := intercalate_wordsFrom [] h
  rw [List.reverse_nil, List.nil_append, List.isEmpty_nil] at hwords
  rw [Mime.words, hwords, trim_rdropWhile, trim_squeeze]

/-! ## Fields -/

/-- Whether every carriage return of a value is the beginning of a line end. -/
def hasNoBareReturn : List Char → Bool
  | '\r' :: '\n' :: rest => hasNoBareReturn rest
  | '\r' :: _ => false
  | _ :: rest => hasNoBareReturn rest
  | [] => true

/-- A value that can be written in lines without a change to its relaxed form. -/
def IsFoldable (value : List Char) : Prop := hasNoBareReturn value = true ∧ '\x0c' ∉ value

theorem hasNoBareReturn_cons {c : Char} (hc : c ≠ '\r') (rest : List Char) :
    hasNoBareReturn (c :: rest) = hasNoBareReturn rest := by
  rw [hasNoBareReturn]
  · rintro more rfl
    exact absurd rfl hc
  · exact hc

/-- Where no line end begins, the character stays. -/
theorem unfold_other {c : Char} {rest : List Char}
    (hend : ∀ more, c = '\r' → rest = '\n' :: more → False) (hfeed : c ≠ '\n') :
    unfold (c :: rest) = c :: unfold rest := by
  rw [unfold]
  · exact hend
  · exact hfeed

theorem unfold_cons {c : Char} (hc : isLineBreak c = false) (rest : List Char) :
    unfold (c :: rest) = c :: unfold rest := by
  simp only [isLineBreak, Bool.or_eq_false_iff, beq_eq_false_iff_ne] at hc
  exact unfold_other (fun _ hreturn _ => hc.1 hreturn) hc.2

theorem onOneLine_cons {c : Char} (hc : isLineBreak c = false) (rest : List Char) :
    Mime.onOneLine (c :: rest) = c :: Mime.onOneLine rest :=
  List.filter_cons_of_pos (by simp [hc])

/-- Without a bare carriage return, the relaxed form drops what is dropped on writing. -/
theorem unfold_eq {value : List Char} (h : hasNoBareReturn value = true) :
    unfold value = Mime.onOneLine value := by
  induction value using hasNoBareReturn.induct with
  | case1 rest ih =>
    rw [hasNoBareReturn] at h
    rw [unfold, ih h]
    rfl
  | case2 rest hend =>
    rw [hasNoBareReturn] at h
    · cases h
    · exact hend
  | case3 c rest hend hreturn ih =>
    rw [hasNoBareReturn_cons hreturn] at h
    cases hc : isLineBreak c with
    | true =>
      have hfeed : c = '\n' := by
        have hreturn' : (c == '\r') = false := by simpa using hreturn
        simpa [isLineBreak, hreturn'] using hc
      subst hfeed
      rw [unfold, ih h]
      rfl
    | false => rw [unfold_cons hc, onOneLine_cons hc, ih h]
  | case4 => rfl

theorem unfold_of_plain {value : List Char} (h : ∀ c ∈ value, isLineBreak c = false) :
    unfold value = value := by
  induction value with
  | nil => rfl
  | cons c rest ih =>
    rw [unfold_cons (h c List.mem_cons_self), ih fun x hx => h x (List.mem_cons_of_mem c hx)]

/-- The relaxed form of a value is that of the value as it is written. -/
theorem relaxedHeader_written {value : List Char} (h : IsFoldable value) (name : List Char) :
    relaxedHeader name (Mime.written name value) = relaxedHeader name value := by
  have hplain := Mime.onOneLine_plain value
  have hfeed : ∀ c ∈ Mime.onOneLine value, isLineBreak c = false ∧ c ≠ '\x0c' := by
    intro c hc
    refine ⟨hplain c hc, ?_⟩
    rintro rfl
    exact h.2 (List.mem_filter.1 hc).1
  rw [relaxedHeader, relaxedHeader, unfold_of_plain (Mime.written_plain name value),
    unfold_eq h.1, Mime.written]
  -- A short value is written as it is, and of a long one only the blanks change.
  split
  · rfl
  · rw [trim_intercalate_words hfeed]
    exact congrArg (lower (trim name) ++ ':' :: ·) (squeeze_squeeze (by decide) false _)

end Outbox.Dkim
