import Mathlib.Logic.Relation
import Outbox.Proofs.Dkim.Relaxed

/-!
# Outbox.Proofs.Dkim.Refolding — what a transport may change in a field

On its way a field may be folded in other places, and its name may get other letters and its value
other blanks. `Refolded` is one such change, and a transport makes any number of them.

* `unfold_append` — a line end that is put before a blank is taken out again, whatever is around.
* `relaxedHeader_refolded` — the relaxed form is the same after a change.
* `relaxedName_relaxedName`, `relaxedValue_relaxedValue` — name and value of the relaxed form are
  relaxed themselves.
* `relaxedHeader_absorbs` — all of this for any number of changes.
-/

namespace Outbox.Dkim

open Text

/-! ## Name and value of the relaxed form -/

/-- What stands before the colon of the relaxed form. -/
def relaxedName (name : List Char) : List Char := lower (trim name)

/-- What stands after the colon of the relaxed form. -/
def relaxedValue (value : List Char) : List Char :=
  squeeze isBlankChar ' ' false (trim (unfold value))

theorem relaxedHeader_eq (name value : List Char) :
    relaxedHeader name value = relaxedName name ++ ':' :: relaxedValue value := rfl

/-- Trimming can wait until the blanks are reduced. -/
theorem relaxedValue_eq (value : List Char) :
    relaxedValue value = trim (squeeze isBlankChar ' ' false (unfold value)) :=
  (trim_squeeze false (unfold value)).symm

theorem relaxedName_relaxedName (name : List Char) :
    relaxedName (relaxedName name) = relaxedName name := by
  unfold relaxedName
  rw [trim_lower, lower_lower, trim, trim, strip_strip]

theorem notMem_unfold (value : List Char) : '\n' ∉ unfold value := by
  induction value using unfold.induct with
  | case1 rest ih => exact ih
  | case2 rest ih => exact ih
  | case3 c rest hend hfeed ih =>
    rw [unfold_other hend hfeed, List.mem_cons, not_or]
    exact ⟨Ne.symm hfeed, ih⟩
  | case4 => exact List.not_mem_nil

theorem unfold_of_notMem {value : List Char} (h : '\n' ∉ value) : unfold value = value := by
  induction value with
  | nil => rfl
  | cons c rest ih =>
    rw [List.mem_cons, not_or] at h
    rcases h with ⟨hc, hrest⟩
    have hend : ∀ more, c = '\r' → rest = '\n' :: more → False := by
      rintro more - rfl
      exact hrest List.mem_cons_self
    rw [unfold_other hend (Ne.symm hc), ih hrest]

theorem notMem_relaxedValue (value : List Char) : '\n' ∉ relaxedValue value := by
  intro hfeed
  rcases mem_squeeze hfeed with hspace | hmem
  · cases hspace
  · exact notMem_unfold value (strip_subset isWhite _ hmem)

theorem relaxedValue_relaxedValue (value : List Char) :
    relaxedValue (relaxedValue value) = relaxedValue value := by
  have hunfold : unfold (relaxedValue value) = relaxedValue value :=
    unfold_of_notMem (notMem_relaxedValue value)
  have htrim : trim (relaxedValue value) = relaxedValue value := by
    rw [relaxedValue_eq]
    exact strip_strip isWhite _
  have hsqueeze : squeeze isBlankChar ' ' false (relaxedValue value) = relaxedValue value :=
    squeeze_squeeze (by decide) false _
  rw [relaxedValue, hunfold, htrim, hsqueeze]

/-! ## Unfolding -/

/-- A text of spaces and tabs only. -/
def IsGap (text : List Char) : Prop := ∀ c ∈ text, isBlankChar c = true

instance (text : List Char) : Decidable (IsGap text) := List.decidableBAll _ text

theorem ne_lineFeed_of_isBlankChar {c : Char} (h : isBlankChar c = true) : c ≠ '\n' := by
  rintro rfl
  exact absurd h (by decide)

theorem IsGap.head?_ne {gap : List Char} (h : IsGap gap) : gap.head? ≠ some '\n' := by
  intro hhead
  exact ne_lineFeed_of_isBlankChar (h '\n' (List.mem_of_head? hhead)) rfl

theorem IsGap.isWhite {gap : List Char} (h : IsGap gap) : ∀ c ∈ gap, isWhite c = true := by
  intro c hc
  exact isWhite_of_isBlankChar (h c hc)

/-- Two texts are unfolded each on its own, unless a line end is cut in two. -/
theorem unfold_append {a b : List Char} (h : a.getLast? ≠ some '\r' ∨ b.head? ≠ some '\n') :
    unfold (a ++ b) = unfold a ++ unfold b := by
  induction a using unfold.induct with
  | case1 rest ih =>
    apply ih
    refine h.imp ?_ id
    intro hlast hrest
    exact hlast (by simp [List.getLast?_cons, hrest])
  | case2 rest ih =>
    apply ih
    refine h.imp ?_ id
    intro hlast hrest
    exact hlast (by simp [List.getLast?_cons, hrest])
  | case3 c rest hend hfeed ih =>
    have hpair : ∀ more, c = '\r' → rest ++ b = '\n' :: more → False := by
      intro more hc hmore
      -- The line feed would be the first character of one of the texts.
      cases rest with
      | nil =>
        rw [List.nil_append] at hmore
        rw [hc, hmore] at h
        rcases h with hlast | hfirst
        · exact hlast rfl
        · exact hfirst rfl
      | cons d rest =>
        rw [List.cons_append, List.cons.injEq] at hmore
        exact hend rest hc (by rw [hmore.1])
    have hrest : rest.getLast? ≠ some '\r' ∨ b.head? ≠ some '\n' := by
      refine h.imp ?_ id
      intro hlast hrest
      exact hlast (by simp [List.getLast?_cons, hrest])
    rw [List.cons_append, unfold_other hpair hfeed, unfold_other hend hfeed, ih hrest,
      List.cons_append]
  | case4 => rfl

theorem unfold_gap {gap : List Char} (h : IsGap gap) (rest : List Char) :
    unfold (gap ++ rest) = gap ++ unfold rest := by
  induction gap with
  | nil => rfl
  | cons c gap ih =>
    have hc := h c List.mem_cons_self
    have hbreak : isLineBreak c = false := by
      simp only [isBlankChar, Bool.or_eq_true, beq_iff_eq] at hc
      rcases hc with rfl | rfl
      · decide
      · decide
    rw [List.cons_append, unfold_cons hbreak, ih fun x hx => h x (List.mem_cons_of_mem c hx)]
    rfl

/-- Blanks in the middle of a value part it in two that are unfolded each on its own. -/
theorem unfold_append_gap (a : List Char) {gap : List Char} (h : IsGap gap) (hne : gap ≠ [])
    (rest : List Char) : unfold (a ++ (gap ++ rest)) = unfold a ++ (gap ++ unfold rest) := by
  have hhead : (gap ++ rest).head? ≠ some '\n' := by
    rw [List.head?_append_of_ne_nil _ hne]
    exact h.head?_ne
  rw [unfold_append (Or.inr hhead), unfold_gap h]

/-! ## Changes -/

/-- One change to a field, which is its name and its value. -/
inductive Refolded : List Char × List Char → List Char × List Char → Prop
  /-- A letter of the name is written in the other case. -/
  | recased {c d : Char} (hletter : c.toLower = d.toLower) (a b value : List Char) :
      Refolded (a ++ c :: b, value) (a ++ d :: b, value)
  /-- A line end is put before a blank. -/
  | folded {c : Char} (hc : isBlankChar c = true) (name a b : List Char) :
      Refolded (name, a ++ c :: b) (name, a ++ '\r' :: '\n' :: c :: b)
  /-- A run of blanks becomes another one. -/
  | respaced {gap gap' : List Char} (hgap : IsGap gap) (hgap' : IsGap gap') (hne : gap ≠ [])
      (hne' : gap' ≠ []) (name a b : List Char) :
      Refolded (name, a ++ (gap ++ b)) (name, a ++ (gap' ++ b))
  /-- Blanks are added before the value. -/
  | indented {gap : List Char} (hgap : IsGap gap) (name value : List Char) :
      Refolded (name, value) (name, gap ++ value)
  /-- Blanks are added after the value. -/
  | padded {gap : List Char} (hgap : IsGap gap) (name value : List Char) :
      Refolded (name, value) (name, value ++ gap)

theorem relaxedName_recased {c d : Char} (h : c.toLower = d.toLower) (a b : List Char) :
    relaxedName (a ++ c :: b) = relaxedName (a ++ d :: b) := by
  have hlower : lower (a ++ c :: b) = lower (a ++ d :: b) := by
    simp only [lower, List.map_append, List.map_cons, h]
  rw [relaxedName, relaxedName, ← trim_lower, ← trim_lower, hlower]

theorem relaxedValue_folded {c : Char} (h : isBlankChar c = true) (a b : List Char) :
    relaxedValue (a ++ '\r' :: '\n' :: c :: b) = relaxedValue (a ++ c :: b) := by
  have hfeed : c ≠ '\n' := ne_lineFeed_of_isBlankChar h
  have hbefore : unfold (a ++ c :: b) = unfold a ++ unfold (c :: b) :=
    unfold_append (Or.inr (by simpa using hfeed))
  have hafter : unfold (a ++ '\r' :: '\n' :: c :: b) = unfold a ++ unfold (c :: b) :=
    unfold_append (Or.inr (by simp))
  rw [relaxedValue, relaxedValue, hbefore, hafter]

theorem relaxedValue_respaced {gap gap' : List Char} (hgap : IsGap gap) (hgap' : IsGap gap')
    (hne : gap ≠ []) (hne' : gap' ≠ []) (a b : List Char) :
    relaxedValue (a ++ (gap ++ b)) = relaxedValue (a ++ (gap' ++ b)) := by
  rw [relaxedValue_eq, relaxedValue_eq, unfold_append_gap a hgap hne,
    unfold_append_gap a hgap' hne']
  congr 1
  apply squeeze_congr_append
  intro after
  rw [squeeze_run hgap hne, squeeze_run hgap' hne']

theorem relaxedValue_indented {gap : List Char} (h : IsGap gap) (value : List Char) :
    relaxedValue (gap ++ value) = relaxedValue value := by
  have htrim : trim (gap ++ unfold value) = trim (unfold value) :=
    strip_append_left h.isWhite _
  rw [relaxedValue, relaxedValue, unfold_gap h, htrim]

theorem relaxedValue_padded {gap : List Char} (h : IsGap gap) (value : List Char) :
    relaxedValue (value ++ gap) = relaxedValue value := by
  have hgap : unfold gap = gap := by
    have := unfold_gap h []
    rwa [List.append_nil, unfold, List.append_nil] at this
  have htrim : trim (unfold value ++ gap) = trim (unfold value) :=
    strip_append_right h.isWhite _
  rw [relaxedValue, relaxedValue, unfold_append (Or.inr h.head?_ne), hgap, htrim]

/-- A change leaves the relaxed form as it is. -/
theorem relaxedHeader_refolded {field field' : List Char × List Char}
    (h : Refolded field field') :
    relaxedHeader field'.1 field'.2 = relaxedHeader field.1 field.2 := by
  simp only [relaxedHeader_eq]
  cases h with
  | recased hletter a b value => rw [relaxedName_recased hletter a b]
  | folded hc name a b => rw [relaxedValue_folded hc a b]
  | respaced hgap hgap' hne hne' name a b => rw [relaxedValue_respaced hgap hgap' hne hne' a b]
  | indented hgap name value => rw [relaxedValue_indented hgap value]
  | padded hgap name value => rw [relaxedValue_padded hgap value]

/-! ## The relaxed form read again -/

theorem notMem_relaxedName {name : List Char} (h : ':' ∉ name) : ':' ∉ relaxedName name := by
  intro hcolon
  rcases List.mem_map.1 hcolon with ⟨c, hc, hlower⟩
  have hsame : c = ':' := by
    by_cases hascii : c.toNat < 128
    · exact Octets.forall_ascii (P := fun c => c.toLower = ':' → c = ':') (by decide) hascii hlower
    · rwa [toLower_of_not_ascii hascii] at hlower
  subst hsame
  exact h (strip_subset isWhite name hc)

/-- The first colon parts a text in one way only. -/
theorem eq_of_append_colon {a a' b b' : List Char} (ha : ':' ∉ a) (ha' : ':' ∉ a')
    (h : a ++ ':' :: b = a' ++ ':' :: b') : a = a' ∧ b = b' := by
  induction a generalizing a' with
  | nil =>
    cases a' with
    | nil => exact ⟨rfl, (List.cons.inj h).2⟩
    | cons c a' =>
      have hc : ':' = c := (List.cons.inj h).1
      exact absurd (hc ▸ List.mem_cons_self) ha'
  | cons c a ih =>
    cases a' with
    | nil =>
      have hc : c = ':' := (List.cons.inj h).1
      exact absurd (hc ▸ List.mem_cons_self) ha
    | cons d a' =>
      rcases List.cons.inj h with ⟨rfl, hrest⟩
      have hparts := ih (fun hmem => ha (List.mem_cons_of_mem c hmem))
        (fun hmem => ha' (List.mem_cons_of_mem c hmem)) hrest
      exact ⟨congrArg (c :: ·) hparts.1, hparts.2⟩

/-- Whatever a transport changes, the relaxed form of a field stays the same. The name and the
value in it have it for their own relaxed form, and a reader who cuts at the first colon gets
these, unless there was a colon in the name. -/
theorem relaxedHeader_absorbs (name value : List Char) :
    relaxedHeader name value = relaxedName name ++ ':' :: relaxedValue value ∧
      relaxedHeader (relaxedName name) (relaxedValue value) = relaxedHeader name value ∧
      (':' ∉ name → ∀ name' value', ':' ∉ name' →
        relaxedHeader name value = name' ++ ':' :: value' →
        relaxedHeader name' value' = relaxedHeader name value) ∧
      ∀ field, Relation.ReflTransGen Refolded (name, value) field →
        relaxedHeader field.1 field.2 = relaxedHeader name value := by
  have hself : relaxedHeader (relaxedName name) (relaxedValue value) =
      relaxedHeader name value := by
    rw [relaxedHeader_eq, relaxedHeader_eq, relaxedName_relaxedName, relaxedValue_relaxedValue]
  refine ⟨rfl, hself, ?_, ?_⟩
  · intro hname name' value' hname' hcut
    rw [relaxedHeader_eq] at hcut
    rcases eq_of_append_colon (notMem_relaxedName hname) hname' hcut with ⟨rfl, rfl⟩
    exact hself
  · intro field h
    -- By induction on the changes, of which each leaves the relaxed form as it is.
    induction h with
    | refl => rfl
    | tail _ hstep ih => rw [relaxedHeader_refolded hstep, ih]

/-- A subject of two words, changed in each of the five ways. -/
theorem relaxedHeader_absorbs_subject :
    Relation.ReflTransGen Refolded ("Subject".toList, "a b".toList)
        ("SubJect".toList, " a\r\n\t b ".toList) ∧
      relaxedHeader "SubJect".toList " a\r\n\t b ".toList = "subject:a b".toList := by
  have hspace : IsGap [' '] := by decide
  have htab : IsGap ['\t', ' '] := by decide
  have hchanges : Relation.ReflTransGen Refolded ("Subject".toList, "a b".toList)
      ("SubJect".toList, " a\r\n\t b ".toList) :=
    calc
      Relation.ReflTransGen Refolded ("Subject".toList, "a b".toList)
          ("SubJect".toList, "a b".toList) :=
        .single (.recased (c := 'j') (d := 'J') (by decide) ['S', 'u', 'b'] ['e', 'c', 't'] _)
      Relation.ReflTransGen Refolded _ ("SubJect".toList, "a\t b".toList) :=
        .single (.respaced hspace htab (by decide) (by decide) _ ['a'] ['b'])
      Relation.ReflTransGen Refolded _ ("SubJect".toList, "a\r\n\t b".toList) :=
        .single (.folded (c := '\t') (by decide) _ ['a'] [' ', 'b'])
      Relation.ReflTransGen Refolded _ ("SubJect".toList, " a\r\n\t b".toList) :=
        .single (.indented hspace _ _)
      Relation.ReflTransGen Refolded _ ("SubJect".toList, " a\r\n\t b ".toList) :=
        .single (.padded hspace _ _)
  refine ⟨hchanges, ?_⟩
  rw [(relaxedHeader_absorbs _ _).2.2.2 _ hchanges]
  decide

end Outbox.Dkim
