import Mathlib.Data.Bool.AllAny
import Mathlib.Data.List.Basic
import Outbox.Dkim.Signature
import Outbox.Proofs.Base64
import Outbox.Proofs.Mime.Field

/-!
# Outbox.Proofs.Dkim.Tags — reading the field of a signature

The field of a signature is a list of tags (`Signature.pairs`). A reader cuts it at semicolons,
and each tag at its first equals sign.

* `readTags_joinTags` — the tags are read back.
* `emptied_joinTags` — emptying the signature itself in the text of the field leaves the field
  of the signature without its value.
* `written_joinTags` — on writing, the field may be folded but is read as it was.
-/

namespace Outbox.Dkim

open Text

/-- A tag, by its name and value. -/
abbrev Tag := List Char × List Char

/-! ## The reader -/

/-- Reads a tag. -/
def readTag (text : List Char) : Tag :=
  (strip isBlankChar (text.takeWhile (· != '=')), (text.dropWhile (· != '=')).drop 1)

/-- Reads the tags of a field. -/
def readTags (value : List Char) : List Tag := (value.splitOn ';').map readTag

/-- The value of a tag. -/
def tag? (name : String) (value : List Char) : Option (List Char) :=
  ((readTags value).find? fun tag => tag.1 == name.toList).map Prod.snd

/-- The text of a tag, without its value if it is that of the signature itself. -/
def emptiedTag (text : List Char) : List Char :=
  if (readTag text).1 = ['b'] then text.takeWhile (· != '=') ++ ['='] else text

/-- A field with the value of the signature itself taken out. -/
def emptied (value : List Char) : List Char :=
  [';'].intercalate ((value.splitOn ';').map emptiedTag)

/-! ## The writer -/

/-- Writes a tag. -/
def writeTag (tag : Tag) : List Char := tag.1 ++ '=' :: tag.2

/-- Writes tags. -/
def joinTags (tags : List Tag) : List Char := [';', ' '].intercalate (tags.map writeTag)

/-- The tags of a signature. -/
def Signature.pairs (s : Signature) : List Tag :=
  [("a".toList, "rsa-sha256".toList), ("bh".toList, s.bodyHash.toList),
   ("c".toList, "relaxed/relaxed".toList), ("d".toList, s.domain.toList),
   ("h".toList, (":".intercalate s.signedHeaders).toList), ("s".toList, s.selector.toList),
   ("t".toList, s.timestamp.repr.toList), ("v".toList, "1".toList), ("b".toList, s.value.toList)]

theorem toList_render (s : Signature) : s.render.toList = s.tags.toList ++ s.value.toList :=
  String.toList_append

theorem toList_tags (s : Signature) :
    s.tags.toList =
      "a=rsa-sha256; bh=".toList ++ s.bodyHash.toList ++ "; c=relaxed/relaxed; d=".toList
        ++ s.domain.toList ++ "; h=".toList ++ (":".intercalate s.signedHeaders).toList
        ++ "; s=".toList ++ s.selector.toList ++ "; t=".toList ++ s.timestamp.repr.toList
        ++ "; v=1; b=".toList := by
  unfold Signature.tags
  iterate 10 rw [String.toList_append]

theorem render_eq (s : Signature) : s.render.toList = joinTags s.pairs := by
  rw [toList_render, toList_tags]
  simp [joinTags, Signature.pairs, writeTag, List.intercalate]

/-! ## Reading tags back -/

/-- A text without semicolons and white space. -/
def IsTagText (text : List Char) : Prop := ∀ c ∈ text, c ≠ ';' ∧ isAsciiWhite c = false

/-- A tag that is read as it is written. -/
structure IsTag (tag : Tag) : Prop where
  name : tag.1 ≠ [] ∧ ∀ c ∈ tag.1, c ≠ '='
  text : IsTagText (writeTag tag)

theorem isBlankChar_of_isTagText {text : List Char} (h : IsTagText text) :
    ∀ c ∈ text, isBlankChar c = false := by
  intro c hc
  have hwhite := (h c hc).2
  simp only [isAsciiWhite, Bool.or_eq_false_iff] at hwhite
  simp [isBlankChar, hwhite]

theorem IsTag.name_plain {tag : Tag} (h : IsTag tag) : ∀ c ∈ tag.1, isBlankChar c = false :=
  fun c hc => isBlankChar_of_isTagText h.text c (List.mem_append_left _ hc)

theorem takeWhile_writeTag {tag : Tag} (h : IsTag tag) :
    (writeTag tag).takeWhile (· != '=') = tag.1 := by
  have hname : ∀ c ∈ tag.1, (c != '=') = true := fun c hc => by simpa using h.name.2 c hc
  rw [writeTag, List.takeWhile_append_of_pos hname]
  simp

theorem readTag_writeTag {tag : Tag} (h : IsTag tag) : readTag (writeTag tag) = tag := by
  have hname : ∀ c ∈ tag.1, (c != '=') = true := fun c hc => by simpa using h.name.2 c hc
  have hdrop : (writeTag tag).dropWhile (· != '=') = '=' :: tag.2 := by
    rw [writeTag, List.dropWhile_append_of_pos hname]
    simp
  rw [readTag, takeWhile_writeTag h, strip_of_plain h.name_plain, hdrop]
  rfl

/-- A space before a tag does not matter. -/
theorem readTag_space (text : List Char) : readTag (' ' :: text) = readTag text := by
  have hspace : isBlankChar ' ' = true := by decide
  have htake : (' ' :: text).takeWhile (· != '=') = ' ' :: text.takeWhile (· != '=') := by simp
  have hdrop : (' ' :: text).dropWhile (· != '=') = text.dropWhile (· != '=') := by simp
  rw [readTag, readTag, htake, hdrop, strip, strip, List.dropWhile_cons_of_pos hspace]

/-- The pieces between the semicolons. -/
def pieces : List Tag → List (List Char)
  | [] => []
  | tag :: rest => writeTag tag :: rest.map fun tag => ' ' :: writeTag tag

theorem joinTags_singleton (tag : Tag) : joinTags [tag] = writeTag tag := by
  simp [joinTags, List.intercalate]

theorem joinTags_cons_cons (tag next : Tag) (rest : List Tag) :
    joinTags (tag :: next :: rest) = writeTag tag ++ ';' :: ' ' :: joinTags (next :: rest) := by
  simp [joinTags, List.intercalate]

theorem joinTags_eq (tags : List Tag) : joinTags tags = [';'].intercalate (pieces tags) := by
  cases tags with
  | nil => rfl
  | cons tag rest =>
    induction rest generalizing tag with
    | nil => simp [joinTags_singleton, pieces, List.intercalate]
    | cons next rest ih =>
      rw [joinTags_cons_cons, ih next]
      cases rest with
      | nil => simp [pieces, List.intercalate]
      | cons other rest => simp [pieces, List.intercalate]

theorem splitOn_joinTags {tags : List Tag} (hne : tags ≠ []) (h : ∀ tag ∈ tags, IsTag tag) :
    (joinTags tags).splitOn ';' = pieces tags := by
  have hsemicolon : ∀ piece ∈ pieces tags, ';' ∉ piece := by
    intro piece hpiece hmem
    obtain ⟨tag, htag, hin⟩ : ∃ tag ∈ tags, ';' ∈ writeTag tag := by
      cases tags with
      | nil => simp [pieces] at hpiece
      | cons tag rest =>
        rcases List.mem_cons.1 hpiece with rfl | hpiece
        · exact ⟨tag, List.mem_cons_self, hmem⟩
        · obtain ⟨next, hnext, rfl⟩ := List.mem_map.1 hpiece
          refine ⟨next, List.mem_cons_of_mem tag hnext, ?_⟩
          simpa using hmem
    exact ((h tag htag).text ';' hin).1 rfl
  have hpieces : pieces tags ≠ [] := by
    cases tags with
    | nil => exact absurd rfl hne
    | cons tag rest => simp [pieces]
  rw [joinTags_eq, List.splitOn_intercalate ';' hsemicolon hpieces]

theorem readTags_joinTags {tags : List Tag} (hne : tags ≠ []) (h : ∀ tag ∈ tags, IsTag tag) :
    readTags (joinTags tags) = tags := by
  rw [readTags, splitOn_joinTags hne h]
  cases tags with
  | nil => rfl
  | cons tag rest =>
    rw [pieces, List.map_cons, List.map_map, readTag_writeTag (h tag List.mem_cons_self)]
    congr 1
    have hread : ∀ next ∈ rest, (readTag ∘ fun tag => ' ' :: writeTag tag) next = next := by
      intro next hnext
      rw [Function.comp_apply, readTag_space,
        readTag_writeTag (h next (List.mem_cons_of_mem tag hnext))]
    rw [List.map_congr_left hread, List.map_id']

/-- A tag without its value, if it is that of the signature itself. -/
def emptyTag (tag : Tag) : Tag := if tag.1 = ['b'] then (tag.1, []) else tag

theorem emptiedTag_writeTag {tag : Tag} (h : IsTag tag) :
    emptiedTag (writeTag tag) = writeTag (emptyTag tag) := by
  simp only [emptiedTag, readTag_writeTag h, takeWhile_writeTag h, emptyTag]
  split
  · simp [writeTag]
  · rfl

theorem emptiedTag_space (text : List Char) :
    emptiedTag (' ' :: text) = ' ' :: emptiedTag text := by
  have htake : (' ' :: text).takeWhile (· != '=') = ' ' :: text.takeWhile (· != '=') := by simp
  simp only [emptiedTag, readTag_space, htake]
  split
  · rfl
  · rfl

theorem map_emptiedTag_pieces {tags : List Tag} (h : ∀ tag ∈ tags, IsTag tag) :
    (pieces tags).map emptiedTag = pieces (tags.map emptyTag) := by
  cases tags with
  | nil => rfl
  | cons tag rest =>
    have hrest : ∀ next ∈ rest, (emptiedTag ∘ fun tag => ' ' :: writeTag tag) next =
        ((fun tag => ' ' :: writeTag tag) ∘ emptyTag) next := by
      intro next hnext
      rw [Function.comp_apply, Function.comp_apply, emptiedTag_space,
        emptiedTag_writeTag (h next (List.mem_cons_of_mem tag hnext))]
    rw [pieces, List.map_cons, emptiedTag_writeTag (h tag List.mem_cons_self), List.map_map,
      List.map_congr_left hrest, List.map_cons, pieces, List.map_map]

theorem emptied_joinTags {tags : List Tag} (hne : tags ≠ []) (h : ∀ tag ∈ tags, IsTag tag) :
    emptied (joinTags tags) = joinTags (tags.map emptyTag) := by
  rw [emptied, splitOn_joinTags hne h, map_emptiedTag_pieces h, joinTags_eq]

/-- Tags are words with single spaces between them. -/
theorem exists_words_joinTags {tags : List Tag} (h : ∀ tag ∈ tags, IsTag tag) :
    ∃ ws, joinTags tags = [' '].intercalate ws ∧
      ∀ w ∈ ws, w ≠ [] ∧ ∀ c ∈ w, isAsciiWhite c = false := by
  cases tags with
  | nil => exact ⟨[], rfl, by simp⟩
  | cons tag rest =>
    -- Each tag but the last is a word with the semicolon after it.
    induction rest generalizing tag with
    | nil =>
      refine ⟨[writeTag tag], by simp [joinTags_singleton, List.intercalate], fun w hw => ?_⟩
      rw [List.mem_singleton.1 hw]
      exact ⟨by simp [writeTag], fun c hc => ((h tag List.mem_cons_self).text c hc).2⟩
    | cons next rest ih =>
      obtain ⟨ws, hws, hwords⟩ := ih next fun x hx => h x (List.mem_cons_of_mem tag hx)
      have hne : ws ≠ [] := by
        rintro rfl
        cases rest <;> simp [joinTags, List.intercalate, writeTag] at hws
      refine ⟨(writeTag tag ++ [';']) :: ws, ?_, fun w hw => ?_⟩
      · rw [joinTags_cons_cons, hws, Mime.intercalate_cons, Mime.spaced_eq hne]
        simp
      · rcases List.mem_cons.1 hw with rfl | hw
        · refine ⟨by simp, fun c hc => ?_⟩
          rcases List.mem_append.1 hc with hc | hc
          · exact ((h tag List.mem_cons_self).text c hc).2
          · rw [List.mem_singleton.1 hc]
            decide
        · exact hwords w hw

theorem written_joinTags {tags : List Tag} (h : ∀ tag ∈ tags, IsTag tag) (name : List Char) :
    Mime.written name (joinTags tags) = joinTags tags := by
  obtain ⟨ws, hws, hwords⟩ := exists_words_joinTags h
  rw [hws, Mime.written_intercalate name hwords]

/-! ## The tags of a signature -/

/-- A signature whose parts can stand in tags. -/
structure Signature.IsPlain (s : Signature) : Prop where
  domain : IsTagText s.domain.toList
  selector : IsTagText s.selector.toList
  value : IsTagText s.value.toList
  bodyHash : IsTagText s.bodyHash.toList
  names : ∀ name ∈ s.signedHeaders, ∀ c ∈ name.toList, c ≠ ':' ∧ c ≠ ';' ∧ isAsciiWhite c = false

theorem isTagText_append {a b : List Char} (ha : IsTagText a) (hb : IsTagText b) :
    IsTagText (a ++ b) := by
  intro c hc
  rcases List.mem_append.1 hc with hc | hc
  · exact ha c hc
  · exact hb c hc

theorem isTagText_repr (n : Nat) : IsTagText n.repr.toList := by
  intro c hc
  rw [Nat.toList_repr] at hc
  have hdigit := Nat.isDigit_of_mem_toDigits (by decide) (by decide) hc
  constructor
  · rintro rfl
    exact absurd hdigit (by decide)
  · -- None of the five characters of white space is a digit.
    cases hwhite : isAsciiWhite c with
    | false => rfl
    | true =>
      simp only [isAsciiWhite, Bool.or_eq_true, beq_iff_eq] at hwhite
      rcases hwhite with (((rfl | rfl) | rfl) | rfl) | rfl <;> exact absurd hdigit (by decide)

theorem isTagText_encodeText (octets : Octets) : IsTagText (Base64.encodeText octets) := by
  have hall : ∀ s : UInt8, s = Base64.pad ∨ (Base64.value? s).isSome = true →
      Char.ofNat s.toNat ≠ ';' ∧ isAsciiWhite (Char.ofNat s.toNat) = false :=
    Base64.forall_octet (by decide)
  exact Base64.forall_mem_encodeText (P := fun c => c ≠ ';' ∧ isAsciiWhite c = false) hall octets

theorem toList_names (s : Signature) : (":".intercalate s.signedHeaders).toList =
    [':'].intercalate (s.signedHeaders.map String.toList) := String.toList_intercalate

theorem isTagText_names {s : Signature} (h : s.IsPlain) :
    IsTagText (":".intercalate s.signedHeaders).toList := by
  intro c hc
  rw [toList_names] at hc
  rcases mem_intercalate hc with hcolon | ⟨text, htext, hct⟩
  · rw [List.mem_singleton.1 hcolon]
    decide
  · obtain ⟨name, hname, rfl⟩ := List.mem_map.1 htext
    exact (h.names name hname c hct).2

theorem isTag_of_isTagText {name value : List Char}
    (hname : (name != [] && name.all fun c => c != '=' && (c != ';' && !isAsciiWhite c)) = true)
    (hvalue : IsTagText value) : IsTag (name, value) := by
  simp only [Bool.and_eq_true, bne_iff_ne, List.all_eq_true, Bool.not_eq_true'] at hname
  refine ⟨⟨hname.1, fun c hc => (hname.2 c hc).1⟩, ?_⟩
  have hequals : IsTagText ['='] := by
    intro c hc
    rw [List.mem_singleton.1 hc]
    decide
  have hstart : IsTagText name := fun c hc => (hname.2 c hc).2
  have htext : writeTag (name, value) = name ++ ['='] ++ value := by simp [writeTag]
  rw [htext]
  exact isTagText_append (isTagText_append hstart hequals) hvalue

theorem isTag_of_mem_pairs {s : Signature} (h : s.IsPlain) : ∀ tag ∈ s.pairs, IsTag tag := by
  have halgorithm : IsTagText "rsa-sha256".toList := List.all_iff_forall_prop.1 (by decide)
  have hrelaxed : IsTagText "relaxed/relaxed".toList := List.all_iff_forall_prop.1 (by decide)
  have hversion : IsTagText "1".toList := List.all_iff_forall_prop.1 (by decide)
  intro tag htag
  simp only [Signature.pairs, List.mem_cons, List.not_mem_nil, or_false] at htag
  rcases htag with rfl | rfl | rfl | rfl | rfl | rfl | rfl | rfl | rfl
  · exact isTag_of_isTagText (by decide) halgorithm
  · exact isTag_of_isTagText (by decide) h.bodyHash
  · exact isTag_of_isTagText (by decide) hrelaxed
  · exact isTag_of_isTagText (by decide) h.domain
  · exact isTag_of_isTagText (by decide) (isTagText_names h)
  · exact isTag_of_isTagText (by decide) h.selector
  · exact isTag_of_isTagText (by decide) (isTagText_repr s.timestamp)
  · exact isTag_of_isTagText (by decide) hversion
  · exact isTag_of_isTagText (by decide) h.value

theorem pairs_ne_nil (s : Signature) : s.pairs ≠ [] := List.cons_ne_nil _ _

/-- The tags of a signature are read back from its field. -/
theorem readTags_render {s : Signature} (h : s.IsPlain) : readTags s.render.toList = s.pairs := by
  rw [render_eq, readTags_joinTags (pairs_ne_nil s) (isTag_of_mem_pairs h)]

theorem tag?_render {s : Signature} (h : s.IsPlain) :
    tag? "h" s.render.toList = some (":".intercalate s.signedHeaders).toList ∧
      tag? "bh" s.render.toList = some s.bodyHash.toList ∧
      tag? "b" s.render.toList = some s.value.toList := by
  simp [tag?, readTags_render h, Signature.pairs]

/-- The signed names are read back, or a single empty one if there are none. -/
theorem splitOn_names {s : Signature} (h : s.IsPlain) (hne : s.signedHeaders ≠ []) :
    (":".intercalate s.signedHeaders).toList.splitOn ':' = s.signedHeaders.map String.toList := by
  have hcolon : ∀ text ∈ s.signedHeaders.map String.toList, ':' ∉ text := by
    intro text htext hmem
    obtain ⟨name, hname, rfl⟩ := List.mem_map.1 htext
    exact (h.names name hname ':' hmem).1 rfl
  rw [toList_names, List.splitOn_intercalate ':' hcolon (by simpa using hne)]

theorem emptied_render {s : Signature} (h : s.IsPlain) :
    emptied s.render.toList = { s with value := "" }.render.toList := by
  have hpairs : s.pairs.map emptyTag = { s with value := "" }.pairs := by
    simp [Signature.pairs, emptyTag]
  rw [render_eq, render_eq, emptied_joinTags (pairs_ne_nil s) (isTag_of_mem_pairs h), hpairs]

theorem written_render {s : Signature} (h : s.IsPlain) (name : List Char) :
    Mime.written name s.render.toList = s.render.toList := by
  rw [render_eq, written_joinTags (isTag_of_mem_pairs h)]

end Outbox.Dkim
