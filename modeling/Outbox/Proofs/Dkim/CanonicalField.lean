import Outbox.Proofs.Dkim.CanonicalBody
import Outbox.Proofs.Dkim.Refolding
import Outbox.Proofs.Mailer.Recipients
import Outbox.Proofs.Mime.FinalHeader
import Outbox.Proofs.Mime.Unfolding

/-!
# Outbox.Proofs.Dkim.CanonicalField — the fields that a verifier hashes

RFC 6376 section 3.4.2 makes the canonical form of a field from its octets: it is unfolded, its
name is put in lower case, and its spaces and tabs are reduced. `canonicalFields` is that for a
block of fields. The relaxed form that is signed is made from the characters of a field as it is
stored, and trimmed of all white space, of which blanks are only a part.

* `canonicalLine_ofChars` — blanks and line ends are ASCII, so octets and characters give the same.
* `squeeze_strip_eq_iff` — trimming gives what the RFC gives exactly if there is no other white
  space at the ends once the blanks are gone.
* `canonicalFields_written_iff` — exactly which fields are signed in the form that a verifier
  gets from what is written.
* `readAlike_mailbox_iff`, `readAlike_iff_of_bareEnds` — what that means for a mailbox that can be
  sent from, and for a value without white space around it.
* `relaxedHeader_canonical_iff` — all of this, for any field and for the sender of a message.
-/

namespace Outbox.Dkim

open Octets Text

/-! ## The canonical form of the RFC -/

/-- The octet after the name of a field. -/
abbrev colon : UInt8 := 58

/-- The canonical form of a field from the line that it is unfolded to: the name in lower case,
without blanks at its end, and the value without blanks at its ends and with one space in place of
every other run of them. -/
def canonicalLine (line : Octets) : Octets :=
  let name := line.takeWhile (· != colon)
  let value := (line.dropWhile (· != colon)).drop 1
  (name.rdropWhile isBlankOctet).map UInt8.toAsciiLower ++
    colon :: reduceBlanks (value.dropWhile isBlankOctet)

/-- The canonical form of fields in RFC 6376 section 3.4.2. The line end of a field stays. -/
def canonicalFields (block : Octets) : Octets :=
  unlines (((crlfLines (Mime.unfoldOctets block)).dropLast).map canonicalLine)

/-- A name of printable ASCII characters but the colon. -/
def IsPrintableName (name : List Char) : Prop :=
  ∀ c ∈ name, 33 ≤ c.toNat ∧ c.toNat ≤ 126 ∧ c ≠ ':'

instance (name : List Char) : Decidable (IsPrintableName name) := List.decidableBAll _ name

/-! ## Octets and characters -/

/-- A blank is one octet, which is a blank, and no other character has such an octet. -/
theorem utf8EncodeChar_blank (c : Char) :
    (isBlankChar c = true ∧ String.utf8EncodeChar c = [UInt8.ofNat c.toNat] ∧
        isBlankOctet (UInt8.ofNat c.toNat) = true) ∨
      (isBlankChar c = false ∧ ∀ b ∈ String.utf8EncodeChar c, isBlankOctet b = false) := by
  by_cases hascii : c.toNat < 128
  · have hsame : isBlankOctet (UInt8.ofNat c.toNat) = isBlankChar c :=
      forall_ascii (P := fun c => isBlankOctet (UInt8.ofNat c.toNat) = isBlankChar c)
        (by decide) hascii
    rw [utf8EncodeChar_of_ascii hascii]
    cases hc : isBlankChar c with
    | true =>
      left
      exact ⟨rfl, rfl, hsame.trans hc⟩
    | false =>
      right
      refine ⟨rfl, ?_⟩
      intro b hb
      rw [List.mem_singleton.1 hb]
      exact hsame.trans hc
  · right
    constructor
    · cases hc : isBlankChar c with
      | false => rfl
      | true =>
        simp only [isBlankChar, Bool.or_eq_true, beq_iff_eq] at hc
        rcases hc with rfl | rfl
        · exact absurd (by decide) hascii
        · exact absurd (by decide) hascii
    · intro b hb
      have hlarge : 128 ≤ b.toNat := le_of_mem_utf8EncodeChar hascii hb
      simp only [isBlankOctet, Bool.or_eq_false_iff, beq_eq_false_iff_ne]
      constructor
      · rintro rfl
        exact absurd hlarge (by decide)
      · rintro rfl
        exact absurd hlarge (by decide)

theorem dropWhile_ofChars (text : List Char) :
    (ofChars text).dropWhile isBlankOctet = ofChars (text.dropWhile isBlankChar) := by
  induction text with
  | nil => rfl
  | cons c rest ih =>
    rw [ofChars_cons]
    rcases utf8EncodeChar_blank c with ⟨hc, hoctets, hblank⟩ | ⟨hc, hother⟩
    · rw [hoctets, List.singleton_append, List.dropWhile_cons_of_pos hblank, ih,
        List.dropWhile_cons_of_pos hc]
    · rw [List.dropWhile_cons_of_neg (by simp [hc]), ofChars_cons]
      obtain ⟨b, more, hoctets⟩ := List.exists_cons_of_ne_nil (String.utf8EncodeChar_ne_nil (c := c))
      rw [hoctets] at hother ⊢
      exact List.dropWhile_cons_of_neg (by simp [hother b List.mem_cons_self])

theorem rdropWhile_ofChars (text : List Char) :
    (ofChars text).rdropWhile isBlankOctet = ofChars (text.rdropWhile isBlankChar) := by
  induction text using List.reverseRecOn with
  | nil => rfl
  | append_singleton text c ih =>
    have hlast : ofChars (text ++ [c]) = ofChars text ++ String.utf8EncodeChar c := by
      rw [ofChars_append, ofChars_cons, ofChars_nil, List.append_nil]
    rcases utf8EncodeChar_blank c with ⟨hc, hoctets, hblank⟩ | ⟨hc, hother⟩
    · rw [hlast, hoctets, List.rdropWhile_concat_pos _ _ _ hblank, ih,
        List.rdropWhile_concat_pos _ _ _ hc]
    · rw [List.rdropWhile_concat_neg _ _ _ (by simp [hc]), hlast]
      rcases List.eq_nil_or_concat (String.utf8EncodeChar c) with hnil | ⟨init, b, hoctets⟩
      · exact absurd hnil String.utf8EncodeChar_ne_nil
      · rw [List.concat_eq_append] at hoctets
        rw [hoctets] at hother ⊢
        rw [← List.append_assoc]
        exact List.rdropWhile_concat_neg _ _ _ (by simp [hother b (by simp)])

/-- Octets that are no blanks stay, and what comes after them is not after a blank. -/
theorem squeeze_others {block : Octets} (h : ∀ b ∈ block, isBlankOctet b = false) (hne : block ≠ [])
    (after : Bool) (rest : Octets) :
    squeeze isBlankOctet space after (block ++ rest) =
      block ++ squeeze isBlankOctet space false rest := by
  induction block generalizing after with
  | nil => exact absurd rfl hne
  | cons b block ih =>
    rw [List.cons_append, squeeze_other (h b List.mem_cons_self), List.cons_append]
    cases block with
    | nil => rfl
    | cons d block =>
      have hmore : ∀ x ∈ d :: block, isBlankOctet x = false :=
        fun x hx => h x (List.mem_cons_of_mem b hx)
      rw [ih hmore (List.cons_ne_nil d block) false]

theorem squeeze_ofChars (after : Bool) (text : List Char) :
    squeeze isBlankOctet space after (ofChars text) =
      ofChars (squeeze isBlankChar ' ' after text) := by
  induction text generalizing after with
  | nil => rfl
  | cons c rest ih =>
    rw [ofChars_cons]
    rcases utf8EncodeChar_blank c with ⟨hc, hoctets, hblank⟩ | ⟨hc, hother⟩
    · rw [hoctets, List.singleton_append, squeeze_blank hblank, squeeze_blank hc, ih true]
      cases after with
      | true => rfl
      | false => rfl
    · rw [squeeze_others hother String.utf8EncodeChar_ne_nil, squeeze_other hc, ofChars_cons,
        ih false]

theorem reduceBlanks_ofChars (text : List Char) :
    reduceBlanks ((ofChars text).dropWhile isBlankOctet) =
      ofChars (squeeze isBlankChar ' ' false (strip isBlankChar text)) := by
  rw [dropWhile_ofChars, reduceBlanks, rdropWhile_ofChars, oneSpace_eq_squeeze, squeeze_ofChars,
    strip_eq]

theorem map_toAsciiLower_ofChars {text : List Char} (h : ∀ c ∈ text, c.toNat < 128) :
    (ofChars text).map UInt8.toAsciiLower = ofChars (lower text) := by
  induction text with
  | nil => rfl
  | cons c rest ih =>
    have hc := h c List.mem_cons_self
    have hlower : c.toLower.toNat < 128 ∧
        UInt8.toAsciiLower (UInt8.ofNat c.toNat) = UInt8.ofNat c.toLower.toNat :=
      forall_ascii (P := fun c => c.toLower.toNat < 128 ∧
        UInt8.toAsciiLower (UInt8.ofNat c.toNat) = UInt8.ofNat c.toLower.toNat) (by decide) hc
    have hcons : lower (c :: rest) = c.toLower :: lower rest := rfl
    rw [ofChars_cons_of_ascii hc, List.map_cons, hlower.2,
      ih fun x hx => h x (List.mem_cons_of_mem c hx), hcons, ofChars_cons_of_ascii hlower.1]

/-! ## A field on one line -/

/-- What is known of a character of a name. -/
theorem IsPrintableName.plain {name : List Char} (h : IsPrintableName name) {c : Char}
    (hc : c ∈ name) : c.toNat < 128 ∧ isWhite c = false ∧ isBlankChar c = false ∧
      isLineBreak c = false ∧ c ≠ ':' := by
  rcases h c hc with ⟨hlow, hhigh, hcolon⟩
  have hascii : c.toNat < 128 := by omega
  have hplain : 33 ≤ c.toNat → c.toNat ≤ 126 → isWhite c = false ∧ isBlankChar c = false ∧
      isLineBreak c = false :=
    forall_ascii (P := fun c => 33 ≤ c.toNat → c.toNat ≤ 126 → isWhite c = false ∧
      isBlankChar c = false ∧ isLineBreak c = false) (by decide) hascii
  rcases hplain hlow hhigh with ⟨hwhite, hblank, hbreak⟩
  exact ⟨hascii, hwhite, hblank, hbreak, hcolon⟩

theorem IsPrintableName.trim_eq {name : List Char} (h : IsPrintableName name) :
    trim name = name :=
  strip_of_plain fun _ hc => (h.plain hc).2.1

theorem unfoldBlanks_of_plain {value : List Char} (h : ∀ c ∈ value, isLineBreak c = false) :
    unfoldBlanks value = value := by
  induction value with
  | nil => rfl
  | cons c rest ih =>
    have hc : c ≠ '\r' := by
      rintro rfl
      exact absurd (h '\r' List.mem_cons_self) (by decide)
    rw [unfoldBlanks, ih fun x hx => h x (List.mem_cons_of_mem c hx)]
    · intro more hreturn
      exact absurd hreturn hc
    · intro more hreturn
      exact absurd hreturn hc

theorem canonicalField_eq {name : List Char} (hname : IsPrintableName name) {value : List Char}
    (hvalue : ∀ c ∈ value, isLineBreak c = false) :
    canonicalField name value =
      lower name ++ ':' :: squeeze isBlankChar ' ' false (strip isBlankChar value) := by
  have hplain : strip isBlankChar name = name :=
    strip_of_plain fun _ hc => (hname.plain hc).2.2.1
  rw [canonicalField, unfoldBlanks_of_plain hvalue, hplain]

/-- The canonical form of a line is that of the name and the value on it. -/
theorem canonicalLine_ofChars {name : List Char} (hname : IsPrintableName name)
    {value : List Char} (hvalue : ∀ c ∈ value, isLineBreak c = false) :
    canonicalLine (ofChars (name ++ ':' :: value)) = ofChars (canonicalField name value) := by
  have hcolon : ∀ b ∈ ofChars name, (b != colon) = true := by
    intro b hb
    rw [bne_iff_ne]
    rintro rfl
    exact (hname.plain (mem_of_mem_ofChars (c := ':') (by decide) hb)).2.2.2.2 rfl
  have hline : ofChars (name ++ ':' :: value) = ofChars name ++ colon :: ofChars value := by
    rw [ofChars_append, ofChars_cons_of_ascii (by decide)]
    rfl
  have htake : (ofChars name ++ colon :: ofChars value).takeWhile (· != colon) = ofChars name := by
    rw [List.takeWhile_append_of_pos hcolon]
    simp
  have hdrop : (ofChars name ++ colon :: ofChars value).dropWhile (· != colon) =
      colon :: ofChars value := by
    rw [List.dropWhile_append_of_pos hcolon]
    simp
  -- There is no blank at the end of the name.
  have hblank : (ofChars name).rdropWhile isBlankOctet = ofChars name := by
    have hlast : name.rdropWhile isBlankChar = name := by
      rw [List.rdropWhile_eq_self_iff]
      intro hne
      simp [(hname.plain (List.getLast_mem hne)).2.2.1]
    rw [rdropWhile_ofChars, hlast]
  rw [canonicalField_eq hname hvalue, canonicalLine]
  rw [hline, htake, hdrop, hblank, map_toAsciiLower_ofChars fun c hc => (hname.plain hc).1,
    List.drop_one, List.tail_cons, reduceBlanks_ofChars, ofChars_append,
    ofChars_cons_of_ascii (c := ':') (by decide)]
  rfl

/-! ## White space at the ends of a value -/

/-- Where a text does not begin and end with blanks, reducing them leaves its ends as they are. -/
theorem bareEnds_squeeze_iff {p : Char → Bool} {text : List Char} (h : BareEnds isBlankChar text) :
    BareEnds p (squeeze isBlankChar ' ' false text) ↔ BareEnds p text := by
  have hfirst : (squeeze isBlankChar ' ' false text).head? = text.head? := by
    cases text with
    | nil => rfl
    | cons c rest =>
      rw [squeeze_other (h.first c rfl)]
      rfl
  have hlast : (squeeze isBlankChar ' ' false text).getLast? = text.getLast? := by
    cases hc : text.getLast? with
    | none =>
      rw [List.getLast?_eq_none_iff] at hc
      rw [hc]
      rfl
    | some c => exact getLast?_squeeze hc (h.last c hc) false
  constructor
  · rintro ⟨hp, hp'⟩
    rw [hfirst] at hp
    rw [hlast] at hp'
    exact ⟨hp, hp'⟩
  · rintro ⟨hp, hp'⟩
    rw [← hfirst] at hp
    rw [← hlast] at hp'
    exact ⟨hp, hp'⟩

/-- A text that is reduced to the same as a trimmed one is trimmed, once its blanks are gone. -/
theorem bareEnds_of_squeeze_eq {value text : List Char}
    (h : squeeze isBlankChar ' ' false (trim text) =
      squeeze isBlankChar ' ' false (strip isBlankChar value)) :
    BareEnds isWhite (strip isBlankChar value) := by
  have htrim : BareEnds isWhite (trim text) := bareEnds_strip isWhite text
  have hblank := htrim.of_imp fun _ => isWhite_of_isBlankChar
  rw [← bareEnds_squeeze_iff (bareEnds_strip isBlankChar value), ← h, bareEnds_squeeze_iff hblank]
  exact htrim

theorem trim_of_bareEnds {value : List Char} (h : BareEnds isWhite (strip isBlankChar value)) :
    trim value = strip isBlankChar value := by
  have hstrip : trim (strip isBlankChar value) = trim value :=
    strip_strip_of_imp (fun _ => isWhite_of_isBlankChar) value
  rw [← hstrip]
  exact strip_of_bareEnds h

/-- Trimming gives what the RFC gives exactly if no other white space is at the ends. -/
theorem squeeze_strip_eq_iff (value : List Char) :
    squeeze isBlankChar ' ' false (trim value) =
        squeeze isBlankChar ' ' false (strip isBlankChar value) ↔
      BareEnds isWhite (strip isBlankChar value) := by
  constructor
  · exact bareEnds_of_squeeze_eq
  · intro h
    rw [trim_of_bareEnds h]

/-! ## A field as it is written -/

/-- A field for which a verifier gets from what is written what was signed. -/
structure ReadAlike (name value : List Char) : Prop where
  /-- What is signed holds no carriage return, which would not be written. -/
  noReturn : '\r' ∉ trim (unfold value)
  /-- It holds no form feed if it is written word by word, as that parts words. -/
  noFeed : Mime.isShort name value = true ∨ '\x0c' ∉ trim (unfold value)
  /-- What is written has no white space but blanks at its ends. -/
  ends : BareEnds isWhite (strip isBlankChar (Mime.written name value))

theorem onOneLine_unfold (value : List Char) :
    Mime.onOneLine (unfold value) = Mime.onOneLine value := by
  induction value using unfold.induct with
  | case1 rest ih => exact ih
  | case2 rest ih => exact ih
  | case3 c rest hend hfeed ih =>
    rw [Mime.onOneLine, Mime.onOneLine] at ih
    rw [unfold_other hend hfeed, Mime.onOneLine, Mime.onOneLine, List.filter_cons,
      List.filter_cons, ih]
  | case4 => rfl

/-- The line breaks that are not written stand where white space is trimmed. -/
theorem trim_onOneLine {value : List Char} (h : '\r' ∉ trim (unfold value)) :
    trim (Mime.onOneLine value) = trim (unfold value) := by
  rw [← onOneLine_unfold value]
  apply strip_filter
  intro c hc
  simp only [isLineBreak, Bool.or_eq_false_iff, beq_eq_false_iff_ne]
  constructor
  · rintro rfl
    exact h hc
  · rintro rfl
    exact notMem_unfold value (strip_subset isWhite _ hc)

/-- A space in place of every form feed. -/
def feedToSpace (c : Char) : Char := if c = '\x0c' then ' ' else c

theorem feedToSpace_of_ne {c : Char} (h : c ≠ '\x0c') : feedToSpace c = c := if_neg h

theorem feedToSpace_class (c : Char) : isWhite (feedToSpace c) = isWhite c ∧
    isAsciiWhite (feedToSpace c) = isAsciiWhite c := by
  by_cases hc : c = '\x0c'
  · subst hc
    decide
  · rw [feedToSpace_of_ne hc]
    exact ⟨rfl, rfl⟩

/-- A form feed parts words like a space. -/
theorem wordsFrom_feedToSpace (current text : List Char) :
    Mime.wordsFrom current (text.map feedToSpace) = Mime.wordsFrom current text := by
  induction text generalizing current with
  | nil => rfl
  | cons c rest ih =>
    rw [List.map_cons, Mime.wordsFrom, Mime.wordsFrom, (feedToSpace_class c).2, ih, ih]
    cases hwhite : isAsciiWhite c with
    | true => rfl
    | false =>
      have hc : c ≠ '\x0c' := by
        rintro rfl
        exact absurd hwhite (by decide)
      rw [feedToSpace_of_ne hc]

/-- Words with single spaces are the text with its blanks reduced, if form feeds are only among the
white space around it. -/
theorem trim_intercalate_words_of_trim {text : List Char}
    (hbreak : ∀ c ∈ text, isLineBreak c = false) (hfeed : '\x0c' ∉ trim text) :
    trim ([' '].intercalate (Mime.words text)) = squeeze isBlankChar ' ' false (trim text) := by
  have hplain : ∀ c ∈ text.map feedToSpace, isLineBreak c = false ∧ c ≠ '\x0c' := by
    intro c hc
    rcases List.mem_map.1 hc with ⟨d, hd, rfl⟩
    by_cases hdfeed : d = '\x0c'
    · subst hdfeed
      decide
    · rw [feedToSpace_of_ne hdfeed]
      exact ⟨hbreak d hd, hdfeed⟩
  have htrim : trim (text.map feedToSpace) = trim text := by
    have hmap : trim (text.map feedToSpace) = (trim text).map feedToSpace :=
      strip_map (fun c => (feedToSpace_class c).1) text
    rw [hmap, List.map_congr_left (g := id), List.map_id]
    intro c hc
    apply feedToSpace_of_ne
    rintro rfl
    exact hfeed hc
  have hwords := trim_intercalate_words hplain
  rw [htrim, Mime.words, wordsFrom_feedToSpace] at hwords
  exact hwords

/-- What is written of a value has the relaxed form of the value. -/
theorem squeeze_trim_written {name value : List Char} (hreturn : '\r' ∉ trim (unfold value))
    (hfeed : Mime.isShort name value = true ∨ '\x0c' ∉ trim (unfold value)) :
    squeeze isBlankChar ' ' false (trim (Mime.written name value)) =
      squeeze isBlankChar ' ' false (trim (unfold value)) := by
  have htrim := trim_onOneLine hreturn
  unfold Mime.written
  split
  · rw [htrim]
  · rename_i hlong
    rcases hfeed with hshort | hfeed
    · exact absurd hshort hlong
    · rw [trim_intercalate_words_of_trim (Mime.onOneLine_plain value) (by rwa [htrim]), htrim]
      exact squeeze_squeeze (by decide) false _

/-- A character other than a space is still there when blanks are reduced, if it is no blank. -/
theorem mem_squeeze_of_mem {c : Char} (hc : isBlankChar c = false) {text : List Char}
    (h : c ∈ text) (after : Bool) : c ∈ squeeze isBlankChar ' ' after text := by
  rcases List.append_of_mem h with ⟨before, rest, rfl⟩
  rw [squeeze_append_cons hc]
  exact List.mem_append_right _ List.mem_cons_self

/-- What is signed of a value is what a verifier gets from what is written, exactly if the field is
read alike. -/
theorem squeeze_written_iff (name value : List Char) :
    squeeze isBlankChar ' ' false (strip isBlankChar (Mime.written name value)) =
        squeeze isBlankChar ' ' false (trim (unfold value)) ↔
      ReadAlike name value := by
  constructor
  · intro h
    -- A character that is signed and no blank has been written.
    have hwritten : ∀ c ∈ trim (unfold value), isBlankChar c = false →
        c ∈ Mime.written name value := by
      intro c hc hblank
      have hmem := mem_squeeze_of_mem hblank hc false
      rw [← h] at hmem
      rcases mem_squeeze hmem with rfl | hmem
      · exact absurd hblank (by decide)
      · exact strip_subset isBlankChar _ hmem
    constructor
    case noReturn =>
      intro hreturn
      have hmem := hwritten '\r' hreturn (by decide)
      exact absurd (Mime.written_plain name value '\r' hmem) (by decide)
    case noFeed =>
      cases hshort : Mime.isShort name value with
      | true => exact Or.inl rfl
      | false =>
        right
        intro hfeed
        have hmem := hwritten '\x0c' hfeed (by decide)
        rw [Mime.written, if_neg (by simp [hshort])] at hmem
        rcases mem_intercalate hmem with hspace | ⟨word, hword, hmem⟩
        · exact absurd (List.mem_singleton.1 hspace) (by decide)
        · exact absurd ((Mime.mem_words hword).2 '\x0c' hmem).1 (by decide)
    case ends => exact bareEnds_of_squeeze_eq h.symm
  · rintro ⟨hreturn, hfeed, hends⟩
    rw [← trim_of_bareEnds hends]
    exact squeeze_trim_written hreturn hfeed

/-! ## What a verifier gets -/

theorem strip_dropSpace (text : List Char) :
    strip isBlankChar (Mime.dropSpace text) = strip isBlankChar text := by
  have hspace : ∀ c ∈ [' '], isBlankChar c = true := by
    intro c hc
    rw [List.mem_singleton.1 hc]
    decide
  unfold Mime.dropSpace
  split
  · exact (strip_append_left hspace _).symm
  · rfl

/-- A verifier gets from a written field its name and what is written of its value. -/
theorem canonicalFields_fieldOctets {name : String} (hname : IsPrintableName name.toList)
    (value : String) :
    canonicalFields (Mime.fieldOctets name value) =
      ofChars (lower name.toList ++ ':' :: squeeze isBlankChar ' ' false
        (strip isBlankChar (Mime.written name.toList value.toList))) ++ crlf := by
  have hbreak : ∀ c ∈ name.toList, isLineBreak c = false := fun _ hc => (hname.plain hc).2.2.2.1
  have hplain := Mime.afterColon_plain name.toList value.toList
  have hline : IsLine (ofChars (name.toList ++ ':' :: Mime.afterColon name.toList value.toList)) := by
    apply Mime.isLine_ofChars
    intro c hc
    rcases List.mem_append.1 hc with hc | hc
    · exact hbreak c hc
    · rcases List.mem_cons.1 hc with rfl | hc
      · decide
      · exact hplain c hc
  -- Unfolded, the field is one line with its end.
  have hcut := crlfLines_line hline []
  rw [List.append_nil] at hcut
  rw [canonicalFields, Mime.unfoldOctets_fieldOctets hbreak, hcut]
  simp only [crlfLines, List.dropLast_cons_cons, List.dropLast_singleton, List.map_cons,
    List.map_nil]
  rw [canonicalLine_ofChars hname hplain, canonicalField_eq hname hplain, ← strip_dropSpace,
    Mime.dropSpace_afterColon, unlines_cons, unlines_nil, List.append_nil]

/-- Exactly which fields are signed in the form that a verifier gets from what is written. -/
theorem canonicalFields_written_iff {name : String} (hname : IsPrintableName name.toList)
    (value : String) :
    canonicalFields (Mime.fieldOctets name value) = ofChars (relaxedField name value) ↔
      ReadAlike name.toList value.toList := by
  have hcrlf : ofChars ['\r', '\n'] = crlf := by decide
  rw [canonicalFields_fieldOctets hname, relaxedField, relaxedHeader, hname.trim_eq,
    ofChars_append (_ ++ _), hcrlf, List.append_cancel_right_eq, ← squeeze_written_iff]
  constructor
  · intro h
    have htext := ofChars_injective h
    simpa using htext
  · intro h
    rw [h]

/-! ## The sender -/

/-- A character outside of a class that has the line breaks is none. -/
theorem not_isLineBreak_of {p : Char → Bool} (hreturn : p '\r' = true) (hfeed : p '\n' = true)
    {c : Char} (h : p c = false) : isLineBreak c = false := by
  simp only [isLineBreak, Bool.or_eq_false_iff, beq_eq_false_iff_ne]
  constructor
  · rintro rfl
    exact absurd hreturn (by simp [h])
  · rintro rfl
    exact absurd hfeed (by simp [h])

theorem unfold_subset (value : List Char) : unfold value ⊆ value := by
  induction value using unfold.induct with
  | case1 rest ih =>
    intro c hc
    exact List.mem_cons_of_mem _ (List.mem_cons_of_mem _ (ih hc))
  | case2 rest ih =>
    intro c hc
    exact List.mem_cons_of_mem _ (ih hc)
  | case3 c rest hend hfeed ih =>
    rw [unfold_other hend hfeed]
    exact List.cons_subset_cons c ih
  | case4 => exact List.Subset.refl []

/-- The line ends around a text without any are trimmed with the white space there. -/
theorem trim_unfold {value : List Char} (h : ∀ c ∈ trim value, isLineBreak c = false) :
    trim (unfold value) = trim value := by
  rcases exists_strip isWhite value with ⟨before, after, hvalue, hbefore, hafter⟩
  have hends : BareEnds isWhite (trim value) := bareEnds_strip isWhite value
  have hself : unfold (trim value) = trim value := unfold_of_plain h
  change value = before ++ (trim value ++ after) at hvalue
  generalize trim value = text at *
  have hleft : ∀ c ∈ unfold before, isWhite c = true :=
    fun c hc => hbefore c (unfold_subset before hc)
  have hright : ∀ c ∈ unfold after, isWhite c = true :=
    fun c hc => hafter c (unfold_subset after hc)
  by_cases hnil : text = []
  · -- Nothing but white space is unfolded to nothing but white space.
    subst hnil
    apply strip_of_forall
    intro c hc
    rw [hvalue, List.nil_append] at hc
    rcases List.mem_append.1 (unfold_subset _ hc) with hc | hc
    · exact hbefore c hc
    · exact hafter c hc
  · have hhead : (text ++ after).head? ≠ some '\n' := by
      rw [List.head?_append_of_ne_nil _ hnil]
      intro hfeed
      exact absurd (hends.first '\n' hfeed) (by decide)
    have hlast : text.getLast? ≠ some '\r' := by
      intro hreturn
      exact absurd (hends.last '\r' hreturn) (by decide)
    calc trim (unfold value)
        = trim (unfold before ++ (text ++ unfold after)) := by
          rw [hvalue, unfold_append (Or.inr hhead), unfold_append (Or.inl hlast), hself]
      _ = trim (text ++ unfold after) := strip_append_left hleft _
      _ = trim text := strip_append_right hright _
      _ = text := strip_of_bareEnds hends

/-- The mailbox of a sender that can be sent from holds no control character but around it, so only
the white space there can make a difference. -/
theorem readAlike_mailbox_iff {m : Message} (h : m.validate = .ok ()) (name : List Char) :
    ReadAlike name m.sender.mailbox.toList ↔
      BareEnds isWhite (strip isBlankChar (Mime.written name m.sender.mailbox.toList)) := by
  have hmailbox : ∀ c ∈ trim m.sender.mailbox.toList, isControl c = false := by
    have hvalid := (Message.isValidMailbox_of_validate h).1
    rw [isValidMailbox, Address.bare, trimmed, String.toList_ofList, List.all_eq_true] at hvalid
    intro c hc
    have hc := hvalid c hc
    simp only [Bool.not_eq_true', Bool.or_eq_false_iff] at hc
    exact hc.1.1
  have hunfold : trim (unfold m.sender.mailbox.toList) = trim m.sender.mailbox.toList := by
    apply trim_unfold
    intro c hc
    exact not_isLineBreak_of (by decide) (by decide) (hmailbox c hc)
  constructor
  · exact ReadAlike.ends
  · intro hends
    constructor
    case noReturn =>
      rw [hunfold]
      intro hreturn
      exact absurd (hmailbox '\r' hreturn) (by decide)
    case noFeed =>
      right
      rw [hunfold]
      intro hfeed
      exact absurd (hmailbox '\x0c' hfeed) (by decide)
    case ends => exact hends

theorem bareEnds_unfold {value : List Char} (h : BareEnds isWhite value) :
    BareEnds isWhite (unfold value) := by
  constructor
  · intro c hc
    cases value with
    | nil => cases hc
    | cons d rest =>
      have hd : isWhite d = false := h.first d rfl
      have hbreak : isLineBreak d = false := not_isLineBreak_of (by decide) (by decide) hd
      rw [unfold_cons hbreak] at hc
      cases hc
      exact hd
  · intro c hc
    rcases List.eq_nil_or_concat value with rfl | ⟨init, d, rfl⟩
    · cases hc
    · rw [List.concat_eq_append] at h hc
      have hd : isWhite d = false := h.last d (by simp)
      have hbreak : isLineBreak d = false := not_isLineBreak_of (by decide) (by decide) hd
      have hfeed : [d].head? ≠ some '\n' := by
        rintro hfeed
        cases hfeed
        exact absurd hbreak (by decide)
      rw [unfold_append (Or.inr hfeed), unfold_cons hbreak, unfold] at hc
      have hlast : d = c := by simpa using hc
      rw [← hlast]
      exact hd

/-- Words with single spaces are the text with its blanks reduced, if it has none at its ends. -/
theorem intercalate_words_of_bareEnds {text : List Char}
    (hplain : ∀ c ∈ text, isLineBreak c = false ∧ c ≠ '\x0c') (h : BareEnds isBlankChar text) :
    [' '].intercalate (Mime.words text) = squeeze isBlankChar ' ' false text := by
  have hbare : BareEnds isBlankChar (squeeze isBlankChar ' ' false text) :=
    (bareEnds_squeeze_iff h).2 h
  have hfirst : squeeze isBlankChar ' ' true text = squeeze isBlankChar ' ' false text := by
    cases text with
    | nil => rfl
    | cons c rest =>
      have hc := h.first c rfl
      rw [squeeze_other hc, squeeze_other hc]
  have hlast : (squeeze isBlankChar ' ' false text).rdropWhile isBlankChar =
      squeeze isBlankChar ' ' false text := by
    rw [List.rdropWhile_eq_self_iff]
    intro hne
    simp [hbare.last _ (List.getLast?_eq_some_getLast hne)]
  have hwords := intercalate_wordsFrom [] hplain
  rw [List.reverse_nil, List.nil_append, List.isEmpty_nil, hfirst, hlast] at hwords
  exact hwords

/-- Of a value with no white space around it, only a carriage return of its own and a form feed
between words that are laid out in lines are not read as they are signed. -/
theorem readAlike_iff_of_bareEnds {name value : List Char} (h : BareEnds isWhite value) :
    ReadAlike name value ↔
      '\r' ∉ unfold value ∧ (Mime.isShort name value = true ∨ '\x0c' ∉ unfold value) := by
  have hbare : BareEnds isWhite (unfold value) := bareEnds_unfold h
  have htrim : trim (unfold value) = unfold value := strip_of_bareEnds hbare
  constructor
  · rintro ⟨hreturn, hfeed, -⟩
    rw [htrim] at hreturn hfeed
    exact ⟨hreturn, hfeed⟩
  · rintro ⟨hreturn, hfeed⟩
    have hplain : ∀ c ∈ unfold value, isLineBreak c = false := by
      intro c hc
      simp only [isLineBreak, Bool.or_eq_false_iff, beq_eq_false_iff_ne]
      constructor
      · rintro rfl
        exact hreturn hc
      · rintro rfl
        exact notMem_unfold value hc
    have hline : Mime.onOneLine value = unfold value := by
      rw [← onOneLine_unfold value, Mime.onOneLine, List.filter_eq_self]
      intro c hc
      simp [hplain c hc]
    have hblank : BareEnds isBlankChar (unfold value) := hbare.of_imp fun _ => isWhite_of_isBlankChar
    have hwritten : BareEnds isWhite (Mime.written name value) := by
      unfold Mime.written
      split
      · rw [hline]
        exact hbare
      · rename_i hlong
        have hfeed : '\x0c' ∉ unfold value := hfeed.resolve_left hlong
        have hwords : ∀ c ∈ unfold value, isLineBreak c = false ∧ c ≠ '\x0c' := by
          intro c hc
          refine ⟨hplain c hc, ?_⟩
          rintro rfl
          exact hfeed hc
        rw [hline, intercalate_words_of_bareEnds hwords hblank, bareEnds_squeeze_iff hblank]
        exact hbare
    constructor
    case noReturn => rwa [htrim]
    case noFeed => rwa [htrim]
    case ends =>
      rw [strip_of_bareEnds (hwritten.of_imp fun _ => isWhite_of_isBlankChar)]
      exact hwritten

/-- A mailbox after a display name stands in angle brackets. -/
theorem bareEnds_display {a : Address} {shown : String} (h : a.name = some shown) :
    BareEnds isWhite a.display.toList := by
  have hphrase : ∃ c phrase, isWhite c = false ∧
      a.display = Address.withPhrase (c :: phrase) a.mailbox := by
    by_cases hascii : shown.toList.all isAscii = true
    · refine ⟨'"', Mime.escapeQuotes shown.toList ++ ['"'], by decide, ?_⟩
      simp only [Address.display, h, if_pos hascii]
      rfl
    · have hne : shown.toList ≠ [] := by
        intro hnil
        rw [hnil] at hascii
        exact hascii rfl
      rcases List.exists_cons_of_ne_nil (Mime.pieces_ne_nil hne) with ⟨piece, more, hpieces⟩
      refine ⟨'=', (Mime.encodedWords shown.toList).tail, by decide, ?_⟩
      have hhead : '=' :: (Mime.encodedWords shown.toList).tail =
          Mime.encodedWords shown.toList := by
        rw [Mime.encodedWords, hpieces, List.map_cons, Mime.intercalate_cons]
        rfl
      simp only [Address.display, h, if_neg hascii, hhead]
  rcases hphrase with ⟨c, phrase, hc, hdisplay⟩
  rw [hdisplay, Address.withPhrase, String.toList_ofList]
  constructor
  · intro d hd
    cases hd
    exact hc
  · intro d hd
    rw [List.getLast?_append] at hd
    cases hd
    decide

/-- The relaxed form of a field is that of the RFC exactly if the value, without blanks at its
ends, has no other white space there. A field that is signed and written is signed in the form
that a verifier gets from what is written exactly if it is read alike. For a sender without a
display name this means that no white space but blanks is written around the mailbox, and for one
with a display name that no carriage return is signed, and no form feed unless the field is
written on one line. -/
theorem relaxedHeader_canonical_iff {name : String} (hname : IsPrintableName name.toList)
    (value : String) :
    ((∀ c ∈ value.toList, isLineBreak c = false) →
      (ofChars (relaxedHeader name.toList value.toList) =
          canonicalLine (ofChars (name.toList ++ ':' :: value.toList)) ↔
        BareEnds isWhite (strip isBlankChar value.toList))) ∧
    (canonicalFields (Mime.fieldOctets name value) = ofChars (relaxedField name value) ↔
      ReadAlike name.toList value.toList) ∧
    ∀ (m : Message) (f : Mime.Finishing) (o : Mime.Occasion) (signed : Mime.Composed),
      m.validate = .ok () → Mime.IsFinal m f o signed →
      signed.headers.get? "From" = some m.sender.display ∧
      (m.sender.name = none →
        (canonicalFields (Mime.fieldOctets "From" m.sender.display) =
            ofChars (relaxedField "From" m.sender.display) ↔
          BareEnds isWhite
            (strip isBlankChar (Mime.written "From".toList m.sender.mailbox.toList)))) ∧
      ∀ shown, m.sender.name = some shown →
        (canonicalFields (Mime.fieldOctets "From" m.sender.display) =
            ofChars (relaxedField "From" m.sender.display) ↔
          '\r' ∉ unfold m.sender.display.toList ∧
            (Mime.isShort "From".toList m.sender.display.toList = true ∨
              '\x0c' ∉ unfold m.sender.display.toList)) := by
  refine ⟨?_, canonicalFields_written_iff hname value, ?_⟩
  · intro hvalue
    rw [canonicalLine_ofChars hname hvalue, canonicalField_eq hname hvalue,
      ← squeeze_strip_eq_iff, relaxedHeader, hname.trim_eq, unfold_of_plain hvalue]
    constructor
    · intro h
      have htext := ofChars_injective h
      simpa using htext
    · intro h
      rw [h]
  · intro m f o signed hvalid hfinal
    have hget := Mime.get?_of_isFinal hfinal (e := ("From", some m.sender.display))
      List.mem_cons_self
    have hfrom : IsPrintableName "From".toList := by decide
    refine ⟨hget, ?_, ?_⟩
    · intro hnone
      have hdisplay : m.sender.display = m.sender.mailbox := by
        rw [Address.display, hnone]
      rw [canonicalFields_written_iff hfrom, hdisplay]
      exact readAlike_mailbox_iff hvalid _
    · intro shown hshown
      rw [canonicalFields_written_iff hfrom]
      exact readAlike_iff_of_bareEnds (bareEnds_display hshown)

/-- Blanks around a value and in it, and the sender of a note. -/
theorem relaxedHeader_canonical_dotNote :
    ofChars (relaxedHeader "Subject".toList " a \t b".toList) =
        canonicalLine (ofChars ("Subject".toList ++ ':' :: " a \t b".toList)) ∧
      canonicalFields (Mime.fieldOctets "Subject" " a \t b") =
        ofChars (relaxedField "Subject" " a \t b") ∧
      ∃ signed, dotNote.validate = .ok () ∧
        Mime.IsFinal dotNote ⟨none, none⟩ Mime.epoch signed ∧
        signed.headers.get? "From" = some "a@x.org" ∧
        canonicalFields (Mime.fieldOctets "From" "a@x.org") =
          ofChars (relaxedField "From" "a@x.org") := by
  have hname : IsPrintableName "Subject".toList := by decide
  have hplain : ∀ c ∈ " a \t b".toList, isLineBreak c = false := by
    simp [isLineBreak]
  have halike : ReadAlike "Subject".toList " a \t b".toList :=
    ⟨by decide, Or.inl (by decide), by decide⟩
  rcases relaxedHeader_canonical_iff hname " a \t b" with ⟨hvalue, hfield, hsender⟩
  refine ⟨(hvalue hplain).2 (by decide), hfield.2 halike, ?_⟩
  have hfinal : ∃ signed, Mime.IsFinal dotNote ⟨none, none⟩ Mime.epoch signed :=
    Mime.exists_isFinal rfl rfl _
  rcases hfinal with ⟨signed, hfinal⟩
  rcases hsender dotNote ⟨none, none⟩ Mime.epoch signed rfl hfinal with ⟨hget, hmailbox, -⟩
  exact ⟨signed, rfl, hfinal, hget, (hmailbox rfl).2 (by decide)⟩

/-- A note from a mailbox with a hard space after it. -/
def hardSpaceNote : Message := { dotNote with sender := .ofMailbox "a@x.org\u00a0" }

/-- A hard space at an end of a value is white space but no blank: it is not signed, and a verifier
hashes it. Around a mailbox nothing refuses it. -/
theorem relaxedHeader_hardSpace :
    relaxedHeader "X-Note".toList "\u00a0hi".toList = "x-note:hi".toList ∧
      canonicalLine (ofChars "X-Note:\u00a0hi".toList) = ofChars "x-note:\u00a0hi".toList ∧
      ofChars (relaxedHeader "X-Note".toList "\u00a0hi".toList) ≠
        canonicalLine (ofChars "X-Note:\u00a0hi".toList) ∧
      hardSpaceNote.validate = .ok () ∧ hardSpaceNote.sender.display = "a@x.org\u00a0" ∧
      canonicalFields (Mime.fieldOctets "From" "a@x.org\u00a0") ≠
        ofChars (relaxedField "From" "a@x.org\u00a0") := by
  have hname : IsPrintableName "From".toList := by decide
  refine ⟨by decide, by decide, by decide, rfl, rfl, ?_⟩
  rw [ne_eq, canonicalFields_written_iff hname]
  rintro ⟨-, -, hends⟩
  exact absurd hends (by decide)

end Outbox.Dkim
