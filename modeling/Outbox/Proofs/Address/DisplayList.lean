import Outbox.Proofs.Address.Scanner

/-!
# Outbox.Proofs.Address.DisplayList — the addresses of a field are read back

A field holds its addresses in the form that `Address.display` gives them, separated by commas.
Whoever reads the field gets the same addresses, with their names, in the same order.

* `IsWritable` — the addresses that this is true of.
* `scan_display` — one address is read, whatever stands before and after it.
* `parseList_displayList` — a list of addresses is read back from its field.
-/

namespace Outbox.Address

open Octets Scanner

/-! ## Addresses that are read back -/

/-- A mailbox of plain characters with something on both sides of its at sign. -/
def IsPlainMailbox (mailbox : String) : Prop :=
  ∃ localPart domain : List Char, mailbox.toList = localPart ++ '@' :: domain ∧
    localPart ≠ [] ∧ domain ≠ [] ∧ ∀ c ∈ localPart ++ domain, isMailboxChar c = true

/-- A display name: any text with a character that is not ASCII, or printable ASCII in which
nothing looks like the start of an encoded word. -/
structure IsDisplayName (name : String) : Prop where
  not_blank : Text.isBlank name = false
  text : (∃ c ∈ name.toList, Text.isAscii c = false) ∨
    ((∀ c ∈ name.toList, isPrintableAscii c = true) ∧ ¬ ['=', '?'] <:+: name.toList)

/-- An address that is read back from its header form. -/
structure IsWritable (a : Address) : Prop where
  mailbox : IsPlainMailbox a.mailbox
  name : ∀ name, a.name = some name → IsDisplayName name

/-! ## Mailboxes -/

theorem IsPlainMailbox.forall_mem {mailbox : String} (h : IsPlainMailbox mailbox) :
    ∀ c ∈ mailbox.toList, isMailboxChar c = true ∨ c = '@' := by
  rcases h with ⟨localPart, domain, heq, -, -, hchars⟩
  intro c hc
  rw [heq, List.mem_append, List.mem_cons] at hc
  rcases hc with hc | rfl | hc
  · exact Or.inl (hchars c (List.mem_append_left _ hc))
  · exact Or.inr rfl
  · exact Or.inl (hchars c (List.mem_append_right _ hc))

theorem IsPlainMailbox.ne_nil {mailbox : String} (h : IsPlainMailbox mailbox) :
    mailbox.toList ≠ [] := by
  rcases h with ⟨localPart, domain, heq, -, -, -⟩
  rw [heq]
  simp

theorem IsPlainMailbox.plain {mailbox : String} (h : IsPlainMailbox mailbox) :
    ∀ c ∈ mailbox.toList, Text.isWhite c = false ∧ Text.isLineBreak c = false := by
  intro c hc
  have hchar := h.forall_mem c hc
  have hsmall : c.toNat < 128 := by
    rcases hchar with hchar | rfl
    · exact toNat_lt_of_isMailboxChar hchar
    · decide
  revert hchar
  exact forall_ascii (P := fun c => isMailboxChar c = true ∨ c = '@' →
    Text.isWhite c = false ∧ Text.isLineBreak c = false) (by decide) hsmall

theorem IsPlainMailbox.isComplete {mailbox : String} (h : IsPlainMailbox mailbox) :
    isComplete mailbox.toList = true := by
  have hwhite : mailbox.toList.any Text.isWhite = false := by
    rw [List.any_eq_false]
    intro c hc
    simp [(h.plain c hc).1]
  rcases h with ⟨localPart, domain, heq, hlocalNe, hdomainNe, hchars⟩
  have hat : ∀ c ∈ localPart, (c != '@') = true := by
    intro c hc
    have hchar := hchars c (List.mem_append_left _ hc)
    rw [bne_iff_ne]
    rintro rfl
    exact absurd hchar (by decide)
  unfold Address.isComplete
  rw [hwhite, heq, List.takeWhile_append_of_pos hat, List.dropWhile_append_of_pos hat]
  simp [hlocalNe, hdomainNe]

theorem IsWritable.isEmpty {a : Address} (h : IsWritable a) : a.isEmpty = false := by
  rcases List.exists_mem_of_ne_nil _ h.mailbox.ne_nil with ⟨c, hc⟩
  have hwhite := (h.mailbox.plain c hc).1
  unfold Address.isEmpty Text.isBlank
  rw [List.all_eq_false]
  exact ⟨c, hc, by simp [hwhite]⟩

/-! ## One address -/

/-- The entry that is read for an address. -/
def toEntry (a : Address) : Entry := ⟨a.name, some a.mailbox⟩

theorem ofEntry?_toEntry {a : Address} (h : IsWritable a) : ofEntry? a.toEntry = some a := by
  have htrim : Text.trim a.mailbox.toList = a.mailbox.toList := by
    apply Text.strip_of_plain
    intro c hc
    exact (h.mailbox.plain c hc).1
  have hname : named (a.name.getD "") a.mailbox = a := by
    cases hname : a.name with
    | none =>
      cases a
      simp_all [named, Text.isBlank]
    | some name =>
      have hblank := (h.name name hname).not_blank
      cases a
      simp_all [named]
  have hcomplete := h.mailbox.isComplete
  unfold ofEntry? toEntry
  simp [htrim, hcomplete, hname]

/-- A display name as it stands in a header. -/
def writeName (name : List Char) : List Char :=
  if name.all Text.isAscii then Mime.quotedString name else Mime.encodedWords name

theorem toList_display_of_name {a : Address} {name : String} (h : a.name = some name) :
    a.display.toList = writeName name.toList ++ ' ' :: '<' :: (a.mailbox.toList ++ ['>']) := by
  simp [display, h, withPhrase, writeName]

theorem display_of_no_name {a : Address} (h : a.name = none) : a.display = a.mailbox := by
  simp [display, h]

/-- A display name of ASCII characters can stand in a quoted string. -/
theorem IsDisplayName.of_ascii {name : String} (h : IsDisplayName name)
    (hascii : name.toList.all Text.isAscii = true) :
    (∀ c ∈ name.toList, isPrintableAscii c = true) ∧ ¬ ['=', '?'] <:+: name.toList := by
  rcases h.text with ⟨c, hc, hforeign⟩ | hquoted
  · rw [List.all_eq_true] at hascii
    exact absurd (hascii c hc) (by simp [hforeign])
  · exact hquoted

/-- A display name is read as its text. -/
theorem scan_phrase (entries : List Entry) {name : String} (h : IsDisplayName name)
    (blanks rest : Octets) :
    ∃ names, String.join names = name ∧
      scan 0 (ofChars (writeName name.toList) ++ 32 :: rest) (phrase entries [] blanks) =
        scan 0 rest (phrase entries names [32]) := by
  unfold writeName
  split
  case isTrue hascii =>
    rcases h.of_ascii hascii with ⟨hprint, hword⟩
    rcases scan_quotedString entries hprint hword blanks rest with ⟨names, hnames, hscan⟩
    exact ⟨names, String.toList_inj.1 hnames, hscan⟩
  case isFalse hascii =>
    have hne : name.toList ≠ [] := by
      intro hnil
      rw [hnil] at hascii
      exact hascii rfl
    rcases scan_encodedWords entries hne blanks rest with ⟨names, hnames, hscan⟩
    exact ⟨names, String.toList_inj.1 hnames, hscan⟩

/-- The reader at the end of an address, before the comma or the end of the field. -/
def HasRead (s : Scanner) (entries : List Entry) : Prop :=
  s.place = .phrase ∧ s.endToken.endEntry = phrase entries [] []

theorem hasRead_alone (entries : List Entry) {mailbox : String} (hne : mailbox.toList ≠ []) :
    HasRead (alone entries mailbox.toList) (entries ++ [⟨none, some mailbox⟩]) := by
  have htoken : ofChars mailbox.toList ≠ [] := ofChars_ne_nil hne
  constructor
  · rfl
  · simp [alone, endToken, htoken, file, rested, endEntry, entry?, Scanner.text?, phrase,
      Utf8.decodeString_ofChars]

theorem hasRead_closed (entries : List Entry) {names : List String} (hne : names ≠ [])
    (mailbox : String) :
    HasRead (closed entries names mailbox.toList)
      (entries ++ [⟨some (String.join names), some mailbox⟩]) := by
  constructor
  · rfl
  · simp [closed, endToken, endEntry, entry?, Scanner.text?, hne, phrase]

/-- An address is read, whatever stands before and after it. -/
theorem scan_display {a : Address} (h : IsWritable a) (entries : List Entry)
    (blanks rest : Octets) :
    ∃ s, HasRead s (entries ++ [a.toEntry]) ∧
      scan 0 (ofString a.display ++ rest) (phrase entries [] blanks) = scan 0 rest s := by
  cases hname : a.name with
  | none =>
    have hread := hasRead_alone entries h.mailbox.ne_nil
    rcases h.mailbox with ⟨localPart, domain, heq, hlocalNe, hdomainNe, hchars⟩
    refine ⟨alone entries a.mailbox.toList, ?_, ?_⟩
    · rw [toEntry, hname]
      exact hread
    · rw [display_of_no_name hname, ofString, heq]
      apply scan_bare entries hlocalNe hdomainNe
      · intro c hc
        exact hchars c (List.mem_append_left _ hc)
      · intro c hc
        exact hchars c (List.mem_append_right _ hc)
  | some name =>
    -- The phrase comes first, and what is read of it is the name.
    have hdisplayName := h.name name hname
    rcases scan_phrase entries hdisplayName blanks
      (60 :: (ofChars a.mailbox.toList ++ 62 :: rest)) with ⟨names, hjoin, hscan⟩
    have hne : names ≠ [] := by
      rintro rfl
      have hblank := hdisplayName.not_blank
      rw [← hjoin] at hblank
      exact absurd hblank (by decide)
    refine ⟨closed entries names a.mailbox.toList, ?_, ?_⟩
    · rw [toEntry, hname, ← hjoin]
      exact hasRead_closed entries hne a.mailbox
    · have hcons : ofString a.display ++ rest =
          ofChars (writeName name.toList) ++
            32 :: 60 :: (ofChars a.mailbox.toList ++ 62 :: rest) := by
        rw [ofString, toList_display_of_name hname, ofChars_append,
          ofChars_cons_of_ascii (by decide), ofChars_cons_of_ascii (by decide), ofChars_append,
          ofChars_cons_of_ascii (by decide)]
        simp
      rw [hcons, hscan, scan_angle entries names h.mailbox.ne_nil h.mailbox.forall_mem]

/-! ## A list of addresses -/

/-- The octets of several addresses. -/
theorem ofString_intercalate_cons (a next : Address) (more : List Address) :
    ofString (", ".intercalate ((a :: next :: more).map display)) =
      ofString a.display ++ 44 :: 32 ::
        ofString (", ".intercalate ((next :: more).map display)) := by
  have hcomma : ", ".toList = [',', ' '] := rfl
  simp only [ofString, List.map_cons, String.intercalate_cons_cons, String.toList_append,
    ofChars_append, hcomma, List.append_assoc]
  rfl

/-- Addresses that are separated by commas are read in order. -/
theorem scan_displays (a : Address) (more : List Address) (h : ∀ b ∈ a :: more, IsWritable b)
    (entries : List Entry) (blanks : Octets) :
    scan 0 (ofString (", ".intercalate ((a :: more).map display))) (phrase entries [] blanks) =
      phrase (entries ++ (a :: more).map toEntry) [] [] := by
  -- By induction on the addresses. A comma and a space lead back to where the reader began.
  induction more generalizing a entries blanks with
  | nil =>
    rcases scan_display (h a List.mem_cons_self) entries blanks [] with ⟨s, ⟨-, hend⟩, hscan⟩
    rw [List.append_nil] at hscan
    rw [List.map_singleton, String.intercalate_singleton, hscan, scan, hend]
    rfl
  | cons next more ih =>
    have hrest : ∀ b ∈ next :: more, IsWritable b := by
      intro b hb
      exact h b (List.mem_cons_of_mem a hb)
    have hmore := ih next hrest (entries ++ [a.toEntry]) [32]
    rw [ofString_intercalate_cons]
    generalize ofString (", ".intercalate ((next :: more).map display)) = text at hmore ⊢
    rcases scan_display (h a List.mem_cons_self) entries blanks (44 :: 32 :: text) with
      ⟨s, ⟨hplace, hend⟩, hscan⟩
    have hcomma : s.step 44 = phrase (entries ++ [a.toEntry]) [] [] := by
      rw [← hend]
      simp [step, hplace]
    have hspace : step (phrase (entries ++ [a.toEntry]) [] []) 32 =
        phrase (entries ++ [a.toEntry]) [] [32] := rfl
    rw [hscan, scan_step_of_ne (by decide), hcomma,
      scan_step_of_ne (by decide), hspace, hmore]
    simp

/-- A written field holds all addresses, as none of them lacks a mailbox. -/
theorem displayList_eq {addresses : List Address} (h : ∀ a ∈ addresses, IsWritable a) :
    displayList addresses = ", ".intercalate (addresses.map display) := by
  have hall : addresses.filter (fun a => !a.isEmpty) = addresses := by
    rw [List.filter_eq_self]
    intro a ha
    simp [(h a ha).isEmpty]
  rw [displayList, hall]

theorem mapM_ofEntry? {addresses : List Address} (h : ∀ a ∈ addresses, IsWritable a) :
    (addresses.map toEntry).mapM ofEntry? = some addresses := by
  induction addresses with
  | nil => rfl
  | cons a rest ih =>
    have hrest : ∀ b ∈ rest, IsWritable b := by
      intro b hb
      exact h b (List.mem_cons_of_mem a hb)
    rw [List.map_cons, List.mapM_cons, ofEntry?_toEntry (h a List.mem_cons_self), ih hrest]
    rfl

/-! ## The text of a field -/

theorem mem_display {a : Address} {c : Char} (hc : c ∈ a.mailbox.toList) :
    c ∈ a.display.toList := by
  cases hname : a.name with
  | none => rwa [display_of_no_name hname]
  | some name =>
    rw [toList_display_of_name hname]
    simp [hc]

/-- A field holds the mailbox of every address that has one. -/
theorem mem_displayList {addresses : List Address} {a : Address} (ha : a ∈ addresses)
    (hempty : a.isEmpty = false) {c : Char} (hc : c ∈ a.mailbox.toList) :
    c ∈ (displayList addresses).toList := by
  have hkept : a ∈ addresses.filter fun a => !a.isEmpty := by
    rw [List.mem_filter]
    exact ⟨ha, by simp [hempty]⟩
  rw [displayList, String.toList_intercalate, List.map_map]
  exact Text.mem_intercalate_of_mem _ (List.mem_map_of_mem hkept) (mem_display hc)

/-- A field is empty exactly if no address has a mailbox. -/
theorem displayList_eq_empty_iff {addresses : List Address} :
    displayList addresses = "" ↔ ∀ a ∈ addresses, a.isEmpty = true := by
  constructor
  · intro hnil a ha
    by_contra hempty
    rw [Bool.not_eq_true] at hempty
    have hblank := hempty
    unfold Address.isEmpty Text.isBlank at hblank
    rw [List.all_eq_false] at hblank
    rcases hblank with ⟨c, hc, -⟩
    have hmem := mem_displayList ha hempty hc
    rw [hnil] at hmem
    exact absurd hmem List.not_mem_nil
  · intro h
    have hnone : addresses.filter (fun a => !a.isEmpty) = [] := by
      rw [List.filter_eq_nil_iff]
      intro a ha
      simp [h a ha]
    rw [displayList, hnone]
    rfl

theorem not_isLineBreak_of_ascii {c : Char} (h : isPrintableAscii c = true) :
    Text.isLineBreak c = false := by
  have hsmall := toNat_lt_of_isPrintableAscii h
  revert h
  exact forall_ascii (P := fun c => isPrintableAscii c = true → Text.isLineBreak c = false)
    (by decide) hsmall

theorem isPrintableAscii_quotedString {text : List Char}
    (h : ∀ c ∈ text, isPrintableAscii c = true) :
    ∀ c ∈ Mime.quotedString text, isPrintableAscii c = true := by
  intro c hc
  rw [Mime.quotedString, List.mem_append, List.mem_cons, List.mem_singleton] at hc
  rcases hc with (rfl | hc) | rfl
  · decide
  · rcases List.mem_flatMap.1 hc with ⟨d, hd, hmem⟩
    split at hmem
    · rw [List.mem_cons, List.mem_singleton] at hmem
      rcases hmem with rfl | rfl
      · decide
      · exact h c hd
    · rw [List.mem_singleton] at hmem
      rw [hmem]
      exact h d hd
  · decide

/-- An address stands on one line. -/
theorem not_isLineBreak_display {a : Address} (h : IsWritable a) :
    ∀ c ∈ a.display.toList, Text.isLineBreak c = false := by
  have hmailbox : ∀ c ∈ a.mailbox.toList, Text.isLineBreak c = false := by
    intro c hc
    exact (h.mailbox.plain c hc).2
  intro c hc
  cases hname : a.name with
  | none =>
    rw [display_of_no_name hname] at hc
    exact hmailbox c hc
  | some name =>
    rw [toList_display_of_name hname, List.mem_append, List.mem_cons, List.mem_cons,
      List.mem_append, List.mem_singleton] at hc
    rcases hc with hc | rfl | rfl | hc | rfl
    · unfold writeName at hc
      split at hc
      case isTrue hascii =>
        have hprint := ((h.name name hname).of_ascii hascii).1
        exact not_isLineBreak_of_ascii (isPrintableAscii_quotedString hprint c hc)
      case isFalse =>
        rcases Text.mem_intercalate hc with hc | ⟨word, hword, hc⟩
        · rw [List.mem_singleton] at hc
          rw [hc]
          decide
        · rcases List.mem_map.1 hword with ⟨piece, -, rfl⟩
          exact Mime.not_isLineBreak_encodedWord hc
    · decide
    · decide
    · exact hmailbox c hc
    · decide

/-- The addresses of a field are read back from its text. -/
theorem parseAll_displayList {addresses : List Address} (hne : addresses ≠ [])
    (h : ∀ a ∈ addresses, IsWritable a) : parseAll (displayList addresses) = .ok addresses := by
  have hline : (displayList addresses).toList.any Text.isLineBreak = false := by
    rw [displayList_eq h, String.toList_intercalate, List.any_eq_false]
    intro c hc
    rw [Bool.not_eq_true]
    rcases Text.mem_intercalate hc with hc | ⟨text, htext, hc⟩
    · have hcomma : ∀ c ∈ ", ".toList, Text.isLineBreak c = false := by
        simp [Text.isLineBreak]
      exact hcomma c hc
    · rw [List.map_map] at htext
      rcases List.mem_map.1 htext with ⟨a, ha, rfl⟩
      exact not_isLineBreak_display (h a ha) c hc
  have hentries : entries? (displayList addresses).toList = some (addresses.map toEntry) := by
    rcases List.exists_cons_of_ne_nil hne with ⟨a, more, rfl⟩
    have hscan := scan_displays a more h [] []
    rw [← displayList_eq h, ofString] at hscan
    unfold entries?
    refine (congrArg result? hscan).trans ?_
    simp [result?, phrase]
  unfold parseAll
  simp [hline, hentries, mapM_ofEntry? h]

theorem not_isBlank_displayList {addresses : List Address} (hne : addresses ≠ [])
    (h : ∀ a ∈ addresses, IsWritable a) : Text.isBlank (displayList addresses) = false := by
  rcases List.exists_mem_of_ne_nil _ hne with ⟨a, ha⟩
  have hmailbox := (h a ha).mailbox
  rcases List.exists_mem_of_ne_nil _ hmailbox.ne_nil with ⟨c, hc⟩
  have hmem := mem_displayList ha (h a ha).isEmpty hc
  unfold Text.isBlank
  rw [List.all_eq_false]
  exact ⟨c, hmem, by simp [(hmailbox.plain c hc).1]⟩

/-- A list of addresses is read back from the text of its field: every address with its name and
its mailbox, in order, and nothing else. -/
theorem parseList_displayList {addresses : List Address} (hne : addresses ≠ [])
    (h : ∀ a ∈ addresses, IsWritable a) :
    parseList [displayList addresses] = .ok addresses := by
  have hblank := not_isBlank_displayList hne h
  have hparse := parseAll_displayList hne h
  have hfilter : [displayList addresses].filter (fun text => !Text.isBlank text) =
      [displayList addresses] := by
    simp [hblank]
  rw [parseList, hfilter, List.mapM_cons, hparse]
  simp [bind, Except.bind, pure, Except.pure, Except.map]

/-- A bare mailbox, a name that needs escapes and a name that is not ASCII. -/
def correspondents : List Address :=
  [⟨none, "a@x.org"⟩, ⟨some "Doe, \"J.\" <(home)> = \\ ", "j.doe+mail@x.org"⟩,
    ⟨some "Zo\u00eb", "z@x.org"⟩]

theorem isWritable_correspondents : ∀ a ∈ correspondents, IsWritable a := by
  intro a ha
  rw [correspondents, List.mem_cons, List.mem_cons, List.mem_singleton] at ha
  rcases ha with rfl | rfl | rfl
  · constructor
    · refine ⟨['a'], "x.org".toList, by simp, by simp, by simp, ?_⟩
      simp [isMailboxChar]
    · intro name hname
      cases hname
  · constructor
    · refine ⟨"j.doe+mail".toList, "x.org".toList, by simp, by simp, by simp, ?_⟩
      simp [isMailboxChar]
    · intro name hname
      cases hname
      constructor
      · simp [Text.isBlank, Text.isWhite]
      · right
        constructor
        · simp [isPrintableAscii]
        · simp [List.infix_cons_iff]
  · constructor
    · refine ⟨['z'], "x.org".toList, by simp, by simp, by simp, ?_⟩
      simp [isMailboxChar]
    · intro name hname
      cases hname
      constructor
      · simp [Text.isBlank, Text.isWhite]
      · left
        exact ⟨'\u00eb', by simp, by simp [Text.isAscii]⟩

theorem parseList_correspondents :
    correspondents ≠ [] ∧ (∀ a ∈ correspondents, IsWritable a) ∧
      parseList [displayList correspondents] = .ok correspondents :=
  ⟨List.cons_ne_nil _ _, isWritable_correspondents,
    parseList_displayList (List.cons_ne_nil _ _) isWritable_correspondents⟩

end Outbox.Address
