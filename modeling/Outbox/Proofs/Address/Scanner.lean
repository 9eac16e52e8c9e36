import Outbox.Address.Grammar
import Outbox.Proofs.Mime.EncodedWord

/-!
# Outbox.Proofs.Address.Scanner — what the reader of address fields does with written text

The reader takes one octet at a time, and what an octet does depends on the place it is read in.
Each piece of a written address moves the reader from one known state to another.

* `scan_escapeQuotes` — a quoted string adds up to the text between its quotation marks, in
  several names: a backslash ends a token.
* `scan_encodedWords` — encoded words add up to the text that was cut into them, without the
  spaces between them.
* `scan_angle`, `scan_bare` — a mailbox is read as a whole, with and without angle brackets.
-/

namespace Outbox.Address.Scanner

open Octets

/-! ## One octet -/

/-- An octet that begins no encoded word is one step. -/
theorem scan_step {b : UInt8} {rest : Octets} (s : Scanner)
    (hword : b = 61 → rest.head? ≠ some 63) : scan 0 (b :: rest) s = scan 0 rest (s.step b) := by
  rw [scan]
  by_cases hequals : b = 61
  · -- An equals sign begins a word only before a question mark.
    have hnone : Mime.encodedWord? (b :: rest) = none := by
      subst hequals
      cases rest with
      | nil => rfl
      | cons next rest =>
        have hnext : next ≠ 63 := by
          intro heq
          apply hword rfl
          rw [heq, List.head?_cons]
        rw [Mime.encodedWord?]
        intro more heq
        apply hnext
        simp_all
    rw [hnone]
    simp
  · simp [hequals]

/-- Only an equals sign begins an encoded word. -/
theorem scan_step_of_ne {b : UInt8} (h : b ≠ 61) (rest : Octets) (s : Scanner) :
    scan 0 (b :: rest) s = scan 0 rest (s.step b) := by
  apply scan_step
  intro heq
  exact absurd heq h

/-- The octets of an encoded word after its first one. -/
theorem scan_skip (octets rest : Octets) (s : Scanner) :
    scan octets.length (octets ++ rest) s = scan 0 rest s := by
  induction octets with
  | nil => rfl
  | cons b octets ih =>
    rw [List.length_cons, List.cons_append, scan]
    exact ih

/-- The octets that mean something outside of a mailbox. -/
def specials : List UInt8 := [9, 13, 32, 34, 40, 41, 44, 58, 59, 60, 62, 64, 92]

theorem step_plain {b : UInt8} (h : b ∉ specials) (s : Scanner) : s.step b = s.take b := by
  simp only [specials, List.mem_cons, List.not_mem_nil, or_false, not_or] at h
  -- Every case of a step but the last is one for a special octet.
  rw [step] <;> simp [h]

theorem step_quoted {b : UInt8} (h : b ∉ [9, 13, 32, 34, 92]) {s : Scanner}
    (hplace : s.place = .quoted) : s.step b = s.take b := by
  simp only [List.mem_cons, List.not_mem_nil, or_false, not_or] at h
  by_cases hopen : b = 40
  · subst hopen
    simp [step, hplace]
  · rw [step] <;> simp [h, hplace, hopen]

theorem step_at_angle {s : Scanner} (hplace : s.place = .angle) : s.step 64 = s.take 64 := by
  simp [step, hplace]

/-! ## Tokens -/

/-- Takes octets. -/
def takeAll (s : Scanner) (octets : Octets) : Scanner := octets.foldl take s

theorem takeAll_eq {s : Scanner} (hblanks : s.token = [] ∨ s.blanks = []) {octets : Octets}
    (hne : octets ≠ []) :
    s.takeAll octets =
      { s with
        token := octets.reverse ++ s.token
        blanks := []
        escaped := false
        wordStart := false } := by
  induction octets generalizing s with
  | nil => exact absurd rfl hne
  | cons b octets ih =>
    have hfirst : s.take b =
        { s with token := b :: s.token, blanks := [], escaped := false, wordStart := false } := by
      rcases hblanks with htoken | hblanks
      · simp [take, htoken]
      · simp [take, hblanks]
    have hcons : s.takeAll (b :: octets) = (s.take b).takeAll octets := rfl
    cases octets with
    | nil => rw [hcons, hfirst]; rfl
    | cons next octets =>
      rw [hcons, hfirst, ih (Or.inr rfl) (by simp)]
      simp

/-- Octets that mean nothing at a place are taken. -/
theorem scan_takeAll {place : Place} {octets : Octets}
    (hplain : ∀ b ∈ octets, b ≠ 61 ∧ ∀ s : Scanner, s.place = place → s.step b = s.take b)
    (rest : Octets) {s : Scanner} (hplace : s.place = place) :
    scan 0 (octets ++ rest) s = scan 0 rest (s.takeAll octets) := by
  induction octets generalizing s with
  | nil => rfl
  | cons b octets ih =>
    obtain ⟨hequals, hstep⟩ := hplain b List.mem_cons_self
    have hnext : (s.take b).place = place := hplace
    rw [List.cons_append, scan_step_of_ne hequals, hstep s hplace,
      ih (fun c hc => hplain c (List.mem_cons_of_mem b hc)) hnext]
    rfl

/-! ## The states between the pieces of an address -/

/-- The reader in a phrase, between two tokens. -/
def phrase (entries : List Entry) (names : List String) (blanks : Octets) : Scanner :=
  { names, blanks, entries }

/-- The reader in a quoted string, after a part of a token. -/
def quoting (entries : List Entry) (names : List String) (text : List Char) (wordStart : Bool) :
    Scanner :=
  { place := .quoted, around := [.phrase], token := (ofChars text).reverse, wordStart, names,
    entries }

/-- The reader before the mailbox between angle brackets. -/
def opened (entries : List Entry) (names : List String) : Scanner :=
  { place := .angle, around := [.phrase], names, entries }

/-- The reader after the mailbox between angle brackets. -/
def closed (entries : List Entry) (names : List String) (mailbox : List Char) : Scanner :=
  { names, mailboxes := [String.ofList mailbox], entries }

/-- The reader at the end of a mailbox that stands alone. -/
def alone (entries : List Entry) (mailbox : List Char) : Scanner :=
  { token := (ofChars mailbox).reverse, sawAt := true, wordStart := false, entries }

/-! ## Quoted strings -/

/-- The names after a token of a quoted string was filed. -/
def filed (names : List String) (text : List Char) : List String :=
  if text = [] then names else names ++ [String.ofList text]

theorem join_filed (names : List String) (text : List Char) :
    (String.join (filed names text)).toList = (String.join names).toList ++ text := by
  unfold filed
  split
  case isTrue hnil => simp [hnil]
  case isFalse => simp [String.join_append]

theorem endToken_quoting (entries : List Entry) (names : List String) (text : List Char)
    (wordStart : Bool) :
    (quoting entries names text wordStart).endToken =
      quoting entries (filed names text) [] (wordStart || text ≠ []) := by
  unfold endToken filed
  by_cases hnil : text = []
  · subst hnil
    simp [quoting]
  · have htoken : ofChars text ≠ [] := ofChars_ne_nil hnil
    simp [quoting, htoken, hnil, file, rested, Utf8.decodeString_ofChars]

/-- A printable ASCII character. -/
def isPrintableAscii (c : Char) : Bool := 0x20 ≤ c.toNat && c.toNat ≤ 0x7E

theorem toNat_lt_of_isPrintableAscii {c : Char} (h : isPrintableAscii c = true) :
    c.toNat < 128 := by
  simp only [isPrintableAscii, Bool.and_eq_true, decide_eq_true_eq] at h
  omega

/-- ASCII characters are told apart by their octets. -/
theorem octet_inj {c d : Char} (hc : c.toNat < 128) (hd : d.toNat < 128)
    (h : UInt8.ofNat c.toNat = UInt8.ofNat d.toNat) : c = d := by
  have heq : ofChars [c] = ofChars [d] := by
    rw [ofChars_cons_of_ascii hc, ofChars_cons_of_ascii hd, h]
  exact List.head_eq_of_cons_eq (ofChars_injective heq)

theorem literal_octet {c : Char}
    (h : (isPrintableAscii c && c != ' ' && c != '"' && c != '\\') = true) :
    UInt8.ofNat c.toNat ∉ [9, 13, 32, 34, 92] := by
  have hsmall : c.toNat < 128 := by
    simp only [Bool.and_eq_true] at h
    exact toNat_lt_of_isPrintableAscii h.1.1.1
  revert h
  exact forall_ascii (P := fun c =>
    (isPrintableAscii c && c != ' ' && c != '"' && c != '\\') = true →
      UInt8.ofNat c.toNat ∉ [9, 13, 32, 34, 92]) (by decide) hsmall

/-- A character of a quoted string that needs no escape. -/
theorem scan_literal (entries : List Entry) (names : List String) (text : List Char)
    (wordStart : Bool) {c : Char} (hprint : isPrintableAscii c = true) (hquote : c ≠ '"')
    (hslash : c ≠ '\\') {rest : Octets} (hword : c = '=' → rest.head? ≠ some 63) :
    scan 0 (UInt8.ofNat c.toNat :: rest) (quoting entries names text wordStart) =
      scan 0 rest (quoting entries names (text ++ [c]) (c == ' ')) := by
  have hsmall := toNat_lt_of_isPrintableAscii hprint
  have htoken : (ofChars (text ++ [c])).reverse =
      [UInt8.ofNat c.toNat] ++ (ofChars text).reverse := by
    rw [ofChars_append, ofChars_cons_of_ascii hsmall, List.reverse_append]
    rfl
  rw [scan_step _ fun h => hword (octet_inj hsmall (by decide) h)]
  congr 1
  by_cases hspace : c = ' '
  · subst hspace
    unfold quoting
    rw [htoken]
    rfl
  · have hliteral := literal_octet (c := c) (by simp [hprint, hspace, hquote, hslash])
    have hblanks : (quoting entries names text wordStart).blanks = [] := rfl
    have htake := takeAll_eq (Or.inr hblanks) (List.cons_ne_nil (UInt8.ofNat c.toNat) [])
    have hfalse : (c == ' ') = false := by simp [hspace]
    rw [step_quoted hliteral rfl]
    refine htake.trans ?_
    unfold quoting
    rw [htoken, hfalse]
    rfl

/-- A quotation mark or a backslash after the backslash that escapes it. -/
theorem scan_escaped (entries : List Entry) (names : List String) (text : List Char)
    (wordStart : Bool) {c : Char} (hescape : c = '"' ∨ c = '\\') (rest : Octets) :
    scan 0 (92 :: UInt8.ofNat c.toNat :: rest) (quoting entries names text wordStart) =
      scan 0 rest (quoting entries (filed names text) [c] false) := by
  have hslash : step (quoting entries names text wordStart) 92 =
      { quoting entries (filed names text) [] (wordStart || text ≠ []) with escaped := true } := by
    rw [← endToken_quoting]
    rfl
  have htaken : step { quoting entries (filed names text) [] (wordStart || text ≠ []) with
      escaped := true } (UInt8.ofNat c.toNat) = quoting entries (filed names text) [c] false := by
    rcases hescape with rfl | rfl
    · rfl
    · rfl
  have hequals : UInt8.ofNat c.toNat ≠ 61 := by
    rcases hescape with rfl | rfl
    · decide
    · decide
  rw [scan_step_of_ne (by decide), hslash, scan_step_of_ne hequals,
    htaken]

/-- The end of a quoted string, and the space after it. -/
theorem scan_closing (entries : List Entry) (names : List String) (text : List Char)
    (wordStart : Bool) (rest : Octets) :
    scan 0 (34 :: 32 :: rest) (quoting entries names text wordStart) =
      scan 0 rest (phrase entries (filed names text) [32]) := by
  have hquote : step (quoting entries names text wordStart) 34 =
      (quoting entries (filed names text) [] (wordStart || text ≠ [])).leave := by
    rw [← endToken_quoting]
    rfl
  have hspace : step (quoting entries (filed names text) [] (wordStart || text ≠ [])).leave 32 =
      phrase entries (filed names text) [32] := rfl
  rw [scan_step_of_ne (by decide), hquote, scan_step_of_ne (by decide),
    hspace]

/-- The next octet of an escaped text is no question mark if the text does not begin with one. -/
theorem head?_escapeQuotes {text : List Char} (htext : ∀ c ∈ text, isPrintableAscii c = true)
    (h : text.head? ≠ some '?') (rest : Octets) :
    (ofChars (Mime.escapeQuotes text) ++ 34 :: rest).head? ≠ some 63 := by
  cases text with
  | nil => simp [Mime.escapeQuotes]
  | cons c text =>
    have hc := toNat_lt_of_isPrintableAscii (htext c List.mem_cons_self)
    have hne : UInt8.ofNat c.toNat ≠ 63 := by
      intro heq
      exact h (congrArg some (octet_inj hc (d := '?') (by decide) heq))
    simp only [Mime.escapeQuotes, List.flatMap_cons]
    split
    · rw [ofChars_append, ofChars_cons_of_ascii (by decide)]
      simp
    · rw [ofChars_append, ofChars_cons_of_ascii hc]
      simpa using hne

/-- A text in a quoted string is filed in full. -/
theorem scan_escapeQuotes (entries : List Entry) {name : List Char}
    (hprint : ∀ c ∈ name, isPrintableAscii c = true) (hword : ¬ ['=', '?'] <:+: name)
    (rest : Octets) (names : List String) (text : List Char) (wordStart : Bool) :
    ∃ names', (String.join names').toList = (String.join names).toList ++ text ++ name ∧
      scan 0 (ofChars (Mime.escapeQuotes name) ++ 34 :: 32 :: rest)
          (quoting entries names text wordStart) =
        scan 0 rest (phrase entries names' [32]) := by
  -- By induction on the text that is left. The names so far and the token make up what was read.
  induction name generalizing names text wordStart with
  | nil =>
    refine ⟨filed names text, ?_, scan_closing entries names text wordStart rest⟩
    rw [join_filed, List.append_nil]
  | cons c name ih =>
    have hc := hprint c List.mem_cons_self
    have hsmall := toNat_lt_of_isPrintableAscii hc
    have hprint' : ∀ d ∈ name, isPrintableAscii d = true := by
      intro d hd
      exact hprint d (List.mem_cons_of_mem c hd)
    have hword' : ¬ ['=', '?'] <:+: name := by
      intro h
      exact hword (h.trans (List.suffix_cons c name).isInfix)
    by_cases hescape : c = '"' ∨ c = '\\'
    · rcases ih hprint' hword' (filed names text) [c] false with ⟨names', hnames, hscan⟩
      refine ⟨names', ?_, ?_⟩
      · rw [hnames, join_filed]
        simp
      · rw [Mime.escapeQuotes_escaped hescape, ofChars_cons_of_ascii (by decide),
          ofChars_cons_of_ascii hsmall]
        exact (scan_escaped entries names text wordStart hescape _).trans hscan
    · have hnext : c = '=' → name.head? ≠ some '?' := by
        rintro rfl hhead
        rcases List.head?_eq_some_iff.1 hhead with ⟨more, rfl⟩
        exact hword ⟨[], more, rfl⟩
      have hplain := not_or.1 hescape
      rcases ih hprint' hword' names (text ++ [c]) (c == ' ') with ⟨names', hnames, hscan⟩
      refine ⟨names', ?_, ?_⟩
      · rw [hnames]
        simp
      · rw [Mime.escapeQuotes_literal hescape, ofChars_cons_of_ascii hsmall]
        exact (scan_literal entries names text wordStart hc hplain.1 hplain.2
          fun heq => head?_escapeQuotes hprint' (hnext heq) _).trans hscan

/-- A quoted string is read as its text. -/
theorem scan_quotedString (entries : List Entry) {name : List Char}
    (hprint : ∀ c ∈ name, isPrintableAscii c = true) (hword : ¬ ['=', '?'] <:+: name)
    (blanks rest : Octets) :
    ∃ names, (String.join names).toList = name ∧
      scan 0 (ofChars (Mime.quotedString name) ++ 32 :: rest) (phrase entries [] blanks) =
        scan 0 rest (phrase entries names [32]) := by
  have hopen : step (phrase entries [] blanks) 34 = quoting entries [] [] true := rfl
  have hcons : ofChars (Mime.quotedString name) ++ 32 :: rest =
      34 :: (ofChars (Mime.escapeQuotes name) ++ 34 :: 32 :: rest) := by
    rw [Mime.quotedString, List.cons_append, ofChars_cons_of_ascii (by decide), ofChars_append]
    simp
    rfl
  rcases scan_escapeQuotes entries hprint hword rest [] [] true with ⟨names, hnames, hscan⟩
  refine ⟨names, by simpa using hnames, ?_⟩
  rw [hcons, scan_step_of_ne (by decide), hopen]
  exact hscan

/-! ## Encoded words -/

/-- An encoded word is one more name. -/
theorem scan_encodedWord (entries : List Entry) (names : List String) (blanks : Octets)
    (piece : List Char) (rest : Octets) :
    scan 0 (ofChars (Mime.encodedWord piece) ++ rest) (phrase entries names blanks) =
      scan 0 rest (phrase entries (names ++ [String.ofList piece]) []) := by
  have hread := Mime.encodedWord?_encodedWord piece rest
  have hcons : ∃ more, ofChars (Mime.encodedWord piece) = 61 :: more := by
    rw [Mime.ofChars_encodedWord]
    exact ⟨_, rfl⟩
  rcases hcons with ⟨more, hmore⟩
  have hmark : (61 == (61 : UInt8) && (phrase entries names blanks).wordStart &&
      !(phrase entries names blanks).escaped) = true := rfl
  have htaken : (phrase entries names blanks).takeWord (String.ofList piece) =
      phrase entries (names ++ [String.ofList piece]) [] := rfl
  rw [hmore, List.cons_append] at hread ⊢
  rw [scan]
  simp only [hread, htaken, List.length_cons, Nat.add_sub_cancel]
  exact scan_skip more rest _

/-- Encoded words are read as the pieces that are in them. -/
theorem scan_words (entries : List Entry) (piece : List Char) (more : List (List Char))
    (names : List String) (blanks rest : Octets) :
    scan 0 (ofChars ([' '].intercalate ((piece :: more).map Mime.encodedWord)) ++ rest)
        (phrase entries names blanks) =
      scan 0 rest (phrase entries (names ++ (piece :: more).map String.ofList) []) := by
  -- A space is remembered as a blank, which the next word drops.
  induction more generalizing piece names blanks with
  | nil =>
    rw [List.map_singleton, List.intercalate_singleton]
    exact scan_encodedWord entries names blanks piece rest
  | cons next more ih =>
    have hspace : step (phrase entries (names ++ [String.ofList piece]) []) 32 =
        phrase entries (names ++ [String.ofList piece]) [32] := rfl
    have hcons :
        ofChars ([' '].intercalate ((piece :: next :: more).map Mime.encodedWord)) ++ rest =
        ofChars (Mime.encodedWord piece) ++
          32 :: (ofChars ([' '].intercalate ((next :: more).map Mime.encodedWord)) ++ rest) := by
      rw [List.map_cons, List.map_cons, List.intercalate_cons_cons, ofChars_append, ofChars_append]
      simp
      rfl
    rw [hcons, scan_encodedWord, scan_step_of_ne (by decide), hspace, ih]
    simp

/-- A text in encoded words is read as it was. -/
theorem scan_encodedWords (entries : List Entry) {name : List Char} (hne : name ≠ [])
    (blanks rest : Octets) :
    ∃ names, (String.join names).toList = name ∧
      scan 0 (ofChars (Mime.encodedWords name) ++ 32 :: rest) (phrase entries [] blanks) =
        scan 0 rest (phrase entries names [32]) := by
  rcases List.exists_cons_of_ne_nil (Mime.pieces_ne_nil hne) with ⟨piece, more, hpieces⟩
  have hspace : step (phrase entries ((piece :: more).map String.ofList) []) 32 =
      phrase entries ((piece :: more).map String.ofList) [32] := rfl
  refine ⟨(piece :: more).map String.ofList, ?_, ?_⟩
  · rw [← hpieces, String.toList_join, List.flatMap_map]
    simpa using Mime.flatten_pieces name
  · rw [Mime.encodedWords, hpieces, scan_words, List.nil_append,
      scan_step_of_ne (by decide), hspace]

/-! ## Mailboxes -/

/-- A character of a mailbox that the reader takes as it is. -/
def isMailboxChar (c : Char) : Bool :=
  c.isAlphanum || c == '.' || c == '-' || c == '_' || c == '+'

theorem toNat_lt_of_isMailboxChar {c : Char} (h : isMailboxChar c = true) : c.toNat < 128 := by
  simp only [isMailboxChar, Bool.or_eq_true, beq_iff_eq] at h
  rcases h with (((h | rfl) | rfl) | rfl) | rfl
  · exact toNat_lt_of_isAlphanum h
  · decide
  · decide
  · decide
  · decide

theorem mailboxChar_octet {c : Char} (h : isMailboxChar c = true) :
    UInt8.ofNat c.toNat ∉ 61 :: specials := by
  have hsmall := toNat_lt_of_isMailboxChar h
  revert h
  exact forall_ascii (P := fun c => isMailboxChar c = true → UInt8.ofNat c.toNat ∉ 61 :: specials)
    (by decide) hsmall

/-- The octet of such a character is taken wherever it stands. -/
theorem octet_of_isMailboxChar {c : Char} (h : isMailboxChar c = true) {b : UInt8}
    (hb : b ∈ String.utf8EncodeChar c) : b ≠ 61 ∧ ∀ s : Scanner, s.step b = s.take b := by
  rw [utf8EncodeChar_of_ascii (toNat_lt_of_isMailboxChar h), List.mem_singleton] at hb
  have hplain := mailboxChar_octet h
  rw [← hb, List.mem_cons, not_or] at hplain
  exact ⟨hplain.1, step_plain hplain.2⟩

/-- A mailbox between angle brackets. -/
theorem scan_angle (entries : List Entry) (names : List String) {mailbox : List Char}
    (hne : mailbox ≠ []) (hmailbox : ∀ c ∈ mailbox, isMailboxChar c = true ∨ c = '@')
    (blanks rest : Octets) :
    scan 0 (60 :: (ofChars mailbox ++ 62 :: rest)) (phrase entries names blanks) =
      scan 0 rest (closed entries names mailbox) := by
  have hopen : step (phrase entries names blanks) 60 = opened entries names := rfl
  have hplain : ∀ b ∈ ofChars mailbox,
      b ≠ 61 ∧ ∀ s : Scanner, s.place = .angle → s.step b = s.take b := by
    intro b hb
    rcases List.mem_flatMap.1 hb with ⟨c, hc, hmem⟩
    rcases hmailbox c hc with hchar | rfl
    · rcases octet_of_isMailboxChar hchar hmem with ⟨hequals, hstep⟩
      exact ⟨hequals, fun s _ => hstep s⟩
    · rw [utf8EncodeChar_of_ascii (by decide), List.mem_singleton] at hmem
      subst hmem
      exact ⟨by decide, fun s hs => step_at_angle hs⟩
  have htoken : ofChars mailbox ≠ [] := ofChars_ne_nil hne
  have htaken : (opened entries names).takeAll (ofChars mailbox) =
      { opened entries names with token := (ofChars mailbox).reverse, wordStart := false } := by
    rw [takeAll_eq (Or.inl rfl) htoken]
    simp [opened]
  -- The closing bracket files the token as a mailbox and leads back to the phrase.
  have hclose : step ((opened entries names).takeAll (ofChars mailbox)) 62 =
      closed entries names mailbox := by
    rw [htaken]
    simp [step, endToken, opened, htoken, file, rested, leave, closed, Utf8.decodeString_ofChars]
  rw [scan_step_of_ne (by decide), hopen, scan_takeAll hplain _ rfl,
    scan_step_of_ne (by decide), hclose]

/-- A mailbox that stands alone. -/
theorem scan_bare (entries : List Entry) {localPart domain : List Char} (hlocalNe : localPart ≠ [])
    (hdomainNe : domain ≠ []) (hlocal : ∀ c ∈ localPart, isMailboxChar c = true)
    (hdomain : ∀ c ∈ domain, isMailboxChar c = true) (blanks rest : Octets) :
    scan 0 (ofChars (localPart ++ '@' :: domain) ++ rest) (phrase entries [] blanks) =
      scan 0 rest (alone entries (localPart ++ '@' :: domain)) := by
  have hplain : ∀ text : List Char, (∀ c ∈ text, isMailboxChar c = true) → ∀ b ∈ ofChars text,
      b ≠ 61 ∧ ∀ s : Scanner, s.place = .phrase → s.step b = s.take b := by
    intro text htext b hb
    rcases List.mem_flatMap.1 hb with ⟨c, hc, hmem⟩
    rcases octet_of_isMailboxChar (htext c hc) hmem with ⟨hequals, hstep⟩
    exact ⟨hequals, fun s _ => hstep s⟩
  -- The two halves are taken, and the at sign between them is remembered.
  have htoken : (phrase entries [] blanks).token = [] := rfl
  have hfirst := takeAll_eq (Or.inl htoken) (ofChars_ne_nil hlocalNe)
  have hat : step ((phrase entries [] blanks).takeAll (ofChars localPart)) 64 =
      alone entries (localPart ++ ['@']) := by
    rw [hfirst]
    simp [step, take, phrase, alone, ofChars_ne_nil hlocalNe, ofChars_cons_of_ascii]
  have hblanks : (alone entries (localPart ++ ['@'])).blanks = [] := rfl
  have hsecond := takeAll_eq (Or.inr hblanks) (ofChars_ne_nil hdomainNe)
  have hend : (alone entries (localPart ++ ['@'])).takeAll (ofChars domain) =
      alone entries (localPart ++ '@' :: domain) := by
    rw [hsecond]
    simp [alone, ofChars_cons]
  rw [ofChars_append, ofChars_cons_of_ascii (by decide), List.append_assoc, List.cons_append,
    scan_takeAll (hplain localPart hlocal) _ rfl, scan_step_of_ne (by decide)]
  refine (congrArg (scan 0 _) hat).trans ?_
  rw [scan_takeAll (hplain domain hdomain) _ rfl, hend]

end Outbox.Address.Scanner
