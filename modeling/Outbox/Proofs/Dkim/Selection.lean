import Mathlib.Data.List.DropRight
import Outbox.Proofs.Dkim.Prescribed
import Outbox.Proofs.Text.Lines
import Outbox.Proofs.Text.Trim

/-!
# Outbox.Proofs.Dkim.Selection — the fields that a verifier takes

RFC 6376 section 5.4.2 says which fields the names of a signature stand for: the first time that a
name occurs it stands for the last field of that name, the second time for the one before it, and
so on, and for nothing when there are no more. A verifier reads the names from the list in the
signature (`listedNames`) and takes these fields (`standFor`).

A message has one field of each name. So a verifier takes no field twice (`nodup_standFor`), and
takes the fields that were signed if none was signed twice and the list gives their names as they
are (`standFor_map_key`, `listedNames_intercalate`).
-/

namespace Outbox.Dkim

open Text

/-! ## The verifier -/

/-- White space that may stand around the names of a list. -/
def isFoldingWhite (c : Char) : Bool := isBlankChar c || isLineBreak c

/-- The names in a list of signed fields, in lower case: the parts between colons without white
space around them, up to the semicolon that ends the tag. -/
def listedNames (list : List Char) : List (List Char) :=
  ((((lower list).takeWhile (· != ';')).splitOn ':').map (strip isFoldingWhite)).filter (· != [])

/-- The fields that names in lower case stand for, after the names `before`. The `k`-th time that
a name occurs it stands for the `k`-th field of that name from the bottom, if there is one. -/
def standFor (fields : List Field) (before : List (List Char)) : List (List Char) → List Field
  | [] => []
  | name :: rest =>
    ((fields.reverse.filter fun e => e.key == name)[before.count name]?).toList ++
      standFor fields (name :: before) rest

/-- The fields that a verifier takes for a signature. -/
def verified (fields : List Field) (signature : Signature) : List Field :=
  standFor fields [] (listedNames (":".intercalate signature.signedHeaders).toList)

/-! ## Reading a list -/

/-- A name in lower case that is read from a list as it is. -/
structure IsListable (name : List Char) : Prop where
  ne_nil : name ≠ []
  plain : ∀ c ∈ name, c ≠ ':' ∧ c ≠ ';'
  stripped : strip isFoldingWhite name = name

instance (name : List Char) : Decidable (IsListable name) :=
  decidable_of_iff (name ≠ [] ∧ (name.all fun c => c != ':' && c != ';') = true ∧
      strip isFoldingWhite name = name)
    ⟨fun h => ⟨h.1, by simpa using h.2.1, h.2.2⟩, fun h => ⟨h.1, by simpa using h.2, h.3⟩⟩

theorem isListable_of_mem_listedNames {list name : List Char} (h : name ∈ listedNames list) :
    IsListable name := by
  rcases List.mem_filter.1 h with ⟨hmem, hne⟩
  rcases List.mem_map.1 hmem with ⟨piece, hpiece, rfl⟩
  have hsub : ∀ c ∈ strip isFoldingWhite piece, c ∈ piece :=
    fun _ hc => strip_subset isFoldingWhite piece hc
  constructor
  · simpa using hne
  · intro c hc
    constructor
    · rintro rfl
      exact Octets.notMem_of_mem_splitOn hpiece (hsub _ hc)
    · rintro rfl
      have hlist := mem_intercalate_of_mem [':'] hpiece (hsub _ hc)
      rw [List.intercalate_splitOn] at hlist
      exact absurd (List.mem_takeWhile_imp hlist) (by decide)
  · exact strip_strip _ piece

/-- A list of names that can be listed is read as it is. -/
theorem listedNames_intercalate {names : List (List Char)} (h : ∀ name ∈ names, IsListable name)
    (hlower : ∀ name ∈ names, lower name = name) :
    listedNames ([':'].intercalate names) = names := by
  have hlist : ∀ c ∈ [':'].intercalate names, c.toLower = c ∧ c ≠ ';' := by
    intro c hc
    rcases mem_intercalate hc with hcolon | ⟨name, hname, hmem⟩
    · rw [List.mem_singleton.1 hcolon]
      decide
    · constructor
      · have hfixed : name.map Char.toLower = name.map id := by
          rw [List.map_id]
          exact hlower name hname
        exact List.map_inj_left.1 hfixed c hmem
      · exact ((h name hname).plain c hmem).2
  have hcut : (lower ([':'].intercalate names)).takeWhile (· != ';') = [':'].intercalate names := by
    have hsame : lower ([':'].intercalate names) = [':'].intercalate names := by
      rw [lower, List.map_congr_left fun c hc => (hlist c hc).1, List.map_id']
    rw [hsame, List.takeWhile_eq_self_iff]
    intro c hc
    simpa using (hlist c hc).2
  rw [listedNames, hcut]
  cases hnames : names with
  | nil => rfl
  | cons first rest =>
    rw [← hnames]
    have hcolon : ∀ name ∈ names, ':' ∉ name := by
      intro name hname hmem
      exact ((h name hname).plain ':' hmem).1 rfl
    have hstrip : ∀ name ∈ names, strip isFoldingWhite name = name :=
      fun name hname => (h name hname).stripped
    rw [List.splitOn_intercalate ':' hcolon (by simp [hnames]), List.map_congr_left hstrip,
      List.map_id', List.filter_eq_self]
    intro name hname
    simpa using (h name hname).ne_nil

/-! ## The fields of a message -/

section

variable {fields : List Field} (h : (fields.map Field.key).Nodup)

include h

/-- Where names are distinct, at most one field has a name. -/
theorem filter_key_eq (name : List Char) :
    (fields.filter fun e => e.key == name) = (fields.find? fun e => e.key == name).toList := by
  induction fields with
  | nil => rfl
  | cons e rest ih =>
    rcases List.nodup_cons.1 h with ⟨hnew, hrest⟩
    by_cases he : e.key = name
    · have hnone : ∀ d ∈ rest, ¬ (d.key == name) = true := by
        intro d hd hkey
        apply hnew
        rw [he, ← beq_iff_eq.1 hkey]
        exact List.mem_map_of_mem hd
      rw [List.filter_cons_of_pos (by simpa using he), List.filter_eq_nil_iff.2 hnone,
        List.find?_cons_of_pos (by simpa using he)]
      rfl
    · rw [List.filter_cons_of_neg (by simpa using he), List.find?_cons_of_neg (by simpa using he),
        ih hrest]

/-- A name stands for the field that has it, but only the first time. -/
theorem standFor_cons (before : List (List Char)) (name : List Char) (rest : List (List Char)) :
    standFor fields before (name :: rest) =
      (if name ∈ before then [] else (fields.find? fun e => e.key == name).toList) ++
        standFor fields (name :: before) rest := by
  rw [standFor, List.filter_reverse, filter_key_eq h]
  congr 1
  cases fields.find? fun e => e.key == name with
  | none => simp
  | some e =>
    by_cases hbefore : name ∈ before
    · have hcount : 0 < before.count name := List.count_pos_iff.2 hbefore
      obtain ⟨k, hk⟩ := Nat.exists_eq_succ_of_ne_zero hcount.ne'
      simp [hbefore, hk]
    · have hcount : before.count name = 0 := List.count_eq_zero.2 hbefore
      simp [hbefore, hcount]

/-- No field is taken twice, and each has a name that was not read before. -/
theorem nodup_standFor (before names : List (List Char)) :
    (standFor fields before names).Nodup ∧
      ∀ e ∈ standFor fields before names, e.key ∈ names ∧ e.key ∉ before := by
  induction names generalizing before with
  | nil => simp [standFor]
  | cons name rest ih =>
    rcases ih (name :: before) with ⟨hnodup, hmem⟩
    have hlater : ∀ e ∈ standFor fields (name :: before) rest,
        e.key ∈ rest ∧ e.key ≠ name ∧ e.key ∉ before := by
      intro e he
      rcases hmem e he with ⟨hrest, hnew⟩
      rw [List.mem_cons, not_or] at hnew
      exact ⟨hrest, hnew⟩
    have hweaken : ∀ e ∈ standFor fields (name :: before) rest,
        e.key ∈ name :: rest ∧ e.key ∉ before := by
      intro e he
      rcases hlater e he with ⟨hrest, -, hbefore⟩
      exact ⟨List.mem_cons_of_mem name hrest, hbefore⟩
    rw [standFor_cons h]
    split
    case isTrue => exact ⟨hnodup, hweaken⟩
    case isFalse hname =>
      cases hfind : fields.find? fun e => e.key == name with
      | none => exact ⟨hnodup, hweaken⟩
      | some d =>
        have hd : d.key = name := by simpa using List.find?_some hfind
        constructor
        · apply List.nodup_cons.2
          constructor
          · intro hagain
            exact (hlater d hagain).2.1 hd
          · exact hnodup
        · intro e he
          rcases List.mem_cons.1 he with rfl | he
          · rw [hd]
            exact ⟨List.mem_cons_self, hname⟩
          · exact hweaken e he

theorem find?_key {e : Field} (he : e ∈ fields) :
    (fields.find? fun d => d.key == e.key) = some e := by
  have hmem : e ∈ fields.filter fun d => d.key == e.key := List.mem_filter.2 ⟨he, by simp⟩
  rw [filter_key_eq h] at hmem
  simpa using hmem

/-- The names of distinct fields stand for these fields. -/
theorem standFor_map_key {taken : List Field} (htaken : ∀ e ∈ taken, e ∈ fields)
    (hnodup : taken.Nodup) (before : List (List Char)) (hbefore : ∀ e ∈ taken, e.key ∉ before) :
    standFor fields before (taken.map Field.key) = taken := by
  induction taken generalizing before with
  | nil => rfl
  | cons e taken ih =>
    rcases List.nodup_cons.1 hnodup with ⟨hnew, hnodup⟩
    have he := htaken e List.mem_cons_self
    have hrest : ∀ d ∈ taken, d ∈ fields := fun d hd => htaken d (List.mem_cons_of_mem e hd)
    rw [List.map_cons, standFor_cons h, if_neg (hbefore e List.mem_cons_self), find?_key h he,
      ih hrest hnodup]
    · rfl
    · intro d hd hmem
      rcases List.mem_cons.1 hmem with hkey | hmem
      · -- Two fields of one name are the same.
        have hsame : d = e := List.inj_on_of_nodup_map h (hrest d hd) he hkey
        exact hnew (hsame ▸ hd)
      · exact hbefore d (List.mem_cons_of_mem e hd) hmem

end

/-! ## What is signed and what is verified -/

/-- The list in a signature has the names of the selected fields. -/
theorem toList_signedHeaders (s : Settings) (headers : Headers) (body : Octets) (time : Nat) :
    (":".intercalate (s.unsigned headers body time).signedHeaders).toList =
      [':'].intercalate ((s.select headers).map Field.key) := by
  rw [toList_names, Settings.unsigned, List.map_map]
  congr 1
  apply List.map_congr_left
  intro e _
  exact String.toList_ofList

theorem verified_unsigned (fields : List Field) (s : Settings) (headers : Headers) (body : Octets)
    (time : Nat) (value : String) :
    verified fields { s.unsigned headers body time with value := value } =
      standFor fields [] (listedNames ([':'].intercalate ((s.select headers).map Field.key))) := by
  rw [verified, ← toList_signedHeaders s headers body time]

/-- The fields that are hashed for a signature are those that a verifier takes for it, in the same
order, exactly if no field is among them twice and the list gives each of their names as it is. -/
theorem verified_eq_select_iff (s : Settings) (headers : Headers) (body : Octets) (time : Nat)
    (signature : Signature) (h : s.signAt headers body time = .ok signature) :
    (∃ key value, s.key = .ok key ∧ signature.value = base64 value ∧
        key.sign? (Sha256.hash (hashedHeader (s.select headers) (s.unsigned headers body time))) =
          some value) ∧
      (verified headers.entries signature = s.select headers ↔
        (s.select headers).Nodup ∧ ∀ e ∈ s.select headers, IsListable e.key) := by
  rcases signAt_cases h with ⟨key, value, hkey, hvalue, rfl⟩
  refine ⟨⟨key, value, hkey, rfl, hvalue⟩, ?_⟩
  rw [verified_unsigned]
  constructor
  · intro heq
    rcases nodup_standFor headers.distinct [] (listedNames
      ([':'].intercalate ((s.select headers).map Field.key))) with ⟨hnodup, hmem⟩
    rw [heq] at hnodup hmem
    constructor
    · exact hnodup
    · intro e he
      exact isListable_of_mem_listedNames (hmem e he).1
  · rintro ⟨hnodup, hlistable⟩
    rw [listedNames_intercalate]
    · exact standFor_map_key headers.distinct (fun e he => (mem_select he).1) hnodup []
        (by simp)
    · intro name hname
      rcases List.mem_map.1 hname with ⟨e, he, rfl⟩
      exact hlistable e he
    · intro name hname
      rcases List.mem_map.1 hname with ⟨e, -, rfl⟩
      exact lower_lower e.1.toList

/-- Settings to sign the sender by the short key, under given names. -/
def senderSettings (names : List String) : Settings := { shortSettings with headers := names }

/-- What it takes to sign the line of text with the sender. -/
theorem exists_signAt_sender {names : List String} {text : List Char} {hash : Octets}
    (htext : hashedHeader ((senderSettings names).select senderOnly)
      ((senderSettings names).unsigned senderOnly greeting 1) = Octets.ofChars text)
    (hhash : Sha256.hash (Octets.ofChars text) = hash)
    (hsign : (shortKey.sign? hash).isSome = true) :
    ∃ signature, (senderSettings names).signAt senderOnly greeting 1 = .ok signature := by
  rw [← htext] at hhash
  exact exists_signAt fields_shortSettings key_shortSettings hhash hsign

/-- The sender is named once, in upper case, after a name that no field has. -/
theorem verified_sender :
    ∃ signature,
      (senderSettings ["X-Missing", "FROM"]).signAt senderOnly greeting 1 = .ok signature ∧
      verified senderOnly.entries signature = [("From", "a@x.org")] := by
  have hselect : (senderSettings ["X-Missing", "FROM"]).select senderOnly =
      [("From", "a@x.org")] := by decide
  have hshort : shortSettings.select senderOnly = [("From", "a@x.org")] := by decide
  have hunsigned : (senderSettings ["X-Missing", "FROM"]).unsigned senderOnly greeting 1 =
      shortSettings.unsigned senderOnly greeting 1 := by
    rw [Settings.unsigned, Settings.unsigned, hselect, hshort]
    rfl
  have htext : hashedHeader ((senderSettings ["X-Missing", "FROM"]).select senderOnly)
      ((senderSettings ["X-Missing", "FROM"]).unsigned senderOnly greeting 1) =
        Octets.ofChars greetingText := by
    rw [hunsigned, hselect, ← hshort, hashedHeader_greeting]
  rcases exists_signAt_sender htext hash_greetingText sign_greetingHash with ⟨signature, hsigned⟩
  refine ⟨signature, hsigned, ?_⟩
  rw [← hselect]
  apply (verified_eq_select_iff _ _ _ _ _ hsigned).2.2
  rw [hselect]
  decide

/-- What is hashed when the sender is named twice. -/
def twiceText : List Char :=
  "from:a@x.org\r\nfrom:a@x.org\r\ndkim-signature:a=rsa-sha256; ".toList ++
    "bh=RHI91NDg1Go8f6isolS2HCe2tXiflhd+gsgHAECfFTU=; ".toList ++
    "c=relaxed/relaxed; d=x.org; h=from:from; s=s; t=1; v=1; b=\r\n".toList

theorem hashedHeader_twice :
    hashedHeader ((senderSettings ["from", "From"]).select senderOnly)
      ((senderSettings ["from", "From"]).unsigned senderOnly greeting 1) =
        Octets.ofChars twiceText := by
  simp only [hashedHeader, relaxedField, toList_render, toList_tags, senderSettings, shortSettings,
    Settings.unsigned, base64, String.toList_ofList, bodyHash_greeting]
  decide +kernel

/-- The hash of that text. -/
def twiceHash : Octets :=
  [245, 6, 81, 154, 222, 69, 147, 225, 22, 142, 158, 130, 37, 21, 98, 55,
   213, 41, 136, 198, 115, 128, 114, 69, 175, 2, 95, 53, 148, 2, 184, 68]

theorem hash_twiceText : Sha256.hash (Octets.ofChars twiceText) = twiceHash := by
  decide +kernel

theorem sign_twiceHash : (shortKey.sign? twiceHash).isSome = true := by
  decide +kernel

/-- The sender is named twice, and so hashed twice, but a verifier takes it once. -/
theorem verified_sender_twice :
    ∃ signature, (senderSettings ["from", "From"]).signAt senderOnly greeting 1 = .ok signature ∧
      (senderSettings ["from", "From"]).select senderOnly =
        [("From", "a@x.org"), ("From", "a@x.org")] ∧
      verified senderOnly.entries signature = [("From", "a@x.org")] := by
  have hselect : (senderSettings ["from", "From"]).select senderOnly =
      [("From", "a@x.org"), ("From", "a@x.org")] := by decide
  rcases exists_signAt_sender hashedHeader_twice hash_twiceText sign_twiceHash with
    ⟨signature, hsigned⟩
  refine ⟨signature, hsigned, hselect, ?_⟩
  rcases signAt_cases hsigned with ⟨key, value, -, -, rfl⟩
  rw [verified_unsigned, hselect]
  decide

end Outbox.Dkim
