import Outbox.Proofs.Headers
import Outbox.Proofs.Mime.Field
import Outbox.Proofs.Mime.Payload

/-!
# Outbox.Proofs.Mime.HeaderBlock — which header blocks are read back

A reader cuts a payload at its first empty line, joins the lines of every field and takes the
name of a field from before its first colon. It finds the fields that were written exactly if
their names hold.

* `namesHold_of_readPart?` — all names that a reader finds hold, whatever it reads.
* `readsBack_part` — so a part is read back under its own names if and only if these hold. No
  value takes part in this.
* `readsBack_build` — in a payload the only names that may not hold are those of the caller's
  header fields. Nothing else that the caller gives comes into a name.
-/

namespace Outbox.Mime

open Octets Text

/-- A reader finds one field under each of these names, in order, and then this content. -/
def ReadsBack (names : List String) (content octets : Octets) : Prop :=
  ∃ found, readPart? octets = some (found, content) ∧ found.map Prod.fst = names

/-! ## What a reader finds -/

/-- What the lines of a text are joined to has no line break if they have none. -/
theorem not_isLineBreak_unfoldLines {lines : List (List Char)}
    (h : ∀ line ∈ lines, ∀ c ∈ line, isLineBreak c = false) :
    ∀ line ∈ unfoldLines lines, ∀ c ∈ line, isLineBreak c = false := by
  induction lines with
  | nil => exact fun _ hline => absurd hline List.not_mem_nil
  | cons line rest ih =>
    have hline := h line List.mem_cons_self
    have hrest := ih fun l hl => h l (List.mem_cons_of_mem line hl)
    rw [unfoldLines]
    cases hunfold : unfoldLines rest with
    | nil =>
      intro l hl
      rwa [List.mem_singleton.1 hl]
    | cons next more =>
      rw [hunfold] at hrest
      have hmore := fun l hl => hrest l (List.mem_cons_of_mem next hl)
      dsimp only
      split
      · intro l hl
        rcases List.mem_cons.1 hl with rfl | hl
        · intro c hc
          rcases List.mem_append.1 hc with hc | hc
          · exact hline c hc
          · exact hrest next List.mem_cons_self c hc
        · exact hmore l hl
      · intro l hl
        rcases List.mem_cons.1 hl with rfl | hl
        · exact hline
        · exact hrest l hl

/-- Of joined lines none but the first belongs to the one before. -/
theorem continues_tail_unfoldLines (lines : List (List Char)) :
    ∀ line ∈ (unfoldLines lines).tail, continues line = false := by
  induction lines with
  | nil => exact fun _ hline => absurd hline List.not_mem_nil
  | cons line rest ih =>
    rw [unfoldLines]
    cases hunfold : unfoldLines rest with
    | nil => exact fun _ hline => absurd hline List.not_mem_nil
    | cons next more =>
      rw [hunfold] at ih
      dsimp only
      split
      case isTrue => exact ih
      case isFalse hnext =>
        intro l hl
        rcases List.mem_cons.1 hl with rfl | hl
        · simpa using hnext
        · exact ih l hl

/-- The name that is read from a line is what it begins with, up to a colon. -/
theorem prefix_of_readField? {line : List Char} {e : Field} (h : readField? line = some e) :
    e.1.toList <+: line ∧ ':' ∉ e.1.toList := by
  unfold readField? at h
  split at h
  case h_1 => cases h
  case h_2 =>
    obtain rfl := Option.some.inj h
    rw [String.toList_ofList]
    refine ⟨List.takeWhile_prefix _, fun hcolon => ?_⟩
    have := List.mem_takeWhile_imp hcolon
    simp at this

theorem continues_of_prefix {name line : List Char} (h : name <+: line)
    (hname : continues name = true) : continues line = true := by
  obtain ⟨rest, rfl⟩ := h
  exact continues_append hname rest

theorem exists_mem_of_mapM {α β : Type} {f : α → Option β} {xs : List α} {ys : List β}
    (h : xs.mapM f = some ys) : ∀ y ∈ ys, ∃ x ∈ xs, f x = some y := by
  induction xs generalizing ys with
  | nil =>
    obtain rfl : [] = ys := by simpa using h
    exact fun _ hy => absurd hy List.not_mem_nil
  | cons x xs ih =>
    simp only [List.mapM_cons, Option.bind_eq_bind, Option.bind_eq_some_iff] at h
    obtain ⟨y, hfirst, rest, hrest, hcons⟩ := h
    obtain rfl : y :: rest = ys := by simpa using hcons
    intro z hz
    rcases List.mem_cons.1 hz with rfl | hz
    · exact ⟨x, List.mem_cons_self, hfirst⟩
    · obtain ⟨x', hx', hread⟩ := ih hrest z hz
      exact ⟨x', List.mem_cons_of_mem x hx', hread⟩

theorem mapM_tail {α β : Type} {f : α → Option β} {xs : List α} {ys : List β}
    (h : xs.mapM f = some ys) : xs.tail.mapM f = some ys.tail := by
  cases xs with
  | nil =>
    obtain rfl : [] = ys := by simpa using h
    rfl
  | cons x xs =>
    simp only [List.mapM_cons, Option.bind_eq_bind, Option.bind_eq_some_iff] at h
    obtain ⟨y, -, rest, hrest, hcons⟩ := h
    obtain rfl : y :: rest = ys := by simpa using hcons
    exact hrest

/-- No character of a line that was read as a text is a line break. -/
theorem not_isLineBreak_of_text? {line : Octets} (hline : IsLine line) {text : List Char}
    (h : text? line = some text) : ∀ c ∈ text, isLineBreak c = false := by
  obtain rfl := ofChars_of_text? h
  intro c hc
  by_contra hbreak
  have hcases : c = '\r' ∨ c = '\n' := by
    rw [Bool.not_eq_false, isLineBreak, Bool.or_eq_true, beq_iff_eq, beq_iff_eq] at hbreak
    exact hbreak
  have hmem : ∀ b ∈ String.utf8EncodeChar c, b ∈ ofChars text :=
    fun b hb => List.mem_flatMap.2 ⟨c, hc, hb⟩
  rcases hcases with rfl | rfl
  · exact hline.1 (hmem cr (by decide))
  · exact hline.2 (hmem lf (by decide))

theorem namesHold_of_readFields? {lines : List Octets} (hlines : ∀ line ∈ lines, IsLine line)
    {found : List Field} (h : readFields? lines = some found) :
    NamesHold (found.map Prod.fst) := by
  obtain ⟨texts, htexts, hfound⟩ := Option.bind_eq_some_iff.1 h
  have htext : ∀ text ∈ texts, ∀ c ∈ text, isLineBreak c = false := by
    intro text htext
    obtain ⟨line, hline, hread⟩ := exists_mem_of_mapM htexts text htext
    exact not_isLineBreak_of_text? (hlines line hline) hread
  have hbreak := not_isLineBreak_unfoldLines htext
  constructor
  · refine List.forall_mem_map.2 fun e he c hc => ?_
    obtain ⟨line, hline, hread⟩ := exists_mem_of_mapM hfound e he
    obtain ⟨hname, hcolon⟩ := prefix_of_readField? hread
    exact ⟨fun heq => hcolon (heq ▸ hc), hbreak line hline c (hname.subset hc)⟩
  · rw [← List.map_tail]
    refine List.forall_mem_map.2 fun e he => ?_
    obtain ⟨line, hline, hread⟩ := exists_mem_of_mapM (mapM_tail hfound) e he
    by_contra hname
    have hcontinues := continues_of_prefix (prefix_of_readField? hread).1 (by simpa using hname)
    rw [continues_tail_unfoldLines texts line hline] at hcontinues
    cases hcontinues

/-- All names that a reader finds hold. -/
theorem namesHold_of_readPart? {octets content : Octets} {found : List Field}
    (h : readPart? octets = some (found, content)) : NamesHold (found.map Prod.fst) := by
  obtain ⟨⟨lines, body⟩, hlines, hread⟩ := Option.bind_eq_some_iff.1 h
  obtain ⟨fields, hfields, heq⟩ := Option.map_eq_some_iff.1 hread
  cases heq
  exact namesHold_of_readFields? (isLine_of_untilEmpty? hlines) hfields

/-- A part is read back under its names exactly if these hold. -/
theorem readsBack_part (fields : List Field) (content : Octets) :
    ReadsBack (fields.map Prod.fst) content (part fields content) ↔
      NamesHold (fields.map Prod.fst) := by
  constructor
  · rintro ⟨found, hfound, hnames⟩
    rw [← hnames]
    exact namesHold_of_readPart? hfound
  · intro hnames
    refine ⟨fields.map readBack, readPart?_part hnames content, ?_⟩
    rw [List.map_map]
    rfl

/-! ## The names of a payload -/

instance (name : List Char) : Decidable (IsFieldName name) :=
  decidable_of_iff
    (name ≠ [] ∧ (name.all fun c => c != ':' && !isLineBreak c && !Dkim.isBlankChar c) = true)
    ⟨fun h => ⟨h.1, by simpa [and_assoc] using h.2⟩,
      fun h => ⟨h.1, by simpa [and_assoc] using h.2⟩⟩

/-- The names of the fields that a message is given on its way out. -/
def derivedNames : List String :=
  ["List-Unsubscribe", "From", "To", "Cc", "Subject", "Date", "MIME-Version", "X-Tracking-ID",
    "Message-ID", "Content-Type", "Content-Transfer-Encoding", Dkim.Signature.fieldName]

theorem isFieldName_of_mem_derivedNames :
    ∀ name ∈ derivedNames, IsFieldName name.toList :=
  List.all_iff_forall_prop.1 (by decide)

/-- A field has a derived name or one that the caller gave. -/
def IsNamedBy (m : Message) (e : Field) : Prop :=
  e.1 ∈ derivedNames ∨ e.1 ∈ m.headers.entries.map Prod.fst

section

variable {m : Message} {h : Headers} {name : String}

theorem isNamedBy_insert (hname : name ∈ derivedNames) (hfields : ∀ e ∈ h.entries, IsNamedBy m e)
    (value : String) : ∀ e ∈ (h.insert name value).entries, IsNamedBy m e :=
  Headers.forall_insert hfields (Or.inl hname)

theorem isNamedBy_insertUnlessEmpty (hname : name ∈ derivedNames)
    (hfields : ∀ e ∈ h.entries, IsNamedBy m e) (value : String) :
    ∀ e ∈ (insertUnlessEmpty h name value).entries, IsNamedBy m e := by
  unfold insertUnlessEmpty
  split
  · exact hfields
  · exact isNamedBy_insert hname hfields value

theorem isNamedBy_finalHeaders (f : Finishing) (o : Occasion) :
    ∀ e ∈ (finalHeaders m f o).entries, IsNamedBy m e := by
  unfold finalHeaders
  extract_lets base listed sent addressed copied titled dated versioned tracked
  have hbase : ∀ e ∈ base.entries, IsNamedBy m e :=
    Headers.forall_erase fun e he => Or.inr (List.mem_map_of_mem he)
  have hlisted : ∀ e ∈ listed.entries, IsNamedBy m e := by
    unfold listed
    split
    · split
      · exact hbase
      · exact isNamedBy_insert (by decide) hbase _
    · exact hbase
  have hsent : ∀ e ∈ sent.entries, IsNamedBy m e := isNamedBy_insert (by decide) hlisted _
  have haddressed : ∀ e ∈ addressed.entries, IsNamedBy m e :=
    isNamedBy_insertUnlessEmpty (by decide) hsent _
  have hcopied : ∀ e ∈ copied.entries, IsNamedBy m e :=
    isNamedBy_insertUnlessEmpty (by decide) haddressed _
  have htitled : ∀ e ∈ titled.entries, IsNamedBy m e :=
    isNamedBy_insertUnlessEmpty (by decide) hcopied _
  have hdated : ∀ e ∈ dated.entries, IsNamedBy m e := isNamedBy_insert (by decide) htitled _
  have hversioned : ∀ e ∈ versioned.entries, IsNamedBy m e :=
    isNamedBy_insert (by decide) hdated _
  have htracked : ∀ e ∈ tracked.entries, IsNamedBy m e :=
    isNamedBy_insertUnlessEmpty (by decide) hversioned _
  split
  · exact htracked
  · exact isNamedBy_insert (by decide) htracked _

theorem isNamedBy_of_shape {f : Finishing} {o : Occasion} {c : Composed} (h : Shape m f o c) :
    ∀ e ∈ c.headers.entries, IsNamedBy m e := by
  have hmultipart (kind : String) (n : BitVec 128) :
      ∀ e ∈ (markMultipart (finalHeaders m f o) kind (boundary n)).entries, IsNamedBy m e :=
    isNamedBy_insert (by decide) (Headers.forall_erase (isNamedBy_finalHeaders f o)) _
  have htext (type : String) :
      ∀ e ∈ (markText (finalHeaders m f o) type).entries, IsNamedBy m e :=
    isNamedBy_insert (by decide)
      (isNamedBy_insert (by decide) (isNamedBy_finalHeaders f o) type) _
  cases h with
  | mixed parts => exact hmultipart "mixed" o.boundary₁
  | alternative text html => exact hmultipart "alternative" o.boundary₁
  | html html => exact htext htmlType
  | plain => exact htext plainType

theorem isNamedBy_of_sign {c signed : Composed} {dkim : Option Dkim.Settings} {time : Nat}
    (hsign : c.sign dkim time = .ok signed) (hfields : ∀ e ∈ c.headers.entries, IsNamedBy m e) :
    ∀ e ∈ signed.headers.entries, IsNamedBy m e := by
  rcases sign_cases hsign with ⟨-, rfl⟩ | ⟨s, signature, -, -, rfl⟩
  · exact hfields
  · have hderived : Dkim.Signature.fieldName ∈ derivedNames := by decide
    exact Headers.forall_insertFirst hfields (Or.inl hderived)

end

/-- The fields of a payload are read back, in order and under their names, and the content after
them is the encoded body, exactly if the names hold. Every name that may not hold is one that the
caller gave to a field; nothing else in the message or in the settings can make a difference. -/
theorem readsBack_build (m : Message) (f : Finishing) (hooks : Hooks) (o : Occasion)
    (now : Instant) (a : Ambient) (p : Octets) (hbuild : (build m f hooks o now a).1 = .ok p) :
    ∃ c signed, compose m f o = .ok c ∧ c.sign f.dkim o.signed = .ok signed ∧
      p = signed.octets ∧ signed.body = c.body ∧
      (ReadsBack (signed.headers.entries.map Prod.fst) c.body p ↔
        NamesHold (signed.headers.entries.map Prod.fst)) ∧
      ∀ e ∈ signed.headers.entries,
        IsFieldName e.1.toList ∨ e.1 ∈ m.headers.entries.map Prod.fst := by
  obtain ⟨-, hpayload⟩ := payload_of_build hbuild
  obtain ⟨c, signed, hcompose, hsign, rfl⟩ := payload_eq_ok_iff.1 hpayload
  have hbody := body_of_sign hsign
  have hnames := isNamedBy_of_sign hsign (isNamedBy_of_shape (shape_of_compose hcompose))
  refine ⟨c, signed, hcompose, hsign, rfl, hbody, ?_, fun e he => ?_⟩
  · rw [← hbody]
    exact readsBack_part signed.headers.entries signed.body
  · exact (hnames e he).imp_left (isFieldName_of_mem_derivedNames e.1)

/-- A note without fields of the caller is read back. -/
theorem readsBack_dotNote : ∃ p c, (build dotNote ⟨none, none⟩ {} epoch .start atRest).1 = .ok p ∧
    compose dotNote ⟨none, none⟩ epoch = .ok c ∧
    ReadsBack (c.headers.entries.map Prod.fst) c.body p := by
  have hbuilt : ∃ p, (build dotNote ⟨none, none⟩ {} epoch .start atRest).1 = .ok p := exists_ok rfl
  obtain ⟨p, hp⟩ := hbuilt
  obtain ⟨c, signed, hcompose, hsign, -, -, hread, hnames⟩ :=
    readsBack_build dotNote ⟨none, none⟩ {} epoch .start atRest p hp
  obtain rfl : c = signed := Except.ok.inj hsign
  refine ⟨p, c, hp, hcompose, hread.2 (NamesHold.of_isFieldName fun e he => ?_)⟩
  exact (hnames e he).resolve_right List.not_mem_nil

/-- A note with one field of the caller, in whose name a line ends and another field begins. -/
def forgedNote : Message :=
  { dotNote with
    textBody := some (ofString "hi")
    headers := .ofList [("X-Note\r\nBcc", "c@x.org")] }

/-- The second line of its payload is a field that none of its final fields has the name of. -/
theorem not_readsBack_forgedNote :
    ∃ p c rest, (build forgedNote ⟨none, none⟩ {} epoch .start atRest).1 = .ok p ∧
      compose forgedNote ⟨none, none⟩ epoch = .ok c ∧
      ¬ ReadsBack (c.headers.entries.map Prod.fst) c.body p ∧
      p = ofString "X-Note" ++ crlf ++ ofString "Bcc: c@x.org" ++ crlf ++ rest ∧
      c.headers.contains "Bcc" = false := by
  have hbuilt : ∃ p, (build forgedNote ⟨none, none⟩ {} epoch .start atRest).1 = .ok p :=
    exists_ok rfl
  obtain ⟨p, hp⟩ := hbuilt
  obtain ⟨c, signed, hcompose, hsign, rfl⟩ := payload_eq_ok_iff.1 (payload_of_build hp).2
  obtain rfl : c = signed := Except.ok.inj hsign
  obtain rfl : ⟨markText (finalHeaders forgedNote ⟨none, none⟩ epoch) plainType,
      quotedPrintable (ofString "hi")⟩ = c := Except.ok.inj hcompose
  have hfirst : ∃ more, (markText (finalHeaders forgedNote ⟨none, none⟩ epoch) plainType).entries =
      ("X-Note\r\nBcc", "c@x.org") :: more := ⟨_, rfl⟩
  obtain ⟨more, hmore⟩ := hfirst
  refine ⟨_, _, fieldBlock more ++ crlf ++ quotedPrintable (ofString "hi"), hp, hcompose, ?_, ?_, ?_⟩
  · intro hread
    have hnames := (readsBack_part _ _).1 hread
    have hname : "X-Note\r\nBcc" ∈
        (markText (finalHeaders forgedNote ⟨none, none⟩ epoch) plainType).entries.map Prod.fst := by
      rw [hmore]
      exact List.mem_cons_self
    exact absurd (hnames.plain _ hname '\r' (by decide)).2 (by decide)
  · have hfield : fieldOctets "X-Note\r\nBcc" "c@x.org" =
        ofString "X-Note" ++ crlf ++ ofString "Bcc: c@x.org" ++ crlf := by decide
    rw [Composed.octets, part, hmore, ← hfield]
    simp [fieldBlock]
  · rfl

end Outbox.Mime
