import Outbox.Proofs.Dkim.Prescribed
import Outbox.Proofs.Dkim.Relaxed
import Outbox.Proofs.Dkim.Tags
import Outbox.Proofs.Headers
import Outbox.Proofs.Mime.Boundary
import Outbox.Proofs.Mime.Payload

/-!
# Outbox.Proofs.Dkim.Written — what is signed is what is written

A signature is made over the fields as they are stored, and then the fields are written and may
be folded. `recompute?` goes the other way: from the octets that arrive it reads the fields, the
tags of the signature and the body, and puts the input of the header hash together again.

* `recompute?_part` — from a signed header the same input comes out that was hashed.
* `recompute?_payload` — so it is for every payload that is built with a signature.
-/

namespace Outbox.Dkim

open Text

/-! ## The reader -/

/-- What a reader of a signed message finds. -/
structure Recomputed where
  /-- The input of the header hash. -/
  input : Octets
  /-- The body, as it arrived. -/
  body : Octets
  /-- The hash of the body that the signature names. -/
  bodyHash : List Char
  /-- The signature itself. -/
  value : List Char
deriving DecidableEq, Repr

/-- Reads a signed message: each name that the signature gives is looked up among the fields,
and the field of the signature comes last, without the signature itself. -/
def recompute? (octets : Octets) : Option Recomputed := do
  let (fields, body) ← Mime.readPart? octets
  let signature ← Mime.valueOf? fields Signature.fieldName
  let names ← tag? "h" signature.toList
  let bodyHash ← tag? "bh" signature.toList
  let value ← tag? "b" signature.toList
  let signed := (names.splitOn ':').filterMap fun name =>
    fields.find? fun e => sameName e.1 (String.ofList name)
  some
    { input := Octets.ofChars (signed.flatMap (fun e => relaxedField e.1 e.2)
        ++ relaxedField Signature.fieldName (String.ofList (emptied signature.toList)))
      body := body
      bodyHash := bodyHash
      value := value }

/-! ## Names -/

/-- A name of ASCII letters, digits and hyphens. -/
structure IsPlainName (name : String) : Prop where
  ne_nil : name.toList ≠ []
  plain : ∀ c ∈ name.toList, c.isAlphanum = true ∨ c = '-'

instance (name : String) : Decidable (IsPlainName name) :=
  decidable_of_iff (name.toList ≠ [] ∧ (name.toList.all fun c => c.isAlphanum || c == '-') = true)
    ⟨fun h => ⟨h.1, by simpa using h.2⟩, fun h => ⟨h.1, by simpa using h.2⟩⟩

/-- A character that has no meaning in a header or a tag. -/
def isHarmless (c : Char) : Bool :=
  c != ':' && c != ';' && !isAsciiWhite c && !isBlankChar c && !isLineBreak c

theorem isHarmless_of_plain {c : Char} (h : c.isAlphanum = true ∨ c = '-') :
    isHarmless c = true ∧ isHarmless c.toLower = true := by
  have hsmall : c.toNat < 128 := by
    rcases h with h | rfl
    · exact Octets.toNat_lt_of_isAlphanum h
    · decide
  revert h
  exact Octets.forall_ascii (P := fun c => c.isAlphanum = true ∨ c = '-' →
    isHarmless c = true ∧ isHarmless c.toLower = true) (by decide) hsmall

theorem IsPlainName.isFieldName {name : String} (h : IsPlainName name) :
    Mime.IsFieldName name.toList := by
  refine ⟨h.ne_nil, fun c hc => ?_⟩
  have hc := (isHarmless_of_plain (h.plain c hc)).1
  simp only [isHarmless, Bool.and_eq_true, bne_iff_ne, Bool.not_eq_true'] at hc
  exact ⟨hc.1.1.1.1, hc.2, hc.1.2⟩

/-- A field that is found again, unchanged, in what is written. -/
structure IsSendable (e : Field) : Prop where
  name : IsPlainName e.1
  value : IsFoldable e.2.toList

instance (value : List Char) : Decidable (IsFoldable value) := inferInstanceAs (Decidable (_ ∧ _))

instance (e : Field) : Decidable (IsSendable e) :=
  decidable_of_iff (IsPlainName e.1 ∧ IsFoldable e.2.toList)
    ⟨fun h => ⟨h.1, h.2⟩, fun h => ⟨h.1, h.2⟩⟩

/-- A text for the domain or the selector of a signature. -/
def IsPlainText (text : String) : Prop :=
  ∀ c ∈ text.toList, isBlankChar c = false ∧ c ≠ ';' ∧ isControl c = false

instance (text : String) : Decidable (IsPlainText text) :=
  decidable_of_iff
    ((text.toList.all fun c => decide (isBlankChar c = false ∧ c ≠ ';' ∧ isControl c = false)) =
      true) List.all_iff_forall_prop

theorem IsPlainText.isTagText {text : String} (h : IsPlainText text) :
    IsTagText text.toList := by
  intro c hc
  obtain ⟨hblank, hsemicolon, hcontrol⟩ := h c hc
  refine ⟨hsemicolon, ?_⟩
  cases hwhite : isAsciiWhite c with
  | false => rfl
  | true =>
    simp only [isAsciiWhite, Bool.or_eq_true, beq_iff_eq] at hwhite
    rcases hwhite with (((rfl | rfl) | rfl) | rfl) | rfl
    · exact absurd hblank (by decide)
    · exact absurd hblank (by decide)
    · exact absurd hcontrol (by decide)
    · exact absurd hcontrol (by decide)
    · exact absurd hcontrol (by decide)

/-! ## Signed headers -/

/-- The field of the signature is not among those that are signed. -/
theorem names_ne_fieldName {s : Settings}
    (h : ∀ name ∈ s.headers, sameName name Signature.fieldName = false) :
    ∀ name ∈ s.names, nameKey name ≠ nameKey Signature.fieldName := by
  have hdefault : ∀ name ∈ defaultHeaders, nameKey name ≠ nameKey Signature.fieldName := by decide
  intro name hname
  unfold Settings.names at hname
  split at hname
  · exact hdefault name hname
  · intro hkey
    have hsame := h name hname
    rw [sameName_iff.2 hkey] at hsame
    cases hsame

theorem toList_base64 (octets : Octets) :
    (base64 octets).toList = Base64.encodeText octets := String.toList_ofList

theorem isPlain_signature {s : Settings} {headers : Headers} (body : Octets) (time : Nat)
    (hdomain : IsPlainText s.domain) (hselector : IsPlainText s.selector)
    (hfields : ∀ e ∈ headers.entries, IsSendable e) (value : Octets) :
    ({ s.unsigned headers body time with value := base64 value } : Signature).IsPlain where
  domain := hdomain.isTagText
  selector := hselector.isTagText
  value := by
    rw [toList_base64]
    exact isTagText_encodeText value
  bodyHash := by
    have hhash := isTagText_encodeText (Sha256.hash (relaxedBody body))
    rwa [← toList_base64] at hhash
  names := by
    intro name hname c hc
    obtain ⟨e, he, rfl⟩ := List.mem_map.1 hname
    rw [String.toList_ofList] at hc
    obtain ⟨d, hd, rfl⟩ := List.mem_map.1 hc
    have hplain := (hfields e (mem_select he).1).name.plain d hd
    have hharmless := (isHarmless_of_plain hplain).2
    simp only [isHarmless, Bool.and_eq_true, bne_iff_ne, Bool.not_eq_true'] at hharmless
    exact ⟨hharmless.1.1.1.1, hharmless.1.1.1.2, hharmless.1.1.2⟩

/-- The fields that a reader looks up by the names in a signature are the ones that were
selected, as they are written. -/
theorem filterMap_splitOn {s : Settings} {headers : Headers} {body : Octets} {time : Nat}
    {signature : Signature} (hplain : signature.IsPlain)
    (hnames : signature.signedHeaders = (s.unsigned headers body time).signedHeaders)
    (hfields : ∀ e ∈ headers.entries, IsSendable e)
    (hlist : ∀ name ∈ s.names, nameKey name ≠ nameKey Signature.fieldName) (value : String) :
    (((":".intercalate signature.signedHeaders).toList.splitOn ':').filterMap fun name =>
        ((headers.insertFirst Signature.fieldName value).entries.map Mime.readBack).find?
          fun e => sameName e.1 (String.ofList name)) =
      (s.select headers).map Mime.readBack := by
  have hlookup (name : String) : ((headers.insertFirst Signature.fieldName value).entries.map
      Mime.readBack).find? (fun e => sameName e.1 name) =
      (Headers.getEntry? (headers.insertFirst Signature.fieldName value) name).map Mime.readBack :=
    Mime.find?_map_readBack _ name
  by_cases hnone : signature.signedHeaders = []
  · have hselect : s.select headers = [] := by
      have : (s.select headers).map (fun e => String.ofList (lower e.1.toList)) = [] := by
        rw [← hnone, hnames]
        rfl
      simpa using this
    -- A reader finds one empty name then, and no field has that.
    have hempty : Headers.getEntry? (headers.insertFirst Signature.fieldName value)
        (String.ofList []) = none := by
      rw [Headers.getEntry?_insertFirst, if_neg (by decide)]
      refine List.find?_eq_none.2 fun e he hsame => ?_
      have hkey : nameKey e.1 = nameKey (String.ofList []) := sameName_iff.1 hsame
      have hnil : e.1.toList = [] := by simpa [nameKey, lower] using hkey
      exact (hfields e he).name.ne_nil hnil
    have hsplit : (":".intercalate ([] : List String)).toList.splitOn ':' = [[]] := by decide
    rw [hnone, hsplit, hselect]
    simp [hlookup, hempty]
  · have hsame : ∀ name ∈ signature.signedHeaders,
        Headers.getEntry? (headers.insertFirst Signature.fieldName value) name =
          headers.getEntry? name := by
      intro name hname
      rw [hnames] at hname
      obtain ⟨e, he, rfl⟩ := List.mem_map.1 hname
      obtain ⟨-, listed, hlisted, hkey⟩ := mem_select he
      have hne : nameKey Signature.fieldName ≠ nameKey (String.ofList (lower e.1.toList)) := by
        rw [nameKey_ofList_lower]
        exact fun heq => hlist listed hlisted (hkey.symm.trans heq.symm)
      rw [Headers.getEntry?_insertFirst, if_neg hne]
    rw [splitOn_names hplain hnone, List.filterMap_map]
    calc signature.signedHeaders.filterMap _
        = signature.signedHeaders.filterMap fun name =>
            (headers.getEntry? name).map Mime.readBack := by
          refine List.filterMap_congr fun name hname => ?_
          rw [Function.comp_apply, String.ofList_toList, hlookup, hsame name hname]
      _ = (signature.signedHeaders.filterMap headers.getEntry?).map Mime.readBack := by
          rw [List.map_filterMap]
      _ = (s.select headers).map Mime.readBack := by
          rw [hnames, filterMap_signedHeaders]

/-- The relaxed form of fields is not changed by writing. -/
theorem flatMap_relaxedField {fields : List Field} (h : ∀ e ∈ fields, IsSendable e) :
    (fields.map Mime.readBack).flatMap (fun e => relaxedField e.1 e.2) =
      fields.flatMap fun e => relaxedField e.1 e.2 := by
  rw [List.flatMap_map]
  refine List.flatMap_congr fun e he => ?_
  rw [relaxedField, relaxedField, Mime.readBack, String.toList_ofList,
    relaxedHeader_written (h e he).value]

theorem isPlainName_fieldName : IsPlainName Signature.fieldName where
  ne_nil := by decide
  plain := List.all_iff_forall_prop.1 (by decide)

/-- From what is written under a signature, a reader gets the input that was hashed for it. -/
theorem recompute?_part {s : Settings} {headers : Headers} {body : Octets} {time : Nat}
    {signature : Signature} (hdomain : IsPlainText s.domain) (hselector : IsPlainText s.selector)
    (hlist : ∀ name ∈ s.headers, sameName name Signature.fieldName = false)
    (hfields : ∀ e ∈ headers.entries, IsSendable e)
    (hsign : s.signAt headers body time = .ok signature) :
    recompute? (Mime.part (headers.insertFirst Signature.fieldName signature.render).entries body) =
      some
        { input := hashedHeader (s.select headers) (s.unsigned headers body time)
          body := body
          bodyHash := (base64 (Sha256.hash (relaxedBody body))).toList
          value := signature.value.toList } := by
  have hnames := names_ne_fieldName hlist
  obtain ⟨key, value, -, -, rfl⟩ := signAt_cases hsign
  -- The signature is the unsigned one with a value, and emptying it takes the value out again.
  have hplain := isPlain_signature body time hdomain hselector hfields value
  generalize hsignature :
    ({ s.unsigned headers body time with value := base64 value } : Signature) = signature at *
  have hsigned : signature.signedHeaders = (s.unsigned headers body time).signedHeaders := by
    rw [← hsignature]
  have hempty : emptied signature.render.toList = (s.unsigned headers body time).render.toList := by
    rw [emptied_render hplain, ← hsignature]
    rfl
  have hbodyHash : signature.bodyHash = base64 (Sha256.hash (relaxedBody body)) := by
    rw [← hsignature]
    rfl
  have hread : ∀ e ∈ (headers.insertFirst Signature.fieldName signature.render).entries,
      Mime.IsFieldName e.1.toList := by
    intro e he
    rcases List.mem_cons.1 he with rfl | he
    · exact isPlainName_fieldName.isFieldName
    · exact (hfields e (Field.mem_drop he)).name.isFieldName
  have hfield : Mime.valueOf? ((headers.insertFirst Signature.fieldName
      signature.render).entries.map Mime.readBack) Signature.fieldName = some signature.render := by
    have hname : sameName (Mime.readBack (Signature.fieldName, signature.render)).1
        Signature.fieldName = true := sameName_iff.2 rfl
    rw [Headers.insertFirst, List.map_cons, Mime.valueOf?_cons, if_pos hname, Mime.readBack,
      written_render hplain, String.ofList_toList]
  obtain ⟨htagNames, htagHash, htagValue⟩ := tag?_render hplain
  -- The fields that are looked up differ from the selected ones only by the folding.
  have hlookup := filterMap_splitOn hplain hsigned hfields hnames signature.render
  have hrelaxed := flatMap_relaxedField fun e he => hfields e (mem_select (s := s) he).1
  unfold recompute?
  rw [Mime.readPart?_part (.of_isFieldName hread)]
  simp only [Option.bind_eq_bind, Option.bind_some]
  rw [hfield, Option.bind_some, htagNames, Option.bind_some, htagHash, Option.bind_some, htagValue,
    Option.bind_some, hlookup, hrelaxed, hempty, String.ofList_toList, hbodyHash, hashedHeader]

/-! ## Built messages -/

theorem isFoldable_of_no_return {value : List Char} (h : ∀ c ∈ value, c ≠ '\r' ∧ c ≠ '\x0c') :
    IsFoldable value := by
  refine ⟨?_, fun hfeed => (h _ hfeed).2 rfl⟩
  induction value with
  | nil => rfl
  | cons c rest ih =>
    rw [hasNoBareReturn_cons (h c List.mem_cons_self).1]
    exact ih fun d hd => h d (List.mem_cons_of_mem c hd)

theorem isPlainName_contentType : IsPlainName "Content-Type" where
  ne_nil := by decide
  plain := List.all_iff_forall_prop.1 (by decide)

theorem isPlainName_transferEncoding : IsPlainName "Content-Transfer-Encoding" where
  ne_nil := by decide
  plain := List.all_iff_forall_prop.1 (by decide)

theorem isFoldable_multipartType {kind : String}
    (hkind : ∀ c ∈ kind.toList, c ≠ '\r' ∧ c ≠ '\x0c') (n : BitVec 128) :
    IsFoldable (Mime.multipartType kind (Mime.boundary n)).toList := by
  have hopen : ∀ c ∈ "multipart/".toList, c ≠ '\r' ∧ c ≠ '\x0c' :=
    List.all_iff_forall_prop.1 (by decide)
  have hmiddle : ∀ c ∈ "; boundary=\"".toList, c ≠ '\r' ∧ c ≠ '\x0c' :=
    List.all_iff_forall_prop.1 (by decide)
  have hclose : ∀ c ∈ "\"".toList, c ≠ '\r' ∧ c ≠ '\x0c' :=
    List.all_iff_forall_prop.1 (by decide)
  refine isFoldable_of_no_return fun c hc => ?_
  simp only [Mime.multipartType, String.toList_append, List.mem_append] at hc
  rcases hc with (((hc | hc) | hc) | hc) | hc
  · exact hopen c hc
  · exact hkind c hc
  · exact hmiddle c hc
  · have hplain := (Mime.boundary_plain hc).2.1
    constructor
    · rintro rfl
      exact absurd hplain (by decide)
    · rintro rfl
      exact absurd hplain (by decide)
  · exact hclose c hc

theorem isSendable_markMultipart {h : Headers} (hfields : ∀ e ∈ h.entries, IsSendable e)
    {kind : String} (hkind : ∀ c ∈ kind.toList, c ≠ '\r' ∧ c ≠ '\x0c') (n : BitVec 128) :
    ∀ e ∈ (Mime.markMultipart h kind (Mime.boundary n)).entries, IsSendable e :=
  Headers.forall_insert (Headers.forall_erase hfields)
    ⟨isPlainName_contentType, isFoldable_multipartType hkind n⟩

theorem isSendable_markText {h : Headers} (hfields : ∀ e ∈ h.entries, IsSendable e)
    {type : String} (htype : ∀ c ∈ type.toList, c ≠ '\r' ∧ c ≠ '\x0c') :
    ∀ e ∈ (Mime.markText h type).entries, IsSendable e := by
  have hencoding : ∀ c ∈ "quoted-printable".toList, c ≠ '\r' ∧ c ≠ '\x0c' :=
    List.all_iff_forall_prop.1 (by decide)
  have htyped : ∀ e ∈ (h.insert "Content-Type" type).entries, IsSendable e :=
    Headers.forall_insert hfields ⟨isPlainName_contentType, isFoldable_of_no_return htype⟩
  exact Headers.forall_insert htyped
    ⟨isPlainName_transferEncoding, isFoldable_of_no_return hencoding⟩

/-- The fields that describe a body can be sent if the other ones can. -/
theorem isSendable_of_shape {m : Message} {f : Mime.Finishing} {o : Mime.Occasion}
    {c : Mime.Composed} (h : Mime.Shape m f o c)
    (hfields : ∀ e ∈ (Mime.finalHeaders m f o).entries, IsSendable e) :
    ∀ e ∈ c.headers.entries, IsSendable e := by
  cases h with
  | mixed parts => exact isSendable_markMultipart hfields (List.all_iff_forall_prop.1 (by decide)) _
  | alternative text html =>
    exact isSendable_markMultipart hfields (List.all_iff_forall_prop.1 (by decide)) _
  | html html => exact isSendable_markText hfields (List.all_iff_forall_prop.1 (by decide))
  | plain => exact isSendable_markText hfields (List.all_iff_forall_prop.1 (by decide))

/-- From the octets of a signed message a reader gets the very input that was hashed for the
signature in it, and a body with the hash that the signature names. -/
theorem recompute?_payload (m : Message) (f : Mime.Finishing) (hooks : Hooks) (o : Mime.Occasion)
    (now : Instant) (a : Ambient) (p : Octets) (s : Settings) (hdkim : f.dkim = some s)
    (hfields : ∀ e ∈ (Mime.finalHeaders m f o).entries, IsSendable e)
    (hdomain : IsPlainText s.domain) (hselector : IsPlainText s.selector)
    (hlist : ∀ name ∈ s.headers, sameName name Signature.fieldName = false)
    (hbuild : (build m f hooks o now a).1 = .ok p) :
    ∃ c signature r, Mime.compose m f o = .ok c ∧
      s.signAt c.headers c.body o.signed = .ok signature ∧ recompute? p = some r ∧
      r.input = hashedHeader (s.select c.headers) (s.unsigned c.headers c.body o.signed) ∧
      r.bodyHash = (base64 (Sha256.hash (relaxedBody r.body))).toList ∧
      ∃ key value, s.key = .ok key ∧ key.sign? (Sha256.hash r.input) = some value ∧
        r.value = (base64 value).toList := by
  obtain ⟨-, hpayload⟩ := payload_of_build hbuild
  obtain ⟨c, signed, hcompose, hsigned, rfl⟩ := Mime.payload_eq_ok_iff.1 hpayload
  rcases Mime.sign_cases hsigned with ⟨hnone, -⟩ | ⟨s', signature, hsome, hsign, rfl⟩
  · rw [hdkim] at hnone
    cases hnone
  · obtain rfl : s = s' := Option.some.inj (hdkim.symm.trans hsome)
    -- Composing adds only fields that can be sent, so the signed header is as required.
    have hsendable := isSendable_of_shape (Mime.shape_of_compose hcompose) hfields
    have hrecompute := recompute?_part hdomain hselector hlist hsendable hsign
    obtain ⟨key, value, hkey, hvalue, hsignature⟩ := signAt_cases hsign
    have hbase64 : signature.value = base64 value := by rw [hsignature]
    refine ⟨c, signature, _, hcompose, hsign, hrecompute, ?_⟩
    dsimp only
    exact ⟨rfl, rfl, key, value, hkey, hvalue, by rw [hbase64]⟩

/-- A note that is signed, with the line of text as its body. -/
def greetingNote : Message where
  sender := .ofMailbox "a@x.org"
  direct := [.ofMailbox "b@x.org"]
  copies := []
  blindCopies := []
  subject := ""
  textBody := some (Octets.ofString "hi")
  htmlBody := none
  attachments := []
  headers := .empty
  trackingId := none

/-- The first second of 1970. -/
def firstSecond : Mime.Occasion := { Mime.epoch with signed := 1 }

theorem compose_greetingNote :
    ∃ c, Mime.compose greetingNote ⟨none, some shortSettings⟩ firstSecond = .ok c ∧
      shortSettings.select c.headers = shortSettings.select senderOnly ∧ c.body = greeting := by
  have hfield : (Mime.compose greetingNote ⟨none, some shortSettings⟩ firstSecond).map (fun c =>
      (c.headers.getEntry? "from", c.body)) = .ok (senderOnly.getEntry? "from", greeting) := by
    rfl
  cases hcompose : Mime.compose greetingNote ⟨none, some shortSettings⟩ firstSecond with
  | error e => simp [hcompose, Except.map] at hfield
  | ok c =>
    obtain ⟨hentry, hbody⟩ : c.headers.getEntry? "from" = senderOnly.getEntry? "from" ∧
        c.body = greeting := by
      simpa [hcompose, Except.map] using hfield
    refine ⟨c, rfl, ?_, hbody⟩
    have hnames : shortSettings.names = ["from"] := rfl
    simp only [Settings.select, hnames, List.filterMap_cons, hentry, List.filterMap_nil]

theorem unsigned_congr {s : Settings} {a b : Headers} (h : s.select a = s.select b) (body : Octets)
    (time : Nat) : s.unsigned a body time = s.unsigned b body time := by
  rw [Settings.unsigned, Settings.unsigned, h]

/-- What it takes to build a payload with a signature. -/
theorem exists_build {m : Message} {f : Mime.Finishing} {o : Mime.Occasion} {c : Mime.Composed}
    {s : Settings} {signature : Signature} (hvalid : m.validate = .ok ()) (hdkim : f.dkim = some s)
    (hcompose : Mime.compose m f o = .ok c)
    (hsign : s.signAt c.headers c.body o.signed = .ok signature) (hooks : Hooks) (now : Instant)
    (a : Ambient) : ∃ p, (build m f hooks o now a).1 = .ok p := by
  have hsigned : c.sign f.dkim o.signed =
      .ok ⟨c.headers.insertFirst Signature.fieldName signature.render, c.body⟩ := by
    simp only [Mime.Composed.sign, hdkim, hsign]
  have hpayload := Mime.payload_eq_ok_iff.2 ⟨c, _, hcompose, hsigned, rfl⟩
  refine ⟨_, Eq.trans ?_ hpayload⟩
  simp only [build, hvalid]

theorem build_greetingNote : ∃ p, (build greetingNote ⟨none, some shortSettings⟩ {} firstSecond
    .start atRest).1 = .ok p := by
  obtain ⟨c, hcompose, hselect, hbody⟩ := compose_greetingNote
  have hhash : Sha256.hash (hashedHeader (shortSettings.select c.headers)
      (shortSettings.unsigned c.headers c.body 1)) = greetingHash := by
    rw [unsigned_congr hselect, hselect, hbody, hashedHeader_greeting, hash_greetingText]
  obtain ⟨signature, hsign⟩ :=
    exists_signAt fields_shortSettings key_shortSettings hhash sign_greetingHash
  exact exists_build rfl rfl hcompose hsign {} .start atRest

/-- From the note that is signed a reader gets the text whose hash was signed. -/
theorem recompute?_greetingNote :
    ∃ p r, (build greetingNote ⟨none, some shortSettings⟩ {} firstSecond .start atRest).1 = .ok p ∧
      recompute? p = some r ∧ r.input = Octets.ofChars greetingText ∧
      r.bodyHash = (base64 (Sha256.hash (relaxedBody r.body))).toList := by
  obtain ⟨p, hbuild⟩ := build_greetingNote
  obtain ⟨c, signature, r, hcompose, -, hrecompute, hinput, hbodyHash, -⟩ :=
    recompute?_payload greetingNote ⟨none, some shortSettings⟩ {} firstSecond .start atRest p
      shortSettings rfl (List.all_iff_forall_prop.1 (by decide)) (by decide) (by decide)
      (List.all_iff_forall_prop.1 (by decide)) hbuild
  refine ⟨p, r, hbuild, hrecompute, ?_, hbodyHash⟩
  obtain ⟨c', hcompose', hselect, hbody⟩ := compose_greetingNote
  obtain rfl : c = c' := Except.ok.inj (hcompose.symm.trans hcompose')
  have htime : firstSecond.signed = 1 := rfl
  rw [hinput, htime, unsigned_congr hselect, hselect, hbody, hashedHeader_greeting]

end Outbox.Dkim
