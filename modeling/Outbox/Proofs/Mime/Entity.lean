import Outbox.Proofs.Headers
import Outbox.Proofs.Mime.Base64Lines
import Outbox.Proofs.Mime.Boundary
import Outbox.Proofs.Mime.Payload
import Outbox.Proofs.Mime.QuotedPrintable

/-!
# Outbox.Proofs.Mime.Entity — reading a message back

`readEntity` is a reader of the whole body: it decodes a content by its transfer encoding, and
cuts a multipart body at the lines of the boundary that its type names. `Entity.ofMessage` is
what a message describes, in four shapes.

The invariant of all encoded octets is that they are lines, none of which begins like the line
of a boundary (`IsUnmarked`). So the only lines of a boundary are those that were put there.
-/

namespace Outbox.Mime

open Octets

/-! ## The reader -/

/-- A part of a message as a reader finds it. -/
inductive Entity where
  /-- A content, decoded. -/
  | single (fields : List Field) (content : Octets)
  /-- The parts of a multipart body. -/
  | multipart (fields : List Field) (parts : List Entity)

theorem type_ne_encoding : ¬ sameName "Content-Type" "Content-Transfer-Encoding" = true := by
  decide

/-- Decodes a content. The lines of base64 are read as one. -/
def decodeContent? (encoding : String) (content : Octets) : Option Octets :=
  if encoding = "quoted-printable" then unquote? content
  else if encoding = "base64" then (lines? content).bind fun lines => Base64.decode lines.flatten
  else none

/-- Reads a content under its fields, down to a given depth of parts within parts. -/
def readEntity : Nat → List Field → Octets → Option Entity
  | 0, _, _ => none
  | depth + 1, fields, content =>
    match valueOf? fields "Content-Transfer-Encoding" with
    | some encoding => (decodeContent? encoding content).map (.single fields)
    | none => do
      let type ← valueOf? fields "Content-Type"
      let boundary ← boundaryOf? type.toList
      let parts ← readParts? boundary content
      let entities ← parts.mapM fun p =>
        (readPart? p).bind fun (fields, content) => readEntity depth fields content
      some (.multipart fields entities)

/-- Reads a part, down to a given depth. -/
def readPartEntity (depth : Nat) (octets : Octets) : Option Entity :=
  (readPart? octets).bind fun (fields, content) => readEntity depth fields content

/-! ## What a message describes -/

namespace Entity

/-- The fields of a part. -/
def fields : Entity → List Field
  | single fields _ => fields
  | multipart fields _ => fields

/-- A text body: it ends a line, and a carriage return is no part of it. -/
def textContent (body : Octets) : Octets := body.filter (· ≠ cr) ++ [lf]

/-- A text body as a part. -/
def ofText (type : String) (body : Octets) : Entity :=
  .single [("Content-Type", type), ("Content-Transfer-Encoding", "quoted-printable")]
    (textContent body)

/-- The bodies that there are, the plain one first. -/
def ofBodies (text html : Option Octets) : List Entity :=
  text.toList.map (ofText plainType) ++ html.toList.map (ofText htmlType)

/-- An attachment with its content as it is. -/
def ofAttachment (a : Attachment) : Entity :=
  .single ((attachmentFields a).map readBack) a.source.content

/-- The bodies as one part next to attachments. -/
def ofBodyPart (inner : String) (text html : Option Octets) : List Entity :=
  if text.isSome || html.isSome then
    [.multipart [("Content-Type", multipartType "alternative" inner)] (ofBodies text html)]
  else []

/-- What a message describes, under the fields at its top. -/
def ofMessage (m : Message) (o : Occasion) (fields : List Field) : Entity :=
  if m.attachments.isEmpty then
    match m.text?, m.html? with
    | some text, some html => .multipart fields (ofBodies (some text) (some html))
    | none, some html => .single fields (textContent html)
    | text, none => .single fields (textContent (text.getD []))
  else
    .multipart fields
      (ofBodyPart (boundary o.boundary₂) m.text? m.html? ++ m.attachments.map ofAttachment)

end Entity

/-- Whether a message has more than one part. -/
def isMultipart (m : Message) : Bool :=
  !m.attachments.isEmpty || (m.text?.isSome && m.html?.isSome)

/-- The type at the top of a message. -/
def topType (m : Message) (o : Occasion) : String :=
  if m.attachments.isEmpty then
    match m.text?, m.html? with
    | some _, some _ => multipartType "alternative" (boundary o.boundary₁)
    | none, some _ => htmlType
    | _, none => plainType
  else multipartType "mixed" (boundary o.boundary₁)

/-! ## Lines of encoded octets -/

theorem isUnmarked_nil : IsUnmarked [] := ⟨isLine_nil, by decide⟩

theorem IsQuoted.isUnmarked {line : Octets} (h : IsQuoted line) : IsUnmarked line := by
  refine ⟨h.1, ?_⟩
  rintro ⟨rest, rfl⟩
  have hchain := h.2
  simp at hchain

theorem isUnmarked_of_symbols {line : Octets} (h : ∀ s ∈ line, Base64.IsSymbol s) :
    IsUnmarked line := by
  refine ⟨isLine_of_symbols h, ?_⟩
  rintro ⟨rest, rfl⟩
  exact (symbol_plain (h 45 (by simp))).2.2 rfl

theorem ofLines_base64Lines (content : Octets) : OfLines IsUnmarked (base64Lines content) := by
  obtain ⟨lines, hlines, -, hsymbols⟩ := base64Lines_eq content
  exact ⟨lines, hlines, fun line hline => isUnmarked_of_symbols (hsymbols line hline)⟩

theorem ofLines_textBody (body : Octets) : OfLines IsUnmarked (quotedPrintable body) :=
  (ofLines_quotedPrintable body).mono fun _ => IsQuoted.isUnmarked

/-- The name of a field of a part. -/
def IsPartName (name : String) : Prop :=
  IsFieldName name.toList ∧ name.toList.head? = some 'C'

theorem isPartName_of_mem {name : String} (h : name ∈ ["Content-Type",
    "Content-Transfer-Encoding", "Content-Disposition", "Content-ID"]) : IsPartName name := by
  simp only [List.mem_cons, List.not_mem_nil, or_false] at h
  rcases h with rfl | rfl | rfl | rfl <;>
    exact ⟨⟨by decide, List.all_iff_forall_prop.1 (by decide)⟩, by decide⟩

theorem isPartName_type (type : String) : ∀ e ∈ [("Content-Type", type)], IsPartName e.1 := by
  intro e he
  rw [List.mem_singleton.1 he]
  exact isPartName_of_mem (by simp)

theorem ofLines_fieldBlock {fields : List Field} (h : ∀ e ∈ fields, IsPartName e.1) :
    OfLines IsUnmarked (fieldBlock fields) := by
  refine ⟨(blockLines fields).map ofChars, fieldBlock_eq fields, fun line hline => ?_⟩
  have hbreak : ∀ e ∈ fields, ∀ c ∈ e.1.toList, Text.isLineBreak c = false :=
    fun e he c hc => ((h e he).1.plain c hc).2.1
  refine ⟨(blockLines_isLine hbreak line hline).1, ?_⟩
  obtain ⟨text, htext, rfl⟩ := List.mem_map.1 hline
  obtain ⟨e, he, hmem⟩ := List.mem_flatMap.1 htext
  -- A line of a field begins with its name or with a space.
  rcases mem_fieldLines hmem with ⟨rest, rfl⟩ | ⟨rest, rfl⟩
  · obtain ⟨more, hname⟩ := List.head?_eq_some_iff.1 (h e he).2
    rw [hname, List.cons_append, ofChars_cons_of_ascii (by decide)]
    rintro ⟨tail, htail⟩
    have hfirst := congrArg List.head? htail
    exact absurd hfirst (by simp)
  · rw [ofChars_cons_of_ascii (by decide)]
    rintro ⟨tail, htail⟩
    have hfirst := congrArg List.head? htail
    exact absurd hfirst (by simp)

theorem ofLines_part {fields : List Field} {content : Octets} {P : Octets → Prop}
    (hP : ∀ line, IsUnmarked line → P line) (h : ∀ e ∈ fields, IsPartName e.1)
    (hcontent : OfLines P content) : OfLines P (part fields content) := by
  have hend : OfLines P crlf := .line (hP [] isUnmarked_nil)
  exact (((ofLines_fieldBlock h).mono hP).append hend).append hcontent

/-! ## Reading parts -/

theorem readEntity_single {fields : List Field} {encoding : String} {content decoded : Octets}
    (hencoding : valueOf? fields "Content-Transfer-Encoding" = some encoding)
    (hcontent : decodeContent? encoding content = some decoded) (depth : Nat) :
    readEntity (depth + 1) fields content = some (.single fields decoded) := by
  rw [readEntity, hencoding]
  dsimp only
  rw [hcontent, Option.map_some]

/-- A multipart body is read if each of its parts is. -/
theorem readEntity_multipart {fields : List Field} (kind : String) {n : BitVec 128}
    {parts : List Octets} {entities : List Entity} {depth : Nat}
    (hencoding : valueOf? fields "Content-Transfer-Encoding" = none)
    (htype : valueOf? fields "Content-Type" = some (multipartType kind (boundary n)))
    (hkind : ∀ c ∈ kind.toList, c ≠ ';')
    (hparts : ∀ p ∈ parts, OfLines (IsInside (boundary n).toList) p)
    (hread : parts.mapM (readPartEntity depth) = some entities) :
    readEntity (depth + 1) fields
        (parts.flatMap (delimiter (boundary n) ++ ·) ++ closing (boundary n)) =
      some (.multipart fields entities) := by
  have hboundary := boundaryOf?_multipartType hkind fun c hc => (boundary_plain (n := n) hc).1
  have hcut := readParts?_flatMap (isLine_boundary n) hparts
  unfold readPartEntity at hread
  rw [readEntity, hencoding]
  simp only [htype, Option.bind_eq_bind, Option.bind_some, hboundary, hcut, hread]

theorem readEntity_part {fields : List Field} (h : ∀ e ∈ fields, IsPartName e.1)
    (content : Octets) (depth : Nat) :
    readPartEntity depth (part fields content) =
      readEntity depth (fields.map readBack) content := by
  rw [readPartEntity, readPart?_part (.of_isFieldName fun e he => (h e he).1)]
  rfl

theorem decodeContent?_quotedPrintable (body : Octets) :
    decodeContent? "quoted-printable" (quotedPrintable body) = some (Entity.textContent body) := by
  rw [decodeContent?, if_pos rfl, unquote?_quotedPrintable]
  rfl

theorem decodeContent?_base64Lines (content : Octets) :
    decodeContent? "base64" (base64Lines content) = some content := by
  obtain ⟨lines, hlines, hflat, hsymbols⟩ := base64Lines_eq content
  have hread := lines?_unlines fun line hline => (isUnmarked_of_symbols (hsymbols line hline)).1
  rw [decodeContent?, if_neg (by decide), if_pos rfl, hlines, hread, Option.bind_some, hflat,
    Base64.decode_encode]

/-! ## Text bodies -/

/-- The types of text bodies. -/
def IsTextType (type : String) : Prop := type = plainType ∨ type = htmlType

/-- The fields of a text body. -/
def textFields (type : String) : List Field :=
  [("Content-Type", type), ("Content-Transfer-Encoding", "quoted-printable")]

theorem isPartName_textFields (type : String) : ∀ e ∈ textFields type, IsPartName e.1 := by
  intro e he
  simp only [textFields, List.mem_cons, List.not_mem_nil, or_false] at he
  rcases he with rfl | rfl
  · exact isPartName_of_mem (by simp)
  · exact isPartName_of_mem (by simp)

theorem map_readBack_textFields {type : String} (h : IsTextType type) :
    (textFields type).map readBack = textFields type := by
  rcases h with rfl | rfl
  · rfl
  · rfl

theorem readPartEntity_textPart (type : String) (h : IsTextType type) (body : Octets)
    (depth : Nat) : readPartEntity (depth + 1) (textPart type body) = some (.ofText type body) := by
  have hpart : textPart type body = part (textFields type) (quotedPrintable body) := rfl
  have hencoding : valueOf? (textFields type) "Content-Transfer-Encoding" =
      some "quoted-printable" := by
    rw [textFields, valueOf?_cons, if_neg type_ne_encoding, valueOf?_cons,
      if_pos (sameName_iff.2 rfl)]
  rw [hpart, readEntity_part (isPartName_textFields type), map_readBack_textFields h]
  exact readEntity_single hencoding (decodeContent?_quotedPrintable body) depth

theorem ofLines_textPart (type : String) (body : Octets) :
    OfLines IsUnmarked (textPart type body) :=
  ofLines_part (fun _ => id) (isPartName_textFields type) (ofLines_textBody body)

/-- The parts of an alternative. -/
def bodyParts (text html : Option Octets) : List Octets :=
  text.toList.map (textPart plainType) ++ html.toList.map (textPart htmlType)

theorem mapM_bodyParts (text html : Option Octets) (depth : Nat) :
    (bodyParts text html).mapM (readPartEntity (depth + 1)) = some (Entity.ofBodies text html) := by
  have hplain (body : Octets) := readPartEntity_textPart plainType (Or.inl rfl) body depth
  have hhtml (body : Octets) := readPartEntity_textPart htmlType (Or.inr rfl) body depth
  cases text <;> cases html <;> simp [bodyParts, Entity.ofBodies, hplain, hhtml]

theorem ofLines_bodyParts {text html : Option Octets} : ∀ p ∈ bodyParts text html,
    OfLines IsUnmarked p := by
  intro p hp
  rcases List.mem_append.1 hp with hp | hp
  · obtain ⟨body, -, rfl⟩ := List.mem_map.1 hp
    exact ofLines_textPart plainType body
  · obtain ⟨body, -, rfl⟩ := List.mem_map.1 hp
    exact ofLines_textPart htmlType body

/-- An alternative is made of lines that begin like those of no boundary, and of those of its
own. -/
theorem ofLines_alternative {P : Octets → Prop} (hP : ∀ line, IsUnmarked line → P line)
    {n : BitVec 128} (hopen : P (openLine (boundary n).toList))
    (hclose : P (closeLine (boundary n).toList)) (text html : Option Octets) :
    OfLines P (alternative (boundary n) text html) := by
  apply ofLines_parts hopen hclose
  intro p hp
  exact (ofLines_bodyParts p hp).mono hP

/-- The words of the type of an alternative. -/
def alternativeWords (n : BitVec 128) : List (List Char) :=
  ["multipart/alternative;".toList, "boundary=\"".toList ++ (boundary n).toList ++ ['"']]

theorem toList_alternativeType (n : BitVec 128) :
    (multipartType "alternative" (boundary n)).toList = [' '].intercalate (alternativeWords n) := by
  simp [multipartType, alternativeWords, List.intercalate]

theorem alternativeWords_plain {n : BitVec 128} : ∀ w ∈ alternativeWords n,
    w ≠ [] ∧ ∀ c ∈ w, Text.isAsciiWhite c = false := by
  have hkind : ∀ c ∈ "multipart/alternative;".toList, Text.isAsciiWhite c = false :=
    List.all_iff_forall_prop.1 (by decide)
  have hedge : ∀ c ∈ "boundary=\"".toList ++ ['"'], Text.isAsciiWhite c = false :=
    List.all_iff_forall_prop.1 (by decide)
  intro w hw
  simp only [alternativeWords, List.mem_cons, List.not_mem_nil, or_false] at hw
  rcases hw with rfl | rfl
  · exact ⟨by decide, hkind⟩
  · refine ⟨by simp, fun c hc => ?_⟩
    simp only [List.mem_append] at hc hedge
    rcases hc with (hc | hc) | hc
    · exact hedge c (Or.inl hc)
    · exact (boundary_plain hc).2.1
    · exact hedge c (Or.inr hc)

/-- The type of an alternative is too long for one line, but is read as it is. -/
theorem readBack_alternative (n : BitVec 128) :
    readBack ("Content-Type", multipartType "alternative" (boundary n)) =
      ("Content-Type", multipartType "alternative" (boundary n)) := by
  rw [readBack]
  dsimp only
  rw [toList_alternativeType, written_intercalate _ alternativeWords_plain,
    ← toList_alternativeType, String.ofList_toList]

/-- An alternative next to attachments is read as one part. -/
theorem readPartEntity_alternative (n : BitVec 128) (text html : Option Octets) (depth : Nat) :
    readPartEntity (depth + 2) (part [("Content-Type", multipartType "alternative" (boundary n))]
        (alternative (boundary n) text html)) =
      some (.multipart [("Content-Type", multipartType "alternative" (boundary n))]
        (Entity.ofBodies text html)) := by
  rw [readEntity_part (isPartName_type _), List.map_singleton, readBack_alternative]
  refine readEntity_multipart "alternative" ?_ ?_
    (List.all_iff_forall_prop.1 (by decide)) ?_ (mapM_bodyParts text html depth)
  · rw [valueOf?_cons, if_neg type_ne_encoding]
    rfl
  · rw [valueOf?_cons, if_pos (sameName_iff.2 rfl)]
  · exact fun p hp => (ofLines_bodyParts p hp).mono fun line hline => hline.isInside n

/-- The bodies as one part next to attachments, if there are any. -/
def bodiesPart (inner : BitVec 128) (text html : Option Octets) : List Octets :=
  if text.isSome || html.isSome then
    [part [("Content-Type", multipartType "alternative" (boundary inner))]
      (alternative (boundary inner) text html)]
  else []

theorem bodyPart_eq (outer : String) (inner : BitVec 128) (text html : Option Octets) :
    bodyPart outer (boundary inner) text html =
      (bodiesPart inner text html).flatMap (delimiter outer ++ ·) := by
  unfold bodyPart bodiesPart
  split
  · simp
  · rfl

theorem ofLines_bodiesPart {P : Octets → Prop} (hP : ∀ line, IsUnmarked line → P line)
    {inner : BitVec 128} (hopen : P (openLine (boundary inner).toList))
    (hclose : P (closeLine (boundary inner).toList)) {text html : Option Octets} :
    ∀ p ∈ bodiesPart inner text html, OfLines P p := by
  intro p hp
  unfold bodiesPart at hp
  split at hp
  · rw [List.mem_singleton.1 hp]
    exact ofLines_part hP (isPartName_type _) (ofLines_alternative hP hopen hclose text html)
  · cases hp

theorem mapM_bodiesPart (inner : BitVec 128) (text html : Option Octets) (depth : Nat) :
    (bodiesPart inner text html).mapM (readPartEntity (depth + 2)) =
      some (Entity.ofBodyPart (boundary inner) text html) := by
  unfold bodiesPart Entity.ofBodyPart
  split
  · simp [readPartEntity_alternative]
  · rfl

/-! ## Attachments -/

theorem isPartName_attachmentFields (a : Attachment) :
    ∀ e ∈ attachmentFields a, IsPartName e.1 := by
  intro e he
  refine isPartName_of_mem ?_
  unfold attachmentFields at he
  rcases List.mem_append.1 he with he | he
  · simp only [List.mem_cons, List.not_mem_nil, or_false] at he
    rcases he with rfl | rfl
    · simp
    · simp
  · split at he
    · simp only [List.mem_cons, List.not_mem_nil, or_false] at he
      rcases he with rfl | rfl
      · simp
      · simp
    · rw [List.mem_singleton.1 he]
      simp

/-- An attachment whose source was read, as a part. -/
def attachedPart (a : Attachment) : Octets :=
  part (attachmentFields a) (base64Lines a.source.content)

theorem readPartEntity_attachedPart (a : Attachment) (depth : Nat) :
    readPartEntity (depth + 1) (attachedPart a) = some (.ofAttachment a) := by
  have hencoding : valueOf? ((attachmentFields a).map readBack) "Content-Transfer-Encoding" =
      some "base64" := by
    have hvalue : (readBack ("Content-Transfer-Encoding", "base64")).2 = "base64" := by
      rfl
    have hfields : ∃ more, attachmentFields a =
        ("Content-Type", attachmentType a) :: ("Content-Transfer-Encoding", "base64") :: more :=
      ⟨_, rfl⟩
    obtain ⟨more, hmore⟩ := hfields
    have htype : ¬ sameName (readBack ("Content-Type", attachmentType a)).1
        "Content-Transfer-Encoding" = true := type_ne_encoding
    have hfirst : sameName (readBack ("Content-Transfer-Encoding", "base64")).1
        "Content-Transfer-Encoding" = true := sameName_iff.2 rfl
    rw [hmore, List.map_cons, List.map_cons, valueOf?_cons, if_neg htype, valueOf?_cons,
      if_pos hfirst, hvalue]
  rw [attachedPart, readEntity_part (isPartName_attachmentFields a)]
  exact readEntity_single hencoding (decodeContent?_base64Lines a.source.content) depth

theorem ofLines_attachedPart (a : Attachment) : OfLines IsUnmarked (attachedPart a) :=
  ofLines_part (fun _ => id) (isPartName_attachmentFields a)
    (ofLines_base64Lines a.source.content)

theorem mapM_attachedPart (attachments : List Attachment) (depth : Nat) :
    (attachments.map attachedPart).mapM (readPartEntity (depth + 1)) =
      some (attachments.map Entity.ofAttachment) := by
  induction attachments with
  | nil => rfl
  | cons a attachments ih => simp [readPartEntity_attachedPart, ih]

theorem content_of_readAll {s : Source} {content : Octets} (h : s.readAll = .ok content) :
    content = s.content := by
  unfold Source.readAll at h
  split at h
  · exact (Except.ok.inj h).symm
  · split at h
    · exact (Except.ok.inj h).symm
    · simp at h

theorem mapM_attachmentPart {attachments : List Attachment}
    (h : ∀ a ∈ attachments, ∃ content, a.source.readAll = .ok content) :
    attachments.mapM attachmentPart = .ok (attachments.map attachedPart) := by
  induction attachments with
  | nil => rfl
  | cons a attachments ih =>
    obtain ⟨content, hread⟩ := h a List.mem_cons_self
    have hpart : attachmentPart a = .ok (attachedPart a) := by
      rw [attachmentPart, hread, content_of_readAll hread]
      rfl
    have hrest := ih fun b hb => h b (List.mem_cons_of_mem a hb)
    rw [List.mapM_cons, hpart, hrest]
    rfl

/-! ## Whole messages -/

/-- The transfer encoding at the top of a message, if it has one. -/
def topEncoding (m : Message) : Option String :=
  if isMultipart m then none else some "quoted-printable"

/-- Fields say how a body is to be read. -/
structure Describes (m : Message) (o : Occasion) (fields : List Field) : Prop where
  type : valueOf? fields "Content-Type" = some (topType m o)
  encoding : valueOf? fields "Content-Transfer-Encoding" = topEncoding m

theorem encoding_ne_type : nameKey "Content-Transfer-Encoding" ≠ nameKey "Content-Type" := by
  decide

theorem valueOf?_markMultipart (h : Headers) (kind boundary : String) :
    valueOf? (markMultipart h kind boundary).entries "Content-Type" =
        some (multipartType kind boundary) ∧
      valueOf? (markMultipart h kind boundary).entries "Content-Transfer-Encoding" = none := by
  have htype := Headers.getEntry?_insert (h.erase "Content-Transfer-Encoding") "Content-Type"
    (multipartType kind boundary) "Content-Type"
  have hencoding := Headers.getEntry?_insert (h.erase "Content-Transfer-Encoding") "Content-Type"
    (multipartType kind boundary) "Content-Transfer-Encoding"
  rw [if_pos rfl] at htype
  rw [if_neg encoding_ne_type.symm, Headers.getEntry?_erase, if_pos rfl] at hencoding
  exact ⟨congrArg (Option.map Prod.snd) htype, congrArg (Option.map Prod.snd) hencoding⟩

theorem valueOf?_markText (h : Headers) (type : String) :
    valueOf? (markText h type).entries "Content-Type" = some type ∧
      valueOf? (markText h type).entries "Content-Transfer-Encoding" =
        some "quoted-printable" := by
  have htype := Headers.getEntry?_insert (h.insert "Content-Type" type)
    "Content-Transfer-Encoding" "quoted-printable" "Content-Type"
  have hencoding := Headers.getEntry?_insert (h.insert "Content-Type" type)
    "Content-Transfer-Encoding" "quoted-printable" "Content-Transfer-Encoding"
  have hinner := Headers.getEntry?_insert h "Content-Type" type "Content-Type"
  rw [if_pos rfl] at hinner hencoding
  rw [if_neg encoding_ne_type, hinner] at htype
  exact ⟨congrArg (Option.map Prod.snd) htype, congrArg (Option.map Prod.snd) hencoding⟩

/-- A signature changes no field that says how the body is to be read. -/
theorem Describes.sign {m : Message} {o : Occasion} {c signed : Composed}
    {dkim : Option Dkim.Settings} {time : Nat} (h : Describes m o c.headers.entries)
    (hsign : c.sign dkim time = .ok signed) : Describes m o signed.headers.entries := by
  rcases sign_cases hsign with ⟨_, rfl⟩ | ⟨s, signature, _, _, rfl⟩
  · exact h
  · have htype := Headers.getEntry?_insertFirst c.headers Dkim.Signature.fieldName
      signature.render "Content-Type"
    have hencoding := Headers.getEntry?_insertFirst c.headers Dkim.Signature.fieldName
      signature.render "Content-Transfer-Encoding"
    rw [if_neg (by decide)] at htype hencoding
    exact ⟨(congrArg (Option.map Prod.snd) htype).trans h.type,
      (congrArg (Option.map Prod.snd) hencoding).trans h.encoding⟩

theorem exists_compose {m : Message} (f : Finishing) (o : Occasion)
    (hread : ∀ a ∈ m.attachments, ∃ content, a.source.readAll = .ok content) :
    ∃ c, compose m f o = .ok c := by
  simp only [compose, mapM_attachmentPart hread, Except.map]
  split
  · split
    · exact ⟨_, rfl⟩
    · exact ⟨_, rfl⟩
    · exact ⟨_, rfl⟩
  · exact ⟨_, rfl⟩

theorem describes_of_compose {m : Message} {f : Finishing} {o : Occasion} {c : Composed}
    (h : Shape m f o c) : Describes m o c.headers.entries := by
  cases h with
  | mixed parts hattached hparts =>
    obtain ⟨htype, hencoding⟩ :=
      valueOf?_markMultipart (finalHeaders m f o) "mixed" (boundary o.boundary₁)
    exact ⟨by simp [htype, topType, hattached],
      by simp [hencoding, topEncoding, isMultipart, hattached]⟩
  | alternative text html hattached htext hhtml =>
    obtain ⟨htype, hencoding⟩ :=
      valueOf?_markMultipart (finalHeaders m f o) "alternative" (boundary o.boundary₁)
    exact ⟨by simp [htype, topType, hattached, htext, hhtml],
      by simp [hencoding, topEncoding, isMultipart, htext, hhtml]⟩
  | html html hattached htext hhtml =>
    obtain ⟨htype, hencoding⟩ := valueOf?_markText (finalHeaders m f o) htmlType
    exact ⟨by simp [htype, topType, hattached, htext, hhtml],
      by simp [hencoding, topEncoding, isMultipart, hattached, htext]⟩
  | plain hattached hhtml =>
    obtain ⟨htype, hencoding⟩ := valueOf?_markText (finalHeaders m f o) plainType
    exact ⟨by simp [htype, topType, hattached, hhtml],
      by simp [hencoding, topEncoding, isMultipart, hattached, hhtml]⟩

/-- A reader that knows the type and the encoding of the body finds what the message
describes. -/
theorem readEntity_of_compose {m : Message} {f : Finishing} {o : Occasion} {c : Composed}
    (h : Shape m f o c) (hread : ∀ a ∈ m.attachments, ∃ content, a.source.readAll = .ok content)
    (hne : o.boundary₁ ≠ o.boundary₂) {fields : List Field} (hfields : Describes m o fields)
    (depth : Nat) :
    readEntity (depth + 3) fields c.body = some (Entity.ofMessage m o fields) := by
  obtain ⟨htype, hencoding⟩ := hfields
  cases h with
  | mixed parts hattached hparts =>
    obtain rfl : m.attachments.map attachedPart = parts := by
      rw [mapM_attachmentPart hread] at hparts
      exact Except.ok.inj hparts
    have hentity : Entity.ofMessage m o fields = .multipart fields
        (Entity.ofBodyPart (boundary o.boundary₂) m.text? m.html? ++
          m.attachments.map Entity.ofAttachment) := by
      simp [Entity.ofMessage, hattached]
    -- The bodies and the attachments are parts of one list.
    rw [hentity, bodyPart_eq, ← List.flatMap_append]
    refine readEntity_multipart "mixed" ?_ ?_
      (List.all_iff_forall_prop.1 (by decide)) ?_ ?_
    · simp [hencoding, topEncoding, isMultipart, hattached]
    · simp [htype, topType, hattached]
    · intro p hp
      rcases List.mem_append.1 hp with hp | hp
      · have hinside := isInside_of_ne hne
        exact ofLines_bodiesPart (fun line hline => hline.isInside o.boundary₁) hinside.1 hinside.2
          p hp
      · obtain ⟨a, -, rfl⟩ := List.mem_map.1 hp
        exact (ofLines_attachedPart a).mono fun line hline => hline.isInside o.boundary₁
    · rw [List.mapM_append, mapM_bodiesPart, mapM_attachedPart]
      rfl
  | alternative text html hattached htext hhtml =>
    have hentity : Entity.ofMessage m o fields =
        .multipart fields (Entity.ofBodies (some text) (some html)) := by
      simp [Entity.ofMessage, hattached, htext, hhtml]
    rw [hentity]
    refine readEntity_multipart "alternative" ?_ ?_
      (List.all_iff_forall_prop.1 (by decide)) ?_
      (mapM_bodyParts (some text) (some html) (depth + 1))
    · simp [hencoding, topEncoding, isMultipart, htext, hhtml]
    · simp [htype, topType, hattached, htext, hhtml]
    · exact fun p hp => (ofLines_bodyParts p hp).mono fun line hline => hline.isInside o.boundary₁
  | html html hattached htext hhtml =>
    have hentity : Entity.ofMessage m o fields = .single fields (Entity.textContent html) := by
      simp [Entity.ofMessage, hattached, htext, hhtml]
    rw [hentity]
    refine readEntity_single ?_ (decodeContent?_quotedPrintable html) _
    simp [hencoding, topEncoding, isMultipart, hattached, htext]
  | plain hattached hhtml =>
    have hentity : Entity.ofMessage m o fields =
        .single fields (Entity.textContent (m.text?.getD [])) := by
      simp [Entity.ofMessage, hattached, hhtml]
    rw [hentity]
    refine readEntity_single ?_ (decodeContent?_quotedPrintable _) _
    simp [hencoding, topEncoding, isMultipart, hattached, hhtml]

theorem isSome_valueOf? (fields : List Field) (name : String) :
    (valueOf? (fields.map readBack) name).isSome =
      (fields.map Prod.fst).any fun other => sameName other name := by
  induction fields with
  | nil => rfl
  | cons e fields ih =>
    rw [List.map_cons, valueOf?_cons, List.map_cons, List.any_cons, ← ih]
    cases hname : sameName e.1 name with
    | true => simp [readBack, hname]
    | false => simp [readBack, hname]

theorem map_fst_attachmentFields (a : Attachment) :
    (attachmentFields a).map Prod.fst =
      ["Content-Type", "Content-Transfer-Encoding", "Content-Disposition"] ++
        if a.contentId.isSome then ["Content-ID"] else [] := by
  unfold attachmentFields
  cases a.contentId with
  | none => simp
  | some id => simp

theorem contentId_ofAttachment (a : Attachment) :
    (valueOf? (Entity.ofAttachment a).fields "Content-ID").isSome = a.contentId.isSome := by
  have hother : (["Content-Type", "Content-Transfer-Encoding", "Content-Disposition"].any
      fun other => sameName other "Content-ID") = false := by decide
  have hself : sameName "Content-ID" "Content-ID" = true := sameName_iff.2 rfl
  rw [Entity.ofAttachment, Entity.fields, isSome_valueOf?, map_fst_attachmentFields,
    List.any_append, hother]
  cases a.contentId with
  | none => rfl
  | some id => simp [hself]

/-- A message whose sources can be read is composed, signed or not, and what comes out is read
back as what the message describes: its type and encoding are named at the top, no line of it is
taken for another's boundary, texts keep all but their carriage returns and attachments every
octet, and a part has a content identifier exactly if its attachment has one. -/
theorem readEntity_payload (m : Message) (f : Finishing) (o : Occasion)
    (hread : ∀ a ∈ m.attachments, ∃ content, a.source.readAll = .ok content)
    (hne : o.boundary₁ ≠ o.boundary₂) :
    (∃ c, compose m f o = .ok c ∧
      ∀ signed, c.sign f.dkim o.signed = .ok signed →
        payload m f o = .ok signed.octets ∧
        signed.headers.get? "Content-Type" = some (topType m o) ∧
        signed.headers.get? "Content-Transfer-Encoding" = topEncoding m ∧
        ∀ depth, readEntity (depth + 3) signed.headers.entries signed.body =
          some (Entity.ofMessage m o signed.headers.entries)) ∧
      ∀ a ∈ m.attachments,
        (valueOf? (Entity.ofAttachment a).fields "Content-ID").isSome = a.contentId.isSome := by
  refine ⟨?_, fun a _ => contentId_ofAttachment a⟩
  obtain ⟨c, hc⟩ := exists_compose f o hread
  refine ⟨c, hc, fun signed hsigned => ?_⟩
  have hshape := shape_of_compose hc
  have hfields := (describes_of_compose hshape).sign hsigned
  refine ⟨payload_eq_ok_iff.2 ⟨c, signed, hc, hsigned, rfl⟩, hfields.type, hfields.encoding, ?_⟩
  intro depth
  rw [body_of_sign hsigned]
  exact readEntity_of_compose hshape hread hne hfields depth

/-- A note with two bodies, a picture and a file without content. -/
def parcel : Message where
  sender := .ofMailbox "a@x.org"
  direct := [.ofMailbox "b@x.org"]
  copies := []
  blindCopies := []
  subject := "parcel"
  textBody := some (ofString "--=_\r\n.")
  htmlBody := some (ofString "<p>")
  attachments :=
    [{ filename := "a.png", contentType := some "image/png", contentId := some "1",
       source := ⟨[0, 255], none⟩ },
     { filename := "b", contentType := none, contentId := none, source := ⟨[], none⟩ }]
  headers := .empty
  trackingId := none

theorem readEntity_parcel :
    ∃ c, compose parcel ⟨none, none⟩ epoch = .ok c ∧
      readEntity 3 c.headers.entries c.body =
        some (.multipart c.headers.entries
          [.multipart [("Content-Type", multipartType "alternative" (boundary 1))]
            [.ofText plainType (ofString "--=_\r\n."), .ofText htmlType (ofString "<p>")],
           .single ((attachmentFields parcel.attachments[0]).map readBack) [0, 255],
           .single ((attachmentFields parcel.attachments[1]).map readBack) []]) := by
  have hread : ∀ a ∈ parcel.attachments, ∃ content, a.source.readAll = .ok content := by
    intro a ha
    simp only [parcel, List.mem_cons, List.not_mem_nil, or_false] at ha
    rcases ha with rfl | rfl
    · exact ⟨_, rfl⟩
    · exact ⟨_, rfl⟩
  obtain ⟨⟨c, hc, hsigned⟩, -⟩ := readEntity_payload parcel ⟨none, none⟩ epoch hread (by decide)
  obtain ⟨-, -, -, hentity⟩ := hsigned c rfl
  exact ⟨c, hc, hentity 0⟩

end Outbox.Mime
