import Outbox.Proofs.Mime.Entity
import Outbox.Proofs.Mime.HeaderBlock

/-!
# Outbox.Proofs.Mime.LineEnds — the line ends of a payload

Whatever octets come into a message, it is written as lines: they pass through an encoding, or
into a field that drops line breaks. Only the names of fields are written as they are.

* `ofLines_body` — an encoded body is lines.
* `lineEnds_build` — so is a payload, and its first empty line is the one between its header and
  its body, if no field name that the caller gave holds a line break.
-/

namespace Outbox.Octets

/-! ## Empty lines -/

/-- An empty line stands at an index. -/
def EmptyLineAt (octets : Octets) (i : Nat) : Prop :=
  octets[i]? = some cr ∧ octets[i + 1]? = some lf ∧ (i = 0 ∨ octets[i - 1]? = some lf)

/-- No line of these octets is empty. -/
structure Filled (octets : Octets) : Prop where
  first : octets[0]? ≠ some cr
  next : ∀ i, octets[i]? = some lf → octets[i + 1]? ≠ some cr

theorem Filled.cons {b : UInt8} (hcr : b ≠ cr) (hlf : b ≠ lf) {octets : Octets}
    (h : Filled octets) : Filled (b :: octets) := by
  constructor
  · simpa using hcr
  · intro i hi
    cases i with
    | zero => simp [hlf] at hi
    | succ i => exact h.next i (by simpa using hi)

/-- A line that is not empty, before lines that are not. -/
theorem Filled.line {line : Octets} (hline : IsLine line) (hne : line ≠ []) {octets : Octets}
    (h : Filled octets) : Filled (line ++ crlf ++ octets) := by
  induction line with
  | nil => exact absurd rfl hne
  | cons b line ih =>
    rw [isLine_cons] at hline
    rcases hline with ⟨hcr, hlf, hrest⟩
    cases line with
    | nil =>
      constructor
      · simpa using hcr
      · intro i hi
        -- The octet, the two of the line end, and what comes after them.
        rcases i with _ | _ | _ | i
        · simp [hlf] at hi
        · simp [cr_ne_lf] at hi
        · simpa using h.first
        · exact h.next i (by simpa using hi)
    | cons c line => exact (ih hrest (by simp)).cons hcr hlf

theorem filled_unlines {lines : List Octets} (h : ∀ line ∈ lines, IsLine line ∧ line ≠ []) :
    Filled (unlines lines) := by
  induction lines with
  | nil =>
    constructor
    · simp
    · simp
  | cons line lines ih =>
    rw [unlines_cons]
    rcases h line List.mem_cons_self with ⟨hline, hne⟩
    apply Filled.line hline hne
    apply ih
    intro l hl
    exact h l (List.mem_cons_of_mem line hl)

theorem getLast?_unlines {lines : List Octets} (hne : lines ≠ []) :
    (unlines lines).getLast? = some lf := by
  rcases List.eq_nil_or_concat lines with rfl | ⟨init, line, rfl⟩
  · exact absurd rfl hne
  · simp [unlines]

/-- After lines that are not empty, the first empty line is the one that was put there. -/
theorem emptyLineAt_unlines {lines : List Octets} (h : ∀ line ∈ lines, IsLine line ∧ line ≠ [])
    (rest : Octets) :
    EmptyLineAt (unlines lines ++ crlf ++ rest) (unlines lines).length ∧
      ∀ i < (unlines lines).length, ¬ EmptyLineAt (unlines lines ++ crlf ++ rest) i := by
  have hfilled := filled_unlines h
  constructor
  · refine ⟨by simp, by simp, ?_⟩
    -- The lines before it end with a line feed, if there are any.
    by_cases hnil : lines = []
    · left
      rw [hnil]
      rfl
    · right
      have hlast := getLast?_unlines hnil
      have hlength : unlines lines ≠ [] := by
        intro heq
        rw [heq] at hlast
        cases hlast
      have hpos := List.length_pos_iff.2 hlength
      rw [List.getLast?_eq_getElem?] at hlast
      rw [List.append_assoc, List.getElem?_append_left (by omega), hlast]
  · -- Before it every carriage return ends a line that is not empty.
    rintro i hi ⟨hcr, -, hstart⟩
    rw [List.append_assoc, List.getElem?_append_left hi] at hcr
    rcases i with _ | i
    · exact hfilled.first hcr
    · rcases hstart with hzero | hstart
      · omega
      · rw [List.append_assoc, List.getElem?_append_left (by omega)] at hstart
        exact hfilled.next i hstart hcr

end Outbox.Octets

namespace Outbox.Mime

open Octets

/-! ## The lines of a payload -/

/-- An attachment that was read is a part of lines. -/
theorem ofLines_attachmentPart {a : Attachment} {octets : Octets}
    (h : attachmentPart a = .ok octets) : OfLines IsUnmarked octets := by
  unfold attachmentPart at h
  cases hread : a.source.readAll with
  | error e => simp [hread, Except.map] at h
  | ok content =>
    simp only [hread, Except.map, Except.ok.injEq] at h
    rw [← h]
    exact ofLines_part (fun _ => id) (isPartName_attachmentFields a) (ofLines_base64Lines content)

theorem ofLines_of_mapM_attachmentPart {attachments : List Attachment} {parts : List Octets}
    (h : attachments.mapM attachmentPart = .ok parts) : ∀ p ∈ parts, OfLines IsUnmarked p := by
  induction attachments generalizing parts with
  | nil =>
    cases h
    exact fun p hp => absurd hp List.not_mem_nil
  | cons a attachments ih =>
    rw [List.mapM_cons] at h
    cases hpart : attachmentPart a with
    | error e => simp [hpart, bind, Except.bind] at h
    | ok first =>
      cases hrest : attachments.mapM attachmentPart with
      | error e => simp [hpart, hrest, bind, Except.bind] at h
      | ok more =>
        simp only [hpart, hrest, bind, Except.bind, pure, Except.pure, Except.ok.injEq] at h
        subst h
        intro p hp
        rcases List.mem_cons.1 hp with rfl | hp
        · exact ofLines_attachmentPart hpart
        · exact ih hrest p hp

/-- An encoded body is lines, whatever the bodies and the attachments hold. -/
theorem ofLines_body {m : Message} {f : Finishing} {o : Occasion} {c : Composed}
    (h : Shape m f o c) : OfLines IsLine c.body := by
  have hunmarked : ∀ line, IsUnmarked line → IsLine line := fun _ hline => hline.1
  cases h with
  | mixed parts hattached hparts =>
    rcases isLine_boundary o.boundary₁ with ⟨hopen, hclose⟩
    rcases isLine_boundary o.boundary₂ with ⟨hopen', hclose'⟩
    show OfLines IsLine (bodyPart (boundary o.boundary₁) (boundary o.boundary₂) m.text? m.html?
      ++ parts.flatMap (delimiter (boundary o.boundary₁) ++ ·) ++ closing (boundary o.boundary₁))
    -- The bodies and the attachments are parts of one list.
    rw [bodyPart_eq, ← List.flatMap_append]
    apply ofLines_parts hopen hclose
    intro p hp
    rcases List.mem_append.1 hp with hp | hp
    · exact ofLines_bodiesPart hunmarked hopen' hclose' p hp
    · exact (ofLines_of_mapM_attachmentPart hparts p hp).mono hunmarked
  | alternative text html =>
    rcases isLine_boundary o.boundary₁ with ⟨hopen, hclose⟩
    exact ofLines_alternative hunmarked hopen hclose (some text) (some html)
  | html html => exact (ofLines_textBody html).mono hunmarked
  | plain => exact (ofLines_textBody _).mono hunmarked

/-- The names of a final header hold no line break if those that the caller gave hold none. -/
theorem not_isLineBreak_of_isFinal {m : Message} {f : Finishing} {o : Occasion}
    {signed : Composed} (h : IsFinal m f o signed)
    (hnames : ∀ e ∈ m.headers.entries, ∀ c ∈ e.1.toList, Text.isLineBreak c = false) :
    ∀ e ∈ signed.headers.entries, ∀ c ∈ e.1.toList, Text.isLineBreak c = false := by
  rcases h with ⟨c, hcompose, hsign⟩
  have hnamed := isNamedBy_of_sign hsign (isNamedBy_of_shape (shape_of_compose hcompose))
  intro e he
  rcases hnamed e he with hderived | hcaller
  · intro c hc
    exact ((isFieldName_of_mem_derivedNames e.1 hderived).plain c hc).2.1
  · rcases List.mem_map.1 hcaller with ⟨d, hd, heq⟩
    rw [← heq]
    exact hnames d hd

/-- If no field name of the caller holds a line break, a payload has no carriage return without a
line feed and no line feed without a carriage return, it ends a line, and its first empty line is
the one that is written between its header and its body. -/
theorem lineEnds_build (m : Message) (f : Finishing) (hooks : Hooks) (o : Occasion)
    (now : Instant) (a : Ambient) (p : Octets)
    (hnames : ∀ e ∈ m.headers.entries, ∀ c ∈ e.1.toList, Text.isLineBreak c = false)
    (hbuild : (build m f hooks o now a).1 = .ok p) :
    Paired p ∧ crlf <:+ p ∧
      ∃ signed, IsFinal m f o signed ∧
        p = fieldBlock signed.headers.entries ++ crlf ++ signed.body ∧
        EmptyLineAt p (fieldBlock signed.headers.entries).length ∧
        ∀ i < (fieldBlock signed.headers.entries).length, ¬ EmptyLineAt p i := by
  rcases isFinal_of_build hbuild with ⟨signed, hfinal, rfl⟩
  have hend := crlf_suffix_payload (payload_of_build hbuild).2
  have hlines := blockLines_isLine (not_isLineBreak_of_isFinal hfinal hnames)
  have hbody : OfLines IsLine signed.body := by
    rcases hfinal with ⟨c, hcompose, hsign⟩
    rw [body_of_sign hsign]
    exact ofLines_body (shape_of_compose hcompose)
  have hblock : OfLines IsLine (fieldBlock signed.headers.entries) :=
    ⟨_, fieldBlock_eq _, fun line hline => (hlines line hline).1⟩
  have hempty := emptyLineAt_unlines hlines signed.body
  rw [← fieldBlock_eq] at hempty
  refine ⟨?_, hend, signed, hfinal, rfl, hempty.1, hempty.2⟩
  apply paired_of_ofLines
  exact (hblock.append (.line isLine_nil)).append hbody

/-- The parcel with line breaks of all kinds in everything but a field name. -/
def roughParcel : Message :=
  { parcel with
    subject := "a\r\n\r\nb"
    textBody := some [cr, lf, cr, dot]
    attachments :=
      [{ filename := "a\r\n\r\nb.png", contentType := some "image/\npng", contentId := some "\r1",
         source := ⟨[cr, lf, lf, cr], none⟩ }]
    headers := .ofList [("X-Note", "a\rb\n\nc")] }

theorem lineEnds_roughParcel :
    ∃ p, (build roughParcel ⟨none, none⟩ {} epoch .start atRest).1 = .ok p ∧ Paired p ∧
      crlf <:+ p := by
  have hread : ∀ a ∈ roughParcel.attachments, ∃ content, a.source.readAll = .ok content := by
    intro a ha
    obtain rfl := List.mem_singleton.1 ha
    exact ⟨_, rfl⟩
  have hvalid : roughParcel.validate = .ok () := rfl
  have hnames : ∀ e ∈ roughParcel.headers.entries, ∀ c ∈ e.1.toList,
      Text.isLineBreak c = false := by
    intro e he
    obtain rfl := List.mem_singleton.1 he
    exact List.all_iff_forall_prop.1 (by decide)
  rcases exists_compose ⟨none, none⟩ epoch hread with ⟨c, hc⟩
  have hpayload : payload roughParcel ⟨none, none⟩ epoch = .ok c.octets :=
    payload_eq_ok_iff.2 ⟨c, c, hc, rfl, rfl⟩
  have hbuild : (build roughParcel ⟨none, none⟩ {} epoch .start atRest).1 = .ok c.octets := by
    simp only [build, hvalid, hpayload]
  rcases lineEnds_build roughParcel ⟨none, none⟩ {} epoch .start atRest c.octets hnames hbuild with
    ⟨hpaired, hend, -⟩
  exact ⟨c.octets, hbuild, hpaired, hend⟩

end Outbox.Mime
