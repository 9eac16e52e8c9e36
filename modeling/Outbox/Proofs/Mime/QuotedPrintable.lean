import Mathlib.Data.List.Chain
import Outbox.Mime.QuotedPrintable
import Outbox.Mime.WordDecoding
import Outbox.Proofs.Base64
import Outbox.Proofs.Text.Lines

/-!
# Outbox.Proofs.Mime.QuotedPrintable — reading quoted-printable back

A body is cut into rows: the octets that stand in one line, and whether a soft break ends it.
One induction over the body shows that the rows, written line by line, are its encoding
(`quotedPrintable_eq`) and that together they hold the body (`content_rows`). All else is about
one row.

* `unquote?_unlines` — a reader gets from lines what their rows hold.
* `isEncoded_line` — the line of a row is printable and short, and every equals sign in it begins
  an octet or ends it.
* `encoded_quotedPrintable` — the shape of an encoded body and what is read from it.
-/

namespace Outbox.Mime

open Octets

/-- Reads quoted-printable. A line end is a line feed of the body, and there is no result where
an equals sign begins neither an octet nor a soft break. -/
def unquote? : Octets → Option Octets
  | 61 :: 13 :: 10 :: rest => unquote? rest
  | 61 :: x :: y :: rest => do
    let high ← hexValue? x
    let low ← hexValue? y
    let more ← unquote? rest
    some ((high * 16 + low) :: more)
  | 61 :: _ => none
  | 13 :: 10 :: rest => (unquote? rest).map (lf :: ·)
  | b :: rest => (unquote? rest).map (b :: ·)
  | [] => some []

/-- A line of quoted-printable: no equals sign comes before an underscore. -/
def IsQuoted (line : Octets) : Prop := IsLine line ∧ line.IsChain fun a b => a = 61 → b ≠ 95

/-- A digit of the upper case hexadecimal spelling of an octet. -/
def IsUpperHex (b : UInt8) : Prop := (48 ≤ b ∧ b ≤ 57) ∨ (65 ≤ b ∧ b ≤ 70)

instance (b : UInt8) : Decidable (IsUpperHex b) := inferInstanceAs (Decidable (_ ∨ _))

/-- A line as the rules for quoted-printable have it. -/
structure IsEncoded (line : Octets) : Prop where
  length_le : line.length ≤ 76
  printable : ∀ b ∈ line, 32 ≤ b ∧ b ≤ 126
  escape : ∀ before after, line = before ++ 61 :: after →
    after = [] ∨ ∃ x y rest, after = x :: y :: rest ∧ IsUpperHex x ∧ IsUpperHex y

/-! ## Octets -/

theorem hexValue?_digits (b : UInt8) :
    hexValue? (upperHexDigit (b >>> 4)) = some (b >>> 4) ∧
      hexValue? (upperHexDigit (b &&& 15)) = some (b &&& 15) ∧
      upperHexDigit (b >>> 4) ≠ cr ∧ (b >>> 4) * 16 + (b &&& 15) = b := by
  revert b
  exact Base64.forall_octet (by decide)

theorem isUpperHex_digits (b : UInt8) :
    IsUpperHex (upperHexDigit (b >>> 4)) ∧ IsUpperHex (upperHexDigit (b &&& 15)) := by
  revert b
  exact Base64.forall_octet (by decide)

theorem IsUpperHex.ne_equals {b : UInt8} (h : IsUpperHex b) : b ≠ 61 := by
  rintro rfl
  exact absurd h (by decide)

theorem quoteOctet_cases (b : UInt8) :
    (quoteOctet b = [b] ∧ b ≠ 61) ∨
      ∃ x y, quoteOctet b = [61, x, y] ∧ IsUpperHex x ∧ IsUpperHex y := by
  unfold quoteOctet
  split
  case isTrue hliteral =>
    left
    simp only [isLiteral, Bool.and_eq_true, bne_iff_ne] at hliteral
    exact ⟨rfl, hliteral.2⟩
  case isFalse =>
    right
    exact ⟨_, _, rfl, isUpperHex_digits b⟩

theorem length_quoteOctet (b : UInt8) : 1 ≤ (quoteOctet b).length ∧ (quoteOctet b).length ≤ 3 := by
  rcases quoteOctet_cases b with ⟨h, -⟩ | ⟨x, y, h, -⟩
  · simp [h]
  · simp [h]

theorem printable_quoteOctet (b : UInt8) : ∀ c ∈ quoteOctet b, 32 ≤ c ∧ c ≤ 126 := by
  have hall : ∀ b, ((quoteOctet b).all fun c => decide (32 ≤ c) && decide (c ≤ 126)) = true :=
    Base64.forall_octet (by decide)
  intro c hc
  simpa using List.all_eq_true.1 (hall b) c hc

/-- An octet within a line is read back. -/
theorem unquote?_quoteOctet {b : UInt8} (hcr : b ≠ cr) (rest : Octets) :
    unquote? (quoteOctet b ++ rest) = (unquote? rest).map (b :: ·) := by
  unfold quoteOctet
  split
  case isTrue hliteral =>
    have hequals : b ≠ 61 := by
      simp only [isLiteral, Bool.and_eq_true, bne_iff_ne] at hliteral
      exact hliteral.2
    rw [List.singleton_append, unquote?]
    · rintro more rfl
      exact absurd rfl hequals
    · rintro x y more rfl
      exact absurd rfl hequals
    · intro hb
      exact absurd hb hequals
    · rintro more hb
      exact absurd hb hcr
  case isFalse =>
    obtain ⟨hhigh, hlow, hdigit, hjoin⟩ := hexValue?_digits b
    rw [List.cons_append, List.cons_append, List.singleton_append, unquote?]
    · cases unquote? rest with
      | none => simp [hhigh, hlow]
      | some more => simp [hhigh, hlow, hjoin]
    · rintro hx
      exact absurd hx hdigit

/-! ## Rows -/

/-- Octets as they are written within a line. -/
def quoteOctets (octets : Octets) : Octets := octets.flatMap quoteOctet

/-- What stands in one line: octets of the body, and a soft break if the line of the body goes on
in the next row. -/
structure Row where
  octets : Octets
  soft : Bool

namespace Row

/-- The line that a row is written as. -/
def line (r : Row) : Octets := quoteOctets r.octets ++ if r.soft then [61] else []

/-- The part of a body that a row holds. -/
def content (r : Row) : Octets := r.octets ++ if r.soft then [] else [lf]

/-- The octets of a row have room in a line, and none of them ends one. -/
structure Fits (r : Row) : Prop where
  length_le : (quoteOctets r.octets).length ≤ 75
  plain : ∀ b ∈ r.octets, b ≠ cr ∧ b ≠ lf

end Row

/-- Cuts a body into rows; `current` is what the row that is being written holds. -/
def rowsFrom (current : Octets) : Octets → List Row
  | [] => [⟨current, false⟩]
  | b :: rest =>
    if b = cr then rowsFrom current rest
    else if b = lf then ⟨current, false⟩ :: rowsFrom [] rest
    else if (quoteOctets current).length + (quoteOctet b).length ≤ 75 then
      rowsFrom (current ++ [b]) rest
    else ⟨current, true⟩ :: rowsFrom [b] rest

/-- The rows of a body. -/
def rows (body : Octets) : List Row := rowsFrom [] body

theorem quoteOctets_nil : quoteOctets [] = [] := rfl

theorem quoteOctets_cons (b : UInt8) (octets : Octets) :
    quoteOctets (b :: octets) = quoteOctet b ++ quoteOctets octets := rfl

theorem quoteOctets_singleton (b : UInt8) : quoteOctets [b] = quoteOctet b := by
  rw [quoteOctets_cons, quoteOctets_nil, List.append_nil]

theorem quoteOctets_append (a b : Octets) : quoteOctets (a ++ b) = quoteOctets a ++ quoteOctets b :=
  List.flatMap_append

theorem quoteOctets_concat (octets : Octets) (b : UInt8) :
    quoteOctets (octets ++ [b]) = quoteOctets octets ++ quoteOctet b := by
  rw [quoteOctets_append, quoteOctets_singleton]

/-- What is written after the octets of a row makes lines together with them. -/
theorem quotedPrintableFrom_eq (current body : Octets) :
    quoteOctets current ++ quotedPrintableFrom (quoteOctets current).length body =
      unlines ((rowsFrom current body).map Row.line) := by
  -- The column is always the width of what the row holds.
  induction body generalizing current with
  | nil => simp [quotedPrintableFrom, rowsFrom, Row.line, unlines]
  | cons b rest ih =>
    rw [quotedPrintableFrom, rowsFrom]
    split
    case isTrue => exact ih current
    case isFalse =>
      split
      case isTrue =>
        have hrest := ih []
        rw [quoteOctets_nil, List.length_nil, List.nil_append] at hrest
        rw [List.map_cons, unlines_cons, ← hrest]
        simp [Row.line]
      case isFalse =>
        dsimp only
        split
        case isTrue =>
          have hrest := ih (current ++ [b])
          rw [quoteOctets_concat, List.length_append] at hrest
          rw [← hrest, List.append_assoc]
        case isFalse =>
          have hrest := ih [b]
          rw [quoteOctets_singleton] at hrest
          rw [List.map_cons, unlines_cons, ← hrest]
          simp [Row.line]

/-- The rows hold the body in order. -/
theorem content_rowsFrom (current body : Octets) :
    (rowsFrom current body).flatMap Row.content = current ++ (body.filter (· ≠ cr) ++ [lf]) := by
  induction body generalizing current with
  | nil => simp [rowsFrom, Row.content]
  | cons b rest ih =>
    rw [rowsFrom]
    split
    case isTrue hcr => rw [ih, List.filter_cons_of_neg (by simpa using hcr)]
    case isFalse hcr =>
      rw [List.filter_cons_of_pos (by simpa using hcr)]
      split
      case isTrue hlf => simp [ih, Row.content, hlf]
      case isFalse =>
        split
        · simp [ih]
        · simp [ih, Row.content]

theorem fits_of_mem_rowsFrom {current body : Octets} (h : Row.Fits ⟨current, false⟩) :
    ∀ r ∈ rowsFrom current body, r.Fits := by
  have hclosed : ∀ {octets : Octets}, Row.Fits ⟨octets, false⟩ → Row.Fits ⟨octets, true⟩ :=
    fun hfits => ⟨hfits.length_le, hfits.plain⟩
  induction body generalizing current with
  | nil =>
    intro r hr
    rwa [List.mem_singleton.1 hr]
  | cons b rest ih =>
    rw [rowsFrom]
    split
    case isTrue => exact ih h
    case isFalse hcr =>
      split
      case isTrue =>
        intro r hr
        rcases List.mem_cons.1 hr with rfl | hr
        · exact h
        · exact ih ⟨by simp [quoteOctets_nil], by simp⟩ r hr
      case isFalse hlf =>
        split
        case isTrue hroom =>
          apply ih
          constructor
          · rw [quoteOctets_concat, List.length_append]
            exact hroom
          · intro c hc
            rcases List.mem_append.1 hc with hc | hc
            · exact h.plain c hc
            · rw [List.mem_singleton.1 hc]
              exact ⟨hcr, hlf⟩
        case isFalse =>
          -- The octet that had no room begins a row, where any octet has room.
          intro r hr
          rcases List.mem_cons.1 hr with rfl | hr
          · exact hclosed h
          · refine ih ⟨?_, ?_⟩ r hr
            · rw [quoteOctets_singleton]
              have := (length_quoteOctet b).2
              omega
            · intro c hc
              rw [List.mem_singleton.1 hc]
              exact ⟨hcr, hlf⟩

/-- No soft break ends the last row. -/
theorem rowsFrom_eq_concat (current body : Octets) :
    ∃ init octets, rowsFrom current body = init ++ [⟨octets, false⟩] := by
  induction body generalizing current with
  | nil => exact ⟨[], current, rfl⟩
  | cons b rest ih =>
    rw [rowsFrom]
    split
    · exact ih current
    · split
      · rcases ih [] with ⟨init, octets, h⟩
        exact ⟨⟨current, false⟩ :: init, octets, by rw [h, List.cons_append]⟩
      · split
        · exact ih (current ++ [b])
        · rcases ih [b] with ⟨init, octets, h⟩
          exact ⟨⟨current, true⟩ :: init, octets, by rw [h, List.cons_append]⟩

theorem quotedPrintable_eq (body : Octets) :
    quotedPrintable body = unlines ((rows body).map Row.line) :=
  quotedPrintableFrom_eq [] body

theorem content_rows (body : Octets) :
    (rows body).flatMap Row.content = body.filter (· ≠ cr) ++ [lf] :=
  content_rowsFrom [] body

theorem fits_of_mem_rows {body : Octets} : ∀ r ∈ rows body, r.Fits :=
  fits_of_mem_rowsFrom ⟨by simp [quoteOctets_nil], by simp⟩

/-! ## Reading -/

theorem unquote?_quoteOctets {octets : Octets} (h : ∀ b ∈ octets, b ≠ cr) (rest : Octets) :
    unquote? (quoteOctets octets ++ rest) = (unquote? rest).map (octets ++ ·) := by
  induction octets with
  | nil => simp [quoteOctets_nil]
  | cons b octets ih =>
    have htail := ih fun c hc => h c (List.mem_cons_of_mem b hc)
    rw [quoteOctets_cons, List.append_assoc, unquote?_quoteOctet (h b List.mem_cons_self), htail,
      Option.map_map]
    rfl

/-- A line is read as what its row holds. -/
theorem unquote?_line {r : Row} (h : ∀ b ∈ r.octets, b ≠ cr) (rest : Octets) :
    unquote? (r.line ++ crlf ++ rest) = (unquote? rest).map (r.content ++ ·) := by
  rw [Row.line, List.append_assoc, List.append_assoc, unquote?_quoteOctets h, Row.content]
  cases r.soft with
  | true =>
    have hsoft : unquote? ([61] ++ (crlf ++ rest)) = unquote? rest := rfl
    rw [if_pos rfl, if_pos rfl, hsoft, List.append_nil]
  | false =>
    have hend : unquote? (crlf ++ rest) = (unquote? rest).map (lf :: ·) := rfl
    rw [if_neg (by simp), if_neg (by simp), List.nil_append, hend, Option.map_map]
    simp [Function.comp_def]

/-- Lines are read as what their rows hold. -/
theorem unquote?_unlines {rows : List Row} (h : ∀ r ∈ rows, ∀ b ∈ r.octets, b ≠ cr) :
    unquote? (unlines (rows.map Row.line)) = some (rows.flatMap Row.content) := by
  induction rows with
  | nil => rfl
  | cons r rows ih =>
    have hrest := ih fun s hs => h s (List.mem_cons_of_mem r hs)
    rw [List.map_cons, unlines_cons, unquote?_line (h r List.mem_cons_self), hrest,
      List.flatMap_cons, Option.map_some]

/-- A reader gets the body without its carriage returns, and one line feed at its end. -/
theorem unquote?_quotedPrintable (body : Octets) :
    unquote? (quotedPrintable body) = some (body.filter (· ≠ cr) ++ [lf]) := by
  have hplain : ∀ r ∈ rows body, ∀ b ∈ r.octets, b ≠ cr :=
    fun r hr b hb => ((fits_of_mem_rows r hr).plain b hb).1
  rw [quotedPrintable_eq, unquote?_unlines hplain, content_rows]

/-! ## Shape -/

/-- An equals sign in a line begins the spelling of an octet, or it is the soft break. -/
theorem escape_quoteOctets (octets : Octets) (soft : Bool) (before after : Octets)
    (h : (quoteOctets octets ++ if soft then [61] else []) = before ++ 61 :: after) :
    after = [] ∨ ∃ x y rest, after = x :: y :: rest ∧ IsUpperHex x ∧ IsUpperHex y := by
  induction octets generalizing before with
  | nil =>
    left
    rw [quoteOctets_nil, List.nil_append] at h
    cases soft with
    | true =>
      cases before with
      | nil => simpa using h.symm
      | cons c before => simp at h
    | false => simp at h
  | cons b octets ih =>
    rw [quoteOctets_cons, List.append_assoc] at h
    rcases quoteOctet_cases b with ⟨hb, hne⟩ | ⟨x, y, hb, hx, hy⟩
    · -- An octet that stands for itself is no equals sign.
      rw [hb] at h
      cases before with
      | nil => exact absurd (List.cons.inj h).1 hne
      | cons c before => exact ih before (List.cons.inj h).2
    · -- The sign is the first of three octets, or it comes after them.
      rw [hb] at h
      rcases before with _ | ⟨c, _ | ⟨d, _ | ⟨e, before⟩⟩⟩
      · right
        exact ⟨x, y, _, (List.cons.inj h).2.symm, hx, hy⟩
      · simp only [List.cons_append, List.nil_append, List.cons.injEq] at h
        exact absurd h.2.1 hx.ne_equals
      · simp only [List.cons_append, List.nil_append, List.cons.injEq] at h
        exact absurd h.2.2.1 hy.ne_equals
      · simp only [List.cons_append, List.nil_append, List.cons.injEq] at h
        exact ih before h.2.2.2

theorem isEncoded_line {r : Row} (h : r.Fits) : IsEncoded r.line := by
  constructor
  · have hlength := h.length_le
    rw [Row.line, List.length_append]
    split
    · rw [List.length_singleton]
      omega
    · rw [List.length_nil]
      omega
  · intro b hb
    rcases List.mem_append.1 hb with hb | hb
    · rcases List.mem_flatMap.1 hb with ⟨c, -, hc⟩
      exact printable_quoteOctet c b hc
    · split at hb
      · rw [List.mem_singleton.1 hb]
        decide
      · exact absurd hb List.not_mem_nil
  · exact escape_quoteOctets r.octets r.soft

theorem isEncoded_of_mem_lines {rows : List Row} (h : ∀ r ∈ rows, r.Fits) :
    ∀ line ∈ rows.map Row.line, IsEncoded line := by
  intro line hline
  rcases List.mem_map.1 hline with ⟨r, hr, rfl⟩
  exact isEncoded_line (h r hr)

theorem getLast?_quoteOctet_ne (b : UInt8) : (quoteOctet b).getLast? ≠ some 61 := by
  revert b
  exact Base64.forall_octet (by decide)

/-- Octets within a line do not end with an equals sign. -/
theorem getLast?_quoteOctets_ne (octets : Octets) : (quoteOctets octets).getLast? ≠ some 61 := by
  rcases List.eq_nil_or_concat octets with rfl | ⟨init, b, rfl⟩
  · simp [quoteOctets_nil]
  · have hne : quoteOctet b ≠ [] := by
      have := (length_quoteOctet b).1
      rintro h
      simp [h] at this
    rw [List.concat_eq_append, quoteOctets_concat, List.getLast?_append_of_ne_nil _ hne]
    exact getLast?_quoteOctet_ne b

theorem IsEncoded.isLine {line : Octets} (h : IsEncoded line) : IsLine line :=
  ⟨fun hcr => absurd (h.printable cr hcr).1 (by decide),
    fun hlf => absurd (h.printable lf hlf).1 (by decide)⟩

theorem IsEncoded.isQuoted {line : Octets} (h : IsEncoded line) : IsQuoted line := by
  refine ⟨h.isLine, ?_⟩
  rw [List.isChain_iff_forall_rel_of_append_cons_cons]
  rintro a b before rest hline rfl rfl
  rcases h.escape before (95 :: rest) hline with hnil | ⟨x, y, more, heq, hx, -⟩
  · cases hnil
  · rw [← (List.cons.inj heq).1] at hx
    exact absurd hx (by decide)

theorem ofLines_quotedPrintable (body : Octets) : OfLines IsQuoted (quotedPrintable body) := by
  refine ⟨_, quotedPrintable_eq body, ?_⟩
  intro line hline
  exact (isEncoded_of_mem_lines fits_of_mem_rows line hline).isQuoted

/-- A body is written as printable lines of at most 76 octets, in which an equals sign begins the
spelling of an octet or is the soft break at the end of a line that is not the last. A reader gets
it back without its carriage returns, and with one line feed at its end. -/
theorem encoded_quotedPrintable (body : Octets) :
    (∃ lines last, quotedPrintable body = unlines (lines ++ [last]) ∧
      (∀ line ∈ lines ++ [last], IsEncoded line) ∧ last.getLast? ≠ some 61) ∧
    unquote? (quotedPrintable body) = some (body.filter (· ≠ cr) ++ [lf]) := by
  constructor
  · rcases rowsFrom_eq_concat [] body with ⟨init, octets, hrows⟩
    have hlines : (rows body).map Row.line = init.map Row.line ++ [quoteOctets octets] := by
      rw [rows, hrows]
      simp [Row.line]
    refine ⟨init.map Row.line, quoteOctets octets, ?_, ?_, getLast?_quoteOctets_ne octets⟩
    · rw [← hlines]
      exact quotedPrintable_eq body
    · rw [← hlines]
      exact isEncoded_of_mem_lines fits_of_mem_rows
  · exact unquote?_quotedPrintable body

end Outbox.Mime
