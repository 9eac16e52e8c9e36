import Mathlib.Data.List.DropRight
import Outbox.Dkim.Relaxed
import Outbox.Proofs.Mime.QuotedPrintable

/-!
# Outbox.Proofs.Mime.TrailingBlank — blanks at the ends of encoded lines

RFC 2045 lets a transport add blanks at the end of a line, so a reader of quoted-printable
deletes the blanks that it finds there before it decodes anything, and no encoded line may end
with one. A tab is always spelled out in an encoded body, but a space never is.

* `trimEnd_line` — deleting the blanks of a line takes from its row the spaces at the end, unless
  a soft break guards them.
* `flatMap_trimmed_eq_iff` — so the reader loses something exactly if a row ends with a space and
  without a soft break.
* `unquoteTrimmed?_quotedPrintable` — that is, exactly if a line of the body does.
-/

namespace Outbox.Mime

open Octets

/-- A line without the spaces and tabs at its end. -/
def trimEnd (line : Octets) : Octets := line.rdropWhile Dkim.isBlankOctet

/-- Reads quoted-printable by all rules of RFC 2045, section 6.7: the blanks at the end of every
line are deleted first. -/
def unquoteTrimmed? (octets : Octets) : Option Octets :=
  (lines? octets).bind fun lines => unquote? (unlines (lines.map trimEnd))

/-- No space stands right before a line feed. -/
def NoSpaceBeforeLf (octets : Octets) : Prop := octets.IsChain fun a b => a = space → b ≠ lf

instance (octets : Octets) : Decidable (NoSpaceBeforeLf octets) :=
  inferInstanceAs (Decidable (octets.IsChain _))

/-! ## Rows -/

namespace Row

/-- The row without the spaces at its end, unless they stand before a soft break. -/
def trimmed (r : Row) : Row :=
  if r.soft then r else ⟨r.octets.rdropWhile (· == space), false⟩

/-- The row ends its line with a space. -/
def EndsInSpace (r : Row) : Prop := r.soft = false ∧ r.octets.getLast? = some space

end Row

/-- What is written for an octet ends with a blank only for a space, which stands for itself. -/
theorem quoteOctet_eq_concat {b : UInt8} (hb : b ≠ space) :
    ∃ init c, quoteOctet b = init ++ [c] ∧ Dkim.isBlankOctet c = false := by
  have hall : ∀ b, b ≠ space →
      ((quoteOctet b).getLast?.map Dkim.isBlankOctet) = some false :=
    Base64.forall_octet (by decide)
  rcases Option.map_eq_some_iff.1 (hall b hb) with ⟨c, hlast, hc⟩
  rcases List.getLast?_eq_some_iff.1 hlast with ⟨init, hinit⟩
  exact ⟨init, c, hinit, hc⟩

theorem trimEnd_concat {line : Octets} {c : UInt8} (hc : Dkim.isBlankOctet c = false) :
    trimEnd (line ++ [c]) = line ++ [c] := by
  apply List.rdropWhile_concat_neg
  rw [hc]
  exact Bool.false_ne_true

theorem trimEnd_quoteOctets (octets : Octets) :
    trimEnd (quoteOctets octets) = quoteOctets (octets.rdropWhile (· == space)) := by
  -- By induction from the right, where the spaces are.
  induction octets using List.reverseRecOn with
  | nil => rfl
  | append_singleton octets b ih =>
    by_cases hb : b = space
    · have hquote : quoteOctet space = [space] := by decide
      rw [hb, quoteOctets_concat, hquote, List.rdropWhile_concat_pos _ _ _ (by decide), ← ih]
      apply List.rdropWhile_concat_pos
      decide
    · rcases quoteOctet_eq_concat hb with ⟨init, c, hquote, hc⟩
      rw [List.rdropWhile_concat_neg _ _ _ (by simpa using hb), quoteOctets_concat, hquote,
        ← List.append_assoc, trimEnd_concat hc]

/-- Deleting the blanks at the end of a line leaves the line of the trimmed row. -/
theorem trimEnd_line (r : Row) : trimEnd r.line = r.trimmed.line := by
  rcases r with ⟨octets, soft⟩
  cases soft with
  | true =>
    show trimEnd (quoteOctets octets ++ [61]) = quoteOctets octets ++ [61]
    apply trimEnd_concat
    decide
  | false =>
    show trimEnd (quoteOctets octets ++ []) = quoteOctets _ ++ []
    rw [List.append_nil, List.append_nil]
    exact trimEnd_quoteOctets octets

theorem mem_of_mem_trimmed {r : Row} {b : UInt8} (h : b ∈ r.trimmed.octets) : b ∈ r.octets := by
  unfold Row.trimmed at h
  split at h
  · exact h
  · exact (List.rdropWhile_prefix _ _).subset h

/-- A row that does not end its line with a space is left as it is. -/
theorem trimmed_of_not_endsInSpace {r : Row} (h : ¬ r.EndsInSpace) : r.trimmed = r := by
  rcases r with ⟨octets, soft⟩
  cases soft with
  | true => rfl
  | false =>
    have hlast : octets.getLast? ≠ some space := fun hlast => h ⟨rfl, hlast⟩
    show Row.mk (octets.rdropWhile (· == space)) false = ⟨octets, false⟩
    congr 1
    rcases List.eq_nil_or_concat octets with rfl | ⟨init, b, rfl⟩
    · rfl
    · rw [List.concat_eq_append, List.getLast?_concat] at hlast
      rw [List.concat_eq_append]
      apply List.rdropWhile_concat_neg
      simpa using hlast

theorem length_content_trimmed_le (r : Row) : r.trimmed.content.length ≤ r.content.length := by
  rcases r with ⟨octets, soft⟩
  cases soft with
  | true => exact Nat.le_refl _
  | false =>
    have hprefix := (List.rdropWhile_prefix (· == space) octets).length_le
    simpa [Row.trimmed, Row.content] using hprefix

/-- A row that ends its line with a space loses it. -/
theorem length_content_trimmed_lt {r : Row} (h : r.EndsInSpace) :
    r.trimmed.content.length < r.content.length := by
  rcases r with ⟨octets, soft⟩
  rcases h with ⟨rfl, hlast⟩
  rcases List.getLast?_eq_some_iff.1 hlast with ⟨init, rfl⟩
  have hprefix := (List.rdropWhile_prefix (· == space) init).length_le
  have htrim : (init ++ [space]).rdropWhile (· == space) = init.rdropWhile (· == space) :=
    List.rdropWhile_concat_pos _ _ _ (by decide)
  simp only [Row.trimmed, Row.content, Bool.false_eq_true, if_false, htrim, List.length_append,
    List.length_singleton]
  omega

theorem length_flatMap_trimmed_le (rows : List Row) :
    (rows.flatMap fun r => r.trimmed.content).length ≤ (rows.flatMap Row.content).length := by
  induction rows with
  | nil => exact Nat.le_refl _
  | cons r rows ih =>
    have hfirst := length_content_trimmed_le r
    simp only [List.flatMap_cons, List.length_append]
    omega

/-- Trimmed rows hold what the rows do exactly if none of them ends its line with a space. -/
theorem flatMap_trimmed_eq_iff (rows : List Row) :
    rows.flatMap (fun r => r.trimmed.content) = rows.flatMap Row.content ↔
      ∀ r ∈ rows, ¬ r.EndsInSpace := by
  constructor
  · intro heq
    induction rows with
    | nil => exact fun _ hr => absurd hr List.not_mem_nil
    | cons r rows ih =>
      -- No row grows, so rows of the same length in all have the same lengths one by one.
      have hrest := length_flatMap_trimmed_le rows
      have hlength := congrArg List.length heq
      simp only [List.flatMap_cons, List.length_append] at hlength
      have hfirst := length_content_trimmed_le r
      have hsame : r.trimmed.content.length = r.content.length := by omega
      have hparts := List.append_inj heq hsame
      intro s hs
      rcases List.mem_cons.1 hs with rfl | hs
      · intro hspace
        have := length_content_trimmed_lt hspace
        omega
      · exact ih hparts.2 s hs
  · intro h
    induction rows with
    | nil => rfl
    | cons r rows ih =>
      have hrest := ih fun s hs => h s (List.mem_cons_of_mem r hs)
      rw [List.flatMap_cons, List.flatMap_cons, hrest,
        trimmed_of_not_endsInSpace (h r List.mem_cons_self)]

/-! ## Bodies -/

/-- Octets without a line feed say of what follows only whether they end with a space. -/
theorem noSpaceBeforeLf_append_cons {octets : Octets} (h : lf ∉ octets) (b : UInt8)
    (rest : Octets) :
    NoSpaceBeforeLf (octets ++ b :: rest) ↔
      (b = lf → octets.getLast? ≠ some space) ∧ NoSpaceBeforeLf (b :: rest) := by
  have hinside : NoSpaceBeforeLf octets := by
    rw [NoSpaceBeforeLf, List.isChain_iff_forall_rel_of_append_cons_cons]
    rintro x y before after rfl - rfl
    exact h (by simp)
  have hborder : (∀ x ∈ octets.getLast?, ∀ y ∈ (b :: rest).head?, x = space → y ≠ lf) ↔
      (b = lf → octets.getLast? ≠ some space) := by
    constructor
    · intro hall hb hlast
      exact hall space hlast b rfl rfl hb
    · rintro hlast x hx y hy rfl
      cases hy
      intro hb
      exact hlast hb hx
  rw [NoSpaceBeforeLf, List.isChain_append, hborder]
  constructor
  · rintro ⟨-, hrest, hlast⟩
    exact ⟨hlast, hrest⟩
  · rintro ⟨hlast, hrest⟩
    exact ⟨hinside, hrest, hlast⟩

theorem noSpaceBeforeLf_lf_cons (rest : Octets) :
    NoSpaceBeforeLf (lf :: rest) ↔ NoSpaceBeforeLf rest := by
  rw [NoSpaceBeforeLf, List.isChain_cons]
  constructor
  · exact fun h => h.2
  · exact fun h => ⟨fun _ _ hspace => absurd hspace (by decide), h⟩

theorem not_endsInSpace_hard {octets : Octets} :
    ¬ Row.EndsInSpace ⟨octets, false⟩ ↔ octets.getLast? ≠ some space := by
  simp [Row.EndsInSpace]

theorem not_endsInSpace_soft {octets : Octets} : ¬ Row.EndsInSpace ⟨octets, true⟩ := by
  simp [Row.EndsInSpace]

/-- A row ends its line with a space exactly where a line of the body does. -/
theorem not_endsInSpace_rowsFrom_iff {current : Octets} (hcurrent : lf ∉ current) (body : Octets) :
    (∀ r ∈ rowsFrom current body, ¬ r.EndsInSpace) ↔
      NoSpaceBeforeLf (current ++ (body.filter (· ≠ cr) ++ [lf])) := by
  induction body generalizing current with
  | nil =>
    rw [rowsFrom, List.forall_mem_singleton, not_endsInSpace_hard, List.filter_nil,
      List.nil_append, noSpaceBeforeLf_append_cons hcurrent, noSpaceBeforeLf_lf_cons]
    simp [NoSpaceBeforeLf]
  | cons b rest ih =>
    rw [rowsFrom]
    split
    case isTrue hcr => rw [ih hcurrent, List.filter_cons_of_neg (by simpa using hcr)]
    case isFalse hcr =>
      rw [List.filter_cons_of_pos (by simpa using hcr), List.cons_append]
      split
      case isTrue hlf =>
        subst hlf
        rw [List.forall_mem_cons, not_endsInSpace_hard, ih List.not_mem_nil,
          noSpaceBeforeLf_append_cons hcurrent, noSpaceBeforeLf_lf_cons, List.nil_append]
        simp
      case isFalse hlf =>
        have hb : lf ∉ [b] := by simpa using Ne.symm hlf
        split
        case isTrue =>
          rw [ih (by simp [hcurrent, Ne.symm hlf]), List.append_assoc, List.singleton_append]
        case isFalse =>
          -- The octet before a soft break is none of the ends that count.
          rw [List.forall_mem_cons, ih hb, noSpaceBeforeLf_append_cons hcurrent,
            List.singleton_append]
          simp [not_endsInSpace_soft, hlf]

theorem unquoteTrimmed?_unlines {rows : List Row} (h : ∀ r ∈ rows, r.Fits) :
    unquoteTrimmed? (unlines (rows.map Row.line)) =
      some (rows.flatMap fun r => r.trimmed.content) := by
  have hlines : ∀ line ∈ rows.map Row.line, IsLine line := by
    intro line hline
    exact (isEncoded_of_mem_lines h line hline).isLine
  have hplain : ∀ r ∈ rows.map Row.trimmed, ∀ b ∈ r.octets, b ≠ cr := by
    intro t ht b hb
    rcases List.mem_map.1 ht with ⟨r, hr, rfl⟩
    exact ((h r hr).plain b (mem_of_mem_trimmed hb)).1
  have htrim : (rows.map Row.line).map trimEnd = (rows.map Row.trimmed).map Row.line := by
    simp only [List.map_map, Function.comp_def, trimEnd_line]
  rw [unquoteTrimmed?, lines?_unlines hlines, Option.bind_some, htrim, unquote?_unlines hplain,
    List.flatMap_map]

/-- The line of a row ends with a blank exactly if the row ends it with a space. -/
theorem getLast?_line_unblank_iff (r : Row) :
    (∀ b ∈ r.line.getLast?, Dkim.isBlankOctet b = false) ↔ ¬ r.EndsInSpace := by
  rcases r with ⟨octets, soft⟩
  cases soft with
  | true =>
    have hlast : (Row.line ⟨octets, true⟩).getLast? = some 61 := List.getLast?_concat
    rw [hlast]
    constructor
    · exact fun _ => not_endsInSpace_soft
    · rintro - b hb
      cases hb
      decide
  | false =>
    have hline : Row.line ⟨octets, false⟩ = quoteOctets octets := List.append_nil _
    rw [hline, not_endsInSpace_hard]
    rcases List.eq_nil_or_concat octets with rfl | ⟨init, b, rfl⟩
    · simp [quoteOctets_nil]
    · rw [List.concat_eq_append, List.getLast?_concat, quoteOctets_concat]
      by_cases hb : b = space
      · have hquote : quoteOctet space = [space] := by decide
        have hblank : Dkim.isBlankOctet space = true := by decide
        simp [hb, hquote, hblank]
      · rcases quoteOctet_eq_concat hb with ⟨more, c, hquote, hc⟩
        simp [hb, hquote, hc, ← List.append_assoc]

/-- By all rules of RFC 2045 a body is recovered exactly if none of its lines ends with a space,
which is also exactly when no line that is written for it ends with a space or a tab. -/
theorem unquoteTrimmed?_quotedPrintable (body : Octets) :
    (unquoteTrimmed? (quotedPrintable body) = some (body.filter (· ≠ cr) ++ [lf]) ↔
      NoSpaceBeforeLf (body.filter (· ≠ cr) ++ [lf])) ∧
    ∃ lines, lines? (quotedPrintable body) = some lines ∧
      ((∀ line ∈ lines, ∀ b ∈ line.getLast?, Dkim.isBlankOctet b = false) ↔
        NoSpaceBeforeLf (body.filter (· ≠ cr) ++ [lf])) := by
  have hspaces : (∀ r ∈ rows body, ¬ r.EndsInSpace) ↔
      NoSpaceBeforeLf (body.filter (· ≠ cr) ++ [lf]) :=
    not_endsInSpace_rowsFrom_iff List.not_mem_nil body
  rw [← hspaces, quotedPrintable_eq]
  constructor
  · rw [unquoteTrimmed?_unlines fits_of_mem_rows, ← content_rows, Option.some_inj]
    exact flatMap_trimmed_eq_iff (rows body)
  · refine ⟨_, lines?_unlines fun line hline => ?_, ?_⟩
    · exact (isEncoded_of_mem_lines fits_of_mem_rows line hline).isLine
    · rw [List.forall_mem_map]
      constructor
      · intro h r hr
        exact (getLast?_line_unblank_iff r).1 (h r hr)
      · intro h r hr
        exact (getLast?_line_unblank_iff r).2 (h r hr)

/-- A space at the end of a body is written as it is, before a line end, and is lost there. -/
theorem trailing_space_lost :
    quotedPrintable (ofString "a ") = ofString "a \r\n" ∧
      unquoteTrimmed? (quotedPrintable (ofString "a ")) = some (ofString "a\n") ∧
      unquoteTrimmed? (quotedPrintable (ofString "a ")) ≠
        some ((ofString "a ").filter (· ≠ cr) ++ [lf]) := by
  decide

end Outbox.Mime
