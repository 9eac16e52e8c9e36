import Outbox.Proofs.Mime.Payload
import Outbox.Smtp.Transparency

/-!
# Outbox.Proofs.Smtp.Transparency — what a receiver makes of stuffed content

`receive` is the receiver of RFC 5321 section 4.5.2: it cuts octets at line ends, stops
at the first line that is a single dot, and takes one leading dot off every other line
that begins with one. The invariant is about the line that is being received: it is the
sender's line after stuffing (`stuffLine`), and the sender's place in the line is
determined by it (`placeOf`).

* `receiveFrom_stuffFrom` — what is received from the middle of a line on.
* `receive_content` — nothing of a message is lost, and nothing after it is read.
-/

namespace Outbox.Smtp

open Octets

/-! ## The receiver -/

/-- A line without the dot that a sender has put in front of it. -/
def unstuffLine : Octets → Octets
  | 46 :: rest => rest
  | line => line

/-- Receives octets after `line`, the part of a line that came before them. The result is
the message and the octets that were not read; there is none if the content does not end. -/
def receiveFrom (line : Octets) : Octets → Option (Octets × Octets)
  | 13 :: 10 :: rest =>
    if line = [dot] then some ([], rest)
    else (receiveFrom [] rest).map fun (message, unread) =>
      (unstuffLine line ++ crlf ++ message, unread)
  | b :: rest => receiveFrom (line ++ [b]) rest
  | [] => none

/-- Receives the content of a message. -/
def receive (octets : Octets) : Option (Octets × Octets) := receiveFrom [] octets

/-- A message as it is received: it ends a line. -/
def received (message : Octets) : Octets :=
  if message.isEmpty || endsWith message crlf then message else message ++ crlf

theorem receiveFrom_cons {b : UInt8} {rest : Octets} (line : Octets)
    (h : b = cr → rest.head? ≠ some lf) :
    receiveFrom line (b :: rest) = receiveFrom (line ++ [b]) rest := by
  rw [receiveFrom]
  rintro more rfl rfl
  exact h rfl rfl

theorem receiveFrom_dot (line rest : Octets) :
    receiveFrom line (dot :: rest) = receiveFrom (line ++ [dot]) rest := by
  have hdot : dot ≠ cr := by decide
  exact receiveFrom_cons line fun h => absurd h hdot

/-- What was received stays so when more octets arrive. -/
theorem receiveFrom_append {line octets message unread : Octets} (more : Octets)
    (h : receiveFrom line octets = some (message, unread)) :
    receiveFrom line (octets ++ more) = some (message, unread ++ more) := by
  -- The cases are those of the receiver: the last line, another line, an octet, the end.
  induction line, octets using receiveFrom.induct generalizing message unread with
  | case1 rest =>
    simp only [receiveFrom, if_true, Option.some.injEq, Prod.mk.injEq] at h
    simp [receiveFrom, ← h.1, ← h.2]
  | case2 line rest hdot ih =>
    simp only [receiveFrom, hdot, if_false, Option.map_eq_some_iff, Prod.exists,
      Prod.mk.injEq] at h
    obtain ⟨m, u, hrest, rfl, rfl⟩ := h
    simp [receiveFrom, hdot, ih hrest]
  | case3 line b rest hno ih =>
    have hcons : b = cr → rest.head? ≠ some lf := by
      rintro rfl hhead
      obtain ⟨more', rfl⟩ := List.head?_eq_some_iff.1 hhead
      exact hno more' rfl rfl
    rw [receiveFrom_cons line hcons] at h
    have hrest : rest ≠ [] := by
      rintro rfl
      simp [receiveFrom] at h
    obtain ⟨c, rest', rfl⟩ := List.exists_cons_of_ne_nil hrest
    rw [List.cons_append, receiveFrom_cons line (by simpa using hcons)]
    exact ih h
  | case4 line => simp [receiveFrom] at h

/-! ## The sender -/

/-- A line as it is sent. -/
def stuffLine : Octets → Octets
  | 46 :: rest => 46 :: 46 :: rest
  | line => line

/-- Where the octet after the part `line` of a line stands. -/
def placeOf (line : Octets) : LinePlace :=
  if line = [] then .first else if line.getLast? = some cr then .afterReturn else .inside

theorem head?_stuffFrom (p : LinePlace) (message : Octets) :
    (stuffFrom p message).head? = message.head? := by
  cases message with
  | nil => rfl
  | cons b rest =>
    rw [stuffFrom]
    split
    case isTrue h =>
      have hb : b = dot := by
        simp only [Bool.and_eq_true, decide_eq_true_eq] at h
        exact h.1
      simp [hb]
    case isFalse => rfl

theorem stuffLine_of_head? {line : Octets} (h : line.head? ≠ some dot) : stuffLine line = line := by
  unfold stuffLine
  split
  · simp at h
  · rfl

theorem unstuffLine_stuffLine (line : Octets) : unstuffLine (stuffLine line) = line := by
  by_cases h : line.head? = some dot
  · obtain ⟨rest, rfl⟩ := List.head?_eq_some_iff.1 h
    rfl
  · rw [stuffLine_of_head? h, unstuffLine]
    rintro rest rfl
    exact h rfl

/-- No line is sent as the one that ends the content. -/
theorem stuffLine_ne_dot (line : Octets) : stuffLine line ≠ [dot] := by
  intro h
  have hline : line = [] := by
    have := unstuffLine_stuffLine line
    rw [h] at this
    exact this.symm
  simp [hline, stuffLine] at h

theorem stuffLine_concat {line : Octets} {b : UInt8} (h : line ≠ [] ∨ b ≠ dot) :
    stuffLine (line ++ [b]) = stuffLine line ++ [b] := by
  cases line with
  | nil =>
    have hb : b ≠ dot := by simpa using h
    rw [stuffLine_of_head? (by simpa using hb), stuffLine_of_head? (by simp), List.nil_append]
  | cons c rest =>
    by_cases hc : c = dot
    · subst hc
      rfl
    · rw [stuffLine_of_head? (by simpa using hc), stuffLine_of_head? (by simpa using hc)]

theorem placeOf_eq_first {line : Octets} : placeOf line = .first ↔ line = [] := by
  unfold placeOf
  split
  · simp [*]
  · split <;> simp [*]

theorem placeOf_concat {line : Octets} {b : UInt8}
    (h : line.getLast? = some cr → b ≠ lf) :
    placeOf (line ++ [b]) = (placeOf line).after b := by
  by_cases hcr : b = cr
  · simp [placeOf, LinePlace.after, hcr]
  · by_cases hlf : b = lf
    · have hline : line.getLast? ≠ some cr := fun hl => h hl hlf
      by_cases hnil : line = [] <;> simp [placeOf, LinePlace.after, hline, hlf, hnil]
    · simp [placeOf, LinePlace.after, hcr, hlf]

/-! ## Ends of messages -/

theorem endsWith_iff {octets tail : Octets} : endsWith octets tail = true ↔ tail <:+ octets := by
  simp [endsWith]

theorem not_crlf_suffix_concat {line : Octets} {b : UInt8} (h : line.getLast? = some cr → b ≠ lf) :
    ¬ crlf <:+ line ++ [b] := by
  rintro ⟨start, hstart⟩
  have hsplit : (start ++ [cr]) ++ [lf] = line ++ [b] := by simpa using hstart
  obtain ⟨rfl, hb⟩ := List.append_inj' hsplit rfl
  have hlf : lf = b := by simpa using hb
  exact h (by simp) hlf.symm

/-- Whether octets after a line end are themselves empty or end a line. -/
theorem crlf_suffix_append {line rest : Octets} :
    crlf <:+ line ++ (cr :: lf :: rest) ↔ rest = [] ∨ crlf <:+ rest := by
  constructor
  · intro h
    match rest with
    | [] => exact Or.inl rfl
    | [b] =>
      have hno : ¬ crlf <:+ (line ++ crlf) ++ [b] :=
        not_crlf_suffix_concat (by simp [cr, lf])
      exact absurd (by simpa using h) hno
    | b :: c :: more =>
      have hsuffix : b :: c :: more <:+ line ++ cr :: lf :: b :: c :: more :=
        ⟨line ++ crlf, by simp⟩
      exact Or.inr (List.suffix_of_suffix_length_le h hsuffix (by simp))
  · rintro (rfl | ⟨start, rfl⟩)
    · exact ⟨line, rfl⟩
    · exact ⟨line ++ (cr :: lf :: start), by simp⟩

theorem ending_append (line rest : Octets) :
    ending (line ++ cr :: lf :: rest) = ending rest := by
  simp [ending, endsWith_iff, crlf_suffix_append]

theorem received_append (line rest : Octets) :
    received (line ++ cr :: lf :: rest) = line ++ crlf ++ received rest := by
  by_cases h : rest = [] ∨ crlf <:+ rest
  · simp [received, endsWith_iff, crlf_suffix_append, h]
  · simp [received, endsWith_iff, crlf_suffix_append, h]

/-! ## What is received -/

theorem stuffFrom_lineEnd (p : LinePlace) (more : Octets) :
    stuffFrom p (cr :: lf :: more) = cr :: lf :: stuffFrom (placeOf []) more := by
  have hdot : (cr = dot) = False := by decide
  have hlf : (lf = cr) = False := by decide
  simp [stuffFrom, LinePlace.after, placeOf, hdot, hlf]

/-- The end of the content is received after any part of a line. -/
theorem receiveFrom_ending {line : Octets} (hline : ¬ crlf <:+ line) (tail : Octets) :
    receiveFrom (stuffLine line) (ending line ++ tail) = some (received line, tail) := by
  by_cases hnil : line = []
  · subst hnil
    simp [ending, received, stuffLine, receiveFrom_dot, receiveFrom]
  · have hending : ending line = crlf ++ dot :: crlf := by
      simp [ending, endsWith_iff, hline, hnil]
    have hreceived : received line = line ++ crlf := by
      simp [received, endsWith_iff, hline, hnil]
    rw [hending, hreceived]
    simp [receiveFrom, stuffLine_ne_dot, unstuffLine_stuffLine, receiveFrom_dot]

/-- A carriage return that ends no line of a message ends none of the content either: what
follows it is the rest of the message, or the line end before the last dot. -/
theorem head?_after_return {line rest : Octets} (hline : ¬ crlf <:+ line ++ [cr])
    (hrest : rest.head? ≠ some lf) (p : LinePlace) (tail : Octets) :
    (stuffFrom p rest ++ (ending (line ++ cr :: rest) ++ tail)).head? ≠ some lf := by
  cases rest with
  | nil =>
    have hending : ending (line ++ [cr]) = crlf ++ dot :: crlf := by
      simp [ending, endsWith_iff, hline]
    simp [stuffFrom, hending, cr, lf]
  | cons c more =>
    have hc : c ≠ lf := by simpa using hrest
    simpa [List.head?_append, head?_stuffFrom] using hc

/-- The rest of a message is received from the middle of a line on, and reading stops at the
end of the content. -/
theorem receiveFrom_stuffFrom (line rest tail : Octets) (hline : ¬ crlf <:+ line)
    (hnext : line.getLast? = some cr → rest.head? ≠ some lf) :
    receiveFrom (stuffLine line)
        (stuffFrom (placeOf line) rest ++ (ending (line ++ rest) ++ tail)) =
      some (received (line ++ rest), tail) := by
  -- By induction on the rest: an octet either ends the line or is moved to its end.
  match rest with
  | [] =>
    have hstuff : stuffFrom (placeOf line) [] = [] := rfl
    rw [hstuff, List.nil_append, List.append_nil]
    exact receiveFrom_ending hline tail
  | b :: rest =>
    by_cases hend : b = cr ∧ rest.head? = some lf
    · obtain ⟨rfl, hlf⟩ := hend
      obtain ⟨more, rfl⟩ := List.head?_eq_some_iff.1 hlf
      -- The next line is received from its start.
      have ih := receiveFrom_stuffFrom [] more tail (by simp) (by simp)
      rw [stuffLine_of_head? (by simp), List.nil_append] at ih
      rw [stuffFrom_lineEnd, ending_append, received_append, List.cons_append, List.cons_append,
        receiveFrom, if_neg (stuffLine_ne_dot line), ih]
      simp [unstuffLine_stuffLine]
    · have hb : line.getLast? = some cr → b ≠ lf := by
        intro hlast
        simpa using hnext hlast
      have ih := receiveFrom_stuffFrom (line ++ [b]) rest tail (not_crlf_suffix_concat hb)
        (by simpa using fun hb hrest => hend ⟨hb, hrest⟩)
      rw [placeOf_concat hb, List.append_assoc, List.singleton_append] at ih
      -- The line goes on, with a dot put in front of it or without.
      by_cases hdot : line = [] ∧ b = dot
      · obtain ⟨rfl, rfl⟩ := hdot
        have hstuff : stuffFrom (placeOf []) (dot :: rest) =
            dot :: dot :: stuffFrom ((placeOf []).after dot) rest := rfl
        rw [hstuff, List.cons_append, List.cons_append, stuffLine_of_head? (by simp),
          receiveFrom_dot, receiveFrom_dot]
        exact ih
      · have hstuff : stuffFrom (placeOf line) (b :: rest) =
            b :: stuffFrom ((placeOf line).after b) rest := by
          simp only [stuffFrom, Bool.and_eq_true, decide_eq_true_eq, placeOf_eq_first]
          rw [if_neg (fun h => hdot h.symm)]
        rw [stuffLine_concat (not_and_or.1 hdot)] at ih
        rw [hstuff, List.cons_append, receiveFrom_cons]
        · exact ih
        · rintro rfl
          exact head?_after_return (not_crlf_suffix_concat hb)
            (fun hrest => hend ⟨rfl, hrest⟩) _ tail
termination_by rest.length

theorem receive_content_append (message tail : Octets) :
    receive (content message ++ tail) = some (received message, tail) := by
  have h := receiveFrom_stuffFrom [] message tail (by simp) (by simp)
  rw [stuffLine_of_head? (by simp), List.nil_append] at h
  rwa [receive, content, stuff, List.append_assoc]

theorem receive_eq_none_of_prefix {message octets : Octets} (h : octets <+: content message)
    (hne : octets ≠ content message) : receive octets = none := by
  obtain ⟨more, hmore⟩ := h
  -- What a part gives would be given, with more unread, by the whole, of which nothing is unread.
  by_contra hsome
  obtain ⟨⟨m, unread⟩, hm⟩ := Option.ne_none_iff_exists'.1 hsome
  have hlong := receiveFrom_append more hm
  have hall := receive_content_append message []
  rw [List.append_nil, ← hmore, receive, hlong] at hall
  have hnil : unread ++ more = [] := by simpa using congrArg (Option.map Prod.snd) hall
  have hmore' : more = [] := (List.append_eq_nil_iff.1 hnil).2
  exact hne (by simpa [hmore'] using hmore)

theorem received_payload {m : Message} {f : Mime.Finishing} {o : Mime.Occasion} {p : Octets}
    (h : Mime.payload m f o = .ok p) : received p = p := by
  simp [received, endsWith_iff, Mime.crlf_suffix_payload h]

/-- Nothing of a message is lost on the wire. Whatever comes after its content, a receiver
gets the message, with a line end after it unless it has one, and reads no octet more; of a
part of the content it gets nothing yet. A payload has its line end and arrives as it is. -/
theorem receive_content :
    (∀ message tail, receive (content message ++ tail) = some (received message, tail)) ∧
      (∀ message octets, octets <+: content message → octets ≠ content message →
        receive octets = none) ∧
      (∀ m f hooks o now a p, (build m f hooks o now a).1 = .ok p →
        ∀ tail, receive (content p ++ tail) = some (p, tail)) := by
  refine ⟨receive_content_append, fun message octets => receive_eq_none_of_prefix, ?_⟩
  intro m f hooks o now a p hbuild tail
  rw [receive_content_append, received_payload (payload_of_build hbuild).2]

/-- A last line that is a dot without a line end, an end of content that is not yet there, and
a note that was built. -/
theorem receive_content_dot :
    receive (content [13, 10, 46]) = some ([13, 10, 46, 13, 10], []) ∧
      receive [13, 10, 46, 46, 13, 10, 46, 13] = none ∧
      ∃ p, (build dotNote ⟨none, none⟩ {} Mime.epoch .start atRest).1 = .ok p ∧
        receive (content p) = some (p, []) := by
  obtain ⟨hreceived, hprefix, hpayload⟩ := receive_content
  refine ⟨?_, ?_, ?_⟩
  · have hdots : received [13, 10, 46] = [13, 10, 46, 13, 10] := by decide
    simpa [hdots] using hreceived [13, 10, 46] []
  · exact hprefix [13, 10, 46] _ (by decide) (by decide)
  · have hbuilt : ∃ p, (build dotNote ⟨none, none⟩ {} Mime.epoch .start atRest).1 = .ok p :=
      exists_ok rfl
    obtain ⟨p, hp⟩ := hbuilt
    exact ⟨p, hp, by simpa using hpayload _ _ _ _ _ _ _ hp []⟩

end Outbox.Smtp
