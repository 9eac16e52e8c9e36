import Outbox.Proofs.Act
import Outbox.Smtp.Wire

/-!
# Outbox.Proofs.Smtp.Segmentation — an answer in pieces

What a server says arrives in pieces, and where it is cut is chance.

* `Reader.feed_append` — the state of a reader after some octets does not depend on how they were
  handed to it.
* `Reader.IgnoresCuts` — so nothing that comes of an answer depends on its cuts, neither what it
  says nor that it is refused as too long or as incomplete. It holds of every reader
  (`Reader.ignoresCuts`).
* `Relay` is a pair of parsers of which one takes over from the other, and `Relay.reread` a client
  that keeps no state between the pieces: it parses all octets again whenever more arrive. It gives
  what the two parsers give as one reader (`Relay.reread_eq_read`).
* `ehloRelay` — answers to EHLO have a parser for lists of extensions and another one for refusals.
-/

namespace Outbox.Smtp

/-! ## Readers -/

namespace Reader

variable {σ α : Type} {r : Reader σ α} {s : σ} {result : Result α}

theorem feed_append (r : Reader σ α) (s : σ) (first rest : Octets) :
    r.feed s (first ++ rest) =
      match r.feed s first with
      | .more s' => r.feed s' rest
      | .finished result => .finished result := by
  induction first generalizing s with
  | nil => rfl
  | cons b first ih =>
    rw [List.cons_append, feed, feed]
    cases r.step s b with
    | more s' => exact ih s'
    | finished result => rfl

theorem isOver_mono {n m : Nat} (le : n ≤ m) (tooLong : r.isOver n = true) :
    r.isOver m = true := by
  unfold isOver at tooLong ⊢
  cases capacity : r.capacity with
  | none =>
    rw [capacity] at tooLong
    cases tooLong
  | some capacity' =>
    rw [capacity] at tooLong
    exact decide_eq_true (Nat.le_trans (of_decide_eq_true tooLong) le)

/-- From a state on, the reader decides at the last of these octets. -/
structure Decides (r : Reader σ α) (s : σ) (content : Octets) (result : Result α) : Prop where
  finished : r.feed s content = .finished result
  notEarlier : ∃ s', r.feed s content.dropLast = .more s'

/-- These octets are one complete answer. -/
abbrev Completes (r : Reader σ α) (content : Octets) (result : Result α) : Prop :=
  r.Decides r.start content result

/-- What a complete answer comes to. -/
def verdict (r : Reader σ α) (length : Nat) (result : Result α) : Result α :=
  if r.isOver length then .error .unparseableReply else result

namespace Decides

variable {first last : Octets}

/-- It does not decide at any octet before. -/
theorem more_of_append (h : r.Decides s (first ++ last) result) (nonempty : last ≠ []) :
    ∃ s', r.feed s first = .more s' := by
  obtain ⟨s', more⟩ := h.notEarlier
  rw [List.dropLast_append_of_ne_nil nonempty, feed_append] at more
  cases fed : r.feed s first with
  | more s'' => exact ⟨s'', rfl⟩
  | finished result' =>
    rw [fed] at more
    cases more

theorem rest (h : r.Decides s (first ++ last) result) (nonempty : last ≠ []) {s' : σ}
    (more : r.feed s first = .more s') : r.Decides s' last result where
  finished := by
    have finished := h.finished
    rwa [feed_append, more] at finished
  notEarlier := by
    have notEarlier := h.notEarlier
    rwa [List.dropLast_append_of_ne_nil nonempty, feed_append, more] at notEarlier

end Decides

/-- The octets in pieces, as reads may take them. -/
structure IsCut (content : Octets) (pieces : List Octets) : Prop where
  flatten : pieces.flatten = content
  nonempty : ∀ piece ∈ pieces, piece ≠ []
  fits : ∀ piece ∈ pieces, piece.length ≤ Link.readLimit

theorem IsCut.tail {piece : Octets} {pieces : List Octets}
    (h : IsCut (piece :: pieces).flatten (piece :: pieces)) : IsCut pieces.flatten pieces :=
  ⟨rfl, fun _ mem => h.nonempty _ (.tail _ mem), fun _ mem => h.fits _ (.tail _ mem)⟩

/-! ## Pieces -/

/-- One more piece is taken, or with it there are too many octets. -/
theorem resume_cons {piece : Octets} (nonempty : piece ≠ []) (taken : Nat) (pieces : List Octets) :
    r.resume s taken (piece :: pieces) =
      if r.isOver (taken + piece.length) then .error .unparseableReply
      else
        match r.feed s piece with
        | .more s' => r.resume s' (taken + piece.length) pieces
        | .finished result => result := by
  have isEmpty : piece.isEmpty = false := List.isEmpty_eq_false_iff.2 nonempty
  rw [resume, isEmpty]
  rfl

/-- A complete answer is read from any pieces. -/
theorem resume_complete {pieces : List Octets} (h : r.Decides s pieces.flatten result)
    (cut : IsCut pieces.flatten pieces) (taken : Nat) :
    r.resume s taken pieces = r.verdict (taken + pieces.flatten.length) result := by
  -- By induction on the pieces: before the last one the reader wants more.
  induction pieces generalizing s taken with
  | nil => cases h.finished
  | cons piece pieces ih =>
    rw [resume_cons (cut.nonempty _ (.head _)), verdict, List.flatten_cons, List.length_append]
    split
    next tooLong =>
      rw [if_pos (isOver_mono (by omega) tooLong)]
    next within =>
      -- The octets that are left tell whether the answer ends with this piece.
      by_cases isLast : pieces.flatten = []
      · have finished := h.finished
        rw [List.flatten_cons, isLast, List.append_nil] at finished
        rw [finished, isLast, List.length_nil, Nat.add_zero, if_neg within]
      · obtain ⟨s', more⟩ := h.more_of_append isLast
        rw [more, ← Nat.add_assoc]
        exact ih (h.rest isLast more) cut.tail _

/-- An answer that is not complete is refused. -/
theorem resume_incomplete {pieces : List Octets} {s' : σ}
    (more : r.feed s pieces.flatten = .more s') (taken : Nat) :
    r.resume s taken pieces = .error .unparseableReply := by
  induction pieces generalizing s taken with
  | nil => rfl
  | cons piece pieces ih =>
    rw [List.flatten_cons, feed_append] at more
    rw [resume]
    split
    next => rfl
    next =>
      cases fed : r.feed s piece with
      | more s'' =>
        rw [fed] at more
        exact ih more _
      | finished result =>
        rw [fed] at more
        cases more

/-! ## Links -/

/-- The stream is at its end. -/
def IsEnded (arrivals : List Arrival) : Prop :=
  arrivals = [] ∨ ∃ rest, arrivals = .octets [] :: rest

/-- What is read from a link is what comes of the pieces that arrive on it, if there is an answer
in them or nothing follows. -/
theorem readFrom_pieces {pieces : List Octets} (cut : IsCut pieces.flatten pieces)
    {tail : List Arrival} (ended : ∀ s', r.feed s pieces.flatten = .more s' → IsEnded tail)
    (link taken : Nat) (limits : List Limit) (w : World) :
    (Act.readFrom r link s taken (pieces.map .octets ++ tail) limits w).1.result? =
      some (r.resume s taken pieces) := by
  -- By induction on the pieces: what arrived comes in one read, as it is not too much for one.
  induction pieces generalizing s taken w with
  | nil =>
    -- The answer is not complete, and the end of the stream is read.
    obtain rfl | ⟨rest, rfl⟩ := ended s rfl
    · rw [List.map_nil, List.append_nil, Act.readFrom]
      rfl
    · rw [List.map_nil, List.nil_append, Act.readFrom]
      rfl
  | cons piece pieces ih =>
    have split : Link.split piece (pieces.map .octets ++ tail) =
        (piece, pieces.map .octets ++ tail) := if_pos (cut.fits _ (.head _))
    have isEmpty : piece.isEmpty = false := List.isEmpty_eq_false_iff.2 (cut.nonempty _ (.head _))
    rw [resume_cons (cut.nonempty _ (.head _)), List.map_cons, List.cons_append, Act.readFrom]
    simp only [split, isEmpty, Bool.false_or]
    split
    next => rfl
    next =>
      rw [List.flatten_cons, feed_append] at ended
      cases fed : r.feed s piece with
      | finished result => exact (Act.ofResult_run result limits _).1
      | more s' =>
        rw [fed] at ended
        exact ih cut.tail ended _ _

theorem read_pieces {pieces : List Octets} (cut : IsCut pieces.flatten pieces)
    {tail : List Arrival} (ended : ∀ s', r.feed r.start pieces.flatten = .more s' → IsEnded tail)
    {link : Nat} {w : World} {l : Link} (at_link : w.links[link]? = some l)
    (arrivals : l.arrivals = pieces.map .octets ++ tail) (limits : List Limit) :
    (Act.read r link limits w).1.result? = some (r.read pieces) := by
  have seen : Act.world limits w = (.done w, w) := rfl
  rw [Act.read, Act.bind_done seen, at_link]
  dsimp only
  rw [arrivals]
  exact readFrom_pieces cut ended link 0 limits w

/-- An answer that arrives in one piece leaves what arrives after it. -/
theorem read_arrived {content : Octets} (completes : r.Completes content result)
    (fits : content.length ≤ Link.readLimit) (within : r.isOver content.length = false)
    {link : Nat} {w : World} {l : Link} (at_link : w.links[link]? = some l) {tail : List Arrival}
    (arrivals : l.arrivals = .octets content :: tail) (limits : List Limit) :
    Act.read r link limits w =
      Act.ofResult result limits (w.onLink link fun l => { l with arrivals := tail }) := by
  have nonempty : content ≠ [] := by
    rintro rfl
    cases completes.finished
  have split : Link.split content tail = (content, tail) := if_pos fits
  have isEmpty : content.isEmpty = false := List.isEmpty_eq_false_iff.2 nonempty
  have seen : Act.world limits w = (.done w, w) := rfl
  rw [Act.read, Act.bind_done seen, at_link]
  simp only [arrivals, Act.readFrom, split, isEmpty, Nat.zero_add, within, completes.finished]
  rfl

/-! ## Cuts -/

/-- Where an answer is cut makes no difference. -/
structure IgnoresCuts (r : Reader σ α) : Prop where
  /-- A complete answer comes to the same, in whatever pieces it arrives and whatever arrives after
  it. -/
  complete : ∀ content result pieces, r.Completes content result → IsCut content pieces →
    r.read pieces = r.verdict content.length result ∧
      ∀ link limits w l tail, w.links[link]? = some l → l.arrivals = pieces.map .octets ++ tail →
        (Act.read r link limits w).1.result? = some (r.verdict content.length result)
  /-- Where the stream ends before the last octet there is no answer. -/
  incomplete : ∀ content result first last pieces, r.Completes content result →
    content = first ++ last → last ≠ [] → IsCut first pieces →
      r.read pieces = .error .unparseableReply ∧
        ∀ link limits w l tail, w.links[link]? = some l → l.arrivals = pieces.map .octets ++ tail →
          IsEnded tail → (Act.read r link limits w).1.result? = some (.error .unparseableReply)

theorem ignoresCuts (r : Reader σ α) : r.IgnoresCuts where
  complete content result pieces completes cut := by
    obtain rfl := cut.flatten
    have read : r.read pieces = r.verdict pieces.flatten.length result := by
      rw [Reader.read, resume_complete completes cut, Nat.zero_add]
    refine ⟨read, ?_⟩
    intro link limits w l tail at_link arrivals
    rw [← read]
    refine read_pieces cut (fun s' more => ?_) at_link arrivals limits
    rw [completes.finished] at more
    cases more
  incomplete content result first last pieces completes := by
    rintro rfl nonempty cut
    obtain rfl := cut.flatten
    obtain ⟨s', more⟩ := completes.more_of_append nonempty
    have read : r.read pieces = .error .unparseableReply := resume_incomplete more 0
    refine ⟨read, ?_⟩
    intro link limits w l tail at_link arrivals isEnded
    rw [← read]
    exact read_pieces cut (fun _ _ => isEnded) at_link arrivals limits

end Reader

/-- A command is answered by a reply that has arrived. -/
theorem Request.perform_arrived {content : Octets} {reply : Reply}
    (completes : replyReader.Completes content (.ok reply))
    (fits : content.length ≤ Link.readLimit) {l : Link} (unlimited : l.room = none)
    {tail : List Arrival} (arrivals : l.arrivals = .octets content :: tail) (line : Octets)
    (patience : Duration) (limits : List Limit) (w : World) :
    (Request.command line).perform 0 patience limits { w with links := [l] } =
      (.done reply, { w with links := [{ l with arrivals := tail, sent := l.sent ++ line }] }) := by
  have written : l.write line = (.ok (), { l with sent := l.sent ++ line }) := by
    rw [Link.write, unlimited]
  have run : ∀ limits, (Act.write 0 line >>= fun _ => Act.read replyReader 0) limits
      { w with links := [l] } =
        (.done reply,
          { w with links := [{ l with arrivals := tail, sent := l.sent ++ line }] }) := by
    intro limits
    have sent : Act.write 0 line limits { w with links := [l] } =
        (.done (), { w with links := [{ l with sent := l.sent ++ line }] }) := by
      have seen : Act.world limits { w with links := [l] } =
          (.done { w with links := [l] }, { w with links := [l] }) := rfl
      rw [Act.write, Act.bind_done seen]
      simp only [List.getElem?_cons_zero, written]
      rfl
    rw [Act.bind_done sent]
    exact Reader.read_arrived (l := { l with sent := l.sent ++ line }) completes fits rfl rfl
      arrivals limits
  change Act.limited _ (Act.write 0 line >>= fun _ => Act.read replyReader 0) limits _ = _
  rw [Act.limited, run]
  rfl

/-! ## Parsing again -/

/-- What an octet makes of an answer for which there are two parsers. -/
inductive Stride (σ κ α : Type) where
  | more (s : σ)
  | finished (result : Result α)
  /-- What follows is for the other parser. -/
  | refused (code : κ)

/-- Two parsers that take one octet at a time. The second one goes on where the first one stops at
a code. -/
structure Relay (σ κ τ α β : Type) where
  start : σ
  step : σ → UInt8 → Stride σ κ α
  /-- Where the second one begins. -/
  receive : κ → τ
  receiver : Reader τ β
  /-- What its result is for the answer. -/
  conclude : Result β → Result α
  /-- An answer has to be complete before this many octets have arrived. -/
  capacity : Nat

/-- What the first parser makes of octets, of which it may leave some. -/
inductive Scan (σ κ α : Type) where
  | incomplete (s : σ)
  | finished (result : Result α)
  | refused (code : κ) (rest : Octets)

namespace Relay

variable {σ κ τ α β : Type} (p : Relay σ κ τ α β)

/-- Runs the first parser. -/
def scan (s : σ) : Octets → Scan σ κ α
  | [] => .incomplete s
  | b :: rest =>
    match p.step s b with
    | .more s => scan s rest
    | .finished result => .finished result
    | .refused code => .refused code rest

/-- Parses an answer from its first octet on. There is no result as long as a parser wants
more. -/
def parse (octets : Octets) : Option (Result α) :=
  match p.scan p.start octets with
  | .incomplete _ => none
  | .finished result => some result
  | .refused code rest =>
    match p.receiver.feed (p.receive code) rest with
    | .more _ => none
    | .finished result => some (p.conclude result)

/-- Reads an answer in pieces: all octets so far are parsed again when more arrive. -/
def reread (pending : Octets) : List Octets → Result α
  | [] => .error .unparseableReply
  | piece :: rest =>
    if piece.isEmpty || p.capacity ≤ pending.length + piece.length then .error .unparseableReply
    else
      match p.parse (pending ++ piece) with
      | some result => result
      | none => reread (pending ++ piece) rest

/-- Both parsers as one reader, which keeps its state. -/
def reader : Reader (σ ⊕ τ) α where
  start := .inl p.start
  step
    | .inl s, b =>
      match p.step s b with
      | .more s => .more (.inl s)
      | .finished result => .finished result
      | .refused code => .more (.inr (p.receive code))
    | .inr t, b =>
      match p.receiver.step t b with
      | .more t => .more (.inr t)
      | .finished result => .finished (p.conclude result)
  capacity := some p.capacity

end Relay

/-- The result of a reader that has one. -/
def Progress.result? {σ α : Type} : Progress σ α → Option (Result α)
  | .more _ => none
  | .finished result => some result

namespace Relay

variable {σ κ τ α β : Type} (p : Relay σ κ τ α β)

theorem step_inl (s : σ) (b : UInt8) :
    p.reader.step (.inl s) b =
      match p.step s b with
      | .more s => .more (.inl s)
      | .finished result => .finished result
      | .refused code => .more (.inr (p.receive code)) := rfl

theorem step_inr (t : τ) (b : UInt8) :
    p.reader.step (.inr t) b =
      match p.receiver.step t b with
      | .more t => .more (.inr t)
      | .finished result => .finished (p.conclude result) := rfl

theorem feed_inr (t : τ) (octets : Octets) :
    (p.reader.feed (.inr t) octets).result? =
      match p.receiver.feed t octets with
      | .more _ => none
      | .finished result => some (p.conclude result) := by
  induction octets generalizing t with
  | nil => rfl
  | cons b octets ih =>
    rw [Reader.feed, Reader.feed, step_inr]
    cases p.receiver.step t b with
    | more t' => exact ih t'
    | finished result => rfl

theorem feed_inl (s : σ) (octets : Octets) :
    (p.reader.feed (.inl s) octets).result? =
      match p.scan s octets with
      | .incomplete _ => none
      | .finished result => some result
      | .refused code rest => (p.reader.feed (.inr (p.receive code)) rest).result? := by
  induction octets generalizing s with
  | nil => rfl
  | cons b octets ih =>
    rw [Reader.feed, scan, step_inl]
    cases p.step s b with
    | more s' => exact ih s'
    | finished result => rfl
    | refused code => rfl

/-- To parse all octets at once is what the reader does with them. -/
theorem parse_eq (octets : Octets) :
    p.parse octets = (p.reader.feed p.reader.start octets).result? := by
  have started : p.reader.start = .inl p.start := rfl
  rw [started, feed_inl, parse]
  cases p.scan p.start octets with
  | incomplete s => rfl
  | finished result => rfl
  | refused code rest => exact (p.feed_inr _ rest).symm

theorem reread_eq_resume {pending : Octets} {s : σ ⊕ τ}
    (fed : p.reader.feed p.reader.start pending = .more s) (pieces : List Octets) :
    p.reread pending pieces = p.reader.resume s pending.length pieces := by
  -- By induction on the pieces: the state is the one after all octets that are pending.
  induction pieces generalizing pending s with
  | nil => rfl
  | cons piece pieces ih =>
    have isOver : p.reader.isOver (pending.length + piece.length) =
        decide (p.capacity ≤ pending.length + piece.length) := rfl
    rw [reread, Reader.resume, isOver, parse_eq, Reader.feed_append, fed]
    split
    next => rfl
    next =>
      dsimp only
      cases now : p.reader.feed s piece with
      | finished result => rfl
      | more s' =>
        have fed' : p.reader.feed p.reader.start (pending ++ piece) = .more s' := by
          rw [Reader.feed_append, fed]
          exact now
        exact (ih fed').trans (by rw [List.length_append])

/-- A client that parses everything again whenever more arrives reads the same. -/
theorem reread_eq_read (pieces : List Octets) : p.reread [] pieces = p.reader.read pieces :=
  p.reread_eq_resume rfl pieces

end Relay

/-! ## Answers to EHLO -/

/-- The parser of lists of extensions and, for a refusal, the parser of replies. -/
def ehloRelay : Relay EhloState Nat ReplyState Capabilities Reply where
  start := {}
  step s b :=
    match s.step b with
    | .more s => .more s
    | .accepted c => .finished (.ok c)
    | .malformed => .finished (.error .unparseableReply)
    | .rejected code => .refused code
  receive code := { place := .mark, code }
  receiver := replyReader
  conclude
    | .ok reply => .error (.unexpectedReply reply)
    | .error _ => .error .unparseableReply
  capacity := 4096

/-- The state of both parsers in which the reader of an answer is. -/
def AnswerState.relayed : AnswerState → EhloState ⊕ ReplyState
  | listing s => .inl s
  | refusal s => .inr s

/-- The reader of answers to EHLO makes the steps of its parsers. -/
theorem step_relayed (s : AnswerState) (b : UInt8) :
    ehloRelay.reader.step s.relayed b =
      match ehloReader.step s b with
      | .more s => .more s.relayed
      | .finished result => .finished result := by
  cases s with
  | listing s =>
    have stepped : ehloReader.step (.listing s) b = AnswerState.step (.listing s) b := rfl
    have stepped' : ehloRelay.step s b =
        match s.step b with
        | .more s => .more s
        | .accepted c => .finished (.ok c)
        | .malformed => .finished (.error .unparseableReply)
        | .rejected code => .refused code := rfl
    rw [AnswerState.relayed, Relay.step_inl, stepped, stepped', AnswerState.step]
    cases s.step b <;> rfl
  | refusal s =>
    have stepped : ehloReader.step (.refusal s) b = AnswerState.step (.refusal s) b := rfl
    have stepped' : ehloRelay.receiver.step s b = s.step b := rfl
    rw [AnswerState.relayed, Relay.step_inr, stepped, stepped', AnswerState.step]
    rcases step : s.step b with s' | e | reply
    · rfl
    · -- What is no reply is unparseable to both.
      rw [isApt_replyReader_unparseable s b _ step e rfl]
      rfl
    · rfl

theorem feed_relayed (s : AnswerState) (octets : Octets) :
    ehloRelay.reader.feed s.relayed octets =
      match ehloReader.feed s octets with
      | .more s => .more s.relayed
      | .finished result => .finished result := by
  induction octets generalizing s with
  | nil => rfl
  | cons b octets ih =>
    rw [Reader.feed, Reader.feed, step_relayed]
    cases ehloReader.step s b with
    | more s' => exact ih s'
    | finished result => rfl

theorem resume_relayed (s : AnswerState) (taken : Nat) (pieces : List Octets) :
    ehloRelay.reader.resume s.relayed taken pieces = ehloReader.resume s taken pieces := by
  induction pieces generalizing s taken with
  | nil => rfl
  | cons piece pieces ih =>
    have isOver (n : Nat) : ehloRelay.reader.isOver n = ehloReader.isOver n := rfl
    rw [Reader.resume, Reader.resume, isOver, feed_relayed]
    split
    next => rfl
    next =>
      cases ehloReader.feed s piece with
      | more s' => exact ih s' _
      | finished result => rfl

/-- Where an answer is cut makes no difference to any reader, and it makes none whether two parsers,
of which one takes over from the other, keep their state between the pieces or parse everything
again with each of them. Replies and answers to EHLO are read in these ways. -/
theorem replies_ignore_cuts :
    (∀ (σ α : Type) (r : Reader σ α), r.IgnoresCuts) ∧
      (∀ (σ κ τ α β : Type) (p : Relay σ κ τ α β) (pieces : List Octets),
        p.reread [] pieces = p.reader.read pieces) ∧
      replyReader.IgnoresCuts ∧ ehloReader.IgnoresCuts ∧
      ∀ pieces, ehloRelay.reread [] pieces = ehloReader.read pieces := by
  refine ⟨fun σ α r => r.ignoresCuts, fun σ κ τ α β p => p.reread_eq_read,
    replyReader.ignoresCuts, ehloReader.ignoresCuts, fun pieces => ?_⟩
  rw [Relay.reread_eq_read]
  exact resume_relayed ehloReader.start 0 pieces

-- A refusal that is cut inside its code.
example : ehloReader.read [Octets.ofString "55", Octets.ofString "0 no\r\n"] =
    .error (.unexpectedReply ⟨550, (0, 0, 0), Utf8.decodeString (Octets.ofString "no")⟩) := rfl

end Outbox.Smtp
