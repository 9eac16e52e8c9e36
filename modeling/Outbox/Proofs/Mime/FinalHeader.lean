import Outbox.Proofs.Address.DisplayList
import Outbox.Proofs.Dkim.Written
import Outbox.Proofs.Headers
import Outbox.Proofs.Mime.Payload

/-!
# Outbox.Proofs.Mime.FinalHeader — what the fields of a final header depend on

A field that is set on the way out takes the place of one of the same name. So a final header is
looked up in layers: the signature, the fields that describe the body, those that are derived from
the message, and under these the caller's own. The derived ones are not set if they would be empty.

* `get?_finalHeaders` — an own field of a message is its derived value if there is one, and
  otherwise what the caller gave.
* `blindCopies_hidden` — blind copies change nothing that is built, and no final header and no
  signature names them.
* `get?_final_eq_iff` — of two messages with the same addresses, subject and date an own field is
  the same, unless it is left to the caller and the callers differ.
-/

namespace Outbox.Mime

open Octets

/-! ## Setting several fields -/

/-- Sets a field if there is a value for it. -/
def setField (h : Headers) (e : String × Option String) : Headers :=
  match e.2 with
  | none => h
  | some value => h.insert e.1 value

/-- Sets the fields that have a value. -/
def setAll (h : Headers) (fields : List (String × Option String)) : Headers :=
  fields.foldl setField h

theorem get?_setField (h : Headers) (e : String × Option String) (x : String) :
    (setField h e).get? x =
      if nameKey e.1 = nameKey x then e.2.or (h.get? x) else h.get? x := by
  rcases e with ⟨name, value?⟩
  cases value? with
  | none => simp [setField]
  | some value => simp [setField, Headers.get?_insert]

theorem get?_setAll_of_not_mem {x : String} {fields : List (String × Option String)}
    (hx : ∀ e ∈ fields, nameKey e.1 ≠ nameKey x) (h : Headers) :
    (setAll h fields).get? x = h.get? x := by
  induction fields generalizing h with
  | nil => rfl
  | cons e rest ih =>
    have hrest : ∀ d ∈ rest, nameKey d.1 ≠ nameKey x := by
      intro d hd
      exact hx d (List.mem_cons_of_mem e hd)
    show (setAll (setField h e) rest).get? x = h.get? x
    rw [ih hrest, get?_setField, if_neg (hx e List.mem_cons_self)]

/-- A field that is set by name is found, or what stood there before if it has no value. -/
theorem get?_setAll_of_mem {fields : List (String × Option String)}
    (hnames : (fields.map fun e => nameKey e.1).Nodup) {e : String × Option String}
    (he : e ∈ fields) (h : Headers) : (setAll h fields).get? e.1 = e.2.or (h.get? e.1) := by
  induction fields generalizing h with
  | nil => exact absurd he List.not_mem_nil
  | cons d rest ih =>
    rw [List.map_cons, List.nodup_cons] at hnames
    rcases hnames with ⟨hnew, hrest⟩
    have hothers : ∀ x ∈ rest, nameKey x.1 ≠ nameKey d.1 := by
      simpa [eq_comm] using hnew
    show (setAll (setField h d) rest).get? e.1 = e.2.or (h.get? e.1)
    -- No later field has the name of the first one.
    rcases List.mem_cons.1 he with rfl | he
    · rw [get?_setAll_of_not_mem hothers, get?_setField, if_pos rfl]
    · rw [ih hrest he, get?_setField, if_neg (hothers e he).symm]

/-! ## The fields that are derived from a message -/

/-- The names of the fields that describe a message itself. -/
def ownNames : List String := ["From", "To", "Cc", "Subject", "Date", "MIME-Version"]

/-- The other names under which a final header is changed. -/
def otherNames : List String :=
  ["Bcc", "List-Unsubscribe", "X-Tracking-ID", "Message-ID", "Content-Type",
    "Content-Transfer-Encoding", Dkim.Signature.fieldName]

theorem nameKey_ne_of_mem : ∀ name ∈ ownNames, ∀ other ∈ otherNames,
    nameKey other ≠ nameKey name := by
  decide

/-- A value, unless it is empty. -/
def unlessEmpty (value : String) : Option String := if value.isEmpty then none else some value

/-- The fields that describe a message itself, without a value where the message has none. -/
def ownFields (m : Message) (date : Nat) : List (String × Option String) :=
  [("From", some m.sender.display), ("To", unlessEmpty (Address.displayList m.direct)),
    ("Cc", unlessEmpty (Address.displayList m.copies)),
    ("Subject", unlessEmpty (headerString m.subject)), ("Date", some (Date.render date)),
    ("MIME-Version", some "1.0")]

theorem map_fst_ownFields (m : Message) (date : Nat) :
    (ownFields m date).map Prod.fst = ownNames := rfl

theorem mem_ownNames {m : Message} {date : Nat} {e : String × Option String}
    (he : e ∈ ownFields m date) : e.1 ∈ ownNames := by
  rw [← map_fst_ownFields m date]
  exact List.mem_map_of_mem he

/-- All fields that are set over those of the caller. -/
def derivedFields (m : Message) (f : Finishing) (o : Occasion) : List (String × Option String) :=
  ("List-Unsubscribe", f.listUnsubscribe.filter fun value => !Text.isBlank value) ::
    (ownFields m o.date ++
      [("X-Tracking-ID", unlessEmpty (headerString (m.trackingId.getD "")))])

theorem nodup_derivedFields (m : Message) (f : Finishing) (o : Occasion) :
    ((derivedFields m f o).map fun e => nameKey e.1).Nodup := by
  show ((["List-Unsubscribe"] ++ ownNames ++ ["X-Tracking-ID"]).map nameKey).Nodup
  decide

theorem insertUnlessEmpty_eq (h : Headers) (name value : String) :
    insertUnlessEmpty h name value = setField h (name, unlessEmpty value) := by
  unfold insertUnlessEmpty unlessEmpty
  split
  · rfl
  · rfl

/-- Gives a header a message identifier unless it has one. -/
def identified (h : Headers) (identifier : String) : Headers :=
  if h.contains "Message-ID" then h else h.insert "Message-ID" identifier

/-- A final header is what the caller gave without blind copies, under the fields that are derived
from the message. -/
theorem finalHeaders_eq (m : Message) (f : Finishing) (o : Occasion) :
    finalHeaders m f o =
      identified (setAll (m.headers.erase "Bcc") (derivedFields m f o))
        (messageId o m.sender) := by
  unfold finalHeaders
  extract_lets base listed sent addressed copied titled dated versioned tracked
  have hlisted : setField base
      ("List-Unsubscribe", f.listUnsubscribe.filter fun value => !Text.isBlank value) = listed := by
    unfold listed
    cases f.listUnsubscribe with
    | none => rfl
    | some value =>
      cases hblank : Text.isBlank value with
      | true => simp [Option.filter_some, hblank, setField]
      | false => simp [Option.filter_some, hblank, setField]
  have hsent : setField listed ("From", some m.sender.display) = sent := rfl
  have haddressed : setField sent ("To", unlessEmpty (Address.displayList m.direct)) = addressed :=
    (insertUnlessEmpty_eq _ _ _).symm
  have hcopied : setField addressed ("Cc", unlessEmpty (Address.displayList m.copies)) = copied :=
    (insertUnlessEmpty_eq _ _ _).symm
  have htitled : setField copied ("Subject", unlessEmpty (headerString m.subject)) = titled :=
    (insertUnlessEmpty_eq _ _ _).symm
  have hdated : setField titled ("Date", some (Date.render o.date)) = dated := rfl
  have hversioned : setField dated ("MIME-Version", some "1.0") = versioned := rfl
  have htracked : setField versioned
      ("X-Tracking-ID", unlessEmpty (headerString (m.trackingId.getD ""))) = tracked :=
    (insertUnlessEmpty_eq _ _ _).symm
  -- One field after the other is set, in the order of the list.
  have hall : setAll base (derivedFields m f o) = tracked := by
    simp only [setAll, derivedFields, ownFields, List.cons_append, List.nil_append,
      List.foldl_cons, List.foldl_nil]
    rw [hlisted, hsent, haddressed, hcopied, htitled, hdated, hversioned, htracked]
  rw [hall]
  rfl

/-- A message identifier is set under its own name only. -/
theorem get?_finalHeaders_eq (m : Message) (f : Finishing) (o : Occasion) {x : String}
    (hx : nameKey "Message-ID" ≠ nameKey x) :
    (finalHeaders m f o).get? x =
      (setAll (m.headers.erase "Bcc") (derivedFields m f o)).get? x := by
  rw [finalHeaders_eq, identified]
  split
  · rfl
  · rw [Headers.get?_insert, if_neg hx]

/-- An own field of a message has its derived value, or the caller's if there is none. -/
theorem get?_finalHeaders (m : Message) (f : Finishing) (o : Occasion)
    {e : String × Option String} (he : e ∈ ownFields m o.date) :
    (finalHeaders m f o).get? e.1 = e.2.or (m.headers.get? e.1) := by
  have hname := mem_ownNames he
  have hmem : e ∈ derivedFields m f o := List.mem_cons_of_mem _ (List.mem_append_left _ he)
  have hidentifier := nameKey_ne_of_mem e.1 hname "Message-ID" (by decide)
  have hblind := nameKey_ne_of_mem e.1 hname "Bcc" (by decide)
  rw [get?_finalHeaders_eq m f o hidentifier, get?_setAll_of_mem (nodup_derivedFields m f o) hmem,
    Headers.get?_erase, if_neg hblind]

/-! ## The fields of the body and of the signature -/

theorem get?_markMultipart (h : Headers) (kind boundary : String) {x : String}
    (htype : nameKey "Content-Type" ≠ nameKey x)
    (hencoding : nameKey "Content-Transfer-Encoding" ≠ nameKey x) :
    (markMultipart h kind boundary).get? x = h.get? x := by
  rw [markMultipart, Headers.get?_insert, if_neg htype, Headers.get?_erase, if_neg hencoding]

theorem get?_markText (h : Headers) (type : String) {x : String}
    (htype : nameKey "Content-Type" ≠ nameKey x)
    (hencoding : nameKey "Content-Transfer-Encoding" ≠ nameKey x) :
    (markText h type).get? x = h.get? x := by
  rw [markText, Headers.get?_insert, if_neg hencoding, Headers.get?_insert, if_neg htype]

theorem get?_compose {m : Message} {f : Finishing} {o : Occasion} {c : Composed}
    (h : compose m f o = .ok c) {x : String} (htype : nameKey "Content-Type" ≠ nameKey x)
    (hencoding : nameKey "Content-Transfer-Encoding" ≠ nameKey x) :
    c.headers.get? x = (finalHeaders m f o).get? x := by
  cases shape_of_compose h with
  | mixed parts => exact get?_markMultipart _ "mixed" _ htype hencoding
  | alternative text html => exact get?_markMultipart _ "alternative" _ htype hencoding
  | html html => exact get?_markText _ htmlType htype hencoding
  | plain => exact get?_markText _ plainType htype hencoding

theorem get?_sign {c signed : Composed} {dkim : Option Dkim.Settings} {time : Nat}
    (h : c.sign dkim time = .ok signed) {x : String}
    (hx : nameKey Dkim.Signature.fieldName ≠ nameKey x) :
    signed.headers.get? x = c.headers.get? x := by
  rcases sign_cases h with ⟨-, rfl⟩ | ⟨s, signature, -, -, rfl⟩
  · rfl
  · rw [Headers.get?_insertFirst, if_neg hx]

/-- What is written under an own name is what was derived for it, or what the caller gave. -/
theorem get?_of_isFinal {m : Message} {f : Finishing} {o : Occasion} {signed : Composed}
    (h : IsFinal m f o signed) {e : String × Option String} (he : e ∈ ownFields m o.date) :
    signed.headers.get? e.1 = e.2.or (m.headers.get? e.1) := by
  have hname := mem_ownNames he
  rcases h with ⟨c, hcompose, hsign⟩
  rw [get?_sign hsign (nameKey_ne_of_mem e.1 hname Dkim.Signature.fieldName (by decide)),
    get?_compose hcompose (nameKey_ne_of_mem e.1 hname "Content-Type" (by decide))
      (nameKey_ne_of_mem e.1 hname "Content-Transfer-Encoding" (by decide)),
    get?_finalHeaders m f o he]

/-! ## Blind copies -/

theorem get?_bcc_compose {m : Message} {f : Finishing} {o : Occasion} {c : Composed}
    (h : compose m f o = .ok c) : c.headers.get? "Bcc" = none := by
  have hderived : ∀ e ∈ derivedFields m f o, nameKey e.1 ≠ nameKey "Bcc" := by
    intro e he
    have hname : e.1 ∈ ["List-Unsubscribe"] ++ ownNames ++ ["X-Tracking-ID"] :=
      List.mem_map_of_mem (f := Prod.fst) he
    revert hname
    generalize e.1 = name
    revert name
    decide
  rw [get?_compose h (by decide) (by decide), get?_finalHeaders_eq m f o (by decide),
    get?_setAll_of_not_mem hderived, Headers.get?_erase, if_pos rfl]

/-- Blind copies change nothing that is built. Whatever fields the caller gave, neither a final
header nor the list of fields in a signature names them. -/
theorem blindCopies_hidden (f : Finishing) (hooks : Hooks) (o : Occasion) (now : Instant)
    (a : Ambient) :
    (∀ (m : Message) (others : List Address), m.validate = .ok () →
      { m with blindCopies := others }.validate = .ok () →
      (build { m with blindCopies := others } f hooks o now a).1 = (build m f hooks o now a).1) ∧
    ∀ (m : Message) (c signed : Composed), compose m f o = .ok c →
      c.sign f.dkim o.signed = .ok signed →
      (∀ e ∈ signed.headers.entries, sameName e.1 "Bcc" = false) ∧
      ∀ s signature, f.dkim = some s → s.signAt c.headers c.body o.signed = .ok signature →
        ∀ name ∈ signature.signedHeaders, sameName name "Bcc" = false := by
  constructor
  · intro m others hvalid hother
    have hpayload : payload { m with blindCopies := others } f o = payload m f o := rfl
    simp only [build, hvalid, hother, hpayload]
  · intro m c signed hcompose hsign
    have hcomposed := get?_bcc_compose hcompose
    constructor
    · have hsigned : signed.headers.get? "Bcc" = none := by
        rw [get?_sign hsign (by decide), hcomposed]
      exact Headers.not_sameName_of_get? hsigned
    · intro s signature hdkim hsignature name hname
      rcases Dkim.signAt_cases hsignature with ⟨key, value, -, -, rfl⟩
      rcases List.mem_map.1 hname with ⟨e, he, rfl⟩
      -- Every name in the list is that of a field that was found.
      rcases List.mem_filterMap.1 he with ⟨wanted, -, hfound⟩
      have hentry := Headers.not_sameName_of_get? hcomposed e (List.mem_of_find?_eq_some hfound)
      rw [sameName, nameKey_ofList_lower]
      exact hentry

/-- A note that is signed, with a field for blind copies from the caller. -/
def blindNote : Message := { Dkim.greetingNote with headers := .ofList [("bCC", "d@x.org")] }

/-- Neither what is written for the note nor its signature tells of its blind copies. -/
theorem blindCopies_hidden_blindNote :
    (build { blindNote with blindCopies := [.ofMailbox "c@x.org"] } ⟨none, some Dkim.shortSettings⟩
        {} Dkim.firstSecond .start atRest).1 =
      (build blindNote ⟨none, some Dkim.shortSettings⟩ {} Dkim.firstSecond .start atRest).1 ∧
    ∃ c signed signature,
      compose blindNote ⟨none, some Dkim.shortSettings⟩ Dkim.firstSecond = .ok c ∧
      c.sign (some Dkim.shortSettings) 1 = .ok signed ∧
      Dkim.shortSettings.signAt c.headers c.body 1 = .ok signature ∧
      (∀ e ∈ signed.headers.entries, sameName e.1 "Bcc" = false) ∧
      ∀ name ∈ signature.signedHeaders, sameName name "Bcc" = false := by
  rcases blindCopies_hidden ⟨none, some Dkim.shortSettings⟩ {} Dkim.firstSecond .start atRest with
    ⟨hbuild, hnames⟩
  refine ⟨hbuild blindNote [.ofMailbox "c@x.org"] rfl rfl, ?_⟩
  have hcompose : compose blindNote ⟨none, some Dkim.shortSettings⟩ Dkim.firstSecond =
      compose Dkim.greetingNote ⟨none, some Dkim.shortSettings⟩ Dkim.firstSecond := rfl
  rcases Dkim.build_greetingNote with ⟨p, hp⟩
  rcases payload_eq_ok_iff.1 (payload_of_build hp).2 with ⟨c, signed, hc, hsign, -⟩
  rcases sign_cases hsign with ⟨hnone, -⟩ | ⟨s, signature, hsome, hsignature, -⟩
  · cases hnone
  · cases hsome
    rcases hnames blindNote c signed (hcompose.trans hc) hsign with ⟨hfields, hlist⟩
    exact ⟨c, signed, signature, hcompose.trans hc, hsign, hsignature, hfields,
      hlist _ signature rfl hsignature⟩

/-! ## Own fields of two messages -/

/-- A field that a message leaves to its caller, as it has no mailbox or no text for it. -/
def LeftToCaller (m : Message) (name : String) : Prop :=
  (name = "To" ∧ ∀ a ∈ m.direct, a.isEmpty = true) ∨
    (name = "Cc" ∧ ∀ a ∈ m.copies, a.isEmpty = true) ∨
    (name = "Subject" ∧ ∀ c ∈ m.subject.toList, Text.isControl c = true)

theorem unlessEmpty_eq_none_iff {value : String} : unlessEmpty value = none ↔ value = "" := by
  simp [unlessEmpty]

theorem headerText_eq_nil_iff {text : List Char} :
    headerText text = [] ↔ ∀ c ∈ text, Text.isControl c = true := by
  have hvisible : text.filter (fun c => !Text.isControl c) = [] ↔
      ∀ c ∈ text, Text.isControl c = true := by
    simp [List.filter_eq_nil_iff]
  rw [← hvisible]
  unfold headerText
  dsimp only
  split
  case isTrue => exact Iff.rfl
  case isFalse hascii =>
    constructor
    · intro hnil
      by_contra hne
      exact encodedWords_ne_nil hne hnil
    · intro hnil
      rw [hnil] at hascii
      exact absurd rfl hascii

/-- A message has no value for a field exactly if it leaves it to its caller. -/
theorem leftToCaller_iff {m : Message} {date : Nat} {e : String × Option String}
    (he : e ∈ ownFields m date) : LeftToCaller m e.1 ↔ e.2 = none := by
  have hsubject : headerString m.subject = "" ↔
      ∀ c ∈ m.subject.toList, Text.isControl c = true := by
    rw [← headerText_eq_nil_iff, ← String.toList_inj, headerString, String.toList_ofList]
    rfl
  simp only [ownFields, List.mem_cons, List.not_mem_nil, or_false] at he
  unfold LeftToCaller
  rcases he with rfl | rfl | rfl | rfl | rfl | rfl
  · simp
  · simp [unlessEmpty_eq_none_iff, Address.displayList_eq_empty_iff]
  · simp [unlessEmpty_eq_none_iff, Address.displayList_eq_empty_iff]
  · simp [unlessEmpty_eq_none_iff, hsubject]
  · simp
  · simp

/-- Of two messages with the same addresses and subject, at the same date, an own field is the
same in both final headers, unless the messages leave it to their callers and these gave different
ones. Nothing else in the messages, the settings or what is left to chance makes a difference. -/
theorem get?_final_eq_iff {m m' : Message} {f f' : Finishing} {o o' : Occasion}
    {signed signed' : Composed} (h : IsFinal m f o signed) (h' : IsFinal m' f' o' signed')
    (hsender : m'.sender = m.sender) (hdirect : m'.direct = m.direct)
    (hcopies : m'.copies = m.copies) (hsubject : m'.subject = m.subject)
    (hdate : o'.date = o.date) :
    ∀ name ∈ ownNames,
      (signed.headers.get? name = signed'.headers.get? name ↔
        (LeftToCaller m name → m.headers.get? name = m'.headers.get? name)) := by
  have hsame : ownFields m' o'.date = ownFields m o.date := by
    simp only [ownFields, hsender, hdirect, hcopies, hsubject, hdate]
  intro name hname
  rw [← map_fst_ownFields m o.date] at hname
  rcases List.mem_map.1 hname with ⟨e, he, rfl⟩
  have hfirst := get?_of_isFinal h he
  have hsecond := get?_of_isFinal h' (hsame ▸ he)
  rw [hfirst, hsecond, leftToCaller_iff he]
  cases e.2 with
  | none => simp
  | some value => simp

/-- A note to a blind copy only. -/
def undisclosedNote : Message :=
  { dotNote with
    direct := []
    blindCopies := [.ofMailbox "b@x.org"]
    textBody := some (ofString "hi") }

/-- The note with a field of the caller for its recipients. -/
def claimedNote : Message := { undisclosedNote with headers := .ofList [("To", "c@x.org")] }

theorem exists_isFinal {m : Message} {f : Finishing} (hattached : m.attachments = [])
    (hdkim : f.dkim = none) (o : Occasion) : ∃ signed, IsFinal m f o signed := by
  have hcompose : ∃ c, compose m f o = .ok c := by
    simp only [compose, hattached, List.isEmpty_nil, if_true]
    split
    · exact ⟨_, rfl⟩
    · exact ⟨_, rfl⟩
    · exact ⟨_, rfl⟩
  rcases hcompose with ⟨c, hc⟩
  refine ⟨c, c, hc, ?_⟩
  rw [hdkim]
  rfl

/-- With a recipient of its own, the note is addressed to that one, whatever the caller wrote. -/
theorem get?_final_eq_dotNote :
    ∃ signed signed', IsFinal dotNote ⟨none, none⟩ epoch signed ∧
      IsFinal { dotNote with headers := .ofList [("tO", "c@x.org")] } ⟨none, none⟩ epoch signed' ∧
      ∀ name ∈ ownNames, signed.headers.get? name = signed'.headers.get? name := by
  have hfirst : ∃ signed, IsFinal dotNote ⟨none, none⟩ epoch signed := exists_isFinal rfl rfl _
  have hsecond : ∃ signed, IsFinal { dotNote with headers := .ofList [("tO", "c@x.org")] }
      ⟨none, none⟩ epoch signed := exists_isFinal rfl rfl _
  rcases hfirst with ⟨signed, h⟩
  rcases hsecond with ⟨signed', h'⟩
  refine ⟨signed, signed', h, h', ?_⟩
  intro name hname
  rw [get?_final_eq_iff h h' rfl rfl rfl rfl rfl name hname]
  rintro (⟨-, hempty⟩ | ⟨rfl, -⟩ | ⟨rfl, -⟩)
  · exact absurd (hempty _ List.mem_cons_self) (by decide)
  · rfl
  · rfl

/-- Without one, the two notes differ only in what the caller wrote, and so do the fields. -/
theorem get?_to_claimedNote :
    undisclosedNote.validate = .ok () ∧ claimedNote.validate = .ok () ∧
      ∃ signed signed', IsFinal undisclosedNote ⟨none, none⟩ epoch signed ∧
        IsFinal claimedNote ⟨none, none⟩ epoch signed' ∧
        signed.headers.get? "To" = none ∧ signed'.headers.get? "To" = some "c@x.org" := by
  have hto : ∀ m : Message, m.direct = [] → ("To", none) ∈ ownFields m epoch.date := by
    intro m hdirect
    have hempty : Address.displayList m.direct = "" := by
      rw [Address.displayList_eq_empty_iff, hdirect]
      exact fun a ha => absurd ha List.not_mem_nil
    simp [ownFields, unlessEmpty, hempty]
  have hfirst : ∃ signed, IsFinal undisclosedNote ⟨none, none⟩ epoch signed :=
    exists_isFinal rfl rfl _
  have hsecond : ∃ signed, IsFinal claimedNote ⟨none, none⟩ epoch signed :=
    exists_isFinal rfl rfl _
  rcases hfirst with ⟨signed, h⟩
  rcases hsecond with ⟨signed', h'⟩
  refine ⟨rfl, rfl, signed, signed', h, h', ?_, ?_⟩
  · rw [get?_of_isFinal h (hto undisclosedNote rfl)]
    rfl
  · rw [get?_of_isFinal h' (hto claimedNote rfl)]
    rfl

end Outbox.Mime
