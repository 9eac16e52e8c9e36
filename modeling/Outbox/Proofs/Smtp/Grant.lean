import Outbox.Proofs.Smtp.Negotiation
import Outbox.Proofs.Smtp.Segmentation

/-!
# Outbox.Proofs.Smtp.Grant — a login that is granted

A server grants a login with a reply of its own code. Who is granted a login should be logged in,
and say nothing more about it.

* `HonoursGrant` is this rule.
* `IsLogin.honoursGrant_iff` — a login keeps to it unless the grant comes late, that is, in the
  reply to the third response to challenges of one mechanism. That reply is not looked at.
-/

namespace Outbox.Smtp

variable {credentials : Credentials} {c : Capabilities} {xs : List Exchange}
  {result? : Option (Result Unit)}

/-- The server grants the login in its reply. -/
def Exchange.IsGrant (x : Exchange) : Prop :=
  ∃ reply, x.reply? = some reply ∧ reply.code = grantedCode

/-- Who is granted a login is logged in. -/
structure HonoursGrant (xs : List Exchange) (result? : Option (Result Unit)) : Prop where
  succeeds : result? = some (.ok ()) ↔ ∃ x ∈ xs, x.IsGrant
  /-- A grant is not reported as a failure. -/
  notReported : ∀ reply, reply.code = grantedCode →
    result? ≠ some (.error (.authenticationFailed reply)) ∧
      result? ≠ some (.error (.unexpectedReply reply))
  /-- After a grant nothing is said. -/
  silent : ∀ first x rest, xs = first ++ x :: rest → x.IsGrant → rest = []

/-- The login is granted after three challenges of one mechanism were answered. -/
def GrantedLate (credentials : Credentials) (xs : List Exchange) : Prop :=
  ∃ first x rest t earlier, xs = first ++ x :: rest ∧ x.IsGrant ∧
    trials credentials (first ++ [x]) = t :: earlier ∧ t.answered = 3

/-- A grant that is not late is taken for one. -/
theorem Spoken.granted {first rest : List Exchange} {x : Exchange}
    (h : Spoken credentials c (first ++ x :: rest)) (grant : x.IsGrant)
    (inTime : ¬ GrantedLate credentials (first ++ x :: rest)) :
    ∃ t earlier reply, trials credentials (first ++ [x]) = t :: earlier ∧ t.Granted reply := by
  obtain empty | ⟨t, earlier, trying⟩ := h.through.left.trying
  · exact absurd empty (List.append_ne_nil_of_right_ne_nil _ (List.cons_ne_nil _ _))
  · obtain ⟨reply, heard, isGrant⟩ := grant
    refine ⟨t, earlier, reply, trying.tried, ?_, isGrant, ?_⟩
    · rw [trying.heard, lastReply_append, heard]
    · -- At most three challenges were answered, and if it were three the grant would be late.
      refine Nat.lt_of_le_of_ne (trying.answered t (.head _)) fun late => inTime ?_
      exact ⟨first, x, rest, t, earlier, rfl, ⟨reply, heard, isGrant⟩, trying.tried, late⟩

/-- Nothing is asked after a reply that is taken for a grant. -/
theorem MayAsk.not_granted {r : Request} (asks : MayAsk credentials c xs r) {t : Trial}
    {earlier : List Trial} (tried : trials credentials xs = t :: earlier) {reply : Reply} :
    ¬ t.Granted reply := by
  cases asks with
  | opens passed next =>
    obtain ⟨reply', refused, -⟩ := passed t (by rw [tried]; exact .head _)
    exact refused.not_granted
  | responds tried' challenged responds =>
    obtain ⟨rfl, -⟩ := List.cons.inj (tried.symm.trans tried')
    exact challenged.not_granted

theorem Spoken.silent (h : Spoken credentials c xs) (inTime : ¬ GrantedLate credentials xs) :
    ∀ first x rest, xs = first ++ x :: rest → x.IsGrant → rest = [] := by
  rintro first x rest rfl grant
  obtain ⟨t, earlier, reply, tried, granted⟩ := h.granted grant inTime
  exact h.through.eq_nil fun r asks => asks.not_granted tried granted

namespace IsLogin

/-- A late grant is taken for a refusal. -/
theorem not_honoursGrant (h : IsLogin credentials c xs result?)
    (late : GrantedLate credentials xs) : ¬ HonoursGrant xs result? := by
  obtain ⟨first, x, rest, t, earlier, rfl, grant, tried, answered⟩ := late
  intro honours
  obtain rfl := honours.silent first x rest rfl grant
  have result := honours.succeeds.2 ⟨x, List.mem_append_right _ (.head _), grant⟩
  obtain ⟨reply, heard, isGrant⟩ := grant
  have heard : t.heard = some reply := by rw [h.spoken.heard tried, lastReply_append, heard]
  obtain ⟨challenged, -⟩ | ⟨granted, -⟩ | ⟨-, failed⟩ := h.result_of_heard tried heard
  · exact absurd answered (Nat.ne_of_lt challenged.answered)
  · exact absurd answered (Nat.ne_of_lt granted.answered)
  · rw [failed] at result
    cases result

theorem succeeds (h : IsLogin credentials c xs result?) (inTime : ¬ GrantedLate credentials xs) :
    result? = some (.ok ()) ↔ ∃ x ∈ xs, x.IsGrant := by
  constructor
  · intro result
    have ends := h.ended _ result
    cases ends with
    | @granted _ t earlier reply tried granted =>
      obtain ⟨first, x, rfl, heard⟩ :=
        lastReply_eq_some ((h.spoken.heard tried).symm.trans granted.heard)
      exact ⟨x, List.mem_append_right _ (.head _), reply, heard, granted.isGrant⟩
  · rintro ⟨x, mem, grant⟩
    obtain ⟨first, rest, rfl⟩ := List.append_of_mem mem
    obtain rfl := h.spoken.silent inTime first x rest rfl grant
    obtain ⟨t, earlier, reply, tried, granted⟩ := h.spoken.granted grant inTime
    obtain ⟨challenged, -⟩ | ⟨-, result⟩ | ⟨refused, -⟩ := h.result_of_heard tried granted.heard
    · exact absurd granted challenged.not_granted
    · exact result
    · exact absurd granted refused.not_granted

/-- A login fails with a grant only if it is late. -/
theorem notReported (h : IsLogin credentials c xs result?)
    (inTime : ¬ GrantedLate credentials xs) {reply : Reply} (isGrant : reply.code = grantedCode) :
    result? ≠ some (.error (.authenticationFailed reply)) ∧
      result? ≠ some (.error (.unexpectedReply reply)) := by
  constructor <;> intro result <;> have ends := h.ended _ result
  · cases ends with
    | broken first line ofLink => cases ofLink
    | unanswerable tried challenged unanswerable =>
      obtain same | same := Mechanism.respond_error unanswerable <;> cases same
    | @refused _ t earlier reply tried refused last =>
      obtain ⟨first, x, rfl, heard⟩ :=
        lastReply_eq_some ((h.spoken.heard tried).symm.trans refused.heard)
      exact inTime ⟨first, x, [], t, earlier, rfl, ⟨reply, heard, isGrant⟩, tried,
        refused.isRefusal (.inr isGrant)⟩
  · cases ends with
    | broken first line ofLink => cases ofLink
    | unanswerable tried challenged unanswerable =>
      obtain same | same := Mechanism.respond_error unanswerable <;> cases same

theorem honoursGrant_iff (h : IsLogin credentials c xs result?) :
    HonoursGrant xs result? ↔ ¬ GrantedLate credentials xs :=
  ⟨fun honours late => h.not_honoursGrant late honours, fun inTime =>
    ⟨h.succeeds inTime, fun _ => h.notReported inTime, h.spoken.silent inTime⟩⟩

end IsLogin

/-- Whatever the server says, a granted login is a success exactly if the grant does not come in
the reply to the third response. -/
theorem authenticate_honoursGrant_iff (credentials : Credentials) (c : Capabilities) (link : Nat)
    (patience : Duration) (limits : List Limit) (w : World) :
    HonoursGrant ((authenticate c credentials).exchanges link patience limits w)
        ((authenticate c credentials).run link patience limits w).1.result? ↔
      ¬ GrantedLate credentials ((authenticate c credentials).exchanges link patience limits w) :=
  (isLogin_authenticate credentials c link patience limits w).honoursGrant_iff

/-! ## A late grant -/

/-- A dialogue goes on with a reply that has arrived. -/
theorem exchanges_arrived {α : Type} {content : Octets} {reply : Reply}
    (completes : replyReader.Completes content (.ok reply))
    (fits : content.length ≤ Link.readLimit) {l : Link} (unlimited : l.room = none)
    {tail : List Arrival} (arrivals : l.arrivals = .octets content :: tail) {line : Octets}
    {next : Result Reply → Dialogue α} {patience : Duration} {limits : List Limit} {w : World}
    {xs : List Exchange}
    (rest : (next (.ok reply)).exchanges 0 patience limits
      { w with links := [{ l with arrivals := tail, sent := l.sent ++ line }] } = xs) :
    (Dialogue.ask (.command line) next).exchanges 0 patience limits { w with links := [l] } =
      ⟨.command line, some (.ok reply)⟩ :: xs := by
  have run := Request.perform_arrived completes fits unlimited arrivals line patience limits w
  refine (Dialogue.exchanges_answered (by rw [run]; rfl)).trans ?_
  rw [run]
  exact congrArg _ rest

/-- A server that answers a mechanism with three challenges and then grants the login. -/
def patientServer : Link :=
  { arrivals := [.octets (Octets.ofString "334 go\r\n"), .octets (Octets.ofString "334 go\r\n"),
      .octets (Octets.ofString "334 go\r\n"), .octets (Octets.ofString "235 ok\r\n")] }

/-- Its challenge. -/
abbrev goOn : Reply := ⟨334, (0, 0, 0), Utf8.decodeString (Octets.ofString "go")⟩

/-- Its last word. -/
abbrev grantReply : Reply := ⟨235, (0, 0, 0), Utf8.decodeString (Octets.ofString "ok")⟩

/-- What PLAIN responds to any challenge. -/
abbrev plainResponse : Request := .command (commandLine (inBase64 [0, 117, 0, 112]))

theorem exchanges_patient :
    (authenticate { logins := ["PLAIN"] } ⟨"u", "p"⟩).exchanges 0 (.ofSeconds 60) []
        { links := [patientServer] } =
      [⟨Mechanism.plain.opens ⟨"u", "p"⟩, some (.ok goOn)⟩, ⟨plainResponse, some (.ok goOn)⟩,
        ⟨plainResponse, some (.ok goOn)⟩, ⟨plainResponse, some (.ok grantReply)⟩] := by
  have challenge : replyReader.Completes (Octets.ofString "334 go\r\n") (.ok goOn) := ⟨rfl, _, rfl⟩
  have grant : replyReader.Completes (Octets.ofString "235 ok\r\n") (.ok grantReply) :=
    ⟨rfl, _, rfl⟩
  have fits : 8 ≤ Link.readLimit := by decide
  refine exchanges_arrived (l := patientServer) (w := {}) challenge fits rfl rfl ?_
  refine exchanges_arrived (w := {}) challenge fits rfl rfl ?_
  refine exchanges_arrived (w := {}) challenge fits rfl rfl ?_
  refine exchanges_arrived (w := {}) grant fits rfl rfl ?_
  rfl

/-- Its grant is not honoured. -/
theorem not_honoursGrant_patient :
    ¬ HonoursGrant
      ((authenticate { logins := ["PLAIN"] } ⟨"u", "p"⟩).exchanges 0 (.ofSeconds 60) []
        { links := [patientServer] })
      ((authenticate { logins := ["PLAIN"] } ⟨"u", "p"⟩).run 0 (.ofSeconds 60) []
        { links := [patientServer] }).1.result? := by
  refine (isLogin_authenticate _ _ _ _ _ _).not_honoursGrant ?_
  rw [exchanges_patient]
  have responds : Mechanism.plain.respond ⟨"u", "p"⟩ goOn.text =
      .ok (inBase64 [0, 117, 0, 112]) := rfl
  have tried : trials ⟨"u", "p"⟩ ([] ++ [⟨Mechanism.plain.opens ⟨"u", "p"⟩, some (.ok goOn)⟩]) =
      [⟨.plain, 0, some goOn⟩] := trials_opens .plain _
  have tried := trials_response responds (some (.ok goOn)) tried
  have tried := trials_response responds (some (.ok goOn)) tried
  have tried := trials_response responds (some (.ok grantReply)) tried
  exact ⟨[_, _, _], _, [], _, _, rfl, ⟨grantReply, rfl, rfl⟩, tried, rfl⟩

end Outbox.Smtp
