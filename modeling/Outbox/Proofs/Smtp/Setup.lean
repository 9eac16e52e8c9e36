import Outbox.Proofs.Smtp.Negotiation

/-!
# Outbox.Proofs.Smtp.Setup — the steps of a setup

What is said while a session is opened, against every server. A handshake takes place or fails,
and is not looked into.

* `Endpoint.Allows` — what may be asked, by what was said before.
* `Endpoint.FailedAt` — the step at which opening a session failed.
* `Endpoint.meets_setUp` — the steps one after another keep to this, up to a server whose offer is
  known or to the step that failed.
-/

namespace Outbox.Smtp

/-! ## Steps of a setup -/

/-- The answers after which opening a session goes on. What a login is answered decides only how
it goes on. -/
def Request.Accepts : (r : Request) → r.Answer → Prop
  | .listen, reply => Reply.isPositive reply
  | .command line, reply => line = startTlsLine → Reply.isPositive reply
  | _, _ => True

/-- A request was answered, and the answer accepted. -/
def Exchange.Succeeded (x : Exchange) : Prop :=
  ∃ answer, x.answer = some (.ok answer) ∧ x.request.Accepts answer

/-- What is known of a server's offers after an exchange. With a handshake it is forgotten. -/
def Exchange.hear (known : Option Capabilities) : Exchange → Option Capabilities
  | ⟨.hello _, some (.ok offered)⟩ => some offered
  | ⟨.secure _, _⟩ => none
  | _ => known

/-- The last answer to EHLO, if it was given on the connection as it is now. -/
def offered (xs : List Exchange) : Option Capabilities := xs.foldl Exchange.hear none

/-- The server has greeted. -/
def Greeted (xs : List Exchange) : Prop :=
  ∃ reply : Reply, reply.isPositive ∧ ⟨.listen, some (.ok reply)⟩ ∈ xs

namespace Endpoint

/-- The step that a request is part of. -/
def stageOf (e : Endpoint) : Request → Stage
  | .listen => .greeting
  | .hello _ => .ehlo
  | .secure _ => if e.implicitTls then .connect else .startTls
  | .command line => if line = startTlsLine then .startTls else .auth
  | .message _ => .data

/-- What may be asked after these exchanges. -/
structure Allows (e : Endpoint) (before : List Exchange) (r : Request) : Prop where
  /-- No step failed before. -/
  succeeded : ∀ x ∈ before, x.Succeeded
  /-- Nothing is written before the server has greeted. -/
  greeted : r.octets ≠ [] → Greeted before
  /-- Nothing else is asked than this. -/
  spoken : r = .listen ∨ r = .hello e.localHost ∨ r = .secure e.tlsHostname ∨
    ∃ line, r = .command line
  /-- A handshake is asked for once, if it is wanted and the server offers it. -/
  startTls : r = .command startTlsLine →
    e.implicitTls = false ∧ e.startTls = true ∧ (∀ x ∈ before, x.request ≠ r) ∧
      ∃ c, offered before = some c ∧ c.offers "STARTTLS"
  /-- After that handshake the client introduces itself again. -/
  introduces : e.implicitTls = false → ∀ xs name,
    before = xs ++ [⟨.secure name, some (.ok ())⟩] → r = .hello e.localHost
  /-- Every other line belongs to a login, for which there are credentials and which the server
  offers. -/
  logsIn : ∀ line, r = .command line → line ≠ startTlsLine →
    ∃ credentials c, e.credentials = some credentials ∧ offered before = some c ∧
      c.offers "AUTH" ∧ LoginLine credentials c line

/-- The step at which opening a session failed, after these exchanges. -/
inductive FailedAt (e : Endpoint) : List Exchange → Stage → Prop where
  /-- There was no connection to speak on. -/
  | connecting : FailedAt e [] .connect
  /-- The last request was not answered, or the answer was not accepted. -/
  | refused (xs : List Exchange) {x : Exchange} (failed : ¬ x.Succeeded) :
      FailedAt e (xs ++ [x]) (e.stageOf x.request)
  /-- There was no name to begin the handshake with. -/
  | unnamed (xs : List Exchange) {reply : Reply} (positive : reply.isPositive) (invalid : ServerName.isValid e.tlsHostname = false) :
      FailedAt e (xs ++ [⟨.command startTlsLine, some (.ok reply)⟩]) .startTls
  /-- No login was left to try, or a challenge could not be answered. -/
  | login {xs : List Exchange} {x : Exchange} {c : Capabilities} (succeeded : x.Succeeded)
      (other : x.request ≠ .command startTlsLine) (wanted : e.credentials.isSome)
      (heard : offered (xs ++ [x]) = some c) (offers : c.offers "AUTH") :
      FailedAt e (xs ++ [x]) .auth

/-- The exchanges tell which step it was. -/
theorem FailedAt.unique {e : Endpoint} {xs : List Exchange} {stage stage' : Stage}
    (h : e.FailedAt xs stage) (h' : e.FailedAt xs stage') : stage = stage' := by
  classical
  -- The last exchange decides it, by what was asked and whether that succeeded.
  have decided : ∀ {stage}, e.FailedAt xs stage → stage = match xs.getLast? with
      | none => .connect
      | some x => if x.Succeeded then
          if x.request = .command startTlsLine then .startTls else .auth
        else e.stageOf x.request := by
    intro stage h
    cases h with
    | connecting => rfl
    | refused xs failed => simp [failed]
    | unnamed xs positive invalid =>
      rw [List.getLast?_concat]
      dsimp only
      split <;> simp [stageOf]
    | login succeeded other wanted heard offers => simp [succeeded, other]
  exact (decided h).trans (decided h').symm

end Endpoint

/-! ## What may be asked -/

section

variable {e : Endpoint} {before : List Exchange}

theorem offered_append (xs : List Exchange) (x : Exchange) :
    offered (xs ++ [x]) = x.hear (offered xs) := by
  rw [offered, offered, List.foldl_append]
  rfl

theorem forall_succeeded_append {x : Exchange} (h : ∀ y ∈ before, y.Succeeded)
    (hx : x.Succeeded) : ∀ y ∈ before ++ [x], y.Succeeded := by
  intro y mem
  rcases List.mem_append.1 mem with mem | mem
  · exact h y mem
  · rwa [List.mem_singleton.1 mem]

theorem Greeted.append (h : Greeted before) (x : Exchange) : Greeted (before ++ [x]) := by
  obtain ⟨reply, positive, mem⟩ := h
  exact ⟨reply, positive, List.mem_append_left _ mem⟩

/-- The server has greeted, and no step failed. -/
structure Underway (before : List Exchange) : Prop where
  succeeded : ∀ x ∈ before, x.Succeeded
  greeted : Greeted before

theorem Underway.append (h : Underway before) {x : Exchange} (hx : x.Succeeded) :
    Underway (before ++ [x]) :=
  ⟨forall_succeeded_append h.succeeded hx, h.greeted.append x⟩

/-- Beyond that, what the server offers is known. -/
structure Ready (before : List Exchange) (c : Capabilities) : Prop extends Underway before where
  heard : offered before = some c
  notUpgrading : ∀ xs x, before = xs ++ [x] → x.request ≠ .command startTlsLine

/-- Where an offer is known, the last exchange was no handshake. -/
theorem Ready.ne_secured {c : Capabilities} (h : Ready before c) (xs : List Exchange)
    (name : String) : before ≠ xs ++ [⟨.secure name, some (.ok ())⟩] := by
  rintro rfl
  have heard := h.heard
  rw [offered_append] at heard
  cases heard

theorem Underway.ready (h : Underway before) (host : String) (c : Capabilities) :
    Ready (before ++ [⟨.hello host, some (.ok c)⟩]) c where
  toUnderway := h.append ⟨c, rfl, trivial⟩
  heard := offered_append _ _
  notUpgrading := by
    intro xs x same
    obtain rfl := List.singleton_inj.1 (List.append_inj' same rfl).2
    exact nofun

namespace Endpoint.Allows

theorem listen (succeeded : ∀ x ∈ before, x.Succeeded)
    (start : before = [] ∨ e.implicitTls = true) : e.Allows before .listen where
  succeeded := succeeded
  greeted := fun written => absurd rfl written
  spoken := .inl rfl
  startTls := nofun
  introduces := by
    rintro explicit xs name rfl
    rcases start with empty | implicit
    · exact absurd empty (List.append_ne_nil_of_right_ne_nil _ (List.cons_ne_nil _ _))
    · rw [explicit] at implicit
      cases implicit
  logsIn := nofun

theorem hello (underway : Underway before) : e.Allows before (.hello e.localHost) where
  succeeded := underway.succeeded
  greeted := fun _ => underway.greeted
  spoken := .inr (.inl rfl)
  startTls := nofun
  introduces := fun _ _ _ _ => rfl
  logsIn := nofun

theorem secure (succeeded : ∀ x ∈ before, x.Succeeded)
    (first : ∀ xs name, before ≠ xs ++ [⟨.secure name, some (.ok ())⟩]) :
    e.Allows before (.secure e.tlsHostname) where
  succeeded := succeeded
  greeted := fun written => absurd rfl written
  spoken := .inr (.inr (.inl rfl))
  startTls := nofun
  introduces := fun _ xs name same => absurd same (first xs name)
  logsIn := nofun

theorem command {c : Capabilities} (ready : Ready before c) {line : Octets}
    (startTls : line = startTlsLine → e.implicitTls = false ∧ e.startTls = true ∧
      (∀ x ∈ before, x.request ≠ .command line) ∧ c.offers "STARTTLS")
    (logsIn : line ≠ startTlsLine → ∃ credentials, e.credentials = some credentials ∧
      c.offers "AUTH" ∧ LoginLine credentials c line) : e.Allows before (.command line) where
  succeeded := ready.succeeded
  greeted := fun _ => ready.greeted
  spoken := .inr (.inr (.inr ⟨line, rfl⟩))
  startTls := by
    intro same
    obtain ⟨explicit, wanted, first, offers⟩ := startTls (Request.command.inj same)
    exact ⟨explicit, wanted, first, c, ready.heard, offers⟩
  introduces := fun _ xs name same => absurd same (ready.ne_secured xs name)
  logsIn := by
    intro line' same other
    cases same
    obtain ⟨credentials, known, offers, isLogin⟩ := logsIn other
    exact ⟨credentials, c, known, ready.heard, offers, isLogin⟩

end Endpoint.Allows

/-! ## The steps one after another -/

namespace Endpoint

/-- Opening a session stops with this error: it names the step that failed. -/
def Stopped (e : Endpoint) (xs : List Exchange) (err : Error) : Prop :=
  ∃ stage cause, err = .step stage cause ∧ e.FailedAt xs stage

/-- What comes of a part of the setup: this, or a step failed. -/
def Leads {α : Type} (e : Endpoint) (P : List Exchange → α → Prop) (xs : List Exchange) :
    Result α → Prop
  | .ok a => P xs a
  | .error err => e.Stopped xs err

variable {α β : Type} {P : List Exchange → α → Prop} {Q : List Exchange → β → Prop}

theorem meets_bind {d : Dialogue α} {f : α → Dialogue β} (hd : d.Meets e.Allows (e.Leads P) before)
    (hf : ∀ xs a, P xs a → (f a).Meets e.Allows (e.Leads Q) xs) :
    Dialogue.Meets e.Allows (e.Leads Q) (d >>= f) before :=
  hd.bind hf fun _ _ stopped => stopped

theorem meets_mono {P' : List Exchange → α → Prop} {d : Dialogue α}
    (hd : d.Meets e.Allows (e.Leads P) before) (hP : ∀ xs a, P xs a → P' xs a) :
    d.Meets e.Allows (e.Leads P') before := by
  rw [← Dialogue.bind_pure d]
  exact meets_bind hd hP

/-- A request was answered, and the answer was accepted and judged to be this. -/
def Taken (r : Request) (judge : r.Answer → Result α) (before xs : List Exchange) (a : α) : Prop :=
  ∃ answer, judge answer = .ok a ∧ r.Accepts answer ∧ xs = before ++ [⟨r, some (.ok answer)⟩]

/-- A step of a single request. -/
theorem meets_step {r : Request} {judge : r.Answer → Result α} (stage : Stage)
    (isStage : e.stageOf r = stage) (allows : e.Allows before r)
    (accepts : ∀ answer a, judge answer = .ok a → r.Accepts answer)
    (rejects : ∀ answer err, judge answer = .error err → err.IsLocal ∧ ¬ r.Accepts answer) :
    Dialogue.Meets e.Allows (e.Leads (Taken r judge before))
      ((Dialogue.request r >>= fun answer => .ofResult (judge answer)).atStage stage) before := by
  have stopped : ∀ (answer : Result r.Answer) (err : Error), err.IsLocal →
      ¬ (Exchange.mk r (some answer)).Succeeded →
        e.Stopped (before ++ [⟨r, some answer⟩]) (err.atStage stage) := by
    intro answer err isLocal failed
    subst isStage
    exact ⟨_, err, isLocal.atStage _, .refused before failed⟩
  refine ⟨allows, fun answer fails => ?_⟩
  cases answer with
  | error err =>
    refine stopped _ err (fails err rfl).ofRequest.isLocal ?_
    rintro ⟨a, same, -⟩
    cases same
  | ok answer =>
    show Dialogue.Meets _ _ ((Dialogue.ofResult (judge answer)).atStage stage) _
    cases judged : judge answer with
    | ok a => exact ⟨answer, judged, accepts answer a judged, rfl⟩
    | error err =>
      obtain ⟨isLocal, rejected⟩ := rejects answer err judged
      refine stopped _ err isLocal ?_
      rintro ⟨a, same, accepted⟩
      cases same
      exact rejected accepted

/-- A step whose answer is taken as it is. -/
theorem meets_request {r : Request} (stage : Stage) (isStage : e.stageOf r = stage)
    (allows : e.Allows before r) (accepts : ∀ answer, r.Accepts answer) :
    Dialogue.Meets e.Allows (e.Leads (Taken r Except.ok before))
      ((Dialogue.request r).atStage stage) before := by
  rw [← Dialogue.bind_pure (Dialogue.request r)]
  exact meets_step stage isStage allows (fun answer _ _ => accepts answer) fun _ _ => nofun

theorem isPositive_of_assertPositive {reply : Reply} {u : Unit}
    (h : reply.assertPositive = .ok u) : reply.isPositive := by
  unfold Reply.assertPositive at h
  split at h
  · assumption
  · cases h

theorem not_isPositive_of_assertPositive {reply : Reply} {err : Error}
    (h : reply.assertPositive = .error err) : err.IsLocal ∧ ¬ reply.isPositive := by
  refine ⟨(FailsWith.assertPositive reply err h).isLocal, fun positive => ?_⟩
  rw [Reply.assertPositive, if_pos positive] at h
  cases h

theorem meets_greet (allows : e.Allows before .listen) :
    greet.Meets e.Allows (e.Leads (Taken .listen Reply.assertPositive before)) before :=
  meets_step .greeting rfl allows (fun _ _ => isPositive_of_assertPositive)
    fun _ _ => not_isPositive_of_assertPositive

theorem meets_introduce (underway : Underway before) :
    e.introduce.Meets e.Allows
      (e.Leads fun xs c => Ready xs c ∧ xs = before ++ [⟨.hello e.localHost, some (.ok c)⟩])
      before := by
  refine meets_mono (meets_request .ehlo rfl (.hello underway) fun _ => trivial) ?_
  rintro _ c ⟨answer, same, -, rfl⟩
  cases same
  exact ⟨underway.ready e.localHost c, rfl⟩

theorem meets_secureAs (stage : Stage) (isStage : e.stageOf (.secure e.tlsHostname) = stage)
    (allows : e.Allows before (.secure e.tlsHostname))
    (unnamed : ServerName.isValid e.tlsHostname = false → e.FailedAt before stage) :
    Dialogue.Meets e.Allows (e.Leads (Taken (.secure e.tlsHostname) Except.ok before))
      ((secureAs e.tlsHostname).atStage stage) before := by
  cases valid : ServerName.isValid e.tlsHostname with
  | false =>
    have stops : secureAs e.tlsHostname = .fail .invalidTlsName := if_neg (by simp [valid])
    rw [stops]
    exact ⟨stage, _, rfl, unnamed valid⟩
  | true =>
    have begins : secureAs e.tlsHostname = .request (.secure e.tlsHostname) := if_pos valid
    rw [begins]
    exact meets_request stage isStage allows fun _ => trivial

theorem meets_upgrade {c : Capabilities} (ready : Ready before c) (explicit : e.implicitTls = false)
    (wanted : e.startTls = true) (first : ∀ x ∈ before, x.request ≠ .command startTlsLine)
    (offers : c.offers "STARTTLS") :
    Dialogue.Meets e.Allows (e.Leads fun xs _ => Underway xs)
      ((upgrade e.tlsHostname).atStage .startTls) before := by
  have isStage : e.stageOf (.command startTlsLine) = .startTls := by simp [stageOf]
  rw [upgrade, Dialogue.atStage_bind]
  refine meets_bind (meets_step .startTls isStage (.command ready ?_ (absurd rfl)) ?_ ?_) ?_
  · exact fun _ => ⟨explicit, wanted, first, offers⟩
  · exact fun _ _ judged _ => isPositive_of_assertPositive judged
  · intro reply err judged
    obtain ⟨isLocal, negative⟩ := not_isPositive_of_assertPositive judged
    exact ⟨isLocal, fun accepts => negative (accepts rfl)⟩
  · rintro _ - ⟨reply, -, accepted, rfl⟩
    have succeeded : (Exchange.mk (.command startTlsLine) (some (.ok reply))).Succeeded :=
      ⟨reply, rfl, accepted⟩
    have underway := ready.toUnderway.append succeeded
    have isStage : e.stageOf (.secure e.tlsHostname) = .startTls := by
      rw [stageOf, explicit]
      rfl
    refine meets_mono (meets_secureAs .startTls isStage (.secure underway.succeeded ?_) ?_) ?_
    · intro xs name same
      cases (List.append_inj' same rfl).2
    · exact .unnamed before (accepted rfl)
    · rintro _ - ⟨answer, -, -, rfl⟩
      exact underway.append ⟨answer, rfl, trivial⟩

theorem underway_of_greeted {xs : List Exchange} (succeeded : ∀ x ∈ before, x.Succeeded) {u : Unit}
    (taken : Taken .listen Reply.assertPositive before xs u) : Underway xs := by
  obtain ⟨reply, -, positive, rfl⟩ := taken
  refine ⟨forall_succeeded_append succeeded ⟨reply, rfl, positive⟩, reply, positive, ?_⟩
  exact List.mem_append_right _ (.head _)

theorem meets_greetAndSecure :
    e.greetAndSecure.Meets e.Allows (e.Leads fun xs a => Ready xs a.1) [] := by
  unfold greetAndSecure
  cases kind : e.implicitTls with
  | true =>
    have isStage : e.stageOf (.secure e.tlsHostname) = .connect := by simp [stageOf, kind]
    have allows : e.Allows [] (.secure e.tlsHostname) := .secure nofun (by simp)
    refine meets_bind (meets_secureAs .connect isStage allows fun _ => .connecting) ?_
    rintro _ - ⟨answer, -, -, rfl⟩
    have secured : (Exchange.mk (.secure e.tlsHostname) (some (.ok answer))).Succeeded :=
      ⟨answer, rfl, trivial⟩
    have succeeded := forall_succeeded_append (List.forall_mem_nil _) secured
    refine meets_bind (meets_greet (.listen succeeded (.inr kind))) ?_
    intro xs _ taken
    refine meets_bind (meets_introduce (underway_of_greeted succeeded taken)) ?_
    exact fun _ _ introduced => introduced.1
  | false =>
    refine meets_bind (meets_greet (.listen nofun (.inl rfl))) ?_
    intro xs _ taken
    refine meets_bind (meets_introduce (underway_of_greeted (List.forall_mem_nil _) taken)) ?_
    rintro _ c ⟨ready, rfl⟩
    split
    next offers =>
      obtain ⟨wanted, offers⟩ := Bool.and_eq_true_iff.1 offers
      refine meets_bind (meets_upgrade ready kind wanted ?_ offers) ?_
      · obtain ⟨reply, -, -, rfl⟩ := taken
        simp
      · intro xs _ underway
        refine meets_bind (meets_introduce underway) ?_
        exact fun _ _ introduced => introduced.1
    next => exact ready

/-! ## The login -/

section Login

variable {c : Capabilities} {credentials : Credentials}

/-- What is known along a login that comes after the exchanges `first`: every request was answered,
or the last one was not. -/
structure LogsIn (credentials : Credentials) (c : Capabilities) (first xs : List Exchange) :
    Prop where
  spoken : Spoken credentials c xs
  last : Ready (first ++ xs) c ∨
    ∃ init line err, xs = init ++ [⟨.command line, some (.error err)⟩] ∧ line ≠ startTlsLine

variable {first xs : List Exchange}

theorem LogsIn.not_heard (h : LogsIn credentials c first xs) (unready : ¬ Ready (first ++ xs) c) :
    lastReply xs = none := by
  obtain ready | ⟨init, line, err, rfl, -⟩ := h.last
  · exact absurd ready unready
  · exact lastReply_append init _

theorem LogsIn.ready {r : Request} (h : LogsIn credentials c first xs)
    (asks : MayAsk credentials c xs r) : Ready (first ++ xs) c := by
  obtain ready | ⟨init, line, err, rfl, -⟩ := h.last
  · exact ready
  · obtain ⟨reply, heard⟩ := h.spoken.reply_of_asks asks
    cases heard

theorem LogsIn.append {r : Request} (h : LogsIn credentials c first xs)
    (asks : MayAsk credentials c xs r) (answer : Result r.Answer) :
    LogsIn credentials c first (xs ++ [⟨r, some answer⟩]) := by
  have ready := h.ready asks
  obtain ⟨line, rfl, isLogin⟩ := h.spoken.loginLine asks
  have other := isLogin.ne_startTlsLine
  refine ⟨h.spoken.append asks, ?_⟩
  cases answer with
  | error err => exact .inr ⟨xs, line, err, rfl, other⟩
  | ok reply =>
    have succeeded : (Exchange.mk (.command line) (some (.ok reply))).Succeeded :=
      ⟨reply, rfl, fun same => absurd same other⟩
    rw [← List.append_assoc]
    refine .inl ⟨ready.toUnderway.append succeeded, (offered_append _ _).trans ready.heard, ?_⟩
    intro xs x same
    obtain rfl := List.singleton_inj.1 (List.append_inj' same rfl).2
    exact fun asked => other (Request.command.inj asked)

variable (known : e.credentials = some credentials) (offers : c.offers "AUTH")
include known offers

/-- A login that fails is a step that failed. -/
theorem LogsIn.failedAt (h : LogsIn credentials c first xs) : e.FailedAt (first ++ xs) .auth := by
  obtain ready | ⟨init, line, err, rfl, other⟩ := h.last
  · have wanted : e.credentials.isSome := by rw [known]; rfl
    rcases List.eq_nil_or_concat (first ++ xs) with empty | ⟨init, x, same⟩
    · rw [empty] at ready
      cases ready.heard
    · rw [same, List.concat_eq_append] at ready ⊢
      have succeeded := ready.succeeded x (List.mem_append_right _ (.head _))
      exact .login succeeded (ready.notUpgrading init x rfl) wanted ready.heard offers
  · have isStage : e.stageOf (.command line) = .auth := if_neg other
    rw [← isStage, ← List.append_assoc]
    refine .refused (first ++ init) ?_
    rintro ⟨answer, same, -⟩
    cases same

theorem meets_authenticate (ready : Ready before c) :
    Dialogue.Meets e.Allows (e.Leads fun xs _ => Ready xs c)
      ((authenticate c credentials).atStage .auth) before := by
  have start : LogsIn credentials c before [] := by
    refine ⟨fun first x rest empty => ?_, .inl (by rwa [List.append_nil])⟩
    exact absurd empty.symm (List.append_ne_nil_of_right_ne_nil _ (List.cons_ne_nil _ _))
  have login : (authenticate c credentials).Meets e.Allows
      (fun xs result => (result = .ok () → Ready xs c) ∧ e.FailedAt xs .auth) (before ++ []) := by
    refine (Smtp.meets_authenticate credentials c).after before start ?_ ?_ ?_
    · intro xs r h asks
      obtain ⟨line, rfl, isLogin⟩ := h.spoken.loginLine asks
      refine .command (h.ready asks) (fun same => absurd same isLogin.ne_startTlsLine) fun _ => ?_
      exact ⟨credentials, known, offers, isLogin⟩
    · exact fun xs r answer h asks => h.append asks answer
    · intro xs result h ends
      refine ⟨?_, h.failedAt known offers⟩
      rintro rfl
      by_contra unready
      cases ends with
      | granted tried granted =>
        have heard := (h.spoken.heard tried).symm.trans granted.heard
        rw [h.not_heard unready] at heard
        cases heard
  rw [List.append_nil] at login
  exact .atStage .auth login (.loginByAny credentials none _) (fun _ _ ends => ends.1 rfl)
    fun _ err ends => ⟨.auth, err, rfl, ends.2⟩

end Login

theorem meets_setUp : e.setUp.Meets e.Allows (e.Leads fun xs a => Ready xs a.1) [] := by
  refine meets_bind meets_greetAndSecure ?_
  rintro xs ⟨c, isSecure⟩ ready
  have loggedIn : (e.logIn c).Meets e.Allows (e.Leads fun xs _ => Ready xs c) xs := by
    unfold logIn
    split
    next credentials known =>
      split
      next offers => exact meets_authenticate known offers ready
      next => exact ready
    next => exact ready
  refine meets_bind loggedIn ?_
  exact fun _ _ ready => ready

end Endpoint

end

end Outbox.Smtp
