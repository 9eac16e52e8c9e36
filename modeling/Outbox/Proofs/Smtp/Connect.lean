import Outbox.Proofs.Smtp.Setup

/-!
# Outbox.Proofs.Smtp.Connect — opening a session

Opening a session is a setup on a new connection, under a limit on its time.

* `secures_setUp` — after a handshake the setup goes on in one way only.
* `Endpoint.exchanges` is what is said while a session is opened.
* `connect_setsUp` — every session is opened by the rules of a setup, and after a handshake nothing
  matters that was said before.
-/

namespace Outbox.Smtp

/-! ## After a handshake -/

section

open Dialogue (IsPlain Secures)

theorem isPlain_request {r : Request} (h : ∀ name, r ≠ .secure name) :
    (Dialogue.request r).IsPlain :=
  .other h fun _ => .finished _

theorem isPlain_command (line : Octets) : (Dialogue.request (.command line)).IsPlain :=
  isPlain_request nofun

theorem isPlain_atStage {α : Type} {d : Dialogue α} (stage : Stage) (h : d.IsPlain) :
    (d.atStage stage).IsPlain :=
  h.atStage stage fun _ => id

theorem isPlain_greet : greet.IsPlain :=
  isPlain_atStage _ (.plain_bind (isPlain_request nofun) fun _ => .finished _)

theorem isPlain_introduce (e : Endpoint) : e.introduce.IsPlain :=
  isPlain_atStage _ (isPlain_request nofun)

theorem isPlain_exchange (m : Mechanism) (c : Credentials) (rounds : Nat) (reply : Reply) :
    (exchange m c rounds reply).IsPlain := by
  induction rounds generalizing reply with
  | zero => exact .finished _
  | succ rounds ih =>
    rw [exchange]
    split
    · exact .plain_bind (.finished _) fun _ => .plain_bind (isPlain_command _) ih
    · split <;> exact .finished _

theorem isPlain_login (m : Mechanism) (c : Credentials) : (login m c).IsPlain := by
  unfold login
  split
  · exact .plain_bind (.finished _) fun _ =>
      .plain_bind (isPlain_command _) (isPlain_exchange _ _ _)
  · exact .plain_bind (isPlain_command _) (isPlain_exchange _ _ _)

theorem isPlain_loginByAny (c : Credentials) (last : Option Reply) (mechanisms : List Mechanism) :
    (loginByAny c last mechanisms).IsPlain := by
  induction mechanisms generalizing last with
  | nil =>
    unfold loginByAny
    cases last <;> exact .finished _
  | cons m rest ih =>
    refine .attempt_bind (isPlain_login m c) fun result => ?_
    split
    · exact .finished _
    · split
      · exact .finished _
      · exact ih _
    · exact .finished _

theorem isPlain_logIn (e : Endpoint) (c : Capabilities) : (e.logIn c).IsPlain := by
  unfold Endpoint.logIn
  split
  · split
    · exact isPlain_atStage _ (isPlain_loginByAny _ _ _)
    · exact .finished _
  · exact .finished _

theorem secures_secureAs (stage : Stage) (name : String) :
    ((secureAs name).atStage stage).Secures (· = pure ()) := by
  have begins : (secureAs name).Secures (· = pure ()) := by
    unfold secureAs
    exact iteInduction (fun _ => .secure name rfl fun _ => .finished _) fun _ => .finished _
  refine begins.atStage stage ?_
  rintro _ rfl
  rfl

theorem secures_upgrade (name : String) :
    ((upgrade name).atStage .startTls).Secures (· = pure ()) := by
  rw [upgrade, Dialogue.atStage_bind]
  refine .plain_bind (isPlain_atStage _ ?_) fun _ => secures_secureAs _ name
  exact .plain_bind (isPlain_command _) fun _ => .finished _

/-- After a handshake opening a session goes on in one way only, and there is no other handshake. -/
theorem secures_setUp (e : Endpoint) :
    ∃ rest : Dialogue (Capabilities × Bool), rest.IsPlain ∧ e.setUp.Secures (· = rest) := by
  suffices secured : ∃ rest : Dialogue (Capabilities × Bool),
      rest.IsPlain ∧ e.greetAndSecure.Secures (· = rest) by
    obtain ⟨rest, isPlain, secures⟩ := secured
    have loggedIn : ∀ a : Capabilities × Bool, (e.logIn a.1 >>= fun _ => pure a).IsPlain :=
      fun a => .plain_bind (isPlain_logIn e a.1) fun _ => .finished _
    refine ⟨rest >>= fun a => e.logIn a.1 >>= fun _ => pure a, isPlain.plain_bind loggedIn, ?_⟩
    refine secures.bind ?_ fun a => (loggedIn a).mono fun _ => False.elim
    rintro _ rfl
    rfl
  have introduced : (e.introduce >>= fun c => pure (c, true)).IsPlain :=
    .plain_bind (isPlain_introduce e) fun _ => .finished _
  unfold Endpoint.greetAndSecure
  split
  next =>
    refine ⟨_, .plain_bind isPlain_greet fun _ => introduced, ?_⟩
    refine (secures_secureAs .connect e.tlsHostname).bind ?_ fun _ => ?_
    · rintro _ rfl
      rfl
    · exact .plain_bind isPlain_greet fun _ => introduced.mono fun _ => False.elim
  next =>
    refine ⟨_, introduced, .plain_bind isPlain_greet fun _ => ?_⟩
    refine .plain_bind (isPlain_introduce e) fun c => ?_
    refine iteInduction (fun _ => ?_) fun _ => .finished _
    refine (secures_upgrade e.tlsHostname).bind ?_ fun _ => introduced.mono fun _ => False.elim
    rintro _ rfl
    rfl

end

/-! ## Opening a session -/

/-- What comes of opening a connection: a link to write to, or nothing was written. -/
theorem dial_cases (limits : List Limit) (w : World) :
    (∃ link rest, w.dials.head? = some (.opens link) ∧ Act.dial limits w =
      (.done w.links.length, { w with dials := rest, links := w.links ++ [link] })) ∨
      ((∀ n, (Act.dial limits w).1 ≠ .done n) ∧ (Act.dial limits w).2.sent = w.sent) := by
  have seen : Act.world limits w = (.done w, w) := rfl
  rw [Act.dial, Act.bind_done seen]
  rcases w.dials with _ | ⟨link | e | _, rest⟩
  · exact .inr ⟨fun _ => nofun, rfl⟩
  · exact .inl ⟨link, rest, rfl, rfl⟩
  · exact .inr ⟨fun _ => nofun, rfl⟩
  · have changed : Act.change (fun w => { w with dials := rest }) limits w =
        (.done (), { w with dials := rest }) := rfl
    dsimp only
    rw [Act.bind_done changed]
    have kept : Act.Keeps World.sent (Act.hang : Act Nat) := Act.Keeps.closed_sent.hang
    refine .inr ⟨fun n done => ?_, kept limits _⟩
    obtain ⟨_, _, -, stuck⟩ := Act.bind_eq_done.1 done
    cases stuck

namespace Endpoint

/-- The limits under which a session is opened. -/
def limits (e : Endpoint) (around : List Limit) (w : World) : List Limit :=
  around ++ [.timer (w.now.timer e.timeout)]

/-- The exchanges while a session is opened. Where there is no connection there are none. -/
def exchanges (e : Endpoint) (around : List Limit) (w : World) : List Exchange :=
  match Act.dial (e.limits around w) w with
  | (.done link, w') => e.setUp.exchanges link e.timeout (e.limits around w) w'
  | _ => []

/-- How a session is opened, under limits and in any surroundings. -/
structure Opens (e : Endpoint) (around : List Limit) (w : World) : Prop where
  /-- The exchanges are made on the new connection, and nothing else is done on it. -/
  made : ∀ link w', Act.dial (e.limits around w) w = (.done link, w') →
    Exchanged link e.timeout (e.limits around w) (e.exchanges around w) w' (e.connect around w).2
  /-- Everything that is written is written to the new link, and is what the exchanges say. -/
  written : e.exchanges around w = [] ∧ (e.connect around w).2.sent = w.sent ∨
    ∃ link octets, w.dials.head? = some (.opens link) ∧ Written (e.exchanges around w) octets ∧
      (e.connect around w).2.sent = w.sent ++ [link.sent ++ octets]
  /-- Everything that is asked may be asked then. -/
  asked : ∀ first x rest, e.exchanges around w = first ++ x :: rest → e.Allows first x.request
  /-- It comes to an end. -/
  settled : (e.connect around w).1.Settled
  /-- There was no time left, or the error names the step that failed. -/
  failed : ∀ err, (e.connect around w).1 = .failed err →
    err = .timeout ∨ e.Stopped (e.exchanges around w) err
  /-- Every step succeeded, and what is known of the server is what it said last. -/
  done : ∀ session, (e.connect around w).1 = .done session →
    (∀ x ∈ e.exchanges around w, x.Succeeded) ∧
      offered (e.exchanges around w) = some session.capabilities

/-- How sessions are opened with an endpoint. -/
structure SetsUp (e : Endpoint) : Prop where
  opens : ∀ around w, e.Opens around w
  /-- Two servers that do not differ after a handshake are told the same after it, whatever they
  said before. -/
  forgets : ∀ (server : Server) around₁ around₂ w₁ w₂ xs₁ xs₂ name₁ name₂ zs₁ zs₂,
    e.exchanges around₁ w₁ = xs₁ ++ ⟨.secure name₁, some (.ok ())⟩ :: zs₁ →
    e.exchanges around₂ w₂ = xs₂ ++ ⟨.secure name₂, some (.ok ())⟩ :: zs₂ →
    server.Answers zs₁ → server.Answers zs₂ → zs₁ = zs₂

/-- What is done to open a session, without the limit on its time. -/
def opening (e : Endpoint) : Act Connection :=
  Act.dial.atStage .connect >>= fun link =>
    e.setUp.run link e.timeout >>= fun a =>
      pure { link, patience := e.timeout, capabilities := a.1, isSecure := a.2 }

theorem connect_eq (e : Endpoint) (around : List Limit) (w : World) :
    e.connect around w = Act.limited (.timer (w.now.timer e.timeout)) e.opening around w := rfl

section

variable {e : Endpoint} {around : List Limit} {w : World}

/-- Without a connection nothing is said. -/
theorem opening_undialed (notDone : ∀ n, (Act.dial (e.limits around w) w).1 ≠ .done n) :
    e.exchanges around w = [] ∧
      (e.opening (e.limits around w) w).2 = (Act.dial (e.limits around w) w).2 ∧
      (∀ session, (e.opening (e.limits around w) w).1 ≠ .done session) ∧
      ∀ err, (e.opening (e.limits around w) w).1 = .failed err → e.Stopped [] err := by
  have empty : e.exchanges around w = [] := by
    rw [exchanges]
    rcases run : Act.dial (e.limits around w) w with ⟨n | err | ⟨depth, cause⟩ | _ | _, w₁⟩
    · rw [run] at notDone
      exact absurd rfl (notDone n)
    all_goals rfl
  obtain ⟨world, done⟩ := Act.atStage_run .connect Act.dial (e.limits around w) w
  unfold opening
  rcases Act.bind_cases (Act.dial.atStage .connect) _ (e.limits around w) w with
    ⟨n, first, -⟩ | ⟨stopped, world'⟩
  · exact absurd ((done n).1 first) (notDone n)
  · refine ⟨empty, world'.trans world, fun session isDone => ?_, fun err failed => ?_⟩
    · rw [isDone] at stopped
      exact stopped.not_done
    · rw [failed] at stopped
      obtain ⟨cause, -, rfl⟩ := Act.Candid.dial_atStage.fails _ w err stopped.eq_failed
      exact ⟨.connect, cause, rfl, .connecting⟩

/-- On a connection the setup is carried out. -/
theorem opening_dialed {n : Nat} {w₁ : World}
    (dialed : Act.dial (e.limits around w) w = (.done n, w₁)) :
    e.exchanges around w = e.setUp.exchanges n e.timeout (e.limits around w) w₁ ∧
      (e.opening (e.limits around w) w).2 =
        (e.setUp.run n e.timeout (e.limits around w) w₁).2 ∧
      (e.opening (e.limits around w) w).1.result? =
        (e.setUp.run n e.timeout (e.limits around w) w₁).1.result?.map (Except.map fun a =>
          { link := n, patience := e.timeout, capabilities := a.1, isSecure := a.2 }) := by
  have begun : Act.dial.atStage .connect (e.limits around w) w = (.done n, w₁) := by
    obtain ⟨world, done⟩ := Act.atStage_run .connect Act.dial (e.limits around w) w
    rw [dialed] at world done
    exact Prod.ext ((done n).2 rfl) world
  refine ⟨by rw [exchanges, dialed], ?_⟩
  rw [opening, Act.bind_done begun]
  exact Act.bind_pure_run _ _ _ _

theorem modify_concat (texts : List Octets) (text octets : Octets) :
    (texts ++ [text]).modify texts.length (· ++ octets) = texts ++ [text ++ octets] := by
  induction texts with
  | nil => rfl
  | cons first rest ih => simpa using ih

/-- All exchanges but the last were answered. -/
theorem answered_of_allows {xs : List Exchange}
    (asked : ∀ first x rest, xs = first ++ x :: rest → e.Allows first x.request) :
    ∀ x ∈ xs.dropLast, x.IsAnswered := by
  rcases List.eq_nil_or_concat xs with rfl | ⟨init, last, rfl⟩
  · exact nofun
  · rw [List.concat_eq_append] at asked ⊢
    rw [List.dropLast_concat]
    intro x mem
    obtain ⟨answer, same, -⟩ := (asked init last [] rfl).succeeded x mem
    exact ⟨answer, same⟩

theorem exchanges_cases (e : Endpoint) (around : List Limit) (w : World) :
    e.exchanges around w = [] ∨
      ∃ n w₁, e.exchanges around w = e.setUp.exchanges n e.timeout (e.limits around w) w₁ := by
  unfold exchanges
  split
  · exact .inr ⟨_, _, rfl⟩
  · exact .inl rfl

theorem asked (first : List Exchange) (x : Exchange) (rest : List Exchange)
    (made : e.exchanges around w = first ++ x :: rest) : e.Allows first x.request := by
  rcases e.exchanges_cases around w with empty | ⟨n, w₁, same⟩
  · rw [empty] at made
    exact absurd made.symm (List.append_ne_nil_of_right_ne_nil _ (List.cons_ne_nil _ _))
  · rw [same] at made
    exact meets_setUp.asked made

theorem connect_world : (e.connect around w).2 = (e.opening (e.limits around w) w).2 := by
  rw [connect_eq]
  exact (Act.limited_run _ e.opening around w).1

theorem made {link : Nat} {w' : World}
    (dialed : Act.dial (e.limits around w) w = (.done link, w')) :
    Exchanged link e.timeout (e.limits around w) (e.exchanges around w) w'
      (e.connect around w).2 := by
  obtain ⟨same, run, -⟩ := opening_dialed dialed
  rw [connect_world, run, same]
  exact e.setUp.exchanged w'

theorem written : e.exchanges around w = [] ∧ (e.connect around w).2.sent = w.sent ∨
    ∃ link octets, w.dials.head? = some (.opens link) ∧ Written (e.exchanges around w) octets ∧
      (e.connect around w).2.sent = w.sent ++ [link.sent ++ octets] := by
  rcases dial_cases (e.limits around w) w with ⟨link, dials, head, dialed⟩ | ⟨notDone, sent⟩
  · obtain ⟨octets, isWritten, sent⟩ := (made dialed).written (answered_of_allows asked)
    refine .inr ⟨link, octets, head, isWritten, ?_⟩
    rw [sent, ← modify_concat, World.sent, World.sent, List.length_map, List.map_append]
    rfl
  · obtain ⟨empty, run, -⟩ := opening_undialed notDone
    exact .inl ⟨empty, by rw [connect_world, run, sent]⟩

/-- What comes of it when there is time enough. -/
theorem opening_ended {result : Result Connection}
    (finished : (e.opening (e.limits around w) w).1.result? = some result) :
    e.Leads (fun xs session => Ready xs session.capabilities) (e.exchanges around w) result := by
  rcases dial_cases (e.limits around w) w with ⟨link, dials, -, dialed⟩ | ⟨notDone, -⟩
  · obtain ⟨same, -, given⟩ := opening_dialed dialed
    rw [given, Option.map_eq_some_iff] at finished
    obtain ⟨setUp, finished, rfl⟩ := finished
    rw [same]
    have ended := meets_setUp.ended finished
    cases setUp with
    | ok a => exact ended
    | error err => exact ended
  · obtain ⟨empty, -, notOpened, stopped⟩ := opening_undialed notDone
    rw [empty]
    cases result with
    | ok session => exact absurd (Outcome.result?_eq_ok.1 finished) (notOpened session)
    | error err => exact stopped err (Outcome.result?_eq_error.1 finished)

theorem opens (e : Endpoint) (around : List Limit) (w : World) : e.Opens around w where
  made := fun _ _ => made
  written := written
  asked := asked
  settled := Act.Timed.connect e around w
  failed := by
    intro err failed
    rw [connect_eq] at failed
    have tame : Act.Tame e.opening := by
      refine .bind (.atStage _ Act.Candid.dial.toTame) fun _ => ?_
      exact .bind (.run _ _ e.setUp) fun _ => .pure _
    rcases tame.limited_failed failed with failed | ended
    · exact .inr (opening_ended (Outcome.result?_eq_error.2 failed))
    · cases ended
      exact .inl rfl
  done := by
    intro session done
    rw [connect_eq, (Act.limited_run _ e.opening around w).2] at done
    have ready := opening_ended (Outcome.result?_eq_ok.2 done)
    exact ⟨ready.succeeded, ready.heard⟩

end

end Endpoint

theorem connect_setsUp (e : Endpoint) : e.SetsUp where
  opens := e.opens
  forgets := by
    obtain ⟨rest, isPlain, secures⟩ := secures_setUp e
    -- What was said after the handshake are the exchanges of one and the same dialogue.
    have after : ∀ around w xs name zs,
        e.exchanges around w = xs ++ ⟨.secure name, some (.ok ())⟩ :: zs →
          ∃ link patience limits w', zs = rest.exchanges link patience limits w' := by
      intro around w xs name zs made
      rcases e.exchanges_cases around w with empty | ⟨n, w₁, same⟩
      · rw [empty] at made
        exact absurd made.symm (List.append_ne_nil_of_right_ne_nil _ (List.cons_ne_nil _ _))
      · rw [same] at made
        obtain ⟨_, w', rfl, isRest⟩ := secures.exchanges
          (fun _ same w xs name zs => same ▸ isPlain.exchanges_ne xs name zs) made
        exact ⟨_, _, _, w', isRest⟩
    intro server around₁ around₂ w₁ w₂ xs₁ xs₂ name₁ name₂ zs₁ zs₂ made₁ made₂ first second
    obtain ⟨_, _, _, _, rfl⟩ := after _ _ _ _ _ made₁
    obtain ⟨_, _, _, _, rfl⟩ := after _ _ _ _ _ made₂
    exact rest.exchanges_unique first second

end Outbox.Smtp
