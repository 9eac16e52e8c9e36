import Mathlib.Tactic.ByContra
import Outbox.Proofs.Mailer.Deadline
import Outbox.Proofs.Mailer.Trace
import Outbox.Proofs.Smtp.Wire

/-!
# Outbox.Proofs.Mailer.Delivery — a send is done when its message was accepted

A send makes attempts, and each one hands the message over in a session that it prepared.

* `acquire_unrolls` — a session is taken from a pool by one look after another, until something is
  found.
* `Transacted` says what the client does in such a session, and that it succeeds exactly if the
  server accepts every step (`exists_transacted`).
* `Attempts` and `Delivers` say which attempts a send makes and in which sessions.
* `send_delivered` — the send is done exactly if everything was accepted in its last attempt.
  What happens to the session afterwards makes no difference (`leave_done`).
-/

namespace Outbox.Mailer

open Smtp (Exchange Exchanged Written Carried Completed Performs)

/-! ## Transactions -/

/-- The steps in which a message is handed over in a session. -/
def Prepared.steps (s : Prepared) (e : Envelope) : List Smtp.Step :=
  match s.pool with
  | some _ => Smtp.resendSteps e
  | none => Smtp.envelopeSteps e

theorem performs_dialogue (s : Prepared) (e : Envelope) : Performs (s.steps e) (s.dialogue e) := by
  rcases s with ⟨session, _ | p⟩
  · exact Smtp.performs_sendEnvelope e
  · exact Smtp.performs_resend e

theorem Prepared.not_completed_nil (s : Prepared) (e : Envelope) : ¬ Completed (s.steps e) [] := by
  rcases s with ⟨session, _ | p⟩ <;> exact nofun

/-- What comes of handing a message over in a session, where nothing else limits it. -/
def transacting (c : Context) (deadline : Option Instant) (e : Envelope) (s : Prepared)
    (w : World) : Outcome Unit × World :=
  (transact c deadline e s : Act Unit) [] w

/-- The exchanges in which a message is handed over in a session, from `w` on. -/
structure Transacted (c : Context) (deadline : Option Instant) (e : Envelope) (s : Prepared)
    (w : World) (xs : List Exchange) : Prop where
  /-- They take the steps in order, each after the one before was accepted. -/
  carried : Carried (s.steps e) xs
  exchanged : ∃ limits, Exchanged s.session.link s.session.patience limits xs w
    (transacting c deadline e s w).2
  /-- Nothing else is written, and nothing to any other link. -/
  written : ∃ octets, Written xs octets ∧
    (transacting c deadline e s w).2.sent = w.sent.modify s.session.link (· ++ octets)
  accepted : (transacting c deadline e s w).1 = .done () ↔ Completed (s.steps e) xs

/-- An act that may go on until a context ends or a time is over does not begin, or it is
carried out under these limits. -/
theorem bounded_cases {α : Type} (c : Context) (deadline : Option Instant) (x : Act α)
    (w : World) :
    (∃ e, (Means.bounded c deadline x : Act α) [] w = (.failed e, w)) ∨
      ∃ limits, ((Means.bounded c deadline x : Act α) [] w).2 = (x limits w).2 ∧
        ∀ a, ((Means.bounded c deadline x : Act α) [] w).1 = .done a ↔
          (x limits w).1 = .done a := by
  have unfolded : (Means.bounded c deadline x : Act α) [] w =
      Act.under c (Act.until? deadline x) [] w := rfl
  rw [unfolded]
  cases ended : c.failure? w.signals w.now with
  | some e => exact .inl ⟨e, Act.under_ended _ _ ended⟩
  | none =>
    right
    obtain ⟨world, done⟩ := Act.limited_run (.context c) (Act.until? deadline x) [] w
    rw [Act.under_open _ _ ended, world]
    simp only [done]
    cases deadline with
    | none => exact ⟨_, rfl, fun _ => .rfl⟩
    | some due =>
      dsimp only [Act.until?, List.nil_append]
      exact ⟨_, Act.limited_run (.timer due) x [.context c] w⟩

theorem exists_transacted (c : Context) (deadline : Option Instant) (e : Envelope) (s : Prepared)
    (w : World) : ∃ xs, Transacted c deadline e s w xs := by
  have performs := performs_dialogue s e
  have bounded := bounded_cases c deadline ((s.dialogue e).on s.session) w
  have unfolded : transacting c deadline e s w =
      (Means.bounded c deadline ((s.dialogue e).on s.session) : Act Unit) [] w := rfl
  rw [← unfolded] at bounded
  rcases bounded with ⟨cause, notBegun⟩ | ⟨limits, world, done⟩
  · -- The context has ended before anything is said.
    refine ⟨[], .begun _, ⟨[], ?_⟩, ⟨[], .none, ?_⟩, ?_⟩
    · rw [notBegun]
      exact .none w
    · rw [notBegun, modify_append_nil]
    · rw [notBegun]
      exact ⟨nofun, fun completed => absurd completed (s.not_completed_nil e)⟩
  · obtain ⟨xs, carried, exchanged, isDone⟩ :=
      performs.run s.session.link s.session.patience limits w
    have exchanged : Exchanged s.session.link s.session.patience limits xs w
        (transacting c deadline e s w).2 := by
      rw [world]
      exact exchanged
    exact ⟨xs, carried, ⟨limits, exchanged⟩, exchanged.written carried.answered,
      (done ()).trans isDone⟩

/-! ## Taking a session -/

theorem keeps_stocks_write (link : Nat) (octets : Octets) :
    Act.Keeps World.stocks (Act.write link octets) := by
  refine .bind .world fun w => ?_
  cases w.links[link]? with
  | none => exact .fail _
  | some l =>
    refine .bind (fun _ _ => rfl) fun _ => ?_
    intro limits w
    rw [(Act.ofResult_run _ limits w).2]

/-- What is said in sessions does not change the stock of a pool. -/
theorem keeps_stocks_run {α : Type} (link : Nat) (patience : Duration) (d : Smtp.Dialogue α) :
    Act.Keeps World.stocks (d.run link patience) := by
  have closed : Act.Closed (fun _ => True) fun _ x => Act.Keeps World.stocks x :=
    Act.Keeps.closed (fun _ _ _ => rfl) fun _ _ _ _ => rfl
  -- By induction on the requests. Each of them writes to a link and reads from it.
  induction d with
  | finished result => exact closed.ofResult fun _ _ => trivial
  | ask request next ih =>
    refine .bind (.attempt ?_) ih
    cases request with
    | listen => exact closed.reply _
    | command line => exact .within _ (.bind (keeps_stocks_write _ _) fun _ => closed.reply _)
    | message text => exact .within _ (.bind (keeps_stocks_write _ _) fun _ => closed.reply _)
    | hello host =>
      exact .within _ (.bind (keeps_stocks_write _ _) fun _ =>
        closed.ehlo host (fun _ => trivial) _)
    | secure server => exact .within _ (closed.secure server (fun _ => trivial) _)

section Looks

variable (p : SessionPool)

theorem keeps_stocks_close (session : Smtp.Connection) :
    Act.Keeps World.stocks (Pool.close p.keeper session) :=
  .bind (.attempt (keeps_stocks_run _ _ _)) fun _ => .pure _

theorem keeps_stocks_isUsable (item : Shelved Smtp.Connection) :
    Act.Keeps World.stocks (p.pool.isUsable p.keeper item) := by
  refine .bind .now fun time => ?_
  split
  · refine .bind (.attempt (keeps_stocks_run _ _ _)) fun result => ?_
    cases result with
    | ok _ => exact .pure _
    | error _ => exact .pure _
  · exact .pure _

/-- A look at the stock of a pool. -/
abbrev looking : Act (Pool.Look Smtp.Connection) := p.pool.look p.keeper

variable {p} {limits : List Limit} {w w' : World}

/-- A look that finds nothing leaves one session less in stock. -/
theorem look_again (look : looking p limits w = (.done .again, w')) :
    (w.stocks p.slot).idle.length = (w'.stocks p.slot).idle.length + 1 := by
  have popped : (p.keeper.update Stock.pop : Act (Option (Shelved Smtp.Connection))) limits w =
      (.done (w.stocks p.slot).pop.1,
        { w with stocks := World.put w.stocks p.slot (w.stocks p.slot).pop.2 }) := rfl
  rw [looking, Pool.look, Act.bind_done popped] at look
  cases stored : (w.stocks p.slot).idle with
  | nil =>
    -- What comes of opening a session is found.
    rw [Stock.pop, stored] at look
    obtain ⟨session, w₁, -, done⟩ := Act.bind_eq_done.1 (congrArg Prod.fst look)
    cases done
  | cons item rest =>
    have pop : (w.stocks p.slot).pop = (some item, ⟨rest, (w.stocks p.slot).inUse⟩) := by
      rw [Stock.pop, stored]
    rw [pop] at look
    dsimp only at look
    obtain ⟨usable, w₁, judged, -⟩ := Act.bind_eq_done.1 (congrArg Prod.fst look)
    rw [Act.bind_done judged] at look
    cases usable with
    | true => cases look
    | false =>
      obtain ⟨_, w₂, closed, -⟩ := Act.bind_eq_done.1 (congrArg Prod.fst look)
      cases (Act.bind_done closed).symm.trans look
      -- Only the session that was looked at is gone.
      rw [(keeps_stocks_close p _).of_run closed, (keeps_stocks_isUsable p _).of_run judged]
      dsimp only [World.put]
      rw [if_pos rfl, List.length_cons]

/-- Whoever takes a session from a pool looks again as long as nothing is found. -/
theorem acquire_unrolls (p : SessionPool) :
    (p.acquire : Act (Option Smtp.Connection)) = (do
      match ← looking p with
      | .found session => pure session
      | .again => p.acquire) := by
  funext limits w
  refine Act.bind_congr ?_
  rintro (session | _) w' look
  · rfl
  · -- As many looks are left as are needed for what is left in stock.
    rw [look_again look]
    rfl

end Looks

/-! ## Leaving a session -/

theorem close_done (p : SessionPool) (session : Smtp.Connection) (w : World) :
    ∃ w', (Pool.close p.keeper session : Act Unit) [] w = (.done (), w') := by
  obtain ⟨answer, w', quit⟩ := Act.attempt_command "QUIT" session w
  exact ⟨w', Act.bind_done quit⟩

theorem release_done (p : SessionPool) (session : Smtp.Connection) (w : World) :
    ∃ w', (p.release session : Act Unit) [] w = (.done (), w') := by
  have stamped : ∃ rejected w₁, (p.keeper.stamp (Stock.putBack p.pool.maxIdle session) :
      Act (Option Smtp.Connection)) [] w = (.done rejected, w₁) := ⟨_, _, rfl⟩
  obtain ⟨rejected, w₁, stamped⟩ := stamped
  rw [SessionPool.release, Pool.release, Act.bind_done stamped]
  cases rejected with
  | some rejected => exact close_done p rejected w₁
  | none => exact ⟨w₁, rfl⟩

/-- However a session ends after an attempt, the attempt goes on. -/
theorem leave_done (s : Prepared) (result : Result Unit) (w : World) :
    ∃ w', (leave s result : Act Unit) [] w = (.done (), w') := by
  rcases s with ⟨session, _ | p⟩
  · cases result with
    | ok _ =>
      obtain ⟨answer, w', quit⟩ := Act.attempt_command "QUIT" session w
      exact ⟨w', Act.bind_done quit⟩
    | error e => exact ⟨w, rfl⟩
  · cases result with
    | ok _ => exact release_done p session w
    | error e => exact ⟨_, rfl⟩

theorem deliver_eq (c : Context) (deadline : Option Instant) (e : Envelope) (s : Prepared) :
    (deliver c deadline e s : Act Unit) =
      Act.attempt (transact c deadline e s) >>= fun result =>
        leave s result >>= fun _ => Act.ofResult result := rfl

/-- What came of handing a message over is what comes of its delivery, once the session is
left. -/
theorem deliver_finished {c : Context} {deadline : Option Instant} {e : Envelope} {s : Prepared}
    {w : World} {result : Result Unit}
    (finished : (transacting c deadline e s w).1.result? = some result) :
    ∃ w', (leave s result : Act Unit) [] (transacting c deadline e s w).2 = (.done (), w') ∧
      (deliver c deadline e s : Act Unit) [] w = Act.ofResult result [] w' := by
  rw [transacting] at finished ⊢
  obtain ⟨w', left⟩ := leave_done s result ((transact c deadline e s : Act Unit) [] w).2
  exact ⟨w', left, by rw [deliver_eq, Act.attempt_bind_finished finished, Act.bind_done left]⟩

theorem deliver_unfinished {c : Context} {deadline : Option Instant} {e : Envelope} {s : Prepared}
    {w : World} (unfinished : (transacting c deadline e s w).1.result? = none) :
    ((deliver c deadline e s : Act Unit) [] w).1.result? = none := by
  rw [deliver_eq]
  exact (Act.attempt_bind_unfinished unfinished).1

/-- An attempt succeeds in a session exactly if its message was accepted. -/
theorem deliver_done (c : Context) (deadline : Option Instant) (e : Envelope) (s : Prepared)
    (w : World) :
    ((deliver c deadline e s : Act Unit) [] w).1 = .done () ↔
      (transacting c deadline e s w).1 = .done () := by
  rw [← Outcome.result?_eq_ok, ← Outcome.result?_eq_ok]
  cases finished : (transacting c deadline e s w).1.result? with
  | none => rw [deliver_unfinished finished]
  | some result =>
    obtain ⟨w', -, run⟩ := deliver_finished finished
    rw [run, (Act.ofResult_run result [] w').1]

/-! ## Runs of tries -/

section Tries

variable {m : Mailer} {p : Plan} {limits : List Limit} {start : Standing × World}
  {failed failed' : List Error} {s s' : Standing} {w w' : World}

/-- The number of tries determines their run. -/
theorem Retried.unique (h : Retried m p limits start failed s w)
    (h' : Retried m p limits start failed' s' w') (same : failed.length = failed'.length) :
    s = s' ∧ w = w' := by
  -- By induction on one of the runs; what a try does is determined by where it begins.
  induction h generalizing failed' s' w' with
  | start =>
    cases h' with
    | start => exact ⟨rfl, rfl⟩
    | again => simp at same
  | again before run last ih =>
    cases h' with
    | start => simp at same
    | again before' run' last' =>
      simp only [List.length_append, List.length_singleton, Nat.add_right_cancel_iff] at same
      obtain ⟨rfl, rfl⟩ := ih before' same
      rw [run] at run'
      cases run'
      exact ⟨rfl, rfl⟩

/-- Each of the tries was made, and was not the last one. -/
theorem Retried.earlier (h : Retried m p limits start failed s w) {k : Nat}
    (earlier : k < failed.length) :
    ∃ s₁ w₁ next w₂, Retried m p limits start (failed.take k) s₁ w₁ ∧
      m.tryOnce p s₁ limits w₁ = (.done (.again next), w₂) := by
  induction h with
  | start => cases earlier
  | @again failed e s next w w' before run last ih =>
    rw [List.length_append, List.length_singleton, Nat.lt_succ_iff] at earlier
    rw [List.take_append_of_le_length earlier]
    rcases Nat.lt_or_eq_of_le earlier with inside | rfl
    · exact ih inside
    · -- It is the last try of the run.
      rw [List.take_length]
      exact ⟨s, w, next, w', before, run⟩

/-- After some tries, what is left of a send is made of the tries that are left. -/
theorem Retried.tries_eq (h : Retried m p limits start failed s w) (n : Nat) :
    m.tries p (failed.length + n) start.1 limits start.2 = m.tries p n s limits w := by
  induction h generalizing n with
  | start => rw [List.length_nil, Nat.zero_add]
  | @again failed e s next w w' before run last ih =>
    rw [List.length_append, List.length_singleton, Nat.add_assoc, Nat.add_comm 1 n, ih,
      tries_again n run]

/-- A try that another one follows was counted. -/
theorem Retried.next (h : Retried m p limits start failed s w) {next : Standing}
    (run : m.tryOnce p s limits w = (.done (.again next), w')) :
    ∃ failed, Retried m p limits start failed next w' := by
  have tried := tryOnce_tried m p s limits w
  rw [run] at tried
  cases tried with
  | again delay e c transient goesOn told => exact ⟨_, h.again run rfl⟩
  | unfinished _ _ noResult _ => cases noResult

/-- Tries that are done end with one that succeeded. -/
theorem Retried.succeeded (h : Retried m p limits start failed s w) (n : Nat)
    (done : (m.tries p n s limits w).1 = .done ()) :
    ∃ failed s w, Retried m p limits start failed s w ∧
      (m.tryOnce p s limits w).1 = .done (.decided (.ok ())) := by
  -- By induction on the tries that are left.
  induction n generalizing failed s w with
  | zero => cases done
  | succ n ih =>
    rw [tries] at done
    obtain ⟨verdict, w₁, run, done⟩ := Act.bind_eq_done.1 done
    cases verdict with
    | decided result =>
      rw [← Outcome.result?_eq_ok, (Act.ofResult_run result limits w₁).1] at done
      obtain rfl := Option.some.inj done
      exact ⟨failed, s, w, h, by rw [run]⟩
    | again next =>
      obtain ⟨failed, h⟩ := h.next run
      exact ih h done

/-- After a try that decides the send there is no other. -/
theorem Retried.last (h : Retried m p limits start failed s w) {result : Result Unit}
    (decided : (m.tryOnce p s limits w).1 = .done (.decided result))
    (h' : Retried m p limits start failed' s' w') : failed'.length ≤ failed.length := by
  by_contra more
  -- In a longer run the try was made as well, and another one after it.
  obtain ⟨s₁, w₁, next, w₂, h₁, run⟩ := h'.earlier (Nat.lt_of_not_le more)
  have same : failed.length = (failed'.take failed.length).length := by
    rw [List.length_take, Nat.min_eq_left (Nat.le_of_not_le more)]
  obtain ⟨rfl, rfl⟩ := h.unique h₁ same
  rw [run] at decided
  cases decided

end Tries

/-! ## One try -/

section Try

variable {m : Mailer} {p : Plan} {s : Standing} {c : Context} {w w' : World}

/-- A try gets as far as its attempt, which it makes under the context `c` and in `w'`. -/
inductive Reaches (p : Plan) (s : Standing) (w : World) (c : Context) (w' : World) : Prop where
  | intro {delay : Duration} {w₁ w₂ : World}
      (told : tell s.context (p.hooks.attemptStart s.attempt) [] w = (.done c, w₁))
      (asked : ask p.schedule p.draw s.attempt [] w₁ = (.done (some delay), w₂))
      (paused : pause c delay [] w₂ = (.done (), w'))

theorem Reaches.tryOnce_eq (h : Reaches p s w c w') :
    m.tryOnce p s [] w = m.tryAttempt p s c [] w' := by
  obtain @⟨delay, w₁, w₂, told, asked, paused⟩ := h
  have finished : (pause c delay [] w₂).1.result? = some (.ok ()) := by rw [paused]; rfl
  rw [tryOnce, Act.bind_done told, Act.bind_done asked]
  dsimp only
  rw [Act.attempt_bind_finished finished, paused]

/-- How a try can come to its end: no attempts are left, the delay before its attempt was ended by
the context, or the attempt was made. -/
theorem tryOnce_cases {verdict : Verdict} (done : (m.tryOnce p s [] w).1 = .done verdict) :
    verdict = .decided (.error (.exhausted s.attempt s.last)) ∨
      (∃ e, e.IsContextual ∧ verdict = .decided (.error e)) ∨
      ∃ c w', Reaches p s w c w' ∧ (m.tryAttempt p s c [] w').1 = .done verdict := by
  obtain ⟨c, w₁, told, done⟩ := Act.bind_eq_done.1 done
  obtain ⟨delay, w₂, asked, done⟩ := Act.bind_eq_done.1 done
  cases delay with
  | none =>
    obtain ⟨c', w₃, -, done⟩ := Act.bind_eq_done.1 done
    cases done
    exact .inl rfl
  | some delay =>
    obtain ⟨result, paused, done⟩ := Act.attempt_bind_eq_done.1 done
    cases result with
    | error e =>
      have failed := Outcome.result?_eq_error.1 paused
      obtain ⟨c', w₃, -, done⟩ := Act.bind_eq_done.1 done
      cases done
      exact .inr (.inl ⟨e, (Act.Candid.pause c delay).fails [] w₂ e failed, rfl⟩)
    | ok _ =>
      have paused := Outcome.result?_eq_ok.1 paused
      exact .inr (.inr ⟨c, _, ⟨told, asked, by rw [← paused]⟩, done⟩)

/-- A try that succeeds has made its attempt. -/
theorem reaches_of_succeeded (decided : (m.tryOnce p s [] w).1 = .done (.decided (.ok ()))) :
    ∃ c w', Reaches p s w c w' := by
  obtain impossible | ⟨e, -, impossible⟩ | ⟨c, w', reaches, -⟩ := tryOnce_cases decided
  · cases impossible
  · cases impossible
  · exact ⟨c, w', reaches⟩

/-- A try succeeds exactly if its attempt does. -/
theorem tryAttempt_succeeded :
    (m.tryAttempt p s c [] w).1 = .done (.decided (.ok ())) ↔
      (m.attempt c p.pool p.envelope [] w).1 = .done () := by
  constructor
  · intro decided
    obtain ⟨result, finished, decided⟩ := Act.attempt_bind_eq_done.1 decided
    obtain ⟨c', w₂, -, decided⟩ := Act.bind_eq_done.1 decided
    cases result with
    | ok _ => exact Outcome.result?_eq_ok.1 finished
    | error e =>
      obtain ⟨failure, w₃, -, decided⟩ := Act.bind_eq_done.1 decided
      split at decided <;> cases decided
  · intro done
    obtain ⟨c', w₂, close, -⟩ := close_run p.hooks c s.attempt (.ok ()) [] _
    rw [tryAttempt, Act.attempt_bind_finished (Outcome.result?_eq_ok.2 done), Act.bind_done close]
    rfl

/-- To find out when an attempt has to end changes nothing. -/
theorem deadline_cases (m : Mailer) (c : Context) (limits : List Limit) (w : World) :
    (∃ deadline, m.deadline c limits w = (.done deadline, w)) ∨
      m.deadline c limits w = (.overflow, w) := by
  by_cases canEnd : m.CanEnd c w.now
  · exact .inl ⟨_, deadline_of_room canEnd⟩
  · exact .inr (deadline_of_no_room canEnd)

/-- An attempt succeeds exactly if it prepares a session and delivers its message in it. -/
theorem attempt_done {pool : Option SessionPool} {e : Envelope} :
    (m.attempt c pool e [] w).1 = .done () ↔
      ∃ deadline session w₁, m.deadline c [] w = (.done deadline, w) ∧
        (m.prepareSession c deadline pool : Act Prepared) [] w = (.done session, w₁) ∧
        ((deliver c deadline e session : Act Unit) [] w₁).1 = .done () := by
  have unfolded : m.attempt c pool e =
      m.deadline c >>= fun deadline => m.prepareSession c deadline pool >>= fun session =>
        deliver c deadline e session := rfl
  rw [unfolded]
  constructor
  · intro done
    obtain ⟨deadline, w₀, limited, rest⟩ := Act.bind_eq_done.1 done
    obtain ⟨session, w₁, prepared, delivered⟩ := Act.bind_eq_done.1 rest
    have same : w₀ = w := by
      rcases m.deadline_cases c [] w with ⟨deadline', known⟩ | overflow
      · exact (congrArg Prod.snd (limited.symm.trans known))
      · cases limited.symm.trans overflow
    rw [same] at limited prepared
    exact ⟨deadline, session, w₁, limited, prepared, delivered⟩
  · rintro ⟨deadline, session, w₁, limited, prepared, done⟩
    rw [Act.bind_done limited, Act.bind_done prepared]
    exact done

end Try

/-! ## Sends -/

/-- One attempt of a send to deliver its message. -/
structure Attempt where
  number : Nat
  plan : Plan
  context : Context
  /-- The surroundings in which it begins. -/
  world : World

/-- An attempt that has prepared a session. -/
structure Delivery extends Attempt where
  deadline : Option Instant
  session : Prepared
  /-- The surroundings in which the session is prepared. -/
  prepared : World

section Sends

variable (m : Mailer) (c : Context) (message : Message) (s : SendSettings) (o : Mime.Occasion)
  (draw : Nat → Nat) (w : World)

/-- The send makes this attempt, after tries that failed and after the delay before it. -/
inductive Attempts (a : Attempt) : Prop where
  | intro {start : Context} {w₁ w₂ : World} {failed : List Error} {st : Standing}
      (begun : m.begin c message s o draw [] w = (.done (a.plan, start), w₁))
      (retried : Retried m a.plan [] (⟨0, start, none⟩, w₁) failed st w₂)
      (number : st.attempt = a.number) (reaches : Reaches a.plan st w₂ a.context a.world)

/-- The send makes this attempt in this session. -/
structure Delivers (d : Delivery) : Prop where
  attempts : Attempts m c message s o draw w d.toAttempt
  limited : m.deadline d.context [] d.world = (.done d.deadline, d.world)
  prepares : (m.prepareSession d.context d.deadline d.plan.pool : Act Prepared) [] d.world =
    (.done d.session, d.prepared)

/-- What is true of the attempts of a send and of what comes of it. -/
structure Delivered : Prop where
  /-- Every attempt is to deliver the payload to the recipients, in their order. -/
  plan : ∀ a, Attempts m c message s o draw w a → ∃ payload,
    Mime.payload message s.toFinishing o = .ok payload ∧
      a.plan.envelope = ⟨message.sender.bare, message.recipients, payload⟩
  /-- In every session that it prepares it takes the steps of a transaction. -/
  transacted : ∀ d, Delivers m c message s o draw w d →
    ∃ xs, Transacted d.context d.deadline d.plan.envelope d.session d.prepared xs
  /-- The send is done if and only if its last attempt completed all of them. -/
  done_iff : (m.send c message s o draw [] w).1 = .done () ↔
    ∃ d xs, Delivers m c message s o draw w d ∧
      (∀ a, Attempts m c message s o draw w a → a.number ≤ d.number) ∧
      Transacted d.context d.deadline d.plan.envelope d.session d.prepared xs ∧
      Completed (d.session.steps d.plan.envelope) xs
  /-- After an attempt that completed them there is no other. -/
  last : ∀ d xs, Delivers m c message s o draw w d →
    Transacted d.context d.deadline d.plan.envelope d.session d.prepared xs →
    Completed (d.session.steps d.plan.envelope) xs →
    ∀ a, Attempts m c message s o draw w a → a.number ≤ d.number

variable {m c message s o draw w}

/-- What an attempt is to deliver. -/
theorem Attempts.envelope_eq {a : Attempt} (h : Attempts m c message s o draw w a) :
    ∃ payload, Mime.payload message s.toFinishing o = .ok payload ∧
      a.plan.envelope = ⟨message.sender.bare, message.recipients, payload⟩ := by
  obtain ⟨begun, -, -, -⟩ := h
  obtain ⟨_, w₁, -, rest⟩ := Act.bind_eq_done.1 (congrArg Prod.fst begun)
  obtain ⟨⟨content, c'⟩, w₂, prepared, done⟩ := Act.bind_eq_done.1 rest
  have plan : m.planFor message s draw content = a.plan := congrArg Prod.fst (Outcome.done.inj done)
  exact ⟨content, payload_of_prepare prepared, congrArg Plan.envelope plan.symm⟩

/-- A try that decides the send is the last one, and the send has its result. -/
theorem send_decided {p : Plan} {start : Context} {w₁ w₂ : World} {failed : List Error}
    {st : Standing} {result : Result Unit}
    (begun : m.begin c message s o draw [] w = (.done (p, start), w₁))
    (retried : Retried m p [] (⟨0, start, none⟩, w₁) failed st w₂)
    (decided : (m.tryOnce p st [] w₂).1 = .done (.decided result)) :
    (m.send c message s o draw [] w).1.result? = some result ∧
      ∀ a, Attempts m c message s o draw w a → a.number ≤ st.attempt := by
  constructor
  · -- The tries before it were no more than the schedule allows, so it is made.
    obtain ⟨n, enough⟩ := Nat.exists_eq_add_of_le retried.length_le
    have left : p.schedule.limit + 1 = failed.length + (n + 1) := by omega
    rw [send, Act.bind_done begun]
    dsimp only
    rw [left, retried.tries_eq, tries_decided n (Prod.ext decided rfl)]
    exact (Act.ofResult_run result [] _).1
  · rintro a ⟨begun', retried', number, -⟩
    have same := begun.symm.trans begun'
    simp only [Prod.mk.injEq, Outcome.done.injEq] at same
    obtain ⟨⟨plan, rfl⟩, rfl⟩ := same
    rw [← plan] at retried'
    rw [← number, retried.account.attempt, retried'.account.attempt]
    exact retried.last decided retried'

/-- An attempt that delivers its message ends the send. -/
theorem Attempts.decides {a : Attempt} (h : Attempts m c message s o draw w a)
    (done : (m.attempt a.context a.plan.pool a.plan.envelope [] a.world).1 = .done ()) :
    (m.send c message s o draw [] w).1 = .done () ∧
      ∀ a', Attempts m c message s o draw w a' → a'.number ≤ a.number := by
  obtain @⟨start, w₁, w₂, failed, st, begun, retried, number, reaches⟩ := h
  have decided : (m.tryOnce a.plan st [] w₂).1 = .done (.decided (.ok ())) := by
    rw [reaches.tryOnce_eq]
    exact tryAttempt_succeeded.2 done
  rw [← number, ← Outcome.result?_eq_ok]
  exact send_decided begun retried decided

theorem Delivers.attempt_done {d : Delivery} (h : Delivers m c message s o draw w d)
    {xs : List Exchange}
    (transacted : Transacted d.context d.deadline d.plan.envelope d.session d.prepared xs)
    (completed : Completed (d.session.steps d.plan.envelope) xs) :
    (m.attempt d.context d.plan.pool d.plan.envelope [] d.world).1 = .done () :=
  Mailer.attempt_done.2 ⟨d.deadline, d.session, d.prepared, h.limited, h.prepares,
    (deliver_done _ _ _ _ _).2 (transacted.accepted.2 completed)⟩

/-- A send that is done made an attempt that completed everything. -/
theorem exists_delivers (done : (m.send c message s o draw [] w).1 = .done ()) :
    ∃ d, Delivers m c message s o draw w d ∧
      (transacting d.context d.deadline d.plan.envelope d.session d.prepared).1 = .done () := by
  obtain ⟨⟨p, start⟩, w₁, begun, rest⟩ := Act.bind_eq_done.1 done
  have first : Retried m p [] (⟨0, start, none⟩, w₁) [] ⟨0, start, none⟩ w₁ := .start
  obtain ⟨failed, st, w₂, retried, decided⟩ := first.succeeded _ rest
  obtain ⟨c', w₃, reaches⟩ := reaches_of_succeeded decided
  rw [reaches.tryOnce_eq, tryAttempt_succeeded] at decided
  obtain ⟨deadline, session, w₄, limited, prepares, delivered⟩ := Mailer.attempt_done.1 decided
  refine ⟨⟨⟨st.attempt, p, c', w₃⟩, deadline, session, w₄⟩, ⟨?_, limited, prepares⟩, ?_⟩
  · exact ⟨begun, retried, rfl, reaches⟩
  · exact (deliver_done _ _ _ _ _).1 delivered

/-- Whatever the server does and whatever the schedule is, a send is done if and only if the
server accepted everything in its last attempt. -/
theorem send_delivered (m : Mailer) (c : Context) (message : Message) (s : SendSettings)
    (o : Mime.Occasion) (draw : Nat → Nat) (w : World) :
    Delivered m c message s o draw w where
  plan _ h := h.envelope_eq
  transacted d delivers := exists_transacted _ _ _ _ _
  done_iff := by
    constructor
    · intro done
      obtain ⟨d, delivers, handedOver⟩ := exists_delivers done
      obtain ⟨xs, transacted⟩ := exists_transacted d.context d.deadline d.plan.envelope d.session
        d.prepared
      have completed := transacted.accepted.1 handedOver
      have last := (delivers.attempts.decides (delivers.attempt_done transacted completed)).2
      exact ⟨d, xs, delivers, last, transacted, completed⟩
    · rintro ⟨d, xs, delivers, -, transacted, completed⟩
      exact (delivers.attempts.decides (delivers.attempt_done transacted completed)).1
  last := by
    intro d xs delivers transacted completed
    exact (delivers.attempts.decides (delivers.attempt_done transacted completed)).2

end Sends

end Outbox.Mailer
