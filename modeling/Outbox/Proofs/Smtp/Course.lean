import Outbox.Proofs.Smtp.Wire

/-!
# Outbox.Proofs.Smtp.Course — the course of a dialogue

What is asked and answered while a dialogue is carried out, told with everything that was said
before it.

* `Dialogue.exchanges` are the exchanges of a dialogue on a link.
* `Dialogue.Meets` — a rule for each request after the exchanges before it, and one for the result
  after all of them. What is carried out keeps to both (`Meets.asked`, `Meets.ended`).
* `Answers` — a server that answers by what was said. What a dialogue says to it depends on neither
  links nor times (`Dialogue.exchanges_unique`).
* `Dialogue.Secures` — what remains of a dialogue once the connection is secure.
-/

namespace Outbox.Smtp

variable {α β : Type} {link : Nat} {patience : Duration} {limits : List Limit} {w : World}

theorem Request.perform_fails {r : Request} {answer : Result r.Answer}
    (result : (r.perform link patience limits w).1.result? = some answer) :
    FailsWith r.Fails answer := by
  rintro e rfl
  exact (Act.Candid.perform link patience r).fails limits w e (Outcome.result?_eq_error.1 result)

/-- A command has a result where there are no limits, whatever the server does. -/
theorem Request.command_result (link : Nat) (patience : Duration) (line : Octets) (w : World) :
    ∃ answer, ((Request.command line).perform link patience [] w).1.result? = some answer := by
  have settled := Act.Timed.command link patience line [] w
  have tame := (Act.Candid.perform link patience (.command line)).toTame
  rcases run : (Request.command line).perform link patience [] w with
    ⟨a | e | ⟨depth, cause⟩ | _ | _, w₁⟩ <;> rw [run] at settled
  · exact ⟨.ok a, rfl⟩
  · exact ⟨.error e, rfl⟩
  · exact absurd (congrArg Prod.fst run) (tame.not_cut w depth cause)
  · cases settled
  · cases settled

namespace Dialogue

/-! ## Exchanges -/

/-- The exchanges of a dialogue that is carried out on a link. -/
def exchanges (link : Nat) (patience : Duration) (limits : List Limit) :
    Dialogue α → World → List Exchange
  | finished _, _ => []
  | ask r next, w =>
    match (r.perform link patience limits w).1.result? with
    | some answer =>
      ⟨r, some answer⟩ ::
        exchanges link patience limits (next answer) (r.perform link patience limits w).2
    | none => [⟨r, none⟩]

section

variable {r : Request} {next : Result r.Answer → Dialogue α}

theorem exchanges_answered {answer : Result r.Answer}
    (result : (r.perform link patience limits w).1.result? = some answer) :
    (ask r next).exchanges link patience limits w =
      ⟨r, some answer⟩ ::
        (next answer).exchanges link patience limits (r.perform link patience limits w).2 := by
  rw [exchanges, result]

theorem exchanges_unanswered (result : (r.perform link patience limits w).1.result? = none) :
    (ask r next).exchanges link patience limits w = [⟨r, none⟩] := by
  rw [exchanges, result]

theorem exchanges_cons (link : Nat) (patience : Duration) (limits : List Limit) (r : Request)
    (next : Result r.Answer → Dialogue α) (w : World) :
    ∃ xs, (ask r next).exchanges link patience limits w =
      ⟨r, (r.perform link patience limits w).1.result?⟩ :: xs := by
  rcases result : (r.perform link patience limits w).1.result? with _ | answer
  · exact ⟨[], exchanges_unanswered result⟩
  · exact ⟨_, exchanges_answered result⟩

/-- An exchange is the first one, or comes after the first one was answered. -/
theorem exchanges_split {first rest : List Exchange} {x : Exchange}
    (made : (ask r next).exchanges link patience limits w = first ++ x :: rest) :
    first = [] ∧ x = ⟨r, (r.perform link patience limits w).1.result?⟩ ∨
      ∃ answer more, (r.perform link patience limits w).1.result? = some answer ∧
        first = ⟨r, some answer⟩ :: more ∧
        (next answer).exchanges link patience limits (r.perform link patience limits w).2 =
          more ++ x :: rest := by
  cases first with
  | nil =>
    obtain ⟨xs, cons⟩ := exchanges_cons link patience limits r next w
    rw [cons] at made
    exact .inl ⟨rfl, (List.cons.inj made).1.symm⟩
  | cons y more =>
    rcases result : (r.perform link patience limits w).1.result? with _ | answer
    · rw [exchanges_unanswered result] at made
      exact absurd (List.cons.inj made).2.symm (by simp)
    · rw [exchanges_answered result] at made
      obtain ⟨same, later⟩ := List.cons.inj made
      exact .inr ⟨answer, more, rfl, same.symm ▸ rfl, later⟩

end

theorem exchanged (d : Dialogue α) (w : World) :
    Exchanged link patience limits (d.exchanges link patience limits w) w
      (d.run link patience limits w).2 := by
  induction d generalizing w with
  | finished result =>
    rw [run, (Act.ofResult_run result limits w).2]
    exact .none w
  | ask r next ih =>
    rcases result : (r.perform link patience limits w).1.result? with _ | answer
    · rw [exchanges_unanswered result, run, (Act.attempt_bind_unfinished result).2]
      exact .unanswered result
    · rw [exchanges_answered result, run, Act.attempt_bind_finished result]
      exact .answered result (ih answer _)

/-- Where there is no result, the last request was cut short. -/
theorem unfinished {d : Dialogue α} (noResult : (d.run link patience limits w).1.result? = none) :
    ∃ xs r, d.exchanges link patience limits w = xs ++ [⟨r, none⟩] := by
  induction d generalizing w with
  | finished result =>
    rw [run, (Act.ofResult_run result limits w).1] at noResult
    cases noResult
  | ask r next ih =>
    rcases result : (r.perform link patience limits w).1.result? with _ | answer
    · exact ⟨[], r, exchanges_unanswered result⟩
    · rw [run, Act.attempt_bind_finished result] at noResult
      obtain ⟨xs, r', made⟩ := ih answer noResult
      exact ⟨⟨r, some answer⟩ :: xs, r', by rw [exchanges_answered result, made]; rfl⟩

/-! ## Rules -/

/-- Each request is one that may be made after the exchanges before it, and the result is one that
may come of all exchanges, whatever is answered. -/
def Meets (asks : List Exchange → Request → Prop) (ends : List Exchange → Result α → Prop) :
    Dialogue α → List Exchange → Prop
  | finished result, before => ends before result
  | ask r next, before =>
    asks before r ∧ ∀ answer, Outbox.FailsWith r.Fails answer →
      (next answer).Meets asks ends (before ++ [⟨r, some answer⟩])

namespace Meets

variable {asks : List Exchange → Request → Prop} {mid : List Exchange → Result α → Prop}
  {before : List Exchange} {d : Dialogue α}

theorem bind {ends : List Exchange → Result β → Prop} {f : α → Dialogue β}
    (hd : d.Meets asks mid before) (done : ∀ xs a, mid xs (.ok a) → (f a).Meets asks ends xs)
    (failed : ∀ xs e, mid xs (.error e) → ends xs (.error e)) :
    Meets asks ends (d >>= f) before := by
  induction d generalizing before with
  | finished result =>
    cases result with
    | ok a => exact done before a hd
    | error e => exact failed before e hd
  | ask r next ih => exact ⟨hd.1, fun answer fails => ih answer (hd.2 answer fails)⟩

theorem attempt_bind {ends : List Exchange → Result β → Prop} {f : Result α → Dialogue β}
    (hd : d.Meets asks mid before)
    (next : ∀ xs result, mid xs result → (f result).Meets asks ends xs) :
    Meets asks ends (d.attempt >>= f) before := by
  induction d generalizing before with
  | finished result => exact next before result hd
  | ask r rest ih => exact ⟨hd.1, fun answer fails => ih answer (hd.2 answer fails)⟩

/-- A dialogue that fails with local errors only is one step: its failure is named by the step. -/
theorem atStage {ends : List Exchange → Result α → Prop} (stage : Stage)
    (hd : d.Meets asks mid before) (isLocal : d.FailsWith Error.IsLocal)
    (done : ∀ xs a, mid xs (.ok a) → ends xs (.ok a))
    (failed : ∀ xs e, mid xs (.error e) → ends xs (.error (.step stage e))) :
    Meets asks ends (d.atStage stage) before := by
  induction d generalizing before with
  | finished result =>
    cases result with
    | ok a => exact done before a hd
    | error e =>
      have named : ends before (.error (e.atStage stage)) := by
        rw [(isLocal e rfl).atStage stage]
        exact failed before e hd
      exact named
  | ask r next ih =>
    exact ⟨hd.1, fun answer fails => ih answer (hd.2 answer fails) (isLocal answer fails)⟩

/-- A part of a longer course: if it keeps to its own rules, and these and what is known along it
give other rules for the whole, it keeps to those. -/
theorem after {asks' : List Exchange → Request → Prop} {ends : List Exchange → Result α → Prop}
    {known : List Exchange → Prop} (first : List Exchange) (hd : d.Meets asks mid before)
    (h : known before) (allowed : ∀ xs r, known xs → asks xs r → asks' (first ++ xs) r)
    (goesOn : ∀ xs r answer, known xs → asks xs r → known (xs ++ [⟨r, some answer⟩]))
    (done : ∀ xs result, known xs → mid xs result → ends (first ++ xs) result) :
    d.Meets asks' ends (first ++ before) := by
  induction d generalizing before with
  | finished result => exact done before result h hd
  | ask r next ih =>
    refine ⟨allowed before r h hd.1, fun answer fails => ?_⟩
    rw [List.append_assoc]
    exact ih answer (hd.2 answer fails) (goesOn before r answer h hd.1)

/-- What is asked keeps to the rule for requests. -/
theorem asked (h : d.Meets asks mid before) {first rest : List Exchange} {x : Exchange}
    (made : d.exchanges link patience limits w = first ++ x :: rest) :
    asks (before ++ first) x.request := by
  induction d generalizing before w first with
  | finished result =>
    rw [exchanges] at made
    exact absurd made.symm (List.append_ne_nil_of_right_ne_nil _ (List.cons_ne_nil _ _))
  | ask r next ih =>
    obtain ⟨rfl, rfl⟩ | ⟨answer, more, result, rfl, later⟩ := exchanges_split made
    · rw [List.append_nil]
      exact h.1
    · have asked := ih answer (h.2 answer (Request.perform_fails result)) later
      rwa [List.append_assoc] at asked

/-- What comes of it keeps to the rule for results. -/
theorem ended (h : d.Meets asks mid before) {result : Result α}
    (finished : (d.run link patience limits w).1.result? = some result) :
    mid (before ++ d.exchanges link patience limits w) result := by
  induction d generalizing before w with
  | finished result' =>
    rw [run, (Act.ofResult_run result' limits w).1] at finished
    obtain rfl := Option.some.inj finished
    rw [exchanges, List.append_nil]
    exact h
  | ask r next ih =>
    rw [run] at finished
    rcases given : (r.perform link patience limits w).1.result? with _ | answer
    · rw [(Act.attempt_bind_unfinished given).1] at finished
      cases finished
    · rw [Act.attempt_bind_finished given] at finished
      have later := ih answer (h.2 answer (Request.perform_fails given)) finished
      rwa [List.append_assoc, List.singleton_append, ← exchanges_answered given] at later

/-- Where nothing but commands is asked and there are no limits, there is a result. -/
theorem returns (h : d.Meets asks mid before)
    (commands : ∀ xs r, asks xs r → ∃ line, r = .command line) :
    ∃ result, (d.run link patience [] w).1.result? = some result := by
  induction d generalizing before w with
  | finished result => exact ⟨result, by rw [run, (Act.ofResult_run result [] w).1]⟩
  | ask r next ih =>
    obtain ⟨line, rfl⟩ := commands before r h.1
    obtain ⟨answer, given⟩ := Request.command_result link patience line w
    rw [run, Act.attempt_bind_finished given]
    exact ih answer (h.2 answer (Request.perform_fails given))

end Meets
end Dialogue

/-! ## Servers -/

/-- A server by what it answers after what was said, if it answers. -/
def Server := List Exchange → (r : Request) → Option (Result r.Answer)

/-- The answers in these exchanges are those of a server. -/
def Server.Answers (server : Server) (xs : List Exchange) : Prop :=
  ∀ first x rest, xs = first ++ x :: rest → x.answer = server first x.request

/-- The same server after one more exchange. -/
def Server.after (server : Server) (x : Exchange) : Server := fun xs => server (x :: xs)

namespace Server.Answers

variable {server : Server} {x : Exchange} {xs : List Exchange}

theorem head (h : server.Answers (x :: xs)) : x.answer = server [] x.request := h [] x xs rfl

theorem tail (h : server.Answers (x :: xs)) : (server.after x).Answers xs := by
  rintro first y rest rfl
  exact h (x :: first) y rest rfl

end Server.Answers

namespace Dialogue

/-- A dialogue says the same to the same server, on whatever links and at whatever times. -/
theorem exchanges_unique (d : Dialogue α) {server : Server} {link₁ link₂ : Nat}
    {patience₁ patience₂ : Duration} {limits₁ limits₂ : List Limit} {w₁ w₂ : World}
    (first : server.Answers (d.exchanges link₁ patience₁ limits₁ w₁))
    (second : server.Answers (d.exchanges link₂ patience₂ limits₂ w₂)) :
    d.exchanges link₁ patience₁ limits₁ w₁ = d.exchanges link₂ patience₂ limits₂ w₂ := by
  induction d generalizing server w₁ w₂ with
  | finished result => rfl
  | ask r next ih =>
    have same : (r.perform link₁ patience₁ limits₁ w₁).1.result? =
        (r.perform link₂ patience₂ limits₂ w₂).1.result? := by
      obtain ⟨xs, head₁⟩ := exchanges_cons link₁ patience₁ limits₁ r next w₁
      obtain ⟨ys, head₂⟩ := exchanges_cons link₂ patience₂ limits₂ r next w₂
      rw [head₁] at first
      rw [head₂] at second
      exact first.head.trans second.head.symm
    rcases result : (r.perform link₁ patience₁ limits₁ w₁).1.result? with _ | answer
    · rw [exchanges_unanswered result, exchanges_unanswered (same.symm.trans result)]
    · rw [exchanges_answered result] at first ⊢
      rw [exchanges_answered (same.symm.trans result)] at second ⊢
      rw [ih answer first.tail second.tail]

/-! ## Handshakes -/

/-- Once the connection is secure, what remains of the dialogue is one of these. -/
inductive Secures (P : Dialogue α → Prop) : Dialogue α → Prop where
  | finished (result : Result α) : Secures P (.finished result)
  | secure (name : String) {next : Result (Request.secure name).Answer → Dialogue α}
      (completed : P (next (.ok ()))) (failed : ∀ e, Secures P (next (.error e))) :
      Secures P (.ask (.secure name) next)
  | other {r : Request} {next : Result r.Answer → Dialogue α} (other : ∀ name, r ≠ .secure name)
      (rest : ∀ answer, Secures P (next answer)) : Secures P (.ask r next)

/-- There is no handshake in the dialogue. -/
abbrev IsPlain (d : Dialogue α) : Prop := d.Secures fun _ => False

namespace Secures

variable {P : Dialogue α → Prop} {d : Dialogue α}

theorem mono {Q : Dialogue α → Prop} (hd : d.Secures P) (hP : ∀ rest, P rest → Q rest) :
    d.Secures Q := by
  induction hd with
  | finished result => exact .finished _
  | secure name done failed ih => exact .secure name (hP _ done) ih
  | other noHandshake rest ih => exact .other noHandshake ih

theorem bind {Q : Dialogue β → Prop} {f : α → Dialogue β} (hd : d.Secures P)
    (completed : ∀ rest, P rest → Q (rest >>= f)) (hf : ∀ a, (f a).Secures Q) :
    Secures Q (d >>= f) := by
  induction hd with
  | finished result =>
    cases result with
    | ok a => exact hf a
    | error e => exact .finished _
  | secure name done failed ih => exact .secure name (completed _ done) ih
  | other noHandshake rest ih => exact .other noHandshake ih

theorem plain_bind {Q : Dialogue β → Prop} {f : α → Dialogue β} (hd : d.IsPlain)
    (hf : ∀ a, (f a).Secures Q) : Secures Q (d >>= f) :=
  hd.bind (fun _ => False.elim) hf

theorem attempt_bind {Q : Dialogue β → Prop} {f : Result α → Dialogue β} (hd : d.IsPlain)
    (hf : ∀ result, (f result).Secures Q) : Secures Q (d.attempt >>= f) := by
  induction hd with
  | finished result => exact hf result
  | secure name done failed ih => exact done.elim
  | other noHandshake rest ih => exact .other noHandshake ih

theorem atStage {Q : Dialogue α → Prop} (stage : Stage) (hd : d.Secures P)
    (completed : ∀ rest, P rest → Q (rest.atStage stage)) : Secures Q (d.atStage stage) := by
  induction hd with
  | finished result => cases result <;> exact .finished _
  | secure name done failed ih => exact .secure name (completed _ done) ih
  | other noHandshake rest ih => exact .other noHandshake ih

end Secures

/-- What was said after a handshake are exchanges of what remained, if that is the last one. -/
theorem Secures.exchanges {P : Dialogue α → Prop} {d : Dialogue α} (h : d.Secures P)
    (once : ∀ rest, P rest → ∀ w xs name zs,
      rest.exchanges link patience limits w ≠ xs ++ ⟨.secure name, some (.ok ())⟩ :: zs)
    {xs zs : List Exchange} {name : String}
    (made : d.exchanges link patience limits w = xs ++ ⟨.secure name, some (.ok ())⟩ :: zs) :
    ∃ rest w', P rest ∧ zs = rest.exchanges link patience limits w' := by
  induction h generalizing w xs with
  | finished result =>
    rw [exchanges] at made
    exact absurd made.symm (List.append_ne_nil_of_right_ne_nil _ (List.cons_ne_nil _ _))
  | @secure name' next completed failed ih =>
    obtain ⟨rfl, same⟩ | ⟨answer, more, result, rfl, later⟩ := exchanges_split made
    · obtain ⟨sameName, same⟩ := Exchange.mk.inj same
      cases sameName
      have result : ((Request.secure name).perform link patience limits w).1.result? =
          some (.ok ()) := (eq_of_heq same).symm
      rw [List.nil_append, exchanges_answered result] at made
      exact ⟨_, _, completed, (List.cons.inj made).2.symm⟩
    · cases answer with
      | ok a => exact absurd later (once _ completed _ _ _ _)
      | error e => exact ih e later
  | @other r next noHandshake rest ih =>
    obtain ⟨rfl, same⟩ | ⟨answer, more, result, rfl, later⟩ := exchanges_split made
    · exact absurd (congrArg Exchange.request same).symm (noHandshake name)
    · exact ih answer later

theorem IsPlain.exchanges_ne {d : Dialogue α} (h : d.IsPlain) (xs : List Exchange) (name : String)
    (zs : List Exchange) :
    d.exchanges link patience limits w ≠ xs ++ ⟨.secure name, some (.ok ())⟩ :: zs := by
  intro made
  obtain ⟨_, _, impossible, -⟩ := Secures.exchanges h (fun _ => False.elim) made
  exact impossible

end Dialogue
end Outbox.Smtp
