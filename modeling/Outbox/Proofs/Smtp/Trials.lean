import Outbox.Proofs.Smtp.Course
import Outbox.Proofs.Smtp.Login

/-!
# Outbox.Proofs.Smtp.Trials — the mechanisms of a login

To log in the client asks for one mechanism after another, and each of them is an exchange of
challenges and responses of its own.

* `trials` is what somebody knows of a login who heard what was said: the mechanisms that were
  asked for, how many challenges of each were answered, and the last reply to each.
* `MayAsk` is what the client may ask next, and `MayEnd` what may come of it.
* `meets_authenticate` — `authenticate` keeps to both, whatever the server says.
-/

namespace Outbox.Smtp

/-! ## The lines of a login -/

/-- Octets in base64, as a text. -/
abbrev inBase64 (octets : Octets) : String := String.ofList (Base64.encodeText octets)

namespace Mechanism

variable {m m' : Mechanism} {credentials : Credentials} {challenge response : String}

/-- The text in which a client asks for a mechanism. With one of them it gives name and secret
at once. -/
def opening (credentials : Credentials) : Mechanism → String
  | plain => "AUTH PLAIN " ++
      inBase64 (0 :: Octets.ofString credentials.username ++
        0 :: Octets.ofString credentials.secret)
  | cramMd5 => "AUTH CRAM-MD5"
  | login => "AUTH LOGIN"

/-- The request in which a client asks for a mechanism. -/
abbrev opens (m : Mechanism) (credentials : Credentials) : Request :=
  .command (commandLine (m.opening credentials))

/-- No two mechanisms are asked for in the same line. -/
theorem opens_injective (h : m.opens credentials = m'.opens credentials) : m = m' := by
  -- The first letter of the name tells them apart.
  have same := congrArg (List.take 6) (toList_eq_of_commandLine_eq (Request.command.inj h))
  have letters : ∀ m : Mechanism, (m.opening credentials).toList.take 6 =
      match m with
      | plain => "AUTH P".toList
      | cramMd5 => "AUTH C".toList
      | login => "AUTH L".toList := by
    intro m
    cases m with
    | plain =>
      rw [opening, String.toList_append]
      rfl
    | cramMd5 => simp [opening]
    | login => simp [opening]
  rw [letters, letters] at same
  cases m <;> cases m' <;> first | rfl | exact absurd same (by decide)

/-- With each of them a login may begin. -/
theorem loginLine_opening (m : Mechanism) (credentials : Credentials) {c : Capabilities}
    (offers : c.offersLogin m.name) :
    LoginLine credentials c (commandLine (m.opening credentials)) := by
  cases m with
  | plain =>
    have responds : plain.respond credentials "" =
        .ok (inBase64 (0 :: Octets.ofString credentials.username ++
          0 :: Octets.ofString credentials.secret)) := rfl
    exact .begins offers responds
  | cramMd5 => exact LoginLine.opens (m := .cramMd5) offers nofun
  | login => exact LoginLine.opens (m := .login) offers nofun

/-- A response to a challenge is no request for a mechanism: there is no space in it. -/
theorem opens_ne_response (h : m.respond credentials challenge = .ok response) :
    m'.opens credentials ≠ .command (commandLine response) := by
  have hsymbol : ∀ s, s = Base64.pad ∨ (Base64.value? s).isSome = true →
      Char.ofNat s.toNat ≠ ' ' := Base64.forall_octet (by decide)
  intro same
  have same := toList_eq_of_commandLine_eq (Request.command.inj same)
  have space : ' ' ∈ (m'.opening credentials).toList := by
    cases m' with
    | plain => simp [opening]
    | cramMd5 => simp [opening]
    | login => simp [opening]
  obtain ⟨text, isText⟩ := respond_text h
  rw [same, isText] at space
  exact Base64.forall_mem_encodeText (P := (· ≠ ' ')) hsymbol _ ' ' space rfl

/-- A challenge that cannot be answered is not in base64, or asks for something unknown. -/
theorem respond_error {e : Error} (h : m.respond credentials challenge = .error e) :
    e = .base64 ∨ e = .challenge := by
  have decoded : ∀ e, decodeChallenge challenge = .error e → e = .base64 := by
    intro e failed
    unfold decodeChallenge at failed
    split at failed
    · cases failed
    · cases failed
      rfl
  have answer : m.answer credentials challenge = .error e := by
    rw [respond] at h
    cases result : m.answer credentials challenge with
    | ok octets =>
      rw [result] at h
      cases h
    | error e' =>
      rw [result] at h
      cases h
      rfl
  cases m with
  | plain => cases answer
  | login =>
    simp only [Mechanism.answer] at answer
    split at answer
    next e' failed =>
      cases answer
      exact .inl (decoded _ failed)
    next prompt _ =>
      split at answer
      · cases answer
      · split at answer <;> cases answer
        exact .inr rfl
  | cramMd5 =>
    simp only [Mechanism.answer] at answer
    split at answer
    next e' failed =>
      cases answer
      exact .inl (decoded _ failed)
    next => cases answer

/-- What LOGIN says to a prompt: the name, or the secret if that is what the prompt begins with. -/
theorem respond_login (h : login.respond credentials challenge = .ok response) :
    response = inBase64 (Octets.ofString credentials.username) ∨
      response = inBase64 (Octets.ofString credentials.secret) ∧
        ∃ prompt, decodeChallenge challenge = .ok prompt ∧
          "password".toList <+: Text.lower (Utf8.decode prompt) := by
  rw [respond, answer] at h
  cases decoded : decodeChallenge challenge with
  | error e =>
    rw [decoded] at h
    cases h
  | ok prompt =>
    rw [decoded] at h
    dsimp only at h
    split at h
    next =>
      cases h
      exact .inl rfl
    next =>
      split at h
      next asked =>
        cases h
        exact .inr ⟨rfl, prompt, rfl, List.isPrefixOf_iff_prefix.1 asked⟩
      next => cases h

end Mechanism

/-- To log in by a mechanism is to ask for it and to answer what follows. -/
theorem login_eq (m : Mechanism) (credentials : Credentials) :
    login m credentials = command (m.opening credentials) >>= exchange m credentials 3 := by
  cases m <;> rfl

/-! ## Trials -/

/-- The reply to a line. -/
def Exchange.reply? : Exchange → Option Reply
  | ⟨.command _, some (.ok reply)⟩ => some reply
  | _ => none

theorem Exchange.reply?_of_error {x : Exchange} {e : Error} (failed : x.answer = some (.error e)) :
    x.reply? = none := by
  obtain ⟨r, _ | error | answer⟩ := x
  · cases failed
  · cases r <;> rfl
  · cases failed

theorem Exchange.isAnswered_of_reply {x : Exchange} {reply : Reply}
    (heard : x.reply? = some reply) : x.IsAnswered := by
  obtain ⟨r, _ | error | answer⟩ := x
  · cases r <;> cases heard
  · cases r <;> cases heard
  · exact ⟨answer, rfl⟩

/-- The mechanism that a line asks for. -/
def Exchange.opens? (credentials : Credentials) (x : Exchange) : Option Mechanism :=
  Mechanism.preference.find? fun m => x.request = m.opens credentials

/-- A mechanism that was asked for. -/
structure Trial where
  mechanism : Mechanism
  /-- How many challenges were answered. -/
  answered : Nat
  /-- What the server said to the last line of it. -/
  heard : Option Reply

namespace Trial

/-- The last reply is a challenge, and it will be answered. -/
structure Challenged (t : Trial) (reply : Reply) : Prop where
  heard : t.heard = some reply
  isChallenge : reply.code = challengeCode
  answered : t.answered < 3

/-- The last reply grants the login. -/
structure Granted (t : Trial) (reply : Reply) : Prop where
  heard : t.heard = some reply
  isGrant : reply.code = grantedCode
  answered : t.answered < 3

/-- The last reply is the final one, and it is taken for a refusal. What is said after three
responses always is. -/
structure Refused (t : Trial) (reply : Reply) : Prop where
  heard : t.heard = some reply
  isRefusal : reply.code = challengeCode ∨ reply.code = grantedCode → t.answered = 3

/-- The mechanism did not work, but the credentials were not called wrong. -/
def Passed (t : Trial) : Prop := ∃ reply, t.Refused reply ∧ reply.code ≠ refusedCode

variable {t : Trial} {reply reply' : Reply}

theorem Refused.not_challenged (h : t.Refused reply) : ¬ t.Challenged reply' := by
  intro challenged
  obtain rfl := Option.some.inj (h.heard.symm.trans challenged.heard)
  exact absurd (h.isRefusal (.inl challenged.isChallenge)) (Nat.ne_of_lt challenged.answered)

theorem Refused.not_granted (h : t.Refused reply) : ¬ t.Granted reply' := by
  intro granted
  obtain rfl := Option.some.inj (h.heard.symm.trans granted.heard)
  exact absurd (h.isRefusal (.inr granted.isGrant)) (Nat.ne_of_lt granted.answered)

theorem Challenged.not_granted (h : t.Challenged reply) : ¬ t.Granted reply' := by
  intro granted
  obtain rfl := Option.some.inj (h.heard.symm.trans granted.heard)
  exact absurd (h.isChallenge.symm.trans granted.isGrant) (by decide)

end Trial

/-- The mechanisms that were tried, the last one first, after one more exchange. -/
def trialsAfter (credentials : Credentials) (tried : List Trial) (x : Exchange) : List Trial :=
  match x.opens? credentials with
  | some m => ⟨m, 0, x.reply?⟩ :: tried
  | none =>
    match tried with
    | [] => []
    | t :: earlier => ⟨t.mechanism, t.answered + 1, x.reply?⟩ :: earlier

/-- The mechanisms that were tried in these exchanges, the last one first. -/
def trials (credentials : Credentials) (xs : List Exchange) : List Trial :=
  xs.foldl (trialsAfter credentials) []

/-- The mechanisms that were asked for, in order. -/
def started (credentials : Credentials) (xs : List Exchange) : List Mechanism :=
  ((trials credentials xs).map Trial.mechanism).reverse

section

variable {credentials : Credentials} {xs : List Exchange}

theorem Mechanism.mem_preference (m : Mechanism) : m ∈ preference := by
  cases m <;> decide

theorem Exchange.opens?_opens (m : Mechanism)
    (answer : Option (Result (m.opens credentials).Answer)) :
    Exchange.opens? credentials ⟨m.opens credentials, answer⟩ = some m := by
  cases found : Exchange.opens? credentials ⟨m.opens credentials, answer⟩ with
  | none => exact absurd (List.find?_eq_none.1 found m m.mem_preference) (by simp)
  | some m' =>
    have same := List.find?_some found
    rw [Mechanism.opens_injective (of_decide_eq_true same)]

theorem Exchange.opens?_response {m : Mechanism} {challenge response : String}
    (responds : m.respond credentials challenge = .ok response)
    (answer : Option (Result (Request.command (commandLine response)).Answer)) :
    Exchange.opens? credentials ⟨.command (commandLine response), answer⟩ = none := by
  apply List.find?_eq_none.2
  intro m' _ same
  exact Mechanism.opens_ne_response responds (of_decide_eq_true same).symm

theorem trials_append (xs : List Exchange) (x : Exchange) :
    trials credentials (xs ++ [x]) = trialsAfter credentials (trials credentials xs) x := by
  rw [trials, List.foldl_append]
  rfl

theorem trials_opens (m : Mechanism) (answer : Option (Result (m.opens credentials).Answer)) :
    trials credentials (xs ++ [⟨m.opens credentials, answer⟩]) =
      ⟨m, 0, Exchange.reply? ⟨m.opens credentials, answer⟩⟩ :: trials credentials xs := by
  rw [trials_append]
  unfold trialsAfter
  rw [Exchange.opens?_opens]

theorem trials_response {m : Mechanism} {challenge response : String}
    (responds : m.respond credentials challenge = .ok response)
    (answer : Option (Result (Request.command (commandLine response)).Answer)) {t : Trial}
    {earlier : List Trial} (tried : trials credentials xs = t :: earlier) :
    trials credentials (xs ++ [⟨.command (commandLine response), answer⟩]) =
      ⟨t.mechanism, t.answered + 1,
        Exchange.reply? ⟨.command (commandLine response), answer⟩⟩ :: earlier := by
  rw [trials_append, tried]
  unfold trialsAfter
  rw [Exchange.opens?_response responds]

end

/-! ## Rules -/

/-- The mechanisms that client and server both know, the strongest first. -/
def wanted (c : Capabilities) : List Mechanism :=
  Mechanism.preference.filter fun m => c.offersLogin m.name

theorem nodup_wanted (c : Capabilities) : (wanted c).Nodup :=
  have distinct : Mechanism.preference.Nodup := by decide
  distinct.sublist List.filter_sublist

/-- What a client may ask in a login after these exchanges. -/
inductive MayAsk (credentials : Credentials) (c : Capabilities) (xs : List Exchange) :
    Request → Prop where
  /-- The next mechanism, if those before did not work. -/
  | opens {m : Mechanism} (passed : ∀ t ∈ trials credentials xs, t.Passed)
      (next : started credentials xs ++ [m] <+: wanted c) :
      MayAsk credentials c xs (m.opens credentials)
  /-- The response to the challenge that was heard. -/
  | responds {t : Trial} {earlier : List Trial} {reply : Reply} {response : String}
      (tried : trials credentials xs = t :: earlier) (challenged : t.Challenged reply)
      (responds : t.mechanism.respond credentials reply.text = .ok response) :
      MayAsk credentials c xs (.command (commandLine response))

/-- What may come of a login after these exchanges. -/
inductive MayEnd (credentials : Credentials) (c : Capabilities) :
    List Exchange → Result Unit → Prop where
  /-- There was no reply to the last line. -/
  | broken (xs : List Exchange) (line : Octets) {e : Error} (ofLink : e.OfLink) :
      MayEnd credentials c (xs ++ [⟨.command line, some (.error e)⟩]) (.error e)
  /-- There is no response to the challenge. -/
  | unanswerable {xs : List Exchange} {t : Trial} {earlier : List Trial} {reply : Reply}
      {e : Error} (tried : trials credentials xs = t :: earlier) (challenged : t.Challenged reply)
      (unanswerable : t.mechanism.respond credentials reply.text = .error e) :
      MayEnd credentials c xs (.error e)
  | granted {xs : List Exchange} {t : Trial} {earlier : List Trial} {reply : Reply}
      (tried : trials credentials xs = t :: earlier) (granted : t.Granted reply) :
      MayEnd credentials c xs (.ok ())
  /-- The credentials are wrong, or nothing is left to try. -/
  | refused {xs : List Exchange} {t : Trial} {earlier : List Trial} {reply : Reply}
      (tried : trials credentials xs = t :: earlier) (refused : t.Refused reply)
      (last : reply.code = refusedCode ∨ started credentials xs = wanted c) :
      MayEnd credentials c xs (.error (.authenticationFailed reply))
  | unsupported (unwanted : wanted c = []) :
      MayEnd credentials c [] (.error .unsupportedMechanism)

/-- What may come of one mechanism. -/
inductive MayLeave (credentials : Credentials) (m : Mechanism) (earlier : List Trial) :
    List Exchange → Result Unit → Prop where
  | broken (xs : List Exchange) (line : Octets) {e : Error} (ofLink : e.OfLink) :
      MayLeave credentials m earlier (xs ++ [⟨.command line, some (.error e)⟩]) (.error e)
  | unanswerable {xs : List Exchange} {n : Nat} {reply : Reply} {e : Error}
      (tried : trials credentials xs = ⟨m, n, some reply⟩ :: earlier)
      (challenged : Trial.Challenged ⟨m, n, some reply⟩ reply)
      (unanswerable : m.respond credentials reply.text = .error e) :
      MayLeave credentials m earlier xs (.error e)
  | granted {xs : List Exchange} {n : Nat} {reply : Reply}
      (tried : trials credentials xs = ⟨m, n, some reply⟩ :: earlier)
      (granted : Trial.Granted ⟨m, n, some reply⟩ reply) :
      MayLeave credentials m earlier xs (.ok ())
  | refused {xs : List Exchange} {n : Nat} {reply : Reply}
      (tried : trials credentials xs = ⟨m, n, some reply⟩ :: earlier)
      (refused : Trial.Refused ⟨m, n, some reply⟩ reply) :
      MayLeave credentials m earlier xs (.error (.unexpectedReply reply))

section Meets

variable {credentials : Credentials} {c : Capabilities} {m : Mechanism} {before : List Exchange}

/-- A line that may be said: if there is a reply to it, something else may follow. -/
theorem meets_command {earlier : List Trial} {text : String} {f : Reply → Dialogue Unit}
    (asks : MayAsk credentials c before (.command (commandLine text)))
    (next : ∀ reply, (f reply).Meets (MayAsk credentials c) (MayLeave credentials m earlier)
      (before ++ [⟨.command (commandLine text), some (.ok reply)⟩])) :
    Dialogue.Meets (MayAsk credentials c) (MayLeave credentials m earlier)
      (command text >>= f) before := by
  refine ⟨asks, fun answer fails => ?_⟩
  cases answer with
  | ok reply => exact next reply
  | error e =>
    cases fails e rfl with
    | link _ ofLink => exact .broken before _ ofLink

theorem meets_exchange {earlier : List Trial} {n : Nat} (rounds : Nat) (count : n + rounds = 3)
    (reply : Reply) (tried : trials credentials before = ⟨m, n, some reply⟩ :: earlier) :
    (exchange m credentials rounds reply).Meets (MayAsk credentials c)
      (MayLeave credentials m earlier) before := by
  -- By induction on the challenges that may still be answered.
  induction rounds generalizing n reply before with
  | zero => exact .refused tried ⟨rfl, fun _ => count⟩
  | succ rounds ih =>
    have early : n < 3 := by omega
    rw [exchange]
    split
    next isChallenge =>
      have challenged : Trial.Challenged ⟨m, n, some reply⟩ reply := ⟨rfl, isChallenge, early⟩
      cases responds : m.respond credentials reply.text with
      | error e => exact .unanswerable tried challenged responds
      | ok response =>
        refine meets_command (.responds tried challenged responds) fun next => ?_
        have count : n + 1 + rounds = 3 := by omega
        exact ih count next (trials_response responds _ tried)
    next notChallenge =>
      split
      next isGrant => exact .granted tried ⟨rfl, isGrant, early⟩
      next notGrant =>
        refine .refused tried ⟨rfl, ?_⟩
        rintro (isChallenge | isGrant)
        · exact absurd isChallenge notChallenge
        · exact absurd isGrant notGrant

theorem meets_login (asks : MayAsk credentials c before (m.opens credentials)) :
    (login m credentials).Meets (MayAsk credentials c)
      (MayLeave credentials m (trials credentials before)) before := by
  rw [login_eq]
  refine meets_command asks fun reply => ?_
  exact meets_exchange 3 rfl reply (trials_opens m _)

/-- Nothing is being tried: no mechanism was asked for yet, or the last one was refused. -/
inductive Between (credentials : Credentials) : Option Reply → List Exchange → Prop where
  | start : Between credentials none []
  | refused {xs : List Exchange} {t : Trial} {earlier : List Trial} {reply : Reply}
      (tried : trials credentials xs = t :: earlier)
      (refused : t.Refused reply) : Between credentials (some reply) xs

theorem meets_loginByAny (mechanisms : List Mechanism) (last : Option Reply)
    (left : started credentials before ++ mechanisms = wanted c)
    (passed : ∀ t ∈ trials credentials before, t.Passed)
    (between : Between credentials last before) :
    (loginByAny credentials last mechanisms).Meets (MayAsk credentials c)
      (MayEnd credentials c) before := by
  -- By induction on the mechanisms that are left.
  induction mechanisms generalizing last before with
  | nil =>
    rw [List.append_nil] at left
    cases between with
    | start => exact .unsupported left.symm
    | refused tried refused => exact .refused tried refused (.inr left)
  | cons m rest ih =>
    have isNext : started credentials before ++ [m] <+: wanted c := by
      rw [← left]
      exact ⟨rest, by rw [List.append_assoc, List.singleton_append]⟩
    refine .attempt_bind (meets_login (.opens passed isNext)) ?_
    intro xs result leaves
    -- Only an unexpected reply is caught: everything else is what comes of the login.
    cases leaves with
    | broken xs line ofLink => cases ofLink <;> exact .broken xs line (by constructor)
    | unanswerable tried challenged unanswerable =>
      obtain rfl | rfl := Mechanism.respond_error unanswerable
      · exact .unanswerable tried challenged unanswerable
      · exact .unanswerable tried challenged unanswerable
    | granted tried granted => exact .granted tried granted
    | @refused xs n reply tried isRefused =>
      dsimp only
      split
      next isFinal => exact .refused tried isRefused (.inl isFinal)
      next notFinal =>
        -- The mechanism counts as tried now, and no longer as left.
        refine ih (some reply) ?_ ?_ (.refused tried isRefused)
        · rw [← left, started, tried, List.map_cons, List.reverse_cons, List.append_assoc]
          rfl
        · rw [tried]
          exact List.forall_mem_cons.2 ⟨⟨reply, isRefused, notFinal⟩, passed⟩

theorem meets_authenticate (credentials : Credentials) (c : Capabilities) :
    (authenticate c credentials).Meets (MayAsk credentials c) (MayEnd credentials c) [] :=
  meets_loginByAny _ none rfl (fun _ mem => absurd mem List.not_mem_nil) .start

end Meets

end Outbox.Smtp
