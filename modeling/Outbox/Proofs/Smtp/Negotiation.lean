import Mathlib.Data.List.Induction
import Outbox.Proofs.Smtp.Trials

/-!
# Outbox.Proofs.Smtp.Negotiation — which login is tried, and when

What follows from the rules of a login for all that is said in it.

* `Spoken` — each line keeps to the rules. Then mechanisms are tried in a fixed order, one after
  another, and nothing follows a line that was not replied to.
* `IsLogin` — beyond that, the result keeps to the rules.
* `authenticate_negotiates` — what this means for the server and for the user (`Negotiation`).
-/

namespace Outbox.Smtp

/-! ## What is said -/

/-- The last reply, if there was one to the last line. -/
def lastReply (xs : List Exchange) : Option Reply := xs.getLast?.bind Exchange.reply?

/-- Each line is one that may be said after those before it. -/
def Spoken (credentials : Credentials) (c : Capabilities) (xs : List Exchange) : Prop :=
  ∀ first x rest, xs = first ++ x :: rest → MayAsk credentials c first x.request

/-- What is said in a login, and what comes of it if it has a result. -/
structure IsLogin (credentials : Credentials) (c : Capabilities) (xs : List Exchange)
    (result? : Option (Result Unit)) : Prop where
  spoken : Spoken credentials c xs
  ended : ∀ result, result? = some result → MayEnd credentials c xs result
  /-- Where there is no result, the last line was cut short. -/
  unfinished : result? = none → ∃ first r, xs = first ++ [⟨r, none⟩]

/-- What is known while a mechanism is tried. -/
structure Trying (credentials : Credentials) (c : Capabilities) (xs : List Exchange) (t : Trial)
    (earlier : List Trial) : Prop where
  tried : trials credentials xs = t :: earlier
  heard : t.heard = lastReply xs
  order : started credentials xs <+: wanted c
  answered : ∀ t' ∈ t :: earlier, t'.answered ≤ 3
  /-- None of those before is open. -/
  passed : ∀ t' ∈ earlier, t'.Passed

section Said

variable {credentials : Credentials} {c : Capabilities} {xs : List Exchange}

theorem lastReply_append (xs : List Exchange) (x : Exchange) :
    lastReply (xs ++ [x]) = x.reply? := by
  rw [lastReply, List.getLast?_concat, Option.bind_some]

theorem lastReply_eq_some {reply : Reply} (heard : lastReply xs = some reply) :
    ∃ first x, xs = first ++ [x] ∧ x.reply? = some reply := by
  rcases List.eq_nil_or_concat xs with rfl | ⟨first, x, rfl⟩
  · cases heard
  · rw [List.concat_eq_append, lastReply_append] at heard
    exact ⟨first, x, List.concat_eq_append, heard⟩

/-- With a line that may be said a mechanism is being tried, if one was tried before or none. -/
theorem MayAsk.trying {x : Exchange} (asks : MayAsk credentials c xs x.request)
    (before : xs = [] ∨ ∃ t earlier, Trying credentials c xs t earlier) :
    ∃ t earlier, Trying credentials c (xs ++ [x]) t earlier := by
  have bounded : ∀ t ∈ trials credentials xs, t.answered ≤ 3 := by
    obtain rfl | ⟨t, earlier, trying⟩ := before
    · exact fun _ mem => absurd mem List.not_mem_nil
    · rw [trying.tried]
      exact trying.answered
  obtain ⟨r, answer⟩ := x
  cases asks with
  | @opens m passed next =>
    have tried : trials credentials (xs ++ [⟨m.opens credentials, answer⟩]) = _ :=
      trials_opens m answer
    refine ⟨_, _, tried, (lastReply_append xs _).symm, ?_, ?_, passed⟩
    · rwa [started, tried, List.map_cons, List.reverse_cons]
    · exact List.forall_mem_cons.2 ⟨Nat.zero_le _, bounded⟩
  | @responds t earlier reply response tried challenged responds =>
    -- The same mechanism is tried, with one more response.
    obtain rfl | ⟨t', earlier', trying⟩ := before
    · cases tried
    · obtain ⟨rfl, rfl⟩ := List.cons.inj (tried.symm.trans trying.tried)
      have tried' := trials_response responds answer tried
      refine ⟨_, _, tried', (lastReply_append xs _).symm, ?_, ?_, trying.passed⟩
      · have order := trying.order
        rw [started, tried] at order
        rwa [started, tried']
      · refine List.forall_mem_cons.2 ⟨?_, (List.forall_mem_cons.1 trying.answered).2⟩
        exact challenged.answered

namespace Spoken

variable {first rest : List Exchange} {x : Exchange}

theorem left (h : Spoken credentials c (first ++ rest)) : Spoken credentials c first := by
  rintro before x more rfl
  exact h before x (more ++ rest) (by simp)

theorem through (h : Spoken credentials c (first ++ x :: rest)) :
    Spoken credentials c (first ++ [x] ++ rest) := by
  rw [List.append_assoc, List.singleton_append]
  exact h

theorem append (h : Spoken credentials c xs) (asks : MayAsk credentials c xs x.request) :
    Spoken credentials c (xs ++ [x]) := by
  intro first y rest same
  rcases List.eq_nil_or_concat rest with rfl | ⟨rest, z, rfl⟩
  · obtain ⟨rfl, isLast⟩ := List.append_inj' same rfl
    obtain rfl := List.singleton_inj.1 isLast
    exact asks
  · rw [List.concat_eq_append, ← List.cons_append, ← List.append_assoc] at same
    exact h first y rest (List.append_inj' same rfl).1

/-- Once something was said, a mechanism is being tried. -/
theorem trying (h : Spoken credentials c xs) :
    xs = [] ∨ ∃ t earlier, Trying credentials c xs t earlier := by
  induction xs using List.reverseRecOn with
  | nil => exact .inl rfl
  | append_singleton xs x ih => exact .inr ((h xs x [] rfl).trying (ih h.left))

theorem heard (h : Spoken credentials c xs) {t : Trial} {earlier : List Trial}
    (tried : trials credentials xs = t :: earlier) : t.heard = lastReply xs := by
  obtain rfl | ⟨t', earlier', trying⟩ := h.trying
  · cases tried
  · obtain ⟨rfl, -⟩ := List.cons.inj (tried.symm.trans trying.tried)
    exact trying.heard

theorem order (h : Spoken credentials c xs) : started credentials xs <+: wanted c := by
  obtain rfl | ⟨t, earlier, trying⟩ := h.trying
  · exact List.nil_prefix
  · exact trying.order

theorem answered (h : Spoken credentials c xs) : ∀ t ∈ trials credentials xs, t.answered ≤ 3 := by
  obtain rfl | ⟨t, earlier, trying⟩ := h.trying
  · exact fun _ mem => absurd mem List.not_mem_nil
  · rw [trying.tried]
    exact trying.answered

/-- Where nothing may be said, nothing follows. -/
theorem eq_nil (h : Spoken credentials c (first ++ rest))
    (silent : ∀ r, ¬ MayAsk credentials c first r) : rest = [] := by
  cases rest with
  | nil => rfl
  | cons y more => exact absurd (h first y more rfl) (silent _)

/-- Something follows a line only if there was a reply to it. -/
theorem reply_of_asks (h : Spoken credentials c (first ++ [x])) {r : Request}
    (asks : MayAsk credentials c (first ++ [x]) r) : ∃ reply, x.reply? = some reply := by
  obtain empty | ⟨t, earlier, trying⟩ := h.trying
  · exact absurd empty (List.append_ne_nil_of_right_ne_nil _ (List.cons_ne_nil _ _))
  · rw [← lastReply_append first x, ← trying.heard]
    cases asks with
    | opens passed next =>
      obtain ⟨reply, refused, -⟩ := passed t (by rw [trying.tried]; exact .head _)
      exact ⟨reply, refused.heard⟩
    | responds tried challenged responds =>
      obtain ⟨rfl, -⟩ := List.cons.inj (tried.symm.trans trying.tried)
      exact ⟨_, challenged.heard⟩

/-- What may be said is a line of a login. -/
theorem loginLine (h : Spoken credentials c xs) {r : Request} (asks : MayAsk credentials c xs r) :
    ∃ line, r = .command line ∧ LoginLine credentials c line := by
  cases asks with
  | @opens m passed next =>
    have offers : c.offersLogin m.name := by
      have isWanted : m ∈ wanted c := next.subset (List.mem_append_right _ (.head _))
      exact (List.mem_filter.1 isWanted).2
    exact ⟨_, rfl, m.loginLine_opening credentials offers⟩
  | @responds t earlier reply response tried challenged responds =>
    have isStarted : t.mechanism ∈ started credentials xs := by
      rw [started, tried]
      exact List.mem_reverse.2 (.head _)
    have offers := (List.mem_filter.1 (h.order.subset isStarted)).2
    exact ⟨_, rfl, .answers offers responds⟩

/-- There was a reply to every line but the last. -/
theorem isAnswered (h : Spoken credentials c xs) : ∀ x ∈ xs.dropLast, x.IsAnswered := by
  rcases List.eq_nil_or_concat xs with rfl | ⟨init, last, rfl⟩
  · exact nofun
  · rw [List.concat_eq_append] at h ⊢
    rw [List.dropLast_concat]
    intro x mem
    obtain ⟨first, rest, rfl⟩ := List.append_of_mem mem
    obtain ⟨y, more, later⟩ := List.exists_cons_of_ne_nil
      (List.append_ne_nil_of_right_ne_nil rest (List.cons_ne_nil last []))
    rw [List.append_assoc, List.cons_append, later, ← List.singleton_append,
      ← List.append_assoc] at h
    obtain ⟨reply, heard⟩ := h.left.reply_of_asks (h _ y more rfl)
    exact Exchange.isAnswered_of_reply heard

end Spoken

namespace IsLogin

variable {result? : Option (Result Unit)} {first rest : List Exchange} {x : Exchange}

/-- Where the last line was not cut short, there is a result. -/
theorem result_of_answered (h : IsLogin credentials c xs result?)
    (answered : ∀ first r, xs ≠ first ++ [⟨r, none⟩]) :
    ∃ result, result? = some result ∧ MayEnd credentials c xs result := by
  rcases result? with _ | result
  · obtain ⟨first, r, same⟩ := h.unfinished rfl
    exact absurd same (answered first r)
  · exact ⟨result, rfl, h.ended result rfl⟩

/-- A line without a reply is the last one, and its error is the result. -/
theorem broken (h : IsLogin credentials c (first ++ x :: rest) result?) {e : Error}
    (failed : x.answer = some (.error e)) : rest = [] ∧ result? = some (.error e) := by
  have noReply := Exchange.reply?_of_error failed
  have isLast : rest = [] := by
    refine h.spoken.through.eq_nil fun r asks => ?_
    obtain ⟨reply, heard⟩ := h.spoken.through.left.reply_of_asks asks
    rw [noReply] at heard
    cases heard
  subst isLast
  have silent : lastReply (first ++ [x]) = none := (lastReply_append first x).trans noReply
  have answered : ∀ first' r, first ++ [x] ≠ first' ++ [⟨r, none⟩] := by
    intro first' r same
    obtain rfl := List.singleton_inj.1 (List.append_inj' same rfl).2
    cases failed
  obtain ⟨result, rfl, ends⟩ := h.result_of_answered answered
  refine ⟨rfl, ?_⟩
  -- Everything else that may come of it needs a reply to the last line.
  have unheard : ∀ {t earlier reply}, trials credentials (first ++ [x]) = t :: earlier →
      t.heard ≠ some reply := by
    intro t earlier reply tried heard
    rw [h.spoken.heard tried, silent] at heard
    cases heard
  generalize same : first ++ [x] = ys at ends unheard
  cases ends with
  | broken xs line ofLink =>
    obtain rfl := List.singleton_inj.1 (List.append_inj' same rfl).2
    cases failed
    rfl
  | unanswerable tried challenged unanswerable => exact absurd challenged.heard (unheard tried)
  | granted tried granted => exact absurd granted.heard (unheard tried)
  | refused tried refused last => exact absurd refused.heard (unheard tried)
  | unsupported unwanted =>
    exact absurd same (List.append_ne_nil_of_right_ne_nil _ (List.cons_ne_nil _ _))

/-- A reply to the last line decides the result. -/
theorem result_of_heard (h : IsLogin credentials c xs result?) {t : Trial} {earlier : List Trial}
    {reply : Reply} (tried : trials credentials xs = t :: earlier)
    (heard : t.heard = some reply) :
    (t.Challenged reply ∧ ∃ e, t.mechanism.respond credentials reply.text = .error e ∧
        result? = some (.error e)) ∨
      (t.Granted reply ∧ result? = some (.ok ())) ∨
      t.Refused reply ∧ result? = some (.error (.authenticationFailed reply)) := by
  have last : lastReply xs = some reply := (h.spoken.heard tried).symm.trans heard
  obtain ⟨result, rfl, ends⟩ := h.result_of_answered (by
    rintro first' r rfl
    rw [lastReply_append] at last
    cases r <;> cases last)
  have same : ∀ {t' earlier'}, trials credentials xs = t' :: earlier' → t' = t :=
    fun tried' => (List.cons.inj (tried'.symm.trans tried)).1
  cases ends with
  | broken first line ofLink =>
    rw [lastReply_append] at last
    cases last
  | unanswerable tried' challenged unanswerable =>
    obtain rfl := same tried'
    obtain rfl := Option.some.inj (heard.symm.trans challenged.heard)
    exact .inl ⟨challenged, _, unanswerable, rfl⟩
  | granted tried' granted =>
    obtain rfl := same tried'
    obtain rfl := Option.some.inj (heard.symm.trans granted.heard)
    exact .inr (.inl ⟨granted, rfl⟩)
  | refused tried' refused last =>
    obtain rfl := same tried'
    obtain rfl := Option.some.inj (heard.symm.trans refused.heard)
    exact .inr (.inr ⟨refused, rfl⟩)
  | unsupported unwanted => cases tried

/-- Nothing follows a challenge that cannot be answered, and its error is the result. -/
theorem unanswerable (h : IsLogin credentials c (first ++ rest) result?) {t : Trial}
    {earlier : List Trial} {reply : Reply} {e : Error}
    (tried : trials credentials first = t :: earlier) (challenged : t.Challenged reply)
    (unanswerable : t.mechanism.respond credentials reply.text = .error e) :
    rest = [] ∧ result? = some (.error e) := by
  have isLast : rest = [] := by
    refine h.spoken.eq_nil fun r asks => ?_
    cases asks with
    | opens passed next =>
      obtain ⟨reply', refused, -⟩ := passed t (by rw [tried]; exact .head _)
      exact refused.not_challenged challenged
    | responds tried' challenged' responds =>
      obtain ⟨rfl, -⟩ := List.cons.inj (tried.symm.trans tried')
      obtain rfl := Option.some.inj (challenged.heard.symm.trans challenged'.heard)
      rw [unanswerable] at responds
      cases responds
  subst isLast
  rw [List.append_nil] at h
  refine ⟨rfl, ?_⟩
  obtain ⟨-, e', same, result⟩ | ⟨granted, -⟩ | ⟨refused, -⟩ :=
    h.result_of_heard tried challenged.heard
  · rw [unanswerable] at same
    cases same
    exact result
  · exact absurd granted challenged.not_granted
  · exact absurd challenged refused.not_challenged

end IsLogin

theorem isLogin_authenticate (credentials : Credentials) (c : Capabilities) (link : Nat)
    (patience : Duration) (limits : List Limit) (w : World) :
    IsLogin credentials c ((authenticate c credentials).exchanges link patience limits w)
      ((authenticate c credentials).run link patience limits w).1.result? where
  spoken _ _ _ made := (meets_authenticate credentials c).asked made
  ended _ finished := (meets_authenticate credentials c).ended finished
  unfinished noResult := Dialogue.unfinished noResult

/-! ## The negotiation -/

/-- Of two members of a list without repetitions, the one that comes before another is in the part
before it. -/
theorem mem_of_pair_sublist {α : Type} {a b : α} {first rest : List α}
    (distinct : (first ++ b :: rest).Nodup) (h : [a, b].Sublist (first ++ b :: rest)) :
    a ∈ first := by
  obtain ⟨-, later, -⟩ := List.nodup_append.1 distinct
  have unique : b ∉ rest := (List.nodup_cons.1 later).1
  -- If nothing of the pair were in the first part, both would be in the second one, and `b` again
  -- after its beginning.
  obtain ⟨part, others, same, inFirst, inRest⟩ := List.sublist_append_iff.1 h
  cases part with
  | nil =>
    obtain rfl : [a, b] = others := same
    exact absurd (List.singleton_sublist.1 inRest.of_cons_cons) unique
  | cons a' part =>
    obtain ⟨rfl, -⟩ := List.cons.inj same
    exact inFirst.subset (.head _)

namespace IsLogin

variable {result? : Option (Result Unit)} {first rest : List Exchange} {x : Exchange}

theorem earlier (h : IsLogin credentials c (first ++ x :: rest) result?) {m m' : Mechanism}
    (opens : x.opens? credentials = some m) (before : [m', m].Sublist Mechanism.preference)
    (offers : c.offersLogin m'.name) :
    ∃ t ∈ trials credentials first, t.mechanism = m' ∧ t.Passed := by
  have asks := h.spoken first x rest rfl
  obtain ⟨r, answer⟩ := x
  cases asks with
  | @opens m₀ passed next =>
    obtain rfl := Option.some.inj ((Exchange.opens?_opens m₀ answer).symm.trans opens)
    -- Those that were tried and the one that is next are the first ones that are wanted. In that
    -- order `m'` comes before it, and so it was tried.
    obtain ⟨more, isWanted⟩ := next
    rw [List.append_assoc, List.singleton_append] at isWanted
    have isMember : m₀ ∈ wanted c := by
      rw [← isWanted]
      exact List.mem_append_right _ (.head _)
    have pair : [m', m₀].Sublist (wanted c) := by
      have kept := before.filter fun m => c.offersLogin m.name
      rwa [List.filter_eq_self.2] at kept
      refine List.forall_mem_cons.2 ⟨offers, List.forall_mem_singleton.2 ?_⟩
      exact (List.mem_filter.1 isMember).2
    have distinct := nodup_wanted c
    rw [← isWanted] at pair distinct
    obtain ⟨t, mem, rfl⟩ := List.mem_map.1 (List.mem_reverse.1 (mem_of_pair_sublist distinct pair))
    exact ⟨t, mem, rfl, passed t mem⟩
  | responds tried challenged responds =>
    rw [Exchange.opens?_response responds] at opens
    cases opens

theorem failed (h : IsLogin credentials c xs (some (.error e))) :
    (∃ first x, xs = first ++ [x] ∧ x.answer = some (.error e)) ∨
      (∃ t earlier reply, trials credentials xs = t :: earlier ∧ t.Challenged reply ∧
        t.mechanism.respond credentials reply.text = .error e) ∨
      (started credentials xs ≠ [] ∧ ∃ reply, lastReply xs = some reply ∧
        e = .authenticationFailed reply ∧
          (reply.code = refusedCode ∨
            ∀ m, c.offersLogin m.name → m ∈ started credentials xs)) ∨
      started credentials xs = [] ∧ e = .unsupportedMechanism := by
  have ends := h.ended (.error e) rfl
  cases ends with
  | broken first line ofLink => exact .inl ⟨first, _, rfl, rfl⟩
  | unanswerable tried challenged unanswerable =>
    exact .inr (.inl ⟨_, _, _, tried, challenged, unanswerable⟩)
  | @refused _ t earlier reply tried refused last =>
    have heard := (h.spoken.heard tried).symm.trans refused.heard
    refine .inr (.inr (.inl ⟨?_, reply, heard, rfl, last.imp_right fun all m offers => ?_⟩))
    · rw [started, tried, List.map_cons, List.reverse_cons]
      exact List.append_ne_nil_of_right_ne_nil _ (List.cons_ne_nil _ _)
    · rw [all]
      exact List.mem_filter.2 ⟨m.mem_preference, offers⟩
  | unsupported unwanted => exact .inr (.inr (.inr ⟨rfl, rfl⟩))

theorem unsupported (h : IsLogin credentials c xs result?) :
    result? = some (.error .unsupportedMechanism) ↔ wanted c = [] := by
  constructor
  · intro result
    have ends := h.ended _ result
    cases ends with
    | broken first line ofLink => cases ofLink
    | unanswerable tried challenged unanswerable =>
      obtain same | same := Mechanism.respond_error unanswerable <;> cases same
    | unsupported unwanted => exact unwanted
  · intro unwanted
    -- Nothing may be said, and so nothing was said.
    have spoken : Spoken credentials c ([] ++ xs) := h.spoken
    have silent : xs = [] := by
      refine spoken.eq_nil fun r asks => ?_
      cases asks with
      | opens passed next =>
        rw [unwanted] at next
        exact absurd (List.prefix_nil.1 next) (List.cons_ne_nil _ _)
      | responds tried challenged responds => cases tried
    subst silent
    obtain ⟨result, rfl, ends⟩ := h.result_of_answered fun first r same =>
      absurd same.symm (List.append_ne_nil_of_right_ne_nil _ (List.cons_ne_nil _ _))
    generalize same : ([] : List Exchange) = ys at ends
    cases ends with
    | broken first line ofLink =>
      exact absurd same.symm (List.append_ne_nil_of_right_ne_nil _ (List.cons_ne_nil _ _))
    | unanswerable tried challenged unanswerable =>
      subst same
      cases tried
    | granted tried granted =>
      subst same
      cases tried
    | refused tried refused last =>
      subst same
      cases tried
    | unsupported unwanted => rfl

/-- What is said under LOGIN, and what was heard before the secret is said. -/
theorem secret (h : IsLogin credentials c (first ++ x :: rest) result?) {t : Trial}
    {earlier : List Trial} (tried : trials credentials (first ++ [x]) = t :: earlier)
    (isLogin : t.mechanism = .login) :
    x.request = .command (commandLine "AUTH LOGIN") ∨
      x.request = .command (commandLine (inBase64 (Octets.ofString credentials.username))) ∨
      x.request = .command (commandLine (inBase64 (Octets.ofString credentials.secret))) ∧
        ∃ reply prompt, lastReply first = some reply ∧ reply.code = challengeCode ∧
          Mechanism.decodeChallenge reply.text = .ok prompt ∧
          "password".toList <+: Text.lower (Utf8.decode prompt) := by
  have asks := h.spoken first x rest rfl
  obtain ⟨r, answer⟩ := x
  cases asks with
  | @opens m passed next =>
    obtain ⟨rfl, -⟩ := List.cons.inj ((trials_opens m answer).symm.trans tried)
    obtain rfl : m = .login := isLogin
    exact .inl rfl
  | @responds t' earlier' reply response tried' challenged responds =>
    obtain ⟨rfl, -⟩ := List.cons.inj ((trials_response responds answer tried').symm.trans tried)
    obtain isLogin : t'.mechanism = .login := isLogin
    rw [isLogin] at responds
    obtain rfl | ⟨rfl, prompt, decoded, asked⟩ := Mechanism.respond_login responds
    · exact .inr (.inl rfl)
    · refine .inr (.inr ⟨rfl, reply, prompt, ?_, challenged.isChallenge, decoded, asked⟩)
      exact (h.spoken.left.heard tried').symm.trans challenged.heard

end IsLogin

/-- A login as somebody sees it who hears what is said. -/
structure Negotiation (credentials : Credentials) (c : Capabilities) (xs : List Exchange)
    (result? : Option (Result Unit)) : Prop where
  /-- Each line asks for a mechanism or answers the challenge before it. -/
  asked : ∀ first x rest, xs = first ++ x :: rest → MayAsk credentials c first x.request
  distinct : (started credentials xs).Nodup
  advertised : ∀ m ∈ started credentials xs, c.offersLogin m.name
  inOrder : (started credentials xs).Sublist [.cramMd5, .login, .plain]
  /-- Before a mechanism is asked for, those that come first were tried. Each of them ended in a
  reply that did not call the credentials wrong. -/
  earlier : ∀ first x rest m m', xs = first ++ x :: rest → x.opens? credentials = some m →
    [m', m].Sublist [.cramMd5, .login, .plain] → c.offersLogin m'.name →
      ∃ t ∈ trials credentials first, t.mechanism = m' ∧ t.Passed
  answered : ∀ t ∈ trials credentials xs, t.answered ≤ 3
  /-- A link that fails and a time that is over end it. -/
  broken : ∀ first x rest e, xs = first ++ x :: rest → x.answer = some (.error e) →
    rest = [] ∧ result? = some (.error e)
  /-- A challenge that cannot be answered ends it. -/
  unanswerable : ∀ first rest t earlier reply e, xs = first ++ rest →
    trials credentials first = t :: earlier → t.Challenged reply →
      t.mechanism.respond credentials reply.text = .error e → rest = [] ∧ result? = some (.error e)
  /-- Otherwise it failed with the last reply, because the credentials are wrong or nothing is left
  to try, or nothing was tried. -/
  failed : ∀ e, result? = some (.error e) →
    (∃ first x, xs = first ++ [x] ∧ x.answer = some (.error e)) ∨
      (∃ t earlier reply, trials credentials xs = t :: earlier ∧ t.Challenged reply ∧
        t.mechanism.respond credentials reply.text = .error e) ∨
      (started credentials xs ≠ [] ∧ ∃ reply, lastReply xs = some reply ∧
        e = .authenticationFailed reply ∧
          (reply.code = refusedCode ∨
            ∀ m, c.offersLogin m.name → m ∈ started credentials xs)) ∨
      started credentials xs = [] ∧ e = .unsupportedMechanism
  unsupported : result? = some (.error .unsupportedMechanism) ↔
    ∀ m ∈ [Mechanism.cramMd5, .login, .plain], c.offersLogin m.name = false
  /-- Under LOGIN the secret is said only to a prompt that asks for it. -/
  secret : ∀ first x rest t earlier, xs = first ++ x :: rest →
    trials credentials (first ++ [x]) = t :: earlier → t.mechanism = .login →
      x.request = .command (commandLine "AUTH LOGIN") ∨
        x.request = .command (commandLine (inBase64 (Octets.ofString credentials.username))) ∨
        x.request = .command (commandLine (inBase64 (Octets.ofString credentials.secret))) ∧
          ∃ reply prompt, lastReply first = some reply ∧ reply.code = challengeCode ∧
            Mechanism.decodeChallenge reply.text = .ok prompt ∧
            "password".toList <+: Text.lower (Utf8.decode prompt)

theorem IsLogin.negotiation {result? : Option (Result Unit)}
    (h : IsLogin credentials c xs result?) : Negotiation credentials c xs result? where
  asked := h.spoken
  distinct := (nodup_wanted c).sublist h.spoken.order.sublist
  advertised m mem := (List.mem_filter.1 (h.spoken.order.subset mem)).2
  inOrder := h.spoken.order.sublist.trans List.filter_sublist
  earlier first x rest m m' := by
    rintro rfl opens before offers
    exact h.earlier opens before offers
  answered := h.spoken.answered
  broken first x rest e := by
    rintro rfl failed
    exact h.broken failed
  unanswerable first rest t earlier reply e := by
    rintro rfl tried challenged unanswerable
    exact h.unanswerable tried challenged unanswerable
  failed e := by
    rintro rfl
    exact h.failed
  unsupported := by
    rw [h.unsupported, wanted, List.filter_eq_nil_iff]
    simp [Mechanism.preference]
  secret first x rest t earlier := by
    rintro rfl tried isLogin
    exact h.secret tried isLogin

/-- How a login goes, whatever the server says: what is asked and when, what comes of it, and that
nothing else is written. Without limits around it there is a result. -/
theorem authenticate_negotiates (credentials : Credentials) (c : Capabilities) (link : Nat)
    (patience : Duration) (limits : List Limit) (w : World) :
    Negotiation credentials c ((authenticate c credentials).exchanges link patience limits w)
        ((authenticate c credentials).run link patience limits w).1.result? ∧
      (∃ octets,
        Written ((authenticate c credentials).exchanges link patience limits w) octets ∧
          ((authenticate c credentials).run link patience limits w).2.sent =
            w.sent.modify link (· ++ octets)) ∧
      ∃ result, ((authenticate c credentials).run link patience [] w).1.result? = some result := by
  have isLogin := isLogin_authenticate credentials c link patience limits w
  refine ⟨isLogin.negotiation, ?_, ?_⟩
  · exact (Dialogue.exchanged _ w).written isLogin.spoken.isAnswered
  · refine (meets_authenticate credentials c).returns ?_
    intro xs r asks
    cases asks <;> exact ⟨_, rfl⟩

end Said
end Outbox.Smtp
