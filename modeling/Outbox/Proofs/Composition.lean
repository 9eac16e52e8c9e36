import Outbox.Proofs.Act

/-!
# Outbox.Proofs.Composition — what acts have from their parts

Some properties an act has as soon as its parts have them, whatever the parts do and with whatever
they fail. It is enough to say once how an attempt is put together.

* `Act.Compositional` — a rule for each way to build an act.
* `Act.Compositional.run`, `Act.Compositional.connect`, `Act.Compositional.attemptBy` — such a
  property holds of dialogues, of opening a session and of a whole attempt.
* `Act.InRange` — no time is needed that the clock has no room for. This is such a property: timers
  that are out of range are put far away.
-/

namespace Outbox
namespace Act

variable {α β : Type} {x : Act α} {f : α → Act β} {limits : List Limit} {w : World}

/-- A property that an act has if its parts have it. -/
structure Compositional (P : (α : Type) → Act α → Prop) : Prop where
  changing : ∀ {α : Type} (g : World → α × World), P α (Act.changing g)
  fail : ∀ {α : Type} (e : Error), P α (Act.fail e)
  bind : ∀ {α β : Type} {x : Act α} {f : α → Act β}, P α x → (∀ a, P β (f a)) → P β (x >>= f)
  sleep : ∀ d, P Unit (Act.sleep d)
  hang : ∀ {α : Type}, P α Act.hang
  attempt : ∀ {α : Type} {x : Act α}, P α x → P (Result α) x.attempt
  limited : ∀ {α : Type} {x : Act α} (limit : Limit), P α x → P α (Act.limited limit x)

namespace Compositional

variable {P : (α : Type) → Act α → Prop} (h : Compositional P)
include h

theorem pure (a : α) : P α (Pure.pure a) := h.changing fun w => (a, w)

theorem world : P World Act.world := h.changing fun w => (w, w)

theorem now : P Instant Act.now := h.changing fun w => (w.now, w)

theorem change (g : World → World) : P Unit (Act.change g) := h.changing fun w => ((), g w)

theorem closed : Closed (fun _ => True) P where
  ofLink _ := trivial
  fail _ := h.fail _
  pure := h.pure
  bind := h.bind
  world := h.world
  sleep := h.sleep
  hang := h.hang
  leave _ _ := h.change _

theorem ofResult (result : Result α) : P α (Act.ofResult result) :=
  h.closed.ofResult fun _ _ => trivial

/-! ## Limits -/

theorem within (d : Duration) (hx : P α x) : P α (Act.within d x) :=
  h.bind h.now fun _ => h.limited _ hx

theorem until? (due : Option Instant) (hx : P α x) : P α (Act.until? due x) := by
  cases due with
  | some due => exact h.limited _ hx
  | none => exact hx

theorem under (c : Context) (hx : P α x) : P α (Act.under c x) := by
  refine h.bind (h.bind h.world fun _ => h.pure _) fun failure => ?_
  cases failure with
  | some e => exact h.fail e
  | none => exact h.limited _ hx

theorem atStage (stage : Smtp.Stage) (hx : P α x) : P α (x.atStage stage) := by
  refine h.bind (h.attempt hx) fun result => ?_
  cases result with
  | ok a => exact h.pure a
  | error e => exact h.fail _

/-! ## Requests and dialogues -/

theorem write (link : Nat) (octets : Octets) : P Unit (Act.write link octets) := by
  refine h.bind h.world fun w => ?_
  cases w.links[link]? with
  | none => exact h.fail _
  | some l => exact h.bind (h.change _) fun _ => h.ofResult _

theorem dial : P Nat Act.dial := by
  refine h.bind h.world fun w => ?_
  rcases w.dials with _ | ⟨_ | e | _, rest⟩
  · exact h.fail _
  · exact h.bind (h.change _) fun _ => h.pure _
  · exact h.bind (h.change _) fun _ => h.fail _
  · exact h.bind (h.change _) fun _ => h.hang

theorem perform (link : Nat) (patience : Duration) (r : Smtp.Request) :
    P r.Answer (r.perform link patience) := by
  -- Only the greeting has no time of its own.
  cases r with
  | listen => exact h.closed.reply _
  | command line => exact h.within _ (h.bind (h.write _ _) fun _ => h.closed.reply _)
  | message text => exact h.within _ (h.bind (h.write _ _) fun _ => h.closed.reply _)
  | hello host =>
    exact h.within _ (h.bind (h.write _ _) fun _ => h.closed.ehlo host (fun _ => trivial) _)
  | secure server => exact h.within _ (h.closed.secure server (fun _ => trivial) _)

theorem run (link : Nat) (patience : Duration) (d : Smtp.Dialogue α) :
    P α (d.run link patience) := by
  induction d with
  | finished result => exact h.ofResult result
  | ask r next ih => exact h.bind (h.attempt (h.perform link patience r)) ih

theorem connect (e : Smtp.Endpoint) : P Smtp.Connection e.connect :=
  h.within _ (h.bind (h.atStage _ h.dial) fun _ => h.bind (h.run _ _ e.setUp) fun _ => h.pure _)

/-! ## Pools -/

section

variable (p : SessionPool)

theorem stamp (g : Instant → Stock Smtp.Connection → β × Stock Smtp.Connection) :
    P β (p.keeper.stamp g) :=
  h.changing fun w =>
    ((g w.now (w.stocks p.slot)).1,
      { w with stocks := World.put w.stocks p.slot (g w.now (w.stocks p.slot)).2 })

theorem update (g : Stock Smtp.Connection → β × Stock Smtp.Connection) :
    P β (p.keeper.update g) := h.stamp p fun _ => g

theorem close (c : Smtp.Connection) : P Unit (Pool.close p.keeper c) :=
  h.bind (h.attempt (h.run _ _ _)) fun _ => h.pure _

theorem isUsable (item : Shelved Smtp.Connection) : P Bool (p.pool.isUsable p.keeper item) := by
  refine h.bind h.now fun time => ?_
  split
  · refine h.bind (h.attempt (h.run _ _ _)) fun result => ?_
    cases result with
    | ok _ => exact h.pure _
    | error _ => exact h.pure _
  · exact h.pure _

theorem create : P (Option Smtp.Connection) (Pool.create p.keeper) :=
  h.bind (h.connect _) fun _ => h.bind (h.update p _) fun _ => h.pure _

theorem look : P (Pool.Look Smtp.Connection) (p.pool.look p.keeper) := by
  refine h.bind (h.update p _) fun taken => ?_
  cases taken with
  | none => exact h.bind (h.create p) fun _ => h.pure _
  | some item =>
    refine h.bind (h.isUsable p item) fun usable => ?_
    cases usable with
    | true => exact h.bind (h.update p _) fun _ => h.pure _
    | false => exact h.bind (h.close p _) fun _ => h.pure _

theorem rounds (n : Nat) : P (Option Smtp.Connection)
    (Pool.Look.rounds (Pure.pure none) (p.pool.look p.keeper) n) := by
  -- By induction on the looks that are left.
  induction n with
  | zero => exact h.pure none
  | succ n ih =>
    refine h.bind (h.look p) fun found => ?_
    cases found with
    | found c => exact h.pure c
    | again => exact ih

theorem acquire : P (Option Smtp.Connection) p.acquire :=
  h.bind (h.changing fun w => ((w.stocks p.slot).idle.length, w)) fun n => h.rounds p (n + 1)

theorem release (c : Smtp.Connection) : P Unit (p.release c) := by
  refine h.bind (h.stamp p _) fun rejected => ?_
  cases rejected with
  | some rejected => exact h.close p rejected
  | none => exact h.pure _

end

/-! ## Attempts -/

theorem bounded (c : Context) (deadline : Option Instant) (hx : P α x) :
    P α (Means.bounded c deadline x) := h.under c (h.until? deadline hx)

theorem leave (s : Mailer.Prepared) (result : Result Unit) : P Unit (Mailer.leave s result) := by
  rcases s with ⟨session, _ | p⟩
  · cases result with
    | ok _ => exact h.bind (h.attempt (h.run _ _ _)) fun _ => h.pure _
    | error e => exact h.pure _
  · cases result with
    | ok _ => exact h.release p session
    | error e => exact h.update p _

theorem deliver (c : Context) (deadline : Option Instant) (e : Envelope) (s : Mailer.Prepared) :
    P Unit (Mailer.deliver c deadline e s) :=
  h.bind (h.attempt (h.bounded c deadline (h.run _ _ _))) fun result =>
    h.bind (h.leave s result) fun _ => h.ofResult result

theorem openSession (m : Mailer) (c : Context) (deadline : Option Instant) :
    P Mailer.Prepared (m.openSession c deadline) :=
  h.bind (h.bounded c deadline (h.connect _)) fun _ => h.pure _

theorem prepareSession (m : Mailer) (c : Context) (deadline : Option Instant)
    (pool : Option SessionPool) : P Mailer.Prepared (m.prepareSession c deadline pool) := by
  cases pool with
  | none => exact h.openSession m c deadline
  | some p =>
    refine h.bind (h.bounded c deadline (h.acquire p)) fun session => ?_
    cases session with
    | some session => exact h.pure _
    | none => exact h.openSession m c deadline

theorem attemptBy (m : Mailer) (c : Context) (deadline : Option Instant)
    (pool : Option SessionPool) (e : Envelope) : P Unit (m.attemptBy c deadline pool e) :=
  h.bind (h.prepareSession m c deadline pool) fun s => h.deliver c deadline e s

end Compositional

/-! ## Times that are out of range -/

/-- An act that needs no time that the clock has no room for. -/
def InRange (x : Act α) : Prop := ∀ limits w, (x limits w).1 ≠ .overflow

namespace InRange

theorem bind_ne_overflow (hx : (x limits w).1 ≠ .overflow) (hf : ∀ a, InRange (f a)) :
    ((x >>= f) limits w).1 ≠ .overflow := by
  rcases bind_cases x f limits w with ⟨a, -, run⟩ | ⟨stopped, -⟩
  · rw [run]
    exact hf a limits _
  · intro overflow
    rw [overflow] at stopped
    exact hx stopped.eq_overflow

theorem bind (hx : InRange x) (hf : ∀ a, InRange (f a)) : InRange (x >>= f) :=
  fun limits w => bind_ne_overflow (hx limits w) hf

theorem wait (due : Option Instant) : InRange (Act.wait due) := by
  intro limits w
  unfold Act.wait
  split
  · exact nofun
  next e _ =>
    dsimp only
    cases e.cutBy <;> exact nofun

theorem compositional : Compositional fun _ x => InRange x where
  changing _ _ _ := nofun
  fail _ _ _ := nofun
  bind := .bind
  sleep _ := .bind (fun _ _ => nofun) fun _ => .wait _
  hang := .bind (.wait none) fun _ _ _ => nofun
  attempt hx limits w overflow := hx limits w (attempt_overflow.1 overflow)
  limited limit hx limits w overflow :=
    hx _ w ((limited_overflow limit _ limits w).1 overflow)

end InRange

end Act
end Outbox
