import Outbox.Settings
import Outbox.Smtp.Wire

/-!
# Outbox.Means — what an attempt is made of

An attempt is written down once for every kind of act that offers the means for it: for
`Act`, which lets time pass and is carried out from its start to its end, and for acts of
which many take turns.

* `Means` is what an attempt needs.
* `SessionPool` is a pool of sessions, for any acts with these means.
-/

namespace Outbox

/-- What an attempt needs of the acts that it is made of. -/
class Means (m : Type → Type) [Monad m] where
  now : m Instant
  /-- Makes one undivided change to the stock at a place. -/
  change : {β : Type} → Nat → (Instant → Stock Smtp.Connection → β × Stock Smtp.Connection) → m β
  /-- Looks at the stock at a place again and again, until something is found. -/
  loop : Nat → m (Pool.Look Smtp.Connection) → m (Option Smtp.Connection)
  /-- Opens a session. -/
  connect : Smtp.Endpoint → m Smtp.Connection
  /-- Carries a dialogue out in a session. -/
  talk : {α : Type} → Smtp.Connection → Smtp.Dialogue α → m α
  /-- Lets an act go on until the context ends or a time is over. -/
  bounded : {α : Type} → Context → Option Instant → m α → m α
  /-- The result of an act, also if it fails. -/
  attempt : {α : Type} → m α → m (Result α)
  /-- A result as an act. -/
  ofResult : {α : Type} → Result α → m α

instance : Means Act where
  now := Act.now
  change slot f := Act.changing fun w =>
    let (b, stock) := f w.now (w.stocks slot)
    (b, { w with stocks := World.put w.stocks slot stock })
  -- A look that finds nothing leaves a shorter stock, so that there are never more looks.
  loop slot look := fun limits w =>
    Pool.Look.rounds (pure none) look ((w.stocks slot).idle.length + 1) limits w
  connect e := e.connect
  talk c d := d.on c
  bounded c deadline x := Act.under c (Act.until? deadline x)
  attempt := Act.attempt
  ofResult := Act.ofResult

/-! ## Pools of sessions -/

namespace SessionPool

variable {m : Type → Type} [Monad m] [Means m]

/-- How the sessions of a pool are opened, closed and probed, and where its stock is kept. -/
def keeper (p : SessionPool) : Keeper m Smtp.Connection where
  now := Means.now
  update f := Means.change p.slot fun _ => f
  stamp f := Means.change p.slot f
  loop := Means.loop p.slot
  create := some (Means.connect p.endpoint)
  close := some fun c => Means.attempt (Means.talk c Smtp.quit)
  probe := some fun c => do
    match ← Means.attempt (Means.talk c Smtp.noop) with
    | .ok () => pure true
    | .error _ => pure false

/-- Takes a session. -/
def acquire (p : SessionPool) : m (Option Smtp.Connection) := p.pool.acquire p.keeper

/-- Puts a session back. -/
def release (p : SessionPool) (c : Smtp.Connection) : m Unit := p.pool.release p.keeper c

/-- Gives a session up. -/
def discard (p : SessionPool) : m Unit := Pool.discard p.keeper

/-- Closes all sessions that are stored. -/
def drain (p : SessionPool) : m Unit := Pool.drain p.keeper

end SessionPool
end Outbox
