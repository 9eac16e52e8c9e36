import Outbox.Error
import Outbox.Time.Instant

/-!
# Outbox.Pool — connections kept for later use

A pool stores connections that are not in use, up to a number, and hands out the one that
was returned last. A connection that was idle for too long, or that a probe finds dead, is
closed instead. When none is left, a new one is made.

* `Stock` is the state of a pool. It changes only in the steps `pop`, `checkOut`, `putBack`,
  `writeOff` and `takeAll`, each of which is one undivided change.
* `Keeper` is what a pool needs from its surroundings: the time, a place for its stock, and
  the means to make, close and probe connections.
* `Pool.look` is one look at the stock, which hands out a connection or closes one.
* `Pool.acquire` looks until a connection is handed out or none is left. Together with
  `Pool.release`, `Pool.discard` and `Pool.drain` it is what the users of a pool call.
-/

namespace Outbox

/-! ## The stock -/

/-- A connection that is not in use, and when it was returned. -/
structure Shelved (C : Type) where
  connection : C
  since : Instant
deriving DecidableEq

/-- The state of a pool: the connections that are not in use, the one returned last
first, and the number of those in use. -/
structure Stock (C : Type) where
  idle : List (Shelved C)
  inUse : Nat
deriving DecidableEq

namespace Stock

variable {C : Type}

/-- The state of a new pool. -/
def empty : Stock C := ⟨[], 0⟩

/-- Takes out the connection that was returned last. -/
def pop (s : Stock C) : Option (Shelved C) × Stock C :=
  match s.idle with
  | [] => (none, s)
  | item :: rest => (some item, { s with idle := rest })

/-- Counts a connection that is handed out. -/
def checkOut (s : Stock C) : Unit × Stock C := ((), { s with inUse := s.inUse + 1 })

/-- Takes a connection back and stores it, unless `maxIdle` are stored: then it is to be
closed. -/
def putBack (maxIdle : Nat) (connection : C) (now : Instant) (s : Stock C) : Option C × Stock C :=
  let s := { s with inUse := s.inUse - 1 }
  if maxIdle ≤ s.idle.length then (some connection, s)
  else (none, { s with idle := ⟨connection, now⟩ :: s.idle })

/-- Counts a connection that will not come back. -/
def writeOff (s : Stock C) : Unit × Stock C := ((), { s with inUse := s.inUse - 1 })

/-- Takes out all connections that are stored, the one returned first at the front. -/
def takeAll (s : Stock C) : List (Shelved C) × Stock C := (s.idle.reverse, { s with idle := [] })

end Stock

/-! ## Looks -/

namespace Pool

/-- What comes of a look at the stock. -/
inductive Look (C : Type) where
  /-- This is handed out, if it is a connection. -/
  | found (connection : Option C)
  /-- A connection was closed, and others may be left. -/
  | again

/-- Looks `n` times at most, until something is found. What comes after that is left to `rest`. -/
def Look.rounds {m : Type → Type} [Monad m] {C : Type} (rest : m (Option C)) (look : m (Look C)) :
    Nat → m (Option C)
  | 0 => rest
  | n + 1 => do
    match ← look with
    | .found connection => pure connection
    | .again => rounds rest look n

end Pool

/-! ## Pools -/

/-- What a pool needs from its surroundings. -/
structure Keeper (m : Type → Type) [Monad m] (C : Type) where
  now : m Instant
  /-- Makes one undivided change to the stock. -/
  update : {β : Type} → (Stock C → β × Stock C) → m β
  /-- Makes one undivided change that needs to know when it is made. Where nothing happens
  in between, it is enough to look at the clock first. -/
  stamp : {β : Type} → (Instant → Stock C → β × Stock C) → m β := fun f => do
    let time ← now
    update (f time)
  /-- Looks again and again, until something is found. How often that is depends on who else
  uses the pool. -/
  loop : m (Pool.Look C) → m (Option C)
  /-- Makes a connection. -/
  create : Option (m C)
  /-- Closes a connection. -/
  close : Option (C → m (Result Unit))
  /-- Says whether a connection can still be used. -/
  probe : Option (C → m Bool)

/-- How many connections a pool stores and for how long. -/
structure Pool where
  maxIdle : Nat
  idleTtl : Duration
deriving DecidableEq

namespace Pool

/-- A pool. Zero stands for two connections and for thirty seconds. -/
def make (maxIdle : Nat) (idleTtl : Duration) : Pool :=
  ⟨if maxIdle = 0 then 2 else maxIdle, if idleTtl.isZero then .ofSeconds 30 else idleTtl⟩

variable {m : Type → Type} [Monad m] {C : Type}

/-- Closes a connection, if connections are to be closed. That it fails is of no consequence. -/
def close (k : Keeper m C) (connection : C) : m Unit :=
  match k.close with
  | some close => do
    let _ ← close connection
  | none => pure ()

/-- Whether a connection can be used, as far as is known. -/
def isHealthy (k : Keeper m C) (connection : C) : m Bool :=
  match k.probe with
  | some probe => probe connection
  | none => pure true

/-- Whether a stored connection may be handed out. One that is stored for too long is not
probed. -/
def isUsable (p : Pool) (k : Keeper m C) (item : Shelved C) : m Bool := do
  if (← k.now).since item.since ≤ p.idleTtl then isHealthy k item.connection else pure false

/-- Makes a connection and hands it out, if connections can be made. -/
def create (k : Keeper m C) : m (Option C) :=
  match k.create with
  | some create => do
    let connection ← create
    k.update Stock.checkOut
    pure (some connection)
  | none => pure none

/-- Looks at the connection that was returned last: it is handed out if it can be used, and
closed if not. If there is none, one is made. -/
def look (p : Pool) (k : Keeper m C) : m (Look C) := do
  match ← k.update Stock.pop with
  | none => return .found (← create k)
  | some item =>
    if ← p.isUsable k item then
      k.update Stock.checkOut
      return .found (some item.connection)
    else
      close k item.connection
      return .again

/-- Hands out a connection: looks at those that are stored, until one can be used or none is
left. -/
def acquire (p : Pool) (k : Keeper m C) : m (Option C) := k.loop (p.look k)

/-- Takes a connection back. -/
def release (p : Pool) (k : Keeper m C) (connection : C) : m Unit := do
  match ← k.stamp (Stock.putBack p.maxIdle connection) with
  | some rejected => close k rejected
  | none => pure ()

/-- Gives a connection up. -/
def discard (k : Keeper m C) : m Unit := k.update Stock.writeOff

/-- Closes all stored connections. -/
def drain (k : Keeper m C) : m Unit := do
  (← k.update Stock.takeAll).forM fun item => close k item.connection

end Pool
end Outbox
