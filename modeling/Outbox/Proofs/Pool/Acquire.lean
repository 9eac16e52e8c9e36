import Outbox.Proofs.Pool.System
import Outbox.Proofs.Time

/-!
# Outbox.Proofs.Pool.Acquire — which connection is handed out

A pool whose users come one after another, and what becomes of each stored connection when one of
them acquires a connection.

* `Surroundings` are a clock that does not go back, and functions that make, close and probe
  connections, of which each may take its time and do anything else, but to use the pool.
* `Reached` are the scenes that operations lead to. In each of them the stored connections are in
  the order in which they were returned (`Reached.inOrder`).
* `acquire_unrolls` — whoever acquires a connection looks again as long as nothing is found.
* `Acquires` — from the one that was returned last on, connections that are too old or dead are
  closed, until one is handed out or none is left.
* `acquire_keepsPolicy` — what this means for the pool.
-/

namespace Outbox.Pool

variable {E C α β : Type}

/-! ## Surroundings -/

/-- What a pool is used in. -/
structure Surroundings (E C : Type) where
  now : E → Instant
  create : Option (E → Result C × E)
  close : Option (C → E → Result Unit × E)
  probe : Option (C → E → Bool × E)
  le_create : ∀ f ∈ create, ∀ e, now e ≤ now (f e).2
  le_close : ∀ f ∈ close, ∀ c e, now e ≤ now (f c e).2
  le_probe : ∀ f ∈ probe, ∀ c e, now e ≤ now (f c e).2

/-- A pool in its surroundings, and what was done to connections so far. -/
structure Scene (E C : Type) where
  surroundings : E
  stock : Stock C
  /-- What was handed to the function that closes connections. -/
  closed : List C
  /-- What was handed to the function that probes them. -/
  probed : List C

/-- Something that is done from its beginning to its end. -/
def Doing (E C α : Type) : Type := Scene E C → Result α × Scene E C

namespace Doing

instance : Monad (Doing E C) where
  pure a x := (.ok a, x)
  bind d f x :=
    match d x with
    | (.ok a, y) => f a y
    | (.error e, y) => (.error e, y)

variable {d : Doing E C α} {f : α → Doing E C β} {x y : Scene E C}

theorem bind_ok {a : α} (h : d x = (.ok a, y)) : (d >>= f) x = f a y := by
  simp only [bind, h]

theorem bind_error {e : Error} (h : d x = (.error e, y)) : (d >>= f) x = (.error e, y) := by
  simp only [bind, h]

/-- What follows matters only for what was done before. -/
theorem bind_congr {g : α → Doing E C β} (h : ∀ a y, d x = (.ok a, y) → f a y = g a y) :
    (d >>= f) x = (d >>= g) x := by
  rcases run : d x with ⟨e | a, y⟩
  · rw [bind_error run, bind_error run]
  · rw [bind_ok run, bind_ok run, h a y run]

/-- Something that does not touch the pool. -/
def outside (f : E → Result α × E) : Doing E C α := fun x =>
  ((f x.surroundings).1, { x with surroundings := (f x.surroundings).2 })

theorem outside_run {f : E → Result α × E} {result : Result α} {e : E}
    (h : f x.surroundings = (result, e)) :
    outside f x = (result, { x with surroundings := e }) := by
  simp only [outside, h]

end Doing

namespace Surroundings

variable (s : Surroundings E C)

/-- What a pool needs, as it is found in these surroundings. -/
def keeper : Keeper (Doing E C) C where
  now x := (.ok (s.now x.surroundings), x)
  update f x := (.ok (f x.stock).1, { x with stock := (f x.stock).2 })
  loop look x := Look.rounds (pure none) look (x.stock.idle.length + 1) x
  create := s.create.map Doing.outside
  close := s.close.map fun close c x =>
    (.ok (close c x.surroundings).1, { x with
      surroundings := (close c x.surroundings).2
      closed := x.closed ++ [c] })
  probe := s.probe.map fun probe c x =>
    (.ok (probe c x.surroundings).1, { x with
      surroundings := (probe c x.surroundings).2
      probed := x.probed ++ [c] })

/-- The surroundings after a connection was closed. -/
def shut (c : C) (e : E) : E :=
  match s.close with
  | some close => (close c e).2
  | none => e

/-- What a probe says, and the surroundings after it. -/
def check (c : C) (e : E) : Bool × E :=
  match s.probe with
  | some probe => probe c e
  | none => (true, e)

/-- What is handed to the function that closes connections, if there is one. -/
def handed (items : List (Shelved C)) : List C :=
  if s.close.isSome then items.map (·.connection) else []

/-- What is handed to the function that probes them, if there is one. -/
def asked (c : C) : List C := if s.probe.isSome then [c] else []

/-- A connection was idle for more than a time. -/
def IsStale (ttl : Duration) (e : E) (item : Shelved C) : Prop :=
  ttl < (s.now e).since item.since

theorem le_shut (c : C) (e : E) : s.now e ≤ s.now (s.shut c e) := by
  unfold shut
  split
  next close known => exact s.le_close close known c e
  next => exact Nat.le_refl _

theorem le_check (c : C) (e : E) : s.now e ≤ s.now (s.check c e).2 := by
  unfold check
  split
  next probe known => exact s.le_probe probe known c e
  next => exact Nat.le_refl _

theorem handed_nil : s.handed [] = [] := ite_self _

theorem handed_cons (item : Shelved C) (items : List (Shelved C)) :
    s.handed (item :: items) = s.handed [item] ++ s.handed items := by
  unfold handed
  split <;> rfl

variable {s}

theorem not_isStale {ttl : Duration} {e : E} {item : Shelved C} :
    ¬ s.IsStale ttl e item ↔ (s.now e).since item.since ≤ ttl := Nat.not_lt

/-- What is too old stays so, and what was returned before it is too old as well. -/
theorem IsStale.mono {ttl : Duration} {e e' : E} {item other : Shelved C}
    (h : s.IsStale ttl e item) (later : s.now e ≤ s.now e') (older : other.since ≤ item.since) :
    s.IsStale ttl e' other := by
  refine Nat.lt_of_lt_of_le h ?_
  rw [Instant.nanos_since, Instant.nanos_since]
  exact min_le_min_right _ (tsub_le_tsub later older)

end Surroundings

/-! ## Looks -/

section Look

variable {s : Surroundings E C} {p : Pool} {x : Scene E C} {item : Shelved C}
  {rest : List (Shelved C)}

theorem close_run (s : Surroundings E C) (c : C) (x : Scene E C) :
    close s.keeper c x =
      (.ok (), { x with
        surroundings := s.shut c x.surroundings
        closed := x.closed ++ if s.close.isSome then [c] else [] }) := by
  cases known : s.close with
  | none =>
    simp only [close, Surroundings.keeper, Surroundings.shut, known,
      Option.isSome_none]
    rw [if_neg Bool.false_ne_true, List.append_nil]
    rfl
  | some close =>
    simp only [Pool.close, Surroundings.keeper, Surroundings.shut, known,
      Option.isSome_some]
    rfl

theorem isHealthy_run (s : Surroundings E C) (c : C) (x : Scene E C) :
    isHealthy s.keeper c x =
      (.ok (s.check c x.surroundings).1, { x with
        surroundings := (s.check c x.surroundings).2
        probed := x.probed ++ s.asked c }) := by
  cases known : s.probe with
  | none =>
    simp only [isHealthy, Surroundings.keeper, Surroundings.check, Surroundings.asked, known,
      Option.isSome_none]
    rw [if_neg Bool.false_ne_true, List.append_nil]
    rfl
  | some probe =>
    simp only [isHealthy, Surroundings.keeper, Surroundings.check, Surroundings.asked, known,
      Option.isSome_some]
    rfl

/-- The scene after the connection returned last was taken out. -/
abbrev Scene.popped (x : Scene E C) (rest : List (Shelved C)) : Scene E C :=
  { x with stock := ⟨rest, x.stock.inUse⟩ }

theorem isUsable_stale (stale : s.IsStale p.idleTtl x.surroundings item) :
    p.isUsable s.keeper item x = (.ok false, x) := by
  have time : s.keeper.now x = (.ok (s.now x.surroundings), x) := rfl
  rw [isUsable, Doing.bind_ok time, if_neg fun le => Surroundings.not_isStale.2 le stale]
  rfl

theorem isUsable_fresh (fresh : ¬ s.IsStale p.idleTtl x.surroundings item) :
    p.isUsable s.keeper item x = isHealthy s.keeper item.connection x := by
  have time : s.keeper.now x = (.ok (s.now x.surroundings), x) := rfl
  rw [isUsable, Doing.bind_ok time, if_pos (Surroundings.not_isStale.1 fresh)]

/-- A connection that cannot be used is closed. -/
theorem look_unusable (idle : x.stock.idle = item :: rest) {y : Scene E C}
    (unusable : p.isUsable s.keeper item (x.popped rest) = (.ok false, y)) :
    p.look s.keeper x = (.ok .again, (close s.keeper item.connection y).2) := by
  have popped : s.keeper.update Stock.pop x = (.ok (some item), x.popped rest) := by
    simp only [Surroundings.keeper, Stock.pop, idle]
  rw [look, Doing.bind_ok popped]
  dsimp only
  rw [Doing.bind_ok unusable, if_neg Bool.false_ne_true, Doing.bind_ok (close_run s _ y), close_run]
  rfl

/-- A connection that can be used is handed out. -/
theorem look_usable (idle : x.stock.idle = item :: rest) {y : Scene E C}
    (usable : p.isUsable s.keeper item (x.popped rest) = (.ok true, y)) :
    p.look s.keeper x =
      (.ok (.found (some item.connection)), { y with stock := y.stock.checkOut.2 }) := by
  have popped : s.keeper.update Stock.pop x = (.ok (some item), x.popped rest) := by
    simp only [Surroundings.keeper, Stock.pop, idle]
  rw [look, Doing.bind_ok popped]
  dsimp only
  rw [Doing.bind_ok usable, if_pos rfl]
  rfl

end Look

/-! ## One call -/

/-- These connections are found too old or dead and closed, one after another. Those that are too
old are not probed. -/
inductive Surroundings.Rejects (s : Surroundings E C) (ttl : Duration) :
    E → List (Shelved C) → List C → E → Prop where
  | nil (e : E) : Rejects s ttl e [] [] e
  | stale {e e' : E} {item : Shelved C} {items : List (Shelved C)} {probed : List C}
      (stale : s.IsStale ttl e item)
      (rest : Rejects s ttl (s.shut item.connection e) items probed e') :
      Rejects s ttl e (item :: items) probed e'
  | dead {e e₁ e' : E} {item : Shelved C} {items : List (Shelved C)} {probed : List C}
      (fresh : ¬ s.IsStale ttl e item) (dead : s.check item.connection e = (false, e₁))
      (rest : Rejects s ttl (s.shut item.connection e₁) items probed e') :
      Rejects s ttl e (item :: items) (s.asked item.connection ++ probed) e'

/-- What comes of making a connection, and how many more are in use then. -/
inductive Surroundings.Makes (s : Surroundings E C) (e : E) :
    Result (Option C) → Nat → E → Prop where
  | made {create : E → Result C × E} {c : C} {e' : E} (known : s.create = some create)
      (made : create e = (.ok c, e')) : Makes s e (.ok (some c)) 1 e'
  | failed {create : E → Result C × E} {error : Error} {e' : E} (known : s.create = some create)
      (failed : create e = (.error error, e')) : Makes s e (.error error) 0 e'
  | unknown (unknown : s.create = none) : Makes s e (.ok none) 0 e

/-- What comes of a call that acquires a connection, and which connections are rejected in it. -/
inductive Acquires (s : Surroundings E C) (ttl : Duration) (x : Scene E C) :
    List (Shelved C) → Result (Option C) → Scene E C → Prop where
  /-- The first one that is neither too old nor dead is handed out. -/
  | reused {rejected older : List (Shelved C)} {item : Shelved C} {probed : List C} {e e' : E}
      (idle : x.stock.idle = rejected ++ item :: older)
      (rejects : s.Rejects ttl x.surroundings rejected probed e)
      (fresh : ¬ s.IsStale ttl e item) (healthy : s.check item.connection e = (true, e')) :
      Acquires s ttl x rejected (.ok (some item.connection))
        ⟨e', ⟨older, x.stock.inUse + 1⟩, x.closed ++ s.handed rejected,
          x.probed ++ (probed ++ s.asked item.connection)⟩
  /-- There is none, and one is made. -/
  | exhausted {rejected : List (Shelved C)} {result : Result (Option C)} {probed : List C}
      {e e' : E} {more : Nat} (idle : x.stock.idle = rejected)
      (rejects : s.Rejects ttl x.surroundings rejected probed e)
      (makes : s.Makes e result more e') :
      Acquires s ttl x rejected result
        ⟨e', ⟨[], x.stock.inUse + more⟩, x.closed ++ s.handed rejected, x.probed ++ probed⟩

section Acquire

variable {s : Surroundings E C} {p : Pool} {ttl : Duration} {x y : Scene E C} {e e' : E}
  {item : Shelved C} {rest rejected : List (Shelved C)} {result : Result (Option C)}

/-- A look at a connection that is stored rejects it or hands it out. -/
theorem look_cases (p : Pool) (s : Surroundings E C) (stored : x.stock.idle = item :: rest) :
    (∃ e asked,
      (∀ {items probed e'}, s.Rejects p.idleTtl (s.shut item.connection e) items probed e' →
        s.Rejects p.idleTtl x.surroundings (item :: items) (asked ++ probed) e') ∧
      p.look s.keeper x = (.ok .again, ⟨s.shut item.connection e, ⟨rest, x.stock.inUse⟩,
        x.closed ++ s.handed [item], x.probed ++ asked⟩)) ∨
    ∃ e, ¬ s.IsStale p.idleTtl x.surroundings item ∧
      s.check item.connection x.surroundings = (true, e) ∧
      p.look s.keeper x = (.ok (.found (some item.connection)),
        ⟨e, ⟨rest, x.stock.inUse + 1⟩, x.closed, x.probed ++ s.asked item.connection⟩) := by
  -- Either it is too old, or the probe finds it dead, or it is handed out.
  by_cases stale : s.IsStale p.idleTtl x.surroundings item
  · have look := look_unusable stored (isUsable_stale (x := x.popped rest) stale)
    rw [close_run] at look
    refine .inl ⟨x.surroundings, [], fun later => .stale stale later, ?_⟩
    rw [look, List.append_nil]
    rfl
  · have examined := isUsable_fresh (p := p) (x := x.popped rest) stale
    rw [isHealthy_run] at examined
    rcases checked : s.check item.connection x.surroundings with ⟨healthy, e⟩
    rw [checked] at examined
    cases healthy with
    | false =>
      have look := look_unusable stored examined
      rw [close_run] at look
      exact .inl ⟨e, _, fun later => .dead stale checked later, look⟩
    | true => exact .inr ⟨e, stale, rfl, look_usable stored examined⟩

/-- Where nothing is stored, a look finds what is made. -/
theorem look_nil (p : Pool) (s : Surroundings E C) (empty : x.stock.idle = []) :
    p.look s.keeper x = (create s.keeper >>= fun c => pure (.found c)) x := by
  have popped : s.keeper.update Stock.pop x = (.ok none, x) := by
    simp only [Surroundings.keeper, Stock.pop, empty]
  rw [Pool.look, Doing.bind_ok popped]

/-- A look that finds nothing leaves one connection less in stock. -/
theorem look_again (look : p.look s.keeper x = (.ok .again, y)) :
    x.stock.idle.length = y.stock.idle.length + 1 := by
  cases stored : x.stock.idle with
  | nil =>
    rw [look_nil p s stored] at look
    rcases made : create s.keeper x with ⟨error | c, y⟩
    · rw [Doing.bind_error made] at look
      cases look
    · rw [Doing.bind_ok made] at look
      cases look
  | cons item rest =>
    rcases look_cases p s stored with ⟨e, asked, -, look'⟩ | ⟨e, -, -, look'⟩
    · rw [look'] at look
      cases look
      rfl
    · rw [look'] at look
      cases look

/-- Whoever acquires a connection looks again as long as nothing is found. -/
theorem acquire_unrolls (p : Pool) (s : Surroundings E C) :
    p.acquire s.keeper = (do
      match ← p.look s.keeper with
      | .found connection => pure connection
      | .again => p.acquire s.keeper) := by
  funext x
  refine Doing.bind_congr ?_
  rintro (connection | _) y look
  · rfl
  · -- As many looks are left as are needed for what is left in stock.
    rw [look_again look]
    rfl

/-- One more is rejected first. -/
theorem Acquires.cons (idle : x.stock.idle = item :: rest) {asked : List C}
    (rejects : ∀ {items probed e'}, s.Rejects ttl (s.shut item.connection e) items probed e' →
      s.Rejects ttl x.surroundings (item :: items) (asked ++ probed) e')
    (h : Acquires s ttl ⟨s.shut item.connection e, ⟨rest, x.stock.inUse⟩,
      x.closed ++ s.handed [item], x.probed ++ asked⟩ rejected result y) :
    Acquires s ttl x (item :: rejected) result y := by
  cases h with
  | reused idle' rejects' fresh healthy =>
    have idle : x.stock.idle = item :: rejected ++ _ := idle.trans (congrArg _ idle')
    have acquires := Acquires.reused idle (rejects rejects') fresh healthy
    rwa [Surroundings.handed_cons, List.append_assoc, ← List.append_assoc,
      ← List.append_assoc x.probed] at acquires
  | exhausted idle' rejects' makes =>
    have acquires := Acquires.exhausted (idle.trans (congrArg _ idle')) (rejects rejects') makes
    rwa [Surroundings.handed_cons, ← List.append_assoc, ← List.append_assoc] at acquires

/-- To make a connection, and to count it. -/
theorem create_run (s : Surroundings E C) (x : Scene E C) :
    ∃ more e', s.Makes x.surroundings (create s.keeper x).1 more e' ∧
      (create s.keeper x).2 =
        { x with surroundings := e', stock := ⟨x.stock.idle, x.stock.inUse + more⟩ } := by
  cases known : s.create with
  | none =>
    have run : create s.keeper x = (.ok none, x) := by
      simp only [create, Surroundings.keeper, known]
      rfl
    rw [run]
    exact ⟨0, x.surroundings, .unknown known, rfl⟩
  | some make =>
    have outside : s.keeper.create = some (.outside make) := by
      simp only [Surroundings.keeper, known, Option.map_some]
    rw [create, outside]
    dsimp only
    rcases made : make x.surroundings with ⟨error | c, e'⟩
    · rw [Doing.bind_error (Doing.outside_run made)]
      exact ⟨0, e', .failed known made, rfl⟩
    · rw [Doing.bind_ok (Doing.outside_run made)]
      exact ⟨1, e', .made known made, rfl⟩

/-- Where nothing is stored, a connection is made. -/
theorem create_acquires (empty : x.stock.idle = []) :
    Acquires s ttl x [] (create s.keeper x).1 (create s.keeper x).2 := by
  obtain ⟨more, e', makes, scene⟩ := create_run s x
  have acquires : Acquires s ttl x [] _ _ := .exhausted empty (.nil _) makes
  rw [s.handed_nil, List.append_nil, List.append_nil] at acquires
  rwa [scene, empty]

theorem acquire_nil (p : Pool) (empty : x.stock.idle = []) :
    p.acquire s.keeper x = create s.keeper x := by
  have look := look_nil p s empty
  rw [acquire_unrolls]
  rcases made : create s.keeper x with ⟨error | c, y⟩
  · rw [Doing.bind_error made] at look
    rw [Doing.bind_error look]
  · rw [Doing.bind_ok made] at look
    rw [Doing.bind_ok look]
    rfl

theorem acquire_acquires (p : Pool) (s : Surroundings E C) (x : Scene E C) :
    ∃ rejected, Acquires s p.idleTtl x rejected (p.acquire s.keeper x).1
      (p.acquire s.keeper x).2 := by
  -- By induction on what is stored: each look takes the connection that was returned last.
  induction stored : x.stock.idle generalizing x with
  | nil =>
    rw [acquire_nil p stored]
    exact ⟨[], create_acquires stored⟩
  | cons item rest ih =>
    rw [acquire_unrolls]
    rcases look_cases p s stored with ⟨e, asked, rejects, look⟩ | ⟨e, fresh, healthy, look⟩
    · rw [Doing.bind_ok look]
      obtain ⟨rejected, acquires⟩ := ih ⟨s.shut item.connection e, ⟨rest, x.stock.inUse⟩,
        x.closed ++ s.handed [item], x.probed ++ asked⟩ rfl
      exact ⟨item :: rejected, acquires.cons stored rejects⟩
    · rw [Doing.bind_ok look]
      have acquires := Acquires.reused stored (.nil _) fresh healthy
      rw [s.handed_nil, List.append_nil] at acquires
      exact ⟨[], acquires⟩

/-! ## Time -/

theorem Surroundings.Rejects.le {items : List (Shelved C)} {probed : List C}
    (h : s.Rejects ttl e items probed e') : s.now e ≤ s.now e' := by
  induction h with
  | nil e => exact Nat.le_refl _
  | stale stale rest ih => exact Nat.le_trans (s.le_shut _ _) ih
  | @dead e e₁ e' item items probed fresh dead rest ih =>
    have checked := s.le_check item.connection e
    rw [dead] at checked
    exact Nat.le_trans checked (Nat.le_trans (s.le_shut _ _) ih)

theorem Surroundings.Makes.le {more : Nat} (h : s.Makes e result more e') : s.now e ≤ s.now e' := by
  cases h with
  | @made create c e' known made =>
    have le := s.le_create create known e
    rwa [made] at le
  | @failed create error e' known failed =>
    have le := s.le_create create known e
    rwa [failed] at le
  | unknown unknown => exact Nat.le_refl _

theorem Acquires.le (h : Acquires s ttl x rejected result y) :
    s.now x.surroundings ≤ s.now y.surroundings := by
  cases h with
  | @reused older item probed e e' idle rejects fresh healthy =>
    have checked := s.le_check item.connection e
    rw [healthy] at checked
    exact Nat.le_trans rejects.le checked
  | exhausted idle rejects makes => exact Nat.le_trans rejects.le makes.le

/-- What is too old is not probed. -/
theorem Surroundings.Rejects.unprobed {items : List (Shelved C)} {probed : List C}
    (h : s.Rejects ttl e items probed e') (stale : ∀ item ∈ items, s.IsStale ttl e item) :
    probed = [] := by
  induction h with
  | nil e => rfl
  | @stale e e' item items probed isStale rest ih =>
    refine ih fun other mem => ?_
    exact (stale other (.tail _ mem)).mono (s.le_shut _ _) (Nat.le_refl _)
  | dead fresh dead rest ih => exact absurd (stale _ (.head _)) fresh

end Acquire

/-! ## Order -/

/-- The scenes that operations lead to, one after another. Between them any time may pass. -/
inductive Reached (p : Pool) (s : Surroundings E C) : Scene E C → Prop where
  | initial (e : E) : Reached p s ⟨e, .empty, [], []⟩
  | pass {x : Scene E C} (h : Reached p s x) {e : E} (later : s.now x.surroundings ≤ s.now e) :
      Reached p s { x with surroundings := e }
  | acquire {x : Scene E C} (h : Reached p s x) : Reached p s (p.acquire s.keeper x).2
  | release {x : Scene E C} (h : Reached p s x) (c : C) : Reached p s (p.release s.keeper c x).2
  | discard {x : Scene E C} (h : Reached p s x) : Reached p s (discard s.keeper x).2
  | drain {x : Scene E C} (h : Reached p s x) : Reached p s (drain s.keeper x).2

section Order

variable {s : Surroundings E C} {p : Pool} {x : Scene E C}

/-- What is in stock is in the order in which it was returned. -/
abbrev Surroundings.InOrder (s : Surroundings E C) (x : Scene E C) : Prop :=
  Ordered (s.now x.surroundings) x.stock.idle

theorem Acquires.inOrder {ttl : Duration} {rejected : List (Shelved C)}
    {result : Result (Option C)} {y : Scene E C} (h : Acquires s ttl x rejected result y)
    (order : s.InOrder x) : s.InOrder y := by
  refine Ordered.later ?_ h.le
  cases h with
  | reused idle rejects fresh healthy =>
    rw [Surroundings.InOrder, idle] at order
    exact (Ordered.of_append order).of_cons
  | exhausted idle rejects makes => exact .nil _

theorem release_inOrder (order : s.InOrder x) (c : C) :
    s.InOrder (p.release s.keeper c x).2 := by
  have stamped : s.keeper.stamp (Stock.putBack p.maxIdle c) x =
      (.ok (x.stock.putBack p.maxIdle c (s.now x.surroundings)).1,
        { x with stock := (x.stock.putBack p.maxIdle c (s.now x.surroundings)).2 }) := rfl
  rw [release, Doing.bind_ok stamped, Stock.putBack]
  dsimp only
  split
  next full =>
    dsimp only
    rw [close_run]
    exact Ordered.later order (s.le_shut _ _)
  next space => exact Ordered.cons order c

/-- To close connections does not change the stock. -/
theorem forM_close_stock (s : Surroundings E C) (items : List (Shelved C)) (x : Scene E C) :
    ((items.forM fun item => close s.keeper item.connection : Doing E C Unit) x).2.stock =
      x.stock := by
  induction items generalizing x with
  | nil => rfl
  | cons item items ih =>
    change ((close s.keeper item.connection >>= fun _ =>
      items.forM fun item => close s.keeper item.connection) x).2.stock = _
    rw [Doing.bind_ok (close_run s item.connection x), ih]

theorem drain_inOrder : s.InOrder (drain s.keeper x).2 := by
  have taken : s.keeper.update Stock.takeAll x =
      (.ok x.stock.idle.reverse, { x with stock := ⟨[], x.stock.inUse⟩ }) := rfl
  rw [drain, Doing.bind_ok taken, Surroundings.InOrder, forM_close_stock]
  exact .nil _

/-- Every operation keeps the order. -/
theorem Reached.inOrder (h : Reached p s x) : s.InOrder x := by
  induction h with
  | initial e => exact .nil _
  | pass reached later order => exact Ordered.later order later
  | acquire reached order =>
    obtain ⟨rejected, acquires⟩ := acquire_acquires p s _
    exact acquires.inOrder order
  | release reached c order => exact release_inOrder order c
  | discard reached order => exact order
  | drain reached order => exact drain_inOrder

end Order

/-! ## The policy -/

/-- The same functions, but to close a connection may have other results. -/
def Surroundings.closing (s : Surroundings E C) (results : C → E → Result Unit) :
    Surroundings E C where
  now := s.now
  create := s.create
  close := s.close.map fun close c e => (results c e, (close c e).2)
  probe := s.probe
  le_create := s.le_create
  le_close := by
    intro f mem
    obtain ⟨close, known, rfl⟩ := Option.mem_map.1 mem
    exact s.le_close close known
  le_probe := s.le_probe

/-- Which connection a pool hands out, and what becomes of the others. -/
structure KeepsPolicy (p : Pool) (s : Surroundings E C) (ttl : Duration) (x : Scene E C) :
    Prop where
  /-- What is stored is in the order in which it was returned. -/
  ordered : Ordered (s.now x.surroundings) x.stock.idle
  /-- Exactly those before the one that is handed out are removed, and closed once. -/
  acquires : ∃ rejected, Acquires s ttl x rejected (p.acquire s.keeper x).1
    (p.acquire s.keeper x).2
  /-- One more is in use exactly if a connection is handed out. -/
  counted : (∃ c, (p.acquire s.keeper x).1 = .ok (some c)) ∧
      (p.acquire s.keeper x).2.stock.inUse = x.stock.inUse + 1 ∨
    (∀ c, (p.acquire s.keeper x).1 ≠ .ok (some c)) ∧
      (p.acquire s.keeper x).2.stock.inUse = x.stock.inUse
  /-- If the one that was returned last is too old, so are all others, and none of them is probed or
  handed out. -/
  stale : ∀ item rest, x.stock.idle = item :: rest → s.IsStale ttl x.surroundings item →
    (∀ other ∈ rest, s.IsStale ttl x.surroundings other) ∧
      (p.acquire s.keeper x).2.probed = x.probed ∧
        Acquires s ttl x x.stock.idle (p.acquire s.keeper x).1 (p.acquire s.keeper x).2
  /-- It makes no difference whether closing fails. -/
  closing : ∀ results, p.acquire (s.closing results).keeper x = p.acquire s.keeper x

section Policy

variable {s : Surroundings E C} {p : Pool} {ttl : Duration} {x y : Scene E C}
  {rejected : List (Shelved C)} {result : Result (Option C)}

theorem Acquires.counted (h : Acquires s ttl x rejected result y) :
    (∃ c, result = .ok (some c)) ∧ y.stock.inUse = x.stock.inUse + 1 ∨
      (∀ c, result ≠ .ok (some c)) ∧ y.stock.inUse = x.stock.inUse := by
  cases h with
  | reused idle rejects fresh healthy => exact .inl ⟨⟨_, rfl⟩, rfl⟩
  | exhausted idle rejects makes =>
    cases makes with
    | made known made => exact .inl ⟨⟨_, rfl⟩, rfl⟩
    | failed known failed => exact .inr ⟨fun _ => nofun, rfl⟩
    | unknown unknown => exact .inr ⟨fun _ => nofun, rfl⟩

/-- Where all are too old, all are rejected and none is probed. -/
theorem Acquires.of_stale (h : Acquires s ttl x rejected result y)
    (stale : ∀ item ∈ x.stock.idle, s.IsStale ttl x.surroundings item) :
    y.probed = x.probed ∧ rejected = x.stock.idle := by
  cases h with
  | @reused older item probed e e' idle rejects fresh healthy =>
    rw [idle] at stale
    have isStale := stale item (List.mem_append_right _ (.head _))
    exact absurd (isStale.mono rejects.le (Nat.le_refl _)) fresh
  | exhausted idle rejects makes =>
    rw [idle] at stale
    rw [rejects.unprobed stale, List.append_nil]
    exact ⟨rfl, idle.symm⟩

/-- What comes of closing a connection is dropped. -/
theorem close_closing (s : Surroundings E C) (results : C → E → Result Unit) :
    close (s.closing results).keeper = close s.keeper := by
  funext c x
  rcases s with ⟨now, create, _ | close, probe, _, _, _⟩
  · rfl
  · rfl

theorem acquire_closing (p : Pool) (s : Surroundings E C) (results : C → E → Result Unit)
    (x : Scene E C) : p.acquire (s.closing results).keeper x = p.acquire s.keeper x := by
  have look : p.look (s.closing results).keeper = p.look s.keeper := by
    rw [Pool.look, close_closing]
    rfl
  exact congrFun (congrArg s.keeper.loop look) x

theorem Reached.keepsPolicy (reached : Reached p s x) : KeepsPolicy p s p.idleTtl x := by
  obtain ⟨rejected, acquires⟩ := acquire_acquires p s x
  refine ⟨reached.inOrder, ⟨rejected, acquires⟩, acquires.counted, ?_, fun results => ?_⟩
  · intro item rest idle stale
    -- The others were returned before it.
    have all : ∀ other ∈ x.stock.idle, s.IsStale p.idleTtl x.surroundings other := by
      have order := reached.inOrder.sorted
      rw [idle] at order ⊢
      refine List.forall_mem_cons.2 ⟨stale, fun other mem => ?_⟩
      exact stale.mono (Nat.le_refl _) ((List.pairwise_cons.1 order).1 other mem)
    obtain ⟨unprobed, rfl⟩ := acquires.of_stale all
    rw [idle] at all
    exact ⟨(List.forall_mem_cons.1 all).2, unprobed, acquires⟩
  · exact acquire_closing p s results x

/-- Every call that acquires a connection keeps to the policy, whatever was done with the pool
before and whatever the clock and the functions do. -/
theorem acquire_keepsPolicy (maxIdle : Nat) (idleTtl : Duration) (s : Surroundings E C)
    {x : Scene E C} (reached : Reached (make maxIdle idleTtl) s x) :
    KeepsPolicy (make maxIdle idleTtl) s
      (if idleTtl.isZero then .ofSeconds 30 else idleTtl) x :=
  reached.keepsPolicy

/-- A clock, and connections that cannot be closed. The one with number two is dead. -/
def stubborn : Surroundings Instant Nat where
  now := id
  create := none
  close := some fun _ e => (.error .timeout, e)
  probe := some fun c e => (c != 2, e)
  le_create _ mem := absurd mem (Option.not_mem_none _)
  le_close := by
    rintro f ⟨⟩ c e
    exact Nat.le_refl _
  le_probe := by
    rintro f ⟨⟩ c e
    exact Nat.le_refl _

/-- The first connection was returned at once and the second one after ten seconds. -/
def returned : Scene Instant Nat :=
  ⟨.ofMillis 10000, ⟨[⟨2, .ofMillis 10000⟩, ⟨1, .start⟩], 0⟩, [], []⟩

/-- The second one is probed and closed, and the first one handed out. -/
theorem acquire_keepsPolicy_returned :
    Reached (make 0 .zero) stubborn returned ∧
      KeepsPolicy (make 0 .zero) stubborn (.ofSeconds 30) returned ∧
        (make 0 .zero).acquire stubborn.keeper returned =
          (.ok (some 1), ⟨.ofMillis 10000, ⟨[], 1⟩, [2], [2, 1]⟩) := by
  have reached : Reached (make 0 .zero) stubborn returned := by
    have first := (Reached.initial (p := make 0 .zero) (s := stubborn) .start).release 1
    have waited := first.pass (e := .ofMillis 10000) (Nat.zero_le _)
    exact waited.release 2
  exact ⟨reached, acquire_keepsPolicy 0 .zero stubborn reached, rfl⟩

end Policy
end Outbox.Pool
