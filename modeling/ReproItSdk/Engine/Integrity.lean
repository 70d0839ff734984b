import ReproItSdk.Engine.CallSteps

/-! # Integrity of the registry

The four tables of the registry form a forest: an observation belongs to a live operation, an
operation and a sink to a live engine.  Every handle is live in one table at most, was allocated,
and is never live again after it was released.

A call changes the tables in three ways only: it consumes a handle, it drops entries without leaving
one below a dropped owner, or it grants the next handle to a new entry.

Main results:

- Theorem {lit}`EngineStep.advances`: every step of a call under the lock keeps the registry sound.
- Theorem {lit}`registry_integrity`: the registry is sound after every run, and a released handle
  is never live again.
-/

namespace ReproItSdk
namespace Engine

variable {Engine Begin Operation Digest Sink : Type}

/-! ## Soundness -/

/-- The tables of the registry. -/
inductive HandleTable where
  | engines
  | observations
  | operations
  | sinks
deriving DecidableEq, Repr

namespace Registry

/-- Whether a table holds a handle. -/
def holds (registry : Registry Engine Operation Digest) (table : HandleTable) (handle : Nat) :
    Bool :=
  match table with
  | .engines => (registry.engines.lookup handle).isSome
  | .observations => (registry.observations.lookup handle).isSome
  | .operations => (registry.operations.lookup handle).isSome
  | .sinks => (registry.sinks.lookup handle).isSome

/-- Whether some table holds a handle. -/
def Live (registry : Registry Engine Operation Digest) (handle : Nat) : Prop :=
  ∃ table, registry.holds table handle = true

/-- Every entry has a live owner. -/
structure Owned (registry : Registry Engine Operation Digest) : Prop where
  observations : KeyedTable.All
    (fun _ entry => registry.holds .operations entry.operationHandle = true) registry.observations
  operations : KeyedTable.All
    (fun _ entry => registry.holds .engines entry.engineHandle = true) registry.operations
  sinks : KeyedTable.All
    (fun _ entry => registry.holds .engines entry.engineHandle = true) registry.sinks

/-- No table exceeds its limit. -/
structure Bounded (registry : Registry Engine Operation Digest) : Prop where
  engines : KeyedTable.size registry.engines ≤ maxEngines
  observations : KeyedTable.size registry.observations ≤ maxObservationSessions
  operations : KeyedTable.size registry.operations ≤ maxOperations
  sinks : KeyedTable.size registry.sinks ≤ maxSinks

/-- What holds of the registry between any two calls. -/
structure Sound (registry : Registry Engine Operation Digest) : Prop where
  owned : registry.Owned
  bounded : registry.Bounded
  distinct : ∀ {table other : HandleTable} {handle : Nat},
    registry.holds table handle = true → registry.holds other handle = true → table = other
  allocated : ∀ {table : HandleTable} {handle : Nat},
    registry.holds table handle = true → handle < registry.nextHandle

/-- How the registry may change. -/
structure Evolves (before after : Registry Engine Operation Digest) : Prop where
  sound : before.Sound → after.Sound
  nextHandle : before.nextHandle ≤ after.nextHandle
  fresh : ∀ {table : HandleTable} {handle : Nat}, after.holds table handle = true →
    before.holds table handle = true ∨ before.nextHandle ≤ handle

/-- Nothing changed. -/
theorem Evolves.refl (registry : Registry Engine Operation Digest) : registry.Evolves registry :=
  ⟨id, Nat.le_refl _, .inl⟩

/-- Changes compose. -/
theorem Evolves.trans {first second third : Registry Engine Operation Digest}
    (before : first.Evolves second) (after : second.Evolves third) : first.Evolves third where
  sound := after.sound ∘ before.sound
  nextHandle := Nat.le_trans before.nextHandle after.nextHandle
  fresh held := by
    rcases after.fresh held with old | new
    · exact before.fresh old
    · exact .inr (Nat.le_trans before.nextHandle new)

/-- A handle that was allocated and is not live stays so. -/
theorem Evolves.not_live {before after : Registry Engine Operation Digest}
    (evolves : before.Evolves after) {handle : Nat} (allocated : handle < before.nextHandle)
    (released : ¬ before.Live handle) : ¬ after.Live handle := by
  rintro ⟨table, held⟩
  rcases evolves.fresh held with old | new
  · exact released ⟨table, old⟩
  · omega

/-! ## Consuming a handle -/

/-- A consumed handle changes no table. -/
theorem evolves_skipHandle (registry : Registry Engine Operation Digest) :
    registry.Evolves registry.skipHandle where
  sound sound :=
    { owned := ⟨sound.owned.observations, sound.owned.operations, sound.owned.sinks⟩
      bounded := ⟨sound.bounded.engines, sound.bounded.observations, sound.bounded.operations,
        sound.bounded.sinks⟩
      distinct := sound.distinct
      allocated := fun held => Nat.lt_succ_of_lt (sound.allocated held) }
  nextHandle := Nat.le_succ _
  fresh := .inl

/-! ## Dropping entries -/

/-- Some entries are dropped and the others may change, but an entry that stays has the owner it
had, and keeps it. -/
structure Drops (before after : Registry Engine Operation Digest) : Prop where
  nextHandle : after.nextHandle = before.nextHandle
  engines : ∀ handle, after.holds .engines handle = true → before.holds .engines handle = true
  observations : KeyedTable.All
    (fun handle entry => ∃ old, before.observations.lookup handle = some old ∧
      old.operationHandle = entry.operationHandle ∧
      (before.holds .operations old.operationHandle = true →
        after.holds .operations entry.operationHandle = true)) after.observations
  operations : KeyedTable.All
    (fun handle entry => ∃ old, before.operations.lookup handle = some old ∧
      old.engineHandle = entry.engineHandle ∧
      (before.holds .engines old.engineHandle = true →
        after.holds .engines entry.engineHandle = true)) after.operations
  sinks : KeyedTable.All
    (fun handle entry => ∃ old, before.sinks.lookup handle = some old ∧
      old.engineHandle = entry.engineHandle ∧
      (before.holds .engines old.engineHandle = true →
        after.holds .engines entry.engineHandle = true)) after.sinks
  engineCount : KeyedTable.size after.engines ≤ KeyedTable.size before.engines
  observationCount :
    KeyedTable.size after.observations ≤ KeyedTable.size before.observations
  operationCount : KeyedTable.size after.operations ≤ KeyedTable.size before.operations
  sinkCount : KeyedTable.size after.sinks ≤ KeyedTable.size before.sinks

/-- An entry that is there after entries were dropped was there before. -/
theorem Drops.holds {before after : Registry Engine Operation Digest} (drops : before.Drops after)
    {table : HandleTable} {handle : Nat} (held : after.holds table handle = true) :
    before.holds table handle = true := by
  cases table with
  | engines => exact drops.engines handle held
  | observations =>
      obtain ⟨entry, present⟩ := Option.isSome_iff_exists.mp held
      obtain ⟨old, was, -⟩ := drops.observations handle entry present
      exact Option.isSome_iff_exists.mpr ⟨old, was⟩
  | operations =>
      obtain ⟨entry, present⟩ := Option.isSome_iff_exists.mp held
      obtain ⟨old, was, -⟩ := drops.operations handle entry present
      exact Option.isSome_iff_exists.mpr ⟨old, was⟩
  | sinks =>
      obtain ⟨entry, present⟩ := Option.isSome_iff_exists.mp held
      obtain ⟨old, was, -⟩ := drops.sinks handle entry present
      exact Option.isSome_iff_exists.mpr ⟨old, was⟩

/-- Dropping entries keeps the registry sound. -/
theorem Drops.evolves {before after : Registry Engine Operation Digest}
    (drops : before.Drops after) : before.Evolves after where
  sound sound :=
    { owned :=
        { observations := by
            intro handle entry present
            obtain ⟨old, was, -, kept⟩ := drops.observations handle entry present
            exact kept (sound.owned.observations handle old was)
          operations := by
            intro handle entry present
            obtain ⟨old, was, -, kept⟩ := drops.operations handle entry present
            exact kept (sound.owned.operations handle old was)
          sinks := by
            intro handle entry present
            obtain ⟨old, was, -, kept⟩ := drops.sinks handle entry present
            exact kept (sound.owned.sinks handle old was) }
      bounded :=
        ⟨Nat.le_trans drops.engineCount sound.bounded.engines,
          Nat.le_trans drops.observationCount sound.bounded.observations,
          Nat.le_trans drops.operationCount sound.bounded.operations,
          Nat.le_trans drops.sinkCount sound.bounded.sinks⟩
      distinct := fun held other => sound.distinct (drops.holds held) (drops.holds other)
      allocated := by
        intro table handle held
        rw [drops.nextHandle]
        exact sound.allocated (drops.holds held) }
  nextHandle := Nat.le_of_eq drops.nextHandle.symm
  fresh held := .inl (drops.holds held)

/-- A call on an operation keeps its entry. -/
theorem drops_updateOperation {registry : Registry Engine Operation Digest} {operationHandle : Nat}
    {entry : OperationEntry Operation}
    (present : registry.operations.lookup operationHandle = some entry) (operation : Operation) :
    registry.Drops (registry.updateOperation operationHandle entry operation) where
  nextHandle := rfl
  engines _ held := held
  observations := by
    intro handle old found
    exact ⟨old, found, rfl,
      fun held => (KeyedTable.isSome_lookup_insert _ _ _ _).mpr (.inl held)⟩
  operations := by
    intro handle old found
    by_cases same : handle = operationHandle
    · subst same
      rw [updateOperation, AList.lookup_insert] at found
      cases found
      exact ⟨entry, present, rfl, id⟩
    · rw [updateOperation, AList.lookup_insert_ne same] at found
      exact ⟨old, found, rfl, id⟩
  sinks := fun _ old found => ⟨old, found, rfl, id⟩
  engineCount := Nat.le_refl _
  observationCount := Nat.le_refl _
  operationCount := Nat.le_of_eq (KeyedTable.size_insert_of_lookup present _)
  sinkCount := Nat.le_refl _

/-- A call on a session keeps the entry of its observation. -/
theorem drops_updateSession {registry : Registry Engine Operation Digest}
    {observationHandle : Nat} {entry : ObservationEntry Digest}
    (present : registry.observations.lookup observationHandle = some entry)
    (session : SemanticDependencySession Digest) :
    registry.Drops (registry.updateSession observationHandle entry session) where
  nextHandle := rfl
  engines _ held := held
  observations := by
    intro handle old found
    by_cases same : handle = observationHandle
    · subst same
      rw [updateSession, AList.lookup_insert] at found
      cases found
      exact ⟨entry, present, rfl, id⟩
    · rw [updateSession, AList.lookup_insert_ne same] at found
      exact ⟨old, found, rfl, id⟩
  operations := fun _ old found => ⟨old, found, rfl, id⟩
  sinks := fun _ old found => ⟨old, found, rfl, id⟩
  engineCount := Nat.le_refl _
  observationCount := Nat.le_of_eq (KeyedTable.size_insert_of_lookup present _)
  operationCount := Nat.le_refl _
  sinkCount := Nat.le_refl _

/-- Some observations are dropped. -/
theorem drops_observations (registry : Registry Engine Operation Digest)
    {observations : KeyedTable Nat (ObservationEntry Digest)}
    (kept : ∀ handle entry, observations.lookup handle = some entry →
      registry.observations.lookup handle = some entry)
    (fewer : KeyedTable.size observations ≤ KeyedTable.size registry.observations) :
    registry.Drops { registry with observations := observations } where
  nextHandle := rfl
  engines _ held := held
  observations := fun handle entry found => ⟨entry, kept handle entry found, rfl, id⟩
  operations := fun _ old found => ⟨old, found, rfl, id⟩
  sinks := fun _ old found => ⟨old, found, rfl, id⟩
  engineCount := Nat.le_refl _
  observationCount := fewer
  operationCount := Nat.le_refl _
  sinkCount := Nat.le_refl _

/-- A released observation is dropped. -/
theorem drops_releaseObservation (registry : Registry Engine Operation Digest)
    (observationHandle : Nat) :
    registry.Drops (registry.releaseObservation observationHandle) :=
  registry.drops_observations
    (fun _ _ found => (KeyedTable.lookup_erase_eq_some.mp found).1) (KeyedTable.size_erase_le _ _)

/-- The observations of an operation are dropped. -/
theorem drops_removeOperationObservations (registry : Registry Engine Operation Digest)
    (operationHandle : Nat) :
    registry.Drops (registry.removeOperationObservations operationHandle) :=
  registry.drops_observations
    (fun _ _ found => (KeyedTable.lookup_retain_eq_some.mp found).1)
    (KeyedTable.size_retain_le _ _)

/-- An operation is dropped after its observations. -/
theorem drops_removeOperation (registry : Registry Engine Operation Digest)
    (operationHandle : Nat) :
    registry.Drops
      ((registry.removeOperationObservations operationHandle).removeOperation operationHandle) where
  nextHandle := rfl
  engines _ held := held
  observations := by
    intro handle entry found
    obtain ⟨was, apart⟩ := KeyedTable.lookup_retain_eq_some.mp found
    refine ⟨entry, was, rfl, fun held => ?_⟩
    have different : entry.operationHandle ≠ operationHandle := by simpa using apart
    show ((registry.operations.erase operationHandle).lookup entry.operationHandle).isSome = true
    rwa [AList.lookup_erase_ne different]
  operations := fun _ entry found => ⟨entry, (KeyedTable.lookup_erase_eq_some.mp found).1, rfl, id⟩
  sinks := fun _ old found => ⟨old, found, rfl, id⟩
  engineCount := Nat.le_refl _
  observationCount := KeyedTable.size_retain_le _ _
  operationCount := KeyedTable.size_erase_le _ _
  sinkCount := Nat.le_refl _

/-- A sink that is removed is dropped. -/
theorem drops_removeSinkIfSame (registry : Registry Engine Operation Digest)
    (sinkHandle task : Nat) : registry.Drops (registry.removeSinkIfSame sinkHandle task) := by
  have kept : registry.Drops registry :=
    registry.drops_observations (fun _ _ found => found) (Nat.le_refl _)
  unfold removeSinkIfSame
  split
  · split
    · exact
        { kept with
          sinks := fun _ entry found =>
            ⟨entry, (KeyedTable.lookup_erase_eq_some.mp found).1, rfl, id⟩
          sinkCount := KeyedTable.size_erase_le _ _ }
    · exact kept
  · exact kept

/-! ## Granting a handle -/

/-- A grant gives the next handle to a new entry of one table. -/
theorem evolves_grant {before after : Registry Engine Operation Digest} (kind : HandleTable)
    (next : after.nextHandle = before.nextHandle + 1)
    (held : ∀ table handle, after.holds table handle = true ↔
      before.holds table handle = true ∨ (table = kind ∧ handle = before.nextHandle))
    (owned : before.Owned → after.Owned) (bounded : before.Bounded → after.Bounded) :
    before.Evolves after where
  sound sound :=
    { owned := owned sound.owned
      bounded := bounded sound.bounded
      distinct := by
        intro table other handle first second
        rcases (held table handle).mp first with old | ⟨rfl, new⟩ <;>
          rcases (held other handle).mp second with old' | ⟨rfl, new'⟩
        · exact sound.distinct old old'
        · have below := sound.allocated old
          omega
        · have below := sound.allocated old'
          omega
        · rfl
      allocated := by
        intro table handle live
        rw [next]
        rcases (held table handle).mp live with old | ⟨-, rfl⟩
        · exact Nat.lt_succ_of_lt (sound.allocated old)
        · exact Nat.lt_succ_self _ }
  nextHandle := by
    rw [next]
    exact Nat.le_succ _
  fresh live := by
    rcases (held _ _).mp live with old | ⟨-, rfl⟩
    · exact .inl old
    · exact .inr (Nat.le_refl _)

variable {registry : Registry Engine Operation Digest}

/-- A grant with room for one more engine. -/
theorem evolves_grantEngine (engine : Engine)
    (room : KeyedTable.size registry.engines < maxEngines) :
    registry.Evolves (registry.grantEngine engine) := by
  refine evolves_grant .engines rfl ?_ ?_ ?_
  · intro table handle
    cases table <;>
      simp [holds, grantEngine, skipHandle, KeyedTable.isSome_lookup_insert]
  · intro owned
    refine ⟨owned.observations, owned.operations.mono ?_, owned.sinks.mono ?_⟩ <;>
    · intro _ _ held
      exact (KeyedTable.isSome_lookup_insert _ _ _ _).mpr (.inl held)
  · intro bounded
    exact ⟨Nat.le_trans (KeyedTable.size_insert_le _ _ _) room, bounded.observations,
      bounded.operations, bounded.sinks⟩

/-- A grant with room for one more operation, to a live engine. -/
theorem evolves_grantOperation {entry : OperationEntry Operation}
    (room : KeyedTable.size registry.operations < maxOperations)
    (owner : registry.holds .engines entry.engineHandle = true) :
    registry.Evolves (registry.grantOperation entry) := by
  refine evolves_grant .operations rfl ?_ ?_ ?_
  · intro table handle
    cases table <;>
      simp [holds, grantOperation, skipHandle, KeyedTable.isSome_lookup_insert]
  · intro owned
    refine ⟨owned.observations.mono ?_, owned.operations.insert owner, owned.sinks⟩
    intro _ _ held
    exact (KeyedTable.isSome_lookup_insert _ _ _ _).mpr (.inl held)
  · intro bounded
    exact ⟨bounded.engines, bounded.observations,
      Nat.le_trans (KeyedTable.size_insert_le _ _ _) room, bounded.sinks⟩

/-- A grant with room for one more observation, to a live operation. -/
theorem evolves_grantObservation {entry : ObservationEntry Digest}
    (room : KeyedTable.size registry.observations < maxObservationSessions)
    (owner : registry.holds .operations entry.operationHandle = true) :
    registry.Evolves (registry.grantObservation entry) := by
  refine evolves_grant .observations rfl ?_ ?_ ?_
  · intro table handle
    cases table <;>
      simp [holds, grantObservation, skipHandle, KeyedTable.isSome_lookup_insert]
  · intro owned
    exact ⟨owned.observations.insert owner, owned.operations, owned.sinks⟩
  · intro bounded
    exact ⟨bounded.engines, Nat.le_trans (KeyedTable.size_insert_le _ _ _) room,
      bounded.operations, bounded.sinks⟩

/-- The handles after a sink was granted. -/
theorem holds_grantSink (entry : SinkEntry) (table : HandleTable) (handle : Nat) :
    (registry.grantSink entry).holds table handle = true ↔
      registry.holds table handle = true ∨ (table = .sinks ∧ handle = registry.nextHandle) := by
  cases table <;>
    simp [holds, grantSink, skipHandle, KeyedTable.isSome_lookup_insert]

/-- A grant with room for one more sink, to a live engine. -/
theorem evolves_grantSink {entry : SinkEntry}
    (room : KeyedTable.size registry.sinks < maxSinks)
    (owner : registry.holds .engines entry.engineHandle = true) :
    registry.Evolves (registry.grantSink entry) := by
  refine evolves_grant .sinks rfl (holds_grantSink entry) ?_ ?_
  · intro owned
    exact ⟨owned.observations, owned.operations, owned.sinks.insert owner⟩
  · intro bounded
    exact ⟨bounded.engines, bounded.observations, bounded.operations,
      Nat.le_trans (KeyedTable.size_insert_le _ _ _) room⟩

end Registry

/-! ## Calls on observations -/

/-- The registry evolves. -/
def Advances (before after : EngineState Engine Operation Digest Sink) : Prop :=
  before.registry.Evolves after.registry

instance : IsPreorder (EngineState Engine Operation Digest Sink) Advances where
  refl state := .refl state.registry
  trans _ _ _ := .trans

/-- A step of a call on an observation drops entries at most. -/
theorem ObservationStep.advances {port : EnginePort Engine Begin Operation Digest}
    {observationHandle : Nat} {before after : EngineState Engine Operation Digest Sink}
    (step : ObservationStep port observationHandle before after) : Advances before after := by
  cases step with
  | dispatched => exact .refl _
  | finished => exact .refl _
  | session entry session present => exact (Registry.drops_updateSession present session).evolves
  | operation entry owner operation present owned moved =>
      exact (Registry.drops_updateOperation owned operation).evolves
  | release => exact (Registry.drops_releaseObservation _ _).evolves
  | noted => exact .refl _

/-! ## Closing an engine -/

section Closing

/-- What is left after the observations of some operations were dropped. -/
structure Detached (before after : EngineState Engine Operation Digest Sink)
    (operationHandles : List Nat) : Prop where
  engines : after.registry.engines = before.registry.engines
  nextHandle : after.registry.nextHandle = before.registry.nextHandle
  operations : after.registry.operations = before.registry.operations
  sinks : after.registry.sinks = before.registry.sinks
  observations : ∀ handle entry, after.registry.observations.lookup handle = some entry →
    before.registry.observations.lookup handle = some entry ∧
      entry.operationHandle ∉ operationHandles
  fewer : KeyedTable.size after.registry.observations ≤
    KeyedTable.size before.registry.observations

/-- Dropping the observations of some operations leaves the others. -/
theorem detached_foldl (operationHandles : List Nat)
    (state : EngineState Engine Operation Digest Sink) :
    Detached state (operationHandles.foldl EngineState.detach state) operationHandles := by
  induction operationHandles generalizing state with
  | nil => exact ⟨rfl, rfl, rfl, rfl, fun _ _ found => ⟨found, List.not_mem_nil⟩, Nat.le_refl _⟩
  | cons operationHandle operationHandles ih =>
      have rest := ih (state.detach operationHandle)
      refine ⟨rest.engines, rest.nextHandle, rest.operations, rest.sinks, ?_, ?_⟩
      · intro handle entry found
        obtain ⟨left, apart⟩ := rest.observations handle entry found
        obtain ⟨was, different⟩ := KeyedTable.lookup_retain_eq_some.mp left
        refine ⟨was, ?_⟩
        rw [List.mem_cons, not_or]
        exact ⟨by simpa using different, apart⟩
      · exact Nat.le_trans rest.fewer (KeyedTable.size_retain_le _ _)

/-- The operations of an engine. -/
theorem Registry.mem_operationsOf {registry : Registry Engine Operation Digest}
    {engineHandle operationHandle : Nat} {entry : OperationEntry Operation}
    (present : registry.operations.lookup operationHandle = some entry)
    (started : entry.engineHandle = engineHandle) :
    operationHandle ∈ registry.operationsOf engineHandle := by
  refine AList.lookup_isSome.mp (Option.isSome_iff_exists.mpr ⟨entry, ?_⟩)
  exact KeyedTable.lookup_retain_eq_some.mpr ⟨present, by simpa using started⟩

/-- Cancelling tasks leaves the registry alone. -/
@[simp] theorem registry_cancelTasks (tasks : List Nat)
    (state : EngineState Engine Operation Digest Sink) :
    (state.cancelTasks tasks).registry = state.registry := by
  induction tasks generalizing state with
  | nil => rfl
  | cons task tasks ih => exact ih (state.cancelTask task)

/-- The registry after an engine was closed. -/
structure Closes (before after : Registry Engine Operation Digest) (engineHandle : Nat) : Prop where
  nextHandle : after.nextHandle = before.nextHandle
  engines : after.engines = before.engines.erase engineHandle
  observations : ∀ handle entry, after.observations.lookup handle = some entry →
    before.observations.lookup handle = some entry ∧
      entry.operationHandle ∉ before.operationsOf engineHandle
  fewer : KeyedTable.size after.observations ≤ KeyedTable.size before.observations
  operations : after.operations =
    KeyedTable.retain (fun _ entry => entry.engineHandle ≠ engineHandle) before.operations
  sinks : after.sinks =
    KeyedTable.retain (fun _ entry => entry.engineHandle ≠ engineHandle) before.sinks

/-- Closing an engine drops everything below it. -/
theorem closes_closeEngine (state : EngineState Engine Operation Digest Sink)
    (engineHandle : Nat) :
    Closes state.registry (state.closeEngine engineHandle).registry engineHandle := by
  have left := detached_foldl (state.registry.operationsOf engineHandle)
    (state.withRegistry fun registry =>
      { registry with engines := registry.engines.erase engineHandle })
  simp only [EngineState.closeEngine, EngineState.removeEngineSinks, EngineState.afterSentinel,
    EngineState.withRegistry, EngineState.noted, Registry.removeEngineOperations,
    registry_cancelTasks]
  refine ⟨left.nextHandle, left.engines, left.observations, left.fewer, ?_, ?_⟩
  · dsimp only
    exact congrArg (KeyedTable.retain _) left.operations
  · dsimp only
    exact congrArg (KeyedTable.retain _) left.sinks

/-- An engine that is closed takes its operations, their observations and its sinks along. -/
theorem Closes.drops {before after : Registry Engine Operation Digest} {engineHandle : Nat}
    (closes : Closes before after engineHandle) : before.Drops after := by
  have engineStays : ∀ handle, handle ≠ engineHandle →
      before.holds .engines handle = true → after.holds .engines handle = true := by
    intro handle different held
    rw [Registry.holds, closes.engines, AList.lookup_erase_ne different]
    exact held
  refine ⟨closes.nextHandle, ?_, ?_, ?_, ?_, ?_, closes.fewer, ?_, ?_⟩
  · intro handle held
    obtain ⟨engine, found⟩ := Option.isSome_iff_exists.mp held
    rw [closes.engines] at found
    exact Option.isSome_iff_exists.mpr ⟨engine, (KeyedTable.lookup_erase_eq_some.mp found).1⟩
  · intro handle entry found
    obtain ⟨was, apart⟩ := closes.observations handle entry found
    refine ⟨entry, was, rfl, fun held => ?_⟩
    obtain ⟨owner, owned⟩ := Option.isSome_iff_exists.mp held
    refine Option.isSome_iff_exists.mpr ⟨owner, ?_⟩
    rw [closes.operations]
    refine KeyedTable.lookup_retain_eq_some.mpr ⟨owned, ?_⟩
    simpa using fun started => apart (Registry.mem_operationsOf owned started)
  · intro handle entry found
    rw [closes.operations] at found
    obtain ⟨was, different⟩ := KeyedTable.lookup_retain_eq_some.mp found
    exact ⟨entry, was, rfl, engineStays _ (by simpa using different)⟩
  · intro handle entry found
    rw [closes.sinks] at found
    obtain ⟨was, different⟩ := KeyedTable.lookup_retain_eq_some.mp found
    exact ⟨entry, was, rfl, engineStays _ (by simpa using different)⟩
  · rw [closes.engines]
    exact KeyedTable.size_erase_le _ _
  · rw [closes.operations]
    exact KeyedTable.size_retain_le _ _
  · rw [closes.sinks]
    exact KeyedTable.size_retain_le _ _

end Closing

/-! ## Steps -/

/-- An entrusted operation leaves its table for a sink of its engine. -/
theorem advances_entrust {state : EngineState Engine Operation Digest Sink}
    {entry : OperationEntry Operation} {job : ProductionFailureJob Operation}
    (present : state.registry.operations.lookup job.operationHandle = some entry)
    (room : KeyedTable.size state.registry.sinks < maxSinks) :
    Advances state (state.entrust entry job) := by
  have taken : state.registry.Drops (state.take job.operationHandle).registry :=
    state.registry.drops_removeOperation job.operationHandle
  have grows : state.registry.Sound → state.registry.Evolves
      ((state.take job.operationHandle).registry.grantSink
        { engineHandle := entry.engineHandle, task := state.tasks.length }) := by
    intro sound
    refine taken.evolves.trans (Registry.evolves_grantSink room ?_)
    exact sound.owned.operations job.operationHandle entry present
  refine ⟨fun sound => (grows sound).sound sound, Nat.le_succ _, fun {table handle} held => ?_⟩
  rcases (Registry.holds_grantSink _ table handle).mp held with old | ⟨-, rfl⟩
  · exact .inl (taken.holds old)
  · exact .inr (Nat.le_refl _)

/-- Every step that names no observation keeps the registry sound. -/
theorem TableStep.advances {port : EnginePort Engine Begin Operation Digest}
    {before after : EngineState Engine Operation Digest Sink}
    (step : TableStep port before after) : Advances before after := by
  cases step with
  | operation operationHandle entry operation present moved =>
      exact (Registry.drops_updateOperation present operation).evolves
  | heard call quiet => exact .refl _
  | announced observationHandle entry observationClass present => exact .refl _
  | skipped => exact before.registry.evolves_skipHandle
  | engineOpened engine room => exact Registry.evolves_grantEngine engine room
  | operationStarted entry room owned => exact Registry.evolves_grantOperation room owned
  | observationOpened entry room owned => exact Registry.evolves_grantObservation room owned
  | detached operationHandle =>
      exact (before.registry.drops_removeOperationObservations operationHandle).evolves
  | ended operationHandle how entry present =>
      exact (before.registry.drops_removeOperation operationHandle).evolves
  | engineClosed engineHandle => exact (closes_closeEngine before engineHandle).drops.evolves
  | entrusted entry job present room => exact advances_entrust present room

/-- Every step of a call under the lock keeps the registry sound. -/
theorem EngineStep.advances {port : EnginePort Engine Begin Operation Digest}
    {before after : EngineState Engine Operation Digest Sink}
    (step : EngineStep port before after) : Advances before after := by
  cases step with
  | observation observationHandle step => exact step.advances
  | table step => exact step.advances

/-! ## Runs -/

namespace EngineSystem

variable {port : EnginePort Engine Begin Operation Digest}

variable (port) in
/-- Every step of a caller or of the worker keeps the registry sound. -/
theorem advances_step (system : EngineSystem Engine Operation Digest Sink)
    (action : EngineAction Engine Begin Sink) :
    Advances system.shared (step port system action).2.shared := by
  cases action with
  | call request =>
      exact (steps_callStep port system request).preserves fun _ _ step => step.advances
  | send callId connected =>
      show Advances system.shared (system.sendStep callId connected).2.shared
      unfold sendStep
      split
      · split <;> exact .refl _
      · exact .refl _
  | cancel callId =>
      show Advances system.shared (system.cancelStep callId).2.shared
      unfold cancelStep
      split <;> exact .refl _
  | unregister callId =>
      show Advances system.shared (system.unregisterStep callId).2.shared
      unfold unregisterStep
      split
      · exact (Registry.drops_removeSinkIfSame _ _ _).evolves
      · exact (Registry.drops_removeSinkIfSame _ _ _).evolves
      · exact .refl _
  | look callId expired idle =>
      show Advances system.shared (system.lookStep callId expired idle).2.shared
      unfold lookStep
      split
      · split <;> exact .refl _
      · exact .refl _
  | receive =>
      show Advances system.shared system.receiveStep.shared
      unfold receiveStep
      split
      · split <;> exact .refl _
      · exact .refl _
  | finalize finalized =>
      show Advances system.shared (system.finalizeStep finalized).shared
      unfold finalizeStep
      split <;> exact .refl _

variable (port) in
/-- A run keeps the registry sound. -/
theorem advances_after (system : EngineSystem Engine Operation Digest Sink)
    (actions : List (EngineAction Engine Begin Sink)) :
    Advances system.shared (system.after port actions).shared := by
  induction actions generalizing system with
  | nil => exact .refl _
  | cons action actions ih => exact (advances_step port system action).trans (ih _)

/-- The registry of a new system is sound. -/
theorem sound_new : (Registry.new : Registry Engine Operation Digest).Sound where
  owned := ⟨KeyedTable.all_empty, KeyedTable.all_empty, KeyedTable.all_empty⟩
  bounded := ⟨Nat.zero_le _, Nat.zero_le _, Nat.zero_le _, Nat.zero_le _⟩
  distinct {table other handle} held := by cases table <;> cases held
  allocated {table handle} held := by cases table <;> cases held

/-- After every run the registry is sound, and a handle that was live once and was released is not
live again. -/
theorem registry_integrity (port : EnginePort Engine Begin Operation Digest)
    (surroundings : Nat → Surroundings) (hasWorker : Bool)
    (before during later : List (EngineAction Engine Begin Sink)) :
    let start : EngineSystem Engine Operation Digest Sink := .new surroundings hasWorker
    (start.after port (before ++ during ++ later)).shared.registry.Sound ∧
      ∀ handle, (start.after port before).shared.registry.Live handle →
        ¬ (start.after port (before ++ during)).shared.registry.Live handle →
        ¬ (start.after port (before ++ during ++ later)).shared.registry.Live handle := by
  intro start
  have sound : ∀ actions, (start.after port actions).shared.registry.Sound :=
    fun actions => (advances_after port start actions).sound sound_new
  refine ⟨sound _, fun handle live released => ?_⟩
  obtain ⟨table, held⟩ := live
  have first : Advances (start.after port before).shared
      (start.after port (before ++ during)).shared := by
    unfold after
    rw [Runs.final_append]
    exact advances_after port _ during
  have second : Advances (start.after port (before ++ during)).shared
      (start.after port (before ++ during ++ later)).shared := by
    unfold after
    rw [Runs.final_append _ (before ++ during)]
    exact advances_after port _ later
  have allocated := Nat.lt_of_lt_of_le ((sound before).allocated held) first.nextHandle
  exact second.not_live allocated released

end EngineSystem
end Engine
end ReproItSdk
