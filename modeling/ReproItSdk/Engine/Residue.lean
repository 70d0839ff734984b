import ReproItSdk.Engine.Integrity
import ReproItSdk.Sentinel.Tracking

/-! # What the compact dependency calls leave behind

A dependency has an entry in the registry and an entry in the sentinel.  Every error exit of the
compact calls cleans both up, and a successful finish releases both.  Nothing else changes but the
operation the dependency belongs to.

Main results:

- Theorem {lit}`Touches.frames`: the calls on an observation leave the others alone.
- Theorem {lit}`meets_startDependency` and {lit}`meets_finishDependency`: where the error exits lead.
- Theorem {lit}`dependency_no_residue`: both calls in any reachable state.
-/

namespace ReproItSdk
namespace Engine

variable {Engine Begin Operation Digest Sink : Type}

/-! ## Other observations and operations -/

/-- The observation that the sentinel tracks under a handle. -/
def EngineState.active (state : EngineState Engine Operation Digest Sink)
    (observationHandle : Nat) : Option Sentinel.ActiveObservation :=
  state.sentinel.active observationHandle

/-- The entry of an open observation. -/
def EngineState.observation? (state : EngineState Engine Operation Digest Sink)
    (observationHandle : Nat) : Option (ObservationEntry Digest) :=
  state.registry.observations.lookup observationHandle

/-- Other observations and operations are as before. -/
structure Apart (observationHandle operationHandle : Nat)
    (before after : EngineState Engine Operation Digest Sink) : Prop where
  observations : ∀ handle, handle ≠ observationHandle →
    after.observation? handle = before.observation? handle
  active : ∀ handle, handle ≠ observationHandle → after.active handle = before.active handle
  operations : ∀ handle, handle ≠ operationHandle →
    after.registry.operations.lookup handle = before.registry.operations.lookup handle

instance (observationHandle operationHandle : Nat) :
    IsPreorder (EngineState Engine Operation Digest Sink)
      (Apart observationHandle operationHandle) where
  refl _ := ⟨fun _ _ => rfl, fun _ _ => rfl, fun _ _ => rfl⟩
  trans _ _ _ before after :=
    { observations := fun handle other =>
        (after.observations handle other).trans (before.observations handle other)
      active := fun handle other => (after.active handle other).trans (before.active handle other)
      operations := fun handle other =>
        (after.operations handle other).trans (before.operations handle other) }

/-- An observation belongs to an operation, if it is open. -/
def Belongs (observationHandle operationHandle : Nat)
    (state : EngineState Engine Operation Digest Sink) : Prop :=
  ∀ entry, state.observation? observationHandle = some entry →
    entry.operationHandle = operationHandle

/-- The calls on an observation of an operation leave the others alone. -/
def Frames (observationHandle operationHandle : Nat)
    (before after : EngineState Engine Operation Digest Sink) : Prop :=
  Belongs observationHandle operationHandle before →
    Belongs observationHandle operationHandle after ∧
      Apart observationHandle operationHandle before after

instance (observationHandle operationHandle : Nat) :
    IsPreorder (EngineState Engine Operation Digest Sink)
      (Frames observationHandle operationHandle) where
  refl state belongs := ⟨belongs, refl_of (Apart observationHandle operationHandle) state⟩
  trans _ _ _ before after belongs := by
    obtain ⟨middle, apart⟩ := before belongs
    obtain ⟨last, apart'⟩ := after middle
    exact ⟨last, trans_of (Apart observationHandle operationHandle) apart apart'⟩

/-- A step of a call on an observation leaves the others alone. -/
theorem ObservationStep.frames {port : EnginePort Engine Begin Operation Digest}
    {observationHandle operationHandle : Nat}
    {before after : EngineState Engine Operation Digest Sink}
    (step : ObservationStep port observationHandle before after) :
    Frames observationHandle operationHandle before after := by
  intro belongs
  cases step with
  | dispatched =>
      refine ⟨belongs, ⟨fun _ _ => rfl, fun handle other => ?_, fun _ _ => rfl⟩⟩
      refine (Sentinel.Controller.active_observationDispatched before.sentinel observationHandle
        handle (before.surroundings 0).threadId (before.surroundings 0).readings).trans ?_
      simp only [other, if_false, Option.map_id']
      rfl
  | finished =>
      refine ⟨belongs, ⟨fun _ _ => rfl, fun handle other => ?_, fun _ _ => rfl⟩⟩
      exact (Sentinel.Controller.active_observationFinished before.sentinel observationHandle
        handle (before.surroundings 0).readings).trans (if_neg other)
  | session entry session present =>
      refine ⟨?_, ⟨fun handle other => AList.lookup_insert_ne other, fun _ _ => rfl,
        fun _ _ => rfl⟩⟩
      intro updated found
      have same := found.symm.trans (AList.lookup_insert _)
      cases same
      exact belongs entry present
  | operation entry owner operation present owned moved =>
      refine ⟨belongs, ⟨fun _ _ => rfl, fun _ _ => rfl, fun handle other => ?_⟩⟩
      rw [← belongs entry present] at other
      exact AList.lookup_insert_ne other
  | release =>
      refine ⟨?_, ⟨fun handle other => AList.lookup_erase_ne other, fun _ _ => rfl,
        fun _ _ => rfl⟩⟩
      intro entry found
      have gone := found.symm.trans (AList.lookup_erase _ _)
      cases gone
  | noted entry outcome => exact ⟨belongs, ⟨fun _ _ => rfl, fun _ _ => rfl, fun _ _ => rfl⟩⟩

/-- The calls on an observation leave the others alone. -/
theorem Touches.frames {port : EnginePort Engine Begin Operation Digest}
    {observationHandle operationHandle : Nat}
    {before after : EngineState Engine Operation Digest Sink}
    (touches : Touches port observationHandle before after) :
    Frames observationHandle operationHandle before after := by
  induction touches with
  | refl => exact refl_of (Frames observationHandle operationHandle) before
  | tail _ step ih => exact trans_of (Frames observationHandle operationHandle) ih step.frames

/-! ## Released observations -/

/-- The observation is in neither table. -/
def Gone (observationHandle : Nat) (state : EngineState Engine Operation Digest Sink) : Prop :=
  state.observation? observationHandle = none ∧ state.active observationHandle = none

/-- The observation is open and has a session. -/
def SessionOpen (observationHandle : Nat)
    (state : EngineState Engine Operation Digest Sink) : Prop :=
  ∃ entry, state.observation? observationHandle = some entry ∧
    entry.semanticDependency.isSome = true

section Judgements

variable {port : EnginePort Engine Begin Operation Digest} {observationHandle : Nat} {α : Type}

/-- An observation that is dropped has no entry. -/
theorem observation?_invalidate (registry : Registry Engine Operation Digest) :
    (registry.invalidate port observationHandle).observations.lookup observationHandle = none := by
  unfold Registry.invalidate
  split
  · rename_i absent
    exact absent
  · split <;> exact AList.lookup_erase _ _

/-- A cleanup leaves the observation in neither table. -/
theorem meets_cleanupDependency {before : EngineState Engine Operation Digest Sink → Prop} :
    Fallible.Meets before (cleanupDependency port observationHandle)
      (fun _ => Gone observationHandle) fun _ => Gone observationHandle := by
  intro state _
  refine ⟨observation?_invalidate _, ?_⟩
  exact (Sentinel.Controller.active_observationFinished state.sentinel observationHandle
    observationHandle (state.surroundings 0).readings).trans (if_pos rfl)

/-- An error exit that cleans up. -/
theorem meets_or_cleanup {before : EngineState Engine Operation Digest Sink → Prop}
    {computation : EngineM Engine Operation Digest Sink α}
    {done : α → EngineState Engine Operation Digest Sink → Prop}
    (meets : Fallible.Meets before computation done fun _ _ => True) :
    Fallible.Meets before
      (Fallible.onError computation (cleanupDependency port observationHandle)) done
      fun _ => Gone observationHandle :=
  Fallible.Meets.onError meets fun _ => meets_cleanupDependency

/-- The session of an open observation with one is there. -/
theorem meets_requiredSession {failed : Error → EngineState Engine Operation Digest Sink → Prop} :
    Fallible.Meets (SessionOpen observationHandle) (requiredSession observationHandle)
      (fun _ => SessionOpen observationHandle) failed := by
  rintro state ⟨entry, present, semantic⟩
  obtain ⟨session, has⟩ := Option.isSome_iff_exists.mp semantic
  have found : state.registry.observations.lookup observationHandle = some entry := present
  simp only [requiredSession, observationEntry, bind, Fallible.bind, Fallible.find, found, has]
  exact ⟨entry, present, semantic⟩

/-- A call on a session keeps the session, whether it fails or not. -/
theorem meets_onSession {call : SemanticDependencySession Digest →
      Except Error α × SemanticDependencySession Digest} :
    Fallible.Meets (SessionOpen observationHandle) (onSession observationHandle call)
      (fun value (state : EngineState Engine Operation Digest Sink) =>
        value.isSome = true ∧ SessionOpen observationHandle state)
      fun _ => SessionOpen observationHandle := by
  rintro state ⟨entry, present, semantic⟩
  obtain ⟨session, has⟩ := Option.isSome_iff_exists.mp semantic
  rw [onSession_present present has]
  have kept : SessionOpen observationHandle
      (state.withRegistry (·.updateSession observationHandle entry (call session).2)) :=
    ⟨_, AList.lookup_insert _, rfl⟩
  cases (call session).1 with
  | error error => exact kept
  | ok value => exact ⟨rfl, kept⟩

/-- A call on an operation keeps the sessions. -/
theorem meets_onOperation {operationHandle : Nat}
    {call : Operation → Except Error α × Operation} :
    Fallible.Meets (SessionOpen observationHandle) (onOperation operationHandle call)
      (fun _ (state : EngineState Engine Operation Digest Sink) =>
        SessionOpen observationHandle state) fun _ _ => True := by
  rintro state opened
  cases present : state.registry.operations.lookup operationHandle with
  | none =>
      rw [onOperation_absent present]
      trivial
  | some owner =>
      rw [onOperation_present present]
      cases (call owner.operation).1 with
      | error error => trivial
      | ok value => exact opened

/-- Looking for something keeps what holds. -/
theorem meets_find {before : EngineState Engine Operation Digest Sink → Prop}
    (read : EngineState Engine Operation Digest Sink → Option α) (error : Error) :
    Fallible.Meets before (Fallible.find read error) (fun _ => before) fun _ _ => True :=
  Fallible.Meets.find (fun _ holds _ _ => holds) fun _ _ _ => trivial

/-- A check keeps what holds. -/
theorem meets_check {before : EngineState Engine Operation Digest Sink → Prop}
    (condition : EngineState Engine Operation Digest Sink → Bool) (error : Error) :
    Fallible.Meets before (Fallible.check condition error) (fun _ => before) fun _ _ => True := by
  intro state holds
  unfold Fallible.check
  cases condition state with
  | false => trivial
  | true => exact holds

/-- A call that drops the observation when it fails. -/
theorem meets_or_invalidate {before : EngineState Engine Operation Digest Sink → Prop}
    {computation : EngineM Engine Operation Digest Sink α}
    {done : α → EngineState Engine Operation Digest Sink → Prop}
    {failed : Error → EngineState Engine Operation Digest Sink → Prop}
    (meets : Fallible.Meets before computation done failed) :
    Fallible.Meets before
      (Fallible.onError computation (invalidateSemanticObservation port observationHandle)) done
      fun _ _ => True :=
  Fallible.Meets.onError meets fun _ => Fallible.Meets.modify fun _ _ => trivial

/-- A call on a session that drops the observation when it fails. -/
theorem meets_onSession_or_invalidate (call : SemanticDependencySession Digest →
      Except Error α × SemanticDependencySession Digest) :
    Fallible.Meets (SessionOpen observationHandle)
      (Fallible.onError (onSession observationHandle call)
        (invalidateSemanticObservation port observationHandle))
      (fun value (state : EngineState Engine Operation Digest Sink) =>
        value.isSome = true ∧ SessionOpen observationHandle state)
      fun _ _ => True :=
  meets_or_invalidate meets_onSession

/-- A write that succeeds keeps the session. -/
theorem meets_writeObservationBytes (stream : ObservationStreamInput) (chunk : Bytes) :
    Fallible.Meets (SessionOpen observationHandle)
      (writeObservationBytes port observationHandle stream chunk :
        EngineM Engine Operation Digest Sink _)
      (fun _ => SessionOpen observationHandle) fun _ _ => True := by
  refine Fallible.Meets.bind (meets_check _ _) fun _ => ?_
  refine Fallible.Meets.bind (meets_find _ _) fun entry => ?_
  refine Fallible.Meets.bind (meets_onSession_or_invalidate _) fun _ => ?_
  refine Fallible.Meets.bind (meets_find _ _) fun _ => ?_
  exact (meets_or_invalidate meets_onOperation).mono (fun _ both => both.2)
    (fun _ _ opened => opened) fun _ _ _ => trivial

/-- A record that is written keeps the session. -/
theorem meets_writeDependencyChunks (stream : ObservationStreamInput) (chunks : List Bytes) :
    Fallible.Meets (SessionOpen observationHandle)
      (writeDependencyChunks port observationHandle stream chunks :
        EngineM Engine Operation Digest Sink _)
      (fun _ => SessionOpen observationHandle) fun _ _ => True := by
  induction chunks with
  | nil => exact Fallible.Meets.pure fun _ opened => opened
  | cons chunk chunks ih =>
      exact Fallible.Meets.bind (meets_writeObservationBytes stream chunk) fun _ => ih

/-- A dispatch that succeeds keeps the session. -/
theorem meets_dispatchObservation :
    Fallible.Meets (SessionOpen observationHandle)
      (dispatchObservation port observationHandle : EngineM Engine Operation Digest Sink _)
      (fun _ => SessionOpen observationHandle) fun _ _ => True := by
  refine Fallible.Meets.bind (meets_find _ _) fun entry => ?_
  refine Fallible.Meets.bind (meets_onSession_or_invalidate _) fun _ => ?_
  refine Fallible.Meets.bind (meets_find _ _) fun _ => ?_
  exact (meets_or_invalidate meets_onOperation).mono (fun _ both => both.2)
    (fun _ _ opened => opened) fun _ _ _ => trivial

/-- A finish that succeeds releases the observation. -/
theorem meets_finishObservationInner (outcome : DependencyOutcome) (sessionPosition : Nat) :
    Fallible.Meets (SessionOpen observationHandle)
      (finishObservationInner port observationHandle outcome sessionPosition :
        EngineM Engine Operation Digest Sink _)
      (fun _ state => state.observation? observationHandle = none) fun _ _ => True := by
  refine Fallible.Meets.bind (meets_find _ _) fun entry => ?_
  refine Fallible.Meets.bind (meets_onSession_or_invalidate _) fun response => ?_
  refine Fallible.Meets.bind (meets_find _ _) fun _ => ?_
  refine Fallible.Meets.bind ((meets_or_invalidate meets_onOperation).mono
    (fun _ both => both.2) (fun _ _ opened => opened) fun _ _ _ => trivial) fun _ => ?_
  refine Fallible.Meets.bind (meets_find _ _) fun finished => ?_
  have released : Fallible.Meets (SessionOpen observationHandle)
      (changeRegistry (·.releaseObservation observationHandle) :
        EngineM Engine Operation Digest Sink _)
      (fun _ state => state.observation? observationHandle = none) fun _ _ => True :=
    Fallible.Meets.modify fun _ _ => AList.lookup_erase _ _
  refine Fallible.Meets.bind released fun _ => ?_
  exact fun state gone => gone

/-! ## The compact calls -/

/-- A call of the sentinel keeps the sessions. -/
theorem meets_tellSentinel (call : Surroundings → Sentinel.Call)
    {failed : Error → EngineState Engine Operation Digest Sink → Prop} :
    Fallible.Meets (SessionOpen observationHandle)
      (tellSentinel call : EngineM Engine Operation Digest Sink _)
      (fun _ => SessionOpen observationHandle) failed :=
  fun _ opened => opened

/-- A call on a session that cleans up when it fails. -/
theorem meets_onSession_or_cleanup (call : SemanticDependencySession Digest →
      Except Error α × SemanticDependencySession Digest) :
    Fallible.Meets (SessionOpen observationHandle)
      (Fallible.onError (onSession observationHandle call)
        (cleanupDependency port observationHandle))
      (fun value (state : EngineState Engine Operation Digest Sink) =>
        value.isSome = true ∧ SessionOpen observationHandle state)
      fun _ => Gone observationHandle :=
  meets_or_cleanup (meets_onSession.mono (fun _ opened => opened) (fun _ _ both => both)
    fun _ _ _ => trivial)

/-- What follows an open cleans up when it fails, and keeps the session otherwise. -/
theorem meets_startDependency (sessionPosition : Nat) (requestBytes : Bytes) :
    Fallible.Meets (SessionOpen observationHandle)
      (startDependency port observationHandle sessionPosition requestBytes :
        EngineM Engine Operation Digest Sink _)
      (fun _ => SessionOpen observationHandle) fun _ => Gone observationHandle := by
  refine Fallible.Meets.bind meets_requiredSession fun _ => ?_
  refine Fallible.Meets.bind (meets_onSession_or_cleanup _) fun _ => ?_
  refine Fallible.Meets.bind ((meets_or_cleanup (meets_writeDependencyChunks _ _)).mono
    (fun _ both => both.2) (fun _ _ opened => opened) fun _ _ gone => gone) fun _ => ?_
  refine Fallible.Meets.bind (meets_or_cleanup meets_dispatchObservation) fun action => ?_
  refine Fallible.Meets.bind (meets_tellSentinel _) fun _ => ?_
  refine Fallible.Meets.bind meets_requiredSession fun _ => ?_
  refine Fallible.Meets.bind (meets_onSession_or_cleanup _) fun _ => ?_
  exact Fallible.Meets.pure fun _ both => both.2

/-- A response that is written keeps the session. -/
theorem meets_writeDependencyResponse (response : Option SemanticDependencyResponseInput) :
    Fallible.Meets (SessionOpen observationHandle)
      (writeDependencyResponse port observationHandle response :
        EngineM Engine Operation Digest Sink _)
      (fun _ => SessionOpen observationHandle) fun _ => Gone observationHandle := by
  cases response with
  | none => exact Fallible.Meets.pure fun _ opened => opened
  | some response =>
      refine Fallible.Meets.bind meets_requiredSession fun session => ?_
      have canonical : Fallible.Meets (SessionOpen observationHandle)
          (Fallible.ofExcept (session.canonicalResponse port.dependencies response) :
            EngineM Engine Operation Digest Sink _)
          (fun _ => SessionOpen observationHandle) fun _ _ => True :=
        Fallible.Meets.ofExcept (fun _ _ _ opened => opened) fun _ _ _ _ => trivial
      refine Fallible.Meets.bind (meets_or_cleanup canonical) fun record => ?_
      refine Fallible.Meets.bind (meets_or_cleanup (meets_writeDependencyChunks _ _))
        fun _ => ?_
      refine Fallible.Meets.bind meets_requiredSession fun _ => ?_
      refine Fallible.Meets.bind (meets_onSession_or_cleanup _) fun _ => ?_
      exact Fallible.Meets.pure fun _ both => both.2

/-- A commit leaves the observation in neither table. -/
theorem meets_commitDependency (sessionPosition : Nat) :
    Fallible.Meets (SessionOpen observationHandle)
      (commitDependency port observationHandle sessionPosition :
        EngineM Engine Operation Digest Sink _)
      (fun _ => Gone observationHandle) fun _ => Gone observationHandle := by
  refine Fallible.Meets.bind meets_requiredSession fun _ => ?_
  refine Fallible.Meets.bind (meets_onSession_or_cleanup _) fun response => ?_
  have found : Fallible.Meets
      (fun state => response.isSome = true ∧ SessionOpen observationHandle state)
      (Fallible.find (fun _ => response) invalidDependency :
        EngineM Engine Operation Digest Sink _)
      (fun _ => SessionOpen observationHandle) fun _ => Gone observationHandle := by
    refine Fallible.Meets.find (fun _ both _ _ => both.2) fun _ both absent => ?_
    rw [absent] at both
    cases both.1
  refine Fallible.Meets.bind found fun response => ?_
  refine Fallible.Meets.bind (meets_or_cleanup (meets_finishObservationInner _ _))
    fun finished => ?_
  refine Fallible.Meets.bind (meets_or_cleanup (meets_find _ _)) fun _ => ?_
  have told : Fallible.Meets (fun state => state.observation? observationHandle = none)
      (tellSentinel (fun met => .observationFinished observationHandle met.readings) :
        EngineM Engine Operation Digest Sink _)
      (fun _ => Gone observationHandle) fun _ => Gone observationHandle := by
    intro state released
    exact ⟨released, (Sentinel.Controller.active_observationFinished state.sentinel
      observationHandle observationHandle (state.surroundings 0).readings).trans (if_pos rfl)⟩
  exact Fallible.Meets.bind told fun _ => Fallible.Meets.pure fun _ gone => gone

/-- A finish that finds the observation leaves it in neither table. -/
theorem meets_finishDependency (response : Option SemanticDependencyResponseInput) :
    Fallible.Meets (fun state => (state.observation? observationHandle).isSome = true)
      (finishDependency port observationHandle response :
        EngineM Engine Operation Digest Sink _)
      (fun _ => Gone observationHandle) fun _ => Gone observationHandle := by
  have present : Fallible.Meets
      (fun state => (state.observation? observationHandle).isSome = true)
      (observationEntry observationHandle : EngineM Engine Operation Digest Sink _)
      (fun entry state => state.observation? observationHandle = some entry)
      fun _ => Gone observationHandle := by
    refine Fallible.Meets.find (fun _ _ _ found => found) fun state opened absent => ?_
    rw [EngineState.observation?, absent] at opened
    cases opened
  refine Fallible.Meets.bind present fun entry => ?_
  have bound : Fallible.Meets
      (fun state : EngineState Engine Operation Digest Sink =>
        state.observation? observationHandle = some entry)
      (Fallible.ofExcept (boundSessionPosition entry)) (fun _ => SessionOpen observationHandle)
      fun _ _ => True := by
    refine Fallible.Meets.ofExcept (fun position same state found => ?_) fun _ _ _ _ => trivial
    refine ⟨entry, found, ?_⟩
    unfold boundSessionPosition at same
    split at same
    · cases same
    · rename_i has
      rw [has]
      rfl
  refine Fallible.Meets.bind (meets_or_cleanup bound) fun sessionPosition => ?_
  refine Fallible.Meets.bind meets_requiredSession fun session => ?_
  have valid : Fallible.Meets (SessionOpen observationHandle)
      (Fallible.ofExcept (session.validateFinishInput response.isSome) :
        EngineM Engine Operation Digest Sink _)
      (fun _ => SessionOpen observationHandle) fun _ _ => True :=
    Fallible.Meets.ofExcept (fun _ _ _ opened => opened) fun _ _ _ _ => trivial
  refine Fallible.Meets.bind (meets_or_cleanup valid) fun _ => ?_
  exact Fallible.Meets.bind (meets_writeDependencyResponse response)
    fun _ => meets_commitDependency sessionPosition

end Judgements

/-! ## What the sentinel tracks -/

/-- A dropped operation takes its observations along. -/
theorem active_detach {state : EngineState Engine Operation Digest Sink}
    {operationHandle handle : Nat} {observation : Sentinel.ActiveObservation} :
    (state.detach operationHandle).active handle = some observation ↔
      state.active handle = some observation ∧ observation.operationHandle ≠ operationHandle :=
  Sentinel.Controller.active_removeOperation

/-- Dropped operations take their observations along. -/
theorem active_foldl_detach (operationHandles : List Nat)
    (state : EngineState Engine Operation Digest Sink) {handle : Nat}
    {observation : Sentinel.ActiveObservation} :
    (operationHandles.foldl EngineState.detach state).active handle = some observation ↔
      state.active handle = some observation ∧
        observation.operationHandle ∉ operationHandles := by
  induction operationHandles generalizing state with
  | nil => simp
  | cons operationHandle operationHandles ih =>
      rw [List.foldl_cons, ih, active_detach, List.mem_cons, not_or, and_assoc]

/-- Cancelling tasks leaves the sentinel alone. -/
theorem sentinel_cancelTasks (tasks : List Nat)
    (state : EngineState Engine Operation Digest Sink) :
    (state.cancelTasks tasks).sentinel = state.sentinel := by
  induction tasks generalizing state with
  | nil => rfl
  | cons task tasks ih => exact ih (state.cancelTask task)

/-- A closed engine takes the observations of its operations along. -/
theorem active_closeEngine {state : EngineState Engine Operation Digest Sink}
    {engineHandle handle : Nat} {observation : Sentinel.ActiveObservation}
    (tracked : (state.closeEngine engineHandle).active handle = some observation) :
    state.active handle = some observation ∧
      observation.operationHandle ∉ state.registry.operationsOf engineHandle := by
  have open' := Sentinel.Controller.active_engineClosed tracked
  refine (active_foldl_detach (state.registry.operationsOf engineHandle)
    (state.withRegistry fun registry =>
      { registry with engines := registry.engines.erase engineHandle })).mp ?_
  simp only [EngineState.removeEngineSinks, EngineState.withRegistry, EngineState.noted,
    sentinel_cancelTasks] at open'
  exact open'

/-- Where a tracked observation comes from: it was tracked before, or it has just been opened. -/
def Explained (state : EngineState Engine Operation Digest Sink) (handle : Nat)
    (observation : Sentinel.ActiveObservation) : Prop :=
  (∃ old, state.active handle = some old ∧
    old.operationHandle = observation.operationHandle) ∨
  ∃ entry, state.observation? handle = some entry ∧
    entry.operationHandle = observation.operationHandle

/-- A call of the sentinel that opens nothing. -/
theorem explained_of_quiet {state : EngineState Engine Operation Digest Sink}
    {call : Surroundings → Sentinel.Call} (quiet : Quiet (call (state.surroundings 0)))
    {handle : Nat} {observation : Sentinel.ActiveObservation}
    (tracked : (state.afterSentinel call).active handle = some observation) :
    Explained state handle observation := by
  have source := Sentinel.Controller.tracked_step tracked
  generalize called : call (state.surroundings 0) = made at source quiet
  cases source with
  | before call old was same => exact .inl ⟨old, was, same⟩
  | opened observationClass readings => exact absurd rfl (quiet _ _ _ _)

/-- A step of a call on an observation. -/
theorem ObservationStep.explains {port : EnginePort Engine Begin Operation Digest}
    {observationHandle : Nat} {before after : EngineState Engine Operation Digest Sink}
    (step : ObservationStep port observationHandle before after) {handle : Nat}
    {observation : Sentinel.ActiveObservation}
    (tracked : after.active handle = some observation) : Explained before handle observation := by
  cases step with
  | dispatched => exact explained_of_quiet (quiet_simple.2.2.2.1 _ _ _) tracked
  | finished => exact explained_of_quiet (quiet_simple.2.2.2.2 _ _) tracked
  | session entry session present => exact .inl ⟨observation, tracked, rfl⟩
  | operation entry owner operation present owned moved => exact .inl ⟨observation, tracked, rfl⟩
  | release => exact .inl ⟨observation, tracked, rfl⟩
  | noted entry outcome => exact .inl ⟨observation, tracked, rfl⟩

/-- A step that names no observation explains what the sentinel tracks after it. -/
theorem TableStep.explains {port : EnginePort Engine Begin Operation Digest}
    {before after : EngineState Engine Operation Digest Sink}
    (step : TableStep port before after) {handle : Nat}
    {observation : Sentinel.ActiveObservation}
    (tracked : after.active handle = some observation) : Explained before handle observation := by
  cases step with
  | heard call quiet => exact explained_of_quiet (quiet _) tracked
  | announced observationHandle entry observationClass present =>
      rcases Sentinel.Controller.active_observationOpened before.sentinel observationHandle
        entry.operationHandle handle observationClass (before.surroundings 0).readings with
        old | ⟨rfl, new⟩
      · exact .inl ⟨observation, old.symm.trans tracked, rfl⟩
      · have same := new.symm.trans tracked
        cases same
        exact .inr ⟨entry, present, rfl⟩
  | detached operationHandle => exact .inl ⟨observation, (active_detach.mp tracked).1, rfl⟩
  | ended operationHandle how entry present =>
      have kept : (before.detach operationHandle).active handle = some observation := tracked
      exact .inl ⟨observation, (active_detach.mp kept).1, rfl⟩
  | engineClosed engineHandle =>
      exact .inl ⟨observation, (active_closeEngine tracked).1, rfl⟩
  | entrusted entry job present room =>
      have kept : (before.detach job.operationHandle).active handle = some observation := tracked
      exact .inl ⟨observation, (active_detach.mp kept).1, rfl⟩
  | operation operationHandle entry operation present moved =>
      exact .inl ⟨observation, tracked, rfl⟩
  | skipped => exact .inl ⟨observation, tracked, rfl⟩
  | engineOpened engine room => exact .inl ⟨observation, tracked, rfl⟩
  | operationStarted entry room owned => exact .inl ⟨observation, tracked, rfl⟩
  | observationOpened entry room owned => exact .inl ⟨observation, tracked, rfl⟩

/-- Every step explains what the sentinel tracks after it. -/
theorem EngineStep.explains {port : EnginePort Engine Begin Operation Digest}
    {before after : EngineState Engine Operation Digest Sink}
    (step : EngineStep port before after) {handle : Nat}
    {observation : Sentinel.ActiveObservation}
    (tracked : after.active handle = some observation) : Explained before handle observation := by
  cases step with
  | observation observationHandle step => exact step.explains tracked
  | table step => exact step.explains tracked

/-! ## Fresh handles -/

/-- The registry is sound, and the sentinel tracks no handle that was not given out. -/
structure Fresh (state : EngineState Engine Operation Digest Sink) : Prop where
  sound : state.registry.Sound
  active : ∀ handle observation, state.active handle = some observation →
    handle < state.registry.nextHandle

/-- The next handle is unused. -/
theorem Fresh.unused {state : EngineState Engine Operation Digest Sink} (fresh : Fresh state) :
    state.observation? state.registry.nextHandle = none ∧
      state.active state.registry.nextHandle = none := by
  constructor
  · by_contra present
    have held : state.registry.holds .observations state.registry.nextHandle = true :=
      Option.isSome_iff_ne_none.mpr present
    exact Nat.lt_irrefl _ (fresh.sound.allocated held)
  · by_contra present
    obtain ⟨observation, tracked⟩ := Option.ne_none_iff_exists'.mp present
    exact Nat.lt_irrefl _ (fresh.active _ observation tracked)

/-- A step keeps the handles fresh. -/
theorem EngineStep.fresh {port : EnginePort Engine Begin Operation Digest}
    {before after : EngineState Engine Operation Digest Sink}
    (step : EngineStep port before after) (fresh : Fresh before) : Fresh after := by
  refine ⟨step.advances.sound fresh.sound, ?_⟩
  intro handle observation tracked
  refine Nat.lt_of_lt_of_le ?_ step.advances.nextHandle
  rcases step.explains tracked with ⟨old, was, -⟩ | ⟨entry, present, -⟩
  · exact fresh.active handle old was
  · have held : before.registry.holds .observations handle = true :=
      Option.isSome_iff_exists.mpr ⟨entry, present⟩
    exact fresh.sound.allocated held

/-- Every step of the system keeps the handles fresh. -/
theorem fresh_step (port : EnginePort Engine Begin Operation Digest)
    (system : EngineSystem Engine Operation Digest Sink)
    (action : EngineAction Engine Begin Sink) (fresh : Fresh system.shared) :
    Fresh (EngineSystem.step port system action).2.shared := by
  rcases EngineSystem.shared_step port system action with made | apart
  · have kept : ∀ next, EngineSteps port system.shared next → Fresh next := by
      intro next made
      induction made with
      | refl => exact fresh
      | tail _ step still => exact step.fresh still
    exact kept _ made
  · refine ⟨(EngineSystem.advances_step port system action).sound fresh.sound, ?_⟩
    intro handle observation tracked
    rw [EngineState.active, apart.sentinel] at tracked
    rw [apart.nextHandle]
    exact fresh.active handle observation tracked

/-- Every run keeps the handles fresh. -/
theorem fresh_after (port : EnginePort Engine Begin Operation Digest)
    (surroundings : Nat → Surroundings) (hasWorker : Bool)
    (actions : List (EngineAction Engine Begin Sink)) :
    Fresh ((EngineSystem.new surroundings hasWorker :
      EngineSystem Engine Operation Digest Sink).after port actions).shared := by
  have kept : ∀ (actions : List (EngineAction Engine Begin Sink))
      (system : EngineSystem Engine Operation Digest Sink), Fresh system.shared →
      Fresh (system.after port actions).shared := by
    intro actions
    induction actions with
    | nil => exact fun _ fresh => fresh
    | cons action actions ih => exact fun system fresh => ih _ (fresh_step port system action fresh)
  refine kept actions _ ⟨EngineSystem.sound_new, ?_⟩
  intro handle observation tracked
  cases tracked

/-! ## The compact calls in any reachable state -/

/-- The class that an operation of a dependency belongs to. -/
def observationClassOf : SemanticDependencyOperation → AutomaticObservationClass
  | .databaseExecute => .database
  | .outboundHttpRequest => .outboundHttp
  | .queuePublish => .queue

/-- Validation refuses a request whose class does not fit its operation. -/
def DependencyCodec.MatchesClasses (codec : DependencyCodec Digest) : Prop :=
  ∀ request, codec.requests.validate request = .ok () →
    request.observationClass = observationClassOf request.operation

section Reachable

variable {port : EnginePort Engine Begin Operation Digest}
  {state : EngineState Engine Operation Digest Sink}

/-- The class of a valid request has sessions. -/
theorem forClass_of_canonicalRequest (matching : port.dependencies.MatchesClasses)
    {request : SemanticDependencyRequestInput} {bytes : Bytes}
    (valid : SemanticDependencySession.canonicalRequest port.dependencies request = .ok bytes) :
    (SemanticDependencySession.forClass request.observationClass :
      Option (SemanticDependencySession Digest)).isSome = true := by
  unfold SemanticDependencySession.canonicalRequest at valid
  split at valid
  · cases valid
  · rename_i accepted
    have fits : request.observationClass = observationClassOf request.operation :=
      matching request.intoRequest accepted
    unfold SemanticDependencySession.forClass
    rw [fits]
    cases request.operation <;> rfl

/-- What an open leaves: on success a new observation, otherwise the tables as they were. -/
theorem openDependency_leaves (matching : port.dependencies.MatchesClasses) (fresh : Fresh state)
    (operationHandle : Nat) (causalParentId : Option OperationId)
    (request : SemanticDependencyRequestInput) :
    Apart state.registry.nextHandle operationHandle state
        (openDependency port operationHandle causalParentId request state).2 ∧
      ∀ error, (openDependency port operationHandle causalParentId request state).1 =
        .error error →
        Gone state.registry.nextHandle
          (openDependency port operationHandle causalParentId request state).2 := by
  unfold openDependency
  simp only [bind, Fallible.bind, Fallible.ofExcept]
  cases valid : SemanticDependencySession.canonicalRequest port.dependencies request with
  | error error =>
      exact ⟨refl_of (Apart state.registry.nextHandle operationHandle) state,
        fun _ _ => fresh.unused⟩
  | ok bytes =>
      have effect := openObservation_effect port operationHandle request.observationClass
        causalParentId state
      dsimp only
      generalize openObservation port operationHandle request.observationClass causalParentId
        state = outcome at effect ⊢
      rcases outcome with ⟨reply, next⟩
      change OpenEffect port operationHandle request.observationClass causalParentId state reply
        next at effect
      cases effect with
      | refused error refuses =>
          exact ⟨refl_of (Apart state.registry.nextHandle operationHandle) state,
            fun _ _ => fresh.unused⟩
      | unknown absent =>
          exact ⟨⟨fun _ _ => rfl, fun _ _ => rfl, fun _ _ => rfl⟩, fun _ _ => fresh.unused⟩
      | failed error owner operation owned opens =>
          exact ⟨⟨fun _ _ => rfl, fun _ _ => rfl,
            fun handle other => AList.lookup_insert_ne other⟩, fun _ _ => fresh.unused⟩
      | opened owner operation position room owned opens =>
          let entry : ObservationEntry Digest :=
            { operationHandle := operationHandle
              semanticDependency := SemanticDependencySession.forClass request.observationClass }
          let announced := state.opened operationHandle owner operation request.observationClass
          have present : announced.observation? state.registry.nextHandle = some entry :=
            AList.lookup_insert _
          have belongs : Belongs state.registry.nextHandle operationHandle announced := by
            intro other found
            have same := found.symm.trans present
            cases same
            rfl
          have begun : Apart state.registry.nextHandle operationHandle state announced := by
            refine ⟨fun handle other => AList.lookup_insert_ne other, fun handle other => ?_,
              fun handle other => AList.lookup_insert_ne other⟩
            rcases Sentinel.Controller.active_observationOpened state.sentinel
              state.registry.nextHandle operationHandle handle request.observationClass
              (state.surroundings 0).readings with old | ⟨same, -⟩
            · exact old
            · exact absurd same other
          have touches : Touches port state.registry.nextHandle announced _ :=
            touches_startDependency position bytes announced
          have apart := (touches.frames belongs).2
          have leaves : Fallible.Outcome _ _
              (startDependency port state.registry.nextHandle position bytes announced) :=
            meets_startDependency position bytes announced
              ⟨entry, present, forClass_of_canonicalRequest matching valid⟩
          exact ⟨trans_of (Apart state.registry.nextHandle operationHandle) begun apart,
            fun error failed => leaves.error failed⟩

variable (port) in
/-- What a finish leaves: the observation is in neither table. -/
theorem finishDependency_leaves {dependencyHandle : Nat} {entry : ObservationEntry Digest}
    (present : state.observation? dependencyHandle = some entry)
    (response : Option SemanticDependencyResponseInput) :
    Apart dependencyHandle entry.operationHandle state
        (finishDependency port dependencyHandle response state).2 ∧
      Gone dependencyHandle (finishDependency port dependencyHandle response state).2 := by
  constructor
  · have touches : Touches port dependencyHandle state _ :=
      touches_finishDependency response state
    refine (touches.frames fun other found => ?_).2
    rw [present] at found
    cases found
    rfl
  · have leaves : Fallible.Outcome _ _ (finishDependency port dependencyHandle response state) :=
      meets_finishDependency response state (Option.isSome_iff_exists.mpr ⟨entry, present⟩)
    generalize finishDependency port dependencyHandle response state = outcome at leaves ⊢
    rcases outcome with ⟨error | value, next⟩ <;> exact leaves

/-- A finish of an unknown observation does nothing. -/
theorem finishDependency_unknown {dependencyHandle : Nat}
    (absent : state.observation? dependencyHandle = none)
    (response : Option SemanticDependencyResponseInput) :
    finishDependency port dependencyHandle response state = (.error handleNotFound, state) := by
  have missing : state.registry.observations.lookup dependencyHandle = none := absent
  simp only [finishDependency, observationEntry, bind, Fallible.bind, Fallible.find, missing]

end Reachable

/-- In any reachable state, an open that fails leaves both tables as they were, and a finish that
does not answer that the handle is unknown leaves the observation in neither.  Other observations
and operations are as before. -/
theorem dependency_no_residue (port : EnginePort Engine Begin Operation Digest)
    (matching : port.dependencies.MatchesClasses) (surroundings : Nat → Surroundings)
    (hasWorker : Bool) (actions : List (EngineAction Engine Begin Sink)) :
    let state := ((EngineSystem.new surroundings hasWorker :
      EngineSystem Engine Operation Digest Sink).after port actions).shared
    (∀ causalParentId operationHandle request,
      let outcome := dispatchImmediate port
        (.dependencyOpen causalParentId operationHandle request) state
      Apart state.registry.nextHandle operationHandle state outcome.2 ∧
        ∀ error, outcome.1 = .error error → ∀ handle,
          outcome.2.observation? handle = state.observation? handle ∧
            outcome.2.active handle = state.active handle) ∧
    ∀ dependencyHandle response,
      let outcome := dispatchImmediate port (.dependencyFinish dependencyHandle response) state
      (∀ entry, state.observation? dependencyHandle = some entry →
        Apart dependencyHandle entry.operationHandle state outcome.2) ∧
      (state.observation? dependencyHandle = none → outcome.2 = state) ∧
      ((∀ error, outcome.1 = .error error → error.code ≠ .notFound) →
        Gone dependencyHandle outcome.2) := by
  intro state
  have fresh : Fresh state := fresh_after port surroundings hasWorker actions
  constructor
  · intro causalParentId operationHandle request outcome
    obtain ⟨apart, fails⟩ :=
      openDependency_leaves matching fresh operationHandle causalParentId request
    refine ⟨apart, fun error failed handle => ?_⟩
    by_cases other : handle = state.registry.nextHandle
    · subst other
      obtain ⟨entry, active⟩ := fails error failed
      obtain ⟨unusedEntry, unusedActive⟩ := fresh.unused
      exact ⟨entry.trans unusedEntry.symm, active.trans unusedActive.symm⟩
    · exact ⟨apart.observations handle other, apart.active handle other⟩
  · intro dependencyHandle response outcome
    cases present : state.observation? dependencyHandle with
    | none =>
        have unknown : outcome = (.error handleNotFound, state) :=
          finishDependency_unknown present response
        refine ⟨(fun _ found => by cases found), fun _ => congrArg Prod.snd unknown, ?_⟩
        intro known
        exact absurd rfl (known handleNotFound (congrArg Prod.fst unknown))
    | some entry =>
        obtain ⟨apart, gone⟩ := finishDependency_leaves port present response
        refine ⟨?_, (fun absent => by cases absent), fun _ => gone⟩
        rintro other ⟨⟩
        exact apart

/-- A port whose requests validate if their class fits. -/
def strictPort : EnginePort Unit Unit Unit Unit :=
  { plainPort with
    dependencies :=
      { plainPort.dependencies with
        requests :=
          { plainPort.dependencies.requests with
            validate := fun request =>
              if request.observationClass = observationClassOf request.operation then .ok ()
              else .error plainError } } }

/-- A finish on a fresh engine leaves nothing. -/
theorem dependency_no_residue_strict :
    let state := ((EngineSystem.new (fun _ => plainSurroundings) true :
      EngineSystem Unit Unit Unit Unit).after strictPort
        [.call { format := callFormat, call := .engineOpen (.ok ()) },
          .call { format := callFormat, call := .operationBegin () 1 },
          .call { format := callFormat, call := .observationOpen none .database 2 }]).shared
    state.observation? 3 ≠ none ∧
      Gone 3 (dispatchImmediate strictPort (.dependencyFinish 3 none) state).2 := by
  have matching : strictPort.dependencies.MatchesClasses := by
    intro request valid
    by_contra different
    have refused : strictPort.dependencies.requests.validate request = .error plainError :=
      if_neg different
    rw [refused] at valid
    cases valid
  obtain ⟨-, finishes⟩ := dependency_no_residue strictPort matching
    (fun _ => plainSurroundings) true
    ([.call { format := callFormat, call := .engineOpen (.ok ()) },
      .call { format := callFormat, call := .operationBegin () 1 },
      .call { format := callFormat, call := .observationOpen none .database 2 }] :
        List (EngineAction Unit Unit Unit))
  obtain ⟨-, -, gone⟩ := finishes 3 none
  refine ⟨by decide, gone ?_⟩
  rintro error failed
  have refused : (invalidDependency : Error) = error := by
    injection failed
  rw [← refused]
  decide

end Engine
end ReproItSdk
