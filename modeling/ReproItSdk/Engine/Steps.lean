import ReproItSdk.Engine.System

/-! # What the calls on one observation touch

Every call on an observation is a sequence of small steps: it tells the sentinel of the observation,
changes the session, calls the operation the observation belongs to, releases the handle or notes a
commit.  The steps name no other observation and no other operation.

Main results:

- Theorem {lit}`touches_writeObservationBytes` and its siblings: the observation calls are such
  sequences.
- Theorems {lit}`touches_startDependency` and {lit}`touches_finishDependency`: so are the compact
  dependency calls, apart from opening the observation.
-/

namespace ReproItSdk
namespace Engine

variable {Engine Begin Operation Digest Sink : Type}

/-! ## Calls on one entry -/

section Entries

variable {state : EngineState Engine Operation Digest Sink} {α : Type}

/-- A call on an operation that is not live fails. -/
theorem onOperation_absent {operationHandle : Nat} {call : Operation → Except Error α × Operation}
    (absent : state.registry.operations.lookup operationHandle = none) :
    onOperation operationHandle call state = (.error handleNotFound, state) := by
  simp only [onOperation, operationEntry, bind, Fallible.bind, Fallible.find, absent]

/-- A call on a live operation stores what it leaves. -/
theorem onOperation_present {operationHandle : Nat}
    {call : Operation → Except Error α × Operation} {entry : OperationEntry Operation}
    (present : state.registry.operations.lookup operationHandle = some entry) :
    onOperation operationHandle call state =
      ((call entry.operation).1,
        state.withRegistry (·.updateOperation operationHandle entry (call entry.operation).2)) := by
  simp only [onOperation, operationEntry, bind, Fallible.bind, Fallible.find, present,
    changeRegistry, Fallible.modify, Fallible.ofExcept]

variable {observationHandle : Nat}
  {call : SemanticDependencySession Digest → Except Error α × SemanticDependencySession Digest}

/-- A call on the session of an unknown observation fails. -/
theorem onSession_absent
    (absent : state.registry.observations.lookup observationHandle = none) :
    onSession observationHandle call state = (.error handleNotFound, state) := by
  simp only [onSession, observationEntry, bind, Fallible.bind, Fallible.find, absent]

/-- An observation without session needs no call. -/
theorem onSession_plain {entry : ObservationEntry Digest}
    (present : state.registry.observations.lookup observationHandle = some entry)
    (plain : entry.semanticDependency = none) :
    onSession observationHandle call state = (.ok none, state) := by
  simp only [onSession, observationEntry, bind, Fallible.bind, Fallible.find, present, plain, pure,
    Fallible.pure]

/-- A call on a session stores what it leaves. -/
theorem onSession_present {entry : ObservationEntry Digest}
    {session : SemanticDependencySession Digest}
    (present : state.registry.observations.lookup observationHandle = some entry)
    (semantic : entry.semanticDependency = some session) :
    onSession observationHandle call state =
      ((call session).1.map some,
        state.withRegistry (·.updateSession observationHandle entry (call session).2)) := by
  simp only [onSession, observationEntry, bind, Fallible.bind, Fallible.find, present, semantic,
    changeRegistry, Fallible.modify, Fallible.ofExcept]
  cases (call session).1 <;> rfl

end Entries

/-! ## Steps -/

/-- What one call of the port makes of an operation. -/
inductive EnginePort.Moves (port : EnginePort Engine Begin Operation Digest) :
    Operation → Operation → Prop
  | openObservation (operation : Operation) (sessionId : Nat)
      (observationClass : AutomaticObservationClass) (causalParentId : Option OperationId) :
      port.Moves operation
        (port.openObservation operation sessionId observationClass causalParentId).2
  | recordInput (operation : Operation) (input : OperationInputPayload) :
      port.Moves operation (port.recordInput operation input).2
  | writeObservation (operation : Operation) (sessionId : Nat) (stream : ObservationStreamInput)
      (chunk : Bytes) :
      port.Moves operation (port.writeObservation operation sessionId stream chunk).2
  | dispatchObservation (operation : Operation) (sessionId : Nat) :
      port.Moves operation (port.dispatchObservation operation sessionId).2
  | readObservationResponse (operation : Operation) (sessionId : Nat) :
      port.Moves operation (port.readObservationResponse operation sessionId).2
  | finishObservation (operation : Operation) (sessionId : Nat) (outcome : DependencyOutcome)
      (sessionPosition : Nat) :
      port.Moves operation
        (port.finishObservation operation sessionId outcome sessionPosition).2
  | abandonObservation (operation : Operation) (sessionId : Nat) :
      port.Moves operation (port.abandonObservation operation sessionId).2
  | markUnowned (operation : Operation) (observationClass : AutomaticObservationClass)
      (causalParentId : Option OperationId) (evidence : Bytes) :
      port.Moves operation
        (port.markUnowned operation observationClass causalParentId evidence).2
  | bindNativeSentinelCoverage (operation : Operation) (evidence : Bytes) :
      port.Moves operation (port.bindNativeSentinelCoverage operation evidence).2
  | closeWorld (operation : Operation) (completion : TriggerCompletion) :
      port.Moves operation (port.closeWorld operation completion).2

/-- One step of a call on an observation. -/
inductive ObservationStep (port : EnginePort Engine Begin Operation Digest)
    (observationHandle : Nat) :
    EngineState Engine Operation Digest Sink → EngineState Engine Operation Digest Sink → Prop
  | dispatched (state : EngineState Engine Operation Digest Sink) :
      ObservationStep port observationHandle state (state.afterSentinel fun met =>
        .observationDispatched observationHandle met.threadId met.readings)
  | finished (state : EngineState Engine Operation Digest Sink) :
      ObservationStep port observationHandle state (state.afterSentinel fun met =>
        .observationFinished observationHandle met.readings)
  | session (state : EngineState Engine Operation Digest Sink) (entry : ObservationEntry Digest)
      (session : SemanticDependencySession Digest)
      (present : state.registry.observations.lookup observationHandle = some entry) :
      ObservationStep port observationHandle state
        (state.withRegistry (·.updateSession observationHandle entry session))
  | operation (state : EngineState Engine Operation Digest Sink) (entry : ObservationEntry Digest)
      (owner : OperationEntry Operation) (operation : Operation)
      (present : state.registry.observations.lookup observationHandle = some entry)
      (owned : state.registry.operations.lookup entry.operationHandle = some owner)
      (moved : port.Moves owner.operation operation) :
      ObservationStep port observationHandle state
        (state.withRegistry (·.updateOperation entry.operationHandle owner operation))
  | release (state : EngineState Engine Operation Digest Sink) :
      ObservationStep port observationHandle state
        (state.withRegistry (·.releaseObservation observationHandle))
  | noted (state : EngineState Engine Operation Digest Sink) (entry : ObservationEntry Digest)
      (outcome : DependencyOutcome) :
      ObservationStep port observationHandle state
        (state.noted [.committed observationHandle entry outcome])

/-- What calls on an observation do to the state. -/
abbrev Touches (port : EnginePort Engine Begin Operation Digest) (observationHandle : Nat) :
    EngineState Engine Operation Digest Sink → EngineState Engine Operation Digest Sink → Prop :=
  Relation.ReflTransGen (ObservationStep port observationHandle)

instance (port : EnginePort Engine Begin Operation Digest) (observationHandle : Nat) :
    IsPreorder (EngineState Engine Operation Digest Sink) (Touches port observationHandle) where
  refl _ := .refl
  trans _ _ _ := .trans

/-- The observation is open and belongs to the operation. -/
def Owns (observationHandle operationHandle : Nat)
    (state : EngineState Engine Operation Digest Sink) : Prop :=
  ∃ entry, state.registry.observations.lookup observationHandle = some entry ∧
    entry.operationHandle = operationHandle

/-! ## Parts of the calls -/

section Parts

variable {port : EnginePort Engine Begin Operation Digest} {α : Type}
  {observationHandle operationHandle : Nat}

/-- Looking an observation up tells whom it belongs to. -/
theorem moves_observationEntry :
    Fallible.Moves (Touches port observationHandle) (fun _ => True)
      (observationEntry observationHandle : EngineM Engine Operation Digest Sink _)
      fun entry state => state.registry.observations.lookup observationHandle = some entry :=
  Fallible.Moves.find fun _ _ _ present => present

/-- A call on the session keeps the owner. -/
theorem moves_onSession
    (call : SemanticDependencySession Digest → Except Error α × SemanticDependencySession Digest) :
    Fallible.Moves (Touches port observationHandle) (Owns observationHandle operationHandle)
      (onSession observationHandle call : EngineM Engine Operation Digest Sink _)
      fun _ => Owns observationHandle operationHandle := by
  rintro state ⟨entry, present, owner⟩
  cases semantic : entry.semanticDependency with
  | none =>
      rw [onSession_plain present semantic]
      exact ⟨.refl, fun _ _ => ⟨entry, present, owner⟩⟩
  | some session =>
      rw [onSession_present present semantic]
      exact ⟨.single (.session state entry _ present),
        fun _ _ => ⟨_, AList.lookup_insert _, owner⟩⟩

/-- Looking the operation up changes nothing. -/
theorem moves_operationEntry (handle : Nat) :
    Fallible.Moves (Touches port observationHandle) (Owns observationHandle operationHandle)
      (operationEntry handle : EngineM Engine Operation Digest Sink _)
      fun _ => Owns observationHandle operationHandle :=
  Fallible.Moves.find fun _ owns _ _ => owns

/-- A call on the owner keeps the owner. -/
theorem moves_onOperation {call : Operation → Except Error α × Operation}
    (moved : ∀ operation, port.Moves operation (call operation).2) :
    Fallible.Moves (Touches port observationHandle) (Owns observationHandle operationHandle)
      (onOperation operationHandle call : EngineM Engine Operation Digest Sink _)
      fun _ => Owns observationHandle operationHandle := by
  rintro state ⟨entry, present, rfl⟩
  cases owned : state.registry.operations.lookup entry.operationHandle with
  | none =>
      rw [onOperation_absent owned]
      exact ⟨.refl, fun _ _ => ⟨entry, present, rfl⟩⟩
  | some owner =>
      rw [onOperation_present owned]
      exact ⟨.single (.operation state entry owner _ present owned (moved _)),
        fun _ _ => ⟨entry, present, rfl⟩⟩

/-- Dropping an observation abandons it first. -/
theorem touches_invalidate :
    Fallible.Relates (Touches port observationHandle)
      (invalidateSemanticObservation port observationHandle :
        EngineM Engine Operation Digest Sink _) := by
  refine Fallible.Relates.modify fun state => ?_
  show Touches port observationHandle state
    { state with registry := state.registry.invalidate port observationHandle }
  cases present : state.registry.observations.lookup observationHandle with
  | none =>
      simp only [Registry.invalidate, present]
      exact .refl
  | some entry =>
      cases owned : state.registry.operations.lookup entry.operationHandle with
      | none =>
          simp only [Registry.invalidate, present, owned]
          exact .single (.release state)
      | some owner =>
          simp only [Registry.invalidate, present, owned]
          exact .head (.operation state entry owner _ present owned (.abandonObservation _ _))
            (.single (.release _))

/-- Releasing an observation. -/
theorem touches_release :
    Fallible.Relates (Touches port observationHandle)
      (changeRegistry (·.releaseObservation observationHandle) :
        EngineM Engine Operation Digest Sink _) :=
  Fallible.Relates.modify fun state => .single (.release state)

end Parts

/-! ## The observation calls -/

section Calls

variable {port : EnginePort Engine Begin Operation Digest} {observationHandle : Nat}

/-- Looking the observation up starts a chain of calls on its owner. -/
theorem touches_entry {α : Type}
    {rest : ObservationEntry Digest → EngineM Engine Operation Digest Sink α}
    (continues : ∀ entry, Fallible.Moves (Touches port observationHandle)
      (Owns observationHandle entry.operationHandle) (rest entry) fun _ _ => True) :
    Fallible.Relates (Touches port observationHandle)
      (observationEntry observationHandle >>= rest) := by
  refine Fallible.Moves.relates
    (Fallible.Moves.bind moves_observationEntry fun entry => ?_)
  intro state present
  exact ⟨(continues entry state ⟨entry, present, rfl⟩).1, fun _ _ => trivial⟩

/-- A write touches its observation only. -/
theorem touches_writeObservationBytes (stream : ObservationStreamInput) (chunk : Bytes) :
    Fallible.Relates (Touches port observationHandle)
      (writeObservationBytes port observationHandle stream chunk :
        EngineM Engine Operation Digest Sink _) := by
  refine Fallible.Relates.bind (Fallible.Relates.check _ _) fun _ => touches_entry fun entry => ?_
  refine Fallible.Moves.bind (Fallible.Moves.onError (moves_onSession _) touches_invalidate)
    fun _ => Fallible.Moves.bind (moves_operationEntry _) fun _ => ?_
  exact (Fallible.Moves.onError (moves_onOperation fun _ => .writeObservation _ _ _ _)
    touches_invalidate).forget

/-- A dispatch touches its observation only. -/
theorem touches_dispatchObservation :
    Fallible.Relates (Touches port observationHandle)
      (dispatchObservation port observationHandle : EngineM Engine Operation Digest Sink _) := by
  refine touches_entry fun entry => ?_
  refine Fallible.Moves.bind (Fallible.Moves.onError (moves_onSession _) touches_invalidate)
    fun _ => Fallible.Moves.bind (moves_operationEntry _) fun _ => ?_
  exact (Fallible.Moves.onError (moves_onOperation fun _ => .dispatchObservation _ _)
    touches_invalidate).forget

/-- A read touches its observation only. -/
theorem touches_readObservation :
    Fallible.Relates (Touches port observationHandle)
      (readObservation port observationHandle : EngineM Engine Operation Digest Sink _) := by
  refine touches_entry fun entry => ?_
  refine Fallible.Moves.bind (moves_onOperation fun _ => .readObservationResponse _ _)
    fun read => Fallible.Moves.bind (Fallible.Moves.find fun _ owns _ _ => owns) fun _ => ?_
  refine Fallible.Moves.bind (Fallible.Moves.onError (moves_onSession _) touches_invalidate)
    fun _ => ?_
  exact (Fallible.Relates.ofExcept _).moves

/-- A finish touches its observation only. -/
theorem touches_finishObservationInner (outcome : DependencyOutcome) (sessionPosition : Nat) :
    Fallible.Relates (Touches port observationHandle)
      (finishObservationInner port observationHandle outcome sessionPosition :
        EngineM Engine Operation Digest Sink _) := by
  refine touches_entry fun entry => ?_
  refine Fallible.Moves.bind (Fallible.Moves.onError (moves_onSession _) touches_invalidate)
    fun _ => Fallible.Moves.bind (moves_operationEntry _) fun _ => ?_
  refine Fallible.Moves.bind (Fallible.Moves.onError
    (moves_onOperation fun _ => .finishObservation _ _ _ _) touches_invalidate) fun _ => ?_
  refine Fallible.Relates.moves ?_
  refine Fallible.Relates.bind (Fallible.Relates.find _ _) fun finished => ?_
  refine Fallible.Relates.bind touches_release fun _ => ?_
  refine Fallible.Relates.bind (Fallible.Relates.modify fun state => ?_) fun _ =>
    Fallible.Relates.pure _
  exact .single (.noted state finished outcome)

/-- An abandon touches its observation only. -/
theorem touches_abandonObservation :
    Fallible.Relates (Touches port observationHandle)
      (abandonObservation port observationHandle : EngineM Engine Operation Digest Sink _) := by
  refine touches_entry fun entry => ?_
  refine Fallible.Moves.bind (moves_onOperation fun _ => .abandonObservation _ _) fun _ => ?_
  refine Fallible.Relates.moves ?_
  exact Fallible.Relates.bind (Fallible.Relates.find _ _) fun _ => touches_release

/-! ## Opening an observation -/

/-- The registry with a new observation under the next handle. -/
def Registry.grantObservation (registry : Registry Engine Operation Digest)
    (entry : ObservationEntry Digest) : Registry Engine Operation Digest :=
  { registry.skipHandle with
    observations := registry.observations.insert registry.nextHandle entry }

/-- There is no room for another observation, or no handle for it. -/
def Registry.RefusesObservation (registry : Registry Engine Operation Digest) : Prop :=
  maxObservationSessions ≤ KeyedTable.size registry.observations ∨ u64Max ≤ registry.nextHandle

/-- Replies and next states of an open. -/
inductive OpenEffect (port : EnginePort Engine Begin Operation Digest) (operationHandle : Nat)
    (observationClass : AutomaticObservationClass) (causalParentId : Option OperationId)
    (state : EngineState Engine Operation Digest Sink) :
    Except Error (Nat × Nat) → EngineState Engine Operation Digest Sink → Prop
  | refused (error : Error) (refuses : state.registry.RefusesObservation) :
      OpenEffect port operationHandle observationClass causalParentId state (.error error) state
  | unknown (absent : state.registry.operations.lookup operationHandle = none) :
      OpenEffect port operationHandle observationClass causalParentId state
        (.error handleNotFound) (state.withRegistry (·.skipHandle))
  | failed (error : Error) (owner : OperationEntry Operation) (operation : Operation)
      (owned : state.registry.operations.lookup operationHandle = some owner)
      (opens : port.openObservation owner.operation state.registry.nextHandle observationClass
        causalParentId = (.error error, operation)) :
      OpenEffect port operationHandle observationClass causalParentId state (.error error)
        (state.withRegistry (·.skipHandle.updateOperation operationHandle owner operation))
  | opened (owner : OperationEntry Operation) (operation : Operation) (position : Nat)
      (room : KeyedTable.size state.registry.observations < maxObservationSessions)
      (owned : state.registry.operations.lookup operationHandle = some owner)
      (opens : port.openObservation owner.operation state.registry.nextHandle observationClass
        causalParentId = (.ok position, operation)) :
      OpenEffect port operationHandle observationClass causalParentId state
        (.ok (state.registry.nextHandle, position))
        (state.withRegistry fun registry =>
          (registry.updateOperation operationHandle owner operation).grantObservation
            { operationHandle := operationHandle
              semanticDependency := SemanticDependencySession.forClass observationClass })

/-- An open that fails consumes a handle at most; one that succeeds grants it. -/
theorem openObservation_effect (port : EnginePort Engine Begin Operation Digest)
    (operationHandle : Nat) (observationClass : AutomaticObservationClass)
    (causalParentId : Option OperationId) (state : EngineState Engine Operation Digest Sink) :
    OpenEffect port operationHandle observationClass causalParentId state
      (openObservation port operationHandle observationClass causalParentId state).1
      (openObservation port operationHandle observationClass causalParentId state).2 := by
  by_cases room : KeyedTable.size state.registry.observations < maxObservationSessions
  · by_cases left : state.registry.nextHandle < u64Max
    · cases owned : state.registry.operations.lookup operationHandle with
      | none =>
          have absent : (state.withRegistry (·.skipHandle)).registry.operations.lookup
              operationHandle = none := owned
          simp only [openObservation, bind, Fallible.bind, Fallible.check, room, decide_true,
            if_true, allocateHandle, Fallible.gets, left, changeRegistry, Fallible.modify, pure,
            Fallible.pure, onOperation_absent absent]
          exact .unknown owned
      | some owner =>
          have present : (state.withRegistry (·.skipHandle)).registry.operations.lookup
              operationHandle = some owner := owned
          simp only [openObservation, bind, Fallible.bind, Fallible.check, room, decide_true,
            if_true, allocateHandle, Fallible.gets, left, changeRegistry, Fallible.modify, pure,
            Fallible.pure, onOperation_present present]
          rcases opens : port.openObservation owner.operation state.registry.nextHandle
            observationClass causalParentId with ⟨error | position, operation⟩
          · exact .failed error owner operation owned opens
          · exact .opened owner operation position room owned opens
    · simp only [openObservation, bind, Fallible.bind, Fallible.check, room, decide_true, if_true,
        allocateHandle, Fallible.gets, left, decide_false, Bool.false_eq_true, if_false]
      exact .refused quotaError (.inr (Nat.le_of_not_lt left))
  · simp only [openObservation, bind, Fallible.bind, Fallible.check, room, decide_false,
      Bool.false_eq_true, if_false]
    exact .refused observationQuotaError (.inl (Nat.le_of_not_lt room))

/-! ## The compact dependency calls -/

/-- A cleanup touches its observation only. -/
theorem touches_cleanupDependency :
    Fallible.Relates (Touches port observationHandle)
      (cleanupDependency port observationHandle : EngineM Engine Operation Digest Sink _) :=
  Fallible.Relates.bind (fun state => .single (.finished state)) fun _ => touches_invalidate

/-- A call on a session touches its observation only. -/
theorem touches_onSession {α : Type}
    (call : SemanticDependencySession Digest → Except Error α × SemanticDependencySession Digest) :
    Fallible.Relates (Touches port observationHandle)
      (onSession observationHandle call : EngineM Engine Operation Digest Sink _) := by
  intro state
  cases present : state.registry.observations.lookup observationHandle with
  | none => rw [onSession_absent present]
  | some entry =>
      exact (moves_onSession call state ⟨entry, present, rfl⟩).1

/-- Looking a session up changes nothing. -/
theorem touches_requiredSession :
    Fallible.Relates (Touches port observationHandle)
      (requiredSession observationHandle : EngineM Engine Operation Digest Sink _) :=
  Fallible.Relates.bind (Fallible.Relates.find _ _) fun _ => Fallible.Relates.find _ _

/-- A record is written chunk by chunk. -/
theorem touches_writeDependencyChunks (stream : ObservationStreamInput) (chunks : List Bytes) :
    Fallible.Relates (Touches port observationHandle)
      (writeDependencyChunks port observationHandle stream chunks :
        EngineM Engine Operation Digest Sink _) := by
  induction chunks with
  | nil => exact Fallible.Relates.pure ()
  | cons chunk chunks ih =>
      exact Fallible.Relates.bind (touches_writeObservationBytes stream chunk) fun _ => ih

/-- What follows the opening of a dependency touches its observation only. -/
theorem touches_startDependency (sessionPosition : Nat) (requestBytes : Bytes) :
    Fallible.Relates (Touches port observationHandle)
      (startDependency port observationHandle sessionPosition requestBytes :
        EngineM Engine Operation Digest Sink _) := by
  refine Fallible.Relates.bind touches_requiredSession fun _ => ?_
  refine Fallible.Relates.bind
    (Fallible.Relates.onError (touches_onSession _) touches_cleanupDependency) fun _ => ?_
  refine Fallible.Relates.bind
    (Fallible.Relates.onError (touches_writeDependencyChunks _ _) touches_cleanupDependency)
    fun _ => ?_
  refine Fallible.Relates.bind
    (Fallible.Relates.onError touches_dispatchObservation touches_cleanupDependency)
    fun action => ?_
  refine Fallible.Relates.bind (fun state => .single (.dispatched state)) fun _ => ?_
  refine Fallible.Relates.bind touches_requiredSession fun _ => ?_
  exact Fallible.Relates.bind
    (Fallible.Relates.onError (touches_onSession _) touches_cleanupDependency)
    fun _ => Fallible.Relates.pure _

/-- Writing the response touches the observation only. -/
theorem touches_writeDependencyResponse (response : Option SemanticDependencyResponseInput) :
    Fallible.Relates (Touches port observationHandle)
      (writeDependencyResponse port observationHandle response :
        EngineM Engine Operation Digest Sink _) := by
  cases response with
  | none => exact Fallible.Relates.pure ()
  | some response =>
      refine Fallible.Relates.bind touches_requiredSession fun session => ?_
      refine Fallible.Relates.bind
        (Fallible.Relates.onError (Fallible.Relates.ofExcept _) touches_cleanupDependency)
        fun canonical => ?_
      refine Fallible.Relates.bind
        (Fallible.Relates.onError (touches_writeDependencyChunks _ _) touches_cleanupDependency)
        fun _ => ?_
      refine Fallible.Relates.bind touches_requiredSession fun _ => ?_
      exact Fallible.Relates.bind
        (Fallible.Relates.onError (touches_onSession _) touches_cleanupDependency)
        fun _ => Fallible.Relates.pure _

/-- A commit touches the observation only. -/
theorem touches_commitDependency (sessionPosition : Nat) :
    Fallible.Relates (Touches port observationHandle)
      (commitDependency port observationHandle sessionPosition :
        EngineM Engine Operation Digest Sink _) := by
  refine Fallible.Relates.bind touches_requiredSession fun _ => ?_
  refine Fallible.Relates.bind
    (Fallible.Relates.onError (touches_onSession _) touches_cleanupDependency) fun _ => ?_
  refine Fallible.Relates.bind (Fallible.Relates.find _ _) fun response => ?_
  refine Fallible.Relates.bind
    (Fallible.Relates.onError (touches_finishObservationInner _ _) touches_cleanupDependency)
    fun finished => ?_
  refine Fallible.Relates.bind
    (Fallible.Relates.onError (Fallible.Relates.find _ _) touches_cleanupDependency) fun _ => ?_
  exact Fallible.Relates.bind (fun state => .single (.finished state))
    fun _ => Fallible.Relates.pure _

/-- The end of a dependency touches its observation only. -/
theorem touches_finishDependency (response : Option SemanticDependencyResponseInput) :
    Fallible.Relates (Touches port observationHandle)
      (finishDependency port observationHandle response :
        EngineM Engine Operation Digest Sink _) := by
  refine Fallible.Relates.bind (Fallible.Relates.find _ _) fun entry => ?_
  refine Fallible.Relates.bind
    (Fallible.Relates.onError (Fallible.Relates.ofExcept _) touches_cleanupDependency)
    fun sessionPosition => ?_
  refine Fallible.Relates.bind touches_requiredSession fun session => ?_
  refine Fallible.Relates.bind
    (Fallible.Relates.onError (Fallible.Relates.ofExcept _) touches_cleanupDependency)
    fun _ => ?_
  exact Fallible.Relates.bind (touches_writeDependencyResponse response)
    fun _ => touches_commitDependency sessionPosition

end Calls
end Engine
end ReproItSdk
