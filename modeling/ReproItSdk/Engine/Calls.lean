import ReproItSdk.Engine.Registry
import ReproItSdk.Library.Chunks
import ReproItSdk.World.Calls

/-! # Calls of the shared engine

The calls of the engine that hold its lock from beginning to end.  The compact dependency calls are
chains of observation calls that clean up after themselves, and the calls that end an operation or
an engine take everything below it along.

Main definitions:

- Functions {lit}`openDependency` and {lit}`finishDependency`: the compact dependency calls.
- Function {lit}`closeEngine`: release an engine with its operations, observations and sinks.
- Function {lit}`dispatchImmediate`: answer any call that does not leave the lock.
-/

namespace ReproItSdk
namespace Engine

variable {Engine Begin Operation Digest Sink : Type}

/-! ## Calls and replies -/

/-- {lit}`CALL_FORMAT`. -/
def callFormat : String :=
  "reproit.sdk-engine-call.v1"

/-- The calls of the engine.  The configuration of a new engine stands for what becomes of it. -/
inductive EngineCall (Engine Begin : Type) where
  | contract
  | dependencyFinish (dependencyHandle : Nat) (response : Option SemanticDependencyResponseInput)
  | dependencyOpen (causalParentId : Option OperationId) (operationHandle : Nat)
      (request : SemanticDependencyRequestInput)
  | engineOpen (engine : Except Error Engine)
  | engineClose (engineHandle : Nat)
  | operationBegin (payload : Begin) (engineHandle : Nat)
  | operationInput (input : OperationInputPayload) (operationHandle : Nat)
  | observationOpen (causalParentId : Option OperationId)
      (observationClass : AutomaticObservationClass) (operationHandle : Nat)
  | observationRead (observationHandle : Nat)
  | observationWrite (chunk : String) (observationHandle : Nat) (stream : ObservationStreamInput)
  | observationDispatch (observationHandle : Nat)
  | observationFinish (observationHandle : Nat) (outcome : DependencyOutcome)
      (sessionPosition : Nat)
  | observationAbandon (observationHandle : Nat)
  | operationUnowned (causalParentId : Option OperationId)
      (observationClass : AutomaticObservationClass) (evidence : String) (operationHandle : Nat)
  | operationCloseWorld (completion : TriggerCompletion) (operationHandle : Nat)
  | operationSucceed (operationHandle : Nat)
  | operationAbandon (operationHandle : Nat)
  | operationFail (failure : FailureIdentity) (operationHandle : Nat) (projectToken : String)
  | sinkWait (sinkHandle : Nat) (timeoutMs : Nat)

/-- Successful replies of the engine. -/
inductive EngineReply where
  | contract
  | done
  | engine (engineHandle : Nat)
  | operation (operationHandle : Nat) (operationId : OperationId)
  | observation (observationHandle : Nat) (sessionPosition : Nat)
  | action (action : String)
  | chunk (chunk : String) (eof : Bool)
  | dependency (action : String) (dependencyHandle : Nat)
  | outcome (outcome : SemanticObservationOutcome)
  | sink (sinkHandle : Nat)
  | idle (idle : Bool)
deriving DecidableEq, Repr

/-! ## Dependencies -/

section Dependencies

variable (port : EnginePort Engine Begin Operation Digest)

/-- {lit}`cleanup_dependency`: release the slots of the sentinel and of the engine. -/
def cleanupDependency (dependencyHandle : Nat) : EngineM Engine Operation Digest Sink Unit := do
  let _ ← tellSentinel fun met => .observationFinished dependencyHandle met.readings
  invalidateSemanticObservation port dependencyHandle

/-- {lit}`write_dependency_record`: write a record chunk by chunk. -/
def writeDependencyChunks (dependencyHandle : Nat) (stream : ObservationStreamInput) :
    List Bytes → EngineM Engine Operation Digest Sink Unit
  | [] => pure ()
  | chunk :: chunks => do
      writeObservationBytes port dependencyHandle stream chunk
      writeDependencyChunks dependencyHandle stream chunks

/-- {lit}`write_dependency_record` with the chunks of a record. -/
def writeDependencyRecord (dependencyHandle : Nat) (stream : ObservationStreamInput)
    (record : Bytes) : EngineM Engine Operation Digest Sink Unit :=
  writeDependencyChunks port dependencyHandle stream
    (Chunks.chunks maxObservationChunkBytes record)

/-- The part of {lit}`open_dependency` that binds the position, writes the request and dispatches
it. -/
def startDependency (dependencyHandle sessionPosition : Nat) (requestBytes : Bytes) :
    EngineM Engine Operation Digest Sink EngineReply := do
  let _ ← requiredSession dependencyHandle
  let _ ← Fallible.onError
    (onSession dependencyHandle (·.bindCanonicalSessionPosition sessionPosition))
    (cleanupDependency port dependencyHandle)
  Fallible.onError (writeDependencyRecord port dependencyHandle .request requestBytes)
    (cleanupDependency port dependencyHandle)
  let action ← Fallible.onError (dispatchObservation port dependencyHandle)
    (cleanupDependency port dependencyHandle)
  let _ ← tellSentinel fun met => .observationDispatched dependencyHandle met.threadId met.readings
  let _ ← requiredSession dependencyHandle
  let _ ← Fallible.onError (onSession dependencyHandle (·.bindAction action))
    (cleanupDependency port dependencyHandle)
  pure (.dependency action dependencyHandle)

/-- {lit}`open_dependency`: open an observation with a valid request. -/
def openDependency (operationHandle : Nat) (causalParentId : Option OperationId)
    (request : SemanticDependencyRequestInput) :
    EngineM Engine Operation Digest Sink EngineReply := do
  let requestBytes ← Fallible.ofExcept
    (SemanticDependencySession.canonicalRequest port.dependencies request)
  let opened ← openObservation port operationHandle request.observationClass causalParentId
  let _ ← tellSentinel fun met =>
    .observationOpened opened.1 operationHandle request.observationClass met.readings
  startDependency port opened.1 opened.2 requestBytes

/-- The position that a compact dependency was opened at. -/
def boundSessionPosition (entry : ObservationEntry Digest) : Except Error Nat :=
  match entry.semanticDependency with
  | none => .error invalidDependency
  | some session => session.canonicalSessionPosition.elim (.error invalidDependency) .ok

/-- The part of {lit}`finish_dependency` that writes a captured response. -/
def captureDependencyResponse (dependencyHandle : Nat)
    (response : SemanticDependencyResponseInput) : EngineM Engine Operation Digest Sink Unit := do
  let session ← requiredSession dependencyHandle
  let canonical ← Fallible.onError
    (Fallible.ofExcept (session.canonicalResponse port.dependencies response))
    (cleanupDependency port dependencyHandle)
  Fallible.onError (writeDependencyRecord port dependencyHandle .response canonical.1)
    (cleanupDependency port dependencyHandle)
  let _ ← requiredSession dependencyHandle
  let _ ← Fallible.onError
    (onSession dependencyHandle (·.cacheValidatedResponse canonical.2))
    (cleanupDependency port dependencyHandle)
  pure ()

/-- A replayed dependency has no response to write. -/
def writeDependencyResponse (dependencyHandle : Nat) :
    Option SemanticDependencyResponseInput → EngineM Engine Operation Digest Sink Unit
  | none => pure ()
  | some response => captureDependencyResponse port dependencyHandle response

/-- The part of {lit}`finish_dependency` that validates the response and commits. -/
def commitDependency (dependencyHandle : Nat) (sessionPosition : Nat) :
    EngineM Engine Operation Digest Sink EngineReply := do
  let _ ← requiredSession dependencyHandle
  let response ← Fallible.onError
    (onSession dependencyHandle (·.checkedResponse port.dependencies))
    (cleanupDependency port dependencyHandle)
  let response ← Fallible.find (fun _ => response) invalidDependency
  let finished ← Fallible.onError
    (finishObservationInner port dependencyHandle (dependencyOutcome response.outcome)
      sessionPosition)
    (cleanupDependency port dependencyHandle)
  let _ ← Fallible.onError (Fallible.find (fun _ => finished) invalidDependency)
    (cleanupDependency port dependencyHandle)
  let _ ← tellSentinel fun met => .observationFinished dependencyHandle met.readings
  pure (.outcome response.outcome)

/-- {lit}`finish_dependency`: write the response if there is one, validate it and commit. -/
def finishDependency (dependencyHandle : Nat)
    (response : Option SemanticDependencyResponseInput) :
    EngineM Engine Operation Digest Sink EngineReply := do
  let entry ← observationEntry dependencyHandle
  let sessionPosition ← Fallible.onError (Fallible.ofExcept (boundSessionPosition entry))
    (cleanupDependency port dependencyHandle)
  let session ← requiredSession dependencyHandle
  Fallible.onError (Fallible.ofExcept (session.validateFinishInput response.isSome))
    (cleanupDependency port dependencyHandle)
  writeDependencyResponse port dependencyHandle response
  commitDependency port dependencyHandle sessionPosition

end Dependencies

/-! ## Engines and operations -/

/-- {lit}`open_engine`. -/
def openEngine (engine : Except Error Engine) : EngineM Engine Operation Digest Sink Nat := do
  Fallible.check (fun state => KeyedTable.size state.registry.engines < maxEngines) quotaError
  let engine ← Fallible.ofExcept engine
  let handle ← allocateHandle
  changeRegistry fun registry =>
    { registry with engines := registry.engines.insert handle engine }
  let _ ← tellSentinel fun met => .engineOpened met.installs
  pure handle

/-- {lit}`remove_operation_observations`. -/
def Registry.removeOperationObservations (registry : Registry Engine Operation Digest)
    (operationHandle : Nat) : Registry Engine Operation Digest :=
  { registry with
    observations := KeyedTable.retain (fun _ entry => entry.operationHandle ≠ operationHandle)
      registry.observations }

/-- The state without the observations of an operation, which the sentinel forgets. -/
def EngineState.detach (state : EngineState Engine Operation Digest Sink) (operationHandle : Nat) :
    EngineState Engine Operation Digest Sink :=
  (state.withRegistry (·.removeOperationObservations operationHandle)).afterSentinel fun met =>
    .operationRemoved operationHandle met.readings

/-- Drop the observations of an operation. -/
def detachOperation (operationHandle : Nat) : EngineM Engine Operation Digest Sink Unit :=
  Fallible.modify (·.detach operationHandle)

/-- Handles of the operations that an engine started. -/
def Registry.operationsOf (registry : Registry Engine Operation Digest) (engineHandle : Nat) :
    List Nat :=
  (KeyedTable.retain (fun _ entry => entry.engineHandle = engineHandle)
    registry.operations).keys

/-- What a task that is cancelled drops: the job that nobody took, with its operation. -/
def droppedOperations (cell : Option (FailureTaskState (ProductionFailureJob Operation) Sink)) :
    List (JournalEntry Digest) :=
  match cell with
  | some (.pending (some job)) => [.ended job.operationHandle .abandoned]
  | _ => []

/-- {lit}`FailureTask::cancel` of the task at an address. -/
def EngineState.cancelTask (state : EngineState Engine Operation Digest Sink) (task : Nat) :
    EngineState Engine Operation Digest Sink :=
  { state with
    tasks := state.tasks.set task .cancelled
    journal := state.journal ++ droppedOperations state.tasks[task]? }

/-- Cancel several tasks. -/
def EngineState.cancelTasks (state : EngineState Engine Operation Digest Sink)
    (tasks : List Nat) : EngineState Engine Operation Digest Sink :=
  tasks.foldl EngineState.cancelTask state

/-- Tasks of the sinks of an engine. -/
def Registry.tasksOf (registry : Registry Engine Operation Digest) (engineHandle : Nat) :
    List Nat :=
  (KeyedTable.retain (fun _ entry => entry.engineHandle = engineHandle)
    registry.sinks).entries.map (·.2.task)

/-- {lit}`remove_engine_entries`: the operations of an engine are dropped. -/
def Registry.removeEngineOperations (registry : Registry Engine Operation Digest)
    (engineHandle : Nat) : Registry Engine Operation Digest :=
  { registry with
    operations := KeyedTable.retain (fun _ entry => entry.engineHandle ≠ engineHandle)
      registry.operations }

/-- {lit}`remove_engine_sinks`: the tasks of an engine are cancelled and its sinks dropped. -/
def EngineState.removeEngineSinks (state : EngineState Engine Operation Digest Sink)
    (engineHandle : Nat) : EngineState Engine Operation Digest Sink :=
  (state.cancelTasks (state.registry.tasksOf engineHandle)).withRegistry fun registry =>
    { registry with
      sinks := KeyedTable.retain (fun _ entry => entry.engineHandle ≠ engineHandle)
        registry.sinks }

/-- The part of {lit}`close_engine` that follows its check. -/
def EngineState.closeEngine (state : EngineState Engine Operation Digest Sink)
    (engineHandle : Nat) : EngineState Engine Operation Digest Sink :=
  let opened := state.withRegistry fun registry =>
    { registry with engines := registry.engines.erase engineHandle }
  let operationHandles := opened.registry.operationsOf engineHandle
  let detached := operationHandles.foldl EngineState.detach opened
  let dropped := (detached.withRegistry (·.removeEngineOperations engineHandle)).noted
    (operationHandles.map (.ended · .abandoned))
  (dropped.removeEngineSinks engineHandle).afterSentinel fun _ => .engineClosed

/-- {lit}`close_engine`: release an engine with everything below it. -/
def closeEngine (engineHandle : Nat) : EngineM Engine Operation Digest Sink Unit := do
  let _ ← Fallible.find (fun state : EngineState Engine Operation Digest Sink =>
    state.registry.engines.lookup engineHandle) handleNotFound
  Fallible.modify (·.closeEngine engineHandle)

section Operations

variable (port : EnginePort Engine Begin Operation Digest)

/-- {lit}`begin_operation`. -/
def beginOperation (payload : Begin) (engineHandle : Nat) :
    EngineM Engine Operation Digest Sink (Nat × OperationId) := do
  Fallible.check (fun state => KeyedTable.size state.registry.operations < maxOperations)
    quotaError
  let engine ← Fallible.find (fun state : EngineState Engine Operation Digest Sink =>
    state.registry.engines.lookup engineHandle) handleNotFound
  let operation ← Fallible.ofExcept (port.start engine payload)
  let handle ← allocateHandle
  changeRegistry fun registry =>
    { registry with
      operations := registry.operations.insert handle
        { engineHandle := engineHandle, operation := operation } }
  let _ ← tellSentinel fun met => .operationStarted handle met.readings
  pure (handle, port.operationId operation)

/-- {lit}`record_unowned`. -/
def recordUnowned (operationHandle : Nat) (observationClass : AutomaticObservationClass)
    (causalParentId : Option OperationId) (evidence : String) :
    EngineM Engine Operation Digest Sink Unit := do
  Fallible.check (fun _ => evidence.utf8ByteSize ≤ maxEvidenceBytes) quotaError
  let evidence ← Fallible.ofExcept (port.decodeBase64url evidence)
  onOperation operationHandle fun operation =>
    port.markUnowned operation observationClass causalParentId evidence

/-- {lit}`NativeCoverageEvidence::encode`. -/
def encodeCoverage (evidence : Sentinel.NativeCoverageEvidence) : Bytes :=
  [1, evidence.startSequence, evidence.endSequence, evidence.relevantEvents,
    evidence.ownedEvents].flatMap AutomaticWorld.bigEndianBytes

/-- Bind the coverage of a clean kernel trace. -/
def bindCoverage (operationHandle : Nat) :
    Option Sentinel.OperationCoverage → EngineM Engine Operation Digest Sink Unit
  | some (.cleanKernelTrace evidence) =>
      onOperation operationHandle fun operation =>
        port.bindNativeSentinelCoverage operation (encodeCoverage evidence)
  | _ => pure ()

/-- {lit}`close_world`. -/
def closeWorld (operationHandle : Nat) (completion : TriggerCompletion) :
    EngineM Engine Operation Digest Sink Unit := do
  let coverage ← tellSentinel fun met => .operationFinished operationHandle met.readings
  let _ ← operationEntry operationHandle
  bindCoverage port operationHandle coverage
  onOperation operationHandle (port.closeWorld · completion)

/-- Take an operation out of its table. -/
def Registry.removeOperation (registry : Registry Engine Operation Digest)
    (operationHandle : Nat) : Registry Engine Operation Digest :=
  { registry with operations := registry.operations.erase operationHandle }

/-- {lit}`succeed_operation` and {lit}`abandon_operation`: end an operation with its
observations. -/
def endOperation (operationHandle : Nat) (how : OperationEnd) :
    EngineM Engine Operation Digest Sink Unit := do
  detachOperation operationHandle
  let _ ← operationEntry operationHandle
  changeRegistry (·.removeOperation operationHandle)
  noteAll [.ended operationHandle how]

end Operations

/-! ## Dispatch -/

section Dispatch

variable (port : EnginePort Engine Begin Operation Digest)

/-- {lit}`dispatch_observation_call`: the calls that the sentinel takes part in. -/
def openObservationCall (operationHandle : Nat) (observationClass : AutomaticObservationClass)
    (causalParentId : Option OperationId) :
    EngineM Engine Operation Digest Sink EngineReply := do
  let opened ← openObservation port operationHandle observationClass causalParentId
  let _ ← tellSentinel fun met =>
    .observationOpened opened.1 operationHandle observationClass met.readings
  pure (.observation opened.1 opened.2)

/-- A dispatch, which the sentinel hears of afterwards. -/
def dispatchObservationCall (observationHandle : Nat) :
    EngineM Engine Operation Digest Sink EngineReply := do
  let action ← dispatchObservation port observationHandle
  let _ ← tellSentinel fun met => .observationDispatched observationHandle met.threadId met.readings
  pure (.action action)

/-- A finish, which the sentinel hears of first. -/
def finishObservationCall (observationHandle : Nat) (outcome : DependencyOutcome)
    (sessionPosition : Nat) : EngineM Engine Operation Digest Sink EngineReply := do
  let _ ← tellSentinel fun met => .observationFinished observationHandle met.readings
  let _ ← finishObservationInner port observationHandle outcome sessionPosition
  pure .done

/-- An abandon, which the sentinel hears of first. -/
def abandonObservationCall (observationHandle : Nat) :
    EngineM Engine Operation Digest Sink EngineReply := do
  let _ ← tellSentinel fun met => .observationFinished observationHandle met.readings
  abandonObservation port observationHandle
  pure .done

/-- {lit}`dispatch_immediate` with {lit}`dispatch_operation`: answer a call under the lock. -/
def dispatchImmediate :
    EngineCall Engine Begin → EngineM Engine Operation Digest Sink EngineReply
  | .contract => pure .contract
  | .engineOpen engine => do
      let handle ← openEngine engine
      pure (.engine handle)
  | .engineClose engineHandle => do
      closeEngine engineHandle
      pure .done
  | .operationBegin payload engineHandle => do
      let begun ← beginOperation port payload engineHandle
      pure (.operation begun.1 begun.2)
  | .operationInput input operationHandle => do
      onOperation operationHandle (port.recordInput · input)
      pure .done
  | .dependencyOpen causalParentId operationHandle request =>
      openDependency port operationHandle causalParentId request
  | .dependencyFinish dependencyHandle response => finishDependency port dependencyHandle response
  | .observationOpen causalParentId observationClass operationHandle =>
      openObservationCall port operationHandle observationClass causalParentId
  | .observationWrite chunk observationHandle stream => do
      writeObservation port observationHandle stream chunk
      pure .done
  | .observationDispatch observationHandle => dispatchObservationCall port observationHandle
  | .observationRead observationHandle => do
      let read ← readObservation port observationHandle
      pure (.chunk read.1 read.2)
  | .observationFinish observationHandle outcome sessionPosition =>
      finishObservationCall port observationHandle outcome sessionPosition
  | .observationAbandon observationHandle => abandonObservationCall port observationHandle
  | .operationUnowned causalParentId observationClass evidence operationHandle => do
      recordUnowned port operationHandle observationClass causalParentId evidence
      pure .done
  | .operationCloseWorld completion operationHandle => do
      closeWorld port operationHandle completion
      pure .done
  | .operationSucceed operationHandle => do
      endOperation operationHandle .succeeded
      pure .done
  | .operationAbandon operationHandle => do
      endOperation operationHandle .abandoned
      pure .done
  | .operationFail .. | .sinkWait .. => Fallible.fail port.schemaInvalid

end Dispatch
end Engine
end ReproItSdk
