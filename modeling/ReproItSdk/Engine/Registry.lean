import ReproItSdk.Engine.FailureTask
import ReproItSdk.Engine.SemanticDependency
import ReproItSdk.Library.Fallible
import ReproItSdk.Sentinel.Controller

/-! # The registry of the shared engine

The engine hands out handles for engines, operations, observations and sinks, and keeps what they
stand for in four tables behind one lock.  A call that holds the lock is one computation on the
state of the engine; an error of the source that returns early is an error of the computation, and
keeps the changes made before it.

The operations themselves belong to another crate.  What the registry calls on them is an
{lit}`EnginePort`, whose functions are arbitrary.

Main definitions:

- Structure {lit}`Registry`: the four tables and the next handle.
- Structure {lit}`EngineState`: the registry, the sentinel and the failure tasks.
- Function {lit}`openObservation` and its siblings: the calls on one observation.
-/

namespace ReproItSdk
namespace Engine

variable {Engine Begin Operation Digest Sink : Type}

/-! ## Constants and errors -/

/-- Most engines of a process. -/
def maxEngines : Nat :=
  64

/-- Most operations that are live at once. -/
def maxOperations : Nat :=
  512

/-- Most observations that are open at once. -/
def maxObservationSessions : Nat :=
  1024

/-- Most failure tasks, and most sinks. -/
def maxFailureTasks : Nat :=
  16

/-- Most sinks that are live at once. -/
def maxSinks : Nat :=
  maxFailureTasks

/-- Longest text of unowned evidence. -/
def maxEvidenceBytes : Nat :=
  785408

/-- Most bytes of one chunk of an observation. -/
def maxObservationChunkBytes : Nat :=
  32768

/-- Most bytes that one read returns. -/
def maxObservationResponseReadBytes : Nat :=
  8192

/-- {lit}`quota_error` of the engine. -/
def quotaError : Error where
  code := .runtimeQuota
  message := "The shared SDK engine limit was reached."

/-- {lit}`quota_error` of the observation calls. -/
def observationQuotaError : Error where
  code := .runtimeQuota
  message := "The automatic observation chunk limit was reached."

/-- {lit}`not_found` of the engine. -/
def handleNotFound : Error where
  code := .notFound
  message := "The shared SDK engine handle does not exist."

/-! ## What the engine takes from other crates -/

/-- Payload of the input of an operation, which the engine passes on unread. -/
structure OperationInputPayload where
  content : Bytes
deriving DecidableEq, Repr

/-- Identity of a failure, which the engine passes on unread. -/
structure FailureIdentity where
  content : Bytes
deriving DecidableEq, Repr

/-- The functions of other crates that the engine calls.  A call on an operation returns its result
with the operation as it left it. -/
structure EnginePort (Engine Begin Operation Digest : Type) where
  start : Engine → Begin → Except Error Operation
  operationId : Operation → OperationId
  recordInput : Operation → OperationInputPayload → Except Error Unit × Operation
  openObservation : Operation → Nat → AutomaticObservationClass → Option OperationId →
    Except Error Nat × Operation
  writeObservation : Operation → Nat → ObservationStreamInput → Bytes →
    Except Error Unit × Operation
  dispatchObservation : Operation → Nat → Except Error String × Operation
  readObservationResponse : Operation → Nat → Except Error (Bytes × Bool) × Operation
  finishObservation : Operation → Nat → DependencyOutcome → Nat → Except Error Unit × Operation
  abandonObservation : Operation → Nat → Except Error Unit × Operation
  markUnowned : Operation → AutomaticObservationClass → Option OperationId → Bytes →
    Except Error Unit × Operation
  bindNativeSentinelCoverage : Operation → Bytes → Except Error Unit × Operation
  closeWorld : Operation → TriggerCompletion → Except Error Unit × Operation
  dependencies : DependencyCodec Digest
  decodeBase64url : String → Except Error Bytes
  encodeBase64url : Bytes → String
  schemaInvalid : Error

/-- A concrete port, whose operations accept every call and capture every observation.  It evaluates
the model on concrete runs. -/
def plainPort : EnginePort Unit Unit Unit Unit where
  start _ _ := .ok ()
  operationId _ := ⟨0⟩
  recordInput _ _ := (.ok (), ())
  openObservation _ _ _ _ := (.ok 0, ())
  writeObservation _ _ _ _ := (.ok (), ())
  dispatchObservation _ _ := (.ok "capture", ())
  readObservationResponse _ _ := (.ok ([], true), ())
  finishObservation _ _ _ _ := (.ok (), ())
  abandonObservation _ _ := (.ok (), ())
  markUnowned _ _ _ _ := (.ok (), ())
  bindNativeSentinelCoverage _ _ := (.ok (), ())
  closeWorld _ _ := (.ok (), ())
  dependencies :=
    { requests := taggedCodec (fun _ => none) fun _ => []
      responses := taggedCodec (fun _ => none) fun _ => []
      validatePair := fun _ _ => .ok ()
      digest := fun _ => .ok () }
  decodeBase64url _ := .ok [0]
  encodeBase64url := plainText
  schemaInvalid := plainError

/-! ## State -/

/-- An operation and the engine that started it. -/
structure OperationEntry (Operation : Type) where
  engineHandle : Nat
  operation : Operation

/-- A sink and the engine it belongs to.  The task is an address in the heap of failure tasks. -/
structure SinkEntry where
  engineHandle : Nat
  task : Nat
deriving DecidableEq, Repr

/-- An observation and the operation it belongs to. -/
structure ObservationEntry (Digest : Type) where
  operationHandle : Nat
  semanticDependency : Option (SemanticDependencySession Digest)
deriving DecidableEq, Repr

/-- The tables behind the lock of the engine. -/
structure Registry (Engine Operation Digest : Type) where
  engines : KeyedTable Nat Engine
  nextHandle : Nat
  observations : KeyedTable Nat (ObservationEntry Digest)
  operations : KeyedTable Nat (OperationEntry Operation)
  sinks : KeyedTable Nat SinkEntry

/-- {lit}`Registry::new`. -/
def Registry.new : Registry Engine Operation Digest where
  engines := ∅
  nextHandle := 1
  observations := ∅
  operations := ∅
  sinks := ∅

/-- The job of a failure task.  The handle the operation was live under is not in the source; it
lets a statement say which operation a task holds. -/
structure ProductionFailureJob (Operation : Type) where
  failure : FailureIdentity
  operation : Operation
  projectToken : String
  operationHandle : Nat

/-- How an operation ended.  An operation that is dropped unfinished abandons itself. -/
inductive OperationEnd where
  | succeeded
  | abandoned
  | failed
deriving DecidableEq, Repr

/-- What statements about runs remember.  The source keeps no journal. -/
inductive JournalEntry (Digest : Type) where
  | ended (operationHandle : Nat) (how : OperationEnd)
  | committed (observationHandle : Nat) (entry : ObservationEntry Digest)
      (outcome : DependencyOutcome)
deriving DecidableEq, Repr

/-- What a call of the sentinel meets: the readings of its tracer, the thread it runs on, and
whether a tracer can be installed. -/
structure Surroundings where
  readings : Sentinel.Readings
  threadId : Int
  installs : Bool

/-- Surroundings in which the sentinel cannot be installed. -/
def plainSurroundings : Surroundings where
  readings := { events := [], healthy := true, healthyAgain := true, sequence := 0 }
  threadId := 0
  installs := false

/-- Everything that engine calls share.  The surroundings are those of the sentinel calls to
come. -/
structure EngineState (Engine Operation Digest Sink : Type) where
  registry : Registry Engine Operation Digest
  sentinel : Sentinel.Controller
  surroundings : Nat → Surroundings
  tasks : List (FailureTaskState (ProductionFailureJob Operation) Sink)
  journal : List (JournalEntry Digest)

/-- A computation under the lock of the engine. -/
abbrev EngineM (Engine Operation Digest Sink : Type) : Type → Type :=
  Fallible (EngineState Engine Operation Digest Sink) Error

namespace EngineState

/-- The state with another registry. -/
def withRegistry (state : EngineState Engine Operation Digest Sink)
    (change : Registry Engine Operation Digest → Registry Engine Operation Digest) :
    EngineState Engine Operation Digest Sink :=
  { state with registry := change state.registry }

/-- The state with more journal entries. -/
def noted (state : EngineState Engine Operation Digest Sink)
    (entries : List (JournalEntry Digest)) : EngineState Engine Operation Digest Sink :=
  { state with journal := state.journal ++ entries }

/-- The state after one call of the sentinel. -/
def afterSentinel (state : EngineState Engine Operation Digest Sink)
    (call : Surroundings → Sentinel.Call) : EngineState Engine Operation Digest Sink :=
  { state with
    sentinel := (state.sentinel.step (call (state.surroundings 0))).2
    surroundings := fun index => state.surroundings (index + 1) }

end EngineState

/-! ## Steps of a computation -/

/-- Change the registry. -/
def changeRegistry
    (change : Registry Engine Operation Digest → Registry Engine Operation Digest) :
    EngineM Engine Operation Digest Sink Unit :=
  Fallible.modify (·.withRegistry change)

/-- Make a call of the sentinel. -/
def tellSentinel (call : Surroundings → Sentinel.Call) :
    EngineM Engine Operation Digest Sink (Option Sentinel.OperationCoverage) :=
  fun state =>
    (.ok (state.sentinel.step (call (state.surroundings 0))).1, state.afterSentinel call)

/-- Write entries into the journal. -/
def noteAll (entries : List (JournalEntry Digest)) : EngineM Engine Operation Digest Sink Unit :=
  Fallible.modify (·.noted entries)

/-- The registry after a handle was consumed. -/
def Registry.skipHandle (registry : Registry Engine Operation Digest) :
    Registry Engine Operation Digest :=
  { registry with nextHandle := registry.nextHandle + 1 }

/-- {lit}`allocate_handle`. -/
def allocateHandle : EngineM Engine Operation Digest Sink Nat := do
  let handle ← Fallible.gets (·.registry.nextHandle)
  Fallible.check (fun state => state.registry.nextHandle < u64Max) quotaError
  changeRegistry (·.skipHandle)
  pure handle

/-- The entry of a live operation. -/
def operationEntry (operationHandle : Nat) :
    EngineM Engine Operation Digest Sink (OperationEntry Operation) :=
  Fallible.find (·.registry.operations.lookup operationHandle) handleNotFound

/-- Store what a call left of an operation. -/
def Registry.updateOperation (registry : Registry Engine Operation Digest) (operationHandle : Nat)
    (entry : OperationEntry Operation) (operation : Operation) :
    Registry Engine Operation Digest :=
  { registry with
    operations :=
      registry.operations.insert operationHandle { entry with operation := operation } }

/-- Make a call on a live operation. -/
def onOperation {α : Type} (operationHandle : Nat)
    (call : Operation → Except Error α × Operation) : EngineM Engine Operation Digest Sink α := do
  let entry ← operationEntry operationHandle
  changeRegistry (·.updateOperation operationHandle entry (call entry.operation).2)
  Fallible.ofExcept (call entry.operation).1

/-- The entry of an open observation. -/
def observationEntry (observationHandle : Nat) :
    EngineM Engine Operation Digest Sink (ObservationEntry Digest) :=
  Fallible.find (·.registry.observations.lookup observationHandle) handleNotFound

/-- Store what a call left of a session. -/
def Registry.updateSession (registry : Registry Engine Operation Digest) (observationHandle : Nat)
    (entry : ObservationEntry Digest) (session : SemanticDependencySession Digest) :
    Registry Engine Operation Digest :=
  { registry with
    observations :=
      registry.observations.insert observationHandle
        { entry with semanticDependency := some session } }

/-- Make a call on the session of an observation, if it has one. -/
def onSession {α : Type} (observationHandle : Nat)
    (call : SemanticDependencySession Digest →
      Except Error α × SemanticDependencySession Digest) :
    EngineM Engine Operation Digest Sink (Option α) := do
  let entry ← observationEntry observationHandle
  match entry.semanticDependency with
  | none => pure none
  | some session =>
      changeRegistry (·.updateSession observationHandle entry (call session).2)
      let value ← Fallible.ofExcept (call session).1
      pure (some value)

/-- The session of an observation that must have one. -/
def requiredSession (observationHandle : Nat) :
    EngineM Engine Operation Digest Sink (SemanticDependencySession Digest) := do
  let entry ← observationEntry observationHandle
  Fallible.find (fun _ => entry.semanticDependency) invalidDependency

/-- Take an observation out of its table. -/
def Registry.releaseObservation (registry : Registry Engine Operation Digest)
    (observationHandle : Nat) : Registry Engine Operation Digest :=
  { registry with observations := registry.observations.erase observationHandle }

/-! ## Observations -/

section Observations

variable (port : EnginePort Engine Begin Operation Digest)

/-- {lit}`decode_chunk`: the bytes of a chunk, within the bound of a chunk. -/
def decodeChunk (value : String) (maximumBytes : Nat) : Except Error Bytes :=
  if value.isEmpty ∨ (maximumBytes + 2) / 3 * 4 < value.utf8ByteSize then
    .error observationQuotaError
  else
    match port.decodeBase64url value with
    | .error error => .error error
    | .ok bytes =>
        if bytes = [] ∨ maximumBytes < bytes.length then .error observationQuotaError
        else .ok bytes

/-- {lit}`open_observation`: a new observation of a live operation, with its position. -/
def openObservation (operationHandle : Nat) (observationClass : AutomaticObservationClass)
    (causalParentId : Option OperationId) :
    EngineM Engine Operation Digest Sink (Nat × Nat) := do
  Fallible.check
    (fun state => KeyedTable.size state.registry.observations < maxObservationSessions)
    observationQuotaError
  let observationHandle ← allocateHandle
  let sessionPosition ← onOperation operationHandle fun operation =>
    port.openObservation operation observationHandle observationClass causalParentId
  changeRegistry fun registry =>
    { registry with
      observations := registry.observations.insert observationHandle
        { operationHandle := operationHandle
          semanticDependency := SemanticDependencySession.forClass observationClass } }
  pure (observationHandle, sessionPosition)

/-- The registry without an observation that was abandoned, if it is open. -/
def Registry.invalidate (registry : Registry Engine Operation Digest) (observationHandle : Nat) :
    Registry Engine Operation Digest :=
  match registry.observations.lookup observationHandle with
  | none => registry
  | some entry =>
      match registry.operations.lookup entry.operationHandle with
      | none => registry.releaseObservation observationHandle
      | some owner =>
          (registry.releaseObservation observationHandle).updateOperation entry.operationHandle
            owner (port.abandonObservation owner.operation observationHandle).2

/-- {lit}`invalidate_semantic_observation`: drop an observation and abandon it. -/
def invalidateSemanticObservation (observationHandle : Nat) :
    EngineM Engine Operation Digest Sink Unit :=
  changeRegistry fun registry => registry.invalidate port observationHandle

/-- {lit}`write_observation_bytes`: append to the session and to the observation. -/
def writeObservationBytes (observationHandle : Nat) (stream : ObservationStreamInput)
    (chunk : Bytes) : EngineM Engine Operation Digest Sink Unit := do
  Fallible.check (fun _ => chunk ≠ [] ∧ chunk.length ≤ maxObservationChunkBytes)
    observationQuotaError
  let entry ← observationEntry observationHandle
  let _ ← Fallible.onError (onSession observationHandle (·.write stream chunk))
    (invalidateSemanticObservation port observationHandle)
  let _ ← operationEntry entry.operationHandle
  Fallible.onError
    (onOperation entry.operationHandle fun operation =>
      port.writeObservation operation observationHandle stream chunk)
    (invalidateSemanticObservation port observationHandle)

/-- {lit}`write_observation`. -/
def writeObservation (observationHandle : Nat) (stream : ObservationStreamInput)
    (chunk : String) : EngineM Engine Operation Digest Sink Unit := do
  let chunk ← Fallible.ofExcept (decodeChunk port chunk maxObservationChunkBytes)
  writeObservationBytes port observationHandle stream chunk

/-- {lit}`dispatch_observation`: the request is complete; the answer names what follows. -/
def dispatchObservation (observationHandle : Nat) :
    EngineM Engine Operation Digest Sink String := do
  let entry ← observationEntry observationHandle
  let _ ← Fallible.onError (onSession observationHandle (·.dispatch port.dependencies))
    (invalidateSemanticObservation port observationHandle)
  let _ ← operationEntry entry.operationHandle
  Fallible.onError
    (onOperation entry.operationHandle fun operation =>
      port.dispatchObservation operation observationHandle)
    (invalidateSemanticObservation port observationHandle)

/-- {lit}`encode_observation_read_result`. -/
def encodeObservationReadResult (chunk : Bytes) (eof : Bool) : Except Error (String × Bool) :=
  if maxObservationResponseReadBytes < chunk.length then .error observationQuotaError
  else .ok (port.encodeBase64url chunk, eof)

/-- {lit}`read_observation`: read recorded bytes and append them to the session. -/
def readObservation (observationHandle : Nat) :
    EngineM Engine Operation Digest Sink (String × Bool) := do
  let entry ← observationEntry observationHandle
  let read ← onOperation entry.operationHandle fun operation =>
    port.readObservationResponse operation observationHandle
  let _ ← observationEntry observationHandle
  let _ ← Fallible.onError (onSession observationHandle (·.write .response read.1))
    (invalidateSemanticObservation port observationHandle)
  Fallible.ofExcept (encodeObservationReadResult port read.1 read.2)

/-- {lit}`finish_observation_inner`: commit an observation and release its handle. -/
def finishObservationInner (observationHandle : Nat) (outcome : DependencyOutcome)
    (sessionPosition : Nat) :
    EngineM Engine Operation Digest Sink (Option (SemanticDependencyResponse Digest)) := do
  let entry ← observationEntry observationHandle
  let semanticResponse ← Fallible.onError
    (onSession observationHandle (·.finish port.dependencies outcome))
    (invalidateSemanticObservation port observationHandle)
  let _ ← operationEntry entry.operationHandle
  Fallible.onError
    (onOperation entry.operationHandle fun operation =>
      port.finishObservation operation observationHandle outcome sessionPosition)
    (invalidateSemanticObservation port observationHandle)
  let finished ← observationEntry observationHandle
  changeRegistry (·.releaseObservation observationHandle)
  noteAll [.committed observationHandle finished outcome]
  pure semanticResponse

/-- {lit}`abandon_observation`: the handle stays if the operation refuses. -/
def abandonObservation (observationHandle : Nat) : EngineM Engine Operation Digest Sink Unit := do
  let entry ← observationEntry observationHandle
  onOperation entry.operationHandle fun operation =>
    port.abandonObservation operation observationHandle
  let _ ← observationEntry observationHandle
  changeRegistry (·.releaseObservation observationHandle)

end Observations
end Engine
end ReproItSdk
