import ReproItSdk.Library.Runs
import ReproItSdk.Process.Recorder

/-! # The process

A process has one ledger, any number of SDKs, managed sinks and local recorders, and reservations of
capture bytes.  All of them run concurrently.  One step is one critical section of the ledger; what
a thread does under the lock of its SDK between two such sections belongs to the next one, because
no other thread sees it.

A call that enters the ledger several times leaves a note of what is still to do; the SDK stays
locked until it is done.  A failure makes its record in a critical section of its own, so any record
may meet the operation later.  A sink of another package reaches the ledger only through managed
sinks and recorders, which anyone may call.

Main definitions:

- Structure {lit}`Process`: the whole state, with the answers that failures gave so far.
- Function {lit}`Process.step`: one step of any part.
- Function {lit}`after`: the process after any order of steps.
-/

namespace ReproItSdk
namespace Process

open Sdk

variable {Digest : Type}

/-! ## State -/

/-- The sink of an SDK. -/
inductive SinkRef where
  | managed (sinkId : Nat)
  | recorder (recorderId : Nat)
  | plain (retainsQueuedCandidates : Bool)
deriving DecidableEq, Repr

/-- {lit}`retains_queued_candidates`. -/
def SinkRef.retainsQueuedCandidates : SinkRef → Bool
  | .managed _ | .recorder _ => true
  | .plain retains => retains

/-- The answer of a failure that was not suppressed.  It remembers the call of the sink and whether
the sink accepted the candidate; no code reads these. -/
structure FailAnswer where
  sink : SinkRef
  callId : Option Nat
  accepted : Bool
  reply : Except Error Unit
deriving DecidableEq, Repr

/-- What a thread that holds the lock of an SDK still has to do. -/
inductive Pending where
  | free
  | deleting (operationId : OperationId)
  | admitted (captureId : CaptureId) (operationId : OperationId) (bytes : Nat)
  | sending (captureId : CaptureId) (operationId : OperationId) (bytes : Nat)
  | waiting (captureId : CaptureId) (callId : Nat)
  | sent (captureId : CaptureId) (callId : Option Nat) (accepted : Bool)
  | releasing (captureId : CaptureId) (answer : FailAnswer)
  | dropping
deriving DecidableEq, Repr

/-- The capture that a failure has handed over and not given up yet. -/
def Pending.handing : Pending → Option CaptureId
  | .sending captureId _ _ | .waiting captureId _ | .sent captureId _ _ | .releasing captureId _ =>
      some captureId
  | .free | .deleting _ | .admitted _ _ _ | .dropping => none

/-- An SDK with its sink. -/
structure Instance (Digest : Type) where
  state : State Digest
  sink : SinkRef
  pending : Pending

/-- {lit}`Sdk::new`. -/
def Instance.new (sink : SinkRef) : Instance Digest where
  state := .new
  sink := sink
  pending := .free

/-! ## Steps of an SDK -/

/-- The steps of an SDK. -/
inductive SdkAction (Digest : Type) where
  | begin (start : CandidateStart Digest) (payload : Payload) (worldBound campaignMatches : Bool)
  | bindAutomaticWorld (operationId : OperationId) (worldId : Digest)
  | append (operationId : OperationId) (kind : EventKind) (payload : Payload)
  | delete
  | succeed (operationId : OperationId)
  | cancel (operationId : OperationId)
  | abandonIncomplete (operationId : OperationId)
  | observeFailure
  | take (operationId : OperationId) (failureRecord : EventRecord) (io : FailIo)
  | handOff
  | answerPlain (accepted : Bool)
  | look
  | release
  | startDrop
  | dropOperation (operationId : OperationId)
  | finishDrop

/-- What a step makes of an SDK and the ledger.  A dropped SDK is gone. -/
structure SdkStep (Digest : Type) where
  answer : Option FailAnswer
  sdk : Option (Instance Digest)
  resources : ProcessResources

namespace Instance

/-- The step to another state of the SDK and the ledger. -/
def next (sdk : Instance Digest) (pending : Pending) (reached : State Digest × ProcessResources)
    (answer : Option FailAnswer) : SdkStep Digest where
  answer := answer
  sdk := some { sdk with state := reached.1, pending := pending }
  resources := reached.2

/-- The answer of a failure. -/
def answer (sdk : Instance Digest) (callId : Option Nat) (accepted : Bool)
    (reply : Except Error Unit) : FailAnswer where
  sink := sdk.sink
  callId := callId
  accepted := accepted
  reply := reply

/-- Steps of the calls that find an SDK unlocked. -/
def freeStep (encoding : Encoding) (sdk : Instance Digest) (resources : ProcessResources) :
    SdkAction Digest → Option (SdkStep Digest)
  | .begin start payload worldBound campaignMatches =>
      some (sdk.next .free
        (sdk.state.beginInner encoding resources start payload worldBound campaignMatches).2 none)
  | .bindAutomaticWorld operationId worldId =>
      some (sdk.next .free
        ((sdk.state.bindAutomaticWorld encoding operationId worldId).2, resources) none)
  | .append operationId kind payload =>
      match sdk.state.appendRecord encoding operationId kind payload with
      | .error _ => some (sdk.next .free (sdk.state, resources) none)
      | .ok (operation, record) =>
          if ¬ withinOperationBounds operation (recordSize record) then
            some (sdk.next .free (sdk.state.delete resources operationId) none)
          else
            let grown := resources.growOperation operationId (recordSize record)
            if ¬ grown.1 then
              some (sdk.next (.deleting operationId) (sdk.state, grown.2) none)
            else
              some (sdk.next .free (sdk.state.insertRecord operationId operation record, grown.2)
                none)
  | .succeed operationId | .cancel operationId =>
      some (sdk.next .free (sdk.state.delete resources operationId) none)
  | .abandonIncomplete operationId =>
      some (sdk.next .free (sdk.state.abandonIncomplete resources operationId) none)
  | .observeFailure => some (sdk.next .free (sdk.state.observeFailure, resources) none)
  | .take operationId failureRecord io =>
      let taken := sdk.state.takeFailed encoding resources operationId failureRecord io
      match taken.1 with
      | .answers (.error error) =>
          some (sdk.next .free taken.2 (some (sdk.answer none false (.error error))))
      -- The storm gate suppressed the failure.
      | .answers (.ok ()) => some (sdk.next .free taken.2 none)
      | .hands candidate bytes =>
          some (sdk.next (.admitted candidate.captureId operationId bytes) taken.2 none)
  | .startDrop => some (sdk.next .dropping (sdk.state, resources) none)
  | _ => none

/-- Steps of a call that left something to do. -/
def pendingStep (sdk : Instance Digest) (resources : ProcessResources) :
    Pending → SdkAction Digest → Option (SdkStep Digest)
  | .deleting operationId, .delete =>
      some (sdk.next .free (sdk.state.delete resources operationId) none)
  | .admitted captureId operationId bytes, .handOff =>
      let reserved := resources.reserveCandidateHandoff captureId bytes
      if ¬ reserved.1 then
        some (sdk.next .free (sdk.state.countQueueFull, reserved.2)
          (some (sdk.answer none false (.error runtimeQuota))))
      else
        some (sdk.next (.sending captureId operationId bytes) (sdk.state, reserved.2) none)
  | .sending captureId _ _, .answerPlain accepted =>
      match sdk.sink with
      | .plain _ =>
          some (sdk.next (.sent captureId none accepted) (sdk.state, resources) none)
      | _ => none
  | .sent captureId callId accepted, .look =>
      let looked := lookAfterSend resources sdk.sink.retainsQueuedCandidates accepted captureId
      if looked.1 then
        some (sdk.next .free (sdk.state, resources)
          (some (sdk.answer callId accepted looked.2)))
      else
        some (sdk.next (.releasing captureId (sdk.answer callId accepted looked.2))
          (sdk.state, resources) none)
  | .releasing captureId answer, .release =>
      some (sdk.next .free (sdk.state, resources.releaseCandidate captureId) (some answer))
  -- Nobody sees the state of an SDK that is dropped, so its entries go one by one.
  | .dropping, .dropOperation operationId =>
      some (sdk.next .dropping (sdk.state.delete resources operationId) none)
  | .dropping, .finishDrop =>
      if KeyedTable.size sdk.state.operations ≠ 0 then none
      else some { answer := none, sdk := none, resources := resources }
  | _, _ => none

/-- One step of an SDK, if its thread can take it. -/
def step (encoding : Encoding) (sdk : Instance Digest) (resources : ProcessResources)
    (action : SdkAction Digest) : Option (SdkStep Digest) :=
  if sdk.pending = .free then sdk.freeStep encoding resources action
  else sdk.pendingStep resources sdk.pending action

end Instance

/-! ## Steps of the process -/

end Process

/-- The process. -/
structure Process (Digest : Type) where
  resources : Sdk.ProcessResources
  sdks : KeyedTable Nat (Process.Instance Digest)
  sinks : KeyedTable Nat Process.ManagedSink
  recorders : KeyedTable Nat Process.LocalRecorder
  reservations : KeyedTable Nat Nat
  answers : List Process.FailAnswer

namespace Process

open Sdk

variable {Digest : Type}

/-- The steps of the process. -/
inductive Action (Digest : Type) where
  | newSdk (sdkId : Nat) (sink : SinkRef)
  | sdk (sdkId : Nat) (action : SdkAction Digest)
  | send (sdkId : Nat)
  | newSink (sinkId : Nat)
  | sink (sinkId : Nat) (action : SinkAction)
  | newRecorder (recorderId : Nat) (operationId : OperationId)
  | recorder (recorderId : Nat) (action : RecorderAction)
  | newReservation (reservationId : Nat)
  | reserve (reservationId bytes : Nat)
  | releaseBytes (reservationId bytes : Nat)
  | dropReservation (reservationId : Nat)

/-- A process that has done nothing. -/
def new : Process Digest where
  resources := .new
  sdks := ∅
  sinks := ∅
  recorders := ∅
  reservations := ∅
  answers := []

/-- Replace an SDK, or remove it. -/
def setSdk (process : Process Digest) (sdkId : Nat) : Option (Instance Digest) → Process Digest
  | some sdk => { process with sdks := process.sdks.insert sdkId sdk }
  | none => { process with sdks := process.sdks.erase sdkId }

/-- Replace a recorder, or remove it. -/
def setRecorder (process : Process Digest) (recorderId : Nat) :
    Option LocalRecorder → Process Digest
  | some recorder => { process with recorders := process.recorders.insert recorderId recorder }
  | none => { process with recorders := process.recorders.erase recorderId }

/-- Give the answer of a sink to the SDK that waits for it. -/
def deliver (process : Process Digest) (sink : SinkRef) (answer : SendAnswer) : Process Digest :=
  match answer.caller.bind process.sdks.lookup, answer.caller with
  | some sdk, some sdkId =>
      match sdk.pending with
      | .waiting captureId callId =>
          if sdk.sink = sink ∧ callId = answer.callId then
            process.setSdk sdkId
              (some { sdk with pending := .sent captureId (some callId) answer.accepted })
          else process
      | _ => process
  | _, _ => process

/-- Give an answer of a sink, if there is one. -/
def deliverAny (process : Process Digest) (sink : SinkRef) :
    Option SendAnswer → Process Digest
  | some answer => process.deliver sink answer
  | none => process

/-- Whether an SDK has a sink. -/
def refersTo (process : Process Digest) (sink : SinkRef) : Bool :=
  process.sdks.entries.any fun entry => entry.2.sink == sink

/-- Whether a sink can be given to an SDK. -/
def hasSink (process : Process Digest) : SinkRef → Bool
  | .managed sinkId => (process.sinks.lookup sinkId).any fun sink => !sink.closed
  | .recorder recorderId => (process.recorders.lookup recorderId).isSome
  | .plain _ => true

/-- An SDK that enters {lit}`try_send` of its sink. -/
def sendStep (process : Process Digest) (sdkId : Nat) : Option (Process Digest) :=
  (process.sdks.lookup sdkId).bind fun sdk =>
    match sdk.pending, sdk.sink with
    | .sending captureId _ bytes, .managed sinkId =>
        ((process.sinks.lookup sinkId).filter fun sink => !sink.closed).map fun sink =>
          { process.setSdk sdkId
              (some { sdk with pending := .waiting captureId sink.nextCall }) with
            sinks := process.sinks.insert sinkId (sink.enter (some sdkId) captureId bytes) }
    | .sending captureId operationId bytes, .recorder recorderId =>
        (process.recorders.lookup recorderId).map fun recorder =>
          (process.setSdk sdkId
            (some { sdk with pending := .waiting captureId recorder.nextCall })).setRecorder
              recorderId (some (recorder.enter (some sdkId) captureId operationId bytes))
    | _, _ => none

/-- Whether a step of a sink can be taken without an SDK.  A sink that an SDK has is not
dropped. -/
def allowsSink (process : Process Digest) (sinkId : Nat) : SinkAction → Bool
  | .enter caller _ _ => caller.isNone
  | .close => !process.refersTo (.managed sinkId)
  | _ => true

/-- Whether a step of a recorder can be taken without an SDK. -/
def allowsRecorder (process : Process Digest) (recorderId : Nat) : RecorderAction → Bool
  | .enter caller _ _ _ => caller.isNone
  | .drop => !process.refersTo (.recorder recorderId)
  | _ => true

/-- One step of the process, if some thread can take it. -/
def step (encoding : Encoding) (process : Process Digest) :
    Action Digest → Option (Process Digest)
  | .newSdk sdkId sink =>
      if (process.sdks.lookup sdkId).isNone ∧ process.hasSink sink then
        some (process.setSdk sdkId (some (.new sink)))
      else none
  | .sdk sdkId action =>
      (process.sdks.lookup sdkId).bind fun sdk =>
        (sdk.step encoding process.resources action).map fun taken =>
          { process.setSdk sdkId taken.sdk with
            resources := taken.resources
            answers := taken.answer.toList ++ process.answers }
  | .send sdkId => process.sendStep sdkId
  | .newSink sinkId =>
      if (process.sinks.lookup sinkId).isNone then
        some { process with sinks := process.sinks.insert sinkId .new }
      else none
  | .sink sinkId action =>
      if process.allowsSink sinkId action then
        (process.sinks.lookup sinkId).bind fun sink =>
          (sink.step process.resources action).map fun taken =>
            ({ process with
              sinks := process.sinks.insert sinkId taken.sink
              resources := taken.resources }).deliverAny (.managed sinkId) taken.answer
      else none
  | .newRecorder recorderId operationId =>
      if (process.recorders.lookup recorderId).isNone then
        some (process.setRecorder recorderId (some (.new operationId)))
      else none
  | .recorder recorderId action =>
      if process.allowsRecorder recorderId action then
        (process.recorders.lookup recorderId).bind fun recorder =>
          (recorder.step process.resources action).map fun taken =>
            ({ process.setRecorder recorderId taken.recorder with
              resources := taken.resources }).deliverAny (.recorder recorderId) taken.answer
      else none
  | .newReservation reservationId =>
      if (process.reservations.lookup reservationId).isNone then
        some { process with reservations := process.reservations.insert reservationId 0 }
      else none
  | .reserve reservationId bytes =>
      (process.reservations.lookup reservationId).map fun reservedBytes =>
        let reserved := process.resources.reserveCaptureBytes reservedBytes bytes
        { process with
          reservations := process.reservations.insert reservationId reserved.1.2
          resources := reserved.2 }
  | .releaseBytes reservationId bytes =>
      (process.reservations.lookup reservationId).map fun reservedBytes =>
        let released := process.resources.releaseCapture reservedBytes bytes
        { process with
          reservations := process.reservations.insert reservationId released.1
          resources := released.2 }
  | .dropReservation reservationId =>
      (process.reservations.lookup reservationId).map fun reservedBytes =>
        { process with
          reservations := process.reservations.erase reservationId
          resources := process.resources.dropReservation reservedBytes }

/-- A step that some thread tries.  One that it cannot take changes nothing. -/
def interleave (encoding : Encoding) (process : Process Digest) (action : Action Digest) :
    Bool × Process Digest :=
  match process.step encoding action with
  | some next => (true, next)
  | none => (false, process)

/-- The process after any order of steps. -/
def after (encoding : Encoding) (actions : List (Action Digest)) : Process Digest :=
  Runs.final (interleave encoding) new actions

end Process
end ReproItSdk
