import ReproItSdk.Sdk.Resources

/-! # The SDK

An SDK keeps the records of the operations that are active.  A failure turns the records of one
operation into a candidate and hands it to the sink.  The calls hold the lock of the SDK and enter
the ledger of the process several times, so every call is put together from the parts between two
entries.

A payload enters a call as its canonical encoding.  The deployment, the discovery source and the
failure that a candidate carries are read by its validation only and are left out.

Main definitions:

- Structure {lit}`State`: the state behind the lock of an SDK.
- Function {lit}`append`: add one record to an operation.
- Function {lit}`prepareCandidate`: the candidate of a failed operation.
- Function {lit}`fail`: the whole failure of an operation that no other thread interrupts.
-/

namespace ReproItSdk
namespace Sdk

variable {Digest : Type}

/-! ## Constants and errors -/

/-- Most bytes of one operation. -/
def maxOperationBytes : Nat :=
  262144

/-- Most bytes of one encoded payload. -/
def maxEventBytes : Nat :=
  65536

/-- Most records of one operation. -/
def maxEvents : Nat :=
  1024

/-- {lit}`runtime_quota`. -/
def runtimeQuota : Error where
  code := .runtimeQuota
  message := "The SDK capture limit was reached."

/-- {lit}`incomplete_candidate`. -/
def incompleteCandidate : Error where
  code := .incompleteCandidate
  message := "The operation does not have complete capture state."

/-- What the SDK takes from reproit-core: the text encoding of payloads and the error of an invalid
record. -/
structure Encoding where
  encodeBase64url : Bytes → String
  schemaInvalid : Error

/-! ## State -/

/-- Kinds of records. -/
inductive EventKind where
  | begin
  | input
  | dependency
  | observation
  | observationFence
  | failure
  | terminal
deriving DecidableEq, Repr

/-- One record of an operation. -/
structure EventRecord where
  kind : EventKind
  payload : String
  sequence : Nat
deriving DecidableEq, Repr

/-- The canonical encoding of a payload, or the error of the encoder. -/
abbrev Payload : Type :=
  Except Error Bytes

/-- Counters of what became of failures. -/
structure SdkRecallCounters where
  candidateDeliveryExpired : Nat
  candidateDurablyAccepted : Nat
  candidateIncomplete : Nat
  candidateQueueFull : Nat
  candidateRejected : Nat
  eligibleFailureObserved : Nat
  suppressedExactStorm : Nat
  suppressedHighCardinalityStorm : Nat
deriving DecidableEq, Repr

/-- Counters at the start. -/
def SdkRecallCounters.zero : SdkRecallCounters where
  candidateDeliveryExpired := 0
  candidateDurablyAccepted := 0
  candidateIncomplete := 0
  candidateQueueFull := 0
  candidateRejected := 0
  eligibleFailureObserved := 0
  suppressedExactStorm := 0
  suppressedHighCardinalityStorm := 0

/-- What an operation starts with. -/
structure CandidateStart (Digest : Type) where
  captureId : CaptureId
  operationId : OperationId
  worldId : Digest
deriving DecidableEq, Repr

/-- An active operation. -/
structure ActiveOperation (Digest : Type) where
  bytes : Nat
  records : List EventRecord
  start : CandidateStart Digest
  worldBound : Bool
deriving DecidableEq, Repr

/-- A failed operation with all its records. -/
structure Candidate (Digest : Type) where
  captureId : CaptureId
  operationId : OperationId
  records : List EventRecord
  worldId : Digest
deriving DecidableEq, Repr

/-- The state behind the lock of an SDK. -/
structure State (Digest : Type) where
  globalBytes : Nat
  operations : KeyedTable OperationId (ActiveOperation Digest)
  recallCounters : SdkRecallCounters

namespace State

/-- {lit}`State::new`: no operation is active. -/
def new : State Digest where
  globalBytes := 0
  operations := ∅
  recallCounters := .zero

end State

/-! ## Records -/

/-- {lit}`event_record`: a record with its encoded payload. -/
def eventRecord (encoding : Encoding) (kind : EventKind) (sequence : Nat)
    (payload : Payload) : Except Error EventRecord :=
  match payload with
  | .error error => .error error
  | .ok bytes =>
      if maxEventBytes < bytes.length then .error runtimeQuota
      else .ok { kind := kind, payload := encoding.encodeBase64url bytes, sequence := sequence }

/-- {lit}`record_size`. -/
def recordSize (record : EventRecord) : Nat :=
  saturatingAdd record.payload.utf8ByteSize 32

/-- {lit}`within_operation_bounds`. -/
def withinOperationBounds (operation : ActiveOperation Digest) (addedBytes : Nat) : Bool :=
  operation.records.length < maxEvents &&
    saturatingAdd operation.bytes addedBytes ≤ maxOperationBytes

/-- {lit}`u16::try_from` of the number of records. -/
def recordSequence (records : List EventRecord) : Except Error Nat :=
  if records.length ≤ u16Max then .ok records.length else .error runtimeQuota

/-! ## Begin and end of an operation -/

namespace State

/-- The part of {lit}`begin_inner` that follows a granted reservation. -/
def insertOperation (state : State Digest) (start : CandidateStart Digest) (record : EventRecord)
    (worldBound : Bool) : State Digest :=
  { state with
    globalBytes := state.globalBytes + recordSize record
    operations := state.operations.insert start.operationId
      { bytes := recordSize record
        records := [record]
        start := start
        worldBound := worldBound } }

/-- The part of {lit}`begin_inner` that precedes the reservation: the record to start with. -/
def beginRecord (encoding : Encoding) (state : State Digest)
    (start : CandidateStart Digest) (payload : Payload) (campaignMatches : Bool) :
    Except Error EventRecord :=
  if ¬ campaignMatches then
    .error encoding.schemaInvalid
  else
    match eventRecord encoding .begin 0 payload with
    | .error error => .error error
    | .ok record =>
        if (state.operations.lookup start.operationId).isSome then
          .error encoding.schemaInvalid
        else .ok record

/-- {lit}`begin_inner`: start an operation.  The flag tells whether the campaign of the payload is
the one of the context. -/
def beginInner (encoding : Encoding) (state : State Digest)
    (resources : ProcessResources) (start : CandidateStart Digest) (payload : Payload)
    (worldBound campaignMatches : Bool) :
    Except Error Unit × State Digest × ProcessResources :=
  match state.beginRecord encoding start payload campaignMatches with
  | .error error => (.error error, state, resources)
  | .ok record =>
      let reserved := resources.reserveOperation start.operationId (recordSize record)
      if ¬ reserved.1 then (.error runtimeQuota, state, reserved.2)
      else (.ok (), state.insertOperation start record worldBound, reserved.2)

/-- {lit}`bind_automatic_world`: name the World of an operation, once. -/
def bindAutomaticWorld (encoding : Encoding) (state : State Digest) (operationId : OperationId)
    (worldId : Digest) : Except Error Unit × State Digest :=
  match state.operations.lookup operationId with
  | none => (.error incompleteCandidate, state)
  | some operation =>
      if operation.worldBound then
        (.error encoding.schemaInvalid, state)
      else
        (.ok (),
          { state with
            operations := state.operations.insert operationId
              { operation with
                start := { operation.start with worldId := worldId }
                worldBound := true } })

/-- The part of {lit}`delete` that changes the state of the SDK. -/
def removeOperation (state : State Digest) (operationId : OperationId) : State Digest :=
  match state.operations.lookup operationId with
  | none => state
  | some operation =>
      { state with
        globalBytes := state.globalBytes - operation.bytes
        operations := state.operations.erase operationId }

/-- {lit}`delete`: forget an operation and release its bytes. -/
def delete (state : State Digest) (resources : ProcessResources) (operationId : OperationId) :
    State Digest × ProcessResources :=
  match state.operations.lookup operationId with
  | none => (state, resources)
  | some _ => (state.removeOperation operationId, resources.releaseOperation operationId)

/-- Count a candidate that could not be completed. -/
def countIncomplete (state : State Digest) : State Digest :=
  { state with
    recallCounters :=
      { state.recallCounters with
        candidateIncomplete := saturatingAdd state.recallCounters.candidateIncomplete 1 } }

/-- {lit}`abandon_incomplete`: forget an operation and count it. -/
def abandonIncomplete (state : State Digest) (resources : ProcessResources)
    (operationId : OperationId) : State Digest × ProcessResources :=
  match state.operations.lookup operationId with
  | none => (state, resources)
  | some _ =>
      let deleted := state.delete resources operationId
      (deleted.1.countIncomplete, deleted.2)

/-! ## Append -/

/-- The part of {lit}`append` that makes the record of a live operation. -/
def appendRecord (encoding : Encoding) (state : State Digest)
    (operationId : OperationId) (kind : EventKind) (payload : Payload) :
    Except Error (ActiveOperation Digest × EventRecord) :=
  match state.operations.lookup operationId with
  | none => .error incompleteCandidate
  | some operation =>
      match recordSequence operation.records with
      | .error error => .error error
      | .ok sequence =>
          (eventRecord encoding kind sequence payload).map fun record => (operation, record)

/-- The part of {lit}`append` that follows a granted growth. -/
def insertRecord (state : State Digest) (operationId : OperationId)
    (operation : ActiveOperation Digest) (record : EventRecord) : State Digest :=
  { state with
    globalBytes := state.globalBytes + recordSize record
    operations := state.operations.insert operationId
      { operation with
        bytes := operation.bytes + recordSize record
        records := operation.records ++ [record] } }

/-- {lit}`append`: add one record to an operation, or delete it when a limit is reached. -/
def append (encoding : Encoding) (state : State Digest)
    (resources : ProcessResources) (operationId : OperationId) (kind : EventKind)
    (payload : Payload) : Except Error Unit × State Digest × ProcessResources :=
  match state.appendRecord encoding operationId kind payload with
  | .error error => (.error error, state, resources)
  | .ok (operation, record) =>
      if ¬ withinOperationBounds operation (recordSize record) then
        (.error runtimeQuota, state.delete resources operationId)
      else
        let grown := resources.growOperation operationId (recordSize record)
        if ¬ grown.1 then (.error runtimeQuota, state.delete grown.2 operationId)
        else (.ok (), state.insertRecord operationId operation record, grown.2)

end State

/-! ## Failure -/

/-- Decision of the storm gate. -/
inductive StormDecision where
  | admitted
  | suppressedExact
  | suppressedHighCardinality
deriving DecidableEq, Repr

/-- What a failure meets besides the records: the encoded terminal payload, the validation of the
candidate, the decision of the storm gate and the length of the encoded candidate. -/
structure FailIo where
  terminal : Nat → Payload
  validated : Except Error Unit
  storm : Except Error StormDecision
  encoded : Except Error Nat

/-- The part of {lit}`fail` that completes the records of an operation that was taken out. -/
def prepareCandidate (encoding : Encoding) (operationId : OperationId)
    (operation : ActiveOperation Digest) (failureRecord : EventRecord) (io : FailIo) :
    Except Error (Candidate Digest) :=
  if ¬ withinOperationBounds operation (recordSize failureRecord) then .error runtimeQuota
  else
    let records := operation.records ++ [failureRecord]
    match recordSequence records with
    | .error error => .error error
    | .ok eventCount =>
        match eventRecord encoding .terminal eventCount (io.terminal eventCount) with
        | .error error => .error error
        | .ok terminalRecord =>
            if maxOperationBytes <
                saturatingAdd (saturatingAdd operation.bytes (recordSize failureRecord))
                  (recordSize terminalRecord) then
              .error runtimeQuota
            else
              match io.validated with
              | .error error => .error error
              | .ok () =>
                  .ok
                    { captureId := operation.start.captureId
                      operationId := operationId
                      records := records ++ [terminalRecord]
                      worldId := operation.start.worldId }

namespace State

/-- The first critical section of {lit}`fail`: count the failure. -/
def observeFailure (state : State Digest) : State Digest :=
  { state with
    recallCounters :=
      { state.recallCounters with
        eligibleFailureObserved := saturatingAdd state.recallCounters.eligibleFailureObserved 1 } }

/-- {lit}`failure_record`: the record of a failure of a live operation with a bound World. -/
def failureRecord (encoding : Encoding) (state : State Digest)
    (operationId : OperationId) (payload : Payload) : Except Error EventRecord :=
  match state.operations.lookup operationId with
  | none => .error incompleteCandidate
  | some operation =>
      if ¬ operation.worldBound then .error incompleteCandidate
      else
        match recordSequence operation.records with
        | .error error => .error error
        | .ok sequence => eventRecord encoding .failure sequence payload

/-- Count a suppressed failure. -/
def countSuppressed (state : State Digest) : StormDecision → State Digest
  | .admitted => state
  | .suppressedExact =>
      { state with
        recallCounters :=
          { state.recallCounters with
            suppressedExactStorm := saturatingAdd state.recallCounters.suppressedExactStorm 1 } }
  | .suppressedHighCardinality =>
      { state with
        recallCounters :=
          { state.recallCounters with
            suppressedHighCardinalityStorm :=
              saturatingAdd state.recallCounters.suppressedHighCardinalityStorm 1 } }

/-- Count a candidate that found no room. -/
def countQueueFull (state : State Digest) : State Digest :=
  { state with
    recallCounters :=
      { state.recallCounters with
        candidateQueueFull := saturatingAdd state.recallCounters.candidateQueueFull 1 } }

end State

/-- Where {lit}`fail` stands after it took an operation out: it answers at once, or it has a
candidate to hand over. -/
inductive Taken (Digest : Type) where
  | answers (reply : Except Error Unit)
  | hands (candidate : Candidate Digest) (bytes : Nat)

namespace State

/-- The part of {lit}`fail` between the removal of the operation and the handoff of its
candidate. -/
def takeFailed (encoding : Encoding) (state : State Digest) (resources : ProcessResources)
    (operationId : OperationId) (failureRecord : EventRecord) (io : FailIo) :
    Taken Digest × State Digest × ProcessResources :=
  match state.operations.lookup operationId with
  | none => (.answers (.error incompleteCandidate), state, resources)
  | some operation =>
      let deleted := state.delete resources operationId
      match prepareCandidate encoding operationId operation failureRecord io with
      | .error error => (.answers (.error error), deleted)
      | .ok candidate =>
          match io.storm with
          | .error error => (.answers (.error error), deleted)
          | .ok .admitted =>
              match io.encoded with
              | .error error => (.answers (.error error), deleted)
              | .ok bytes =>
                  if maxOperationBytes < bytes then
                    (.answers (.error runtimeQuota), deleted.1.countQueueFull, deleted.2)
                  else (.hands candidate bytes, deleted)
          | .ok decision => (.answers (.ok ()), deleted.1.countSuppressed decision, deleted.2)

end State

/-- A sink, as one failure meets it. -/
structure SinkIo (Digest : Type) where
  retainsQueuedCandidates : Bool
  trySend : Candidate Digest → ProcessResources → Bool × ProcessResources

/-- The part of {lit}`fail` that looks at the ledger after the sink answered, and its reply. -/
def lookAfterSend (resources : ProcessResources) (retainsQueuedCandidates sent : Bool)
    (captureId : CaptureId) : Bool × Except Error Unit :=
  let retained := retainsQueuedCandidates && resources.candidateIsRetained captureId
  (retained,
    if ¬ sent ∨ (retainsQueuedCandidates ∧ ¬ retained) then .error runtimeQuota else .ok ())

/-- What a failure did: its reply and the candidate it handed to the sink. -/
structure FailReply (Digest : Type) where
  reply : Except Error Unit
  handed : Option (Candidate Digest)

namespace State

/-- {lit}`fail`, when no other thread interrupts it. -/
def fail (encoding : Encoding) (state : State Digest) (resources : ProcessResources)
    (operationId : OperationId) (payload : Payload) (io : FailIo) (sink : SinkIo Digest) :
    FailReply Digest × State Digest × ProcessResources :=
  let state := state.observeFailure
  match state.failureRecord encoding operationId payload with
  | .error error => ({ reply := .error error, handed := none }, state, resources)
  | .ok failureRecord =>
      let taken := state.takeFailed encoding resources operationId failureRecord io
      match taken.1 with
      | .answers reply => ({ reply := reply, handed := none }, taken.2)
      | .hands candidate bytes =>
          let reserved := taken.2.2.reserveCandidateHandoff candidate.captureId bytes
          if ¬ reserved.1 then
            ({ reply := .error runtimeQuota, handed := none }, taken.2.1.countQueueFull, reserved.2)
          else
            let sent := sink.trySend candidate reserved.2
            let looked := lookAfterSend sent.2 sink.retainsQueuedCandidates sent.1
              candidate.captureId
            ({ reply := looked.2, handed := some candidate }, taken.2.1,
              if looked.1 then sent.2 else sent.2.releaseCandidate candidate.captureId)

end State

/-! ## Plain values -/

/-- A plain encoding. -/
def plainEncoding : Encoding where
  encodeBase64url := plainText
  schemaInvalid := plainError

/-- A failure whose steps succeed. -/
def plainFailIo : FailIo where
  terminal _ := .ok [2]
  validated := .ok ()
  storm := .ok .admitted
  encoded := .ok 64

end Sdk
end ReproItSdk
