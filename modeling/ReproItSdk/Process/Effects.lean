import ReproItSdk.Process.Model

/-! # Effects of the steps of an SDK

A step of an SDK changes its operations together with their entries in the ledger, or it moves the
candidate of a failure on.  It never does both.

Main results:

- Theorem {lit}`takeFailed_effect`: taking a failed operation out deletes it.
- Theorem {lit}`Instance.step_effect`: every step of an SDK has an effect.
-/

namespace ReproItSdk
namespace Process

open Sdk

variable {Digest : Type}

/-! ## Operations -/

/-- What a step does to the operations of an SDK and their entries in the ledger. -/
inductive OperationsEffect (state : State Digest) (resources : ProcessResources) :
    State Digest → ProcessResources → Prop
  | kept (next : State Digest) (operations : next.operations = state.operations)
      (bytes : next.globalBytes = state.globalBytes) :
      OperationsEffect state resources next resources
  | changed (operationId : OperationId) (operation other : ActiveOperation Digest)
      (found : state.operations.lookup operationId = some operation)
      (sameBytes : other.bytes = operation.bytes) (next : State Digest)
      (operations : next.operations = state.operations.insert operationId other)
      (bytes : next.globalBytes = state.globalBytes) :
      OperationsEffect state resources next resources
  | began (operationId : OperationId) (operation : ActiveOperation Digest)
      (absent : state.operations.lookup operationId = none)
      (granted : (resources.reserveOperation operationId operation.bytes).1 = true)
      (next : State Digest)
      (operations : next.operations = state.operations.insert operationId operation)
      (bytes : next.globalBytes = state.globalBytes + operation.bytes) :
      OperationsEffect state resources next
        (resources.reserveOperation operationId operation.bytes).2
  | grew (operationId : OperationId) (operation grown : ActiveOperation Digest) (addedBytes : Nat)
      (found : state.operations.lookup operationId = some operation)
      (moreBytes : grown.bytes = operation.bytes + addedBytes)
      (granted : (resources.growOperation operationId addedBytes).1 = true) (next : State Digest)
      (operations : next.operations = state.operations.insert operationId grown)
      (bytes : next.globalBytes = state.globalBytes + addedBytes) :
      OperationsEffect state resources next (resources.growOperation operationId addedBytes).2
  | deleted (operationId : OperationId) (operation : ActiveOperation Digest)
      (found : state.operations.lookup operationId = some operation) (next : State Digest)
      (operations : next.operations = state.operations.erase operationId)
      (bytes : next.globalBytes = state.globalBytes - operation.bytes) :
      OperationsEffect state resources next (resources.releaseOperation operationId)

section Operations

variable {encoding : Encoding} {state : State Digest} {resources : ProcessResources}
  {operationId : OperationId}

/-- An effect stays the same when only the counters of the SDK change. -/
theorem OperationsEffect.of_counters {next other : State Digest} {reached : ProcessResources}
    (effect : OperationsEffect state resources next reached)
    (operations : other.operations = next.operations)
    (bytes : other.globalBytes = next.globalBytes) :
    OperationsEffect state resources other reached := by
  cases effect with
  | kept _ sameOperations sameBytes =>
      exact .kept other (operations.trans sameOperations) (bytes.trans sameBytes)
  | changed operationId operation changed found same _ newOperations newBytes =>
      exact .changed operationId operation changed found same other
        (operations.trans newOperations) (bytes.trans newBytes)
  | began operationId operation absent granted _ newOperations newBytes =>
      exact .began operationId operation absent granted other (operations.trans newOperations)
        (bytes.trans newBytes)
  | grew operationId operation grown addedBytes found more granted _ newOperations newBytes =>
      exact .grew operationId operation grown addedBytes found more granted other
        (operations.trans newOperations) (bytes.trans newBytes)
  | deleted operationId operation found _ newOperations newBytes =>
      exact .deleted operationId operation found other (operations.trans newOperations)
        (bytes.trans newBytes)

/-- A refused reservation changes nothing. -/
theorem reserveOperation_refused {bytes : Nat}
    (refused : (resources.reserveOperation operationId bytes).1 = false) :
    (resources.reserveOperation operationId bytes).2 = resources := by
  unfold ProcessResources.reserveOperation at refused ⊢
  split at refused
  · simp only [*, if_true]
  · cases refused

/-- A refused growth changes nothing. -/
theorem growOperation_refused {addedBytes : Nat}
    (refused : (resources.growOperation operationId addedBytes).1 = false) :
    (resources.growOperation operationId addedBytes).2 = resources := by
  unfold ProcessResources.growOperation at refused ⊢
  split
  · rfl
  · rename_i fits
    rw [if_neg fits] at refused
    split
    · rfl
    · rename_i present
      rw [present] at refused
      cases refused

/-- A delete releases the operation that it removes. -/
theorem delete_effect (state : State Digest) (resources : ProcessResources)
    (operationId : OperationId) :
    OperationsEffect state resources (state.delete resources operationId).1
      (state.delete resources operationId).2 := by
  unfold State.delete
  split
  · exact .kept state rfl rfl
  · rename_i operation found
    refine .deleted operationId operation found _ ?_ ?_
    · simp only [State.removeOperation, found]
    · simp only [State.removeOperation, found]

/-- A begin reserves the operation that it inserts. -/
theorem beginInner_effect (encoding : Encoding) (state : State Digest)
    (resources : ProcessResources) (start : CandidateStart Digest) (payload : Payload)
    (worldBound campaignMatches : Bool) :
    OperationsEffect state resources
      (state.beginInner encoding resources start payload worldBound campaignMatches).2.1
      (state.beginInner encoding resources start payload worldBound campaignMatches).2.2 := by
  unfold State.beginInner
  cases begun : state.beginRecord encoding start payload campaignMatches with
  | error error => exact .kept state rfl rfl
  | ok record =>
      have absent : state.operations.lookup start.operationId = none := by
        unfold State.beginRecord at begun
        split at begun
        · cases begun
        · split at begun
          · cases begun
          · split at begun
            · cases begun
            · simpa using ‹¬(state.operations.lookup start.operationId).isSome = true›
      dsimp only
      split
      · rename_i refused
        rw [reserveOperation_refused (Bool.not_eq_true _ ▸ refused)]
        exact .kept state rfl rfl
      · rename_i granted
        exact .began start.operationId
          { bytes := recordSize record
            records := [record]
            start := start
            worldBound := worldBound } absent (not_not.mp granted) _ rfl rfl

/-- Binding a World keeps the bytes of the operation. -/
theorem bindAutomaticWorld_effect (encoding : Encoding) (state : State Digest)
    (resources : ProcessResources) (operationId : OperationId) (worldId : Digest) :
    OperationsEffect state resources
      (state.bindAutomaticWorld encoding operationId worldId).2 resources := by
  unfold State.bindAutomaticWorld
  cases found : state.operations.lookup operationId with
  | none => exact .kept state rfl rfl
  | some operation =>
      dsimp only
      split
      · exact .kept state rfl rfl
      · exact .changed operationId operation
          { operation with
            start := { operation.start with worldId := worldId }
            worldBound := true } found rfl _ rfl rfl

/-- A record is made for a live operation only. -/
theorem lookup_of_appendRecord {kind : EventKind} {payload : Payload}
    {operation : ActiveOperation Digest} {record : EventRecord}
    (made : state.appendRecord encoding operationId kind payload = .ok (operation, record)) :
    state.operations.lookup operationId = some operation := by
  unfold State.appendRecord at made
  split at made
  · cases made
  · rename_i found
    split at made
    · cases made
    · rename_i sequence sequenced
      cases recorded : eventRecord encoding kind sequence payload with
      | error error =>
          rw [recorded] at made
          cases made
      | ok record =>
          rw [recorded] at made
          cases made
          exact found

/-- Abandoning an operation deletes it. -/
theorem abandonIncomplete_effect (state : State Digest) (resources : ProcessResources)
    (operationId : OperationId) :
    OperationsEffect state resources (state.abandonIncomplete resources operationId).1
      (state.abandonIncomplete resources operationId).2 := by
  unfold State.abandonIncomplete
  split
  · exact .kept state rfl rfl
  · exact (delete_effect state resources operationId).of_counters rfl rfl

/-- Taking a failed operation out deletes it. -/
theorem takeFailed_effect (encoding : Encoding) (state : State Digest)
    (resources : ProcessResources) (operationId : OperationId) (failureRecord : EventRecord)
    (io : FailIo) :
    OperationsEffect state resources
      (state.takeFailed encoding resources operationId failureRecord io).2.1
      (state.takeFailed encoding resources operationId failureRecord io).2.2 := by
  have deleted := delete_effect state resources operationId
  unfold State.takeFailed
  split
  · exact .kept state rfl rfl
  · dsimp only
    split
    · exact deleted
    · split
      · exact deleted
      · split
        · exact deleted
        · split
          · exact deleted.of_counters rfl rfl
          · exact deleted
      · rename_i decision _ _
        cases decision with
        | admitted => exact deleted
        | suppressedExact | suppressedHighCardinality => exact deleted.of_counters rfl rfl

end Operations

/-! ## Steps -/

/-- An answer of a failure that never reached its sink. -/
def FailAnswer.unsent (answer : FailAnswer) : Prop :=
  answer.callId = none ∧ answer.accepted = false ∧ ∃ error, answer.reply = .error error

/-- What a step of an SDK does. -/
inductive SdkEffect (sdk : Instance Digest) (resources : ProcessResources) : SdkStep Digest → Prop
  | operated (pending : Pending) (state : State Digest) (reached : ProcessResources)
      (answer : Option FailAnswer)
      (effect : OperationsEffect sdk.state resources state reached)
      (before : sdk.pending.handing = none) (after : pending.handing = none)
      (unsent : ∀ given ∈ answer, given.unsent) :
      SdkEffect sdk resources (sdk.next pending (state, reached) answer)
  | handedOff (captureId : CaptureId) (operationId : OperationId) (bytes : Nat)
      (pending : sdk.pending = .admitted captureId operationId bytes)
      (granted : (resources.reserveCandidateHandoff captureId bytes).1 = true) :
      SdkEffect sdk resources
        (sdk.next (.sending captureId operationId bytes)
          (sdk.state, (resources.reserveCandidateHandoff captureId bytes).2) none)
  | answeredPlain (captureId : CaptureId) (operationId : OperationId) (bytes : Nat)
      (retains accepted : Bool) (pending : sdk.pending = .sending captureId operationId bytes)
      (sink : sdk.sink = .plain retains) :
      SdkEffect sdk resources
        (sdk.next (.sent captureId none accepted) (sdk.state, resources) none)
  | lookedRetained (captureId : CaptureId) (callId : Option Nat) (accepted : Bool)
      (pending : sdk.pending = .sent captureId callId accepted)
      (retained : (lookAfterSend resources sdk.sink.retainsQueuedCandidates accepted captureId).1 =
        true) :
      SdkEffect sdk resources
        (sdk.next .free (sdk.state, resources)
          (some (sdk.answer callId accepted
            (lookAfterSend resources sdk.sink.retainsQueuedCandidates accepted captureId).2)))
  | lookedUnretained (captureId : CaptureId) (callId : Option Nat) (accepted : Bool)
      (pending : sdk.pending = .sent captureId callId accepted) :
      SdkEffect sdk resources
        (sdk.next
          (.releasing captureId (sdk.answer callId accepted
            (lookAfterSend resources sdk.sink.retainsQueuedCandidates accepted captureId).2))
          (sdk.state, resources) none)
  | released (captureId : CaptureId) (answer : FailAnswer)
      (pending : sdk.pending = .releasing captureId answer) :
      SdkEffect sdk resources
        (sdk.next .free (sdk.state, resources.releaseCandidate captureId) (some answer))
  | dropped (pending : sdk.pending = .dropping)
      (empty : KeyedTable.size sdk.state.operations = 0) :
      SdkEffect sdk resources { answer := none, sdk := none, resources := resources }

namespace Instance

variable {encoding : Encoding} {sdk : Instance Digest} {resources : ProcessResources}
  {taken : SdkStep Digest}

/-- A step that finds the SDK unlocked has an effect. -/
theorem freeStep_effect {action : SdkAction Digest} (free : sdk.pending = .free)
    (stepped : sdk.freeStep encoding resources action = some taken) :
    SdkEffect sdk resources taken := by
  have before : sdk.pending.handing = none := by rw [free]; rfl
  have operated : ∀ pending state reached,
      OperationsEffect sdk.state resources state reached → pending.handing = none →
      SdkEffect sdk resources (sdk.next pending (state, reached) none) :=
    fun pending state reached effect after =>
      .operated pending state reached none effect before after (by simp)
  cases action with
  | begin start payload worldBound campaignMatches =>
      cases stepped
      exact operated _ _ _ (beginInner_effect encoding sdk.state resources start payload worldBound
        campaignMatches) rfl
  | bindAutomaticWorld operationId worldId =>
      cases stepped
      exact operated _ _ _ (bindAutomaticWorld_effect encoding sdk.state resources operationId
        worldId) rfl
  | append operationId kind payload =>
      simp only [freeStep] at stepped
      split at stepped
      · cases stepped
        exact operated _ _ _ (.kept sdk.state rfl rfl) rfl
      · rename_i operation record made
        split at stepped
        · cases stepped
          exact operated _ _ _ (delete_effect sdk.state resources operationId) rfl
        · split at stepped
          · rename_i refused
            cases stepped
            rw [growOperation_refused (Bool.not_eq_true _ ▸ refused)]
            exact operated _ _ _ (.kept sdk.state rfl rfl) rfl
          · rename_i granted
            cases stepped
            exact operated _ _ _ (.grew operationId operation _ (recordSize record)
              (lookup_of_appendRecord made) rfl (not_not.mp granted) _ rfl rfl) rfl
  | succeed operationId | cancel operationId =>
      cases stepped
      exact operated _ _ _ (delete_effect sdk.state resources operationId) rfl
  | abandonIncomplete operationId =>
      cases stepped
      exact operated _ _ _ (abandonIncomplete_effect sdk.state resources operationId) rfl
  | observeFailure =>
      cases stepped
      exact operated _ _ _ (.kept _ rfl rfl) rfl
  | take operationId failureRecord io =>
      have effect := takeFailed_effect encoding sdk.state resources operationId failureRecord io
      simp only [freeStep] at stepped
      split at stepped
      · cases stepped
        refine .operated .free _ _ _ effect before rfl fun given member => ?_
        cases member
        exact ⟨rfl, rfl, _, rfl⟩
      · cases stepped
        exact operated _ _ _ effect rfl
      · cases stepped
        exact operated _ _ _ effect rfl
  | startDrop =>
      cases stepped
      exact operated _ _ _ (.kept sdk.state rfl rfl) rfl
  | delete | handOff | answerPlain | look | release | dropOperation | finishDrop => cases stepped

/-- A step of a call that left something to do has an effect. -/
theorem pendingStep_effect {action : SdkAction Digest}
    (stepped : sdk.pendingStep resources sdk.pending action = some taken) :
    SdkEffect sdk resources taken := by
  unfold pendingStep at stepped
  split at stepped
  · rename_i operationId pending
    cases stepped
    exact .operated .free _ _ none (delete_effect sdk.state resources operationId)
      (by rw [pending]; rfl) rfl (by simp)
  · rename_i captureId operationId bytes pending
    dsimp only at stepped
    split at stepped
    · rename_i refused
      cases stepped
      have unchanged : (resources.reserveCandidateHandoff captureId bytes).2 = resources := by
        unfold ProcessResources.reserveCandidateHandoff at refused ⊢
        split
        · rfl
        · rename_i granted
          rw [if_neg granted] at refused
          exact absurd rfl refused
      rw [unchanged]
      refine .operated .free _ _ _ (.kept _ rfl rfl) (by rw [pending]; rfl) rfl
        fun given member => ?_
      cases member
      exact ⟨rfl, rfl, _, rfl⟩
    · rename_i granted
      cases stepped
      exact .handedOff captureId operationId bytes pending (not_not.mp granted)
  · rename_i captureId operationId bytes accepted pending
    split at stepped
    · rename_i retains sink
      cases stepped
      exact .answeredPlain captureId operationId bytes retains accepted pending sink
    · cases stepped
  · rename_i captureId callId accepted pending
    dsimp only at stepped
    split at stepped
    · rename_i retained
      cases stepped
      exact .lookedRetained captureId callId accepted pending retained
    · cases stepped
      exact .lookedUnretained captureId callId accepted pending
  · rename_i captureId answer pending
    cases stepped
    exact .released captureId answer pending
  · rename_i operationId pending
    cases stepped
    exact .operated .dropping _ _ none (delete_effect sdk.state resources operationId)
      (by rw [pending]; rfl) rfl (by simp)
  · rename_i pending
    split at stepped
    · cases stepped
    · rename_i empty
      cases stepped
      exact .dropped pending (not_not.mp empty)
  · cases stepped

/-- Every step of an SDK has an effect. -/
theorem step_effect {action : SdkAction Digest}
    (stepped : sdk.step encoding resources action = some taken) : SdkEffect sdk resources taken := by
  unfold step at stepped
  split at stepped
  · rename_i free
    exact freeStep_effect free stepped
  · exact pendingStep_effect stepped

end Instance

/-! ## Calls of a sink -/

section Calls

variable {process next : Process Digest}

/-- An answer changes nothing, or it ends the call that an SDK waits for. -/
theorem deliverAny_cases (process : Process Digest) (sink : SinkRef) (answer : Option SendAnswer) :
    process.deliverAny sink answer = process ∨
      ∃ sdkId sdk captureId given, answer = some given ∧ given.caller = some sdkId ∧
        process.sdks.lookup sdkId = some sdk ∧ sdk.sink = sink ∧
        sdk.pending = .waiting captureId given.callId ∧
        process.deliverAny sink answer = process.setSdk sdkId
          (some { sdk with pending := .sent captureId (some given.callId) given.accepted }) := by
  cases answer with
  | none => exact .inl rfl
  | some given =>
      cases caller : given.caller with
      | none => exact .inl (by simp [deliverAny, deliver, caller])
      | some sdkId =>
          cases found : process.sdks.lookup sdkId with
          | none => exact .inl (by simp [deliverAny, deliver, caller, found])
          | some sdk =>
              simp only [deliverAny, deliver, caller, Option.bind_some, found]
              split
              · rename_i captureId callId pending
                split
                · rename_i same
                  obtain ⟨sameSink, rfl⟩ := same
                  exact .inr ⟨sdkId, sdk, captureId, given, rfl, caller, found, sameSink, pending,
                    rfl⟩
                · exact .inl rfl
              · exact .inl rfl

/-- An SDK that enters its sink waits for the call that it entered. -/
theorem sendStep_cases {sdkId : Nat} (stepped : process.sendStep sdkId = some next) :
    ∃ sdk captureId operationId bytes, process.sdks.lookup sdkId = some sdk ∧
      sdk.pending = .sending captureId operationId bytes ∧
      ((∃ sinkId sink, sdk.sink = .managed sinkId ∧ process.sinks.lookup sinkId = some sink ∧
          sink.closed = false ∧
          next =
            { process.setSdk sdkId
                (some { sdk with pending := .waiting captureId sink.nextCall }) with
              sinks := process.sinks.insert sinkId
                (sink.enter (some sdkId) captureId bytes) }) ∨
        ∃ recorderId recorder, sdk.sink = .recorder recorderId ∧
          process.recorders.lookup recorderId = some recorder ∧
          next =
            (process.setSdk sdkId
              (some { sdk with pending := .waiting captureId recorder.nextCall })).setRecorder
                recorderId (some (recorder.enter (some sdkId) captureId operationId bytes))) := by
  obtain ⟨sdk, found, sent⟩ := Option.bind_eq_some_iff.mp stepped
  split at sent
  · rename_i captureId operationId bytes sinkId pending managed
    obtain ⟨sink, present, rfl⟩ := Option.map_eq_some_iff.mp sent
    rw [Option.filter_eq_some_iff, Bool.not_eq_true'] at present
    exact ⟨sdk, captureId, operationId, bytes, found, pending,
      .inl ⟨sinkId, sink, managed, present.1, present.2, rfl⟩⟩
  · rename_i captureId operationId bytes recorderId pending recorded
    obtain ⟨recorder, present, rfl⟩ := Option.map_eq_some_iff.mp sent
    exact ⟨sdk, captureId, operationId, bytes, found, pending,
      .inr ⟨recorderId, recorder, recorded, present, rfl⟩⟩
  · cases sent

end Calls
end Process
end ReproItSdk
