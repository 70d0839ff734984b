import ReproItSdk.Sdk.LostRecords

/-! # Accounting for failures

A failure of a live operation hands its candidate to the sink, or it leaves a trace in one of four
counters: at once, or when the operation is abandoned afterwards.  The exits between the removal of
the operation and its storm decision leave none.

Main results:

- Theorems {lit}`completes_of_prepared` and {lit}`Completes.prepared`: when the records of a failed
  operation make a candidate.
- Theorem {lit}`State.fail_recorded`: what the exits of a failure count.
- Theorem {lit}`failure_accounted_iff`: after any run, a failure of a live operation is accounted
  for exactly when its candidate completes and the counter concerned is not saturated.
-/

namespace ReproItSdk
namespace Sdk

variable {Digest : Type}

/-! ## Counters -/

/-- The counters that account for a failure without a handoff. -/
inductive RecallCounter where
  | suppressedExactStorm
  | suppressedHighCardinalityStorm
  | candidateQueueFull
  | candidateIncomplete
deriving DecidableEq, Repr

namespace SdkRecallCounters

/-- The value of a counter. -/
def count (counters : SdkRecallCounters) : RecallCounter → Nat
  | .suppressedExactStorm => counters.suppressedExactStorm
  | .suppressedHighCardinalityStorm => counters.suppressedHighCardinalityStorm
  | .candidateQueueFull => counters.candidateQueueFull
  | .candidateIncomplete => counters.candidateIncomplete

/-- One counter rose by one and the others stayed. -/
structure Rose (before after : SdkRecallCounters) (counter : RecallCounter) : Prop where
  raised : after.count counter = before.count counter + 1
  others : ∀ other, other ≠ counter → after.count other = before.count other

/-- A failure is accounted for: it handed its candidate over and no counter rose, or it did not and
exactly one counter rose by one. -/
def Accounted (before after : SdkRecallCounters) (handed : Bool) : Prop :=
  (handed = true ∧ ∀ counter, after.count counter = before.count counter) ∨
    (handed = false ∧ ∃ counter, before.Rose after counter)

/-- One counter took a saturating step and the others stayed. -/
structure Stepped (before after : SdkRecallCounters) (counter : RecallCounter) : Prop where
  raised : after.count counter = saturatingAdd (before.count counter) 1
  others : ∀ other, other ≠ counter → after.count other = before.count other

variable {before after : SdkRecallCounters} {counter : RecallCounter}

/-- A step counts from the same values. -/
theorem Stepped.of_unchanged {base : SdkRecallCounters} (stepped : base.Stepped after counter)
    (unchanged : ∀ counter, base.count counter = before.count counter) :
    before.Stepped after counter where
  raised := by rw [stepped.raised, unchanged]
  others other different := (stepped.others other different).trans (unchanged other)

/-- A saturating step accounts for a failure when the counter is not saturated. -/
theorem Stepped.accounted_iff (stepped : before.Stepped after counter) :
    before.Accounted after false ↔ before.count counter < u64Max := by
  have raised := stepped.raised
  unfold saturatingAdd at raised
  constructor
  · rintro (⟨handed, -⟩ | ⟨-, other, rose⟩)
    · cases handed
    · by_cases same : other = counter
      · subst same
        have more := rose.raised
        omega
      · have kept := stepped.others other same
        have more := rose.raised
        omega
  · intro unsaturated
    exact .inr ⟨rfl, counter, by omega, stepped.others⟩

/-- A failure that changes no counter is accounted for when it handed its candidate over. -/
theorem accounted_unchanged_iff {handed : Bool}
    (unchanged : ∀ counter, after.count counter = before.count counter) :
    before.Accounted after handed ↔ handed = true := by
  constructor
  · rintro (⟨is, -⟩ | ⟨-, counter, rose⟩)
    · exact is
    · have more := rose.raised
      have same := unchanged counter
      omega
  · exact fun is => .inl ⟨is, unchanged⟩

end SdkRecallCounters

/-! ## Candidates that complete -/

/-- The records of a failed operation complete and its candidate is valid. -/
structure Completes (encoding : Encoding) (operation : ActiveOperation Digest)
    (failureRecord : EventRecord) (io : FailIo) : Prop where
  within : withinOperationBounds operation (recordSize failureRecord) = true
  sequenced : operation.records.length + 1 ≤ u16Max
  terminal : ∃ record,
    eventRecord encoding .terminal (operation.records.length + 1)
      (io.terminal (operation.records.length + 1)) = .ok record ∧
    saturatingAdd (saturatingAdd operation.bytes (recordSize failureRecord)) (recordSize record) ≤
      maxOperationBytes
  validated : io.validated = .ok ()

section Prepare

variable {encoding : Encoding} {operationId : OperationId} {operation : ActiveOperation Digest}
  {failureRecord : EventRecord} {io : FailIo}

/-- A candidate that was prepared has records that complete. -/
theorem completes_of_prepared {candidate : Candidate Digest}
    (prepared : prepareCandidate encoding operationId operation failureRecord io = .ok candidate) :
    Completes encoding operation failureRecord io ∧
      candidate.captureId = operation.start.captureId := by
  have length : (operation.records ++ [failureRecord]).length = operation.records.length + 1 := by
    simp
  unfold prepareCandidate recordSequence at prepared
  dsimp only at prepared
  rw [length] at prepared
  split at prepared
  · cases prepared
  rename_i within
  split at prepared
  · cases prepared
  rename_i eventCount sequenced
  split at sequenced
  · rename_i bounded
    cases sequenced
    split at prepared
    · cases prepared
    rename_i record recorded
    split at prepared
    · cases prepared
    rename_i fits
    split at prepared
    · cases prepared
    rename_i validated
    cases prepared
    exact ⟨⟨not_not.mp within, bounded, ⟨record, recorded, not_lt.mp fits⟩, validated⟩, rfl⟩
  · cases sequenced

/-- Records that complete make a candidate. -/
theorem Completes.prepared (completes : Completes encoding operation failureRecord io)
    (operationId : OperationId) :
    ∃ candidate, prepareCandidate encoding operationId operation failureRecord io =
      .ok candidate := by
  have length : (operation.records ++ [failureRecord]).length = operation.records.length + 1 := by
    simp
  obtain ⟨within, sequenced, ⟨record, recorded, fits⟩, validated⟩ := completes
  unfold prepareCandidate recordSequence
  dsimp only
  rw [length]
  simp only [if_neg (not_not.mpr within), if_pos sequenced, recorded, if_neg (not_lt.mpr fits),
    validated]
  exact ⟨_, rfl⟩

end Prepare

/-! ## Exits of a failure -/

namespace State

/-- A candidate of some bytes finds room once its operation is released. -/
def findsRoom (resources : ProcessResources) (operationId : OperationId) (captureId : CaptureId)
    (bytes : Nat) : Bool :=
  bytes ≤ maxOperationBytes &&
    ((resources.releaseOperation operationId).reserveCandidateHandoff captureId bytes).1

/-- The condition under which a failure is accounted for.  A failure without a record leaves its
operation to be abandoned.  Any other one completes its candidate, gets a storm decision and has an
encoding; and whatever counter it raises is not saturated. -/
def CountsFailure (encoding : Encoding) (state : State Digest) (resources : ProcessResources)
    (operationId : OperationId) (operation : ActiveOperation Digest) (payload : Payload)
    (io : FailIo) : Prop :=
  match state.failureRecord encoding operationId payload with
  | .error _ => state.recallCounters.candidateIncomplete < u64Max
  | .ok failureRecord =>
      Completes encoding operation failureRecord io ∧
        match io.storm with
        | .error _ => False
        | .ok .suppressedExact => state.recallCounters.suppressedExactStorm < u64Max
        | .ok .suppressedHighCardinality =>
            state.recallCounters.suppressedHighCardinalityStorm < u64Max
        | .ok .admitted => ∃ bytes, io.encoded = .ok bytes ∧
            (findsRoom resources operationId operation.start.captureId bytes = true ∨
              state.recallCounters.candidateQueueFull < u64Max)

variable {encoding : Encoding} {state : State Digest} {operationId : OperationId}
  {operation : ActiveOperation Digest} {resources : ProcessResources} {payload : Payload}
  {io : FailIo} {sink : SinkIo Digest}

/-- Abandoning an absent operation counts nothing. -/
theorem abandonIncomplete_absent (absent : state.operations.lookup operationId = none)
    (resources : ProcessResources) :
    (state.abandonIncomplete resources operationId).1 = state := by
  unfold abandonIncomplete
  rw [absent]

/-- Abandoning a live operation counts it. -/
theorem abandonIncomplete_live (live : state.operations.lookup operationId = some operation)
    (resources : ProcessResources) :
    state.recallCounters.Stepped
      (state.abandonIncomplete resources operationId).1.recallCounters .candidateIncomplete := by
  have kept : (state.delete resources operationId).1.recallCounters = state.recallCounters := by
    unfold delete
    rw [live]
    unfold removeOperation
    rw [live]
  unfold abandonIncomplete
  rw [live]
  constructor
  · simp [countIncomplete, SdkRecallCounters.count, kept]
  · intro other different
    cases other with
    | candidateIncomplete => exact absurd rfl different
    | suppressedExactStorm | suppressedHighCardinalityStorm | candidateQueueFull =>
        simp [countIncomplete, SdkRecallCounters.count, kept]

/-- A failure without a record leaves its operation. -/
theorem fail_unrecorded {error : Error}
    (unrecorded : state.failureRecord encoding operationId payload = .error error) :
    state.fail encoding resources operationId payload io sink =
      ({ reply := .error error, handed := none }, state.observeFailure, resources) := by
  have same : state.observeFailure.failureRecord encoding operationId payload = .error error :=
    unrecorded
  simp only [fail, same]

/-- The state of an SDK whose live operation was deleted. -/
theorem delete_live (live : state.operations.lookup operationId = some operation) :
    (state.delete resources operationId).1.operations.lookup operationId = none ∧
      (state.delete resources operationId).1.recallCounters = state.recallCounters ∧
      (state.delete resources operationId).2 = resources.releaseOperation operationId := by
  unfold delete removeOperation
  rw [live]
  exact ⟨AList.lookup_erase _ _, rfl, rfl⟩

/-- A candidate without room is counted. -/
theorem stepped_countQueueFull (state : State Digest) :
    state.recallCounters.Stepped state.countQueueFull.recallCounters .candidateQueueFull where
  raised := rfl
  others other different := by
    cases other with
    | candidateQueueFull => exact absurd rfl different
    | suppressedExactStorm | suppressedHighCardinalityStorm | candidateIncomplete => rfl

/-- A failure that repeats itself is counted. -/
theorem stepped_suppressedExact (state : State Digest) :
    state.recallCounters.Stepped (state.countSuppressed .suppressedExact).recallCounters
      .suppressedExactStorm where
  raised := rfl
  others other different := by
    cases other with
    | suppressedExactStorm => exact absurd rfl different
    | suppressedHighCardinalityStorm | candidateQueueFull | candidateIncomplete => rfl

/-- A failure in a storm of many kinds is counted. -/
theorem stepped_suppressedHighCardinality (state : State Digest) :
    state.recallCounters.Stepped (state.countSuppressed .suppressedHighCardinality).recallCounters
      .suppressedHighCardinalityStorm where
  raised := rfl
  others other different := by
    cases other with
    | suppressedHighCardinalityStorm => exact absurd rfl different
    | suppressedExactStorm | candidateQueueFull | candidateIncomplete => rfl

/-- A failure with a record deletes its operation, and is accounted for at once or never. -/
theorem fail_recorded {failureRecord : EventRecord}
    (live : state.operations.lookup operationId = some operation)
    (recorded : state.failureRecord encoding operationId payload = .ok failureRecord) :
    (state.fail encoding resources operationId payload io sink).2.1.operations.lookup operationId =
        none ∧
      (state.recallCounters.Accounted
          (state.fail encoding resources operationId payload io sink).2.1.recallCounters
          (state.fail encoding resources operationId payload io sink).1.handed.isSome ↔
        state.CountsFailure encoding resources operationId operation payload io) := by
  have recorded' : state.observeFailure.failureRecord encoding operationId payload =
      .ok failureRecord := recorded
  have live' : state.observeFailure.operations.lookup operationId = some operation := live
  obtain ⟨absent, counters, released⟩ : _ ∧ _ ∧
      (state.observeFailure.delete resources operationId).2 = _ := delete_live live'
  have unchanged : ∀ counter, (state.observeFailure.delete resources
      operationId).1.recallCounters.count counter = state.recallCounters.count counter := by
    intro counter
    rw [counters]
    cases counter <;> rfl
  unfold CountsFailure fail takeFailed
  simp only [recorded, recorded', live']
  cases prepared : prepareCandidate encoding operationId operation failureRecord io with
  | error error =>
      have incomplete : ¬ Completes encoding operation failureRecord io := by
        intro completes
        obtain ⟨candidate, made⟩ := completes.prepared operationId
        rw [prepared] at made
        cases made
      simp only [incomplete, false_and, iff_false, Option.isSome_none]
      exact ⟨absent, fun accounted => by
        cases (SdkRecallCounters.accounted_unchanged_iff unchanged).mp accounted⟩
  | ok candidate =>
      obtain ⟨completes, capture⟩ := completes_of_prepared prepared
      simp only [completes, true_and]
      cases decided : io.storm with
      | error error =>
          simp only [iff_false, Option.isSome_none]
          exact ⟨absent, fun accounted => by
            cases (SdkRecallCounters.accounted_unchanged_iff unchanged).mp accounted⟩
      | ok decision =>
          cases decision with
          | suppressedExact =>
              exact ⟨absent, ((stepped_suppressedExact _).of_unchanged unchanged).accounted_iff⟩
          | suppressedHighCardinality =>
              exact ⟨absent,
                ((stepped_suppressedHighCardinality _).of_unchanged unchanged).accounted_iff⟩
          | admitted =>
              have full := ((stepped_countQueueFull _).of_unchanged unchanged).accounted_iff
              cases encoded : io.encoded with
              | error error =>
                  refine ⟨absent, fun accounted => ?_, fun ⟨bytes, made, _⟩ => by cases made⟩
                  cases (SdkRecallCounters.accounted_unchanged_iff unchanged).mp accounted
              | ok bytes =>
                  simp only [Except.ok.injEq, exists_eq_left']
                  by_cases oversized : maxOperationBytes < bytes
                  · have noRoom : findsRoom resources operationId operation.start.captureId
                        bytes = false := by
                      rw [findsRoom, decide_eq_false (not_le.mpr oversized), Bool.false_and]
                    simp only [if_pos oversized, noRoom, Bool.false_eq_true, false_or]
                    exact ⟨absent, full⟩
                  · have room : findsRoom resources operationId operation.start.captureId bytes =
                        ((state.observeFailure.delete resources
                          operationId).2.reserveCandidateHandoff candidate.captureId bytes).1 := by
                      rw [findsRoom, decide_eq_true (not_lt.mp oversized), Bool.true_and, released,
                        capture]
                    simp only [if_neg oversized, room]
                    split
                    · rename_i refused
                      rw [Bool.not_eq_true] at refused
                      simp only [refused, Bool.false_eq_true, false_or]
                      exact ⟨absent, full⟩
                    · rename_i granted
                      simp only [not_not.mp granted, true_or, iff_true]
                      exact ⟨absent, (SdkRecallCounters.accounted_unchanged_iff unchanged).mpr rfl⟩

/-- A failure of a live operation, with the abandon that follows it, is accounted for exactly when
it counts. -/
theorem fail_abandon_accounted_iff (later : ProcessResources)
    (live : state.operations.lookup operationId = some operation) :
    state.recallCounters.Accounted
        ((state.fail encoding resources operationId payload io sink).2.1.abandonIncomplete later
          operationId).1.recallCounters
        (state.fail encoding resources operationId payload io sink).1.handed.isSome ↔
      state.CountsFailure encoding resources operationId operation payload io := by
  cases recorded : state.failureRecord encoding operationId payload with
  | error error =>
      have observed : state.observeFailure.operations.lookup operationId = some operation := live
      have stepped : state.recallCounters.Stepped
          (state.observeFailure.abandonIncomplete later operationId).1.recallCounters
          .candidateIncomplete :=
        (abandonIncomplete_live observed later).of_unchanged fun counter => by
          cases counter <;> rfl
      rw [fail_unrecorded recorded, CountsFailure, recorded]
      exact stepped.accounted_iff
  | ok failureRecord =>
      obtain ⟨absent, accounted⟩ : (state.fail encoding resources operationId payload io
          sink).2.1.operations.lookup operationId = none ∧ _ := fail_recorded live recorded
      rw [abandonIncomplete_absent absent]
      exact accounted

end State

end Sdk
end ReproItSdk
