import ReproItSdk.Library.Runs
import ReproItSdk.Sdk.State

/-! # Lost records

An operation that lost a record is never handed to the sink.  A record is lost when its call
returns an error for a live operation; a limit then deletes the operation, and it stays absent
until it begins again.

The calls of other threads change the ledger of the process between two calls, so every call of a
run meets a ledger of its own.

Main results:

- Theorem {lit}`append_effect`: what an append does to the state.
- Theorem {lit}`perform_absent`: an absent operation stays absent until it begins.
- Theorem {lit}`lost_record_hands_no_candidate`: after a lost record of an encodable payload, no
  failure of the operation hands a candidate over, unless it began again.
-/

namespace ReproItSdk
namespace Sdk

variable {Digest : Type}

/-! ## Calls -/

/-- Format of the calls of the engine. -/
def callFormat : String :=
  "reproit.sdk-engine-call.v1"

namespace State

/-- {lit}`record_input`. -/
def recordInput (encoding : Encoding) (state : State Digest) (resources : ProcessResources)
    (operationId : OperationId) (payload : Payload) :
    Except Error Unit × State Digest × ProcessResources :=
  state.append encoding resources operationId .input payload

/-- {lit}`record_dependency`. -/
def recordDependency (encoding : Encoding) (state : State Digest) (resources : ProcessResources)
    (operationId : OperationId) (payload : Payload) :
    Except Error Unit × State Digest × ProcessResources :=
  state.append encoding resources operationId .dependency payload

/-- {lit}`record_observation`. -/
def recordObservation (encoding : Encoding) (state : State Digest) (resources : ProcessResources)
    (operationId : OperationId) (payload : Payload) :
    Except Error Unit × State Digest × ProcessResources :=
  state.append encoding resources operationId .observation payload

/-- {lit}`record_observation_fence`. -/
def recordObservationFence (encoding : Encoding) (state : State Digest)
    (resources : ProcessResources) (operationId : OperationId) (payload : Payload) :
    Except Error Unit × State Digest × ProcessResources :=
  state.append encoding resources operationId .observationFence payload

/-- {lit}`EngineCall::OperationInput`: the engine checks the format of the call and forwards it. -/
def operationInput (encoding : Encoding) (state : State Digest) (resources : ProcessResources)
    (format : String) (operationId : OperationId) (payload : Payload) :
    Except Error Unit × State Digest × ProcessResources :=
  if format ≠ callFormat then (.error encoding.schemaInvalid, state, resources)
  else state.recordInput encoding resources operationId payload

end State

/-- The calls of an SDK. -/
inductive Call (Digest : Type) where
  | begin (start : CandidateStart Digest) (payload : Payload) (worldBound campaignMatches : Bool)
  | bindAutomaticWorld (operationId : OperationId) (worldId : Digest)
  | recordInput (operationId : OperationId) (payload : Payload)
  | recordDependency (operationId : OperationId) (payload : Payload)
  | recordObservation (operationId : OperationId) (payload : Payload)
  | recordObservationFence (operationId : OperationId) (payload : Payload)
  | operationInput (format : String) (operationId : OperationId) (payload : Payload)
  | succeed (operationId : OperationId)
  | cancel (operationId : OperationId)
  | abandonIncomplete (operationId : OperationId)
  | fail (operationId : OperationId) (payload : Payload) (io : FailIo) (sink : SinkIo Digest)

/-- A call with the ledger it meets. -/
structure MetCall (Digest : Type) where
  call : Call Digest
  resources : ProcessResources

namespace Call

/-- The operation that a call records for, and the payload of the record. -/
def recorded : Call Digest → Option (OperationId × Payload)
  | .recordInput operationId payload | .recordDependency operationId payload
  | .recordObservation operationId payload | .recordObservationFence operationId payload
  | .operationInput _ operationId payload => some (operationId, payload)
  | _ => none

/-- Whether a call reaches the SDK: a call of the engine has the format of the engine. -/
def reachesSdk : Call Digest → Prop
  | .operationInput format _ _ => format = callFormat
  | _ => True

/-- Whether a call begins an operation. -/
def begins (operationId : OperationId) : Call Digest → Prop
  | .begin start _ _ _ => start.operationId = operationId
  | _ => False

end Call

/-- The reply of a call that is no failure. -/
def FailReply.of (reply : Except Error Unit) : FailReply Digest where
  reply := reply
  handed := none

namespace State

/-- Answer one call. -/
def perform (encoding : Encoding) (state : State Digest) (met : MetCall Digest) :
    FailReply Digest × State Digest :=
  match met.call with
  | .begin start payload worldBound campaignMatches =>
      let began := state.beginInner encoding met.resources start payload worldBound campaignMatches
      (.of began.1, began.2.1)
  | .bindAutomaticWorld operationId worldId =>
      (state.bindAutomaticWorld encoding operationId worldId).map .of id
  | .recordInput operationId payload =>
      (state.recordInput encoding met.resources operationId payload).map .of Prod.fst
  | .recordDependency operationId payload =>
      (state.recordDependency encoding met.resources operationId payload).map .of Prod.fst
  | .recordObservation operationId payload =>
      (state.recordObservation encoding met.resources operationId payload).map .of Prod.fst
  | .recordObservationFence operationId payload =>
      (state.recordObservationFence encoding met.resources operationId payload).map .of Prod.fst
  | .operationInput format operationId payload =>
      (state.operationInput encoding met.resources format operationId payload).map .of Prod.fst
  | .succeed operationId | .cancel operationId =>
      (.of (.ok ()), (state.delete met.resources operationId).1)
  | .abandonIncomplete operationId =>
      (.of (.ok ()), (state.abandonIncomplete met.resources operationId).1)
  | .fail operationId payload io sink =>
      (state.fail encoding met.resources operationId payload io sink).map id Prod.fst

end State

/-! ## Effects -/

/-- A payload that the SDK can record. -/
def Encodable (payload : Payload) : Prop :=
  ∃ bytes, payload = .ok bytes ∧ bytes.length ≤ maxEventBytes

/-- An encodable payload becomes a record. -/
theorem eventRecord_of_encodable (encoding : Encoding) (kind : EventKind) (sequence : Nat)
    {payload : Payload} (encodable : Encodable payload) :
    ∃ record, eventRecord encoding kind sequence payload = .ok record := by
  obtain ⟨bytes, rfl, bounded⟩ := encodable
  exact ⟨_, if_neg (Nat.not_lt.mpr bounded)⟩

namespace State

variable {encoding : Encoding} {state : State Digest} {resources : ProcessResources}
  {operationId : OperationId}

/-- What an append does: its reply and the next state. -/
inductive AppendEffect (encoding : Encoding) (state : State Digest) (operationId : OperationId)
    (payload : Payload) : Except Error Unit → State Digest → Prop
  | absent (error : Error) (none : state.operations.lookup operationId = none) :
      AppendEffect encoding state operationId payload (.error error) state
  | unrecorded (error : Error) (operation : ActiveOperation Digest)
      (present : state.operations.lookup operationId = some operation)
      (reason : u16Max < operation.records.length ∨ ¬ Encodable payload) :
      AppendEffect encoding state operationId payload (.error error) state
  | deleted (operation : ActiveOperation Digest)
      (present : state.operations.lookup operationId = some operation) :
      AppendEffect encoding state operationId payload (.error runtimeQuota)
        (state.removeOperation operationId)
  | appended (operation : ActiveOperation Digest) (record : EventRecord)
      (present : state.operations.lookup operationId = some operation)
      (room : operation.records.length < maxEvents) :
      AppendEffect encoding state operationId payload (.ok ())
        (state.insertRecord operationId operation record)

/-- The part of a delete that changes the state. -/
theorem delete_state {operation : ActiveOperation Digest}
    (present : state.operations.lookup operationId = some operation) :
    (state.delete resources operationId).1 = state.removeOperation operationId := by
  unfold delete
  rw [present]

/-- An append leaves the state alone, deletes the operation or adds one record. -/
theorem append_effect (encoding : Encoding) (state : State Digest) (resources : ProcessResources)
    (operationId : OperationId) (kind : EventKind) (payload : Payload) :
    AppendEffect encoding state operationId payload
      (state.append encoding resources operationId kind payload).1
      (state.append encoding resources operationId kind payload).2.1 := by
  unfold append appendRecord
  cases present : state.operations.lookup operationId with
  | none => exact .absent incompleteCandidate present
  | some operation =>
      dsimp only
      cases sequenced : recordSequence operation.records with
      | error error =>
          refine .unrecorded error operation present (.inl ?_)
          unfold recordSequence at sequenced
          split at sequenced
          · cases sequenced
          · omega
      | ok sequence =>
          dsimp only
          cases recorded : eventRecord encoding kind sequence payload with
          | error error =>
              refine .unrecorded error operation present (.inr fun encodable => ?_)
              obtain ⟨record, encoded⟩ := eventRecord_of_encodable encoding kind sequence encodable
              rw [recorded] at encoded
              cases encoded
          | ok record =>
              simp only [Except.map]
              split
              · rw [delete_state present]
                exact .deleted operation present
              · rename_i within
                split
                · rw [delete_state present]
                  exact .deleted operation present
                · refine .appended operation record present ?_
                  simp only [withinOperationBounds, not_not, Bool.and_eq_true, decide_eq_true_eq]
                    at within
                  exact within.1

/-- A payload that makes no record is refused, and the operation stays as it was. -/
theorem append_unrecordable {operation : ActiveOperation Digest} {sequence : Nat}
    {kind : EventKind} {payload : Payload} {error : Error} (resources : ProcessResources)
    (present : state.operations.lookup operationId = some operation)
    (sequenced : recordSequence operation.records = .ok sequence)
    (refused : eventRecord encoding kind sequence payload = .error error) :
    state.append encoding resources operationId kind payload = (.error error, state, resources) := by
  simp [append, appendRecord, present, sequenced, refused, Except.map]

/-! ## Absent operations -/

/-- A removed operation is absent. -/
theorem lookup_removeOperation (state : State Digest) (operationId : OperationId) :
    (state.removeOperation operationId).operations.lookup operationId = none := by
  unfold removeOperation
  split
  · assumption
  · exact AList.lookup_erase _ _

/-- A removal makes no operation live. -/
theorem lookup_removeOperation_none {other : OperationId}
    (absent : state.operations.lookup other = none) :
    (state.removeOperation operationId).operations.lookup other = none := by
  by_cases same : other = operationId
  · subst same
    exact lookup_removeOperation state other
  · unfold removeOperation
    split
    · exact absent
    · exact (AList.lookup_erase_ne same).trans absent

/-- A delete makes no operation live. -/
theorem lookup_delete_none {other : OperationId} (absent : state.operations.lookup other = none) :
    (state.delete resources operationId).1.operations.lookup other = none := by
  unfold delete
  split
  · exact absent
  · exact lookup_removeOperation_none absent

/-- An append makes no operation live. -/
theorem AppendEffect.absent_kept {payload : Payload} {reply : Except Error Unit}
    {next : State Digest} {other : OperationId}
    (effect : AppendEffect encoding state operationId payload reply next)
    (absent : state.operations.lookup other = none) : next.operations.lookup other = none := by
  cases effect with
  | absent error none => exact absent
  | unrecorded error operation present reason => exact absent
  | deleted operation present => exact lookup_removeOperation_none absent
  | appended operation record present room =>
      have different : other ≠ operationId := by
        rintro rfl
        rw [absent] at present
        cases present
      exact (AList.lookup_insert_ne different).trans absent

/-- Taking a failed operation out makes no operation live. -/
theorem lookup_takeFailed_none {failureRecord : EventRecord} {io : FailIo} {other : OperationId}
    (absent : state.operations.lookup other = none) :
    (state.takeFailed encoding resources operationId failureRecord io).2.1.operations.lookup
      other = none := by
  have deleted : (state.delete resources operationId).1.operations.lookup other = none :=
    lookup_delete_none absent
  unfold takeFailed
  split
  · exact absent
  · dsimp only
    split
    · exact deleted
    · split
      · exact deleted
      · split
        · exact deleted
        · split
          · exact deleted
          · exact deleted
      · rename_i decision _ _
        cases decision <;> exact deleted

end State

namespace State

variable {encoding : Encoding} {state : State Digest} {operationId : OperationId}

/-- A failure makes no operation live. -/
theorem lookup_fail_none {resources : ProcessResources} {payload : Payload} {io : FailIo}
    {sink : SinkIo Digest} {other : OperationId}
    (absent : state.operations.lookup other = none) :
    (state.fail encoding resources operationId payload io sink).2.1.operations.lookup other =
      none := by
  unfold fail
  dsimp only
  split
  · exact absent
  · have taken : ∀ failureRecord, (state.observeFailure.takeFailed encoding resources operationId
        failureRecord io).2.1.operations.lookup other = none :=
      fun failureRecord => lookup_takeFailed_none absent
    split
    · exact taken _
    · split <;> exact taken _

/-- A failure of an absent operation hands no candidate over. -/
theorem fail_absent {resources : ProcessResources} {payload : Payload} {io : FailIo}
    {sink : SinkIo Digest} (absent : state.operations.lookup operationId = none) :
    (state.fail encoding resources operationId payload io sink).1.handed = none := by
  have unrecorded : state.observeFailure.failureRecord encoding operationId payload =
      .error incompleteCandidate := by
    unfold failureRecord observeFailure
    rw [absent]
  unfold fail
  dsimp only
  rw [unrecorded]

/-- An absent operation stays absent until it begins. -/
theorem perform_absent (encoding : Encoding) (state : State Digest) (met : MetCall Digest)
    (absent : state.operations.lookup operationId = none)
    (other : ¬ met.call.begins operationId) :
    (state.perform encoding met).2.operations.lookup operationId = none := by
  obtain ⟨call, resources⟩ := met
  cases call with
  | begin start payload worldBound campaignMatches =>
      simp only [perform, beginInner]
      split
      · exact absent
      · split
        · exact absent
        · exact (AList.lookup_insert_ne (Ne.symm other)).trans absent
  | bindAutomaticWorld bound worldId =>
      simp only [perform, bindAutomaticWorld]
      split
      · exact absent
      · rename_i operation present
        split
        · exact absent
        · have different : operationId ≠ bound := by
            rintro rfl
            rw [absent] at present
            cases present
          exact (AList.lookup_insert_ne different).trans absent
  | recordInput recorded payload =>
      exact (append_effect encoding state resources recorded .input payload).absent_kept absent
  | recordDependency recorded payload =>
      exact (append_effect encoding state resources recorded .dependency payload).absent_kept absent
  | recordObservation recorded payload =>
      exact (append_effect encoding state resources recorded .observation payload).absent_kept
        absent
  | recordObservationFence recorded payload =>
      exact (append_effect encoding state resources recorded .observationFence payload).absent_kept
        absent
  | operationInput format recorded payload =>
      simp only [perform, operationInput]
      split
      · exact absent
      · exact (append_effect encoding state resources recorded .input payload).absent_kept absent
  | succeed ended => exact lookup_delete_none absent
  | cancel ended => exact lookup_delete_none absent
  | abandonIncomplete ended =>
      simp only [perform, abandonIncomplete]
      split
      · exact absent
      · exact lookup_delete_none absent
  | fail failed payload io sink => exact lookup_fail_none absent

/-! ## Bounded operations -/

/-- No operation has more records than the limit. -/
def RecordsBounded (state : State Digest) : Prop :=
  ∀ operationId operation, state.operations.lookup operationId = some operation →
    operation.records.length ≤ maxEvents

/-- An operation of a bounded state that is changed within the limit. -/
theorem RecordsBounded.insert (bounded : state.RecordsBounded) (operation : ActiveOperation Digest)
    (within : operation.records.length ≤ maxEvents) (globalBytes : Nat)
    (recallCounters : SdkRecallCounters) :
    RecordsBounded
      { globalBytes := globalBytes
        operations := state.operations.insert operationId operation
        recallCounters := recallCounters } := by
  intro other found present
  by_cases same : other = operationId
  · subst same
    rw [AList.lookup_insert] at present
    cases present
    exact within
  · exact bounded other found ((AList.lookup_insert_ne same).symm.trans present)

/-- A removal keeps the operations bounded. -/
theorem RecordsBounded.removeOperation (bounded : state.RecordsBounded)
    (operationId : OperationId) : (state.removeOperation operationId).RecordsBounded := by
  unfold State.removeOperation
  split
  · exact bounded
  · intro other found present
    by_cases same : other = operationId
    · subst same
      rw [AList.lookup_erase] at present
      cases present
    · exact bounded other found ((AList.lookup_erase_ne same).symm.trans present)

/-- A delete keeps the operations bounded. -/
theorem RecordsBounded.delete (bounded : state.RecordsBounded) (resources : ProcessResources)
    (operationId : OperationId) : (state.delete resources operationId).1.RecordsBounded := by
  unfold State.delete
  split
  · exact bounded
  · exact bounded.removeOperation operationId

/-- An append keeps the operations bounded. -/
theorem RecordsBounded.appendEffect {payload : Payload} {reply : Except Error Unit}
    {next : State Digest} (bounded : state.RecordsBounded)
    (effect : AppendEffect encoding state operationId payload reply next) :
    next.RecordsBounded := by
  cases effect with
  | absent error none => exact bounded
  | unrecorded error operation present reason => exact bounded
  | deleted operation present => exact bounded.removeOperation operationId
  | appended operation record present room =>
      exact bounded.insert _ (by rw [List.length_append]; exact room) _ _

/-- Taking a failed operation out keeps the operations bounded. -/
theorem RecordsBounded.takeFailed (bounded : state.RecordsBounded) (resources : ProcessResources)
    (operationId : OperationId) (failureRecord : EventRecord) (io : FailIo) :
    (state.takeFailed encoding resources operationId failureRecord io).2.1.RecordsBounded := by
  have deleted := bounded.delete resources operationId
  unfold State.takeFailed
  split
  · exact bounded
  · dsimp only
    split
    · exact deleted
    · split
      · exact deleted
      · split
        · exact deleted
        · split
          · exact deleted
          · exact deleted
      · rename_i decision _ _
        cases decision <;> exact deleted

/-- Every call keeps the operations bounded. -/
theorem recordsBounded_perform (encoding : Encoding) (state : State Digest) (met : MetCall Digest)
    (bounded : state.RecordsBounded) : (state.perform encoding met).2.RecordsBounded := by
  obtain ⟨call, resources⟩ := met
  cases call with
  | begin start payload worldBound campaignMatches =>
      simp only [perform, beginInner]
      split
      · exact bounded
      · split
        · exact bounded
        · exact bounded.insert _ (by simp [maxEvents]) _ _
  | bindAutomaticWorld bound worldId =>
      simp only [perform, State.bindAutomaticWorld]
      split
      · exact bounded
      · rename_i operation present
        split
        · exact bounded
        · exact bounded.insert { operation with start := _, worldBound := true }
            (bounded bound operation present) _ _
  | recordInput recorded payload =>
      exact bounded.appendEffect (append_effect encoding state resources recorded .input payload)
  | recordDependency recorded payload =>
      exact bounded.appendEffect
        (append_effect encoding state resources recorded .dependency payload)
  | recordObservation recorded payload =>
      exact bounded.appendEffect
        (append_effect encoding state resources recorded .observation payload)
  | recordObservationFence recorded payload =>
      exact bounded.appendEffect
        (append_effect encoding state resources recorded .observationFence payload)
  | operationInput format recorded payload =>
      simp only [perform, State.operationInput]
      split
      · exact bounded
      · exact bounded.appendEffect (append_effect encoding state resources recorded .input payload)
  | succeed ended => exact bounded.delete resources ended
  | cancel ended => exact bounded.delete resources ended
  | abandonIncomplete ended =>
      simp only [perform, State.abandonIncomplete]
      split
      · exact bounded
      · exact bounded.delete resources ended
  | fail failed payload io sink =>
      simp only [perform, State.fail]
      split
      · exact bounded
      · have observed : state.observeFailure.RecordsBounded := bounded
        have taken : ∀ failureRecord, (state.observeFailure.takeFailed encoding resources failed
            failureRecord io).2.1.RecordsBounded :=
          fun failureRecord => observed.takeFailed resources failed failureRecord io
        split
        · exact taken _
        · split <;> exact taken _

end State

/-! ## Runs -/

/-- An absent operation stays absent through calls that do not begin it. -/
theorem final_absent (encoding : Encoding) {operationId : OperationId}
    (calls : List (MetCall Digest)) {state : State Digest}
    (absent : state.operations.lookup operationId = none)
    (others : ∀ met ∈ calls, ¬ met.call.begins operationId) :
    (Runs.final (State.perform encoding) state calls).operations.lookup operationId = none := by
  induction calls generalizing state with
  | nil => exact absent
  | cons met calls ih =>
      rw [List.forall_mem_cons] at others
      exact ih (state.perform_absent encoding met absent others.1) others.2

/-- A record that a limit refuses deletes its operation. -/
theorem absent_of_refused {encoding : Encoding} {state : State Digest} {operationId : OperationId}
    {payload : Payload} {error : Error} {next : State Digest} (bounded : state.RecordsBounded)
    (live : state.operations.lookup operationId ≠ none) (encodable : Encodable payload)
    (effect : State.AppendEffect encoding state operationId payload (.error error) next) :
    next.operations.lookup operationId = none := by
  cases effect with
  | absent error none => exact absurd none live
  | unrecorded error operation present reason =>
      rcases reason with long | unencodable
      · have within := bounded operationId operation present
        simp only [maxEvents, u16Max] at within long
        omega
      · exact absurd encodable unencodable
  | deleted operation present => exact State.lookup_removeOperation state operationId

/-- A lost record of an encodable payload deletes its operation. -/
theorem absent_of_lost {encoding : Encoding} {state : State Digest} {met : MetCall Digest}
    {operationId : OperationId} {payload : Payload} {error : Error}
    (bounded : state.RecordsBounded) (recorded : met.call.recorded = some (operationId, payload))
    (live : state.operations.lookup operationId ≠ none) (reaches : met.call.reachesSdk)
    (encodable : Encodable payload)
    (lost : (state.perform encoding met).1.reply = .error error) :
    (state.perform encoding met).2.operations.lookup operationId = none := by
  have refused : ∀ kind, (state.append encoding met.resources operationId kind payload).1 =
      .error error → (state.append encoding met.resources operationId kind
        payload).2.1.operations.lookup operationId = none := by
    intro kind failed
    have effect := State.append_effect encoding state met.resources operationId kind payload
    rw [failed] at effect
    exact absent_of_refused bounded live encodable effect
  obtain ⟨call, resources⟩ := met
  cases call with
  | begin | bindAutomaticWorld | succeed | cancel | abandonIncomplete | fail => cases recorded
  | recordInput | recordDependency | recordObservation | recordObservationFence =>
      cases recorded
      exact refused _ lost
  | operationInput format =>
      cases recorded
      have formatted : format = callFormat := reaches
      simp only [State.perform, State.operationInput, formatted, ne_eq, not_true_eq_false,
        if_false] at lost ⊢
      exact refused _ lost

/-- After a lost record of an encodable payload, no failure of the operation hands a candidate
over, unless the operation began again. -/
theorem lost_record_hands_no_candidate (encoding : Encoding) (earlier later : List (MetCall Digest))
    (lost : MetCall Digest) (operationId : OperationId) (payload : Payload) (error : Error)
    (recorded : lost.call.recorded = some (operationId, payload))
    (live : (Runs.final (State.perform encoding) State.new earlier).operations.lookup operationId ≠
      none)
    (reaches : lost.call.reachesSdk) (encodable : Encodable payload)
    (failed : ((Runs.final (State.perform encoding) State.new earlier).perform encoding
      lost).1.reply = .error error)
    (others : ∀ met ∈ later, ¬ met.call.begins operationId) (failurePayload : Payload)
    (io : FailIo) (sink : SinkIo Digest) (resources : ProcessResources) :
    ((Runs.final (State.perform encoding) State.new (earlier ++ lost :: later)).perform encoding
      { call := .fail operationId failurePayload io sink, resources := resources }).1.handed =
        none := by
  have bounded : (Runs.final (State.perform encoding) State.new earlier).RecordsBounded :=
    Runs.final_preserves (State.RecordsBounded : State Digest → Prop)
      (fun state met bounded (_ : True) => state.recordsBounded_perform encoding met bounded)
      earlier (fun _ _ present => by cases present) fun _ _ => trivial
  have absent := absent_of_lost bounded recorded live reaches encodable failed
  rw [Runs.final_append]
  exact State.fail_absent (final_absent encoding later absent others)

/-! ## Concrete runs -/

/-- An operation whose World is bound at the start. -/
def plainBegin : MetCall Unit where
  call := .begin
    { captureId := { value := 1 }, operationId := { value := 1 }, worldId := () } (.ok [1]) true true
  resources := .new

/-- A sink that takes every candidate. -/
def plainSink : SinkIo Unit where
  retainsQueuedCandidates := false
  trySend _ resources := (true, resources)

/-- A failure of the plain operation. -/
def plainFail : MetCall Unit where
  call := .fail { value := 1 } (.ok [3]) plainFailIo plainSink
  resources := .new

/-- The theorem applies to an input that the ledger refuses to grow for. -/
theorem lost_record_hands_no_candidate_refused :
    ((Runs.final (State.perform plainEncoding) State.new
      ([plainBegin] ++ [{ call := .recordInput { value := 1 } (.ok [4]), resources := .new }])).perform
        plainEncoding plainFail).1.handed = none :=
  lost_record_hands_no_candidate plainEncoding [plainBegin] []
    { call := .recordInput { value := 1 } (.ok [4]), resources := .new } { value := 1 } (.ok [4])
    runtimeQuota rfl (by decide) trivial ⟨[4], rfl, by decide⟩ rfl (by simp) _ _ _ _

/-- The plain operation after its begin. -/
def plainState : State Unit :=
  (State.perform plainEncoding State.new plainBegin).2

/-- An input of the plain operation. -/
def plainInput (bytes : Bytes) : MetCall Unit where
  call := .recordInput { value := 1 } (.ok bytes)
  resources := .new

/-- An oversized input of the plain operation is lost, and leaves the operation as it was. -/
theorem perform_oversized {bytes : Bytes} (oversized : maxEventBytes < bytes.length) :
    plainState.perform plainEncoding (plainInput bytes) =
      (.of (.error runtimeQuota), plainState) := by
  have refused : eventRecord plainEncoding .input 1 (.ok bytes) = .error runtimeQuota :=
    if_pos oversized
  exact congrArg (Prod.map FailReply.of Prod.fst)
    (State.append_unrecordable .new rfl rfl refused)

/-- An oversized input is lost for a live operation, and the failure that follows hands a candidate
over. -/
theorem oversized_input_still_handed :
    plainState.operations.lookup { value := 1 } ≠ none ∧
    (plainState.perform plainEncoding
      (plainInput (List.replicate (maxEventBytes + 1) 0))).1.reply = .error runtimeQuota ∧
    ((Runs.final (State.perform plainEncoding) State.new
      [plainBegin, plainInput (List.replicate (maxEventBytes + 1) 0)]).perform plainEncoding
        plainFail).1.handed ≠ none := by
  have oversized : maxEventBytes < (List.replicate (maxEventBytes + 1) (0 : UInt8)).length := by
    rw [List.length_replicate]
    exact Nat.lt_succ_self _
  have lost := perform_oversized oversized
  have kept : Runs.final (State.perform plainEncoding) State.new
      [plainBegin, plainInput (List.replicate (maxEventBytes + 1) 0)] = plainState := by
    rw [Runs.final, Runs.final, Runs.final]
    change (plainState.perform plainEncoding _).2 = plainState
    rw [lost]
  refine ⟨by decide, by rw [lost]; rfl, ?_⟩
  rw [kept]
  decide

end Sdk
end ReproItSdk
