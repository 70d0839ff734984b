import ReproItSdk.Process.Conservation
import ReproItSdk.Process.Recorder

/-! # Custody of candidates

The ledger lists a candidate as retained when a sink or a recorder has claimed it.  A holder that
claimed a candidate holds it until it releases it, so an entry of the ledger that is retained after
a step of a holder is held by it, or was retained before and not held by it.

The ledger has one entry for each capture.  When two candidates have the same capture, the entry
goes with the first release.

Main results:

- Theorem {lit}`sink_custody`: every step of a managed sink keeps custody.
- Theorem {lit}`recorder_custody`: every step of a recorder keeps custody.
-/

namespace ReproItSdk
namespace Process

open Sdk

/-! ## Entries of the ledger -/

/-- The progress that the ledger lists for a capture. -/
def candidateState (resources : ProcessResources) (captureId : CaptureId) :
    Option CandidateState :=
  (resources.candidates.lookup captureId).map CandidateEntry.state

section Entries

variable {resources : ProcessResources} {captureId : CaptureId} {bytes : Nat}

/-- The ledger retains the captures that it lists as retained. -/
theorem candidateIsRetained_iff :
    resources.candidateIsRetained captureId = true ↔
      candidateState resources captureId = some .retained := by
  unfold ProcessResources.candidateIsRetained candidateState
  cases resources.candidates.lookup captureId with
  | none => simp
  | some entry => simp

/-- A granted claim lists the capture as retained and leaves the other captures alone. -/
theorem candidateState_claimCandidate
    (granted : (resources.claimCandidate captureId bytes).1 = true) (other : CaptureId) :
    candidateState (resources.claimCandidate captureId bytes).2 other =
      if other = captureId then some .retained else candidateState resources other := by
  unfold ProcessResources.claimCandidate at granted ⊢
  split at granted
  · split at granted
    · cases granted
    · rename_i entry present open'
      simp only [if_neg open', candidateState]
      by_cases same : other = captureId
      · subst same
        rw [AList.lookup_insert, if_pos rfl]
        rfl
      · rw [AList.lookup_insert_ne same, if_neg same]
  · split at granted
    · cases granted
    · rename_i absent room
      simp only [if_neg room, candidateState]
      by_cases same : other = captureId
      · subst same
        rw [AList.lookup_insert, if_pos rfl]
        rfl
      · rw [AList.lookup_insert_ne same, if_neg same]

/-- A granted handoff lists a new capture and leaves the other captures alone. -/
theorem candidateState_reserveCandidateHandoff
    (granted : (resources.reserveCandidateHandoff captureId bytes).1 = true) (other : CaptureId) :
    candidateState (resources.reserveCandidateHandoff captureId bytes).2 other =
      if other = captureId then some .handoff else candidateState resources other := by
  unfold ProcessResources.reserveCandidateHandoff at granted ⊢
  split at granted
  · cases granted
  · rename_i room
    simp only [if_neg room, candidateState]
    by_cases same : other = captureId
    · subst same
      rw [AList.lookup_insert, if_pos rfl]
      rfl
    · rw [AList.lookup_insert_ne same, if_neg same]

/-- A release takes the capture out and leaves the other captures alone. -/
theorem candidateState_releaseCandidate (other : CaptureId) :
    candidateState (resources.releaseCandidate captureId) other =
      if other = captureId then none else candidateState resources other := by
  unfold ProcessResources.releaseCandidate candidateState
  cases present : resources.candidates.lookup captureId with
  | none =>
      by_cases same : other = captureId
      · rw [if_pos same, same, present]
        rfl
      · rw [if_neg same]
  | some entry =>
      by_cases same : other = captureId
      · subst same
        rw [if_pos rfl]
        simp only [AList.lookup_erase, Option.map_none]
      · rw [if_neg same]
        simp only [AList.lookup_erase_ne same]

/-- A claim leaves the operations and the capture bytes alone. -/
theorem claimCandidate_rest (resources : ProcessResources) (captureId : CaptureId) (bytes : Nat) :
    (resources.claimCandidate captureId bytes).2.active = resources.active ∧
      (resources.claimCandidate captureId bytes).2.captureBytes = resources.captureBytes := by
  unfold ProcessResources.claimCandidate
  split <;> split <;> exact ⟨rfl, rfl⟩

/-- A handoff leaves the operations and the capture bytes alone. -/
theorem reserveCandidateHandoff_rest (resources : ProcessResources) (captureId : CaptureId)
    (bytes : Nat) :
    (resources.reserveCandidateHandoff captureId bytes).2.active = resources.active ∧
      (resources.reserveCandidateHandoff captureId bytes).2.captureBytes =
        resources.captureBytes := by
  unfold ProcessResources.reserveCandidateHandoff
  split <;> exact ⟨rfl, rfl⟩

/-- A release of a candidate leaves the operations and the capture bytes alone. -/
theorem releaseCandidate_rest (resources : ProcessResources) (captureId : CaptureId) :
    (resources.releaseCandidate captureId).active = resources.active ∧
      (resources.releaseCandidate captureId).captureBytes = resources.captureBytes := by
  unfold ProcessResources.releaseCandidate
  split <;> exact ⟨rfl, rfl⟩

end Entries

/-! ## Custody -/

/-- A step of a holder that keeps custody of what it claimed. -/
structure Custody (before after : ProcessResources) (held heldAfter : CaptureId → Prop) :
    Prop where
  active : after.active = before.active
  captureBytes : after.captureBytes = before.captureBytes
  balanced : Balanced before → Balanced after
  handoff : ∀ captureId, candidateState after captureId = some .handoff →
    candidateState before captureId = some .handoff
  retained : ∀ captureId, candidateState after captureId = some .retained →
    heldAfter captureId ∨ (candidateState before captureId = some .retained ∧ ¬ held captureId)

section Custody

variable {resources : ProcessResources} {held heldAfter : CaptureId → Prop}

/-- A step that leaves the ledger alone and gives nothing up. -/
theorem custody_unchanged (keeps : ∀ captureId, held captureId → heldAfter captureId) :
    Custody resources resources held heldAfter where
  active := rfl
  captureBytes := rfl
  balanced := id
  handoff _ listed := listed
  retained captureId listed := by
    by_cases holds : held captureId
    · exact .inl (keeps captureId holds)
    · exact .inr ⟨listed, holds⟩

/-- A step that claims a candidate and gives nothing up. -/
theorem custody_claimed {captureId : CaptureId} {bytes : Nat}
    (granted : (resources.claimCandidate captureId bytes).1 = true)
    (holds : heldAfter captureId) (keeps : ∀ other, held other → heldAfter other) :
    Custody resources (resources.claimCandidate captureId bytes).2 held heldAfter where
  active := (claimCandidate_rest resources captureId bytes).1
  captureBytes := (claimCandidate_rest resources captureId bytes).2
  balanced balanced := balanced.claimCandidate captureId bytes
  handoff other listed := by
    rw [candidateState_claimCandidate granted] at listed
    split at listed
    · cases listed
    · exact listed
  retained other listed := by
    rw [candidateState_claimCandidate granted] at listed
    by_cases same : other = captureId
    · exact .inl (same ▸ holds)
    · rw [if_neg same] at listed
      by_cases kept : held other
      · exact .inl (keeps other kept)
      · exact .inr ⟨listed, kept⟩

/-- A step that releases a candidate and gives nothing else up. -/
theorem custody_released (captureId : CaptureId)
    (keeps : ∀ other, other ≠ captureId → held other → heldAfter other) :
    Custody resources (resources.releaseCandidate captureId) held heldAfter where
  active := (releaseCandidate_rest resources captureId).1
  captureBytes := (releaseCandidate_rest resources captureId).2
  balanced balanced := balanced.releaseCandidate captureId
  handoff other listed := by
    rw [candidateState_releaseCandidate] at listed
    split at listed
    · cases listed
    · exact listed
  retained other listed := by
    rw [candidateState_releaseCandidate] at listed
    split at listed
    · cases listed
    · rename_i different
      by_cases kept : held other
      · exact .inl (keeps other different kept)
      · exact .inr ⟨listed, kept⟩

end Custody

/-! ## Sinks -/

/-- Whether a call in a phase has claimed its candidate and not released it. -/
def SendPhase.retains : SendPhase → Bool
  | .claimed | .slotted | .returned | .releasing => true
  | .entered | .refused => false

/-- The candidate that the worker has not released. -/
def Worker.retained : Worker → Option QueuedCandidate
  | .busy .received queued | .busy .active queued | .busy .recorded queued => some queued
  | .busy .released _ | .idle | .exited => none

/-- Whether a call holds a capture. -/
def SendCall.holds (captureId : CaptureId) (call : SendCall) : Prop :=
  call.phase.retains = true ∧ call.captureId = captureId

/-- Where a sink holds a capture. -/
inductive ManagedSink.Holds (sink : ManagedSink) (captureId : CaptureId) : Prop
  | call (some : KeyedTable.Any (SendCall.holds captureId) sink.calls)
  | queued (some : captureId ∈ sink.channel.map QueuedCandidate.captureId)
  | worker (some : sink.worker.retained.map QueuedCandidate.captureId = some captureId)

section Sinks

variable {sink : ManagedSink}

/-- A sink whose call changes holds what it held, where the call does. -/
theorem ManagedSink.Holds.setCall {other : ManagedSink} {captureId : CaptureId} {callId : Nat}
    {call moved : SendCall} (holds : sink.Holds captureId)
    (found : sink.calls.lookup callId = some call)
    (calls : other.calls = sink.calls.insert callId moved) (channel : other.channel = sink.channel)
    (worker : other.worker = sink.worker)
    (keeps : call.holds captureId → moved.holds captureId) : other.Holds captureId := by
  cases holds with
  | call some => exact .call (calls ▸ some.insert found keeps)
  | queued some => exact .queued (channel ▸ some)
  | worker some => exact .worker (worker ▸ some)

/-- A sink whose call ends holds what it held, where the call did not. -/
theorem ManagedSink.Holds.endCall {other : ManagedSink} {captureId : CaptureId} {callId : Nat}
    {call : SendCall} (holds : sink.Holds captureId)
    (found : sink.calls.lookup callId = some call) (free : ¬ call.holds captureId)
    (calls : other.calls = sink.calls.erase callId)
    (channel : ∀ queued ∈ sink.channel, queued ∈ other.channel)
    (worker : other.worker = sink.worker) : other.Holds captureId := by
  cases holds with
  | call some => exact .call (calls ▸ some.erase found free)
  | queued some =>
      obtain ⟨queued, member, same⟩ := List.mem_map.mp some
      exact .queued (List.mem_map.mpr ⟨queued, channel queued member, same⟩)
  | worker some => exact .worker (worker ▸ some)

/-- A sink whose worker moves on holds what it held, where the worker does. -/
theorem ManagedSink.Holds.setWorker {other : ManagedSink} {captureId : CaptureId}
    (holds : sink.Holds captureId) (calls : other.calls = sink.calls)
    (channel : other.channel = sink.channel)
    (keeps : sink.worker.retained.map QueuedCandidate.captureId = some captureId →
      other.worker.retained.map QueuedCandidate.captureId = some captureId) :
    other.Holds captureId := by
  cases holds with
  | call some => exact .call (calls ▸ some)
  | queued some => exact .queued (channel ▸ some)
  | worker some => exact .worker (keeps some)

/-- A call in a phase without claim holds nothing. -/
theorem not_holds_of_phase {call : SendCall} {captureId : CaptureId}
    (phase : call.phase.retains = false) : ¬ call.holds captureId := by
  rintro ⟨retains, -⟩
  rw [phase] at retains
  cases retains

/-- Every step of a managed sink keeps custody. -/
theorem sink_custody {resources : ProcessResources} {action : SinkAction} {taken : SinkStep}
    (effect : SinkEffect sink resources action taken) (conserved : Conserved sink) :
    Custody resources taken.resources sink.Holds taken.sink.Holds := by
  cases effect with
  | entered caller captureId bytes isOpen =>
      refine custody_unchanged fun other holds => ?_
      cases holds with
      | call some => exact .call (some.insert_of_lookup_none conserved.fresh_call _)
      | queued some => exact .queued some
      | worker some => exact .worker some
  | refused callId call verdict found reason =>
      refine custody_unchanged fun other holds => ?_
      refine holds.endCall found (not_holds_of_phase ?_) rfl (fun _ member => member) rfl
      rcases reason with ⟨phase, -⟩ | ⟨phase, -⟩ <;> rw [phase] <;> rfl
  | claimed callId call found phase granted =>
      refine custody_claimed granted (.call (KeyedTable.any_insert_self ⟨rfl, rfl⟩)) ?_
      intro other holds
      exact holds.setCall found rfl rfl rfl fun held => ⟨rfl, held.2⟩
  | unclaimed callId call found phase =>
      refine custody_unchanged fun other holds => ?_
      have free : ¬ call.holds other := not_holds_of_phase (by rw [phase]; rfl)
      exact holds.setCall found rfl rfl rfl fun held => absurd held free
  | slotTaken callId call found phase room =>
      exact custody_unchanged fun other holds =>
        holds.setCall found rfl rfl rfl fun held => ⟨rfl, held.2⟩
  | slotRefused callId call found phase | pushFailed callId call found phase
  | gaveSlotBack callId call found phase =>
      exact custody_unchanged fun other holds =>
        holds.setCall found rfl rfl rfl fun held => ⟨rfl, held.2⟩
  | pushed callId call found phase running =>
      refine custody_unchanged fun other holds => ?_
      by_cases same : call.captureId = other
      · refine .queued ?_
        rw [List.map_append, List.mem_append]
        exact .inr (List.mem_singleton.mpr same.symm)
      · exact holds.endCall found (fun held => same held.2) rfl
          (fun _ member => List.mem_append_left _ member) rfl
  | callReleased callId call found phase =>
      refine custody_released call.captureId fun other different holds => ?_
      exact holds.setCall found rfl rfl rfl fun held => absurd held.2.symm different
  | received queued channel idle first =>
      refine custody_unchanged fun other holds => ?_
      cases holds with
      | call some => exact .call some
      | queued some =>
          rw [first, List.map_cons, List.mem_cons] at some
          rcases some with rfl | some
          · exact .worker rfl
          · exact .queued some
      | worker some =>
          rw [idle] at some
          cases some
  | activated queued busy =>
      refine custody_unchanged fun other holds => holds.setWorker rfl rfl fun some => ?_
      rw [busy] at some
      exact some
  | recorded phase queued verdict busy uncounted =>
      refine custody_unchanged fun other holds => holds.setWorker rfl rfl fun some => ?_
      rw [busy] at some
      rcases uncounted with rfl | rfl <;> exact some
  | released queued busy =>
      refine custody_released queued.captureId fun other different holds =>
        holds.setWorker rfl rfl fun some => ?_
      rw [busy] at some
      cases some
      exact absurd rfl different
  | finished queued busy =>
      refine custody_unchanged fun other holds => holds.setWorker rfl rfl fun some => ?_
      rw [busy] at some
      cases some
  | closed isOpen quiet =>
      exact custody_unchanged fun other holds => holds.setWorker rfl rfl id
  | exited isClosed empty idle =>
      refine custody_unchanged fun other holds => holds.setWorker rfl rfl fun some => ?_
      rw [idle] at some
      cases some

end Sinks

/-! ## Recorders -/

/-- Whether a call of a recorder holds a capture. -/
def RecorderCall.holds (captureId : CaptureId) (call : RecorderCall) : Prop :=
  call.phase.retains = true ∧ call.captureId = captureId

/-- Where a recorder holds a capture. -/
inductive LocalRecorder.Holds (recorder : LocalRecorder) (captureId : CaptureId) : Prop
  | call (some : KeyedTable.Any (RecorderCall.holds captureId) recorder.calls)
  | recorded (some : recorder.candidate = some captureId)
  | taken (some : captureId ∈ recorder.taken)

/-- A recorder whose calls have numbers below the next one. -/
def LocalRecorder.Numbered (recorder : LocalRecorder) : Prop :=
  KeyedTable.All (fun callId _ => callId < recorder.nextCall) recorder.calls

section Recorders

variable {recorder : LocalRecorder}

/-- A new recorder numbers its calls. -/
theorem numbered_new (operationId : OperationId) : (LocalRecorder.new operationId).Numbered :=
  KeyedTable.all_empty

/-- The next call is not in progress yet. -/
theorem LocalRecorder.Numbered.fresh_call (numbered : recorder.Numbered) :
    recorder.calls.lookup recorder.nextCall = none := by
  cases found : recorder.calls.lookup recorder.nextCall with
  | none => rfl
  | some call => exact absurd (numbered recorder.nextCall call found) (Nat.lt_irrefl _)

/-- Every step of a recorder numbers its calls. -/
theorem numbered_effect {resources : ProcessResources} {taken : RecorderStep}
    (effect : RecorderEffect recorder resources taken) (numbered : recorder.Numbered) :
    ∀ next ∈ taken.recorder, next.Numbered := by
  intro next reached
  cases effect with
  | entered caller captureId operationId bytes =>
      cases reached
      have wider : KeyedTable.All (fun callId _ => callId < recorder.nextCall + 1)
          recorder.calls :=
        fun callId call found => Nat.lt_succ_of_lt (numbered callId call found)
      exact wider.insert (Nat.lt_succ_self _)
  | refused callId call found phase | callReleased callId call found phase
  | stored callId call found phase empty =>
      cases reached
      exact numbered.erase callId
  | claimed callId call found phase granted | unclaimed callId call found phase
  | mismatched callId call found phase =>
      cases reached
      exact numbered.insert (numbered callId call found)
  | took | takenReleased captureId pending =>
      cases reached
      exact numbered
  | dropped quiet untaken => cases reached

/-- A recorder whose call changes holds what it held, where the call does. -/
theorem LocalRecorder.Holds.setCall {other : LocalRecorder} {captureId : CaptureId} {callId : Nat}
    {call moved : RecorderCall} (holds : recorder.Holds captureId)
    (found : recorder.calls.lookup callId = some call)
    (calls : other.calls = recorder.calls.insert callId moved)
    (candidate : other.candidate = recorder.candidate) (taken : other.taken = recorder.taken)
    (keeps : call.holds captureId → moved.holds captureId) : other.Holds captureId := by
  cases holds with
  | call some => exact .call (calls ▸ some.insert found keeps)
  | recorded some => exact .recorded (candidate ▸ some)
  | taken some => exact .taken (taken ▸ some)

/-- A recorder whose call ends holds what it held, where the call did not. -/
theorem LocalRecorder.Holds.endCall {other : LocalRecorder} {captureId : CaptureId} {callId : Nat}
    {call : RecorderCall} (holds : recorder.Holds captureId)
    (found : recorder.calls.lookup callId = some call) (free : ¬ call.holds captureId)
    (calls : other.calls = recorder.calls.erase callId)
    (candidate : recorder.candidate = some captureId → other.candidate = some captureId)
    (taken : other.taken = recorder.taken) : other.Holds captureId := by
  cases holds with
  | call some => exact .call (calls ▸ some.erase found free)
  | recorded some => exact .recorded (candidate some)
  | taken some => exact .taken (taken ▸ some)

/-- A call of a recorder in a phase without claim holds nothing. -/
theorem RecorderCall.not_holds_of_phase {call : RecorderCall} {captureId : CaptureId}
    (phase : call.phase.retains = false) : ¬ call.holds captureId := by
  rintro ⟨retains, -⟩
  rw [phase] at retains
  cases retains

/-- What a recorder that may be gone holds. -/
def heldBy (recorder : Option LocalRecorder) (captureId : CaptureId) : Prop :=
  ∃ present ∈ recorder, present.Holds captureId

/-- Every step of a recorder keeps custody. -/
theorem recorder_custody {resources : ProcessResources} {taken : RecorderStep}
    (effect : RecorderEffect recorder resources taken) (numbered : recorder.Numbered) :
    Custody resources taken.resources recorder.Holds (heldBy taken.recorder) := by
  cases effect with
  | entered caller captureId operationId bytes =>
      refine custody_unchanged fun other holds => ⟨_, rfl, ?_⟩
      cases holds with
      | call some => exact .call (some.insert_of_lookup_none numbered.fresh_call _)
      | recorded some => exact .recorded some
      | taken some => exact .taken some
  | refused callId call found phase =>
      refine custody_unchanged fun other holds => ⟨_, rfl, ?_⟩
      refine holds.endCall found (RecorderCall.not_holds_of_phase ?_) rfl id rfl
      rcases phase with phase | phase <;> rw [phase] <;> rfl
  | claimed callId call found phase granted =>
      refine custody_claimed granted ⟨_, rfl, .call (KeyedTable.any_insert_self ⟨rfl, rfl⟩)⟩ ?_
      intro other holds
      exact ⟨_, rfl, holds.setCall found rfl rfl rfl fun held => ⟨rfl, held.2⟩⟩
  | unclaimed callId call found phase =>
      refine custody_unchanged fun other holds => ⟨_, rfl, ?_⟩
      have free : ¬ call.holds other := RecorderCall.not_holds_of_phase (by rw [phase]; rfl)
      exact holds.setCall found rfl rfl rfl fun held => absurd held free
  | mismatched callId call found phase =>
      exact custody_unchanged fun other holds =>
        ⟨_, rfl, holds.setCall found rfl rfl rfl fun held => ⟨rfl, held.2⟩⟩
  | stored callId call found phase empty =>
      refine custody_unchanged fun other holds => ⟨_, rfl, ?_⟩
      by_cases same : call.captureId = other
      · exact .recorded (congrArg some same)
      · refine holds.endCall found (fun held => same held.2) rfl (fun some => ?_) rfl
        rw [empty] at some
        cases some
  | callReleased callId call found phase =>
      refine custody_released call.captureId fun other different holds => ⟨_, rfl, ?_⟩
      exact holds.endCall found (fun held => different held.2.symm) rfl id rfl
  | took =>
      refine custody_unchanged fun other holds => ⟨_, rfl, ?_⟩
      cases holds with
      | call some => exact .call some
      | recorded some => exact .taken (List.mem_append_left _ (by simp [some]))
      | taken some => exact .taken (List.mem_append_right _ some)
  | takenReleased captureId pending =>
      refine custody_released captureId fun other different holds => ⟨_, rfl, ?_⟩
      cases holds with
      | call some => exact .call some
      | recorded some => exact .recorded some
      | taken some => exact .taken ((List.mem_erase_of_ne different).mpr some)
  | dropped quiet untaken =>
      have only : ∀ other, recorder.Holds other → recorder.candidate = some other := by
        intro other holds
        cases holds with
        | call some =>
            obtain ⟨callId, call, found, -⟩ := some
            rw [(KeyedTable.size_eq_zero_iff _).mp quiet callId] at found
            cases found
        | recorded some => exact some
        | taken some =>
            rw [untaken] at some
            cases some
      cases candidate : recorder.candidate with
      | none =>
          refine custody_unchanged fun other holds => ?_
          have recorded := only other holds
          rw [candidate] at recorded
          cases recorded
      | some captureId =>
          refine custody_released captureId fun other different holds => ?_
          have recorded := only other holds
          rw [candidate, Option.some.injEq] at recorded
          exact absurd recorded.symm different

end Recorders
end Process
end ReproItSdk
