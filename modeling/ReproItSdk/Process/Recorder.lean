import ReproItSdk.Process.Queue

/-! # The local recorder

A local recorder keeps the candidate of one failed operation until it is taken.  It answers the same
calls as a managed sink, and any number of callers may call it and take from it.  As for the sink,
one step is one critical section, of the recorder or of the ledger.

Main definitions:

- Structure {lit}`LocalRecorder`: the recorded candidate and the calls in progress.
- Function {lit}`LocalRecorder.step`: one step of a caller, of a taker or of the drop.
- Inductive {lit}`RecorderEffect`: what a step does.
-/

namespace ReproItSdk
namespace Process

open Sdk

/-! ## State -/

/-- A call of {lit}`try_send` of a recorder in progress. -/
structure RecorderCall where
  caller : Option Nat
  captureId : CaptureId
  operationId : OperationId
  bytes : Nat
  phase : SendPhase
deriving DecidableEq, Repr

/-- A local recorder.  The takes in progress have a candidate that the ledger still lists. -/
structure LocalRecorder where
  operationId : OperationId
  bytes : Nat
  candidate : Option CaptureId
  incomplete : Nat
  calls : KeyedTable Nat RecorderCall
  nextCall : Nat
  taken : List CaptureId

namespace LocalRecorder

/-- {lit}`ManagedRustLocalRecorder::new`: nothing is recorded. -/
def new (operationId : OperationId) : LocalRecorder where
  operationId := operationId
  bytes := 0
  candidate := none
  incomplete := 0
  calls := ∅
  nextCall := 0
  taken := []

/-- Enter {lit}`try_send`. -/
def enter (recorder : LocalRecorder) (caller : Option Nat) (captureId : CaptureId)
    (operationId : OperationId) (bytes : Nat) : LocalRecorder :=
  { recorder with
    calls := recorder.calls.insert recorder.nextCall
      { caller := caller
        captureId := captureId
        operationId := operationId
        bytes := bytes
        phase := .entered }
    nextCall := recorder.nextCall + 1 }

/-- Move a call to its next phase. -/
def moveCall (recorder : LocalRecorder) (callId : Nat) (call : RecorderCall) (phase : SendPhase) :
    LocalRecorder :=
  { recorder with calls := recorder.calls.insert callId { call with phase := phase } }

/-- End a call. -/
def endCall (recorder : LocalRecorder) (callId : Nat) : LocalRecorder :=
  { recorder with calls := recorder.calls.erase callId }

/-- Count an incomplete candidate. -/
def countIncomplete (recorder : LocalRecorder) : LocalRecorder :=
  { recorder with incomplete := saturatingAdd recorder.incomplete 1 }

/-- A call in a phase. -/
def callIn (recorder : LocalRecorder) (callId : Nat) (phase : SendPhase) : Option RecorderCall :=
  (recorder.calls.lookup callId).filter fun call => call.phase == phase

end LocalRecorder

/-! ## Steps -/

/-- The steps of a recorder. -/
inductive RecorderAction where
  | enter (caller : Option Nat) (captureId : CaptureId) (operationId : OperationId) (bytes : Nat)
  | refuseIncomplete (callId : Nat)
  | claim (callId : Nat)
  | store (callId : Nat)
  | releaseCall (callId : Nat)
  | takeFailedCandidate
  | releaseTaken (captureId : CaptureId)
  | drop

/-- The answer to a call. -/
def RecorderCall.answer (call : RecorderCall) (callId : Nat) (accepted : Bool) : SendAnswer where
  caller := call.caller
  callId := callId
  captureId := call.captureId
  accepted := accepted

/-- What a step makes of a recorder and the ledger.  A dropped recorder is gone. -/
structure RecorderStep where
  answer : Option SendAnswer
  recorder : Option LocalRecorder
  resources : ProcessResources

namespace LocalRecorder

/-- One step of a recorder, if its thread can take it. -/
def step (recorder : LocalRecorder) (resources : ProcessResources) :
    RecorderAction → Option RecorderStep
  | .enter caller captureId operationId bytes =>
      some
        { answer := none
          recorder := some (recorder.enter caller captureId operationId bytes)
          resources := resources }
  -- The candidate has no encoding, or the ledger refused the claim.
  | .refuseIncomplete callId =>
      ((recorder.callIn callId .entered).or (recorder.callIn callId .refused)).map fun call =>
        { answer := some (call.answer callId false)
          recorder := some (recorder.endCall callId).countIncomplete
          resources := resources }
  | .claim callId =>
      (recorder.callIn callId .entered).map fun call =>
        let claimed := resources.claimCandidate call.captureId call.bytes
        { answer := none
          recorder := some (recorder.moveCall callId call (if claimed.1 then .claimed else .refused))
          resources := claimed.2 }
  | .store callId =>
      (recorder.callIn callId .claimed).map fun call =>
        if call.operationId ≠ recorder.operationId ∨ maxOperationBytes < call.bytes ∨
            recorder.candidate.isSome then
          { answer := none
            recorder := some (recorder.moveCall callId call .releasing).countIncomplete
            resources := resources }
        else
          { answer := some (call.answer callId true)
            recorder :=
              some
                { recorder.endCall callId with
                  bytes := call.bytes
                  candidate := some call.captureId }
            resources := resources }
  | .releaseCall callId =>
      (recorder.callIn callId .releasing).map fun call =>
        { answer := some (call.answer callId false)
          recorder := some (recorder.endCall callId)
          resources := resources.releaseCandidate call.captureId }
  | .takeFailedCandidate =>
      some
        { answer := none
          recorder :=
            some
              { recorder with
                bytes := 0
                candidate := none
                taken := recorder.candidate.toList ++ recorder.taken }
          resources := resources }
  | .releaseTaken captureId =>
      if captureId ∈ recorder.taken then
        some
          { answer := none
            recorder := some { recorder with taken := recorder.taken.erase captureId }
            resources := resources.releaseCandidate captureId }
      else none
  | .drop =>
      if KeyedTable.size recorder.calls ≠ 0 ∨ recorder.taken ≠ [] then none
      else
        some
          { answer := none
            recorder := none
            resources :=
              match recorder.candidate with
              | none => resources
              | some captureId => resources.releaseCandidate captureId }

end LocalRecorder

/-! ## Effects -/

/-- What a step of a recorder does, one constructor for each branch. -/
inductive RecorderEffect (recorder : LocalRecorder) (resources : ProcessResources) :
    RecorderStep → Prop
  | entered (caller : Option Nat) (captureId : CaptureId) (operationId : OperationId)
      (bytes : Nat) :
      RecorderEffect recorder resources
        { answer := none
          recorder := some (recorder.enter caller captureId operationId bytes)
          resources := resources }
  | refused (callId : Nat) (call : RecorderCall) (found : recorder.calls.lookup callId = some call)
      (phase : call.phase = .entered ∨ call.phase = .refused) :
      RecorderEffect recorder resources
        { answer := some (call.answer callId false)
          recorder := some (recorder.endCall callId).countIncomplete
          resources := resources }
  | claimed (callId : Nat) (call : RecorderCall) (found : recorder.calls.lookup callId = some call)
      (phase : call.phase = .entered)
      (granted : (resources.claimCandidate call.captureId call.bytes).1 = true) :
      RecorderEffect recorder resources
        { answer := none
          recorder := some (recorder.moveCall callId call .claimed)
          resources := (resources.claimCandidate call.captureId call.bytes).2 }
  | unclaimed (callId : Nat) (call : RecorderCall)
      (found : recorder.calls.lookup callId = some call) (phase : call.phase = .entered) :
      RecorderEffect recorder resources
        { answer := none
          recorder := some (recorder.moveCall callId call .refused)
          resources := resources }
  | mismatched (callId : Nat) (call : RecorderCall)
      (found : recorder.calls.lookup callId = some call) (phase : call.phase = .claimed) :
      RecorderEffect recorder resources
        { answer := none
          recorder := some (recorder.moveCall callId call .releasing).countIncomplete
          resources := resources }
  | stored (callId : Nat) (call : RecorderCall) (found : recorder.calls.lookup callId = some call)
      (phase : call.phase = .claimed) (empty : recorder.candidate = none) :
      RecorderEffect recorder resources
        { answer := some (call.answer callId true)
          recorder :=
            some
              { recorder.endCall callId with
                bytes := call.bytes
                candidate := some call.captureId }
          resources := resources }
  | callReleased (callId : Nat) (call : RecorderCall)
      (found : recorder.calls.lookup callId = some call) (phase : call.phase = .releasing) :
      RecorderEffect recorder resources
        { answer := some (call.answer callId false)
          recorder := some (recorder.endCall callId)
          resources := resources.releaseCandidate call.captureId }
  | took :
      RecorderEffect recorder resources
        { answer := none
          recorder :=
            some
              { recorder with
                bytes := 0
                candidate := none
                taken := recorder.candidate.toList ++ recorder.taken }
          resources := resources }
  | takenReleased (captureId : CaptureId) (pending : captureId ∈ recorder.taken) :
      RecorderEffect recorder resources
        { answer := none
          recorder := some { recorder with taken := recorder.taken.erase captureId }
          resources := resources.releaseCandidate captureId }
  | dropped (quiet : KeyedTable.size recorder.calls = 0) (untaken : recorder.taken = []) :
      RecorderEffect recorder resources
        { answer := none
          recorder := none
          resources :=
            match recorder.candidate with
            | none => resources
            | some captureId => resources.releaseCandidate captureId }

/-- A call of a recorder that is found in a phase. -/
theorem LocalRecorder.callIn_some {recorder : LocalRecorder} {callId : Nat} {phase : SendPhase}
    {call : RecorderCall} (found : recorder.callIn callId phase = some call) :
    recorder.calls.lookup callId = some call ∧ call.phase = phase := by
  unfold LocalRecorder.callIn at found
  rw [Option.filter_eq_some_iff] at found
  exact ⟨found.1, beq_iff_eq.mp found.2⟩

/-- Every step has an effect. -/
theorem LocalRecorder.step_effect {recorder : LocalRecorder} {resources : ProcessResources}
    {action : RecorderAction} {taken : RecorderStep}
    (stepped : recorder.step resources action = some taken) :
    RecorderEffect recorder resources taken := by
  cases action with
  | enter caller captureId operationId bytes =>
      cases stepped
      exact .entered caller captureId operationId bytes
  | refuseIncomplete callId =>
      obtain ⟨call, found, rfl⟩ := Option.map_eq_some_iff.mp stepped
      rcases Option.or_eq_some_iff.mp found with entered | ⟨-, refused⟩
      · obtain ⟨present, phase⟩ := callIn_some entered
        exact .refused callId call present (.inl phase)
      · obtain ⟨present, phase⟩ := callIn_some refused
        exact .refused callId call present (.inr phase)
  | claim callId =>
      obtain ⟨call, found, rfl⟩ := Option.map_eq_some_iff.mp stepped
      obtain ⟨present, phase⟩ := callIn_some found
      cases granted : (resources.claimCandidate call.captureId call.bytes).1 with
      | true => simpa [granted] using RecorderEffect.claimed callId call present phase granted
      | false =>
          simpa [granted, claimCandidate_refused granted]
            using RecorderEffect.unclaimed callId call present phase
  | store callId =>
      obtain ⟨call, found, made⟩ := Option.map_eq_some_iff.mp stepped
      obtain ⟨present, phase⟩ := callIn_some found
      split at made
      · cases made
        exact .mismatched callId call present phase
      · rename_i room
        cases made
        simp only [not_or, Bool.not_eq_true, Option.isSome_eq_false_iff,
          Option.isNone_iff_eq_none] at room
        exact .stored callId call present phase room.2.2
  | releaseCall callId =>
      obtain ⟨call, found, rfl⟩ := Option.map_eq_some_iff.mp stepped
      obtain ⟨present, phase⟩ := callIn_some found
      exact .callReleased callId call present phase
  | takeFailedCandidate =>
      cases stepped
      exact .took
  | releaseTaken captureId =>
      simp only [step] at stepped
      split at stepped
      · rename_i pending
        cases stepped
        exact .takenReleased captureId pending
      · cases stepped
  | drop =>
      simp only [step] at stepped
      split at stepped
      · cases stepped
      · rename_i ready
        cases stepped
        rw [not_or, not_not, not_not] at ready
        exact .dropped ready.1 ready.2

end Process
end ReproItSdk
