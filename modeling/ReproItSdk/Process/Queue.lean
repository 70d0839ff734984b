import ReproItSdk.Sdk.State

/-! # The managed candidate sink

A managed sink takes candidates from any number of callers, queues them in a bounded channel, and
delivers them one by one on its worker thread.  Callers and worker run concurrently; one step is
one critical section (of the ledger, of the queue state or of the counters) or one operation of the
channel.

Every call of {lit}`try_send` has a number.  The verdicts remember which counter each number was
counted in; no code reads them.

Main definitions:

- Structure {lit}`ManagedSink`: the queue state, the channel, the worker, and the calls in progress.
- Function {lit}`ManagedSink.step`: one step of a caller, of the worker, or of the shutdown.
-/

namespace ReproItSdk
namespace Process

open Sdk

/-! ## State -/

/-- The queue state behind the lock of a sink. -/
structure QueueState where
  active : Bool
  bytes : Nat
  candidates : Nat
deriving DecidableEq, Repr

/-- A candidate in the channel. -/
structure QueuedCandidate where
  callId : Nat
  captureId : CaptureId
  bytes : Nat
deriving DecidableEq, Repr

/-- Progress of a call of {lit}`try_send`. -/
inductive SendPhase where
  | entered
  | claimed
  | slotted
  | returned
  | releasing
  | refused
deriving DecidableEq, Repr

/-- A call of {lit}`try_send` in progress.  The caller is an SDK, or no SDK at all. -/
structure SendCall where
  caller : Option Nat
  captureId : CaptureId
  bytes : Nat
  phase : SendPhase
deriving DecidableEq, Repr

/-- Progress of the worker with one candidate. -/
inductive WorkerPhase where
  | received
  | active
  | recorded
  | released
deriving DecidableEq, Repr

/-- The worker thread. -/
inductive Worker where
  | idle
  | busy (phase : WorkerPhase) (queued : QueuedCandidate)
  | exited
deriving DecidableEq, Repr

/-- The counters that a candidate ends in. -/
inductive Verdict where
  | deliveryExpired
  | durablyAccepted
  | incomplete
  | rejected
  | queueFull
deriving DecidableEq, Repr

/-- An error of a delivery, as far as the counters look at it. -/
structure DeliveryError where
  code : ErrorCode
  retryable : Bool
deriving DecidableEq, Repr

/-- {lit}`record_result`: the counter of a delivery. -/
def resultVerdict : Except DeliveryError Unit → Verdict
  | .ok () => .durablyAccepted
  | .error error =>
      if error.code = .incompleteCandidate then .incomplete
      else if error.retryable then .deliveryExpired
      else .rejected

/-- Count one more candidate. -/
def countVerdict (counters : SdkRecallCounters) : Verdict → SdkRecallCounters
  | .deliveryExpired =>
      { counters with
        candidateDeliveryExpired := saturatingAdd counters.candidateDeliveryExpired 1 }
  | .durablyAccepted =>
      { counters with
        candidateDurablyAccepted := saturatingAdd counters.candidateDurablyAccepted 1 }
  | .incomplete =>
      { counters with candidateIncomplete := saturatingAdd counters.candidateIncomplete 1 }
  | .rejected => { counters with candidateRejected := saturatingAdd counters.candidateRejected 1 }
  | .queueFull =>
      { counters with candidateQueueFull := saturatingAdd counters.candidateQueueFull 1 }

/-- A managed sink with its worker. -/
structure ManagedSink where
  closed : Bool
  state : QueueState
  channel : List QueuedCandidate
  worker : Worker
  recallCounters : SdkRecallCounters
  calls : KeyedTable Nat SendCall
  nextCall : Nat
  verdicts : KeyedTable Nat Verdict

namespace ManagedSink

/-- A sink whose worker has started. -/
def new : ManagedSink where
  closed := false
  state := { active := false, bytes := 0, candidates := 0 }
  channel := []
  worker := .idle
  recallCounters := .zero
  calls := ∅
  nextCall := 0
  verdicts := ∅

/-- Enter {lit}`try_send`. -/
def enter (sink : ManagedSink) (caller : Option Nat) (captureId : CaptureId) (bytes : Nat) :
    ManagedSink :=
  { sink with
    calls := sink.calls.insert sink.nextCall
      { caller := caller, captureId := captureId, bytes := bytes, phase := .entered }
    nextCall := sink.nextCall + 1 }

/-- Move a call to its next phase. -/
def moveCall (sink : ManagedSink) (callId : Nat) (call : SendCall) (phase : SendPhase) :
    ManagedSink :=
  { sink with calls := sink.calls.insert callId { call with phase := phase } }

/-- Count a candidate. -/
def count (sink : ManagedSink) (callId : Nat) (verdict : Verdict) : ManagedSink :=
  { sink with
    recallCounters := countVerdict sink.recallCounters verdict
    verdicts := sink.verdicts.insert callId verdict }

/-- Take one slot of the queue state. -/
def takeSlot (sink : ManagedSink) (bytes : Nat) : ManagedSink :=
  { sink with
    state :=
      { sink.state with
        bytes := sink.state.bytes + bytes
        candidates := sink.state.candidates + 1 } }

/-- Give one slot of the queue state back. -/
def giveSlotBack (sink : ManagedSink) (bytes : Nat) : ManagedSink :=
  { sink with
    state :=
      { sink.state with
        bytes := sink.state.bytes - bytes
        candidates := sink.state.candidates - 1 } }

/-- Whether the queue state has no slot for some more bytes. -/
def full (sink : ManagedSink) (bytes : Nat) : Bool :=
  maxQueuedCandidates ≤ sink.state.candidates ||
    match checkedAdd sink.state.bytes bytes with
    | none => true
    | some total => maxGlobalBytes < total

end ManagedSink

/-! ## Steps -/

/-- The steps of a sink. -/
inductive SinkAction where
  | enter (caller : Option Nat) (captureId : CaptureId) (bytes : Nat)
  | refuseIncomplete (callId : Nat)
  | claim (callId : Nat)
  | takeSlot (callId : Nat)
  | push (callId : Nat)
  | giveSlotBack (callId : Nat)
  | releaseCall (callId : Nat)
  | countQueueFull (callId : Nat)
  | receive
  | expire
  | activate
  | recordResult (result : Except DeliveryError Unit)
  | release
  | finish
  | close
  | exit

/-- The answer that a step gives to the caller of {lit}`try_send`. -/
structure SendAnswer where
  caller : Option Nat
  callId : Nat
  captureId : CaptureId
  accepted : Bool
deriving DecidableEq, Repr

/-- The answer to a call. -/
def SendCall.answer (call : SendCall) (callId : Nat) (accepted : Bool) : SendAnswer where
  caller := call.caller
  callId := callId
  captureId := call.captureId
  accepted := accepted

/-- What a step of a sink makes of the sink and the ledger. -/
structure SinkStep where
  answer : Option SendAnswer
  sink : ManagedSink
  resources : ProcessResources

namespace ManagedSink

/-- A call in a phase. -/
def callIn (sink : ManagedSink) (callId : Nat) (phase : SendPhase) : Option SendCall :=
  (sink.calls.lookup callId).filter fun call => call.phase == phase

/-- Steps of the callers: the body of {lit}`try_send` from one critical section to the next. -/
def callerStep (sink : ManagedSink) (resources : ProcessResources) :
    SinkAction → Option SinkStep
  | .enter caller captureId bytes =>
      if sink.closed then none
      else
        some
          { answer := none
            sink := sink.enter caller captureId bytes
            resources := resources }
  -- The candidate is not authorized, or it has no encoding.
  | .refuseIncomplete callId =>
      (sink.callIn callId .entered).map fun call =>
        { answer := some (call.answer callId false)
          sink := { sink with calls := sink.calls.erase callId }.count callId .incomplete
          resources := resources }
  | .claim callId =>
      (sink.callIn callId .entered).map fun call =>
        let claimed := resources.claimCandidate call.captureId call.bytes
        { answer := none
          sink := sink.moveCall callId call (if claimed.1 then .claimed else .refused)
          resources := claimed.2 }
  | .takeSlot callId =>
      (sink.callIn callId .claimed).map fun call =>
        { answer := none
          sink :=
            if sink.full call.bytes then sink.moveCall callId call .releasing
            else (sink.takeSlot call.bytes).moveCall callId call .slotted
          resources := resources }
  | .push callId =>
      (sink.callIn callId .slotted).map fun call =>
        if maxQueuedCandidates ≤ sink.channel.length ∨ sink.worker = .exited then
          { answer := none
            sink := sink.moveCall callId call .returned
            resources := resources }
        else
          { answer := some (call.answer callId true)
            sink :=
              { sink with
                calls := sink.calls.erase callId
                channel := sink.channel ++
                  [{ callId := callId, captureId := call.captureId, bytes := call.bytes }] }
            resources := resources }
  | .giveSlotBack callId =>
      (sink.callIn callId .returned).map fun call =>
        { answer := none
          sink := (sink.giveSlotBack call.bytes).moveCall callId call .releasing
          resources := resources }
  | .releaseCall callId =>
      (sink.callIn callId .releasing).map fun call =>
        { answer := none
          sink := sink.moveCall callId call .refused
          resources := resources.releaseCandidate call.captureId }
  | .countQueueFull callId =>
      (sink.callIn callId .refused).map fun call =>
        { answer := some (call.answer callId false)
          sink := { sink with calls := sink.calls.erase callId }.count callId .queueFull
          resources := resources }
  | _ => none

/-- Steps of the worker thread and of the shutdown. -/
def workerStep (sink : ManagedSink) (resources : ProcessResources) :
    SinkAction → Option SinkStep
  | .receive =>
      match sink.worker, sink.channel with
      | .idle, queued :: channel =>
          some
            { answer := none
              sink := { sink with channel := channel, worker := .busy .received queued }
              resources := resources }
      | _, _ => none
  -- The delivery lifetime of the candidate is over.
  | .expire =>
      match sink.worker with
      | .busy .received queued =>
          some
            { answer := none
              sink :=
                { sink with worker := .busy .recorded queued }.count queued.callId .deliveryExpired
              resources := resources }
      | _ => none
  | .activate =>
      match sink.worker with
      | .busy .received queued =>
          some
            { answer := none
              sink :=
                { sink with
                  state := { sink.state with active := true }
                  worker := .busy .active queued }
              resources := resources }
      | _ => none
  | .recordResult result =>
      match sink.worker with
      | .busy .active queued =>
          some
            { answer := none
              sink :=
                { sink with worker := .busy .recorded queued }.count queued.callId
                  (resultVerdict result)
              resources := resources }
      | _ => none
  -- The first critical section of finish_queued.
  | .release =>
      match sink.worker with
      | .busy .recorded queued =>
          some
            { answer := none
              sink := { sink with worker := .busy .released queued }
              resources := resources.releaseCandidate queued.captureId }
      | _ => none
  -- The second critical section of finish_queued.
  | .finish =>
      match sink.worker with
      | .busy .released queued =>
          some
            { answer := none
              sink :=
                { sink.giveSlotBack queued.bytes with
                  state := { (sink.giveSlotBack queued.bytes).state with active := false }
                  worker := .idle }
              resources := resources }
      | _ => none
  | .close =>
      if sink.closed ∨ KeyedTable.size sink.calls ≠ 0 then none
      else some { answer := none, sink := { sink with closed := true }, resources := resources }
  | .exit =>
      if sink.closed ∧ sink.channel = [] ∧ sink.worker = .idle then
        some { answer := none, sink := { sink with worker := .exited }, resources := resources }
      else none
  | _ => none

/-- One step of a sink, if its thread can take it. -/
def step (sink : ManagedSink) (resources : ProcessResources) (action : SinkAction) :
    Option SinkStep :=
  (sink.callerStep resources action).or (sink.workerStep resources action)

/-- {lit}`wait_until_idle` returns true in this queue state. -/
def isIdle (sink : ManagedSink) : Bool :=
  !(sink.state.active || sink.state.candidates != 0)

end ManagedSink

/-! ## Effects -/

/-- What a step of a sink does, one constructor for each branch. -/
inductive SinkEffect (sink : ManagedSink) (resources : ProcessResources) (action : SinkAction) :
    SinkStep → Prop
  | entered (caller : Option Nat) (captureId : CaptureId) (bytes : Nat)
      (isOpen : sink.closed = false) (entering : action = .enter caller captureId bytes) :
      SinkEffect sink resources action
        { answer := none, sink := sink.enter caller captureId bytes, resources := resources }
  | refused (callId : Nat) (call : SendCall) (verdict : Verdict)
      (found : sink.calls.lookup callId = some call)
      (reason : (call.phase = .entered ∧ verdict = .incomplete) ∨
        (call.phase = .refused ∧ verdict = .queueFull)) :
      SinkEffect sink resources action
        { answer := some (call.answer callId false)
          sink := { sink with calls := sink.calls.erase callId }.count callId verdict
          resources := resources }
  | claimed (callId : Nat) (call : SendCall) (found : sink.calls.lookup callId = some call)
      (phase : call.phase = .entered)
      (granted : (resources.claimCandidate call.captureId call.bytes).1 = true) :
      SinkEffect sink resources action
        { answer := none
          sink := sink.moveCall callId call .claimed
          resources := (resources.claimCandidate call.captureId call.bytes).2 }
  | unclaimed (callId : Nat) (call : SendCall) (found : sink.calls.lookup callId = some call)
      (phase : call.phase = .entered) :
      SinkEffect sink resources action
        { answer := none, sink := sink.moveCall callId call .refused, resources := resources }
  | slotTaken (callId : Nat) (call : SendCall) (found : sink.calls.lookup callId = some call)
      (phase : call.phase = .claimed) (room : sink.full call.bytes = false) :
      SinkEffect sink resources action
        { answer := none
          sink := (sink.takeSlot call.bytes).moveCall callId call .slotted
          resources := resources }
  | slotRefused (callId : Nat) (call : SendCall) (found : sink.calls.lookup callId = some call)
      (phase : call.phase = .claimed) :
      SinkEffect sink resources action
        { answer := none, sink := sink.moveCall callId call .releasing, resources := resources }
  | pushed (callId : Nat) (call : SendCall) (found : sink.calls.lookup callId = some call)
      (phase : call.phase = .slotted) (running : sink.worker ≠ .exited) :
      SinkEffect sink resources action
        { answer := some (call.answer callId true)
          sink :=
            { sink with
              calls := sink.calls.erase callId
              channel := sink.channel ++
                [{ callId := callId, captureId := call.captureId, bytes := call.bytes }] }
          resources := resources }
  | pushFailed (callId : Nat) (call : SendCall) (found : sink.calls.lookup callId = some call)
      (phase : call.phase = .slotted) :
      SinkEffect sink resources action
        { answer := none, sink := sink.moveCall callId call .returned, resources := resources }
  | gaveSlotBack (callId : Nat) (call : SendCall) (found : sink.calls.lookup callId = some call)
      (phase : call.phase = .returned) :
      SinkEffect sink resources action
        { answer := none
          sink := (sink.giveSlotBack call.bytes).moveCall callId call .releasing
          resources := resources }
  | callReleased (callId : Nat) (call : SendCall) (found : sink.calls.lookup callId = some call)
      (phase : call.phase = .releasing) :
      SinkEffect sink resources action
        { answer := none
          sink := sink.moveCall callId call .refused
          resources := resources.releaseCandidate call.captureId }
  | received (queued : QueuedCandidate) (channel : List QueuedCandidate)
      (idle : sink.worker = .idle) (first : sink.channel = queued :: channel) :
      SinkEffect sink resources action
        { answer := none
          sink := { sink with channel := channel, worker := .busy .received queued }
          resources := resources }
  | activated (queued : QueuedCandidate) (busy : sink.worker = .busy .received queued) :
      SinkEffect sink resources action
        { answer := none
          sink :=
            { sink with
              state := { sink.state with active := true }
              worker := .busy .active queued }
          resources := resources }
  | recorded (phase : WorkerPhase) (queued : QueuedCandidate) (verdict : Verdict)
      (busy : sink.worker = .busy phase queued) (uncounted : phase = .received ∨ phase = .active) :
      SinkEffect sink resources action
        { answer := none
          sink := { sink with worker := .busy .recorded queued }.count queued.callId verdict
          resources := resources }
  | released (queued : QueuedCandidate) (busy : sink.worker = .busy .recorded queued) :
      SinkEffect sink resources action
        { answer := none
          sink := { sink with worker := .busy .released queued }
          resources := resources.releaseCandidate queued.captureId }
  | finished (queued : QueuedCandidate) (busy : sink.worker = .busy .released queued) :
      SinkEffect sink resources action
        { answer := none
          sink :=
            { sink.giveSlotBack queued.bytes with
              state := { (sink.giveSlotBack queued.bytes).state with active := false }
              worker := .idle }
          resources := resources }
  | closed (isOpen : sink.closed = false) (quiet : KeyedTable.size sink.calls = 0) :
      SinkEffect sink resources action
        { answer := none, sink := { sink with closed := true }, resources := resources }
  | exited (isClosed : sink.closed = true) (empty : sink.channel = []) (idle : sink.worker = .idle) :
      SinkEffect sink resources action
        { answer := none, sink := { sink with worker := .exited }, resources := resources }

section Effects

variable {sink : ManagedSink} {resources : ProcessResources} {taken : SinkStep}

/-- A call that is found in a phase. -/
theorem ManagedSink.callIn_some {callId : Nat} {phase : SendPhase} {call : SendCall}
    (found : sink.callIn callId phase = some call) :
    sink.calls.lookup callId = some call ∧ call.phase = phase := by
  unfold ManagedSink.callIn at found
  rw [Option.filter_eq_some_iff] at found
  exact ⟨found.1, beq_iff_eq.mp found.2⟩

/-- A refused claim changes nothing. -/
theorem claimCandidate_refused {captureId : CaptureId} {bytes : Nat}
    (refused : (resources.claimCandidate captureId bytes).1 = false) :
    (resources.claimCandidate captureId bytes).2 = resources := by
  unfold ProcessResources.claimCandidate at refused ⊢
  split at refused
  · split at refused
    · simp only [*, if_true]
    · cases refused
  · split at refused
    · simp only [*, if_true]
    · cases refused

/-- A step of a caller has an effect. -/
theorem ManagedSink.callerStep_effect {action : SinkAction}
    (stepped : sink.callerStep resources action = some taken) :
    SinkEffect sink resources action taken := by
  cases action with
  | enter caller captureId bytes =>
      simp only [callerStep] at stepped
      split at stepped
      · cases stepped
      · rename_i isOpen
        cases stepped
        exact .entered caller captureId bytes (Bool.not_eq_true _ ▸ isOpen) rfl
  | refuseIncomplete callId =>
      obtain ⟨call, found, rfl⟩ := Option.map_eq_some_iff.mp stepped
      obtain ⟨present, phase⟩ := callIn_some found
      exact .refused callId call .incomplete present (.inl ⟨phase, rfl⟩)
  | claim callId =>
      obtain ⟨call, found, rfl⟩ := Option.map_eq_some_iff.mp stepped
      obtain ⟨present, phase⟩ := callIn_some found
      cases granted : (resources.claimCandidate call.captureId call.bytes).1 with
      | true => simpa [granted] using SinkEffect.claimed callId call present phase granted
      | false =>
          simpa [granted, claimCandidate_refused granted]
            using SinkEffect.unclaimed callId call present phase
  | takeSlot callId =>
      obtain ⟨call, found, rfl⟩ := Option.map_eq_some_iff.mp stepped
      obtain ⟨present, phase⟩ := callIn_some found
      cases room : sink.full call.bytes with
      | true => simpa [room] using SinkEffect.slotRefused callId call present phase
      | false => simpa [room] using SinkEffect.slotTaken callId call present phase room
  | push callId =>
      obtain ⟨call, found, made⟩ := Option.map_eq_some_iff.mp stepped
      obtain ⟨present, phase⟩ := callIn_some found
      split at made
      · cases made
        exact .pushFailed callId call present phase
      · rename_i room
        cases made
        exact .pushed callId call present phase fun exited => room (.inr exited)
  | giveSlotBack callId =>
      obtain ⟨call, found, rfl⟩ := Option.map_eq_some_iff.mp stepped
      obtain ⟨present, phase⟩ := callIn_some found
      exact .gaveSlotBack callId call present phase
  | releaseCall callId =>
      obtain ⟨call, found, rfl⟩ := Option.map_eq_some_iff.mp stepped
      obtain ⟨present, phase⟩ := callIn_some found
      exact .callReleased callId call present phase
  | countQueueFull callId =>
      obtain ⟨call, found, rfl⟩ := Option.map_eq_some_iff.mp stepped
      obtain ⟨present, phase⟩ := callIn_some found
      exact .refused callId call .queueFull present (.inr ⟨phase, rfl⟩)
  | receive | expire | activate | recordResult | release | finish | close | exit => cases stepped

/-- A step of the worker or of the shutdown has an effect. -/
theorem ManagedSink.workerStep_effect {action : SinkAction}
    (stepped : sink.workerStep resources action = some taken) :
    SinkEffect sink resources action taken := by
  cases action with
  | enter | refuseIncomplete | claim | takeSlot | push | giveSlotBack | releaseCall
  | countQueueFull => cases stepped
  | receive =>
      simp only [workerStep] at stepped
      split at stepped
      · rename_i queued channel idle first
        cases stepped
        exact .received queued channel idle first
      · cases stepped
  | expire =>
      simp only [workerStep] at stepped
      split at stepped
      · rename_i queued busy
        cases stepped
        exact .recorded .received queued .deliveryExpired busy (.inl rfl)
      · cases stepped
  | activate =>
      simp only [workerStep] at stepped
      split at stepped
      · rename_i queued busy
        cases stepped
        exact .activated queued busy
      · cases stepped
  | recordResult result =>
      simp only [workerStep] at stepped
      split at stepped
      · rename_i queued busy
        cases stepped
        exact .recorded .active queued (resultVerdict result) busy (.inr rfl)
      · cases stepped
  | release =>
      simp only [workerStep] at stepped
      split at stepped
      · rename_i queued busy
        cases stepped
        exact .released queued busy
      · cases stepped
  | finish =>
      simp only [workerStep] at stepped
      split at stepped
      · rename_i queued busy
        cases stepped
        exact .finished queued busy
      · cases stepped
  | close =>
      simp only [workerStep] at stepped
      split at stepped
      · cases stepped
      · rename_i ready
        cases stepped
        rw [not_or, not_not, Bool.not_eq_true] at ready
        exact .closed ready.1 ready.2
  | exit =>
      simp only [workerStep] at stepped
      split at stepped
      · rename_i ready
        cases stepped
        exact .exited ready.1 ready.2.1 ready.2.2
      · cases stepped

/-- Every step has an effect. -/
theorem ManagedSink.step_effect {action : SinkAction}
    (stepped : sink.step resources action = some taken) : SinkEffect sink resources action taken := by
  unfold ManagedSink.step at stepped
  rcases Option.or_eq_some_iff.mp stepped with caller | ⟨-, worker⟩
  · exact callerStep_effect caller
  · exact workerStep_effect worker

end Effects
end Process
end ReproItSdk
