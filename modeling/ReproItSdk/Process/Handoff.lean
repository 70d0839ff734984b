import ReproItSdk.Process.Ledger

/-! # The handoff of a candidate

A failure asks the ledger after its sink has answered: it succeeds when the ledger still lists the
candidate as retained.  The worker may have delivered and released the candidate by then.  As long
as no release takes a candidate out of the ledger between its claim and the look of its failure, a
failure succeeds exactly when the sink accepted the candidate.

Main results:

- Theorem {lit}`call_before`: every call of a sink was there before, or it has just entered.
- Theorem {lit}`handed_step`: every undisturbed step keeps failure and sink in agreement.
- Theorem {lit}`fail_agrees_with_sink`: in every undisturbed run all failures agree with the sink.
- Theorem {lit}`delivered_failure_reports_an_error`: a worker that finishes before the look makes
  the failure of a delivered candidate report an error.
-/

namespace ReproItSdk
namespace Process

open Sdk

variable {Digest : Type}

/-! ## Calls of a sink -/

/-- Whether a call in a phase has claimed its candidate and may still be accepted. -/
def SendPhase.claims : SendPhase → Bool
  | .claimed | .slotted => true
  | .entered | .returned | .releasing | .refused => false

/-- A sink refused the candidate of a call. -/
def ManagedSink.Refuses (sink : ManagedSink) (callId : Nat) : Prop :=
  sink.verdicts.lookup callId = some .incomplete ∨ sink.verdicts.lookup callId = some .queueFull

section Sinks

variable {sink : ManagedSink} {resources : ProcessResources} {action : SinkAction}
  {taken : SinkStep}

/-- A call in another phase than before the step claimed its candidate in the step, or claims it no
longer. -/
def MovedFrom (old call : SendCall) (resources : ProcessResources) : Prop :=
  old.caller = call.caller ∧ old.captureId = call.captureId ∧
    (call.phase.claims = true → old.phase.claims = true ∨
      candidateState resources call.captureId = some .retained)

/-- The calls of a sink after one call moved. -/
theorem lookup_moveCall {callId other : Nat} {old call : SendCall} {phase : SendPhase}
    {base : ManagedSink} (calls : base.calls = sink.calls)
    (found : sink.calls.lookup callId = some old)
    (present : (base.moveCall callId old phase).calls.lookup other = some call)
    (claims : phase.claims = true → old.phase.claims = true ∨
      candidateState resources old.captureId = some .retained) :
    ∃ before, sink.calls.lookup other = some before ∧ MovedFrom before call resources := by
  rw [ManagedSink.moveCall, calls] at present
  by_cases same : other = callId
  · subst same
    rw [AList.lookup_insert, Option.some.injEq] at present
    subst present
    exact ⟨old, found, rfl, rfl, claims⟩
  · rw [AList.lookup_insert_ne same] at present
    exact ⟨call, present, rfl, rfl, .inl⟩

/-- The calls of a sink after one call ended. -/
theorem lookup_eraseCall {callId other : Nat} {call : SendCall}
    (present : (sink.calls.erase callId).lookup other = some call) :
    ∃ before, sink.calls.lookup other = some before ∧ MovedFrom before call resources := by
  by_cases same : other = callId
  · rw [same, AList.lookup_erase] at present
    cases present
  · rw [AList.lookup_erase_ne same] at present
    exact ⟨call, present, rfl, rfl, .inl⟩

/-- Every call of a sink was there before, or it has just entered. -/
theorem call_before (effect : SinkEffect sink resources action taken) {callId : Nat}
    {call : SendCall} (present : taken.sink.calls.lookup callId = some call) :
    (∃ before, sink.calls.lookup callId = some before ∧
        MovedFrom before call taken.resources) ∨
      (callId = sink.nextCall ∧ call.phase = .entered ∧
        action = .enter call.caller call.captureId call.bytes) := by
  have unmoved : sink.calls.lookup callId = some call →
      ∃ before, sink.calls.lookup callId = some before ∧
        MovedFrom before call taken.resources :=
    fun found => ⟨call, found, rfl, rfl, .inl⟩
  cases effect with
  | entered caller captureId bytes isOpen entering =>
      by_cases same : callId = sink.nextCall
      · subst same
        have inserted := (AList.lookup_insert sink.calls).symm.trans present
        cases inserted
        exact .inr ⟨rfl, rfl, entering⟩
      · exact .inl (unmoved ((AList.lookup_insert_ne same).symm.trans present))
  | refused other old verdict found reason => exact .inl (lookup_eraseCall present)
  | pushed other old found phase running => exact .inl (lookup_eraseCall present)
  | claimed other old found phase granted =>
      refine .inl (lookup_moveCall rfl found present fun _ => .inr ?_)
      exact (candidateState_claimCandidate granted old.captureId).trans (if_pos rfl)
  | slotTaken other old found phase room =>
      exact .inl (lookup_moveCall rfl found present fun _ => .inl (by rw [phase]; rfl))
  | unclaimed other old found phase | slotRefused other old found phase
  | pushFailed other old found phase | gaveSlotBack other old found phase
  | callReleased other old found phase =>
      exact .inl (lookup_moveCall rfl found present fun claims => by cases claims)
  | received | activated | recorded | released | finished | closed | exited =>
      exact .inl (unmoved present)

/-- What the sink says in its answer. -/
structure Answers (sink next : ManagedSink) (answer : SendAnswer) : Prop where
  call : ∃ call, sink.calls.lookup answer.callId = some call ∧ answer.caller = call.caller ∧
    answer.captureId = call.captureId ∧ (answer.accepted = true → call.phase.claims = true)
  ended : next.calls.lookup answer.callId = none
  refused : answer.accepted = false → next.Refuses answer.callId

/-- An answer ends the call that it answers. -/
theorem answers_of_effect (effect : SinkEffect sink resources action taken) {answer : SendAnswer}
    (given : taken.answer = some answer) : Answers sink taken.sink answer := by
  cases effect with
  | refused callId call verdict found reason =>
      cases given
      refine
        { call := ⟨call, found, rfl, rfl, fun accepted => by cases accepted⟩
          ended := AList.lookup_erase _ _
          refused := fun _ => ?_ }
      rcases reason with ⟨-, rfl⟩ | ⟨-, rfl⟩
      · exact .inl (AList.lookup_insert _)
      · exact .inr (AList.lookup_insert _)
  | pushed callId call found phase running =>
      cases given
      exact
        { call := ⟨call, found, rfl, rfl, fun _ => by rw [phase]; rfl⟩
          ended := AList.lookup_erase _ _
          refused := fun refused => by cases refused }
  | entered | claimed | unclaimed | slotTaken | slotRefused | pushFailed | gaveSlotBack
  | callReleased | received | activated | recorded | released | finished | closed | exited =>
      cases given

/-- A verdict stays. -/
theorem verdict_kept (effect : SinkEffect sink resources action taken)
    (conserved : Conserved sink) {callId : Nat} {verdict : Verdict}
    (counted : sink.verdicts.lookup callId = some verdict) :
    taken.sink.verdicts.lookup callId = some verdict := by
  have kept : ∀ other added, sink.verdicts.lookup other = none →
      (sink.verdicts.insert other added).lookup callId = some verdict := by
    intro other added fresh
    have different : callId ≠ other := by
      rintro rfl
      rw [fresh] at counted
      cases counted
    rw [AList.lookup_insert_ne different]
    exact counted
  cases effect with
  | refused other call added found reason => exact kept _ _ (conserved.uncounted_of_call found)
  | recorded phase queued added busy uncounted =>
      refine kept _ _ (conserved.uncounted_of_worker ?_)
      rw [busy]
      rcases uncounted with rfl | rfl <;> rfl
  | entered | claimed | unclaimed | slotTaken | slotRefused | pushed | pushFailed | gaveSlotBack
  | callReleased | received | activated | released | finished | closed | exited => exact counted

end Sinks

/-! ## Agreement -/

/-- A sink of the process refused the candidate of a call. -/
def Refused (sinks : KeyedTable Nat ManagedSink) (sinkId callId : Nat) : Prop :=
  ∃ sink, sinks.lookup sinkId = some sink ∧ sink.Refuses callId

/-- A failure whose reply agrees with the answer of its managed sink. -/
def AnswerAgrees (sinks : KeyedTable Nat ManagedSink) (answer : FailAnswer) : Prop :=
  ∀ sinkId, answer.sink = .managed sinkId →
    (answer.reply = .ok () ↔ answer.accepted = true) ∧
      (answer.accepted = false → ∀ callId, answer.callId = some callId →
        Refused sinks sinkId callId)

/-- A failure in progress that agrees with its managed sink so far. -/
structure PendingAgrees (sinks : KeyedTable Nat ManagedSink) (sdk : Instance Digest) : Prop where
  refused : ∀ captureId callId sinkId, sdk.pending = .sent captureId (some callId) false →
    sdk.sink = .managed sinkId → Refused sinks sinkId callId
  releasing : ∀ captureId answer, sdk.pending = .releasing captureId answer →
    AnswerAgrees sinks answer

/-- A managed sink has claimed a candidate for a failure that has not looked yet, and it has not
refused it. -/
inductive Awaited (sdks : KeyedTable Nat (Instance Digest)) (sinks : KeyedTable Nat ManagedSink)
    (captureId : CaptureId) : Prop
  | claimed (sinkId : Nat) (sink : ManagedSink) (callId : Nat) (call : SendCall)
      (found : sinks.lookup sinkId = some sink) (present : sink.calls.lookup callId = some call)
      (caller : call.caller ≠ none) (claims : call.phase.claims = true)
      (same : call.captureId = captureId)
  | accepted (sdkId : Nat) (sdk : Instance Digest) (sinkId : Nat) (callId : Option Nat)
      (found : sdks.lookup sdkId = some sdk) (managed : sdk.sink = .managed sinkId)
      (pending : sdk.pending = .sent captureId callId true)

/-- Failures and managed sinks agree. -/
structure Handed (process : Process Digest) : Prop where
  sinks : KeyedTable.All (fun _ sink => Conserved sink) process.sinks
  callers : ∀ sinkId sink callId call sdkId, process.sinks.lookup sinkId = some sink →
    sink.calls.lookup callId = some call → call.caller = some sdkId →
    ∃ sdk, process.sdks.lookup sdkId = some sdk ∧ sdk.sink = .managed sinkId ∧
      sdk.pending = .waiting call.captureId callId
  retained : ∀ captureId, Awaited process.sdks process.sinks captureId →
    candidateState process.resources captureId = some .retained
  pendings : KeyedTable.All (fun _ sdk => PendingAgrees process.sinks sdk) process.sdks
  answers : ∀ answer ∈ process.answers, AnswerAgrees process.sinks answer

/-- A step that releases no candidate which a failure still has to look at. -/
def Undisturbed (process next : Process Digest) : Prop :=
  ∀ captureId, Awaited process.sdks process.sinks captureId →
    candidateState process.resources captureId = some .retained →
    candidateState next.resources captureId = some .retained

section Agreement

variable {sinks moved : KeyedTable Nat ManagedSink} {sdk : Instance Digest}
  {resources : ProcessResources} {taken : SdkStep Digest}

/-- An answer goes on agreeing when refusals stay. -/
theorem AnswerAgrees.mono {answer : FailAnswer} (agrees : AnswerAgrees sinks answer)
    (stays : ∀ sinkId callId, Refused sinks sinkId callId → Refused moved sinkId callId) :
    AnswerAgrees moved answer := by
  intro sinkId managed
  obtain ⟨reply, refused⟩ := agrees sinkId managed
  exact ⟨reply, fun unaccepted callId same => stays _ _ (refused unaccepted callId same)⟩

/-- A failure in progress goes on agreeing when refusals stay. -/
theorem PendingAgrees.mono (agrees : PendingAgrees sinks sdk)
    (stays : ∀ sinkId callId, Refused sinks sinkId callId → Refused moved sinkId callId) :
    PendingAgrees moved sdk where
  refused captureId callId sinkId pending managed :=
    stays _ _ (agrees.refused captureId callId sinkId pending managed)
  releasing captureId answer pending := (agrees.releasing captureId answer pending).mono stays

/-- A failure that hands nothing over agrees. -/
theorem pendingAgrees_of_handing (handing : sdk.pending.handing = none) :
    PendingAgrees sinks sdk where
  refused captureId callId sinkId pending _ := by
    rw [pending] at handing
    cases handing
  releasing captureId answer pending := by
    rw [pending] at handing
    cases handing

/-- A failure that never reached its sink agrees. -/
theorem answerAgrees_of_unsent {answer : FailAnswer} (unsent : answer.unsent) :
    AnswerAgrees sinks answer := by
  obtain ⟨uncalled, unaccepted, error, reply⟩ := unsent
  intro sinkId managed
  refine ⟨by rw [reply, unaccepted]; simp, fun _ callId same => ?_⟩
  rw [uncalled] at same
  cases same

/-- A failure that looks before its candidate is released agrees. -/
theorem answerAgrees_of_look {captureId : CaptureId} {callId : Option Nat} {accepted : Bool}
    (pending : sdk.pending = .sent captureId callId accepted) (agrees : PendingAgrees sinks sdk)
    (retained : ∀ sinkId, sdk.sink = .managed sinkId → accepted = true →
      candidateState resources captureId = some .retained) :
    AnswerAgrees sinks (sdk.answer callId accepted
      (lookAfterSend resources sdk.sink.retainsQueuedCandidates accepted captureId).2) := by
  intro sinkId managed
  change sdk.sink = .managed sinkId at managed
  cases accepted with
  | true =>
      have listed := candidateIsRetained_iff.mpr (retained sinkId managed rfl)
      refine ⟨?_, fun refused => by cases refused⟩
      simp [Instance.answer, lookAfterSend, listed]
  | false =>
      refine ⟨by simp [Instance.answer, lookAfterSend], fun _ called same => ?_⟩
      change callId = some called at same
      rw [same] at pending
      exact agrees.refused captureId called sinkId pending managed

/-- An SDK that takes a step does not wait for its sink. -/
theorem SdkEffect.not_waiting (effect : SdkEffect sdk resources taken) (captureId : CaptureId)
    (callId : Nat) : sdk.pending ≠ .waiting captureId callId := by
  intro waiting
  cases effect with
  | operated pending state reached answer effect before after unsent =>
      rw [waiting] at before
      cases before
  | handedOff other operationId bytes pending | answeredPlain other operationId bytes _ _ pending
  | lookedRetained other called accepted pending | lookedUnretained other called accepted pending
  | released other answer pending | dropped pending =>
      rw [waiting] at pending
      cases pending

/-- A step of an SDK keeps it in agreement, and has no accepted candidate of a managed sink. -/
theorem sdk_agrees (effect : SdkEffect sdk resources taken) (agrees : PendingAgrees sinks sdk)
    (retained : ∀ sinkId captureId callId, sdk.sink = .managed sinkId →
      sdk.pending = .sent captureId callId true →
      candidateState resources captureId = some .retained) :
    (∀ next ∈ taken.sdk, PendingAgrees sinks next ∧ ∀ sinkId captureId callId,
        next.sink = .managed sinkId → next.pending ≠ .sent captureId callId true) ∧
      ∀ answer ∈ taken.answer, AnswerAgrees sinks answer := by
  cases effect with
  | operated pending state reached answer effect before after unsent =>
      refine ⟨fun next member => ?_, fun given member => answerAgrees_of_unsent (unsent given member)⟩
      cases member
      refine ⟨pendingAgrees_of_handing after, fun sinkId captureId callId _ sent => ?_⟩
      rw [show pending = .sent captureId callId true from sent] at after
      cases after
  | handedOff captureId operationId bytes pending granted =>
      refine ⟨fun next member => ?_, fun given member => (by cases member)⟩
      cases member
      exact ⟨⟨fun _ _ _ sent => (by cases sent), fun _ _ releasing => (by cases releasing)⟩,
        fun _ _ _ _ sent => (by cases sent)⟩
  | answeredPlain captureId operationId bytes retains accepted pending sink =>
      refine ⟨fun next member => ?_, fun given member => (by cases member)⟩
      cases member
      refine ⟨⟨fun _ _ _ sent => (by cases sent), fun _ _ releasing => (by cases releasing)⟩,
        fun sinkId _ _ managed => ?_⟩
      cases sink.symm.trans managed
  | lookedRetained captureId callId accepted pending kept =>
      have agreed := answerAgrees_of_look pending agrees fun sinkId managed was =>
        retained sinkId captureId callId managed (was ▸ pending)
      refine ⟨fun next member => ?_, fun given member => ?_⟩
      · cases member
        exact ⟨pendingAgrees_of_handing rfl, fun _ _ _ _ sent => (by cases sent)⟩
      · cases member
        exact agreed
  | lookedUnretained captureId callId accepted pending =>
      have agreed := answerAgrees_of_look pending agrees fun sinkId managed was =>
        retained sinkId captureId callId managed (was ▸ pending)
      refine ⟨fun next member => ?_, fun given member => (by cases member)⟩
      cases member
      refine ⟨⟨fun _ _ _ sent => (by cases sent), fun other answer releasing => ?_⟩,
        fun _ _ _ _ sent => (by cases sent)⟩
      cases releasing
      exact agreed
  | released captureId answer pending =>
      refine ⟨fun next member => ?_, fun given member => ?_⟩
      · cases member
        exact ⟨pendingAgrees_of_handing rfl, fun _ _ _ _ sent => (by cases sent)⟩
      · cases member
        exact agrees.releasing captureId answer pending
  | dropped pending empty =>
      exact ⟨fun next member => (by cases member), fun given member => (by cases member)⟩

end Agreement

/-! ## Steps of the process -/

section Steps

variable {process next : Process Digest} {encoding : Encoding}

/-- Failures and sinks agree in a new process. -/
theorem handed_new : Handed (new : Process Digest) where
  sinks := KeyedTable.all_empty
  callers _ _ _ _ _ found := by simp [new] at found
  retained _ awaited := by
    cases awaited with
    | claimed _ _ _ _ found => simp [new] at found
    | accepted _ _ _ _ found => simp [new] at found
  pendings := KeyedTable.all_empty
  answers _ member := by cases member

/-- An awaited capture is retained after an undisturbed step. -/
theorem Handed.retained_after (handed : Handed process) (undisturbed : Undisturbed process next)
    {captureId : CaptureId} (awaited : Awaited process.sdks process.sinks captureId) :
    candidateState next.resources captureId = some .retained :=
  undisturbed captureId awaited (handed.retained captureId awaited)

/-- An SDK in whose name no call is in progress can change. -/
theorem Handed.setSdk (handed : Handed process) {sdkId : Nat} {sdk : Instance Digest}
    {resources : ProcessResources} {answers : List FailAnswer}
    (uncalled : ∀ sinkId sink callId call, process.sinks.lookup sinkId = some sink →
      sink.calls.lookup callId = some call → call.caller ≠ some sdkId)
    (agrees : PendingAgrees process.sinks sdk)
    (accepted : ∀ sinkId captureId callId, sdk.sink = .managed sinkId →
      sdk.pending = .sent captureId callId true →
      candidateState resources captureId = some .retained)
    (kept : ∀ captureId, Awaited process.sdks process.sinks captureId →
      candidateState resources captureId = some .retained)
    (answered : ∀ answer ∈ answers, AnswerAgrees process.sinks answer) :
    Handed
      { process with
        sdks := process.sdks.insert sdkId sdk
        resources := resources
        answers := answers } where
  sinks := handed.sinks
  callers sinkId sink callId call otherId found present caller := by
    obtain ⟨other, lookup, waits⟩ :=
      handed.callers sinkId sink callId call otherId found present caller
    have different : otherId ≠ sdkId := by
      rintro rfl
      exact uncalled sinkId sink callId call found present caller
    exact ⟨other, (AList.lookup_insert_ne different).trans lookup, waits⟩
  retained captureId awaited := by
    cases awaited with
    | claimed sinkId sink callId call found present caller claims same =>
        exact kept captureId (.claimed sinkId sink callId call found present caller claims same)
    | accepted otherId other sinkId callId found managed pending =>
        by_cases mine : otherId = sdkId
        · subst mine
          rw [AList.lookup_insert, Option.some.injEq] at found
          subst found
          exact accepted sinkId captureId callId managed pending
        · rw [AList.lookup_insert_ne mine] at found
          exact kept captureId (.accepted otherId other sinkId callId found managed pending)
  pendings := handed.pendings.insert agrees
  answers := answered

/-- An SDK in whose name no call is in progress can go. -/
theorem Handed.eraseSdk (handed : Handed process) {sdkId : Nat} {resources : ProcessResources}
    {answers : List FailAnswer}
    (uncalled : ∀ sinkId sink callId call, process.sinks.lookup sinkId = some sink →
      sink.calls.lookup callId = some call → call.caller ≠ some sdkId)
    (kept : ∀ captureId, Awaited process.sdks process.sinks captureId →
      candidateState resources captureId = some .retained)
    (answered : ∀ answer ∈ answers, AnswerAgrees process.sinks answer) :
    Handed
      { process with
        sdks := process.sdks.erase sdkId
        resources := resources
        answers := answers } where
  sinks := handed.sinks
  callers sinkId sink callId call otherId found present caller := by
    obtain ⟨other, lookup, waits⟩ :=
      handed.callers sinkId sink callId call otherId found present caller
    have different : otherId ≠ sdkId := by
      rintro rfl
      exact uncalled sinkId sink callId call found present caller
    exact ⟨other, (AList.lookup_erase_ne different).trans lookup, waits⟩
  retained captureId awaited := by
    cases awaited with
    | claimed sinkId sink callId call found present caller claims same =>
        exact kept captureId (.claimed sinkId sink callId call found present caller claims same)
    | accepted otherId other sinkId callId found managed pending =>
        by_cases mine : otherId = sdkId
        · subst mine
          rw [AList.lookup_erase] at found
          cases found
        · rw [AList.lookup_erase_ne mine] at found
          exact kept captureId (.accepted otherId other sinkId callId found managed pending)
  pendings := handed.pendings.erase sdkId
  answers := answered

/-- An SDK that does not wait for its sink has no call in progress. -/
theorem Handed.uncalled (handed : Handed process) {sdkId : Nat} {sdk : Instance Digest}
    (found : process.sdks.lookup sdkId = some sdk)
    (idle : ∀ captureId callId, sdk.pending ≠ .waiting captureId callId) :
    ∀ sinkId sink callId call, process.sinks.lookup sinkId = some sink →
      sink.calls.lookup callId = some call → call.caller ≠ some sdkId := by
  intro sinkId sink callId call present entered caller
  obtain ⟨other, lookup, -, waits⟩ :=
    handed.callers sinkId sink callId call sdkId present entered caller
  rw [found, Option.some.injEq] at lookup
  subst lookup
  exact idle call.captureId callId waits

/-- An undisturbed step of an SDK keeps failure and sink in agreement. -/
theorem Handed.sdk (handed : Handed process) {sdkId : Nat} {sdk : Instance Digest}
    {taken : SdkStep Digest} (found : process.sdks.lookup sdkId = some sdk)
    (effect : SdkEffect sdk process.resources taken)
    (undisturbed : Undisturbed process
      { process.setSdk sdkId taken.sdk with
        resources := taken.resources
        answers := taken.answer.toList ++ process.answers }) :
    Handed
      { process.setSdk sdkId taken.sdk with
        resources := taken.resources
        answers := taken.answer.toList ++ process.answers } := by
  have uncalled := handed.uncalled found effect.not_waiting
  have kept : ∀ captureId, Awaited process.sdks process.sinks captureId →
      candidateState taken.resources captureId = some .retained := by
    intro captureId awaited
    have after := handed.retained_after undisturbed awaited
    cases moved : taken.sdk <;> (rw [moved] at after; exact after)
  obtain ⟨agrees, answered⟩ := sdk_agrees effect (handed.pendings sdkId sdk found)
    fun sinkId captureId callId managed pending =>
      handed.retained captureId (.accepted sdkId sdk sinkId callId found managed pending)
  have answers : ∀ answer ∈ taken.answer.toList ++ process.answers,
      AnswerAgrees process.sinks answer := by
    intro answer member
    rcases List.mem_append.mp member with given | earlier
    · exact answered answer (Option.mem_toList.mp given)
    · exact handed.answers answer earlier
  cases moved : taken.sdk with
  | some sdk' =>
      obtain ⟨agreed, unaccepted⟩ := agrees sdk' moved
      exact handed.setSdk uncalled agreed
        (fun sinkId captureId callId managed pending =>
          absurd pending (unaccepted sinkId captureId callId managed)) kept answers
  | none => exact handed.eraseSdk uncalled kept answers

/-- Refusals stay when a sink takes a step. -/
theorem Handed.refused_stays (handed : Handed process) {sinkId : Nat} {sink : ManagedSink}
    {resources : ProcessResources} {action : SinkAction} {taken : SinkStep}
    (found : process.sinks.lookup sinkId = some sink)
    (effect : SinkEffect sink resources action taken) (otherId callId : Nat)
    (refused : Refused process.sinks otherId callId) :
    Refused (process.sinks.insert sinkId taken.sink) otherId callId := by
  obtain ⟨other, lookup, refuses⟩ := refused
  by_cases same : otherId = sinkId
  · subst same
    rw [found, Option.some.injEq] at lookup
    subst lookup
    have conserved := handed.sinks otherId sink found
    refine ⟨taken.sink, AList.lookup_insert _, ?_⟩
    exact refuses.imp (verdict_kept effect conserved) (verdict_kept effect conserved)
  · exact ⟨other, (AList.lookup_insert_ne same).trans lookup, refuses⟩

/-- An undisturbed step of a managed sink keeps failure and sink in agreement. -/
theorem Handed.sink (handed : Handed process) {sinkId : Nat} {sink : ManagedSink}
    {action : SinkAction} {taken : SinkStep} (found : process.sinks.lookup sinkId = some sink)
    (effect : SinkEffect sink process.resources action taken)
    (kept : ∀ captureId, Awaited process.sdks process.sinks captureId →
      candidateState taken.resources captureId = some .retained)
    (entering : ∀ sdkId captureId bytes, action = .enter (some sdkId) captureId bytes →
      ∃ sdk, process.sdks.lookup sdkId = some sdk ∧ sdk.sink = .managed sinkId ∧
        sdk.pending = .waiting captureId sink.nextCall) :
    Handed
      { process with
        sinks := process.sinks.insert sinkId taken.sink
        resources := taken.resources } := by
  have stays := handed.refused_stays found effect
  refine
    { sinks := handed.sinks.insert (conserved_effect effect (handed.sinks sinkId sink found))
      callers := ?_
      retained := ?_
      pendings := fun sdkId sdk lookup => (handed.pendings sdkId sdk lookup).mono stays
      answers := fun answer member => (handed.answers answer member).mono stays }
  · intro otherId other callId call sdkId lookup present caller
    by_cases same : otherId = sinkId
    · subst same
      rw [AList.lookup_insert, Option.some.injEq] at lookup
      subst lookup
      rcases call_before effect present with ⟨before, earlier, sameCaller, sameCapture, -⟩ |
        ⟨rfl, -, entered⟩
      · rw [← sameCapture]
        exact handed.callers otherId sink callId before sdkId found earlier
          (sameCaller.trans caller)
      · exact entering sdkId call.captureId call.bytes (caller ▸ entered)
    · rw [AList.lookup_insert_ne same] at lookup
      exact handed.callers otherId other callId call sdkId lookup present caller
  · intro captureId awaited
    cases awaited with
    | accepted sdkId sdk otherId callId lookup managed pending =>
        exact kept captureId (.accepted sdkId sdk otherId callId lookup managed pending)
    | claimed otherId other callId call lookup present caller claims sameCapture =>
        by_cases same : otherId = sinkId
        · subst same
          rw [AList.lookup_insert, Option.some.injEq] at lookup
          subst lookup
          rcases call_before effect present with ⟨before, earlier, beforeCaller, beforeCapture,
            claimed⟩ | ⟨-, entered, -⟩
          · rcases claimed claims with earlierClaims | listed
            · exact kept captureId (.claimed otherId sink callId before found earlier
                (beforeCaller.symm ▸ caller) earlierClaims (beforeCapture.trans sameCapture))
            · exact sameCapture ▸ listed
          · rw [entered] at claims
            cases claims
        · rw [AList.lookup_insert_ne same] at lookup
          exact kept captureId
            (.claimed otherId other callId call lookup present caller claims sameCapture)

/-- A step of a managed sink with its answer keeps failure and sink in agreement. -/
theorem Handed.sinkAnswered (handed : Handed process) {sinkId : Nat} {sink : ManagedSink}
    {action : SinkAction} {taken : SinkStep} (found : process.sinks.lookup sinkId = some sink)
    (effect : SinkEffect sink process.resources action taken)
    (kept : ∀ captureId, Awaited process.sdks process.sinks captureId →
      candidateState taken.resources captureId = some .retained)
    (outside : ∀ sdkId captureId bytes, action ≠ .enter (some sdkId) captureId bytes) :
    Handed
      (({ process with
        sinks := process.sinks.insert sinkId taken.sink
        resources := taken.resources } : Process Digest).deliverAny (.managed sinkId)
          taken.answer) := by
  have stepped := handed.sink found effect kept
    fun sdkId captureId bytes entered => absurd entered (outside sdkId captureId bytes)
  rcases deliverAny_cases _ (.managed sinkId) taken.answer with same | ⟨sdkId, sdk, captureId, given,
    answered, caller, lookup, managed, pending, set⟩
  · rw [same]
    exact stepped
  rw [set]
  obtain ⟨⟨call, present, sameCaller, -, claims⟩, ended, refused⟩ :=
    answers_of_effect effect answered
  refine stepped.setSdk ?_ ?_ ?_ stepped.retained stepped.answers
  -- The call that ended was the only one in the name of this SDK.
  · intro otherId other callId call lookupOther presentOther callerOther
    obtain ⟨waiting, lookupSdk, otherManaged, waits⟩ :=
      stepped.callers otherId other callId call sdkId lookupOther presentOther callerOther
    rw [lookup, Option.some.injEq] at lookupSdk
    subst lookupSdk
    rw [managed, SinkRef.managed.injEq] at otherManaged
    subst otherManaged
    rw [pending, Pending.waiting.injEq] at waits
    rw [AList.lookup_insert, Option.some.injEq] at lookupOther
    subst lookupOther
    rw [← waits.2, ended] at presentOther
    cases presentOther
  · refine ⟨fun other callId otherId sent managedOther => ?_, fun _ _ releasing => by
      cases releasing⟩
    simp only [Pending.sent.injEq, Option.some.injEq] at sent
    rw [managed, SinkRef.managed.injEq] at managedOther
    subst managedOther
    exact ⟨taken.sink, AList.lookup_insert _, sent.2.1 ▸ refused sent.2.2⟩
  · intro otherId other callId managedOther sent
    simp only [Pending.sent.injEq] at sent
    obtain ⟨sdkBefore, lookupBefore, -, waits⟩ :=
      handed.callers sinkId sink given.callId call sdkId found present (sameCaller ▸ caller)
    have same : process.sdks.lookup sdkId = some sdk := lookup
    rw [same, Option.some.injEq] at lookupBefore
    subst lookupBefore
    rw [pending, Pending.waiting.injEq] at waits
    refine kept other (.claimed sinkId sink given.callId call found present ?_ (claims sent.2.2)
      (waits.1.symm.trans sent.1))
    rw [← sameCaller, caller]
    exact Option.some_ne_none sdkId

/-- A step of the other parts of the process keeps failure and sink in agreement. -/
theorem Handed.elsewhere (handed : Handed process) (sdks : next.sdks = process.sdks)
    (sinks : next.sinks = process.sinks) (answers : next.answers = process.answers)
    (undisturbed : Undisturbed process next) : Handed next where
  sinks := sinks ▸ handed.sinks
  callers := by
    rw [sinks, sdks]
    exact handed.callers
  retained captureId awaited :=
    handed.retained_after undisturbed (by rw [sdks, sinks] at awaited; exact awaited)
  pendings := by
    rw [sinks, sdks]
    exact handed.pendings
  answers := by
    rw [sinks, answers]
    exact handed.answers

/-- An answer of a recorder keeps failure and managed sink in agreement. -/
theorem Handed.recorderAnswered (handed : Handed process) (recorderId : Nat)
    (answer : Option SendAnswer) : Handed (process.deliverAny (.recorder recorderId) answer) := by
  rcases deliverAny_cases process (.recorder recorderId) answer with same | ⟨sdkId, sdk, captureId,
    given, -, -, found, recorded, pending, set⟩
  · rw [same]
    exact handed
  rw [set]
  refine handed.setSdk ?_ ?_ ?_ handed.retained handed.answers
  · intro sinkId sink callId call lookup present caller
    obtain ⟨waiting, lookupSdk, managed, -⟩ :=
      handed.callers sinkId sink callId call sdkId lookup present caller
    rw [found, Option.some.injEq] at lookupSdk
    subst lookupSdk
    rw [recorded] at managed
    cases managed
  · refine ⟨fun _ _ sinkId _ managed => ?_, fun _ _ releasing => by cases releasing⟩
    rw [recorded] at managed
    cases managed
  · intro sinkId _ _ managed
    rw [recorded] at managed
    cases managed

/-- An SDK that enters its sink keeps failure and sink in agreement. -/
theorem Handed.send (handed : Handed process) {sdkId : Nat}
    (stepped : process.sendStep sdkId = some next) : Handed next := by
  obtain ⟨sdk, captureId, operationId, bytes, found, pending, sent⟩ := sendStep_cases stepped
  have idle : ∀ other callId, sdk.pending ≠ .waiting other callId := by
    intro other callId waiting
    rw [pending] at waiting
    cases waiting
  have waits : ∀ callId, Handed (process.setSdk sdkId
      (some { sdk with pending := .waiting captureId callId })) := by
    intro callId
    refine handed.setSdk (handed.uncalled found idle)
      ⟨fun _ _ _ sent => (by cases sent), fun _ _ releasing => (by cases releasing)⟩
      (fun _ _ _ _ sent => (by cases sent)) handed.retained handed.answers
  rcases sent with ⟨sinkId, sink, managed, present, isOpen, rfl⟩ |
    ⟨recorderId, recorder, -, present, rfl⟩
  · have waiting := waits sink.nextCall
    refine waiting.sink present (.entered (some sdkId) captureId bytes isOpen rfl)
      waiting.retained fun otherId other _ entered => ?_
    cases entered
    exact ⟨_, AList.lookup_insert _, managed, rfl⟩
  · exact (waits recorder.nextCall).elsewhere rfl rfl rfl fun captureId _ listed => listed

/-- A delivery after a step of the ledger looks at the same ledger. -/
theorem deliverAny_resources (process : Process Digest) (sink : SinkRef)
    (answer : Option SendAnswer) :
    (process.deliverAny sink answer).resources = process.resources := by
  rcases deliverAny_cases process sink answer with same | ⟨_, _, _, _, -, -, -, -, -, set⟩
  · rw [same]
  · rw [set]
    rfl

/-- Every undisturbed step keeps failure and sink in agreement. -/
theorem handed_step {action : Action Digest} (handed : Handed process)
    (stepped : process.step encoding action = some next)
    (undisturbed : Undisturbed process next) : Handed next := by
  cases action with
  | newSdk sdkId sink =>
      simp only [step] at stepped
      split at stepped
      · rename_i fresh
        cases stepped
        refine handed.setSdk ?_ (pendingAgrees_of_handing rfl) (fun _ _ _ _ sent => (by cases sent))
          handed.retained handed.answers
        intro sinkId sink callId call found present caller
        obtain ⟨sdk, lookup, -⟩ := handed.callers sinkId sink callId call sdkId found present caller
        rw [Option.isNone_iff_eq_none.mp fresh.1] at lookup
        cases lookup
      · cases stepped
  | sdk sdkId action =>
      obtain ⟨sdk, found, made⟩ := Option.bind_eq_some_iff.mp stepped
      obtain ⟨taken, acted, rfl⟩ := Option.map_eq_some_iff.mp made
      exact handed.sdk found (Instance.step_effect acted) undisturbed
  | send sdkId => exact handed.send stepped
  | newSink sinkId =>
      simp only [step] at stepped
      split at stepped
      · rename_i fresh
        cases stepped
        have absent := Option.isNone_iff_eq_none.mp fresh
        -- A new sink has no calls and no verdicts.
        have old : ∀ otherId other, (process.sinks.insert sinkId ManagedSink.new).lookup otherId =
            some other → ∀ callId call, other.calls.lookup callId = some call →
            process.sinks.lookup otherId = some other := by
          intro otherId other lookup callId call present
          by_cases same : otherId = sinkId
          · subst same
            rw [AList.lookup_insert, Option.some.injEq] at lookup
            subst lookup
            simp [ManagedSink.new] at present
          · rwa [AList.lookup_insert_ne same] at lookup
        have stays : ∀ otherId callId, Refused process.sinks otherId callId →
            Refused (process.sinks.insert sinkId ManagedSink.new) otherId callId := by
          rintro otherId callId ⟨other, lookup, refuses⟩
          have different : otherId ≠ sinkId := by
            rintro rfl
            rw [absent] at lookup
            cases lookup
          exact ⟨other, (AList.lookup_insert_ne different).trans lookup, refuses⟩
        refine
          { sinks := handed.sinks.insert conserved_new
            callers := fun otherId other callId call otherSdk lookup present =>
              handed.callers otherId other callId call otherSdk
                (old otherId other lookup callId call present) present
            retained := fun captureId awaited => handed.retained captureId ?_
            pendings := fun sdkId sdk lookup => (handed.pendings sdkId sdk lookup).mono stays
            answers := fun answer member => (handed.answers answer member).mono stays }
        cases awaited with
        | claimed otherId other callId call lookup present caller claims same =>
            exact .claimed otherId other callId call (old otherId other lookup callId call present)
              present caller claims same
        | accepted sdkId sdk otherId callId lookup managed pending =>
            exact .accepted sdkId sdk otherId callId lookup managed pending
      · cases stepped
  | sink sinkId action =>
      simp only [step] at stepped
      split at stepped
      · rename_i allowed
        obtain ⟨sink, found, made⟩ := Option.bind_eq_some_iff.mp stepped
        obtain ⟨taken, acted, rfl⟩ := Option.map_eq_some_iff.mp made
        refine handed.sinkAnswered found (ManagedSink.step_effect acted)
          (fun captureId awaited => ?_) fun sdkId captureId bytes entered => ?_
        · have after := handed.retained_after undisturbed awaited
          rw [deliverAny_resources] at after
          exact after
        · subst entered
          cases allowed
      · cases stepped
  | newRecorder recorderId operationId =>
      simp only [step] at stepped
      split at stepped
      · cases stepped
        exact handed.elsewhere rfl rfl rfl undisturbed
      · cases stepped
  | recorder recorderId action =>
      simp only [step] at stepped
      split at stepped
      · obtain ⟨recorder, found, made⟩ := Option.bind_eq_some_iff.mp stepped
        obtain ⟨taken, acted, rfl⟩ := Option.map_eq_some_iff.mp made
        refine Handed.recorderAnswered (handed.elsewhere ?_ ?_ ?_ fun captureId awaited listed => ?_)
          recorderId taken.answer
        · cases taken.recorder <;> rfl
        · cases taken.recorder <;> rfl
        · cases taken.recorder <;> rfl
        · have after := undisturbed captureId awaited listed
          rw [deliverAny_resources] at after
          exact after
      · cases stepped
  | newReservation reservationId =>
      simp only [step] at stepped
      split at stepped
      · cases stepped
        exact handed.elsewhere rfl rfl rfl undisturbed
      · cases stepped
  | reserve reservationId bytes =>
      obtain ⟨reservedBytes, found, rfl⟩ := Option.map_eq_some_iff.mp stepped
      exact handed.elsewhere rfl rfl rfl undisturbed
  | releaseBytes reservationId bytes =>
      obtain ⟨reservedBytes, found, rfl⟩ := Option.map_eq_some_iff.mp stepped
      exact handed.elsewhere rfl rfl rfl undisturbed
  | dropReservation reservationId =>
      obtain ⟨reservedBytes, found, rfl⟩ := Option.map_eq_some_iff.mp stepped
      exact handed.elsewhere rfl rfl rfl undisturbed

/-- Every run of undisturbed steps keeps failure and sink in agreement. -/
theorem handed_after (encoding : Encoding) (actions : List (Action Digest))
    (undisturbed : ∀ turn ∈ Runs.answered (interleave encoding) (new : Process Digest) actions,
      Undisturbed turn.before turn.after) : Handed (after encoding actions) := by
  refine Runs.final_preserves Handed ?_ actions handed_new undisturbed
  intro process action handed undisturbed
  unfold Runs.answer interleave at undisturbed
  unfold interleave
  cases stepped : process.step encoding action with
  | none => exact handed
  | some next =>
      rw [stepped] at undisturbed
      exact handed_step handed stepped undisturbed

end Steps

/-! ## Failures and deliveries -/

/-- Whether a place lies on the way of a delivery. -/
def Place.delivery : Place → Bool
  | .queued | .delivering | .counted .durablyAccepted | .counted .deliveryExpired
  | .counted .rejected => true
  | .calling | .counted .incomplete | .counted .queueFull => false

/-- The worker of a sink delivers the candidate of a call, or it tried to. -/
def ManagedSink.Delivers (sink : ManagedSink) (callId : Nat) : Prop :=
  ∃ place ∈ sink.places callId, place.delivery = true

/-- A failure that succeeds exactly when the sink accepted its candidate, and whose candidate is
not delivered when it reports an error. -/
structure FailAgrees (process : Process Digest) (sinkId : Nat) (answer : FailAnswer) : Prop where
  reply : answer.reply = .ok () ↔ answer.accepted = true
  undelivered : answer.reply ≠ .ok () → ∀ callId ∈ answer.callId, ∀ sink ∈
    process.sinks.lookup sinkId, ¬ sink.Delivers callId

/-- A refused candidate is not delivered. -/
theorem Conserved.not_delivers {sink : ManagedSink} (conserved : Conserved sink) {callId : Nat}
    (refused : sink.Refuses callId) : ¬ sink.Delivers callId := by
  have counted : ∀ verdict, sink.verdicts.lookup callId = some verdict →
      sink.places callId = [.counted verdict] := by
    intro verdict found
    have placed := conserved.placed callId
    have member : Place.counted verdict ∈ sink.places callId := by
      simp [ManagedSink.places, found]
    have one : (sink.places callId).length = 1 := by
      have some := List.length_pos_of_mem member
      split at placed <;> omega
    obtain ⟨place, only⟩ := List.length_eq_one_iff.mp one
    rw [only, List.mem_singleton] at member
    rw [only, member]
  rintro ⟨place, member, delivery⟩
  rcases refused with found | found <;>
    · rw [counted _ found, List.mem_singleton] at member
      subst member
      cases delivery

/-- In every run in which no step releases a candidate between its claim and the look of its
failure, a failure succeeds exactly when the sink accepted the candidate, and no candidate of a
failure that reports an error is delivered. -/
theorem fail_agrees_with_sink (encoding : Encoding) (actions : List (Action Digest))
    (undisturbed : ∀ turn ∈ Runs.answered (interleave encoding) (new : Process Digest) actions,
      Undisturbed turn.before turn.after) (sinkId : Nat) :
    ∀ answer ∈ (after encoding actions).answers, answer.sink = .managed sinkId →
      FailAgrees (after encoding actions) sinkId answer := by
  have handed := handed_after encoding actions undisturbed
  intro answer member managed
  obtain ⟨reply, refused⟩ := handed.answers answer member sinkId managed
  refine ⟨reply, fun failed callId called sink found => ?_⟩
  have unaccepted : answer.accepted = false := by
    rw [← Bool.not_eq_true]
    exact fun accepted => failed (reply.mpr accepted)
  obtain ⟨other, lookup, refuses⟩ := refused unaccepted callId called
  cases lookup.symm.trans found
  exact (handed.sinks sinkId sink found).not_delivers refuses

/-! ## Concrete runs -/

/-- A step that keeps the retained entries of the ledger disturbs no failure. -/
theorem undisturbed_of_kept {process next : Process Digest}
    (kept : ∀ entry ∈ process.resources.candidates.entries, entry.2.state = .retained →
      candidateState next.resources entry.1 = some .retained) : Undisturbed process next := by
  intro captureId _ listed
  rw [candidateState, Option.map_eq_some_iff] at listed
  obtain ⟨entry, present, retained⟩ := listed
  exact kept ⟨captureId, entry⟩ (AList.mem_lookup_iff.mp present) retained

/-- A failure up to the moment where the sink has accepted its candidate. -/
def acceptedSteps : List (Action Unit) :=
  [.newSink 0, .newSdk 0 (.managed 0),
    .sdk 0 (.begin
      { captureId := { value := 1 }, operationId := { value := 1 }, worldId := () } (.ok [1])
        true true),
    .sdk 0 (.take { value := 1 } { kind := .failure, payload := plainText [3], sequence := 1 }
      plainFailIo),
    .sdk 0 .handOff, .send 0, .sink 0 (.claim 0), .sink 0 (.takeSlot 0), .sink 0 (.push 0)]

/-- The theorem applies to a failure that looks before the worker takes its candidate. -/
theorem fail_agrees_with_sink_early :
    FailAgrees (after plainEncoding (acceptedSteps ++ [.sdk 0 .look])) 0
      { sink := .managed 0, callId := some 0, accepted := true, reply := .ok () } := by
  refine fail_agrees_with_sink plainEncoding (acceptedSteps ++ [.sdk 0 .look])
    (fun turn member => undisturbed_of_kept ?_) 0
    { sink := .managed 0, callId := some 0, accepted := true, reply := .ok () } (by decide) rfl
  revert turn
  decide

/-- The worker of a sink that receives a candidate, delivers it and releases it. -/
def deliveredSteps : List (Action Unit) :=
  [.sink 0 .receive, .sink 0 .activate, .sink 0 (.recordResult (.ok ())), .sink 0 .release]

/-- A failure whose candidate is delivered before it looks reports an error. -/
theorem delivered_failure_reports_an_error :
    let process := after plainEncoding
      (acceptedSteps ++ deliveredSteps ++ [.sdk 0 .look, .sdk 0 .release])
    process.answers =
        [{ sink := .managed 0
           callId := some 0
           accepted := true
           reply := .error runtimeQuota }] ∧
      (process.sinks.lookup 0).map (fun sink => sink.places 0) =
        some [.counted .durablyAccepted] := by
  decide

end Process
end ReproItSdk
