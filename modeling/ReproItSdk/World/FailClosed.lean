import ReproItSdk.World.Tracking

/-! # Fail-closed Worlds

A coordinator that lost an observation is doomed: its close or its replay finish fails, whatever
calls come in between.  The calls that lose an observation doom the coordinator, apart from a few
failing steps that leave no trace, which are named here as silent failures.

Main results:

- Theorem {lit}`doomed_call`: every call keeps a doomed coordinator doomed.
- Theorem {lit}`close_doomed`: a doomed capture never closes.
- Theorem {lit}`lossy_run_never_completes`: a run without silent failures that loses an observation
  ends in a coordinator that neither closes nor finishes its replay.
-/

namespace ReproItSdk
namespace AutomaticWorld

open AutomaticWorldCoordinator

variable {Digest Replay : Type}

/-! ## Doomed coordinators -/

/-- A coordinator that remembers a loss. -/
def Doomed (world : AutomaticWorldCoordinator Digest Replay) : Prop :=
  world.incompleteSession = true ∨ world.overflowed = true ∨
    (world.captures = true ∧ ∃ observation ∈ world.observations,
      observation.ownerAdapterId = none)

/-- A doomed capture never closes. -/
theorem close_doomed {core : Core Digest Replay} {world : AutomaticWorldCoordinator Digest Replay}
    (doomed : Doomed world) (completion : TriggerCompletion) (io : CloseIo) :
    world.close core completion io = .error worldNotClosed := by
  refine if_pos fun ready => ?_
  simp only [closable, Bool.and_eq_true, Bool.not_eq_true', List.all_eq_true, and_assoc] at ready
  obtain ⟨calm, complete, -, -, owned, -⟩ := ready
  rcases doomed with lost | overflowed | ⟨-, observation, member, unowned⟩
  · simp [lost] at complete
  · simp [overflowed] at calm
  · simpa [unowned] using owned observation member

/-- A doomed replay never finishes. -/
theorem finishReplay_doomed {core : Core Digest Replay}
    {world : AutomaticWorldCoordinator Digest Replay} (doomed : Doomed world)
    (replays : world.captures = false) :
    world.finishReplay core = .error worldNotClosed := by
  refine if_pos ?_
  rcases doomed with lost | overflowed | ⟨captures, -⟩
  · exact .inl lost
  · exact .inr (.inl overflowed)
  · simp [captures] at replays

/-! ## What no call forgets -/

/-- What every call keeps of a coordinator. -/
structure Extends (before after : AutomaticWorldCoordinator Digest Replay) : Prop where
  captures : after.captures = before.captures
  incomplete : before.incompleteSession = true → after.incompleteSession = true
  overflowed : before.overflowed = true → after.overflowed = true
  observations : before.observations <+: after.observations
  operationId : after.operationId = before.operationId

/-- Nothing changed. -/
theorem Extends.refl (world : AutomaticWorldCoordinator Digest Replay) : Extends world world :=
  ⟨rfl, id, id, List.prefix_rfl, rfl⟩

/-- Changes compose. -/
theorem Extends.trans {first second third : AutomaticWorldCoordinator Digest Replay}
    (before : Extends first second) (after : Extends second third) : Extends first third :=
  ⟨after.captures.trans before.captures, after.incomplete ∘ before.incomplete,
    after.overflowed ∘ before.overflowed, before.observations.trans after.observations,
    after.operationId.trans before.operationId⟩

/-- A coordinator stays doomed. -/
theorem Extends.doomed {before after : AutomaticWorldCoordinator Digest Replay}
    (extended : Extends before after) (doomed : Doomed before) : Doomed after := by
  rcases doomed with lost | overflowed | ⟨captures, observation, member, unowned⟩
  · exact .inl (extended.incomplete lost)
  · exact .inr (.inl (extended.overflowed overflowed))
  · exact .inr (.inr ⟨extended.captures.trans captures, observation,
      extended.observations.subset member, unowned⟩)

/-- What a call that publishes nothing keeps of a coordinator. -/
structure Unpublished (before after : AutomaticWorldCoordinator Digest Replay) : Prop where
  captures : after.captures = before.captures
  incomplete : before.incompleteSession = true → after.incompleteSession = true
  overflowed : before.overflowed = true → after.overflowed = true
  artifacts : after.artifacts = before.artifacts
  interactions : after.dependencyInteractions = before.dependencyInteractions
  observations : after.observations = before.observations
  operationId : after.operationId = before.operationId

/-- A call that publishes nothing forgets nothing. -/
theorem Unpublished.extends {before after : AutomaticWorldCoordinator Digest Replay}
    (unpublished : Unpublished before after) : Extends before after :=
  ⟨unpublished.captures, unpublished.incomplete, unpublished.overflowed,
    unpublished.observations ▸ List.prefix_rfl, unpublished.operationId⟩

namespace AutomaticWorldCoordinator

section Effects

variable {core : Core Digest Replay} {world next : AutomaticWorldCoordinator Digest Replay}
  {sessionId : Nat}

theorem OpenEffect.unpublished {observationClass : AutomaticObservationClass}
    {causalParentId : Option OperationId} {semanticContract : Bool} {io : OpenIo}
    {reply : Except Error Nat}
    (effect : world.OpenEffect sessionId observationClass causalParentId semanticContract io
      reply next) : Unpublished world next := by
  cases effect <;> exact ⟨rfl, by simp [loseSession], id, rfl, rfl, rfl, rfl⟩

theorem WriteEffect.unpublished {stream : AutomaticObservationStream} {chunk : Bytes}
    {reply : Except Error Unit} (effect : world.WriteEffect sessionId stream chunk reply next) :
    Unpublished world next := by
  cases effect <;>
    exact ⟨rfl, by simp [overflowSession], by simp [overflowSession], rfl, rfl, rfl, rfl⟩

theorem DispatchEffect.unpublished {io : DispatchIo}
    {reply : Except Error AutomaticObservationAction}
    (effect : world.DispatchEffect core sessionId io reply next) : Unpublished world next := by
  cases effect <;>
    exact ⟨by simp_all [AutomaticWorldCoordinator.captures], by simp, id, rfl, rfl, rfl, rfl⟩

theorem ReadEffect.unpublished {reply : Except Error (Bytes × Bool)}
    (effect : world.ReadEffect sessionId reply next) : Unpublished world next := by
  cases effect <;> exact ⟨rfl, id, id, rfl, rfl, rfl, rfl⟩

theorem AbandonEffect.unpublished {reply : Except Error Unit}
    (effect : world.AbandonEffect sessionId reply next) : Unpublished world next := by
  cases effect <;> exact ⟨rfl, by simp, id, rfl, rfl, rfl, rfl⟩

theorem BindEffect.unpublished {reply : Except Error Unit}
    (effect : world.BindEffect reply next) : Unpublished world next := by
  cases effect <;> exact ⟨rfl, by simp [loseSession], id, rfl, rfl, rfl, rfl⟩

theorem FinishEffect.extends {outcome : DependencyOutcome} {io : FinishIo}
    {reply : Except Error Unit} (effect : world.FinishEffect core sessionId outcome io reply next) :
    Extends world next := by
  cases effect <;> exact ⟨rfl, by simp [publish], id, by simp [publish], rfl⟩

theorem UnownedEffect.extends {observationClass : AutomaticObservationClass}
    {causalParentId : Option OperationId} {evidence : Bytes} {io : UnownedIo}
    {reply : Except Error Unit}
    (effect : world.UnownedEffect core observationClass causalParentId evidence io reply next) :
    Extends world next := by
  cases effect <;>
    exact ⟨rfl, by simp [loseSession, dropObservation], by simp [loseSession, dropObservation],
      by simp [loseSession, dropObservation], rfl⟩

end Effects
end AutomaticWorldCoordinator

/-- A session call forgets nothing. -/
theorem perform_extends (core : Core Digest Replay)
    (world : AutomaticWorldCoordinator Digest Replay) (call : SessionCall) :
    Extends world (perform core world call).2 := by
  cases call with
  | openObservation sessionId observationClass causalParentId semanticContract io =>
      exact (openObservationInner_effect world sessionId observationClass
        causalParentId semanticContract io).unpublished.extends
  | writeObservation sessionId stream chunk io =>
      exact (writeObservation_effect world sessionId stream chunk io).unpublished.extends
  | dispatchObservation sessionId io =>
      exact (dispatchObservation_effect core world sessionId io).unpublished.extends
  | readObservationResponse sessionId io =>
      exact (readObservationResponse_effect world sessionId io).unpublished.extends
  | finishObservation sessionId outcome sessionPosition io =>
      exact (finishObservation_effect core world sessionId outcome sessionPosition io).extends
  | abandonObservation sessionId =>
      exact (abandonObservation_effect world sessionId).unpublished.extends
  | markUnowned observationClass causalParentId evidence io =>
      exact (markUnowned_effect core world observationClass causalParentId evidence io).extends
  | bindNativeSentinelCoverage evidence =>
      exact (bindNativeSentinelCoverage_effect core world evidence).unpublished.extends
  | invalidateAmbientContext => exact ⟨rfl, fun _ => rfl, id, List.prefix_rfl, rfl⟩

/-- A chain of session calls forgets nothing. -/
theorem attempt_extends (core : Core Digest Replay)
    (world : AutomaticWorldCoordinator Digest Replay) (calls : List SessionCall) :
    Extends world (Runs.attempt (perform core) world calls).2.2 := by
  induction calls generalizing world with
  | nil => exact .refl world
  | cons call calls ih =>
      unfold Runs.attempt
      split
      · exact (perform_extends core world call).trans (ih _)
      · exact perform_extends core world call

/-- An internal session forgets nothing. -/
theorem captureInternal_extends (core : Core Digest Replay)
    (world : AutomaticWorldCoordinator Digest Replay)
    (observationClass : AutomaticObservationClass) (request response : Bytes) (io : InternalIo) :
    Extends world (world.captureInternal core observationClass request response io).2.2 := by
  unfold captureInternal
  split
  · exact .refl world
  · refine Extends.trans ?_ (attempt_extends core _ _)
    exact ⟨rfl, id, id, List.prefix_rfl, rfl⟩

/-- An ambient capture forgets nothing. -/
theorem captureAmbient_extends (core : Core Digest Replay)
    (world : AutomaticWorldCoordinator Digest Replay) (io : AmbientIo) :
    Extends world (world.captureAmbient core io).2.2 := by
  unfold captureAmbient
  split
  · exact ⟨rfl, id, fun _ => rfl, List.prefix_rfl, rfl⟩
  · split
    · exact .refl world
    · dsimp only
      have environment := captureInternal_extends core world .environment
        (asciiBytes "process-environment") ‹Bytes› io.environmentSession
      split
      · exact environment
      · refine environment.trans ?_
        unfold captureClock
        split
        · exact .refl _
        · exact captureInternal_extends core _ _ _ _ _

/-- A public call forgets nothing. -/
theorem call_extends (core : Core Digest Replay)
    (world : AutomaticWorldCoordinator Digest Replay) (call : WorldCall) :
    Extends world (world.call core call).2.2 := by
  cases call with
  | session call => exact perform_extends core world call
  | captureAmbient io => exact captureAmbient_extends core world io

/-! ## Silent failures -/

/-- A session call that meets a failing step and leaves no trace of it. -/
def SessionCall.FailsSilently (world : AutomaticWorldCoordinator Digest Replay) :
    SessionCall → Prop
  | .openObservation sessionId observationClass _ _ io =>
      world.OpenFailsSilently sessionId observationClass io
  | .markUnowned _ _ evidence io => world.UnownedFailsSilently evidence io
  | _ => False

/-- A session call of an ambient capture that leaves no trace of a failing step.  The caller of an
ambient capture does not hold its sessions, so an unanswered dispatch counts. -/
def SessionCall.InternalFailsSilently (core : Core Digest Replay)
    (world : AutomaticWorldCoordinator Digest Replay) : SessionCall → Prop
  | .dispatchObservation sessionId io => world.DispatchFailsSilently core sessionId io
  | call => call.FailsSilently world

/-- An ambient capture that stops between its sessions: the environment or the clock cannot be
encoded, or the internal session identifiers are used up. -/
def AmbientStopsSilently (core : Core Digest Replay)
    (world : AutomaticWorldCoordinator Digest Replay) (io : AmbientIo) : Prop :=
  match encodeEnvironment core io.environment ∅ 0 with
  | none => False
  | some environment =>
      match core.canonicalBytes (.environment environment) with
      | .error _ => True
      | .ok environmentBytes =>
          let first := world.captureInternal core .environment (asciiBytes "process-environment")
            environmentBytes io.environmentSession
          world.nextInternalSession = 0 ∨
            first.1 = .ok () ∧
              ((∃ error, io.clock = .error error) ∨ first.2.2.nextInternalSession = 0)

/-- A public call that meets a failing step and leaves no trace of it. -/
def WorldCall.FailsSilently (core : Core Digest Replay)
    (world : AutomaticWorldCoordinator Digest Replay) : WorldCall → Prop
  | .session call => call.FailsSilently world
  | .captureAmbient io =>
      AmbientStopsSilently core world io ∨
        ∃ answer ∈ (world.captureAmbient core io).2.1,
          answer.call.InternalFailsSilently core answer.before

/-! ## Losses -/

/-- A public call that loses an observation: an error other than the one for an unknown session,
an abandon, or an unowned observation. -/
def WorldCall.LosesObservation (world : AutomaticWorldCoordinator Digest Replay)
    (call : WorldCall) (reply : Except Error Reply) : Prop :=
  match call, reply with
  | .session (.openObservation ..), .error _ => True
  | .session (.writeObservation sessionId _ _ _), .error error =>
      ¬ (world.sessions.lookup sessionId = none ∧ error = notFound)
  | .session (.finishObservation sessionId _ _ _), .error error =>
      ¬ (world.sessions.lookup sessionId = none ∧ error = notFound)
  | .session (.markUnowned ..), _ => True
  | .session (.abandonObservation _), .ok _ => True
  | .captureAmbient _, .error _ => True
  | _, _ => False

/-- A history with an observation that was lost, that is still open, or that finished without
being dispatched. -/
def History.Lossy (history : History) : Prop :=
  history.lost ≠ [] ∨ (∃ sessionId log, history.live.lookup sessionId = some log) ∨
    ∃ entry ∈ history.finished, entry.1.dispatched = false

namespace AutomaticWorldCoordinator

section Losses

variable {core : Core Digest Replay} {world next : AutomaticWorldCoordinator Digest Replay}
  {history : History} {sessionId : Nat} {error : Error}

/-- A failed open dooms the coordinator unless it fails silently. -/
theorem OpenEffect.loses {observationClass : AutomaticObservationClass}
    {causalParentId : Option OperationId} {semanticContract : Bool} {io : OpenIo}
    (effect : world.OpenEffect sessionId observationClass causalParentId semanticContract io
      (.error error) next)
    (loud : ¬ world.OpenFailsSilently sessionId observationClass io) : Doomed next := by
  cases effect with
  | refused => exact .inl rfl
  | silent error spool quiet others => exact absurd quiet loud

/-- A failed write to a known session dooms the coordinator. -/
theorem WriteEffect.loses {stream : AutomaticObservationStream} {chunk : Bytes}
    (effect : world.WriteEffect sessionId stream chunk (.error error) next)
    (tracks : Tracks world history)
    (known : ¬ (world.sessions.lookup sessionId = none ∧ error = notFound)) : Doomed next := by
  cases effect with
  | overflowed => exact .inl rfl
  | unknown absent => exact absurd ⟨absent, rfl⟩ known
  | wide session present accepted wide chunkBounded =>
      obtain ⟨log, -, agrees⟩ := tracks.log_of_session present
      have small : session.streamBytes stream ≤ maxWorldArtifactBytes := by
        cases stream with
        | request => exact agrees.requestBounded
        | response =>
            have capturing : session.state = .capture := by
              unfold ObservationSession.accepts at accepted
              split at accepted <;> simp_all
            exact agrees.responseBounded (agrees.capturing capturing).1
      have room : maxWorldArtifactBytes + maxAutomaticObservationChunkBytes ≤ u64Max := by decide
      omega
  | torn error session present bounded spool => exact .inl rfl

/-- A failed finish of a known session dooms the coordinator. -/
theorem FinishEffect.loses {outcome : DependencyOutcome} {io : FinishIo}
    (effect : world.FinishEffect core sessionId outcome io (.error error) next)
    (known : ¬ (world.sessions.lookup sessionId = none ∧ error = notFound)) : Doomed next := by
  cases effect with
  | unknown absent => exact absurd ⟨absent, rfl⟩ known
  | lost error session present artifacts interactions => exact .inl rfl

/-- An unowned observation dooms the coordinator unless it fails silently. -/
theorem UnownedEffect.loses {observationClass : AutomaticObservationClass}
    {causalParentId : Option OperationId} {evidence : Bytes} {io : UnownedIo}
    {reply : Except Error Unit}
    (effect : world.UnownedEffect core observationClass causalParentId evidence io reply next)
    (loud : ¬ world.UnownedFailsSilently evidence io) : Doomed next := by
  cases effect with
  | replays => exact .inl rfl
  | dropped => exact .inr (.inl rfl)
  | unstored error spool quiet => exact absurd quiet loud
  | unrecorded error spool objectId quiet => exact absurd quiet loud
  | recorded spool objectId some captures others =>
      exact .inr (.inr ⟨captures, _, List.mem_append_right _ (List.mem_singleton_self _), rfl⟩)

/-- An abandon of an open session dooms the coordinator. -/
theorem AbandonEffect.loses {done : Unit}
    (effect : world.AbandonEffect sessionId (.ok done) next) : Doomed next := by
  cases effect with
  | abandoned => exact .inl rfl

end Losses
end AutomaticWorldCoordinator

/-- A mapped reply is an error when the reply is. -/
private theorem error_of_map {α β : Type} {reply : Except Error α} {change : α → β} {error : Error}
    (failed : reply.map change = .error error) : reply = .error error := by
  cases reply with
  | error cause =>
      cases failed
      rfl
  | ok value => cases failed

/-- A session call that loses an observation dooms the coordinator unless it fails silently. -/
theorem perform_loses (core : Core Digest Replay)
    {world : AutomaticWorldCoordinator Digest Replay} {history : History} {call : SessionCall}
    (tracks : Tracks world history) (loud : ¬ call.FailsSilently world)
    (loses : (WorldCall.session call).LosesObservation world (perform core world call).1) :
    Doomed (perform core world call).2 := by
  cases call with
  | openObservation sessionId observationClass causalParentId semanticContract io =>
      have effect := openObservationInner_effect world sessionId observationClass causalParentId
        semanticContract io
      cases made : (world.openObservationInner sessionId observationClass causalParentId
          semanticContract io).1 with
      | ok position => simp [WorldCall.LosesObservation, perform, made, Except.map] at loses
      | error cause =>
          rw [made] at effect
          exact effect.loses loud
  | writeObservation sessionId stream chunk io =>
      have effect := writeObservation_effect world sessionId stream chunk io
      cases made : (world.writeObservation sessionId stream chunk io).1 with
      | ok done => simp [WorldCall.LosesObservation, perform, made, Except.map] at loses
      | error cause =>
          rw [made] at effect
          exact effect.loses tracks (by
            simpa [WorldCall.LosesObservation, perform, made, Except.map] using loses)
  | finishObservation sessionId outcome sessionPosition io =>
      have effect := finishObservation_effect core world sessionId outcome sessionPosition io
      cases made : (world.finishObservation core sessionId outcome sessionPosition io).1 with
      | ok done => simp [WorldCall.LosesObservation, perform, made, Except.map] at loses
      | error cause =>
          rw [made] at effect
          exact effect.loses (by
            simpa [WorldCall.LosesObservation, perform, made, Except.map] using loses)
  | abandonObservation sessionId =>
      have effect := abandonObservation_effect world sessionId
      cases made : (world.abandonObservation sessionId).1 with
      | ok done =>
          rw [made] at effect
          exact effect.loses
      | error cause => simp [WorldCall.LosesObservation, perform, made, Except.map] at loses
  | markUnowned observationClass causalParentId evidence io =>
      exact (markUnowned_effect core world observationClass causalParentId evidence io).loses loud
  | dispatchObservation sessionId io => simp [WorldCall.LosesObservation] at loses
  | readObservationResponse sessionId io => simp [WorldCall.LosesObservation] at loses
  | bindNativeSentinelCoverage evidence => simp [WorldCall.LosesObservation] at loses
  | invalidateAmbientContext => simp [WorldCall.LosesObservation] at loses

/-! ## Ambient captures -/

/-- A mapped reply is a success when the reply is. -/
private theorem ok_of_map {α β : Type} {reply : Except Error α} {change : α → β} {result : β}
    (succeeded : reply.map change = .ok result) : ∃ value, reply = .ok value := by
  cases reply with
  | error cause => cases succeeded
  | ok value => exact ⟨value, rfl⟩

/-- A session without semantic records is open in a tracked coordinator. -/
structure PlainSession (world : AutomaticWorldCoordinator Digest Replay) (sessionId : Nat) :
    Prop where
  tracked : ∃ history, Tracks world history
  plain : ∃ session, world.sessions.lookup sessionId = some session ∧
    session.semanticContract = none

/-- A session call keeps a coordinator tracked. -/
private theorem tracked_perform {core : Core Digest Replay}
    {world : AutomaticWorldCoordinator Digest Replay} {call : SessionCall}
    (tracked : ∃ history, Tracks world history) :
    ∃ history, Tracks (perform core world call).2 history := by
  obtain ⟨history, tracks⟩ := tracked
  exact ⟨_, tracks_perform core world history call tracks⟩

section Plain

variable {core : Core Digest Replay} {world : AutomaticWorldCoordinator Digest Replay}
  {sessionId : Nat} {reply : Reply}

/-- An internal open leaves a plain session. -/
private theorem plainSession_open {observationClass : AutomaticObservationClass}
    {causalParentId : Option OperationId} {io : OpenIo}
    (tracked : ∃ history, Tracks world history)
    (opened : (perform core world
      (.openObservation sessionId observationClass causalParentId false io)).1 = .ok reply) :
    PlainSession (perform core world
      (.openObservation sessionId observationClass causalParentId false io)).2 sessionId := by
  have effect := openObservationInner_effect world sessionId observationClass causalParentId
    false io
  obtain ⟨position, made⟩ : ∃ position, (world.openObservationInner sessionId observationClass
      causalParentId false io).1 = .ok position := ok_of_map opened
  rw [made] at effect
  refine ⟨tracked_perform tracked, ?_⟩
  simp only [perform, Prod.map_snd, id_eq]
  generalize (world.openObservationInner sessionId observationClass causalParentId false io).2 =
    next at effect
  cases effect with
  | opened fresh registered bounded => exact ⟨_, AList.lookup_insert _, rfl⟩

/-- A write keeps a plain session. -/
private theorem plainSession_write {stream : AutomaticObservationStream} {chunk : Bytes}
    {io : WriteIo} (plain : PlainSession world sessionId)
    (written : (perform core world (.writeObservation sessionId stream chunk io)).1 = .ok reply) :
    PlainSession (perform core world (.writeObservation sessionId stream chunk io)).2
      sessionId := by
  have effect := writeObservation_effect world sessionId stream chunk io
  obtain ⟨done, made⟩ : ∃ done, (world.writeObservation sessionId stream chunk io).1 = .ok done :=
    ok_of_map written
  rw [made] at effect
  refine ⟨tracked_perform plain.tracked, ?_⟩
  simp only [perform, Prod.map_snd, id_eq]
  generalize (world.writeObservation sessionId stream chunk io).2 = next at effect
  cases effect with
  | appended session present accepted bounded content stored =>
      obtain ⟨known, found, contract⟩ := plain.plain
      cases present.symm.trans found
      refine ⟨_, AList.lookup_insert _, ?_⟩
      cases stream <;> exact contract

/-- A dispatch keeps a plain session. -/
private theorem plainSession_dispatch {io : DispatchIo} (plain : PlainSession world sessionId)
    (dispatched : (perform core world (.dispatchObservation sessionId io)).1 = .ok reply) :
    PlainSession (perform core world (.dispatchObservation sessionId io)).2 sessionId := by
  have effect := dispatchObservation_effect core world sessionId io
  obtain ⟨action, made⟩ : ∃ action, (world.dispatchObservation core sessionId io).1 = .ok action :=
    ok_of_map dispatched
  rw [made] at effect
  refine ⟨tracked_perform plain.tracked, ?_⟩
  simp only [perform, Prod.map_snd, id_eq]
  generalize (world.dispatchObservation core sessionId io).2 = next at effect
  obtain ⟨known, found, contract⟩ := plain.plain
  cases effect with
  | captured session present requesting nonempty captures =>
      cases present.symm.trans found
      exact ⟨_, AList.lookup_insert _, contract⟩
  | replayed session replay following recorded spool present requesting replays others =>
      cases present.symm.trans found
      exact ⟨_, AList.lookup_insert _, contract⟩

/-- A failed dispatch of a plain session dooms the coordinator unless it fails silently. -/
private theorem plainSession_dispatch_loses {io : DispatchIo} {error : Error}
    (plain : PlainSession world sessionId)
    (loud : ¬ world.DispatchFailsSilently core sessionId io)
    (failed : (perform core world (.dispatchObservation sessionId io)).1 = .error error) :
    Doomed (perform core world (.dispatchObservation sessionId io)).2 := by
  have effect := dispatchObservation_effect core world sessionId io
  have made : (world.dispatchObservation core sessionId io).1 = .error error := error_of_map failed
  rw [made] at effect
  simp only [perform, Prod.map_snd, id_eq]
  generalize (world.dispatchObservation core sessionId io).2 = next at effect
  obtain ⟨known, found, contract⟩ := plain.plain
  cases effect with
  | unknown absent => simp [absent] at found
  | stalled error session present cause =>
      cases present.symm.trans found
      rcases cause with semantic | quiet
      · exact absurd contract semantic
      · exact absurd quiet loud
  | overflowed => exact .inl rfl
  | unanswered error session replay following present replays quiet => exact absurd quiet loud
  | unreserved => exact .inl rfl
  | unwritten error session replay following recorded spool present requesting replays quiet =>
      exact absurd quiet loud

/-- A failed write or finish of a plain session dooms the coordinator. -/
private theorem plainSession_loses {call : SessionCall} {error : Error}
    (plain : PlainSession world sessionId)
    (shape : (∃ stream chunk io, call = .writeObservation sessionId stream chunk io) ∨
      ∃ outcome position io, call = .finishObservation sessionId outcome position io)
    (failed : (perform core world call).1 = .error error) :
    Doomed (perform core world call).2 := by
  obtain ⟨⟨history, tracks⟩, session, found, -⟩ := plain
  rcases shape with ⟨stream, chunk, io, rfl⟩ | ⟨outcome, position, io, rfl⟩
  · exact perform_loses core tracks id (by simp [failed, WorldCall.LosesObservation, found])
  · exact perform_loses core tracks id (by simp [failed, WorldCall.LosesObservation, found])

end Plain

/-- An internal session that fails dooms the coordinator unless a step of it fails silently. -/
theorem captureInternal_loses (core : Core Digest Replay)
    {world : AutomaticWorldCoordinator Digest Replay} {history : History}
    (tracks : Tracks world history) (observationClass : AutomaticObservationClass)
    (request response : Bytes) (io : InternalIo) (left : world.nextInternalSession ≠ 0)
    (loud : ∀ answer ∈ (world.captureInternal core observationClass request response io).2.1,
      ¬ answer.call.InternalFailsSilently core answer.before)
    {error : Error}
    (failed : (world.captureInternal core observationClass request response io).1 =
      .error error) :
    Doomed (world.captureInternal core observationClass request response io).2.2 := by
  have started := (tracks_preserved core).numbered _ _ (world.nextInternalSession - 1) tracks
  unfold captureInternal at loud failed ⊢
  rw [if_neg left] at loud failed ⊢
  refine Runs.attempt_cons_fails loud failed ?_ ?_
  · intro loud error failed
    exact perform_loses core started loud (by simp [failed, WorldCall.LosesObservation])
  intro _ position opened loud failed
  have plain := plainSession_open ⟨history, started⟩ opened
  refine Runs.attempt_cons_fails loud failed ?_ ?_
  · intro _ error failed
    exact plainSession_loses plain (.inl ⟨_, _, _, rfl⟩) failed
  intro _ _ written loud failed
  replace plain := plainSession_write plain written
  refine Runs.attempt_cons_fails loud failed ?_ ?_
  · intro loud error failed
    exact plainSession_dispatch_loses plain loud failed
  intro _ _ dispatched loud failed
  replace plain := plainSession_dispatch plain dispatched
  refine Runs.attempt_cons_fails loud failed ?_ ?_
  · intro _ error failed
    exact plainSession_loses plain (.inl ⟨_, _, _, rfl⟩) failed
  intro _ _ answered loud failed
  replace plain := plainSession_write plain answered
  refine Runs.attempt_cons_fails loud failed ?_ ?_
  · intro _ error failed
    exact plainSession_loses plain (.inr ⟨_, _, _, rfl⟩) failed
  intro _ _ _ _ failed
  cases failed

/-- An ambient capture that fails dooms the coordinator unless a step of it fails silently. -/
theorem captureAmbient_loses (core : Core Digest Replay)
    {world : AutomaticWorldCoordinator Digest Replay} {history : History}
    (tracks : Tracks world history) (io : AmbientIo)
    (loud : ¬ (WorldCall.captureAmbient io).FailsSilently core world) {error : Error}
    (failed : (world.captureAmbient core io).1 = .error error) :
    Doomed (world.captureAmbient core io).2.2 := by
  simp only [WorldCall.FailsSilently, AmbientStopsSilently, not_or, not_exists, not_and] at loud
  obtain ⟨proceeds, answers⟩ := loud
  unfold captureAmbient at failed answers ⊢
  cases encoded : encodeEnvironment core io.environment ∅ 0 with
  | none => exact .inr (.inl rfl)
  | some environment =>
      simp only [encoded] at proceeds failed answers ⊢
      cases canonical : core.canonicalBytes (.environment environment) with
      | error cause => simp [canonical] at proceeds
      | ok environmentBytes =>
          simp only [canonical, not_or, not_and, not_exists] at proceeds failed answers ⊢
          obtain ⟨left, continues⟩ := proceeds
          have lost := captureInternal_loses core tracks .environment
            (asciiBytes "process-environment") environmentBytes io.environmentSession left
          have tracked := (tracks_preserved core).captureInternal tracks .environment
            (asciiBytes "process-environment") environmentBytes io.environmentSession
          generalize world.captureInternal core .environment (asciiBytes "process-environment")
            environmentBytes io.environmentSession = first at *
          obtain ⟨reply, transcript, next⟩ := first
          cases reply with
          | error cause => exact lost answers rfl
          | ok done =>
              obtain ⟨clocked, remaining⟩ := continues rfl
              dsimp only at failed answers tracked ⊢
              unfold captureClock at failed answers ⊢
              cases read : io.clock with
              | error cause => exact absurd read (clocked cause)
              | ok clock =>
                  simp only [read] at failed answers ⊢
                  exact captureInternal_loses core tracked _ _ _ _ remaining
                    (fun answer member => answers answer (List.mem_append_right _ member)) failed

/-! ## Runs -/

/-- A coordinator that answered no call yet. -/
def Fresh (core : Core Digest Replay) (world : AutomaticWorldCoordinator Digest Replay) : Prop :=
  (∃ operationId registrations, world = newWithRegistrations operationId registrations) ∨
    ∃ replay operationId, world = newReplay core replay operationId

/-- A coordinator that answered no call tracks the empty history. -/
theorem Fresh.tracks {core : Core Digest Replay} {world : AutomaticWorldCoordinator Digest Replay}
    (fresh : Fresh core world) : Tracks world History.empty := by
  rcases fresh with ⟨operationId, registrations, rfl⟩ | ⟨replay, operationId, rfl⟩
  · exact tracks_empty rfl
  · exact tracks_empty rfl

/-- A public call keeps a doomed coordinator doomed. -/
theorem doomed_call (core : Core Digest Replay) (state : Observed Digest Replay)
    (call : WorldCall) (doomed : Doomed state.1) : Doomed (observedCall core state call).2.1 :=
  (call_extends core state.1 call).doomed doomed

/-- A public call that loses an observation dooms the coordinator unless it fails silently. -/
theorem call_loses (core : Core Digest Replay) (state : Observed Digest Replay)
    (call : WorldCall) (tracks : Tracks state.1 state.2)
    (loud : ¬ call.FailsSilently core state.1)
    (loses : call.LosesObservation state.1 (observedCall core state call).1) :
    Doomed (observedCall core state call).2.1 := by
  cases call with
  | session call => exact perform_loses core tracks loud loses
  | captureAmbient io =>
      cases made : (state.1.captureAmbient core io).1 with
      | ok done =>
          simp [WorldCall.LosesObservation, observedCall, AutomaticWorldCoordinator.call, made,
            Except.map] at loses
      | error cause => exact captureAmbient_loses core tracks io loud made

/-- A run keeps the mode of its coordinator. -/
theorem captures_run (core : Core Digest Replay)
    (world : AutomaticWorldCoordinator Digest Replay) (calls : List WorldCall) :
    (observedRun core world calls).1.captures = world.captures :=
  Runs.final_preserves (fun state : Observed Digest Replay => state.1.captures = world.captures)
    (fun (state : Observed Digest Replay) call same (_ : True) =>
      (call_extends core state.1 call).captures.trans same)
    calls rfl fun _ _ => trivial

/-- A coordinator with a lossy history is doomed or holds an open session. -/
theorem Tracks.lossy {world : AutomaticWorldCoordinator Digest Replay} {history : History}
    (tracks : Tracks world history) (lossy : history.Lossy) :
    Doomed world ∨ KeyedTable.size world.sessions ≠ 0 := by
  rcases lossy with lost | ⟨sessionId, log, live⟩ | ⟨entry, member, undispatched⟩
  · exact .inl (.inl (tracks.lost lost))
  · refine .inr fun empty => ?_
    have absent := (KeyedTable.size_eq_zero_iff world.sessions).mp empty sessionId
    simp [tracks.no_log absent] at live
  · simp [tracks.finished entry member] at undispatched

/-- A capture with an open session never closes. -/
theorem close_open {core : Core Digest Replay} {world : AutomaticWorldCoordinator Digest Replay}
    (busy : KeyedTable.size world.sessions ≠ 0) (completion : TriggerCompletion) (io : CloseIo) :
    world.close core completion io = .error worldNotClosed := by
  refine if_pos fun ready => ?_
  simp [closable, busy] at ready

/-- A replay with an open session never finishes. -/
theorem finishReplay_open {core : Core Digest Replay}
    {world : AutomaticWorldCoordinator Digest Replay} (busy : KeyedTable.size world.sessions ≠ 0) :
    world.finishReplay core = .error worldNotClosed :=
  if_pos (.inr (.inr busy))

/-- In a run without silent failures that loses an observation, a capture never closes and a
replay never finishes. -/
theorem lossy_run_never_completes (core : Core Digest Replay)
    (world : AutomaticWorldCoordinator Digest Replay) (fresh : Fresh core world)
    (calls : List WorldCall)
    (loud : ∀ entry ∈ Runs.answered (observedCall core) (world, History.empty) calls,
      ¬ entry.call.FailsSilently core entry.before.1)
    (loses : (∃ entry ∈ Runs.answered (observedCall core) (world, History.empty) calls,
        entry.call.LosesObservation entry.before.1 entry.reply) ∨
      (observedRun core world calls).2.Lossy) :
    (world.captures = true → ∀ completion io, ∃ error,
      (observedRun core world calls).1.close core completion io = .error error) ∧
    (world.captures = false → ∃ error,
      (observedRun core world calls).1.finishReplay core = .error error) := by
  have ends : Doomed (observedRun core world calls).1 ∨
      KeyedTable.size (observedRun core world calls).1.sessions ≠ 0 := by
    rcases loses with occurred | lossy
    · exact .inl (Runs.final_of_event (fun state => Tracks state.1 state.2)
        (fun state => Doomed state.1)
        (fun state call tracks _ => (tracks_preserved core).call state call tracks)
        (fun state call tracks loud loses => call_loses core state call tracks loud loses)
        (fun state call _ _ doomed => doomed_call core state call doomed)
        calls fresh.tracks loud occurred)
    · exact ((tracks_preserved core).run fresh.tracks calls).lossy lossy
  have mode := captures_run core world calls
  rcases ends with doomed | busy
  · exact ⟨fun _ completion io => ⟨_, close_doomed doomed completion io⟩,
      fun replays => ⟨_, finishReplay_doomed doomed (mode.trans replays)⟩⟩
  · exact ⟨fun _ completion io => ⟨_, close_open busy completion io⟩,
      fun _ => ⟨_, finishReplay_open busy⟩⟩

/-! ## A concrete coordinator -/

/-- One adapter registered for every class. -/
def plainRegistrations (observationClass : AutomaticObservationClass) :
    Option (AutomaticObservationRegistration Bytes) :=
  some
    { adapterId := "adapter"
      adapterVersion := "1.0.0"
      observationClass := observationClass
      implementationDigest := [1]
      sentinelCoverageDigest := none }

/-- A fresh coordinator that captures every class. -/
def plainWorld : AutomaticWorldCoordinator Bytes Unit :=
  newWithRegistrations { value := 1 } plainRegistrations

/-- A close in which every step succeeds. -/
def plainCloseIo : CloseIo where
  transcriptReserved := true
  transcriptWrite := .complete
  transcriptRecorded := .ok ()
  transcriptObjectId := .ok { value := 0 }
  publishedAt := .ok "2024-01-01T00:00:00.000Z"
  recoverableUntil := .ok "2024-01-01T00:30:00.000Z"

/-- An open whose files are created. -/
def plainOpenIo : OpenIo where
  createRequest := true
  createResponse := true

/-- The theorem applies to a run that opens a session and abandons it. -/
theorem lossy_run_never_completes_abandoned :
    (plainWorld.captures = true → ∀ completion io, ∃ error,
      (observedRun plainCore plainWorld
        [.session (.openObservation 7 .clock none true plainOpenIo),
         .session (.abandonObservation 7)]).1.close plainCore completion io = .error error) ∧
    (plainWorld.captures = false → ∃ error,
      (observedRun plainCore plainWorld
        [.session (.openObservation 7 .clock none true plainOpenIo),
         .session (.abandonObservation 7)]).1.finishReplay plainCore = .error error) := by
  refine lossy_run_never_completes plainCore plainWorld (.inl ⟨_, _, rfl⟩) _ ?_ (.inr (.inl ?_))
  · intro entry member
    simp only [Runs.answered, List.mem_cons, List.not_mem_nil, or_false] at member
    rcases member with rfl | rfl
    · rintro ⟨-, -, -, refused | refused | exhausted⟩
      · cases refused
      · cases refused
      · exact absurd exhausted (by decide)
    · exact not_false
  · exact List.cons_ne_nil _ []

/-- An open whose file cannot be created returns an error, and the coordinator closes. -/
theorem silent_open_still_closes :
    Fresh plainCore plainWorld ∧
    (∃ entry ∈ Runs.answered (observedCall plainCore) (plainWorld, History.empty)
        [.session (.openObservation 7 .clock none true
          { createRequest := false, createResponse := true }),
         .session (.bindNativeSentinelCoverage [1])],
      entry.call.LosesObservation entry.before.1 entry.reply) ∧
    ∃ capture, (observedRun plainCore plainWorld
        [.session (.openObservation 7 .clock none true
          { createRequest := false, createResponse := true }),
         .session (.bindNativeSentinelCoverage [1])]).1.close plainCore .returned plainCloseIo =
      .ok capture :=
  ⟨.inl ⟨_, _, rfl⟩, ⟨_, List.mem_cons_self, trivial⟩, _, rfl⟩

end AutomaticWorld
end ReproItSdk
