import ReproItSdk.Replay.Adapters

/-! # What a run keeps

However deep the hooked calls are nested, a run forgets no request and no exchange, it does not
take an operation up again that was given up, and it leaves the guard of the adapters as it was.

Main results:

- Structure {lit}`Extends`: what one run keeps of another.
- Theorem {lit}`extends_run`: every program extends the run.
-/

namespace ReproItSdk
namespace Replay

open Fallible Wrappers

/-- Nothing that was asked or recorded is lost, and no loss is undone. -/
structure Extends (before after : Run) : Prop where
  active : after.active = true → before.active = true
  unowned : after.unowned = false → before.unowned = false
  reentrant : after.reentrant = before.reentrant
  sessions : before.sessions <+: after.sessions
  records : before.records <+: after.records

instance : IsPreorder Run Extends where
  refl run := ⟨id, id, rfl, List.prefix_refl _, List.prefix_refl _⟩
  trans _ _ _ first second :=
    ⟨first.active ∘ second.active, first.unowned ∘ second.unowned,
      second.reentrant.trans first.reentrant, first.sessions.trans second.sessions,
      first.records.trans second.records⟩

/-- An operation that lost nothing had lost nothing before. -/
theorem Extends.complete {before after : Run} (extends_ : Extends before after)
    (complete : after.Complete) : before.Complete :=
  ⟨extends_.active complete.1, extends_.unowned complete.2⟩

/-! ## Calls of the engine -/

section Calls

variable {ε : Type} (mode : Mode)

/-- A call of the engine extends the run. -/
theorem extends_called (run : Run) : Extends run run.called :=
  ⟨id, id, rfl, List.prefix_refl _, List.prefix_refl _⟩

/-- Giving the operation up extends the run. -/
theorem extends_abandoned (run : Run) : Extends run run.abandoned :=
  ⟨by simp [Run.abandoned], id, rfl, List.prefix_refl _, List.prefix_refl _⟩

/-- A new session extends the run. -/
theorem extends_opened (observationClass : AutomaticObservationClass) (request : Bytes)
    (run : Run) : Extends run (run.opened observationClass request) :=
  ⟨id, id, rfl, List.prefix_append _ _, List.prefix_refl _⟩

/-- A recorded exchange extends the run. -/
theorem extends_recorded (exchange : Exchange) (run : Run) :
    Extends run (run.recorded exchange) :=
  ⟨id, id, rfl, List.prefix_refl _, List.prefix_append _ _⟩

/-- A call of the engine extends the run if its change does. -/
theorem extends_engineCall {change : Run → Run} (changes : ∀ run, Extends run (change run)) :
    Relates Extends (engineCall mode change : RunM ε Bool) := by
  intro run
  unfold engineCall
  split
  · exact trans_of Extends (extends_called run) (changes _)
  · exact trans_of Extends (extends_called run) (extends_abandoned _)

/-- Opening a session extends the run. -/
theorem extends_openObservation (observationClass : AutomaticObservationClass)
    (request : Bytes) :
    Relates Extends (openObservation mode observationClass request : RunM ε (Option Nat)) := by
  unfold openObservation
  refine Relates.bind (Relates.gets _) fun active => ?_
  split
  · refine Relates.bind (Relates.gets _) fun position => ?_
    apply Relates.bind (extends_engineCall mode (extends_opened observationClass request))
    intro opened
    exact Relates.pure _
  · exact Relates.pure _

/-- Giving an operation up in adapter code extends the run. -/
theorem extends_abandon : Relates Extends (modify Run.abandoned : RunM ε Unit) :=
  Relates.modify extends_abandoned

/-- Dispatching a request extends the run. -/
theorem extends_dispatch (observationClass : AutomaticObservationClass) (position : Nat)
    (request : Bytes) :
    Relates Extends
      (dispatch mode observationClass position request : RunM ε (Option Action)) := by
  unfold dispatch
  apply Relates.bind (extends_engineCall mode fun run => refl_of Extends run)
  intro dispatched
  split
  · cases mode with
    | capture accepts => exact Relates.pure _
    | replay recording =>
        dsimp only
        split
        · exact Relates.bind extends_abandon fun _ => Relates.pure _
        · split
          · exact Relates.pure _
          · exact Relates.bind extends_abandon fun _ => Relates.pure _
  · exact Relates.pure _

/-- Finishing a captured session extends the run. -/
theorem extends_finishCaptured (exchange : Exchange) :
    Relates Extends (finishCaptured mode exchange : RunM ε Bool) :=
  extends_engineCall mode (extends_recorded exchange)

/-- Finishing a replayed session extends the run. -/
theorem extends_finishReplayed (exchange : Exchange) (outcome : DependencyOutcome) :
    Relates Extends (finishReplayed mode exchange outcome : RunM ε Bool) := by
  unfold finishReplayed
  split
  · exact extends_engineCall mode fun run => refl_of Extends run
  · exact Relates.bind extends_abandon fun _ => Relates.pure _

/-- Marking the operation extends the run. -/
theorem extends_markUnowned : Relates Extends (markUnowned mode : RunM ε Unit) := by
  have marks (run : Run) : Extends run { run with unowned := true } :=
    ⟨id, by simp, rfl, List.prefix_refl _, List.prefix_refl _⟩
  unfold markUnowned
  refine Relates.bind (Relates.gets _) fun active => ?_
  split
  · exact Relates.bind (extends_engineCall mode marks) fun _ => Relates.pure _
  · exact Relates.pure _

end Calls

/-! ## Adapters -/

section Adapters

variable {ε α : Type} (mode : Mode) {live : RunM ε α}

/-- Writing chunks extends the run. -/
theorem extends_writeChunks (chunks : List Bytes) :
    Relates Extends (writeChunks mode chunks : RunM ε Bool) := by
  induction chunks with
  | nil => exact Relates.pure _
  | cons chunk chunks keeps =>
      unfold writeChunks
      apply Relates.bind (extends_engineCall mode fun run => refl_of Extends run)
      intro written
      split
      · exact keeps
      · exact Relates.pure _

/-- Recording a response extends the run. -/
theorem extends_recordResponse (exchange : Exchange) :
    Relates Extends (recordResponse mode exchange : RunM ε Unit) := by
  unfold recordResponse
  apply Relates.bind (extends_writeChunks mode _)
  intro written
  split
  · exact Relates.bind (extends_finishCaptured mode exchange) fun _ => Relates.pure _
  · exact Relates.pure _

/-- A captured observation extends the run if its original function does. -/
theorem extends_captureObservation (call : ObservationCall ε α) (keeps : Relates Extends live)
    (position : Nat) : Relates Extends (captureObservation mode call live position) := by
  unfold captureObservation
  apply Relates.bind (Relates.attempt keeps)
  intro outcome
  split
  · exact Relates.bind extends_abandon fun _ => Relates.ofExcept _
  · exact Relates.bind (extends_recordResponse mode _) fun _ => Relates.ofExcept _

/-- A replayed observation extends the run. -/
theorem extends_replayObservation (call : ObservationCall ε α) (exchange : Exchange) :
    Relates Extends (replayObservation mode call exchange) := by
  unfold replayObservation
  split
  · exact Relates.bind extends_abandon fun _ => Relates.fail _
  · apply Relates.bind (extends_finishReplayed mode exchange _)
    intro finished
    split
    · exact Relates.ofExcept _
    · exact Relates.fail _

/-- An opened observation extends the run if its original function does. -/
theorem extends_observeOpened (call : ObservationCall ε α) (keeps : Relates Extends live)
    (position : Nat) : Relates Extends (observeOpened mode call live position) := by
  unfold observeOpened
  apply Relates.bind (extends_engineCall mode fun run => refl_of Extends run)
  intro written
  split
  · apply Relates.bind (extends_dispatch mode _ _ _)
    intro action
    split
    · exact keeps
    · exact extends_captureObservation mode call keeps position
    · exact extends_replayObservation mode call _
  · exact keeps

/-- Setting and resetting the guard extends the run if the computation does. -/
theorem extends_guarded (keeps : Relates Extends live) : Relates Extends (guarded live) := by
  intro run
  have kept := keeps { run with reentrant := true }
  exact ⟨kept.active, kept.unowned, rfl, kept.sessions, kept.records⟩

/-- An observed call extends the run if its original function does. -/
theorem extends_observe (call : ObservationCall ε α) (keeps : Relates Extends live) :
    Relates Extends (observe mode call live) := by
  have observes : Relates Extends (observeActive mode call live) := by
    unfold observeActive
    apply Relates.bind (extends_openObservation mode _ _)
    intro position
    cases position with
    | none => exact keeps
    | some position => exact extends_observeOpened mode call keeps position
  unfold observe
  refine Relates.bind (Relates.gets _) fun active => ?_
  refine Relates.bind (Relates.gets _) fun reentrant => ?_
  split
  · exact extends_guarded observes
  · exact keeps

/-- The callback of a dependency extends the run if the live function does. -/
theorem extends_captureLive (call : DependencyCall ε α) (keeps : Relates Extends live) :
    Relates Extends (captureLive mode call live) := by
  unfold captureLive
  apply Relates.bind (Relates.attempt keeps)
  intro outcome
  split
  · exact Relates.bind (extends_markUnowned mode) fun _ => Relates.pure _
  · exact Relates.pure _

/-- A callback without a session extends the run if the live function does. -/
theorem extends_passDependency (call : DependencyCall ε α) (keeps : Relates Extends live) :
    Relates Extends (passDependency mode call live) :=
  Relates.bind (extends_captureLive mode call keeps) fun _ => Relates.pure _

/-- A captured dependency extends the run if the live function does. -/
theorem extends_captureDependency (call : DependencyCall ε α) (keeps : Relates Extends live)
    (position : Nat) (request : Bytes) :
    Relates Extends (captureDependency mode call live position request) := by
  unfold captureDependency
  apply Relates.bind (extends_captureLive mode call keeps)
  rintro ⟨outcome, response⟩
  dsimp only
  split
  · exact Relates.bind extends_abandon fun _ => Relates.pure _
  · exact Relates.bind (extends_finishCaptured mode _) fun _ => Relates.pure _

/-- A replayed dependency extends the run. -/
theorem extends_replayDependency (call : DependencyCall ε α) (exchange : Exchange) :
    Relates Extends (replayDependency mode call exchange) := by
  unfold replayDependency
  split
  · exact Relates.bind extends_abandon fun _ => Relates.pure _
  · apply Relates.bind (extends_finishReplayed mode exchange _)
    intro finished
    split
    · exact Relates.pure _
    · exact Relates.bind extends_abandon fun _ => Relates.pure _

/-- Opening a dependency extends the run. -/
theorem extends_openDependency (call : DependencyCall ε α) (request : Bytes) :
    Relates Extends (openDependency mode call request) := by
  unfold openDependency
  apply Relates.bind (extends_openObservation mode _ _)
  intro position
  cases position with
  | none => exact Relates.pure _
  | some position => exact Relates.bind (extends_dispatch mode _ _ _) fun _ => Relates.pure _

/-- Driving a dependency extends the run if the live function does. -/
theorem extends_runDependency (call : DependencyCall ε α) (keeps : Relates Extends live) :
    Relates Extends (runDependency mode call live) := by
  unfold runDependency
  split
  · exact Relates.bind extends_abandon fun _ => extends_passDependency mode call keeps
  · apply Relates.bind (extends_openDependency mode call _)
    intro session
    split
    · exact extends_passDependency mode call keeps
    · exact extends_captureDependency mode call keeps _ _
    · exact extends_replayDependency mode call _

/-- A call of a dependency extends the run if the live function does. -/
theorem extends_executeDependency (call : DependencyCall ε α) (keeps : Relates Extends live) :
    Relates Extends (executeDependency mode call live) := by
  unfold executeDependency
  apply Relates.bind (extends_runDependency mode call keeps)
  intro driven
  cases driven with
  | live outcome => exact Relates.ofExcept _
  | replayed response => exact Relates.ofExcept _
  | invalid => exact Relates.fail _

/-- A hooked call extends the run if its live function does. -/
theorem extends_hooked (call : HookedCall ε α) (keeps : Relates Extends live) :
    Relates Extends (call.run mode live) := by
  cases call with
  | observation call => exact extends_observe mode call keeps
  | dependency call => exact extends_executeDependency mode call keeps

end Adapters

/-! ## Programs -/

/-- Every program extends the run. -/
theorem extends_run {ε α : Type} (surroundings : Surroundings ε α) (program : Program ε α) :
    Relates Extends (program.run surroundings) := by
  induction program with
  | finish outcome => exact Relates.ofExcept _
  | outside next keeps =>
      refine Relates.bind ?_ keeps
      intro run
      exact ⟨id, id, rfl, List.prefix_refl _, List.prefix_refl _⟩
  | hooked call live next keepsLive keeps =>
      exact Relates.bind (Relates.attempt (extends_hooked surroundings.mode call keepsLive)) keeps

end Replay
end ReproItSdk
