import ReproItSdk.World.FailClosed
import Mathlib.Data.List.Perm.Basic

/-! # Session positions

Positions are given out at the open, class by class.  Every position below the next one of its class
belongs to exactly one observation of the run, open, finished or lost.

Main results:

- Theorem {lit}`positioned_run`: the count of observations at each position, after every run.
- Theorem {lit}`positions_perm_range`: once every observation has finished, the positions of a class
  are an initial segment, each once.
-/

namespace ReproItSdk
namespace AutomaticWorld

open AutomaticWorldCoordinator

variable {Digest Replay : Type}

/-! ## Counting observations at a position -/

namespace ObservationLog

/-- Whether an observation is the one of a class at a position. -/
def isAt (observationClass : AutomaticObservationClass) (position : Nat) (log : ObservationLog) :
    Bool :=
  log.observationClass == observationClass && log.sessionPosition == position

/-- Appending to a stream keeps the position. -/
@[simp] theorem isAt_append (observationClass : AutomaticObservationClass) (position : Nat)
    (log : ObservationLog) (stream : AutomaticObservationStream) (chunk : Bytes) :
    (log.append stream chunk).isAt observationClass position =
      log.isAt observationClass position := by
  cases stream <;> rfl

end ObservationLog

namespace History

/-- Observations of a class at a position, however they stand. -/
def countAt (history : History) (observationClass : AutomaticObservationClass) (position : Nat) :
    Nat :=
  KeyedTable.total (fun _ log => (log.isAt observationClass position).toNat) history.live +
    history.finished.countP (fun entry => entry.1.isAt observationClass position) +
    history.lost.countP fun log => log.isAt observationClass position

/-- Changing a log without moving its observation keeps the counts. -/
theorem countAt_updateLog {history : History} {sessionId : Nat}
    {change : ObservationLog → ObservationLog} {observationClass : AutomaticObservationClass}
    {position : Nat}
    (still : ∀ log, (change log).isAt observationClass position =
      log.isAt observationClass position) :
    (history.updateLog sessionId change).countAt observationClass position =
      history.countAt observationClass position := by
  unfold updateLog
  cases found : history.live.lookup sessionId with
  | none => rfl
  | some log =>
      have moved := KeyedTable.total_insert_of_lookup
        (fun _ log => (log.isAt observationClass position).toNat) found (change log)
      simp only [still] at moved
      simp only [countAt]
      omega

/-- An observation that ends as finished keeps the counts. -/
theorem countAt_finish {history : History} {sessionId : Nat} {outcome : DependencyOutcome}
    {log : ObservationLog} {observationClass : AutomaticObservationClass} {position : Nat}
    (found : history.live.lookup sessionId = some log) :
    (finish outcome log { history with live := history.live.erase sessionId }).countAt
      observationClass position = history.countAt observationClass position := by
  have erased := KeyedTable.total_erase_of_lookup
    (fun _ log => (log.isAt observationClass position).toNat) found
  simp only [countAt, finish, List.countP_append, List.countP_singleton] at erased ⊢
  cases at' : log.isAt observationClass position <;> simp [at'] at erased ⊢ <;> omega

/-- An observation that ends as lost keeps the counts. -/
theorem countAt_lose {history : History} {sessionId : Nat} {log : ObservationLog}
    {observationClass : AutomaticObservationClass} {position : Nat}
    (found : history.live.lookup sessionId = some log) :
    (lose log { history with live := history.live.erase sessionId }).countAt
      observationClass position = history.countAt observationClass position := by
  have erased := KeyedTable.total_erase_of_lookup
    (fun _ log => (log.isAt observationClass position).toNat) found
  simp only [countAt, lose, List.countP_append, List.countP_singleton] at erased ⊢
  cases at' : log.isAt observationClass position <;> simp [at'] at erased ⊢ <;> omega

end History

/-! ## The invariant -/

/-- Every position below the next one of its class belongs to exactly one observation. -/
structure Positioned (world : AutomaticWorldCoordinator Digest Replay) (history : History) :
    Prop where
  tracks : Tracks world history
  counts : ∀ observationClass position, history.countAt observationClass position =
    if position < world.nextSessionPositions observationClass then 1 else 0

/-- Counts and next positions that did not move stay related. -/
theorem Positioned.moved {world next : AutomaticWorldCoordinator Digest Replay}
    {history later : History} (positioned : Positioned world history) (tracks : Tracks next later)
    (positions : next.nextSessionPositions = world.nextSessionPositions)
    (counts : ∀ observationClass position, later.countAt observationClass position =
      history.countAt observationClass position) : Positioned next later where
  tracks := tracks
  counts := by
    intro observationClass position
    rw [counts, positions]
    exact positioned.counts observationClass position

/-! ## One call -/

namespace AutomaticWorldCoordinator

section StillPositions

variable {core : Core Digest Replay} {world next : AutomaticWorldCoordinator Digest Replay}
  {sessionId : Nat}

theorem WriteEffect.positions {stream : AutomaticObservationStream} {chunk : Bytes}
    {reply : Except Error Unit} (effect : world.WriteEffect sessionId stream chunk reply next) :
    next.nextSessionPositions = world.nextSessionPositions := by
  cases effect <;> rfl

theorem DispatchEffect.positions {io : DispatchIo}
    {reply : Except Error AutomaticObservationAction}
    (effect : world.DispatchEffect core sessionId io reply next) :
    next.nextSessionPositions = world.nextSessionPositions := by
  cases effect <;> rfl

theorem ReadEffect.positions {reply : Except Error (Bytes × Bool)}
    (effect : world.ReadEffect sessionId reply next) :
    next.nextSessionPositions = world.nextSessionPositions := by
  cases effect <;> rfl

theorem FinishEffect.positions {outcome : DependencyOutcome} {io : FinishIo}
    {reply : Except Error Unit} (effect : world.FinishEffect core sessionId outcome io reply next) :
    next.nextSessionPositions = world.nextSessionPositions := by
  cases effect <;> rfl

theorem AbandonEffect.positions {reply : Except Error Unit}
    (effect : world.AbandonEffect sessionId reply next) :
    next.nextSessionPositions = world.nextSessionPositions := by
  cases effect <;> rfl

theorem UnownedEffect.positions {observationClass : AutomaticObservationClass}
    {causalParentId : Option OperationId} {evidence : Bytes} {io : UnownedIo}
    {reply : Except Error Unit}
    (effect : world.UnownedEffect core observationClass causalParentId evidence io reply next) :
    next.nextSessionPositions = world.nextSessionPositions := by
  cases effect <;> rfl

theorem BindEffect.positions {reply : Except Error Unit} (effect : world.BindEffect reply next) :
    next.nextSessionPositions = world.nextSessionPositions := by
  cases effect <;> rfl

end StillPositions
end AutomaticWorldCoordinator

/-- An open gives out the next position of its class. -/
theorem positioned_open (core : Core Digest Replay)
    {world : AutomaticWorldCoordinator Digest Replay} {history : History}
    (positioned : Positioned world history) (sessionId : Nat)
    (observationClass : AutomaticObservationClass) (causalParentId : Option OperationId)
    (semanticContract : Bool) (io : OpenIo) :
    Positioned
      (perform core world
        (.openObservation sessionId observationClass causalParentId semanticContract io)).2
      (history.record (Runs.answer (perform core) world
        (.openObservation sessionId observationClass causalParentId semanticContract io))) := by
  have tracks := tracks_perform core world history
    (.openObservation sessionId observationClass causalParentId semanticContract io)
    positioned.tracks
  have effect := openObservationInner_effect world sessionId observationClass causalParentId
    semanticContract io
  simp only [perform, Runs.answer, Prod.map_fst, Prod.map_snd, id_eq] at tracks ⊢
  generalize (world.openObservationInner sessionId observationClass causalParentId semanticContract
    io).1 = reply at effect tracks ⊢
  generalize (world.openObservationInner sessionId observationClass causalParentId semanticContract
    io).2 = next at effect tracks ⊢
  cases effect with
  | refused error => exact positioned.moved tracks rfl fun _ _ => rfl
  | silent error spool quiet others => exact positioned.moved tracks rfl fun _ _ => rfl
  | opened fresh registered bounded =>
      refine ⟨tracks, ?_⟩
      intro otherClass position
      have counted := positioned.counts otherClass position
      have absent := positioned.tracks.no_log fresh
      simp only [History.record, Except.map, History.countAt] at counted ⊢
      rw [KeyedTable.total_insert_of_lookup_none _ absent]
      by_cases sameClass : otherClass = observationClass
      · subst sameClass
        simp only [ObservationLog.isAt, beq_self_eq_true, Bool.true_and, Function.update_self]
          at counted ⊢
        by_cases samePosition : position = world.nextSessionPositions otherClass
        · subst samePosition
          simp only [Nat.lt_irrefl, if_false] at counted
          simp only [beq_self_eq_true, Bool.toNat_true, Nat.lt_succ_self, if_true]
          omega
        · have different : (world.nextSessionPositions otherClass == position) = false := by
            simpa using Ne.symm samePosition
          simp only [different, Bool.toNat_false]
          split at counted <;> split <;> omega
      · have different : (observationClass == otherClass) = false := by
          simpa using Ne.symm sameClass
        simp only [ObservationLog.isAt, different, Bool.false_and, Bool.toNat_false,
          Function.update_of_ne sameClass] at counted ⊢
        omega

/-- A finish moves an observation to the finished or the lost ones. -/
theorem positioned_finish (core : Core Digest Replay)
    {world : AutomaticWorldCoordinator Digest Replay} {history : History}
    (positioned : Positioned world history) (sessionId : Nat) (outcome : DependencyOutcome)
    (sessionPosition : Nat) (io : FinishIo) :
    Positioned
      (perform core world (.finishObservation sessionId outcome sessionPosition io)).2
      (history.record (Runs.answer (perform core) world
        (.finishObservation sessionId outcome sessionPosition io))) := by
  have tracks := tracks_perform core world history
    (.finishObservation sessionId outcome sessionPosition io) positioned.tracks
  refine positioned.moved tracks ?_ fun observationClass position => ?_
  · exact (finishObservation_effect core world sessionId outcome sessionPosition io).positions
  · simp only [History.record, History.endLog, Runs.answer]
    cases found : history.live.lookup sessionId with
    | none => rfl
    | some log =>
        dsimp only
        split
        · exact History.countAt_finish found
        · exact History.countAt_lose found

/-- Every session call keeps the positions counted. -/
theorem positioned_perform (core : Core Digest Replay)
    (world : AutomaticWorldCoordinator Digest Replay) (history : History) (call : SessionCall)
    (positioned : Positioned world history) :
    Positioned (perform core world call).2
      (history.record (Runs.answer (perform core) world call)) := by
  have tracks := tracks_perform core world history call positioned.tracks
  cases call with
  | openObservation sessionId observationClass causalParentId semanticContract io =>
      exact positioned_open core positioned sessionId observationClass causalParentId
        semanticContract io
  | writeObservation sessionId stream chunk io =>
      refine positioned.moved tracks ?_ fun observationClass position => ?_
      · exact (writeObservation_effect world sessionId stream chunk io).positions
      · simp only [History.record, Runs.answer]
        split
        · exact History.countAt_updateLog fun log => log.isAt_append _ _ stream chunk
        · rfl
  | dispatchObservation sessionId io =>
      refine positioned.moved tracks ?_ fun observationClass position => ?_
      · exact (dispatchObservation_effect core world sessionId io).positions
      · simp only [History.record, Runs.answer]
        split
        · exact History.countAt_updateLog fun _ => rfl
        · rfl
  | readObservationResponse sessionId io =>
      refine positioned.moved tracks ?_ fun _ _ => rfl
      exact (readObservationResponse_effect world sessionId io).positions
  | finishObservation sessionId outcome sessionPosition io =>
      exact positioned_finish core positioned sessionId outcome sessionPosition io
  | abandonObservation sessionId =>
      refine positioned.moved tracks ?_ fun observationClass position => ?_
      · exact (abandonObservation_effect world sessionId).positions
      · simp only [History.record, History.endLog, Runs.answer]
        cases found : history.live.lookup sessionId with
        | none => rfl
        | some log => exact History.countAt_lose found
  | markUnowned observationClass causalParentId evidence io =>
      refine positioned.moved tracks ?_ fun observationClass position => ?_
      · exact (markUnowned_effect core world observationClass causalParentId evidence io).positions
      · simp only [History.record, Runs.answer]
        split <;> rfl
  | bindNativeSentinelCoverage evidence =>
      refine positioned.moved tracks ?_ fun _ _ => rfl
      exact (bindNativeSentinelCoverage_effect core world evidence).positions
  | invalidateAmbientContext => exact positioned.moved tracks rfl fun _ _ => rfl

/-! ## Runs -/

/-- Every run keeps the positions counted. -/
theorem positioned_preserved (core : Core Digest Replay) :
    Preserved core (Positioned : AutomaticWorldCoordinator Digest Replay → History → Prop) where
  session := positioned_perform core
  numbered _ _ _ positioned :=
    positioned.moved ((tracks_preserved core).numbered _ _ _ positioned.tracks) rfl fun _ _ => rfl
  dropped _ _ positioned :=
    positioned.moved ((tracks_preserved core).dropped _ _ positioned.tracks) rfl fun _ _ => rfl

/-- Observations at each position, after every run of a capture. -/
theorem positioned_run (core : Core Digest Replay) (operationId : OperationId)
    (registrations : AutomaticObservationClass → Option (AutomaticObservationRegistration Digest))
    (calls : List WorldCall) :
    Positioned (observedRun core (newWithRegistrations operationId registrations) calls).1
      (observedRun core (newWithRegistrations operationId registrations) calls).2 := by
  refine (positioned_preserved core).run ⟨tracks_empty rfl, ?_⟩ calls
  intro observationClass position
  rfl

/-- Positions of the finished observations of a class. -/
def History.positions (history : History) (observationClass : AutomaticObservationClass) :
    List Nat :=
  (history.finished.filter fun entry =>
    entry.1.observationClass == observationClass).map fun entry => entry.1.sessionPosition

/-- Once every observation has finished, the positions of a class are an initial segment. -/
theorem positions_perm_range {world : AutomaticWorldCoordinator Digest Replay} {history : History}
    (positioned : Positioned world history)
    (settled : ∀ sessionId, history.live.lookup sessionId = none) (kept : history.lost = [])
    (observationClass : AutomaticObservationClass) :
    (history.positions observationClass).Perm
      (List.range (world.nextSessionPositions observationClass)) := by
  have noneLive : history.live.entries = [] :=
    List.length_eq_zero_iff.mp ((KeyedTable.size_eq_zero_iff history.live).mpr settled)
  rw [List.perm_iff_count]
  intro position
  have counted := positioned.counts observationClass position
  simp only [History.countAt, KeyedTable.total, noneLive, kept, List.map_nil, List.sum_nil,
    List.countP_nil, Nat.zero_add, Nat.add_zero] at counted
  rw [List.count_range, ← counted, History.positions, List.count, List.countP_map,
    List.countP_filter]
  refine List.countP_congr fun entry _ => ?_
  simp [ObservationLog.isAt, and_comm]

end AutomaticWorld
end ReproItSdk
