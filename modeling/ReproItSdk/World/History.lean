import ReproItSdk.World.Publications

/-! # History of a run

The history of a run is read off the session calls and their replies: what was written to each
observation, in order, and how each observation ended.  It never looks at the sessions of the
coordinator.  The tracking relation says that the sessions of the coordinator and the history agree.

Main results:

- Function {lit}`observedRun`: the run of a coordinator with its history.
- Theorem {lit}`Preserved.run`: what every session call preserves, every run preserves.
-/

namespace ReproItSdk
namespace AutomaticWorld

variable {Digest Replay : Type}

/-! ## Logs -/

/-- Everything a run did to one observation. -/
structure ObservationLog where
  sessionId : Nat
  observationClass : AutomaticObservationClass
  causalParentId : Option OperationId
  sessionPosition : Nat
  request : Bytes
  response : Bytes
  dispatched : Bool
deriving DecidableEq, Repr

namespace ObservationLog

/-- Append a chunk to one stream of a log. -/
def append (log : ObservationLog) (stream : AutomaticObservationStream) (chunk : Bytes) :
    ObservationLog :=
  match stream with
  | .request => { log with request := log.request ++ chunk }
  | .response => { log with response := log.response ++ chunk }

end ObservationLog

/-- An unowned observation that left an artifact. -/
structure UnownedLog where
  sequence : Nat
  evidence : Bytes
  objectId : ObjectId
deriving DecidableEq, Repr

/-- Logs of a run: the observations that are open, those that finished, those that were lost, and
the unowned observations that left an artifact.  The drawn object identifiers are the fresh ones
the run took. -/
structure History where
  live : KeyedTable Nat ObservationLog
  finished : List (ObservationLog × DependencyOutcome)
  lost : List ObservationLog
  unowned : List UnownedLog
  drawn : List ObjectId

namespace History

/-- History of a coordinator that answered no call. -/
def empty : History where
  live := ∅
  finished := []
  lost := []
  unowned := []
  drawn := []

/-- Change the log of an open observation. -/
def updateLog (history : History) (sessionId : Nat) (change : ObservationLog → ObservationLog) :
    History :=
  match history.live.lookup sessionId with
  | none => history
  | some log => { history with live := history.live.insert sessionId (change log) }

/-- End an open observation. -/
def endLog (history : History) (sessionId : Nat) (ending : ObservationLog → History → History) :
    History :=
  match history.live.lookup sessionId with
  | none => history
  | some log => ending log { history with live := history.live.erase sessionId }

/-- Count an observation as lost. -/
def lose (log : ObservationLog) (history : History) : History :=
  { history with lost := history.lost ++ [log] }

/-- Count an observation as finished. -/
def finish (outcome : DependencyOutcome) (log : ObservationLog) (history : History) : History :=
  { history with finished := history.finished ++ [(log, outcome)] }

/-- Object identifiers that publishing a session of a class draws. -/
def drawnIds (observationClass : AutomaticObservationClass) (io : FinishIo) : List ObjectId :=
  (if isDependencyClass observationClass then io.requestObjectId.toOption.toList else []) ++
    io.responseObjectId.toOption.toList

/-- Draw object identifiers. -/
def draw (objectIds : List ObjectId) (history : History) : History :=
  { history with drawn := history.drawn ++ objectIds }

/-- History after one more answered session call. -/
def record (history : History) (answer : SessionAnswer Digest Replay) : History :=
  match answer.call with
  | .openObservation sessionId observationClass causalParentId _ _ =>
      match answer.reply with
      | .ok (.position sessionPosition) =>
          { history with
            live := history.live.insert sessionId
              { sessionId := sessionId
                observationClass := observationClass
                causalParentId := causalParentId
                sessionPosition := sessionPosition
                request := []
                response := []
                dispatched := false } }
      | _ => history
  | .writeObservation sessionId stream chunk _ =>
      match answer.reply with
      | .ok _ => history.updateLog sessionId fun log => log.append stream chunk
      | .error _ => history
  | .dispatchObservation sessionId _ =>
      match answer.reply with
      | .ok _ => history.updateLog sessionId fun log => { log with dispatched := true }
      | .error _ => history
  | .finishObservation sessionId outcome _ io =>
      history.endLog sessionId fun log history =>
        let history := history.draw (drawnIds log.observationClass io)
        match answer.reply with
        | .ok _ => history.finish outcome log
        | .error _ => history.lose log
  | .abandonObservation sessionId => history.endLog sessionId lose
  | .markUnowned _ _ evidence io =>
      match answer.before.unownedObjectId evidence io with
      | some objectId =>
          { history with
            unowned := history.unowned ++
              [{ sequence := answer.before.observations.length
                 evidence := evidence
                 objectId := objectId }]
            drawn := history.drawn ++ [objectId] }
      | none => history
  | .readObservationResponse .. | .bindNativeSentinelCoverage _ | .invalidateAmbientContext =>
      history

end History

/-! ## Observed runs -/

open AutomaticWorldCoordinator

/-- A coordinator together with the history of its run. -/
abbrev Observed (Digest Replay : Type) : Type :=
  AutomaticWorldCoordinator Digest Replay × History

/-- Answer one public call and record the session calls it made. -/
def observedCall (core : Core Digest Replay) (state : Observed Digest Replay) (call : WorldCall) :
    Except Error Reply × Observed Digest Replay :=
  let made := state.1.call core call
  (made.1, made.2.2, made.2.1.foldl History.record state.2)

/-- The observed run of a coordinator from its creation. -/
def observedRun (core : Core Digest Replay) (world : AutomaticWorldCoordinator Digest Replay)
    (calls : List WorldCall) : Observed Digest Replay :=
  Runs.final (observedCall core) (world, History.empty) calls

/-- A relation between the coordinator and its history that every session call preserves, and the
two steps of an ambient capture that are not session calls. -/
structure Preserved (core : Core Digest Replay)
    (relation : AutomaticWorldCoordinator Digest Replay → History → Prop) : Prop where
  session : ∀ world history call, relation world history →
    relation (perform core world call).2
      (history.record (Runs.answer (perform core) world call))
  numbered : ∀ world history nextInternalSession, relation world history →
    relation { world with nextInternalSession := nextInternalSession } history
  dropped : ∀ world history, relation world history → relation world.dropObservation history

section Preserved

variable {core : Core Digest Replay}
  {relation : AutomaticWorldCoordinator Digest Replay → History → Prop}
  {world : AutomaticWorldCoordinator Digest Replay} {history : History}

/-- A chain of session calls preserves the relation. -/
theorem Preserved.attempt (preserved : Preserved core relation) (holds : relation world history)
    (calls : List SessionCall) :
    relation (Runs.attempt (perform core) world calls).2.2
      ((Runs.attempt (perform core) world calls).2.1.foldl History.record history) :=
  Runs.attempt_preserves
    (fun world history call holds (_ : True) => preserved.session world history call holds)
    calls holds fun _ _ => trivial

/-- An internal session preserves the relation. -/
theorem Preserved.captureInternal (preserved : Preserved core relation)
    (holds : relation world history) (observationClass : AutomaticObservationClass)
    (request response : Bytes) (io : InternalIo) :
    relation (world.captureInternal core observationClass request response io).2.2
      ((world.captureInternal core observationClass request response io).2.1.foldl
        History.record history) := by
  unfold AutomaticWorldCoordinator.captureInternal
  split
  · exact holds
  · exact preserved.attempt (preserved.numbered _ _ _ holds) _

/-- An ambient capture preserves the relation. -/
theorem Preserved.captureAmbient (preserved : Preserved core relation)
    (holds : relation world history) (io : AmbientIo) :
    relation (world.captureAmbient core io).2.2
      ((world.captureAmbient core io).2.1.foldl History.record history) := by
  unfold AutomaticWorldCoordinator.captureAmbient
  split
  · exact preserved.dropped _ _ holds
  · split
    · exact holds
    · have environment := preserved.captureInternal holds .environment
        (asciiBytes "process-environment") ‹Bytes› io.environmentSession
      dsimp only
      split
      · exact environment
      · rw [List.foldl_append]
        unfold captureClock
        split
        · exact environment
        · exact preserved.captureInternal environment _ _ _ _

/-- A public call preserves the relation. -/
theorem Preserved.call (preserved : Preserved core relation) (state : Observed Digest Replay)
    (call : WorldCall) (holds : relation state.1 state.2) :
    relation (observedCall core state call).2.1 (observedCall core state call).2.2 := by
  cases call with
  | session call => exact preserved.session state.1 state.2 call holds
  | captureAmbient io => exact preserved.captureAmbient holds io

/-- Every run preserves the relation. -/
theorem Preserved.run (preserved : Preserved core relation)
    (holds : relation world History.empty) (calls : List WorldCall) :
    relation (observedRun core world calls).1 (observedRun core world calls).2 :=
  Runs.final_preserves (fun state : Observed Digest Replay => relation state.1 state.2)
    (fun state call holds (_ : True) => preserved.call state call holds) calls holds
    fun _ _ => trivial

end Preserved
end AutomaticWorld
end ReproItSdk
