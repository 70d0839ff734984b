import ReproItSdk.World.History

/-! # Tracking the sessions by the history

The sessions of the coordinator and the open observations of the history agree in every run, and
while no session was lost the spool files hold exactly the logged bytes.

Main results:

- Theorem {lit}`tracks_perform`: every session call preserves the tracking relation.
- Theorem {lit}`tracks_preserved`: so does every run.
-/

namespace ReproItSdk
namespace AutomaticWorld

open AutomaticWorldCoordinator

variable {Digest Replay : Type}

/-! ## The relation -/

/-- A session and the log of its observation agree. -/
structure SessionAgrees (world : AutomaticWorldCoordinator Digest Replay) (sessionId : Nat)
    (session : ObservationSession) (log : ObservationLog) : Prop where
  sameId : log.sessionId = sessionId
  sameClass : session.observationClass = log.observationClass
  sameParent : session.causalParentId = log.causalParentId
  samePosition : session.sessionPosition = log.sessionPosition
  requestPath : session.requestPath = .sessionRequest sessionId
  responsePath : session.responsePath = .sessionResponse sessionId
  requestBounded : session.requestBytes ≤ maxWorldArtifactBytes
  responseBounded : world.captures = true → session.responseBytes ≤ maxWorldArtifactBytes
  capturing : session.state = .capture → world.captures = true ∧ log.dispatched = true
  replaying : ∀ offset, session.state = .replay offset → log.dispatched = true
  requestStored : world.incompleteSession = false →
    world.spool (.sessionRequest sessionId) = some log.request ∧
      log.request.length = session.requestBytes
  responseStored : world.incompleteSession = false → world.captures = true →
    world.spool (.sessionResponse sessionId) = some log.response ∧
      log.response.length = session.responseBytes

/-- The two tables agree about one session identifier. -/
inductive SessionTracked (world : AutomaticWorldCoordinator Digest Replay) (sessionId : Nat) :
    Option ObservationSession → Option ObservationLog → Prop
  | absent : SessionTracked world sessionId none none
  | present {session : ObservationSession} {log : ObservationLog}
      (agrees : SessionAgrees world sessionId session log) :
      SessionTracked world sessionId (some session) (some log)

/-- The coordinator and the history agree. -/
structure Tracks (world : AutomaticWorldCoordinator Digest Replay) (history : History) : Prop where
  sessions : ∀ sessionId, SessionTracked world sessionId (world.sessions.lookup sessionId)
    (history.live.lookup sessionId)
  lost : history.lost ≠ [] → world.incompleteSession = true
  finished : ∀ entry ∈ history.finished, entry.1.dispatched = true

/-- A coordinator without sessions tracks the empty history. -/
theorem tracks_empty {world : AutomaticWorldCoordinator Digest Replay}
    (fresh : world.sessions = ∅) : Tracks world History.empty where
  sessions := by
    intro sessionId
    rw [fresh]
    exact .absent
  lost := fun some => absurd rfl some
  finished := by simp [History.empty]

/-! ## Frames -/

/-- What a call leaves alone for the sessions it does not name. -/
structure SessionFrame (before after : AutomaticWorldCoordinator Digest Replay)
    (touched : Nat → Prop) : Prop where
  captures : after.captures = before.captures
  incomplete : after.incompleteSession = false → before.incompleteSession = false
  spool : after.incompleteSession = false → ∀ sessionId, ¬ touched sessionId →
    after.spool (.sessionRequest sessionId) = before.spool (.sessionRequest sessionId) ∧
      after.spool (.sessionResponse sessionId) = before.spool (.sessionResponse sessionId)

/-- Agreement of a session survives a call that does not touch it. -/
theorem SessionAgrees.framed {before after : AutomaticWorldCoordinator Digest Replay}
    {touched : Nat → Prop} {sessionId : Nat} {session : ObservationSession} {log : ObservationLog}
    (agrees : SessionAgrees before sessionId session log)
    (frame : SessionFrame before after touched) (apart : ¬ touched sessionId) :
    SessionAgrees after sessionId session log where
  sameId := agrees.sameId
  sameClass := agrees.sameClass
  sameParent := agrees.sameParent
  samePosition := agrees.samePosition
  requestPath := agrees.requestPath
  responsePath := agrees.responsePath
  requestBounded := agrees.requestBounded
  responseBounded := by
    rw [frame.captures]
    exact agrees.responseBounded
  capturing := by
    rw [frame.captures]
    exact agrees.capturing
  replaying := agrees.replaying
  requestStored := by
    intro intact
    rw [(frame.spool intact sessionId apart).1]
    exact agrees.requestStored (frame.incomplete intact)
  responseStored := by
    intro intact
    rw [(frame.spool intact sessionId apart).2, frame.captures]
    exact agrees.responseStored (frame.incomplete intact)

/-- Agreement about an identifier survives a call that does not touch it. -/
theorem SessionTracked.framed {before after : AutomaticWorldCoordinator Digest Replay}
    {touched : Nat → Prop} {sessionId : Nat} {session : Option ObservationSession}
    {log : Option ObservationLog} (tracked : SessionTracked before sessionId session log)
    (frame : SessionFrame before after touched) (apart : ¬ touched sessionId) :
    SessionTracked after sessionId session log := by
  cases tracked with
  | absent => exact .absent
  | present agrees => exact .present (agrees.framed frame apart)

/-- A call that leaves the sessions alone keeps the two tables in agreement. -/
theorem Tracks.untouched {before after : AutomaticWorldCoordinator Digest Replay}
    {history : History} (tracks : Tracks before history)
    (frame : SessionFrame before after fun _ => False) (same : after.sessions = before.sessions)
    (sessionId : Nat) :
    SessionTracked after sessionId (after.sessions.lookup sessionId)
      (history.live.lookup sessionId) := by
  rw [same]
  exact (tracks.sessions sessionId).framed frame not_false

/-- A call that changes one session keeps the two tables in agreement if they agree about it. -/
theorem Tracks.changed {before after : AutomaticWorldCoordinator Digest Replay}
    {history : History} {live : KeyedTable Nat ObservationLog} (tracks : Tracks before history)
    (changed : Nat) (frame : SessionFrame before after (· = changed))
    (sessions : ∀ other, other ≠ changed →
      after.sessions.lookup other = before.sessions.lookup other)
    (logs : ∀ other, other ≠ changed → live.lookup other = history.live.lookup other)
    (tracked : SessionTracked after changed (after.sessions.lookup changed) (live.lookup changed))
    (sessionId : Nat) :
    SessionTracked after sessionId (after.sessions.lookup sessionId) (live.lookup sessionId) := by
  by_cases same : sessionId = changed
  · subst same
    exact tracked
  · rw [sessions sessionId same, logs sessionId same]
    exact (tracks.sessions sessionId).framed frame same

/-- The log of an open session. -/
theorem Tracks.log_of_session {world : AutomaticWorldCoordinator Digest Replay}
    {history : History} (tracks : Tracks world history) {sessionId : Nat}
    {session : ObservationSession} (present : world.sessions.lookup sessionId = some session) :
    ∃ log, history.live.lookup sessionId = some log ∧
      SessionAgrees world sessionId session log := by
  have tracked := tracks.sessions sessionId
  rw [present] at tracked
  cases found : history.live.lookup sessionId with
  | none =>
      rw [found] at tracked
      nomatch tracked
  | some log =>
      rw [found] at tracked
      cases tracked with
      | present agrees => exact ⟨log, rfl, agrees⟩

/-- A session identifier without session has no open observation. -/
theorem Tracks.no_log {world : AutomaticWorldCoordinator Digest Replay}
    {history : History} (tracks : Tracks world history) {sessionId : Nat}
    (absent : world.sessions.lookup sessionId = none) : history.live.lookup sessionId = none := by
  have tracked := tracks.sessions sessionId
  rw [absent] at tracked
  cases found : history.live.lookup sessionId with
  | none => rfl
  | some log =>
      rw [found] at tracked
      nomatch tracked

/-! ## One call -/

/-- A record that keeps the table of open observations and the endings keeps the history. -/
theorem Tracks.kept {before after : AutomaticWorldCoordinator Digest Replay} {history : History}
    (tracks : Tracks before history) (frame : SessionFrame before after fun _ => False)
    (same : after.sessions = before.sessions)
    (incomplete : before.incompleteSession = true → after.incompleteSession = true) :
    Tracks after history where
  sessions := tracks.untouched frame same
  lost := fun some => incomplete (tracks.lost some)
  finished := tracks.finished

/-- A session that was just opened agrees with an empty log. -/
theorem sessionAgrees_opened (world : AutomaticWorldCoordinator Digest Replay) (sessionId : Nat)
    (observationClass : AutomaticObservationClass) (causalParentId : Option OperationId)
    (semanticContract : Bool) (sessionPosition : Nat)
    (requestCreated : world.spool (.sessionRequest sessionId) = some [])
    (responseCreated : world.spool (.sessionResponse sessionId) = some []) :
    SessionAgrees world sessionId
      (.opened sessionId observationClass causalParentId semanticContract sessionPosition)
      { sessionId := sessionId
        observationClass := observationClass
        causalParentId := causalParentId
        sessionPosition := sessionPosition
        request := []
        response := []
        dispatched := false } where
  sameId := rfl
  sameClass := rfl
  sameParent := rfl
  samePosition := rfl
  requestPath := rfl
  responsePath := rfl
  requestBounded := Nat.zero_le _
  responseBounded := fun _ => Nat.zero_le _
  capturing := by simp [ObservationSession.opened]
  replaying := by simp [ObservationSession.opened]
  requestStored := fun _ => ⟨requestCreated, rfl⟩
  responseStored := fun _ _ => ⟨responseCreated, rfl⟩

/-- Opening keeps the two tables in agreement. -/
theorem tracks_open {world next : AutomaticWorldCoordinator Digest Replay} {history : History}
    {sessionId : Nat} {observationClass : AutomaticObservationClass}
    {causalParentId : Option OperationId} {semanticContract : Bool} {io : OpenIo}
    {reply : Except Error Nat} (tracks : Tracks world history)
    (effect : world.OpenEffect sessionId observationClass causalParentId semanticContract io
      reply next) :
    Tracks next (history.record
      { before := world
        call := .openObservation sessionId observationClass causalParentId semanticContract io
        reply := reply.map .position
        after := next }) := by
  cases effect with
  | refused error =>
      exact tracks.kept ⟨rfl, by simp [loseSession], fun _ _ _ => ⟨rfl, rfl⟩⟩ rfl fun _ => rfl
  | silent error spool quiet others =>
      have absent := tracks.no_log quiet.2.2.1
      refine ⟨?_, tracks.lost, tracks.finished⟩
      refine tracks.changed sessionId ⟨rfl, id, ?_⟩ (fun _ _ => rfl) (fun _ _ => rfl) ?_
      · intro _ other apart
        exact ⟨others _ (by simpa using apart) (by simp), others _ (by simp) (by simpa using apart)⟩
      · show SessionTracked _ _ (world.sessions.lookup sessionId) (history.live.lookup sessionId)
        rw [quiet.2.2.1, absent]
        exact .absent
  | opened fresh registered bounded =>
      simp only [History.record, Except.map]
      refine ⟨?_, tracks.lost, tracks.finished⟩
      refine tracks.changed sessionId ⟨rfl, id, ?_⟩
        (fun other apart => AList.lookup_insert_ne apart)
        (fun other apart => AList.lookup_insert_ne apart) ?_
      · intro _ other apart
        simp [createFile, apart]
      · simp only [AList.lookup_insert]
        refine .present (sessionAgrees_opened _ _ _ _ _ _ ?_ ?_)
        · simp [createFile]
        · simp [createFile]

/-- Changing the counts or the state of an open session keeps its agreement once the World is
poisoned. -/
theorem SessionAgrees.poisoned {world next : AutomaticWorldCoordinator Digest Replay}
    {sessionId : Nat} {session changed : ObservationSession} {log : ObservationLog}
    (agrees : SessionAgrees world sessionId session log) (captures : next.captures = world.captures)
    (lost : next.incompleteSession = true)
    (kept : { changed with
      requestBytes := session.requestBytes
      responseBytes := session.responseBytes
      state := session.state } = session)
    (state : changed.state = session.state ∨ changed.state = .overflowed)
    (requestBounded : changed.requestBytes ≤ maxWorldArtifactBytes)
    (responseBounded : world.captures = true → changed.responseBytes ≤ maxWorldArtifactBytes) :
    SessionAgrees next sessionId changed log := by
  rw [ObservationSession.mk.injEq] at kept
  obtain ⟨parent, sameClass, -, requestPath, -, responsePath, position, -, -⟩ := kept
  refine ⟨agrees.sameId, sameClass.trans agrees.sameClass, parent.trans agrees.sameParent,
    position.trans agrees.samePosition, requestPath.trans agrees.requestPath,
    responsePath.trans agrees.responsePath, requestBounded, ?_, ?_, ?_, ?_, ?_⟩
  · rwa [captures]
  · rw [captures]
    rcases state with same | overflowed
    · rw [same]
      exact agrees.capturing
    · simp [overflowed]
  · rcases state with same | overflowed
    · rw [same]
      exact agrees.replaying
    · simp [overflowed]
  · simp [lost]
  · simp [lost]

/-- {lit}`overflow_session` keeps the two tables in agreement. -/
theorem tracks_overflowSession {world : AutomaticWorldCoordinator Digest Replay}
    {history : History} (tracks : Tracks world history) (sessionId : Nat) :
    Tracks (world.overflowSession sessionId) history := by
  refine ⟨?_, fun _ => rfl, tracks.finished⟩
  cases found : world.sessions.lookup sessionId with
  | none =>
      exact tracks.untouched ⟨rfl, by simp [overflowSession], fun _ _ _ => ⟨rfl, rfl⟩⟩
        (by simp [overflowSession, found])
  | some session =>
      obtain ⟨log, logged, agrees⟩ := tracks.log_of_session found
      refine tracks.changed sessionId ⟨rfl, by simp [overflowSession], fun _ _ _ => ⟨rfl, rfl⟩⟩ ?_
        (fun _ _ => rfl) ?_
      · intro other apart
        simp [overflowSession, found, AList.lookup_insert_ne apart]
      · simp only [overflowSession, found, AList.lookup_insert, logged]
        exact .present (agrees.poisoned rfl rfl rfl (.inr rfl) agrees.requestBounded
          agrees.responseBounded)

/-- A session agrees with its log after a chunk was appended to both. -/
theorem SessionAgrees.appended {world next : AutomaticWorldCoordinator Digest Replay}
    {sessionId : Nat} {session : ObservationSession} {log : ObservationLog}
    {stream : AutomaticObservationStream} {chunk content : Bytes}
    (agrees : SessionAgrees world sessionId session log)
    (accepted : session.accepts stream = true)
    (bounded : session.streamBytes stream + chunk.length ≤ maxWorldArtifactBytes)
    (stored : world.spool (session.streamPath stream) = some content)
    (captures : next.captures = world.captures)
    (incomplete : next.incompleteSession = world.incompleteSession)
    (spool : next.spool = Function.update world.spool (session.streamPath stream)
      (some (content ++ chunk))) :
    SessionAgrees next sessionId
      (session.setStreamBytes (session.streamBytes stream + chunk.length) stream)
      (log.append stream chunk) := by
  cases stream with
  | request =>
      refine ⟨agrees.sameId, agrees.sameClass, agrees.sameParent, agrees.samePosition,
        agrees.requestPath, agrees.responsePath, bounded, ?_, ?_, agrees.replaying, ?_, ?_⟩
      · rw [captures]
        exact agrees.responseBounded
      · rw [captures]
        exact agrees.capturing
      · intro intact
        rw [incomplete] at intact
        obtain ⟨file, counted⟩ := agrees.requestStored intact
        rw [spool]
        simp only [ObservationSession.streamPath, agrees.requestPath] at stored ⊢
        cases stored.symm.trans file
        simp [ObservationLog.append, ObservationSession.setStreamBytes,
          ObservationSession.streamBytes, counted]
      · intro intact capturing
        rw [incomplete] at intact
        rw [captures] at capturing
        rw [spool]
        simpa [ObservationSession.streamPath, agrees.requestPath, ObservationLog.append,
          ObservationSession.setStreamBytes] using agrees.responseStored intact capturing
  | response =>
      have capturing : session.state = .capture := by
        unfold ObservationSession.accepts at accepted
        split at accepted <;> simp_all
      refine ⟨agrees.sameId, agrees.sameClass, agrees.sameParent, agrees.samePosition,
        agrees.requestPath, agrees.responsePath, agrees.requestBounded, fun _ => bounded, ?_,
        agrees.replaying, ?_, ?_⟩
      · rw [captures]
        exact agrees.capturing
      · intro intact
        rw [incomplete] at intact
        rw [spool]
        simpa [ObservationSession.streamPath, agrees.responsePath, ObservationLog.append,
          ObservationSession.setStreamBytes] using agrees.requestStored intact
      · intro intact _
        rw [incomplete] at intact
        obtain ⟨file, counted⟩ := agrees.responseStored intact (agrees.capturing capturing).1
        rw [spool]
        simp only [ObservationSession.streamPath, agrees.responsePath] at stored ⊢
        cases stored.symm.trans file
        simp [ObservationLog.append, ObservationSession.setStreamBytes,
          ObservationSession.streamBytes, counted]

/-- Writing keeps the two tables in agreement. -/
theorem tracks_write {world next : AutomaticWorldCoordinator Digest Replay} {history : History}
    {sessionId : Nat} {stream : AutomaticObservationStream} {chunk : Bytes} {io : WriteIo}
    {reply : Except Error Unit} (tracks : Tracks world history)
    (effect : world.WriteEffect sessionId stream chunk reply next) :
    Tracks next (history.record
      { before := world
        call := .writeObservation sessionId stream chunk io
        reply := reply.map fun _ => .done
        after := next }) := by
  cases effect with
  | overflowed error => exact tracks_overflowSession tracks sessionId
  | unknown absent => exact tracks
  | wide session present accepted wide chunkBounded => exact tracks
  | torn error session present bounded spool =>
      obtain ⟨log, logged, agrees⟩ := tracks.log_of_session present
      refine ⟨?_, fun _ => rfl, tracks.finished⟩
      refine tracks.changed sessionId ⟨rfl, by simp, by simp⟩
        (fun other apart => AList.lookup_insert_ne apart) (fun _ _ => rfl) ?_
      show SessionTracked _ _ _ (history.live.lookup sessionId)
      simp only [AList.lookup_insert, logged]
      cases stream with
      | request =>
          exact .present (agrees.poisoned rfl rfl rfl (.inl rfl) bounded agrees.responseBounded)
      | response =>
          exact .present (agrees.poisoned rfl rfl rfl (.inl rfl) agrees.requestBounded
            fun _ => bounded)
  | appended session present accepted bounded content stored =>
      obtain ⟨log, logged, agrees⟩ := tracks.log_of_session present
      simp only [History.record, Except.map, History.updateLog, logged]
      refine ⟨?_, tracks.lost, tracks.finished⟩
      refine tracks.changed sessionId ⟨rfl, id, ?_⟩
        (fun other apart => AList.lookup_insert_ne apart)
        (fun other apart => AList.lookup_insert_ne apart) ?_
      · intro _ other apart
        have notRequest : SpoolFile.sessionRequest other ≠ session.streamPath stream := by
          cases stream <;> simp [ObservationSession.streamPath, agrees.requestPath,
            agrees.responsePath, apart]
        have notResponse : SpoolFile.sessionResponse other ≠ session.streamPath stream := by
          cases stream <;> simp [ObservationSession.streamPath, agrees.requestPath,
            agrees.responsePath, apart]
        exact ⟨Function.update_of_ne notRequest _ _, Function.update_of_ne notResponse _ _⟩
      · simp only [AList.lookup_insert]
        exact .present (agrees.appended accepted bounded stored rfl rfl rfl)

/-- A session that is answered by the recorded World agrees with its log. -/
theorem SessionAgrees.recorded {world next : AutomaticWorldCoordinator Digest Replay}
    {sessionId : Nat} {session : ObservationSession} {log : ObservationLog} {responseBytes : Nat}
    (agrees : SessionAgrees world sessionId session log) (replays : world.captures = false)
    (captures : next.captures = false)
    (incomplete : next.incompleteSession = false → world.incompleteSession = false)
    (spool : next.incompleteSession = false →
      next.spool (.sessionRequest sessionId) = world.spool (.sessionRequest sessionId)) :
    SessionAgrees next sessionId { session with responseBytes := responseBytes } log where
  sameId := agrees.sameId
  sameClass := agrees.sameClass
  sameParent := agrees.sameParent
  samePosition := agrees.samePosition
  requestPath := agrees.requestPath
  responsePath := agrees.responsePath
  requestBounded := agrees.requestBounded
  responseBounded := by simp [captures]
  capturing := by
    intro capturing
    exact absurd (agrees.capturing capturing).1 (by simp [replays])
  replaying := agrees.replaying
  requestStored := by
    intro intact
    rw [spool intact]
    exact agrees.requestStored (incomplete intact)
  responseStored := by simp [captures]

/-- Moving a session on to an answered state agrees with a dispatched log. -/
theorem SessionAgrees.dispatched {world next : AutomaticWorldCoordinator Digest Replay}
    {sessionId : Nat} {session : ObservationSession} {log : ObservationLog}
    {state : AutomaticObservationSessionState}
    (agrees : SessionAgrees world sessionId session log) (captures : next.captures = world.captures)
    (incomplete : next.incompleteSession = world.incompleteSession)
    (spool : next.spool = world.spool) (capturing : state = .capture → world.captures = true) :
    SessionAgrees next sessionId { session with state := state }
      { log with dispatched := true } where
  sameId := agrees.sameId
  sameClass := agrees.sameClass
  sameParent := agrees.sameParent
  samePosition := agrees.samePosition
  requestPath := agrees.requestPath
  responsePath := agrees.responsePath
  requestBounded := agrees.requestBounded
  responseBounded := by
    rw [captures]
    exact agrees.responseBounded
  capturing := by
    rw [captures]
    exact fun moved => ⟨capturing moved, rfl⟩
  replaying := fun _ _ => rfl
  requestStored := by
    rw [incomplete, spool]
    exact agrees.requestStored
  responseStored := by
    rw [incomplete, spool, captures]
    exact agrees.responseStored

/-- Dispatching keeps the two tables in agreement. -/
theorem tracks_dispatch {core : Core Digest Replay}
    {world next : AutomaticWorldCoordinator Digest Replay} {history : History} {sessionId : Nat}
    {io : DispatchIo} {reply : Except Error AutomaticObservationAction}
    (tracks : Tracks world history)
    (effect : world.DispatchEffect core sessionId io reply next) :
    Tracks next (history.record
      { before := world
        call := .dispatchObservation sessionId io
        reply := reply.map .action
        after := next }) := by
  have sameTable : ∀ {changed : ObservationSession} (other : Nat), other ≠ sessionId →
      (world.sessions.insert sessionId changed).lookup other = world.sessions.lookup other :=
    fun other apart => AList.lookup_insert_ne apart
  cases effect with
  | unknown absent => exact tracks
  | stalled error session present cause => exact tracks
  | overflowed session present =>
      obtain ⟨log, logged, agrees⟩ := tracks.log_of_session present
      refine ⟨?_, fun _ => rfl, tracks.finished⟩
      refine tracks.changed sessionId ⟨rfl, by simp, fun _ _ _ => ⟨rfl, rfl⟩⟩ sameTable
        (fun _ _ => rfl) ?_
      show SessionTracked _ _ _ (history.live.lookup sessionId)
      simp only [AList.lookup_insert, logged]
      exact .present (agrees.poisoned rfl rfl rfl (.inr rfl) agrees.requestBounded
        agrees.responseBounded)
  | captured session present requesting nonempty captures =>
      obtain ⟨log, logged, agrees⟩ := tracks.log_of_session present
      simp only [History.record, Except.map, History.updateLog, logged]
      refine ⟨?_, tracks.lost, tracks.finished⟩
      refine tracks.changed sessionId ⟨rfl, id, fun _ _ _ => ⟨rfl, rfl⟩⟩ sameTable
        (fun other apart => AList.lookup_insert_ne apart) ?_
      simp only [AList.lookup_insert]
      exact .present (agrees.dispatched rfl rfl rfl fun _ => by
        simp [AutomaticWorldCoordinator.captures, captures])
  | unanswered error session replay following present replays quiet =>
      exact tracks.kept
        ⟨by simp [AutomaticWorldCoordinator.captures, replays], id, fun _ _ _ => ⟨rfl, rfl⟩⟩ rfl id
  | unreserved session replay following recorded present replays =>
      obtain ⟨log, logged, agrees⟩ := tracks.log_of_session present
      have notCapturing : world.captures = false := by
        simp [AutomaticWorldCoordinator.captures, replays]
      refine ⟨?_, fun _ => rfl, tracks.finished⟩
      refine tracks.changed sessionId ⟨by simp [AutomaticWorldCoordinator.captures, replays],
        by simp, fun _ _ _ => ⟨rfl, rfl⟩⟩ sameTable (fun _ _ => rfl) ?_
      show SessionTracked _ _ _ (history.live.lookup sessionId)
      simp only [AList.lookup_insert, logged]
      exact .present (agrees.recorded notCapturing rfl (by simp) (by simp))
  | unwritten error session replay following recorded spool present requesting replays quiet
      others =>
      obtain ⟨log, logged, agrees⟩ := tracks.log_of_session present
      have notCapturing : world.captures = false := by
        simp [AutomaticWorldCoordinator.captures, replays]
      rw [agrees.responsePath] at others
      refine ⟨?_, tracks.lost, tracks.finished⟩
      refine tracks.changed sessionId
        ⟨by simp [AutomaticWorldCoordinator.captures, replays], id, ?_⟩ sameTable
        (fun _ _ => rfl) ?_
      · intro _ other apart
        exact ⟨others _ (by simp), others _ (by simpa using apart)⟩
      · show SessionTracked _ _ _ (history.live.lookup sessionId)
        simp only [AList.lookup_insert, logged]
        exact .present (agrees.recorded notCapturing rfl id fun _ => others _ (by simp))
  | replayed session replay following recorded spool present requesting replays others =>
      obtain ⟨log, logged, agrees⟩ := tracks.log_of_session present
      have notCapturing : world.captures = false := by
        simp [AutomaticWorldCoordinator.captures, replays]
      rw [agrees.responsePath] at others
      simp only [History.record, Except.map, History.updateLog, logged]
      refine ⟨?_, tracks.lost, tracks.finished⟩
      refine tracks.changed sessionId
        ⟨by simp [AutomaticWorldCoordinator.captures, replays], id, ?_⟩ sameTable
        (fun other apart => AList.lookup_insert_ne apart) ?_
      · intro _ other apart
        exact ⟨others _ (by simp), others _ (by simpa using apart)⟩
      · simp only [AList.lookup_insert]
        have answered : SessionAgrees
            { world with
              mode := .replay following
              sessions := world.sessions.insert sessionId
                { session with responseBytes := recorded.length, state := .replay 0 }
              reservation := world.reservation + recorded.length
              spool := spool }
            sessionId { session with responseBytes := recorded.length } log :=
          agrees.recorded notCapturing rfl id fun _ => others _ (by simp)
        exact .present (answered.dispatched rfl rfl rfl nofun)

/-- Reading keeps the two tables in agreement. -/
theorem tracks_read {world next : AutomaticWorldCoordinator Digest Replay} {history : History}
    {sessionId : Nat} {reply : Except Error (Bytes × Bool)} (tracks : Tracks world history)
    (effect : world.ReadEffect sessionId reply next) : Tracks next history := by
  cases effect with
  | refused error => exact tracks
  | advanced session before after chunk complete present replaying =>
      obtain ⟨log, logged, agrees⟩ := tracks.log_of_session present
      have moved : { log with dispatched := true } = log := by
        rw [← agrees.replaying before replaying]
      refine ⟨?_, tracks.lost, tracks.finished⟩
      refine tracks.changed sessionId ⟨rfl, id, fun _ _ _ => ⟨rfl, rfl⟩⟩
        (fun other apart => AList.lookup_insert_ne apart) (fun _ _ => rfl) ?_
      simp only [AList.lookup_insert, logged]
      rw [← moved]
      exact .present (agrees.dispatched rfl rfl rfl nofun)

/-- Erasing one identifier from both tables keeps them in agreement. -/
theorem Tracks.erased {world next : AutomaticWorldCoordinator Digest Replay} {history : History}
    (tracks : Tracks world history) (sessionId : Nat)
    (frame : SessionFrame world next fun _ => False)
    (erased : next.sessions = world.sessions.erase sessionId) (other : Nat) :
    SessionTracked next other (next.sessions.lookup other)
      ((history.live.erase sessionId).lookup other) := by
  refine tracks.changed sessionId
    ⟨frame.captures, frame.incomplete, fun intact other _ => frame.spool intact other not_false⟩
    ?_ (fun other apart => AList.lookup_erase_ne apart) ?_ other
  · intro other apart
    rw [erased, AList.lookup_erase_ne apart]
  · rw [erased, AList.lookup_erase, AList.lookup_erase]
    exact .absent

/-- A complete session belongs to a dispatched observation. -/
theorem SessionAgrees.dispatched_of_complete
    {world : AutomaticWorldCoordinator Digest Replay} {sessionId : Nat}
    {session : ObservationSession} {log : ObservationLog}
    (agrees : SessionAgrees world sessionId session log)
    (complete : session.responseComplete = true) : log.dispatched = true := by
  unfold ObservationSession.responseComplete at complete
  split at complete
  · rename_i capturing
    exact (agrees.capturing capturing).2
  · rename_i offset replaying
    exact agrees.replaying offset replaying
  · cases complete
  · cases complete

/-- A dispatched observation may join the finished ones. -/
theorem Tracks.finished_append {world : AutomaticWorldCoordinator Digest Replay}
    {history : History} (tracks : Tracks world history) {log : ObservationLog}
    {outcome : DependencyOutcome} (dispatched : log.dispatched = true) :
    ∀ entry ∈ history.finished ++ [(log, outcome)], entry.1.dispatched = true := by
  intro entry member
  rcases List.mem_append.mp member with earlier | last
  · exact tracks.finished entry earlier
  · rw [List.mem_singleton.mp last]
    exact dispatched

/-- Finishing keeps the two tables in agreement. -/
theorem tracks_finish {core : Core Digest Replay}
    {world next : AutomaticWorldCoordinator Digest Replay} {history : History} {sessionId : Nat}
    {outcome : DependencyOutcome} {sessionPosition : Nat} {io : FinishIo}
    {reply : Except Error Unit} (tracks : Tracks world history)
    (effect : world.FinishEffect core sessionId outcome io reply next) :
    Tracks next (history.record
      { before := world
        call := .finishObservation sessionId outcome sessionPosition io
        reply := reply.map fun _ => .done
        after := next }) := by
  cases effect with
  | unknown absent =>
      simpa [History.record, History.endLog, tracks.no_log absent] using tracks
  | lost error session present artifacts interactions =>
      obtain ⟨log, logged, agrees⟩ := tracks.log_of_session present
      simp only [History.record, Except.map, History.endLog, logged]
      exact ⟨tracks.erased sessionId ⟨rfl, by simp, fun _ _ _ => ⟨rfl, rfl⟩⟩ rfl, fun _ => rfl,
        tracks.finished⟩
  | replayed session replay present complete replays =>
      obtain ⟨log, logged, agrees⟩ := tracks.log_of_session present
      simp only [History.record, Except.map, History.endLog, logged]
      exact ⟨tracks.erased sessionId ⟨rfl, id, fun _ _ _ => ⟨rfl, rfl⟩⟩ rfl, tracks.lost,
        tracks.finished_append (agrees.dispatched_of_complete complete)⟩
  | published session publication present complete captures published =>
      obtain ⟨log, logged, agrees⟩ := tracks.log_of_session present
      simp only [History.record, Except.map, History.endLog, logged]
      exact ⟨tracks.erased sessionId ⟨rfl, id, fun _ _ _ => ⟨rfl, rfl⟩⟩ rfl, tracks.lost,
        tracks.finished_append (agrees.dispatched_of_complete complete)⟩

/-- Abandoning keeps the two tables in agreement. -/
theorem tracks_abandon {world next : AutomaticWorldCoordinator Digest Replay} {history : History}
    {sessionId : Nat} {reply : Except Error Unit} (tracks : Tracks world history)
    (effect : world.AbandonEffect sessionId reply next) :
    Tracks next (history.record
      { before := world
        call := .abandonObservation sessionId
        reply := reply.map fun _ => .done
        after := next }) := by
  cases effect with
  | unknown absent =>
      simpa [History.record, History.endLog, tracks.no_log absent] using tracks
  | abandoned session present =>
      obtain ⟨log, logged, agrees⟩ := tracks.log_of_session present
      simp only [History.record, History.endLog, logged]
      exact ⟨tracks.erased sessionId ⟨rfl, by simp, fun _ _ _ => ⟨rfl, rfl⟩⟩ rfl, fun _ => rfl,
        tracks.finished⟩

/-- Marking an unowned observation keeps the two tables in agreement. -/
theorem tracks_markUnowned {core : Core Digest Replay}
    {world next : AutomaticWorldCoordinator Digest Replay} {history : History}
    {observationClass : AutomaticObservationClass} {causalParentId : Option OperationId}
    {evidence : Bytes} {io : UnownedIo} {reply : Except Error Unit} (tracks : Tracks world history)
    (effect : world.UnownedEffect core observationClass causalParentId evidence io reply next) :
    Tracks next (history.record
      { before := world
        call := .markUnowned observationClass causalParentId evidence io
        reply := reply.map fun _ => .done
        after := next }) := by
  cases effect with
  | replays error none replays =>
      simp only [History.record, none]
      exact tracks.kept ⟨rfl, by simp [loseSession], fun _ _ _ => ⟨rfl, rfl⟩⟩ rfl fun _ => rfl
  | dropped error none =>
      simp only [History.record, none]
      exact tracks.kept ⟨rfl, id, fun _ _ _ => ⟨rfl, rfl⟩⟩ rfl id
  | unstored error spool quiet none others =>
      simp only [History.record, none]
      exact tracks.kept ⟨rfl, id, fun _ _ _ => ⟨others _ (by simp), others _ (by simp)⟩⟩ rfl id
  | unrecorded error spool objectId quiet some others =>
      simp only [History.record, some]
      exact ⟨tracks.untouched
        ⟨rfl, id, fun _ _ _ => ⟨others _ (by simp), others _ (by simp)⟩⟩ rfl,
        tracks.lost, tracks.finished⟩
  | recorded spool objectId some captures others =>
      simp only [History.record, some]
      exact ⟨tracks.untouched
        ⟨rfl, id, fun _ _ _ => ⟨others _ (by simp), others _ (by simp)⟩⟩ rfl,
        tracks.lost, tracks.finished⟩

/-- Binding the sentinel coverage keeps the two tables in agreement. -/
theorem tracks_bind {world next : AutomaticWorldCoordinator Digest Replay} {history : History}
    {reply : Except Error Unit} (tracks : Tracks world history)
    (effect : world.BindEffect reply next) : Tracks next history := by
  cases effect with
  | lost error =>
      exact tracks.kept ⟨rfl, by simp [loseSession], fun _ _ _ => ⟨rfl, rfl⟩⟩ rfl fun _ => rfl
  | bound reply registrations registered =>
      exact tracks.kept ⟨rfl, id, fun _ _ _ => ⟨rfl, rfl⟩⟩ rfl id

/-- Every session call preserves the tracking relation. -/
theorem tracks_perform (core : Core Digest Replay)
    (world : AutomaticWorldCoordinator Digest Replay) (history : History) (call : SessionCall)
    (tracks : Tracks world history) :
    Tracks (perform core world call).2
      (history.record (Runs.answer (perform core) world call)) := by
  cases call with
  | openObservation sessionId observationClass causalParentId semanticContract io =>
      exact tracks_open tracks (openObservationInner_effect world sessionId observationClass
        causalParentId semanticContract io)
  | writeObservation sessionId stream chunk io =>
      exact tracks_write tracks (writeObservation_effect world sessionId stream chunk io)
  | dispatchObservation sessionId io =>
      exact tracks_dispatch tracks (dispatchObservation_effect core world sessionId io)
  | readObservationResponse sessionId io =>
      exact tracks_read tracks (readObservationResponse_effect world sessionId io)
  | finishObservation sessionId outcome sessionPosition io =>
      exact tracks_finish tracks
        (finishObservation_effect core world sessionId outcome sessionPosition io)
  | abandonObservation sessionId =>
      exact tracks_abandon tracks (abandonObservation_effect world sessionId)
  | markUnowned observationClass causalParentId evidence io =>
      exact tracks_markUnowned tracks
        (markUnowned_effect core world observationClass causalParentId evidence io)
  | bindNativeSentinelCoverage evidence =>
      exact tracks_bind tracks (bindNativeSentinelCoverage_effect core world evidence)
  | invalidateAmbientContext => exact tracks_bind tracks (.lost worldNotClosed)

/-- Every run preserves the tracking relation. -/
theorem tracks_preserved (core : Core Digest Replay) :
    Preserved core (Tracks : AutomaticWorldCoordinator Digest Replay → History → Prop) where
  session := tracks_perform core
  numbered _ _ _ tracks := tracks.kept ⟨rfl, id, fun _ _ _ => ⟨rfl, rfl⟩⟩ rfl id
  dropped _ _ tracks := tracks.kept ⟨rfl, id, fun _ _ _ => ⟨rfl, rfl⟩⟩ rfl id

end AutomaticWorld
end ReproItSdk
