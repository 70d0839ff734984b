import ReproItSdk.World.Close

/-! # Effects of the coordinator calls

For each call, the replies it can give and the state it leaves with each of them.  The proofs about
runs use these effects only and never open a call again.

Main results:

- Theorem {lit}`openObservationInner_effect`: an open is refused, fails silently or opens.
- Theorem {lit}`writeObservation_effect`: a write poisons the World unless the session is unknown
  or the chunk is appended.
- Theorem {lit}`finishObservation_effect`: a finish of an open session poisons or publishes it.
- Theorem {lit}`markUnowned_effect`: an unowned observation is dropped, recorded or lost silently.
-/

namespace ReproItSdk
namespace AutomaticWorld

variable {Digest Replay : Type}

namespace AutomaticWorldCoordinator

/-! ## Open -/

/-- An open that passes its checks and then meets a failing step. -/
def OpenFailsSilently (world : AutomaticWorldCoordinator Digest Replay) (sessionId : Nat)
    (observationClass : AutomaticObservationClass) (io : OpenIo) : Prop :=
  (world.captures = true → (world.registrations observationClass).isSome = true) ∧
    KeyedTable.size world.sessions < maxAutomaticObservationSessionsPerOperation ∧
    world.sessions.lookup sessionId = none ∧
    (io.createRequest = false ∨ io.createResponse = false ∨
      maxSessionPosition ≤ world.nextSessionPositions observationClass)

/-- Replies and next states of an open. -/
inductive OpenEffect (world : AutomaticWorldCoordinator Digest Replay) (sessionId : Nat)
    (observationClass : AutomaticObservationClass) (causalParentId : Option OperationId)
    (semanticContract : Bool) (io : OpenIo) :
    Except Error Nat → AutomaticWorldCoordinator Digest Replay → Prop
  | refused (error : Error) :
      OpenEffect world sessionId observationClass causalParentId semanticContract io
        (.error error) world.loseSession
  | silent (error : Error) (spool : Spool)
      (quiet : world.OpenFailsSilently sessionId observationClass io)
      (others : ∀ file, file ≠ .sessionRequest sessionId → file ≠ .sessionResponse sessionId →
        spool file = world.spool file) :
      OpenEffect world sessionId observationClass causalParentId semanticContract io
        (.error error) { world with spool := spool }
  | opened (fresh : world.sessions.lookup sessionId = none)
      (registered : world.captures = true →
        (world.registrations observationClass).isSome = true)
      (bounded : world.nextSessionPositions observationClass < maxSessionPosition) :
      OpenEffect world sessionId observationClass causalParentId semanticContract io
        (.ok (world.nextSessionPositions observationClass))
        { world with
          spool := createFile (createFile world.spool (.sessionRequest sessionId))
            (.sessionResponse sessionId)
          nextSessionPositions :=
            Function.update world.nextSessionPositions observationClass
              (world.nextSessionPositions observationClass + 1)
          sessions := world.sessions.insert sessionId
            (.opened sessionId observationClass causalParentId semanticContract
              (world.nextSessionPositions observationClass)) }

/-- An open is refused, fails silently or opens. -/
theorem openObservationInner_effect (world : AutomaticWorldCoordinator Digest Replay)
    (sessionId : Nat) (observationClass : AutomaticObservationClass)
    (causalParentId : Option OperationId) (semanticContract : Bool) (io : OpenIo) :
    world.OpenEffect sessionId observationClass causalParentId semanticContract io
      (world.openObservationInner sessionId observationClass causalParentId semanticContract io).1
      (world.openObservationInner sessionId observationClass causalParentId semanticContract
        io).2 := by
  unfold openObservationInner
  split
  · exact .refused worldNotClosed
  · rename_i known
    split
    · exact .refused captureLimit
    · rename_i room
      have registered : world.captures = true →
          (world.registrations observationClass).isSome = true := by
        intro captures
        cases found : world.registrations observationClass with
        | none => exact absurd ⟨captures, by simp [found]⟩ known
        | some registration => rfl
      have smaller : KeyedTable.size world.sessions <
          maxAutomaticObservationSessionsPerOperation := by
        by_contra large
        exact room (.inl (Nat.le_of_not_lt large))
      have fresh : world.sessions.lookup sessionId = none := by
        cases found : world.sessions.lookup sessionId with
        | none => rfl
        | some session => exact absurd (.inr (by simp [found])) room
      split
      · rename_i refused
        exact .silent localStorageError world.spool
          ⟨registered, smaller, fresh, .inl (by simpa using refused)⟩ fun _ _ _ => rfl
      · split
        · rename_i refused
          refine .silent localStorageError _
            ⟨registered, smaller, fresh, .inr (.inl (by simpa using refused))⟩ ?_
          intro file notRequest _
          exact Function.update_of_ne notRequest _ _
        · dsimp only
          split
          · rename_i exhausted
            refine .silent captureLimit _
              ⟨registered, smaller, fresh, .inr (.inr (Nat.le_of_lt_succ exhausted))⟩ ?_
            intro file notRequest notResponse
            rw [createFile, Function.update_of_ne notResponse, createFile,
              Function.update_of_ne notRequest]
          · rename_i bounded
            exact .opened fresh registered (by omega)

/-! ## Write -/

/-- Replies and next states of a write. -/
inductive WriteEffect (world : AutomaticWorldCoordinator Digest Replay) (sessionId : Nat)
    (stream : AutomaticObservationStream) (chunk : Bytes) :
    Except Error Unit → AutomaticWorldCoordinator Digest Replay → Prop
  | overflowed (error : Error) :
      WriteEffect world sessionId stream chunk (.error error) (world.overflowSession sessionId)
  | unknown (absent : world.sessions.lookup sessionId = none) :
      WriteEffect world sessionId stream chunk (.error notFound) world
  | wide (session : ObservationSession) (present : world.sessions.lookup sessionId = some session)
      (accepted : session.accepts stream = true)
      (wide : u64Max < session.streamBytes stream + chunk.length)
      (chunkBounded : chunk.length ≤ maxAutomaticObservationChunkBytes) :
      WriteEffect world sessionId stream chunk (.error captureLimit) world
  | appended (session : ObservationSession)
      (present : world.sessions.lookup sessionId = some session)
      (accepted : session.accepts stream = true)
      (bounded : session.streamBytes stream + chunk.length ≤ maxWorldArtifactBytes)
      (content : Bytes) (stored : world.spool (session.streamPath stream) = some content) :
      WriteEffect world sessionId stream chunk (.ok ())
        { world with
          reservation := world.reservation + chunk.length
          sessions := world.sessions.insert sessionId
            (session.setStreamBytes (session.streamBytes stream + chunk.length) stream)
          spool := Function.update world.spool (session.streamPath stream)
            (some (content ++ chunk)) }
  | torn (error : Error) (session : ObservationSession)
      (present : world.sessions.lookup sessionId = some session)
      (bounded : session.streamBytes stream + chunk.length ≤ maxWorldArtifactBytes)
      (spool : Spool) :
      WriteEffect world sessionId stream chunk (.error error)
        { world with
          reservation := world.reservation + chunk.length
          sessions := world.sessions.insert sessionId
            (session.setStreamBytes (session.streamBytes stream + chunk.length) stream)
          spool := spool
          incompleteSession := true }

/-- A write poisons the World unless the session is unknown or the chunk is appended. -/
theorem writeObservation_effect (world : AutomaticWorldCoordinator Digest Replay)
    (sessionId : Nat) (stream : AutomaticObservationStream) (chunk : Bytes) (io : WriteIo) :
    world.WriteEffect sessionId stream chunk
      (world.writeObservation sessionId stream chunk io).1
      (world.writeObservation sessionId stream chunk io).2 := by
  unfold writeObservation
  split
  · exact .overflowed captureLimit
  · rename_i shape
    have chunkBounded : chunk.length ≤ maxAutomaticObservationChunkBytes :=
      Nat.le_of_not_lt fun large => shape (.inr large)
    split
    · rename_i absent
      exact .unknown absent
    · rename_i session present
      split
      · exact .overflowed invalidTransition
      · rename_i accepted
        have accepted : session.accepts stream = true := by simpa using accepted
        dsimp only
        split
        · rename_i wide
          exact .wide session present accepted wide chunkBounded
        · split
          · exact .overflowed captureLimit
          · rename_i admitted
            have bounded : session.streamBytes stream + chunk.length ≤ maxWorldArtifactBytes :=
              Nat.le_of_not_lt fun large => admitted (.inl large)
            rcases outcome : appendChunk world.spool (session.streamPath stream) chunk io.append
              with ⟨error | done, spool⟩
            · exact .torn error session present bounded spool
            · obtain ⟨content, stored, rfl⟩ := appendChunk_ok outcome
              exact .appended session present accepted bounded content stored

/-! ## Dispatch -/

/-- A dispatch of a replay whose recorded response cannot be fetched or stored. -/
def DispatchFailsSilently (core : Core Digest Replay)
    (world : AutomaticWorldCoordinator Digest Replay) (sessionId : Nat) (io : DispatchIo) : Prop :=
  ∃ session replay, world.sessions.lookup sessionId = some session ∧
    world.mode = .replay replay ∧
    ((∃ error, readFile world.spool session.requestPath io.readRequest = .error error) ∨
      (∃ request error, readFile world.spool session.requestPath io.readRequest = .ok request ∧
        (core.takeResponse replay session.observationClass session.sessionPosition request).1 =
          .error error) ∨
      (io.reserved = true ∧ io.writeResponse ≠ .complete))

/-- Replies and next states of a dispatch. -/
inductive DispatchEffect (core : Core Digest Replay)
    (world : AutomaticWorldCoordinator Digest Replay) (sessionId : Nat) (io : DispatchIo) :
    Except Error AutomaticObservationAction → AutomaticWorldCoordinator Digest Replay → Prop
  | unknown (absent : world.sessions.lookup sessionId = none) :
      DispatchEffect core world sessionId io (.error notFound) world
  | stalled (error : Error) (session : ObservationSession)
      (present : world.sessions.lookup sessionId = some session)
      (cause : session.semanticContract ≠ none ∨ world.DispatchFailsSilently core sessionId io) :
      DispatchEffect core world sessionId io (.error error) world
  | overflowed (session : ObservationSession)
      (present : world.sessions.lookup sessionId = some session) :
      DispatchEffect core world sessionId io (.error invalidTransition)
        { world with
          sessions := world.sessions.insert sessionId { session with state := .overflowed }
          incompleteSession := true }
  | captured (session : ObservationSession)
      (present : world.sessions.lookup sessionId = some session)
      (requesting : session.state = .request) (nonempty : session.requestBytes ≠ 0)
      (captures : world.mode = .capture) :
      DispatchEffect core world sessionId io (.ok .capture)
        { world with
          sessions := world.sessions.insert sessionId { session with state := .capture } }
  | unanswered (error : Error) (session : ObservationSession) (replay next : Replay)
      (present : world.sessions.lookup sessionId = some session)
      (replays : world.mode = .replay replay)
      (quiet : world.DispatchFailsSilently core sessionId io) :
      DispatchEffect core world sessionId io (.error error) { world with mode := .replay next }
  | unreserved (session : ObservationSession) (replay next : Replay) (recorded : Bytes)
      (present : world.sessions.lookup sessionId = some session)
      (replays : world.mode = .replay replay) :
      DispatchEffect core world sessionId io (.error captureLimit)
        { world with
          mode := .replay next
          sessions := world.sessions.insert sessionId
            { session with responseBytes := recorded.length }
          incompleteSession := true }
  | unwritten (error : Error) (session : ObservationSession) (replay next : Replay)
      (recorded : Bytes) (spool : Spool)
      (present : world.sessions.lookup sessionId = some session)
      (requesting : session.state = .request)
      (replays : world.mode = .replay replay)
      (quiet : world.DispatchFailsSilently core sessionId io)
      (others : ∀ file, file ≠ session.responsePath → spool file = world.spool file) :
      DispatchEffect core world sessionId io (.error error)
        { world with
          mode := .replay next
          sessions := world.sessions.insert sessionId
            { session with responseBytes := recorded.length }
          reservation := world.reservation + recorded.length
          spool := spool }
  | replayed (session : ObservationSession) (replay next : Replay) (recorded : Bytes)
      (spool : Spool)
      (present : world.sessions.lookup sessionId = some session)
      (requesting : session.state = .request)
      (replays : world.mode = .replay replay)
      (others : ∀ file, file ≠ session.responsePath → spool file = world.spool file) :
      DispatchEffect core world sessionId io (.ok .replay)
        { world with
          mode := .replay next
          sessions := world.sessions.insert sessionId
            { session with responseBytes := recorded.length, state := .replay 0 }
          reservation := world.reservation + recorded.length
          spool := spool }

/-- What taking a recorded response does to a session that has its request. -/
theorem dispatchReplay_effect (core : Core Digest Replay)
    (world : AutomaticWorldCoordinator Digest Replay) (sessionId : Nat)
    {session : ObservationSession} {replay : Replay} (io : DispatchIo)
    (present : world.sessions.lookup sessionId = some session)
    (requesting : session.state = .request) (replays : world.mode = .replay replay) :
    world.DispatchEffect core sessionId io (world.dispatchReplay core sessionId session replay io).1
      (world.dispatchReplay core sessionId session replay io).2 := by
  unfold dispatchReplay
  split
  · rename_i error unread
    exact .stalled error session present
      (.inr ⟨session, replay, present, replays, .inl ⟨error, unread⟩⟩)
  · rename_i request read
    split
    · rename_i error next unanswered
      exact .unanswered error session replay next present replays ⟨session, replay, present,
        replays, .inr (.inl ⟨request, error, read, by rw [unanswered]⟩)⟩
    · rename_i recorded next _
      dsimp only
      split
      · exact .unreserved session replay next recorded present replays
      · rename_i reserved
        have reserved : io.reserved = true := by simpa using reserved
        rcases outcome : writeFile world.spool session.responsePath recorded io.writeResponse
          with ⟨error | done, spool⟩
        all_goals
          have others : ∀ file, file ≠ session.responsePath → spool file = world.spool file := by
            intro file different
            have same := writeFile_other world.spool recorded io.writeResponse different
            rwa [outcome] at same
        · have unwritten : io.writeResponse ≠ .complete := by
            intro complete
            simp [writeFile, complete] at outcome
          exact .unwritten error session replay next recorded spool present requesting replays
            ⟨session, replay, present, replays, .inr (.inr ⟨reserved, unwritten⟩)⟩ others
        · simp only [AList.insert_insert]
          exact .replayed session replay next recorded spool present requesting replays others

/-- A dispatch of an open session keeps it waiting, poisons it or moves it on. -/
theorem dispatchObservation_effect (core : Core Digest Replay)
    (world : AutomaticWorldCoordinator Digest Replay) (sessionId : Nat) (io : DispatchIo) :
    world.DispatchEffect core sessionId io (world.dispatchObservation core sessionId io).1
      (world.dispatchObservation core sessionId io).2 := by
  unfold dispatchObservation
  split
  · rename_i absent
    exact .unknown absent
  · rename_i session present
    split
    · rename_i error invalid
      refine .stalled error session present (.inl fun plain => ?_)
      simp [validateSemanticRequest, plain] at invalid
    · split
      · exact .overflowed session present
      · rename_i ready
        have requesting : session.state = .request := by
          by_contra other
          exact ready (.inl other)
        have nonempty : session.requestBytes ≠ 0 := fun empty => ready (.inr empty)
        split
        · rename_i captures
          exact .captured session present requesting nonempty captures
        · rename_i replay replays
          exact dispatchReplay_effect core world sessionId io present requesting replays

/-! ## Read -/

/-- A read leaves the state alone or moves the offset of a replayed session. -/
inductive ReadEffect (world : AutomaticWorldCoordinator Digest Replay) (sessionId : Nat) :
    Except Error (Bytes × Bool) → AutomaticWorldCoordinator Digest Replay → Prop
  | refused (error : Error) : ReadEffect world sessionId (.error error) world
  | advanced (session : ObservationSession) (before after : Nat) (chunk : Bytes) (complete : Bool)
      (present : world.sessions.lookup sessionId = some session)
      (replaying : session.state = .replay before) :
      ReadEffect world sessionId (.ok (chunk, complete))
        { world with
          sessions := world.sessions.insert sessionId { session with state := .replay after } }

/-- The effect of a read. -/
theorem readObservationResponse_effect (world : AutomaticWorldCoordinator Digest Replay)
    (sessionId : Nat) (io : ReadIo) :
    world.ReadEffect sessionId (world.readObservationResponse sessionId io).1
      (world.readObservationResponse sessionId io).2 := by
  unfold readObservationResponse
  split
  · exact .refused notFound
  · rename_i session present
    split
    · rename_i offset replaying
      split
      · exact .refused _
      · dsimp only
        split
        · exact .refused captureLimit
        · exact .advanced session offset _ _ _ present replaying
    · exact .refused invalidTransition

end AutomaticWorldCoordinator
end AutomaticWorld
end ReproItSdk
