import ReproItSdk.Library.Chunks
import ReproItSdk.World.FailClosed

/-! # Observation sessions of the Go SDK

A Go observation session keeps a state of its own for the session that it opened in the engine.  It
checks each call against this state, passes it on, and after a failure abandons the session of the
engine and refuses all further calls.  Records are written in bounded chunks and read back in
bounded reads.

Main definitions:

- Function {lit}`perform`: one call on a Go session and the engine behind it.
- Inductive {lit}`Mirrors`: the Go session is in step with the session of the engine.

Main results:

- Theorem {lit}`session_follows`: what holds of a Go session and the engine after any calls.
-/

namespace ReproItSdk
namespace GoObservation

open AutomaticWorld AutomaticWorldCoordinator Chunks

variable {Digest Replay : Type}

/-! ## Sessions -/

/-- {lit}`sdkEngineMaxObservationChunkBytes`. -/
def sdkEngineMaxObservationChunkBytes : Nat :=
  32768

/-- {lit}`semanticObservationMaxRecordBytes`. -/
def semanticObservationMaxRecordBytes : Nat :=
  64 * 1024

/-- {lit}`semanticObservationMaxReads`. -/
def semanticObservationMaxReads : Nat :=
  8

/-- {lit}`observationSessionState`. -/
inductive SessionState where
  | request
  | capture
  | replay
  | replayEof
  | finished
deriving DecidableEq, Repr

/-- {lit}`observationSession`; its handle is a parameter of the calls. -/
structure Session where
  requestBytes : Nat
  responseBytes : Nat
  sessionPosition : Nat
  state : SessionState
deriving DecidableEq, Repr

/-- A Go session and the engine behind it. -/
structure Linked (Digest Replay : Type) where
  session : Session
  world : AutomaticWorldCoordinator Digest Replay

/-- The state in which a stream is written. -/
def required : AutomaticObservationStream → SessionState
  | .request => .request
  | .response => .capture

namespace Session

/-- The session after a chunk was written to a stream. -/
def wrote (session : Session) (count : Nat) : AutomaticObservationStream → Session
  | .request => { session with requestBytes := session.requestBytes + count }
  | .response => { session with responseBytes := session.responseBytes + count }

/-- The session in another state. -/
def moved (session : Session) (state : SessionState) : Session :=
  { session with state := state }

end Session

section Calls

variable (core : Core Digest Replay) (handle : Nat)

/-- {lit}`abandonLocked`. -/
def abandonLocked (linked : Linked Digest Replay) : Linked Digest Replay :=
  if linked.session.state = .finished then linked
  else
    { session := linked.session.moved .finished
      world := (linked.world.abandonObservation handle).2 }

/-- {lit}`write`.  Every failure of the Go SDK is the same error. -/
def write (stream : AutomaticObservationStream) (chunk : Bytes) (io : WriteIo)
    (linked : Linked Digest Replay) : Option Unit × Linked Digest Replay :=
  if linked.session.state ≠ required stream ∨ chunk = [] ∨
      sdkEngineMaxObservationChunkBytes < chunk.length then (none, linked)
  else
    match linked.world.writeObservation handle stream chunk io with
    | (.error _, world) => (none, abandonLocked handle { linked with world := world })
    | (.ok (), world) =>
        (some (), { session := linked.session.wrote chunk.length stream, world := world })

/-- {lit}`dispatch`. -/
def dispatch (io : DispatchIo) (linked : Linked Digest Replay) :
    Option AutomaticObservationAction × Linked Digest Replay :=
  if linked.session.state ≠ .request ∨ linked.session.requestBytes = 0 then (none, linked)
  else
    match linked.world.dispatchObservation core handle io with
    | (.error _, world) => (none, abandonLocked handle { linked with world := world })
    | (.ok .capture, world) =>
        (some .capture, { session := linked.session.moved .capture, world := world })
    | (.ok .replay, world) =>
        (some .replay, { session := linked.session.moved .replay, world := world })

/-- {lit}`readResponse`. -/
def readResponse (io : ReadIo) (linked : Linked Digest Replay) :
    Option (Bytes × Bool) × Linked Digest Replay :=
  if linked.session.state ≠ .replay then (none, linked)
  else
    match linked.world.readObservationResponse handle io with
    | (.error _, world) => (none, abandonLocked handle { linked with world := world })
    | (.ok (chunk, eof), world) =>
        (some (chunk, eof),
          { session := if eof then linked.session.moved .replayEof else linked.session
            world := world })

/-- Whether a session is complete enough to be finished. -/
def Session.valid (session : Session) : Prop :=
  (session.state = .capture ∧ 0 < session.responseBytes) ∨ session.state = .replayEof

instance (session : Session) : Decidable session.valid :=
  inferInstanceAs (Decidable (_ ∨ _))

/-- {lit}`finish`, where no outcome stands for a text that is none. -/
def finish (outcome : Option DependencyOutcome) (io : FinishIo) (linked : Linked Digest Replay) :
    Option Unit × Linked Digest Replay :=
  match outcome with
  | none => (none, linked)
  | some outcome =>
      if ¬ linked.session.valid then (none, linked)
      else
        match linked.world.finishObservation core handle outcome
            linked.session.sessionPosition io with
        | (.error _, world) => (none, abandonLocked handle { linked with world := world })
        | (.ok (), world) =>
            (some (), { session := linked.session.moved .finished, world := world })

/-- A call on a Go session, with what the file system of the engine answers. -/
inductive Call where
  | write (stream : AutomaticObservationStream) (chunk : Bytes) (io : WriteIo)
  | dispatch (io : DispatchIo)
  | read (io : ReadIo)
  | finish (outcome : Option DependencyOutcome) (io : FinishIo)
  | abandon

/-- What a call that does not fail returns. -/
inductive Reply where
  | done
  | action (action : AutomaticObservationAction)
  | chunk (chunk : Bytes) (eof : Bool)
deriving DecidableEq, Repr

/-- One call on a Go session. -/
def perform (call : Call) (linked : Linked Digest Replay) : Option Reply × Linked Digest Replay :=
  match call with
  | .write stream chunk io =>
      let result := write handle stream chunk io linked
      (result.1.map fun _ => .done, result.2)
  | .dispatch io =>
      let result := dispatch core handle io linked
      (result.1.map .action, result.2)
  | .read io =>
      let result := readResponse handle io linked
      (result.1.map fun read => .chunk read.1 read.2, result.2)
  | .finish outcome io =>
      let result := finish core handle outcome io linked
      (result.1.map fun _ => .done, result.2)
  | .abandon => (some .done, abandonLocked handle linked)

/-! ## Records -/

/-- Write the chunks of a record, up to the first that fails. -/
def writeChunks : List Bytes → (Nat → WriteIo) → Linked Digest Replay →
    Option Unit × Linked Digest Replay
  | [], _, linked => (some (), linked)
  | chunk :: chunks, io, linked =>
      match write handle .response chunk (io 0) linked with
      | (none, linked) => (none, linked)
      | (some (), linked) => writeChunks chunks (fun count => io (count + 1)) linked

/-- {lit}`writeSemanticObservationResponse`. -/
def writeRecord (value : Bytes) (io : Nat → WriteIo) (linked : Linked Digest Replay) :
    Option Unit × Linked Digest Replay :=
  if value = [] ∨ semanticObservationMaxRecordBytes < value.length then (none, linked)
  else writeChunks handle (chunks sdkEngineMaxObservationChunkBytes value) io linked

/-- The reads of a record, with what they gave so far. -/
def readChunks : Nat → Bytes → (Nat → ReadIo) → Linked Digest Replay →
    Option Bytes × Linked Digest Replay
  | 0, _, _, linked => (none, linked)
  | reads + 1, result, io, linked =>
      match readResponse handle (io 0) linked with
      | (none, linked) => (none, linked)
      | (some (chunk, eof), linked) =>
          if semanticObservationMaxRecordBytes - result.length < chunk.length then (none, linked)
          else if eof then
            (if result ++ chunk = [] then none else some (result ++ chunk), linked)
          else readChunks reads (result ++ chunk) (fun count => io (count + 1)) linked

/-- {lit}`readSemanticObservationResponse`. -/
def readRecord (io : Nat → ReadIo) (linked : Linked Digest Replay) :
    Option Bytes × Linked Digest Replay :=
  readChunks handle semanticObservationMaxReads [] io linked

end Calls

/-! ## Sessions in step -/

section Steps

variable {core : Core Digest Replay} {handle : Nat} {linked : Linked Digest Replay}

/-- The session of the engine that belongs to a Go session. -/
structure Paired (handle : Nat) (linked : Linked Digest Replay) (session : ObservationSession) :
    Prop where
  present : linked.world.sessions.lookup handle = some session
  requestPath : session.requestPath = .sessionRequest handle
  responsePath : session.responsePath = .sessionResponse handle
  position : session.sessionPosition = linked.session.sessionPosition
  requested : session.requestBytes = linked.session.requestBytes
  stored : ∃ content, linked.world.spool (.sessionResponse handle) = some content ∧
    content.length = session.responseBytes

/-- The Go session is in step with the session of the engine. -/
inductive Mirrors (handle : Nat) (linked : Linked Digest Replay) : Prop where
  | requesting (session : ObservationSession) (paired : Paired handle linked session)
      (go : linked.session.state = .request) (engine : session.state = .request)
      (responded : session.responseBytes = linked.session.responseBytes)
  | capturing (session : ObservationSession) (paired : Paired handle linked session)
      (go : linked.session.state = .capture) (engine : session.state = .capture)
      (responded : session.responseBytes = linked.session.responseBytes)
      (asked : session.requestBytes ≠ 0)
  | replaying (session : ObservationSession) (offset : Nat) (paired : Paired handle linked session)
      (go : linked.session.state = .replay) (engine : session.state = .replay offset)
      (before : offset < session.responseBytes ∨ offset = 0) (asked : session.requestBytes ≠ 0)
  | replayed (session : ObservationSession) (paired : Paired handle linked session)
      (go : linked.session.state = .replayEof)
      (engine : session.state = .replay session.responseBytes) (asked : session.requestBytes ≠ 0)
  | finished (go : linked.session.state = .finished)
      (absent : linked.world.sessions.lookup handle = none)

/-- The Go session is unusable and the operation of the engine abandoned. -/
structure Lost (linked : Linked Digest Replay) : Prop where
  unusable : linked.session.state = .finished
  abandoned : linked.world.incompleteSession = true

/-- An abandoned session is gone, and the engine remembers it. -/
theorem lookup_abandonObservation (world : AutomaticWorldCoordinator Digest Replay)
    (handle : Nat) :
    (world.abandonObservation handle).2.sessions.lookup handle = none ∧
      ((world.sessions.lookup handle).isSome ∨ world.incompleteSession = true →
        (world.abandonObservation handle).2.incompleteSession = true) := by
  unfold abandonObservation
  cases present : world.sessions.lookup handle with
  | none => simp [present]
  | some session => simp [loseSession]

/-- A Go session that abandons its session is lost. -/
theorem lost_abandonLocked (live : linked.session.state ≠ .finished)
    (known : (linked.world.sessions.lookup handle).isSome ∨
      linked.world.incompleteSession = true) :
    Mirrors handle (abandonLocked handle linked) ∧ Lost (abandonLocked handle linked) := by
  have ⟨absent, remembered⟩ := lookup_abandonObservation linked.world handle
  unfold abandonLocked
  rw [if_neg live]
  exact ⟨.finished rfl absent, rfl, remembered known⟩

/-- A live Go session has its session in the engine. -/
theorem Mirrors.paired (mirrors : Mirrors handle linked)
    (live : linked.session.state ≠ .finished) : ∃ session, Paired handle linked session := by
  cases mirrors with
  | requesting session paired => exact ⟨session, paired⟩
  | capturing session paired => exact ⟨session, paired⟩
  | replaying session offset paired => exact ⟨session, paired⟩
  | replayed session paired => exact ⟨session, paired⟩
  | finished go => exact absurd go live

/-- The Go session passes a call on. -/
def Sent (session : Session) : Call → Prop
  | .write stream chunk _ =>
      session.state = required stream ∧ chunk ≠ [] ∧
        chunk.length ≤ sdkEngineMaxObservationChunkBytes
  | .dispatch _ => session.state = .request ∧ session.requestBytes ≠ 0
  | .read _ => session.state = .replay
  | .finish outcome _ => outcome.isSome ∧ session.valid
  | .abandon => True

/-- A write that is passed on keeps the sessions in step, or is lost. -/
theorem mirrors_write (mirrors : Mirrors handle linked) {stream : AutomaticObservationStream}
    {chunk : Bytes} (io : WriteIo) (sent : Sent linked.session (.write stream chunk io)) :
    Mirrors handle (write handle stream chunk io linked).2 ∧
      ((write handle stream chunk io linked).1 = none →
        Lost (write handle stream chunk io linked).2) ∧
      ((write handle stream chunk io linked).1 = some () → stream = .response →
        ∃ content, linked.world.spool (.sessionResponse handle) = some content ∧
          (write handle stream chunk io linked).2.world.spool (.sessionResponse handle) =
            some (content ++ chunk)) := by
  obtain ⟨state, inhabited, short⟩ := sent
  have live : linked.session.state ≠ .finished := by
    rw [state]
    cases stream <;> simp [required]
  obtain ⟨known, pairedKnown⟩ := mirrors.paired live
  have effect := writeObservation_effect linked.world handle stream chunk io
  unfold write
  rw [if_neg (by simp [state, inhabited, Nat.not_lt.mpr short])]
  generalize linked.world.writeObservation handle stream chunk io = answer at effect
  rcases answer with ⟨reply, world⟩
  have fails {error : Error} (remembered : (world.sessions.lookup handle).isSome ∨
      world.incompleteSession = true) (failed : reply = .error error) :=
    @lost_abandonLocked _ _ handle { linked with world := world } live remembered
  cases effect with
  | overflowed error =>
      have ⟨kept, lost⟩ := fails (.inr rfl) rfl
      exact ⟨kept, fun _ => lost, nofun⟩
  | unknown absent =>
      rw [pairedKnown.present] at absent
      cases absent
  | wide session present accepted wide chunkBounded =>
      have ⟨kept, lost⟩ := fails (.inl (by simp [present])) rfl
      exact ⟨kept, fun _ => lost, nofun⟩
  | torn error session present bounded spool =>
      have ⟨kept, lost⟩ := fails (.inr rfl) rfl
      exact ⟨kept, fun _ => lost, nofun⟩
  | appended session present accepted bounded content stored =>
      refine ⟨?_, nofun, ?_⟩
      · cases mirrors with
        | requesting other paired go engine responded =>
            obtain rfl : session = other := by
              simpa [present] using paired.present
            obtain rfl : stream = .request := by
              rw [go] at state
              cases stream with
              | request => rfl
              | response => exact absurd state (by simp [required])
            obtain ⟨response, kept, counted⟩ := paired.stored
            refine .requesting _ ⟨AList.lookup_insert _, paired.requestPath, paired.responsePath,
              paired.position, ?_, response, ?_, counted⟩ go engine responded
            · simp [ObservationSession.setStreamBytes, ObservationSession.streamBytes,
                Session.wrote, paired.requested]
            · simp [ObservationSession.streamPath, paired.requestPath, kept]
        | capturing other paired go engine responded asked =>
            obtain rfl : session = other := by
              simpa [present] using paired.present
            obtain rfl : stream = .response := by
              rw [go] at state
              cases stream with
              | request => exact absurd state (by simp [required])
              | response => rfl
            obtain ⟨response, kept, counted⟩ := paired.stored
            have same : content = response := by
              simpa [ObservationSession.streamPath, paired.responsePath, kept, eq_comm] using stored
            refine .capturing _ ⟨AList.lookup_insert _, paired.requestPath, paired.responsePath,
              paired.position, paired.requested, response ++ chunk, ?_, ?_⟩ go engine ?_ asked
            · simp [ObservationSession.streamPath, paired.responsePath, same]
            · simp [ObservationSession.setStreamBytes, ObservationSession.streamBytes, counted]
            · simp [ObservationSession.setStreamBytes, ObservationSession.streamBytes,
                Session.wrote, responded]
        | replaying other offset paired go =>
            rw [go] at state
            cases stream <;> simp [required] at state
        | replayed other paired go =>
            rw [go] at state
            cases stream <;> simp [required] at state
        | finished go => exact absurd go live
      · rintro - rfl
        obtain ⟨other, paired⟩ := mirrors.paired live
        obtain rfl : session = other := by
          simpa [present] using paired.present
        have path : session.streamPath .response = .sessionResponse handle := paired.responsePath
        rw [path] at stored
        exact ⟨content, stored, by simp [path]⟩

/-- A recorded response that a dispatch takes is stored for its session. -/
theorem dispatchObservation_replay {world next : AutomaticWorldCoordinator Digest Replay}
    {session : ObservationSession} {io : DispatchIo}
    (present : world.sessions.lookup handle = some session)
    (dispatched : world.dispatchObservation core handle io = (.ok .replay, next)) :
    ∃ recorded : Bytes, next.sessions.lookup handle =
        some { session with responseBytes := recorded.length, state := .replay 0 } ∧
      next.spool session.responsePath = some recorded := by
  unfold dispatchObservation at dispatched
  simp only [present] at dispatched
  split at dispatched
  · cases dispatched
  · split at dispatched
    · cases dispatched
    · split at dispatched
      · cases dispatched
      · unfold dispatchReplay at dispatched
        split at dispatched
        · cases dispatched
        · split at dispatched
          · cases dispatched
          · rename_i recorded following taken
            dsimp only at dispatched
            split at dispatched
            · cases dispatched
            · split at dispatched
              · cases dispatched
              · rename_i written
                obtain rfl := (Prod.mk.inj dispatched).2
                refine ⟨recorded, by simp, ?_⟩
                cases complete : io.writeResponse with
                | complete => simp [writeFile]
                | refused => simp [writeFile, complete] at written
                | cut count => simp [writeFile, complete] at written

/-- A dispatch that is passed on keeps the sessions in step, or is lost. -/
theorem mirrors_dispatch (mirrors : Mirrors handle linked) (io : DispatchIo)
    (sent : Sent linked.session (.dispatch io)) :
    Mirrors handle (dispatch core handle io linked).2 ∧
      ((dispatch core handle io linked).1 = none →
        Lost (dispatch core handle io linked).2) := by
  obtain ⟨state, asked⟩ := sent
  have live : linked.session.state ≠ .finished := by
    simp [state]
  obtain ⟨session, paired⟩ := mirrors.paired live
  have responded : session.responseBytes = linked.session.responseBytes := by
    cases mirrors with
    | requesting other paired' go engine responded =>
        obtain rfl : session = other := by
          simpa [paired'.present, eq_comm] using paired.present
        exact responded
    | capturing other paired' go => rw [go] at state; cases state
    | replaying other offset paired' go => rw [go] at state; cases state
    | replayed other paired' go => rw [go] at state; cases state
    | finished go => exact absurd go live
  have effect := dispatchObservation_effect core linked.world handle io
  have taken := @dispatchObservation_replay _ _ core handle linked.world
    (linked.world.dispatchObservation core handle io).2 session io paired.present
  unfold dispatch
  rw [if_neg (by simp [state, asked])]
  generalize linked.world.dispatchObservation core handle io = answer at effect taken
  rcases answer with ⟨reply, world⟩
  have fails {error : Error} (remembered : (world.sessions.lookup handle).isSome ∨
      world.incompleteSession = true) (failed : reply = .error error) :=
    @lost_abandonLocked _ _ handle { linked with world := world } live remembered
  cases effect with
  | unknown absent =>
      rw [paired.present] at absent
      cases absent
  | stalled error other present cause =>
      have ⟨kept, lost⟩ := fails (.inl (by simp [present])) rfl
      exact ⟨kept, fun _ => lost⟩
  | overflowed other present =>
      have ⟨kept, lost⟩ := fails (.inr rfl) rfl
      exact ⟨kept, fun _ => lost⟩
  | unanswered error other replay next present replays quiet =>
      have ⟨kept, lost⟩ := fails (.inl (by simp [present])) rfl
      exact ⟨kept, fun _ => lost⟩
  | unreserved other replay next recorded present replays =>
      have ⟨kept, lost⟩ := fails (.inr rfl) rfl
      exact ⟨kept, fun _ => lost⟩
  | unwritten error other replay next recorded spool present requesting replays quiet others =>
      have ⟨kept, lost⟩ := fails (.inl (by simp)) rfl
      exact ⟨kept, fun _ => lost⟩
  | captured other present requesting nonempty captures =>
      obtain rfl : session = other := by
        simpa [present, eq_comm] using paired.present
      refine ⟨.capturing { session with state := .capture } ⟨AList.lookup_insert _,
        paired.requestPath, paired.responsePath, paired.position, paired.requested,
        paired.stored⟩ rfl rfl responded nonempty, nofun⟩
  | replayed other replay next recorded spool present requesting replays others =>
      obtain ⟨recorded', found, stored⟩ := taken rfl
      have nonempty : session.requestBytes ≠ 0 := by
        rw [paired.requested]
        exact asked
      refine ⟨.replaying _ 0 ⟨found, paired.requestPath, paired.responsePath, paired.position,
        paired.requested, recorded', ?_, rfl⟩ rfl rfl (.inr rfl) nonempty, nofun⟩
      rw [← paired.responsePath]
      exact stored

/-- A read of the engine gives the next bytes of the stored response. -/
theorem readObservationResponse_ok {world next : AutomaticWorldCoordinator Digest Replay}
    {session : ObservationSession} {offset : Nat} {io : ReadIo} {chunk : Bytes} {eof : Bool}
    (present : world.sessions.lookup handle = some session)
    (replaying : session.state = .replay offset)
    (read : world.readObservationResponse handle io = (.ok (chunk, eof), next)) :
    ∃ content, world.spool session.responsePath = some content ∧
      chunk = (content.drop offset).take
        (min io.count maxAutomaticObservationResponseReadBytes) ∧
      eof = (offset + chunk.length == session.responseBytes) ∧
      next = { world with
        sessions := world.sessions.insert handle
          ({ session with state := .replay (offset + chunk.length) }) } := by
  unfold readObservationResponse at read
  simp only [present, replaying] at read
  split at read
  · cases read
  · rename_i content served
    split at read
    · cases read
    · simp only [Prod.mk.injEq, Except.ok.injEq] at read
      obtain ⟨⟨rfl, rfl⟩, rfl⟩ := read
      exact ⟨content, readFile_ok served, rfl, rfl, rfl⟩

/-- A read that is passed on keeps the sessions in step, or is lost. -/
theorem mirrors_read (mirrors : Mirrors handle linked) (io : ReadIo)
    (sent : Sent linked.session (.read io)) :
    Mirrors handle (readResponse handle io linked).2 ∧
      ((readResponse handle io linked).1 = none → Lost (readResponse handle io linked).2) := by
  have state : linked.session.state = .replay := sent
  have live : linked.session.state ≠ .finished := by
    simp [state]
  cases mirrors with
  | requesting session paired go => rw [go] at state; cases state
  | capturing session paired go => rw [go] at state; cases state
  | replayed session paired go => rw [go] at state; cases state
  | finished go => exact absurd go live
  | replaying session offset paired go engine before asked =>
      have effect := readObservationResponse_effect linked.world handle io
      unfold readResponse
      rw [if_neg (by simp [state])]
      rcases answer : linked.world.readObservationResponse handle io with
        ⟨error | ⟨chunk, eof⟩, world⟩
      · rw [answer] at effect
        have same : world = linked.world := by
          cases effect
          rfl
        have ⟨kept, lost⟩ := @lost_abandonLocked _ _ handle { linked with world := world } live
          (.inl (by simp [same, paired.present]))
        exact ⟨kept, fun _ => lost⟩
      · obtain ⟨content, stored, rfl, rfl, rfl⟩ :=
          readObservationResponse_ok paired.present engine answer
        obtain ⟨response, kept, counted⟩ := paired.stored
        obtain rfl : content = response := by
          rw [paired.responsePath, kept] at stored
          exact (Option.some.inj stored).symm
        refine ⟨?_, nofun⟩
        dsimp only
        generalize taken : (content.drop offset).take
          (min io.count maxAutomaticObservationResponseReadBytes) = chunk
        have within : offset + chunk.length ≤ session.responseBytes := by
          have short := congrArg List.length taken
          rw [List.length_take, List.length_drop] at short
          rcases before with inside | rfl
          · omega
          · omega
        by_cases ends : offset + chunk.length = session.responseBytes
        · rw [if_pos (by simpa using ends)]
          exact .replayed { session with state := .replay (offset + chunk.length) }
            ⟨AList.lookup_insert _, paired.requestPath, paired.responsePath, paired.position,
              paired.requested, content, kept, counted⟩ rfl (by rw [ends]) asked
        · rw [if_neg (by simpa using ends)]
          exact .replaying { session with state := .replay (offset + chunk.length) } _
            ⟨AList.lookup_insert _, paired.requestPath, paired.responsePath, paired.position,
              paired.requested, content, kept, counted⟩ go rfl (.inl (by simp only; omega)) asked

/-- A finish that is passed on ends the session, or is lost. -/
theorem mirrors_finish (outcome : Option DependencyOutcome) (io : FinishIo)
    (mirrors : Mirrors handle linked) (sent : Sent linked.session (.finish outcome io)) :
    Mirrors handle (finish core handle outcome io linked).2 ∧
      ((finish core handle outcome io linked).1 = none →
        Lost (finish core handle outcome io linked).2) := by
  obtain ⟨named, valid⟩ := sent
  obtain ⟨outcome, rfl⟩ := Option.isSome_iff_exists.mp named
  have live : linked.session.state ≠ .finished := by
    rcases valid with ⟨capture, -⟩ | eof
    · simp [capture]
    · simp [eof]
  obtain ⟨session, paired⟩ := mirrors.paired live
  have effect := finishObservation_effect core linked.world handle outcome
    linked.session.sessionPosition io
  unfold finish
  dsimp only
  rw [if_neg (by simpa using valid)]
  generalize linked.world.finishObservation core handle outcome
    linked.session.sessionPosition io = answer at effect
  rcases answer with ⟨reply, world⟩
  cases effect with
  | unknown absent =>
      rw [paired.present] at absent
      cases absent
  | lost error other present artifacts interactions =>
      have ⟨kept, lost⟩ := @lost_abandonLocked _ _ handle
        { linked with world :=
          { linked.world with
            sessions := linked.world.sessions.erase handle
            artifacts := artifacts
            dependencyInteractions := interactions
            incompleteSession := true } } live (.inr rfl)
      exact ⟨kept, fun _ => lost⟩
  | replayed other replay present complete replays =>
      exact ⟨.finished rfl (AList.lookup_erase _ _), nofun⟩
  | published other publication present complete captures published =>
      refine ⟨.finished rfl ?_, nofun⟩
      exact AList.lookup_erase _ _

/-- A call that is not passed on fails or does nothing. -/
theorem perform_of_not_sent {call : Call} (sent : ¬ Sent linked.session call) :
    perform core handle call linked = (none, linked) := by
  cases call with
  | write stream chunk io =>
      have refused : linked.session.state ≠ required stream ∨ chunk = [] ∨
          sdkEngineMaxObservationChunkBytes < chunk.length := by
        by_contra passed
        simp only [not_or, not_not, Nat.not_lt] at passed
        exact sent passed
      simp only [perform, write, if_pos refused, Option.map_none]
  | dispatch io =>
      have refused : linked.session.state ≠ .request ∨ linked.session.requestBytes = 0 := by
        by_contra passed
        simp only [not_or, not_not] at passed
        exact sent passed
      simp only [perform, dispatch, if_pos refused, Option.map_none]
  | read io =>
      have refused : linked.session.state ≠ .replay := sent
      simp only [perform, readResponse, if_pos refused, Option.map_none]
  | finish outcome io =>
      cases outcome with
      | none => rfl
      | some outcome =>
          have refused : ¬ linked.session.valid := fun valid => sent ⟨rfl, valid⟩
          simp only [perform, finish, if_pos refused, Option.map_none]
  | abandon => exact absurd trivial sent

/-- Every call keeps the sessions in step, and one that was passed on and failed loses them. -/
theorem mirrors_perform (mirrors : Mirrors handle linked) (call : Call) :
    Mirrors handle (perform core handle call linked).2 ∧
      (Sent linked.session call → (perform core handle call linked).1 = none →
        Lost (perform core handle call linked).2) := by
  by_cases sent : Sent linked.session call
  · cases call with
    | write stream chunk io =>
        have ⟨kept, lost, _⟩ := mirrors_write mirrors io sent
        exact ⟨kept, fun _ failed => lost (Option.map_eq_none_iff.mp failed)⟩
    | dispatch io =>
        have ⟨kept, lost⟩ := @mirrors_dispatch _ _ core _ _ mirrors io sent
        exact ⟨kept, fun _ failed => lost (Option.map_eq_none_iff.mp failed)⟩
    | read io =>
        have ⟨kept, lost⟩ := mirrors_read mirrors io sent
        exact ⟨kept, fun _ failed => lost (Option.map_eq_none_iff.mp failed)⟩
    | finish outcome io =>
        have ⟨kept, lost⟩ := @mirrors_finish _ _ core _ _ outcome io mirrors sent
        exact ⟨kept, fun _ failed => lost (Option.map_eq_none_iff.mp failed)⟩
    | abandon =>
        refine ⟨?_, nofun⟩
        simp only [perform]
        by_cases live : linked.session.state = .finished
        · rw [abandonLocked, if_pos live]
          exact mirrors
        · obtain ⟨session, paired⟩ := mirrors.paired live
          exact (lost_abandonLocked live (.inl (by simp [paired.present]))).1
  · rw [perform_of_not_sent sent]
    exact ⟨mirrors, fun passed => absurd passed sent⟩

/-- A session that was just opened is in step with the session of the engine. -/
theorem mirrors_opened {world next : AutomaticWorldCoordinator Digest Replay}
    {observationClass : AutomaticObservationClass} {causalParentId : Option OperationId}
    {semanticContract : Bool} {io : OpenIo} {position : Nat}
    (opens : world.openObservationInner handle observationClass causalParentId semanticContract io =
      (.ok position, next)) :
    Mirrors handle { session := ⟨0, 0, position, .request⟩, world := next } := by
  have effect := openObservationInner_effect world handle observationClass causalParentId
    semanticContract io
  rw [opens] at effect
  cases effect with
  | opened fresh registered bounded =>
      refine .requesting _ ⟨AList.lookup_insert _, rfl, rfl, rfl, rfl, [], ?_, rfl⟩ rfl rfl rfl
      exact Function.update_self _ _ _

end Steps

/-! ## Runs -/

section Runs

variable (core : Core Digest Replay) (handle : Nat)

/-- The states after any calls on a session that was opened in the engine. -/
inductive Reached : Linked Digest Replay → Prop
  | opened {world next : AutomaticWorldCoordinator Digest Replay}
      (observationClass : AutomaticObservationClass) (causalParentId : Option OperationId)
      (semanticContract : Bool) (io : OpenIo) (position : Nat)
      (opens : world.openObservationInner handle observationClass causalParentId semanticContract
        io = (.ok position, next)) :
      Reached { session := ⟨0, 0, position, .request⟩, world := next }
  | called {linked : Linked Digest Replay} (reached : Reached linked) (call : Call) :
      Reached (perform core handle call linked).2

variable {core handle}

/-- After any calls the sessions are in step. -/
theorem Reached.mirrors {linked : Linked Digest Replay} (reached : Reached core handle linked) :
    Mirrors handle linked := by
  induction reached with
  | opened observationClass causalParentId semanticContract io position opens =>
      exact mirrors_opened opens
  | called reached call ih => exact (mirrors_perform ih call).1

end Runs

/-! ## Admitted calls -/

/-- The state of a Go session admits a call. -/
def goAdmits (session : Session) : Call → Prop
  | .write stream _ _ => session.state = required stream
  | .dispatch _ => session.state = .request ∧ session.requestBytes ≠ 0
  | .read _ => session.state = .replay
  | .finish _ _ => session.valid
  | .abandon => session.state ≠ .finished

/-- The state of a session in the engine admits a call. -/
def sessionAdmits (session : ObservationSession) : Call → Prop
  | .write stream _ _ => session.accepts stream = true
  | .dispatch _ => session.state = .request ∧ session.requestBytes ≠ 0
  | .read _ => ∃ offset, session.state = .replay offset
  | .finish _ _ =>
      session.responseComplete = true ∧ session.requestBytes ≠ 0 ∧ session.responseBytes ≠ 0
  | .abandon => True

/-- The engine has a session under a handle, and its state admits a call. -/
def engineAdmits (world : AutomaticWorldCoordinator Digest Replay) (handle : Nat) (call : Call) :
    Prop :=
  ∃ session, world.sessions.lookup handle = some session ∧ sessionAdmits session call

/-- The engine answers a call with an error. -/
def engineFails (core : Core Digest Replay) (world : AutomaticWorldCoordinator Digest Replay)
    (handle : Nat) (sessionPosition : Nat) : Call → Prop
  | .write stream chunk io =>
      ∃ error, (world.writeObservation handle stream chunk io).1 = .error error
  | .dispatch io => ∃ error, (world.dispatchObservation core handle io).1 = .error error
  | .read io => ∃ error, (world.readObservationResponse handle io).1 = .error error
  | .finish outcome io => ∀ named, outcome = some named →
      ∃ error, (world.finishObservation core handle named sessionPosition io).1 = .error error
  | .abandon => ∃ error, (world.abandonObservation handle).1 = .error error

/-- A call at the end of a recorded response that the two state machines treat differently: a
further read, and the end of a session whose recorded response is empty. -/
def PastEnd (handle : Nat) (linked : Linked Digest Replay) : Call → Prop
  | .read _ => linked.session.state = .replayEof
  | .finish _ _ => linked.session.state = .replayEof ∧
      linked.world.spool (.sessionResponse handle) = some []
  | _ => False

/-- The engine refuses every call that the state of its session does not admit. -/
theorem engineFails_of_not_admits {core : Core Digest Replay}
    {world : AutomaticWorldCoordinator Digest Replay} {handle : Nat} {call : Call}
    (sessionPosition : Nat) (refused : ¬ engineAdmits world handle call) :
    engineFails core world handle sessionPosition call := by
  cases present : world.sessions.lookup handle with
  | none =>
      cases call with
      | write stream chunk io =>
          simp only [engineFails, writeObservation, present]
          split
          · exact ⟨_, rfl⟩
          · exact ⟨_, rfl⟩
      | dispatch io =>
          simp only [engineFails, dispatchObservation, present]
          exact ⟨_, rfl⟩
      | read io =>
          simp only [engineFails, readObservationResponse, present]
          exact ⟨_, rfl⟩
      | finish outcome io =>
          intro named _
          simp only [finishObservation, present]
          exact ⟨_, rfl⟩
      | abandon =>
          simp only [engineFails, abandonObservation, present]
          exact ⟨_, rfl⟩
  | some session =>
      have state : ¬ sessionAdmits session call := fun admits => refused ⟨session, present, admits⟩
      cases call with
      | write stream chunk io =>
          have closed : session.accepts stream ≠ true := state
          simp only [engineFails, writeObservation, present, if_pos closed]
          split
          · exact ⟨_, rfl⟩
          · exact ⟨_, rfl⟩
      | dispatch io =>
          simp only [engineFails, dispatchObservation, present]
          split
          · exact ⟨_, rfl⟩
          · rw [if_pos (by simpa [sessionAdmits, or_iff_not_imp_left] using state)]
            exact ⟨_, rfl⟩
      | read io =>
          simp only [engineFails, readObservationResponse, present]
          split
          · rename_i offset replaying
            exact absurd ⟨offset, replaying⟩ state
          · exact ⟨_, rfl⟩
      | finish outcome io =>
          intro named _
          simp only [finishObservation, present]
          rw [if_pos]
          · exact ⟨_, rfl⟩
          · by_contra complete
            simp only [not_or, not_not] at complete
            exact state ⟨complete.1, complete.2.1, complete.2.2.1⟩
      | abandon => exact absurd trivial state

/-- Apart from the end of a recorded response, the Go session admits what the engine admits. -/
theorem Mirrors.agree {handle : Nat} {linked : Linked Digest Replay}
    (mirrors : Mirrors handle linked) {call : Call} (before : ¬ PastEnd handle linked call) :
    goAdmits linked.session call ↔ engineAdmits linked.world handle call := by
  have known {session : ObservationSession} (paired : Paired handle linked session) :
      engineAdmits linked.world handle call ↔ sessionAdmits session call := by
    simp [engineAdmits, paired.present]
  cases mirrors with
  | requesting session paired go engine responded =>
      rw [known paired]
      cases call with
      | write stream chunk io =>
          cases stream <;>
            simp [goAdmits, sessionAdmits, go, engine, required, ObservationSession.accepts]
      | dispatch io => simp [goAdmits, sessionAdmits, go, engine, paired.requested]
      | read io => simp [goAdmits, sessionAdmits, go, engine]
      | finish outcome io =>
          simp [goAdmits, sessionAdmits, go, engine, Session.valid,
            ObservationSession.responseComplete]
      | abandon => simp [goAdmits, sessionAdmits, go]
  | capturing session paired go engine responded asked =>
      rw [known paired]
      cases call with
      | write stream chunk io =>
          cases stream <;>
            simp [goAdmits, sessionAdmits, go, engine, required, ObservationSession.accepts]
      | dispatch io => simp [goAdmits, sessionAdmits, go, engine]
      | read io => simp [goAdmits, sessionAdmits, go, engine]
      | finish outcome io =>
          simp [goAdmits, sessionAdmits, go, engine, Session.valid, asked, responded,
            ObservationSession.responseComplete, Nat.pos_iff_ne_zero]
      | abandon => simp [goAdmits, sessionAdmits, go]
  | replaying session offset paired go engine inside asked =>
      rw [known paired]
      cases call with
      | write stream chunk io =>
          cases stream <;>
            simp [goAdmits, sessionAdmits, go, engine, required, ObservationSession.accepts]
      | dispatch io => simp [goAdmits, sessionAdmits, go, engine]
      | read io => simp [goAdmits, sessionAdmits, go, engine]
      | finish outcome io =>
          simp only [goAdmits, sessionAdmits, go, engine, Session.valid, reduceCtorEq, false_and,
            or_self, ObservationSession.responseComplete, beq_iff_eq, false_iff]
          rintro ⟨complete, -, nonempty⟩
          rcases inside with inside | rfl
          · omega
          · exact nonempty complete.symm
      | abandon => simp [goAdmits, sessionAdmits, go]
  | replayed session paired go engine asked =>
      rw [known paired]
      cases call with
      | write stream chunk io =>
          cases stream <;>
            simp [goAdmits, sessionAdmits, go, engine, required, ObservationSession.accepts]
      | dispatch io => simp [goAdmits, sessionAdmits, go, engine]
      | read io => exact absurd go before
      | finish outcome io =>
          obtain ⟨content, stored, counted⟩ := paired.stored
          have nonempty : session.responseBytes ≠ 0 := by
            intro empty
            refine before ⟨go, ?_⟩
            rw [stored, List.length_eq_zero_iff.mp (counted.trans empty)]
          simp [goAdmits, sessionAdmits, go, engine, Session.valid, asked, nonempty,
            ObservationSession.responseComplete]
      | abandon => simp [goAdmits, sessionAdmits, go]
  | finished go absent =>
      have refused : ¬ engineAdmits linked.world handle call := by
        rintro ⟨session, present, -⟩
        simp [absent] at present
      refine iff_of_false ?_ refused
      cases call with
      | write stream chunk io => cases stream <;> simp [goAdmits, go, required]
      | dispatch io => simp [goAdmits, go]
      | read io => simp [goAdmits, go]
      | finish outcome io => simp [goAdmits, go, Session.valid]
      | abandon => simp [goAdmits, go]

/-- At the end of a recorded response the engine still reads, and does not end an empty one. -/
theorem Mirrors.pastEnd {handle : Nat} {linked : Linked Digest Replay}
    (mirrors : Mirrors handle linked) {call : Call} (past : PastEnd handle linked call) :
    goAdmits linked.session call ↔ ¬ engineAdmits linked.world handle call := by
  have eof : linked.session.state = .replayEof := by
    cases call with
    | read io => exact past
    | finish outcome io => exact past.1
    | write stream chunk io => exact absurd past not_false
    | dispatch io => exact absurd past not_false
    | abandon => exact absurd past not_false
  cases mirrors with
  | requesting session paired go => rw [go] at eof; cases eof
  | capturing session paired go => rw [go] at eof; cases eof
  | replaying session offset paired go => rw [go] at eof; cases eof
  | finished go => rw [go] at eof; cases eof
  | replayed session paired go engine asked =>
      cases call with
      | read io => simp [goAdmits, engineAdmits, sessionAdmits, paired.present, go, engine]
      | finish outcome io =>
          obtain ⟨content, stored, counted⟩ := paired.stored
          have empty : session.responseBytes = 0 := by
            rw [← counted, ← Option.some.inj (past.2.symm.trans stored), List.length_nil]
          simp [goAdmits, engineAdmits, sessionAdmits, paired.present, go, Session.valid, empty]
      | write stream chunk io => exact absurd past not_false
      | dispatch io => exact absurd past not_false
      | abandon => exact absurd past not_false

/-! ## Written records -/

/-- A write that did not fail was passed on. -/
theorem sent_of_write {handle : Nat} {linked : Linked Digest Replay}
    {stream : AutomaticObservationStream} {chunk : Bytes} {io : WriteIo}
    (written : (write handle stream chunk io linked).1 = some ()) :
    Sent linked.session (.write stream chunk io) := by
  unfold write at written
  split at written
  · cases written
  · rename_i passed
    simp only [not_or, not_not, Nat.not_lt] at passed
    exact passed

/-- Chunks that are written one after another reach the response of the session in the engine. -/
theorem writeChunks_ok {handle : Nat} {linked : Linked Digest Replay} {content : Bytes}
    {chunks : List Bytes} {io : Nat → WriteIo} (mirrors : Mirrors handle linked)
    (stored : linked.world.spool (.sessionResponse handle) = some content)
    (written : (writeChunks handle chunks io linked).1 = some ()) :
    Mirrors handle (writeChunks handle chunks io linked).2 ∧
      (writeChunks handle chunks io linked).2.world.spool (.sessionResponse handle) =
        some (content ++ chunks.flatten) := by
  induction chunks generalizing io linked content with
  | nil => exact ⟨mirrors, by simpa [writeChunks] using stored⟩
  | cons chunk chunks ih =>
      rw [writeChunks] at written ⊢
      rcases answer : write handle .response chunk (io 0) linked with ⟨reply, next⟩
      rw [answer] at written
      cases reply with
      | none => cases written
      | some done =>
          have sent := @sent_of_write _ _ handle linked .response chunk (io 0) (by rw [answer])
          have ⟨kept, _, reached⟩ := mirrors_write mirrors (io 0) sent
          rw [answer] at kept reached
          obtain ⟨before, found, after⟩ := reached rfl rfl
          obtain rfl : content = before := Option.some.inj (stored.symm.trans found)
          have ⟨last, whole⟩ := ih kept after written
          exact ⟨last, by simpa [List.append_assoc] using whole⟩

/-! ## Read records -/

/-- The chunks that the engine answers to reads up to the end of the response, if there are no more
than a number of them and none fails. -/
def engineReads (handle : Nat) : Nat → (Nat → ReadIo) → AutomaticWorldCoordinator Digest Replay →
    Option (List Bytes)
  | 0, _, _ => none
  | reads + 1, io, world =>
      match world.readObservationResponse handle (io 0) with
      | (.error _, _) => none
      | (.ok (chunk, eof), world) =>
          if eof then some [chunk]
          else (engineReads handle reads (fun count => io (count + 1)) world).map (chunk :: ·)

/-- The record that chunks make up. -/
def recordOf (chunks : List Bytes) : Option Bytes :=
  if chunks.flatten = [] ∨ semanticObservationMaxRecordBytes < chunks.flatten.length then none
  else some chunks.flatten

/-- The reads of a record give what was read before with the chunks of the engine. -/
theorem readChunks_eq {handle : Nat} {linked : Linked Digest Replay} {before : List Bytes}
    {reads : Nat} {io : Nat → ReadIo} (replaying : linked.session.state = .replay)
    (bounded : before.flatten.length ≤ semanticObservationMaxRecordBytes) :
    (readChunks handle reads before.flatten io linked).1 =
      (engineReads handle reads io linked.world).bind fun chunks =>
        recordOf (before ++ chunks) := by
  induction reads generalizing before io linked with
  | zero => rfl
  | succ reads ih =>
      rw [readChunks, engineReads, readResponse, if_neg (not_not.mpr replaying)]
      rcases answer : linked.world.readObservationResponse handle (io 0) with
        ⟨error | ⟨chunk, eof⟩, world⟩
      · rfl
      · dsimp only
        have joined : (before ++ [chunk]).flatten = before.flatten ++ chunk := by
          simp
        split
        · rename_i large
          have wide (chunks : List Bytes) : recordOf (before ++ chunk :: chunks) = none := by
            refine if_pos (.inr ?_)
            simp only [List.flatten_append, List.flatten_cons, List.length_append]
            omega
          cases eof with
          | true => exact (wide []).symm
          | false =>
              rw [if_neg Bool.false_ne_true, if_neg Bool.false_ne_true]
              cases engineReads handle reads (fun count => io (count + 1)) world with
              | none => rfl
              | some chunks => exact (wide chunks).symm
        · rename_i fits
          have room : (before ++ [chunk]).flatten.length ≤ semanticObservationMaxRecordBytes := by
            rw [joined, List.length_append]
            omega
          cases eof with
          | true =>
              simp only [if_true, Option.bind_some, recordOf, joined]
              rw [joined] at room
              by_cases empty : before.flatten ++ chunk = []
              · rw [if_pos empty, if_pos (.inl empty)]
              · rw [if_neg empty, if_neg (not_or.mpr ⟨empty, Nat.not_lt.mpr room⟩)]
          | false =>
              have rest := @ih { session := linked.session, world := world } (before ++ [chunk])
                (fun count => io (count + 1)) replaying room
              rw [joined] at rest
              simp only [Bool.false_eq_true, if_false, rest]
              cases engineReads handle reads (fun count => io (count + 1)) world with
              | none => rfl
              | some chunks => simp

/-- The chunks of the engine up to the end make up the rest of the recorded response. -/
theorem engineReads_flatten {handle : Nat} {world : AutomaticWorldCoordinator Digest Replay}
    {session : ObservationSession} {offset : Nat} {content : Bytes} {reads : Nat}
    {io : Nat → ReadIo} {chunks : List Bytes}
    (present : world.sessions.lookup handle = some session)
    (replaying : session.state = .replay offset)
    (stored : world.spool session.responsePath = some content)
    (counted : content.length = session.responseBytes)
    (read : engineReads handle reads io world = some chunks) :
    chunks.flatten = content.drop offset := by
  induction reads generalizing world session offset io chunks with
  | zero => cases read
  | succ reads ih =>
      rw [engineReads] at read
      rcases answer : world.readObservationResponse handle (io 0) with ⟨error | ⟨chunk, eof⟩, next⟩
      · rw [answer] at read
        cases read
      · rw [answer] at read
        obtain ⟨found, kept, taken, ended, rfl⟩ :=
          readObservationResponse_ok present replaying answer
        obtain rfl : content = found := Option.some.inj (stored.symm.trans kept)
        have first : chunk ++ content.drop (offset + chunk.length) = content.drop offset := by
          obtain ⟨rest, whole⟩ : chunk <+: content.drop offset := taken ▸ List.take_prefix _ _
          rw [← List.drop_drop, ← whole, List.drop_left]
        cases eof with
        | true =>
            obtain rfl := Option.some.inj read
            have last : content.drop (offset + chunk.length) = [] := by
              rw [List.drop_eq_nil_iff, counted]
              exact (beq_iff_eq.mp ended.symm).ge
            simpa [last] using first
        | false =>
            obtain ⟨others, after, rfl⟩ := Option.map_eq_some_iff.mp read
            have rest : others.flatten = content.drop (offset + chunk.length) := by
              apply ih (AList.lookup_insert _) _ _ _ after
              · rfl
              · exact stored
              · exact counted
            rw [List.flatten_cons, rest, first]

/-! ## What a Go session and the engine keep -/

/-- An engine call that fails makes the call on the Go session fail. -/
theorem perform_of_engineFails {core : Core Digest Replay} {handle : Nat}
    {linked : Linked Digest Replay} {call : Call} (other : call ≠ .abandon)
    (fails : engineFails core linked.world handle linked.session.sessionPosition call) :
    (perform core handle call linked).1 = none := by
  cases call with
  | write stream chunk io =>
      obtain ⟨error, failed⟩ := fails
      simp only [perform, write]
      split
      · rfl
      · rcases answer : linked.world.writeObservation handle stream chunk io with ⟨reply, next⟩
        rw [answer] at failed
        subst failed
        rfl
  | dispatch io =>
      obtain ⟨error, failed⟩ := fails
      simp only [perform, dispatch]
      split
      · rfl
      · rcases answer : linked.world.dispatchObservation core handle io with ⟨reply, next⟩
        rw [answer] at failed
        subst failed
        rfl
  | read io =>
      obtain ⟨error, failed⟩ := fails
      simp only [perform, readResponse]
      split
      · rfl
      · rcases answer : linked.world.readObservationResponse handle io with ⟨reply, next⟩
        rw [answer] at failed
        subst failed
        rfl
  | finish outcome io =>
      cases outcome with
      | none => rfl
      | some outcome =>
          obtain ⟨error, failed⟩ := fails outcome rfl
          simp only [perform, finish]
          split
          · rfl
          · rcases answer : linked.world.finishObservation core handle outcome
              linked.session.sessionPosition io with ⟨reply, next⟩
            rw [answer] at failed
            subst failed
            rfl
  | abandon => exact absurd rfl other

/-- A finished Go session admits no call. -/
theorem not_goAdmits_of_finished {session : Session} (finished : session.state = .finished)
    (call : Call) : ¬ goAdmits session call := by
  cases call with
  | write stream chunk io => cases stream <;> simp [goAdmits, finished, required]
  | dispatch io => simp [goAdmits, finished]
  | read io => simp [goAdmits, finished]
  | finish outcome io => simp [goAdmits, finished, Session.valid]
  | abandon => simp [goAdmits, finished]

/-- The Go session admits no call, and the operation of the engine never completes. -/
structure Abandoned (core : Core Digest Replay) (linked : Linked Digest Replay) : Prop where
  unusable : ∀ call, ¬ goAdmits linked.session call
  remembered : linked.world.incompleteSession = true
  open_capture : ∀ completion io, linked.world.close core completion io = .error worldNotClosed
  open_replay : linked.world.captures = false →
    linked.world.finishReplay core = .error worldNotClosed

/-- A lost session abandons the operation. -/
theorem Lost.abandons {linked : Linked Digest Replay} (core : Core Digest Replay)
    (lost : Lost linked) : Abandoned core linked where
  unusable := not_goAdmits_of_finished lost.unusable
  remembered := lost.abandoned
  open_capture := close_doomed (.inl lost.abandoned)
  open_replay := finishReplay_doomed (.inl lost.abandoned)

/-- How a Go session and the engine behind it stand to each other. -/
structure Follows (core : Core Digest Replay) (handle : Nat) (linked : Linked Digest Replay) :
    Prop where
  agree : ∀ call, ¬ PastEnd handle linked call →
    (goAdmits linked.session call ↔ engineAdmits linked.world handle call)
  pastEnd : ∀ call, PastEnd handle linked call →
    (goAdmits linked.session call ↔ ¬ engineAdmits linked.world handle call)
  goRefuses : ∀ call, ¬ goAdmits linked.session call →
    (perform core handle call linked).2 = linked ∧
      (call ≠ .abandon → (perform core handle call linked).1 = none)
  engineRefuses : ∀ call, ¬ engineAdmits linked.world handle call →
    engineFails core linked.world handle linked.session.sessionPosition call
  failed : ∀ call, call ≠ .abandon → Sent linked.session call →
    engineFails core linked.world handle linked.session.sessionPosition call →
    (perform core handle call linked).1 = none ∧
      Abandoned core (perform core handle call linked).2
  record : ∀ value io, (writeRecord handle value io linked).1 = some () →
    ∃ content, linked.world.spool (.sessionResponse handle) = some content ∧
      content.length = linked.session.responseBytes ∧
      (writeRecord handle value io linked).2.world.spool (.sessionResponse handle) =
        some (content ++ value)
  reader : ∀ io, (readRecord handle io linked).1 =
    if linked.session.state = .replay then
      (engineReads handle semanticObservationMaxReads io linked.world).bind recordOf
    else none
  recorded : ∀ io chunks, linked.session.state = .replay →
    engineReads handle semanticObservationMaxReads io linked.world = some chunks →
    ∃ session offset content, linked.world.sessions.lookup handle = some session ∧
      session.state = .replay offset ∧
      linked.world.spool (.sessionResponse handle) = some content ∧
      chunks.flatten = content.drop offset

/-- A call that the state of the Go session does not admit changes nothing. -/
theorem perform_of_not_goAdmits {core : Core Digest Replay} {handle : Nat}
    {linked : Linked Digest Replay} {call : Call} (refused : ¬ goAdmits linked.session call) :
    (perform core handle call linked).2 = linked ∧
      (call ≠ .abandon → (perform core handle call linked).1 = none) := by
  by_cases sent : Sent linked.session call
  · cases call with
    | write stream chunk io => exact absurd sent.1 refused
    | dispatch io => exact absurd sent refused
    | read io => exact absurd sent refused
    | finish outcome io => exact absurd sent.2 refused
    | abandon => exact ⟨if_pos (not_not.mp refused), fun other => absurd rfl other⟩
  · rw [perform_of_not_sent sent]
    exact ⟨rfl, fun _ => rfl⟩

/-- A record that is written reaches the response of the session in the engine. -/
theorem writeRecord_ok {handle : Nat} {linked : Linked Digest Replay} {value : Bytes}
    {io : Nat → WriteIo} (mirrors : Mirrors handle linked)
    (written : (writeRecord handle value io linked).1 = some ()) :
    ∃ content, linked.world.spool (.sessionResponse handle) = some content ∧
      content.length = linked.session.responseBytes ∧
      (writeRecord handle value io linked).2.world.spool (.sessionResponse handle) =
        some (content ++ value) := by
  unfold writeRecord at written ⊢
  split at written
  · cases written
  · rename_i fits
    rw [if_neg fits]
    simp only [not_or] at fits
    have positive : 0 < sdkEngineMaxObservationChunkBytes := by
      decide
    have capture : linked.session.state = .capture := by
      rw [chunks_of_ne_nil positive fits.1, writeChunks] at written
      cases sent : (write handle .response (value.take sdkEngineMaxObservationChunkBytes) (io 0)
        linked).1 with
      | none =>
          rcases answer : write handle .response (value.take sdkEngineMaxObservationChunkBytes)
            (io 0) linked with ⟨reply, next⟩
          rw [answer] at written sent
          subst sent
          cases written
      | some done => exact (sent_of_write sent).1
    have ⟨content, stored, counted⟩ : ∃ content,
        linked.world.spool (.sessionResponse handle) = some content ∧
          content.length = linked.session.responseBytes := by
      cases mirrors with
      | capturing session paired go engine responded asked =>
          obtain ⟨content, stored, counted⟩ := paired.stored
          exact ⟨content, stored, counted.trans responded⟩
      | requesting session paired go => rw [go] at capture; cases capture
      | replaying session offset paired go => rw [go] at capture; cases capture
      | replayed session paired go => rw [go] at capture; cases capture
      | finished go => rw [go] at capture; cases capture
    have whole := (writeChunks_ok mirrors stored written).2
    rw [chunks_flatten positive] at whole
    exact ⟨content, stored, counted, whole⟩

/-- A Go session follows the session of the engine, apart from the end of a recorded response:
there the engine still reads, and does not end a session whose response is empty. -/
theorem session_follows {core : Core Digest Replay} {handle : Nat} {linked : Linked Digest Replay}
    (reached : Reached core handle linked) : Follows core handle linked where
  agree _ before := reached.mirrors.agree before
  pastEnd _ past := reached.mirrors.pastEnd past
  goRefuses _ refused := perform_of_not_goAdmits refused
  engineRefuses _ refused := engineFails_of_not_admits _ refused
  failed call other sent fails := by
    have none := @perform_of_engineFails _ _ core handle linked call other fails
    exact ⟨none, ((mirrors_perform reached.mirrors call).2 sent none).abandons core⟩
  record _ _ written := writeRecord_ok reached.mirrors written
  reader io := by
    split
    · rename_i replaying
      exact @readChunks_eq _ _ handle linked [] semanticObservationMaxReads io replaying
        (Nat.zero_le _)
    · rename_i other
      unfold readRecord semanticObservationMaxReads
      rw [readChunks, readResponse, if_pos other]
  recorded io chunks replaying read := by
    obtain ⟨session, offset, paired, engine⟩ : ∃ session offset,
        Paired handle linked session ∧ session.state = .replay offset := by
      cases reached.mirrors with
      | replaying session offset paired go engine inside asked =>
          exact ⟨session, offset, paired, engine⟩
      | requesting session paired go => rw [go] at replaying; cases replaying
      | capturing session paired go => rw [go] at replaying; cases replaying
      | replayed session paired go => rw [go] at replaying; cases replaying
      | finished go => rw [go] at replaying; cases replaying
    obtain ⟨content, stored, counted⟩ := paired.stored
    have path : linked.world.spool session.responsePath = some content := by
      rw [paired.responsePath, stored]
    exact ⟨session, offset, content, paired.present, engine, stored,
      engineReads_flatten paired.present engine path counted read⟩

/-- A core whose recorded response is one byte. -/
def recordedCore : Core Bytes Unit :=
  { plainCore with takeResponse := fun replay _ _ _ => (.ok [1], replay) }

/-- A session that was opened in a replay. -/
def openedSession : Linked Bytes Unit where
  session := ⟨0, 0, 0, .request⟩
  world := ((newReplay recordedCore () { value := 1 }).openObservationInner 7 .clock none false
    plainOpenIo).2

/-- The session after its request was written, its response dispatched and read. -/
def readSession : Linked Bytes Unit :=
  let written := (perform recordedCore 7 (.write .request [0] ⟨true, .complete⟩) openedSession).2
  let dispatched := (perform recordedCore 7 (.dispatch ⟨true, true, true, .complete⟩) written).2
  (perform recordedCore 7 (.read ⟨true, 1⟩) dispatched).2

/-- No call was made on the opened session. -/
theorem reached_openedSession : Reached recordedCore 7 openedSession := by
  have opens : (newReplay recordedCore () { value := 1 }).openObservationInner 7 .clock none false
      plainOpenIo = (.ok 0, openedSession.world) := rfl
  exact .opened .clock none false plainOpenIo 0 opens

/-- The theorem applies to a session that was just opened. -/
theorem session_follows_opened : Follows recordedCore 7 openedSession :=
  session_follows reached_openedSession

/-- After the whole response was read the engine admits a read that the Go session refuses. -/
theorem read_after_end_differs :
    ¬ ∀ linked, Reached recordedCore 7 linked → ∀ call,
      (goAdmits linked.session call ↔ engineAdmits linked.world 7 call) := by
  intro same
  have reached : Reached recordedCore 7 readSession :=
    .called (.called (.called reached_openedSession _) _) _
  have engine : engineAdmits readSession.world 7 (.read ⟨true, 1⟩) := ⟨_, rfl, 1, rfl⟩
  have go : readSession.session.state = .replay := (same _ reached _).mpr engine
  exact absurd go (by decide)

end GoObservation
end ReproItSdk
