import Mathlib.Data.List.Induction
import ReproItSdk.World.Publications

/-! # Reading recorded responses back

A replayed operation answers each dispatched session with a recorded response, which the caller
reads in pieces.  A log lists, for each open session that was dispatched, the recorded response and
the bytes that its reads returned.

Main results:

- Theorem {lit}`followed_perform`: every session call of a replay keeps the sessions in step with
  the log.
- Theorem {lit}`replay_reads_recorded`: the reads of every session of a replay return the recorded
  response piece by piece, and only a session that was read to its end finishes.
-/

namespace ReproItSdk
namespace AutomaticWorld

open AutomaticWorldCoordinator

variable {Digest Replay : Type}

/-! ## Log of a replay -/

/-- The recorded response of a session, and the bytes that its reads returned. -/
structure ReplayedResponse where
  response : Bytes
  returned : Bytes
deriving DecidableEq, Repr

/-- The dispatched sessions that are open. -/
abbrev ReplayLog : Type :=
  Nat → Option ReplayedResponse

/-- The recorded response that a dispatch takes. -/
def recordedResponse (core : Core Digest Replay) (world : AutomaticWorldCoordinator Digest Replay)
    (sessionId : Nat) (io : DispatchIo) : Bytes :=
  match world.sessions.lookup sessionId, world.mode with
  | some session, .replay replay =>
      match readFile world.spool session.requestPath io.readRequest with
      | .error _ => []
      | .ok request =>
          match core.takeResponse replay session.observationClass session.sessionPosition
              request with
          | (.ok recorded, _) => recorded
          | (.error _, _) => []
  | _, _ => []

namespace ReplayLog

/-- Log after one more answered session call. -/
def record (core : Core Digest Replay) (log : ReplayLog) (answer : SessionAnswer Digest Replay) :
    ReplayLog :=
  match answer.call, answer.reply with
  | .dispatchObservation sessionId io, .ok _ =>
      Function.update log sessionId
        (some { response := recordedResponse core answer.before sessionId io, returned := [] })
  | .readObservationResponse sessionId _, .ok (.chunk chunk _) =>
      Function.update log sessionId
        ((log sessionId).map fun entry => { entry with returned := entry.returned ++ chunk })
  | .finishObservation sessionId _ _ _, _ => Function.update log sessionId none
  | .abandonObservation sessionId, _ => Function.update log sessionId none
  | _, _ => log

end ReplayLog

/-- A replay and its log after some session calls. -/
def replayRun (core : Core Digest Replay) (replay : Replay) (operationId : OperationId)
    (calls : List SessionCall) : AutomaticWorldCoordinator Digest Replay × ReplayLog :=
  calls.foldl
    (fun state call =>
      ((perform core state.1 call).2,
        state.2.record core (Runs.answer (perform core) state.1 call)))
    (newReplay core replay operationId, fun _ => none)

/-! ## Sessions of a replay -/

/-- A session of a replay and its entry in the log. -/
inductive Followed (world : AutomaticWorldCoordinator Digest Replay) (sessionId : Nat) :
    Option ObservationSession → Option ReplayedResponse → Prop where
  | absent : Followed world sessionId none none
  | requesting {session : ObservationSession}
      (requestPath : session.requestPath = .sessionRequest sessionId)
      (responsePath : session.responsePath = .sessionResponse sessionId)
      (state : session.state = .request) :
      Followed world sessionId (some session) none
  | replaying {session : ObservationSession} {entry : ReplayedResponse}
      (responsePath : session.responsePath = .sessionResponse sessionId)
      (state : session.state = .replay entry.returned.length)
      (counted : session.responseBytes = entry.response.length)
      (stored : world.spool (.sessionResponse sessionId) = some entry.response)
      (returned : entry.returned <+: entry.response) :
      Followed world sessionId (some session) (some entry)
  | overflowed {session : ObservationSession} {entry : Option ReplayedResponse}
      (state : session.state = .overflowed)
      (returned : ∀ logged ∈ entry, logged.returned <+: logged.response) :
      Followed world sessionId (some session) entry

/-- A replay whose sessions are in step with the log. -/
structure Follows (world : AutomaticWorldCoordinator Digest Replay) (log : ReplayLog) : Prop where
  replays : ∃ replay, world.mode = .replay replay
  sessions : ∀ sessionId,
    Followed world sessionId (world.sessions.lookup sessionId) (log sessionId)

variable {core : Core Digest Replay} {world next : AutomaticWorldCoordinator Digest Replay}
  {log after : ReplayLog} {sessionId : Nat}

/-- A session stays in step where its response file is left alone. -/
theorem Followed.framed {session : Option ObservationSession} {entry : Option ReplayedResponse}
    (followed : Followed world sessionId session entry)
    (same : next.spool (.sessionResponse sessionId) = world.spool (.sessionResponse sessionId)) :
    Followed next sessionId session entry := by
  cases followed with
  | absent => exact .absent
  | requesting requestPath responsePath state => exact .requesting requestPath responsePath state
  | replaying responsePath state counted stored returned =>
      exact .replaying responsePath state counted (same.trans stored) returned
  | overflowed state returned => exact .overflowed state returned

/-- What the reads of a session returned is the beginning of its recorded response. -/
theorem Followed.returned_within {session : Option ObservationSession}
    {entry : Option ReplayedResponse} (followed : Followed world sessionId session entry) :
    ∀ logged ∈ entry, logged.returned <+: logged.response := by
  cases followed with
  | absent => simp
  | requesting requestPath responsePath state => simp
  | replaying responsePath state counted stored returned => simpa using returned
  | overflowed state returned => exact returned

/-- An identifier without a session has no entry in the log. -/
theorem Followed.unlogged {entry : Option ReplayedResponse}
    (followed : Followed world sessionId none entry) : entry = none := by
  cases followed
  rfl

/-- A call that leaves every session and response file alone keeps the sessions in step. -/
theorem Follows.kept (follows : Follows world log)
    (replays : ∃ replay, next.mode = .replay replay) (sessions : next.sessions = world.sessions)
    (spool : next.spool = world.spool) : Follows next log := by
  refine ⟨replays, fun sessionId => ?_⟩
  rw [sessions]
  exact (follows.sessions sessionId).framed (by rw [spool])

/-- A call that changes one session keeps the sessions in step if that session stays so. -/
theorem Follows.changed (follows : Follows world log) (sessionId : Nat)
    (replays : ∃ replay, next.mode = .replay replay)
    (lookup : ∀ other, other ≠ sessionId →
      next.sessions.lookup other = world.sessions.lookup other)
    (logged : ∀ other, other ≠ sessionId → after other = log other)
    (spool : ∀ other, other ≠ sessionId →
      next.spool (.sessionResponse other) = world.spool (.sessionResponse other))
    (followed : Followed next sessionId (next.sessions.lookup sessionId) (after sessionId)) :
    Follows next after := by
  refine ⟨replays, fun other => ?_⟩
  by_cases same : other = sessionId
  · rw [same]
    exact followed
  · rw [lookup other same, logged other same]
    exact (follows.sessions other).framed (spool other same)

/-! ## Calls that keep the sessions in step -/

/-- An overflow of a session keeps the sessions in step. -/
theorem Follows.overflow (follows : Follows world log) (sessionId : Nat) :
    Follows (world.overflowSession sessionId) log := by
  unfold overflowSession
  cases present : world.sessions.lookup sessionId with
  | none => exact follows.kept follows.replays rfl rfl
  | some session =>
      refine follows.changed sessionId follows.replays
        (fun other apart => AList.lookup_insert_ne apart) (fun _ _ => rfl) (fun _ _ => rfl) ?_
      have followed := follows.sessions sessionId
      rw [AList.lookup_insert]
      exact .overflowed rfl followed.returned_within

/-- An open keeps the sessions in step. -/
theorem follows_open {observationClass : AutomaticObservationClass}
    {causalParentId : Option OperationId} {semanticContract : Bool} {io : OpenIo}
    {reply : Except Error Nat} (follows : Follows world log)
    (effect : world.OpenEffect sessionId observationClass causalParentId semanticContract io reply
      next) : Follows next log := by
  cases effect with
  | refused error => exact follows.kept follows.replays rfl rfl
  | silent error spool quiet others =>
      refine follows.changed sessionId follows.replays (fun _ _ => rfl) (fun _ _ => rfl) ?_ ?_
      · intro other apart
        exact others _ (by simp) (by simpa using apart)
      · have followed := follows.sessions sessionId
        rw [quiet.2.2.1] at followed ⊢
        rw [followed.unlogged]
        exact .absent
  | opened fresh registered bounded =>
      have followed := follows.sessions sessionId
      rw [fresh] at followed
      refine follows.changed sessionId follows.replays
        (fun other apart => AList.lookup_insert_ne apart) (fun _ _ => rfl) ?_ ?_
      · intro other apart
        simp [createFile, apart]
      · rw [AList.lookup_insert, followed.unlogged]
        exact .requesting rfl rfl rfl

/-- An append to the request of a session keeps the sessions in step. -/
theorem Follows.appended (follows : Follows world log) {session : ObservationSession}
    {stream : AutomaticObservationStream} (bytes : Nat)
    (present : world.sessions.lookup sessionId = some session)
    (accepted : session.accepts stream = true)
    (replays : ∃ replay, next.mode = .replay replay)
    (sessions : next.sessions =
      world.sessions.insert sessionId (session.setStreamBytes bytes stream))
    (spool : ∀ file, file ≠ session.streamPath stream → next.spool file = world.spool file) :
    Follows next log := by
  have followed := follows.sessions sessionId
  rw [present] at followed
  generalize logged : log sessionId = entry at followed
  cases followed with
  | requesting requestPath responsePath state =>
      cases stream with
      | response => simp [ObservationSession.accepts, state] at accepted
      | request =>
          have request : ∀ other, next.spool (.sessionResponse other) =
              world.spool (.sessionResponse other) := by
            intro other
            apply spool
            simp [ObservationSession.streamPath, requestPath]
          refine follows.changed sessionId replays ?_ (fun _ _ => rfl)
            (fun other _ => request other) ?_
          · intro other apart
            rw [sessions, AList.lookup_insert_ne apart]
          · rw [sessions, AList.lookup_insert, logged]
            exact .requesting requestPath responsePath state
  | replaying responsePath state counted stored returned =>
      simp [ObservationSession.accepts, state] at accepted
  | overflowed state returned => simp [ObservationSession.accepts, state] at accepted

/-- A write keeps the sessions in step. -/
theorem follows_write (follows : Follows world log) (stream : AutomaticObservationStream)
    (chunk : Bytes) (io : WriteIo) :
    Follows (world.writeObservation sessionId stream chunk io).2 log := by
  unfold writeObservation
  split
  · exact follows.overflow sessionId
  · split
    · exact follows
    · rename_i session present
      split
      · exact follows.overflow sessionId
      · rename_i accepted
        have accepted : session.accepts stream = true := by simpa using accepted
        have others : ∀ file, file ≠ session.streamPath stream →
            (appendChunk world.spool (session.streamPath stream) chunk io.append).2 file =
              world.spool file :=
          fun file different => appendChunk_other world.spool chunk io.append different
        dsimp only
        split
        · exact follows
        · split
          · exact follows.overflow sessionId
          · split
            · exact follows.appended _ present accepted follows.replays rfl others
            · exact follows.appended _ present accepted follows.replays rfl others

/-- What a dispatch of a session that has its request does in a replay: it fails and leaves the
session as it is but for its byte count, or the session replays the recorded response. -/
theorem follows_dispatchReplay (follows : Follows world log) {session : ObservationSession}
    {replay : Replay} {io : DispatchIo}
    (present : world.sessions.lookup sessionId = some session)
    (requesting : session.state = .request) (replays : world.mode = .replay replay) :
    Follows (world.dispatchReplay core sessionId session replay io).2
      (log.record core
        { before := world
          call := .dispatchObservation sessionId io
          reply := (world.dispatchReplay core sessionId session replay io).1.map .action
          after := (world.dispatchReplay core sessionId session replay io).2 }) := by
  have followed := follows.sessions sessionId
  rw [present] at followed
  generalize logged : log sessionId = entry at followed
  cases followed with
  | replaying responsePath state counted stored returned => simp [requesting] at state
  | overflowed state returned => simp [requesting] at state
  | requesting requestPath responsePath state =>
      have recounted : ∀ (bytes : Nat) (next : AutomaticWorldCoordinator Digest Replay),
          (∃ replay, next.mode = .replay replay) →
          next.sessions = world.sessions.insert sessionId
            { session with responseBytes := bytes } →
          (∀ file, file ≠ session.responsePath → next.spool file = world.spool file) →
          Follows next log := by
        intro bytes next replays sessions spool
        refine follows.changed sessionId replays ?_ (fun _ _ => rfl) ?_ ?_
        · intro other apart
          rw [sessions, AList.lookup_insert_ne apart]
        · intro other apart
          apply spool
          simpa [responsePath] using apart
        · rw [sessions, AList.lookup_insert, logged]
          exact .requesting requestPath responsePath state
      unfold dispatchReplay
      cases read : readFile world.spool session.requestPath io.readRequest with
      | error error => exact follows
      | ok request =>
          simp only
          rcases taken : core.takeResponse replay session.observationClass session.sessionPosition
            request with ⟨error | recorded, following⟩
          · exact follows.kept ⟨following, rfl⟩ rfl rfl
          · have response : recordedResponse core world sessionId io = recorded := by
              simp [recordedResponse, present, replays, read, taken]
            simp only
            split
            · exact recounted recorded.length _ ⟨following, rfl⟩ rfl fun _ _ => rfl
            · have others := fun (file : SpoolFile) (different : file ≠ session.responsePath) =>
                writeFile_other world.spool recorded io.writeResponse different
              split
              · exact recounted recorded.length _ ⟨following, rfl⟩ rfl others
              · rename_i written
                simp only [ReplayLog.record, Except.map, response]
                refine follows.changed sessionId ⟨following, rfl⟩ ?_ ?_ ?_ ?_
                · intro other apart
                  simp [AList.lookup_insert_ne apart]
                · intro other apart
                  exact Function.update_of_ne apart _ _
                · intro other apart
                  apply others
                  simpa [responsePath] using apart
                · rw [AList.lookup_insert, Function.update_self]
                  refine .replaying responsePath rfl rfl ?_ List.nil_prefix
                  cases complete : io.writeResponse with
                  | complete => simp [writeFile, responsePath]
                  | refused => simp [writeFile, complete] at written
                  | cut count => simp [writeFile, complete] at written

/-- A dispatch keeps the sessions in step. -/
theorem follows_dispatch (follows : Follows world log) (io : DispatchIo) :
    Follows (world.dispatchObservation core sessionId io).2
      (log.record core
        { before := world
          call := .dispatchObservation sessionId io
          reply := (world.dispatchObservation core sessionId io).1.map .action
          after := (world.dispatchObservation core sessionId io).2 }) := by
  unfold dispatchObservation
  cases present : world.sessions.lookup sessionId with
  | none => exact follows
  | some session =>
      simp only
      cases valid : validateSemanticRequest core session world.spool io.validateRequest with
      | error error => exact follows
      | ok done =>
          simp only
          split
          · refine follows.changed sessionId follows.replays
              (fun other apart => AList.lookup_insert_ne apart) (fun _ _ => rfl) (fun _ _ => rfl) ?_
            rw [AList.lookup_insert]
            exact .overflowed rfl (follows.sessions sessionId).returned_within
          · rename_i ready
            have requesting : session.state = .request := by
              by_contra other
              exact ready (Or.inl other)
            rcases follows.replays with ⟨replay, replays⟩
            simp only [replays]
            exact follows_dispatchReplay follows present requesting replays

/-- What a read of a session in step returns: the next bytes of the recorded response, and whether
they are the last. -/
theorem followed_read (follows : Follows world log) (io : ReadIo) {chunk : Bytes} {complete : Bool}
    (read : (world.readObservationResponse sessionId io).1 = .ok (chunk, complete)) :
    ∃ session entry, world.sessions.lookup sessionId = some session ∧
      log sessionId = some entry ∧
      session.state = .replay entry.returned.length ∧
      chunk = (entry.response.drop entry.returned.length).take
        (min io.count maxAutomaticObservationResponseReadBytes) ∧
      entry.returned ++ chunk <+: entry.response ∧
      complete = (entry.returned.length + chunk.length == entry.response.length) ∧
      (world.readObservationResponse sessionId io).2 =
        { world with
          sessions := world.sessions.insert sessionId
            { session with state := .replay (entry.returned.length + chunk.length) } } := by
  have followed := follows.sessions sessionId
  unfold readObservationResponse at read ⊢
  cases present : world.sessions.lookup sessionId with
  | none => simp [present] at read
  | some session =>
      rw [present] at followed
      generalize logged : log sessionId = entry at followed
      cases followed with
      | requesting requestPath responsePath state => simp [present, state] at read
      | overflowed state returned => simp [present, state] at read
      | @replaying session entry responsePath state counted stored returned =>
          simp only [present, state] at read ⊢
          cases served : readFile world.spool session.responsePath io.served with
          | error error => simp [served] at read
          | ok content =>
              have content_stored := readFile_ok served
              rw [responsePath, stored] at content_stored
              cases content_stored
              simp only [served] at read ⊢
              split at read
              · cases read
              · rename_i small
                simp only [Except.ok.injEq, Prod.mk.injEq] at read
                obtain ⟨rfl, rfl⟩ := read
                rw [if_neg small]
                refine ⟨session, entry, rfl, rfl, state, rfl, ?_, by rw [counted], rfl⟩
                obtain ⟨rest, split⟩ := returned
                rw [← split, List.drop_left]
                exact List.prefix_append_right_inj _ |>.mpr (List.take_prefix _ _)

/-- A read keeps the sessions in step. -/
theorem follows_read (follows : Follows world log) (io : ReadIo) :
    Follows (world.readObservationResponse sessionId io).2
      (log.record core
        { before := world
          call := .readObservationResponse sessionId io
          reply := (world.readObservationResponse sessionId io).1.map fun read =>
            .chunk read.1 read.2
          after := (world.readObservationResponse sessionId io).2 }) := by
  cases read : (world.readObservationResponse sessionId io).1 with
  | error error =>
      have effect := readObservationResponse_effect world sessionId io
      rw [read] at effect
      generalize (world.readObservationResponse sessionId io).2 = next at effect
      cases effect
      exact follows
  | ok reply =>
      rcases reply with ⟨chunk, complete⟩
      obtain ⟨session, entry, present, logged, state, -, returned, -, next⟩ :=
        followed_read follows io read
      have followed := follows.sessions sessionId
      rw [present, logged] at followed
      cases followed with
      | overflowed overflowed _ => simp [state] at overflowed
      | replaying responsePath _ counted stored _ =>
          simp only [next, ReplayLog.record, Except.map, logged, Option.map_some]
          refine follows.changed sessionId follows.replays
            (fun other apart => AList.lookup_insert_ne apart)
            (fun other apart => Function.update_of_ne apart _ _) (fun _ _ => rfl) ?_
          rw [AList.lookup_insert, Function.update_self]
          refine .replaying responsePath ?_ counted stored returned
          simp

/-- A session that ends leaves the others in step. -/
theorem Follows.ended (follows : Follows world log) (replays : ∃ replay, next.mode = .replay replay)
    (sessions : next.sessions = world.sessions.erase sessionId)
    (spool : next.spool = world.spool) :
    Follows next (Function.update log sessionId none) := by
  refine follows.changed sessionId replays ?_
    (fun other apart => Function.update_of_ne apart _ _) (fun _ _ => by rw [spool]) ?_
  · intro other apart
    rw [sessions, AList.lookup_erase_ne apart]
  · rw [sessions, AList.lookup_erase, Function.update_self]
    exact .absent

/-- Ending a session that does not exist changes nothing. -/
theorem Follows.ended_absent (follows : Follows world log)
    (absent : world.sessions.lookup sessionId = none) :
    Follows world (Function.update log sessionId none) := by
  have followed := follows.sessions sessionId
  rw [absent] at followed
  have same : Function.update log sessionId none = log := by
    rw [Function.update_eq_self_iff]
    exact followed.unlogged.symm
  rw [same]
  exact follows

/-- A finish keeps the sessions in step. -/
theorem follows_finish {outcome : DependencyOutcome} {io : FinishIo} {reply : Except Error Unit}
    (follows : Follows world log)
    (effect : world.FinishEffect core sessionId outcome io reply next) :
    Follows next (Function.update log sessionId none) := by
  cases effect with
  | unknown absent => exact follows.ended_absent absent
  | lost error session present artifacts interactions => exact follows.ended follows.replays rfl rfl
  | replayed session replay present complete replays => exact follows.ended follows.replays rfl rfl
  | published session publication present complete captures published =>
      exact follows.ended follows.replays rfl rfl

/-- An abandon keeps the sessions in step. -/
theorem follows_abandon {reply : Except Error Unit} (follows : Follows world log)
    (effect : world.AbandonEffect sessionId reply next) :
    Follows next (Function.update log sessionId none) := by
  cases effect with
  | unknown absent => exact follows.ended_absent absent
  | abandoned session present => exact follows.ended follows.replays rfl rfl

/-- A replay refuses an unowned observation. -/
theorem follows_markUnowned (follows : Follows world log)
    (observationClass : AutomaticObservationClass) (causalParentId : Option OperationId)
    (evidence : Bytes) (io : UnownedIo) :
    Follows (world.markUnowned core observationClass causalParentId evidence io).2 log := by
  rcases follows.replays with ⟨replay, replays⟩
  have refused : ¬ world.captures = true := by simp [captures, replays]
  unfold markUnowned
  rw [if_pos refused]
  exact follows.kept follows.replays rfl rfl

/-- Binding the sentinel coverage keeps the sessions in step. -/
theorem follows_bind {reply : Except Error Unit} (follows : Follows world log)
    (effect : world.BindEffect reply next) : Follows next log := by
  cases effect with
  | lost error => exact follows.kept follows.replays rfl rfl
  | bound reply registrations registered => exact follows.kept follows.replays rfl rfl

/-- Every session call of a replay keeps the sessions in step with the log. -/
theorem followed_perform (core : Core Digest Replay) (call : SessionCall)
    (follows : Follows world log) :
    Follows (perform core world call).2
      (log.record core (Runs.answer (perform core) world call)) := by
  cases call with
  | openObservation sessionId observationClass causalParentId semanticContract io =>
      exact follows_open follows (openObservationInner_effect world sessionId observationClass
        causalParentId semanticContract io)
  | writeObservation sessionId stream chunk io => exact follows_write follows stream chunk io
  | dispatchObservation sessionId io => exact follows_dispatch follows io
  | readObservationResponse sessionId io => exact follows_read follows io
  | finishObservation sessionId outcome sessionPosition io =>
      exact follows_finish follows
        (finishObservation_effect core world sessionId outcome sessionPosition io)
  | abandonObservation sessionId =>
      exact follows_abandon follows (abandonObservation_effect world sessionId)
  | markUnowned observationClass causalParentId evidence io =>
      exact follows_markUnowned follows observationClass causalParentId evidence io
  | bindNativeSentinelCoverage evidence =>
      exact follows_bind follows (bindNativeSentinelCoverage_effect core world evidence)
  | invalidateAmbientContext => exact follows.kept follows.replays rfl rfl

/-! ## Reads of a run -/

/-- The sessions of every replay are in step with its log. -/
theorem follows_replayRun (core : Core Digest Replay) (replay : Replay) (operationId : OperationId)
    (calls : List SessionCall) :
    Follows (replayRun core replay operationId calls).1
      (replayRun core replay operationId calls).2 := by
  induction calls using List.reverseRecOn with
  | nil =>
      refine ⟨⟨replay, rfl⟩, fun sessionId => ?_⟩
      exact .absent
  | append_singleton calls call ih =>
      simp only [replayRun, List.foldl_append, List.foldl_cons, List.foldl_nil]
      exact followed_perform core call ih

/-- What the reads and the finishes of a replay do.  A read returns the next bytes of the recorded
response, at most as many as the bound, and tells whether they are the last; it returns no bytes
only at the end or from a file that offered none.  A session that was not overflowed can be read
while its file is served, and one that finishes was read to its end. -/
structure ReadsRecorded (core : Core Digest Replay)
    (world : AutomaticWorldCoordinator Digest Replay) (log : ReplayLog) : Prop where
  read : ∀ sessionId io chunk complete,
    (world.readObservationResponse sessionId io).1 = .ok (chunk, complete) →
      ∃ entry, log sessionId = some entry ∧
        entry.returned ++ chunk <+: entry.response ∧
        chunk.length ≤ maxAutomaticObservationResponseReadBytes ∧
        (complete = true ↔ entry.returned ++ chunk = entry.response) ∧
        (0 < io.count → chunk = [] → entry.returned = entry.response)
  served : ∀ sessionId session entry io, world.sessions.lookup sessionId = some session →
    log sessionId = some entry → session.state ≠ .overflowed → io.served = true →
      entry.response.length ≤ u64Max →
      ∃ chunk complete,
        (world.readObservationResponse sessionId io).1 = .ok (chunk, complete)
  finish : ∀ sessionId outcome sessionPosition io,
    (world.finishObservation core sessionId outcome sessionPosition io).1 = .ok () →
      ∃ entry, log sessionId = some entry ∧ entry.returned = entry.response

/-- A read of a session in step returns the next bytes of its recorded response. -/
theorem read_of_follows (follows : Follows world log) {io : ReadIo} {chunk : Bytes}
    {complete : Bool}
    (read : (world.readObservationResponse sessionId io).1 = .ok (chunk, complete)) :
    ∃ entry, log sessionId = some entry ∧
      entry.returned ++ chunk <+: entry.response ∧
      chunk.length ≤ maxAutomaticObservationResponseReadBytes ∧
      (complete = true ↔ entry.returned ++ chunk = entry.response) ∧
      (0 < io.count → chunk = [] → entry.returned = entry.response) := by
  obtain ⟨session, entry, -, logged, -, taken, returned, completed, -⟩ :=
    followed_read follows io read
  refine ⟨entry, logged, returned, ?_, ?_, ?_⟩
  · rw [taken, List.length_take]
    omega
  · rw [completed, beq_iff_eq]
    constructor
    · intro length
      apply returned.eq_of_length
      simpa using length
    · intro whole
      rw [← whole, List.length_append]
  · intro offered empty
    rw [empty] at taken
    have rest : entry.response.length ≤ entry.returned.length := by
      have none_taken := congrArg List.length taken
      simp only [List.length_nil, List.length_take, List.length_drop,
        maxAutomaticObservationResponseReadBytes] at none_taken
      omega
    rw [empty, List.append_nil] at returned
    exact returned.eq_of_length_le rest

/-- A session in step that was not overflowed can be read while its file is served. -/
theorem served_of_follows (follows : Follows world log) {session : ObservationSession}
    {entry : ReplayedResponse} {io : ReadIo}
    (present : world.sessions.lookup sessionId = some session)
    (logged : log sessionId = some entry) (live : session.state ≠ .overflowed)
    (served : io.served = true) (bounded : entry.response.length ≤ u64Max) :
    ∃ chunk complete, (world.readObservationResponse sessionId io).1 = .ok (chunk, complete) := by
  have followed := follows.sessions sessionId
  rw [present, logged] at followed
  cases followed with
  | overflowed state _ => exact absurd state live
  | replaying responsePath state counted stored returned =>
      unfold readObservationResponse
      have small : ¬ u64Max < entry.returned.length +
          ((entry.response.drop entry.returned.length).take
            (min io.count maxAutomaticObservationResponseReadBytes)).length := by
        have short := returned.length_le
        rw [List.length_take, List.length_drop]
        omega
      simp only [present, state, responsePath, readFile, stored, served, if_neg small]
      exact ⟨_, _, rfl⟩

/-- A session in step that finishes was read to its end. -/
theorem finish_of_follows (follows : Follows world log) {outcome : DependencyOutcome}
    {sessionPosition : Nat} {io : FinishIo}
    (finished : (world.finishObservation core sessionId outcome sessionPosition io).1 = .ok ()) :
    ∃ entry, log sessionId = some entry ∧ entry.returned = entry.response := by
  have followed := follows.sessions sessionId
  unfold finishObservation at finished
  cases present : world.sessions.lookup sessionId with
  | none => simp [present] at finished
  | some session =>
      simp only [present] at finished
      split at finished
      · cases finished
      · rename_i passed
        have complete : session.responseComplete = true := by
          by_contra incomplete
          exact passed (Or.inl incomplete)
        rw [present] at followed
        generalize log sessionId = entry at followed
        cases followed with
        | requesting requestPath responsePath state =>
            simp [ObservationSession.responseComplete, state] at complete
        | overflowed state returned =>
            simp [ObservationSession.responseComplete, state] at complete
        | @replaying session entry responsePath state counted stored returned =>
            refine ⟨entry, rfl, returned.eq_of_length ?_⟩
            rw [← counted]
            simpa [ObservationSession.responseComplete, state] using complete

/-- The reads of every session of a replay return its recorded response piece by piece, and only a
session that was read to its end finishes. -/
theorem replay_reads_recorded (core : Core Digest Replay) (replay : Replay)
    (operationId : OperationId) (calls : List SessionCall) :
    ReadsRecorded core (replayRun core replay operationId calls).1
      (replayRun core replay operationId calls).2 where
  read _ _ _ _ read := read_of_follows (follows_replayRun core replay operationId calls) read
  served _ _ _ _ present logged live served bounded :=
    served_of_follows (follows_replayRun core replay operationId calls) present logged live served
      bounded
  finish _ _ _ _ finished :=
    finish_of_follows (follows_replayRun core replay operationId calls) finished

end AutomaticWorld
end ReproItSdk
