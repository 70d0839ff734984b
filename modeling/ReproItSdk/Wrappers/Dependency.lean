import ReproItSdk.Wrappers.Interaction

/-! # Wrappers of dependencies

The SQLite and URL adapters of the Python SDK and the SQLite adapter of the Node SDK run a library
call inside a callback.  The callback passes through {lit}`_run_dependency`, which asks the engine
whether to capture or to replay, and through the handlers of {lit}`_execute_dependency`, which give
the application the outcome of the live call whatever became of the capture.

The encoders and decoders of a wrapper are parameters: each may raise on any value.

Main results:

- Theorem {lit}`runDependency_ran`: unless the engine replays, the callback runs once.
- Theorem {lit}`accounted_runDependency`: the interaction is recorded or the operation given up.
- Theorem {lit}`transparent_executeDependency`: what the application sees.
-/

namespace ReproItSdk
namespace Wrappers

/-! ## Requests and responses -/

/-- {lit}`MAX_OBSERVATION_RESPONSE_READ_BYTES`. -/
def maxObservationResponseReadBytes : Nat :=
  8192

/-- {lit}`MAX_SEMANTIC_DEPENDENCY_RECORD_BYTES`. -/
def maxSemanticDependencyRecordBytes : Nat :=
  65536

/-- {lit}`_DependencyResponse`. -/
structure DependencyResponse where
  outcome : String
  payload : Option Bytes := none
  metadata : List (String × Bytes) := []
  status : Option String := none
  statusCode : Option Nat := none
  errorCode : Option String := none
  errorNumber : Option Nat := none
deriving DecidableEq, Repr

/-- The records of a dependency: whether {lit}`_request_input` and {lit}`_response_input` build
theirs, and what {lit}`_response_from_record` makes of the recorded one. -/
structure DependencyRecords where
  buildsRequest : Bool
  buildsResponse : DependencyResponse → Bool
  responseFromRecord : Bytes → String → Option DependencyResponse

section Run

variable {ε α : Type} (bridge : Bridge) (records : DependencyRecords)

/-- {lit}`_read_response` after some reads, with as many left. -/
def readResponse : Nat → Bytes → WrapperM ε α Bytes
  | 0, _ => Fallible.fail .internal
  | reads + 1, record => do
      let read ← readDependency bridge
      match read with
      | none => Fallible.fail .internal
      | some (chunk, eof) =>
          if maxObservationResponseReadBytes < chunk.length ∨ (chunk = [] ∧ eof = false) ∨
              maxSemanticDependencyRecordBytes < record.length + chunk.length then
            Fallible.fail .internal
          else if eof then
            if record ++ chunk = [] then Fallible.fail .internal else pure (record ++ chunk)
          else readResponse reads (record ++ chunk)

/-- The part of {lit}`_replay_dependency` inside its handler. -/
def replayRecord : WrapperM ε α DependencyResponse := do
  let record ← readResponse bridge maxSemanticDependencyRecordBytes []
  let outcome ← finishDependency bridge
  match outcome with
  | none => Fallible.fail .internal
  | some outcome => Fallible.find (fun _ => records.responseFromRecord record outcome) .internal

/-- {lit}`_replay_dependency`. -/
def replayDependency : WrapperM ε α DependencyResponse :=
  Fallible.onError (replayRecord bridge records) abandonDependency

/-- {lit}`_finish_capture`. -/
def finishCapture (response : DependencyResponse) : WrapperM ε α DependencyResponse :=
  if records.buildsResponse response then do
    let _ ← finishDependency bridge
    pure response
  else do
    abandonDependency
    pure response

/-- {lit}`_capture_dependency`. -/
def captureDependency (capture : WrapperM ε α DependencyResponse) :
    WrapperM ε α DependencyResponse := do
  let captured ← Fallible.onError capture abandonDependency
  finishCapture bridge records captured

/-- What {lit}`_run_dependency` does with the action of a session. -/
def followAction (capture : WrapperM ε α DependencyResponse) :
    Option String → WrapperM ε α DependencyResponse
  | none => capture
  | some action =>
      if action = "capture" then captureDependency bridge records capture
      else if action = "replay" then replayDependency bridge records
      else do
        abandonDependency
        capture

/-- {lit}`_run_dependency` inside an operation. -/
def runActiveDependency (capture : WrapperM ε α DependencyResponse) :
    WrapperM ε α DependencyResponse :=
  if records.buildsRequest then do
    let action ← openDependency bridge
    followAction bridge records capture action
  else do
    abandonOperation
    capture

/-- {lit}`_run_dependency` of the Python SDK and {lit}`runDependency` of the Node SDK. -/
def runDependency (capture : WrapperM ε α DependencyResponse) :
    WrapperM ε α DependencyResponse := do
  let active ← Fallible.gets (·.active)
  if active then runActiveDependency bridge records capture else capture

end Run

/-! ## The wrappers -/

section Execute

variable {ε α : Type} (bridge : Bridge) (records : DependencyRecords)

/-- What a wrapper makes of the outcome of the live function: the encoded error or value, if it has
an encoding. -/
structure LiveEncoding (ε α : Type) where
  encodeError : ε → Option DependencyResponse
  encode : α → Option DependencyResponse

/-- The response of a live call; an error without an encoding marks the operation. -/
def encodeOutcome (encoding : LiveEncoding ε α) : Except ε α → WrapperM ε α DependencyResponse
  | .ok value => Fallible.find (fun _ => encoding.encode value) .internal
  | .error error =>
      match encoding.encodeError error with
      | some response => pure response
      | none => do
          markUnowned bridge
          Fallible.fail (.live error)

/-- {lit}`capture` inside {lit}`_execute_dependency`. -/
def captureLive (encoding : LiveEncoding ε α) (live : Nat → Except ε α) :
    WrapperM ε α DependencyResponse := do
  let outcome ← runLive live
  encodeOutcome bridge encoding outcome

/-- {lit}`_execute_dependency` with what becomes of a replayed response. -/
def executeDependency (encoding : LiveEncoding ε α) (live : Nat → Except ε α)
    (rebuild : DependencyResponse → Except (Raised ε) α) : WrapperM ε α α := do
  let translated ← Fallible.attempt
    (runDependency bridge records (captureLive bridge encoding live))
  let called ← Fallible.gets (·.outcome)
  match translated, called with
  | .ok _, some outcome => Fallible.ofExcept (seen outcome)
  | .ok response, none => Fallible.ofExcept (rebuild response)
  | .error _, some outcome => Fallible.ofExcept (seen outcome)
  | .error raised, none => Fallible.fail raised

/-- The codec of a SQLite wrapper: {lit}`_encode_sqlite_error` and {lit}`_decode_sqlite_error`, and
the encoder and the decoder of the payload of a method. -/
structure SqliteCodec (ε α : Type) where
  encodeError : ε → Option DependencyResponse
  encode : α → Option Bytes
  decodeError : DependencyResponse → Raised ε
  decode : Bytes → Except (Raised ε) α

/-- {lit}`_execute_dependency` of {lit}`sqlite_adapter.py`. -/
def executePythonSqlite (codec : SqliteCodec ε α) (live : Nat → Except ε α) : WrapperM ε α α :=
  executeDependency bridge records
    { encodeError := codec.encodeError
      encode := fun value =>
        (codec.encode value).map fun payload =>
          { outcome := "response", payload := some payload } }
    live
    fun translated =>
      if translated.outcome = "error" then .error (codec.decodeError translated)
      else if translated.outcome ≠ "response" then .error .internal
      else translated.payload.elim (.error .internal) codec.decode

/-- {lit}`executeDependency` of {lit}`sqlite-adapter.js`. -/
def executeNodeSqlite (codec : SqliteCodec ε α) (live : Nat → Except ε α) : WrapperM ε α α :=
  executeDependency bridge records
    { encodeError := codec.encodeError
      encode := fun value =>
        (codec.encode value).map fun payload =>
          { outcome := "response", payload := some payload, status := some "complete" } }
    live
    fun translated =>
      match translated.payload with
      | none => .error .internal
      | some payload =>
          if translated.outcome = "error" then .error (codec.decodeError translated)
          else if translated.outcome ≠ "response" then .error .internal
          else codec.decode payload

/-- The codec of a URL wrapper; a read of a response has no encoding of errors. -/
structure UrlCodec (ε α Payload : Type) where
  encodeError : Option (ε → Option Bytes)
  encode : α → Option Bytes
  decodePayload : Bytes → Except (Raised ε) Payload
  decodeError : Option (Payload → Raised ε)
  decode : Payload → Except (Raised ε) α

/-- {lit}`_execute_dependency` of {lit}`http_adapter.py`. -/
def executePythonUrl {Payload : Type} (codec : UrlCodec ε α Payload) (live : Nat → Except ε α) :
    WrapperM ε α α :=
  executeDependency bridge records
    { encodeError := fun error =>
        codec.encodeError.bind fun encodeError =>
          (encodeError error).map fun payload =>
            { outcome := "error", payload := some payload }
      encode := fun value =>
        (codec.encode value).map fun payload =>
          { outcome := "response", payload := some payload } }
    live
    fun translated =>
      match translated.payload with
      | none => .error .internal
      | some bytes => do
          let payload ← codec.decodePayload bytes
          if translated.outcome = "response" then codec.decode payload
          else if translated.outcome = "error" then
            codec.decodeError.elim (.error .internal) fun decodeError => .error (decodeError payload)
          else .error .internal

end Execute

/-! ## Accounting -/

section Accounting

variable {ε α : Type} (bridge : Bridge) (records : DependencyRecords)

/-- The session is open, or the interaction is accounted for. -/
def Ready (state : Interaction ε α) : Prop :=
  state.session = true ∨ state.Accounted

/-- A read that fails ends the session; any other keeps it. -/
theorem ready_readDependency :
    Fallible.Meets Ready (readDependency bridge : WrapperM ε α _) (fun _ => Ready)
      fun _ _ => True := by
  intro state ready
  unfold readDependency readSession
  split
  · rename_i session
    split
    · exact .inr (.inr (.inl (active_dropped _)))
    · exact .inl session
  · exact ready

/-- Reading the recorded response ends with the session open or accounted for. -/
theorem ready_readResponse (reads : Nat) (record : Bytes) :
    Fallible.Meets Ready (readResponse bridge reads record : WrapperM ε α _) (fun _ => Ready)
      fun _ _ => True := by
  induction reads generalizing record with
  | zero => exact Fallible.Meets.fail fun _ _ => trivial
  | succ reads ih =>
      refine Fallible.Meets.bind (ready_readDependency bridge) fun read => ?_
      rcases read with _ | ⟨chunk, eof⟩
      · exact Fallible.Meets.fail fun _ _ => trivial
      · dsimp only
        split
        · exact Fallible.Meets.fail fun _ _ => trivial
        · split
          · split
            · exact Fallible.Meets.fail fun _ _ => trivial
            · exact Fallible.Meets.pure fun _ ready => ready
          · exact ih (record ++ chunk)

/-- A finish accounts for the interaction. -/
theorem accounted_finishDependency :
    Fallible.Meets Ready (finishDependency bridge : WrapperM ε α _)
      (fun _ state => state.Accounted) fun _ _ => False :=
  accounted_finishSession bridge active_dropped

/-- Giving a session up accounts for the interaction. -/
theorem accounted_abandonDependency {before : Interaction ε α → Prop} {β : Type}
    {value : β} :
    Fallible.Meets before (do abandonDependency; pure value : WrapperM ε α β)
      (fun _ state => state.Accounted) fun _ state => state.Accounted :=
  fun _ _ => .inr (.inl (active_dropped _))

/-- A computation that gives its session up when it fails. -/
theorem accounted_or_abandoned {before : Interaction ε α → Prop} {β : Type}
    {computation : WrapperM ε α β} {done : β → Interaction ε α → Prop}
    (meets : Fallible.Meets before computation done fun _ _ => True) :
    Fallible.Meets before (Fallible.onError computation abandonDependency) done
      fun _ state => state.Accounted :=
  Fallible.Meets.onError meets fun _ =>
    Fallible.Meets.modify fun _ _ => .inr (.inl (active_dropped _))

/-- A replay records the interaction or gives the operation up. -/
theorem accounted_replayDependency :
    Fallible.Meets Ready (replayDependency bridge records : WrapperM ε α _)
      (fun _ state => state.Accounted) fun _ state => state.Accounted := by
  refine accounted_or_abandoned ?_
  refine Fallible.Meets.bind (ready_readResponse bridge _ _) fun record => ?_
  refine Fallible.Meets.bind ((accounted_finishDependency bridge).mono (fun _ ready => ready)
    (fun _ _ accounted => accounted) fun _ _ impossible => impossible.elim) fun outcome => ?_
  cases outcome with
  | none => exact Fallible.Meets.fail fun _ _ => trivial
  | some outcome =>
      exact Fallible.Meets.find (fun _ accounted _ _ => accounted) fun _ _ _ => trivial

/-- A finished capture is recorded, or the operation was given up. -/
theorem accounted_finishCapture (response : DependencyResponse) :
    Fallible.Meets Ready (finishCapture bridge records response : WrapperM ε α _)
      (fun _ state => state.Accounted) fun _ state => state.Accounted := by
  unfold finishCapture
  split
  · refine Fallible.Meets.bind ((accounted_finishDependency bridge).mono (fun _ ready => ready)
      (fun _ _ accounted => accounted) fun _ _ impossible => impossible.elim) fun _ => ?_
    exact Fallible.Meets.pure fun _ accounted => accounted
  · exact accounted_abandonDependency

variable (encoding : LiveEncoding ε α) (live : Nat → Except ε α)

/-- An outcome that has an encoding leaves the session as it was. -/
theorem ready_captureLive :
    Fallible.Meets Ready (captureLive bridge encoding live) (fun _ => Ready) fun _ _ => True := by
  have kept : Fallible.Meets Ready (runLive live : WrapperM ε α _) (fun _ => Ready)
      fun _ _ => True := fun _ ready => ready
  refine Fallible.Meets.bind kept fun outcome => ?_
  cases outcome with
  | ok value => exact Fallible.Meets.find (fun _ ready _ _ => ready) fun _ _ _ => trivial
  | error error =>
      simp only [encodeOutcome]
      cases encoding.encodeError error with
      | some response => exact Fallible.Meets.pure fun _ ready => ready
      | none =>
          have marked : Fallible.Meets Ready (markUnowned bridge : WrapperM ε α _)
              (fun _ _ => True) fun _ _ => True := fun _ _ => trivial
          exact Fallible.Meets.bind marked fun _ => Fallible.Meets.fail fun _ _ => trivial

/-- A capture is recorded, or the operation was given up. -/
theorem accounted_captureDependency :
    Fallible.Meets Ready (captureDependency bridge records (captureLive bridge encoding live))
      (fun _ state => state.Accounted) fun _ state => state.Accounted :=
  Fallible.Meets.bind (accounted_or_abandoned (ready_captureLive bridge encoding live))
    fun response => accounted_finishCapture bridge records response

/-! ## The live function -/

/-- Encoding an outcome does not run the live function. -/
theorem quiet_encodeOutcome (outcome : Except ε α) :
    Fallible.Relates Quiet (encodeOutcome bridge encoding outcome) := by
  cases outcome with
  | ok value => exact Fallible.Relates.find _ _
  | error error =>
      simp only [encodeOutcome]
      cases encoding.encodeError error with
      | some response => exact Fallible.Relates.pure _
      | none =>
          exact Fallible.Relates.bind (Fallible.Relates.modify (quiet_markedUnowned bridge))
            fun _ => Fallible.Relates.fail _

/-- The callback runs the live function once. -/
theorem ran_captureLive (state : Interaction ε α) :
    Ran live state (captureLive bridge encoding live state).2 :=
  (ran_runLive live state).then_quiet
    (quiet_encodeOutcome bridge encoding (live state.lives) (runLive live state).2)

/-- A finished capture does not run the live function. -/
theorem quiet_finishCapture (response : DependencyResponse) :
    Fallible.Relates Quiet (finishCapture bridge records response : WrapperM ε α _) := by
  unfold finishCapture
  split
  · exact Fallible.Relates.bind (quiet_finishSession bridge quiet_dropped)
      fun _ => Fallible.Relates.pure _
  · exact Fallible.Relates.bind (Fallible.Relates.modify quiet_dropped)
      fun _ => Fallible.Relates.pure _

/-- A capture runs the live function once. -/
theorem ran_captureDependency (state : Interaction ε α) :
    Ran live state
      (captureDependency bridge records (captureLive bridge encoding live) state).2 := by
  have ran := ran_captureLive bridge encoding live state
  simp only [captureDependency, bind, Fallible.bind, Fallible.onError]
  rcases captured : captureLive bridge encoding live state with ⟨raised | response, next⟩
  · rw [captured] at ran
    exact ran.then_quiet (quiet_dropped next)
  · rw [captured] at ran
    exact ran.then_quiet (quiet_finishCapture bridge records response next)

/-- Reading the recorded response does not run the live function. -/
theorem quiet_readResponse (reads : Nat) (record : Bytes) :
    Fallible.Relates Quiet (readResponse bridge reads record : WrapperM ε α _) := by
  induction reads generalizing record with
  | zero => exact Fallible.Relates.fail _
  | succ reads ih =>
      refine Fallible.Relates.bind (quiet_readSession bridge quiet_dropped) fun read => ?_
      rcases read with _ | ⟨chunk, eof⟩
      · exact Fallible.Relates.fail _
      · dsimp only
        split
        · exact Fallible.Relates.fail _
        · split
          · split
            · exact Fallible.Relates.fail _
            · exact Fallible.Relates.pure _
          · exact ih (record ++ chunk)

/-- A replay does not run the live function. -/
theorem quiet_replayDependency :
    Fallible.Relates Quiet (replayDependency bridge records : WrapperM ε α _) := by
  refine Fallible.Relates.onError ?_ (Fallible.Relates.modify quiet_dropped)
  refine Fallible.Relates.bind (quiet_readResponse bridge _ _) fun record => ?_
  refine Fallible.Relates.bind (quiet_finishSession bridge quiet_dropped) fun outcome => ?_
  cases outcome with
  | none => exact Fallible.Relates.fail _
  | some outcome => exact Fallible.Relates.find _ _

/-- The engine answers the interaction that begins in a state with a replay. -/
def DependencyRecords.replays (before : Interaction ε α) : Bool :=
  before.active && records.buildsRequest && bridge.opens before.calls == some "replay"

/-- Without a replay the live function runs once. -/
theorem ran_followAction {action : Option String} (captures : action ≠ some "replay")
    (state : Interaction ε α) :
    Ran live state
      (followAction bridge records (captureLive bridge encoding live) action state).2 := by
  cases action with
  | none => exact ran_captureLive bridge encoding live state
  | some action =>
      simp only [followAction]
      split
      · exact ran_captureDependency bridge records encoding live state
      · split
        · rename_i replays
          exact absurd (congrArg some replays) captures
        · exact (quiet_dropped state).then_ran (ran_captureLive bridge encoding live _)

/-- Unless the engine replays, the callback runs once. -/
theorem runDependency_ran {state : Interaction ε α}
    (captures : records.replays bridge state = false) :
    Ran live state (runDependency bridge records (captureLive bridge encoding live) state).2 := by
  have calls := ran_captureLive bridge encoding live
  simp only [runDependency, bind, Fallible.bind, Fallible.gets]
  cases active : state.active with
  | false => exact calls state
  | true =>
      rw [if_pos rfl]
      unfold runActiveDependency
      cases builds : records.buildsRequest with
      | false => exact (quiet_abandoned state).then_ran (calls _)
      | true =>
          rw [if_pos rfl]
          simp only [bind, Fallible.bind, openDependency, active, if_true]
          cases opens : bridge.opens state.calls with
          | none => exact (trans_of Quiet (quiet_asked state) (quiet_abandoned _)).then_ran (calls _)
          | some action =>
              have opened : Quiet state { state.asked with session := true } :=
                ⟨rfl, rfl, id, id, id⟩
              refine opened.then_ran (ran_followAction bridge records encoding live ?_ _)
              intro replays
              simp [DependencyRecords.replays, active, builds, opens, replays] at captures

/-- When the engine replays, the callback does not run. -/
theorem runDependency_quiet {state : Interaction ε α}
    (replays : records.replays bridge state = true) :
    Quiet state (runDependency bridge records (captureLive bridge encoding live) state).2 := by
  simp only [DependencyRecords.replays, Bool.and_eq_true, beq_iff_eq] at replays
  obtain ⟨⟨active, builds⟩, opens⟩ := replays
  have opened : Quiet state { state.asked with session := true } := ⟨rfl, rfl, id, id, id⟩
  simp only [runDependency, runActiveDependency, bind, Fallible.bind, Fallible.gets, active,
    builds, if_true, openDependency, opens]
  exact trans_of Quiet opened (quiet_replayDependency bridge records _)

/-- A callback after which the operation was given up. -/
theorem accounted_captureLive {before : Interaction ε α → Prop}
    (accounted : ∀ state, before state → state.Accounted) :
    Fallible.Meets before (captureLive bridge encoding live) (fun _ state => state.Accounted)
      fun _ state => state.Accounted := by
  intro state holds
  have kept := (ran_captureLive bridge encoding live state).accounted (accounted state holds)
  rcases captured : captureLive bridge encoding live state with ⟨raised | response, next⟩
  · rw [captured] at kept
    exact kept
  · rw [captured] at kept
    exact kept

/-- What becomes of a session that was asked for is accounted for. -/
theorem accounted_followAction (action : Option String) :
    Fallible.Meets (fun state => if action.isSome then Ready state else state.Accounted)
      (followAction bridge records (captureLive bridge encoding live) action)
      (fun _ state => state.Accounted) fun _ state => state.Accounted := by
  cases action with
  | none => exact accounted_captureLive bridge encoding live fun _ accounted => accounted
  | some action =>
      simp only [followAction, Option.isSome_some, if_true]
      split
      · exact accounted_captureDependency bridge records encoding live
      · split
        · exact accounted_replayDependency bridge records
        · have dropped : Fallible.Meets (fun state : Interaction ε α => Ready state)
              (abandonDependency : WrapperM ε α _) (fun _ state => state.Accounted)
              fun _ state => state.Accounted :=
            Fallible.Meets.modify fun state _ => .inr (.inl (active_dropped state))
          exact Fallible.Meets.bind dropped fun _ =>
            accounted_captureLive bridge encoding live fun _ accounted => accounted

/-- An interaction of an operation is recorded, or the operation was given up. -/
theorem accounted_runDependency :
    Fallible.Meets (fun _ => True)
      (runActiveDependency bridge records (captureLive bridge encoding live))
      (fun _ state => state.Accounted) fun _ state => state.Accounted := by
  unfold runActiveDependency
  split
  · have opened : Fallible.Meets (fun _ => True) (openDependency bridge : WrapperM ε α _)
        (fun action state => if action.isSome then Ready state else state.Accounted)
        fun _ state => state.Accounted := by
      intro state _
      unfold openDependency
      split
      · split
        · exact .inr (.inl (active_abandoned _))
        · exact .inl rfl
      · rename_i inactive
        exact .inr (.inl (Bool.eq_false_of_not_eq_true inactive))
    exact Fallible.Meets.bind opened fun action =>
      accounted_followAction bridge records encoding live action
  · have given : Fallible.Meets (fun _ => True) (abandonOperation : WrapperM ε α _)
        (fun _ state => state.Accounted) fun _ state => state.Accounted :=
      Fallible.Meets.modify fun state _ => .inr (.inl (active_abandoned state))
    exact Fallible.Meets.bind given fun _ =>
      accounted_captureLive bridge encoding live fun _ accounted => accounted

/-- A wrapper gives the application what the live call did, if it ran, and leaves the interaction
where {lit}`_run_dependency` does. -/
theorem executeDependency_eq (rebuild : DependencyResponse → Except (Raised ε) α)
    (state : Interaction ε α) :
    (executeDependency bridge records encoding live rebuild state).2 =
        (runDependency bridge records (captureLive bridge encoding live) state).2 ∧
      ∀ outcome,
        (runDependency bridge records (captureLive bridge encoding live) state).2.outcome =
          some outcome →
        (executeDependency bridge records encoding live rebuild state).1 = seen outcome := by
  simp only [executeDependency, bind, Fallible.bind, Fallible.attempt, Fallible.gets]
  rcases runDependency bridge records (captureLive bridge encoding live) state with
    ⟨raised | response, next⟩ <;>
  · cases called : next.outcome with
    | none => exact ⟨rfl, fun _ same => by cases same⟩
    | some outcome =>
        refine ⟨rfl, fun other same => ?_⟩
        cases same
        rfl

/-- A wrapper is transparent, whatever the bridge and the live function do. -/
theorem transparent_executeDependency (rebuild : DependencyResponse → Except (Raised ε) α)
    (calls lives : Nat) (active unowned : Bool) :
    Transparent live (records.replays bridge (.start calls lives active unowned : Interaction ε α))
      (.start calls lives active unowned)
      (executeDependency bridge records encoding live rebuild
        (.start calls lives active unowned)) := by
  obtain ⟨left, gives⟩ := executeDependency_eq bridge records encoding live rebuild
    (.start calls lives active unowned)
  constructor
  · intro replays
    rw [left]
    exact (runDependency_quiet bridge records encoding live replays).lives
  · intro captures
    have ran := runDependency_ran bridge records encoding live captures
    rw [left]
    exact ⟨ran.lives, gives _ ran.outcome⟩
  · intro inside lost
    have accounted : ((runDependency bridge records (captureLive bridge encoding live)
        (.start calls lives active unowned)).2).Accounted := by
      have held : active = true := inside
      subst held
      have outcome := accounted_runDependency bridge records encoding live
        (.start calls lives true unowned) trivial
      show ((runActiveDependency bridge records (captureLive bridge encoding live)
        (.start calls lives true unowned)).2).Accounted
      rcases made : runActiveDependency bridge records (captureLive bridge encoding live)
        (.start calls lives true unowned) with ⟨raised | response, next⟩ <;>
      · rw [made] at outcome
        exact outcome
    rw [left] at lost ⊢
    rcases accounted with recorded | poisoned
    · rw [recorded] at lost
      cases lost
    · exact poisoned

end Accounting
end Wrappers
end ReproItSdk
