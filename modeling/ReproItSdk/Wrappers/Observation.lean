import ReproItSdk.Library.Chunks
import ReproItSdk.Wrappers.Dependency

/-! # The wrapper of an observation

The automatic adapters of the Python SDK wrap the clock, the random source, the environment and
the reads of files.  {lit}`_observe` opens a session, writes the request and asks for the action.
A call that the SDK makes itself while it observes is passed through.

Main results:

- Theorem {lit}`transparent_observe`: what the application sees of an observed call.
- Theorem {lit}`dependency_wrappers_transparent`: the wrappers together.
-/

namespace ReproItSdk
namespace Wrappers

/-! ## Observation sessions -/

/-- {lit}`MAX_OBSERVATION_CHUNK_BYTES`. -/
def maxObservationChunkBytes : Nat :=
  32768

/-- {lit}`_MAX_RESPONSE_BYTES`. -/
def maxResponseBytes : Nat :=
  49152

/-- {lit}`_MAX_RESPONSE_READS`. -/
def maxResponseReads : Nat :=
  6

section Sessions

variable {ε α : Type} (bridge : Bridge)

/-- {lit}`OperationContext._open_observation`: whether there is a new session. -/
def openObservation : WrapperM ε α Bool :=
  fun state =>
    if state.active then
      match bridge.opens state.calls with
      | none => (.ok false, state.asked.abandoned)
      | some _ => (.ok true, { state.asked with session := true })
    else (.ok false, state)

/-- {lit}`_ObservationSession._abandon`. -/
def abandonObservation : WrapperM ε α Unit :=
  Fallible.modify Interaction.released

/-- {lit}`_ObservationSession._write`: whether the chunk was written. -/
def writeSession : WrapperM ε α Bool :=
  fun state =>
    if state.session then
      if bridge.accepts state.calls then (.ok true, state.asked)
      else (.ok false, state.asked.released)
    else (.ok false, state)

/-- {lit}`_ObservationSession._dispatch`. -/
def dispatchSession : WrapperM ε α (Option String) :=
  fun state =>
    if state.session then
      match bridge.dispatches state.calls with
      | none => (.ok none, state.asked.released)
      | some action => (.ok (some action), state.asked)
    else (.ok none, state)

/-- {lit}`_ObservationSession._finish`. -/
def finishObservation : WrapperM ε α (Option String) :=
  finishSession bridge Interaction.released

/-- {lit}`_ObservationSession._read_response`. -/
def readObservation : WrapperM ε α (Option (Bytes × Bool)) :=
  readSession bridge Interaction.released

end Sessions

/-! ## The wrapper -/

/-- How {lit}`_capture` tells the errors of a live function apart. -/
inductive LiveErrorKind where
  | key
  | exception
  | exiting
deriving DecidableEq, Repr

/-- What a response records. -/
inductive Recorded (ε : Type) where
  | value (bytes : Bytes)
  | missing
  | error (error : ε)

/-- A recorded response: an error or a value, which is missing for an unset variable. -/
inductive ParsedResponse where
  | error (code : String) (number : Option Nat)
  | value (bytes : Option Bytes)

/-- The encodings of one observed call.  The decoder of the adapters raises neither the errors of a
missing key nor those of the operating system. -/
structure ObservationCodec (ε α : Type) where
  kind : ε → LiveErrorKind
  missingKey : Option ε
  encode : α → Option Bytes
  response : Recorded ε → Bytes
  parse : Bytes → Option ParsedResponse
  recordedException : String → Option Nat → ε
  decode : Option Bytes → Option α

section Observe

variable {ε α : Type} (bridge : Bridge) (codec : ObservationCodec ε α) (live : Nat → Except ε α)

/-- The live call, passed through. -/
def invoke : WrapperM ε α α := do
  let outcome ← runLive live
  Fallible.ofExcept (seen outcome)

/-- Write a response chunk by chunk, until a chunk is not written. -/
def writeResponseChunks : List Bytes → WrapperM ε α Bool
  | [] => pure true
  | _ :: chunks => do
      let written ← writeSession bridge
      if written then writeResponseChunks chunks else pure false

/-- {lit}`_record_response`. -/
def recordResponse (response : Bytes) : WrapperM ε α Unit := do
  let written ← writeResponseChunks bridge (Chunks.chunks maxObservationChunkBytes response)
  if written then do
    let _ ← finishObservation bridge
    pure ()
  else pure ()

/-- What {lit}`_capture` records of an error. -/
def captureError (error : ε) : WrapperM ε α Unit :=
  match codec.kind error with
  | .key =>
      if codec.missingKey.isSome then recordResponse bridge (codec.response .missing)
      else recordResponse bridge (codec.response (.error error))
  | .exception => recordResponse bridge (codec.response (.error error))
  | .exiting => abandonObservation

/-- What {lit}`_capture` records of a value. -/
def captureValue (value : α) : WrapperM ε α Unit :=
  match codec.encode value with
  | none => abandonObservation
  | some bytes => recordResponse bridge (codec.response (.value bytes))

/-- What {lit}`_capture` records of an outcome. -/
def captureOutcome : Except ε α → WrapperM ε α Unit
  | .ok value => captureValue bridge codec value
  | .error error => captureError bridge codec error

/-- {lit}`_capture`. -/
def captureObservation : WrapperM ε α α := do
  let outcome ← runLive live
  captureOutcome bridge codec outcome
  Fallible.ofExcept (seen outcome)

/-- {lit}`_read_response` after some reads, with as many left. -/
def readRecorded : Nat → Bytes → WrapperM ε α Bytes
  | 0, _ => Fallible.fail .internal
  | reads + 1, record => do
      let read ← readObservation bridge
      match read with
      | none => Fallible.fail .internal
      | some (chunk, eof) =>
          if maxObservationResponseReadBytes < chunk.length ∨
              maxResponseBytes < record.length + chunk.length then
            Fallible.fail .internal
          else if eof then pure (record ++ chunk)
          else readRecorded reads (record ++ chunk)

/-- Finish a replayed session and give the application an outcome. -/
def finishReplay (outcome : Except (Raised ε) α) : WrapperM ε α (Except (Raised ε) α) := do
  let finished ← finishObservation bridge
  if finished.isSome then pure outcome else Fallible.fail .internal

/-- What the application sees of a recorded response. -/
def replayResponse : ParsedResponse → WrapperM ε α (Except (Raised ε) α)
  | .error code number =>
      finishReplay bridge (.error (.rebuilt (codec.recordedException code number)))
  | .value value =>
      match value, codec.missingKey with
      | none, some missing => finishReplay bridge (.error (.rebuilt missing))
      | _, _ =>
          match codec.decode value with
          | none => Fallible.fail .internal
          | some decoded => finishReplay bridge (.ok decoded)

/-- The part of {lit}`_replay` inside its handler. -/
def replayRecorded : WrapperM ε α (Except (Raised ε) α) := do
  let record ← readRecorded bridge maxResponseReads []
  let response ← Fallible.find (fun _ => codec.parse record) .internal
  replayResponse bridge codec response

/-- {lit}`_replay`. -/
def replayObservation : WrapperM ε α α := do
  let outcome ← Fallible.onError (replayRecorded bridge codec) abandonObservation
  Fallible.ofExcept outcome

/-- What {lit}`_observe_active` does with the action. -/
def followObservation (action : Option String) : WrapperM ε α α :=
  if action = some "capture" then captureObservation bridge codec live
  else if action = some "replay" then replayObservation bridge codec
  else do
    abandonObservation
    invoke live

/-- {lit}`_observe_active` once the session is open. -/
def observeOpened : WrapperM ε α α := do
  let written ← writeSession bridge
  if written then do
    let action ← dispatchSession bridge
    followObservation bridge codec live action
  else invoke live

/-- {lit}`_observe_active`. -/
def observeActive : WrapperM ε α α := do
  let opened ← openObservation bridge
  if opened then observeOpened bridge codec live else invoke live

/-- {lit}`_observe`. -/
def observe (reentrant : Bool) : WrapperM ε α α := do
  let active ← Fallible.gets (·.active)
  if active = true ∧ reentrant = false then observeActive bridge codec live else invoke live

end Observe

/-! ## What the parts keep -/

section Parts

variable {ε α : Type} (bridge : Bridge) (codec : ObservationCodec ε α) (live : Nat → Except ε α)

/-- A write is quiet. -/
theorem quiet_writeSession : Fallible.Relates Quiet (writeSession bridge : WrapperM ε α _) := by
  intro state
  unfold writeSession
  split
  · split
    · exact quiet_asked state
    · exact trans_of Quiet (quiet_asked state) (quiet_released _)
  · exact refl_of Quiet state

/-- Writing a response is quiet and raises nothing. -/
theorem quiet_writeResponseChunks (chunks : List Bytes) :
    Fallible.Relates Quiet (writeResponseChunks bridge chunks : WrapperM ε α _) := by
  induction chunks with
  | nil => exact Fallible.Relates.pure _
  | cons chunk chunks ih =>
      refine Fallible.Relates.bind (quiet_writeSession bridge) fun written => ?_
      split
      · exact ih
      · exact Fallible.Relates.pure _

/-- Recording a response is quiet. -/
theorem quiet_recordResponse (response : Bytes) :
    Fallible.Relates Quiet (recordResponse bridge response : WrapperM ε α _) := by
  refine Fallible.Relates.bind (quiet_writeResponseChunks bridge _) fun written => ?_
  split
  · exact Fallible.Relates.bind (quiet_finishSession bridge quiet_released)
      fun _ => Fallible.Relates.pure _
  · exact Fallible.Relates.pure _

/-- Giving an observation up is quiet. -/
theorem quiet_abandonObservation :
    Fallible.Relates Quiet (abandonObservation : WrapperM ε α _) :=
  Fallible.Relates.modify quiet_released

/-- What is recorded of an outcome is quiet. -/
theorem quiet_captureOutcome (outcome : Except ε α) :
    Fallible.Relates Quiet (captureOutcome bridge codec outcome) := by
  cases outcome with
  | ok value =>
      simp only [captureOutcome, captureValue]
      split
      · exact quiet_abandonObservation
      · exact quiet_recordResponse bridge _
  | error error =>
      simp only [captureOutcome, captureError]
      split
      · split <;> exact quiet_recordResponse bridge _
      · exact quiet_recordResponse bridge _
      · exact quiet_abandonObservation

/-- Reading the recorded response is quiet. -/
theorem quiet_readRecorded (reads : Nat) (record : Bytes) :
    Fallible.Relates Quiet (readRecorded bridge reads record : WrapperM ε α _) := by
  induction reads generalizing record with
  | zero => exact Fallible.Relates.fail _
  | succ reads ih =>
      refine Fallible.Relates.bind (quiet_readSession bridge quiet_released) fun read => ?_
      rcases read with _ | ⟨chunk, eof⟩
      · exact Fallible.Relates.fail _
      · dsimp only
        split
        · exact Fallible.Relates.fail _
        · split
          · exact Fallible.Relates.pure _
          · exact ih (record ++ chunk)

/-- Finishing a replay is quiet. -/
theorem quiet_finishReplay (outcome : Except (Raised ε) α) :
    Fallible.Relates Quiet (finishReplay bridge outcome : WrapperM ε α _) := by
  refine Fallible.Relates.bind (quiet_finishSession bridge quiet_released) fun finished => ?_
  split
  · exact Fallible.Relates.pure _
  · exact Fallible.Relates.fail _

/-- Replaying a response is quiet. -/
theorem quiet_replayResponse (response : ParsedResponse) :
    Fallible.Relates Quiet (replayResponse bridge codec response) := by
  unfold replayResponse
  split
  · exact quiet_finishReplay bridge _
  · split
    · exact quiet_finishReplay bridge _
    · split
      · exact Fallible.Relates.fail _
      · exact quiet_finishReplay bridge _

/-- A replay is quiet. -/
theorem quiet_replayObservation :
    Fallible.Relates Quiet (replayObservation bridge codec) := by
  refine Fallible.Relates.bind (Fallible.Relates.onError ?_ quiet_abandonObservation)
    fun _ => Fallible.Relates.ofExcept _
  refine Fallible.Relates.bind (quiet_readRecorded bridge _ _) fun record => ?_
  exact Fallible.Relates.bind (Fallible.Relates.find _ _)
    fun response => quiet_replayResponse bridge codec response

end Parts

/-! ## Accounting -/

section Accounting

variable {ε α : Type} (bridge : Bridge) (codec : ObservationCodec ε α) (live : Nat → Except ε α)

/-- Giving an observation up gives the operation up. -/
theorem accounted_abandonObservation {before : Interaction ε α → Prop}
    {failed : Raised ε → Interaction ε α → Prop} :
    Fallible.Meets before abandonObservation (fun _ state => state.Accounted) failed :=
  Fallible.Meets.modify fun _ _ => .inr (.inl (active_released _))

/-- A chunk that is not written ends the session. -/
theorem ready_writeSession {failed : Raised ε → Interaction ε α → Prop} :
    Fallible.Meets Ready (writeSession bridge)
      (fun written state => if written then Ready state else state.Accounted) failed := by
  intro state ready
  unfold writeSession
  by_cases session : state.session = true
  · rw [if_pos session]
    split
    · exact .inl session
    · exact .inr (.inl (active_released _))
  · rw [if_neg session]
    rcases ready with opened | accounted
    · exact absurd opened session
    · exact accounted

/-- A session without an action has ended. -/
theorem ready_dispatchSession {failed : Raised ε → Interaction ε α → Prop} :
    Fallible.Meets Ready (dispatchSession bridge)
      (fun action state => if action.isSome then Ready state else state.Accounted) failed := by
  intro state ready
  unfold dispatchSession
  by_cases session : state.session = true
  · rw [if_pos session]
    split
    · exact .inr (.inl (active_released _))
    · exact .inl session
  · rw [if_neg session]
    rcases ready with opened | accounted
    · exact absurd opened session
    · exact accounted

/-- The chunks of a response are written, or the session has ended. -/
theorem ready_writeResponseChunks (chunks : List Bytes) :
    Fallible.Meets Ready (writeResponseChunks bridge chunks : WrapperM ε α _)
      (fun written state => if written then Ready state else state.Accounted)
      fun _ _ => False := by
  induction chunks with
  | nil => exact Fallible.Meets.pure fun _ ready => ready
  | cons chunk chunks ih =>
      refine Fallible.Meets.bind (ready_writeSession bridge) fun written => ?_
      cases written with
      | false => exact Fallible.Meets.pure fun _ accounted => accounted
      | true => exact ih

/-- A finish of an observation accounts for it. -/
theorem accounted_finishObservation :
    Fallible.Meets Ready (finishObservation bridge : WrapperM ε α _)
      (fun _ state => state.Accounted) fun _ _ => False :=
  accounted_finishSession bridge active_released

/-- Recording a response raises nothing, and accounts for the interaction. -/
theorem accounted_recordResponse (response : Bytes) :
    Fallible.Meets Ready (recordResponse bridge response : WrapperM ε α _)
      (fun _ state => state.Accounted) fun _ _ => False := by
  refine Fallible.Meets.bind (ready_writeResponseChunks bridge _) fun written => ?_
  cases written with
  | false => exact Fallible.Meets.pure fun _ accounted => accounted
  | true =>
      exact Fallible.Meets.bind (accounted_finishObservation bridge)
        fun _ => Fallible.Meets.pure fun _ accounted => accounted

/-- Recording an outcome raises nothing, and accounts for the interaction. -/
theorem accounted_captureOutcome (outcome : Except ε α) :
    Fallible.Meets Ready (captureOutcome bridge codec outcome)
      (fun _ state => state.Accounted) fun _ _ => False := by
  have records := accounted_recordResponse bridge (ε := ε) (α := α)
  cases outcome with
  | ok value =>
      simp only [captureOutcome, captureValue]
      cases codec.encode value with
      | none => exact accounted_abandonObservation
      | some bytes => exact records _
  | error error =>
      simp only [captureOutcome, captureError]
      cases codec.kind error with
      | key =>
          dsimp only
          split <;> exact records _
      | exception => exact records _
      | exiting => exact accounted_abandonObservation

/-- A capture is recorded, or the operation was given up. -/
theorem accounted_captureObservation :
    Fallible.Meets Ready (captureObservation bridge codec live)
      (fun _ state => state.Accounted) fun _ state => state.Accounted := by
  have ran : Fallible.Meets Ready (runLive live : WrapperM ε α _) (fun _ => Ready)
      fun _ state => state.Accounted := fun _ ready => ready
  refine Fallible.Meets.bind ran fun outcome => ?_
  refine Fallible.Meets.bind ((accounted_captureOutcome bridge codec outcome).mono
    (fun _ ready => ready) (fun _ _ accounted => accounted)
    fun _ _ impossible => impossible.elim) fun _ => ?_
  exact Fallible.Meets.ofExcept (fun _ _ _ accounted => accounted) fun _ _ _ accounted => accounted

/-- A read that fails ends the session; any other keeps it. -/
theorem ready_readObservation :
    Fallible.Meets Ready (readObservation bridge : WrapperM ε α _) (fun _ => Ready)
      fun _ _ => True := by
  intro state ready
  unfold readObservation readSession
  split
  · rename_i session
    split
    · exact .inr (.inr (.inl (active_released _)))
    · exact .inl session
  · exact ready

/-- Reading the recorded response ends with the session open or accounted for. -/
theorem ready_readRecorded (reads : Nat) (record : Bytes) :
    Fallible.Meets Ready (readRecorded bridge reads record : WrapperM ε α _) (fun _ => Ready)
      fun _ _ => True := by
  induction reads generalizing record with
  | zero => exact Fallible.Meets.fail fun _ _ => trivial
  | succ reads ih =>
      refine Fallible.Meets.bind (ready_readObservation bridge) fun read => ?_
      rcases read with _ | ⟨chunk, eof⟩
      · exact Fallible.Meets.fail fun _ _ => trivial
      · dsimp only
        split
        · exact Fallible.Meets.fail fun _ _ => trivial
        · split
          · exact Fallible.Meets.pure fun _ ready => ready
          · exact ih (record ++ chunk)

/-- A replay that is finished is accounted for. -/
theorem accounted_finishReplay (outcome : Except (Raised ε) α) :
    Fallible.Meets Ready (finishReplay bridge outcome : WrapperM ε α _)
      (fun _ state => state.Accounted) fun _ _ => True := by
  refine Fallible.Meets.bind ((accounted_finishObservation bridge).mono (fun _ ready => ready)
    (fun _ _ accounted => accounted) fun _ _ impossible => impossible.elim) fun finished => ?_
  split
  · exact Fallible.Meets.pure fun _ accounted => accounted
  · exact Fallible.Meets.fail fun _ _ => trivial

/-- A replayed response is accounted for unless it is refused. -/
theorem accounted_replayResponse (response : ParsedResponse) :
    Fallible.Meets Ready (replayResponse bridge codec response)
      (fun _ state => state.Accounted) fun _ _ => True := by
  unfold replayResponse
  split
  · exact accounted_finishReplay bridge _
  · split
    · exact accounted_finishReplay bridge _
    · split
      · exact Fallible.Meets.fail fun _ _ => trivial
      · exact accounted_finishReplay bridge _

/-- A replay is recorded, or the operation was given up. -/
theorem accounted_replayObservation :
    Fallible.Meets Ready (replayObservation bridge codec)
      (fun _ state => state.Accounted) fun _ state => state.Accounted := by
  have replayed : Fallible.Meets Ready (replayRecorded bridge codec)
      (fun _ state => state.Accounted) fun _ _ => True := by
    refine Fallible.Meets.bind (ready_readRecorded bridge _ _) fun record => ?_
    have parses : Fallible.Meets Ready (Fallible.find (fun _ => codec.parse record) .internal :
        WrapperM ε α _) (fun _ => Ready) fun _ _ => True :=
      Fallible.Meets.find (fun _ ready _ _ => ready) fun _ _ _ => trivial
    exact Fallible.Meets.bind parses fun response => accounted_replayResponse bridge codec response
  refine Fallible.Meets.bind
    (Fallible.Meets.onError replayed fun _ => accounted_abandonObservation) fun outcome => ?_
  exact Fallible.Meets.ofExcept (fun _ _ _ accounted => accounted) fun _ _ _ accounted => accounted

/-- What is passed through stays accounted for. -/
theorem accounted_invoke :
    Fallible.Meets (fun state : Interaction ε α => state.Accounted) (invoke live)
      (fun _ state => state.Accounted) fun _ state => state.Accounted := by
  have ran : Fallible.Meets (fun state : Interaction ε α => state.Accounted) (runLive live)
      (fun _ state => state.Accounted) fun _ state => state.Accounted :=
    fun state accounted => (ran_runLive live state).accounted accounted
  refine Fallible.Meets.bind ran fun outcome => ?_
  exact Fallible.Meets.ofExcept (fun _ _ _ accounted => accounted) fun _ _ _ accounted => accounted

/-- What becomes of a dispatched observation is accounted for. -/
theorem accounted_followObservation (action : Option String) :
    Fallible.Meets (fun state => if action.isSome then Ready state else state.Accounted)
      (followObservation bridge codec live action)
      (fun _ state => state.Accounted) fun _ state => state.Accounted := by
  unfold followObservation
  by_cases captures : action = some "capture"
  · subst captures
    exact accounted_captureObservation bridge codec live
  · rw [if_neg captures]
    by_cases replays : action = some "replay"
    · subst replays
      exact accounted_replayObservation bridge codec
    · rw [if_neg replays]
      exact Fallible.Meets.bind accounted_abandonObservation fun _ => accounted_invoke live

/-- An observation inside an operation is recorded, or the operation was given up. -/
theorem accounted_observeActive :
    Fallible.Meets (fun state => state.active = true) (observeActive bridge codec live)
      (fun _ state => state.Accounted) fun _ state => state.Accounted := by
  have opens : Fallible.Meets (fun state : Interaction ε α => state.active = true)
      (openObservation bridge)
      (fun opened state => if opened then Ready state else state.Accounted)
      fun _ state => state.Accounted := by
    intro state active
    unfold openObservation
    rw [if_pos active]
    split
    · exact .inr (.inl (active_abandoned _))
    · exact .inl rfl
  refine Fallible.Meets.bind opens fun opened => ?_
  cases opened with
  | false => exact accounted_invoke live
  | true =>
      refine Fallible.Meets.bind (ready_writeSession bridge) fun written => ?_
      cases written with
      | false => exact accounted_invoke live
      | true =>
          exact Fallible.Meets.bind (ready_dispatchSession bridge)
            fun action => accounted_followObservation bridge codec live action

end Accounting

/-! ## What the application sees -/

section Seen

variable {ε α : Type} (bridge : Bridge) (codec : ObservationCodec ε α) {live : Nat → Except ε α}

/-- The live function ran once and the application sees what it did. -/
structure Gives (live : Nat → Except ε α) (before : Interaction ε α)
    (result : Except (Raised ε) α × Interaction ε α) : Prop where
  ran : Ran live before result.2
  seen : result.1 = seen (live before.lives)

/-- Some calls come first. -/
theorem Quiet.then_gives {before middle : Interaction ε α}
    {result : Except (Raised ε) α × Interaction ε α} (quiet : Quiet before middle)
    (gives : Gives live middle result) : Gives live before result where
  ran := quiet.then_ran gives.ran
  seen := by rw [gives.seen, quiet.lives]

/-- A call that is passed through. -/
theorem gives_invoke (state : Interaction ε α) : Gives live state (invoke live state) :=
  ⟨ran_runLive live state, rfl⟩

/-- A capture gives the application what the live function did. -/
theorem gives_captureObservation {state : Interaction ε α} (ready : Ready state) :
    Gives live state (captureObservation bridge codec live state) := by
  have ran := ran_runLive live state
  have quiet := quiet_captureOutcome bridge codec (live state.lives) (runLive live state).2
  have recorded := accounted_captureOutcome bridge codec (live state.lives)
    (runLive live state).2 ready
  have made : captureObservation bridge codec live state =
      Fallible.bind (captureOutcome bridge codec (live state.lives))
        (fun _ => Fallible.ofExcept (seen (live state.lives))) (runLive live state).2 := rfl
  rw [made, Fallible.bind]
  rcases captured : captureOutcome bridge codec (live state.lives) (runLive live state).2 with
    ⟨raised | done, next⟩
  · rw [captured] at recorded
    exact recorded.elim
  · rw [captured] at quiet
    exact ⟨ran.then_quiet quiet, rfl⟩

/-- Without a replay the application sees what the live function did. -/
theorem gives_followObservation {action : Option String} (captures : action ≠ some "replay")
    {state : Interaction ε α} (ready : action.isSome = true → Ready state) :
    Gives live state (followObservation bridge codec live action state) := by
  unfold followObservation
  split
  · rename_i captured
    exact gives_captureObservation bridge codec (ready (captured ▸ rfl))
  · exact (quiet_released state).then_gives (gives_invoke _)

/-- The engine answers the observation that begins in a state with a replay. -/
def replaysObservation (before : Interaction ε α) (reentrant : Bool) : Bool :=
  before.active && !reentrant && (bridge.opens before.calls).isSome &&
    bridge.accepts (before.calls + 1) && bridge.dispatches (before.calls + 2) == some "replay"

/-- Once the session is open, the call is passed through unless the engine replays. -/
theorem gives_observeOpened {state : Interaction ε α} (session : state.session = true)
    (captures : bridge.accepts state.calls = true →
      bridge.dispatches (state.calls + 1) ≠ some "replay") :
    Gives live state (observeOpened bridge codec live state) := by
  have wrote : writeSession bridge state =
      if bridge.accepts state.calls then (.ok true, state.asked)
      else (.ok false, state.asked.released) := by
    rw [writeSession, if_pos session]
  unfold observeOpened
  cases accepts : bridge.accepts state.calls with
  | false =>
      rw [accepts, if_neg Bool.false_ne_true] at wrote
      rw [Fallible.bind_ok wrote]
      exact (trans_of Quiet (quiet_asked state) (quiet_released _)).then_gives (gives_invoke _)
  | true =>
      rw [accepts, if_pos rfl] at wrote
      rw [Fallible.bind_ok wrote, if_pos rfl]
      have dispatched : ∃ action next, dispatchSession bridge state.asked = (.ok action, next) ∧
          Quiet state next ∧ (action.isSome = true → Ready next) ∧
          action = bridge.dispatches (state.calls + 1) := by
        have asked : Quiet state state.asked.asked :=
          trans_of Quiet (quiet_asked state) (quiet_asked _)
        rw [dispatchSession, if_pos (show state.asked.session = true from session)]
        cases dispatches : bridge.dispatches (state.calls + 1) with
        | none =>
            refine ⟨none, state.asked.asked.released, ?_, ?_, ?_, rfl⟩
            · simp only [Interaction.asked, dispatches]
            · exact trans_of Quiet asked (quiet_released _)
            · exact fun present => absurd present Bool.false_ne_true
        | some action =>
            refine ⟨some action, state.asked.asked, ?_, asked, fun _ => .inl session, rfl⟩
            simp only [Interaction.asked, dispatches]
      obtain ⟨action, next, made, quiet, ready, answered⟩ := dispatched
      rw [Fallible.bind_ok made]
      refine quiet.then_gives (gives_followObservation bridge codec ?_ ready)
      rw [answered]
      exact captures accepts

/-- Unless the engine replays, the application sees what the live function did. -/
theorem gives_observe {state : Interaction ε α} {reentrant : Bool}
    (captures : replaysObservation bridge state reentrant = false) :
    Gives live state (observe bridge codec live reentrant state) := by
  simp only [observe, bind, Fallible.bind, Fallible.gets]
  split
  · rename_i inside
    obtain ⟨active, outermost⟩ := inside
    simp only [observeActive, bind, Fallible.bind, openObservation, active, if_true]
    cases opens : bridge.opens state.calls with
    | none =>
        exact (trans_of Quiet (quiet_asked state) (quiet_abandoned _)).then_gives (gives_invoke _)
    | some action =>
        have opened : Quiet state { state.asked with session := true } :=
          ⟨rfl, rfl, id, id, id⟩
        refine opened.then_gives (gives_observeOpened bridge codec rfl ?_)
        intro accepts replays
        have accepted : bridge.accepts (state.calls + 1) = true := accepts
        have replayed : bridge.dispatches (state.calls + 2) = some "replay" := replays
        simp [replaysObservation, active, outermost, opens, accepted, replayed] at captures
  · exact gives_invoke state

/-- When the engine replays, the live function does not run. -/
theorem quiet_observe {state : Interaction ε α} {reentrant : Bool}
    (replays : replaysObservation bridge state reentrant = true) :
    Quiet state (observe bridge codec live reentrant state).2 := by
  simp only [replaysObservation, Bool.and_eq_true, beq_iff_eq, Bool.not_eq_true'] at replays
  obtain ⟨⟨⟨⟨active, outermost⟩, opens⟩, accepts⟩, dispatches⟩ := replays
  obtain ⟨action, opened⟩ := Option.isSome_iff_exists.mp opens
  have quiet : Quiet state { state.asked.asked.asked with session := true } :=
    ⟨rfl, rfl, id, id, id⟩
  have made : observe bridge codec live reentrant state =
      replayObservation bridge codec { state.asked.asked.asked with session := true } := by
    simp [observe, observeActive, observeOpened, followObservation, bind, Fallible.bind,
      Fallible.gets, openObservation, writeSession, dispatchSession, Interaction.asked, active,
      outermost, opened, accepts, dispatches]
  rw [made]
  exact trans_of Quiet quiet (quiet_replayObservation bridge codec _)

/-- The wrapper of an observation is transparent. -/
theorem transparent_observe (live : Nat → Except ε α) (calls lives : Nat)
    (active unowned : Bool) :
    Transparent live
      (replaysObservation bridge (.start calls lives active unowned : Interaction ε α) false)
      (.start calls lives active unowned)
      (observe bridge codec live false (.start calls lives active unowned)) := by
  constructor
  · intro replays
    exact (quiet_observe bridge codec replays).lives
  · intro captures
    have gives : Gives live _ (observe bridge codec live false _) :=
      gives_observe bridge codec captures
    exact ⟨gives.ran.lives, gives.seen⟩
  · intro inside lost
    have held : active = true := inside
    subst held
    have accounted : ((observeActive bridge codec live
        (.start calls lives true unowned)).2).Accounted := by
      have outcome := accounted_observeActive bridge codec live
        (.start calls lives true unowned) rfl
      rcases made : observeActive bridge codec live (.start calls lives true unowned) with
        ⟨raised | response, next⟩ <;>
      · rw [made] at outcome
        exact outcome
    rcases accounted with recorded | poisoned
    · have found : (observe bridge codec live false
          (.start calls lives true unowned)).2.recorded = true := recorded
      rw [found] at lost
      cases lost
    · exact poisoned

end Seen

/-! ## The wrappers together -/

/-- The wrappers of SQLite calls, of URL calls and of observations are transparent, whatever the
bridge, the encodings and the live function do.  A call of the SDK inside an observation is passed
through. -/
theorem dependency_wrappers_transparent {ε α Payload : Type} (bridge : Bridge)
    (records : DependencyRecords) (sqlite : SqliteCodec ε α) (url : UrlCodec ε α Payload)
    (codec : ObservationCodec ε α) (live : Nat → Except ε α) (calls lives : Nat)
    (active unowned : Bool) :
    let before : Interaction ε α := .start calls lives active unowned
    Transparent live (records.replays bridge before) before
        (executePythonSqlite bridge records sqlite live before) ∧
      Transparent live (records.replays bridge before) before
        (executePythonUrl bridge records url live before) ∧
      Transparent live (records.replays bridge before) before
        (executeNodeSqlite bridge records sqlite live before) ∧
      Transparent live (replaysObservation bridge before false) before
        (observe bridge codec live false before) ∧
      observe bridge codec live true before = invoke live before := by
  refine ⟨?_, ?_, ?_, ?_, ?_⟩
  · exact transparent_executeDependency bridge records _ live _ calls lives active unowned
  · exact transparent_executeDependency bridge records _ live _ calls lives active unowned
  · exact transparent_executeDependency bridge records _ live _ calls lives active unowned
  · exact transparent_observe bridge codec live calls lives active unowned
  · simp [observe, bind, Fallible.bind, Fallible.gets]

end Wrappers
end ReproItSdk
