import ReproItSdk.Wrappers.GoDependency

/-! # Random reads of a Go application

{lit}`automaticRandomReader` wraps the random source of the process.  A read of the operation of the
goroutine is observed in a session.  The reader passes a read that it does not support through and
marks every active operation after it, so that a panic of the read leaves them unmarked.

Main results:

- Theorem {lit}`transparent_readAutomaticRandom`: an observed read is transparent.
- Theorem {lit}`transparent_read_iff`: when a read is transparent.
-/

namespace ReproItSdk
namespace Wrappers
namespace Native
namespace Go

/-! ## Observation sessions -/

/-- {lit}`sdkEngineMaxObservationChunkBytes`. -/
def sdkEngineMaxObservationChunkBytes : Nat :=
  32768

/-- {lit}`automaticRandomValueBytes`. -/
def automaticRandomValueBytes : Nat :=
  32768

/-- {lit}`semanticObservationMaxRecordBytes`. -/
def semanticObservationMaxRecordBytes : Nat :=
  65536

/-- {lit}`semanticObservationMaxReads`. -/
def semanticObservationMaxReads : Nat :=
  8

section Sessions

variable {ε : Type} (bridge : SdkEngineBridge)

/-- {lit}`openObservationSession`: whether there is a session. -/
def openObservationSession (operation : Nat) : NativeM ε Bool :=
  fun process =>
    if (process.operations operation).active then
      if bridge.openObservation process.calls then
        (.ok true, { process.asked with pending := some operation, session := {} })
      else (.ok false, process.asked.abandoned operation)
    else (.ok false, process)

/-- {lit}`write` of a session that must be in a state, with what is counted of the chunk. -/
def writeSession (required : ObservationSessionState)
    (count : ObservationSession → Nat → ObservationSession) (chunk : Bytes) : NativeM ε Bool :=
  fun process =>
    if process.session.state ≠ required ∨ chunk.length = 0 ∨
        sdkEngineMaxObservationChunkBytes < chunk.length then (.ok false, process)
    else if bridge.writeObservation process.calls chunk then
      (.ok true, { process.asked with session := count process.session chunk.length })
    else (.ok false, process.asked.sessionAbandoned)

/-- {lit}`writeRequest`. -/
def writeRequest (chunk : Bytes) : NativeM ε Bool :=
  writeSession bridge .request
    (fun session length => { session with requestBytes := session.requestBytes + length }) chunk

/-- {lit}`writeResponse`. -/
def writeResponse (chunk : Bytes) : NativeM ε Bool :=
  writeSession bridge .capture
    (fun session length => { session with responseBytes := session.responseBytes + length }) chunk

/-- {lit}`dispatch`. -/
def dispatchSession : NativeM ε (Option ObservationAction) :=
  fun process =>
    if process.session.state ≠ .request ∨ process.session.requestBytes = 0 then (.ok none, process)
    else
      match (bridge.dispatchObservation process.calls).bind ObservationAction.parse with
      | none => (.ok none, process.asked.sessionAbandoned)
      | some .capture =>
          (.ok (some .capture),
            { process.asked with session := { process.session with state := .capture } })
      | some .replay =>
          (.ok (some .replay),
            { process.asked with session := { process.session with state := .replay } })

/-- {lit}`readResponse`. -/
def readResponse : NativeM ε (Option (Bytes × Bool)) :=
  fun process =>
    if process.session.state ≠ .replay then (.ok none, process)
    else
      match bridge.readObservation process.calls with
      | none => (.ok none, process.asked.sessionAbandoned)
      | some (chunk, eof) =>
          (.ok (some (chunk, eof)),
            if eof then
              { process.asked with session := { process.session with state := .replayEof } }
            else process.asked)

/-- {lit}`finish` with the outcome of a response. -/
def finishSession : NativeM ε Bool :=
  fun process =>
    if (process.session.state = .capture ∧ 0 < process.session.responseBytes) ∨
        process.session.state = .replayEof then
      if bridge.finishObservation process.calls "response" then
        (.ok true,
          { process.asked.finished with session := { process.session with state := .finished } })
      else (.ok false, process.asked.sessionAbandoned)
    else (.ok false, process)

/-- {lit}`abandon` of a session. -/
def abandonSession : NativeM ε Unit :=
  Fallible.modify HostProcess.sessionAbandoned

/-- Write a response chunk by chunk, until a chunk is not written. -/
def writeResponseChunks : List Bytes → NativeM ε Bool
  | [] => pure true
  | chunk :: chunks => do
      let written ← writeResponse bridge chunk
      if written then writeResponseChunks chunks else pure false

/-- {lit}`writeSemanticObservationResponse`. -/
def writeSemanticObservationResponse (value : Bytes) : NativeM ε Bool :=
  if value.length = 0 ∨ semanticObservationMaxRecordBytes < value.length then pure false
  else writeResponseChunks bridge (Chunks.chunks sdkEngineMaxObservationChunkBytes value)

/-- {lit}`readSemanticObservationResponse` after some reads, with as many left. -/
def readRecordFrom : Nat → Bytes → NativeM ε (Option Bytes)
  | 0, _ => pure none
  | reads + 1, record => do
      let read ← readResponse bridge
      match read with
      | none => pure none
      | some (chunk, eof) =>
          if semanticObservationMaxRecordBytes - record.length < chunk.length then pure none
          else if eof then
            pure (if record ++ chunk = [] then none else some (record ++ chunk))
          else readRecordFrom reads (record ++ chunk)

/-- {lit}`readSemanticObservationResponse`. -/
def readSemanticObservationResponse : NativeM ε (Option Bytes) :=
  readRecordFrom bridge semanticObservationMaxReads []

/-- Ending a session keeps the process. -/
theorem keeps_sessionAbandoned (process : HostProcess) :
    Keeps process process.sessionAbandoned := by
  unfold HostProcess.sessionAbandoned
  split
  · exact refl_of Keeps process
  · exact .of_lost rfl (fun _ => id) rfl rfl

/-- A failed call of a session keeps the process. -/
theorem keeps_failedSession (process : HostProcess) :
    Keeps process process.asked.sessionAbandoned :=
  trans_of Keeps (keeps_asked process) (keeps_sessionAbandoned _)

/-- Ending a session keeps the process. -/
theorem keeps_abandonSession : Fallible.Relates Keeps (abandonSession : NativeM ε _) :=
  Fallible.Relates.modify keeps_sessionAbandoned

/-- A write keeps the process. -/
theorem keeps_writeSession (required : ObservationSessionState)
    (count : ObservationSession → Nat → ObservationSession) (chunk : Bytes) :
    Fallible.Relates Keeps (writeSession bridge required count chunk : NativeM ε _) := by
  intro process
  unfold writeSession
  split
  · exact refl_of Keeps process
  · split
    · exact .of_lost rfl (fun _ => id) rfl rfl
    · exact keeps_failedSession process

/-- A dispatch keeps the process. -/
theorem keeps_dispatchSession : Fallible.Relates Keeps (dispatchSession bridge : NativeM ε _) := by
  intro process
  unfold dispatchSession
  split
  · exact refl_of Keeps process
  · split
    · exact keeps_failedSession process
    · exact .of_lost rfl (fun _ => id) rfl rfl
    · exact .of_lost rfl (fun _ => id) rfl rfl

/-- A read keeps the process. -/
theorem keeps_readResponse : Fallible.Relates Keeps (readResponse bridge : NativeM ε _) := by
  intro process
  unfold readResponse
  split
  · exact refl_of Keeps process
  · split
    · exact keeps_failedSession process
    · dsimp only
      split
      · exact .of_lost rfl (fun _ => id) rfl rfl
      · exact keeps_asked process

/-- A finish keeps the process. -/
theorem keeps_finishSession : Fallible.Relates Keeps (finishSession bridge : NativeM ε _) := by
  intro process
  unfold finishSession
  split
  · split
    · exact ⟨rfl, fun _ => id, fun _ _ => .inl rfl⟩
    · exact keeps_failedSession process
  · exact refl_of Keeps process

/-- Writing a response keeps the process. -/
theorem keeps_writeResponseChunks (chunks : List Bytes) :
    Fallible.Relates Keeps (writeResponseChunks bridge chunks : NativeM ε _) := by
  induction chunks with
  | nil => exact Fallible.Relates.pure _
  | cons chunk chunks ih =>
      refine Fallible.Relates.bind (keeps_writeSession bridge _ _ chunk) fun written => ?_
      split
      · exact ih
      · exact Fallible.Relates.pure _

/-- Writing a response keeps the process. -/
theorem keeps_writeSemanticObservationResponse (value : Bytes) :
    Fallible.Relates Keeps (writeSemanticObservationResponse bridge value : NativeM ε _) := by
  unfold writeSemanticObservationResponse
  split
  · exact Fallible.Relates.pure _
  · exact keeps_writeResponseChunks bridge _

/-- Reading a recorded response keeps the process. -/
theorem keeps_readRecordFrom (reads : Nat) (record : Bytes) :
    Fallible.Relates Keeps (readRecordFrom bridge reads record : NativeM ε _) := by
  induction reads generalizing record with
  | zero => exact Fallible.Relates.pure _
  | succ reads ih =>
      refine Fallible.Relates.bind (keeps_readResponse bridge) fun read => ?_
      rcases read with _ | ⟨chunk, eof⟩
      · exact Fallible.Relates.pure _
      · dsimp only
        split
        · exact Fallible.Relates.pure _
        · split
          · exact Fallible.Relates.pure _
          · exact ih (record ++ chunk)

end Sessions

/-! ## The reader -/

/-- What a read returns, with the buffer it leaves. -/
structure RandomRead (η : Type) where
  output : Bytes
  count : Int
  error : Option η

/-- {lit}`automaticRandomRequest`, {lit}`automaticRandomResponse` and
{lit}`decodeAutomaticRandomResponse`. -/
structure RandomCodec where
  request : Nat → Option Bytes
  response : Bytes → Bytes → Option Bytes
  decode : Bytes → Bytes → Nat → Option Bytes

/-- {lit}`automaticActiveOperations`: the operations of the process and those of the goroutine. -/
structure ActiveOperations where
  operations : List Nat
  byGoroutine : List Nat
  registered : ∀ operation ∈ byGoroutine, operation ∈ operations

/-- {lit}`snapshotAutomaticOperations`. -/
def ActiveOperations.snapshot (registry : ActiveOperations) (process : HostProcess) : List Nat :=
  registry.operations.filter fun operation => (process.operations operation).active

/-- {lit}`currentAutomaticOperation`. -/
def ActiveOperations.current (registry : ActiveOperations) (process : HostProcess) : Option Nat :=
  registry.byGoroutine.getLast?.filter fun operation => (process.operations operation).active

section Random

variable {ε η : Type} (bridge : SdkEngineBridge) (codec : RandomCodec) (automaticCapture : η)
  (base : Nat → Except ε (RandomRead η)) (output : Bytes)

/-- {lit}`markAutomaticRandomUnowned`. -/
def markAutomaticRandomUnowned : List Nat → NativeM ε Unit
  | [] => pure ()
  | operation :: operations => do
      markUnowned bridge operation
      markAutomaticRandomUnowned operations

/-- A read that is passed through, after which operations are marked. -/
def readThenMark (operations : List Nat) : NativeM ε (RandomRead η) := do
  let read ← runLive base
  markAutomaticRandomUnowned bridge operations
  pure read

/-- Give the session up and mark the operation. -/
def loseAutomaticRandom (operation : Nat) : NativeM ε Unit := do
  abandonSession
  markAutomaticRandomUnowned bridge [operation]

/-- Write the response of a read and finish the session; whether both worked. -/
def recordAutomaticRandom (response : Bytes) : NativeM ε Bool := do
  let written ← writeSemanticObservationResponse bridge response
  if written then finishSession bridge else pure false

/-- What {lit}`captureAutomaticRandom` does with a read. -/
def finishRandomCapture (operation : Nat) (request : Bytes) (read : RandomRead η) : NativeM ε Unit :=
  if read.error.isSome ∨ read.count ≠ output.length ∨ read.count < 0 ∨
      (output.length : Int) < read.count then
    loseAutomaticRandom bridge operation
  else
    match codec.response request read.output with
    | none => loseAutomaticRandom bridge operation
    | some response => do
        let recorded ← recordAutomaticRandom bridge response
        if recorded then pure () else loseAutomaticRandom bridge operation

/-- {lit}`captureAutomaticRandom`. -/
def captureAutomaticRandom (operation : Nat) (request : Bytes) : NativeM ε (RandomRead η) := do
  let read ← runLive base
  finishRandomCapture bridge codec output operation request read
  pure read

/-- {lit}`replayAutomaticRandom`. -/
def replayAutomaticRandom (request : Bytes) : NativeM ε (RandomRead η) := do
  let record ← readSemanticObservationResponse bridge
  match record.bind (codec.decode · request output.length) with
  | none => do
      abandonSession
      pure { output := output, count := 0, error := some automaticCapture }
  | some response => do
      let finished ← finishSession bridge
      if finished then pure { output := response, count := output.length, error := none }
      else do
        abandonSession
        pure { output := output, count := 0, error := some automaticCapture }

/-- Dispatch a session, and give it up when it has no action. -/
def dispatchOrAbandon : NativeM ε (Option ObservationAction) := do
  let action ← dispatchSession bridge
  match action with
  | none => do
      abandonSession
      pure none
  | some action => pure (some action)

/-- Write the request of a session and dispatch it. -/
def requestSession (request : Bytes) : NativeM ε (Option ObservationAction) := do
  let written ← writeRequest bridge request
  if written then dispatchOrAbandon bridge
  else do
    abandonSession
    pure none

/-- The session of a read up to its action; without an action there is no session. -/
def openAutomaticRandom (operation : Nat) (request : Bytes) :
    NativeM ε (Option ObservationAction) := do
  let opened ← openObservationSession bridge operation
  if opened then requestSession bridge request else pure none

/-- {lit}`readAutomaticRandom`. -/
def readAutomaticRandom (operation : Nat) : NativeM ε (RandomRead η) :=
  match codec.request output.length with
  | none => readThenMark bridge base [operation]
  | some request => do
      let action ← openAutomaticRandom bridge operation request
      match action with
      | none => runLive base
      | some .capture => captureAutomaticRandom bridge codec base output operation request
      | some .replay => replayAutomaticRandom bridge codec automaticCapture output request

/-- {lit}`Read` of the reader. -/
def read (active : Bool) (registry : ActiveOperations) : NativeM ε (RandomRead η) := do
  let operations ← Fallible.gets registry.snapshot
  let current ← Fallible.gets registry.current
  if active = false ∨ operations = [] ∨ output = [] then runLive base
  else
    match current with
    | none => readThenMark bridge base operations
    | some operation =>
        if automaticRandomValueBytes < output.length then readThenMark bridge base operations
        else readAutomaticRandom bridge codec automaticCapture base output operation

end Random

/-! ## What the parts keep -/

section Kept

variable {ε η : Type} (bridge : SdkEngineBridge) (codec : RandomCodec) (automaticCapture : η)
  (output : Bytes)

/-- Marking operations keeps the process. -/
theorem keeps_markAutomaticRandomUnowned (operations : List Nat) :
    Fallible.Relates Keeps (markAutomaticRandomUnowned bridge operations : NativeM ε _) := by
  induction operations with
  | nil => exact Fallible.Relates.pure _
  | cons operation operations ih =>
      exact Fallible.Relates.bind (keeps_markUnowned bridge operation) fun _ => ih

/-- Marking operations raises nothing, and they are lost. -/
theorem lost_markAutomaticRandomUnowned (operations : List Nat) (process : HostProcess) :
    ∃ next, markAutomaticRandomUnowned (ε := ε) bridge operations process = (.ok (), next) ∧
      ∀ operation ∈ operations, next.Lost operation := by
  induction operations generalizing process with
  | nil => exact ⟨process, rfl, by simp⟩
  | cons operation operations ih =>
      obtain ⟨next, made, lost⟩ := ih (process.markedUnowned bridge operation)
      have kept := keeps_markAutomaticRandomUnowned (ε := ε) bridge operations
        (process.markedUnowned bridge operation)
      rw [made] at kept
      refine ⟨next, made, ?_⟩
      intro other listed
      rcases List.mem_cons.mp listed with same | later
      · subst same
        exact kept.lost other (lost_markedUnowned bridge other process)
      · exact lost other later

/-- Losing a read keeps the process. -/
theorem keeps_loseAutomaticRandom (operation : Nat) :
    Fallible.Relates Keeps (loseAutomaticRandom bridge operation : NativeM ε _) :=
  Fallible.Relates.bind keeps_abandonSession
    fun _ => keeps_markAutomaticRandomUnowned bridge [operation]

/-- Recording a read keeps the process. -/
theorem keeps_recordAutomaticRandom (response : Bytes) :
    Fallible.Relates Keeps (recordAutomaticRandom bridge response : NativeM ε _) := by
  refine Fallible.Relates.bind (keeps_writeSemanticObservationResponse bridge response)
    fun written => ?_
  split
  · exact keeps_finishSession bridge
  · exact Fallible.Relates.pure _

/-- What follows a read keeps the process. -/
theorem keeps_finishRandomCapture (operation : Nat) (request : Bytes) (read : RandomRead η) :
    Fallible.Relates Keeps
      (finishRandomCapture bridge codec output operation request read : NativeM ε _) := by
  unfold finishRandomCapture
  split
  · exact keeps_loseAutomaticRandom bridge operation
  · split
    · exact keeps_loseAutomaticRandom bridge operation
    · refine Fallible.Relates.bind (keeps_recordAutomaticRandom bridge _) fun recorded => ?_
      split
      · exact Fallible.Relates.pure _
      · exact keeps_loseAutomaticRandom bridge operation

/-- A replay keeps the process. -/
theorem keeps_replayAutomaticRandom (request : Bytes) :
    Fallible.Relates Keeps
      (replayAutomaticRandom bridge codec automaticCapture output request : NativeM ε _) := by
  refine Fallible.Relates.bind (keeps_readRecordFrom bridge _ _) fun record => ?_
  split
  · exact Fallible.Relates.bind keeps_abandonSession fun _ => Fallible.Relates.pure _
  · refine Fallible.Relates.bind (keeps_finishSession bridge) fun finished => ?_
    split
    · exact Fallible.Relates.pure _
    · exact Fallible.Relates.bind keeps_abandonSession fun _ => Fallible.Relates.pure _

/-- A dispatch keeps the process. -/
theorem keeps_dispatchOrAbandon :
    Fallible.Relates Keeps (dispatchOrAbandon bridge : NativeM ε _) := by
  refine Fallible.Relates.bind (keeps_dispatchSession bridge) fun action => ?_
  split
  · exact Fallible.Relates.bind keeps_abandonSession fun _ => Fallible.Relates.pure _
  · exact Fallible.Relates.pure _

/-- Dispatching a request keeps the process. -/
theorem keeps_requestSession (request : Bytes) :
    Fallible.Relates Keeps (requestSession bridge request : NativeM ε _) := by
  refine Fallible.Relates.bind (keeps_writeSession bridge _ _ request) fun written => ?_
  split
  · exact keeps_dispatchOrAbandon bridge
  · exact Fallible.Relates.bind keeps_abandonSession fun _ => Fallible.Relates.pure _

end Kept

/-! ## What a read returns -/

section Returned

variable {ε η : Type} (bridge : SdkEngineBridge) (codec : RandomCodec) (automaticCapture : η)
  (output : Bytes)

/-- The action that the engine gives to a request in a new session. -/
def requestedAction (request : Bytes) (calls : Nat) : Option ObservationAction :=
  if request.length = 0 ∨ sdkEngineMaxObservationChunkBytes < request.length then none
  else if bridge.writeObservation calls request then
    (bridge.dispatchObservation (calls + 1)).bind ObservationAction.parse
  else none

/-- A dispatch returns the action of the engine. -/
theorem dispatchOrAbandon_fst (process : HostProcess) (requested : process.session.state = .request)
    (written : process.session.requestBytes ≠ 0) :
    (dispatchOrAbandon (ε := ε) bridge process).1 =
      .ok ((bridge.dispatchObservation process.calls).bind ObservationAction.parse) := by
  have guarded : ¬ (process.session.state ≠ .request ∨ process.session.requestBytes = 0) := by
    simp [requested, written]
  simp only [dispatchOrAbandon, bind, Fallible.bind, dispatchSession, if_neg guarded]
  rcases (bridge.dispatchObservation process.calls).bind ObservationAction.parse with
    _ | _ | _ <;> rfl

/-- A new session returns the action of the engine. -/
theorem requestSession_fst (request : Bytes) (process : HostProcess) (fresh : process.session = {}) :
    (requestSession (ε := ε) bridge request process).1 =
      .ok (requestedAction bridge request process.calls) := by
  unfold requestSession requestedAction
  by_cases refused : request.length = 0 ∨ sdkEngineMaxObservationChunkBytes < request.length
  · have wrote : writeRequest (ε := ε) bridge request process = (.ok false, process) := by
      rw [writeRequest, writeSession, if_pos (.inr refused)]
    rw [Fallible.bind_ok wrote, if_pos refused]
    rfl
  · have guarded : ¬ (process.session.state ≠ .request ∨ request.length = 0 ∨
        sdkEngineMaxObservationChunkBytes < request.length) := by
      simpa [fresh] using refused
    rw [if_neg refused]
    cases accepted : bridge.writeObservation process.calls request with
    | false =>
        have wrote : writeRequest (ε := ε) bridge request process =
            (.ok false, process.asked.sessionAbandoned) := by
          rw [writeRequest, writeSession, if_neg guarded, accepted]
          rfl
        rw [Fallible.bind_ok wrote]
        rfl
    | true =>
        have wrote : writeRequest (ε := ε) bridge request process =
            (.ok true, { process.asked with session := { requestBytes := 0 + request.length } }) := by
          rw [writeRequest, writeSession, if_neg guarded, accepted, if_pos rfl, fresh]
        rw [Fallible.bind_ok wrote, if_pos rfl, if_pos rfl,
          dispatchOrAbandon_fst bridge { process.asked with
            session := { requestBytes := 0 + request.length } } rfl (by
              rw [not_or] at refused
              simpa using refused.1)]
        rfl

/-- The engine answers a read with a replay. -/
def replaysRandom (operation : Nat) (request : Bytes) (process : HostProcess) : Prop :=
  (process.operations operation).active = true ∧ bridge.openObservation process.calls = true ∧
    requestedAction bridge request (process.calls + 1) = some .replay

/-- The session of a read keeps the live function and the lost operations, and accounts for the
read. -/
theorem openAutomaticRandom_spec (operation : Nat) (request : Bytes) (process : HostProcess) :
    ∃ answer next, openAutomaticRandom (ε := ε) bridge operation request process =
        (.ok answer, next) ∧
      next.lives = process.lives ∧ (∀ other, process.Lost other → next.Lost other) ∧
      next.Accounted operation ∧
      (answer = some .replay ↔ replaysRandom bridge operation request process) := by
  unfold openAutomaticRandom
  by_cases active : (process.operations operation).active = true
  · cases opens : bridge.openObservation process.calls with
    | false =>
        have opened : openObservationSession (ε := ε) bridge operation process =
            (.ok false, process.asked.abandoned operation) := by
          rw [openObservationSession, if_pos active, opens]
          rfl
        have kept := trans_of Keeps (keeps_asked process) (keeps_abandoned operation process.asked)
        refine ⟨none, _, Fallible.bind_ok opened, kept.lives, kept.lost,
          .inr (.inl (lost_abandoned operation _)), ?_⟩
        simp [replaysRandom, opens]
    | true =>
        have opened : openObservationSession (ε := ε) bridge operation process =
            (.ok true, { process.asked with pending := some operation, session := {} }) := by
          rw [openObservationSession, if_pos active, opens, if_pos rfl]
        have kept := keeps_requestSession (ε := ε) bridge request
          { process.asked with pending := some operation, session := {} }
        have answered := requestSession_fst (ε := ε) bridge request
          { process.asked with pending := some operation, session := {} } rfl
        refine ⟨_, _, (Fallible.bind_ok opened).trans (Prod.ext answered rfl), kept.lives,
          kept.lost, kept.accounted operation (.inr (.inr rfl)), ?_⟩
        simp [replaysRandom, opens, active, HostProcess.asked]
  · have opened : openObservationSession (ε := ε) bridge operation process =
        (.ok false, process) := by
      rw [openObservationSession, if_neg active]
    refine ⟨none, process, Fallible.bind_ok opened, rfl, fun _ => id,
      .inr (.inl (.inl (Bool.eq_false_of_not_eq_true active))), ?_⟩
    simp [replaysRandom, active]

/-- Writing a chunk does not panic. -/
theorem returns_writeSession (required : ObservationSessionState)
    (count : ObservationSession → Nat → ObservationSession) (chunk : Bytes) :
    Fallible.Returns (writeSession bridge required count chunk : NativeM ε _) := by
  intro process
  unfold writeSession
  split
  · exact ⟨_, _, rfl⟩
  · split <;> exact ⟨_, _, rfl⟩

/-- Writing a response does not panic. -/
theorem returns_writeResponseChunks (chunks : List Bytes) :
    Fallible.Returns (writeResponseChunks bridge chunks : NativeM ε _) := by
  induction chunks with
  | nil => exact Fallible.Returns.pure _
  | cons chunk chunks ih =>
      refine Fallible.Returns.bind (returns_writeSession bridge _ _ chunk) fun written => ?_
      split
      · exact ih
      · exact Fallible.Returns.pure _

/-- Recording a read does not panic. -/
theorem returns_recordAutomaticRandom (response : Bytes) :
    Fallible.Returns (recordAutomaticRandom bridge response : NativeM ε _) := by
  have writes : Fallible.Returns (writeSemanticObservationResponse bridge response : NativeM ε _) := by
    unfold writeSemanticObservationResponse
    split
    · exact Fallible.Returns.pure _
    · exact returns_writeResponseChunks bridge _
  refine Fallible.Returns.bind writes fun written => ?_
  split
  · intro process
    unfold finishSession
    split
    · split <;> exact ⟨_, _, rfl⟩
    · exact ⟨_, _, rfl⟩
  · exact Fallible.Returns.pure _

/-- Marking operations does not panic. -/
theorem returns_markAutomaticRandomUnowned (operations : List Nat) :
    Fallible.Returns (markAutomaticRandomUnowned bridge operations : NativeM ε _) := by
  induction operations with
  | nil => exact Fallible.Returns.pure _
  | cons operation operations ih =>
      exact Fallible.Returns.bind (Fallible.Returns.modify _) fun _ => ih

/-- What follows a read does not panic. -/
theorem returns_finishRandomCapture (operation : Nat) (request : Bytes) (read : RandomRead η) :
    Fallible.Returns
      (finishRandomCapture bridge codec output operation request read : NativeM ε _) := by
  have loses : Fallible.Returns (loseAutomaticRandom bridge operation : NativeM ε _) :=
    Fallible.Returns.bind (Fallible.Returns.modify _)
      fun _ => returns_markAutomaticRandomUnowned bridge [operation]
  unfold finishRandomCapture
  split
  · exact loses
  · split
    · exact loses
    · refine Fallible.Returns.bind (returns_recordAutomaticRandom bridge _) fun recorded => ?_
      split
      · exact Fallible.Returns.pure _
      · exact loses

end Returned

/-! ## Transparency -/

section Transparent

variable {ε η : Type} (bridge : SdkEngineBridge) (codec : RandomCodec) (automaticCapture : η)
  (base : Nat → Except ε (RandomRead η)) (output : Bytes)

/-- A read that is passed through gives the application the read. -/
theorem gives_readThenMark (operations : List Nat) (process : HostProcess) :
    Gives base process (readThenMark bridge base operations process) :=
  gives_followed base (fun _ => keeps_markAutomaticRandomUnowned bridge operations)
    (fun _ => returns_markAutomaticRandomUnowned bridge operations) process

/-- A read that is passed through marks the operations unless it panics. -/
theorem lost_readThenMark {operations : List Nat} {process : HostProcess} {read : RandomRead η}
    (returned : base process.lives = .ok read) :
    ∀ operation ∈ operations,
      (readThenMark bridge base operations process).2.Lost operation := by
  have made : runLive base process = (.ok read, (runLive base process).2) :=
    Prod.ext returned rfl
  obtain ⟨next, marked, lost⟩ := lost_markAutomaticRandomUnowned (ε := ε) bridge operations
    (runLive base process).2
  unfold readThenMark
  rw [Fallible.bind_ok made, Fallible.bind_ok marked]
  exact lost

/-- An observed read is transparent. -/
theorem transparent_readAutomaticRandom (operation : Nat) {request : Bytes}
    (encoded : codec.request output.length = some request) (process : HostProcess) :
    Transparent base (replaysRandom bridge operation request process) [operation] process
      (readAutomaticRandom bridge codec automaticCapture base output operation process) := by
  obtain ⟨answer, next, opened, lives, _, accounted, replays⟩ :=
    openAutomaticRandom_spec (ε := ε) bridge operation request process
  unfold readAutomaticRandom
  rw [encoded]
  simp only
  rw [Fallible.bind_ok opened]
  rcases answer with _ | _ | _
  · have gives := gives_runLive base next
    refine ⟨fun held => absurd (replays.mpr held) (by simp), fun _ => ?_, ?_⟩
    · exact ⟨by rw [gives.lives, lives], by rw [gives.value, lives]⟩
    · simpa using gives.accounted operation accounted
  · have gives : Gives base next
        (captureAutomaticRandom bridge codec base output operation request next) :=
      gives_followed base
        (fun read => keeps_finishRandomCapture bridge codec output operation request read)
        (fun read => returns_finishRandomCapture bridge codec output operation request read) next
    refine ⟨fun held => absurd (replays.mpr held) (by simp), fun _ => ?_, ?_⟩
    · exact ⟨by rw [gives.lives, lives], by rw [gives.value, lives]⟩
    · simpa using gives.accounted operation accounted
  · have kept := keeps_replayAutomaticRandom (ε := ε) bridge codec automaticCapture output request
      next
    refine ⟨fun _ => by rw [kept.lives, lives], fun other => absurd (replays.mp rfl) other, ?_⟩
    simpa using kept.accounted operation accounted

/-- A read that is passed through is transparent exactly if it does not panic, or no operation that
is to be marked delivers a failure anyway. -/
theorem transparent_readThenMark_iff {operations : List Nat} {process : HostProcess}
    (fresh : process.recorded = false) (idle : process.pending = none) :
    Transparent base False operations process (readThenMark bridge base operations process) ↔
      ∀ panic, base process.lives = .error panic →
        ∀ operation ∈ operations, process.Lost operation := by
  have gives := gives_readThenMark bridge base operations process
  constructor
  · intro transparent panic panics operation marked
    have made : runLive base process = (.error panic, (runLive base process).2) :=
      Prod.ext panics rfl
    have stays : (readThenMark bridge base operations process).2 = (runLive base process).2 := by
      unfold readThenMark
      rw [Fallible.bind_error made]
    have accounted := transparent.lost operation marked
    rw [stays] at accounted
    rcases accounted with recorded | lost | pending
    · exact absurd recorded (by simp [runLive, fresh])
    · exact lost
    · exact absurd pending (by simp [runLive, idle])
  · intro covered
    refine ⟨False.elim, fun _ => ⟨gives.lives, gives.value⟩, fun operation marked => ?_⟩
    cases called : base process.lives with
    | error panic => exact gives.accounted operation (.inr (.inl (covered panic called _ marked)))
    | ok read => exact .inr (.inl (lost_readThenMark bridge base called operation marked))

variable (active : Bool) (registry : ActiveOperations)

/-- The operations that a read belongs to: that of the goroutine, or every active operation when the
reader does not support the read.  A reader that is not active is not healthy, and an operation is
marked when its World is closed and an adapter is not healthy; a read of no bytes is no
interaction. -/
def readOwners (process : HostProcess) : List Nat :=
  if active = false ∨ output = [] then []
  else
    match registry.current process with
    | none => registry.snapshot process
    | some operation =>
        if automaticRandomValueBytes < output.length then registry.snapshot process
        else [operation]

/-- The reader passes the read through although it belongs to an operation. -/
def ReadUnsupported (process : HostProcess) : Prop :=
  ∀ operation, registry.current process = some operation →
    automaticRandomValueBytes < output.length ∨ codec.request output.length = none

/-- The engine answers a read with a replay. -/
def replaysRead (process : HostProcess) : Prop :=
  active = true ∧ output ≠ [] ∧ ∃ operation request, registry.current process = some operation ∧
    output.length ≤ automaticRandomValueBytes ∧ codec.request output.length = some request ∧
    replaysRandom bridge operation request process

/-- The operation of the goroutine is one of the active operations. -/
theorem ActiveOperations.current_mem {registry : ActiveOperations} {process : HostProcess}
    {operation : Nat} (current : registry.current process = some operation) :
    operation ∈ registry.snapshot process := by
  rw [ActiveOperations.current, Option.filter_eq_some_iff] at current
  rw [ActiveOperations.snapshot, List.mem_filter]
  exact ⟨registry.registered operation (List.mem_of_getLast? current.1), current.2⟩

/-- A read is transparent exactly if the reader supports it, or it does not panic, or the operations
it belongs to deliver no failure anyway. -/
theorem transparent_read_iff (process : HostProcess) (fresh : process.recorded = false)
    (idle : process.pending = none) :
    Transparent base (replaysRead bridge codec output active registry process)
        (readOwners output active registry process) process
        (read bridge codec automaticCapture base output active registry process) ↔
      (ReadUnsupported codec output registry process →
        ∀ panic, base process.lives = .error panic →
          ∀ operation ∈ readOwners output active registry process, process.Lost operation) := by
  have evaluated : read bridge codec automaticCapture base output active registry process =
      (if active = false ∨ registry.snapshot process = [] ∨ output = [] then runLive base
      else
        match registry.current process with
        | none => readThenMark bridge base (registry.snapshot process)
        | some operation =>
            if automaticRandomValueBytes < output.length then
              readThenMark bridge base (registry.snapshot process)
            else readAutomaticRandom bridge codec automaticCapture base output operation)
      process := rfl
  have passes := gives_runLive base process
  rw [evaluated]
  by_cases outside : active = false ∨ output = []
  · have unowned : readOwners output active registry process = [] := by
      rw [readOwners, if_pos outside]
    have captures : ¬ replaysRead bridge codec output active registry process := by
      rintro ⟨on, inhabited, _⟩
      rcases outside with off | empty
      · rw [on] at off
        cases off
      · exact inhabited empty
    have guarded : active = false ∨ registry.snapshot process = [] ∨ output = [] :=
      outside.imp id .inr
    rw [if_pos guarded, unowned]
    refine ⟨fun _ _ _ _ _ listed => absurd listed List.not_mem_nil, fun _ => ?_⟩
    exact ⟨fun held => absurd held captures, fun _ => ⟨passes.lives, passes.value⟩,
      fun _ listed => absurd listed List.not_mem_nil⟩
  · obtain ⟨on, inhabited⟩ := not_or.mp outside
    have on : active = true := by simpa using on
    -- The reader of an active operation is asked; the cases are those of its own checks.
    by_cases empty : registry.snapshot process = []
    · have alone : registry.current process = none := by
        cases current : registry.current process with
        | none => rfl
        | some operation =>
            have member := ActiveOperations.current_mem current
            rw [empty] at member
            exact absurd member List.not_mem_nil
      have unowned : readOwners output active registry process = [] := by
        rw [readOwners, if_neg outside, alone]
        exact empty
      rw [if_pos (.inr (.inl empty)), unowned]
      refine ⟨fun _ _ _ _ _ listed => absurd listed List.not_mem_nil, fun _ => ?_⟩
      refine ⟨fun ⟨_, _, operation, _, current, _⟩ => ?_,
        fun _ => ⟨passes.lives, passes.value⟩, fun _ listed => absurd listed List.not_mem_nil⟩
      rw [alone] at current
      cases current
    · have guarded : ¬ (active = false ∨ registry.snapshot process = [] ∨ output = []) := by
        simp [on, empty, inhabited]
      have marks : ∀ operations, readOwners output active registry process = operations →
          ¬ replaysRead bridge codec output active registry process →
          ReadUnsupported codec output registry process →
          (Transparent base (replaysRead bridge codec output active registry process)
              (readOwners output active registry process) process
              (readThenMark bridge base operations process) ↔
            (ReadUnsupported codec output registry process →
              ∀ panic, base process.lives = .error panic →
                ∀ operation ∈ readOwners output active registry process,
                  process.Lost operation)) := by
        intro operations owners captures unsupported
        rw [owners, eq_false captures, transparent_readThenMark_iff bridge base fresh idle]
        exact ⟨fun covered _ => covered, fun covered => covered unsupported⟩
      rw [if_neg guarded]
      cases current : registry.current process with
      | none =>
          refine marks _ ?_ ?_ ?_
          · rw [readOwners, if_neg outside, current]
          · rintro ⟨_, _, operation, _, found, _⟩
            rw [current] at found
            cases found
          · intro operation found
            rw [current] at found
            cases found
      | some operation =>
          dsimp only
          by_cases long : automaticRandomValueBytes < output.length
          · rw [if_pos long]
            refine marks _ ?_ ?_ fun _ _ => .inl long
            · rw [readOwners, if_neg outside, current]
              exact if_pos long
            · rintro ⟨_, _, _, _, _, short, _⟩
              exact absurd long (Nat.not_lt.mpr short)
          · rw [if_neg long]
            have owners : readOwners output active registry process = [operation] := by
              rw [readOwners, if_neg outside, current]
              exact if_neg long
            cases encoded : codec.request output.length with
            | none =>
                have passed : readAutomaticRandom bridge codec automaticCapture base output
                    operation = readThenMark bridge base [operation] := by
                  rw [readAutomaticRandom, encoded]
                rw [passed]
                refine marks _ owners ?_ fun _ _ => .inr encoded
                rintro ⟨_, _, _, _, _, _, found, _⟩
                rw [encoded] at found
                cases found
            | some request =>
                have observed := transparent_readAutomaticRandom bridge codec automaticCapture base
                  output operation encoded process
                have replaying : replaysRead bridge codec output active registry process ↔
                    replaysRandom bridge operation request process := by
                  constructor
                  · rintro ⟨_, _, other, found, same, _, written, replays⟩
                    rw [current] at same
                    rw [encoded] at written
                    cases same
                    cases written
                    exact replays
                  · intro replays
                    exact ⟨on, inhabited, operation, request, current, Nat.not_lt.mp long, encoded,
                      replays⟩
                rw [owners, propext replaying]
                refine ⟨fun _ unsupported => ?_, fun _ => observed⟩
                rcases unsupported operation current with tooLong | unwritten
                · exact absurd tooLong long
                · rw [encoded] at unwritten
                  cases unwritten

end Transparent
end Go
end Native
end Wrappers
end ReproItSdk
