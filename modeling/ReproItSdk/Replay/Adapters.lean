import ReproItSdk.Wrappers.Observation

/-! # Hooked calls during a capture and during a replay

The adapters of the Python SDK hook the calls of an application.  An observed call runs its
original function under a guard against calls that the SDK makes itself; a call of a URL or of a
database runs its live function without one.  The live function is a program, which may make hooked
calls of its own.  The engine records each exchange under its class and its position in the class,
or answers a request from a recording.

Main definitions:

- Structure {lit}`Run`: the operation context with what the engine keeps for it.
- Structures {lit}`ObservationCall` and {lit}`DependencyCall`: the hooked calls.
- Functions {lit}`observe` and {lit}`executeDependency`: the adapters.
- Inductive {lit}`Program` and function {lit}`Program.run`: what applications and live functions do.
-/

namespace ReproItSdk
namespace Replay

open Fallible Wrappers

/-! ## The engine -/

/-- A request and its response, as the engine records them. -/
structure Exchange where
  observationClass : AutomaticObservationClass
  position : Nat
  request : Bytes
  response : Bytes
  outcome : DependencyOutcome
deriving DecidableEq, Repr

/-- The exchange of a class at a position. -/
def recordedAt (recording : List Exchange) (observationClass : AutomaticObservationClass)
    (position : Nat) : Option Exchange :=
  recording.find? fun exchange =>
    decide (exchange.observationClass = observationClass ∧ exchange.position = position)

/-- An engine that captures accepts some calls, by their position among the calls; one that replays
answers from a recording. -/
inductive Mode where
  | capture (accepts : Nat → Bool)
  | replay (recording : List Exchange)

/-- Whether the engine accepts the call at a position. -/
def Mode.accepts : Mode → Nat → Bool
  | .capture accepts, position => accepts position
  | .replay _, _ => true

/-- The operation context of a run, the guard of the adapters and the state of the engine: the
sessions in the order in which they were opened, with their requests, and the exchanges. -/
structure Run where
  active : Bool
  reentrant : Bool
  unowned : Bool
  outside : Nat
  calls : Nat
  sessions : List (AutomaticObservationClass × Bytes)
  records : List Exchange

namespace Run

/-- An operation that begins. -/
def start : Run where
  active := true
  reentrant := false
  unowned := false
  outside := 0
  calls := 0
  sessions := []
  records := []

/-- The requests of the sessions of a class, in order. -/
def requests (run : Run) (observationClass : AutomaticObservationClass) : List Bytes :=
  (run.sessions.filter fun session => decide (session.1 = observationClass)).map (·.2)

/-- The run after a call of the engine. -/
def called (run : Run) : Run :=
  { run with calls := run.calls + 1 }

/-- {lit}`OperationContext._abandon`: give the operation up. -/
def abandoned (run : Run) : Run :=
  { run with active := false }

/-- The run after a session of a class was opened for a request. -/
def opened (run : Run) (observationClass : AutomaticObservationClass) (request : Bytes) : Run :=
  { run with sessions := run.sessions ++ [(observationClass, request)] }

/-- The run after an exchange was recorded. -/
def recorded (run : Run) (exchange : Exchange) : Run :=
  { run with records := run.records ++ [exchange] }

/-- An operation that was captured without a loss. -/
def Complete (run : Run) : Prop :=
  run.active = true ∧ run.unowned = false

end Run

/-- Adapter code: it changes the run and may raise. -/
abbrev RunM (ε α : Type) : Type :=
  Fallible Run ε α

section Calls

variable {ε : Type} (mode : Mode)

/-- A call of the engine: what it changes, or the operation is given up. -/
def engineCall (change : Run → Run) : RunM ε Bool :=
  fun run =>
    if run.active = true ∧ mode.accepts run.calls = true then (.ok true, change run.called)
    else (.ok false, run.called.abandoned)

/-- {lit}`OperationContext._open_observation`: the position of a new session, if there is one.  The
positions of a class count its sessions. -/
def openObservation (observationClass : AutomaticObservationClass) (request : Bytes) :
    RunM ε (Option Nat) := do
  let active ← gets Run.active
  if active then do
    let position ← gets fun run => (run.requests observationClass).length
    let opened ← engineCall mode fun run => run.opened observationClass request
    pure (if opened then some position else none)
  else pure none

/-- What the engine does about a request. -/
inductive Action where
  | capture
  | replay (exchange : Exchange)

/-- {lit}`dispatch_observation`: a replay takes the exchange of the class and the position if it
has the same request. -/
def dispatch (observationClass : AutomaticObservationClass) (position : Nat) (request : Bytes) :
    RunM ε (Option Action) := do
  let dispatched ← engineCall mode id
  if dispatched then
    match mode with
    | .capture _ => pure (some .capture)
    | .replay recording =>
        match recordedAt recording observationClass position with
        | none => do
            modify Run.abandoned
            pure none
        | some exchange =>
            if exchange.request = request then pure (some (.replay exchange))
            else do
              modify Run.abandoned
              pure none
  else pure none

/-- Finish a captured session: the exchange is recorded. -/
def finishCaptured (exchange : Exchange) : RunM ε Bool :=
  engineCall mode fun run => run.recorded exchange

/-- Finish a replayed session, which must have the recorded outcome. -/
def finishReplayed (exchange : Exchange) (outcome : DependencyOutcome) : RunM ε Bool :=
  if outcome = exchange.outcome then engineCall mode id
  else do
    modify Run.abandoned
    pure false

/-- Mark the operation as one that has an observation without an owner. -/
def markUnowned : RunM ε Unit := do
  let active ← gets Run.active
  if active then do
    let _ ← engineCall mode fun run => { run with unowned := true }
    pure ()
  else pure ()

end Calls

/-! ## Observed calls -/

/-- One observed call: its class, its request and its encodings. -/
structure ObservationCall (ε α : Type) extends ObservationCodec ε α where
  observationClass : AutomaticObservationClass
  request : Bytes
  invalidRecord : ε

section Observe

variable {ε α : Type} (mode : Mode) (call : ObservationCall ε α)

/-- What {lit}`_capture` records of an outcome, if anything. -/
def ObservationCall.recorded : Except ε α → Option (Bytes × DependencyOutcome)
  | .ok value => (call.encode value).map fun bytes => (call.response (.value bytes), .response)
  | .error error =>
      match call.kind error with
      | .key =>
          if call.missingKey.isSome then some (call.response .missing, .response)
          else some (call.response (.error error), .error)
      | .exception => some (call.response (.error error), .error)
      | .exiting => none

/-- {lit}`_read_response`: a response of at most six reads within the bound. -/
def readObserved (response : Bytes) : Option Bytes :=
  if response.length ≤ maxResponseReads * maxObservationResponseReadBytes ∧
      response.length ≤ maxResponseBytes then
    some response
  else none

/-- What {lit}`_replay` makes of a response: an outcome for the application and one for the
engine. -/
def ObservationCall.restored (response : Bytes) : Option (Except ε α × DependencyOutcome) :=
  (readObserved response).bind fun bytes =>
    (call.parse bytes).bind fun parsed =>
      match parsed with
      | .error code number => some (.error (call.recordedException code number), .error)
      | .value value =>
          match value, call.missingKey with
          | none, some missing => some (.error missing, .response)
          | _, _ => (call.decode value).map fun decoded => (.ok decoded, .response)

/-- Write a response chunk by chunk, until a chunk is not written. -/
def writeChunks : List Bytes → RunM ε Bool
  | [] => pure true
  | _ :: chunks => do
      let written ← engineCall mode id
      if written then writeChunks chunks else pure false

/-- {lit}`_record_response`. -/
def recordResponse (exchange : Exchange) : RunM ε Unit := do
  let written ← writeChunks mode (Chunks.chunks maxObservationChunkBytes exchange.response)
  if written then do
    let _ ← finishCaptured mode exchange
    pure ()
  else pure ()

/-- {lit}`_capture`. -/
def captureObservation (original : RunM ε α) (position : Nat) : RunM ε α := do
  let outcome ← attempt original
  match call.recorded outcome with
  | none => do
      modify Run.abandoned
      ofExcept outcome
  | some (response, kind) => do
      recordResponse mode ⟨call.observationClass, position, call.request, response, kind⟩
      ofExcept outcome

/-- {lit}`_replay`. -/
def replayObservation (exchange : Exchange) : RunM ε α :=
  match call.restored exchange.response with
  | none => do
      modify Run.abandoned
      fail call.invalidRecord
  | some (outcome, kind) => do
      let finished ← finishReplayed mode exchange kind
      if finished then ofExcept outcome else fail call.invalidRecord

/-- {lit}`_observe_active` once a session is open. -/
def observeOpened (original : RunM ε α) (position : Nat) : RunM ε α := do
  let written ← engineCall mode id
  if written then do
    let action ← dispatch mode call.observationClass position call.request
    match action with
    | none => original
    | some .capture => captureObservation mode call original position
    | some (.replay exchange) => replayObservation mode call exchange
  else original

/-- {lit}`_observe_active`. -/
def observeActive (original : RunM ε α) : RunM ε α := do
  let position ← openObservation mode call.observationClass call.request
  match position with
  | none => original
  | some position => observeOpened mode call original position

/-- Set the guard of the adapters, and reset it however the computation ends. -/
def guarded (computation : RunM ε α) : RunM ε α :=
  fun run =>
    let (outcome, after) := computation { run with reentrant := true }
    (outcome, { after with reentrant := run.reentrant })

/-- {lit}`_observe`. -/
def observe (original : RunM ε α) : RunM ε α := do
  let active ← gets Run.active
  let reentrant ← gets Run.reentrant
  if active = true ∧ reentrant = false then guarded (observeActive mode call original)
  else original

end Observe

/-! ## Calls of dependencies -/

/-- One call of a URL or of a database: its request, if it has one, its encodings, its record and
what becomes of a replayed response. -/
structure DependencyCall (ε α : Type) extends LiveEncoding ε α where
  observationClass : AutomaticObservationClass
  request : Option Bytes
  record : DependencyResponse → Option (Bytes × DependencyOutcome)
  responseFromRecord : Bytes → DependencyOutcome → Option DependencyResponse
  rebuild : DependencyResponse → Except ε α
  invalidReplay : ε

/-- What {lit}`_execute_dependency` learns: the outcome of the live function, the response of a
replay, or that there is none. -/
inductive Driven (ε α : Type) where
  | live (outcome : Except ε α)
  | replayed (response : DependencyResponse)
  | invalid

section Dependency

variable {ε α : Type} (mode : Mode) (call : DependencyCall ε α)

/-- The response of a live call, if {lit}`capture` returns one. -/
def DependencyCall.encoded : Except ε α → Option DependencyResponse
  | .ok value => call.encode value
  | .error error => call.encodeError error

/-- {lit}`capture` inside {lit}`_execute_dependency`: an error without an encoding marks the
operation. -/
def captureLive (live : RunM ε α) : RunM ε (Except ε α × Option DependencyResponse) := do
  let outcome ← attempt live
  match outcome, call.encoded outcome with
  | .error error, none => do
      markUnowned mode
      pure (.error error, none)
  | outcome, response => pure (outcome, response)

/-- {lit}`_capture_dependency`. -/
def captureDependency (live : RunM ε α) (position : Nat) (request : Bytes) :
    RunM ε (Driven ε α) := do
  let (outcome, response) ← captureLive mode call live
  match response.bind call.record with
  | none => do
      modify Run.abandoned
      pure (.live outcome)
  | some (record, kind) => do
      let _ ← finishCaptured mode ⟨call.observationClass, position, request, record, kind⟩
      pure (.live outcome)

/-- The callback without a session. -/
def passDependency (live : RunM ε α) : RunM ε (Driven ε α) := do
  let (outcome, _) ← captureLive mode call live
  pure (.live outcome)

/-- {lit}`_read_response`: a record within the bound. -/
def readRecord (record : Bytes) : Option Bytes :=
  if record ≠ [] ∧ record.length ≤ maxSemanticDependencyRecordBytes then some record else none

/-- {lit}`_replay_dependency`. -/
def replayDependency (exchange : Exchange) : RunM ε (Driven ε α) :=
  match readRecord exchange.response with
  | none => do
      modify Run.abandoned
      pure .invalid
  | some record => do
      let finished ← finishReplayed mode exchange exchange.outcome
      match finished, call.responseFromRecord record exchange.outcome with
      | true, some response => pure (.replayed response)
      | _, _ => do
          modify Run.abandoned
          pure .invalid

/-- {lit}`OperationContext._open_dependency`: a session with its request. -/
def openDependency (request : Bytes) : RunM ε (Option (Nat × Action)) := do
  let position ← openObservation mode call.observationClass request
  match position with
  | none => pure none
  | some position => do
      let action ← dispatch mode call.observationClass position request
      pure (action.map fun action => (position, action))

/-- {lit}`_run_dependency` inside an operation. -/
def runDependency (live : RunM ε α) : RunM ε (Driven ε α) :=
  match call.request with
  | none => do
      modify Run.abandoned
      passDependency mode call live
  | some request => do
      let session ← openDependency mode call request
      match session with
      | none => passDependency mode call live
      | some (position, .capture) => captureDependency mode call live position request
      | some (_, .replay exchange) => replayDependency mode call exchange

/-- {lit}`_execute_dependency`. -/
def executeDependency (live : RunM ε α) : RunM ε α := do
  let driven ← runDependency mode call live
  match driven with
  | .live outcome => ofExcept outcome
  | .replayed response => ofExcept (call.rebuild response)
  | .invalid => fail call.invalidReplay

end Dependency

/-! ## Programs -/

/-- A hooked call. -/
inductive HookedCall (ε α : Type) where
  | observation (call : ObservationCall ε α)
  | dependency (call : DependencyCall ε α)

/-- What an application or a live function does: it ends, it makes a call that no adapter hooks, or
it makes a hooked call with an original or live function. -/
inductive Program (ε α : Type) where
  | finish (outcome : Except ε α)
  | outside (next : Except ε α → Program ε α)
  | hooked (call : HookedCall ε α) (live : Program ε α) (next : Except ε α → Program ε α)

/-- The engine of a run, and what the calls that no adapter hooks answer. -/
structure Surroundings (ε α : Type) where
  mode : Mode
  answers : Nat → Except ε α

section Programs

variable {ε α : Type}

/-- The adapter of a hooked call. -/
def HookedCall.run (mode : Mode) (call : HookedCall ε α) (live : RunM ε α) : RunM ε α :=
  match call with
  | .observation call => observe mode call live
  | .dependency call => executeDependency mode call live

/-- A call that no adapter hooks. -/
def askOutside (surroundings : Surroundings ε α) : RunM ε (Except ε α) :=
  fun run => (.ok (surroundings.answers run.outside), { run with outside := run.outside + 1 })

/-- The run of a program. -/
def Program.run (surroundings : Surroundings ε α) : Program ε α → RunM ε α
  | .finish outcome => ofExcept outcome
  | .outside next => do
      let answer ← askOutside surroundings
      (next answer).run surroundings
  | .hooked call live next => do
      let outcome ← attempt (call.run surroundings.mode (live.run surroundings))
      (next outcome).run surroundings

/-- An application makes hooked calls of a given kind, and no others. -/
def Program.Over (calls : HookedCall ε α → Program ε α → Prop) : Program ε α → Prop
  | .finish _ => True
  | .outside _ => False
  | .hooked call live next => calls call live ∧ ∀ outcome, (next outcome).Over calls

/-- The capture of a program. -/
def captured (accepts : Nat → Bool) (answers : Nat → Except ε α) (program : Program ε α) :
    Except ε α × Run :=
  program.run ⟨.capture accepts, answers⟩ Run.start

/-- The replay of a program against a recording. -/
def replayed (recording : List Exchange) (answers : Nat → Except ε α) (program : Program ε α) :
    Except ε α × Run :=
  program.run ⟨.replay recording, answers⟩ Run.start

end Programs
end Replay
end ReproItSdk
