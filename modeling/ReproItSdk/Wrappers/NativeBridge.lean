import ReproItSdk.Core.Model
import ReproItSdk.Library.Chunks
import ReproItSdk.Library.Fallible

/-! # One interaction over the native bridge

The wrappers of the Go and the .NET SDK reach the engine through a bridge that refuses answers that
are not well formed.  A refused call costs the operation, or leaves an observation that the engine
was not told the end of; the engine does not deliver a failure of an operation with such an
observation.  A live function may panic or throw, and a wrapper that defers a call makes it then as
well.

The state counts the calls of the engine and of the live function, so that what they answer is a
function of the position of the call.

Main definitions:

- Structure {lit}`SdkEngineBridge`: what the engine answers, call by call.
- Structure {lit}`Transparent`: what a wrapper owes to the application and to the operations.
-/

namespace ReproItSdk
namespace Wrappers
namespace Native

/-! ## Records -/

/-- {lit}`sdkEngineMaxCallBytes`. -/
def sdkEngineMaxCallBytes : Nat :=
  1048576

/-- {lit}`sdkEngineMaxSemanticDependencyRecordBytes`. -/
def sdkEngineMaxSemanticDependencyRecordBytes : Nat :=
  65536

/-- {lit}`semanticDependencyMetadata`; a string of Go is a sequence of bytes. -/
structure DependencyMetadata where
  name : Bytes
  value : Bytes
deriving DecidableEq, Repr

/-- {lit}`sdkEngineDependencyRequest`. -/
structure SdkEngineDependencyRequest where
  encoding : Bytes
  metadata : List DependencyMetadata
  method : Option Bytes
  observationClass : Bytes
  operation : Bytes
  payload : Bytes
  protocol : Bytes
  target : Bytes
deriving DecidableEq, Repr

/-- {lit}`sdkEngineDependencyResponse`. -/
structure SdkEngineDependencyResponse where
  errorCode : Option Bytes
  errorNumber : Option Nat
  metadata : List DependencyMetadata
  outcome : String
  payload : Option Bytes
  status : Option Bytes
  statusCode : Option Nat
deriving DecidableEq, Repr

/-! ## The engine and the process -/

/-- What the engine answers to the call at each position; without an answer the call fails. -/
structure SdkEngineBridge where
  openDependency : Nat → SdkEngineDependencyRequest → Option String
  finishDependency : Nat → Option SdkEngineDependencyResponse → Option String
  openObservation : Nat → Bool
  writeObservation : Nat → Bytes → Bool
  dispatchObservation : Nat → Option String
  readObservation : Nat → Option (Bytes × Bool)
  finishObservation : Nat → String → Bool
  markOperationUnowned : Nat → Bool

/-- The actions that the bridge lets through. -/
inductive ObservationAction where
  | capture
  | replay
deriving DecidableEq, Repr

/-- The action of an answer. -/
def ObservationAction.parse (answer : String) : Option ObservationAction :=
  if answer = "capture" then some .capture
  else if answer = "replay" then some .replay
  else none

/-- {lit}`AutomaticOperation`: whether it is neither finished nor its World complete, and whether
the engine has marked it. -/
structure AutomaticOperation where
  active : Bool
  unowned : Bool
deriving DecidableEq, Repr

/-- {lit}`observationSessionState`. -/
inductive ObservationSessionState where
  | request
  | capture
  | replay
  | replayEof
  | finished
deriving DecidableEq, Repr

/-- {lit}`observationSession`. -/
structure ObservationSession where
  state : ObservationSessionState := .request
  requestBytes : Nat := 0
  responseBytes : Nat := 0
deriving DecidableEq, Repr

/-- {lit}`automaticHTTPCaptureBody` without its source and its response. -/
structure AutomaticHttpCaptureBody where
  operation : Nat
  body : Bytes := []
  terminal : Bool := false
deriving DecidableEq, Repr

/-- The process during one interaction.  An observation is pending from when it is opened until the
engine has accepted its end, and then the interaction is recorded. -/
structure HostProcess where
  calls : Nat
  lives : Nat
  operations : Nat → AutomaticOperation
  pending : Option Nat
  recorded : Bool
  session : ObservationSession
  streams : Nat
  body : Option AutomaticHttpCaptureBody

/-- Code of a wrapper: it changes the process and may panic. -/
abbrev NativeM (ε α : Type) : Type :=
  Fallible HostProcess ε α

namespace HostProcess

/-- A process before an interaction. -/
def start (calls lives streams : Nat) (operations : Nat → AutomaticOperation) : HostProcess where
  calls := calls
  lives := lives
  operations := operations
  pending := none
  recorded := false
  session := {}
  streams := streams
  body := none

/-- The process after a call of the engine. -/
def asked (process : HostProcess) : HostProcess :=
  { process with calls := process.calls + 1 }

/-- {lit}`abandonLocked`. -/
def abandoned (operation : Nat) (process : HostProcess) : HostProcess :=
  if (process.operations operation).active then
    { process.asked with
      operations := Function.update process.operations operation
        { process.operations operation with active := false } }
  else process

/-- {lit}`markUnowned`: an operation that cannot be marked is given up. -/
def markedUnowned (bridge : SdkEngineBridge) (operation : Nat) (process : HostProcess) : HostProcess :=
  if (process.operations operation).active then
    if bridge.markOperationUnowned process.calls then
      { process.asked with
        operations := Function.update process.operations operation
          { process.operations operation with unowned := true } }
    else process.asked.abandoned operation
  else process

/-- {lit}`abandonLocked` of a session. -/
def sessionAbandoned (process : HostProcess) : HostProcess :=
  if process.session.state = .finished then process
  else { process.asked with session := { process.session with state := .finished } }

/-- The engine was told the end of the observation. -/
def finished (process : HostProcess) : HostProcess :=
  { process with pending := none, recorded := true }

/-- The operation was given up or marked. -/
def Lost (process : HostProcess) (operation : Nat) : Prop :=
  (process.operations operation).active = false ∨ (process.operations operation).unowned = true

/-- The interaction was recorded, or the engine delivers no failure of the operation. -/
def Accounted (process : HostProcess) (operation : Nat) : Prop :=
  process.recorded = true ∨ process.Lost operation ∨ process.pending = some operation

end HostProcess

/-! ## Calls of the engine -/

section Calls

variable {ε : Type} (bridge : SdkEngineBridge)

/-- Run a live function. -/
def runLive {α : Type} (live : Nat → Except ε α) : NativeM ε α :=
  fun process => (live process.lives, { process with lives := process.lives + 1 })

/-- {lit}`markUnowned`. -/
def markUnowned (operation : Nat) : NativeM ε Unit :=
  Fallible.modify (HostProcess.markedUnowned bridge operation)

/-- {lit}`abandonObservation`: whatever the engine answers, the observation has no end. -/
def abandonObservation : NativeM ε Unit :=
  Fallible.modify HostProcess.asked

/-- {lit}`openSemanticDependency`. -/
def openSemanticDependency (operation : Nat) (request : SdkEngineDependencyRequest) :
    NativeM ε (Option ObservationAction) :=
  fun process =>
    if (process.operations operation).active then
      match (bridge.openDependency process.calls request).bind ObservationAction.parse with
      | none => (.ok none, process.asked.abandoned operation)
      | some action => (.ok (some action), { process.asked with pending := some operation })
    else (.ok none, process)

/-- {lit}`finishDependency` of the bridge. -/
def finishDependency (response : Option SdkEngineDependencyResponse) : NativeM ε (Option String) :=
  fun process =>
    match bridge.finishDependency process.calls response with
    | none => (.ok none, process.asked)
    | some outcome =>
        if outcome = "error" ∨ outcome = "response" then
          (.ok (some outcome), process.asked.finished)
        else (.ok none, process.asked)

/-- {lit}`readSDKEngineDependencyResponse` after some reads. -/
def readDependencyFrom (record : Bytes) (process : HostProcess) :
    Except ε (Option Bytes) × HostProcess :=
  match bridge.readObservation process.calls with
  | none => (.ok none, process.asked)
  | some (chunk, eof) =>
      if _ : (eof = false ∧ chunk.length = 0) ∨
          sdkEngineMaxSemanticDependencyRecordBytes - record.length < chunk.length then
        (.ok none, process.asked)
      else if _ : eof = true then
        (.ok (if record ++ chunk = [] then none else some (record ++ chunk)), process.asked)
      else readDependencyFrom (record ++ chunk) process.asked
termination_by sdkEngineMaxSemanticDependencyRecordBytes - record.length
decreasing_by
  rename_i accepted continues
  rw [not_or, not_and] at accepted
  have grows := accepted.1 (Bool.eq_false_of_not_eq_true continues)
  have := Nat.le_of_not_lt accepted.2
  rw [List.length_append]
  omega

/-- {lit}`readSDKEngineDependencyResponse`. -/
def readSdkEngineDependencyResponse : NativeM ε (Option Bytes) :=
  readDependencyFrom bridge []

/-- A call that gives its observation up unless it finished it. -/
def deferAbandon {α : Type} (call : NativeM ε (α × Bool)) : NativeM ε α := do
  let returned ← Fallible.onError call abandonObservation
  if returned.2 then pure returned.1
  else do
    abandonObservation
    pure returned.1

end Calls

/-! ## What the calls keep -/

/-- The live function did not run, and what is lost or accounted for stays so. -/
structure Keeps (before after : HostProcess) : Prop where
  lives : after.lives = before.lives
  lost : ∀ operation, before.Lost operation → after.Lost operation
  accounted : ∀ operation, before.Accounted operation → after.Accounted operation

instance : IsPreorder HostProcess Keeps where
  refl _ := ⟨rfl, fun _ => id, fun _ => id⟩
  trans _ _ _ first second :=
    ⟨second.lives.trans first.lives, fun operation => second.lost operation ∘ first.lost operation,
      fun operation => second.accounted operation ∘ first.accounted operation⟩

section Kept

variable {ε : Type} (bridge : SdkEngineBridge)

/-- A change that loses no operation and keeps the observation. -/
theorem Keeps.of_lost {before after : HostProcess} (lives : after.lives = before.lives)
    (lost : ∀ operation, before.Lost operation → after.Lost operation)
    (recorded : after.recorded = before.recorded) (pending : after.pending = before.pending) :
    Keeps before after := by
  refine ⟨lives, lost, ?_⟩
  intro operation accounted
  rcases accounted with known | gone | opened
  · exact .inl (recorded.trans known)
  · exact .inr (.inl (lost operation gone))
  · exact .inr (.inr (pending.trans opened))

/-- A call of the engine keeps the process. -/
theorem keeps_asked (process : HostProcess) : Keeps process process.asked :=
  .of_lost rfl (fun _ => id) rfl rfl

/-- An operation that is changed so that it is lost loses no other. -/
theorem lost_update {process : HostProcess} {operation : Nat} {changed : AutomaticOperation}
    (lost : changed.active = false ∨ changed.unowned = true) {other : Nat}
    (before : process.Lost other) :
    (Function.update process.operations operation changed other).active = false ∨
      (Function.update process.operations operation changed other).unowned = true := by
  by_cases same : other = operation
  · subst same
    simpa using lost
  · simpa [Function.update_of_ne same, HostProcess.Lost] using before

/-- Giving an operation up keeps the process. -/
theorem keeps_abandoned (operation : Nat) (process : HostProcess) :
    Keeps process (process.abandoned operation) := by
  unfold HostProcess.abandoned
  split
  · exact .of_lost rfl (fun _ => lost_update (.inl rfl)) rfl rfl
  · exact refl_of Keeps process

/-- An operation that was given up is lost. -/
theorem lost_abandoned (operation : Nat) (process : HostProcess) :
    (process.abandoned operation).Lost operation := by
  unfold HostProcess.abandoned
  split
  · exact .inl (by simp)
  · rename_i inactive
    exact .inl (Bool.eq_false_of_not_eq_true inactive)

/-- Marking an operation keeps the process. -/
theorem keeps_markedUnowned (operation : Nat) (process : HostProcess) :
    Keeps process (process.markedUnowned bridge operation) := by
  unfold HostProcess.markedUnowned
  split
  · split
    · exact .of_lost rfl (fun _ => lost_update (.inr rfl)) rfl rfl
    · exact trans_of Keeps (keeps_asked process) (keeps_abandoned operation _)
  · exact refl_of Keeps process

/-- An operation is lost once it was to be marked. -/
theorem lost_markedUnowned (operation : Nat) (process : HostProcess) :
    (process.markedUnowned bridge operation).Lost operation := by
  unfold HostProcess.markedUnowned
  split
  · split
    · exact .inr (by simp)
    · exact lost_abandoned operation _
  · rename_i inactive
    exact .inl (Bool.eq_false_of_not_eq_true inactive)

/-- An end that the engine accepted keeps the process. -/
theorem keeps_finished (process : HostProcess) : Keeps process process.finished :=
  ⟨rfl, fun _ => id, fun _ _ => .inl rfl⟩

/-- Marking an operation keeps the process. -/
theorem keeps_markUnowned (operation : Nat) :
    Fallible.Relates Keeps (markUnowned bridge operation : NativeM ε _) :=
  Fallible.Relates.modify (keeps_markedUnowned bridge operation)

/-- Finishing a dependency keeps the process. -/
theorem keeps_finishDependency (response : Option SdkEngineDependencyResponse) :
    Fallible.Relates Keeps (finishDependency bridge response : NativeM ε _) := by
  intro process
  unfold finishDependency
  split
  · exact keeps_asked process
  · split
    · exact trans_of Keeps (keeps_asked process) (keeps_finished _)
    · exact keeps_asked process

/-- Finishing a dependency does not panic. -/
theorem returns_finishDependency (response : Option SdkEngineDependencyResponse) :
    Fallible.Returns (finishDependency bridge response : NativeM ε _) := by
  intro process
  unfold finishDependency
  split
  · exact ⟨_, _, rfl⟩
  · split <;> exact ⟨_, _, rfl⟩

/-- Reading a recorded dependency keeps the process. -/
theorem keeps_readDependencyFrom (record : Bytes) (process : HostProcess) :
    Keeps process (readDependencyFrom (ε := ε) bridge record process).2 := by
  fun_induction readDependencyFrom (ε := ε) bridge record process with
  | case1 record process failed => exact keeps_asked process
  | case2 record process chunk eof read refused => exact keeps_asked process
  | case3 record process chunk read refused => exact keeps_asked process
  | case4 record process chunk eof read refused ended ih =>
      exact trans_of Keeps (keeps_asked process) ih

/-- Opening a dependency keeps the live function and the lost operations; either the operation is
lost or its observation is pending. -/
theorem openSemanticDependency_spec (operation : Nat) (request : SdkEngineDependencyRequest)
    (process : HostProcess) :
    ∃ answer next, openSemanticDependency (ε := ε) bridge operation request process =
        (.ok answer, next) ∧
      next.lives = process.lives ∧ (∀ other, process.Lost other → next.Lost other) ∧
      (answer = none → Keeps process next ∧ next.Lost operation) ∧
      (answer.isSome = true → next.pending = some operation) ∧
      (answer = some .replay ↔ (process.operations operation).active = true ∧
        (bridge.openDependency process.calls request).bind ObservationAction.parse =
          some .replay) := by
  unfold openSemanticDependency
  by_cases active : (process.operations operation).active = true
  · rw [if_pos active]
    cases opened : (bridge.openDependency process.calls request).bind ObservationAction.parse with
    | none =>
        have kept : Keeps process (process.asked.abandoned operation) :=
          trans_of Keeps (keeps_asked process) (keeps_abandoned operation _)
        refine ⟨none, _, rfl, kept.lives, kept.lost, fun _ => ⟨kept, lost_abandoned operation _⟩,
          by simp, by simp⟩
    | some action =>
        exact ⟨some action, _, rfl, rfl, fun _ => id, by simp, fun _ => rfl, by simp [active]⟩
  · rw [if_neg active]
    exact ⟨none, process, rfl, rfl, fun _ => id, fun _ => ⟨refl_of Keeps process,
      .inl (Bool.eq_false_of_not_eq_true active)⟩, by simp, by simp [active]⟩

/-- A deferred call keeps what the call left. -/
theorem keeps_deferAbandon {α : Type} (call : NativeM ε (α × Bool)) (process : HostProcess) :
    Keeps (call process).2 (deferAbandon call process).2 := by
  simp only [deferAbandon, bind, Fallible.bind, Fallible.onError]
  rcases call process with ⟨panic | ⟨value, finished⟩, next⟩
  · exact keeps_asked next
  · cases finished with
    | false => exact keeps_asked next
    | true => exact refl_of Keeps next

/-- A deferred call returns what the call does. -/
theorem deferAbandon_fst {α : Type} (call : NativeM ε (α × Bool)) (process : HostProcess) :
    (deferAbandon call process).1 = (call process).1.map Prod.fst := by
  simp only [deferAbandon, bind, Fallible.bind, Fallible.onError]
  rcases call process with ⟨panic | ⟨value, finished⟩, next⟩
  · rfl
  · cases finished <;> rfl

end Kept

/-! ## Transparency -/

/-- What a wrapper owes to the application and to the operations of the interaction. -/
structure Transparent {ε α : Type} (live : Nat → Except ε α) (replays : Prop) (owners : List Nat)
    (before : HostProcess) (result : Except ε α × HostProcess) : Prop where
  replayed : replays → result.2.lives = before.lives
  ran : ¬ replays → result.2.lives = before.lives + 1 ∧ result.1 = live before.lives
  lost : ∀ operation ∈ owners, result.2.Accounted operation

/-- The live function ran once, the application sees what it did, and what is lost or accounted for
stays so. -/
structure Gives {ε α : Type} (live : Nat → Except ε α) (before : HostProcess)
    (result : Except ε α × HostProcess) : Prop where
  lives : result.2.lives = before.lives + 1
  value : result.1 = live before.lives
  lost : ∀ operation, before.Lost operation → result.2.Lost operation
  accounted : ∀ operation, before.Accounted operation → result.2.Accounted operation

section Gives

variable {ε α : Type} {live : Nat → Except ε α}

/-- A call that is passed through. -/
theorem gives_runLive (live : Nat → Except ε α) (process : HostProcess) :
    Gives live process (runLive live process) :=
  ⟨rfl, rfl, fun _ => id, fun _ => id⟩

/-- Some calls of the engine come first. -/
theorem Keeps.then_gives {before middle : HostProcess} {result : Except ε α × HostProcess}
    (keeps : Keeps before middle) (gives : Gives live middle result) :
    Gives live before result where
  lives := by rw [gives.lives, keeps.lives]
  value := by rw [gives.value, keeps.lives]
  lost operation := gives.lost operation ∘ keeps.lost operation
  accounted operation := gives.accounted operation ∘ keeps.accounted operation

/-- Some calls of the engine follow. -/
theorem Gives.then_keeps {before after : HostProcess} {result : Except ε α × HostProcess}
    (gives : Gives live before result) (keeps : Keeps result.2 after) :
    Gives live before (result.1, after) where
  lives := by rw [← gives.lives, keeps.lives]
  value := gives.value
  lost operation := keeps.lost operation ∘ gives.lost operation
  accounted operation := keeps.accounted operation ∘ gives.accounted operation

/-- What follows a live call, whose value is then returned, gives the application the value. -/
theorem gives_followed (live : Nat → Except ε α) {follow : α → NativeM ε Unit}
    (keeps : ∀ value, Fallible.Relates Keeps (follow value))
    (returns : ∀ value, Fallible.Returns (follow value)) (process : HostProcess) :
    Gives live process ((do
      let value ← runLive live
      follow value
      pure value : NativeM ε α) process) := by
  have ran := gives_runLive live process
  cases called : live process.lives with
  | error panic =>
      have made : runLive live process = (.error panic, (runLive live process).2) :=
        Prod.ext called rfl
      rw [Fallible.bind_error made]
      exact ⟨ran.lives, called.symm, ran.lost, ran.accounted⟩
  | ok value =>
      have made : runLive live process = (.ok value, (runLive live process).2) :=
        Prod.ext called rfl
      have kept := keeps value (runLive live process).2
      obtain ⟨_, next, followed⟩ := returns value (runLive live process).2
      rw [Fallible.bind_ok made, Fallible.bind_ok followed]
      rw [followed] at kept
      have gives := ran.then_keeps kept
      exact ⟨gives.lives, called.symm, gives.lost, gives.accounted⟩

end Gives
end Native
end Wrappers
end ReproItSdk
