import ReproItSdk.Wrappers.NativeBridge

/-! # Dependency calls of a Go application

{lit}`translateSemanticDependency` wraps a call of a dependency.  It asks the engine whether to
capture or to replay, and runs the live function once or not at all.  A call whose request cannot be
encoded is passed through, but its operation is not marked.

Main results:

- Theorem {lit}`transparent_translateEncoded`: a call whose request is encoded is transparent.
- Theorem {lit}`transparent_translate_iff`: when a call is transparent.
-/

namespace ReproItSdk
namespace Wrappers
namespace Native
namespace Go

/-! ## Records -/

/-- {lit}`semanticDependencyRequest`. -/
structure SemanticDependencyRequest where
  encoding : Bytes
  metadata : List DependencyMetadata
  method : Option Bytes
  observationClass : Bytes
  operation : Bytes
  payload : Bytes
  protocol : Bytes
  target : Bytes
deriving DecidableEq, Repr

/-- {lit}`semanticDependencyResponse`. -/
structure SemanticDependencyResponse where
  errorCode : Option Bytes := none
  errorNumber : Option Nat := none
  metadata : List DependencyMetadata := []
  outcome : String := ""
  payload : Bytes := []
  hasPayload : Bool := false
  status : Option Bytes := none
  statusCode : Option Nat := none
deriving DecidableEq, Repr

/-- {lit}`boundedDependencyBytes` after some values. -/
def boundedDependencyBytesFrom : Nat → List Nat → Bool
  | _, [] => true
  | total, value :: values =>
      if sdkEngineMaxCallBytes - total < value then false
      else boundedDependencyBytesFrom (total + value) values

/-- {lit}`boundedDependencyBytes`. -/
def boundedDependencyBytes (values : List Nat) : Bool :=
  boundedDependencyBytesFrom 0 values

section Encoding

variable (encodeBase64url : Bytes → Bytes)

/-- The loop of {lit}`makeSDKEngineDependencyMetadata` after some fields. -/
def makeMetadataFrom :
    Nat → List DependencyMetadata → Option (List DependencyMetadata)
  | _, [] => some []
  | totalBytes, field :: metadata =>
      if sdkEngineMaxCallBytes - totalBytes < field.name.length then none
      else
        let totalBytes := totalBytes + field.name.length
        if sdkEngineMaxCallBytes - totalBytes < field.value.length then none
        else
          (makeMetadataFrom (totalBytes + field.value.length) metadata).map
            ({ name := encodeBase64url field.name, value := encodeBase64url field.value } :: ·)

/-- {lit}`makeSDKEngineDependencyMetadata`. -/
def makeSdkEngineDependencyMetadata (metadata : List DependencyMetadata) :
    Option (List DependencyMetadata) :=
  if sdkEngineMaxCallBytes < metadata.length then none
  else makeMetadataFrom encodeBase64url 0 metadata

/-- {lit}`makeSDKEngineDependencyRequest`. -/
def makeSdkEngineDependencyRequest (request : SemanticDependencyRequest) :
    Option SdkEngineDependencyRequest :=
  match makeSdkEngineDependencyMetadata encodeBase64url request.metadata with
  | none => none
  | some metadata =>
      if boundedDependencyBytes [request.encoding.length, request.operation.length,
          request.payload.length, request.protocol.length, request.target.length] then
        some
          { encoding := request.encoding
            metadata := metadata
            method := request.method
            observationClass := request.observationClass
            operation := request.operation
            payload := encodeBase64url request.payload
            protocol := request.protocol
            target := encodeBase64url request.target }
      else none

/-- {lit}`makeSDKEngineDependencyResponse`. -/
def makeSdkEngineDependencyResponse (response : SemanticDependencyResponse) :
    Option SdkEngineDependencyResponse :=
  match makeSdkEngineDependencyMetadata encodeBase64url response.metadata with
  | none => none
  | some metadata =>
      if boundedDependencyBytes [response.payload.length] then
        some
          { errorCode := response.errorCode
            errorNumber := response.errorNumber
            metadata := metadata
            outcome := response.outcome
            payload := if response.hasPayload then some (encodeBase64url response.payload) else none
            status := response.status
            statusCode := response.statusCode }
      else none

end Encoding

/-! ## Dependency calls -/

section Translate

variable {ε η : Type} (bridge : SdkEngineBridge) (encodeBase64url : Bytes → Bytes)
  (reconstruct : Bytes → String → Option SemanticDependencyResponse) (automaticCapture : η)
  (live : Nat → Except ε (SemanticDependencyResponse × Option η))

/-- Tell the engine the response of a live call; whether it accepted it. -/
def finishCapture (response : SemanticDependencyResponse) : NativeM ε Bool :=
  match makeSdkEngineDependencyResponse encodeBase64url response with
  | none => pure false
  | some responseInput => do
      let outcome ← finishDependency bridge (some responseInput)
      pure outcome.isSome

/-- What {lit}`translateSemanticDependency` does with the response of a live call. -/
def finishTranslated (operation : Nat) (returned : SemanticDependencyResponse × Option η) :
    NativeM ε ((SemanticDependencyResponse × Option η) × Bool) := do
  let finished ← finishCapture bridge encodeBase64url returned.1
  if finished then pure (returned, true)
  else do
    markUnowned bridge operation
    pure (returned, false)

/-- The capture of {lit}`translateSemanticDependency`. -/
def translateCapture (operation : Nat) :
    NativeM ε ((SemanticDependencyResponse × Option η) × Bool) := do
  let returned ← runLive live
  finishTranslated bridge encodeBase64url operation returned

/-- The replay of {lit}`translateSemanticDependency`. -/
def translateReplay : NativeM ε ((SemanticDependencyResponse × Option η) × Bool) := do
  let record ← readSdkEngineDependencyResponse bridge
  match record with
  | none => pure (({}, some automaticCapture), false)
  | some record => do
      let outcome ← finishDependency bridge none
      match outcome.bind (reconstruct record) with
      | none => pure (({}, some automaticCapture), false)
      | some response => pure ((response, none), true)

/-- {lit}`translateSemanticDependency` once the request is encoded. -/
def translateEncoded (operation : Nat) (requestInput : SdkEngineDependencyRequest) :
    NativeM ε (SemanticDependencyResponse × Option η) := do
  let started ← openSemanticDependency bridge operation requestInput
  match started with
  | none => runLive live
  | some .capture => deferAbandon (translateCapture bridge encodeBase64url live operation)
  | some .replay => deferAbandon (translateReplay bridge reconstruct automaticCapture)

/-- {lit}`translateSemanticDependency`. -/
def translateSemanticDependency (operation : Nat) (request : SemanticDependencyRequest) :
    NativeM ε (SemanticDependencyResponse × Option η) :=
  match makeSdkEngineDependencyRequest encodeBase64url request with
  | none => runLive live
  | some requestInput =>
      translateEncoded bridge encodeBase64url reconstruct automaticCapture live operation
        requestInput

/-- The engine answers a dependency call with a replay. -/
def replaysDependency (operation : Nat) (request : Option SdkEngineDependencyRequest)
    (process : HostProcess) : Prop :=
  ∃ requestInput, request = some requestInput ∧ (process.operations operation).active = true ∧
    (bridge.openDependency process.calls requestInput).bind ObservationAction.parse = some .replay

/-- Telling the engine a response keeps the process. -/
theorem keeps_finishCapture (response : SemanticDependencyResponse) :
    Fallible.Relates Keeps (finishCapture bridge encodeBase64url response : NativeM ε _) := by
  unfold finishCapture
  split
  · exact Fallible.Relates.pure _
  · exact Fallible.Relates.bind (keeps_finishDependency bridge _) fun _ => Fallible.Relates.pure _

/-- What follows a live call keeps the process. -/
theorem keeps_finishTranslated (operation : Nat)
    (returned : SemanticDependencyResponse × Option η) :
    Fallible.Relates Keeps
      (finishTranslated bridge encodeBase64url operation returned : NativeM ε _) := by
  refine Fallible.Relates.bind (keeps_finishCapture bridge encodeBase64url _) fun finished => ?_
  split
  · exact Fallible.Relates.pure _
  · exact Fallible.Relates.bind (keeps_markUnowned bridge operation)
      fun _ => Fallible.Relates.pure _

/-- Telling the engine a response does not panic. -/
theorem returns_finishCapture (response : SemanticDependencyResponse) :
    Fallible.Returns (finishCapture bridge encodeBase64url response : NativeM ε _) := by
  unfold finishCapture
  split
  · exact Fallible.Returns.pure _
  · exact Fallible.Returns.bind (returns_finishDependency bridge _)
      fun _ => Fallible.Returns.pure _

/-- What follows a live call returns what it did. -/
theorem finishTranslated_fst (operation : Nat)
    (returned : SemanticDependencyResponse × Option η) (process : HostProcess) :
    ((finishTranslated bridge encodeBase64url operation returned : NativeM ε _) process).1.map
      Prod.fst = .ok returned := by
  obtain ⟨finished, next, made⟩ := returns_finishCapture (ε := ε) bridge encodeBase64url returned.1
    process
  unfold finishTranslated
  rw [Fallible.bind_ok made]
  cases finished <;> rfl

/-- A replay keeps the process. -/
theorem keeps_translateReplay :
    Fallible.Relates Keeps (translateReplay (ε := ε) bridge reconstruct automaticCapture) := by
  have reads : Fallible.Relates Keeps (readSdkEngineDependencyResponse bridge : NativeM ε _) :=
    fun process => keeps_readDependencyFrom bridge [] process
  refine Fallible.Relates.bind reads fun record => ?_
  cases record with
  | none => exact Fallible.Relates.pure _
  | some record =>
      refine Fallible.Relates.bind (keeps_finishDependency bridge _) fun outcome => ?_
      split <;> exact Fallible.Relates.pure _

/-- A capture gives the application what the live function did. -/
theorem gives_translateCapture (operation : Nat) (process : HostProcess) :
    Gives live process
      (deferAbandon (translateCapture bridge encodeBase64url live operation) process) := by
  have kept := keeps_deferAbandon (translateCapture bridge encodeBase64url live operation) process
  have value := deferAbandon_fst (translateCapture bridge encodeBase64url live operation) process
  have ran := gives_runLive live process
  cases called : live process.lives with
  | error panic =>
      have made : translateCapture bridge encodeBase64url live operation process =
          (.error panic, (runLive live process).2) :=
        Fallible.bind_error (Prod.ext called rfl)
      rw [made] at kept value
      have gives := ran.then_keeps kept
      refine ⟨gives.lives, ?_, gives.lost, gives.accounted⟩
      rw [value, called]
      rfl
  | ok returned =>
      have made : translateCapture bridge encodeBase64url live operation process =
          finishTranslated bridge encodeBase64url operation returned (runLive live process).2 :=
        Fallible.bind_ok (Prod.ext called rfl)
      rw [made] at kept value
      have gives := ran.then_keeps (trans_of Keeps
        (keeps_finishTranslated bridge encodeBase64url operation returned _) kept)
      refine ⟨gives.lives, ?_, gives.lost, gives.accounted⟩
      rw [value, finishTranslated_fst, called]

/-- A call whose request is encoded is transparent. -/
theorem transparent_translateEncoded (operation : Nat) (requestInput : SdkEngineDependencyRequest)
    (process : HostProcess) :
    Transparent live (replaysDependency bridge operation (some requestInput) process) [operation]
      process (translateEncoded bridge encodeBase64url reconstruct automaticCapture live operation
        requestInput process) := by
  obtain ⟨answer, next, opened, lives, _, refused, pending, replays⟩ :=
    openSemanticDependency_spec (ε := ε) bridge operation requestInput process
  have replaying : replaysDependency bridge operation (some requestInput) process ↔
      answer = some .replay := by
    rw [replays]
    exact ⟨fun ⟨_, same, held⟩ => by cases same; exact held, fun held => ⟨_, rfl, held⟩⟩
  have accounted : next.Accounted operation := by
    cases answer with
    | none => exact .inr (.inl (refused rfl).2)
    | some action => exact .inr (.inr (pending rfl))
  unfold translateEncoded
  rw [Fallible.bind_ok opened]
  rcases answer with _ | _ | _
  · have gives := (refused rfl).1.then_gives (gives_runLive live next)
    refine ⟨fun held => by simp [replaying] at held, fun _ => ⟨gives.lives, gives.value⟩, ?_⟩
    simpa using (gives_runLive live next).accounted operation accounted
  · have gives := gives_translateCapture bridge encodeBase64url live operation next
    refine ⟨fun held => by simp [replaying] at held, fun _ => ?_, ?_⟩
    · exact ⟨by rw [gives.lives, lives], by rw [gives.value, lives]⟩
    · simpa using gives.accounted operation accounted
  · have kept := trans_of Keeps (keeps_translateReplay bridge reconstruct automaticCapture next)
      (keeps_deferAbandon (translateReplay (ε := ε) bridge reconstruct automaticCapture) next)
    refine ⟨fun _ => by rw [kept.lives, lives], fun other => ?_, ?_⟩
    · exact absurd (replaying.mpr rfl) other
    · simpa using kept.accounted operation accounted

/-- A dependency call is transparent exactly if its request can be encoded or its operation delivers
no failure anyway. -/
theorem transparent_translate_iff (operation : Nat) (request : SemanticDependencyRequest)
    (process : HostProcess) (fresh : process.recorded = false) (idle : process.pending = none) :
    Transparent live
        (replaysDependency bridge operation
          (makeSdkEngineDependencyRequest encodeBase64url request) process)
        [operation] process
        (translateSemanticDependency bridge encodeBase64url reconstruct automaticCapture live
          operation request process) ↔
      (makeSdkEngineDependencyRequest encodeBase64url request).isSome = true ∨
        process.Lost operation := by
  unfold translateSemanticDependency
  cases encoded : makeSdkEngineDependencyRequest encodeBase64url request with
  | some requestInput =>
      simp only [Option.isSome_some, true_or, iff_true]
      exact transparent_translateEncoded bridge encodeBase64url reconstruct automaticCapture live
        operation requestInput process
  | none =>
      have passed : ¬ replaysDependency bridge operation none process :=
        fun ⟨_, same, _⟩ => by cases same
      constructor
      · intro transparent
        have accounted := transparent.lost operation (List.mem_singleton_self operation)
        rcases accounted with recorded | lost | pending
        · exact absurd recorded (by simp [runLive, fresh])
        · exact .inr lost
        · exact absurd pending (by simp [runLive, idle])
      · rintro (impossible | lost)
        · cases impossible
        · have gives := gives_runLive live process
          refine ⟨fun held => absurd held passed, fun _ => ⟨gives.lives, gives.value⟩, ?_⟩
          simpa using gives.accounted operation (.inr (.inl lost))

end Translate
end Go
end Native
end Wrappers
end ReproItSdk
