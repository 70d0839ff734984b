import ReproItSdk.Wrappers.NativeBridge

/-! # Dependency calls of a .NET application

{lit}`SemanticDependencyTranslator.Translate` wraps a call of a dependency.  The live function
returns a response, with an error that is thrown again, or throws itself.  A call whose request
cannot be built is passed through, but its operation is neither marked nor abandoned.

Main results:

- Theorem {lit}`transparent_translateBuilt`: a call whose request is built is transparent.
- Theorem {lit}`transparent_translate_iff`: when a call is transparent.
-/

namespace ReproItSdk
namespace Wrappers
namespace Native
namespace DotNet

/-! ## Records -/

/-- {lit}`SdkEngineBridge.MaxCallBytes`. -/
def maxCallBytes : Nat :=
  1048576

/-- {lit}`SemanticDependencyRequest` over the strings of .NET; the class is absent where its value
has no name. -/
structure SemanticDependencyRequest (τ : Type) where
  encoding : τ
  metadata : List DependencyMetadata
  method : Option Bytes
  observationClass : Option Bytes
  operation : τ
  payload : Bytes
  protocol : τ
  target : τ

/-- {lit}`SemanticDependencyResponse`. -/
structure SemanticDependencyResponse where
  errorCode : Option Bytes
  errorNumber : Option Nat
  metadata : List DependencyMetadata
  outcome : String
  payload : Option Bytes
  status : Option Bytes
  statusCode : Option Nat
deriving DecidableEq, Repr

/-- The loop of {lit}`CheckedBytes`: a sum of 32-bit integers that may overflow. -/
def checkedBytesFrom : Nat → List Nat → Option Nat
  | result, [] => some result
  | result, value :: values =>
      if 2147483647 < result + value then none else checkedBytesFrom (result + value) values

/-- {lit}`CheckedBytes`. -/
def checkedBytes (values : List Nat) : Option Nat :=
  checkedBytesFrom 0 values

section Encoding

variable {τ : Type} (strictUtf8 : τ → Option Bytes) (encodeBase64Url : Bytes → Bytes)

/-- The loop of {lit}`MakeMetadata` after some fields. -/
def makeMetadataFrom : Nat → List DependencyMetadata → Option (List DependencyMetadata)
  | _, [] => some []
  | rawBytes, field :: metadata =>
      match checkedBytes [rawBytes, field.name.length, field.value.length] with
      | none => none
      | some rawBytes =>
          if maxCallBytes < rawBytes then none
          else
            (makeMetadataFrom rawBytes metadata).map
              ({ name := encodeBase64Url field.name, value := encodeBase64Url field.value } :: ·)

/-- {lit}`MakeMetadata`. -/
def makeMetadata (metadata : List DependencyMetadata) : Option (List DependencyMetadata) :=
  if maxCallBytes < metadata.length then none else makeMetadataFrom encodeBase64Url 0 metadata

/-- {lit}`MakeRequest`; without a result it throws. -/
def makeRequest (request : SemanticDependencyRequest τ) : Option SdkEngineDependencyRequest := do
  let encoding ← strictUtf8 request.encoding
  let operation ← strictUtf8 request.operation
  let protocol ← strictUtf8 request.protocol
  let target ← strictUtf8 request.target
  let rawBytes ← checkedBytes
    [encoding.length, request.payload.length, operation.length, protocol.length, target.length]
  let metadata ← if maxCallBytes < rawBytes then none
    else makeMetadata encodeBase64Url request.metadata
  let observationClass ← request.observationClass
  pure
    { encoding := encoding
      metadata := metadata
      method := request.method
      observationClass := observationClass
      operation := operation
      payload := encodeBase64Url request.payload
      protocol := protocol
      target := encodeBase64Url target }

/-- {lit}`MakeResponse`; without a result it throws. -/
def makeResponse (response : SemanticDependencyResponse) : Option SdkEngineDependencyResponse :=
  if maxCallBytes < (response.payload.getD []).length then none
  else
    (makeMetadata encodeBase64Url response.metadata).map fun metadata =>
      { errorCode := response.errorCode
        errorNumber := response.errorNumber
        metadata := metadata
        outcome := response.outcome
        payload := response.payload.map encodeBase64Url
        status := response.status
        statusCode := response.statusCode }

end Encoding

/-! ## The translator -/

section Translate

variable {τ ε : Type} (bridge : SdkEngineBridge) (strictUtf8 : τ → Option Bytes)
  (encodeBase64Url : Bytes → Bytes)
  (reconstructResponse : Bytes → String → Option SemanticDependencyResponse) (captureError : ε)
  (live : Nat → Except ε (SemanticDependencyResponse × Option ε))

/-- {lit}`ReturnLive`: throw the error of a result again. -/
def returnLive : SemanticDependencyResponse × Option ε → Except ε SemanticDependencyResponse
  | (_, some error) => .error error
  | (response, none) => .ok response

/-- What the application sees of the live function. -/
def seenLive (live : Nat → Except ε (SemanticDependencyResponse × Option ε)) (position : Nat) :
    Except ε SemanticDependencyResponse :=
  (live position).bind returnLive

/-- A live call that is passed through. -/
def passLive : NativeM ε SemanticDependencyResponse := do
  let result ← runLive live
  Fallible.ofExcept (returnLive result)

/-- Tell the engine the response of a live call; whether it accepted it. -/
def finishCapture (response : SemanticDependencyResponse) : NativeM ε Bool :=
  match makeResponse encodeBase64Url response with
  | none => pure false
  | some responseInput => do
      let outcome ← finishDependency bridge (some responseInput)
      pure outcome.isSome

/-- The capture of {lit}`Translate`: what {lit}`ReturnLive` makes of the result, and whether the
dependency is finished. -/
def translateCapture : NativeM ε (Except ε SemanticDependencyResponse × Bool) := do
  let result ← runLive live
  let finished ← finishCapture bridge encodeBase64Url result.1
  pure (returnLive result, finished)

/-- The replay of {lit}`Translate`. -/
def translateReplay : NativeM ε (Except ε SemanticDependencyResponse × Bool) := do
  let record ← readSdkEngineDependencyResponse bridge
  match record with
  | none => pure (.error captureError, false)
  | some record => do
      let validatedOutcome ← finishDependency bridge none
      match validatedOutcome.bind (reconstructResponse record) with
      | none => pure (.error captureError, false)
      | some response => pure (.ok response, true)

/-- The last block of {lit}`Translate`, which abandons what is not finished. -/
def translateFinally (call : NativeM ε (Except ε SemanticDependencyResponse × Bool)) :
    NativeM ε SemanticDependencyResponse := do
  let outcome ← deferAbandon call
  Fallible.ofExcept outcome

/-- {lit}`Translate` once the request is built. -/
def translateBuilt (operation : Nat) (requestInput : SdkEngineDependencyRequest) :
    NativeM ε SemanticDependencyResponse := do
  let connection ← openSemanticDependency bridge operation requestInput
  match connection with
  | none => passLive live
  | some .capture => translateFinally (translateCapture bridge encodeBase64Url live)
  | some .replay => translateFinally (translateReplay bridge reconstructResponse captureError)

/-- {lit}`Translate`. -/
def translate (operation : Nat) (request : SemanticDependencyRequest τ) :
    NativeM ε SemanticDependencyResponse :=
  match makeRequest strictUtf8 encodeBase64Url request with
  | none => passLive live
  | some requestInput =>
      translateBuilt bridge encodeBase64Url reconstructResponse captureError live operation
        requestInput

/-- Telling the engine a response keeps the process. -/
theorem keeps_finishCapture (response : SemanticDependencyResponse) :
    Fallible.Relates Keeps (finishCapture bridge encodeBase64Url response : NativeM ε _) := by
  unfold finishCapture
  split
  · exact Fallible.Relates.pure _
  · exact Fallible.Relates.bind (keeps_finishDependency bridge _) fun _ => Fallible.Relates.pure _

/-- Telling the engine a response throws nothing. -/
theorem returns_finishCapture (response : SemanticDependencyResponse) :
    Fallible.Returns (finishCapture bridge encodeBase64Url response : NativeM ε _) := by
  unfold finishCapture
  split
  · exact Fallible.Returns.pure _
  · exact Fallible.Returns.bind (returns_finishDependency bridge _)
      fun _ => Fallible.Returns.pure _

/-- A replay keeps the process. -/
theorem keeps_translateReplay :
    Fallible.Relates Keeps (translateReplay (ε := ε) bridge reconstructResponse captureError) := by
  have reads : Fallible.Relates Keeps (readSdkEngineDependencyResponse bridge : NativeM ε _) :=
    fun process => keeps_readDependencyFrom bridge [] process
  refine Fallible.Relates.bind reads fun record => ?_
  cases record with
  | none => exact Fallible.Relates.pure _
  | some record =>
      refine Fallible.Relates.bind (keeps_finishDependency bridge _) fun outcome => ?_
      split <;> exact Fallible.Relates.pure _

/-- The last block keeps what the call left. -/
theorem keeps_translateFinally (call : NativeM ε (Except ε SemanticDependencyResponse × Bool))
    (process : HostProcess) : Keeps (call process).2 (translateFinally call process).2 := by
  have kept := keeps_deferAbandon call process
  unfold translateFinally
  rcases deferred : deferAbandon call process with ⟨error | outcome, next⟩
  · rw [Fallible.bind_error deferred]
    rwa [deferred] at kept
  · rw [Fallible.bind_ok deferred]
    rwa [deferred] at kept

/-- A live call that is passed through gives the application what it sees. -/
theorem gives_passLive (process : HostProcess) :
    Gives (seenLive live) process (passLive live process) := by
  unfold passLive
  cases called : live process.lives with
  | error error =>
      have made : runLive live process = (.error error, (runLive live process).2) :=
        Prod.ext called rfl
      rw [Fallible.bind_error made]
      exact ⟨rfl, by rw [seenLive, called]; rfl, fun _ => id, fun _ => id⟩
  | ok result =>
      have made : runLive live process = (.ok result, (runLive live process).2) :=
        Prod.ext called rfl
      rw [Fallible.bind_ok made]
      exact ⟨rfl, by rw [seenLive, called]; rfl, fun _ => id, fun _ => id⟩

/-- A capture gives the application what it sees of the live function. -/
theorem gives_translateCapture (process : HostProcess) :
    Gives (seenLive live) process
      (translateFinally (translateCapture bridge encodeBase64Url live) process) := by
  have kept := keeps_translateFinally (translateCapture bridge encodeBase64Url live) process
  have value := deferAbandon_fst (translateCapture bridge encodeBase64Url live) process
  have ran := gives_runLive live process
  cases called : live process.lives with
  | error error =>
      have made : translateCapture bridge encodeBase64Url live process =
          (.error error, (runLive live process).2) :=
        Fallible.bind_error (Prod.ext called rfl)
      rw [made] at kept value
      have gives := ran.then_keeps kept
      have thrown : (translateFinally (translateCapture bridge encodeBase64Url live) process).1 =
          .error error := by
        unfold translateFinally
        rw [Fallible.bind_error (Prod.ext value rfl)]
      exact ⟨gives.lives, by rw [thrown, seenLive, called]; rfl, gives.lost, gives.accounted⟩
  | ok result =>
      obtain ⟨finished, next, told⟩ := returns_finishCapture bridge encodeBase64Url result.1
        (runLive live process).2
      have made : translateCapture bridge encodeBase64Url live process =
          (.ok (returnLive result, finished), next) := by
        have returned : runLive live process = (.ok result, (runLive live process).2) :=
          Prod.ext called rfl
        unfold translateCapture
        rw [Fallible.bind_ok returned, Fallible.bind_ok told]
        rfl
      have keeps := keeps_finishCapture (ε := ε) bridge encodeBase64Url result.1
        (runLive live process).2
      rw [told] at keeps
      rw [made] at kept value
      have gives := ran.then_keeps (trans_of Keeps keeps kept)
      have returned : (translateFinally (translateCapture bridge encodeBase64Url live) process).1 =
          returnLive result := by
        unfold translateFinally
        rw [Fallible.bind_ok (Prod.ext value rfl)]
        rfl
      exact ⟨gives.lives, by rw [returned, seenLive, called]; rfl, gives.lost, gives.accounted⟩

/-- The engine answers a call with a replay. -/
def replaysTranslate (operation : Nat) (request : Option SdkEngineDependencyRequest)
    (process : HostProcess) : Prop :=
  ∃ requestInput, request = some requestInput ∧ (process.operations operation).active = true ∧
    (bridge.openDependency process.calls requestInput).bind ObservationAction.parse = some .replay

/-- A call whose request is built is transparent. -/
theorem transparent_translateBuilt (operation : Nat) (requestInput : SdkEngineDependencyRequest)
    (process : HostProcess) :
    Transparent (seenLive live) (replaysTranslate bridge operation (some requestInput) process)
      [operation] process
      (translateBuilt bridge encodeBase64Url reconstructResponse captureError live operation
        requestInput process) := by
  obtain ⟨answer, next, opened, lives, _, refused, pending, replays⟩ :=
    openSemanticDependency_spec (ε := ε) bridge operation requestInput process
  have replaying : replaysTranslate bridge operation (some requestInput) process ↔
      answer = some .replay := by
    rw [replays]
    exact ⟨fun ⟨_, same, held⟩ => by cases same; exact held, fun held => ⟨_, rfl, held⟩⟩
  have accounted : next.Accounted operation := by
    cases answer with
    | none => exact .inr (.inl (refused rfl).2)
    | some action => exact .inr (.inr (pending rfl))
  unfold translateBuilt
  rw [Fallible.bind_ok opened]
  rcases answer with _ | _ | _
  · have gives := gives_passLive live next
    refine ⟨fun held => by simp [replaying] at held, fun _ => ?_, ?_⟩
    · exact ⟨by rw [gives.lives, lives], by rw [gives.value, lives]⟩
    · simpa using gives.accounted operation accounted
  · have gives := gives_translateCapture bridge encodeBase64Url live next
    refine ⟨fun held => by simp [replaying] at held, fun _ => ?_, ?_⟩
    · exact ⟨by rw [gives.lives, lives], by rw [gives.value, lives]⟩
    · simpa using gives.accounted operation accounted
  · have kept := trans_of Keeps
      (keeps_translateReplay bridge reconstructResponse captureError next)
      (keeps_translateFinally (translateReplay (ε := ε) bridge reconstructResponse captureError)
        next)
    refine ⟨fun _ => by rw [kept.lives, lives], fun other => ?_, ?_⟩
    · exact absurd (replaying.mpr rfl) other
    · simpa using kept.accounted operation accounted

/-- A call is transparent exactly if its request can be built or its operation delivers no failure
anyway. -/
theorem transparent_translate_iff (operation : Nat) (request : SemanticDependencyRequest τ)
    (process : HostProcess) (fresh : process.recorded = false) (idle : process.pending = none) :
    Transparent (seenLive live)
        (replaysTranslate bridge operation (makeRequest strictUtf8 encodeBase64Url request)
          process)
        [operation] process
        (translate bridge strictUtf8 encodeBase64Url reconstructResponse captureError live operation
          request process) ↔
      (makeRequest strictUtf8 encodeBase64Url request).isSome = true ∨ process.Lost operation := by
  unfold translate
  cases built : makeRequest strictUtf8 encodeBase64Url request with
  | some requestInput =>
      simp only [Option.isSome_some, true_or, iff_true]
      exact transparent_translateBuilt bridge encodeBase64Url reconstructResponse captureError live
        operation requestInput process
  | none =>
      have gives := gives_passLive live process
      have stays : (passLive live process).2 = (runLive live process).2 := by
        unfold passLive
        rcases called : runLive live process with ⟨error | result, next⟩
        · rw [Fallible.bind_error called]
        · rw [Fallible.bind_ok called]
          rfl
      constructor
      · intro transparent
        have accounted := transparent.lost operation (List.mem_singleton_self operation)
        dsimp only at accounted
        rw [stays] at accounted
        rcases accounted with recorded | lost | pending
        · exact absurd recorded (by simp [runLive, fresh])
        · exact .inr lost
        · exact absurd pending (by simp [runLive, idle])
      · rintro (impossible | lost)
        · cases impossible
        · have captures : ¬ replaysTranslate bridge operation none process :=
            fun ⟨_, same, _⟩ => by cases same
          refine ⟨fun held => absurd held captures, fun _ => ⟨gives.lives, gives.value⟩, ?_⟩
          simpa using gives.accounted operation (.inr (.inl lost))

end Translate
end DotNet
end Native
end Wrappers
end ReproItSdk
