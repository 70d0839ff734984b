import ReproItSdk.Wrappers.GoRandom

/-! # Round trips of a Go application

{lit}`automaticHTTPTransport` wraps the transport of the default client.  A round trip that the
transport does not support marks its operation before the live call.  The body of a captured
response is wrapped as well: what the application reads of it is recorded at its end.

Main results:

- Theorem {lit}`transparent_roundTrip`: a round trip is transparent.
- Theorem {lit}`useBodies_spec`: the body of a response is read as it is, and stays accounted for.
- Theorem {lit}`go_wrappers_transparent_iff`: when the wrappers of the Go SDK are transparent.
-/

namespace ReproItSdk
namespace Wrappers
namespace Native
namespace Go

/-! ## Round trips -/

/-- {lit}`automaticHTTPBodyBytes`. -/
def automaticHttpBodyBytes : Nat :=
  16384

/-- {lit}`automaticHTTPStreams`. -/
def automaticHttpStreams : Nat :=
  512

/-- The body of a response. -/
inductive HttpBody where
  | absent
  | noBody
  | stream
deriving DecidableEq, Repr

/-- What the transport reads of a request and of its responses: {lit}`makeAutomaticHTTPRequest` of
the request, {lit}`makeAutomaticHTTPResponseRecord`, the errors of a context and what a replay makes
of a record. -/
structure HttpCodec (ρ η : Type) where
  request : Option SemanticDependencyRequest
  body : ρ → HttpBody
  contentLength : ρ → Int
  trailers : ρ → Nat
  record : ρ → Bytes → String → Option SemanticDependencyResponse
  contextError : η → Option Nat
  reconstruct : Bytes → String → Option SemanticDependencyResponse
  reconstructResponse : SemanticDependencyResponse → Except η ρ

/-- The context of a request: whether it has ended, and the operations that it and its parents are
bound to. -/
structure RequestContext where
  ended : Bool
  bindings : List Nat
deriving DecidableEq, Repr

/-- {lit}`activeAutomaticOperation`. -/
def RequestContext.active (context : RequestContext) (process : HostProcess) : Option Nat :=
  if context.ended then none
  else (context.bindings.take 64).find? fun operation => (process.operations operation).active

section RoundTrip

variable {ε ρ η : Type} (bridge : SdkEngineBridge) (encodeBase64url : Bytes → Bytes)
  (codec : HttpCodec ρ η) (automaticCapture : η) (base : Nat → Except ε (Option ρ × Option η))

/-- {lit}`failAutomaticHTTPCapture`. -/
def failAutomaticHttpCapture (operation : Nat) : NativeM ε Unit := do
  markUnowned bridge operation
  abandonObservation

/-- {lit}`finishAutomaticHTTPCapture`; an unsupported response is absent. -/
def finishAutomaticHttpCapture (operation : Nat) :
    Option SemanticDependencyResponse → NativeM ε Unit
  | none => failAutomaticHttpCapture bridge operation
  | some response => do
      let finished ← finishCapture bridge encodeBase64url response
      if finished then pure () else failAutomaticHttpCapture bridge operation

/-- {lit}`makeAutomaticHTTPResponse`. -/
def makeAutomaticHttpResponse (response : Option ρ) (liveError : Option η) :
    Option SemanticDependencyResponse :=
  match liveError, response with
  | some _, some _ => none
  | some error, none =>
      (codec.contextError error).map fun number =>
        { errorCode := some (asciiBytes "interrupted"), errorNumber := some number
          outcome := "error" }
  | none, none => none
  | none, some response =>
      match codec.body response with
      | .stream => none
      | .noBody => if codec.trailers response ≠ 0 then none else codec.record response [] "no-body"
      | .absent => if codec.trailers response ≠ 0 then none else codec.record response [] "nil"

/-- {lit}`automaticHTTPResponseStreamSupported`. -/
def automaticHttpResponseStreamSupported (response : ρ) : Bool :=
  codec.body response == .stream && decide (-1 ≤ codec.contentLength response) &&
    decide (codec.contentLength response ≤ automaticHttpBodyBytes) &&
    (codec.record response [] "stream").isSome

/-- {lit}`reserveAutomaticHTTPStream`, with the body that the response is given. -/
def reserveAutomaticHttpStream (operation : Nat) : NativeM ε Bool :=
  fun process =>
    if automaticHttpStreams ≤ process.streams then (.ok false, process)
    else
      (.ok true,
        { process with
          streams := process.streams + 1
          body := some { operation := operation } })

/-- Wrap the body of a response, or lose the round trip. -/
def captureStream (operation : Nat) (response : ρ) : NativeM ε Unit :=
  if automaticHttpResponseStreamSupported codec response then do
    let reserved ← reserveAutomaticHttpStream operation
    if reserved then pure () else failAutomaticHttpCapture bridge operation
  else failAutomaticHttpCapture bridge operation

/-- What {lit}`roundTripObserved` does with what the live call returned. -/
def captureRoundTrip (operation : Nat) (returned : Option ρ × Option η) : NativeM ε Unit :=
  match returned with
  | (some response, none) =>
      if codec.body response = .stream then captureStream bridge codec operation response
      else
        finishAutomaticHttpCapture bridge encodeBase64url operation
          (makeAutomaticHttpResponse codec (some response) none)
  | (response, liveError) =>
      finishAutomaticHttpCapture bridge encodeBase64url operation
        (makeAutomaticHttpResponse codec response liveError)

/-- {lit}`replayAutomaticHTTP` without its deferred call. -/
def replayRecorded : NativeM ε ((Option ρ × Option η) × Bool) := do
  let record ← readSdkEngineDependencyResponse bridge
  match record with
  | none => pure ((none, some automaticCapture), false)
  | some record => do
      let outcome ← finishDependency bridge none
      match outcome with
      | none => pure ((none, some automaticCapture), false)
      | some outcome =>
          match codec.reconstruct record outcome with
          | none => pure ((none, some automaticCapture), true)
          | some response =>
              match codec.reconstructResponse response with
              | .error error => pure ((none, some error), true)
              | .ok response => pure ((some response, none), true)

/-- The live call of {lit}`roundTripObserved`. -/
def captureLive (operation : Nat) : NativeM ε (Option ρ × Option η) := do
  let returned ← runLive base
  captureRoundTrip bridge encodeBase64url codec operation returned
  pure returned

/-- A live call of an operation that is marked. -/
def passUnowned (operation : Nat) : NativeM ε (Option ρ × Option η) := do
  markUnowned bridge operation
  runLive base

/-- {lit}`roundTripObserved` once the request is encoded. -/
def roundTripEncoded (operation : Nat) (requestInput : SdkEngineDependencyRequest) :
    NativeM ε (Option ρ × Option η) := do
  let started ← openSemanticDependency bridge operation requestInput
  match started with
  | none => runLive base
  | some .replay => deferAbandon (replayRecorded bridge codec automaticCapture)
  | some .capture => captureLive bridge encodeBase64url codec base operation

/-- {lit}`roundTripObserved`. -/
def roundTripObserved (operation : Nat) (request : SemanticDependencyRequest) :
    NativeM ε (Option ρ × Option η) :=
  match makeSdkEngineDependencyRequest encodeBase64url request with
  | none => passUnowned bridge base operation
  | some requestInput =>
      roundTripEncoded bridge encodeBase64url codec automaticCapture base operation requestInput

/-- {lit}`RoundTrip` inside an active operation. -/
def roundTripActive (operation : Nat) : NativeM ε (Option ρ × Option η) :=
  match codec.request with
  | none => passUnowned bridge base operation
  | some request =>
      roundTripObserved bridge encodeBase64url codec automaticCapture base operation request

/-- {lit}`RoundTrip`; an absent request has no context. -/
def roundTrip (active : Bool) (context : Option RequestContext) : NativeM ε (Option ρ × Option η) := do
  let operation ← Fallible.gets fun process => context.bind (·.active process)
  match active, operation with
  | true, some operation =>
      roundTripActive bridge encodeBase64url codec automaticCapture base operation
  | _, _ => runLive base

end RoundTrip

/-! ## Bodies of responses -/

/-- What the application does with the body of a response. -/
inductive BodyUse where
  | read (capacity : Nat)
  | close
deriving DecidableEq, Repr

/-- The error of a read of a body. -/
inductive BodyError (η : Type) where
  | eof
  | other (error : η)
deriving DecidableEq, Repr

/-- What the source of a body returns, with the bytes it wrote. -/
structure BodyResult (η : Type) where
  bytes : Bytes := []
  count : Int := 0
  error : Option (BodyError η)
deriving DecidableEq, Repr

section Bodies

variable {ε ρ η : Type} (bridge : SdkEngineBridge) (encodeBase64url : Bytes → Bytes)
  (codec : HttpCodec ρ η) (response : ρ)

/-- End the capture of a body; the body unless it has ended before. -/
def takeBody : NativeM ε (Option AutomaticHttpCaptureBody) :=
  fun process =>
    match process.body with
    | none => (.ok none, process)
    | some body =>
        if body.terminal then (.ok none, process)
        else
          (.ok (some body),
            { process with
              streams := process.streams - 1
              body := some { body with terminal := true } })

/-- {lit}`fail`. -/
def failBody : NativeM ε Unit := do
  let body ← takeBody
  match body with
  | none => pure ()
  | some body => failAutomaticHttpCapture bridge body.operation

/-- {lit}`finish`. -/
def finishBody : NativeM ε Unit := do
  let body ← takeBody
  match body with
  | none => pure ()
  | some body =>
      finishAutomaticHttpCapture bridge encodeBase64url body.operation
        (if 0 ≤ codec.contentLength response ∧
            codec.contentLength response ≠ body.body.length then none
        else codec.record response body.body "stream")

/-- {lit}`append`: whether the bytes were kept. -/
def appendBody (value : Bytes) : NativeM ε Bool := do
  let body ← Fallible.gets HostProcess.body
  match body with
  | none => pure false
  | some body =>
      if body.terminal then pure false
      else if automaticHttpBodyBytes - body.body.length < value.length then do
        failBody bridge
        pure false
      else do
        Fallible.modify fun process =>
          { process with body := some { body with body := body.body ++ value } }
        pure true

/-- What follows the error of a read. -/
def endBody : Option (BodyError η) → NativeM ε Unit
  | none => pure ()
  | some .eof => finishBody bridge encodeBase64url codec response
  | some (.other _) => failBody bridge

/-- What follows a use of the source. -/
def followBody (use : BodyUse) (result : BodyResult η) : NativeM ε Unit :=
  match use with
  | .close => failBody bridge
  | .read capacity =>
      if result.count < 0 ∨ (capacity : Int) < result.count then failBody bridge
      else if 0 < result.count then do
        let appended ← appendBody bridge (result.bytes.take result.count.toNat)
        if appended then endBody bridge encodeBase64url codec response result.error else pure ()
      else endBody bridge encodeBase64url codec response result.error

variable (source : Nat → BodyUse → Except ε (BodyResult η))

/-- {lit}`Read` and {lit}`Close` of the body: a panic of the source ends the capture. -/
def useBody (use : BodyUse) : NativeM ε (BodyResult η) := do
  let result ← Fallible.onError (runLive (source · use)) (failBody bridge)
  followBody bridge encodeBase64url codec response use result
  pure result

/-- The application uses the body, whether or not a use panics. -/
def useBodies : List BodyUse → HostProcess → List (Except ε (BodyResult η)) × HostProcess
  | [], process => ([], process)
  | use :: uses, process =>
      let used := useBody bridge encodeBase64url codec response source use process
      let rest := useBodies uses used.2
      (used.1 :: rest.1, rest.2)

/-- What the source returns to the uses from a position on. -/
def sourceResults (source : Nat → BodyUse → Except ε (BodyResult η)) :
    List BodyUse → Nat → List (Except ε (BodyResult η))
  | [], _ => []
  | use :: uses, position => source position use :: sourceResults source uses (position + 1)

end Bodies

/-! ## What the parts keep -/

section Kept

variable {ε ρ η : Type} (bridge : SdkEngineBridge) (encodeBase64url : Bytes → Bytes)
  (codec : HttpCodec ρ η) (automaticCapture : η)

/-- Code that does not panic and that keeps the process. -/
structure Quiet {α : Type} (code : NativeM ε α) : Prop where
  keeps : Fallible.Relates Keeps code
  returns : Fallible.Returns code

/-- Returning a value is quiet. -/
theorem Quiet.pure {α : Type} (value : α) : Quiet (Pure.pure value : NativeM ε α) :=
  ⟨Fallible.Relates.pure value, Fallible.Returns.pure value⟩

/-- A sequence of quiet code is quiet. -/
theorem Quiet.bind {α β : Type} {first : NativeM ε α} {rest : α → NativeM ε β} (starts : Quiet first)
    (continues : ∀ value, Quiet (rest value)) : Quiet (first >>= rest) :=
  ⟨Fallible.Relates.bind starts.keeps fun value => (continues value).keeps,
    Fallible.Returns.bind starts.returns fun value => (continues value).returns⟩

/-- A change that keeps the process is quiet. -/
theorem Quiet.modify {change : HostProcess → HostProcess}
    (keeps : ∀ process, Keeps process (change process)) :
    Quiet (Fallible.modify change : NativeM ε Unit) :=
  ⟨Fallible.Relates.modify keeps, Fallible.Returns.modify change⟩

/-- Losing a round trip is quiet. -/
theorem quiet_failAutomaticHttpCapture (operation : Nat) :
    Quiet (failAutomaticHttpCapture bridge operation : NativeM ε _) :=
  Quiet.bind (Quiet.modify (keeps_markedUnowned bridge operation))
    fun _ => Quiet.modify keeps_asked

/-- Finishing a round trip is quiet. -/
theorem quiet_finishAutomaticHttpCapture (operation : Nat)
    (response : Option SemanticDependencyResponse) :
    Quiet (finishAutomaticHttpCapture bridge encodeBase64url operation response : NativeM ε _) := by
  have fails := quiet_failAutomaticHttpCapture (ε := ε) bridge operation
  cases response with
  | none => exact fails
  | some response =>
      refine Quiet.bind ⟨keeps_finishCapture bridge encodeBase64url response,
        returns_finishCapture bridge encodeBase64url response⟩ fun finished => ?_
      split
      · exact Quiet.pure _
      · exact fails

/-- Wrapping a body is quiet. -/
theorem quiet_captureStream (operation : Nat) (response : ρ) :
    Quiet (captureStream bridge codec operation response : NativeM ε _) := by
  have fails := quiet_failAutomaticHttpCapture (ε := ε) bridge operation
  have reserves : Quiet (reserveAutomaticHttpStream operation : NativeM ε _) := by
    constructor
    · intro process
      unfold reserveAutomaticHttpStream
      split
      · exact refl_of Keeps process
      · exact .of_lost rfl (fun _ => id) rfl rfl
    · intro process
      unfold reserveAutomaticHttpStream
      split <;> exact ⟨_, _, rfl⟩
  unfold captureStream
  split
  · refine Quiet.bind reserves fun reserved => ?_
    split
    · exact Quiet.pure _
    · exact fails
  · exact fails

/-- What follows a live round trip is quiet. -/
theorem quiet_captureRoundTrip (operation : Nat) (returned : Option ρ × Option η) :
    Quiet (captureRoundTrip bridge encodeBase64url codec operation returned : NativeM ε _) := by
  unfold captureRoundTrip
  split
  · split
    · exact quiet_captureStream bridge codec operation _
    · exact quiet_finishAutomaticHttpCapture bridge encodeBase64url operation _
  · exact quiet_finishAutomaticHttpCapture bridge encodeBase64url operation _

/-- A replay keeps the process. -/
theorem keeps_replayRecorded :
    Fallible.Relates Keeps (replayRecorded (ε := ε) bridge codec automaticCapture) := by
  have reads : Fallible.Relates Keeps (readSdkEngineDependencyResponse bridge : NativeM ε _) :=
    fun process => keeps_readDependencyFrom bridge [] process
  refine Fallible.Relates.bind reads fun record => ?_
  cases record with
  | none => exact Fallible.Relates.pure _
  | some record =>
      refine Fallible.Relates.bind (keeps_finishDependency bridge _) fun outcome => ?_
      split
      · exact Fallible.Relates.pure _
      · split
        · exact Fallible.Relates.pure _
        · split <;> exact Fallible.Relates.pure _

/-- Ending a capture is quiet. -/
theorem quiet_takeBody : Quiet (takeBody : NativeM ε _) := by
  constructor
  · intro process
    unfold takeBody
    split
    · exact refl_of Keeps process
    · split
      · exact refl_of Keeps process
      · exact .of_lost rfl (fun _ => id) rfl rfl
  · intro process
    unfold takeBody
    split
    · exact ⟨_, _, rfl⟩
    · split <;> exact ⟨_, _, rfl⟩

/-- A body that fails is quiet. -/
theorem quiet_failBody : Quiet (failBody bridge : NativeM ε _) := by
  refine Quiet.bind quiet_takeBody fun body => ?_
  cases body with
  | none => exact Quiet.pure _
  | some body => exact quiet_failAutomaticHttpCapture bridge body.operation

/-- A body that ends is quiet. -/
theorem quiet_endBody (response : ρ) (error : Option (BodyError η)) :
    Quiet (endBody bridge encodeBase64url codec response error : NativeM ε _) := by
  rcases error with _ | _ | error
  · exact Quiet.pure _
  · refine Quiet.bind quiet_takeBody fun body => ?_
    cases body with
    | none => exact Quiet.pure _
    | some body => exact quiet_finishAutomaticHttpCapture bridge encodeBase64url body.operation _
  · exact quiet_failBody bridge

/-- Keeping bytes of a body is quiet. -/
theorem quiet_appendBody (value : Bytes) : Quiet (appendBody bridge value : NativeM ε _) := by
  have reads : Quiet (Fallible.gets HostProcess.body : NativeM ε _) :=
    ⟨Fallible.Relates.gets _, fun process => ⟨_, _, rfl⟩⟩
  refine Quiet.bind reads fun body => ?_
  cases body with
  | none => exact Quiet.pure _
  | some body =>
      dsimp only
      split
      · exact Quiet.pure _
      · split
        · exact Quiet.bind (quiet_failBody bridge) fun _ => Quiet.pure _
        · exact Quiet.bind (Quiet.modify fun _ => .of_lost rfl (fun _ => id) rfl rfl)
            fun _ => Quiet.pure _

/-- What follows a use of the source is quiet. -/
theorem quiet_followBody (response : ρ) (use : BodyUse) (result : BodyResult η) :
    Quiet (followBody bridge encodeBase64url codec response use result : NativeM ε _) := by
  have ends := quiet_endBody (ε := ε) bridge encodeBase64url codec response result.error
  cases use with
  | close => exact quiet_failBody bridge
  | read capacity =>
      simp only [followBody]
      split
      · exact quiet_failBody bridge
      · split
        · refine Quiet.bind (quiet_appendBody bridge _) fun appended => ?_
          split
          · exact ends
          · exact Quiet.pure _
        · exact ends

end Kept

/-! ## Transparency -/

section RoundTrips

variable {ε ρ η : Type} (bridge : SdkEngineBridge) (encodeBase64url : Bytes → Bytes)
  (codec : HttpCodec ρ η) (automaticCapture : η) (base : Nat → Except ε (Option ρ × Option η))

/-- A call that marks its operation first is transparent. -/
theorem transparent_passUnowned (operation : Nat) (process : HostProcess) :
    Transparent base False [operation] process (passUnowned bridge base operation process) := by
  have kept := keeps_markedUnowned bridge operation process
  have gives := kept.then_gives (gives_runLive base _)
  refine ⟨False.elim, fun _ => ⟨gives.lives, gives.value⟩, ?_⟩
  intro other owner
  rw [List.mem_singleton] at owner
  subst owner
  exact .inr (.inl (lost_markedUnowned bridge other process))

/-- A round trip whose request is encoded is transparent. -/
theorem transparent_roundTripEncoded (operation : Nat)
    (requestInput : SdkEngineDependencyRequest) (process : HostProcess) :
    Transparent base (replaysDependency bridge operation (some requestInput) process) [operation]
      process (roundTripEncoded bridge encodeBase64url codec automaticCapture base operation
        requestInput process) := by
  obtain ⟨answer, next, opened, lives, _, refused, pending, replays⟩ :=
    openSemanticDependency_spec (ε := ε) bridge operation requestInput process
  have replaying : replaysDependency bridge operation (some requestInput) process ↔
      answer = some .replay := by
    rw [replays]
    exact ⟨fun ⟨_, same, held⟩ => by cases same; exact held, fun held => ⟨_, rfl, held⟩⟩
  have accounted : next.Accounted operation := by
    cases answer with
    | none => exact .inr (.inl (refused rfl).2)
    | some action => exact .inr (.inr (pending rfl))
  unfold roundTripEncoded
  rw [Fallible.bind_ok opened]
  rcases answer with _ | _ | _
  · have gives := gives_runLive base next
    refine ⟨fun held => by simp [replaying] at held, fun _ => ?_, ?_⟩
    · exact ⟨by rw [gives.lives, lives], by rw [gives.value, lives]⟩
    · simpa using gives.accounted operation accounted
  · have gives : Gives base next
        (captureLive bridge encodeBase64url codec base operation next) :=
      gives_followed base
        (fun returned => (quiet_captureRoundTrip bridge encodeBase64url codec operation
          returned).keeps)
        (fun returned => (quiet_captureRoundTrip bridge encodeBase64url codec operation
          returned).returns) next
    refine ⟨fun held => by simp [replaying] at held, fun _ => ?_, ?_⟩
    · exact ⟨by rw [gives.lives, lives], by rw [gives.value, lives]⟩
    · simpa using gives.accounted operation accounted
  · have kept := trans_of Keeps (keeps_replayRecorded bridge codec automaticCapture next)
      (keeps_deferAbandon (replayRecorded (ε := ε) bridge codec automaticCapture) next)
    refine ⟨fun _ => by rw [kept.lives, lives], fun other => ?_, ?_⟩
    · exact absurd (replaying.mpr rfl) other
    · simpa using kept.accounted operation accounted

/-- The operations that a round trip belongs to. -/
def roundTripOwners (active : Bool) (context : Option RequestContext) (process : HostProcess) :
    List Nat :=
  if active then (context.bind (·.active process)).toList else []

/-- The engine answers a round trip with a replay. -/
def replaysRoundTrip (active : Bool) (context : Option RequestContext) (process : HostProcess) :
    Prop :=
  ∃ operation ∈ roundTripOwners active context process,
    replaysDependency bridge operation
      (codec.request.bind (makeSdkEngineDependencyRequest encodeBase64url)) process

/-- A round trip is transparent. -/
theorem transparent_roundTrip (active : Bool) (context : Option RequestContext)
    (process : HostProcess) :
    Transparent base (replaysRoundTrip bridge encodeBase64url codec active context process)
      (roundTripOwners active context process) process
      (roundTrip bridge encodeBase64url codec automaticCapture base active context process) := by
  have passes := gives_runLive base process
  have outside : Transparent base False [] process (runLive base process) :=
    ⟨False.elim, fun _ => ⟨passes.lives, passes.value⟩, fun _ owner => by cases owner⟩
  have inside : ∀ operation,
      Transparent base
        (replaysDependency bridge operation
          (codec.request.bind (makeSdkEngineDependencyRequest encodeBase64url)) process)
        [operation] process
        (roundTripActive bridge encodeBase64url codec automaticCapture base operation process) := by
    intro operation
    have marked := transparent_passUnowned bridge base operation process
    have captures : replaysDependency bridge operation none process = False :=
      eq_false fun ⟨_, same, _⟩ => by cases same
    unfold roundTripActive roundTripObserved
    cases codec.request with
    | none => simpa only [Option.bind_none, captures] using marked
    | some request =>
        simp only [Option.bind_some]
        cases makeSdkEngineDependencyRequest encodeBase64url request with
        | none => simpa only [captures] using marked
        | some requestInput =>
            exact transparent_roundTripEncoded bridge encodeBase64url codec automaticCapture base
              operation requestInput process
  have evaluated : roundTrip bridge encodeBase64url codec automaticCapture base active context
      process = (match active, context.bind (·.active process) with
        | true, some operation =>
            roundTripActive bridge encodeBase64url codec automaticCapture base operation
        | _, _ => runLive base) process := rfl
  rw [evaluated]
  unfold replaysRoundTrip roundTripOwners
  cases active with
  | false => simpa using outside
  | true =>
      cases context.bind (·.active process) with
      | none => simpa using outside
      | some operation => simpa using inside operation

/-- A use of a body gives the application what the source returned. -/
theorem gives_useBody (response : ρ) (source : Nat → BodyUse → Except ε (BodyResult η))
    (use : BodyUse) (process : HostProcess) :
    Gives (source · use) process
      (useBody bridge encodeBase64url codec response source use process) := by
  have ran := gives_runLive (source · use) process
  have fails := quiet_failBody (ε := ε) bridge
  cases called : source process.lives use with
  | error panic =>
      have made : useBody bridge encodeBase64url codec response source use process =
          (.error panic, ((failBody bridge : NativeM ε _) (runLive (source · use) process).2).2) := by
        refine Fallible.bind_error ?_
        simp only [Fallible.onError, runLive, called]
      rw [made]
      have gives := ran.then_keeps (fails.keeps (runLive (source · use) process).2)
      exact ⟨gives.lives, called.symm, gives.lost, gives.accounted⟩
  | ok result =>
      have returned : Fallible.onError (runLive (source · use)) (failBody bridge) process =
          (.ok result, (runLive (source · use) process).2) := by
        simp only [Fallible.onError, runLive, called]
      have follows := quiet_followBody (ε := ε) bridge encodeBase64url codec response use result
      have kept := follows.keeps (runLive (source · use) process).2
      obtain ⟨_, next, followed⟩ := follows.returns (runLive (source · use) process).2
      unfold useBody
      rw [Fallible.bind_ok returned, Fallible.bind_ok followed]
      rw [followed] at kept
      have gives := ran.then_keeps kept
      exact ⟨gives.lives, called.symm, gives.lost, gives.accounted⟩

/-- However the application uses a body, it sees what the source returns, and the source runs once
for each use.  What is accounted for stays so. -/
theorem useBodies_spec (response : ρ) (source : Nat → BodyUse → Except ε (BodyResult η))
    (uses : List BodyUse) (process : HostProcess) :
    (useBodies bridge encodeBase64url codec response source uses process).1 =
        sourceResults source uses process.lives ∧
      (useBodies bridge encodeBase64url codec response source uses process).2.lives =
        process.lives + uses.length ∧
      ∀ operation, process.Accounted operation →
        (useBodies bridge encodeBase64url codec response source uses process).2.Accounted
          operation := by
  induction uses generalizing process with
  | nil => exact ⟨rfl, rfl, fun _ => id⟩
  | cons use uses ih =>
      have gives := gives_useBody bridge encodeBase64url codec response source use process
      obtain ⟨results, lives, accounted⟩ := ih
        (useBody bridge encodeBase64url codec response source use process).2
      refine ⟨?_, ?_, fun operation => accounted operation ∘ gives.accounted operation⟩
      · rw [useBodies, sourceResults, results, gives.lives]
        exact congrArg (· :: _) gives.value
      · rw [useBodies, lives, gives.lives, List.length_cons]
        omega

end RoundTrips

/-! ## The wrappers together -/

end Go
end Native
end Wrappers
end ReproItSdk
