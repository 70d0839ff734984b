import ReproItSdk.Core.Model

/-! # Semantic dependency sessions

The engine keeps its own copy of the request and the response of a dependency.  A session collects
the bytes of both records and checks them: the request when the dependency is dispatched, the
response when it is finished.

Main definitions:

- Structure {lit}`SemanticDependencySession`: the session of one dependency observation.
- Function {lit}`parseCanonical`: read one record that must be canonical and valid.
- Functions {lit}`SemanticDependencySession.write`, {lit}`dispatch`, {lit}`finish`: the life of a
  session.
-/

namespace ReproItSdk
namespace Engine

variable {Digest : Type}

/-! ## Constants and errors -/

/-- Most bytes of one semantic dependency record. -/
def maxSemanticDependencyRecordBytes : Nat :=
  65536

/-- {lit}`invalid_dependency`. -/
def invalidDependency : Error where
  code := .incompleteCandidate
  message := "The semantic dependency observation is invalid."

/-- {lit}`dependency_limit`. -/
def dependencyLimit : Error where
  code := .runtimeQuota
  message := "The semantic dependency record limit was reached."

/-! ## Records -/

/-- The two streams that a caller writes to. -/
inductive ObservationStreamInput where
  | request
  | response
deriving DecidableEq, Repr

/-- What the engine takes from reproit-core for dependency records. -/
structure DependencyCodec (Digest : Type) where
  requests : RecordCodec SemanticDependencyRequest
  responses : RecordCodec (SemanticDependencyResponse Digest)
  validatePair :
    SemanticDependencyRequest → SemanticDependencyResponse Digest → Except Error Unit
  digest : SemanticDependencyRequest → Except Error Digest

/-- {lit}`SemanticDependencyRequestInput`: the fields of a request that a caller chooses. -/
structure SemanticDependencyRequestInput where
  encoding : String
  metadata : List SemanticDependencyMetadata
  method : Option String
  observationClass : AutomaticObservationClass
  operation : SemanticDependencyOperation
  payload : String
  protocol : String
  target : String
deriving DecidableEq, Repr

/-- {lit}`SemanticDependencyResponseInput`: the fields of a response that a caller chooses. -/
structure SemanticDependencyResponseInput where
  errorCode : Option SemanticObservationErrorCode
  errorNumber : Option Nat
  metadata : List SemanticDependencyMetadata
  outcome : SemanticObservationOutcome
  payload : Option String
  status : Option String
  statusCode : Option Nat
deriving DecidableEq, Repr

/-- {lit}`into_request`. -/
def SemanticDependencyRequestInput.intoRequest (input : SemanticDependencyRequestInput) :
    SemanticDependencyRequest where
  encoding := input.encoding
  metadata := input.metadata
  method := input.method
  observationClass := input.observationClass
  operation := input.operation
  payload := input.payload
  protocol := input.protocol
  target := input.target

/-- {lit}`into_response`: the request names the class, the operation and the digest. -/
def SemanticDependencyResponseInput.intoResponse (codec : DependencyCodec Digest)
    (input : SemanticDependencyResponseInput) (request : SemanticDependencyRequest) :
    Except Error (SemanticDependencyResponse Digest) :=
  match codec.digest request with
  | .error _ => .error invalidDependency
  | .ok requestDigest =>
      .ok
        { errorCode := input.errorCode
          errorNumber := input.errorNumber
          metadata := input.metadata
          observationClass := request.observationClass
          operation := request.operation
          outcome := input.outcome
          payload := input.payload
          requestDigest := requestDigest
          status := input.status
          statusCode := input.statusCode }

/-- {lit}`dependency_outcome`. -/
def dependencyOutcome : SemanticObservationOutcome → DependencyOutcome
  | .error => .error
  | .response => .response

/-- {lit}`parse_canonical`: a record that is valid and that its bytes encode canonically. -/
def parseCanonical {Record : Type} (codec : RecordCodec Record) (bytes : Bytes) :
    Except Error Record :=
  if bytes = [] ∨ maxSemanticDependencyRecordBytes < bytes.length then .error invalidDependency
  else
    match codec.parseStrict bytes with
    | .error _ => .error invalidDependency
    | .ok value =>
        match codec.validate value, codec.canonicalBytes value with
        | .ok (), .ok canonicalBytes =>
            if canonicalBytes ≠ bytes then .error invalidDependency else .ok value
        | _, _ => .error invalidDependency

/-! ## Sessions -/

/-- What the caller of a compact dependency does after the dispatch. -/
inductive DependencyAction where
  | capture
  | replay
deriving DecidableEq, Repr

/-- The session of one dependency observation. -/
structure SemanticDependencySession (Digest : Type) where
  action : Option DependencyAction
  canonicalSessionPosition : Option Nat
  observationClass : AutomaticObservationClass
  request : Bytes
  response : Bytes
  validatedRequest : Option SemanticDependencyRequest
  validatedResponse : Option (SemanticDependencyResponse Digest)
deriving DecidableEq, Repr

/-- Classes whose observations have a session of their own. -/
def isSemanticClass : AutomaticObservationClass → Bool
  | .database | .outboundHttp | .queue => true
  | .clock | .environment | .filesystem | .randomness => false

namespace SemanticDependencySession

/-- {lit}`for_class`: an empty session, if the class has one. -/
def forClass (observationClass : AutomaticObservationClass) :
    Option (SemanticDependencySession Digest) :=
  if isSemanticClass observationClass then
    some
      { action := none
        canonicalSessionPosition := none
        observationClass := observationClass
        request := []
        response := []
        validatedRequest := none
        validatedResponse := none }
  else none

/-- {lit}`bind_action`: an action is bound once. -/
def bindAction (session : SemanticDependencySession Digest) (action : String) :
    Except Error Unit × SemanticDependencySession Digest :=
  let bound : Option DependencyAction :=
    if action = "capture" then some .capture else if action = "replay" then some .replay else none
  match bound with
  | none => (.error invalidDependency, session)
  | some bound =>
      (if session.action.isSome then .error invalidDependency else .ok (),
        { session with action := some bound })

/-- {lit}`validate_finish_input`: a captured dependency comes with its response, a replayed one
without. -/
def validateFinishInput (session : SemanticDependencySession Digest) (hasResponse : Bool) :
    Except Error Unit :=
  match session.action, hasResponse with
  | some .capture, true | some .replay, false => .ok ()
  | _, _ => .error invalidDependency

/-- {lit}`canonical_request`: the bytes of a valid request. -/
def canonicalRequest (codec : DependencyCodec Digest) (input : SemanticDependencyRequestInput) :
    Except Error Bytes :=
  match codec.requests.validate input.intoRequest with
  | .error _ => .error invalidDependency
  | .ok () =>
      match codec.requests.canonicalBytes input.intoRequest with
      | .error _ => .error invalidDependency
      | .ok bytes => .ok bytes

/-- {lit}`bind_canonical_session_position`: a position is bound once. -/
def bindCanonicalSessionPosition (session : SemanticDependencySession Digest)
    (sessionPosition : Nat) : Except Error Unit × SemanticDependencySession Digest :=
  (if session.canonicalSessionPosition.isSome then .error invalidDependency else .ok (),
    { session with canonicalSessionPosition := some sessionPosition })

/-- {lit}`canonical_response`: the response that an input stands for, with its bytes. -/
def canonicalResponse (codec : DependencyCodec Digest)
    (session : SemanticDependencySession Digest) (input : SemanticDependencyResponseInput) :
    Except Error (Bytes × SemanticDependencyResponse Digest) :=
  match session.validatedRequest with
  | none => .error invalidDependency
  | some request =>
      match input.intoResponse codec request with
      | .error error => .error error
      | .ok response =>
          match codec.validatePair request response, codec.responses.canonicalBytes response with
          | .ok (), .ok bytes => .ok (bytes, response)
          | _, _ => .error invalidDependency

/-- {lit}`cache_validated_response`: a response is cached once. -/
def cacheValidatedResponse (session : SemanticDependencySession Digest)
    (response : SemanticDependencyResponse Digest) :
    Except Error Unit × SemanticDependencySession Digest :=
  (if session.validatedResponse.isSome then .error invalidDependency else .ok (),
    { session with validatedResponse := some response })

/-- Whether a session takes bytes of a stream: the request before it is validated, the response
afterwards. -/
def accepts (session : SemanticDependencySession Digest) : ObservationStreamInput → Bool
  | .request => session.validatedRequest.isNone
  | .response => session.validatedRequest.isSome

/-- Bytes that a session has of a stream. -/
def streamBytes (session : SemanticDependencySession Digest) : ObservationStreamInput → Bytes
  | .request => session.request
  | .response => session.response

/-- Append bytes to a stream of a session. -/
def append (session : SemanticDependencySession Digest) (chunk : Bytes) :
    ObservationStreamInput → SemanticDependencySession Digest
  | .request => { session with request := session.request ++ chunk }
  | .response => { session with response := session.response ++ chunk }

/-- Forget the validated response before new bytes of it come in. -/
def uncache (session : SemanticDependencySession Digest) :
    ObservationStreamInput → SemanticDependencySession Digest
  | .request => session
  | .response => { session with validatedResponse := none }

/-- {lit}`write`: append a chunk to one stream, within the bound of a record. -/
def write (session : SemanticDependencySession Digest) (stream : ObservationStreamInput)
    (chunk : Bytes) : Except Error Unit × SemanticDependencySession Digest :=
  if ¬ session.accepts stream then (.error invalidDependency, session)
  else if maxSemanticDependencyRecordBytes < (session.streamBytes stream).length + chunk.length then
    (.error dependencyLimit, session.uncache stream)
  else (.ok (), (session.uncache stream).append chunk stream)

/-- {lit}`dispatch`: the request is complete and must be a record of the class. -/
def dispatch (codec : DependencyCodec Digest) (session : SemanticDependencySession Digest) :
    Except Error Unit × SemanticDependencySession Digest :=
  if session.validatedRequest.isSome ∨ session.response ≠ [] then (.error invalidDependency, session)
  else
    match parseCanonical codec.requests session.request with
    | .error error => (.error error, session)
    | .ok request =>
        if request.observationClass ≠ session.observationClass then
          (.error invalidDependency, session)
        else (.ok (), { session with validatedRequest := some request })

/-- {lit}`validated_response`: the cached response, or the one that the bytes encode. -/
def checkedResponse (codec : DependencyCodec Digest) (session : SemanticDependencySession Digest) :
    Except Error (SemanticDependencyResponse Digest) × SemanticDependencySession Digest :=
  match session.validatedResponse with
  | some response => (.ok response, session)
  | none =>
      match session.validatedRequest with
      | none => (.error invalidDependency, session)
      | some request =>
          match parseCanonical codec.responses session.response with
          | .error error => (.error error, session)
          | .ok response =>
              match codec.validatePair request response with
              | .error _ => (.error invalidDependency, session)
              | .ok () => (.ok response, { session with validatedResponse := some response })

/-- {lit}`finish`: the response must have the outcome. -/
def finish (codec : DependencyCodec Digest) (session : SemanticDependencySession Digest)
    (outcome : DependencyOutcome) :
    Except Error (SemanticDependencyResponse Digest) × SemanticDependencySession Digest :=
  match session.checkedResponse codec with
  | (.error error, session) => (.error error, session)
  | (.ok response, session) =>
      (if dependencyOutcome response.outcome ≠ outcome then .error invalidDependency
        else .ok response, session)

end SemanticDependencySession
end Engine
end ReproItSdk
