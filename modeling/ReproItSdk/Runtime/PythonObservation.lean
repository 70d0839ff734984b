import ReproItSdk.Runtime.NodeObservation

/-! # Runtime observations of the Python SDK

The Python SDK records the same responses as the Node SDK.  An error is recorded by a code and a
number, which come from its class and from its {lit}`errno`, and its replay raises another error of
the operating system.

Main definitions:

- Structure {lit}`PythonError`: an error with its class and its {lit}`errno`.
- Function {lit}`ObservedCall.capture`: what becomes of the observation of a live call.
- Function {lit}`ObservedCall.replay`: what the application sees of a recorded response.

Main results:

- Theorem {lit}`replay_error`: a recorded error is raised as the exception of its code.
-/

namespace ReproItSdk
namespace Runtime
namespace Python

open Unicode Json Decimal Canonical

/-! ## Exceptions -/

/-- The built-in classes that the adapter tells apart or raises. -/
inductive BuiltinClass where
  | baseException
  | exception
  | keyError
  | typeError
  | valueError
  | memoryError
  | notImplementedError
  | osError
  | blockingIOError
  | brokenPipeError
  | childProcessError
  | connectionAbortedError
  | connectionRefusedError
  | connectionResetError
  | fileExistsError
  | fileNotFoundError
  | interruptedError
  | isADirectoryError
  | notADirectoryError
  | permissionError
  | processLookupError
  | timeoutError
deriving DecidableEq, Repr

/-- A built-in class and the classes it is derived from. -/
def BuiltinClass.ancestors : BuiltinClass → List BuiltinClass
  | .baseException => [.baseException]
  | .exception => [.exception, .baseException]
  | .keyError => [.keyError, .exception, .baseException]
  | .typeError => [.typeError, .exception, .baseException]
  | .valueError => [.valueError, .exception, .baseException]
  | .memoryError => [.memoryError, .exception, .baseException]
  | .notImplementedError => [.notImplementedError, .exception, .baseException]
  | .osError => [.osError, .exception, .baseException]
  | subclass => [subclass, .osError, .exception, .baseException]

/-- The name of a class: a built-in one or a numbered one. -/
inductive ClassName where
  | builtin (class_ : BuiltinClass)
  | defined (identity : Nat)
deriving DecidableEq, Repr

/-- A class of exceptions with the built-in classes that its instances belong to. -/
structure ExceptionClass where
  name : ClassName
  ancestors : List BuiltinClass
  upward : ∀ ancestor ∈ ancestors, ancestor.ancestors ⊆ ancestors
  known : ∀ class_, name = .builtin class_ → ancestors = class_.ancestors

/-- Every class is derived from those its ancestors are derived from. -/
theorem BuiltinClass.ancestors_upward (class_ : BuiltinClass) :
    ∀ ancestor ∈ class_.ancestors, ancestor.ancestors ⊆ class_.ancestors := by
  cases class_ <;> decide

/-- A built-in class. -/
def ExceptionClass.ofBuiltin (class_ : BuiltinClass) : ExceptionClass where
  name := .builtin class_
  ancestors := class_.ancestors
  upward := class_.ancestors_upward
  known := by
    intro other same
    rw [ClassName.builtin.inj same]

/-- An error: its class and its {lit}`errno`, an integer, another value or none. -/
structure PythonError where
  class_ : ExceptionClass
  errno : Node.ErrorProperty Int

/-- {lit}`isinstance`. -/
def PythonError.isInstance (error : PythonError) (class_ : BuiltinClass) : Bool :=
  class_ ∈ error.class_.ancestors

/-- The numbers whose {lit}`OSError` has a class of its own, on Linux. -/
def numberClasses : List (List Nat × BuiltinClass) :=
  [([11, 114, 115], .blockingIOError), ([32, 108], .brokenPipeError), ([10], .childProcessError),
    ([103], .connectionAbortedError), ([111], .connectionRefusedError),
    ([104], .connectionResetError), ([17], .fileExistsError), ([2], .fileNotFoundError),
    ([21], .isADirectoryError), ([20], .notADirectoryError), ([4], .interruptedError),
    ([13, 1], .permissionError), ([3], .processLookupError), ([110], .timeoutError)]

/-- The class of an {lit}`OSError` with a number. -/
def osErrorClass (number : Nat) : BuiltinClass :=
  ((numberClasses.find? fun entry => number ∈ entry.1).map Prod.snd).getD .osError

/-- The number of an error as {lit}`_error_identity` takes it. -/
def errorNumber (error : PythonError) : Option Nat :=
  if error.isInstance .osError then
    match error.errno with
    | .value number => if 0 ≤ number ∧ number ≤ 0xffffffff then some number.toNat else none
    | _ => none
  else none

/-- {lit}`_error_identity`. -/
def errorIdentity (error : PythonError) : Text × Option Nat :=
  let number := errorNumber error
  if error.isInstance .interruptedError then ("interrupted".toList, number)
  else if error.isInstance .typeError ∨ error.isInstance .valueError then
    ("invalid-input".toList, number)
  else if error.isInstance .fileNotFoundError then ("not-found".toList, number)
  else if error.isInstance .permissionError then ("permission-denied".toList, number)
  else if error.isInstance .memoryError ∨ number ∈ [some 24, some 23, some 12] then
    ("resource-limit".toList, number)
  else if error.isInstance .notImplementedError then ("unsupported".toList, number)
  else ("other".toList, number)

/-- An error of a built-in class with a number. -/
def numbered (class_ : BuiltinClass) (number : Nat) : PythonError where
  class_ := .ofBuiltin class_
  errno := .value number

/-- {lit}`_recorded_exception`. -/
def recordedException (code : Text) (number : Option Nat) : PythonError :=
  if code = "interrupted".toList then numbered .interruptedError (number.getD 4)
  else if code = "not-found".toList then numbered .fileNotFoundError (number.getD 2)
  else if code = "permission-denied".toList then numbered .permissionError (number.getD 13)
  else if code = "invalid-input".toList then
    numbered (osErrorClass (number.getD 22)) (number.getD 22)
  else if code = "resource-limit".toList then
    numbered (osErrorClass (number.getD 12)) (number.getD 12)
  else if code = "unsupported".toList then
    numbered (osErrorClass (number.getD 38)) (number.getD 38)
  else numbered (osErrorClass (number.getD 5)) (number.getD 5)

/-- {lit}`KeyError` of a missing variable. -/
def missingKeyError : PythonError where
  class_ := .ofBuiltin .keyError
  errno := .absent

/-! ## Records -/

/-- {lit}`_MAX_RESPONSE_BYTES`. -/
def maxResponseBytes : Nat :=
  49152

/-- {lit}`_MAX_RESPONSE_READS`. -/
def maxResponseReads : Nat :=
  6

/-- {lit}`canonical_bytes` of a request. -/
def requestBytes (request : Node.SemanticRequest) : Bytes :=
  utf8 (Canonical.Python.dumps (.object [
    ("format".toList, .string "reproit.semantic-observation-request.v1".toList),
    ("operation".toList, .string request.operation.name),
    ("target".toList, Node.orNull request.target),
    ("offset".toList, Node.numberOrNull request.offset),
    ("length".toList, Node.numberOrNull request.length)]))

/-- {lit}`digest_bytes` of a request. -/
def requestDigest (sha256 : Node.HashFunction) (request : Node.SemanticRequest) : Text :=
  Node.digestText sha256 (requestBytes request)

/-- {lit}`canonical_bytes` of a response. -/
def responseBytes (response : Node.SemanticResponse) : Bytes :=
  utf8 (Canonical.Python.dumps (.object response.members))

/-- {lit}`_response`. -/
def response (sha256 : Node.HashFunction) (request : Node.SemanticRequest) (outcome : String)
    (value : Option Bytes) (errorCode : Option Text) (errorNumber : Option Nat) :
    Node.SemanticResponse :=
  Node.capturedResponse (requestDigest sha256 request) request outcome value errorCode errorNumber

/-- {lit}`_decode_value`. -/
def decodeValue (value : Text) : Option Bytes := do
  let bytes ← Base64.decodeCanonical value
  if bytes.length ≤ Node.maxValueBytes then some bytes else none

/-- {lit}`_validate_response_fields`. -/
def validateResponseFields (response : Node.SemanticResponse) : Bool :=
  if response.outcome = "response".toList then
    response.errorCode = none && response.errorNumber = none &&
      response.value.all fun value => (decodeValue value).isSome
  else
    response.outcome = "error".toList && response.value = none &&
      response.errorCode.any (fun code => code ∈ Node.errorCodes) &&
      Node.validErrorNumber response.errorNumber

/-- {lit}`_validate_response_pair`. -/
def validateResponsePair (request : Node.SemanticRequest) (response : Node.SemanticResponse) :
    Bool :=
  if response.outcome = "response".toList then
    match response.value with
    | none => request.operation = .environment
    | some value =>
        match decodeValue value with
        | none => false
        | some bytes =>
            match request.operation with
            | .clock => bytes.length = 8
            | .environment => true
            | .filesystem => bytes.length ≤ request.length.getD 0
            | .randomness => request.length = some bytes.length
  else true

/-- {lit}`_parse_response`. -/
def parseResponse (sha256 : Node.HashFunction) (record : Bytes) (request : Node.SemanticRequest) :
    Option Node.SemanticResponse := do
  let text ← decodeUtf8 record
  let parsed ← parseJson text
  let document ← integers parsed
  if utf8 (Canonical.Python.dumps document) = record then
    let response ← Node.responseOf document
    if response.requestDigest = requestDigest sha256 request ∧
        response.operation = request.operation.name ∧
        validateResponseFields response = true ∧ validateResponsePair request response = true then
      some response
    else none
  else none

/-! ## Observed calls -/

/-- A call that opens an observation.  Its encoder and its decoder raise on some values, and only
the read of a variable has a key that can be missing. -/
structure ObservedCall (α : Type) where
  request : Node.SemanticRequest
  missingKey : Bool
  ofVariable : missingKey = true → request.operation = .environment
  encode : α → Option Bytes
  decode : Bytes → Option α

/-- What the application sees of a replayed observation. -/
inductive Replayed (α : Type) where
  | value (value : α)
  | raised (error : PythonError)
  | invalid

/-- {lit}`_record_response`.  The engine takes or refuses each write and the end of the session. -/
def recordResponse (engine : Nat → Bool) (response : Node.SemanticResponse) : Node.Settlement :=
  let pieces := Chunks.chunks Node.maxObservationChunkBytes (responseBytes response)
  if (List.range (pieces.length + 1)).all engine then .finished pieces.flatten else .abandoned

section Calls

variable {α : Type} (call : ObservedCall α) (sha256 : Node.HashFunction) (engine : Nat → Bool)

/-- {lit}`_capture`. -/
def ObservedCall.capture : Except PythonError α → Node.Settlement
  | .error error =>
      if error.isInstance .keyError ∧ call.missingKey = true then
        recordResponse engine (response sha256 call.request "response" none none none)
      else if error.isInstance .exception then
        recordResponse engine (response sha256 call.request "error" none
          (some (errorIdentity error).1) (errorIdentity error).2)
      else .abandoned
  | .ok result =>
      match call.encode result with
      | none => .abandoned
      | some bytes =>
          recordResponse engine (response sha256 call.request "response" (some bytes) none none)

/-- {lit}`_replay`. -/
def ObservedCall.replay (session : Node.ReplaySession) : Replayed α :=
  match (Chunks.gather Node.maxObservationResponseReadBytes maxResponseBytes maxResponseReads
      session.reads []).bind (parseResponse sha256 · call.request) with
  | none => .invalid
  | some response =>
      if response.outcome = "error".toList then
        if session.finishes then
          .raised (recordedException (response.errorCode.getD []) response.errorNumber)
        else .invalid
      else
        match response.value with
        | none =>
            if call.missingKey ∧ session.finishes then .raised missingKeyError else .invalid
        | some value =>
            match (decodeValue value).bind call.decode with
            | none => .invalid
            | some decoded => if session.finishes then .value decoded else .invalid

end Calls

/-! ## Round trip of records -/

/-- Both SDKs write a response the same way. -/
theorem responseBytes_eq (response : Node.SemanticResponse) :
    responseBytes response = response.bytes := by
  have up : response.members.Pairwise fun left right => left.1 ≤ right.1 := by
    rw [← List.pairwise_map (f := Prod.fst) (R := fun left right : Text => left ≤ right)]
    change Node.responseKeys.Pairwise fun left right => left ≤ right
    decide
  have sorted : sortBy (fun member => id member.1) response.members = response.members :=
    up.insertionSort_eq
  have text (value : Option Text) :
      canonicalDocument id (Node.orNull value) = (Node.orNull value).map decimal := by
    cases value <;> rfl
  have number (value : Option Nat) :
      canonicalDocument id (Node.numberOrNull value) = (Node.numberOrNull value).map decimal := by
    cases value <;> rfl
  have whole : canonicalDocument id (.object response.members) =
      (Document.object response.members).map decimal := by
    rw [canonicalDocument_object, sorted, Document.map, Document.mapMembers_eq]
    simp only [Node.SemanticResponse.members, List.map_cons, List.map_nil, text, number]
    rfl
  rw [responseBytes, Canonical.Python.dumps_eq, whole]
  rfl

/-- What an adapter records is plain. -/
theorem response_plain (sha256 : Node.HashFunction) (request : Node.SemanticRequest)
    {outcome : String} (known : outcome = "error" ∨ outcome = "response")
    {errorCode : Option Text} (listed : ∀ code ∈ errorCode, code ∈ Node.errorCodes)
    {errorNumber : Option Nat} (number : Node.validErrorNumber errorNumber = true) :
    (response sha256 request outcome none errorCode errorNumber).Plain :=
  Node.capturedResponse_plain sha256 _ request known none listed number

section Calls

variable {α : Type} (call : ObservedCall α) (sha256 : Node.HashFunction) (engine : Nat → Bool)

/-- A response that is recorded is recorded as a whole. -/
theorem recordResponse_finished {response : Node.SemanticResponse} {record : Bytes}
    (finished : recordResponse engine response = .finished record) : record = response.bytes := by
  have positive : 0 < Node.maxObservationChunkBytes := by decide
  simp only [recordResponse] at finished
  split at finished
  · cases finished
    rw [Chunks.chunks_flatten positive, responseBytes_eq]
  · cases finished

/-- The engine decides whether a response is recorded. -/
theorem recordResponse_takes (takes : ∀ turn, engine turn = true)
    (response : Node.SemanticResponse) :
    recordResponse engine response = .finished response.bytes := by
  have positive : 0 < Node.maxObservationChunkBytes := by decide
  have all : (List.range ((Chunks.chunks Node.maxObservationChunkBytes
      (responseBytes response)).length + 1)).all engine = true :=
    List.all_eq_true.mpr fun turn _ => takes turn
  simp only [recordResponse, if_pos all]
  rw [Chunks.chunks_flatten positive, responseBytes_eq]

/-- A valid response without a value is read back from the session of a replay. -/
theorem parseResponse_served {response : Node.SemanticResponse} (plain : response.Plain)
    (empty : response.value = none) (request : Node.SemanticRequest)
    (digest : response.requestDigest = requestDigest sha256 request)
    (operation : response.operation = request.operation.name)
    (fields : validateResponseFields response = true)
    (pair : validateResponsePair request response = true) :
    (Chunks.gather Node.maxObservationResponseReadBytes maxResponseBytes maxResponseReads
      (Node.serving response.bytes).reads []).bind (parseResponse sha256 · request) =
        some response := by
  have bound := Node.length_bytes plain
  rw [empty, Option.getD_none, List.length_nil] at bound
  have gathered : Chunks.gather Node.maxObservationResponseReadBytes maxResponseBytes
      maxResponseReads (Node.serving response.bytes).reads [] = some response.bytes := by
    apply Chunks.gather_served (by decide) (Node.bytes_ne_nil response)
    · simp only [maxResponseBytes]
      omega
    · simp only [maxResponseReads, Node.maxObservationResponseReadBytes]
      omega
  have written : utf8 (Canonical.Python.dumps (.object response.members)) = response.bytes :=
    responseBytes_eq response
  rw [gathered, Option.bind_some, parseResponse]
  nth_rewrite 1 [Node.SemanticResponse.bytes]
  rw [decodeUtf8_utf8]
  simp only [Option.bind_eq_bind, Option.bind_some, Canonical.Node.stringify]
  rw [parseJson_render (Node.readable_members response)]
  simp only [Option.bind_some]
  rw [integers_map]
  simp only [Option.bind_some, if_pos written, Node.responseOf_members]
  exact if_pos ⟨digest, operation, fields, pair⟩

/-- Every error has a listed code. -/
theorem errorIdentity_mem (error : PythonError) : (errorIdentity error).1 ∈ Node.errorCodes := by
  unfold errorIdentity
  dsimp only
  split_ifs <;> (dsimp only; decide)

/-- The number of an error is in its range. -/
theorem errorIdentity_number (error : PythonError) :
    (errorIdentity error).2 = errorNumber error := by
  unfold errorIdentity
  dsimp only
  split_ifs <;> rfl

/-- The number of an error is valid in a record. -/
theorem validErrorNumber_errorNumber (error : PythonError) :
    Node.validErrorNumber (errorNumber error) = true := by
  unfold errorNumber
  split
  · split
    · split
      · rename_i ranged
        apply decide_eq_true
        omega
      · rfl
    · rfl
  · rfl

/-- An exception is recorded by its code and its number. -/
theorem capture_exception {error : PythonError} (present : call.missingKey = false ∨
      error.isInstance .keyError = false) (exception : error.isInstance .exception = true) :
    call.capture sha256 engine (.error error) =
      recordResponse engine (response sha256 call.request "error" none
        (some (errorIdentity error).1) (errorIdentity error).2) := by
  have other : ¬ (error.isInstance .keyError ∧ call.missingKey = true) := by
    rintro ⟨key, missing⟩
    rcases present with absent | absent
    · rw [missing] at absent
      cases absent
    · rw [key] at absent
      cases absent
  rw [ObservedCall.capture, if_neg other, if_pos exception]

/-- A recorded error is raised as the exception of its code. -/
theorem replay_error {error : PythonError} {record : Bytes} (present : call.missingKey = false ∨
      error.isInstance .keyError = false) (exception : error.isInstance .exception = true)
    (captured : call.capture sha256 engine (.error error) = .finished record) :
    call.replay sha256 (Node.serving record) =
      .raised (recordedException (errorIdentity error).1 (errorIdentity error).2) := by
  rw [capture_exception call sha256 engine present exception] at captured
  have written := recordResponse_finished engine captured
  subst written
  have valid : Node.validErrorNumber (errorIdentity error).2 = true := by
    rw [errorIdentity_number]
    exact validErrorNumber_errorNumber error
  have plain : (response sha256 call.request "error" none (some (errorIdentity error).1)
      (errorIdentity error).2).Plain := by
    apply response_plain sha256 call.request (.inl rfl) _ valid
    intro code among
    rw [← Option.some.inj among]
    exact errorIdentity_mem error
  have outcome : ¬ "error".toList = "response".toList := by decide
  have fields : validateResponseFields (response sha256 call.request "error" none
      (some (errorIdentity error).1) (errorIdentity error).2) = true := by
    refine (if_neg outcome).trans ?_
    simp [response, Node.capturedResponse, errorIdentity_mem, valid]
  have read := parseResponse_served sha256 plain rfl call.request rfl rfl fields (if_neg outcome)
  rw [ObservedCall.replay, read]
  exact (if_pos rfl).trans (if_pos rfl)

/-- A recorded absence is raised as a {lit}`KeyError`. -/
theorem replay_missing {error : PythonError} {record : Bytes} (missing : call.missingKey = true)
    (key : error.isInstance .keyError = true)
    (captured : call.capture sha256 engine (.error error) = .finished record) :
    call.replay sha256 (Node.serving record) = .raised missingKeyError := by
  rw [ObservedCall.capture, if_pos ⟨key, missing⟩] at captured
  have written := recordResponse_finished engine captured
  subst written
  have plain : (response sha256 call.request "response" none none none).Plain :=
    response_plain sha256 call.request (.inr rfl) (fun _ among => by cases among) rfl
  have pair : validateResponsePair call.request
      (response sha256 call.request "response" none none none) = true := by
    refine (if_pos rfl).trans ?_
    exact decide_eq_true (call.ofVariable missing)
  have outcome : ¬ "response".toList = "error".toList := by decide
  have read := parseResponse_served sha256 plain rfl call.request rfl rfl rfl pair
  rw [ObservedCall.replay, read]
  exact (if_neg outcome).trans (if_pos ⟨missing, rfl⟩)

end Calls
end Python
end Runtime
end ReproItSdk
