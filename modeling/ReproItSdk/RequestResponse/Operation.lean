import ReproItSdk.Core.Model
import ReproItSdk.Library.Chunks
import ReproItSdk.Library.Runs

/-! # Request-response operations

An adapter of a web framework feeds the bytes of a request to an operation and the response to a
classification.  Once the response is complete, the classification tells whether it is a failure,
and the operation fails or succeeds.

The operation and the classification are trait objects that an adapter supplies.  The model takes
them as parameters, and every method reports the calls it made on the operation.

Main definitions:

- Structure {lit}`Adapter`: the operation, the classifier and the encoding of payloads.
- Structure {lit}`RequestResponseOperation`: the state between two calls.
- Inductive {lit}`Method`: the methods, with their arguments.
- Function {lit}`step`: answer one method.
-/

namespace ReproItSdk
namespace RequestResponse

variable {ω γ Failure Digest : Type}

/-! ## Constants and errors -/

/-- Most bytes of one recorded input payload. -/
def maxRequestInputChunkBytes : Nat :=
  32768

/-- Most bytes of the headers of a response. -/
def maxResponseHeaderBytes : Nat :=
  16384

/-- Most headers of a response. -/
def maxResponseHeaders : Nat :=
  128

/-- Largest {lit}`input_count` at which another payload is recorded. -/
def lastInputIndex : Nat :=
  1023

/-- {lit}`capture_limit`. -/
def captureLimit : Error where
  code := .runtimeQuota
  message := "The request-response capture limit was reached."

/-- {lit}`incomplete_operation`. -/
def incompleteOperation : Error where
  code := .incompleteCandidate
  message := "The request-response capture is incomplete."

/-! ## Payloads and responses -/

/-- Channels of an input payload. -/
inductive InputChannel where
  | input
deriving DecidableEq, Repr

/-- How a failure came to its end. -/
inductive TriggerCompletion where
  | acknowledgment
  | return
  | streamEnd
  | taskEnd
deriving DecidableEq, Repr

/-- One recorded piece of the input. -/
structure OperationInputPayload (Digest : Type) where
  channel : InputChannel
  contentType : String
  inputIndex : Nat
  value : String
  valueDigest : Digest
deriving DecidableEq, Repr

/-- A header of a response. -/
structure RequestResponseHeader where
  name : String
  value : Bytes
deriving DecidableEq, Repr

/-- The part of a response that precedes its body. -/
structure RequestResponseHead where
  headers : List RequestResponseHeader
  status : Nat
deriving DecidableEq, Repr

/-- What a request-response operation is built over: the encoding of payloads, a
{lit}`RustOperation` with state {lit}`ω`, and a {lit}`RequestResponseFailureClassifier` whose
classifications have state {lit}`γ`. -/
structure Adapter (ω γ Failure Digest : Type) where
  encodeBase64url : Bytes → String
  digestOf : Bytes → Digest
  recordInput : ω → OperationInputPayload Digest → Except Error Unit × ω
  fail : ω → Failure → TriggerCompletion → Except Error Unit
  start : RequestResponseHead → γ
  recordBodyChunk : γ → Bytes → Except Error Unit × γ
  finish : γ → Option Failure

/-- A request-response operation. -/
structure RequestResponseOperation (ω γ : Type) where
  classification : Option γ
  contentType : String
  inputComplete : Bool
  inputCount : Nat
  operation : Option ω

/-- Calls made on the underlying operation, with the answers that matter later. -/
inductive OperationCall (Failure Digest : Type) where
  | recordInput (payload : OperationInputPayload Digest) (answer : Except Error Unit)
  | fail (identity : Failure) (completion : TriggerCompletion)
  | succeed
  | abandonIncomplete

/-- What a method returns, with the calls it made on the underlying operation. -/
structure Reply (Failure Digest : Type) where
  result : Except Error Unit
  calls : List (OperationCall Failure Digest)

/-- The public methods that change an operation.  Dropping it abandons it. -/
inductive Method where
  | recordInputChunk (bytes : Bytes)
  | finishInput
  | beginResponse (status : Nat) (headers : List RequestResponseHeader)
  | recordResponseChunk (bytes : Bytes)
  | finishResponse
  | abandon
deriving DecidableEq, Repr

namespace RequestResponseOperation

/-- An operation that has recorded nothing. -/
def opened (contentType : String) (operation : ω) : RequestResponseOperation ω γ where
  classification := none
  contentType := contentType
  inputComplete := false
  inputCount := 0
  operation := some operation

/-- {lit}`RequestResponseOperation::start` with the answer of the factory.  The flag tells whether
the payload begins a request-response operation. -/
def start (schemaInvalid : Error) (requestResponse : Bool) (contentType : String)
    (started : Except Error ω) : Except Error (RequestResponseOperation ω γ) :=
  if ¬ requestResponse ∨ contentType = "" ∨ 128 < contentType.utf8ByteSize then
    .error schemaInvalid
  else
    match started with
    | .error error => .error error
    | .ok operation => .ok (opened contentType operation)

/-! ## Abandonment -/

/-- State of an operation that is over. -/
def released (state : RequestResponseOperation ω γ) : RequestResponseOperation ω γ :=
  { state with classification := none, operation := none }

/-- Calls that {lit}`abandon` makes. -/
def abandonCalls (state : RequestResponseOperation ω γ) : List (OperationCall Failure Digest) :=
  match state.operation with
  | none => []
  | some _ => [.abandonIncomplete]

/-- {lit}`abandon`. -/
def abandon (state : RequestResponseOperation ω γ) :
    Reply Failure Digest × RequestResponseOperation ω γ :=
  ({ result := .ok (), calls := state.abandonCalls }, state.released)

/-- Abandon the operation and return an error. -/
def refuse (state : RequestResponseOperation ω γ) (calls : List (OperationCall Failure Digest))
    (error : Error) : Reply Failure Digest × RequestResponseOperation ω γ :=
  ({ result := .error error, calls := calls ++ state.abandonCalls }, state.released)

/-! ## Input -/

/-- The payload of one piece of the input. -/
def inputPayload (adapter : Adapter ω γ Failure Digest) (contentType : String) (index : Nat)
    (bytes : Bytes) : OperationInputPayload Digest where
  channel := .input
  contentType := contentType
  inputIndex := index
  value := adapter.encodeBase64url bytes
  valueDigest := adapter.digestOf bytes

/-- {lit}`record_input_record`: record one piece of the input. -/
def recordInputRecord (adapter : Adapter ω γ Failure Digest) (state : RequestResponseOperation ω γ)
    (bytes : Bytes) : Reply Failure Digest × RequestResponseOperation ω γ :=
  if lastInputIndex < state.inputCount then
    state.refuse [] captureLimit
  else
    match state.operation with
    | none => ({ result := .error incompleteOperation, calls := [] }, state)
    | some operation =>
        let payload := inputPayload adapter state.contentType state.inputCount bytes
        match adapter.recordInput operation payload with
        | (.error error, next) =>
            { state with operation := some next }.refuse [.recordInput payload (.error error)] error
        | (.ok answer, next) =>
            ({ result := .ok (), calls := [.recordInput payload (.ok answer)] },
              { state with operation := some next, inputCount := state.inputCount + 1 })

/-- The loop of {lit}`record_input_chunk`: record pieces until one fails. -/
def recordPieces (adapter : Adapter ω γ Failure Digest) :
    RequestResponseOperation ω γ → List Bytes → Reply Failure Digest × RequestResponseOperation ω γ
  | state, [] => ({ result := .ok (), calls := [] }, state)
  | state, piece :: pieces =>
      let recorded := recordInputRecord adapter state piece
      match recorded.1.result with
      | .error _ => recorded
      | .ok _ =>
          let rest := recordPieces adapter recorded.2 pieces
          ({ result := rest.1.result, calls := recorded.1.calls ++ rest.1.calls }, rest.2)

/-- {lit}`record_input_chunk`. -/
def recordInputChunk (adapter : Adapter ω γ Failure Digest) (state : RequestResponseOperation ω γ)
    (bytes : Bytes) : Reply Failure Digest × RequestResponseOperation ω γ :=
  if state.inputComplete ∨ state.operation.isNone then
    ({ result := .error incompleteOperation, calls := [] }, state)
  else
    recordPieces adapter state (Chunks.chunks maxRequestInputChunkBytes bytes)

/-- {lit}`finish_input`: an input without a piece is recorded as one empty piece. -/
def finishInput (adapter : Adapter ω γ Failure Digest) (state : RequestResponseOperation ω γ) :
    Reply Failure Digest × RequestResponseOperation ω γ :=
  if state.inputComplete ∨ state.operation.isNone then
    state.refuse [] incompleteOperation
  else if state.inputCount = 0 then
    let recorded := recordInputRecord adapter state []
    match recorded.1.result with
    | .error _ => recorded
    | .ok _ => (recorded.1, { recorded.2 with inputComplete := true })
  else
    ({ result := .ok (), calls := [] }, { state with inputComplete := true })

/-! ## Response -/

/-- {lit}`checked_add` on {lit}`usize`. -/
def checkedAdd (left right : Nat) : Option Nat :=
  if left + right < 2 ^ 64 then some (left + right) else none

/-- The loop of {lit}`begin_response` over the headers, with the headers it captured and their
bytes so far.  A header that does not fit gives nothing. -/
def captureHeaders : List RequestResponseHeader → Nat → List RequestResponseHeader →
    Option (List RequestResponseHeader)
  | captured, _, [] => some captured
  | captured, bytes, header :: headers =>
      if maxResponseHeaders ≤ captured.length ∨ header.name = "" then
        none
      else
        match (checkedAdd bytes header.name.utf8ByteSize).bind fun total =>
            checkedAdd total header.value.length with
        | none => none
        | some bytes =>
            if maxResponseHeaderBytes < bytes then none
            else captureHeaders (captured ++ [header]) bytes headers

/-- {lit}`begin_response`. -/
def beginResponse (adapter : Adapter ω γ Failure Digest) (state : RequestResponseOperation ω γ)
    (status : Nat) (headers : List RequestResponseHeader) :
    Reply Failure Digest × RequestResponseOperation ω γ :=
  if ¬ state.inputComplete ∨ state.classification.isSome ∨ state.operation.isNone then
    state.refuse [] incompleteOperation
  else
    match captureHeaders [] 0 headers with
    | none => state.refuse [] captureLimit
    | some captured =>
        ({ result := .ok (), calls := [] },
          { state with
            classification := some (adapter.start { headers := captured, status := status }) })

/-- {lit}`record_response_chunk`. -/
def recordResponseChunk (adapter : Adapter ω γ Failure Digest)
    (state : RequestResponseOperation ω γ) (bytes : Bytes) :
    Reply Failure Digest × RequestResponseOperation ω γ :=
  match state.classification with
  | none => ({ result := .error incompleteOperation, calls := [] }, state)
  | some classification =>
      match adapter.recordBodyChunk classification bytes with
      | (.error error, next) => { state with classification := some next }.refuse [] error
      | (.ok _, next) =>
          ({ result := .ok (), calls := [] }, { state with classification := some next })

/-- {lit}`finish_response`: fail the operation if the response is classified as a failure. -/
def finishResponse (adapter : Adapter ω γ Failure Digest) (state : RequestResponseOperation ω γ) :
    Reply Failure Digest × RequestResponseOperation ω γ :=
  match state.classification with
  | none => ({ result := .error incompleteOperation, calls := [] }, state)
  | some classification =>
      match state.operation with
      | none => ({ result := .error incompleteOperation, calls := [] }, state.released)
      | some operation =>
          match adapter.finish classification with
          | some identity =>
              ({ result := adapter.fail operation identity .return,
                 calls := [.fail identity .return] }, state.released)
          | none => ({ result := .ok (), calls := [.succeed] }, state.released)

/-- Answer one method. -/
def step (adapter : Adapter ω γ Failure Digest) (state : RequestResponseOperation ω γ) :
    Method → Reply Failure Digest × RequestResponseOperation ω γ
  | .recordInputChunk bytes => recordInputChunk adapter state bytes
  | .finishInput => finishInput adapter state
  | .beginResponse status headers => beginResponse adapter state status headers
  | .recordResponseChunk bytes => recordResponseChunk adapter state bytes
  | .finishResponse => finishResponse adapter state
  | .abandon => state.abandon

end RequestResponseOperation
end RequestResponse
end ReproItSdk
