import ReproItSdk.Canonical.Agreement
import ReproItSdk.Http.Headers
import ReproItSdk.Runtime.NodeObservation

/-! # Responses of the Node HTTP adapter

A capture records the raw headers of a response as metadata and the rest as a canonical payload.  A
replay reads both and makes an object that stands for the response.  The function that makes names
lower case is a parameter.

Main definitions:

- Function {lit}`replayRequest`: the response that a record is replayed as.
- Structure {lit}`Shows`: a replayed response that looks like the live one.

Main results:

- Theorem {lit}`shows_iff`: which recorded responses are replayed as they were.
-/

namespace ReproItSdk
namespace Http
namespace Node

open Unicode Json Decimal Canonical OrderedRecord
open Runtime.Node (property text?)

/-! ## Bounds -/

/-- {lit}`MAX_BODY_BYTES`. -/
def maxBodyBytes : Nat :=
  16384

/-- {lit}`MAX_HEADER_BYTES`. -/
def maxHeaderBytes : Nat :=
  8192

/-- {lit}`MAX_HEADER_FIELDS`. -/
def maxHeaderFields : Nat :=
  64

/-- {lit}`MAX_PAYLOAD_BYTES`. -/
def maxPayloadBytes : Nat :=
  2 * maxBodyBytes

/-- {lit}`NATIVE_ENGINE_MAX_SEMANTIC_DEPENDENCY_RECORD_BYTES`. -/
def maxRecordBytes : Nat :=
  65536

/-- {lit}`EMPTY_PAYLOAD_FORMAT`. -/
def emptyPayloadFormat : Text :=
  "reproit.node-http-empty-response.v1".toList

/-- {lit}`STREAM_PAYLOAD_FORMAT`. -/
def streamPayloadFormat : Text :=
  "reproit.node-http-response.v1".toList

/-! ## Responses -/

/-- A header of a record: its name and its bytes. -/
abbrev Field : Type :=
  Text × Bytes

/-- A response that the runtime received.  Those without content have no body and no trailers. -/
structure LiveResponse where
  statusCode : Int
  statusMessage : Text
  httpVersion : Text
  rawHeaders : List Text
  rawTrailers : List Text
  chunks : List Bytes
  complete : Bool
  bodiless : statusCode = 204 ∨ statusCode = 304 → chunks.flatten = [] ∧ rawTrailers = []

/-- A response of a dependency. -/
structure DependencyResponse where
  errorCode : Option Text
  errorNumber : Option Nat
  metadata : List Field
  outcome : Text
  payload : Option Bytes
  status : Option Text
  statusCode : Option Int
deriving DecidableEq, Repr

/-- {lit}`canonicalBytes` of a document. -/
def payloadBytes (document : Document Int) : Option Bytes :=
  match Canonical.Node.canonicalValue document with
  | .ok value => some (utf8 (Canonical.Node.stringify value))
  | .error _ => none

/-- The payload of a response without a body. -/
def emptyDocument (live : LiveResponse) : Document Int :=
  .object [
    ("format".toList, .string emptyPayloadFormat),
    ("http_version".toList, .string live.httpVersion),
    ("status_code".toList, .number live.statusCode),
    ("status_message".toList, .string live.statusMessage)]

/-- The members of the payload of a response with a body. -/
def streamMembers (live : LiveResponse) (body : Bytes) : List (Text × Document Int) :=
  [("body".toList, .string (Base64.encode body)),
    ("format".toList, .string streamPayloadFormat),
    ("http_version".toList, .string live.httpVersion),
    ("raw_trailers".toList, .array (live.rawTrailers.map .string)),
    ("status_code".toList, .number live.statusCode),
    ("status_message".toList, .string live.statusMessage)]

/-- The payload of a response with a body. -/
def streamDocument (live : LiveResponse) (body : Bytes) : Document Int :=
  .object (streamMembers live body)

section Adapter

variable (lower : Text → Text)

/-! ## Captures -/

/-- The loop of {lit}`rawHeaders`. -/
def rawHeadersFrom : List (Text × Text) → List Field → Nat → Option (List Field)
  | [], metadata, _ => some metadata
  | (name, value) :: rest, metadata, total =>
      if lower name ∈ sensitiveHeaders then none
      else
        let total := total + ((utf8 name).length + (utf8 value).length)
        if maxHeaderFields ≤ metadata.length ∨ maxHeaderBytes < total then none
        else rawHeadersFrom rest (metadata ++ [(name, utf8 value)]) total

/-- {lit}`rawHeaders`. -/
def rawHeaders (values : List Text) : Option (List Field) :=
  if values.length % 2 ≠ 0 then none else rawHeadersFrom lower (pairs values) [] 0

/-- {lit}`emptyContentLength`. -/
def emptyContentLength : Option HeaderValue → Bool
  | none => true
  | some (.one value) => value = "0".toList
  | some (.many _) => false

/-- The number of a content length: digits without zeros before them. -/
def declaredLength (value : Text) : Option Nat :=
  if value ≠ [] ∧ value.all Char.isDigit = true ∧ (value = ['0'] ∨ value.head? ≠ some '0') then
    some (Nat.ofDigitChars 10 value 0)
  else none

/-- {lit}`boundedContentLength`. -/
def boundedContentLength : Option HeaderValue → Bool
  | none => true
  | some (.one value) => (declaredLength value).any fun length => length ≤ maxBodyBytes
  | some (.many _) => false

/-- {lit}`captureEmptyResponse`. -/
def captureEmptyResponse (live : LiveResponse) : Option DependencyResponse :=
  let headers := liveHeaders lower live.rawHeaders
  if (live.statusCode ≠ 204 ∧ live.statusCode ≠ 304) ∨ get "trailer".toList headers ≠ none ∨
      get "transfer-encoding".toList headers ≠ none ∨
      emptyContentLength (get "content-length".toList headers) = false then none
  else do
    let metadata ← rawHeaders lower live.rawHeaders
    let payload ← payloadBytes (emptyDocument live)
    return {
      errorCode := none
      errorNumber := none
      metadata := metadata
      outcome := "response".toList
      payload := some payload
      status := none
      statusCode := some live.statusCode }

/-- {lit}`responseHead`. -/
def responseHead (live : LiveResponse) : Option (List Field) :=
  if live.statusCode < 100 ∨ 599 < live.statusCode ∨ live.statusCode = 101 ∨
      boundedContentLength (get "content-length".toList (liveHeaders lower live.rawHeaders)) =
        false then none
  else rawHeaders lower live.rawHeaders

/-- {lit}`captureResponseChunk` for every chunk. -/
def captureChunks : List Bytes → Bytes → Option Bytes
  | [], body => some body
  | chunk :: rest, body =>
      if maxBodyBytes - body.length < chunk.length then none else captureChunks rest (body ++ chunk)

/-- The declared length of a response is the length of its body. -/
def lengthMatches (declared : Option HeaderValue) (body : Bytes) : Bool :=
  match declared with
  | none => true
  | some (.one value) => declaredLength value = some body.length
  | some (.many _) => false

/-- {lit}`captureStreamResponse`. -/
def captureStreamResponse (live : LiveResponse) (head : List Field) (body : Bytes) :
    Option DependencyResponse :=
  if live.complete = false ∨
      lengthMatches (get "content-length".toList (liveHeaders lower live.rawHeaders)) body =
        false then none
  else do
    let _ ← rawHeaders lower live.rawTrailers
    let payload ← payloadBytes (streamDocument live body)
    if maxPayloadBytes < payload.length then none
    else
      return {
        errorCode := none
        errorNumber := none
        metadata := head
        outcome := "response".toList
        payload := some payload
        status := none
        statusCode := some live.statusCode }

/-- What is captured of a response. -/
def captured (live : LiveResponse) : Option DependencyResponse :=
  match captureEmptyResponse lower live with
  | some response => some response
  | none => do
      let head ← responseHead lower live
      let body ← captureChunks live.chunks []
      captureStreamResponse lower live head body

/-! ## Records -/

/-- The fields of a record. -/
structure ResponseInput where
  errorCode : Option Text
  errorNumber : Option Nat
  metadata : List (Text × Text)
  outcome : Text
  payload : Option Text
  status : Option Text
  statusCode : Option Int
deriving DecidableEq, Repr

/-- The loop of {lit}`encodeMetadata`. -/
def encodeMetadataFrom : List Field → Nat → Option (List (Text × Text))
  | [], _ => some []
  | (name, value) :: rest, total =>
      let total := total + ((utf8 name).length + value.length)
      if maxRecordBytes < (utf8 name).length ∨ maxRecordBytes < value.length ∨
          maxRecordBytes < total then none
      else do
        let encoded ← encodeMetadataFrom rest total
        return (Base64.encode (utf8 name), Base64.encode value) :: encoded

/-- {lit}`encodeMetadata`. -/
def encodeMetadata (metadata : List Field) : Option (List (Text × Text)) :=
  if maxRecordBytes < metadata.length then none else encodeMetadataFrom metadata 0

/-- The payload of a record. -/
def encodePayload : Option Bytes → Option (Option Text)
  | none => some none
  | some payload =>
      if maxRecordBytes < payload.length then none else some (some (Base64.encode payload))

/-- {lit}`responseInput`. -/
def responseInput (response : DependencyResponse) : Option ResponseInput := do
  let metadata ← encodeMetadata response.metadata
  let payload ← encodePayload response.payload
  return {
    errorCode := response.errorCode
    errorNumber := response.errorNumber
    metadata := metadata
    outcome := response.outcome
    payload := payload
    status := response.status
    statusCode := response.statusCode }

/-- The fields of the record of a response. -/
def recorded (live : LiveResponse) : Option ResponseInput :=
  (captured lower live).bind responseInput

/-- {lit}`decodeBase64url`. -/
def decodeBase64url (value : Text) : Option Bytes :=
  if maxRecordBytes * 2 < value.length then none else Base64.decodeCanonical value

/-- A text without the mark of the order of bytes. -/
def dropMark : Text → Text
  | [] => []
  | first :: rest => if first = '\uFEFF' then rest else first :: rest

/-- The strict decoder of texts, which leaves out the mark of the order of bytes. -/
def decodeStrict (bytes : Bytes) : Option Text :=
  (decodeUtf8 bytes).map dropMark

/-- The loop of {lit}`decodeMetadata`. -/
def decodeMetadataFrom : List (Text × Text) → Nat → Option (List Field)
  | [], _ => some []
  | (name, value) :: rest, total => do
      let name ← decodeBase64url name
      let value ← decodeBase64url value
      let total := total + (name.length + value.length)
      let name ← if maxRecordBytes < total then none else decodeStrict name
      let metadata ← decodeMetadataFrom rest total
      return (name, value) :: metadata

/-- {lit}`decodeMetadata`. -/
def decodeMetadata (metadata : List (Text × Text)) : Option (List Field) :=
  if maxRecordBytes < metadata.length then none else decodeMetadataFrom metadata 0

/-- The payload in a record. -/
def decodePayload : Option Text → Option (Option Bytes)
  | none => some none
  | some payload => (decodeBase64url payload).map some

/-- {lit}`responseFromRecord`. -/
def responseFromRecord (input : ResponseInput) : Option DependencyResponse := do
  let metadata ← decodeMetadata input.metadata
  let payload ← decodePayload input.payload
  return {
    errorCode := input.errorCode
    errorNumber := input.errorNumber
    metadata := metadata
    outcome := input.outcome
    payload := payload
    status := input.status
    statusCode := input.statusCode }

/-! ## Replays -/

/-- What the payload of a response says. -/
structure Payload where
  httpVersion : Text
  statusCode : Int
  statusMessage : Text
  stream : Option (Text × List Text)
deriving DecidableEq, Repr

/-- {lit}`parsePayload`. -/
def parsePayload (bytes : Bytes) : Option (Document Int) :=
  if maxPayloadBytes < bytes.length then none
  else do
    let text ← decodeUtf8 bytes
    let parsed ← parseJson text
    let document ← integers parsed
    if payloadBytes document = some bytes then some document else none

/-- An integer. -/
def integer? : Document Int → Option Int
  | .number value => some value
  | _ => none

/-- The texts of an array. -/
def texts? : Document Int → Option (List Text)
  | .array elements => elements.mapM text?
  | _ => none

/-- The parts of {lit}`replayResponse` about the keys and the types of a payload. -/
def payloadOf : Document Int → Option Payload
  | .object members => do
      let format ← (property members "format").bind text?
      let httpVersion ← (property members "http_version").bind text?
      let statusCode ← (property members "status_code").bind integer?
      let statusMessage ← (property members "status_message").bind text?
      if format = emptyPayloadFormat then
        if (members.map Prod.fst).isPerm ["format".toList, "http_version".toList,
            "status_code".toList, "status_message".toList] then
          return {
            httpVersion := httpVersion
            statusCode := statusCode
            statusMessage := statusMessage
            stream := none }
        else none
      else if format = streamPayloadFormat then
        if (members.map Prod.fst).isPerm ["body".toList, "format".toList, "http_version".toList,
            "raw_trailers".toList, "status_code".toList, "status_message".toList] then do
          let body ← (property members "body").bind text?
          let trailers ← (property members "raw_trailers").bind texts?
          return {
            httpVersion := httpVersion
            statusCode := statusCode
            statusMessage := statusMessage
            stream := some (body, trailers) }
        else none
      else none
  | _ => none

/-- The loop of {lit}`replayResponse`. -/
def readMetadata : List Field → List Text → List (Text × Text) → Nat →
    Option (List Text × List (Text × Text))
  | [], raw, headers, _ => some (raw, headers)
  | (name, bytes) :: rest, raw, headers, total => do
      let value ← decodeStrict bytes
      let total := total + ((utf8 name).length + bytes.length)
      if maxHeaderBytes < total ∨ lower name ∈ sensitiveHeaders then none
      else readMetadata rest (raw ++ [name, value]) (mergeLine headers (lower name) value) total

/-- {lit}`decodeBody`. -/
def decodeBody (value : Text) : Option Bytes := do
  let body ← Base64.decodeCanonical value
  if maxBodyBytes < body.length then none else some body

/-- A response that a replay makes. -/
structure ReplayedResponse where
  statusCode : Int
  statusMessage : Text
  httpVersion : Text
  rawHeaders : List Text
  headers : List (Text × Text)
  rawTrailers : List Text
  trailers : List (Text × Text)
  body : Bytes
deriving DecidableEq, Repr

/-- The body and the raw trailers of a payload. -/
def streamOf : Option (Text × List Text) → Option (Bytes × List Text)
  | none => some ([], [])
  | some (body, trailers) => do
      let body ← decodeBody body
      let _ ← rawHeaders lower trailers
      return (body, trailers)

/-- {lit}`replayResponse`. -/
def replayResponse (response : DependencyResponse) : Option ReplayedResponse := do
  let bytes ← response.payload
  let document ← parsePayload bytes
  let payload ← payloadOf document
  if response.statusCode ≠ some payload.statusCode ∨
      (payload.stream = none ∧ payload.statusCode ≠ 204 ∧ payload.statusCode ≠ 304) ∨
      payload.statusCode < 100 ∨ 599 < payload.statusCode ∨ payload.statusCode = 101 then none
  else if maxHeaderFields < response.metadata.length then none
  else do
    let (raw, headers) ← readMetadata lower response.metadata [] [] 0
    let (body, trailers) ← streamOf lower payload.stream
    return {
      statusCode := payload.statusCode
      statusMessage := payload.statusMessage
      httpVersion := payload.httpVersion
      rawHeaders := raw
      headers := headers
      rawTrailers := trailers
      trailers := headerObject lower trailers
      body := body }

/-- {lit}`replayRequest` of the fields of a record. -/
def replayRequest (input : ResponseInput) : Option ReplayedResponse := do
  let response ← responseFromRecord input
  if response.outcome = "response".toList then replayResponse lower response else none

/-- A replayed response looks like the live one. -/
structure Shows (live : LiveResponse) (replayed : ReplayedResponse) : Prop where
  statusCode : replayed.statusCode = live.statusCode
  statusMessage : replayed.statusMessage = live.statusMessage
  httpVersion : replayed.httpVersion = live.httpVersion
  rawHeaders : replayed.rawHeaders = live.rawHeaders
  headers : liveHeaders lower live.rawHeaders = ones replayed.headers
  rawTrailers : replayed.rawTrailers = live.rawTrailers
  trailers : liveHeaders lower live.rawTrailers = ones replayed.trailers
  body : replayed.body = live.chunks.flatten

/-- Whatever is recorded of a response is replayed as a response that looks like it. -/
def ShownInReplay (live : LiveResponse) : Prop :=
  ∀ input, recorded lower live = some input →
    ∃ replayed, replayRequest lower input = some replayed ∧ Shows lower live replayed

/-- No name whose first value is kept is repeated. -/
def Once (raw : List Text) : Prop :=
  ∀ name ∈ firstValueNames, ((pairs raw).map fun field => lower field.1).count name ≤ 1

/-- No text starts with the mark of the order of bytes. -/
def Unmarked (raw : List Text) : Prop :=
  ∀ text ∈ raw, text.head? ≠ some '\uFEFF'

/-- No header starts with the mark of the order of bytes, no header or trailer whose first value is
kept is repeated, and the payload of a response that is captured as empty is within the bound. -/
structure HoldsWhen (live : LiveResponse) : Prop where
  unmarked : Unmarked live.rawHeaders
  headers : Once lower live.rawHeaders
  trailers : Once lower live.rawTrailers
  payload : (captureEmptyResponse lower live).isSome = true →
    ∀ bytes ∈ payloadBytes (emptyDocument live), bytes.length ≤ maxPayloadBytes

/-! ## Metadata -/

/-- The bytes of some headers. -/
def weight (fields : List (Text × Text)) : Nat :=
  (fields.map fun field => (utf8 field.1).length + (utf8 field.2).length).sum

/-- Headers with their values as bytes. -/
def fieldsOf (fields : List (Text × Text)) : List Field :=
  fields.map fun field => (field.1, utf8 field.2)

/-- Raw headers that are taken are within the bounds and not sensitive. -/
theorem rawHeadersFrom_some {fields : List (Text × Text)} {metadata result : List Field}
    {total : Nat} (few : metadata.length ≤ maxHeaderFields) (small : total ≤ maxHeaderBytes)
    (taken : rawHeadersFrom lower fields metadata total = some result) :
    result = metadata ++ fieldsOf fields ∧ result.length ≤ maxHeaderFields ∧
      total + weight fields ≤ maxHeaderBytes ∧
      ∀ field ∈ fields, lower field.1 ∉ sensitiveHeaders := by
  induction fields generalizing metadata total with
  | nil =>
      cases taken
      refine ⟨(List.append_nil _).symm, few, small, fun _ among => by cases among⟩
  | cons field fields ih =>
      rcases field with ⟨name, value⟩
      simp only [rawHeadersFrom] at taken
      split at taken
      · cases taken
      · rename_i plain
        split at taken
        · cases taken
        · rename_i fits
          rw [not_or, Nat.not_le, Nat.not_lt] at fits
          have more : (metadata ++ [(name, utf8 value)]).length ≤ maxHeaderFields := by
            rw [List.length_append, List.length_singleton]
            exact fits.1
          rcases ih more fits.2 taken with ⟨whole, count, bytes, others⟩
          refine ⟨?_, count, ?_, ?_⟩
          · rw [whole, List.append_assoc]
            rfl
          · simp only [weight, List.map_cons, List.sum_cons] at bytes ⊢
            omega
          · intro other among
            rcases List.mem_cons.mp among with rfl | later
            · exact plain
            · exact others other later

/-- Raw headers that are taken are pairs within the bounds and not sensitive. -/
theorem rawHeaders_some {values : List Text} {metadata : List Field}
    (taken : rawHeaders lower values = some metadata) :
    metadata = fieldsOf (pairs values) ∧ values.length % 2 = 0 ∧
      metadata.length ≤ maxHeaderFields ∧ weight (pairs values) ≤ maxHeaderBytes ∧
      ∀ field ∈ pairs values, lower field.1 ∉ sensitiveHeaders := by
  unfold rawHeaders at taken
  split at taken
  · cases taken
  · rename_i even
    rcases rawHeadersFrom_some lower (Nat.zero_le _) (Nat.zero_le _) taken with
      ⟨whole, count, bytes, plain⟩
    rw [Nat.zero_add] at bytes
    exact ⟨whole, not_not.mp even, count, bytes, plain⟩

/-- A value that is written for a record is read back. -/
theorem decodeBase64url_encode {bytes : Bytes} (small : bytes.length ≤ maxRecordBytes) :
    decodeBase64url (Base64.encode bytes) = some bytes := by
  have length := Base64.length_encode bytes
  have fits : ¬ maxRecordBytes * 2 < (Base64.encode bytes).length := by
    simp only [maxRecordBytes] at small ⊢
    omega
  rw [decodeBase64url, if_neg fits, Base64.decodeCanonical_encode]

/-- Metadata is read back without the marks of its names. -/
theorem decodeMetadataFrom_encodeMetadataFrom {metadata : List Field} {total : Nat}
    {encoded : List (Text × Text)} (written : encodeMetadataFrom metadata total = some encoded) :
    decodeMetadataFrom encoded total =
        some (metadata.map fun field => (dropMark field.1, field.2)) ∧
      encoded.length = metadata.length := by
  induction metadata generalizing total encoded with
  | nil =>
      cases written
      exact ⟨rfl, rfl⟩
  | cons field metadata ih =>
      rcases field with ⟨name, value⟩
      simp only [encodeMetadataFrom] at written
      split at written
      · cases written
      · rename_i fits
        simp only [not_or, Nat.not_lt] at fits
        rcases Option.bind_eq_some_iff.mp written with ⟨rest, others, made⟩
        cases made
        rcases ih others with ⟨back, count⟩
        constructor
        · simp only [decodeMetadataFrom, decodeBase64url_encode fits.1,
            decodeBase64url_encode fits.2.1, Option.bind_eq_bind, Option.bind_some,
            if_neg (Nat.not_lt.mpr fits.2.2), decodeStrict, decodeUtf8_utf8, Option.map_some, back,
            Option.pure_def, List.map_cons]
        · rw [List.length_cons, List.length_cons, count]

/-- A payload is read back. -/
theorem decodePayload_encodePayload {payload : Option Bytes} {encoded : Option Text}
    (written : encodePayload payload = some encoded) : decodePayload encoded = some payload := by
  unfold encodePayload at written
  split at written
  · cases written
    rfl
  · split at written
    · cases written
    · rename_i small
      cases written
      rw [decodePayload, decodeBase64url_encode (Nat.not_lt.mp small)]
      rfl

/-- A response is read back from the fields of its record, without the marks of its names. -/
theorem responseFromRecord_responseInput {response : DependencyResponse} {input : ResponseInput}
    (written : responseInput response = some input) :
    responseFromRecord input = some { response with
      metadata := response.metadata.map fun field => (dropMark field.1, field.2) } := by
  rcases Option.bind_eq_some_iff.mp written with ⟨metadata, encoded, written⟩
  rcases Option.bind_eq_some_iff.mp written with ⟨payload, kept, made⟩
  cases made
  unfold encodeMetadata at encoded
  split at encoded
  · cases encoded
  · rename_i few
    rcases decodeMetadataFrom_encodeMetadataFrom encoded with ⟨back, count⟩
    rw [← count] at few
    simp only [responseFromRecord, decodeMetadata, if_neg few, back,
      decodePayload_encodePayload kept, Option.bind_eq_bind, Option.bind_some, Option.pure_def]

/-! ## Payloads -/

/-- A document whose objects are in order is read back from its bytes. -/
theorem parsePayload_payloadBytes {document : Document Int} (isJson : IsJson document)
    (inOrder : document.sorted Canonical.Node.propertyCode = document) {bytes : Bytes}
    (written : payloadBytes document = some bytes) (short : bytes.length ≤ maxPayloadBytes) :
    parsePayload bytes = some document := by
  have made : payloadBytes document = some (utf8 (Canonical.Node.stringify document)) := by
    rw [payloadBytes, Canonical.Node.canonicalValue_eq isJson, inOrder]
  have same : bytes = utf8 (Canonical.Node.stringify document) := by
    rw [written] at made
    exact Option.some.inj made
  have readable : Readable (document.map decimal) := by
    apply (Document.all_map decimal document).mpr
    exact isJson.mono (fun value _ => ⟨value, rfl⟩) (fun _ _ => trivial) fun _ holds => holds
  have parsed : parseJson (Canonical.Node.stringify document) = some (document.map decimal) :=
    parseJson_render readable
  unfold parsePayload
  rw [if_neg (Nat.not_lt.mpr short)]
  nth_rewrite 1 [same]
  rw [decodeUtf8_utf8]
  simp only [Option.bind_eq_bind, Option.bind_some]
  rw [parsed]
  simp only [Option.bind_some]
  rw [integers_map]
  exact if_pos written

/-- Members in order are an object in order. -/
theorem sorted_object {members : List (Text × Document Int)}
    (up : (members.map fun member => Canonical.Node.propertyCode member.1).Pairwise (· ≤ ·))
    (inside : ∀ member ∈ members,
      member.2.sorted Canonical.Node.propertyCode = member.2) :
    (Document.object members).sorted Canonical.Node.propertyCode = .object members := by
  have values : Document.sortedMembers Canonical.Node.propertyCode members = members := by
    rw [Document.sortedMembers_eq]
    have same : members.map (fun member =>
        (member.1, member.2.sorted Canonical.Node.propertyCode)) = members.map id := by
      apply List.map_congr_left
      intro member among
      rw [inside member among]
      rfl
    rw [same, List.map_id]
  rw [Document.sorted, values]
  exact congrArg _ (List.pairwise_map.mp up).insertionSort_eq

/-- Strings in an array are in order. -/
theorem sorted_strings (strings : List Text) :
    (Document.array (strings.map Document.string) : Document Int).sorted
      Canonical.Node.propertyCode = .array (strings.map .string) := by
  rw [Document.sorted, Document.sortedElements_eq, List.map_map]
  rfl

/-- The payload of a response without a body is a document in order. -/
theorem emptyDocument_inOrder (live : LiveResponse) :
    (emptyDocument live).sorted Canonical.Node.propertyCode = emptyDocument live := by
  apply sorted_object
  · change (["format".toList, "http_version".toList, "status_code".toList,
      "status_message".toList].map Canonical.Node.propertyCode).Pairwise (· ≤ ·)
    decide
  · simp only [List.forall_mem_cons]
    exact ⟨rfl, rfl, rfl, rfl, fun _ among => by cases among⟩

/-- So is the payload of a response with a body. -/
theorem streamDocument_inOrder (live : LiveResponse) (body : Bytes) :
    (streamDocument live body).sorted Canonical.Node.propertyCode = streamDocument live body := by
  apply sorted_object
  · change (["body".toList, "format".toList, "http_version".toList, "raw_trailers".toList,
      "status_code".toList, "status_message".toList].map
        Canonical.Node.propertyCode).Pairwise (· ≤ ·)
    decide
  · simp only [streamMembers, List.forall_mem_cons]
    exact ⟨rfl, rfl, rfl, sorted_strings _, rfl, rfl, fun _ among => by cases among⟩

/-- The payload of a response without a body is a value. -/
theorem emptyDocument_isJson {live : LiveResponse} (small : live.statusCode.natAbs ≤ 599) :
    IsJson (emptyDocument live) := by
  apply Document.All.object
  · change ["format".toList, "http_version".toList, "status_code".toList,
      "status_message".toList].Nodup
    decide
  · exact fun _ _ => trivial
  · simp only [List.forall_mem_cons]
    exact ⟨.string _ trivial, .string _ trivial, .number _ (by omega), .string _ trivial,
      fun _ among => by cases among⟩

/-- So is the payload of a response with a body. -/
theorem streamDocument_isJson {live : LiveResponse} (small : live.statusCode.natAbs ≤ 599)
    (body : Bytes) : IsJson (streamDocument live body) := by
  apply Document.All.object
  · change ["body".toList, "format".toList, "http_version".toList, "raw_trailers".toList,
      "status_code".toList, "status_message".toList].Nodup
    decide
  · exact fun _ _ => trivial
  · have strings : IsJson (.array (live.rawTrailers.map .string)) := by
      apply Document.All.array
      intro element among
      rcases List.mem_map.mp among with ⟨text, -, rfl⟩
      exact .string text trivial
    simp only [streamMembers, List.forall_mem_cons]
    exact ⟨.string _ trivial, .string _ trivial, .string _ trivial, strings,
      .number _ (by omega), .string _ trivial, fun _ among => by cases among⟩

/-- The texts of an array of strings. -/
theorem texts_strings (strings : List Text) :
    texts? (.array (strings.map .string)) = some strings := by
  change (strings.map Document.string).mapM text? = some strings
  induction strings with
  | nil => rfl
  | cons first strings ih =>
      rw [List.map_cons, List.mapM_cons, ih]
      rfl

/-- What the payload of a response without a body says. -/
theorem payloadOf_emptyDocument (live : LiveResponse) :
    payloadOf (emptyDocument live) = some {
      httpVersion := live.httpVersion
      statusCode := live.statusCode
      statusMessage := live.statusMessage
      stream := none } :=
  rfl

/-- What the payload of a response with a body says. -/
theorem payloadOf_streamDocument (live : LiveResponse) (body : Bytes) :
    payloadOf (streamDocument live body) = some {
      httpVersion := live.httpVersion
      statusCode := live.statusCode
      statusMessage := live.statusMessage
      stream := some (Base64.encode body, live.rawTrailers) } := by
  have apart : streamPayloadFormat ≠ emptyPayloadFormat := by decide
  have keys : ((streamMembers live body).map Prod.fst).isPerm ["body".toList, "format".toList,
      "http_version".toList, "raw_trailers".toList, "status_code".toList,
      "status_message".toList] = true := by
    change (["body".toList, "format".toList, "http_version".toList, "raw_trailers".toList,
      "status_code".toList, "status_message".toList].isPerm _) = true
    decide
  have format : property (streamMembers live body) "format" =
      some (.string streamPayloadFormat) := rfl
  have version : property (streamMembers live body) "http_version" =
      some (.string live.httpVersion) := rfl
  have code : property (streamMembers live body) "status_code" =
      some (.number live.statusCode) := rfl
  have message : property (streamMembers live body) "status_message" =
      some (.string live.statusMessage) := rfl
  have text : property (streamMembers live body) "body" =
      some (.string (Base64.encode body)) := rfl
  have trailers : property (streamMembers live body) "raw_trailers" =
      some (.array (live.rawTrailers.map .string)) := rfl
  simp only [payloadOf, streamDocument, format, version, code, message, Option.bind_some, text?,
    integer?, Option.bind_eq_bind, if_neg apart, if_true, keys, text, trailers, texts_strings,
    Option.pure_def]

/-! ## Replayed headers -/

/-- Names and values one after the other. -/
def flat (fields : List (Text × Text)) : List Text :=
  fields.flatMap fun field => [field.1, field.2]

/-- Raw headers of an even number are their pairs. -/
theorem flat_pairs (values : List Text) (even : values.length % 2 = 0) :
    flat (pairs values) = values := by
  induction values using pairs.induct with
  | case1 name value rest ih =>
      have rest_ := ih (by simp only [List.length_cons] at even; omega)
      rw [pairs, flat, List.flatMap_cons]
      exact congrArg (fun rest => name :: value :: rest) rest_
  | case2 values short =>
      cases values with
      | nil => rfl
      | cons name values =>
          cases values with
          | nil => cases even
          | cons value rest => exact absurd rfl (short name value rest)

/-- A replay reads the headers of a record, without the marks of their values. -/
theorem readMetadata_some {fields : List (Text × Text)} {raw raw' : List Text}
    {headers headers' : List (Text × Text)} {total : Nat}
    (read : readMetadata lower (fieldsOf fields) raw headers total = some (raw', headers')) :
    raw' = raw ++ flat (fields.map fun field => (field.1, dropMark field.2)) := by
  induction fields generalizing raw headers total with
  | nil =>
      cases read
      exact (List.append_nil _).symm
  | cons field fields ih =>
      rcases field with ⟨name, value⟩
      simp only [fieldsOf, List.map_cons, readMetadata, decodeStrict, decodeUtf8_utf8,
        Option.map_some, Option.bind_eq_bind, Option.bind_some] at read
      split at read
      · cases read
      · rw [ih read, List.append_assoc]
        rfl

/-- Headers within the bounds that are not sensitive are read, when they have no marks. -/
theorem readMetadata_fieldsOf {fields : List (Text × Text)}
    (plain : ∀ field ∈ fields, lower field.1 ∉ sensitiveHeaders)
    (unmarked : ∀ field ∈ fields, dropMark field.2 = field.2) {raw : List Text}
    {headers : List (Text × Text)} {total : Nat} (small : total + weight fields ≤ maxHeaderBytes) :
    readMetadata lower (fieldsOf fields) raw headers total = some (raw ++ flat fields,
      fields.foldl (fun headers field => mergeLine headers (lower field.1) field.2) headers) := by
  induction fields generalizing raw headers total with
  | nil =>
      rw [flat, List.flatMap_nil, List.append_nil]
      rfl
  | cons field fields ih =>
      rcases field with ⟨name, value⟩
      have here := unmarked _ (List.mem_cons_self ..)
      simp only [weight, List.map_cons, List.sum_cons] at small
      have fits : total + ((utf8 name).length + (utf8 value).length) + weight fields ≤
          maxHeaderBytes := by
        simp only [weight]
        omega
      have taken : ¬ (maxHeaderBytes < total + ((utf8 name).length + (utf8 value).length) ∨
          lower name ∈ sensitiveHeaders) := by
        rintro (large | sensitive)
        · omega
        · exact plain _ (List.mem_cons_self ..) sensitive
      simp only [fieldsOf, List.map_cons, readMetadata, decodeStrict, decodeUtf8_utf8,
        Option.map_some, Option.bind_eq_bind, Option.bind_some, here, if_neg taken]
      refine (ih (fun other among => plain other (List.mem_cons_of_mem _ among))
        (fun other among => unmarked other (List.mem_cons_of_mem _ among)) fits).trans ?_
      rw [List.append_assoc]
      rfl

/-! ## Captures and replays -/

/-- What is known of a captured response and of the body in its payload. -/
structure Capture (live : LiveResponse) (response : DependencyResponse)
    (stream : Option (Text × List Text)) : Prop where
  outcome : response.outcome = "response".toList
  statusCode : response.statusCode = some live.statusCode
  headers : rawHeaders lower live.rawHeaders = some response.metadata
  valid : 100 ≤ live.statusCode ∧ live.statusCode ≤ 599 ∧ live.statusCode ≠ 101
  bodiless : stream = none → live.statusCode = 204 ∨ live.statusCode = 304
  content : streamOf lower stream = some (live.chunks.flatten, live.rawTrailers)
  trailers : ∀ field ∈ pairs live.rawTrailers, lower field.1 ∉ sensitiveHeaders
  payload : ∃ document bytes, response.payload = some bytes ∧
    payloadBytes document = some bytes ∧ IsJson document ∧
    document.sorted Canonical.Node.propertyCode = document ∧
    payloadOf document = some {
      httpVersion := live.httpVersion
      statusCode := live.statusCode
      statusMessage := live.statusMessage
      stream := stream }
  short : captureEmptyResponse lower live = some response ∨
    ∀ bytes ∈ response.payload, bytes.length ≤ maxPayloadBytes

/-- The chunks that are kept are the body. -/
theorem captureChunks_some {chunks : List Bytes} {body result : Bytes}
    (small : body.length ≤ maxBodyBytes) (kept : captureChunks chunks body = some result) :
    result = body ++ chunks.flatten ∧ result.length ≤ maxBodyBytes := by
  induction chunks generalizing body with
  | nil =>
      cases kept
      exact ⟨(List.append_nil _).symm, small⟩
  | cons chunk chunks ih =>
      simp only [captureChunks] at kept
      split at kept
      · cases kept
      · rename_i fits
        have more : (body ++ chunk).length ≤ maxBodyBytes := by
          rw [List.length_append]
          omega
        rcases ih more kept with ⟨whole, bound⟩
        rw [List.append_assoc] at whole
        exact ⟨whole, bound⟩

/-- The capture of a response without a body. -/
theorem capture_of_empty {live : LiveResponse} {response : DependencyResponse}
    (taken : captureEmptyResponse lower live = some response) :
    Capture lower live response none := by
  have whole := taken
  simp only [captureEmptyResponse] at taken
  split at taken
  · cases taken
  · rename_i empty
    have code : live.statusCode = 204 ∨ live.statusCode = 304 := by
      by_contra other
      rw [not_or] at other
      exact empty (.inl other)
    rcases Option.bind_eq_some_iff.mp taken with ⟨metadata, headers, taken⟩
    rcases Option.bind_eq_some_iff.mp taken with ⟨payload, written, made⟩
    cases made
    rcases live.bodiless code with ⟨noBody, noTrailers⟩
    have small : live.statusCode.natAbs ≤ 599 := by omega
    exact {
      outcome := rfl
      statusCode := rfl
      headers := headers
      valid := by omega
      bodiless := fun _ => code
      content := by rw [noBody, noTrailers]; rfl
      trailers := by rw [noTrailers]; exact fun _ among => by cases among
      payload := ⟨_, payload, rfl, written, emptyDocument_isJson small,
        emptyDocument_inOrder live, payloadOf_emptyDocument live⟩
      short := .inl whole }

/-- The payload of a response that is captured as empty. -/
theorem payload_of_empty {live : LiveResponse} {response : DependencyResponse}
    (taken : captureEmptyResponse lower live = some response) :
    response.payload = payloadBytes (emptyDocument live) := by
  simp only [captureEmptyResponse] at taken
  split at taken
  · cases taken
  · rcases Option.bind_eq_some_iff.mp taken with ⟨metadata, headers, taken⟩
    rcases Option.bind_eq_some_iff.mp taken with ⟨payload, written, made⟩
    cases made
    exact written.symm

/-- The capture of a response with a body. -/
theorem capture_of_stream {live : LiveResponse} {head : List Field} {body : Bytes}
    {response : DependencyResponse} (headed : responseHead lower live = some head)
    (kept : captureChunks live.chunks [] = some body)
    (taken : captureStreamResponse lower live head body = some response) :
    ∃ stream, Capture lower live response stream := by
  unfold responseHead at headed
  split at headed
  · cases headed
  · rename_i valid
    simp only [not_or, Int.not_lt] at valid
    simp only [captureStreamResponse] at taken
    split at taken
    · cases taken
    · rcases Option.bind_eq_some_iff.mp taken with ⟨trailers, listed, taken⟩
      rcases Option.bind_eq_some_iff.mp taken with ⟨payload, written, taken⟩
      split at taken
      · cases taken
      · rename_i short
        cases taken
        rcases captureChunks_some (Nat.zero_le _) kept with ⟨whole, bound⟩
        rw [List.nil_append] at whole
        have small : live.statusCode.natAbs ≤ 599 := by omega
        have decoded : decodeBody (Base64.encode body) = some body := by
          rw [decodeBody, Base64.decodeCanonical_encode]
          exact if_neg (Nat.not_lt.mpr bound)
        refine ⟨some (Base64.encode body, live.rawTrailers), ?_⟩
        exact {
          outcome := rfl
          statusCode := rfl
          headers := headed
          valid := ⟨valid.1, valid.2.1, valid.2.2.1⟩
          bodiless := fun absent => by cases absent
          content := by
            rw [streamOf, decoded, listed, ← whole]
            rfl
          trailers := (rawHeaders_some lower listed).2.2.2.2
          payload := ⟨_, payload, rfl, written, streamDocument_isJson small body,
            streamDocument_inOrder live body, payloadOf_streamDocument live body⟩
          short := .inr fun bytes given => by
            rw [← Option.some.inj given]
            exact Nat.not_lt.mp short }

/-- A captured response is one of the two. -/
theorem capture_of_captured {live : LiveResponse} {response : DependencyResponse}
    (taken : captured lower live = some response) : ∃ stream, Capture lower live response stream := by
  unfold captured at taken
  split at taken
  · rename_i empty
    cases taken
    exact ⟨none, capture_of_empty lower empty⟩
  · rcases Option.bind_eq_some_iff.mp taken with ⟨head, headed, taken⟩
    rcases Option.bind_eq_some_iff.mp taken with ⟨body, kept, taken⟩
    exact capture_of_stream lower headed kept taken

/-- A text without the mark is kept by the decoder, and one with it is not. -/
theorem dropMark_eq_iff (text : Text) : dropMark text = text ↔ text.head? ≠ some '\uFEFF' := by
  cases text with
  | nil => simp [dropMark]
  | cons first rest =>
      by_cases mark : first = '\uFEFF'
      · rw [dropMark, if_pos mark]
        constructor
        · intro same
          have length := congrArg List.length same
          rw [List.length_cons] at length
          omega
        · intro apart
          exact absurd (congrArg some mark) apart
      · rw [dropMark, if_neg mark]
        constructor
        · exact fun _ found => mark (Option.some.inj found)
        · exact fun _ => rfl

/-- Texts of pairs. -/
theorem flat_map (change : Text → Text) (fields : List (Text × Text)) :
    flat (fields.map fun field => (change field.1, change field.2)) = (flat fields).map change := by
  induction fields with
  | nil => rfl
  | cons field fields ih =>
      rw [List.map_cons, flat, flat, List.flatMap_cons, List.flatMap_cons, List.map_append]
      exact congrArg (fun rest => change field.1 :: change field.2 :: rest) ih

/-- What a replay makes of a response. -/
theorem replayResponse_some {response : DependencyResponse} {replayed : ReplayedResponse}
    (read : replayResponse lower response = some replayed) :
    (∃ headers, readMetadata lower response.metadata [] [] 0 =
      some (replayed.rawHeaders, headers)) ∧
      ∀ bytes ∈ response.payload, bytes.length ≤ maxPayloadBytes := by
  rcases Option.bind_eq_some_iff.mp read with ⟨bytes, given, read⟩
  rcases Option.bind_eq_some_iff.mp read with ⟨document, parsed, read⟩
  rcases Option.bind_eq_some_iff.mp read with ⟨payload, -, read⟩
  have short : bytes.length ≤ maxPayloadBytes := by
    unfold parsePayload at parsed
    split at parsed
    · cases parsed
    · rename_i fits
      exact Nat.not_lt.mp fits
  split at read
  · cases read
  · split at read
    · cases read
    · rcases Option.bind_eq_some_iff.mp read with ⟨⟨raw, headers⟩, listed, read⟩
      rcases Option.bind_eq_some_iff.mp read with ⟨⟨body, trailers⟩, -, made⟩
      cases made
      refine ⟨⟨headers, listed⟩, ?_⟩
      intro other found
      rw [given] at found
      rwa [← Option.some.inj found]

/-- A response whose headers have no marks is replayed with its raw headers and with the objects of
the adapter. -/
theorem replayResponse_capture {live : LiveResponse} {response : DependencyResponse}
    {stream : Option (Text × List Text)} (capture : Capture lower live response stream)
    (unmarked : Unmarked live.rawHeaders)
    (short : ∀ bytes ∈ response.payload, bytes.length ≤ maxPayloadBytes) :
    replayResponse lower response = some {
      statusCode := live.statusCode
      statusMessage := live.statusMessage
      httpVersion := live.httpVersion
      rawHeaders := live.rawHeaders
      headers := headerObject lower live.rawHeaders
      rawTrailers := live.rawTrailers
      trailers := headerObject lower live.rawTrailers
      body := live.chunks.flatten } := by
  rcases capture.payload with ⟨document, bytes, given, written, isJson, inOrder, content⟩
  rcases rawHeaders_some lower capture.headers with ⟨fields, even, few, small, plain⟩
  have parsed := parsePayload_payloadBytes isJson inOrder written (short bytes given)
  have clean : ∀ field ∈ pairs live.rawHeaders, dropMark field.2 = field.2 := by
    intro field among
    apply (dropMark_eq_iff field.2).mpr
    apply unmarked
    rw [← flat_pairs live.rawHeaders even]
    apply List.mem_flatMap.mpr
    exact ⟨field, among, List.mem_cons_of_mem _ (List.mem_singleton_self _)⟩
  have read : readMetadata lower response.metadata [] [] 0 =
      some (live.rawHeaders, headerObject lower live.rawHeaders) := by
    rw [fields, readMetadata_fieldsOf lower plain clean (by rwa [Nat.zero_add]),
      List.nil_append, flat_pairs live.rawHeaders even]
    rfl
  have valid := capture.valid
  have accepted : ¬ (response.statusCode ≠ some live.statusCode ∨
      (stream = none ∧ live.statusCode ≠ 204 ∧ live.statusCode ≠ 304) ∨
      live.statusCode < 100 ∨ 599 < live.statusCode ∨ live.statusCode = 101) := by
    rintro (other | ⟨empty, noContent, notModified⟩ | wrong)
    · exact other capture.statusCode
    · rcases capture.bodiless empty with code | code
      · exact noContent code
      · exact notModified code
    · omega
  simp only [replayResponse, given, parsed, content, Option.bind_eq_bind, Option.bind_some,
    if_neg accepted, if_neg (Nat.not_lt.mpr few), read, capture.content, Option.pure_def]

/-- The replay of a record is the one of its response. -/
theorem replayRequest_eq {input : ResponseInput} {response : DependencyResponse}
    (back : responseFromRecord input = some response)
    (outcome : response.outcome = "response".toList) :
    replayRequest lower input = replayResponse lower response := by
  rw [replayRequest, back]
  exact if_pos outcome

/-- The raw headers of a replay have no marks. -/
theorem replayed_rawHeaders {live : LiveResponse} {response : DependencyResponse}
    {stream : Option (Text × List Text)} (capture : Capture lower live response stream)
    {replayed : ReplayedResponse}
    (read : replayResponse lower { response with
      metadata := response.metadata.map fun field => (dropMark field.1, field.2) } =
        some replayed) :
    replayed.rawHeaders = live.rawHeaders.map dropMark := by
  rcases rawHeaders_some lower capture.headers with ⟨fields, even, -, -, -⟩
  rcases (replayResponse_some lower read).1 with ⟨headers, listing⟩
  have decoded : response.metadata.map (fun field => (dropMark field.1, field.2)) =
      fieldsOf ((pairs live.rawHeaders).map fun field => (dropMark field.1, field.2)) := by
    rw [fields, fieldsOf, fieldsOf, List.map_map, List.map_map]
    rfl
  have raw := readMetadata_some lower (decoded ▸ listing)
  rw [List.nil_append, List.map_map] at raw
  rw [raw]
  refine (flat_map dropMark (pairs live.rawHeaders)).trans ?_
  rw [flat_pairs live.rawHeaders even]

/-- Metadata without marks is read back as it was. -/
theorem metadata_unmarked {live : LiveResponse} {response : DependencyResponse}
    {stream : Option (Text × List Text)} (capture : Capture lower live response stream)
    (unmarked : Unmarked live.rawHeaders) :
    response.metadata.map (fun field => (dropMark field.1, field.2)) = response.metadata := by
  rcases rawHeaders_some lower capture.headers with ⟨fields, even, -, -, -⟩
  rw [fields, fieldsOf, List.map_map]
  apply List.map_congr_left
  intro field among
  have name : dropMark field.1 = field.1 := by
    apply (dropMark_eq_iff field.1).mpr
    apply unmarked
    rw [← flat_pairs live.rawHeaders even]
    exact List.mem_flatMap.mpr ⟨field, among, List.mem_cons_self ..⟩
  exact congrArg (fun name => (name, utf8 field.2)) name

/-- Names that are not sensitive are neither listed nor joined by semicolons. -/
theorem plain_of_listed {raw : List Text}
    (listed : ∀ field ∈ pairs raw, lower field.1 ∉ sensitiveHeaders) :
    ∀ field ∈ pairs raw, Plain (lower field.1) := by
  intro field among
  constructor
  · intro same
    exact listed field among (by rw [same]; decide)
  · intro same
    exact listed field among (by rw [same]; decide)

/-- A recorded response that is replayed as it was meets the conditions. -/
theorem holdsWhen_of_shown {live : LiveResponse} (shown : ShownInReplay lower live)
    (present : (recorded lower live).isSome = true) : HoldsWhen lower live := by
  rcases Option.isSome_iff_exists.mp present with ⟨input, made⟩
  rcases shown input made with ⟨replayed, read, shows⟩
  rcases Option.bind_eq_some_iff.mp made with ⟨response, taken, written⟩
  rcases capture_of_captured lower taken with ⟨stream, capture⟩
  have back := responseFromRecord_responseInput written
  rw [replayRequest_eq lower back capture.outcome] at read
  have unmarked : Unmarked live.rawHeaders := by
    have same := (replayed_rawHeaders lower capture read).symm.trans shows.rawHeaders
    intro text among
    apply (dropMark_eq_iff text).mp
    exact List.map_inj_left.mp (same.trans (List.map_id _).symm) text among
  rw [metadata_unmarked lower capture unmarked] at read
  have short := (replayResponse_some lower read).2
  have made := (replayResponse_capture lower capture unmarked short).symm.trans read
  have listed := (rawHeaders_some lower capture.headers).2.2.2.2
  have headers := shows.headers
  have trailers := shows.trailers
  rw [← Option.some.inj made] at headers trailers
  exact {
    unmarked := unmarked
    headers := (liveHeaders_eq_iff lower _ (plain_of_listed lower listed)).mp headers
    trailers := (liveHeaders_eq_iff lower _ (plain_of_listed lower capture.trailers)).mp trailers
    payload := by
      intro present
      rcases Option.isSome_iff_exists.mp present with ⟨other, empty⟩
      have same : captured lower live = some other := by
        rw [captured, empty]
      rw [taken] at same
      rw [← Option.some.inj same] at empty
      rwa [← payload_of_empty lower empty] }

/-- A recorded response that meets the conditions is replayed as it was. -/
theorem shown_of_holdsWhen {live : LiveResponse}
    (holds : (recorded lower live).isSome = true → HoldsWhen lower live) :
    ShownInReplay lower live := by
  intro input made
  have conditions := holds (by rw [made]; rfl)
  rcases Option.bind_eq_some_iff.mp made with ⟨response, taken, written⟩
  rcases capture_of_captured lower taken with ⟨stream, capture⟩
  have back := responseFromRecord_responseInput written
  rw [metadata_unmarked lower capture conditions.unmarked] at back
  have short : ∀ bytes ∈ response.payload, bytes.length ≤ maxPayloadBytes := by
    rcases capture.short with empty | short
    · rw [payload_of_empty lower empty]
      exact conditions.payload (by rw [empty]; rfl)
    · exact short
  have listed := (rawHeaders_some lower capture.headers).2.2.2.2
  refine ⟨_, (replayRequest_eq lower back capture.outcome).trans
    (replayResponse_capture lower capture conditions.unmarked short), ?_⟩
  exact {
    statusCode := rfl
    statusMessage := rfl
    httpVersion := rfl
    rawHeaders := rfl
    headers := (liveHeaders_eq_iff lower _ (plain_of_listed lower listed)).mpr conditions.headers
    rawTrailers := rfl
    trailers := (liveHeaders_eq_iff lower _
      (plain_of_listed lower capture.trailers)).mpr conditions.trailers
    body := rfl }

/-- A recorded response is replayed as it was exactly when its headers have no marks, it repeats no
header or trailer whose first value is kept, and its payload is within the bound. -/
theorem shows_iff (live : LiveResponse) :
    ShownInReplay lower live ↔
      ((recorded lower live).isSome = true → HoldsWhen lower live) :=
  ⟨holdsWhen_of_shown lower, shown_of_holdsWhen lower⟩

end Adapter

/-- A response without a body that names its server twice. -/
def twoServers : LiveResponse where
  statusCode := 204
  statusMessage := "No Content".toList
  httpVersion := "1.1".toList
  rawHeaders := ["Server".toList, "a".toList, "Server".toList, "b".toList]
  rawTrailers := []
  chunks := []
  complete := true
  bodiless := fun _ => ⟨rfl, rfl⟩

/-- A repeated header is joined in the replay. -/
theorem two_servers_joined :
    ¬ ∀ (lower : Text → Text) (live : LiveResponse), ShownInReplay lower live := by
  intro all
  have present : (recorded (List.map Char.toLower) twoServers).isSome = true := by
    decide +kernel
  have holds := holdsWhen_of_shown _ (all (List.map Char.toLower) twoServers) present
  have twice := holds.headers "server".toList (by decide)
  exact absurd twice (by decide)

end Node
end Http
end ReproItSdk
