import ReproItSdk.Http.GoRequest
import ReproItSdk.Http.GoStrings

/-! # Responses of the Go HTTP adapter

A response is recorded as its status code, the fields of its header and a payload with everything
else.  On a replay the payload is parsed and checked, and a response is built of the parts.

Main definitions:

- Function {lit}`makeAutomaticHttpResponseRecord`: the record of a response.
- Function {lit}`reconstructAutomaticHttpResponse`: the response of a record.

Main results:

- Theorem {lit}`headerLoop_eq_some`: the loop over recorded fields appends each of them.
- Theorem {lit}`values_collect_entries`: the recorded fields of a header give its values back.
-/

namespace ReproItSdk
namespace Http
namespace Go

open Unicode Json Canonical Decimal Wrappers.Native

/-! ## Records -/

/-- {lit}`http.Response` but for its body. -/
structure Response where
  status : Bytes
  statusCode : Int64
  proto : Bytes
  protoMajor : Int64
  protoMinor : Int64
  header : Header
  contentLength : Int64
  transferEncoding : List Bytes
  close : Bool
  uncompressed : Bool
  trailer : Header

/-- The fields of a trailer as they stand in a payload. -/
def metadataField (field : DependencyMetadata) : Except String Text :=
  writeMap [("name".toList, .ok (encodeString (utf8 (Base64.encode field.name)))),
    ("value".toList, .ok (encodeString (utf8 (Base64.encode field.value))))]

/-- {lit}`automaticHTTPMetadataPayload`, as {lit}`encodeCanonical` writes it. -/
def automaticHttpMetadataPayload (header : Header) : Option (Except String Text) :=
  (automaticHttpMetadata header).map fun metadata => writeArray (metadata.map metadataField)

/-- The payload of a response. -/
def responsePayload (response : Response) (body bodyKind : Bytes) (trailer : Except String Text) :
    Except String Bytes :=
  canonicalMap [
    ("body".toList, .ok (encodeString (utf8 (Base64.encode body)))),
    ("body_kind".toList, .ok (encodeString bodyKind)),
    ("close".toList, Canonical.encodeCanonical (.bool response.close)),
    ("content_length".toList, Canonical.encodeCanonical (.int64 response.contentLength.toInt)),
    ("proto".toList, .ok (encodeString response.proto)),
    ("proto_major".toList, Canonical.encodeCanonical (.int response.protoMajor.toInt)),
    ("proto_minor".toList, Canonical.encodeCanonical (.int response.protoMinor.toInt)),
    ("status".toList, .ok (encodeString response.status)),
    ("trailer".toList, trailer),
    ("transfer_encoding".toList, stringList response.transferEncoding),
    ("uncompressed".toList, Canonical.encodeCanonical (.bool response.uncompressed))]

/-- A response that is not recorded, whatever its headers. -/
def unsupportedResponse (response : Response) (body : Bytes) : Bool :=
  response.statusCode.toInt < 100 || 599 < response.statusCode.toInt ||
    response.statusCode.toInt = 101 || automaticHttpBodyBytes < body.length

/-- {lit}`makeAutomaticHTTPResponseRecord`. -/
def makeAutomaticHttpResponseRecord (response : Response) (body bodyKind : Bytes) :
    Option Wrappers.Native.Go.SemanticDependencyResponse :=
  if unsupportedResponse response body then none
  else do
    let metadata ← automaticHttpMetadata response.header
    let trailer ← automaticHttpMetadataPayload response.trailer
    let payload ← (responsePayload response body bodyKind trailer).toOption
    if sdkEngineMaxSemanticDependencyRecordBytes < payload.length then none
    else
      some
        { metadata := metadata
          outcome := "response"
          payload := payload
          hasPayload := true
          statusCode := some response.statusCode.toInt.toNat }

/-! ## Parsed payloads -/

/-- A body that a reconstructed response has. -/
inductive ReplayBody where
  | absent
  | noBody
  | reader (value : Bytes)
deriving DecidableEq, Repr

/-- {lit}`automaticHTTPReplayPayload`. -/
structure ReplayPayload where
  body : Bytes
  bodyKind : Text
  close : Bool
  contentLength : Int
  proto : Text
  protoMajor : Int
  protoMinor : Int
  status : Text
  trailer : Header
  transferEncoding : List Text
  uncompressed : Bool

/-- Why a response is not reconstructed. -/
inductive ReplayError where
  | canceled
  | deadlineExceeded
  | automaticCapture
deriving DecidableEq, Repr

/-- A header without fields. -/
def Header.empty : Header where
  fields := []
  distinct := List.nodup_nil

/-- A header with another value of a key behind those it has. -/
def Header.append (header : Header) (key value : Bytes) : Header where
  fields := OrderedRecord.set key (header.values key ++ [value]) header.fields
  distinct := OrderedRecord.nodup_set _ _ header.distinct

/-- The loop of {lit}`automaticHTTPHeaderFromMetadata` and {lit}`automaticHTTPMetadataFromPayload`,
which read their items in different ways. -/
def headerLoop {α : Type} (read : α → Option DependencyMetadata) :
    Header → Nat → List α → Option Header
  | header, _, [] => some header
  | header, total, item :: items => do
      let field ← read item
      if automaticHttpHeaderBytes - total < field.name.length then none
      else
        let total := total + field.name.length
        if automaticHttpHeaderBytes - total < field.value.length then none
        else
          let total := total + field.value.length
          if isSensitive field.name then none
          else headerLoop read (header.append field.name field.value) total items

/-- {lit}`automaticHTTPHeaderFromMetadata`. -/
def automaticHttpHeaderFromMetadata (metadata : List DependencyMetadata) : Option Header :=
  if automaticHttpHeaderFields < metadata.length then none
  else headerLoop some .empty 0 metadata

/-- {lit}`base64.RawURLEncoding.DecodeString`, which passes line breaks. -/
def decodeString (text : Text) : Option Bytes :=
  Base64.decode (text.filter fun character => character ≠ '\x0d' ∧ character ≠ '\x0a')

/-- A value as a string. -/
def stringOf : GoValue → Option Text
  | .string text => some text
  | _ => none

/-- A value as a boolean. -/
def boolOf : GoValue → Option Bool
  | .bool value => some value
  | _ => none

/-- A value as a map. -/
def mapOf : GoValue → Option (List (Text × GoValue))
  | .map members => some members
  | _ => none

/-- {lit}`anyList`. -/
def anyList : GoValue → Option (List GoValue)
  | .slice elements => some elements
  | _ => none

/-- {lit}`integerValue`. -/
def integerValue : GoValue → Option Int
  | .int number => some number
  | .int64 number => some number
  | .number digits => (parseInt64 digits).filter (decimal · = digits)
  | _ => none

/-- {lit}`hasExactKeys`. -/
def hasExactKeys (value : List (Text × GoValue)) (keys : List Text) : Bool :=
  value.length = keys.length && keys.all fun key => (OrderedRecord.get key value).isSome

/-- An entry of a map as a string. -/
def stringEntry (key : String) (object : List (Text × GoValue)) : Option Text :=
  (OrderedRecord.get key.toList object).bind stringOf

/-- An entry of the list in {lit}`automaticHTTPMetadataFromPayload`. -/
def fieldFromPayload (item : GoValue) : Option DependencyMetadata := do
  let entry ← mapOf item
  if hasExactKeys entry ["name".toList, "value".toList] then do
    let nameText ← stringEntry "name" entry
    let valueText ← stringEntry "value" entry
    let name ← decodeString nameText
    let fieldValue ← decodeString valueText
    return ⟨name, fieldValue⟩
  else none

/-- {lit}`automaticHTTPMetadataFromPayload`. -/
def automaticHttpMetadataFromPayload (value : GoValue) : Option Header := do
  let items ← anyList value
  if automaticHttpHeaderFields < items.length then none
  else headerLoop fieldFromPayload .empty 0 items

/-- {lit}`automaticHTTPStringList`. -/
def automaticHttpStringList (value : GoValue) : Option (List Text) := do
  let items ← anyList value
  items.mapM stringOf

/-- The keys of a payload that older records have as well. -/
def legacyKeys : List Text :=
  ["body_kind".toList, "close".toList, "content_length".toList, "proto".toList,
    "proto_major".toList, "proto_minor".toList, "status".toList, "transfer_encoding".toList,
    "uncompressed".toList]

/-- The keys of a payload. -/
def currentKeys : List Text :=
  "body".toList :: "trailer".toList :: legacyKeys

/-- The body and the trailer of a payload; an older record has neither. -/
def bodyAndTrailer (object : List (Text × GoValue)) : Option (Text × Header) :=
  if hasExactKeys object currentKeys then do
    let body ← stringEntry "body" object
    let trailer ← (OrderedRecord.get "trailer".toList object).bind automaticHttpMetadataFromPayload
    return (body, trailer)
  else if hasExactKeys object legacyKeys then some ([], .empty)
  else none

/-- An integer entry that fits in a byte. -/
def smallEntry (key : String) (object : List (Text × GoValue)) : Option Int := do
  let value ← (OrderedRecord.get key.toList object).bind integerValue
  if value < 0 ∨ 255 < value then none else some value

/-- {lit}`decodeAutomaticHTTPReplayPayload` of a parsed map. -/
def decodeObject (object : List (Text × GoValue)) : Option ReplayPayload := do
  let (bodyValue, trailer) ← bodyAndTrailer object
  let bodyKind ← stringEntry "body_kind" object
  let close ← (OrderedRecord.get "close".toList object).bind boolOf
  let contentLength ← (OrderedRecord.get "content_length".toList object).bind integerValue
  let proto ← stringEntry "proto" object
  let protoMajor ← smallEntry "proto_major" object
  let protoMinor ← smallEntry "proto_minor" object
  let status ← stringEntry "status" object
  let transferEncoding ←
    (OrderedRecord.get "transfer_encoding".toList object).bind automaticHttpStringList
  let uncompressed ← (OrderedRecord.get "uncompressed".toList object).bind boolOf
  let body ← decodeString bodyValue
  if automaticHttpBodyBytes < body.length ∨ contentLength < -1 then none
  else
    some ⟨body, bodyKind, close, contentLength, proto, protoMajor, protoMinor, status, trailer,
      transferEncoding, uncompressed⟩

/-- {lit}`decodeAutomaticHTTPReplayPayload`. -/
def decodeAutomaticHttpReplayPayload (value : Bytes) : Option ReplayPayload := do
  let parsed ← parseStrictJSON value sdkEngineMaxSemanticDependencyRecordBytes
  let object ← mapOf parsed
  decodeObject object

/-! ## Reconstruction -/

/-- {lit}`reconstructAutomaticHTTPBody`. -/
def reconstructAutomaticHttpBody (payload : ReplayPayload) : Option ReplayBody :=
  if payload.bodyKind = "nil".toList then
    if payload.body ≠ [] ∨ payload.trailer.fields ≠ [] then none else some .absent
  else if payload.bodyKind = "no-body".toList then
    if payload.body ≠ [] ∨ payload.trailer.fields ≠ [] then none else some .noBody
  else if payload.bodyKind = "stream".toList then
    if 0 ≤ payload.contentLength ∧ payload.contentLength ≠ payload.body.length then none
    else some (.reader payload.body)
  else none

/-- {lit}`reconstructAutomaticHTTPError`. -/
def reconstructAutomaticHttpError (response : Wrappers.Native.Go.SemanticDependencyResponse) :
    ReplayError :=
  if response.errorCode ≠ some (asciiBytes "interrupted") ∨ response.metadata ≠ [] ∨
      response.hasPayload ∨ response.status ≠ none ∨ response.statusCode ≠ none then
    .automaticCapture
  else
    match response.errorNumber with
    | some 1 => .canceled
    | some 2 => .deadlineExceeded
    | _ => .automaticCapture

/-- The response of a payload. -/
def replayedResponse (statusCode : Nat) (payload : ReplayPayload) (header : Header) : Response where
  status := utf8 payload.status
  statusCode := Int64.ofInt statusCode
  proto := utf8 payload.proto
  protoMajor := Int64.ofInt payload.protoMajor
  protoMinor := Int64.ofInt payload.protoMinor
  header := header
  contentLength := Int64.ofInt payload.contentLength
  transferEncoding := payload.transferEncoding.map utf8
  close := payload.close
  uncompressed := payload.uncompressed
  trailer := payload.trailer

/-- {lit}`reconstructAutomaticHTTPResponse`. -/
def reconstructAutomaticHttpResponse (response : Wrappers.Native.Go.SemanticDependencyResponse) :
    Except ReplayError (Response × ReplayBody) :=
  if response.outcome = "error" then .error (reconstructAutomaticHttpError response)
  else if response.outcome ≠ "response" ∨ ¬ response.hasPayload ∨ response.errorCode ≠ none ∨
      response.errorNumber ≠ none ∨ response.status ≠ none then .error .automaticCapture
  else
    let replayed : Option (Response × ReplayBody) := do
      let statusCode ← response.statusCode
      let payload ← decodeAutomaticHttpReplayPayload response.payload
      let body ← reconstructAutomaticHttpBody payload
      let header ← automaticHttpHeaderFromMetadata response.metadata
      return (replayedResponse statusCode payload header, body)
    match replayed with
    | none => .error .automaticCapture
    | some replayed => .ok replayed

/-! ## Headers -/

/-- A header with the values of some fields behind those it has. -/
def Header.collect (header : Header) (metadata : List DependencyMetadata) : Header :=
  metadata.foldl (fun header field => header.append field.name field.value) header

/-- The values of a key in some fields. -/
def valuesOf (key : Bytes) (metadata : List DependencyMetadata) : List Bytes :=
  (metadata.filter (·.name = key)).map DependencyMetadata.value

/-- The loop over recorded fields appends each of them. -/
theorem headerLoop_eq_some {α : Type} {read : α → Option DependencyMetadata} {items : List α}
    {metadata : List DependencyMetadata} (reads : items.map read = metadata.map some)
    (plain : ∀ field ∈ metadata, isSensitive field.name = false) {total : Nat}
    (fits : total + (metadata.map weight).sum ≤ automaticHttpHeaderBytes) (header : Header) :
    headerLoop read header total items = some (header.collect metadata) := by
  induction metadata generalizing items total header with
  | nil =>
      rw [List.map_nil, List.map_eq_nil_iff] at reads
      subst reads
      rfl
  | cons field metadata ih =>
      cases items with
      | nil => cases reads
      | cons item items =>
          rw [List.map_cons, List.map_cons, List.cons.injEq] at reads
          rw [List.map_cons, List.sum_cons, weight] at fits
          have here := plain field (by simp)
          have later := fun other among => plain other (List.mem_cons_of_mem field among)
          rw [headerLoop, reads.1]
          simp only [Option.bind_eq_bind, Option.bind_some]
          rw [if_neg (by omega), if_neg (by omega), here, if_neg (by decide),
            ih reads.2 later (by omega)]
          rfl

/-- A value is appended to those of its key. -/
theorem values_append (header : Header) (name value key : Bytes) :
    (header.append name value).values key =
      header.values key ++ if name = key then [value] else [] := by
  by_cases same : name = key
  · subst same
    simp [Header.append, Header.values]
  · rw [if_neg same, List.append_nil, Header.values, Header.append,
      OrderedRecord.get_set_ne (Ne.symm same), Header.values]

/-- The values of the fields of a key are appended to those of the key. -/
theorem values_collect (header : Header) (metadata : List DependencyMetadata) (key : Bytes) :
    (header.collect metadata).values key = header.values key ++ valuesOf key metadata := by
  induction metadata generalizing header with
  | nil => simp [Header.collect, valuesOf]
  | cons field metadata ih =>
      have step : header.collect (field :: metadata) =
          (header.append field.name field.value).collect metadata := rfl
      rw [step, ih, values_append, List.append_assoc]
      by_cases same : field.name = key
      · simp [valuesOf, same]
      · simp [valuesOf, same]

/-- A key that is set makes a record that is not empty. -/
theorem fields_append_ne_nil (header : Header) (name value : Bytes) :
    (header.append name value).fields ≠ [] := by
  have set : (name, header.values name ++ [value]) ∈ (header.append name value).fields :=
    OrderedRecord.mem_set_self _ _ _
  exact List.ne_nil_of_mem set

/-- Only a header that collects nothing is empty. -/
theorem fields_collect_eq_nil {header : Header} {metadata : List DependencyMetadata} :
    (header.collect metadata).fields = [] ↔ header.fields = [] ∧ metadata = [] := by
  induction metadata generalizing header with
  | nil => simp [Header.collect]
  | cons field metadata ih =>
      have step : header.collect (field :: metadata) =
          (header.append field.name field.value).collect metadata := rfl
      rw [step, ih]
      simp [fields_append_ne_nil]

/-- The values of a key in the fields of one key. -/
theorem valuesOf_entries (key : Bytes) (field : Bytes × List Bytes) :
    valuesOf key (entries field) = if field.1 = key then field.2 else [] := by
  by_cases same : field.1 = key
  · simp [valuesOf, entries, same, List.filter_map, Function.comp_def]
  · simp [valuesOf, entries, same, List.filter_map, Function.comp_def]

/-- The values of a key in the fields of distinct keys. -/
theorem valuesOf_flatMap (key : Bytes) {fields : List (Bytes × List Bytes)}
    (distinct : (fields.map Prod.fst).Nodup) :
    valuesOf key (fields.flatMap entries) = (OrderedRecord.get key fields).getD [] := by
  induction fields with
  | nil => rfl
  | cons field fields ih =>
      rw [List.map_cons, List.nodup_cons] at distinct
      have split : valuesOf key ((field :: fields).flatMap entries) =
          valuesOf key (entries field) ++ valuesOf key (fields.flatMap entries) := by
        simp [valuesOf]
      rw [split, valuesOf_entries, ih distinct.2, OrderedRecord.get]
      by_cases same : field.1 = key
      · rw [if_pos same, if_pos same]
        have absent : OrderedRecord.get key fields = none :=
          OrderedRecord.get_eq_none (same ▸ distinct.1)
        rw [absent]
        simp
      · rw [if_neg same, if_neg same, List.nil_append]

/-- The recorded fields of a header give its values back. -/
theorem values_collect_entries (header : Header) (key : Bytes) :
    (Header.empty.collect header.entries).values key = header.values key := by
  have perm := sortBy_perm Prod.fst header.fields
  have distinct : ((sortBy Prod.fst header.fields).map Prod.fst).Nodup :=
    (perm.map Prod.fst).nodup_iff.mpr header.distinct
  rw [values_collect, Header.entries, valuesOf_flatMap key distinct,
    OrderedRecord.get_perm perm distinct]
  rfl

end Go
end Http
end ReproItSdk
