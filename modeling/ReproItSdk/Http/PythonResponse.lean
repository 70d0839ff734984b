import ReproItSdk.Http.Headers
import ReproItSdk.Sqlite.Payloads

/-! # Payloads of the Python URL adapter

The adapter records what {lit}`urlopen` and {lit}`read` return as lists of texts, integers and
truth values.  The payload of a response carries the number that the adapter gave it, and a replay
accepts it only if it would give the same number.  The function that makes names lower case is a
parameter.

Main definitions:

- Structure {lit}`ResponseHead`: what the application can see of an opened response.
- Functions {lit}`encodeOpenResponse` and {lit}`decodeOpenResponse`: its payload.

Main results:

- Theorem {lit}`decodeOpenResponse_encode`: a response is read back if its number is the next one.
- Theorems {lit}`decodeReadResponse_encode` and {lit}`decodeUrlError_encode`: bodies and errors are
  read back.
-/

namespace ReproItSdk
namespace Http
namespace Python

open Unicode Json Decimal Canonical
open Sqlite (DependencyRequest Memberless word)

/-! ## Bounds -/

/-- {lit}`_MAX_BODY_BYTES`. -/
def maxBodyBytes : Nat :=
  32 * 1024

/-- {lit}`_MAX_HEADER_BYTES`. -/
def maxHeaderBytes : Nat :=
  16 * 1024

/-- {lit}`_MAX_HEADERS`. -/
def maxHeaders : Nat :=
  128

/-- {lit}`_MAX_PAYLOAD_BYTES`. -/
def maxPayloadBytes : Nat :=
  48 * 1024

/-- {lit}`_MAX_RESPONSES`. -/
def maxResponses : Nat :=
  65536

/-- {lit}`_MAX_URL_BYTES`. -/
def maxUrlBytes : Nat :=
  8 * 1024

/-- The bound of the name of a header, of a reason and of the text of an error. -/
def maxTextBytes : Nat :=
  1024

/-- {lit}`_FORMAT`. -/
def format : Text :=
  "reproit.python-urllib.v1".toList

/-- {lit}`_SENSITIVE_HEADERS`, the same names as in the Node SDK. -/
def sensitiveHeaders : List Text :=
  Node.sensitiveHeaders

/-- The first two values of a payload. -/
def action (name : String) (values : List (Document Int)) : Document Int :=
  .array (.string format :: word name :: values)

/-! ## Payloads -/

/-- {lit}`_encode_payload`. -/
def encodePayload (value : Document Int) : Option Bytes :=
  let result := utf8 (Canonical.Python.dumps value)
  if result = [] ∨ maxPayloadBytes < result.length then none else some result

/-- {lit}`_decode_payload`. -/
def decodePayload (payload : Bytes) : Option (Document Int) :=
  if payload = [] ∨ maxPayloadBytes < payload.length then none
  else do
    let text ← decodeUtf8 payload
    let decoded ← Sqlite.parseIntegers text
    if encodePayload decoded = some payload then some decoded else none

/-- {lit}`_bounded_text`. -/
def boundedText (value : Text) (maximumBytes : Nat) : Option Text :=
  if value = [] ∨ maximumBytes < (utf8 value).length then none else some value

/-- An integer; a truth value is one as well. -/
def integer? : Document Int → Option Int
  | .number value => some value
  | .bool value => some value.toInt
  | _ => none

/-- An integer or nothing. -/
def optionalInteger? : Document Int → Option (Option Int)
  | .null => some none
  | value => (integer? value).map some

/-- The value of an integer or of nothing. -/
def optionalInteger : Option Int → Document Int
  | none => .null
  | some value => .number value

/-! ## Requests -/

/-- The timeout of a call: the one of the process, none or the text of a number of seconds. -/
inductive Timeout where
  | unspecified
  | unlimited
  | seconds (text : Text)
deriving DecidableEq, Repr

/-- {lit}`_encode_timeout`. -/
def encodeTimeout : Timeout → Document Int
  | .unspecified => .array [word "default"]
  | .unlimited => .array [word "none"]
  | .seconds text => .array [word "seconds", .string text]

/-- {lit}`_request`. -/
def request (name : String) (target : Text) (responseId : Nat) (detail : Document Int) :
    Option DependencyRequest :=
  if target = [] ∨ maxUrlBytes < (utf8 target).length then none
  else do
    let payload ← encodePayload (action name [.number responseId, detail])
    return {
      encoding := "python-urllib-json-v1".toList
      metadata := []
      method := if name = "open" then some "GET".toList else none
      observationClass := "outbound-http".toList
      operation := "outbound-http-request".toList
      payload := payload
      protocol := "http-1.1".toList
      target := target }

/-! ## Responses -/

/-- What the application can see of a response that {lit}`urlopen` returns.  The library returns
only responses with a status and a version that it knows. -/
structure ResponseHead where
  status : Int
  reason : Text
  version : Int
  url : Text
  headers : List (Text × Text)
  willClose : Bool
  chunked : Bool
  length : Option Int
  closed : Bool
  statusValid : 100 ≤ status ∧ status ≤ 599
  versionValid : version = 9 ∨ version = 10 ∨ version = 11
deriving DecidableEq

section Adapter

variable (lower : Text → Text)

/-- One field of {lit}`_encode_headers`. -/
def encodeField (name value : Text) : Option (Document Int) := do
  let selectedName ← boundedText name maxTextBytes
  if lower selectedName ∈ sensitiveHeaders then none
  else do
    let selectedValue ← boundedText value maxHeaderBytes
    return .array [.string selectedName, .string selectedValue]

/-- The loop of {lit}`_encode_headers`. -/
def encodeHeadersFrom : List (Text × Text) → Nat → Option (List (Document Int))
  | [], _ => some []
  | (name, value) :: rest, totalBytes => do
      let field ← encodeField lower name value
      let totalBytes := totalBytes + ((utf8 name).length + (utf8 value).length)
      if maxHeaderBytes < totalBytes then none
      else do
        let fields ← encodeHeadersFrom rest totalBytes
        return field :: fields

/-- {lit}`_encode_headers`. -/
def encodeHeaders (headers : List (Text × Text)) : Option (Document Int) :=
  if maxHeaders < headers.length then none else (encodeHeadersFrom lower headers 0).map .array

/-- The loop of {lit}`_decode_headers`. -/
def decodeHeadersFrom : List (Document Int) → Nat → Option (List (Text × Text))
  | [], _ => some []
  | .array [.string name, .string value] :: rest, totalBytes =>
      let totalBytes := totalBytes + ((utf8 name).length + (utf8 value).length)
      if lower name ∈ sensitiveHeaders ∨ maxHeaderBytes < totalBytes then none
      else (decodeHeadersFrom rest totalBytes).map fun headers => (name, value) :: headers
  | _ :: _, _ => none

/-- {lit}`_decode_headers`. -/
def decodeHeaders : Document Int → Option (List (Text × Text))
  | .array fields => if maxHeaders < fields.length then none else decodeHeadersFrom lower fields 0
  | _ => none

/-- The values of {lit}`_encode_open_response`. -/
def openValues (responseId : Nat) (head : ResponseHead) (headers : Document Int) : Document Int :=
  action "open" [.number responseId, .number head.status, .string head.reason,
    .number head.version, .string head.url, headers, .bool head.willClose, .bool head.chunked,
    optionalInteger head.length, .bool head.closed]

/-- {lit}`_encode_open_response`. -/
def encodeOpenResponse (responseId : Nat) (head : ResponseHead) : Option Bytes := do
  let headers ← encodeHeaders lower head.headers
  let _ ← boundedText head.url maxUrlBytes
  let _ ← boundedText head.reason maxTextBytes
  encodePayload (openValues responseId head headers)

/-- {lit}`_decode_open_response`, with the number that {lit}`_allocate_response_id` gives. -/
def decodeOpenResponse (target : Text) (allocated : Nat) :
    Document Int → Option (Nat × ResponseHead)
  | .array [.string form, .string name, responseId, status, .string reason, version, .string url,
      headers, .bool willClose, .bool chunked, length, .bool closed] => do
      let responseId ← integer? responseId
      let status ← integer? status
      let version ← integer? version
      let length ← optionalInteger? length
      if valid : (100 ≤ status ∧ status ≤ 599) ∧ (version = 9 ∨ version = 10 ∨ version = 11) then
        if form = format ∧ name = "open".toList ∧ 1 ≤ responseId ∧ responseId ≤ maxResponses ∧
            url = target ∧ responseId = allocated then do
          let headers ← decodeHeaders lower headers
          return (allocated, {
            status := status
            reason := reason
            version := version
            url := url
            headers := headers
            willClose := willClose
            chunked := chunked
            length := length
            closed := closed
            statusValid := valid.1
            versionValid := valid.2 })
        else none
      else none
  | _ => none

/-- {lit}`_encode_read_response`. -/
def encodeReadResponse (value : Bytes) : Option Bytes :=
  if maxBodyBytes < value.length then none
  else encodePayload (action "read" [.string (Base64.encode value)])

/-- {lit}`_decode_read_response`. -/
def decodeReadResponse : Document Int → Option Bytes
  | .array [.string form, .string name, .string body] =>
      if form = format ∧ name = "read".toList then do
        let value ← Base64.decodeCanonical body
        if maxBodyBytes < value.length then none else some value
      else none
  | _ => none

/-- {lit}`_encode_url_error` of an error whose only attribute is its reason. -/
def encodeUrlError (reason : Text) : Option Bytes := do
  let selected ← boundedText reason maxTextBytes
  encodePayload (action "error" [word "url-error", .string selected])

/-- {lit}`_decode_url_error`. -/
def decodeUrlError : Document Int → Option Text
  | .array [.string form, .string name, .string kind, .string reason] =>
      if form = format ∧ name = "error".toList ∧ kind = "url-error".toList then
        boundedText reason maxTextBytes
      else none
  | _ => none

/-! ## Reading payloads back -/

/-- A bounded text is the text itself. -/
theorem boundedText_some {value selected : Text} {maximumBytes : Nat}
    (bounded : boundedText value maximumBytes = some selected) : selected = value := by
  unfold boundedText at bounded
  split at bounded
  · cases bounded
  · exact (Option.some.inj bounded).symm

/-- A payload is read back. -/
theorem decodePayload_encodePayload {document : Document Int}
    (memberless : Memberless (fun _ => True) document) {payload : Bytes}
    (encoded : encodePayload document = some payload) : decodePayload payload = some document := by
  have written := encoded
  simp only [encodePayload] at written
  split at written
  · cases written
  · rename_i fits
    cases written
    rw [decodePayload, if_neg fits, decodeUtf8_utf8, Sqlite.Python.dumps_memberless memberless]
    simp only [Option.bind_eq_bind, Option.bind_some]
    rw [Sqlite.parseIntegers_render memberless]
    rw [Sqlite.Python.dumps_memberless memberless] at encoded
    exact if_pos encoded

/-- A payload is a document without members if its values are. -/
theorem memberless_action (name : String) {values : List (Document Int)}
    (memberless : ∀ value ∈ values, Memberless (fun _ => True) value) :
    Memberless (fun _ => True) (action name values) := by
  apply Document.all_array.mpr
  intro value among
  simp only [List.mem_cons] at among
  rcases among with rfl | rfl | inside
  · exact .string _ trivial
  · exact .string _ trivial
  · exact memberless value inside

/-- A recorded field has a name that is not sensitive. -/
theorem encodeField_some {name value : Text} {field : Document Int}
    (encoded : encodeField lower name value = some field) :
    lower name ∉ sensitiveHeaders ∧ field = .array [.string name, .string value] := by
  rcases Option.bind_eq_some_iff.mp encoded with ⟨selectedName, named, encoded⟩
  cases boundedText_some named
  split at encoded
  · cases encoded
  · rename_i plain
    rcases Option.bind_eq_some_iff.mp encoded with ⟨selectedValue, valued, encoded⟩
    cases boundedText_some valued
    exact ⟨plain, (Option.some.inj encoded).symm⟩

/-- Headers are read back. -/
theorem decodeHeadersFrom_encode {headers : List (Text × Text)} {totalBytes : Nat}
    {fields : List (Document Int)}
    (encoded : encodeHeadersFrom lower headers totalBytes = some fields) :
    decodeHeadersFrom lower fields totalBytes = some headers ∧ fields.length = headers.length ∧
      ∀ field ∈ fields, Memberless (fun _ => True) field := by
  induction headers generalizing totalBytes fields with
  | nil =>
      cases encoded
      exact ⟨rfl, rfl, fun field among => by cases among⟩
  | cons header headers ih =>
      rcases Option.bind_eq_some_iff.mp encoded with ⟨field, taken, encoded⟩
      rcases encodeField_some lower taken with ⟨plain, rfl⟩
      simp only at encoded
      split at encoded
      · cases encoded
      · rename_i fits
        rcases Option.bind_eq_some_iff.mp encoded with ⟨rest, counted, encoded⟩
        cases encoded
        rcases ih counted with ⟨decoded, length, memberless⟩
        refine ⟨?_, congrArg Nat.succ length, ?_⟩
        · rw [decodeHeadersFrom, if_neg (not_or.mpr ⟨plain, fits⟩), decoded]
          rfl
        · intro field among
          rcases List.mem_cons.mp among with rfl | later
          · apply Document.all_array.mpr
            intro part inside
            simp only [List.mem_cons, List.not_mem_nil, or_false] at inside
            rcases inside with rfl | rfl
            · exact .string _ trivial
            · exact .string _ trivial
          · exact memberless field later

/-- Headers are read back within their bound. -/
theorem decodeHeaders_encode {headers : List (Text × Text)} {document : Document Int}
    (encoded : encodeHeaders lower headers = some document) :
    decodeHeaders lower document = some headers ∧ Memberless (fun _ => True) document := by
  unfold encodeHeaders at encoded
  split at encoded
  · cases encoded
  · rename_i few
    rcases Option.map_eq_some_iff.mp encoded with ⟨fields, written, rfl⟩
    rcases decodeHeadersFrom_encode lower written with ⟨decoded, length, memberless⟩
    constructor
    · rw [decodeHeaders, length, if_neg few]
      exact decoded
    · exact Document.all_array.mpr memberless

/-- The values of a response are a document without members. -/
theorem memberless_openValues (responseId : Nat) (head : ResponseHead) {headers : Document Int}
    (memberless : Memberless (fun _ => True) headers) :
    Memberless (fun _ => True) (openValues responseId head headers) := by
  apply memberless_action
  have length : Memberless (fun _ => True) (optionalInteger head.length) := by
    cases head.length with
    | none => exact .null
    | some value => exact .number _ trivial
  simp only [List.forall_mem_cons, List.not_mem_nil, false_imp_iff, implies_true, and_true]
  exact ⟨.number _ trivial, .number _ trivial, .string _ trivial, .number _ trivial,
    .string _ trivial, memberless, .bool _, .bool _, length, .bool _⟩

/-- A length is read back. -/
theorem optionalInteger_read (value : Option Int) :
    optionalInteger? (optionalInteger value) = some value := by
  cases value with
  | none => rfl
  | some value => rfl

/-- A recorded response is read back if its number is the next one. -/
theorem decodeOpenResponse_encode {responseId : Nat} {head : ResponseHead} {payload : Bytes}
    (encoded : encodeOpenResponse lower responseId head = some payload)
    (valid : 1 ≤ responseId ∧ responseId ≤ maxResponses) (allocated : Nat) :
    (decodePayload payload).bind (decodeOpenResponse lower head.url allocated) =
      if responseId = allocated then some (allocated, head) else none := by
  rcases Option.bind_eq_some_iff.mp encoded with ⟨headers, listed, encoded⟩
  rcases Option.bind_eq_some_iff.mp encoded with ⟨_, _, encoded⟩
  rcases Option.bind_eq_some_iff.mp encoded with ⟨_, _, encoded⟩
  rcases decodeHeaders_encode lower listed with ⟨decoded, memberless⟩
  rw [decodePayload_encodePayload (memberless_openValues responseId head memberless) encoded,
    Option.bind_some]
  simp only [openValues, action, word, decodeOpenResponse, integer?, optionalInteger_read,
    Option.bind_eq_bind, Option.bind_some, dif_pos (And.intro head.statusValid head.versionValid), decoded]
  by_cases same : responseId = allocated
  · subst same
    rw [if_pos rfl, if_pos ⟨trivial, trivial, by omega, by omega, trivial, rfl⟩]
    rfl
  · rw [if_neg same, if_neg]
    rintro ⟨-, -, -, -, -, equal⟩
    exact same (by omega)

/-- A body is read back. -/
theorem decodeReadResponse_encode {value payload : Bytes}
    (encoded : encodeReadResponse value = some payload) :
    (decodePayload payload).bind decodeReadResponse = some value := by
  unfold encodeReadResponse at encoded
  split at encoded
  · cases encoded
  · rename_i fits
    have memberless : Memberless (fun _ => True)
        (action "read" [.string (Base64.encode value)]) := by
      apply memberless_action
      intro part inside
      cases List.mem_singleton.mp inside
      exact .string _ trivial
    rw [decodePayload_encodePayload memberless encoded, Option.bind_some]
    simp only [action, word, decodeReadResponse, and_self, if_true,
      Base64.decodeCanonical_encode]
    exact if_neg fits

/-- An error is read back. -/
theorem decodeUrlError_encode {reason : Text} {payload : Bytes}
    (encoded : encodeUrlError reason = some payload) :
    (decodePayload payload).bind decodeUrlError = some reason := by
  rcases Option.bind_eq_some_iff.mp encoded with ⟨selected, bounded, encoded⟩
  cases boundedText_some bounded
  have memberless : Memberless (fun _ => True)
      (action "error" [word "url-error", .string reason]) := by
    apply memberless_action
    simp only [List.forall_mem_cons, List.not_mem_nil, false_imp_iff, implies_true, and_true]
    exact ⟨.string _ trivial, .string _ trivial⟩
  rw [decodePayload_encodePayload memberless encoded, Option.bind_some]
  simp only [action, word, decodeUrlError, and_self, if_true]
  exact bounded

end Adapter
end Python
end Http
end ReproItSdk
