import ReproItSdk.Canonical.Encoders
import ReproItSdk.Canonical.JsonReader
import ReproItSdk.Library.Base64
import ReproItSdk.Library.Chunks
import ReproItSdk.Core.Model

/-! # Runtime observations of the Node SDK

An observed call of the runtime has a request, an encoder for its live result and a decoder for a
recorded one.  Its capture records a response, a document with a fixed set of keys, and its replay
reads one.  The hash function and the engine behind the sessions are parameters.

Main definitions:

- Structure {lit}`ObservedCall`: a call with its encoder and its decoder.
- Function {lit}`ObservedCall.capture`: what becomes of the observation of a live call.
- Function {lit}`ObservedCall.replay`: what the application sees of a recorded response.

Main results:

- Theorem {lit}`replay_captured`: the replay of a captured response.
-/

namespace ReproItSdk
namespace Runtime
namespace Node

open Unicode Json Decimal Canonical

/-! ## Bounds -/

/-- {lit}`MAX_TARGET_BYTES`. -/
def maxTargetBytes : Nat :=
  16384

/-- {lit}`MAX_VALUE_BYTES`. -/
def maxValueBytes : Nat :=
  32768

/-- {lit}`MAX_RESPONSE_BYTES`. -/
def maxResponseBytes : Nat :=
  65536

/-- {lit}`MAX_RESPONSE_READS`. -/
def maxResponseReads : Nat :=
  16

/-- {lit}`NATIVE_ENGINE_MAX_OBSERVATION_CHUNK_BYTES`. -/
def maxObservationChunkBytes : Nat :=
  32768

/-- {lit}`NATIVE_ENGINE_MAX_OBSERVATION_RESPONSE_READ_BYTES`. -/
def maxObservationResponseReadBytes : Nat :=
  8192

/-- {lit}`MAX_JSON_DEPTH`. -/
def maxJsonDepth : Nat :=
  128

/-! ## Requests -/

/-- {lit}`SEMANTIC_OPERATIONS`. -/
inductive SemanticOperation where
  | clock
  | environment
  | filesystem
  | randomness
deriving DecidableEq, Repr

/-- The name of an operation in a record. -/
def SemanticOperation.name : SemanticOperation → Text
  | .clock => "clock-wall-time".toList
  | .environment => "environment-read".toList
  | .filesystem => "filesystem-read".toList
  | .randomness => "random-bytes".toList

/-- A request, as {lit}`semanticRequest` makes it. -/
structure SemanticRequest where
  length : Option Nat
  offset : Option Nat
  operation : SemanticOperation
  target : Option Text
deriving DecidableEq, Repr

/-- A text or null. -/
def orNull (text : Option Text) : Document Int :=
  text.elim .null .string

/-- A number or null. -/
def numberOrNull (number : Option Nat) : Document Int :=
  number.elim .null fun number => .number number

/-- {lit}`canonicalBytes` of a request. -/
def SemanticRequest.bytes (request : SemanticRequest) : Bytes :=
  utf8 (Canonical.Node.stringify (.object [
    ("format".toList, .string "reproit.semantic-observation-request.v1".toList),
    ("length".toList, numberOrNull request.length),
    ("offset".toList, numberOrNull request.offset),
    ("operation".toList, .string request.operation.name),
    ("target".toList, orNull request.target)]))

/-- {lit}`encodedTarget` of a string. -/
def encodedTarget (value : Text) : Option Text :=
  let bytes := utf8 value
  if bytes = [] ∨ maxTargetBytes < bytes.length then none else some (Base64.encode bytes)

/-- {lit}`validTarget`. -/
def validTarget (target : Option Text) : Bool :=
  (target.bind Base64.decodeCanonical).any fun bytes =>
    0 < bytes.length && bytes.length ≤ maxTargetBytes

/-- {lit}`validLength`. -/
def validLength (length : Option Nat) : Bool :=
  length.any fun length => 0 < length && length ≤ maxValueBytes

/-- {lit}`validateRequest`. -/
def validateRequest (request : SemanticRequest) : Bool :=
  match request.operation with
  | .clock => request.target = none && request.offset = none && request.length = none
  | .environment => validTarget request.target && request.offset = none && request.length = none
  | .filesystem => validTarget request.target && request.offset.isSome && validLength request.length
  | .randomness => request.target = none && request.offset = none && validLength request.length

/-- An encoded target is valid. -/
theorem validTarget_encodedTarget {value target : Text} (encoded : encodedTarget value = some target) :
    validTarget (some target) = true := by
  simp only [encodedTarget] at encoded
  split at encoded
  · cases encoded
  · rename_i fits
    cases encoded
    rw [not_or, Nat.not_lt] at fits
    have positive := List.length_pos_of_ne_nil fits.1
    simp [validTarget, Base64.decodeCanonical_encode, positive, fits.2]

/-- Hexadecimal digits of some bytes. -/
def hex (bytes : Bytes) : Text :=
  bytes.flatMap fun byte => [Nat.digitChar (byte.toNat / 16), Nat.digitChar (byte.toNat % 16)]

/-- A hash function with digests of 32 bytes. -/
abbrev HashFunction : Type :=
  Bytes → { digest : Bytes // digest.length = 32 }

/-- The text of the digest of some bytes. -/
def digestText (sha256 : HashFunction) (bytes : Bytes) : Text :=
  "sha256:".toList ++ hex (sha256 bytes).val

/-- The digest of a request. -/
def SemanticRequest.digest (sha256 : HashFunction) (request : SemanticRequest) : Text :=
  digestText sha256 request.bytes

/-! ## Responses -/

/-- A recorded response without its constant format. -/
structure SemanticResponse where
  errorCode : Option Text
  errorNumber : Option Nat
  operation : Text
  outcome : Text
  requestDigest : Text
  value : Option Text
deriving DecidableEq, Repr

/-- {lit}`RESPONSE_FORMAT`. -/
def responseFormat : Text :=
  "reproit.semantic-observation-response.v1".toList

/-- {lit}`RESPONSE_KEYS`. -/
def responseKeys : List Text :=
  ["error_code".toList, "error_number".toList, "format".toList, "operation".toList,
    "outcome".toList, "request_digest".toList, "value".toList]

/-- The members of a response in their order. -/
def SemanticResponse.members (response : SemanticResponse) : List (Text × Document Int) :=
  [("error_code".toList, orNull response.errorCode),
    ("error_number".toList, numberOrNull response.errorNumber),
    ("format".toList, .string responseFormat),
    ("operation".toList, .string response.operation),
    ("outcome".toList, .string response.outcome),
    ("request_digest".toList, .string response.requestDigest),
    ("value".toList, orNull response.value)]

/-- {lit}`canonicalBytes` of a response. -/
def SemanticResponse.bytes (response : SemanticResponse) : Bytes :=
  utf8 (Canonical.Node.stringify (.object response.members))

/-- {lit}`ERROR_CODES`. -/
def errorCodes : List Text :=
  ["interrupted".toList, "invalid-input".toList, "not-found".toList, "other".toList,
    "permission-denied".toList, "resource-limit".toList, "unsupported".toList]

/-- {lit}`validErrorNumber`. -/
def validErrorNumber : Option Nat → Bool
  | none => true
  | some number => number ≤ 0xffffffff

/-- The part of {lit}`validatePair` about the value of a response. -/
def validValue (request : SemanticRequest) (value : Option Text) : Bool :=
  if request.operation = .environment ∧ value = none then true
  else
    match value.bind Base64.decodeCanonical with
    | none => false
    | some bytes =>
        bytes.length ≤ maxValueBytes &&
          match request.operation with
          | .clock => bytes.length = 8
          | .environment => true
          | .filesystem => bytes.length ≤ request.length.getD 0
          | .randomness => request.length = some bytes.length

/-- {lit}`validatePair`. -/
def validatePair (request : SemanticRequest) (response : SemanticResponse) (digest : Text) : Bool :=
  response.operation = request.operation.name && response.requestDigest = digest &&
    if response.outcome = "error".toList then
      response.errorCode.any (fun code => code ∈ errorCodes) &&
        validErrorNumber response.errorNumber && response.value = none
    else
      response.outcome = "response".toList && response.errorCode = none &&
        response.errorNumber = none && validValue request response.value

/-! ## Records -/

/-- The members of an object under a key. -/
def property (members : List (Text × Document Int)) (key : String) : Option (Document Int) :=
  (members.find? fun member => member.1 = key.toList).map Prod.snd

/-- A text. -/
def text? : Document Int → Option Text
  | .string text => some text
  | _ => none

/-- A text or null. -/
def textOrNull? : Document Int → Option (Option Text)
  | .null => some none
  | .string text => some (some text)
  | _ => none

/-- A natural number or null. -/
def numberOrNull? : Document Int → Option (Option Nat)
  | .null => some none
  | .number number => if 0 ≤ number then some (some number.toNat) else none
  | _ => none

/-- The response in a document: the parts of {lit}`validatePair` about keys, types and the
format. -/
def responseOf : Document Int → Option SemanticResponse
  | .object members => do
      if (members.map Prod.fst).isPerm responseKeys then
        let format ← (property members "format").bind text?
        if format = responseFormat then
          let errorCode ← (property members "error_code").bind textOrNull?
          let errorNumber ← (property members "error_number").bind numberOrNull?
          let operation ← (property members "operation").bind text?
          let outcome ← (property members "outcome").bind text?
          let requestDigest ← (property members "request_digest").bind text?
          let value ← (property members "value").bind textOrNull?
          return {
            errorCode := errorCode
            errorNumber := errorNumber
            operation := operation
            outcome := outcome
            requestDigest := requestDigest
            value := value }
        else none
      else none
  | _ => none

/-- {lit}`parseStrictJson` of texts with integers for numbers; the repeated keys that it refuses are
those of the top object, the only one of a response. -/
def parseStrictJson (bytes : Bytes) (maximumBytes : Nat) : Option (Document Int) :=
  if maximumBytes < bytes.length then none
  else do
    let text ← decodeUtf8 bytes
    let document ← parseJson text
    if maxJsonDepth < document.height then none else integers document

/-- The response in a record. -/
def parseResponse (record : Bytes) : Option SemanticResponse := do
  let document ← parseStrictJson record maxResponseBytes
  responseOf document

/-! ## Errors -/

/-- A property of an error, of the type that the SDK reads or of another one. -/
inductive ErrorProperty (α : Type) where
  | absent
  | value (value : α)
  | other
deriving DecidableEq, Repr

/-- What the SDK and its callers read of an error. -/
structure RuntimeError where
  code : ErrorProperty Text
  errno : ErrorProperty Int
deriving DecidableEq, Repr

/-- {lit}`semanticErrorCode`. -/
def semanticErrorCode (error : RuntimeError) : Text :=
  match error.code with
  | .value code =>
      if code = "EINTR".toList then "interrupted".toList
      else if code = "EINVAL".toList then "invalid-input".toList
      else if code = "ENOENT".toList then "not-found".toList
      else if code ∈ ["EACCES".toList, "EPERM".toList] then "permission-denied".toList
      else if code ∈ ["EMFILE".toList, "ENFILE".toList, "ENOMEM".toList, "ENOSPC".toList] then
        "resource-limit".toList
      else if code ∈ ["ENOTSUP".toList, "EOPNOTSUPP".toList] then "unsupported".toList
      else "other".toList
  | _ => "other".toList

/-- {lit}`semanticErrorNumber`. -/
def semanticErrorNumber (error : RuntimeError) : Option Nat :=
  match error.errno with
  | .value number => if number.natAbs ≤ 0xffffffff then some number.natAbs else none
  | _ => none

/-- {lit}`nodeErrorCode`. -/
def nodeErrorCode (code : Text) : ErrorProperty Text :=
  if code = "interrupted".toList then .value "EINTR".toList
  else if code = "invalid-input".toList then .value "EINVAL".toList
  else if code = "not-found".toList then .value "ENOENT".toList
  else if code = "other".toList then .value "ERR_REPROIT_CAPTURED_OBSERVATION".toList
  else if code = "permission-denied".toList then .value "EACCES".toList
  else if code = "resource-limit".toList then .value "ENOMEM".toList
  else if code = "unsupported".toList then .value "ENOTSUP".toList
  else .absent

/-- {lit}`replayError` of the two fields of a response. -/
def replayError (code : Option Text) (number : Option Nat) : RuntimeError :=
  { code := code.elim .absent nodeErrorCode
    errno := number.elim .absent fun number => .value (-number) }

/-! ## Observed calls -/

/-- A call that opens an observation.  Its encoder raises or has no bytes for some results, and its
decoder takes bytes or null. -/
structure ObservedCall (α : Type) where
  request : SemanticRequest
  encode : α → Option (Option Bytes)
  decode : Option Bytes → Option α

/-- What becomes of a captured observation. -/
inductive Settlement where
  | finished (record : Bytes)
  | abandoned
deriving DecidableEq, Repr

/-- What a session of a replay answers: the reads, each with the mark of the end, and the finish. -/
structure ReplaySession where
  reads : List (Bytes × Bool)
  finishes : Bool
deriving DecidableEq, Repr

/-- The session that serves a record. -/
def serving (record : Bytes) : ReplaySession where
  reads := Chunks.served maxObservationResponseReadBytes record
  finishes := true

/-- What the application sees of a replayed observation. -/
inductive Replayed (α : Type) where
  | value (value : α)
  | raised (error : RuntimeError)
  | unavailable
deriving DecidableEq, Repr

/-- The response that {lit}`#finish` writes, for the digest of its request. -/
def capturedResponse (digest : Text) (request : SemanticRequest) (outcome : String)
    (value : Option Bytes) (errorCode : Option Text) (errorNumber : Option Nat) :
    SemanticResponse where
  errorCode := errorCode
  errorNumber := errorNumber
  operation := request.operation.name
  outcome := outcome.toList
  requestDigest := digest
  value := value.map Base64.encode

/-- {lit}`#finish`.  The engine takes or refuses each write and the end of the session, and a
session abandons what it refuses. -/
def finishCapture (sha256 : HashFunction) (engine : Nat → Bool) (request : SemanticRequest)
    (response : SemanticResponse) : Settlement :=
  if validatePair request response (request.digest sha256) then
    let pieces := Chunks.chunks maxObservationChunkBytes response.bytes
    if pieces ≠ [] ∧ (List.range (pieces.length + 1)).all engine then .finished pieces.flatten
    else .abandoned
  else .abandoned

section Calls

variable {α : Type} (call : ObservedCall α) (sha256 : HashFunction) (engine : Nat → Bool)

/-- The capture of a live call. -/
def ObservedCall.capture : Except RuntimeError α → Settlement
  | .error error =>
      finishCapture sha256 engine call.request (capturedResponse (call.request.digest sha256) call.request "error" none
        (some (semanticErrorCode error)) (semanticErrorNumber error))
  | .ok result =>
      match call.encode result with
      | none => .abandoned
      | some none => .abandoned
      | some (some bytes) =>
          finishCapture sha256 engine call.request
            (capturedResponse (call.request.digest sha256) call.request "response" bytes none none)

/-- {lit}`readReplayResponse`. -/
def readReplayResponse (request : SemanticRequest) (session : ReplaySession) :
    Option SemanticResponse := do
  let record ← Chunks.gather maxObservationResponseReadBytes maxResponseBytes maxResponseReads
    session.reads []
  let response ← parseResponse record
  if validatePair request response (request.digest sha256) then some response else none

/-- The replay of a call: {lit}`replayValue`, then the decoder. -/
def ObservedCall.replay (session : ReplaySession) : Replayed α :=
  match readReplayResponse sha256 call.request session with
  | none => .unavailable
  | some response =>
      if session.finishes = false then .unavailable
      else if response.outcome = "error".toList then
        .raised (replayError response.errorCode response.errorNumber)
      else
        match call.decode (response.value.bind Base64.decode) with
        | none => .unavailable
        | some value => .value value

end Calls

/-! ## Plain texts -/

/-- Printable characters of ASCII that stand for themselves in a string. -/
def IsPlain (text : Text) : Prop :=
  ∀ character ∈ text, 32 ≤ character.toNat ∧ character.toNat < 128 ∧ character ≠ '\"' ∧
    character ≠ '\\'

instance (text : Text) : Decidable (IsPlain text) :=
  decidable_of_iff (text.all (fun character => decide (32 ≤ character.toNat ∧
    character.toNat < 128 ∧ character ≠ '\"' ∧ character ≠ '\\')) = true) (by simp [IsPlain])

/-- The bytes of two texts one after the other. -/
theorem utf8_append (left right : Text) : utf8 (left ++ right) = utf8 left ++ utf8 right :=
  List.flatMap_append

/-- The bytes of a text from its first character on. -/
theorem utf8_cons (character : Char) (text : Text) :
    utf8 (character :: text) = utf8 [character] ++ utf8 text :=
  utf8_append [character] text

/-- A character of ASCII is one byte. -/
theorem length_utf8_ascii {text : Text} (ascii : ∀ character ∈ text, character.toNat < 128) :
    (utf8 text).length = text.length := by
  induction text with
  | nil => rfl
  | cons character text ih =>
      have small := ascii character (List.mem_cons_self ..)
      have one : (utf8 [character]).length = 1 := by
        change (String.utf8EncodeChar character ++ []).length = 1
        rw [List.append_nil, String.utf8EncodeChar]
        have bound : character.val.toNat ≤ 127 := Nat.le_of_lt_succ small
        simp only [if_pos bound, List.length_singleton]
      rw [utf8_cons, List.length_append, one, ih fun other among =>
        ascii other (List.mem_cons_of_mem _ among), List.length_cons]
      omega

/-- Nothing of a plain text is escaped. -/
theorem quote_plain {text : Text} (plain : IsPlain text) :
    quote text = '\"' :: text ++ ['\"'] := by
  have whole : escape text = text := by
    induction text with
    | nil => rfl
    | cons character text ih =>
        obtain ⟨printable, -, noQuote, noSolidus⟩ := plain character (List.mem_cons_self ..)
        have rest := ih fun other among => plain other (List.mem_cons_of_mem _ among)
        change escapeCharacter character ++ escape text = character :: text
        rw [escapeCharacter_plain printable noQuote noSolidus, rest]
        rfl
  rw [quote, whole]

/-- A plain text in quotes has two bytes more than it has characters. -/
theorem length_quote_plain {text : Text} (plain : IsPlain text) :
    (utf8 (quote text)).length = text.length + 2 := by
  rw [quote_plain plain, length_utf8_ascii]
  · simp
  · intro character among
    rcases List.mem_append.mp among with inside | last
    · rcases List.mem_cons.mp inside with rfl | within
      · decide
      · exact (plain character within).2.1
    · rw [List.mem_singleton.mp last]
      decide

/-- The text of some bytes is plain. -/
theorem base64_plain (bytes : Bytes) : IsPlain (Base64.encode bytes) := by
  intro character among
  rcases Base64.digit_of_mem among with ⟨value, small, rfl⟩
  have all : ∀ index : Fin 64, IsPlain [Base64.digit index] := by decide
  exact all ⟨value, small⟩ _ (List.mem_singleton_self _)

/-! ## Round trip of responses -/

/-- A response is a document that can be read. -/
theorem readable_members (response : SemanticResponse) :
    Readable ((Document.object response.members).map decimal) := by
  apply (Document.all_map decimal _).mpr
  have text (value : Option Text) : Document.All (fun number => IsInteger (decimal number))
      (fun _ => True) List.Nodup (orNull value) := by
    cases value with
    | none => exact .null
    | some value => exact .string value trivial
  have number (value : Option Nat) : Document.All (fun number => IsInteger (decimal number))
      (fun _ => True) List.Nodup (numberOrNull value) := by
    cases value with
    | none => exact .null
    | some value => exact .number _ ⟨value, rfl⟩
  have distinct : (response.members.map Prod.fst).Nodup := by
    change responseKeys.Nodup
    decide
  apply Document.All.object _ distinct fun _ _ => trivial
  simp only [SemanticResponse.members, List.forall_mem_cons]
  exact ⟨text _, number _, .string _ trivial, .string _ trivial, .string _ trivial,
    .string _ trivial, text _, fun _ among => by cases among⟩

/-- The response in the document of a response. -/
theorem responseOf_members (response : SemanticResponse) :
    responseOf (.object response.members) = some response := by
  have text (value : Option Text) : textOrNull? (orNull value) = some value := by
    cases value <;> rfl
  have number (value : Option Nat) : numberOrNull? (numberOrNull value) = some value := by
    cases value with
    | none => rfl
    | some value => simp [numberOrNull, numberOrNull?]
  have keys : (response.members.map Prod.fst).isPerm responseKeys := by
    change responseKeys.isPerm responseKeys
    decide
  have code : property response.members "error_code" = some (orNull response.errorCode) := rfl
  have errorNumber : property response.members "error_number" =
    some (numberOrNull response.errorNumber) := rfl
  have format : property response.members "format" = some (.string responseFormat) := rfl
  have operation : property response.members "operation" = some (.string response.operation) := rfl
  have outcome : property response.members "outcome" = some (.string response.outcome) := rfl
  have digest : property response.members "request_digest" =
    some (.string response.requestDigest) := rfl
  have value : property response.members "value" = some (orNull response.value) := rfl
  simp only [responseOf, keys, if_true, code, errorNumber, format, operation, outcome, digest,
    value, Option.bind_some, text, number, text?, Option.bind_eq_bind, Option.pure_def]

/-- The document of a response is flat. -/
theorem height_members (response : SemanticResponse) :
    ((Document.object response.members).map decimal).height ≤ maxJsonDepth := by
  obtain ⟨errorCode, errorNumber, operation, outcome, requestDigest, value⟩ := response
  cases errorCode <;> cases errorNumber <;> cases value <;> exact (by decide : 1 ≤ 128)

/-- A character of ASCII adds a byte. -/
theorem length_utf8_mark {mark : Char} (ascii : mark.toNat < 128) (text : Text) :
    (utf8 (mark :: text)).length = (utf8 text).length + 1 := by
  have one : (utf8 [mark]).length = 1 :=
    length_utf8_ascii fun other among => by rwa [List.mem_singleton.mp among]
  rw [utf8_cons, List.length_append, one, Nat.add_comm]

/-- A response whose texts stand for themselves in a record. -/
structure SemanticResponse.Plain (response : SemanticResponse) : Prop where
  errorCode : ∀ code ∈ response.errorCode, IsPlain code ∧ code.length ≤ 17
  errorNumber : validErrorNumber response.errorNumber = true
  operation : IsPlain response.operation ∧ response.operation.length ≤ 16
  outcome : IsPlain response.outcome ∧ response.outcome.length ≤ 8
  requestDigest : IsPlain response.requestDigest ∧ response.requestDigest.length ≤ 71
  value : ∀ value ∈ response.value, IsPlain value

/-- The bytes of a text or null. -/
theorem length_orNull {text : Option Text} {bound : Nat}
    (plain : ∀ value ∈ text, IsPlain value ∧ value.length ≤ bound) :
    (utf8 (renderWith quote ((orNull text).map decimal))).length ≤ bound + 4 := by
  cases text with
  | none => exact Nat.le_add_left 4 bound
  | some value =>
      have known := plain value rfl
      have length := length_quote_plain known.1
      change (utf8 (quote value)).length ≤ bound + 4
      omega

/-- The bytes of a number or null. -/
theorem length_numberOrNull {number : Option Nat} (valid : validErrorNumber number = true) :
    (utf8 (renderWith quote ((numberOrNull number).map decimal))).length ≤ 10 := by
  cases number with
  | none => exact (by decide : 4 ≤ 10)
  | some value =>
      have small : value ≤ 0xffffffff := of_decide_eq_true valid
      have digits : decimal (value : Int) = Nat.toDigits 10 value := by
        rw [decimal, if_neg (by omega), Int.natAbs_natCast]
      change (utf8 (decimal (value : Int))).length ≤ 10
      rw [digits, length_utf8_ascii]
      · exact (Nat.length_toDigits_le_iff (by decide) (by decide)).mpr (by omega)
      · intro character among
        have digit := isDigit_of_mem among
        simp only [Char.isDigit, Bool.and_eq_true, decide_eq_true_eq] at digit
        have high : character.toNat ≤ 57 := digit.2
        omega

/-- A response is short but for its value. -/
theorem length_bytes {response : SemanticResponse} (plain : response.Plain) :
    response.bytes.length ≤ 512 + (response.value.getD []).length := by
  have code := length_orNull plain.errorCode
  have number := length_numberOrNull plain.errorNumber
  have operation := length_quote_plain plain.operation.1
  have outcome := length_quote_plain plain.outcome.1
  have digest := length_quote_plain plain.requestDigest.1
  have value : (utf8 (renderWith quote ((orNull response.value).map decimal))).length ≤
      (response.value.getD []).length + 4 := by
    apply length_orNull
    intro value found
    exact ⟨plain.value value found, by rw [Option.mem_def.mp found]; exact le_rfl⟩
  have format : (utf8 (quote responseFormat)).length = 42 := by decide
  have key (name : Text) (known : name ∈ responseKeys) : (utf8 (quote name)).length ≤ 16 := by
    revert name
    decide
  have first := key "error_code".toList (by decide)
  have second := key "error_number".toList (by decide)
  have third := key "format".toList (by decide)
  have fourth := key "operation".toList (by decide)
  have fifth := key "outcome".toList (by decide)
  have sixth := key "request_digest".toList (by decide)
  have seventh := key "value".toList (by decide)
  simp only [SemanticResponse.bytes, Canonical.Node.stringify, SemanticResponse.members, Document.map,
    Document.mapMembers, renderWith, renderMembers, separated, List.flatMap_cons, List.flatMap_nil]
  simp (disch := decide) only [length_utf8_mark, utf8_append, List.length_append,
    List.cons_append, List.nil_append, List.append_assoc]
  have none : (utf8 []).length = 0 := rfl
  have := plain.operation.2
  have := plain.outcome.2
  have := plain.requestDigest.2
  omega

/-- A response is read back from its record. -/
theorem parseResponse_record {response : SemanticResponse}
    (short : response.bytes.length ≤ maxResponseBytes) :
    parseResponse response.bytes = some response := by
  have parsed : parseStrictJson response.bytes maxResponseBytes =
      some (.object response.members) := by
    unfold parseStrictJson
    rw [if_neg (Nat.not_lt.mpr short), SemanticResponse.bytes, decodeUtf8_utf8]
    simp only [Option.bind_eq_bind, Option.bind_some, Canonical.Node.stringify]
    rw [parseJson_render (readable_members response)]
    simp only [Option.bind_some]
    rw [integers_map]
    exact if_neg (Nat.not_lt.mpr (height_members response))
  rw [parseResponse, parsed]
  exact responseOf_members response

/-! ## Records of captured responses -/

/-- The digits of some bytes are plain. -/
theorem hex_plain (bytes : Bytes) : IsPlain (hex bytes) := by
  have digit : ∀ index : Fin 16, IsPlain [Nat.digitChar index] := by decide
  intro character among
  rcases List.mem_flatMap.mp among with ⟨byte, -, within⟩
  have bound := byte.toNat_lt
  rcases List.mem_cons.mp within with rfl | last
  · exact digit ⟨byte.toNat / 16, by omega⟩ _ (List.mem_singleton_self _)
  · rw [List.mem_singleton.mp last]
    exact digit ⟨byte.toNat % 16, by omega⟩ _ (List.mem_singleton_self _)

/-- Each byte has two digits. -/
theorem length_hex (bytes : Bytes) : (hex bytes).length = 2 * bytes.length := by
  induction bytes with
  | nil => rfl
  | cons byte bytes ih =>
      have step : hex (byte :: bytes) = [Nat.digitChar (byte.toNat / 16),
          Nat.digitChar (byte.toNat % 16)] ++ hex bytes := rfl
      rw [step, List.length_append, ih]
      simp only [List.length_cons, List.length_nil]
      omega

/-- The text of a digest is plain. -/
theorem digest_plain (sha256 : HashFunction) (bytes : Bytes) : IsPlain (digestText sha256 bytes) := by
  intro character among
  rcases List.mem_append.mp among with mark | digit
  · exact (by decide : IsPlain "sha256:".toList) character mark
  · exact hex_plain _ character digit

/-- Every digest has the same length. -/
theorem length_digest (sha256 : HashFunction) (bytes : Bytes) :
    (digestText sha256 bytes).length = 71 := by
  have digits := length_hex (sha256 bytes).val
  rw [(sha256 bytes).property] at digits
  unfold digestText
  rw [List.length_append, digits]
  rfl

/-- What a capture writes is plain. -/
theorem capturedResponse_plain (sha256 : HashFunction) (bytes : Bytes) (request : SemanticRequest)
    {outcome : String} (known : outcome = "error" ∨ outcome = "response") (value : Option Bytes)
    {errorCode : Option Text} (listed : ∀ code ∈ errorCode, code ∈ errorCodes)
    {errorNumber : Option Nat} (number : validErrorNumber errorNumber = true) :
    (capturedResponse (digestText sha256 bytes) request outcome value errorCode
      errorNumber).Plain where
  errorCode := by
    intro code among
    have all : ∀ code ∈ errorCodes, IsPlain code ∧ code.length ≤ 17 := by decide
    exact all code (listed code among)
  errorNumber := number
  operation := by
    change IsPlain request.operation.name ∧ request.operation.name.length ≤ 16
    cases request.operation with
    | clock => decide
    | environment => decide
    | filesystem => decide
    | randomness => decide
  outcome := by
    rcases known with rfl | rfl
    · exact (by decide : IsPlain "error".toList ∧ "error".toList.length ≤ 8)
    · exact (by decide : IsPlain "response".toList ∧ "response".toList.length ≤ 8)
  requestDigest := ⟨digest_plain sha256 bytes, (length_digest sha256 bytes).le⟩
  value := by
    intro text found
    cases value with
    | none => cases found
    | some bytes =>
        rw [← Option.some.inj found]
        exact base64_plain bytes

/-- A record has bytes. -/
theorem bytes_ne_nil (response : SemanticResponse) : response.bytes ≠ [] := by
  intro empty
  have length := congrArg List.length empty
  simp only [SemanticResponse.bytes, Canonical.Node.stringify, Document.map, renderWith,
    List.cons_append] at length
  rw [length_utf8_mark (by decide)] at length
  cases length

section Sessions

variable (sha256 : HashFunction) (engine : Nat → Bool) (request : SemanticRequest)

/-- A valid response is recorded when the engine takes every call. -/
theorem finishCapture_valid {response : SemanticResponse}
    (valid : validatePair request response (request.digest sha256) = true)
    (takes : ∀ turn, engine turn = true) :
    finishCapture sha256 engine request response = .finished response.bytes := by
  have positive : 0 < maxObservationChunkBytes := by decide
  have some : Chunks.chunks maxObservationChunkBytes response.bytes ≠ [] := by
    rw [Chunks.chunks_of_ne_nil positive (bytes_ne_nil response)]
    exact List.cons_ne_nil _ _
  have all : (List.range ((Chunks.chunks maxObservationChunkBytes response.bytes).length + 1)).all
      engine = true := List.all_eq_true.mpr fun turn _ => takes turn
  simp only [finishCapture, if_pos valid, if_pos (And.intro some all)]
  rw [Chunks.chunks_flatten positive]

/-- What is recorded is a valid response. -/
theorem finishCapture_finished {response : SemanticResponse} {record : Bytes}
    (finished : finishCapture sha256 engine request response = .finished record) :
    validatePair request response (request.digest sha256) = true ∧ record = response.bytes := by
  have positive : 0 < maxObservationChunkBytes := by decide
  unfold finishCapture at finished
  split at finished
  · rename_i valid
    dsimp only at finished
    split at finished
    · cases finished
      exact ⟨valid, Chunks.chunks_flatten positive _⟩
    · cases finished
  · cases finished

/-- A valid response is read back from the session of a replay. -/
theorem readReplayResponse_served {response : SemanticResponse} (plain : response.Plain)
    (valid : validatePair request response (request.digest sha256) = true)
    (small : ∀ value ∈ response.value, value.length ≤ 65024) :
    readReplayResponse sha256 request (serving response.bytes) = some response := by
  have bound := length_bytes plain
  have within : (response.value.getD []).length ≤ 65024 := by
    cases found : response.value with
    | none => exact Nat.zero_le _
    | some value => exact small value found
  have short : response.bytes.length ≤ maxResponseBytes := by
    simp only [maxResponseBytes]
    omega
  have gathered : Chunks.gather maxObservationResponseReadBytes maxResponseBytes maxResponseReads
      (serving response.bytes).reads [] = some response.bytes := by
    apply Chunks.gather_served (by decide) (bytes_ne_nil response) short
    simp only [maxResponseBytes, maxResponseReads, maxObservationResponseReadBytes] at *
    omega
  simp only [readReplayResponse, gathered, parseResponse_record short, Option.bind_eq_bind,
    Option.bind_some, if_pos valid]

end Sessions

section Calls

variable {α : Type} (call : ObservedCall α) (sha256 : HashFunction) (engine : Nat → Bool)

/-- Every error has a listed code. -/
theorem semanticErrorCode_mem (error : RuntimeError) : semanticErrorCode error ∈ errorCodes := by
  unfold semanticErrorCode
  split
  · split_ifs <;> decide
  · decide

/-- The number of an error is in its range. -/
theorem validErrorNumber_semanticErrorNumber (error : RuntimeError) :
    validErrorNumber (semanticErrorNumber error) = true := by
  unfold semanticErrorNumber
  split
  · split
    · rename_i small
      exact decide_eq_true small
    · rfl
  · rfl

/-- The response of an error is valid. -/
theorem validatePair_error (request : SemanticRequest) (error : RuntimeError) :
    validatePair request (capturedResponse (request.digest sha256) request "error" none
      (some (semanticErrorCode error)) (semanticErrorNumber error)) (request.digest sha256) =
        true := by
  have listed := semanticErrorCode_mem error
  have ranged := validErrorNumber_semanticErrorNumber error
  simp [validatePair, capturedResponse, listed, ranged]

/-- A session that serves a record finishes the replay of its response. -/
theorem replay_of_response {response : SemanticResponse} {record : Bytes}
    (read : readReplayResponse sha256 call.request (serving record) = some response) :
    call.replay sha256 (serving record) =
      if response.outcome = "error".toList then
        .raised (replayError response.errorCode response.errorNumber)
      else
        match call.decode (response.value.bind Base64.decode) with
        | none => .unavailable
        | some value => .value value := by
  have finishes : ¬ (serving record).finishes = false := fun refused => nomatch refused
  rw [ObservedCall.replay, read]
  exact if_neg finishes

/-- A recorded error is raised again, with the code and the number that its record has. -/
theorem replay_error {error : RuntimeError} {record : Bytes}
    (captured : call.capture sha256 engine (.error error) = .finished record) :
    call.replay sha256 (serving record) =
      .raised (replayError (some (semanticErrorCode error)) (semanticErrorNumber error)) := by
  rcases finishCapture_finished sha256 engine call.request captured with ⟨valid, rfl⟩
  have plain : (capturedResponse (call.request.digest sha256) call.request "error" none
      (some (semanticErrorCode error)) (semanticErrorNumber error)).Plain := by
    apply capturedResponse_plain sha256 call.request.bytes call.request (.inl rfl) none
    · intro code among
      rw [← Option.some.inj among]
      exact semanticErrorCode_mem error
    · exact validErrorNumber_semanticErrorNumber error
  have read := readReplayResponse_served sha256 call.request plain valid
    (fun _ among => by cases among)
  rw [replay_of_response call sha256 read]
  exact if_pos rfl

/-- A value that is written fits when its bytes do. -/
theorem validValue_encode (request : SemanticRequest) (bytes : Bytes) :
    validValue request (some (Base64.encode bytes)) =
      (decide (bytes.length ≤ maxValueBytes) &&
        match request.operation with
        | .clock => decide (bytes.length = 8)
        | .environment => true
        | .filesystem => decide (bytes.length ≤ request.length.getD 0)
        | .randomness => decide (request.length = some bytes.length)) := by
  have given : ¬ (request.operation = .environment ∧ some (Base64.encode bytes) = none) :=
    fun both => by cases both.2
  rw [validValue, if_neg given, Option.bind_some, Base64.decodeCanonical_encode]

/-- The response of a result is valid when its value fits. -/
theorem validatePair_response (request : SemanticRequest) (bytes : Bytes) :
    validatePair request (capturedResponse (request.digest sha256) request "response" (some bytes) none none)
      (request.digest sha256) = validValue request (some (Base64.encode bytes)) := by
  simp [validatePair, capturedResponse]

/-- A recorded result is decoded from the bytes that it is encoded as. -/
theorem replay_captured {result : α} {bytes : Bytes} {record : Bytes}
    (encoded : call.encode result = some (some bytes))
    (captured : call.capture sha256 engine (.ok result) = .finished record) :
    call.replay sha256 (serving record) =
      (call.decode (some bytes)).elim .unavailable Replayed.value := by
  simp only [ObservedCall.capture, encoded] at captured
  rcases finishCapture_finished sha256 engine call.request captured with ⟨valid, rfl⟩
  have plain : (capturedResponse (call.request.digest sha256) call.request "response" (some bytes) none none).Plain :=
    capturedResponse_plain sha256 _ call.request (.inr rfl) (some bytes)
      (fun _ among => by cases among) rfl
  have fits := valid
  rw [validatePair_response, validValue_encode, Bool.and_eq_true, decide_eq_true_eq] at fits
  have bounded := fits.1
  have length := Base64.length_encode bytes
  have read := readReplayResponse_served sha256 call.request plain valid (by
    intro value found
    rw [← Option.some.inj found]
    simp only [maxValueBytes] at bounded
    omega)
  have outcome : ¬ "response".toList = "error".toList := by decide
  have decoded : (some (Base64.encode bytes)).bind Base64.decode = some bytes :=
    Base64.decode_encode bytes
  rw [replay_of_response call sha256 read]
  refine (if_neg outcome).trans ?_
  change (match call.decode ((some (Base64.encode bytes)).bind Base64.decode) with
    | none => Replayed.unavailable
    | some value => .value value) = _
  rw [decoded]
  cases call.decode (some bytes) with
  | none => rfl
  | some value => rfl

end Calls
end Node
end Runtime
end ReproItSdk
