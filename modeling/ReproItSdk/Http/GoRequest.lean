import ReproItSdk.Http.GoMetadata

/-! # Requests of the Go HTTP adapter

{lit}`RoundTrip` translates the request of an application into the request of a dependency.  When a
fuzz campaign is current it first adds two headers to a copy of the request, and the translation
refuses both of them.

Main definitions:

- Function {lit}`makeAutomaticHttpRequest`: the translation.
- Function {lit}`captured`: what a round trip of an active operation opens.

Main results:

- Theorem {lit}`captured_campaign`: nothing is captured while a campaign is current.
-/

namespace ReproItSdk
namespace Http
namespace Go

open Unicode Json Wrappers.Native

/-! ## Requests -/

/-- What {lit}`GetBody` returns, with the bytes that can be read of it. -/
inductive BodyCopy where
  | failed
  | absent
  | copy (value : Bytes) (readFails closeFails : Bool)
deriving DecidableEq, Repr

/-- The body of a request; one that is not empty may have a function {lit}`GetBody`. -/
inductive RequestBody where
  | absent
  | noBody
  | body (getBody : Option BodyCopy)
deriving DecidableEq, Repr

/-- {lit}`url.URL`: its scheme, whether it names a user, and its text. -/
structure RequestUrl where
  scheme : Bytes
  user : Bool
  text : Bytes
deriving DecidableEq, Repr

/-- {lit}`http.Request`. -/
structure Request where
  url : Option RequestUrl
  method : Bytes
  header : Header
  body : RequestBody
  close : Bool
  contentLength : Int
  host : Bytes
  proto : Bytes
  protoMajor : Int
  protoMinor : Int
  transferEncoding : List Bytes

/-- {lit}`automaticHTTPBodyBytes`. -/
def automaticHttpBodyBytes : Nat :=
  16384

/-- {lit}`automaticHTTPTargetBytes`. -/
def automaticHttpTargetBytes : Nat :=
  16384

/-! ## Translation -/

/-- {lit}`Values` of a canonical key. -/
def Header.values (header : Header) (key : Bytes) : List Bytes :=
  (OrderedRecord.get key header.fields).getD []

/-- {lit}`Get` of a canonical key. -/
def Header.get (header : Header) (key : Bytes) : Bytes :=
  (header.values key).headD []

/-- {lit}`headerContainsToken`. -/
def headerContainsToken (header : Header) (name token : Bytes) : Bool :=
  (header.values name).any fun value =>
    (value.splitOn 0x2c).any fun part => equalFold (trimSpace part) token

/-- {lit}`requestHasUpgrade`. -/
def requestHasUpgrade (request : Request) : Bool :=
  request.header.get (asciiBytes "Upgrade") ≠ [] ||
    headerContainsToken request.header (asciiBytes "Connection") (asciiBytes "upgrade")

/-- {lit}`replayableAutomaticHTTPBody`. -/
def replayableAutomaticHttpBody (request : Request) : Option (Bytes × Bytes) :=
  match request.body with
  | .absent => some ([], asciiBytes "nil")
  | .noBody => some ([], asciiBytes "no-body")
  | .body none => none
  | .body (some copy) =>
      if (automaticHttpBodyBytes : Int) < request.contentLength then none
      else
        match copy with
        | .failed => none
        | .absent => none
        | .copy value readFails closeFails =>
            let value := value.take (automaticHttpBodyBytes + 1)
            if readFails ∨ closeFails ∨ automaticHttpBodyBytes < value.length then none
            else some (value, asciiBytes "replayable")

/-- The payload of a request. -/
def requestPayload (request : Request) (url : RequestUrl) (body : Bytes × Bytes) :
    Except String Bytes :=
  canonicalMap [
    ("body".toList, .ok (encodeString (utf8 (Base64.encode body.1)))),
    ("body_kind".toList, .ok (encodeString body.2)),
    ("close".toList, Canonical.encodeCanonical (.bool request.close)),
    ("content_length".toList, Canonical.encodeCanonical (.int64 request.contentLength)),
    ("host".toList, .ok (encodeString request.host)),
    ("method".toList, .ok (encodeString request.method)),
    ("proto".toList, .ok (encodeString request.proto)),
    ("proto_major".toList, Canonical.encodeCanonical (.int request.protoMajor)),
    ("proto_minor".toList, Canonical.encodeCanonical (.int request.protoMinor)),
    ("transfer_encoding".toList, stringList request.transferEncoding),
    ("url".toList, .ok (encodeString url.text))]

/-- A request that is not translated, whatever its body and its headers. -/
def unsupportedRequest (request : Request) (url : RequestUrl) : Bool :=
  (url.scheme ≠ asciiBytes "http" && url.scheme ≠ asciiBytes "https") || url.user ||
    equalFold request.method (asciiBytes "connect") || requestHasUpgrade request ||
    automaticHttpTargetBytes < url.text.length

/-- The request of a dependency with a payload. -/
def semanticRequest (request : Request) (url : RequestUrl) (metadata : List DependencyMetadata)
    (payload : Bytes) : Wrappers.Native.Go.SemanticDependencyRequest where
  encoding := asciiBytes "go-net-http-v1"
  metadata := metadata
  method := some (if request.method = [] then asciiBytes "GET" else request.method)
  observationClass := asciiBytes "outbound-http"
  operation := asciiBytes "outbound-http-request"
  payload := payload
  protocol := url.scheme
  target := url.text

/-- {lit}`makeAutomaticHTTPRequest`. -/
def makeAutomaticHttpRequest (request : Request) :
    Option Wrappers.Native.Go.SemanticDependencyRequest := do
  let url ← request.url
  if unsupportedRequest request url then none
  else do
    let body ← replayableAutomaticHttpBody request
    let metadata ← automaticHttpMetadata request.header
    let payload ← (requestPayload request url body).toOption
    if sdkEngineMaxSemanticDependencyRecordBytes < payload.length then none
    else some (semanticRequest request url metadata payload)

/-! ## Campaign contexts -/

/-- The bytes that a key of a header may consist of. -/
def isTokenByte (byte : UInt8) : Bool :=
  (0x30 ≤ byte && byte ≤ 0x39) || (0x41 ≤ byte && byte ≤ 0x5a) || (0x61 ≤ byte && byte ≤ 0x7a) ||
    byte ∈ asciiBytes "!#$%&'*+-.^_|~" || byte = 0x60

/-- A key with capitals at its start and after its hyphens. -/
def capitalize : Bool → Bytes → Bytes
  | _, [] => []
  | upper, byte :: rest =>
      (if upper ∧ 0x61 ≤ byte ∧ byte ≤ 0x7a then byte - 0x20
        else if ¬ upper ∧ 0x41 ≤ byte ∧ byte ≤ 0x5a then byte + 0x20
        else byte) :: capitalize (byte = 0x2d) rest

/-- {lit}`CanonicalMIMEHeaderKey`. -/
def canonicalMimeHeaderKey (key : Bytes) : Bytes :=
  if key.all isTokenByte then capitalize true key else key

/-- {lit}`Set`. -/
def Header.set (header : Header) (key value : Bytes) : Header where
  fields := OrderedRecord.set (canonicalMimeHeaderKey key) [value] header.fields
  distinct := OrderedRecord.nodup_set _ _ header.distinct

/-- {lit}`FuzzContextHTTPHeader`. -/
def fuzzContextHttpHeader : Bytes :=
  asciiBytes "ReproIt-Fuzz-Context"

/-- {lit}`FuzzParentHTTPHeader`. -/
def fuzzParentHttpHeader : Bytes :=
  asciiBytes "ReproIt-Parent-Operation"

/-- A campaign context that is current in an operation. -/
structure Campaign where
  encoded : Bytes
  operationId : Bytes
deriving DecidableEq, Repr

/-- The request that {lit}`RoundTrip` translates and passes on. -/
def Request.withCampaign (request : Request) : Option Campaign → Request
  | none => request
  | some campaign =>
      { request with
        header := (request.header.set fuzzContextHttpHeader campaign.encoded).set
          fuzzParentHttpHeader campaign.operationId }

/-- What {lit}`RoundTrip` asks the engine to open for a request of an active operation. -/
def captured (campaign : Option Campaign) (request : Request) :
    Option SdkEngineDependencyRequest := do
  let semantic ← makeAutomaticHttpRequest (request.withCampaign campaign)
  Wrappers.Native.Go.makeSdkEngineDependencyRequest (fun bytes => utf8 (Base64.encode bytes))
    semantic

/-- The context header is sensitive. -/
theorem isSensitive_context :
    isSensitive (canonicalMimeHeaderKey fuzzContextHttpHeader) = true := by
  decide

/-- Nothing is captured while a campaign is current. -/
theorem captured_campaign (campaign : Campaign) (request : Request) :
    captured (some campaign) request = none := by
  have apart : canonicalMimeHeaderKey fuzzContextHttpHeader ≠
      canonicalMimeHeaderKey fuzzParentHttpHeader := by
    decide
  have set : (canonicalMimeHeaderKey fuzzContextHttpHeader, [campaign.encoded]) ∈
      (request.withCampaign (some campaign)).header.fields :=
    OrderedRecord.mem_set_of_ne apart (OrderedRecord.mem_set_self _ _ request.header.fields)
  have refused := automaticHttpMetadata_of_sensitive set isSensitive_context
  cases made : makeAutomaticHttpRequest (request.withCampaign (some campaign)) with
  | none => simp only [captured, made, bind, Option.bind_none]
  | some semantic =>
      simp only [makeAutomaticHttpRequest, bind, Option.bind_eq_some_iff] at made
      rcases made with ⟨url, -, made⟩
      split at made
      · cases made
      · rcases Option.bind_eq_some_iff.mp made with ⟨body, -, made⟩
        rw [refused, Option.bind_none] at made
        cases made

end Go
end Http
end ReproItSdk
