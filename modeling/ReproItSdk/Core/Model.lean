import ReproItSdk.Library.KeyedTable

/-! # Shared data model

The SDK takes its identifiers, payloads, canonical encoding and record validation from the
reproit-core crate, whose source is not part of this repository.  Payloads that the SDK builds are
structures here, with the fields the SDK fills in; format tags, which have one value each, are left
out.  The functions of the crate that the SDK calls are the fields of {lit}`Core`.

Main definitions:

- Structure {lit}`Error`: a stable code with its message.
- Inductive {lit}`AutomaticObservationClass`: the seven observation classes.
- Structure {lit}`Core`: digests, texts, canonical encoding, record codecs and recorded replays.
-/

namespace ReproItSdk

/-- Byte strings. -/
abbrev Bytes : Type :=
  List UInt8

/-- Bytes of a text of ASCII characters, as in a byte string literal. -/
def asciiBytes (text : String) : Bytes :=
  text.toList.map fun character => UInt8.ofNat character.toNat

/-- Largest value of a {lit}`u64`. -/
def u64Max : Nat :=
  2 ^ 64 - 1

/-- Largest value of a {lit}`u16`. -/
def u16Max : Nat :=
  2 ^ 16 - 1

/-- {lit}`saturating_add` on {lit}`u64` counters. -/
def saturatingAdd (left right : Nat) : Nat :=
  min (left + right) u64Max

/-! ## Errors -/

/-- Stable error codes used by the SDK. -/
inductive ErrorCode where
  | attestationScope
  | authorizationDenied
  | captureIdConflict
  | configConflict
  | incompleteCandidate
  | notFound
  | runtimeQuota
  | schemaInvalid
  | serviceUnavailable
  | subjectDigestMismatch
  | unsupported
  | uploadExpired
  | uploadLimitExceeded
  | worldNotClosed
deriving DecidableEq, Repr

/-- An error with its stable code and its message. -/
structure Error where
  code : ErrorCode
  message : String
deriving DecidableEq, Repr

/-! ## Identifiers and enumerations -/

/-- Identity of one operation. -/
structure OperationId where
  value : Nat
deriving DecidableEq, Repr

/-- Identity of one capture. -/
structure CaptureId where
  value : Nat
deriving DecidableEq, Repr

/-- Identity of one logical object. -/
structure ObjectId where
  value : Nat
deriving DecidableEq, Repr

/-- The classes of automatic observations. -/
inductive AutomaticObservationClass where
  | clock
  | database
  | environment
  | filesystem
  | outboundHttp
  | queue
  | randomness
deriving DecidableEq, Repr

namespace AutomaticObservationClass

/-- Every observation class, each once. -/
def all : List AutomaticObservationClass :=
  [clock, database, environment, filesystem, outboundHttp, queue, randomness]

end AutomaticObservationClass

/-- How a dependency answered. -/
inductive DependencyOutcome where
  | error
  | response
deriving DecidableEq, Repr

/-- Outcome named by a semantic record. -/
inductive SemanticObservationOutcome where
  | error
  | response
deriving DecidableEq, Repr

/-- Operations of semantic process observations. -/
inductive SemanticObservationOperation where
  | clockWallTime
  | environmentRead
  | filesystemRead
  | randomBytes
deriving DecidableEq, Repr

/-- Operations of semantic dependency records. -/
inductive SemanticDependencyOperation where
  | databaseExecute
  | outboundHttpRequest
  | queuePublish
deriving DecidableEq, Repr

/-- Roles of the logical objects a World capture produces. -/
inductive LogicalObjectRole where
  | dependencyTranscript
  | worldState
deriving DecidableEq, Repr

/-- How the operation that triggered a capture completed. -/
inductive TriggerCompletion where
  | acknowledgment
  | returned
  | streamEnd
  | taskEnd
deriving DecidableEq, Repr

/-! ## Semantic records -/

/-- One metadata entry of a dependency record. -/
structure SemanticDependencyMetadata where
  name : String
  value : String
deriving DecidableEq, Repr

/-- Serialized name of a semantic error. -/
structure SemanticObservationErrorCode where
  name : String
deriving DecidableEq, Repr

/-- Canonical request record of a dependency call. -/
structure SemanticDependencyRequest where
  encoding : String
  metadata : List SemanticDependencyMetadata
  method : Option String
  observationClass : AutomaticObservationClass
  operation : SemanticDependencyOperation
  payload : String
  protocol : String
  target : String
deriving DecidableEq, Repr

/-- Canonical response record of a dependency call. -/
structure SemanticDependencyResponse (Digest : Type) where
  errorCode : Option SemanticObservationErrorCode
  errorNumber : Option Nat
  metadata : List SemanticDependencyMetadata
  observationClass : AutomaticObservationClass
  operation : SemanticDependencyOperation
  outcome : SemanticObservationOutcome
  payload : Option String
  requestDigest : Digest
  status : Option String
  statusCode : Option Nat
deriving DecidableEq, Repr

/-- Canonical request record of a process observation.  The SDK reads its operation only; the
content stands for the other fields. -/
structure SemanticObservationRequest where
  operation : SemanticObservationOperation
  content : Bytes
deriving DecidableEq, Repr

/-- Canonical response record of a process observation.  The SDK reads its outcome only; the
content stands for the other fields. -/
structure SemanticObservationResponse where
  outcome : SemanticObservationOutcome
  content : Bytes
deriving DecidableEq, Repr

/-! ## Payloads of a World -/

/-- Record of one observation, as the SDK publishes it. -/
structure AutomaticObservationPayload (Digest : Type) where
  boundaryId : String
  causalParentId : Option OperationId
  evidenceDigest : Digest
  observationClass : AutomaticObservationClass
  observationSequence : Nat
  operationId : OperationId
  ownerAdapterId : Option String
deriving DecidableEq, Repr

/-- One interaction of a dependency transcript. -/
structure DependencyTranscriptInteraction (Digest : Type) where
  causalParentId : Option OperationId
  operationId : OperationId
  outcome : DependencyOutcome
  requestDigest : Digest
  requestObjectId : ObjectId
  responseDigest : Digest
  responseObjectId : ObjectId
  sequence : Nat
  sessionPosition : Nat
deriving DecidableEq, Repr

/-- The interactions of all dependencies of one operation. -/
structure DependencyTranscript (Digest : Type) where
  adapterId : String
  adapterVersion : String
  interactions : List (DependencyTranscriptInteraction Digest)
deriving DecidableEq, Repr

/-- Cursor that names a dependency transcript. -/
structure DependencyCursorPayload (Digest : Type) where
  adapterId : String
  adapterVersion : String
  causalParentId : Option OperationId
  cursor : String
  cursorDigest : Digest
deriving DecidableEq, Repr

/-- Reference from a World to one artifact. -/
structure ArtifactReference (Digest : Type) where
  digest : Digest
  mediaType : String
  size : Nat
  uri : String
deriving DecidableEq, Repr

/-- The adapter that owns one observation class. -/
structure SemanticAdapterOwnership (Digest : Type) where
  adapterId : String
  adapterVersion : String
  boundaryId : String
  implementationDigest : Digest
  observationClass : AutomaticObservationClass
deriving DecidableEq, Repr

/-- Rule of a closure policy.  Closure class and mechanism are functions of the observation class
in reproit-core, so the class stands for them. -/
structure ClosureRule where
  boundaryId : String
  observationClass : AutomaticObservationClass
deriving DecidableEq, Repr

/-- Receipt that one class was closed. -/
structure ClosureReceipt (Digest : Type) where
  boundaryId : String
  evidenceDigest : Digest
  observationClass : AutomaticObservationClass
  version : Nat
deriving DecidableEq, Repr

/-- Receipts of every class under one policy. -/
structure WorldClosure (Digest : Type) where
  policyDigest : Digest
  receipts : List (ClosureReceipt Digest)
deriving DecidableEq, Repr

/-- Provider resources that a recoverable point pins. -/
structure ProviderResourceClaim where
  materializedBytes : Nat
  objects : Nat
  pinnedBytes : Nat
  temporaryBytes : Nat
deriving DecidableEq, Repr

/-- One recoverable point of a checkpoint.  The scope, always the full one, is left out. -/
structure RecoverablePoint (Digest : Type) where
  artifacts : List (ArtifactReference Digest)
  capabilities : List String
  configurationDigest : Digest
  engineIdentity : String
  engineVersion : String
  generation : Nat
  point : String
  providerId : String
  publishedAt : String
  recoverableUntil : String
  resourceClaim : ProviderResourceClaim
deriving DecidableEq, Repr

/-- A checkpoint of the World around one operation. -/
structure WorldCheckpoint (Digest : Type) where
  createdAt : String
  points : List (RecoverablePoint Digest)
deriving DecidableEq, Repr

/-- Receipt of the fence around the observations of one operation. -/
structure NativeObservationFenceReceipt (Digest : Type) where
  adapterOwnership : List (SemanticAdapterOwnership Digest)
  deploymentDigest : Digest
  droppedObservationCount : Nat
  fenceId : String
  fenceVersion : String
  observationCount : Nat
  observationsDigest : Digest
  operationId : OperationId
  overflowed : Bool
  signature : String
  signerKeyId : String
  subjectDigest : Digest
  unownedObservationCount : Nat
  worldClosure : WorldClosure Digest
deriving DecidableEq, Repr

/-! ## Functions of reproit-core -/

/-- Values that the SDK hands to the canonical encoder. -/
inductive Canonical (Digest : Type) where
  | interaction (interaction : DependencyTranscriptInteraction Digest)
  | reference (reference : ArtifactReference Digest)
  | transcript (transcript : DependencyTranscript Digest)
  | policy (rules : List ClosureRule)
  | digests (digests : List Digest)
  | observations (observations : List (AutomaticObservationPayload Digest))
  | ownership (ownership : SemanticAdapterOwnership Digest)
  | environment (environment : KeyedTable String String)

/-- Values that the SDK asks reproit-core to validate. -/
inductive Validated (Digest : Type) where
  | ownership (ownership : SemanticAdapterOwnership Digest)
  | transcript (transcript : DependencyTranscript Digest)
  | cursor (payload : DependencyCursorPayload Digest)
  | checkpoint (world : WorldCheckpoint Digest)
  | closure (closure : WorldClosure Digest)

/-- Strict parser, validator and canonical encoder of one record type. -/
structure RecordCodec (Record : Type) where
  parseStrict : Bytes → Except Error Record
  validate : Record → Except Error Unit
  canonicalBytes : Record → Except Error Bytes

/-- The functions of reproit-core and of the recorded replay that the SDK relies on. -/
structure Core (Digest Replay : Type) where
  digestOf : Bytes → Digest
  sha256 : Bytes → Digest
  digestText : Digest → String
  digestBytes : Digest → Bytes
  encodeBase64url : Bytes → String
  boundaryId : AutomaticObservationClass → String
  canonicalBytes : Canonical Digest → Except Error Bytes
  canonicalDigest : Canonical Digest → Except Error Digest
  validate : Validated Digest → Except Error Unit
  parseTranscript : Bytes → Except Error (DependencyTranscript Digest)
  schemaInvalid : Error
  dependencyRequests : RecordCodec SemanticDependencyRequest
  dependencyResponses : RecordCodec (SemanticDependencyResponse Digest)
  observationRequests : RecordCodec SemanticObservationRequest
  observationResponses : RecordCodec SemanticObservationResponse
  validateSemanticDependencyPair :
    SemanticDependencyRequest → SemanticDependencyResponse Digest → Except Error Unit
  validateSemanticObservationPair :
    SemanticObservationRequest → SemanticObservationResponse → Except Error Unit
  takeResponse :
    Replay → AutomaticObservationClass → Nat → Bytes → Except Error Bytes × Replay
  requireComplete : Replay → Except Error Unit
  firstPosition : AutomaticObservationClass → Nat

/-! ## A concrete core -/

/-- Text that spells bytes, one character a byte. -/
def plainText (bytes : Bytes) : String :=
  String.ofList (bytes.map fun byte => Char.ofNat (byte.toNat + 256))

/-- Code of the character that spells a byte. -/
theorem plainCharacter_toNat (byte : UInt8) :
    (Char.ofNat (byte.toNat + 256)).toNat = byte.toNat + 256 := by
  have bounded := byte.toNat_lt
  have valid : (byte.toNat + 256).isValidChar := .inl (by omega)
  rw [Char.ofNat, dif_pos valid]
  rfl

/-- Characters of a plain text name its bytes. -/
theorem plainText_injective : Function.Injective plainText := by
  intro bytes other same
  refine List.map_injective_iff.mpr ?_ (String.ofList_injective same)
  intro byte otherByte characters
  have values := congrArg Char.toNat characters
  simp only [plainCharacter_toNat] at values
  exact UInt8.toNat_inj.mp (by omega)

/-- Plain texts hold no slash. -/
theorem plainText_unbroken (bytes : Bytes) : '/' ∉ (plainText bytes).toList := by
  rw [plainText, String.toList_ofList, List.mem_map]
  rintro ⟨byte, -, same⟩
  have values := congrArg Char.toNat same
  rw [plainCharacter_toNat] at values
  have slash : '/'.toNat = 47 := rfl
  omega

/-- Boundary identifiers of a concrete core. -/
def plainBoundaryId : AutomaticObservationClass → String
  | .clock => "clock"
  | .database => "database"
  | .environment => "environment"
  | .filesystem => "filesystem"
  | .outboundHttp => "outbound-http"
  | .queue => "queue"
  | .randomness => "randomness"

/-- Tags of the process operations. -/
def plainOperationTag : SemanticObservationOperation → UInt8
  | .clockWallTime => 0
  | .environmentRead => 1
  | .filesystemRead => 2
  | .randomBytes => 3

/-- Error of a concrete core. -/
def plainError : Error where
  code := .schemaInvalid
  message := "The record is invalid."

/-- A codec for records that start with a tag. -/
def taggedCodec {Record : Type} (ofBytes : Bytes → Option Record) (toBytes : Record → Bytes) :
    RecordCodec Record where
  parseStrict bytes := (ofBytes bytes).elim (.error plainError) .ok
  validate _ := .ok ()
  canonicalBytes record := .ok (toBytes record)

/-- A concrete core, in which the digest of some bytes is the bytes themselves.  It evaluates the
model on concrete runs. -/
def plainCore : Core Bytes Unit where
  digestOf bytes := bytes
  sha256 bytes := bytes
  digestText digest := "sha256:" ++ plainText digest
  digestBytes digest := digest
  encodeBase64url := plainText
  boundaryId := plainBoundaryId
  canonicalBytes _ := .ok [0]
  canonicalDigest _ := .ok [0]
  validate _ := .ok ()
  parseTranscript _ := .ok { adapterId := "", adapterVersion := "", interactions := [] }
  schemaInvalid := plainError
  dependencyRequests := taggedCodec (fun _ => none) fun _ => []
  dependencyResponses := taggedCodec (fun _ => none) fun _ => []
  observationRequests :=
    taggedCodec
      (fun bytes =>
        match bytes with
        | 0 :: content => some { operation := .clockWallTime, content := content }
        | 1 :: content => some { operation := .environmentRead, content := content }
        | 2 :: content => some { operation := .filesystemRead, content := content }
        | 3 :: content => some { operation := .randomBytes, content := content }
        | _ => none)
      fun request => plainOperationTag request.operation :: request.content
  observationResponses :=
    taggedCodec
      (fun bytes =>
        match bytes with
        | 0 :: content => some { outcome := .error, content := content }
        | 1 :: content => some { outcome := .response, content := content }
        | _ => none)
      fun response => (if response.outcome = .error then 0 else 1) :: response.content
  validateSemanticDependencyPair _ _ := .ok ()
  validateSemanticObservationPair _ _ := .ok ()
  takeResponse replay _ _ _ := (.error plainError, replay)
  requireComplete _ := .ok ()
  firstPosition _ := 0

end ReproItSdk
