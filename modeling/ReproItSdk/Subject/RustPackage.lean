import Mathlib.Data.List.Infix
import Mathlib.Data.String.Basic
import ReproItSdk.Core.Model
import ReproItSdk.Library.Fallible
import ReproItSdk.Library.Json
import ReproItSdk.Library.Separated

/-! # Packaging of a Rust subject

The running executable and its loaded modules are copied into a spool directory, where each object
is a file that is named by the digest of its bytes.  The manifest lists every captured file under a
path inside the subject.

Every answer of the file system is an input: what a file offers, and what a rename does to a target
that exists.  So is the answer of the ledger that all captures of the process share.

Main definitions:

- Function {lit}`captureFile`: copy one file into the spool.
- Function {lit}`subjectFilePath`: the path of a captured file inside the subject.
- Function {lit}`assembleFiles`: the files, modules and objects of a list of captured files.
- Function {lit}`packageObjects`: the captures of a package, and the objects that it adds.
-/

namespace ReproItSdk
namespace RustSubject

open Fallible Separated

variable {Digest : Type} [DecidableEq Digest]

/-! ## Constants and errors -/

/-- {lit}`MAX_SUBJECT_FILE_BYTES`. -/
def maxSubjectFileBytes : Nat :=
  512 * 1024 * 1024

/-- {lit}`MAX_SUBJECT_BYTES`. -/
def maxSubjectBytes : Nat :=
  2 * 1024 * 1024 * 1024

/-- A file could not be read or stored. -/
def subjectUnreadable : Error where
  code := .incompleteCandidate
  message := "The running Rust subject is not completely readable."

/-- A file changed while it was copied. -/
def subjectChanging : Error where
  code := .incompleteCandidate
  message := "The running Rust subject changed during local packaging."

/-- A bound of the subject is exceeded. -/
def subjectUnbounded : Error where
  code := .uploadLimitExceeded
  message := "The running Rust subject exceeds a Backend v1 bound."

/-- A file or the launch identity is not supported. -/
def subjectUnsupported : Error where
  code := .unsupported
  message := "The running Rust subject has an unsupported file or launch identity."

/-! ## Names and files -/

/-- A name of the file system: a text without slashes, or bytes that are no text. -/
inductive OsName where
  | text (name : String) (unbroken : Unbroken '/' name)
  | bytes (name : Bytes)
deriving DecidableEq

/-- {lit}`to_str`. -/
def OsName.toStr : OsName → Option String
  | .text name _ => some name
  | .bytes _ => none

/-- The components of an absolute path. -/
abbrev SourcePath : Type :=
  List OsName

/-- {lit}`file_name`: the last component, unless it leads upwards. -/
def fileName (path : SourcePath) : Option OsName :=
  path.getLast?.filter fun name => name.toStr ≠ some ".."

/-- {lit}`SubjectObjectKind`. -/
inductive SubjectObjectKind where
  | application
  | debugArtifact
  | launchData
  | moduleIdentity
  | nativeDependency
deriving DecidableEq, Repr

/-- {lit}`DebugArtifactKind`. -/
inductive DebugArtifactKind where
  | dwarf
  | nativePdb
  | portablePdb
deriving DecidableEq, Repr

/-- {lit}`EmptyFilePolicy`. -/
inductive EmptyFilePolicy where
  | allowed
  | rejected
deriving DecidableEq, Repr

/-- What the file system tells about a file; the version stands for its identity and its times. -/
structure Metadata where
  isFile : Bool
  len : Nat
  version : Nat
deriving DecidableEq, Repr

/-- {lit}`same_file_version`. -/
def sameFileVersion (before after : Metadata) : Bool :=
  before.len == after.len && before.version == after.version

/-- One turn of the copy loop: what the read offers, and whether its bytes could be written. -/
structure ReadAnswer where
  bytes : Option Bytes
  written : Bool
deriving DecidableEq, Repr

/-- What a rename does: it puts the file in the place of the target, or fails and leaves both. -/
inductive RenameAnswer where
  | renamed
  | refused
deriving DecidableEq, Repr

/-- What the file system answers while one file is copied. -/
structure FileAnswers where
  opened : Bool
  before : Option Metadata
  reserved : Bool
  random : Bool
  atOpen : Option Metadata
  sameAtOpen : Except Error Bool
  created : Bool
  reads : List ReadAnswer
  flushed : Bool
  after : Option Metadata
  sameAfter : Except Error Bool
  rename : RenameAnswer
  removed : Bool
  stat : Bool

/-- The functions of reproit-core that a packaging relies on: the digest, and the error of an object
of another size. -/
structure SubjectCore (Digest : Type) where
  digestOf : Bytes → Digest
  objectDigestMismatch : Error

/-- {lit}`digest_name`: what {lit}`Display` writes of a digest after the name of the hash.
Different digests have different names, which hold no slash. -/
structure DigestNames (Digest : Type) where
  name : Digest → String
  injective : Function.Injective name
  unbroken : ∀ digest, Unbroken '/' (name digest)

/-- {lit}`CapturedFile`; its spool path is named by its digest. -/
structure CapturedFile (Digest : Type) where
  debugArtifactKind : Option DebugArtifactKind
  digest : Digest
  hasDwarf : Bool
  kind : SubjectObjectKind
  size : Nat
  sourcePath : SourcePath
deriving DecidableEq

/-! ## Spool -/

/-- The object files of a spool, and the bytes that its reservation holds. -/
structure SubjectSpool (Digest : Type) where
  files : KeyedTable Digest Bytes
  reserved : Nat

namespace SubjectSpool

/-- A spool without objects. -/
def new : SubjectSpool Digest where
  files := ∅
  reserved := 0

/-- {lit}`LogicalByteReservation::release`. -/
def release (spool : SubjectSpool Digest) (bytes : Nat) : SubjectSpool Digest :=
  { spool with reserved := spool.reserved - min bytes spool.reserved }

end SubjectSpool

/-- {lit}`reserve_subject_bytes`, with the answer of the ledger of the process. -/
def reserveSubjectBytes (bytes : Nat) (granted : Bool) :
    Fallible (SubjectSpool Digest) Error Unit := do
  check (fun spool => decide (spool.reserved + bytes ≤ u64Max) &&
    decide (spool.reserved + bytes ≤ maxSubjectBytes) && granted) subjectUnbounded
  modify fun spool => { spool with reserved := spool.reserved + bytes }

/-! ## Copy of one file -/

/-- {lit}`contains_dwarf_marker`. -/
def containsDwarfMarker (bytes : Bytes) : Bool :=
  [asciiBytes "__DWARF", asciiBytes ".debug_info", asciiBytes ".zdebug_info"].any fun marker =>
    decide (marker <:+: bytes)

/-- What the copy loop has so far. -/
structure Copied where
  content : Bytes
  markerTail : Bytes
  hasDwarf : Bool
deriving DecidableEq, Repr

/-- The copy with one more chunk; the tail keeps the last 32 bytes. -/
def Copied.extend (copied : Copied) (chunk : Bytes) : Copied :=
  let markerTail := copied.markerTail ++ chunk
  { content := copied.content ++ chunk
    markerTail := markerTail.drop (markerTail.length - 32)
    hasDwarf := copied.hasDwarf || containsDwarfMarker markerTail }

/-- The copy loop of {lit}`capture_file`; a read of no bytes ends it. -/
def copyFile (len : Nat) : List ReadAnswer → Copied → Except Error Copied
  | [], copied => .ok copied
  | read :: reads, copied =>
      match read.bytes with
      | none => .error subjectUnreadable
      | some [] => .ok copied
      | some chunk =>
          if maxSubjectFileBytes < copied.content.length + chunk.length ∨
              len < copied.content.length + chunk.length then
            .error subjectChanging
          else if ¬ read.written then .error subjectUnreadable
          else copyFile len reads (copied.extend chunk)

/-- What a file system call returns, or that the subject is not readable. -/
def readable {α : Type} (answer : Option α) : Except Error α :=
  match answer with
  | some value => .ok value
  | none => .error subjectUnreadable

/-- The rename of a copy to the name of its digest.  A rename that fails because the object is there
removes the copy and releases its bytes. -/
def publish (core : SubjectCore Digest) (digest : Digest) (content : Bytes)
    (answers : FileAnswers) : Fallible (SubjectSpool Digest) Error Unit :=
  match answers.rename with
  | .renamed => modify fun spool => { spool with files := spool.files.insert digest content }
  | .refused => do
      let stored ← find (fun spool => spool.files.lookup digest) subjectUnreadable
      check (fun _ => answers.removed) subjectUnreadable
      check (fun _ => answers.stat) subjectUnreadable
      check (fun _ => stored.length == content.length)
        core.objectDigestMismatch
      modify fun spool => spool.release content.length

/-- {lit}`capture_file`. -/
def captureFile (core : SubjectCore Digest) (sourcePath : SourcePath) (kind : SubjectObjectKind)
    (policy : EmptyFilePolicy) (answers : FileAnswers) :
    Fallible (SubjectSpool Digest) Error (CapturedFile Digest) := do
  check (fun _ => answers.opened) subjectUnreadable
  let before ← ofExcept (readable answers.before)
  check (fun _ => before.isFile && !(policy == .rejected && before.len == 0) &&
    decide (before.len ≤ maxSubjectFileBytes)) subjectUnbounded
  reserveSubjectBytes before.len answers.reserved
  check (fun _ => answers.random) subjectUnreadable
  let atOpen ← ofExcept (readable answers.atOpen)
  check (fun _ => sameFileVersion before atOpen) subjectChanging
  let same ← ofExcept answers.sameAtOpen
  check (fun _ => same) subjectChanging
  check (fun _ => answers.created) subjectUnreadable
  let copied ← ofExcept (copyFile before.len answers.reads
    { content := [], markerTail := [], hasDwarf := false })
  check (fun _ => answers.flushed) subjectUnreadable
  let after ← ofExcept (readable answers.after)
  check (fun _ => copied.content.length == before.len && sameFileVersion before after)
    subjectChanging
  let same ← ofExcept answers.sameAfter
  check (fun _ => same) subjectChanging
  publish core (core.digestOf copied.content) copied.content answers
  pure
    { debugArtifactKind := none
      digest := core.digestOf copied.content
      hasDwarf := copied.hasDwarf
      kind := kind
      size := copied.content.length
      sourcePath := sourcePath }

/-! ## Manifest -/

/-- {lit}`SubjectFile`. -/
structure SubjectFile (Digest : Type) where
  executable : Bool
  objectDigest : Digest
  path : String
deriving DecidableEq, Repr

/-- {lit}`SubjectModule`. -/
structure SubjectModule (Digest : Type) where
  identity : String
  moduleDigest : Digest
  path : String
deriving DecidableEq, Repr

/-- {lit}`DebugArtifactBinding`. -/
structure DebugArtifactBinding (Digest : Type) where
  artifactDigest : Digest
  kind : DebugArtifactKind
  moduleDigest : Digest
  path : String
deriving DecidableEq, Repr

/-- {lit}`SubjectAssembly`; a packaged object is its digest and its size. -/
structure SubjectAssembly (Digest : Type) where
  debugArtifacts : List (DebugArtifactBinding Digest)
  files : List (SubjectFile Digest)
  modules : List (SubjectModule Digest)
  objects : KeyedTable Digest (SubjectObjectKind × Nat × Option DebugArtifactKind)
  packaged : KeyedTable Digest Nat

/-- The base name of a captured file, where a name that is no text becomes {lit}`module`. -/
def CapturedFile.targetName (file : CapturedFile Digest) : String :=
  ((fileName file.sourcePath).bind OsName.toStr).getD "module"

/-- The category of a captured file. -/
def CapturedFile.category (file : CapturedFile Digest) (executableDigest : Digest) : String :=
  if file.kind = .debugArtifact then "debug"
  else if file.digest = executableDigest then "application"
  else "native"

/-- {lit}`subject_file_path`. -/
def subjectFilePath (names : DigestNames Digest) (file : CapturedFile Digest)
    (executableDigest : Digest) : String :=
  "/reproit/subject/" ++ file.category executableDigest ++ "/" ++ names.name file.digest ++ "/" ++
    file.targetName

/-- {lit}`is_dynamic_loader`. -/
def isDynamicLoader (path : SourcePath) : Bool :=
  match (fileName path).bind OsName.toStr with
  | some name =>
      "ld-linux-".toList.isPrefixOf name.toList || "ld-musl-".toList.isPrefixOf name.toList
  | none => false

/-- {lit}`insert_object`. -/
def insertObject (objects : KeyedTable Digest (SubjectObjectKind × Nat × Option DebugArtifactKind))
    (digest : Digest) (object : SubjectObjectKind × Nat × Option DebugArtifactKind) :
    Except Error (KeyedTable Digest (SubjectObjectKind × Nat × Option DebugArtifactKind)) :=
  match objects.lookup digest with
  | some existing => if existing ≠ object then .error subjectUnsupported else .ok objects
  | none => .ok (objects.insert digest object)

/-- {lit}`or_insert`. -/
def insertPackaged (packaged : KeyedTable Digest Nat) (digest : Digest) (size : Nat) :
    KeyedTable Digest Nat :=
  match packaged.lookup digest with
  | some _ => packaged
  | none => packaged.insert digest size

/-- One turn of the loop of {lit}`assemble_files`. -/
def assembleFile (names : DigestNames Digest) (executable : SourcePath) (executableDigest : Digest)
    (assembly : SubjectAssembly Digest) (file : CapturedFile Digest) :
    Except Error (SubjectAssembly Digest) :=
  let subjectPath := subjectFilePath names file executableDigest
  let object := (file.kind, file.size, file.debugArtifactKind)
  match insertObject assembly.objects file.digest object with
  | .error error => .error error
  | .ok objects => .ok
      { debugArtifacts := assembly.debugArtifacts ++
          (if file.sourcePath = executable ∧ file.hasDwarf then
            [{ artifactDigest := file.digest, kind := .dwarf, moduleDigest := file.digest,
               path := subjectPath }]
          else []) ++
          (match file.debugArtifactKind with
          | some kind =>
              [{ artifactDigest := file.digest, kind := kind, moduleDigest := executableDigest,
                 path := subjectPath }]
          | none => [])
        files := assembly.files ++
          [{ executable := decide (file.sourcePath = executable) || isDynamicLoader file.sourcePath
             objectDigest := file.digest
             path := subjectPath }]
        modules := assembly.modules ++
          (if file.kind ≠ .debugArtifact then
            [{ identity := "sha256:" ++ names.name file.digest, moduleDigest := file.digest,
               path := subjectPath }]
          else [])
        objects := objects
        packaged := insertPackaged assembly.packaged file.digest file.size }

/-- {lit}`assemble_files`. -/
def assembleFiles (names : DigestNames Digest) (captured : List (CapturedFile Digest))
    (executable : SourcePath) (executableDigest : Digest) : Except Error (SubjectAssembly Digest) :=
  captured.foldlM (assembleFile names executable executableDigest)
    { debugArtifacts := [], files := [], modules := [], objects := ∅, packaged := ∅ }

/-! ## Package -/

/-- One file of a package, as it is captured. -/
structure FileRequest where
  sourcePath : SourcePath
  kind : SubjectObjectKind
  policy : EmptyFilePolicy
  answers : FileAnswers

/-- An object that the packager makes, with the answers of the ledger and of the write. -/
structure BytesRequest where
  bytes : Bytes
  kind : SubjectObjectKind
  reserved : Bool
  written : Bool

/-- Capture of the files of a package, one after another. -/
def captureFiles (core : SubjectCore Digest) :
    List FileRequest → Fallible (SubjectSpool Digest) Error (List (CapturedFile Digest))
  | [] => pure []
  | request :: requests => do
      let file ← captureFile core request.sourcePath request.kind request.policy request.answers
      let files ← captureFiles core requests
      pure (file :: files)

/-- Reservation of {lit}`capture_bytes`: an object that is packaged already holds its bytes. -/
def reserveUnpackaged (packaged : KeyedTable Digest Nat) (digest : Digest)
    (request : BytesRequest) : Fallible (SubjectSpool Digest) Error Unit :=
  if (packaged.lookup digest).isSome then pure ()
  else reserveSubjectBytes request.bytes.length request.reserved

/-- Write of {lit}`capture_bytes`: a file that exists is left as it is. -/
def writeMissing (digest : Digest) (request : BytesRequest) :
    Fallible (SubjectSpool Digest) Error Unit := do
  check (fun spool => (spool.files.lookup digest).isSome || request.written) subjectUnreadable
  modify fun spool =>
    if (spool.files.lookup digest).isSome then spool
    else { spool with files := spool.files.insert digest request.bytes }

/-- {lit}`capture_bytes`. -/
def captureBytes (core : SubjectCore Digest) (assembly : SubjectAssembly Digest)
    (request : BytesRequest) :
    Fallible (SubjectSpool Digest) Error (Digest × SubjectAssembly Digest) := do
  check (fun _ => request.bytes ≠ []) subjectUnsupported
  let digest := core.digestOf request.bytes
  reserveUnpackaged assembly.packaged digest request
  writeMissing digest request
  let objects ← ofExcept
    (insertObject assembly.objects digest (request.kind, request.bytes.length, none))
  pure (digest,
    { assembly with
      objects := objects
      packaged := insertPackaged assembly.packaged digest request.bytes.length })

/-- Objects that the packager makes, one after another. -/
def captureAll (core : SubjectCore Digest) :
    List BytesRequest → SubjectAssembly Digest →
      Fallible (SubjectSpool Digest) Error (SubjectAssembly Digest)
  | [], assembly => pure assembly
  | request :: requests, assembly => do
      let made ← captureBytes core assembly request
      captureAll core requests made.2

/-- The objects of a package: the captured files, and then the launch data and the identities of the
modules. -/
def packageObjects (core : SubjectCore Digest) (names : DigestNames Digest)
    (executable : SourcePath) (files : List FileRequest) (objects : List BytesRequest) :
    Fallible (SubjectSpool Digest) Error (SubjectAssembly Digest) := do
  let captured ← captureFiles core files
  let running ← ofExcept
    (match captured.find? fun file => decide (file.sourcePath = executable) with
    | some file => .ok file
    | none => .error subjectUnsupported)
  let assembly ← ofExcept (assembleFiles names captured executable running.digest)
  captureAll core objects assembly

/-- The files of the manifest: the captured files and the launch data, sorted by their paths. -/
def manifestFiles (assembly : SubjectAssembly Digest) (launchObject : Digest) :
    List (SubjectFile Digest) :=
  Json.sortBy SubjectFile.path (assembly.files ++
    [{ executable := false, objectDigest := launchObject, path := "/reproit/subject/launch.json" }])

end RustSubject
end ReproItSdk
