import Mathlib.Data.List.Infix
import ReproItSdk.Core.Model
import ReproItSdk.Library.Chunks
import ReproItSdk.Library.Fallible
import ReproItSdk.Library.KeyedTable
import ReproItSdk.Library.Separated
import ReproItSdk.Library.Unicode

/-! # Closure of a running Python subject

A builder captures files into a spool, one object for each digest, and reserves their bytes in the
process.  Each step of the file system may fail; what a step answers is part of the call.

Main definitions:

- Function {lit}`spoolStableFile`: copies one file into the spool.
- Function {lit}`capture`: records one file under its path in the subject.
-/

namespace ReproItSdk
namespace PythonSubject

open Unicode Fallible KeyedTable

/-! ## Data -/

/-- {lit}`COPY_BUFFER_BYTES`. -/
def copyBufferBytes : Nat :=
  65536

/-- {lit}`MAX_CAPTURED_FILES`. -/
def maxCapturedFiles : Nat :=
  32764

/-- {lit}`MAX_CAPTURED_MODULES`. -/
def maxCapturedModules : Nat :=
  4095

/-- {lit}`MAX_SUBJECT_OBJECT_BYTES`. -/
def maxSubjectObjectBytes : Nat :=
  536870912

/-- {lit}`MAX_SUBJECT_TOTAL_BYTES`. -/
def maxSubjectTotalBytes : Nat :=
  2147483648

/-- {lit}`MAX_SUBJECT_PATH_BYTES`. -/
def maxSubjectPathBytes : Nat :=
  4096

/-- {lit}`MAX_PROCESS_LOGICAL_BYTES`. -/
def maxProcessLogicalBytes : Nat :=
  4294967296

/-- {lit}`ManagedError` with its code and message. -/
structure ManagedError where
  code : String
  message : String
deriving DecidableEq, Repr

/-- What a capture raises. -/
inductive Failure where
  | managed (error : ManagedError)
  | osError
deriving DecidableEq, Repr

/-- {lit}`_subject_unreadable`. -/
def subjectUnreadable : Failure :=
  .managed ⟨"INCOMPLETE_CANDIDATE", "The running Python subject is not completely readable."⟩

/-- {lit}`_subject_changing`. -/
def subjectChanging : Failure :=
  .managed ⟨"INCOMPLETE_CANDIDATE", "The running Python subject changed during local packaging."⟩

/-- {lit}`_subject_unbounded`. -/
def subjectUnbounded : Failure :=
  .managed ⟨"UPLOAD_LIMIT_EXCEEDED", "The running Python subject exceeds a Backend v1 bound."⟩

/-- {lit}`_subject_unsupported`. -/
def subjectUnsupported : Failure :=
  .managed ⟨"UNSUPPORTED",
    "The running Python subject has an unsupported file or launch identity."⟩

/-- Kinds of objects. -/
inductive ObjectKind where
  | application
  | runtime
  | nativeDependency
deriving DecidableEq, Repr

/-- The rank of a kind in {lit}`_merged_object_kind`. -/
def ObjectKind.rank : ObjectKind → Nat
  | .application => 0
  | .runtime => 1
  | .nativeDependency => 2

/-- {lit}`_merged_object_kind`. -/
def mergedObjectKind (existing requested : ObjectKind) : ObjectKind :=
  if existing.rank < requested.rank then requested else existing

/-- {lit}`CapturedPythonFile`. -/
structure CapturedPythonFile where
  digest : Text
  executable : Bool
  kind : ObjectKind
  module : Bool
  path : Text
  size : Nat
  spoolPath : Text
deriving DecidableEq, Repr

/-- What the builder holds of an object. -/
structure SubjectObject where
  kind : ObjectKind
  size : Nat
  spoolPath : Text
deriving DecidableEq, Repr

/-- {lit}`_StableIdentity`. -/
structure StableIdentity where
  digest : Text
  executable : Bool
  size : Nat
deriving DecidableEq, Repr

/-- What a builder is made with, and what it runs on. -/
structure Setup where
  sha256 : Bytes → Text
  extSuffix : Option Text
  separator : Char
  spoolPath : Text
  subjectRoot : Text

/-- {lit}`_ClosureBuilder`, the objects in its spool, the bytes that it holds in
{lit}`PROCESS_RESOURCES` and the entries of the interpreter identity. -/
structure Builder where
  files : KeyedTable Text CapturedPythonFile
  objects : KeyedTable Text SubjectObject
  totalBytes : Nat
  reservedBytes : Nat
  modules : Nat
  spool : KeyedTable Text Nat
  held : Nat

/-- A builder that has captured nothing. -/
def Builder.new : Builder where
  files := ∅
  objects := ∅
  totalBytes := 0
  reservedBytes := 0
  modules := 0
  spool := ∅
  held := 0

/-! ## Paths -/

/-- The parts of a {lit}`PurePosixPath`. -/
def pathParts (path : Text) : List Text :=
  (path.splitOn '/').filter fun part => part ≠ [] ∧ part ≠ ['.']

/-- {lit}`_valid_relative_path`. -/
def validRelativePath (setup : Setup) (value : Text) : Except Failure Text :=
  let normalized := value.map fun char => if char = setup.separator then '/' else char
  if normalized = [] ∨ ['/'] <+: normalized ∨ ['.', '.'] ∈ pathParts normalized then
    .error subjectUnsupported
  else if pathParts normalized = [] then .ok ['.']
  else .ok (['/'].intercalate (pathParts normalized))

/-- {lit}`os.path.basename`. -/
def basename (path : Text) : Text :=
  (path.reverse.takeWhile (· ≠ '/')).reverse

/-- {lit}`_is_native_extension`. -/
def isNativeExtension (setup : Setup) (path : Text) : Bool :=
  decide ((∃ suffix ∈ (setup.extSuffix.toList ++
      [".so".toList, ".dylib".toList, ".dll".toList, ".pyd".toList]),
    suffix ≠ [] ∧ suffix <:+ path) ∨ ".so.".toList <:+: basename path)

/-! ## Files -/

/-- What {lit}`lstat` says of a regular file. -/
structure Metadata where
  size : Nat
  executable : Bool
deriving DecidableEq, Repr

/-- How a file is read: whether it opens, is still the same, which chunks are read before the end or
a step that fails, and whether the file and the path are the same at the end. -/
structure Reading where
  opens : Bool
  sameOpened : Bool
  chunks : List Bytes
  completes : Bool
  sameFinal : Bool
  lstat : Bool
  samePath : Bool
deriving DecidableEq, Repr

/-- The loop that reads the chunks of a file that has a size. -/
def readChunks (size : Nat) : Nat → List Bytes → Except Failure Bytes
  | _, [] => .ok []
  | copied, chunk :: rest =>
      if size < copied + chunk.length then .error subjectChanging
      else do
        let later ← readChunks size (copied + chunk.length) rest
        return chunk ++ later

/-- The reads of {lit}`_hash_stable_file` and {lit}`_spool_stable_file`. -/
def readStable (metadata : Metadata) (reading : Reading) : Except Failure Bytes :=
  if !reading.opens then .error .osError
  else if !reading.sameOpened then .error subjectChanging
  else do
    let content ← readChunks metadata.size 0 reading.chunks
    if !reading.completes || !reading.lstat then .error .osError
    else if content.length ≠ metadata.size ∨ !reading.sameFinal then .error subjectChanging
    else if !reading.samePath then .error subjectChanging
    else return content

/-- What the file system and the other users of {lit}`PROCESS_RESOURCES` answer while a file is
captured. -/
structure Answers where
  metadata : Except Failure Metadata
  reading : Reading
  otherBytes : Nat
  temporary : Bool
  stats : Bool
  moves : Bool
  unlinks : Bool

/-- A regular file with its content. -/
structure SourceFile where
  content : Bytes
  executable : Bool
deriving DecidableEq, Repr

/-- The answers for a file that does not change, from a file system without errors. -/
def steadyAnswers (file : SourceFile) (otherBytes : Nat) : Answers where
  metadata := .ok ⟨file.content.length, file.executable⟩
  reading :=
    { opens := true
      sameOpened := true
      chunks := Chunks.chunks copyBufferBytes file.content
      completes := true
      sameFinal := true
      lstat := true
      samePath := true }
  otherBytes := otherBytes
  temporary := true
  stats := true
  moves := true
  unlinks := true

/-- {lit}`_hash_stable_file`. -/
def hashStableFile (setup : Setup) (answers : Answers) (allowEmpty : Bool) :
    Except Failure StableIdentity := do
  let metadata ← answers.metadata
  if metadata.size = 0 ∧ !allowEmpty then .error subjectUnsupported
  else if maxSubjectObjectBytes < metadata.size then .error subjectUnbounded
  else
    match readStable metadata answers.reading with
    | .ok content =>
        return ⟨"sha256:".toList ++ setup.sha256 content, metadata.executable, content.length⟩
    | .error .osError => .error subjectUnreadable
    | .error (.managed error) => .error (.managed error)

/-- {lit}`reserve_logical`. -/
def reserveLogical (otherBytes size : Nat) : Fallible Builder Failure Unit := do
  check (fun builder => decide (builder.held + otherBytes + size ≤ maxProcessLogicalBytes))
    subjectUnbounded
  modify fun builder => { builder with held := builder.held + size }

/-- {lit}`release_logical`. -/
def releaseLogical (size : Nat) : Fallible Builder Failure Unit :=
  modify fun builder => { builder with held := builder.held - size }

/-- The body of {lit}`_spool_stable_file` once its temporary file was made. -/
def spoolContent (setup : Setup) (answers : Answers) (metadata : Metadata) :
    Fallible Builder Failure (StableIdentity × Text × Nat) := do
  let content ← ofExcept (readStable metadata answers.reading)
  let name := setup.sha256 content
  let identity : StableIdentity :=
    ⟨"sha256:".toList ++ name, metadata.executable, content.length⟩
  let destination := setup.spoolPath ++ '/' :: name
  let present ← gets fun builder =>
    answers.stats && (builder.spool.lookup identity.digest).isSome
  check (fun _ => answers.moves) .osError
  if present then do
    releaseLogical metadata.size
    return (identity, destination, 0)
  else do
    modify fun builder =>
      { builder with spool := builder.spool.insert identity.digest metadata.size }
    return (identity, destination, metadata.size)

/-- {lit}`_spool_stable_file`. -/
def spoolStableFile (setup : Setup) (answers : Answers) (allowEmpty : Bool) :
    Fallible Builder Failure (StableIdentity × Text × Nat) := do
  let metadata ← ofExcept answers.metadata
  check (fun _ => decide (metadata.size ≠ 0) || allowEmpty) subjectUnsupported
  check (fun builder => decide (metadata.size ≤ maxSubjectTotalBytes - builder.totalBytes ∧
    metadata.size ≤ maxSubjectObjectBytes)) subjectUnbounded
  reserveLogical answers.otherBytes metadata.size
  -- the reservation is not released when no temporary file can be made
  check (fun _ => answers.temporary) .osError
  match ← attempt (spoolContent setup answers metadata) with
  | .ok spooled => return spooled
  | .error failure =>
      if answers.unlinks then do
        releaseLogical metadata.size
        fail failure
      else fail .osError

/-! ## Captures -/

/-- The arguments of a capture, and what it is answered. -/
structure CaptureCall where
  answers : Answers
  relativePath : Text
  allowEmpty : Bool
  basePath : Option Text
  entry : Bool
  executable : Option Bool
  kind : Option ObjectKind
  module : Bool

/-- The path of a file in the subject. -/
def subjectPath (setup : Setup) (call : CaptureCall) (relative : Text) : Text :=
  ((call.basePath.filter (· ≠ [])).getD setup.subjectRoot) ++ '/' :: relative

/-- The kind that a capture asks for. -/
def requestedKind (setup : Setup) (call : CaptureCall) (relative : Text) : ObjectKind :=
  call.kind.getD
    (if isNativeExtension setup relative then .nativeDependency else .application)

/-- The branch of {lit}`capture` for a path that is recorded. -/
def recapture (setup : Setup) (call : CaptureCall) (kind : ObjectKind)
    (existing : CapturedPythonFile) : Fallible Builder Failure CapturedPythonFile := do
  let identity ← ofExcept (hashStableFile setup call.answers call.allowEmpty)
  check (fun _ => decide (identity.digest = existing.digest ∧ identity.size = existing.size ∧
    kind = existing.kind)) subjectUnsupported
  return existing

/-- Records the object of a file that was spooled, and raises its kind in all files that share it;
the kind and the spool path of the object. -/
def mergeObject (kind : ObjectKind) (identity : StableIdentity) (spoolPath : Text) :
    Fallible Builder Failure (ObjectKind × Text) := do
  match ← gets fun builder => builder.objects.lookup identity.digest with
  | some existing => do
      check (fun _ => decide (existing.size = identity.size)) subjectUnsupported
      let merged := mergedObjectKind existing.kind kind
      modify fun builder =>
        { builder with
          objects := builder.objects.insert identity.digest
            ⟨merged, identity.size, existing.spoolPath⟩
          files := mapValues (fun _ file =>
            if file.digest = identity.digest then { file with kind := merged } else file)
            builder.files }
      return (merged, existing.spoolPath)
  | none => do
      modify fun builder =>
        { builder with
          objects := builder.objects.insert identity.digest ⟨kind, identity.size, spoolPath⟩
          totalBytes := builder.totalBytes + identity.size }
      return (kind, spoolPath)

/-- Counts a module. -/
def countModule (module : Bool) : Fallible Builder Failure Unit :=
  if module then do
    modify fun builder => { builder with modules := builder.modules + 1 }
    check (fun builder => decide (builder.modules ≤ maxCapturedModules)) subjectUnbounded
  else return ()

/-- The branch of {lit}`capture` for a new path. -/
def captureNew (setup : Setup) (call : CaptureCall) (kind : ObjectKind) (path : Text) :
    Fallible Builder Failure CapturedPythonFile := do
  let (identity, spoolPath, reserved) ← spoolStableFile setup call.answers call.allowEmpty
  modify fun builder => { builder with reservedBytes := builder.reservedBytes + reserved }
  let (kind, spoolPath) ← mergeObject kind identity spoolPath
  countModule call.module
  let captured : CapturedPythonFile :=
    { digest := identity.digest
      executable := call.executable.getD (call.entry || identity.executable)
      kind := kind
      module := call.module
      path := path
      size := identity.size
      spoolPath := spoolPath }
  modify fun builder => { builder with files := builder.files.insert path captured }
  return captured

/-- {lit}`capture`. -/
def capture (setup : Setup) (call : CaptureCall) :
    Fallible Builder Failure CapturedPythonFile := do
  check (fun builder => decide (size builder.files < maxCapturedFiles)) subjectUnbounded
  let relative ← ofExcept (validRelativePath setup call.relativePath)
  let path := subjectPath setup call relative
  check (fun _ => decide ("/reproit/subject/".toList <+: path)) subjectUnsupported
  let kind := requestedKind setup call relative
  check (fun _ => decide (path.length ≤ maxSubjectPathBytes)) subjectUnbounded
  match ← gets fun builder => builder.files.lookup path with
  | some existing => recapture setup call kind existing
  | none => captureNew setup call kind path

end PythonSubject
end ReproItSdk
