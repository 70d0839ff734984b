import ReproItSdk.Library.Ascending
import ReproItSdk.Library.Separated
import ReproItSdk.Runtime.NodeReads
import ReproItSdk.Subject.RustPaths

/-! # Paths of a Node subject

The Node packager captures the tree of the application without its {lit}`node_modules`, the tree of
the dependencies, the running executable and the loaded native modules.  The trees keep their
relative paths; a native module is named by its digest and its base name.

What a file freezes to, and what a directory lists, are inputs of the model.

Main results:

- Theorem {lit}`captureTree_files`: what the files of a tree have in common.
- Theorem {lit}`nodePathsSound_iff`: when the files of a manifest have distinct paths that pass the
  check of their order.
- Theorem {lit}`subject_paths`: the same for both packagers.
-/

namespace ReproItSdk
namespace NodeSubject

open Fallible Separated Ascending Runtime.Node

variable {Digest : Type}

/-! ## Names and paths -/

/-- Code unit of a slash. -/
def slash : UInt16 :=
  47

/-- String of a literal. -/
def js (text : String) : JsString :=
  JsString.ofText text.toList

/-- A name of the file system, which holds no slash. -/
structure FileName where
  text : JsString
  unbroken : slash ∉ text
deriving DecidableEq

/-- A path as its names. -/
abbrev FilePath : Type :=
  List FileName

/-- {lit}`digestName`: different digests have different names, which hold no slash. -/
structure DigestNames (Digest : Type) where
  name : Digest → JsString
  injective : Function.Injective name
  unbroken : ∀ digest, slash ∉ name digest

/-- {lit}`subjectUnreadable`. -/
def subjectUnreadable : Error where
  code := .incompleteCandidate
  message := "The running Node.js subject is not completely readable."

/-- {lit}`subjectUnbounded`. -/
def subjectUnbounded : Error where
  code := .uploadLimitExceeded
  message := "The running Node.js subject exceeds a Backend v1 bound."

/-- {lit}`subjectUnsupported`. -/
def subjectUnsupported : Error where
  code := .unsupported
  message := "The running Node.js subject has an unsupported file or launch identity."

/-- A part that a subject path may not have. -/
def FileName.refused (name : FileName) : Bool :=
  name.text.isEmpty || name.text == js "." || name.text == js ".." || name.text.contains 0

/-- {lit}`subjectPath`, for a relative path that is split into its parts. -/
def subjectPath (head : JsString) (relativePath : FilePath) : Except Error JsString :=
  if relativePath = [] ∨ relativePath.any FileName.refused then .error subjectUnsupported
  else
    let value := head ++ separated slash (relativePath.map FileName.text)
    if 4096 < value.length then .error subjectUnbounded else .ok value

/-! ## Trees -/

mutual

/-- What a directory lists under a name: a file with what freezing it returns, a directory with
what opening it returns, or something else. -/
inductive Entry (Digest : Type) where
  | file (frozen : Except Error Digest) (executable : Bool)
  | directory (opened : Except Error Unit) (children : Entries Digest)
  | other

/-- The entries of a directory, sorted by their names. -/
inductive Entries (Digest : Type) where
  | nil
  | cons (name : FileName) (entry : Entry Digest) (rest : Entries Digest)

end

/-- A file of a tree. -/
structure TreeFile (Digest : Type) where
  relativePath : FilePath
  sourcePath : FilePath
  digest : Digest
  executable : Bool
deriving DecidableEq

/-- {lit}`MAX_SUBJECT_FILES`. -/
def maxSubjectFiles : Nat :=
  32767

/-- {lit}`MAX_SUBJECT_TREE_DEPTH`. -/
def maxSubjectTreeDepth : Nat :=
  128

/-- The application pass leaves {lit}`node_modules` of the root alone. -/
def skips (skipRootNodeModules : Bool) (relativePath : FilePath) (name : FileName) : Bool :=
  skipRootNodeModules && relativePath.isEmpty && name.text == js "node_modules"

/-- The loop over the entries of one directory: it counts every entry and freezes the files. -/
def freezeEntries (root : FilePath) (skipRootNodeModules : Bool) (relativePath : FilePath) :
    Entries Digest → Nat → Except Error (List (TreeFile Digest) × Nat)
  | .nil, entries => .ok ([], entries)
  | .cons name entry rest, entries =>
      if skips skipRootNodeModules relativePath name then
        freezeEntries root skipRootNodeModules relativePath rest entries
      else if maxSubjectFiles < entries + 1 then .error subjectUnbounded
      else
        match entry with
        | .other => .error subjectUnsupported
        | .directory _ _ =>
            freezeEntries root skipRootNodeModules relativePath rest (entries + 1)
        | .file frozen executable =>
            match frozen with
            | .error error => .error error
            | .ok digest =>
                match freezeEntries root skipRootNodeModules relativePath rest (entries + 1) with
                | .error error => .error error
                | .ok (files, entries) => .ok
                    ({ relativePath := relativePath ++ [name]
                       sourcePath := root ++ (relativePath ++ [name])
                       digest := digest
                       executable := executable } :: files, entries)

mutual

/-- The directories of a tree in the order in which the stack of {lit}`captureTree` yields them: a
directory's own files, and then its child directories one after another. -/
def captureEntry (root : FilePath) (skipRootNodeModules : Bool) (depth : Nat)
    (relativePath : FilePath) :
    Entry Digest → Nat → Except Error (List (TreeFile Digest) × Nat)
  | .directory opened children, entries =>
      if maxSubjectTreeDepth < depth then .error subjectUnbounded
      else
        match opened with
        | .error error => .error error
        | .ok () =>
            match freezeEntries root skipRootNodeModules relativePath children entries with
            | .error error => .error error
            | .ok (files, entries) =>
                match captureEntries root skipRootNodeModules (depth + 1) relativePath children
                    entries with
                | .error error => .error error
                | .ok (more, entries) => .ok (files ++ more, entries)
  | .file _ _, entries => .ok ([], entries)
  | .other, entries => .ok ([], entries)

/-- The child directories of a directory. -/
def captureEntries (root : FilePath) (skipRootNodeModules : Bool) (depth : Nat)
    (relativePath : FilePath) :
    Entries Digest → Nat → Except Error (List (TreeFile Digest) × Nat)
  | .nil, entries => .ok ([], entries)
  | .cons name entry rest, entries =>
      if skips skipRootNodeModules relativePath name then
        captureEntries root skipRootNodeModules depth relativePath rest entries
      else
        match captureEntry root skipRootNodeModules depth (relativePath ++ [name]) entry
            entries with
        | .error error => .error error
        | .ok (files, entries) =>
            match captureEntries root skipRootNodeModules depth relativePath rest entries with
            | .error error => .error error
            | .ok (more, entries) => .ok (files ++ more, entries)

end

/-- Code units that a comparison of relative paths sees. -/
def relativeUnits (separator : UInt16) (relativePath : FilePath) : List Nat :=
  (List.intercalate [separator] (relativePath.map FileName.text)).map UInt16.toNat

/-- A tree with what its root answers, and whether its directories were left unchanged. -/
structure Tree (Digest : Type) where
  root : FilePath
  opened : Except Error Unit
  children : Entries Digest
  unchanged : Except Error Unit

/-- {lit}`captureTree`. -/
def captureTree (separator : UInt16) (tree : Tree Digest) (skipRootNodeModules : Bool)
    (entries : Nat) : Except Error (List (TreeFile Digest) × Nat) :=
  match captureEntry tree.root skipRootNodeModules 0 [] (.directory tree.opened tree.children)
      entries with
  | .error error => .error error
  | .ok (files, entries) =>
      match tree.unchanged with
      | .error error => .error error
      | .ok () => .ok
          (Json.sortBy (fun file => relativeUnits separator file.relativePath) files, entries)

/-! ## Runtime -/

/-- ASCII capitals in lower case. -/
def lowerUnit (unit : UInt16) : UInt16 :=
  if 65 ≤ unit ∧ unit ≤ 90 then unit + 32 else unit

/-- {lit}`path.extname(..).toLowerCase() === ".node"`: the name goes on before its extension. -/
def isNodeModule (path : FilePath) : Bool :=
  match path.getLast? with
  | none => false
  | some name =>
      decide (5 < name.text.length) &&
        (name.text.drop (name.text.length - 5)).map lowerUnit == js ".node"

/-- {lit}`isRuntimeLoader`. -/
def isRuntimeLoader (path : FilePath) : Bool :=
  match path.getLast? with
  | none => false
  | some name => (js "ld-linux-").isPrefixOf name.text || (js "ld-musl-").isPrefixOf name.text

/-- {lit}`path.basename`, as the parts of a relative path. -/
def baseName (path : FilePath) : FilePath :=
  path.getLast?.toList

/-- What the report of the process gives: the resolved path of the executable, the resolved shared
objects, where those of the system resolve to nothing, and what a path freezes to. -/
structure RuntimeEvidence (Digest : Type) where
  executablePath : Except Error FilePath
  sharedObjectPaths : List (Except Error (Option FilePath))
  frozen : FilePath → Except Error Digest
  linux : Bool
  verify : Except Error Unit

/-- A captured file with its path inside the subject. -/
structure SubjectEntry (Digest : Type) where
  digest : Digest
  executable : Bool
  sourcePath : FilePath
  subjectPath : JsString
deriving DecidableEq

/-- The executable and the native modules of the process. -/
structure RuntimeClosure (Digest : Type) where
  executable : SubjectEntry Digest
  native : List (SubjectEntry Digest)

/-- {lit}`MAX_RUNTIME_MODULES`. -/
def maxRuntimeModules : Nat :=
  4096

/-- {lit}`Set.add`. -/
def addPath (paths : List FilePath) (path : FilePath) : List FilePath :=
  if path ∈ paths then paths else paths ++ [path]

/-- {lit}`loadedRuntimePaths`. -/
def loadedRuntimePaths :
    List (Except Error (Option FilePath)) → List FilePath → Except Error (List FilePath)
  | [], loaded => .ok loaded
  | resolved :: rest, loaded => do
      let path ← resolved
      loadedRuntimePaths rest (path.elim loaded (addPath loaded))

/-- {lit}`captureRuntimeFile`. -/
def captureRuntimeFile (evidence : RuntimeEvidence Digest) (path : FilePath) (entries : Nat) :
    Except Error (Digest × Nat) :=
  if maxSubjectFiles < entries + 1 then .error subjectUnbounded
  else (evidence.frozen path).map fun digest => (digest, entries + 1)

/-- A captured file of the runtime, under its digest and its base name. -/
def runtimeEntry (names : DigestNames Digest) (head : JsString) (executable : Bool)
    (path : FilePath) (digest : Digest) : Except Error (SubjectEntry Digest) :=
  (subjectPath (head ++ names.name digest) (baseName path)).map fun target =>
    { digest := digest, executable := executable, sourcePath := path, subjectPath := target }

/-- The native modules, one after another. -/
def captureNative (names : DigestNames Digest) (evidence : RuntimeEvidence Digest) :
    List FilePath → Nat → Except Error (List (SubjectEntry Digest))
  | [], _ => .ok []
  | path :: paths, entries => do
      let frozen ← captureRuntimeFile evidence path entries
      let entry ← runtimeEntry names (js "/reproit/subject/native/") (isRuntimeLoader path) path
        frozen.1
      let more ← captureNative names evidence paths frozen.2
      pure (entry :: more)

/-- A result, or an error unless a condition holds. -/
def require (condition : Bool) (error : Error) : Except Error Unit :=
  if condition then .ok () else .error error

/-- {lit}`captureRuntimeClosure`. -/
def captureRuntimeClosure (names : DigestNames Digest) (evidence : RuntimeEvidence Digest)
    (subjectFiles : List FilePath) (entries : Nat) : Except Error (RuntimeClosure Digest) := do
  require (evidence.sharedObjectPaths.length ≤ maxRuntimeModules) subjectUnsupported
  let executablePath ← evidence.executablePath
  let loaded ← loadedRuntimePaths evidence.sharedObjectPaths [executablePath]
  require (subjectFiles.all fun path => !isNodeModule path || decide (path ∈ loaded))
    subjectUnsupported
  let frozen ← captureRuntimeFile evidence executablePath entries
  let executable ← runtimeEntry names (js "/reproit/subject/runtime/") true executablePath frozen.1
  let native ← captureNative names evidence
    (loaded.filter fun path => decide (path ≠ executablePath ∧ path ∉ subjectFiles)) frozen.2
  require (!evidence.linux || native.any SubjectEntry.executable) subjectUnsupported
  pure { executable := executable, native := native }

/-! ## Package -/

/-- What a package is made of: the tree of the application, its script, the tree of the
dependencies if there is one, and the runtime. -/
structure PackageRequest (Digest : Type) where
  separator : UInt16
  application : Tree Digest
  scriptPath : FilePath
  dependencies : Option (Tree Digest)
  evidence : RuntimeEvidence Digest

/-- The captured files of a package. -/
structure PackageFiles (Digest : Type) where
  application : List (SubjectEntry Digest)
  dependencies : List (SubjectEntry Digest)
  runtime : RuntimeClosure Digest

/-- The paths of the files of a tree below a directory of the subject. -/
def placeFiles (head : JsString) :
    List (TreeFile Digest) → Except Error (List (SubjectEntry Digest))
  | [] => .ok []
  | file :: files => do
      let target ← subjectPath head file.relativePath
      let more ← placeFiles head files
      pure ({ digest := file.digest, executable := file.executable,
              sourcePath := file.sourcePath, subjectPath := target } :: more)

/-- The dependency tree, if there is one. -/
def captureDependencies (separator : UInt16) (dependencies : Option (Tree Digest)) (entries : Nat) :
    Except Error (List (TreeFile Digest) × Nat) :=
  match dependencies with
  | none => .ok ([], entries)
  | some tree => captureTree separator tree false entries

/-- The script of an application. -/
def findScript (files : List (TreeFile Digest)) (scriptPath : FilePath) :
    Except Error (TreeFile Digest) :=
  match files.find? fun file => decide (file.sourcePath = scriptPath) with
  | some file => .ok file
  | none => .error subjectUnreadable

/-- All captured files, in the order of the packager. -/
def PackageFiles.captured (files : PackageFiles Digest) : List (SubjectEntry Digest) :=
  files.application ++ files.dependencies ++ (files.runtime.executable :: files.runtime.native)

/-- The captures of {lit}`packageNodeSubjectWithRuntimeEvidence`. -/
def packageFiles (names : DigestNames Digest) (request : PackageRequest Digest) :
    Except Error (PackageFiles Digest) := do
  let application ← captureTree request.separator request.application true 0
  let script ← findScript application.1 request.scriptPath
  let applicationPrefix := js "/reproit/subject/application/" ++ names.name script.digest
  let applicationFiles ← placeFiles applicationPrefix application.1
  let dependencies ← captureDependencies request.separator request.dependencies application.2
  let dependencyFiles ← placeFiles (applicationPrefix ++ js "/node_modules") dependencies.1
  let runtime ← captureRuntimeClosure names request.evidence
    ((applicationFiles ++ dependencyFiles).map SubjectEntry.sourcePath) dependencies.2
  request.evidence.verify
  let files : PackageFiles Digest :=
    { application := applicationFiles, dependencies := dependencyFiles, runtime := runtime }
  require (files.captured.length + 3 ≤ maxSubjectFiles) subjectUnbounded
  pure files

/-- A file of the manifest. -/
structure ManifestFile (Digest : Type) where
  executable : Bool
  objectDigest : Digest
  path : JsString
deriving DecidableEq

/-- Code units that {lit}`compareText` compares. -/
def pathUnits (path : JsString) : List Nat :=
  path.map UInt16.toNat

/-- The files of the manifest: the captured files and the three objects that the packager makes,
sorted by their paths. -/
def manifestFiles (files : PackageFiles Digest)
    (launchDigest dependencyDigest interpreterDigest : Digest) : List (ManifestFile Digest) :=
  Json.sortBy (fun file => pathUnits file.path)
    ((files.captured.map fun entry =>
        { executable := entry.executable, objectDigest := entry.digest,
          path := entry.subjectPath }) ++
      [{ executable := false, objectDigest := launchDigest
         path := js "/reproit/subject/launch.json" },
       { executable := false, objectDigest := dependencyDigest
         path := js "/reproit/subject/node/dependencies.json" },
       { executable := false, objectDigest := interpreterDigest
         path := js "/reproit/subject/node/interpreter.json" }])

/-! ## Parts of the paths -/

/-- Names are told apart by their texts. -/
theorem text_injective : Function.Injective FileName.text := by
  rintro ⟨text, unbroken⟩ ⟨other, intact⟩ same
  cases same
  rfl

/-- The names of a path hold no slash. -/
theorem texts_unbroken (path : FilePath) : ∀ part ∈ path.map FileName.text, slash ∉ part := by
  intro part among
  obtain ⟨name, -, rfl⟩ := List.mem_map.mp among
  exact name.unbroken

/-- The parts below the digest of a directory of the subject. -/
def digestParts (names : DigestNames Digest) (directory : JsString) (digest : Digest)
    (rest : List JsString) : List JsString :=
  js "reproit" :: js "subject" :: directory :: names.name digest :: rest

/-- The parts of a path hold no slash. -/
theorem digestParts_unbroken (names : DigestNames Digest) {directory : JsString} (digest : Digest)
    {rest : List JsString} (plain : slash ∉ directory) (unbroken : ∀ part ∈ rest, slash ∉ part) :
    ∀ part ∈ digestParts names directory digest rest, slash ∉ part := by
  have reproit : slash ∉ js "reproit" := by decide +kernel
  have subject : slash ∉ js "subject" := by decide +kernel
  simp only [digestParts, List.forall_mem_cons]
  exact ⟨reproit, subject, plain, names.unbroken digest, unbroken⟩

/-- What the parts below a directory of the subject spell. -/
theorem separated_digestParts (names : DigestNames Digest) {head directory : JsString}
    (digest : Digest) (rest : List JsString)
    (spelled : head = separated slash [js "reproit", js "subject", directory] ++ [slash]) :
    separated slash (digestParts names directory digest rest) =
      head ++ names.name digest ++ separated slash rest := by
  simp [spelled, digestParts, separated]

/-- The directories of the subject, as they are spelled. -/
theorem directories_spelled :
    js "/reproit/subject/application/" =
        separated slash [js "reproit", js "subject", js "application"] ++ [slash] ∧
      js "/reproit/subject/native/" =
        separated slash [js "reproit", js "subject", js "native"] ++ [slash] ∧
      js "/reproit/subject/runtime/" =
        separated slash [js "reproit", js "subject", js "runtime"] ++ [slash] ∧
      js "/node_modules" = separated slash [js "node_modules"] := by
  decide +kernel

/-- A subject path is its directory with its parts, of which there is at least one. -/
theorem subjectPath_ok {head value : JsString} {relativePath : FilePath}
    (made : subjectPath head relativePath = .ok value) :
    relativePath ≠ [] ∧ value = head ++ separated slash (relativePath.map FileName.text) := by
  unfold subjectPath at made
  split at made
  · cases made
  · rename_i fit
    dsimp only at made
    split at made
    · cases made
    · cases made
      exact ⟨fun empty => fit (Or.inl empty), rfl⟩

/-! ## Files of the trees -/

/-- What the files of a tree have in common: their places, and that the application pass leaves
{lit}`node_modules` of the root alone. -/
structure TreeFile.Placed (root : FilePath) (skipRootNodeModules : Bool) (file : TreeFile Digest) :
    Prop where
  source : file.sourcePath = root ++ file.relativePath
  skipped : skipRootNodeModules = true →
    ∀ name ∈ file.relativePath.head?, name.text ≠ js "node_modules"

/-- Below a directory the first name of a relative path is not skipped. -/
def Below (skipRootNodeModules : Bool) (relativePath : FilePath) : Prop :=
  skipRootNodeModules = true → ∀ name ∈ relativePath.head?, name.text ≠ js "node_modules"

/-- A name that is not skipped leads below a directory. -/
theorem below_append {skipRootNodeModules : Bool} {relativePath : FilePath} {name : FileName}
    (below : Below skipRootNodeModules relativePath)
    (kept : skips skipRootNodeModules relativePath name = false) :
    Below skipRootNodeModules (relativePath ++ [name]) := by
  intro skipping first among
  cases relativePath with
  | nil =>
      obtain rfl : name = first := by simpa using among
      simpa [skips, skipping] using kept
  | cons head rest => exact below skipping first (by simpa using among)

/-- The files of a directory are placed. -/
theorem freezeEntries_placed {root : FilePath} {skipRootNodeModules : Bool}
    {relativePath : FilePath} (below : Below skipRootNodeModules relativePath)
    (children : Entries Digest) {count : Nat} {frozen : List (TreeFile Digest) × Nat}
    (freezes : freezeEntries root skipRootNodeModules relativePath children count = .ok frozen) :
    ∀ file ∈ frozen.1, file.Placed root skipRootNodeModules := by
  match children with
  | .nil =>
      cases freezes
      simp
  | .cons name entry rest =>
      unfold freezeEntries at freezes
      split at freezes
      · exact freezeEntries_placed below rest freezes
      · rename_i kept
        split at freezes
        · cases freezes
        · cases entry with
          | other => cases freezes
          | directory opened children => exact freezeEntries_placed below rest freezes
          | file answer executable =>
              cases answer with
              | error error => cases freezes
              | ok digest =>
                  dsimp only at freezes
                  split at freezes
                  · cases freezes
                  · rename_i files later more
                    cases freezes
                    intro file among
                    rcases List.mem_cons.mp among with rfl | deeper
                    · exact ⟨rfl, below_append below (by simpa using kept)⟩
                    · exact freezeEntries_placed below rest more file deeper

mutual

/-- The files of an entry are placed. -/
theorem captureEntry_placed {root : FilePath} {skipRootNodeModules : Bool} {depth : Nat}
    {relativePath : FilePath} (below : Below skipRootNodeModules relativePath)
    (entry : Entry Digest) {count : Nat} {captured : List (TreeFile Digest) × Nat}
    (captures : captureEntry root skipRootNodeModules depth relativePath entry count =
      .ok captured) :
    ∀ file ∈ captured.1, file.Placed root skipRootNodeModules := by
  match entry with
  | .file frozen executable =>
      rw [captureEntry] at captures
      cases captures
      simp
  | .other =>
      rw [captureEntry] at captures
      cases captures
      simp
  | .directory opened children =>
      unfold captureEntry at captures
      split at captures
      · cases captures
      · cases opened with
        | error error => cases captures
        | ok done =>
            dsimp only at captures
            split at captures
            · cases captures
            · rename_i files entries freezes
              split at captures
              · cases captures
              · rename_i more entries deeper
                cases captures
                intro file among
                rcases List.mem_append.mp among with here | there
                · exact freezeEntries_placed below children freezes file here
                · exact captureEntries_placed below children deeper file there

/-- The files of the child directories are placed. -/
theorem captureEntries_placed {root : FilePath} {skipRootNodeModules : Bool} {depth : Nat}
    {relativePath : FilePath} (below : Below skipRootNodeModules relativePath)
    (children : Entries Digest) {count : Nat} {captured : List (TreeFile Digest) × Nat}
    (captures : captureEntries root skipRootNodeModules depth relativePath children count =
      .ok captured) :
    ∀ file ∈ captured.1, file.Placed root skipRootNodeModules := by
  match children with
  | .nil =>
      rw [captureEntries] at captures
      cases captures
      simp
  | .cons name entry rest =>
      rw [captureEntries] at captures
      split at captures
      · exact captureEntries_placed below rest captures
      · rename_i kept
        split at captures
        · cases captures
        · rename_i files entries first
          split at captures
          · cases captures
          · rename_i more entries later
            cases captures
            intro file among
            rcases List.mem_append.mp among with here | there
            · exact captureEntry_placed (below_append below (by simpa using kept)) entry first file
                here
            · exact captureEntries_placed below rest later file there

end

/-- The files of a tree lie below its root, and the application pass leaves the {lit}`node_modules`
of the root alone. -/
theorem captureTree_files {separator : UInt16} {tree : Tree Digest} {skipRootNodeModules : Bool}
    {count : Nat} {captured : List (TreeFile Digest) × Nat}
    (captures : captureTree separator tree skipRootNodeModules count = .ok captured) :
    ∀ file ∈ captured.1, file.Placed tree.root skipRootNodeModules := by
  unfold captureTree at captures
  split at captures
  · cases captures
  · rename_i files entries walk
    split at captures
    · cases captures
    · cases captures
      intro file among
      exact captureEntry_placed (fun _ name empty => by simp at empty) _ walk file
        (Json.mem_sortBy.mp among)

/-! ## Parts of the captured files -/

/-- The files of a tree keep their relative paths. -/
theorem placeFiles_ok {head : JsString} {files : List (TreeFile Digest)}
    {entries : List (SubjectEntry Digest)} (places : placeFiles head files = .ok entries) :
    entries.map SubjectEntry.sourcePath = files.map TreeFile.sourcePath ∧
      entries.map SubjectEntry.subjectPath = files.map fun file =>
        head ++ separated slash (file.relativePath.map FileName.text) := by
  induction files generalizing entries with
  | nil =>
      cases places
      simp
  | cons file files ih =>
      obtain ⟨target, made, places⟩ := except_bind_eq_ok.mp places
      obtain ⟨more, placed, places⟩ := except_bind_eq_ok.mp places
      cases places
      obtain ⟨sources, targets⟩ := ih placed
      simp [sources, targets, (subjectPath_ok made).2]

/-- A captured file of the runtime is named by its digest and its base name. -/
theorem runtimeEntry_ok {names : DigestNames Digest} {head : JsString} {executable : Bool}
    {path : FilePath} {digest : Digest} {entry : SubjectEntry Digest}
    (made : runtimeEntry names head executable path digest = .ok entry) :
    entry.sourcePath = path ∧
      entry.subjectPath = head ++ names.name entry.digest ++
        separated slash ((baseName entry.sourcePath).map FileName.text) := by
  unfold runtimeEntry at made
  cases placed : subjectPath (head ++ names.name digest) (baseName path) with
  | error error =>
      rw [placed] at made
      cases made
  | ok target =>
      rw [placed] at made
      cases made
      exact ⟨rfl, (subjectPath_ok placed).2⟩

/-- Native modules are named by their digests and their base names. -/
theorem captureNative_ok {names : DigestNames Digest} {evidence : RuntimeEvidence Digest}
    {paths : List FilePath} {count : Nat} {entries : List (SubjectEntry Digest)}
    (captures : captureNative names evidence paths count = .ok entries) :
    ∀ entry ∈ entries, entry.subjectPath = js "/reproit/subject/native/" ++
      names.name entry.digest ++
        separated slash ((baseName entry.sourcePath).map FileName.text) := by
  induction paths generalizing count entries with
  | nil =>
      cases captures
      simp
  | cons path paths ih =>
      obtain ⟨frozen, -, captures⟩ := except_bind_eq_ok.mp captures
      obtain ⟨entry, made, captures⟩ := except_bind_eq_ok.mp captures
      obtain ⟨more, captured, captures⟩ := except_bind_eq_ok.mp captures
      cases captures
      intro found among
      rcases List.mem_cons.mp among with rfl | later
      · exact (runtimeEntry_ok made).2
      · exact ih captured found later

/-- What a package is made of: where its files lie, and how their paths are spelled. -/
structure PackageFiles.Spelled (names : DigestNames Digest) (files : PackageFiles Digest)
    (script : Digest) (application dependencies : List FilePath) : Prop where
  applicationPaths : files.application.map SubjectEntry.subjectPath =
    application.map fun path => separated slash
      (digestParts names (js "application") script (path.map FileName.text))
  dependencyPaths : files.dependencies.map SubjectEntry.subjectPath =
    dependencies.map fun path => separated slash
      (digestParts names (js "application") script
        (js "node_modules" :: path.map FileName.text))
  executablePath : files.runtime.executable.subjectPath = separated slash
    (digestParts names (js "runtime") files.runtime.executable.digest
      ((baseName files.runtime.executable.sourcePath).map FileName.text))
  nativePaths : ∀ entry ∈ files.runtime.native, entry.subjectPath = separated slash
    (digestParts names (js "native") entry.digest
      ((baseName entry.sourcePath).map FileName.text))
  applicationDistinct : (files.application.map SubjectEntry.sourcePath).Nodup →
    application.Nodup
  dependenciesDistinct : (files.dependencies.map SubjectEntry.sourcePath).Nodup →
    dependencies.Nodup
  applicationBelow : ∀ path ∈ application, ∀ name ∈ path.head?,
    name.text ≠ js "node_modules"

/-- Relative paths are distinct where the paths of the placed files are. -/
theorem relativePaths_nodup {root : FilePath} {skipRootNodeModules : Bool}
    {files : List (TreeFile Digest)}
    (placed : ∀ file ∈ files, file.Placed root skipRootNodeModules)
    (distinct : (files.map TreeFile.sourcePath).Nodup) :
    (files.map TreeFile.relativePath).Nodup := by
  have below : files.map TreeFile.sourcePath =
      (files.map TreeFile.relativePath).map (root ++ ·) := by
    rw [List.map_map]
    exact List.map_congr_left fun file among => (placed file among).source
  rw [below] at distinct
  exact distinct.of_map _

/-- The captured files of a package are spelled by their places. -/
theorem packageFiles_spelled {names : DigestNames Digest} {request : PackageRequest Digest}
    {files : PackageFiles Digest} (packages : packageFiles names request = .ok files) :
    ∃ script application dependencies,
      files.Spelled names script application dependencies := by
  obtain ⟨spellsApplication, spellsNative, spellsRuntime, spellsModules⟩ := directories_spelled
  unfold packageFiles at packages
  obtain ⟨application, captures, packages⟩ := except_bind_eq_ok.mp packages
  obtain ⟨script, -, packages⟩ := except_bind_eq_ok.mp packages
  obtain ⟨applicationFiles, places, packages⟩ := except_bind_eq_ok.mp packages
  obtain ⟨dependencies, dependencyCaptures, packages⟩ := except_bind_eq_ok.mp packages
  obtain ⟨dependencyFiles, dependencyPlaces, packages⟩ := except_bind_eq_ok.mp packages
  obtain ⟨runtime, closure, packages⟩ := except_bind_eq_ok.mp packages
  obtain ⟨_, -, packages⟩ := except_bind_eq_ok.mp packages
  obtain ⟨_, -, packages⟩ := except_bind_eq_ok.mp packages
  cases packages
  unfold captureRuntimeClosure at closure
  obtain ⟨_, -, closure⟩ := except_bind_eq_ok.mp closure
  obtain ⟨executablePath, -, closure⟩ := except_bind_eq_ok.mp closure
  obtain ⟨loaded, -, closure⟩ := except_bind_eq_ok.mp closure
  obtain ⟨_, -, closure⟩ := except_bind_eq_ok.mp closure
  obtain ⟨frozen, -, closure⟩ := except_bind_eq_ok.mp closure
  obtain ⟨executable, running, closure⟩ := except_bind_eq_ok.mp closure
  obtain ⟨native, modules, closure⟩ := except_bind_eq_ok.mp closure
  obtain ⟨_, -, closure⟩ := except_bind_eq_ok.mp closure
  cases closure
  have placed := captureTree_files captures
  obtain ⟨sources, targets⟩ := placeFiles_ok places
  obtain ⟨dependencySources, dependencyTargets⟩ := placeFiles_ok dependencyPlaces
  refine ⟨script.digest, application.1.map TreeFile.relativePath,
    dependencies.1.map TreeFile.relativePath, ?_⟩
  constructor
  · rw [targets, List.map_map]
    refine List.map_congr_left fun file _ => ?_
    exact (separated_digestParts names script.digest _ spellsApplication).symm
  · rw [dependencyTargets, List.map_map]
    refine List.map_congr_left fun file _ => ?_
    rw [Function.comp_apply, separated_digestParts names script.digest _ spellsApplication,
      spellsModules]
    simp [separated]
  · rw [(runtimeEntry_ok running).2, separated_digestParts names _ _ spellsRuntime]
  · intro entry among
    rw [captureNative_ok modules entry among, separated_digestParts names _ _ spellsNative]
  · intro distinct
    rw [sources] at distinct
    exact relativePaths_nodup placed distinct
  · intro distinct
    rw [dependencySources] at distinct
    unfold captureDependencies at dependencyCaptures
    split at dependencyCaptures
    · cases dependencyCaptures
      simp
    · exact relativePaths_nodup (captureTree_files dependencyCaptures) distinct
  · intro path among name first
    obtain ⟨file, member, rfl⟩ := List.mem_map.mp among
    exact (placed file member).skipped rfl name first

/-! ## Soundness of the paths -/

/-- Two captured modules with equal bytes and equal base names. -/
def SubjectEntry.Clashes (left right : SubjectEntry Digest) : Prop :=
  left.digest = right.digest ∧ baseName left.sourcePath = baseName right.sourcePath

/-- Captured files get distinct paths, and the files of their manifest pass the check that their
paths go up strictly. -/
structure PathsSound (files : PackageFiles Digest) (manifest : List (ManifestFile Digest)) :
    Prop where
  distinct : (files.captured.map SubjectEntry.subjectPath).Nodup
  ascends : ascends none (manifest.map fun file => pathUnits file.path) = true

/-- The parts that the paths of the captured files spell. -/
def capturedParts (names : DigestNames Digest) (files : PackageFiles Digest) (script : Digest)
    (application dependencies : List FilePath) : List (List JsString) :=
  (application.map fun path =>
      digestParts names (js "application") script (path.map FileName.text)) ++
    (dependencies.map fun path =>
      digestParts names (js "application") script (js "node_modules" :: path.map FileName.text)) ++
    digestParts names (js "runtime") files.runtime.executable.digest
        ((baseName files.runtime.executable.sourcePath).map FileName.text) ::
      files.runtime.native.map fun entry =>
        digestParts names (js "native") entry.digest
          ((baseName entry.sourcePath).map FileName.text)

/-- The parts that the paths of the other three files spell. -/
def fixedParts : List (List JsString) :=
  [[js "reproit", js "subject", js "launch.json"],
   [js "reproit", js "subject", js "node", js "dependencies.json"],
   [js "reproit", js "subject", js "node", js "interpreter.json"]]

variable {names : DigestNames Digest} {files : PackageFiles Digest} {script : Digest}
  {application dependencies : List FilePath}

/-- The paths of the captured files spell their parts. -/
theorem PackageFiles.Spelled.captured_paths
    (spelled : files.Spelled names script application dependencies) :
    files.captured.map SubjectEntry.subjectPath =
      (capturedParts names files script application dependencies).map (separated slash) := by
  have native : files.runtime.native.map SubjectEntry.subjectPath =
      files.runtime.native.map fun entry => separated slash
        (digestParts names (js "native") entry.digest
          ((baseName entry.sourcePath).map FileName.text)) :=
    List.map_congr_left fun entry among => spelled.nativePaths entry among
  simp only [PackageFiles.captured, capturedParts, List.map_append, List.map_cons, List.map_map,
    spelled.applicationPaths, spelled.dependencyPaths, spelled.executablePath, native]
  rfl

/-- The parts of the captured files and of the other three hold no slash. -/
theorem capturedParts_unbroken :
    ∀ parts ∈ capturedParts names files script application dependencies ++ fixedParts,
      ∀ part ∈ parts, slash ∉ part := by
  have plain : slash ∉ js "application" ∧ slash ∉ js "runtime" ∧ slash ∉ js "native" ∧
      slash ∉ js "node_modules" := by decide +kernel
  have fixed : ∀ parts ∈ fixedParts, ∀ part ∈ parts, slash ∉ part := by decide +kernel
  intro parts among
  simp only [capturedParts, List.mem_append, List.mem_cons, List.mem_map] at among
  rcases among with ((⟨path, -, rfl⟩ | ⟨path, -, rfl⟩) | rfl | ⟨entry, -, rfl⟩) | other
  · exact digestParts_unbroken names script plain.1 (texts_unbroken path)
  · refine digestParts_unbroken names script plain.1 ?_
    rw [List.forall_mem_cons]
    exact ⟨plain.2.2.2, texts_unbroken path⟩
  · exact digestParts_unbroken names _ plain.2.1 (texts_unbroken _)
  · exact digestParts_unbroken names _ plain.2.2.1 (texts_unbroken _)
  · exact fixed parts other

/-- Directories of the subject have different names. -/
theorem directories_apart :
    js "application" ≠ js "runtime" ∧ js "application" ≠ js "native" ∧
      js "runtime" ≠ js "native" ∧ js "application" ≠ js "node" ∧ js "runtime" ≠ js "node" ∧
      js "native" ≠ js "node" := by
  decide +kernel

/-- Parts below a directory are told apart by the directory, the digest and the rest. -/
theorem digestParts_inj {directory other : JsString} {digest otherDigest : Digest}
    {rest otherRest : List JsString} :
    digestParts names directory digest rest = digestParts names other otherDigest otherRest ↔
      directory = other ∧ digest = otherDigest ∧ rest = otherRest := by
  simp only [digestParts, List.cons.injEq, true_and]
  constructor
  · rintro ⟨directories, digests, rests⟩
    exact ⟨directories, names.injective digests, rests⟩
  · rintro ⟨rfl, rfl, rfl⟩
    exact ⟨rfl, rfl, rfl⟩

/-- The texts of the names of a path tell it apart. -/
theorem texts_inj {path other : FilePath} :
    path.map FileName.text = other.map FileName.text ↔ path = other :=
  (List.map_injective_iff.mpr text_injective).eq_iff

/-- The parts of the captured files are distinct exactly when no two native modules clash. -/
theorem capturedParts_nodup_iff (names : DigestNames Digest) (files : PackageFiles Digest)
    (script : Digest) (applicationDistinct : application.Nodup)
    (dependenciesDistinct : dependencies.Nodup)
    (below : ∀ path ∈ application, ∀ name ∈ path.head?, name.text ≠ js "node_modules") :
    (capturedParts names files script application dependencies).Nodup ↔
      files.runtime.native.Pairwise fun left right => ¬ left.Clashes right := by
  obtain ⟨apart_runtime, apart_native, runtime_native, -⟩ := directories_apart
  have native : (files.runtime.native.map fun entry =>
      digestParts names (js "native") entry.digest
        ((baseName entry.sourcePath).map FileName.text)).Nodup ↔
      files.runtime.native.Pairwise fun left right => ¬ left.Clashes right := by
    rw [List.Nodup, List.pairwise_map]
    refine List.Pairwise.iff ?_
    intro left right
    rw [Ne, digestParts_inj, texts_inj]
    simp [SubjectEntry.Clashes]
  unfold capturedParts
  rw [← native]
  constructor
  · intro distinct
    exact (List.nodup_cons.mp (List.nodup_append.mp distinct).2.1).2
  · intro modules
    refine List.Nodup.append (List.Nodup.append ?_ ?_ ?_) (List.nodup_cons.mpr ⟨?_, modules⟩) ?_
    · refine applicationDistinct.map ?_
      intro path other same
      exact texts_inj.mp (digestParts_inj.mp same).2.2
    · refine dependenciesDistinct.map ?_
      intro path other same
      exact texts_inj.mp (List.cons.inj (digestParts_inj.mp same).2.2).2
    · intro parts here there
      obtain ⟨path, among, rfl⟩ := List.mem_map.mp here
      obtain ⟨other, -, same⟩ := List.mem_map.mp there
      have rests := (digestParts_inj.mp same).2.2
      cases path with
      | nil => simp at rests
      | cons name rest =>
          rw [List.map_cons, List.cons.injEq] at rests
          exact below _ among name rfl rests.1.symm
    · intro among
      obtain ⟨entry, -, same⟩ := List.mem_map.mp among
      exact runtime_native (digestParts_inj.mp same).1.symm
    · intro parts here there
      have directory : ∃ digest rest, parts =
          digestParts names (js "application") digest rest := by
        rcases List.mem_append.mp here with first | second
        · obtain ⟨path, -, rfl⟩ := List.mem_map.mp first
          exact ⟨_, _, rfl⟩
        · obtain ⟨path, -, rfl⟩ := List.mem_map.mp second
          exact ⟨_, _, rfl⟩
      obtain ⟨digest, rest, rfl⟩ := directory
      rcases List.mem_cons.mp there with running | module
      · exact apart_runtime (digestParts_inj.mp running).1
      · obtain ⟨entry, -, same⟩ := List.mem_map.mp module
        exact apart_native (digestParts_inj.mp same).1.symm

/-- The other three files have paths of their own. -/
theorem fixedParts_apart {parts : List JsString}
    (among : parts ∈ capturedParts names files script application dependencies) :
    parts ∉ fixedParts := by
  obtain ⟨-, -, -, application_node, runtime_node, native_node⟩ := directories_apart
  have directory : ∃ directory digest rest, directory ≠ js "node" ∧
      parts = digestParts names directory digest rest := by
    simp only [capturedParts, List.mem_append, List.mem_cons, List.mem_map] at among
    rcases among with (⟨path, -, rfl⟩ | ⟨path, -, rfl⟩) | rfl | ⟨entry, -, rfl⟩
    · exact ⟨_, _, _, application_node, rfl⟩
    · exact ⟨_, _, _, application_node, rfl⟩
    · exact ⟨_, _, _, runtime_node, rfl⟩
    · exact ⟨_, _, _, native_node, rfl⟩
  obtain ⟨directory, digest, rest, other, rfl⟩ := directory
  simp [fixedParts, digestParts, other]

/-- Texts of code units are told apart by their code units. -/
theorem pathUnits_injective : Function.Injective pathUnits := by
  refine List.map_injective_iff.mpr ?_
  intro unit other same
  exact UInt16.toNat_inj.mp same

/-- Parts without slashes are distinct exactly when what they spell is. -/
theorem nodup_separated_iff {parts : List (List JsString)}
    (unbroken : ∀ item ∈ parts, ∀ part ∈ item, slash ∉ part) :
    (parts.map (separated slash)).Nodup ↔ parts.Nodup := by
  constructor
  · exact List.Nodup.of_map _
  · intro distinct
    refine distinct.map_on ?_
    intro left here right there same
    exact separated_inj (unbroken left here) (unbroken right there) same

/-- The paths of the other three files spell their parts. -/
theorem fixed_spelled :
    [js "/reproit/subject/launch.json", js "/reproit/subject/node/dependencies.json",
        js "/reproit/subject/node/interpreter.json"] =
      fixedParts.map (separated slash) := by
  decide +kernel

/-- The paths of the manifest, before they are sorted. -/
theorem PackageFiles.Spelled.manifest_paths
    (spelled : files.Spelled names script application dependencies)
    (launchDigest dependencyDigest interpreterDigest : Digest) :
    (ascends none ((manifestFiles files launchDigest dependencyDigest interpreterDigest).map
        fun file => pathUnits file.path) = true) ↔
      (capturedParts names files script application dependencies ++ fixedParts).Nodup := by
  unfold manifestFiles
  rw [ascends_sortBy_iff, ← nodup_separated_iff capturedParts_unbroken, List.map_append,
    List.map_append, ← fixed_spelled, ← spelled.captured_paths,
    ← List.nodup_map_iff pathUnits_injective]
  simp only [List.map_append, List.map_map, List.map_cons, List.map_nil]
  rfl

/-- The paths of a manifest are sound exactly when no two native modules clash. -/
theorem PackageFiles.Spelled.sound_iff
    (spelled : files.Spelled names script application dependencies)
    (distinct : (files.captured.map SubjectEntry.sourcePath).Nodup)
    (launchDigest dependencyDigest interpreterDigest : Digest) :
    PathsSound files (manifestFiles files launchDigest dependencyDigest interpreterDigest) ↔
      files.runtime.native.Pairwise fun left right => ¬ left.Clashes right := by
  have sources := distinct
  simp only [PackageFiles.captured, List.map_append] at sources
  have trees := (List.nodup_append.mp sources).1
  have parts := capturedParts_nodup_iff names files script
    (spelled.applicationDistinct (List.nodup_append.mp trees).1)
    (spelled.dependenciesDistinct (List.nodup_append.mp trees).2.1) spelled.applicationBelow
  have unbroken : ∀ item ∈ capturedParts names files script application dependencies,
      ∀ part ∈ item, slash ∉ part :=
    fun item among => capturedParts_unbroken item (List.mem_append_left _ among)
  have paths : (files.captured.map SubjectEntry.subjectPath).Nodup ↔
      (capturedParts names files script application dependencies).Nodup := by
    rw [spelled.captured_paths, nodup_separated_iff unbroken]
  rw [← parts]
  constructor
  · exact fun sound => paths.mp sound.distinct
  · intro distinctParts
    refine ⟨paths.mpr distinctParts, ?_⟩
    refine (spelled.manifest_paths launchDigest dependencyDigest interpreterDigest).mpr ?_
    have fixed : fixedParts.Nodup := by decide +kernel
    exact distinctParts.append fixed fun item here there => fixedParts_apart here there

/-- The paths of a package are sound exactly when no two native modules clash. -/
theorem nodePathsSound_iff {request : PackageRequest Digest}
    (packages : packageFiles names request = .ok files)
    (distinct : (files.captured.map SubjectEntry.sourcePath).Nodup)
    (launchDigest dependencyDigest interpreterDigest : Digest) :
    PathsSound files (manifestFiles files launchDigest dependencyDigest interpreterDigest) ↔
      files.runtime.native.Pairwise fun left right => ¬ left.Clashes right := by
  obtain ⟨script, application, dependencies, spelled⟩ := packageFiles_spelled packages
  exact spelled.sound_iff distinct launchDigest dependencyDigest interpreterDigest

/-! ## Both packagers -/

/-- Files with distinct source paths get distinct paths in the manifests of both packagers, which
pass the check of their order. -/
def SubjectPaths (Digest : Type) [DecidableEq Digest] (rustNames : RustSubject.DigestNames Digest)
    (nodeNames : DigestNames Digest) : Prop :=
  (∀ captured executable executableDigest assembly launchObject,
    RustSubject.assembleFiles rustNames captured executable executableDigest = .ok assembly →
    (captured.map RustSubject.CapturedFile.sourcePath).Nodup →
    RustSubject.PathsSound rustNames captured executableDigest
      (RustSubject.manifestFiles assembly launchObject)) ∧
  ∀ request files launchDigest dependencyDigest interpreterDigest,
    packageFiles nodeNames request = .ok files →
    (files.captured.map SubjectEntry.sourcePath).Nodup →
    PathsSound files (manifestFiles files launchDigest dependencyDigest interpreterDigest)

/-- Both packagers give sound paths exactly where no two of the captured files, or of the native
modules, have equal bytes and equal base names. -/
theorem subject_paths [DecidableEq Digest] (rustNames : RustSubject.DigestNames Digest)
    (nodeNames : DigestNames Digest) :
    (∀ captured executable executableDigest assembly launchObject,
      RustSubject.assembleFiles rustNames captured executable executableDigest = .ok assembly →
      (captured.map RustSubject.CapturedFile.sourcePath).Nodup →
      (RustSubject.PathsSound rustNames captured executableDigest
          (RustSubject.manifestFiles assembly launchObject) ↔
        captured.Pairwise fun left right => ¬ left.Clashes right)) ∧
    ∀ request files launchDigest dependencyDigest interpreterDigest,
      packageFiles nodeNames request = .ok files →
      (files.captured.map SubjectEntry.sourcePath).Nodup →
      (PathsSound files (manifestFiles files launchDigest dependencyDigest interpreterDigest) ↔
        files.runtime.native.Pairwise fun left right => ¬ left.Clashes right) := by
  constructor
  · intro captured executable executableDigest assembly launchObject assembles _
    exact RustSubject.manifestFiles_sound_iff assembles launchObject
  · intro request files launchDigest dependencyDigest interpreterDigest packages distinct
    exact nodePathsSound_iff packages distinct launchDigest dependencyDigest interpreterDigest

/-- The name of the module has no separator. -/
theorem shared_unbroken : Unbroken '/' "libshared.so" := by
  decide

/-- A captured module of one byte in a directory. -/
def sampleModule (directory : String) (unbroken : Unbroken '/' directory) :
    RustSubject.CapturedFile Bytes where
  debugArtifactKind := none
  digest := [7]
  hasDwarf := false
  kind := .nativeDependency
  size := 1
  sourcePath := [.text directory unbroken, .text "libshared.so" shared_unbroken]

/-- Names of digests that are bytes. -/
def sampleNames : DigestNames Bytes where
  name digest := digest.map fun byte => UInt16.ofNat (byte.toNat + 256)
  injective := by
    refine List.map_injective_iff.mpr ?_
    intro byte other same
    have values := congrArg UInt16.toNat same
    have small := byte.toNat_lt
    have bounded := other.toNat_lt
    simp only [UInt16.toNat_ofNat'] at values
    exact UInt8.toNat_inj.mp (by omega)
  unbroken := by
    intro digest among
    obtain ⟨byte, -, same⟩ := List.mem_map.mp among
    have values := congrArg UInt16.toNat same
    have small := byte.toNat_lt
    have unit : slash.toNat = 47 := rfl
    rw [UInt16.toNat_ofNat', unit] at values
    omega

/-- Two modules with the same byte and the same base name get one path. -/
theorem equal_modules_clash : ¬ SubjectPaths Bytes RustSubject.sampleNames sampleNames := by
  intro claim
  have sound := claim.1 [sampleModule "first" (by decide), sampleModule "second" (by decide)]
    [] [] _ [] rfl (by decide)
  exact absurd sound.distinct (by decide)

end NodeSubject
end ReproItSdk
