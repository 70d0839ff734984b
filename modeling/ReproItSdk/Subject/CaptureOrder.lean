import ReproItSdk.Subject.Bookkeeping

/-! # Order of the captures of a Python subject

Files that do not change are captured one after another.  A capture of a recorded path compares the
kind that it asks for with the kind of the file, which other files with the same digest may have
raised since, and a file of a known digest needs room for its bytes although it adds none.

Main results:

- Theorem {lit}`capture_again_iff`: when a capture that comes again changes nothing.
- Theorem {lit}`captureAll_of_same`: captures in another order end with the same files.
- Theorem {lit}`captures_orderly`: both, for every sequence of captures.
- Theorem {lit}`captures_disorderly`: captures that succeed in one order and fail in another.
-/

namespace ReproItSdk
namespace PythonSubject

open Unicode Fallible KeyedTable

/-! ## Captures of files that do not change -/

/-- The arguments of a capture. -/
structure CaptureArguments where
  sourcePath : Text
  relativePath : Text
  allowEmpty : Bool
  basePath : Option Text
  entry : Bool
  executable : Option Bool
  kind : Option ObjectKind
  module : Bool
deriving DecidableEq, Repr

/-- The files that are captured, and what is in use of the process otherwise. -/
structure World where
  files : Text → Except Failure SourceFile
  otherBytes : Nat

/-- What a file is answered that does not change. -/
def World.answers (world : World) (sourcePath : Text) : Answers :=
  match world.files sourcePath with
  | .ok file => steadyAnswers file world.otherBytes
  | .error failure =>
      { steadyAnswers ⟨[], false⟩ world.otherBytes with metadata := .error failure }

/-- The capture with some arguments. -/
def World.call (world : World) (arguments : CaptureArguments) : CaptureCall where
  answers := world.answers arguments.sourcePath
  relativePath := arguments.relativePath
  allowEmpty := arguments.allowEmpty
  basePath := arguments.basePath
  entry := arguments.entry
  executable := arguments.executable
  kind := arguments.kind
  module := arguments.module

/-- Captures one after another, up to the first that fails. -/
def captureAll (setup : Setup) (world : World) :
    List CaptureArguments → Fallible Builder Failure Unit
  | [] => return ()
  | arguments :: rest => do
      let _ ← capture setup (world.call arguments)
      captureAll setup world rest

/-- What a capture asks to record. -/
structure Target where
  path : Text
  digest : Text
  kind : ObjectKind
  size : Nat
  executable : Bool
  module : Bool
deriving DecidableEq, Repr

/-- The target of a capture that passes the checks on its arguments and its file. -/
def World.target (setup : Setup) (world : World) (arguments : CaptureArguments) : Option Target :=
  match validRelativePath setup arguments.relativePath, world.files arguments.sourcePath with
  | .ok relative, .ok file =>
      let call := world.call arguments
      if "/reproit/subject/".toList <+: subjectPath setup call relative ∧
          (subjectPath setup call relative).length ≤ maxSubjectPathBytes ∧
          (file.content.length ≠ 0 ∨ arguments.allowEmpty = true) ∧
          file.content.length ≤ maxSubjectObjectBytes then
        some
          { path := subjectPath setup call relative
            digest := "sha256:".toList ++ setup.sha256 file.content
            kind := requestedKind setup call relative
            size := file.content.length
            executable := arguments.executable.getD (arguments.entry || file.executable)
            module := arguments.module }
      else none
  | _, _ => none

/-! ## One capture -/

section Single

variable {setup : Setup} {world : World} {arguments : CaptureArguments} {target : Target}
  {builder next : Builder} {captured : CapturedPythonFile}

/-- Chunks that are no more than a size are read. -/
theorem readChunks_of_le {size copied : Nat} {chunks : List Bytes}
    (fits : copied + chunks.flatten.length ≤ size) :
    readChunks size copied chunks = .ok chunks.flatten := by
  induction chunks generalizing copied with
  | nil => rfl
  | cons chunk rest ih =>
      rw [List.flatten_cons, List.length_append] at fits
      rw [readChunks, if_neg (by omega), ih (by omega)]
      rfl

/-- A file that does not change is read. -/
theorem readStable_steady (file : SourceFile) (otherBytes : Nat) :
    readStable ⟨file.content.length, file.executable⟩ (steadyAnswers file otherBytes).reading =
      .ok file.content := by
  have whole : (Chunks.chunks copyBufferBytes file.content).flatten = file.content :=
    Chunks.chunks_flatten (by decide) file.content
  have read : readChunks file.content.length 0 (Chunks.chunks copyBufferBytes file.content) =
      .ok file.content := by
    rw [readChunks_of_le (by rw [whole, Nat.zero_add]), whole]
  simp [readStable, steadyAnswers, read, bind, Except.bind, pure, Except.pure]

/-- The identity of a file that does not change. -/
theorem hashStableFile_steady (setup : Setup) (file : SourceFile) (otherBytes : Nat)
    {allowEmpty : Bool} (sized : file.content.length ≠ 0 ∨ allowEmpty = true)
    (small : file.content.length ≤ maxSubjectObjectBytes) :
    hashStableFile setup (steadyAnswers file otherBytes) allowEmpty =
      .ok ⟨"sha256:".toList ++ setup.sha256 file.content, file.executable, file.content.length⟩ := by
  have read := readStable_steady file otherBytes
  unfold hashStableFile
  simp only [steadyAnswers, bind, Except.bind] at read ⊢
  rw [if_neg (by rintro ⟨none, refused⟩; rcases sized with some | allowed <;> simp_all),
    if_neg (Nat.not_lt.mpr small), read]
  rfl

/-- What the call of a file that does not change is answered. -/
theorem World.answers_of_ok {sourcePath : Text} {file : SourceFile}
    (known : world.files sourcePath = .ok file) :
    world.answers sourcePath = steadyAnswers file world.otherBytes := by
  unfold World.answers
  rw [known]

/-- A file that has metadata is there. -/
theorem World.file_of_metadata {sourcePath : Text} {metadata : Metadata}
    (known : (world.answers sourcePath).metadata = .ok metadata) :
    ∃ file, world.files sourcePath = .ok file ∧
      metadata = ⟨file.content.length, file.executable⟩ := by
  unfold World.answers at known
  cases found : world.files sourcePath with
  | error failure =>
      rw [found] at known
      cases known
  | ok file =>
      rw [found] at known
      cases known
      exact ⟨file, rfl, rfl⟩

/-- A target of a capture has its file and passes its checks. -/
theorem World.target_eq_some : world.target setup arguments = some target ↔
    ∃ relative file, validRelativePath setup arguments.relativePath = .ok relative ∧
      world.files arguments.sourcePath = .ok file ∧
      "/reproit/subject/".toList <+: target.path ∧ target.path.length ≤ maxSubjectPathBytes ∧
      (target.size ≠ 0 ∨ arguments.allowEmpty = true) ∧ target.size ≤ maxSubjectObjectBytes ∧
      target.path = subjectPath setup (world.call arguments) relative ∧
      target.digest = "sha256:".toList ++ setup.sha256 file.content ∧
      target.kind = requestedKind setup (world.call arguments) relative ∧
      target.size = file.content.length ∧
      target.executable = arguments.executable.getD (arguments.entry || file.executable) ∧
      target.module = arguments.module := by
  unfold World.target
  rcases validRelativePath setup arguments.relativePath with failure | relative
  · simp
  rcases world.files arguments.sourcePath with failure | file
  · simp
  rcases target with ⟨path, digest, kind, size, executable, module⟩
  simp only [Option.ite_none_right_eq_some, Option.some.injEq, Target.mk.injEq, Except.ok.injEq]
  constructor
  · rintro ⟨⟨inside, short, sized, small⟩, rfl, rfl, rfl, rfl, rfl, rfl⟩
    exact ⟨relative, file, rfl, rfl, inside, short, sized, small, rfl, rfl, rfl, rfl, rfl, rfl⟩
  · rintro ⟨_, _, rfl, rfl, inside, short, sized, small, rfl, rfl, rfl, rfl, rfl, rfl⟩
    exact ⟨⟨inside, short, sized, small⟩, rfl, rfl, rfl, rfl, rfl, rfl⟩

/-- A file that is hashed was read as a whole. -/
theorem hashStableFile_ok {answers : Answers} {allowEmpty : Bool} {identity : StableIdentity}
    (hashed : hashStableFile setup answers allowEmpty = .ok identity) :
    ∃ metadata content, answers.metadata = .ok metadata ∧
      (metadata.size ≠ 0 ∨ allowEmpty = true) ∧ metadata.size ≤ maxSubjectObjectBytes ∧
      readStable metadata answers.reading = .ok content ∧
      identity = identityOf setup metadata content := by
  unfold hashStableFile at hashed
  rcases known : answers.metadata with failure | metadata
  · rw [known] at hashed
    cases hashed
  rw [known] at hashed
  simp only [bind, Except.bind] at hashed
  by_cases empty : metadata.size = 0 ∧ (!allowEmpty) = true
  · rw [if_pos empty] at hashed
    cases hashed
  by_cases large : maxSubjectObjectBytes < metadata.size
  · rw [if_neg empty, if_pos large] at hashed
    cases hashed
  rw [if_neg empty, if_neg large] at hashed
  rcases read : readStable metadata answers.reading with failure | content
  · rw [read] at hashed
    cases failure <;> cases hashed
  · rw [read] at hashed
    cases hashed
    refine ⟨metadata, content, rfl, ?_, Nat.not_lt.mp large, read, rfl⟩
    rw [Bool.not_eq_true', not_and, Bool.not_eq_false] at empty
    by_cases none : metadata.size = 0
    · exact .inr (empty none)
    · exact .inl none

/-- A capture that returns has a target, and returns the file of its path or records it. -/
theorem capture_target
    (returned : capture setup (world.call arguments) builder = (.ok captured, next)) :
    ∃ target, world.target setup arguments = some target ∧ size builder.files < maxCapturedFiles ∧
      ((builder.files.lookup target.path = some captured ∧ next = builder ∧
          target.digest = captured.digest ∧ target.size = captured.size ∧
          target.kind = captured.kind) ∨
        (builder.files.lookup target.path = none ∧
          captureNew setup (world.call arguments) target.kind target.path builder =
            (.ok captured, next))) := by
  rcases capture_ok returned with
    ⟨relative, few, valid, inside, short, ⟨existing, found, again⟩ | ⟨fresh, new⟩⟩
  · rcases recapture_ok again with ⟨rfl, rfl, identity, hashed, digest, size, kind⟩
    rcases hashStableFile_ok hashed with ⟨metadata, content, known, sized, small, read, rfl⟩
    rcases World.file_of_metadata known with ⟨file, there, rfl⟩
    have whole : content = file.content := by
      have steady := readStable_steady file world.otherBytes
      change readStable _ (world.answers arguments.sourcePath).reading = _ at read
      rw [World.answers_of_ok there, steady] at read
      exact (Except.ok.inj read).symm
    rw [whole] at digest size
    exact ⟨⟨_, _, _, _, _, _⟩, (World.target_eq_some).mpr ⟨relative, file, valid, there, inside, short,
      sized, small, rfl, rfl, rfl, rfl, rfl, rfl⟩, few, .inl ⟨found, rfl, digest, size, kind⟩⟩
  · rcases captureNew_ok new with ⟨_, _, _, _, _, _, _, spooling, -⟩
    rcases spoolStableFile_ok spooling with ⟨metadata, content, known, sized, -, small, -⟩
    rcases World.file_of_metadata known with ⟨file, there, rfl⟩
    refine ⟨⟨_, _, _, _, _, _⟩, (World.target_eq_some).mpr ⟨relative, file, valid, there, inside, short,
      sized, small, rfl, rfl, rfl, rfl, rfl, rfl⟩, few, .inr ⟨fresh, new⟩⟩

/-- The path of a target is that of its call. -/
theorem capture_eq_of_target (known : world.target setup arguments = some target)
    (few : size builder.files < maxCapturedFiles) :
    capture setup (world.call arguments) builder =
      match builder.files.lookup target.path with
      | some existing => recapture setup (world.call arguments) target.kind existing builder
      | none => captureNew setup (world.call arguments) target.kind target.path builder := by
  rcases (World.target_eq_some).mp known with
    ⟨relative, file, valid, there, inside, short, -, -, path, -, kind, -⟩
  have valid' : validRelativePath setup (world.call arguments).relativePath = .ok relative := valid
  rw [path] at inside short
  unfold capture
  refine (bind_ok (check_ok ?_)).trans ?_
  · exact decide_eq_true few
  rw [valid', ofExcept_ok_bind]
  dsimp only
  refine (bind_ok (check_ok ?_)).trans ?_
  · exact decide_eq_true inside
  refine (bind_ok (check_ok ?_)).trans ?_
  · exact decide_eq_true short
  refine (bind_ok rfl).trans ?_
  rw [← path, ← kind]
  dsimp only
  cases builder.files.lookup target.path <;> rfl

/-- A capture of a recorded path returns its file when digest, size and kind are the same. -/
theorem recapture_iff (known : world.target setup arguments = some target)
    {existing : CapturedPythonFile} :
    recapture setup (world.call arguments) target.kind existing builder = (.ok existing, builder) ↔
      target.digest = existing.digest ∧ target.size = existing.size ∧
        target.kind = existing.kind := by
  rcases (World.target_eq_some).mp known with
    ⟨relative, file, -, there, -, -, sized, small, -, digest, -, size, -⟩
  have hashed : hashStableFile setup (world.call arguments).answers
      (world.call arguments).allowEmpty =
        .ok ⟨"sha256:".toList ++ setup.sha256 file.content, file.executable,
          file.content.length⟩ := by
    rw [size] at sized small
    change hashStableFile setup (world.answers arguments.sourcePath) arguments.allowEmpty = _
    rw [World.answers_of_ok there]
    exact hashStableFile_steady setup file world.otherBytes sized small
  unfold recapture
  rw [hashed, ofExcept_ok_bind, bind_eq_ok, digest, size]
  simp only [check_eq_ok, pure_eq_ok, decide_eq_true_eq, true_and]
  constructor
  · rintro ⟨_, _, ⟨same, -⟩, -⟩
    exact same
  · intro same
    exact ⟨(), builder, ⟨same, rfl⟩, rfl⟩

/-- A file that does not change is spooled when there is room for it. -/
theorem spoolStableFile_steady (setup : Setup) (file : SourceFile) {otherBytes : Nat} {allowEmpty : Bool}
    (sized : file.content.length ≠ 0 ∨ allowEmpty = true)
    (room : file.content.length ≤ maxSubjectTotalBytes - builder.totalBytes)
    (small : file.content.length ≤ maxSubjectObjectBytes)
    (free : builder.held + otherBytes + file.content.length ≤ maxProcessLogicalBytes) :
    ∃ spooled next, spoolStableFile setup (steadyAnswers file otherBytes) allowEmpty builder =
      (.ok spooled, next) := by
  have read := readStable_steady file otherBytes
  have content : ∃ spooled next, spoolContent setup (steadyAnswers file otherBytes)
      ⟨file.content.length, file.executable⟩
      { builder with held := builder.held + file.content.length } = (.ok spooled, next) := by
    rcases returned : spoolContent setup (steadyAnswers file otherBytes)
        ⟨file.content.length, file.executable⟩
        { builder with held := builder.held + file.content.length } with ⟨failure | spooled, next⟩
    · unfold spoolContent at returned
      rw [read, ofExcept_ok_bind] at returned
      simp only [bind_eq_error, gets_ne_error, gets_eq_ok, check_eq_error, check_eq_ok,
        false_or] at returned
      rcases returned with ⟨_, _, ⟨-, rfl⟩, ⟨stuck, -⟩ | ⟨_, _, ⟨-, rfl⟩, rest⟩⟩
      · cases stuck
      · split at rest <;> cases rest
    · exact ⟨spooled, next, rfl⟩
  rcases content with ⟨spooled, next, content⟩
  have passes : (decide (file.content.length ≠ 0) || allowEmpty) = true := by
    simpa using sized
  refine ⟨spooled, next, ?_⟩
  unfold spoolStableFile
  rw [show (steadyAnswers file otherBytes).metadata = .ok ⟨file.content.length, file.executable⟩
    from rfl, ofExcept_ok_bind]
  refine (bind_ok (check_ok ?_)).trans ?_
  · exact passes
  refine (bind_ok (check_ok ?_)).trans ?_
  · exact decide_eq_true ⟨room, small⟩
  have reserved : reserveLogical otherBytes file.content.length builder = (.ok (), _) :=
    reserveLogical_eq_ok.mpr ⟨free, rfl⟩
  refine (bind_ok reserved).trans ?_
  refine (bind_ok (check_ok rfl)).trans ?_
  exact bind_ok (attempt_eq_ok.mpr content)

/-- A merge returns when the object has one size. -/
theorem mergeObject_returns (kind : ObjectKind) (spoolPath : Text) {identity : StableIdentity}
    (sizes : ∀ existing, builder.objects.lookup identity.digest = some existing →
      existing.size = identity.size) :
    ∃ merged next, mergeObject kind identity spoolPath builder = (.ok merged, next) := by
  rcases returned : mergeObject kind identity spoolPath builder with ⟨failure | merged, next⟩
  · unfold mergeObject at returned
    rcases bind_eq_error.mp returned with broken | ⟨found, _, read, rest⟩
    · exact absurd broken gets_ne_error
    rcases gets_eq_ok.mp read with ⟨known, rfl⟩
    cases found with
    | none => cases rest
    | some existing =>
        simp only [bind_eq_error, check_eq_error, check_eq_ok, modify_ne_error, pure_ne_error,
          and_false, exists_false, or_false, decide_eq_false_iff_not] at rest
        exact absurd (sizes existing known.symm) rest.1
  · exact ⟨merged, next, rfl⟩

/-- A module is counted when there are few enough. -/
theorem countModule_returns {module : Bool}
    (within : module = true → builder.modules + 1 ≤ maxCapturedModules) :
    ∃ value next, countModule module builder = (.ok value, next) := by
  rcases returned : countModule module builder with ⟨failure | value, next⟩
  · unfold countModule at returned
    cases module with
    | false => cases returned
    | true =>
        simp only [if_true, bind_eq_error, modify_ne_error, modify_eq_ok, check_eq_error, false_or,
          decide_eq_false_iff_not] at returned
        rcases returned with ⟨_, _, rfl, many, -⟩
        exact absurd (within rfl) many
  · exact ⟨value, next, rfl⟩

/-- A capture of a new path returns when there is room for its file. -/
theorem captureNew_returns (known : world.target setup arguments = some target)
    (room : target.size ≤ maxSubjectTotalBytes - builder.totalBytes)
    (free : builder.held + world.otherBytes + target.size ≤ maxProcessLogicalBytes)
    (sizes : ∀ existing, builder.objects.lookup target.digest = some existing →
      existing.size = target.size)
    (within : target.module = true → builder.modules + 1 ≤ maxCapturedModules) :
    ∃ captured next, captureNew setup (world.call arguments) target.kind target.path builder =
      (.ok captured, next) := by
  rcases (World.target_eq_some).mp known with
    ⟨relative, file, -, there, -, -, sized, small, -, digest, -, size, -, module⟩
  rw [size] at sized small room free
  rcases spoolStableFile_steady setup file sized room small free with
    ⟨⟨identity, spoolPath, reserved⟩, spooled, spooling⟩
  have same : identity.digest = target.digest ∧ identity.size = target.size ∧
      spooled.objects = builder.objects ∧ spooled.modules = builder.modules := by
    rcases spoolStableFile_ok spooling with
      ⟨metadata, content, measured, -, -, -, -, read, rfl, -, outcome⟩
    cases measured
    have whole : content = file.content :=
      (Except.ok.inj ((readStable_steady file world.otherBytes).symm.trans read)).symm
    rw [whole, digest, size]
    rcases outcome with ⟨-, -, -, rfl⟩ | ⟨-, -, rfl⟩
    · exact ⟨rfl, rfl, rfl, rfl⟩
    · exact ⟨rfl, rfl, rfl, rfl⟩
  rcases same with ⟨digest', size', objects, modules⟩
  have sizes' : ∀ existing, AList.lookup identity.digest
      ({ spooled with reservedBytes := spooled.reservedBytes + reserved } : Builder).objects =
        some existing → existing.size = identity.size := by
    intro existing found
    rw [size']
    apply sizes
    rw [← digest', ← objects]
    exact found
  rcases mergeObject_returns target.kind spoolPath sizes' with
    ⟨⟨merged, place⟩, recorded, merging⟩
  have within' : (world.call arguments).module = true →
      recorded.modules + 1 ≤ maxCapturedModules := by
    rw [(merged_spool merging).2.2.2]
    exact fun counted => modules ▸ within (module.trans counted)
  rcases countModule_returns within' with ⟨_, counted, counting⟩
  have spooling' : spoolStableFile setup (world.call arguments).answers
      (world.call arguments).allowEmpty builder = (.ok (identity, spoolPath, reserved), spooled) := by
    change spoolStableFile setup (world.answers arguments.sourcePath) arguments.allowEmpty _ = _
    rw [World.answers_of_ok there]
    exact spooling
  refine ⟨_, _, (bind_ok spooling').trans ((bind_ok rfl).trans ((bind_ok merging).trans
    ((bind_ok counting).trans (bind_ok rfl))))⟩

end Single

/-! ## What captures record -/

/-- The place of an object in the spool. -/
def spoolPathOf (setup : Setup) (digest : Text) : Text :=
  setup.spoolPath ++ '/' :: digest.drop 7

/-- The place of what was read is that of its digest. -/
theorem destinationOf_eq (setup : Setup) (metadata : Metadata) (content : Bytes) :
    destinationOf setup content = spoolPathOf setup (identityOf setup metadata content).digest :=
  rfl

/-- The file that a target records. -/
def Target.file (setup : Setup) (target : Target) (kind : ObjectKind) : CapturedPythonFile where
  digest := target.digest
  executable := target.executable
  kind := kind
  module := target.module
  path := target.path
  size := target.size
  spoolPath := spoolPathOf setup target.digest

section Effects

variable {setup : Setup} {world : World} {arguments : CaptureArguments} {target : Target}
  {builder next : Builder} {captured : CapturedPythonFile}

/-- A file system without errors releases what is reserved. -/
theorem World.releases (known : world.target setup arguments = some target) :
    Releases setup (world.call arguments).answers builder := by
  rcases (World.target_eq_some).mp known with ⟨_, file, -, there, -⟩
  change Releases setup (world.answers arguments.sourcePath) builder
  rw [World.answers_of_ok there]
  exact releases_steady setup file world.otherBytes builder

/-- What a capture of a new path changes. -/
theorem captureNew_effect (kept : Kept builder)
    (places : ∀ digest object, builder.objects.lookup digest = some object →
      object.spoolPath = spoolPathOf setup digest)
    (known : world.target setup arguments = some target)
    (returned : captureNew setup (world.call arguments) target.kind target.path builder =
      (.ok captured, next)) :
    ∃ merged, captured = target.file setup merged ∧
      (∀ path, next.files.lookup path =
        if path = target.path then some captured
        else (builder.files.lookup path).map (raised target.digest merged)) ∧
      (∀ digest, next.objects.lookup digest =
        if digest = target.digest then some ⟨merged, target.size, spoolPathOf setup digest⟩
        else builder.objects.lookup digest) ∧
      ((∃ existing, builder.objects.lookup target.digest = some existing ∧
          existing.size = target.size ∧ merged = mergedObjectKind existing.kind target.kind ∧
          next.totalBytes = builder.totalBytes) ∨
        (builder.objects.lookup target.digest = none ∧ merged = target.kind ∧
          next.totalBytes = builder.totalBytes + target.size)) ∧
      target.size ≤ maxSubjectTotalBytes - builder.totalBytes ∧
      next.modules = builder.modules + target.module.toNat ∧
      (target.module = true → builder.modules + 1 ≤ maxCapturedModules) ∧
      next.held + world.otherBytes ≤ maxProcessLogicalBytes := by
  rcases (World.target_eq_some).mp known with
    ⟨relative, file, -, there, -, -, -, -, path, digest, kind, size, executable, module⟩
  rcases captureNew_ok returned with ⟨identity, spoolPath, reserved, spooled, merged, place, recorded,
    spooling, merging, within, rfl, rfl⟩
  rcases spoolStableFile_ok spooling with
    ⟨metadata, content, measured, -, room, -, free, read, rfl, rfl, outcome⟩
  change (world.answers arguments.sourcePath).metadata = _ at measured
  change readStable _ (world.answers arguments.sourcePath).reading = _ at read
  rw [World.answers_of_ok there] at measured read
  cases measured
  cases (readStable_steady file world.otherBytes).symm.trans read
  have digest' : (identityOf setup ⟨file.content.length, file.executable⟩ file.content).digest =
      target.digest := digest.symm
  have size' : (identityOf setup ⟨file.content.length, file.executable⟩ file.content).size =
      target.size := size.symm
  have same : spooled.files = builder.files ∧ spooled.objects = builder.objects ∧
      spooled.totalBytes = builder.totalBytes ∧ spooled.modules = builder.modules ∧
      spooled.held ≤ builder.held + target.size := by
    rw [size]
    rcases outcome with ⟨-, -, -, rfl⟩ | ⟨-, -, rfl⟩
    · exact ⟨rfl, rfl, rfl, rfl, Nat.le_add_right _ _⟩
    · exact ⟨rfl, rfl, rfl, rfl, Nat.le_refl _⟩
  rcases same with ⟨files, objects, totalBytes, modules, held⟩
  rcases merged_spool merging with ⟨-, held', -, modules'⟩
  have place' : place = spoolPathOf setup target.digest := by
    rcases mergeObject_ok merging with ⟨existing, found, -, -, rfl, -⟩ | ⟨-, -, rfl, -⟩
    · rw [digest'] at found
      exact places target.digest existing (objects ▸ found)
    · rw [destinationOf_eq setup ⟨file.content.length, file.executable⟩, digest']
  refine ⟨merged, ?_, ?_, ?_, ?_, ?_, ?_, ?_, ?_⟩
  · unfold capturedFile Target.file
    rw [digest', size', place', executable, module]
    rfl
  · intro other
    by_cases here : other = target.path
    · rw [if_pos here, here, AList.lookup_insert]
    · rw [if_neg here, AList.lookup_insert_ne here, kept.merged_files merging files objects, digest']
  · intro other
    rw [merged_lookup merging, digest', size', place', objects]
    by_cases here : other = target.digest
    · rw [if_pos here, if_pos here, here]
    · rw [if_neg here, if_neg here]
  · rcases mergeObject_ok merging with ⟨existing, found, same, rfl, -, rfl⟩ | ⟨absent, rfl, -, rfl⟩
    · rw [digest', objects] at found
      rw [size'] at same
      exact .inl ⟨existing, found, same, rfl, totalBytes⟩
    · rw [digest', objects] at absent
      exact .inr ⟨absent, rfl, by rw [← size', ← totalBytes]⟩
  · rw [size]
    exact room
  · rw [module, ← modules, ← modules']
    rfl
  · rw [module, ← modules, ← modules']
    exact within
  · rw [size] at held
    change recorded.held + world.otherBytes ≤ maxProcessLogicalBytes
    rw [held']
    change builder.held + (world.answers arguments.sourcePath).otherBytes + _ ≤ _ at free
    rw [World.answers_of_ok there] at free
    change builder.held + world.otherBytes + file.content.length ≤ maxProcessLogicalBytes at free
    change spooled.held + world.otherBytes ≤ maxProcessLogicalBytes
    omega

/-- A merge takes no lower kind than either. -/
theorem rank_le_mergedObjectKind (existing requested : ObjectKind) :
    existing.rank ≤ (mergedObjectKind existing requested).rank ∧
      requested.rank ≤ (mergedObjectKind existing requested).rank ∧
      (mergedObjectKind existing requested = existing ∨
        mergedObjectKind existing requested = requested) := by
  unfold mergedObjectKind
  split
  · refine ⟨?_, Nat.le_refl _, .inr rfl⟩
    omega
  · refine ⟨Nat.le_refl _, ?_, .inl rfl⟩
    omega

/-- Kinds of one rank are the same. -/
theorem ObjectKind.eq_of_rank {left right : ObjectKind} (same : left.rank = right.rank) :
    left = right := by
  cases left <;> cases right <;> first | rfl | cases same

/-- What the builder holds after the captures of some targets. -/
structure Reflects (setup : Setup) (world : World) (targets : List Target) (builder : Builder) :
    Prop where
  kept : Kept builder
  places : ∀ digest object, builder.objects.lookup digest = some object →
    object.spoolPath = spoolPathOf setup digest
  origins : ∀ path file, builder.files.lookup path = some file →
    ∃ target ∈ targets, target.path = path ∧ file = target.file setup file.kind
  recorded : ∀ target ∈ targets, ∃ file, builder.files.lookup target.path = some file ∧
    file.digest = target.digest ∧ file.size = target.size ∧ target.kind.rank ≤ file.kind.rank
  kinds : ∀ digest object, builder.objects.lookup digest = some object →
    ∃ target ∈ targets, target.digest = digest ∧ target.kind = object.kind
  modules : builder.modules = total (fun _ file => file.module.toNat) builder.files
  few : size builder.files ≤ maxCapturedFiles
  within : builder.modules ≤ maxCapturedModules
  room : builder.totalBytes ≤ maxSubjectTotalBytes
  free : targets ≠ [] → builder.held + world.otherBytes ≤ maxProcessLogicalBytes

/-- A builder that has captured nothing reflects that. -/
theorem reflects_new (setup : Setup) (world : World) : Reflects setup world [] .new where
  kept := kept_new
  places digest object found := by simp [Builder.new] at found
  origins path file found := by simp [Builder.new] at found
  recorded target among := by simp at among
  kinds digest object found := by simp [Builder.new] at found
  modules := rfl
  few := Nat.zero_le _
  within := Nat.zero_le _
  room := Nat.zero_le _
  free none := absurd rfl none

/-- The file that a path has after a raise is that of its target. -/
theorem raised_file (setup : Setup) (target : Target) (digest : Text) (kind kind' : ObjectKind) :
    raised digest kind (target.file setup kind') =
      target.file setup (raised digest kind (target.file setup kind')).kind := by
  unfold raised
  split <;> rfl

/-- A capture of a path that is recorded adds its target. -/
theorem Reflects.again {targets : List Target} (reflects : Reflects setup world targets builder)
    (found : builder.files.lookup target.path = some captured)
    (digest : target.digest = captured.digest) (size : target.size = captured.size)
    (kind : target.kind = captured.kind) : Reflects setup world (target :: targets) builder := by
  have some : targets ≠ [] := by
    rcases reflects.origins _ _ found with ⟨origin, among, -⟩
    exact List.ne_nil_of_mem among
  constructor
  · exact reflects.kept
  · exact reflects.places
  · intro path file there
    rcases reflects.origins path file there with ⟨origin, among, same⟩
    exact ⟨origin, List.mem_cons_of_mem _ among, same⟩
  · intro other among
    rcases List.mem_cons.mp among with rfl | before
    · exact ⟨captured, found, digest.symm, size.symm, by rw [kind]⟩
    · exact reflects.recorded other before
  · intro other object there
    rcases reflects.kinds other object there with ⟨origin, among, same⟩
    exact ⟨origin, List.mem_cons_of_mem _ among, same⟩
  · exact reflects.modules
  · exact reflects.few
  · exact reflects.within
  · exact reflects.room
  · exact fun _ => reflects.free some

/-- A capture of a new path adds its target. -/
theorem Reflects.captureNew {targets : List Target}
    (reflects : Reflects setup world targets builder)
    (known : world.target setup arguments = some target)
    (few : size builder.files < maxCapturedFiles)
    (fresh : builder.files.lookup target.path = none)
    (returned : PythonSubject.captureNew setup (world.call arguments) target.kind target.path
      builder = (.ok captured, next)) : Reflects setup world (target :: targets) next := by
  rcases captureNew_effect reflects.kept reflects.places known returned with
    ⟨merged, rfl, files, objects, outcome, room, modules, within, free⟩
  have merges : target.kind.rank ≤ merged.rank ∧
      (∀ existing, builder.objects.lookup target.digest = some existing →
        existing.kind.rank ≤ merged.rank) ∧
      (merged = target.kind ∨ ∃ origin ∈ targets, origin.digest = target.digest ∧
        origin.kind = merged) := by
    rcases outcome with ⟨existing, found, -, rfl, -⟩ | ⟨absent, rfl, -⟩
    · rcases rank_le_mergedObjectKind existing.kind target.kind with ⟨low, high, which⟩
      refine ⟨high, ?_, ?_⟩
      · intro other found'
        cases found.symm.trans found'
        exact low
      · rcases which with same | same
        · rw [same]
          exact .inr (reflects.kinds _ _ found)
        · exact .inl same
    · refine ⟨Nat.le_refl _, ?_, .inl rfl⟩
      intro other found
      cases absent.symm.trans found
  have weights : total (fun _ file => file.module.toNat) next.files =
      target.module.toNat + total (fun _ file => file.module.toNat) builder.files := by
    refine Eq.trans ?_ (total_insert_of_lookup_none
      (fun _ (file : CapturedPythonFile) => file.module.toNat) fresh (target.file setup merged))
    apply total_eq_of_lookup
    intro path
    rw [files path]
    by_cases here : path = target.path
    · rw [if_pos here, here, AList.lookup_insert]
    · rw [if_neg here, AList.lookup_insert_ne here, Option.map_map]
      congr 1
      funext file
      exact congrArg Bool.toNat (raised_path target.digest merged file).2.2.2.2.1
  have sizes : size next.files = size builder.files + 1 := by
    rw [← size_insert_of_lookup_none fresh (target.file setup merged), size_eq_total, size_eq_total]
    apply total_eq_of_lookup
    intro path
    rw [files path]
    by_cases here : path = target.path
    · rw [if_pos here, here, AList.lookup_insert]
    · rw [if_neg here, AList.lookup_insert_ne here, Option.map_map]
      rfl
  constructor
  · exact reflects.kept.captureNew (World.releases known) returned
  · intro digest object found
    rw [objects digest] at found
    by_cases here : digest = target.digest
    · rw [if_pos here] at found
      cases found
      rfl
    · rw [if_neg here] at found
      exact reflects.places digest object found
  · intro path file found
    rw [files path] at found
    by_cases here : path = target.path
    · rw [if_pos here] at found
      cases found
      exact ⟨target, List.mem_cons_self .., here.symm, rfl⟩
    · rw [if_neg here, Option.map_eq_some_iff] at found
      rcases found with ⟨before, found, rfl⟩
      rcases reflects.origins path before found with ⟨origin, among, place, same⟩
      refine ⟨origin, List.mem_cons_of_mem _ among, place, ?_⟩
      rw [same]
      exact raised_file setup origin target.digest merged before.kind
  · intro other among
    by_cases here : other.path = target.path
    · rcases List.mem_cons.mp among with rfl | before
      · exact ⟨_, by rw [files, if_pos rfl], rfl, rfl, merges.1⟩
      · rcases reflects.recorded other before with ⟨file, found, -⟩
        rw [here, fresh] at found
        cases found
    · rcases List.mem_cons.mp among with rfl | before
      · exact absurd rfl here
      · rcases reflects.recorded other before with ⟨file, found, digest, size, rank⟩
        refine ⟨raised target.digest merged file, by rw [files, if_neg here, found]; rfl, ?_, ?_, ?_⟩
        · exact (raised_path _ _ _).2.1.trans digest
        · exact (raised_path _ _ _).2.2.1.trans size
        · unfold raised
          by_cases shares : file.digest = target.digest
          · rw [if_pos shares]
            have held := reflects.kept.shared _ _ found
            rw [shares] at held
            exact Nat.le_trans rank (merges.2.1 _ held)
          · rw [if_neg shares]
            exact rank
  · intro digest object found
    rw [objects digest] at found
    by_cases here : digest = target.digest
    · rw [if_pos here] at found
      cases found
      rcases merges.2.2 with rfl | ⟨origin, among, same, kind⟩
      · exact ⟨target, List.mem_cons_self .., here.symm, rfl⟩
      · exact ⟨origin, List.mem_cons_of_mem _ among, same.trans here.symm, kind⟩
    · rw [if_neg here] at found
      rcases reflects.kinds digest object found with ⟨origin, among, same⟩
      exact ⟨origin, List.mem_cons_of_mem _ among, same⟩
  · rw [modules, weights, reflects.modules, Nat.add_comm]
  · rw [sizes]
    exact few
  · rw [modules]
    have before := reflects.within
    cases counted : target.module with
    | false => exact before
    | true => exact within counted
  · have before := reflects.room
    rcases outcome with ⟨_, -, -, -, same⟩ | ⟨-, -, same⟩
    · rw [same]
      exact before
    · rw [same]
      omega
  · exact fun _ => free

/-- A capture that returns adds its target. -/
theorem Reflects.capture {targets : List Target} (reflects : Reflects setup world targets builder)
    (returned : PythonSubject.capture setup (world.call arguments) builder = (.ok captured, next)) :
    ∃ target, world.target setup arguments = some target ∧
      Reflects setup world (target :: targets) next := by
  rcases capture_target returned with
    ⟨target, known, few, ⟨found, rfl, digest, size, kind⟩ | ⟨fresh, new⟩⟩
  · exact ⟨target, known, reflects.again found digest size kind⟩
  · exact ⟨target, known, reflects.captureNew known few fresh new⟩

end Effects

/-! ## Captures in order -/

/-- A capture is in order after some others: the file of its path, if there is one, has the kind
that was asked for, and was not captured with other flags, when there are fewer files than allowed;
and there is room for a file whose object is known. -/
def OrderlyCapture (setup : Setup) (world : World) (history : List CaptureArguments)
    (builder : Builder) (arguments : CaptureArguments) : Prop :=
  ∀ target, world.target setup arguments = some target →
    (∀ existing, builder.files.lookup target.path = some existing →
      size builder.files < maxCapturedFiles ∧
        ∀ earlier ∈ history, ∀ origin, world.target setup earlier = some origin →
          origin.path = target.path → existing.kind = origin.kind ∧
            (origin.digest = target.digest → origin.size = target.size →
              origin.kind = target.kind →
                origin.executable = target.executable ∧ origin.module = target.module)) ∧
      (builder.files.lookup target.path = none → ∀ object,
        builder.objects.lookup target.digest = some object → object.size = target.size →
          target.size ≤ maxSubjectTotalBytes - builder.totalBytes ∧
            builder.held + world.otherBytes + target.size ≤ maxProcessLogicalBytes)

/-- The captures are in order, up to the first that fails. -/
def OrderlyRun (setup : Setup) (world : World) :
    List CaptureArguments → Builder → List CaptureArguments → Prop
  | _, _, [] => True
  | history, builder, arguments :: rest =>
      OrderlyCapture setup world history builder arguments ∧
        ∀ captured next, capture setup (world.call arguments) builder = (.ok captured, next) →
          OrderlyRun setup world (arguments :: history) next rest

/-- The targets of some captures. -/
def Covers (setup : Setup) (world : World) (calls : List CaptureArguments)
    (targets : List Target) : Prop :=
  (∀ arguments ∈ calls, ∃ target ∈ targets, world.target setup arguments = some target) ∧
    ∀ target ∈ targets, ∃ arguments ∈ calls, world.target setup arguments = some target

/-- Targets of one path are the same. -/
def Agree (targets : List Target) : Prop :=
  ∀ target ∈ targets, ∀ other ∈ targets, target.path = other.path → target = other

section Orders

variable {setup : Setup} {world : World} {arguments : CaptureArguments} {target : Target}
  {builder next other : Builder} {captured : CapturedPythonFile}
  {history calls rest : List CaptureArguments} {targets others : List Target}

/-- One more capture has one more target. -/
theorem Covers.cons (covers : Covers setup world history targets)
    (known : world.target setup arguments = some target) :
    Covers setup world (arguments :: history) (target :: targets) := by
  constructor
  · intro call among
    rcases List.mem_cons.mp among with rfl | before
    · exact ⟨target, List.mem_cons_self .., known⟩
    · rcases covers.1 call before with ⟨found, inside, same⟩
      exact ⟨found, List.mem_cons_of_mem _ inside, same⟩
  · intro found among
    rcases List.mem_cons.mp among with rfl | before
    · exact ⟨arguments, List.mem_cons_self .., known⟩
    · rcases covers.2 found before with ⟨call, inside, same⟩
      exact ⟨call, List.mem_cons_of_mem _ inside, same⟩

/-- Captures in order have one target for each path. -/
theorem Agree.capture (agree : Agree targets) (reflects : Reflects setup world targets builder)
    (covers : Covers setup world history targets)
    (orderly : OrderlyCapture setup world history builder arguments)
    (known : world.target setup arguments = some target)
    (returned : capture setup (world.call arguments) builder = (.ok captured, next)) :
    Agree (target :: targets) := by
  have unique : ∀ origin ∈ targets, origin.path = target.path → origin = target := by
    intro origin among same
    rcases capture_target returned with
      ⟨found, known', -, ⟨there, -, digest, size, kind⟩ | ⟨fresh, -⟩⟩
    · cases known.symm.trans known'
      rcases covers.2 origin among with ⟨earlier, inside, origin'⟩
      rcases ((orderly target known).1 captured there).2 earlier inside origin origin' same with
        ⟨kind', flags⟩
      rcases reflects.recorded origin among with ⟨file, there', digest', size', -⟩
      rw [same] at there'
      cases there.symm.trans there'
      have digests := digest'.symm.trans digest.symm
      have sizes := size'.symm.trans size.symm
      have kinds := kind'.symm.trans kind.symm
      rcases flags digests sizes kinds with ⟨executable, module⟩
      cases origin
      cases target
      simp only [Target.mk.injEq]
      exact ⟨same, digests, kinds, sizes, executable, module⟩
    · cases known.symm.trans known'
      rcases reflects.recorded origin among with ⟨file, there, -⟩
      rw [same, fresh] at there
      cases there
  intro left leftAmong right rightAmong same
  rcases List.mem_cons.mp leftAmong with rfl | leftBefore
  · rcases List.mem_cons.mp rightAmong with rfl | rightBefore
    · rfl
    · exact (unique right rightBefore same.symm).symm
  · rcases List.mem_cons.mp rightAmong with rfl | rightBefore
    · exact unique left leftBefore same
    · exact agree left leftBefore right rightBefore same

/-- What captures in order leave when all of them return. -/
theorem Reflects.captureAll (reflects : Reflects setup world targets builder)
    (covers : Covers setup world history targets) {value : Unit}
    (returned : captureAll setup world rest builder = (.ok value, next)) :
    ∃ targets', Reflects setup world targets' next ∧
      (∀ call, call ∈ rest ∨ call ∈ history → ∃ target ∈ targets',
        world.target setup call = some target) ∧
      (∀ target ∈ targets', ∃ call, (call ∈ rest ∨ call ∈ history) ∧
        world.target setup call = some target) ∧
      (Agree targets → OrderlyRun setup world history builder rest → Agree targets') := by
  induction rest generalizing history targets builder with
  | nil =>
      cases pure_eq_ok.mp returned with
      | intro _ same =>
          rw [same]
          refine ⟨targets, reflects, ?_, ?_, fun agree _ => agree⟩
          · rintro call (none | among)
            · cases none
            · exact covers.1 call among
          · intro target among
            rcases covers.2 target among with ⟨call, inside, known⟩
            exact ⟨call, .inr inside, known⟩
  | cons arguments rest ih =>
      rcases bind_eq_ok.mp returned with ⟨captured, middle, first, later⟩
      rcases reflects.capture first with ⟨target, known, reflects'⟩
      rcases ih reflects' (covers.cons known) later with ⟨targets', final, has, from_, agree'⟩
      refine ⟨targets', final, ?_, ?_, ?_⟩
      · intro call among
        apply has
        simp only [List.mem_cons] at among ⊢
        tauto
      · intro found among
        rcases from_ found among with ⟨call, inside, known'⟩
        refine ⟨call, ?_, known'⟩
        simp only [List.mem_cons] at inside ⊢
        tauto
      · intro agree orderly
        exact agree' (agree.capture reflects covers orderly.1 known first)
          (orderly.2 captured middle first)

/-- The object of a target has its size. -/
theorem Reflects.object (reflects : Reflects setup world targets builder)
    (among : target ∈ targets) : ∃ object, builder.objects.lookup target.digest = some object ∧
      object.size = target.size ∧ target.kind.rank ≤ object.kind.rank := by
  rcases reflects.recorded target among with ⟨file, found, digest, size, rank⟩
  have held := reflects.kept.shared _ _ found
  rw [digest] at held
  exact ⟨_, held, size, rank⟩

/-- The size of an object is that of a target. -/
theorem Reflects.object_origin (reflects : Reflects setup world targets builder) {digest : Text}
    {object : SubjectObject} (found : builder.objects.lookup digest = some object) :
    ∃ target ∈ targets, target.digest = digest ∧ target.kind = object.kind ∧
      target.size = object.size := by
  rcases reflects.kinds digest object found with ⟨target, among, rfl, kind⟩
  rcases reflects.object among with ⟨object', found', size, -⟩
  cases found.symm.trans found'
  exact ⟨target, among, rfl, kind, size.symm⟩

/-- What is held is what the objects take. -/
theorem Kept.held_eq (kept : Kept builder) : builder.held = builder.totalBytes := by
  rw [kept.held, kept.counted]
  apply total_eq_of_lookup
  intro digest
  rw [kept.spooled, Option.map_map]
  rfl

/-- The next capture of another order returns when all captures of one order did. -/
theorem Reflects.capture_returns (reflects : Reflects setup world targets builder)
    (finished : Reflects setup world others other) (agree : Agree others)
    (within : targets ⊆ others) (among : target ∈ others)
    (covers : Covers setup world history targets)
    (known : world.target setup arguments = some target)
    (orderly : OrderlyCapture setup world history builder arguments) :
    ∃ captured next,
      PythonSubject.capture setup (world.call arguments) builder = (.ok captured, next) := by
  rcases finished.recorded target among with ⟨last, there, -⟩
  cases found : builder.files.lookup target.path with
  | some existing =>
      rcases (orderly target known).1 existing found with ⟨few, same⟩
      rcases reflects.origins _ _ found with ⟨origin, inside, path, made⟩
      cases agree origin (within inside) target among path
      rcases covers.2 target inside with ⟨earlier, before, origin⟩
      have kind := (same earlier before target origin rfl).1
      refine ⟨existing, builder, ?_⟩
      rw [capture_eq_of_target known few, found]
      apply (recapture_iff known).mpr
      rw [made]
      exact ⟨rfl, rfl, made ▸ kind.symm⟩
  | none =>
      have files : size builder.files + 1 ≤ size other.files := by
        rw [size_eq_total, size_eq_total]
        apply total_add_le_of_lookup (fun _ _ => 1) (fun _ _ => 1) found there
        intro path file here
        rcases reflects.origins path file here with ⟨origin, inside, rfl, -⟩
        rcases finished.recorded origin (within inside) with ⟨file', there', -⟩
        exact ⟨file', there', rfl⟩
      have few : size builder.files < maxCapturedFiles :=
        Nat.lt_of_lt_of_le files finished.few
      have sizes : ∀ existing, builder.objects.lookup target.digest = some existing →
          existing.size = target.size := by
        intro existing held
        rcases reflects.object_origin held with ⟨origin, inside, digest, -, size⟩
        rcases finished.object (within inside) with ⟨object, held', size', -⟩
        rcases finished.object among with ⟨object', held'', size'', -⟩
        rw [digest] at held'
        cases held'.symm.trans held''
        exact size.symm.trans (size'.symm.trans size'')
      have modules : target.module = true → builder.modules + 1 ≤ maxCapturedModules := by
        intro counted
        have weight : last.module.toNat = 1 := by
          rcases finished.origins _ _ there with ⟨origin, inside, path, made⟩
          cases agree origin inside target among path
          rw [made]
          exact congrArg Bool.toNat counted
        have added : total (fun _ file => file.module.toNat) builder.files + last.module.toNat ≤
            total (fun _ file => file.module.toNat) other.files := by
          apply total_add_le_of_lookup (fun _ (file : CapturedPythonFile) => file.module.toNat)
            (fun _ (file : CapturedPythonFile) => file.module.toNat) found there
          intro path file here
          rcases reflects.origins path file here with ⟨origin, inside, rfl, made⟩
          rcases finished.recorded origin (within inside) with ⟨file', there', -⟩
          rcases finished.origins _ _ there' with ⟨origin', inside', path, made'⟩
          cases agree origin' inside' origin (within inside) path
          refine ⟨file', there', ?_⟩
          rw [made, made']
          rfl
        rw [← reflects.modules, ← finished.modules, weight] at added
        exact Nat.le_trans added finished.within
      have space : target.size ≤ maxSubjectTotalBytes - builder.totalBytes ∧
          builder.held + world.otherBytes + target.size ≤ maxProcessLogicalBytes := by
        cases held : builder.objects.lookup target.digest with
        | some object => exact (orderly target known).2 found object held (sizes object held)
        | none =>
            rcases finished.object among with ⟨object, held', size, -⟩
            have added : builder.totalBytes + target.size ≤ other.totalBytes := by
              rw [reflects.kept.counted, finished.kept.counted, ← size]
              apply total_add_le_of_lookup (fun _ (object : SubjectObject) => object.size)
                (fun _ (object : SubjectObject) => object.size) held held'
              intro digest object here
              rcases reflects.object_origin here with ⟨origin, inside, rfl, -, size⟩
              rcases finished.object (within inside) with ⟨object', held'', size', -⟩
              exact ⟨object', held'', size'.trans size⟩
            have room := finished.room
            have free := finished.free (List.ne_nil_of_mem among)
            rw [finished.kept.held_eq] at free
            rw [reflects.kept.held_eq]
            omega
      rw [capture_eq_of_target known few, found]
      exact captureNew_returns known space.1 space.2 sizes modules

/-- Captures in another order return when those of one order did. -/
theorem Reflects.captureAll_returns (reflects : Reflects setup world targets builder)
    (finished : Reflects setup world others other) (agree : Agree others)
    (covers : Covers setup world history targets) (within : targets ⊆ others)
    (has : ∀ call ∈ rest, ∃ target ∈ others, world.target setup call = some target)
    (orderly : OrderlyRun setup world history builder rest) :
    ∃ next, PythonSubject.captureAll setup world rest builder = (.ok (), next) := by
  induction rest generalizing history targets builder with
  | nil => exact ⟨builder, rfl⟩
  | cons arguments rest ih =>
      rcases has arguments (List.mem_cons_self ..) with ⟨target, among, known⟩
      rcases reflects.capture_returns finished agree within among covers known orderly.1 with
        ⟨captured, middle, first⟩
      rcases reflects.capture first with ⟨target', known', reflects'⟩
      cases known.symm.trans known'
      rcases ih reflects' (covers.cons known) (List.cons_subset.mpr ⟨among, within⟩)
        (fun call inside => has call (List.mem_cons_of_mem _ inside))
        (orderly.2 captured middle first) with ⟨next, later⟩
      exact ⟨next, (bind_ok first).trans later⟩

/-- The kind of an object is no higher where there are no more targets. -/
theorem Reflects.rank_le (reflects : Reflects setup world targets builder)
    (finished : Reflects setup world others other) (within : targets ⊆ others) {digest : Text}
    {object object' : SubjectObject} (found : builder.objects.lookup digest = some object)
    (found' : other.objects.lookup digest = some object') : object.kind.rank ≤ object'.kind.rank := by
  rcases reflects.object_origin found with ⟨origin, inside, rfl, kind, -⟩
  rcases finished.object (within inside) with ⟨object'', held, -, rank⟩
  cases found'.symm.trans held
  rw [← kind]
  exact rank

/-- An object is held where there are more targets. -/
theorem Reflects.object_of_subset (reflects : Reflects setup world targets builder)
    (finished : Reflects setup world others other) (within : targets ⊆ others)
    (back : others ⊆ targets) {digest : Text} {object : SubjectObject}
    (found : builder.objects.lookup digest = some object) :
    other.objects.lookup digest = some object := by
  rcases reflects.object_origin found with ⟨origin, inside, rfl, -, size⟩
  rcases finished.object (within inside) with ⟨object', found', size', -⟩
  have low := reflects.rank_le finished within found found'
  have high := finished.rank_le reflects back found' found
  have place := reflects.places _ _ found
  have place' := finished.places _ _ found'
  rw [found']
  cases object
  cases object'
  simp only [Option.some.injEq, SubjectObject.mk.injEq] at *
  exact ⟨ObjectKind.eq_of_rank (Nat.le_antisymm high low), size'.trans size,
    place'.trans place.symm⟩

/-- Builders of the same targets hold the same objects. -/
theorem Reflects.objects_eq (reflects : Reflects setup world targets builder)
    (finished : Reflects setup world others other) (within : targets ⊆ others)
    (back : others ⊆ targets) (digest : Text) :
    builder.objects.lookup digest = other.objects.lookup digest := by
  cases found : builder.objects.lookup digest with
  | some object => exact (reflects.object_of_subset finished within back found).symm
  | none =>
      cases found' : other.objects.lookup digest with
      | none => rfl
      | some object =>
          have held := finished.object_of_subset reflects back within found'
          cases found.symm.trans held

/-- A file is recorded where there are more targets. -/
theorem Reflects.file_of_subset (reflects : Reflects setup world targets builder)
    (finished : Reflects setup world others other) (agree : Agree others)
    (within : targets ⊆ others) (back : others ⊆ targets) {path : Text}
    {file : CapturedPythonFile} (found : builder.files.lookup path = some file) :
    other.files.lookup path = some file := by
  rcases reflects.origins path file found with ⟨origin, inside, rfl, made⟩
  rcases finished.recorded origin (within inside) with ⟨file', found', -⟩
  rcases finished.origins _ _ found' with ⟨origin', inside', path, made'⟩
  cases agree origin' inside' origin (within inside) path
  have object := reflects.kept.shared _ _ found
  have object' := finished.kept.shared _ _ found'
  rw [reflects.objects_eq finished within back] at object
  rw [show file.digest = origin.digest from congrArg CapturedPythonFile.digest made] at object
  rw [show file'.digest = origin.digest from congrArg CapturedPythonFile.digest made'] at object'
  have kinds : file'.kind = file.kind := by
    have shared := Option.some.inj (object'.symm.trans object)
    simp only [SubjectObject.mk.injEq] at shared
    exact shared.1
  rw [found', made, made', kinds]

/-- Captures of the same arguments in another order end with the same files. -/
theorem captureAll_of_same (setup : Setup) (world : World) {calls calls' : List CaptureArguments}
    (same : ∀ arguments, arguments ∈ calls ↔ arguments ∈ calls')
    (orderly : OrderlyRun setup world [] .new calls)
    (orderly' : OrderlyRun setup world [] .new calls')
    (returned : captureAll setup world calls .new = (.ok (), builder)) :
    ∃ other, captureAll setup world calls' .new = (.ok (), other) ∧
      (∀ path, builder.files.lookup path = other.files.lookup path) ∧
      (∀ digest, builder.objects.lookup digest = other.objects.lookup digest) ∧
      builder.totalBytes = other.totalBytes ∧ builder.modules = other.modules := by
  have covers : Covers setup world [] [] := ⟨nofun, nofun⟩
  rcases (reflects_new setup world).captureAll covers returned with
    ⟨targets, reflects, has, from_, agrees⟩
  have agree : Agree targets := agrees nofun orderly
  rcases (reflects_new setup world).captureAll_returns reflects agree covers
    (List.nil_subset targets) (fun call among => has call (.inl ((same call).mpr among)))
    orderly' with ⟨other, returned'⟩
  rcases (reflects_new setup world).captureAll covers returned' with
    ⟨others, finished, has', from', agrees'⟩
  have within : targets ⊆ others := by
    intro target among
    rcases from_ target among with ⟨call, inside | none, known⟩
    · rcases has' call (.inl ((same call).mp inside)) with ⟨target', among', known'⟩
      cases known.symm.trans known'
      exact among'
    · cases none
  have back : others ⊆ targets := by
    intro target among
    rcases from' target among with ⟨call, inside | none, known⟩
    · rcases has call (.inl ((same call).mpr inside)) with ⟨target', among', known'⟩
      cases known.symm.trans known'
      exact among'
    · cases none
  have agree' : Agree others := agrees' nofun orderly'
  have files : ∀ path, builder.files.lookup path = other.files.lookup path := by
    intro path
    cases found : builder.files.lookup path with
    | some file => exact (reflects.file_of_subset finished agree' within back found).symm
    | none =>
        cases found' : other.files.lookup path with
        | none => rfl
        | some file =>
            have held := finished.file_of_subset reflects agree back within found'
            cases found.symm.trans held
  have objects := reflects.objects_eq finished within back
  refine ⟨other, returned', files, objects, ?_, ?_⟩
  · rw [reflects.kept.counted, finished.kept.counted]
    exact total_eq_of_lookup fun digest => by rw [objects digest]
  · rw [reflects.modules, finished.modules]
    exact total_eq_of_lookup fun path => by rw [files path]

/-- A capture that comes again returns the file of its path and changes nothing exactly when there
are fewer files than allowed and no other file has raised the kind since. -/
theorem capture_again_iff (setup : Setup) (world : World) {calls : List CaptureArguments}
    (returned : captureAll setup world calls .new = (.ok (), builder))
    (among : arguments ∈ calls) :
    ∃ target existing, world.target setup arguments = some target ∧
      builder.files.lookup target.path = some existing ∧
      (capture setup (world.call arguments) builder = (.ok existing, builder) ↔
        size builder.files < maxCapturedFiles ∧ target.kind = existing.kind) := by
  have covers : Covers setup world [] [] := ⟨nofun, nofun⟩
  rcases (reflects_new setup world).captureAll covers returned with ⟨targets, reflects, has, -, -⟩
  rcases has arguments (.inl among) with ⟨target, inside, known⟩
  rcases reflects.recorded target inside with ⟨existing, found, digest, size, -⟩
  refine ⟨target, existing, known, found, ?_⟩
  constructor
  · intro again
    rcases capture_target again with ⟨target', known', few, ⟨-, -, -, -, kind⟩ | ⟨fresh, -⟩⟩
    · cases known.symm.trans known'
      exact ⟨few, kind⟩
    · cases known.symm.trans known'
      cases fresh.symm.trans found
  · rintro ⟨few, kind⟩
    rw [capture_eq_of_target known few, found]
    exact (recapture_iff known).mpr ⟨digest.symm, size.symm, kind⟩

end Orders

/-- Every sequence of captures of files that do not change: a capture comes again without effect
exactly when there is room for a file and the kind was not raised, and sequences of the same
captures, both in order, both fail or both end with the same files, kinds and totals. -/
theorem captures_orderly (setup : Setup) (world : World) :
    (∀ calls builder, captureAll setup world calls .new = (.ok (), builder) →
      ∀ arguments ∈ calls, ∃ target existing, world.target setup arguments = some target ∧
        builder.files.lookup target.path = some existing ∧
        (capture setup (world.call arguments) builder = (.ok existing, builder) ↔
          size builder.files < maxCapturedFiles ∧ target.kind = existing.kind)) ∧
      ∀ calls calls', (∀ arguments, arguments ∈ calls ↔ arguments ∈ calls') →
        OrderlyRun setup world [] .new calls → OrderlyRun setup world [] .new calls' →
          ((∃ builder, captureAll setup world calls .new = (.ok (), builder)) ↔
            ∃ builder, captureAll setup world calls' .new = (.ok (), builder)) ∧
          ∀ builder other, captureAll setup world calls .new = (.ok (), builder) →
            captureAll setup world calls' .new = (.ok (), other) →
              (∀ path, builder.files.lookup path = other.files.lookup path) ∧
              (∀ digest, builder.objects.lookup digest = other.objects.lookup digest) ∧
              builder.totalBytes = other.totalBytes ∧ builder.modules = other.modules := by
  refine ⟨fun calls builder returned arguments among =>
    capture_again_iff setup world returned among, ?_⟩
  intro calls calls' same orderly orderly'
  refine ⟨⟨?_, ?_⟩, ?_⟩
  · rintro ⟨builder, returned⟩
    rcases captureAll_of_same setup world same orderly orderly' returned with ⟨other, returned', -⟩
    exact ⟨other, returned'⟩
  · rintro ⟨builder, returned⟩
    rcases captureAll_of_same setup world (fun call => (same call).symm) orderly' orderly returned
      with ⟨other, returned', -⟩
    exact ⟨other, returned'⟩
  · intro builder other returned returned'
    rcases captureAll_of_same setup world same orderly orderly' returned with
      ⟨found, returned'', files, objects, totals⟩
    cases returned'.symm.trans returned''
    exact ⟨files, objects, totals⟩

/-- Two empty files of an application. -/
def emptyFiles : World where
  files _ := .ok ⟨[], false⟩
  otherBytes := 0

/-- A capture of one of them. -/
def emptyFile (relative : String) : CaptureArguments where
  sourcePath := ("/application/" ++ relative).toList
  relativePath := relative.toList
  allowEmpty := true
  basePath := none
  entry := false
  executable := some false
  kind := none
  module := false

/-- An empty file that is captured again succeeds before an empty native file, and fails after
it. -/
theorem captures_disorderly :
    (captureAll sampleSetup emptyFiles [emptyFile "__init__.py", emptyFile "__init__.py",
      emptyFile "empty.so"] .new).1 = .ok () ∧
    (captureAll sampleSetup emptyFiles [emptyFile "__init__.py", emptyFile "empty.so",
      emptyFile "__init__.py"] .new).1 = .error subjectUnsupported := by
  decide +kernel

end PythonSubject
end ReproItSdk
