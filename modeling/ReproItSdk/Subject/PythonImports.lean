import ReproItSdk.Library.Worklist
import ReproItSdk.Subject.PythonDistributions

/-! # Dependencies of a Python application

The packager reads the import statements of the application, looks up which distributions provide
the imported names, and adds what those require as far as it is installed.  It reads the module of a
relative import like that of an absolute one.

Main definitions:

- Function {lit}`captureInstalledDistributions`: the closure that is captured, for so many turns of
  the loop over requirements.
- Structure {lit}`ClosesRight`: the closure is the least one over the absolute imports.

Main results:

- Theorem {lit}`packagesLeast_iff`: when the closure is the least one.
-/

namespace ReproItSdk
namespace PythonSubject

open Unicode Json

/-! ## Imports -/

/-- {lit}`_subject_root_required`. -/
def subjectRootRequired : Failure :=
  .managed ⟨"UNSUPPORTED", "The running Python subject requires one explicit application root."⟩

/-- What the walk over a syntax tree looks at: imports, imports of names with the level and the
module, and calls that import dynamically. -/
inductive ImportNode where
  | imports (names : List Text)
  | importsFrom (level : Nat) (module : Option Text)
  | dynamicImport
deriving DecidableEq, Repr

/-- A source, where it can be read and parsed. -/
abbrev Source : Type :=
  Option (List ImportNode)

/-- The part of a name before its first dot. -/
def rootName (moduleName : Text) : Text :=
  moduleName.takeWhile (· ≠ '.')

/-- The names that a node imports. -/
def ImportNode.imported : ImportNode → List Text
  | .imports names => names
  | .importsFrom _ (some module) => if module = [] then [] else [module]
  | .importsFrom _ none => []
  | .dynamicImport => []

/-- A node is a relative import. -/
def ImportNode.isRelative : ImportNode → Bool
  | .importsFrom level _ => level ≠ 0
  | _ => false

/-- The loop of {lit}`_source_import_roots`. -/
def nodeImportRoots (allowRelative : Bool) : List ImportNode → Except Failure (List Text)
  | [] => .ok []
  | node :: nodes =>
      if node.isRelative ∧ ¬ allowRelative then .error subjectRootRequired
      else if node = .dynamicImport then .error subjectRootRequired
      else do
        let importedNames ← nodeImportRoots allowRelative nodes
        return node.imported.map rootName ++ importedNames

/-- {lit}`_source_import_roots`. -/
def sourceImportRoots (source : Source) (allowRelative : Bool) : Except Failure (List Text) :=
  match source with
  | none => .error subjectUnreadable
  | some nodes => nodeImportRoots allowRelative nodes

/-- {lit}`_collect_import_roots`. -/
def collectImportRoots (allowRelative : Bool) : List Source → Except Failure (List Text)
  | [] => .ok []
  | source :: sources => do
      let roots ← sourceImportRoots source allowRelative
      let importedNames ← collectImportRoots allowRelative sources
      return roots ++ importedNames

/-! ## Requirements -/

/-- What is installed: the records and the distributions that provide each name. -/
structure Installation where
  interpreter : Interpreter
  installed : List Distribution
  packageDistributions : List (Text × List Text)

/-- An application: its sources, and the names that are local to its root. -/
structure Application where
  sources : List Source
  localImportExists : Text → Bool

/-- The name at the start of a requirement. -/
def requirementName? : Text → Option Text
  | [] => none
  | first :: rest =>
      if first.isAlphanum then
        some (first :: rest.takeWhile fun character =>
          character.isAlphanum ∨ character = '.' ∨ character = '_' ∨ character = '-')
      else none

/-- The names that the requirements of a distribution are about. -/
def requiredNames (interpreter : Interpreter) : List Text → Except Failure (List Text)
  | [] => .ok []
  | requirement :: requirements =>
      match requirementName? requirement with
      | none => .error subjectUnreadable
      | some name => do
          let names ← requiredNames interpreter requirements
          return normalizedDistributionName interpreter name :: names

/-- The installed names that a name requires. -/
def installedRequirements (interpreter : Interpreter) (byName : List (Text × Distribution))
    (dependencyName : Text) : Except Failure (List Text) :=
  match OrderedRecord.get dependencyName byName with
  | none => .ok []
  | some distribution => do
      let names ← requiredNames interpreter distribution.requires
      return names.filter fun name => (OrderedRecord.get name byName).isSome

/-- The names of the distributions that provide an imported name; none for a name of the standard
library or of the application. -/
def providers (installation : Installation) (localImportExists : Text → Bool)
    (importedName : Text) : Except Failure (List Text) :=
  if installation.interpreter.stdlibModuleNames importedName then .ok []
  else if localImportExists importedName then .ok []
  else
    match OrderedRecord.get importedName installation.packageDistributions with
    | none => .error subjectUnsupported
    | some [] => .error subjectUnsupported
    | some names => .ok (names.map (normalizedDistributionName installation.interpreter))

/-- The names of the distributions that provide some imported names. -/
def allProviders (installation : Installation) (localImportExists : Text → Bool) :
    List Text → Except Failure (List Text)
  | [] => .ok []
  | importedName :: importedNames => do
      let names ← providers installation localImportExists importedName
      let others ← allProviders installation localImportExists importedNames
      return names ++ others

/-- {lit}`_roots_by_distribution`, the names that each distribution provides. -/
def rootsByDistribution (installation : Installation) :
    Except Failure (List (Text × List Text)) :=
  if ∀ entry ∈ installation.packageDistributions,
      installation.interpreter.isIdentifier entry.1 then
    .ok (OrderedRecord.grouped (installation.packageDistributions.flatMap fun entry =>
      entry.2.map fun name =>
        (normalizedDistributionName installation.interpreter name, entry.1)))
  else .error subjectUnreadable

/-! ## Captured distributions -/

/-- What is decided before files are captured: the required names in their order, the records by
their names, and the names that each distribution provides. -/
structure Decision where
  required : List Text
  byName : List (Text × Distribution)
  roots : List (Text × List Text)

/-- The start of {lit}`_capture_installed_distributions`, up to the loop over requirements. -/
def decideStart (installation : Installation) (localImportExists : Text → Bool)
    (importedNames : List Text) : Except Failure Decision :=
  if maxDependencies < installation.installed.length then .error subjectUnbounded
  else do
    let byName ← selectInstalledDistributions installation.interpreter installation.installed
    let roots ← rootsByDistribution installation
    let required ← allProviders installation localImportExists importedNames
    return ⟨sortBy id required.dedup, byName, roots⟩

/-- The required names are sorted, and refused when one of them is not installed. -/
def requireInstalled (start : Decision) : Except Failure (List Text) → Except Failure Decision
  | .error failure => .error failure
  | .ok required =>
      if ∀ name ∈ required, (OrderedRecord.get name start.byName).isSome then
        .ok { start with required := sortBy id required }
      else .error subjectUnreadable

/-- The loop of {lit}`_capture_installed_distributions` over requirements, and what the loop behind
it refuses. -/
def decideRequired (turns : Nat) (installation : Installation) (start : Decision) :
    Option (Except Failure Decision) :=
  (Worklist.search (installedRequirements installation.interpreter start.byName) turns
    start.required start.required).map (requireInstalled start)

/-- The part of {lit}`_capture_installed_distributions` that decides what is captured; without a
result there are not enough turns. -/
def decideClosure (turns : Nat) (installation : Installation) (localImportExists : Text → Bool)
    (importedNames : List Text) : Option (Except Failure Decision) :=
  match decideStart installation localImportExists importedNames with
  | .error failure => some (.error failure)
  | .ok start => decideRequired turns installation start

section Capture

variable {σ : Type}
  (capture : Text → Distribution → List Text → σ → Except Failure σ)

/-- The loop that captures the files of the required distributions. -/
def captureRequired (decision : Decision) : List Text → σ → Except Failure σ
  | [], builder => .ok builder
  | name :: names, builder =>
      match OrderedRecord.get name decision.byName with
      | none => .error subjectUnreadable
      | some distribution => do
          let roots := ((OrderedRecord.get name decision.roots).getD []).dedup
          let builder ← capture name distribution (sortBy id roots) builder
          captureRequired decision names builder

/-- The entries of a closure: the name and the version of each distribution. -/
def entriesOf (interpreter : Interpreter) (decision : Decision) : List (Text × Text) :=
  sortBy (fun entry : Text × Text => toLex (interpreter.casefold entry.1, entry.2))
    (decision.required.filterMap fun name =>
      (OrderedRecord.get name decision.byName).map fun distribution =>
        (distribution.name, distribution.version))

/-- {lit}`_capture_installed_distributions`: the entries of the closure and the builder. -/
def captureInstalledDistributions (turns : Nat) (installation : Installation)
    (localImportExists : Text → Bool) (importedNames : List Text) (builder : σ) :
    Option (Except Failure (List (Text × Text) × σ)) :=
  (decideClosure turns installation localImportExists importedNames).map fun outcome => do
    let decision ← outcome
    let builder ← captureRequired capture decision decision.required builder
    return (entriesOf installation.interpreter decision, builder)

/-- The closure of an application with a root. -/
def captureApplication (turns : Nat) (installation : Installation) (application : Application)
    (builder : σ) : Option (Except Failure (List (Text × Text) × σ)) :=
  match collectImportRoots true application.sources with
  | .error failure => some (.error failure)
  | .ok importedNames =>
      captureInstalledDistributions capture turns installation application.localImportExists
        importedNames builder

end Capture

/-! ## Imported names -/

/-- A source can be read, and nothing in it imports dynamically. -/
def Parsed (source : Source) : Prop :=
  ∃ nodes, source = some nodes ∧ ImportNode.dynamicImport ∉ nodes

/-- The names that a source imports. -/
def importedBy (source : Source) : List Text :=
  (source.getD []).flatMap fun node => node.imported.map rootName

/-- The names that an application imports. -/
def Application.imports (application : Application) : List Text :=
  application.sources.flatMap importedBy

/-- An application without its relative imports. -/
def Application.absolute (application : Application) : Application :=
  { application with
    sources := application.sources.map (Option.map (List.filter fun node => ¬ node.isRelative)) }

/-- The names of the relative imports of an application. -/
def Application.relativeImports (application : Application) : List Text :=
  application.sources.flatMap fun source =>
    ((source.getD []).filter fun node => node.isRelative).flatMap fun node =>
      node.imported.map rootName

/-- The walk over a syntax tree. -/
theorem nodeImportRoots_true (nodes : List ImportNode) :
    (ImportNode.dynamicImport ∉ nodes →
      nodeImportRoots true nodes = .ok (nodes.flatMap fun node => node.imported.map rootName)) ∧
    (ImportNode.dynamicImport ∈ nodes →
      nodeImportRoots true nodes = .error subjectRootRequired) := by
  induction nodes with
  | nil => exact ⟨fun _ => rfl, fun among => by cases among⟩
  | cons node nodes ih =>
      rw [nodeImportRoots, if_neg (by simp), List.mem_cons]
      by_cases dynamic : node = .dynamicImport
      · rw [if_pos dynamic]
        exact ⟨fun none => absurd (.inl dynamic.symm) none, fun _ => rfl⟩
      · rw [if_neg dynamic, or_iff_right (Ne.symm dynamic)]
        constructor
        · intro none
          rw [ih.1 none]
          rfl
        · intro among
          rw [ih.2 among]
          rfl

/-- The names of the sources are collected exactly when each of them can be parsed. -/
theorem collectImportRoots_true (sources : List Source) :
    ((∀ source ∈ sources, Parsed source) →
      collectImportRoots true sources = .ok (sources.flatMap importedBy)) ∧
    ((∃ source ∈ sources, ¬ Parsed source) →
      ∃ failure, collectImportRoots true sources = .error failure) := by
  induction sources with
  | nil =>
      refine ⟨fun _ => rfl, ?_⟩
      rintro ⟨source, among, -⟩
      cases among
  | cons source sources ih =>
      rw [List.forall_mem_cons, List.exists_mem_cons_iff, collectImportRoots]
      have walked : (Parsed source → sourceImportRoots source true = .ok (importedBy source)) ∧
          (¬ Parsed source → ∃ failure, sourceImportRoots source true = .error failure) := by
        cases source with
        | none =>
            refine ⟨?_, fun _ => ⟨_, rfl⟩⟩
            rintro ⟨nodes, same, -⟩
            cases same
        | some nodes =>
            have walk := nodeImportRoots_true nodes
            constructor
            · rintro ⟨_, ⟨⟩, none⟩
              exact walk.1 none
            · intro unparsed
              refine ⟨_, walk.2 ?_⟩
              by_contra none
              exact unparsed ⟨nodes, rfl, none⟩
      constructor
      · rintro ⟨parsed, all⟩
        rw [walked.1 parsed, ih.1 all]
        rfl
      · intro some
        by_cases parsed : Parsed source
        · rcases some with unparsed | later
          · exact absurd parsed unparsed
          · rcases ih.2 later with ⟨failure, refused⟩
            rw [walked.1 parsed, refused]
            exact ⟨failure, rfl⟩
        · rcases walked.2 parsed with ⟨failure, refused⟩
          rw [refused]
          exact ⟨failure, rfl⟩

/-- The sources of an application can be parsed without its relative imports exactly when they can
be with them. -/
theorem parsed_absolute {application : Application} :
    (∀ source ∈ application.absolute.sources, Parsed source) ↔
      ∀ source ∈ application.sources, Parsed source := by
  have each (source : Source) :
      Parsed (source.map (List.filter fun node => ¬ node.isRelative)) ↔ Parsed source := by
    cases source with
    | none => rfl
    | some nodes =>
        simp only [Parsed, Option.map_some, Option.some.injEq, exists_eq_left', List.mem_filter]
        simp [ImportNode.isRelative]
  simp only [Application.absolute, List.forall_mem_map, each]

/-- The names that an application imports are those of its absolute and of its relative imports. -/
theorem mem_imports {application : Application} {name : Text} :
    name ∈ application.imports ↔
      name ∈ application.absolute.imports ∨ name ∈ application.relativeImports := by
  have each (source : Source) : name ∈ importedBy source ↔
      name ∈ importedBy (source.map (List.filter fun node => ¬ node.isRelative)) ∨
        name ∈ ((source.getD []).filter fun node => node.isRelative).flatMap fun node =>
          node.imported.map rootName := by
    cases source with
    | none => simp [importedBy]
    | some nodes =>
        simp only [importedBy, Option.map_some, Option.getD_some, List.mem_flatMap,
          List.mem_filter]
        constructor
        · rintro ⟨node, among, inside⟩
          by_cases relative : node.isRelative = true
          · exact .inr ⟨node, ⟨among, relative⟩, inside⟩
          · exact .inl ⟨node, ⟨among, by simpa using relative⟩, inside⟩
        · rintro (⟨node, ⟨among, -⟩, inside⟩ | ⟨node, ⟨among, -⟩, inside⟩)
          · exact ⟨node, among, inside⟩
          · exact ⟨node, among, inside⟩
  simp only [Application.imports, Application.absolute, Application.relativeImports,
    List.flatMap_map]
  rw [List.mem_flatMap, List.mem_flatMap, List.mem_flatMap, ← exists_or]
  refine exists_congr fun source => ?_
  rw [each, and_or_left]

/-! ## Providing distributions -/

section Provided

variable (installation : Installation) (localImportExists : Text → Bool)

/-- An imported name is neither in the standard library nor local to the application root. -/
def IsForeign (importedName : Text) : Prop :=
  installation.interpreter.stdlibModuleNames importedName = false ∧
    localImportExists importedName = false

/-- A distribution provides an imported name. -/
def Provides (importedName name : Text) : Prop :=
  ∃ names, OrderedRecord.get importedName installation.packageDistributions = some names ∧
    ∃ listed ∈ names, normalizedDistributionName installation.interpreter listed = name

/-- An imported name is not provided by any distribution. -/
def IsUnknown (importedName : Text) : Prop :=
  ∀ name, ¬ Provides installation importedName name

/-- A name is that of a distribution that provides one of some imported names. -/
def IsProvided (importedNames : List Text) (name : Text) : Prop :=
  ∃ importedName ∈ importedNames, IsForeign installation localImportExists importedName ∧
    Provides installation importedName name

variable {installation localImportExists}

/-- The distributions that provide an imported name. -/
theorem providers_cases (importedName : Text) :
    (¬ IsForeign installation localImportExists importedName ∧
      providers installation localImportExists importedName = .ok []) ∨
    (IsForeign installation localImportExists importedName ∧
      IsUnknown installation importedName ∧
      ∃ failure, providers installation localImportExists importedName = .error failure) ∨
    (IsForeign installation localImportExists importedName ∧
      ¬ IsUnknown installation importedName ∧
      ∃ names, providers installation localImportExists importedName = .ok names ∧
        ∀ name, name ∈ names ↔ Provides installation importedName name) := by
  unfold providers
  split
  · rename_i known
    refine .inl ⟨fun foreign => ?_, rfl⟩
    rw [foreign.1] at known
    cases known
  · rename_i unknown
    split
    · rename_i here
      refine .inl ⟨fun foreign => ?_, rfl⟩
      rw [foreign.2] at here
      cases here
    · rename_i absent
      have foreign : IsForeign installation localImportExists importedName :=
        ⟨by simpa using unknown, by simpa using absent⟩
      right
      split
      · rename_i none
        refine .inl ⟨foreign, ?_, _, rfl⟩
        rintro name ⟨names, found, -⟩
        rw [none] at found
        cases found
      · rename_i empty
        refine .inl ⟨foreign, ?_, _, rfl⟩
        rintro name ⟨names, found, listed, among, -⟩
        rw [empty] at found
        cases found
        cases among
      · rename_i names filled found
        have each (name : Text) : name ∈ names.map
            (normalizedDistributionName installation.interpreter) ↔
            Provides installation importedName name := by
          rw [List.mem_map]
          constructor
          · rintro ⟨listed, among, same⟩
            exact ⟨names, found, listed, among, same⟩
          · rintro ⟨others, found', inside⟩
            rw [found] at found'
            cases found'
            exact inside
        refine .inr ⟨foreign, ?_, _, rfl, each⟩
        intro unknown
        rcases List.exists_mem_of_ne_nil names filled with ⟨listed, among⟩
        exact unknown _ ((each _).mp (List.mem_map_of_mem among))

/-- The distributions that provide some imported names, unless a foreign name is unknown. -/
theorem allProviders_cases (importedNames : List Text) :
    ((∃ importedName ∈ importedNames, IsForeign installation localImportExists importedName ∧
        IsUnknown installation importedName) ∧
      ∃ failure, allProviders installation localImportExists importedNames = .error failure) ∨
    ((∀ importedName ∈ importedNames, IsForeign installation localImportExists importedName →
        ¬ IsUnknown installation importedName) ∧
      ∃ names, allProviders installation localImportExists importedNames = .ok names ∧
        ∀ name, name ∈ names ↔
          IsProvided installation localImportExists importedNames name) := by
  induction importedNames with
  | nil =>
      refine .inr ⟨fun importedName among => (nomatch among), [], rfl, fun name => ?_⟩
      simp [IsProvided]
  | cons first importedNames ih =>
      have split (name : Text) :
          IsProvided installation localImportExists (first :: importedNames) name ↔
            (IsForeign installation localImportExists first ∧
              Provides installation first name) ∨
            IsProvided installation localImportExists importedNames name := by
        simp only [IsProvided, List.exists_mem_cons_iff]
      rw [allProviders, List.exists_mem_cons_iff, List.forall_mem_cons]
      rcases @providers_cases installation localImportExists first with
        ⟨near, found⟩ | ⟨foreign, unknown, failure, found⟩ | ⟨foreign, known, names, found, each⟩
      · rw [found]
        rcases ih with ⟨some, failure, refused⟩ | ⟨all, names, whole, each⟩
        · rw [refused]
          exact .inl ⟨.inr some, failure, rfl⟩
        · rw [whole]
          refine .inr ⟨⟨fun foreign => absurd foreign near, all⟩, names, rfl, fun name => ?_⟩
          rw [split, each, or_iff_right fun both => near both.1]
      · rw [found]
        exact .inl ⟨.inl ⟨foreign, unknown⟩, failure, rfl⟩
      · rw [found]
        rcases ih with ⟨some, failure, refused⟩ | ⟨all, others, whole, each'⟩
        · rw [refused]
          exact .inl ⟨.inr some, failure, rfl⟩
        · rw [whole]
          refine .inr ⟨⟨fun _ => known, all⟩, names ++ others, rfl, fun name => ?_⟩
          rw [split, List.mem_append, each, each', and_iff_right foreign]

end Provided

/-! ## Required distributions -/

section Needed

variable (interpreter : Interpreter) (byName : List (Text × Distribution))

/-- An installed distribution has a requirement that is installed. -/
def Requires (name other : Text) : Prop :=
  (OrderedRecord.get other byName).isSome ∧
    ∃ distribution, OrderedRecord.get name byName = some distribution ∧
      ∃ requirement ∈ distribution.requires, ∃ required,
        requirementName? requirement = some required ∧
          normalizedDistributionName interpreter required = other

/-- An installed distribution has a requirement without a name. -/
def HasNameless (name : Text) : Prop :=
  ∃ distribution, OrderedRecord.get name byName = some distribution ∧
    ∃ requirement ∈ distribution.requires, requirementName? requirement = none

/-- A set of names contains the installed requirements of its members. -/
def RequirementClosed (names : Set Text) : Prop :=
  ∀ name ∈ names, ∀ other, Requires interpreter byName name other → other ∈ names

/-- The distributions that some imported names need. -/
inductive Needed (installation : Installation) (byName : List (Text × Distribution))
    (localImportExists : Text → Bool) (importedNames : List Text) : Text → Prop
  | provided {name : Text}
      (provided : IsProvided installation localImportExists importedNames name) :
      Needed installation byName localImportExists importedNames name
  | required {name other : Text}
      (needed : Needed installation byName localImportExists importedNames name)
      (requires : Requires installation.interpreter byName name other) :
      Needed installation byName localImportExists importedNames other

/-- The names that are needed are the least set with the providing distributions and their installed
requirements. -/
theorem isLeast_needed {installation : Installation} {byName : List (Text × Distribution)}
    {localImportExists : Text → Bool} {importedNames : List Text} :
    IsLeast {names : Set Text |
        (∀ name, IsProvided installation localImportExists importedNames name → name ∈ names) ∧
          RequirementClosed installation.interpreter byName names}
      {name | Needed installation byName localImportExists importedNames name} := by
  constructor
  · constructor
    · intro name provided
      exact .provided provided
    · intro name needed other requires
      exact .required needed requires
  · rintro names ⟨provided, closed⟩ name needed
    induction needed with
    | provided here => exact provided _ here
    | required _ requires ih => exact closed _ ih _ requires

variable {interpreter byName}

/-- The names of some requirements, unless one has no name. -/
theorem requiredNames_cases (requirements : List Text) :
    ((∃ requirement ∈ requirements, requirementName? requirement = none) ∧
      ∃ failure, requiredNames interpreter requirements = .error failure) ∨
    ((¬ ∃ requirement ∈ requirements, requirementName? requirement = none) ∧
      ∃ names, requiredNames interpreter requirements = .ok names ∧
        ∀ name, name ∈ names ↔ ∃ requirement ∈ requirements, ∃ required,
          requirementName? requirement = some required ∧
            normalizedDistributionName interpreter required = name) := by
  induction requirements with
  | nil => exact .inr ⟨by simp, [], rfl, by simp⟩
  | cons requirement requirements ih =>
      rw [requiredNames, List.exists_mem_cons_iff]
      cases found : requirementName? requirement with
      | none => exact .inl ⟨.inl rfl, _, rfl⟩
      | some required =>
          rcases ih with ⟨some, failure, refused⟩ | ⟨none, names, whole, each⟩
          · dsimp only
            rw [refused]
            exact .inl ⟨.inr some, failure, rfl⟩
          · dsimp only
            rw [whole]
            refine .inr ⟨?_, _, rfl, fun name => ?_⟩
            · rintro (nameless | later)
              · cases nameless
              · exact none later
            · rw [List.mem_cons, each, List.exists_mem_cons_iff, found]
              simp [eq_comm]

/-- The installed requirements of a name, unless one has no name. -/
theorem installedRequirements_cases (name : Text) :
    (HasNameless byName name ∧
      ∃ failure, installedRequirements interpreter byName name = .error failure) ∨
    (¬ HasNameless byName name ∧
      ∃ names, installedRequirements interpreter byName name = .ok names ∧
        ∀ other, other ∈ names ↔ Requires interpreter byName name other) := by
  unfold installedRequirements
  cases found : OrderedRecord.get name byName with
  | none =>
      right
      simp [HasNameless, Requires, found]
  | some distribution =>
      dsimp only
      rcases @requiredNames_cases interpreter distribution.requires with
        ⟨some, failure, refused⟩ | ⟨none, names, whole, each⟩
      · rw [refused]
        exact .inl ⟨⟨distribution, found, some⟩, failure, rfl⟩
      · rw [whole]
        refine .inr ⟨?_, _, rfl, fun other => ?_⟩
        · rintro ⟨_, found', some⟩
          rw [found] at found'
          cases found'
          exact none some
        · rw [List.mem_filter, each, and_comm]
          simp [Requires, found]

end Needed

/-! ## Decisions -/

section Decisions

variable (installation : Installation) (localImportExists : Text → Bool)
  (importedNames : List Text)

/-- Why no closure can be decided for some imported names: too much is installed, the listing is
refused, a listed name is no identifier, a foreign name is unknown, or a needed distribution is not
installed or has a requirement without a name. -/
def Undecidable : Prop :=
  maxDependencies < installation.installed.length ∨
    RefusedListing installation.interpreter installation.installed ∨
    (∃ entry ∈ installation.packageDistributions,
      installation.interpreter.isIdentifier entry.1 = false) ∨
    (∃ importedName ∈ importedNames, IsForeign installation localImportExists importedName ∧
      IsUnknown installation importedName) ∨
    ∃ byName, selectInstalledDistributions installation.interpreter installation.installed =
        .ok byName ∧
      ∃ name, Needed installation byName localImportExists importedNames name ∧
        (OrderedRecord.get name byName = none ∨ HasNameless byName name)

/-- A closure that is decided for some imported names. -/
structure Decided (decision : Decision) : Prop where
  bounded : installation.installed.length ≤ maxDependencies
  selected : selectInstalledDistributions installation.interpreter installation.installed =
    .ok decision.byName
  roots : rootsByDistribution installation = .ok decision.roots
  known : ∀ importedName ∈ importedNames,
    IsForeign installation localImportExists importedName → ¬ IsUnknown installation importedName
  needed : ∀ name, name ∈ decision.required ↔
    Needed installation decision.byName localImportExists importedNames name
  installed : ∀ name ∈ decision.required,
    (OrderedRecord.get name decision.byName).isSome
  named : ∀ name ∈ decision.required, ¬ HasNameless decision.byName name
  sorted : decision.required = sortBy id decision.required
  distinct : decision.required.Nodup

variable {installation localImportExists importedNames}

/-- No closure is decided where none can be. -/
theorem Decided.not_undecidable {decision : Decision}
    (decided : Decided installation localImportExists importedNames decision) :
    ¬ Undecidable installation localImportExists importedNames := by
  rintro (many | refused | ⟨entry, among, invalid⟩ | ⟨name, among, foreign, unknown⟩ |
    ⟨byName, selected, name, needed, bad⟩)
  · exact absurd many (Nat.not_lt.mpr decided.bounded)
  · rcases selectInstalled_error_iff.mpr refused with ⟨failure, failed⟩
    rw [decided.selected] at failed
    cases failed
  · have roots := decided.roots
    unfold rootsByDistribution at roots
    split at roots
    · rename_i all
      have valid := all entry among
      rw [invalid] at valid
      cases valid
    · cases roots
  · exact decided.known name among foreign unknown
  · rw [decided.selected, Except.ok.injEq] at selected
    subst selected
    have among := (decided.needed name).mpr needed
    rcases bad with none | nameless
    · have some := decided.installed name among
      rw [none] at some
      cases some
    · exact decided.named name among nameless

/-- Names that need the same have one decision. -/
theorem Decided.eq {others : List Text} {decision decision' : Decision}
    (decided : Decided installation localImportExists importedNames decision)
    (decided' : Decided installation localImportExists others decision')
    (same : ∀ name, Needed installation decision.byName localImportExists importedNames name ↔
      Needed installation decision.byName localImportExists others name) :
    decision = decision' := by
  have selected := decided.selected
  rw [decided'.selected, Except.ok.injEq] at selected
  have roots := decided.roots
  rw [decided'.roots, Except.ok.injEq] at roots
  have required : decision.required = decision'.required := by
    rw [decided.sorted, decided'.sorted]
    apply sortBy_eq_of_perm
    · rw [List.perm_ext_iff_of_nodup decided.distinct decided'.distinct]
      intro name
      rw [decided.needed, decided'.needed, same, selected]
    · exact fun _ _ _ _ equal => equal
  cases decision
  cases decision'
  simp_all

/-- Names that are reached are needed. -/
theorem needed_of_reached {byName : List (Text × Distribution)} {start : List Text}
    (provided : ∀ name, name ∈ start ↔
      IsProvided installation localImportExists importedNames name) {name : Text}
    (reached : Worklist.Reached (installedRequirements installation.interpreter byName) start
      name) : Needed installation byName localImportExists importedNames name := by
  induction reached with
  | start among => exact .provided ((provided _).mp among)
  | next reached found among ih =>
      rcases installedRequirements_cases _ with ⟨-, failure, refused⟩ | ⟨-, names, whole, each⟩
      · rw [refused] at found
        cases found
      · rw [whole, Except.ok.injEq] at found
        subst found
        exact .required ih ((each _).mp among)

/-- Names that are needed are reached, where every name that is reached has names in its
requirements. -/
theorem reached_of_needed {byName : List (Text × Distribution)} {start : List Text}
    (provided : ∀ name, name ∈ start ↔
      IsProvided installation localImportExists importedNames name)
    (named : ∀ name, Worklist.Reached (installedRequirements installation.interpreter byName)
      start name → ¬ HasNameless byName name) {name : Text}
    (needed : Needed installation byName localImportExists importedNames name) :
    Worklist.Reached (installedRequirements installation.interpreter byName) start name := by
  induction needed with
  | provided here => exact .start ((provided _).mpr here)
  | required _ requires ih =>
      rcases installedRequirements_cases _ with ⟨nameless, -⟩ | ⟨-, names, whole, each⟩
      · exact absurd nameless (named _ ih)
      · exact .next ih whole ((each _).mpr requires)

end Decisions

/-! ## Termination -/

section Termination

variable {installation : Installation} {localImportExists : Text → Bool}
  {importedNames : List Text}

/-- What the loops over requirements decide is settled after some turns. -/
theorem decideRequired_settles {byName : List (Text × Distribution)}
    {roots : List (Text × List Text)} {provided : List Text}
    (bounded : installation.installed.length ≤ maxDependencies)
    (selected : selectInstalledDistributions installation.interpreter installation.installed =
      .ok byName)
    (rooted : rootsByDistribution installation = .ok roots)
    (known : ∀ importedName ∈ importedNames,
      IsForeign installation localImportExists importedName →
        ¬ IsUnknown installation importedName)
    (each : ∀ name, name ∈ provided ↔
      IsProvided installation localImportExists importedNames name) :
    ∃ outcome enough, (∀ turns, enough ≤ turns →
        decideRequired turns installation ⟨sortBy id provided.dedup, byName, roots⟩ =
          some outcome) ∧
      (∀ failure, outcome = .error failure →
        Undecidable installation localImportExists importedNames) ∧
      ∀ decision, outcome = .ok decision →
        Decided installation localImportExists importedNames decision := by
  have started (name : Text) : name ∈ sortBy id provided.dedup ↔
      IsProvided installation localImportExists importedNames name := by
    rw [mem_sortBy, List.mem_dedup, each]
  have distinct : (sortBy id provided.dedup).Nodup :=
    (sortBy_perm id _).nodup_iff.mpr (List.nodup_dedup provided)
  have inside : ∀ name following,
      installedRequirements installation.interpreter byName name = .ok following →
        ∀ other ∈ following, other ∈ (byName.map Prod.fst).toFinset := by
    intro name following found other among
    rcases installedRequirements_cases name with ⟨-, failure, refused⟩ | ⟨-, names, whole, leads⟩
    · rw [refused] at found
      cases found
    · rw [whole, Except.ok.injEq] at found
      subst found
      have here := ((leads other).mp among).1
      by_contra absent
      rw [List.mem_toFinset] at absent
      rw [OrderedRecord.get_eq_none absent] at here
      cases here
  have searched : ∃ enough outcome, Worklist.search
      (installedRequirements installation.interpreter byName) enough
      (sortBy id provided.dedup) (sortBy id provided.dedup) = some outcome :=
    ⟨_, Option.isSome_iff_exists.mp (Worklist.search_isSome inside (Nat.lt_succ_self _))⟩
  rcases searched with ⟨enough, outcome, found⟩
  rcases Worklist.search_outcome (Worklist.progress_start distinct) found with ⟨ok, error⟩
  refine ⟨requireInstalled ⟨sortBy id provided.dedup, byName, roots⟩ outcome, enough,
    fun turns more => ?_, ?_⟩
  · rw [decideRequired, Worklist.search_of_le more found]
    rfl
  · cases outcome with
    | error failure =>
        refine ⟨fun _ _ => ?_, fun decision same => by cases same⟩
        rcases error failure rfl with ⟨name, reached, refused⟩
        rcases installedRequirements_cases name with ⟨nameless, -⟩ | ⟨-, names, whole, -⟩
        · exact .inr (.inr (.inr (.inr ⟨byName, selected, name,
            needed_of_reached started reached, .inr nameless⟩)))
        · rw [refused] at whole
          cases whole
    | ok names =>
        rcases ok names rfl with ⟨distinct', mem, follow⟩
        have named : ∀ name, Worklist.Reached
            (installedRequirements installation.interpreter byName)
            (sortBy id provided.dedup) name → ¬ HasNameless byName name := by
          intro name reached nameless
          rcases follow name ((mem name).mpr reached) with ⟨following, leads⟩
          rcases installedRequirements_cases name with ⟨-, failure, refused⟩ | ⟨none, -⟩
          · rw [refused] at leads
            cases leads
          · exact none nameless
        rw [requireInstalled]
        by_cases all : ∀ name ∈ names, (OrderedRecord.get name byName).isSome
        · rw [if_pos all]
          refine ⟨fun failure same => (nomatch same), ?_⟩
          rintro _ ⟨⟩
          refine ⟨bounded, selected, rooted, known, ?_, ?_, ?_, ?_, ?_⟩
          · intro name
            rw [mem_sortBy, mem]
            exact ⟨needed_of_reached started, reached_of_needed started named⟩
          · intro name among
            exact all name (mem_sortBy.mp among)
          · intro name among
            exact named name ((mem name).mp (mem_sortBy.mp among))
          · exact sortBy_eq_of_perm (sortBy_perm id names).symm fun _ _ _ _ same => same
          · exact (sortBy_perm id _).nodup_iff.mpr distinct'
        · rw [if_neg all]
          refine ⟨fun _ _ => ?_, fun decision same => by cases same⟩
          rw [not_forall] at all
          rcases all with ⟨name, missing⟩
          rw [Classical.not_imp, Bool.not_eq_true, Option.isSome_eq_false_iff,
            Option.isNone_iff_eq_none] at missing
          exact .inr (.inr (.inr (.inr ⟨byName, selected, name,
            needed_of_reached started ((mem name).mp missing.1), .inl missing.2⟩)))

/-- What is decided is settled after some turns: a failure where no closure can be decided, or a
closure. -/
theorem decideClosure_settles (installation : Installation) (localImportExists : Text → Bool)
    (importedNames : List Text) :
    ∃ outcome enough, (∀ turns, enough ≤ turns →
        decideClosure turns installation localImportExists importedNames = some outcome) ∧
      (∀ failure, outcome = .error failure →
        Undecidable installation localImportExists importedNames) ∧
      ∀ decision, outcome = .ok decision →
        Decided installation localImportExists importedNames decision := by
  have fails {failure : Failure}
      (refused : decideStart installation localImportExists importedNames = .error failure)
      (cannot : Undecidable installation localImportExists importedNames) :
      ∃ outcome enough, (∀ turns, enough ≤ turns →
          decideClosure turns installation localImportExists importedNames = some outcome) ∧
        (∀ failure, outcome = .error failure →
          Undecidable installation localImportExists importedNames) ∧
        ∀ decision, outcome = .ok decision →
          Decided installation localImportExists importedNames decision := by
    refine ⟨.error failure, 0, fun turns _ => ?_, fun _ _ => cannot, fun _ same => by cases same⟩
    rw [decideClosure, refused]
  by_cases many : maxDependencies < installation.installed.length
  · exact fails (by rw [decideStart, if_pos many]) (.inl many)
  cases selected : selectInstalledDistributions installation.interpreter
      installation.installed with
  | error failure =>
      apply fails
      · rw [decideStart, if_neg many, selected]
        rfl
      · exact .inr (.inl (selectInstalled_error_iff.mp ⟨failure, selected⟩))
  | ok byName =>
      cases rooted : rootsByDistribution installation with
      | error failure =>
          apply fails
          · rw [decideStart, if_neg many, selected, rooted]
            rfl
          · unfold rootsByDistribution at rooted
            split at rooted
            · cases rooted
            · rename_i some
              rw [not_forall] at some
              rcases some with ⟨entry, invalid⟩
              rw [Classical.not_imp, Bool.not_eq_true] at invalid
              exact .inr (.inr (.inl ⟨entry, invalid⟩))
      | ok roots =>
          rcases @allProviders_cases installation localImportExists importedNames with
            ⟨some, failure, refused⟩ | ⟨known, provided, whole, each⟩
          · apply fails
            · rw [decideStart, if_neg many, selected, rooted, refused]
              rfl
            · exact .inr (.inr (.inr (.inl some)))
          · have started : decideStart installation localImportExists importedNames =
                .ok ⟨sortBy id provided.dedup, byName, roots⟩ := by
              rw [decideStart, if_neg many, selected, rooted, whole]
              rfl
            simp only [decideClosure, started]
            exact decideRequired_settles (Nat.not_lt.mp many) selected rooted known each

end Termination

/-! ## Closures of an application -/

/-- What the packager returns for an application once there are enough turns. -/
def Settles {σ : Type} (capture : Text → Distribution → List Text → σ → Except Failure σ)
    (installation : Installation) (application : Application) (builder : σ)
    (outcome : Except Failure (List (Text × Text) × σ)) : Prop :=
  ∃ enough, ∀ turns, enough ≤ turns →
    captureApplication capture turns installation application builder = some outcome

/-- The closure of an application is the least one over its absolute imports: the packager
terminates for every way to capture files, what it captures is the least set with the distributions
that the absolute imports name and their installed requirements, and it does not fail for a relative
import. -/
structure ClosesRight (installation : Installation) (application : Application) : Prop where
  terminates : ∀ (σ : Type) (capture : Text → Distribution → List Text → σ → Except Failure σ)
    (builder : σ), ∃ outcome, Settles capture installation application builder outcome
  least : ∀ (σ : Type) (capture : Text → Distribution → List Text → σ → Except Failure σ)
    (builder : σ) (entries : List (Text × Text)) (captured : σ),
    Settles capture installation application builder (.ok (entries, captured)) →
      ∃ decision : Decision,
        selectInstalledDistributions installation.interpreter installation.installed =
          .ok decision.byName ∧
        IsLeast {names : Set Text |
            (∀ name, IsProvided installation application.localImportExists
              application.absolute.imports name → name ∈ names) ∧
            RequirementClosed installation.interpreter decision.byName names}
          {name | name ∈ decision.required} ∧
        decision.required.Nodup ∧
        captureRequired capture decision decision.required builder = .ok captured ∧
        entries = entriesOf installation.interpreter decision
  relative : ∀ (σ : Type) (capture : Text → Distribution → List Text → σ → Except Failure σ)
    (builder : σ) (failure : Failure),
    Settles capture installation application builder (.error failure) →
      ∃ failure', Settles capture installation application.absolute builder (.error failure')

/-- Nothing has to be captured for an imported name that nothing else is captured for: it is in the
standard library, local to the application root, or provided by distributions that the absolute
imports need, and by at least one. -/
def Harmless (installation : Installation) (application : Application) (importedName : Text) :
    Prop :=
  IsForeign installation application.localImportExists importedName →
    ¬ IsUnknown installation importedName ∧
      ∀ byName, selectInstalledDistributions installation.interpreter installation.installed =
          .ok byName →
        ∀ name, Provides installation importedName name →
          Needed installation byName application.localImportExists application.absolute.imports
            name

/-- An application that cannot be packaged even without its relative imports. -/
def Unpackageable (installation : Installation) (application : Application) : Prop :=
  (∃ source ∈ application.sources, ¬ Parsed source) ∨
    Undecidable installation application.localImportExists application.absolute.imports

/-- Outcomes that are settled are the same. -/
theorem Settles.eq {σ : Type} {capture : Text → Distribution → List Text → σ → Except Failure σ}
    {installation : Installation} {application : Application} {builder : σ}
    {outcome outcome' : Except Failure (List (Text × Text) × σ)}
    (settles : Settles capture installation application builder outcome)
    (settles' : Settles capture installation application builder outcome') :
    outcome = outcome' := by
  rcases settles with ⟨enough, settled⟩
  rcases settles' with ⟨enough', settled'⟩
  have here := settled (max enough enough') (le_max_left _ _)
  rw [settled' _ (le_max_right _ _)] at here
  exact (Option.some.inj here).symm

/-- What is captured for a decision. -/
def captureDecided {σ : Type} (capture : Text → Distribution → List Text → σ → Except Failure σ)
    (interpreter : Interpreter) (builder : σ) (decision : Decision) :
    Except Failure (List (Text × Text) × σ) :=
  (captureRequired capture decision decision.required builder).map fun captured =>
    (entriesOf interpreter decision, captured)

/-- What the packager returns for an application: a failure where its sources cannot be parsed or no
closure can be decided, or what is captured for the closure that is decided. -/
theorem settles_cases (installation : Installation) (application : Application) :
    (((∃ source ∈ application.sources, ¬ Parsed source) ∨
        Undecidable installation application.localImportExists application.imports) ∧
      ∀ (σ : Type) (capture : Text → Distribution → List Text → σ → Except Failure σ)
        (builder : σ), ∃ failure,
          Settles capture installation application builder (.error failure)) ∨
    ((∀ source ∈ application.sources, Parsed source) ∧ ∃ decision,
      Decided installation application.localImportExists application.imports decision ∧
      ∀ (σ : Type) (capture : Text → Distribution → List Text → σ → Except Failure σ)
        (builder : σ), Settles capture installation application builder
          (captureDecided capture installation.interpreter builder decision)) := by
  have collected := collectImportRoots_true application.sources
  by_cases parsed : ∀ source ∈ application.sources, Parsed source
  · rcases decideClosure_settles installation application.localImportExists
      application.imports with ⟨outcome, enough, settled, error, ok⟩
    have run {σ : Type} (capture : Text → Distribution → List Text → σ → Except Failure σ)
        (builder : σ) {turns : Nat} (more : enough ≤ turns) :
        captureApplication capture turns installation application builder =
          some (outcome.bind (captureDecided capture installation.interpreter builder)) := by
      have decided := settled turns more
      rw [Application.imports] at decided
      rw [captureApplication, collected.1 parsed]
      dsimp only
      rw [captureInstalledDistributions, decided]
      cases outcome with
      | error failure => rfl
      | ok decision =>
          simp only [Option.map_some, Except.bind, captureDecided, bind]
          cases captureRequired capture decision decision.required builder with
          | error failure => rfl
          | ok captured => rfl
    cases outcome with
    | error failure =>
        refine .inl ⟨.inr (error failure rfl), fun σ capture builder => ?_⟩
        exact ⟨failure, enough, fun turns more => run capture builder more⟩
    | ok decision =>
        refine .inr ⟨parsed, decision, ok decision rfl, fun σ capture builder => ?_⟩
        exact ⟨enough, fun turns more => run capture builder more⟩
  · rw [not_forall] at parsed
    rcases parsed with ⟨source, unparsed⟩
    rw [Classical.not_imp] at unparsed
    rcases collected.2 ⟨source, unparsed⟩ with ⟨failure, refused⟩
    refine .inl ⟨.inl ⟨source, unparsed⟩, fun σ capture builder => ?_⟩
    refine ⟨failure, 0, fun turns _ => ?_⟩
    rw [captureApplication, refused]

/-! ## Right closures -/

section Closes

variable {installation : Installation} {application : Application}

/-- What the absolute imports need is needed. -/
theorem Needed.of_absolute {byName : List (Text × Distribution)} {name : Text}
    (needed : Needed installation byName application.localImportExists
      application.absolute.imports name) :
    Needed installation byName application.localImportExists application.imports name := by
  induction needed with
  | provided here =>
      rcases here with ⟨importedName, among, provides⟩
      exact .provided ⟨importedName, mem_imports.mpr (.inl among), provides⟩
  | required _ requires ih => exact .required ih requires

/-- With harmless relative imports nothing else is needed. -/
theorem Needed.to_absolute {byName : List (Text × Distribution)}
    (selected : selectInstalledDistributions installation.interpreter installation.installed =
      .ok byName)
    (harmless : ∀ importedName ∈ application.relativeImports,
      Harmless installation application importedName) {name : Text}
    (needed : Needed installation byName application.localImportExists application.imports
      name) :
    Needed installation byName application.localImportExists application.absolute.imports
      name := by
  induction needed with
  | provided here =>
      rcases here with ⟨importedName, among, foreign, provides⟩
      rcases mem_imports.mp among with direct | relative
      · exact .provided ⟨importedName, direct, foreign, provides⟩
      · exact (harmless importedName relative foreign).2 byName selected _ provides
  | required _ requires ih => exact .required ih requires

/-- Where no closure can be decided for the absolute imports, none can be for all. -/
theorem Undecidable.of_absolute
    (cannot : Undecidable installation application.localImportExists
      application.absolute.imports) :
    Undecidable installation application.localImportExists application.imports := by
  rcases cannot with many | refused | invalid | ⟨importedName, among, unknown⟩ |
    ⟨byName, selected, name, needed, bad⟩
  · exact .inl many
  · exact .inr (.inl refused)
  · exact .inr (.inr (.inl invalid))
  · exact .inr (.inr (.inr (.inl ⟨importedName, mem_imports.mpr (.inl among), unknown⟩)))
  · exact .inr (.inr (.inr (.inr ⟨byName, selected, name, needed.of_absolute, bad⟩)))

/-- With harmless relative imports, a closure that cannot be decided for all imports cannot be for
the absolute ones. -/
theorem Undecidable.to_absolute
    (harmless : ∀ importedName ∈ application.relativeImports,
      Harmless installation application importedName)
    (cannot : Undecidable installation application.localImportExists application.imports) :
    Undecidable installation application.localImportExists application.absolute.imports := by
  rcases cannot with many | refused | invalid | ⟨importedName, among, foreign, unknown⟩ |
    ⟨byName, selected, name, needed, bad⟩
  · exact .inl many
  · exact .inr (.inl refused)
  · exact .inr (.inr (.inl invalid))
  · rcases mem_imports.mp among with direct | relative
    · exact .inr (.inr (.inr (.inl ⟨importedName, direct, foreign, unknown⟩)))
    · exact absurd unknown (harmless importedName relative foreign).1
  · exact .inr (.inr (.inr (.inr
      ⟨byName, selected, name, needed.to_absolute selected harmless, bad⟩)))

/-- A capture that only notes the names it is called with. -/
def noteName (name : Text) (_ : Distribution) (_ : List Text) (noted : List Text) :
    Except Failure (List Text) :=
  .ok (noted ++ [name])

/-- The names that are noted are those that are captured. -/
theorem captureRequired_noteName {decision : Decision} {names noted captured : List Text}
    (done : captureRequired noteName decision names noted = .ok captured) :
    captured = noted ++ names := by
  induction names generalizing noted with
  | nil =>
      cases done
      rw [List.append_nil]
  | cons name names ih =>
      unfold captureRequired at done
      split at done
      · cases done
      · have rest := ih done
        rw [rest, List.append_assoc]
        rfl

/-- Installed names are all noted. -/
theorem captureRequired_noteName_of_installed {decision : Decision} {names : List Text}
    (installed : ∀ name ∈ names, (OrderedRecord.get name decision.byName).isSome)
    (noted : List Text) :
    captureRequired noteName decision names noted = .ok (noted ++ names) := by
  induction names generalizing noted with
  | nil => rw [captureRequired, List.append_nil]
  | cons name names ih =>
      have here := installed name (.head _)
      rcases Option.isSome_iff_exists.mp here with ⟨distribution, found⟩
      rw [captureRequired, found]
      have rest := ih (fun other later => installed other (.tail _ later)) (noted ++ [name])
      rw [List.append_assoc] at rest
      exact rest

/-- Without a closure that can be decided, the closure of an application is right: it fails with and
without its relative imports. -/
theorem closesRight_of_unpackageable (cannot : Unpackageable installation application) :
    ClosesRight installation application := by
  have fails : ∀ (σ : Type) (capture : Text → Distribution → List Text → σ → Except Failure σ)
      (builder : σ), ∃ failure,
        Settles capture installation application builder (.error failure) := by
    rcases settles_cases installation application with ⟨-, fails⟩ | ⟨parsed, decision, decided, -⟩
    · exact fails
    · rcases cannot with ⟨source, among, unparsed⟩ | undecidable
      · exact absurd (parsed source among) unparsed
      · exact absurd undecidable.of_absolute decided.not_undecidable
  have fails' : ∀ (σ : Type) (capture : Text → Distribution → List Text → σ → Except Failure σ)
      (builder : σ), ∃ failure,
        Settles capture installation application.absolute builder (.error failure) := by
    rcases settles_cases installation application.absolute with
      ⟨-, fails⟩ | ⟨parsed, decision, decided, -⟩
    · exact fails
    · rcases cannot with ⟨source, among, unparsed⟩ | undecidable
      · exact absurd (parsed_absolute.mp parsed source among) unparsed
      · exact absurd undecidable decided.not_undecidable
  constructor
  · intro σ capture builder
    rcases fails σ capture builder with ⟨failure, settles⟩
    exact ⟨_, settles⟩
  · intro σ capture builder entries captured settles
    rcases fails σ capture builder with ⟨failure, settles'⟩
    cases settles.eq settles'
  · intro σ capture builder _ _
    exact fails' σ capture builder

/-- With harmless relative imports the closure of an application is right. -/
theorem closesRight_of_harmless
    (harmless : ∀ importedName ∈ application.relativeImports,
      Harmless installation application importedName) :
    ClosesRight installation application := by
  rcases settles_cases installation application with
    ⟨cannot, fails⟩ | ⟨parsed, decision, decided, settled⟩
  · apply closesRight_of_unpackageable
    rcases cannot with ⟨source, among, unparsed⟩ | undecidable
    · exact .inl ⟨source, among, unparsed⟩
    · exact .inr (undecidable.to_absolute harmless)
  · have same (name : Text) : Needed installation decision.byName application.localImportExists
        application.imports name ↔ Needed installation decision.byName
          application.localImportExists application.absolute.imports name :=
      ⟨fun needed => needed.to_absolute decided.selected harmless, Needed.of_absolute⟩
    constructor
    · intro σ capture builder
      exact ⟨_, settled σ capture builder⟩
    · intro σ capture builder entries captured settles
      have done := (settled σ capture builder).eq settles
      rw [captureDecided] at done
      cases files : captureRequired capture decision decision.required builder with
      | error failure =>
          rw [files] at done
          cases done
      | ok result =>
          rw [files] at done
          cases done
          have required : {name | name ∈ decision.required} =
              {name | Needed installation decision.byName application.localImportExists
                application.absolute.imports name} :=
            Set.ext fun name => (decided.needed name).trans (same name)
          refine ⟨decision, decided.selected, ?_, decided.distinct, files, rfl⟩
          rw [required]
          exact isLeast_needed
    · intro σ capture builder failure settles
      rcases settles_cases installation application.absolute with
        ⟨-, fails⟩ | ⟨-, decision', decided', settled'⟩
      · exact fails σ capture builder
      · have equal : decision = decision' := decided.eq decided' same
        subst equal
        have done := (settled σ capture builder).eq settles
        have here := settled' σ capture builder
        rw [done] at here
        exact ⟨failure, here⟩

/-- The closure of an application is right exactly when it cannot be packaged without its relative
imports or all of them are harmless. -/
theorem closesRight_iff :
    ClosesRight installation application ↔
      Unpackageable installation application ∨
        ∀ importedName ∈ application.relativeImports,
          Harmless installation application importedName := by
  constructor
  · intro right
    rcases settles_cases installation application.absolute with
      ⟨cannot, -⟩ | ⟨parsed, direct, decided, settled⟩
    · left
      rcases cannot with ⟨source, among, unparsed⟩ | undecidable
      · left
        by_contra all
        simp only [not_exists, not_and, not_not] at all
        exact unparsed (parsed_absolute.mpr all source among)
      · exact .inr undecidable
    · right
      have noted := captureRequired_noteName_of_installed decided.installed []
      have succeeds := settled (List Text) noteName []
      rw [captureDecided, noted] at succeeds
      intro importedName relative foreign
      rcases settles_cases installation application with
        ⟨-, fails⟩ | ⟨-, decision, decided', settled'⟩
      · rcases fails (List Text) noteName [] with ⟨failure, settles⟩
        rcases right.relative (List Text) noteName [] failure settles with ⟨failure', settles'⟩
        cases settles'.eq succeeds
      · have noted' := captureRequired_noteName_of_installed decided'.installed []
        have settles := settled' (List Text) noteName []
        rw [captureDecided, noted'] at settles
        rcases right.least (List Text) noteName [] _ _ settles with
          ⟨decision', selected, least, -, files, -⟩
        have required : decision.required = decision'.required := captureRequired_noteName files
        have byName := decided'.selected
        rw [selected, Except.ok.injEq] at byName
        have whole := least.unique isLeast_needed
        have among := mem_imports.mpr (.inr relative)
        refine ⟨decided'.known importedName among foreign,
          fun byName' selected' name provides => ?_⟩
        rw [selected, Except.ok.injEq] at selected'
        subst selected'
        have needed : Needed installation decision.byName application.localImportExists
            application.imports name :=
          .provided ⟨importedName, among, foreign, provides⟩
        have here : name ∈ {name | name ∈ decision'.required} := by
          rw [Set.mem_setOf_eq, ← required]
          exact (decided'.needed name).mpr needed
        rw [whole] at here
        exact here
  · rintro (cannot | harmless)
    · exact closesRight_of_unpackageable cannot
    · exact closesRight_of_harmless harmless

end Closes

/-! ## The packager -/

/-- The packager captures the least closure: the record of a name is the lowest one whatever the
order of the listing, and the closure is the least one over the absolute imports. -/
structure PackagesLeast (installation : Installation) (application : Application) : Prop where
  selection : SelectsRight installation.interpreter installation.installed
  closure : ClosesRight installation application

/-- The packager captures the least closure exactly when the listing is refused or its records are
told apart, and the application cannot be packaged without its relative imports or all of them are
harmless. -/
theorem packagesLeast_iff (installation : Installation) (application : Application) :
    PackagesLeast installation application ↔
      (RefusedListing installation.interpreter installation.installed ∨
        ToldApart installation.interpreter installation.installed) ∧
      (Unpackageable installation application ∨
        ∀ importedName ∈ application.relativeImports,
          Harmless installation application importedName) := by
  rw [← selectsRight_iff, ← closesRight_iff]
  constructor
  · rintro ⟨selection, closure⟩
    exact ⟨selection, closure⟩
  · rintro ⟨selection, closure⟩
    exact ⟨selection, closure⟩

/-- An interpreter without a standard library. -/
def bareInterpreter : Interpreter where
  casefold := id
  lower := id
  isIdentifier _ := true
  stdlibModuleNames _ := false
  searchPaths := []

/-- An application of a package whose module imports a name of the module beside it. -/
def relativeApplication : Application where
  sources := [some [.importsFrom 1 (some ['v', 'a', 'l', 'u', 'e'])]]
  localImportExists _ := false

/-- An application with a relative import is refused, and captured without the import. -/
theorem relative_import_refused :
    ¬ PackagesLeast ⟨bareInterpreter, [], []⟩ relativeApplication := by
  rintro ⟨-, closure⟩
  have refused : Settles noteName ⟨bareInterpreter, [], []⟩ relativeApplication []
      (.error subjectUnsupported) :=
    ⟨0, fun turns _ => rfl⟩
  rcases closure.relative (List Text) noteName [] _ refused with ⟨failure, enough, settled⟩
  have failed := settled (enough + 1) (Nat.le_succ _)
  have captured : captureApplication noteName (enough + 1) ⟨bareInterpreter, [], []⟩
      relativeApplication.absolute [] = some (.ok ([], [])) := rfl
  rw [captured] at failed
  cases failed

end PythonSubject
end ReproItSdk
