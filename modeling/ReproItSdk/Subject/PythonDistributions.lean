import Mathlib.Data.Prod.Lex
import ReproItSdk.Library.OrderedRecord
import ReproItSdk.Library.Json
import ReproItSdk.Subject.PythonClosure

/-! # Installed distributions of a Python subject

Several records of the file system may be about one distribution.  For each name the packager
selects the record whose directory comes first on the import path, and refuses the listing when it
cannot tell which one is active.  Two records with one root, one name but for its case, one version
and one list of files count as the same, and the later one is kept.

Main definitions:

- Function {lit}`selectInstalledDistributions`: the record of each name.
- Structure {lit}`SelectsRight`: the selected records are those of lowest rank, whatever the order
  of the listing.

Main results:

- Theorem {lit}`selectCandidate_ok`: the record that is selected for a name.
- Theorem {lit}`selectsRight_iff`: when the selected records are right.
-/

namespace ReproItSdk
namespace PythonSubject

open Unicode Json

/-! ## Names -/

/-- What the packager takes from the interpreter that it runs on. -/
structure Interpreter where
  casefold : Text → Text
  lower : Text → Text
  isIdentifier : Text → Bool
  stdlibModuleNames : Text → Bool
  searchPaths : List Text

/-- A name with one hyphen for every run of hyphens, underscores and dots. -/
def hyphenated : Bool → Text → Text
  | _, [] => []
  | inside, character :: rest =>
      if character = '-' ∨ character = '_' ∨ character = '.' then
        if inside then hyphenated true rest else '-' :: hyphenated true rest
      else character :: hyphenated false rest

/-- {lit}`_normalized_distribution_name`. -/
def normalizedDistributionName (interpreter : Interpreter) (name : Text) : Text :=
  interpreter.lower (hyphenated false name)

/-! ## Records -/

/-- {lit}`MAX_DEPENDENCIES`. -/
def maxDependencies : Nat :=
  4096

/-- {lit}`importlib.metadata.Distribution`: a name and a version that are empty where the metadata
has none, and files where they are listed. -/
structure Distribution where
  root : Text
  name : Text
  version : Text
  files : Option (List Text)
  requires : List Text
deriving DecidableEq, Repr

namespace Distribution

variable (interpreter : Interpreter) (distribution : Distribution)

/-- A record is complete. -/
def Complete : Prop :=
  distribution.name ≠ [] ∧ distribution.version ≠ [] ∧ distribution.files ≠ none

instance : Decidable distribution.Complete :=
  inferInstanceAs (Decidable (_ ∧ _ ∧ _))

/-- The name that a record is selected for. -/
def key : Text :=
  normalizedDistributionName interpreter distribution.name

/-- The place of the directory of a record on the import path, behind it when it is not there. -/
def rank : Nat :=
  interpreter.searchPaths.idxOf distribution.root

/-- The root, name, version and files that tell records apart. -/
def fingerprint : Text × Text × Text × List Text :=
  (distribution.root, interpreter.casefold distribution.name, distribution.version,
    sortBy id (distribution.files.getD []))

/-- The order of the records of a name. -/
def order : Nat ×ₗ Text ×ₗ Text ×ₗ Text ×ₗ Text ×ₗ List Text :=
  toLex (distribution.rank interpreter, toLex (distribution.root,
    toLex ((distribution.fingerprint interpreter).1,
      toLex ((distribution.fingerprint interpreter).2.1,
        toLex ((distribution.fingerprint interpreter).2.2.1,
          (distribution.fingerprint interpreter).2.2.2)))))

end Distribution

/-! ## Selection -/

section Selection

variable (interpreter : Interpreter)

/-- The records of a name with different fingerprints, in their order. -/
def uniqueCandidates (candidates : List Distribution) : List Distribution :=
  sortBy (Distribution.order interpreter)
    ((candidates.foldl (fun unique candidate =>
      OrderedRecord.set (candidate.fingerprint interpreter) candidate unique) []).map Prod.snd)

/-- The record that is selected among those of a name. -/
def selectCandidate (candidates : List Distribution) : Except Failure Distribution :=
  match uniqueCandidates interpreter candidates with
  | [] => .error subjectUnsupported
  | first :: rest =>
      let active := (first :: rest).filter fun candidate =>
        candidate.rank interpreter = first.rank interpreter ∧ candidate.root = first.root
      if active.length ≠ 1 ∨
          (rest ≠ [] ∧ first.rank interpreter = interpreter.searchPaths.length) then
        .error subjectUnsupported
      else .ok first

/-- The records that are selected for some names. -/
def selectGroups : List (Text × List Distribution) → Except Failure (List (Text × Distribution))
  | [] => .ok []
  | (key, candidates) :: grouped => do
      let first ← selectCandidate interpreter candidates
      let selected ← selectGroups grouped
      return (key, first) :: selected

/-- {lit}`_select_installed_distributions`. -/
def selectInstalledDistributions (installed : List Distribution) :
    Except Failure (List (Text × Distribution)) :=
  if ∀ distribution ∈ installed, distribution.Complete then
    selectGroups interpreter
      (OrderedRecord.grouped (installed.map fun distribution =>
        (distribution.key interpreter, distribution)))
  else .error subjectUnreadable

end Selection

/-! ## Records of a name -/

variable {interpreter : Interpreter}

/-- Some records stand for others, one for each fingerprint. -/
structure StandsFor (interpreter : Interpreter) (candidates records : List Distribution) :
    Prop where
  held : ∀ record ∈ records, record ∈ candidates
  all : ∀ candidate ∈ candidates, ∃ record ∈ records,
    record.fingerprint interpreter = candidate.fingerprint interpreter
  apart : (records.map (Distribution.fingerprint interpreter)).Nodup

/-- The entries that are collected for some records. -/
theorem mem_unique {candidates : List Distribution}
    {unique : List ((Text × Text × Text × List Text) × Distribution)}
    (own : ∀ entry ∈ unique, entry.1 = entry.2.fingerprint interpreter)
    (distinct : (unique.map Prod.fst).Nodup) :
    ((candidates.foldl (fun unique candidate =>
        OrderedRecord.set (candidate.fingerprint interpreter) candidate unique) unique).map
          Prod.fst).Nodup ∧
      (∀ entry ∈ candidates.foldl (fun unique candidate =>
        OrderedRecord.set (candidate.fingerprint interpreter) candidate unique) unique,
        entry.1 = entry.2.fingerprint interpreter ∧
          (entry ∈ unique ∨ entry.2 ∈ candidates)) ∧
      ∀ fingerprint, fingerprint ∈ unique.map Prod.fst ∨
          fingerprint ∈ candidates.map (Distribution.fingerprint interpreter) →
        fingerprint ∈ (candidates.foldl (fun unique candidate =>
          OrderedRecord.set (candidate.fingerprint interpreter) candidate unique) unique).map
            Prod.fst := by
  induction candidates generalizing unique with
  | nil =>
      refine ⟨distinct, fun entry among => ⟨own entry among, .inl among⟩, ?_⟩
      rintro fingerprint (among | among)
      · exact among
      · cases among
  | cons candidate candidates ih =>
      have own' : ∀ entry ∈ OrderedRecord.set (candidate.fingerprint interpreter) candidate unique,
          entry.1 = entry.2.fingerprint interpreter ∧
            (entry ∈ unique ∨ entry.2 = candidate) := by
        intro entry among
        rcases OrderedRecord.mem_set among with held | rfl
        · exact ⟨own entry held, .inl held⟩
        · exact ⟨rfl, .inr rfl⟩
      have next := ih (fun entry among => (own' entry among).1)
        (OrderedRecord.nodup_set _ _ distinct)
      rw [List.foldl_cons]
      refine ⟨next.1, fun entry among => ?_, fun fingerprint among => next.2.2 fingerprint ?_⟩
      · rcases next.2.1 entry among with ⟨same, held | later⟩
        · refine ⟨same, ?_⟩
          rcases (own' entry held).2 with before | rfl
          · exact .inl before
          · exact .inr (.head _)
        · exact ⟨same, .inr (.tail _ later)⟩
      · rw [OrderedRecord.keys_set]
        rcases among with before | later
        · left
          split
          · exact before
          · exact List.mem_append_left _ before
        · rcases List.mem_cons.mp later with rfl | later
          · left
            split
            · assumption
            · exact List.mem_append_right _ (List.mem_singleton_self _)
          · exact .inr later

/-- The records that are compared stand for those of the name. -/
theorem standsFor_uniqueCandidates (candidates : List Distribution) :
    StandsFor interpreter candidates (uniqueCandidates interpreter candidates) := by
  rcases @mem_unique interpreter candidates [] (fun entry among => by cases among)
    List.nodup_nil with ⟨distinct, own, all⟩
  unfold uniqueCandidates
  constructor
  · intro record among
    rcases List.mem_map.mp (mem_sortBy.mp among) with ⟨entry, inside, rfl⟩
    exact (own entry inside).2.resolve_left (by simp)
  · intro candidate among
    have kept := all (candidate.fingerprint interpreter) (.inr (List.mem_map_of_mem among))
    rcases List.mem_map.mp kept with ⟨entry, inside, same⟩
    refine ⟨entry.2, mem_sortBy.mpr (List.mem_map_of_mem inside), ?_⟩
    rw [← (own entry inside).1, same]
  · rw [((sortBy_perm _ _).map _).nodup_iff, List.map_map]
    rw [List.map_congr_left fun entry inside => (own entry inside).1] at distinct
    exact distinct

/-- A record of lowest rank among some, such that all of that rank have its fingerprint. -/
structure Lowest (interpreter : Interpreter) (candidates : List Distribution)
    (record : Distribution) : Prop where
  held : record ∈ candidates
  below : ∀ candidate ∈ candidates, record.rank interpreter ≤ candidate.rank interpreter
  alone : ∀ candidate ∈ candidates, candidate.rank interpreter = record.rank interpreter →
    candidate.fingerprint interpreter = record.fingerprint interpreter

/-- Records with one fingerprint have one rank. -/
theorem rank_eq_of_fingerprint_eq {record other : Distribution}
    (same : record.fingerprint interpreter = other.fingerprint interpreter) :
    record.rank interpreter = other.rank interpreter := by
  have roots : record.root = other.root := congrArg Prod.fst same
  rw [Distribution.rank, Distribution.rank, roots]

/-- Records of one rank on the import path have one root. -/
theorem root_eq_of_rank_eq {record other : Distribution}
    (on : record.rank interpreter < interpreter.searchPaths.length)
    (same : other.rank interpreter = record.rank interpreter) : other.root = record.root := by
  have on' : other.rank interpreter < interpreter.searchPaths.length := same ▸ on
  rw [Distribution.rank] at on on'
  have found := List.getElem_idxOf on
  have found' := List.getElem_idxOf on'
  rw [← found, ← found']
  simp only [Distribution.rank] at same
  simp only [same]

/-- The first record that is compared has the lowest rank. -/
theorem first_le {candidates : List Distribution} {first : Distribution}
    {rest : List Distribution} (ordered : uniqueCandidates interpreter candidates = first :: rest)
    {candidate : Distribution} (among : candidate ∈ candidates) :
    first.rank interpreter ≤ candidate.rank interpreter := by
  have stands : StandsFor interpreter candidates _ := standsFor_uniqueCandidates candidates
  rcases stands.all candidate among with ⟨record, inside, same⟩
  rw [← rank_eq_of_fingerprint_eq same]
  rw [ordered] at inside
  rcases List.mem_cons.mp inside with rfl | later
  · exact le_rfl
  · have up := pairwise_sortBy (Distribution.order interpreter)
      ((candidates.foldl (fun unique candidate =>
        OrderedRecord.set (candidate.fingerprint interpreter) candidate unique) []).map Prod.snd)
    rw [← uniqueCandidates, ordered, List.pairwise_cons] at up
    have below := up.1 record later
    rw [Distribution.order, Distribution.order, Prod.Lex.toLex_le_toLex] at below
    rcases below with less | ⟨equal, -⟩
    · exact less.le
    · exact equal.le

/-- The record that is selected has the lowest rank, and all of that rank have its fingerprint. -/
theorem selectCandidate_ok {candidates : List Distribution} {first : Distribution}
    (selected : selectCandidate interpreter candidates = .ok first) :
    Lowest interpreter candidates first := by
  have stands : StandsFor interpreter candidates _ := standsFor_uniqueCandidates candidates
  unfold selectCandidate at selected
  split at selected
  · cases selected
  · rename_i record rest ordered
    dsimp only at selected
    split at selected
    · cases selected
    · rename_i active
      cases selected
      rw [not_or, not_not, not_and] at active
      rw [ordered] at stands
      have below : ∀ candidate ∈ candidates,
          first.rank interpreter ≤ candidate.rank interpreter :=
        fun candidate among => first_le ordered among
      refine ⟨stands.held first (.head _), below, fun candidate among same => ?_⟩
      rcases stands.all candidate among with ⟨other, inside, equal⟩
      have rank := rank_eq_of_fingerprint_eq equal
      rw [same] at rank
      rw [← equal]
      rcases List.mem_cons.mp inside with rfl | later
      · rfl
      · have on : first.rank interpreter < interpreter.searchPaths.length := by
          refine lt_of_le_of_ne List.idxOf_le_length (active.2 ?_)
          exact List.ne_nil_of_mem later
        have root := root_eq_of_rank_eq on rank
        have both : first ∈ (first :: rest).filter fun candidate =>
            candidate.rank interpreter = first.rank interpreter ∧ candidate.root = first.root := by
          simp
        have both' : other ∈ (first :: rest).filter fun candidate =>
            candidate.rank interpreter = first.rank interpreter ∧ candidate.root = first.root := by
          simp [later, rank, root]
        rcases List.length_eq_one_iff.mp active.1 with ⟨only, whole⟩
        rw [whole, List.mem_singleton] at both both'
        rw [both, both']

/-- A record is selected when all of lowest rank have one fingerprint. -/
theorem selectCandidate_of_lowest {candidates : List Distribution} {record : Distribution}
    (lowest : Lowest interpreter candidates record) :
    ∃ first, selectCandidate interpreter candidates = .ok first := by
  have stands : StandsFor interpreter candidates _ := standsFor_uniqueCandidates candidates
  unfold selectCandidate
  split
  · rename_i nothing
    rcases stands.all record lowest.held with ⟨other, inside, -⟩
    rw [nothing] at inside
    cases inside
  · rename_i first rest ordered
    rw [ordered] at stands
    have here := stands.held first (.head _)
    have rank : first.rank interpreter = record.rank interpreter :=
      le_antisymm (first_le ordered lowest.held) (lowest.below first here)
    have apart := stands.apart
    rw [List.map_cons, List.nodup_cons] at apart
    -- Another record of that rank would have the fingerprint of the first one.
    have alone : ∀ other ∈ rest, other.rank interpreter ≠ first.rank interpreter := by
      intro other later same
      have fingerprint := lowest.alone other (stands.held other (.tail _ later)) (same.trans rank)
      rw [← lowest.alone first here rank] at fingerprint
      exact apart.1 (List.mem_map.mpr ⟨other, later, fingerprint⟩)
    have active : (first :: rest).filter (fun candidate =>
        candidate.rank interpreter = first.rank interpreter ∧ candidate.root = first.root) =
          [first] := by
      rw [List.filter_cons, if_pos (by simp), List.filter_eq_nil_iff.mpr]
      intro other later
      simp [alone other later]
    refine ⟨first, ?_⟩
    dsimp only
    rw [active, if_neg]
    rintro (many | ⟨more, off⟩)
    · exact many rfl
    · rcases List.exists_mem_of_ne_nil rest more with ⟨other, later⟩
      have below := first_le ordered (stands.held other (.tail _ later))
      have bound : other.rank interpreter ≤ interpreter.searchPaths.length :=
        List.idxOf_le_length
      exact alone other later (by omega)

/-! ## Listings -/

/-- The records of a name. -/
def candidatesOf (interpreter : Interpreter) (installed : List Distribution) (key : Text) :
    List Distribution :=
  installed.filter fun distribution => distribution.key interpreter = key

/-- The groups of a listing. -/
theorem get_groups (installed : List Distribution) (key : Text) :
    OrderedRecord.get key (OrderedRecord.grouped (installed.map fun distribution =>
        (distribution.key interpreter, distribution))) =
      if key ∈ installed.map (Distribution.key interpreter) then
        some (candidatesOf interpreter installed key)
      else none := by
  have keys : (installed.map fun distribution =>
      (distribution.key interpreter, distribution)).map Prod.fst =
      installed.map (Distribution.key interpreter) := List.map_map
  have records : ((installed.map fun distribution =>
      (distribution.key interpreter, distribution)).filter (·.1 = key)).map Prod.snd =
      candidatesOf interpreter installed key := by
    rw [List.filter_map, List.map_map]
    exact List.map_id _
  rw [OrderedRecord.get_grouped, keys, records]
  congr

/-- The records that are selected for some groups. -/
theorem selectGroups_ok {grouped : List (Text × List Distribution)}
    {selected : List (Text × Distribution)}
    (chosen : selectGroups interpreter grouped = .ok selected) (key : Text) :
    (OrderedRecord.get key grouped = none → OrderedRecord.get key selected = none) ∧
      ∀ candidates, OrderedRecord.get key grouped = some candidates →
        ∃ first, selectCandidate interpreter candidates = .ok first ∧
          OrderedRecord.get key selected = some first := by
  induction grouped generalizing selected with
  | nil =>
      cases chosen
      exact ⟨fun _ => rfl, fun candidates found => by cases found⟩
  | cons group grouped ih =>
      rcases group with ⟨other, candidates⟩
      unfold selectGroups at chosen
      cases picked : selectCandidate interpreter candidates with
      | error failure =>
          rw [picked] at chosen
          cases chosen
      | ok first =>
          cases rest : selectGroups interpreter grouped with
          | error failure =>
              rw [picked, rest] at chosen
              cases chosen
          | ok others =>
              rw [picked, rest] at chosen
              cases chosen
              rw [OrderedRecord.get, OrderedRecord.get]
              by_cases same : other = key
              · rw [if_pos same, if_pos same]
                refine ⟨fun none => (by cases none), ?_⟩
                rintro _ ⟨⟩
                exact ⟨first, picked, rfl⟩
              · rw [if_neg same, if_neg same]
                exact ih rest

/-- Records are selected when one can be selected in every group. -/
theorem selectGroups_of_all {grouped : List (Text × List Distribution)}
    (all : ∀ group ∈ grouped, ∃ first, selectCandidate interpreter group.2 = .ok first) :
    ∃ selected, selectGroups interpreter grouped = .ok selected := by
  induction grouped with
  | nil => exact ⟨[], rfl⟩
  | cons group grouped ih =>
      rcases all group (.head _) with ⟨first, picked⟩
      rcases ih fun other later => all other (.tail _ later) with ⟨selected, rest⟩
      refine ⟨(group.1, first) :: selected, ?_⟩
      rw [selectGroups, picked, rest]
      rfl

/-- A listing that is refused: a record is not complete, or the records of lowest rank of a name
have different fingerprints. -/
def RefusedListing (interpreter : Interpreter) (installed : List Distribution) : Prop :=
  (∃ distribution ∈ installed, ¬ distribution.Complete) ∨
    ∃ distribution ∈ installed, ∀ record,
      ¬ Lowest interpreter (candidatesOf interpreter installed (distribution.key interpreter))
        record

/-- What is selected of a listing. -/
theorem selectInstalled_ok {installed : List Distribution}
    {selected : List (Text × Distribution)}
    (chosen : selectInstalledDistributions interpreter installed = .ok selected) :
    (∀ distribution ∈ installed, distribution.Complete) ∧
      (∀ key record, OrderedRecord.get key selected = some record →
        Lowest interpreter (candidatesOf interpreter installed key) record) ∧
      ∀ distribution ∈ installed,
        ∃ record, OrderedRecord.get (distribution.key interpreter) selected = some record := by
  unfold selectInstalledDistributions at chosen
  split at chosen
  · rename_i complete
    have groups := selectGroups_ok chosen
    refine ⟨complete, fun key record found => ?_, fun distribution among => ?_⟩
    · have group := groups key
      rw [get_groups] at group
      split at group
      · rcases group.2 _ rfl with ⟨first, picked, held⟩
        rw [found, Option.some.injEq] at held
        subst held
        exact selectCandidate_ok picked
      · rw [group.1 rfl] at found
        cases found
    · have group := groups (distribution.key interpreter)
      rw [get_groups, if_pos (List.mem_map_of_mem among)] at group
      rcases group.2 _ rfl with ⟨first, -, held⟩
      exact ⟨first, held⟩
  · cases chosen

/-- A listing is refused, or records are selected of it. -/
theorem selectInstalled_error_iff {installed : List Distribution} :
    (∃ failure, selectInstalledDistributions interpreter installed = .error failure) ↔
      RefusedListing interpreter installed := by
  constructor
  · rintro ⟨failure, refused⟩
    by_contra accepted
    simp only [RefusedListing, not_or, not_exists, not_and, not_not, not_forall] at accepted
    unfold selectInstalledDistributions at refused
    rw [if_pos accepted.1] at refused
    have all : ∀ group ∈ OrderedRecord.grouped (installed.map fun distribution =>
        (distribution.key interpreter, distribution)),
        ∃ first, selectCandidate interpreter group.2 = .ok first := by
      rintro ⟨key, candidates⟩ among
      have found := (OrderedRecord.get_eq_some_iff (OrderedRecord.nodup_grouped _)).mpr among
      rw [get_groups] at found
      split at found
      · rename_i listed
        cases found
        rcases List.mem_map.mp listed with ⟨distribution, inside, rfl⟩
        rcases accepted.2 distribution inside with ⟨record, lowest⟩
        exact selectCandidate_of_lowest lowest
      · cases found
    rcases selectGroups_of_all all with ⟨selected, chosen⟩
    rw [refused] at chosen
    cases chosen
  · intro refused
    cases outcome : selectInstalledDistributions interpreter installed with
    | error failure => exact ⟨failure, rfl⟩
    | ok selected =>
        rcases selectInstalled_ok outcome with ⟨complete, lowest, held⟩
        rcases refused with ⟨distribution, among, incomplete⟩ | ⟨distribution, among, none⟩
        · exact absurd (complete distribution among) incomplete
        · rcases held distribution among with ⟨record, found⟩
          exact absurd (lowest _ record found) (none record)

/-! ## Right selections -/

/-- The record that is selected for each name, where the listing is not refused. -/
def chosenOf (interpreter : Interpreter) (installed : List Distribution) :
    Option (Text → Option Distribution) :=
  (selectInstalledDistributions interpreter installed).toOption.map fun selected key =>
    OrderedRecord.get key selected

/-- The record that is selected for a name is the only one of lowest rank, every listed name has
one, and the order of the listing does not matter. -/
structure SelectsRight (interpreter : Interpreter) (installed : List Distribution) : Prop where
  lowest : ∀ chosen, chosenOf interpreter installed = some chosen →
    ∀ key record, chosen key = some record →
      record ∈ installed ∧ record.key interpreter = key ∧
      ∀ other ∈ installed, other.key interpreter = key →
        record.rank interpreter ≤ other.rank interpreter ∧
          (other.rank interpreter = record.rank interpreter → other = record)
  listed : ∀ chosen, chosenOf interpreter installed = some chosen →
    ∀ distribution ∈ installed, (chosen (distribution.key interpreter)).isSome
  anyOrder : ∀ listing, listing.Perm installed →
    chosenOf interpreter listing = chosenOf interpreter installed

/-- Records of one name and of its lowest rank that have one fingerprint are the same. -/
def ToldApart (interpreter : Interpreter) (installed : List Distribution) : Prop :=
  ∀ record ∈ installed, ∀ other ∈ installed, record.key interpreter = other.key interpreter →
    (∀ third ∈ installed, third.key interpreter = record.key interpreter →
      record.rank interpreter ≤ third.rank interpreter) →
    other.fingerprint interpreter = record.fingerprint interpreter → other = record

/-- A record of a name is listed with the name. -/
theorem mem_candidatesOf {installed : List Distribution} {key : Text} {record : Distribution} :
    record ∈ candidatesOf interpreter installed key ↔
      record ∈ installed ∧ record.key interpreter = key := by
  rw [candidatesOf, List.mem_filter, decide_eq_true_iff]

/-- The order of a listing does not matter for the lowest record of a name. -/
theorem Lowest.perm {installed listing : List Distribution} (perm : listing.Perm installed)
    {key : Text} {record : Distribution}
    (lowest : Lowest interpreter (candidatesOf interpreter installed key) record) :
    Lowest interpreter (candidatesOf interpreter listing key) record := by
  have same (candidate : Distribution) : candidate ∈ candidatesOf interpreter listing key ↔
      candidate ∈ candidatesOf interpreter installed key := by
    rw [mem_candidatesOf, mem_candidatesOf, perm.mem_iff]
  exact ⟨(same record).mpr lowest.held, fun candidate among =>
    lowest.below candidate ((same candidate).mp among), fun candidate among =>
    lowest.alone candidate ((same candidate).mp among)⟩

/-- The order of a listing does not matter for its refusal. -/
theorem RefusedListing.perm {installed listing : List Distribution}
    (perm : listing.Perm installed) (refused : RefusedListing interpreter installed) :
    RefusedListing interpreter listing := by
  rcases refused with ⟨distribution, among, incomplete⟩ | ⟨distribution, among, none⟩
  · exact .inl ⟨distribution, perm.mem_iff.mpr among, incomplete⟩
  · exact .inr ⟨distribution, perm.mem_iff.mpr among, fun record lowest =>
      none record (lowest.perm perm.symm)⟩

/-- Two lowest records of a name are the same, where records are told apart. -/
theorem Lowest.eq {installed : List Distribution} (told : ToldApart interpreter installed)
    {key : Text} {record other : Distribution}
    (lowest : Lowest interpreter (candidatesOf interpreter installed key) record)
    (lowest' : Lowest interpreter (candidatesOf interpreter installed key) other) :
    other = record := by
  have here := mem_candidatesOf.mp lowest.held
  have here' := mem_candidatesOf.mp lowest'.held
  have rank : other.rank interpreter = record.rank interpreter :=
    le_antisymm (lowest'.below record lowest.held) (lowest.below other lowest'.held)
  apply told record here.1 other here'.1 (here.2.trans here'.2.symm)
  · intro third among same
    exact lowest.below third (mem_candidatesOf.mpr ⟨among, same.trans here.2⟩)
  · exact lowest.alone other lowest'.held rank

/-- A listing that is refused has no selected records. -/
theorem chosenOf_eq_none_iff {installed : List Distribution} :
    chosenOf interpreter installed = none ↔ RefusedListing interpreter installed := by
  rw [← selectInstalled_error_iff, chosenOf]
  cases selectInstalledDistributions interpreter installed with
  | error failure => simp [Except.toOption]
  | ok selected => simp [Except.toOption]

/-- The record that is selected for a name is the lowest one, and names without a record are not
listed. -/
theorem chosenOf_eq_some {installed : List Distribution} {chosen : Text → Option Distribution}
    (found : chosenOf interpreter installed = some chosen) :
    (∀ key record, chosen key = some record →
      Lowest interpreter (candidatesOf interpreter installed key) record) ∧
    ∀ distribution ∈ installed, ∃ record, chosen (distribution.key interpreter) = some record := by
  rw [chosenOf] at found
  cases outcome : selectInstalledDistributions interpreter installed with
  | error failure =>
      rw [outcome] at found
      cases found
  | ok selected =>
      rw [outcome] at found
      cases found
      rcases selectInstalled_ok outcome with ⟨-, lowest, held⟩
      exact ⟨lowest, held⟩

/-- Where records are told apart, the order of a listing does not matter. -/
theorem chosenOf_perm {installed listing : List Distribution}
    (told : ToldApart interpreter installed) (perm : listing.Perm installed) :
    chosenOf interpreter listing = chosenOf interpreter installed := by
  cases found : chosenOf interpreter installed with
  | none =>
      have refused := chosenOf_eq_none_iff.mp found
      exact chosenOf_eq_none_iff.mpr (refused.perm perm)
  | some chosen =>
      cases found' : chosenOf interpreter listing with
      | none =>
          have refused := (chosenOf_eq_none_iff.mp found').perm perm.symm
          rw [chosenOf_eq_none_iff.mpr refused] at found
          cases found
      | some chosen' =>
          rcases chosenOf_eq_some found with ⟨lowest, held⟩
          rcases chosenOf_eq_some found' with ⟨lowest', held'⟩
          refine congrArg some (funext fun key => ?_)
          cases here : chosen key with
          | some record =>
              have among := mem_candidatesOf.mp (lowest key record here).held
              rcases held' record (perm.mem_iff.mpr among.1) with ⟨record', here'⟩
              rw [among.2] at here'
              rw [here', (lowest key record here).eq told ((lowest' key record' here').perm
                perm.symm)]
          | none =>
              cases here' : chosen' key with
              | none => rfl
              | some record' =>
                  have among := mem_candidatesOf.mp (lowest' key record' here').held
                  rcases held record' (perm.mem_iff.mp among.1) with ⟨record, there⟩
                  rw [among.2, here] at there
                  cases there

/-- The selected records are right exactly when the listing is refused or its records are told
apart. -/
theorem selectsRight_iff {installed : List Distribution} :
    SelectsRight interpreter installed ↔
      RefusedListing interpreter installed ∨ ToldApart interpreter installed := by
  constructor
  · intro right
    cases found : chosenOf interpreter installed with
    | none => exact .inl (chosenOf_eq_none_iff.mp found)
    | some chosen =>
        right
        intro record among other among' key below same
        rcases (chosenOf_eq_some found).2 record among with ⟨first, here⟩
        rcases right.lowest chosen found _ first here with ⟨held, key', alone⟩
        have rank : record.rank interpreter = first.rank interpreter :=
          le_antisymm (below first held key') (alone record among rfl).1
        have rank' := rank_eq_of_fingerprint_eq same
        rw [(alone record among rfl).2 rank, (alone other among' key.symm).2 (rank'.trans rank)]
  · rintro (refused | told)
    · have none := chosenOf_eq_none_iff.mpr refused
      constructor
      · intro chosen found
        rw [none] at found
        cases found
      · intro chosen found
        rw [none] at found
        cases found
      · intro listing perm
        rw [none]
        exact chosenOf_eq_none_iff.mpr (refused.perm perm)
    · constructor
      · intro chosen found key record here
        have lowest := (chosenOf_eq_some found).1 key record here
        have among := mem_candidatesOf.mp lowest.held
        refine ⟨among.1, among.2, fun other among' key' => ?_⟩
        have inside : other ∈ candidatesOf interpreter installed key :=
          mem_candidatesOf.mpr ⟨among', key'⟩
        refine ⟨lowest.below other inside, fun rank => ?_⟩
        apply told record among.1 other among' (among.2.trans key'.symm)
        · intro third among'' same
          exact lowest.below third (mem_candidatesOf.mpr ⟨among'', same.trans among.2⟩)
        · exact lowest.alone other inside rank
      · intro chosen found distribution among
        rcases (chosenOf_eq_some found).2 distribution among with ⟨record, here⟩
        rw [here]
        rfl
      · exact fun listing perm => chosenOf_perm told perm

end PythonSubject
end ReproItSdk
