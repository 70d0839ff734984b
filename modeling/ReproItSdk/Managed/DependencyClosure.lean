import Mathlib.Data.Fintype.EquivFin
import ReproItSdk.Managed.PreparedObjects

/-! # Closure of the dependencies of a candidate

The records of a candidate hold a cursor for each dependency transcript, and the transcripts are
objects of the candidate.  A cursor names the adapter of its transcript.  The interactions of a
transcript name the operation that they belong to, and their requests and responses, which are
objects as well.

Main definitions:

- Function {lit}`validateDependencyClosure`: the checks of the source.
- Structure {lit}`Closed`: what they amount to.

Main results:

- Theorem {lit}`validateDependencyClosure_eq_ok_iff`: the checks pass exactly for closed candidates.
- Theorem {lit}`dependency_closure_sound`: in a closed candidate whose cursors name different
  adapters, cursors and transcripts are matched one to one.
-/

namespace ReproItSdk
namespace Managed

variable {Digest Path Replay : Type} [DecidableEq Digest]

/-! ## The checks -/

/-- {lit}`collect` of results: the values, or the first error. -/
def collectResults {α : Type} : List (Except Error α) → Except Error (List α)
  | [] => .ok []
  | .error error :: _ => .error error
  | .ok value :: rest => (collectResults rest).map (value :: ·)

/-- The cursors of a candidate; {lit}`decode_record` is a parameter. -/
def dependencyCursors (decodeRecord : String → Except Error (DependencyCursorPayload Digest))
    (candidate : Sdk.Candidate Digest) : Except Error (List (DependencyCursorPayload Digest)) :=
  collectResults ((candidate.records.filter fun record => record.kind = .dependency).map
    fun record => decodeRecord record.payload)

/-- {lit}`descriptor_matches`: the last object with an identifier has a digest. -/
def descriptorMatches (objects : List (PreparedCandidateObject Digest Path)) (objectId : ObjectId)
    (digest : Digest) : Bool :=
  match (objects.filter fun object => object.descriptor.objectId = objectId).getLast? with
  | some object => object.descriptor.plainDigest = digest
  | none => false

/-- Whether an interaction belongs to the operation and its request and response are objects. -/
def interactionMatches (operationId : OperationId)
    (objects : List (PreparedCandidateObject Digest Path))
    (interaction : DependencyTranscriptInteraction Digest) : Bool :=
  (interaction.operationId = operationId || interaction.causalParentId = some operationId) &&
    descriptorMatches objects interaction.requestObjectId interaction.requestDigest &&
    descriptorMatches objects interaction.responseObjectId interaction.responseDigest

/-- Whether an object is a dependency transcript. -/
def isTranscript (object : PreparedCandidateObject Digest Path) : Bool :=
  object.descriptor.role = .dependencyTranscript &&
    object.descriptor.mediaType = AutomaticWorld.dependencyTranscriptMediaType

/-- The transcript in an object, if it passes its checks. -/
def readTranscript (core : Core Digest Replay) (files : Path → Option Bytes)
    (operationId : OperationId) (objects : List (PreparedCandidateObject Digest Path))
    (object : PreparedCandidateObject Digest Path) : Except Error (DependencyTranscript Digest) := do
  let bytes ← readPreparedObject files object
  let transcript ← core.parseTranscript bytes
  core.validate (.transcript transcript)
  if transcript.interactions.all (interactionMatches operationId objects) then .ok transcript
  else .error incompleteCandidate

/-- Whether a transcript is of the adapter that a cursor names. -/
def servesCursor (cursor : DependencyCursorPayload Digest)
    (transcript : DependencyTranscript Digest) : Bool :=
  transcript.adapterId = cursor.adapterId && transcript.adapterVersion = cursor.adapterVersion

/-- {lit}`validate_dependency_closure`. -/
def validateDependencyClosure (core : Core Digest Replay)
    (decodeRecord : String → Except Error (DependencyCursorPayload Digest))
    (files : Path → Option Bytes) (candidate : Sdk.Candidate Digest)
    (objects : List (PreparedCandidateObject Digest Path)) : Except Error Unit := do
  let cursors ← dependencyCursors decodeRecord candidate
  let transcripts ← collectResults ((objects.filter isTranscript).map
    (readTranscript core files candidate.operationId objects))
  if cursors.length ≠ transcripts.length ∨
      cursors.any (fun cursor => (transcripts.filter (servesCursor cursor)).length ≠ 1) then
    .error incompleteCandidate
  else .ok ()

/-! ## Closed candidates -/

/-- A candidate with its cursors and its transcripts, which belong together. -/
structure Closed (core : Core Digest Replay)
    (decodeRecord : String → Except Error (DependencyCursorPayload Digest))
    (files : Path → Option Bytes) (candidate : Sdk.Candidate Digest)
    (objects : List (PreparedCandidateObject Digest Path))
    (cursors : List (DependencyCursorPayload Digest))
    (transcripts : List (DependencyTranscript Digest)) : Prop where
  recorded : dependencyCursors decodeRecord candidate = .ok cursors
  read : collectResults ((objects.filter isTranscript).map
    (readTranscript core files candidate.operationId objects)) = .ok transcripts
  counted : cursors.length = transcripts.length
  served : ∀ cursor ∈ cursors, (transcripts.filter (servesCursor cursor)).length = 1

section Closed

variable {core : Core Digest Replay}
  {decodeRecord : String → Except Error (DependencyCursorPayload Digest)}
  {files : Path → Option Bytes} {candidate : Sdk.Candidate Digest}
  {objects : List (PreparedCandidateObject Digest Path)}
  {cursors : List (DependencyCursorPayload Digest)}
  {transcripts : List (DependencyTranscript Digest)}

/-- The checks pass exactly for closed candidates. -/
theorem validateDependencyClosure_eq_ok_iff :
    validateDependencyClosure core decodeRecord files candidate objects = .ok () ↔
      ∃ cursors transcripts,
        Closed core decodeRecord files candidate objects cursors transcripts := by
  unfold validateDependencyClosure
  constructor
  · intro accepted
    cases recorded : dependencyCursors decodeRecord candidate with
    | error error =>
        rw [recorded] at accepted
        cases accepted
    | ok cursors =>
        cases read : collectResults ((objects.filter isTranscript).map
          (readTranscript core files candidate.operationId objects)) with
        | error error =>
            rw [recorded, read] at accepted
            cases accepted
        | ok transcripts =>
            rw [recorded, read] at accepted
            change (if _ then _ else _) = _ at accepted
            split at accepted
            · cases accepted
            · rename_i matched
              rw [not_or, not_not] at matched
              refine ⟨cursors, transcripts, recorded, read, matched.1, ?_⟩
              intro cursor among
              by_contra unserved
              apply matched.2
              apply List.any_eq_true.mpr
              exact ⟨cursor, among, decide_eq_true unserved⟩
  · rintro ⟨cursors, transcripts, closed⟩
    rw [closed.recorded, closed.read]
    change (if _ then _ else _) = _
    apply if_neg
    rintro (lengths | unserved)
    · exact lengths closed.counted
    · rcases List.any_eq_true.mp unserved with ⟨cursor, among, unserved⟩
      exact of_decide_eq_true unserved (closed.served cursor among)

omit [DecidableEq Digest] in
/-- Results are collected if they all are values. -/
theorem collectResults_eq_ok_iff {α : Type} {results : List (Except Error α)} {values : List α} :
    collectResults results = .ok values ↔ results = values.map .ok := by
  induction results generalizing values with
  | nil =>
      constructor
      · intro collected
        cases collected
        rfl
      · intro same
        rw [eq_comm, List.map_eq_nil_iff] at same
        rw [same]
        rfl
  | cons result results ih =>
      cases result with
      | error error =>
          constructor
          · intro collected
            cases collected
          · intro same
            cases values with
            | nil => cases same
            | cons value values => cases (List.cons.inj same).1
      | ok value =>
          rw [collectResults]
          constructor
          · intro collected
            cases rest : collectResults results with
            | error error =>
                rw [rest] at collected
                cases collected
            | ok others =>
                rw [rest] at collected
                cases collected
                rw [List.map_cons, ih.mp rest]
          · intro same
            cases values with
            | nil => cases same
            | cons first others =>
                rw [List.map_cons, List.cons.injEq, Except.ok.injEq] at same
                rw [ih.mpr same.2, same.1]
                rfl

/-- The interactions of a transcript that was read belong to the operation. -/
theorem readTranscript_interactions {operationId : OperationId}
    {object : PreparedCandidateObject Digest Path} {transcript : DependencyTranscript Digest}
    (read : readTranscript core files operationId objects object = .ok transcript) :
    ∀ interaction ∈ transcript.interactions,
      interactionMatches operationId objects interaction = true := by
  unfold readTranscript at read
  cases content : readPreparedObject files object with
  | error error =>
      rw [content] at read
      cases read
  | ok bytes =>
      rw [content] at read
      change (core.parseTranscript bytes).bind _ = _ at read
      cases parsed : core.parseTranscript bytes with
      | error error =>
          rw [parsed] at read
          cases read
      | ok found =>
          rw [parsed] at read
          change (core.validate (.transcript found)).bind _ = _ at read
          cases validated : core.validate (.transcript found) with
          | error error =>
              rw [validated] at read
              cases read
          | ok _ =>
              rw [validated] at read
              change (if _ then _ else _) = _ at read
              split at read
              · rename_i matches_
                cases read
                exact List.all_eq_true.mp matches_
              · cases read

/-- The interactions of the transcripts of a closed candidate belong to its operation. -/
theorem Closed.interactions
    (closed : Closed core decodeRecord files candidate objects cursors transcripts) :
    ∀ transcript ∈ transcripts, ∀ interaction ∈ transcript.interactions,
      interactionMatches candidate.operationId objects interaction = true := by
  intro transcript among
  have results := collectResults_eq_ok_iff.mp closed.read
  have found : Except.ok transcript ∈ (objects.filter isTranscript).map
      (readTranscript core files candidate.operationId objects) := by
    rw [results]
    exact List.mem_map_of_mem among
  rcases List.mem_map.mp found with ⟨object, _, read⟩
  exact readTranscript_interactions read

end Closed

/-! ## Cursors and transcripts -/

/-- An element that alone has a property stands at one place of a list. -/
theorem place_of_filter_length {α : Type} {property : α → Bool} {values : List α}
    (alone : (values.filter property).length = 1) :
    ∃ place : Fin values.length, property values[place] = true ∧
      ∀ other : Fin values.length, property values[other] = true → other = place := by
  induction values with
  | nil => cases alone
  | cons value values ih =>
      by_cases holds : property value = true
      · rw [List.filter_cons_of_pos holds, List.length_cons, Nat.add_eq_right,
          List.length_eq_zero_iff] at alone
        refine ⟨⟨0, Nat.zero_lt_succ _⟩, holds, ?_⟩
        rintro ⟨place, inside⟩ there
        cases place with
        | zero => rfl
        | succ place =>
            have among := List.getElem_mem (Nat.lt_of_succ_lt_succ inside)
            exact absurd there (List.filter_eq_nil_iff.mp alone _ among)
      · rw [List.filter_cons_of_neg holds] at alone
        rcases ih alone with ⟨place, there, only⟩
        refine ⟨place.succ, there, ?_⟩
        rintro ⟨other, inside⟩ here
        cases other with
        | zero => exact absurd here holds
        | succ other =>
            have same := only ⟨other, Nat.lt_of_succ_lt_succ inside⟩ here
            rw [← same]
            rfl

/-- Elements have different keys if different places have. -/
theorem nodup_map_iff {α β : Type} {key : α → β} {values : List α} :
    (values.map key).Nodup ↔
      Function.Injective fun place : Fin values.length => key values[place] := by
  have listed : values.map key =
      List.ofFn fun place : Fin values.length => key values[place] := by
    apply List.ext_getElem
    · simp
    · simp
  rw [listed, List.nodup_ofFn]

/-- The adapter that a cursor names. -/
def cursorAdapter (cursor : DependencyCursorPayload Digest) : String × String :=
  (cursor.adapterId, cursor.adapterVersion)

omit [DecidableEq Digest] in
/-- A transcript is of the adapter that a cursor names if it has its identifier and version. -/
theorem servesCursor_iff {cursor : DependencyCursorPayload Digest}
    {transcript : DependencyTranscript Digest} :
    servesCursor cursor transcript = true ↔
      (transcript.adapterId, transcript.adapterVersion) = cursorAdapter cursor := by
  simp [servesCursor, cursorAdapter]

section Matching

variable {cursors : List (DependencyCursorPayload Digest)}
  {transcripts : List (DependencyTranscript Digest)}

omit [DecidableEq Digest] in
/-- Cursors that are as many as the transcripts, each with one transcript of its adapter, are
matched with the transcripts one to one exactly if they name different adapters. -/
theorem nodup_iff_matching (counted : cursors.length = transcripts.length)
    (served : ∀ cursor ∈ cursors, (transcripts.filter (servesCursor cursor)).length = 1) :
    (cursors.map cursorAdapter).Nodup ↔
      ∃ matching : Fin cursors.length ≃ Fin transcripts.length,
        ∀ place, servesCursor cursors[place] transcripts[matching place] = true := by
  have places (place : Fin cursors.length) :=
    place_of_filter_length (served cursors[place] (List.getElem_mem place.isLt))
  rw [nodup_map_iff]
  constructor
  · intro different
    choose transcriptOf serves only using places
    have injective : Function.Injective transcriptOf := by
      intro place other same
      have here := servesCursor_iff.mp (serves place)
      have there := servesCursor_iff.mp (serves other)
      rw [same, there] at here
      exact (different here).symm
    have bijective : Function.Bijective transcriptOf := by
      rw [Fintype.bijective_iff_injective_and_card]
      simp [injective, counted]
    exact ⟨Equiv.ofBijective transcriptOf bijective, serves⟩
  · rintro ⟨matching, serves⟩ place other same
    rcases places place with ⟨transcript, _, only⟩
    have here := only _ (serves place)
    have there := servesCursor_iff.mp (serves other)
    rw [← show cursorAdapter cursors[place] = cursorAdapter cursors[other] from same] at there
    have alone := only _ (servesCursor_iff.mpr there)
    exact matching.injective (here.trans alone.symm)

omit [DecidableEq Digest] in
/-- A matched transcript has one cursor, if the cursors name different adapters. -/
theorem cursor_of_transcript (different : (cursors.map cursorAdapter).Nodup)
    {matching : Fin cursors.length ≃ Fin transcripts.length}
    (serves : ∀ place, servesCursor cursors[place] transcripts[matching place] = true)
    (transcript : Fin transcripts.length) :
    ∃ place : Fin cursors.length, servesCursor cursors[place] transcripts[transcript] = true ∧
      ∀ other : Fin cursors.length,
        servesCursor cursors[other] transcripts[transcript] = true → other = place := by
  have here := serves (matching.symm transcript)
  simp only [Equiv.apply_symm_apply] at here
  refine ⟨matching.symm transcript, here, fun other there => ?_⟩
  have same := (servesCursor_iff.mp there).symm.trans (servesCursor_iff.mp here)
  exact nodup_map_iff.mp different same

end Matching

/-- The checks accept exactly the candidates that have as many cursors as transcripts, with one
transcript of the adapter that each cursor names; the interactions of the transcripts belong to the
operation, and their requests and responses are objects with their digests.  If the cursors name
different adapters, cursors and transcripts are matched one to one, so that each transcript with its
interactions has one cursor. -/
theorem dependency_closure_sound (core : Core Digest Replay)
    (decodeRecord : String → Except Error (DependencyCursorPayload Digest))
    (files : Path → Option Bytes) (candidate : Sdk.Candidate Digest)
    (objects : List (PreparedCandidateObject Digest Path)) :
    (validateDependencyClosure core decodeRecord files candidate objects = .ok () ↔
        ∃ cursors transcripts,
          Closed core decodeRecord files candidate objects cursors transcripts) ∧
      ∀ cursors transcripts,
        Closed core decodeRecord files candidate objects cursors transcripts →
        (∀ transcript ∈ transcripts, ∀ interaction ∈ transcript.interactions,
          interactionMatches candidate.operationId objects interaction = true) ∧
        ((cursors.map cursorAdapter).Nodup →
          ∃ matching : Fin cursors.length ≃ Fin transcripts.length,
            (∀ place, servesCursor cursors[place] transcripts[matching place] = true) ∧
            ∀ transcript : Fin transcripts.length, ∃ place : Fin cursors.length,
              servesCursor cursors[place] transcripts[transcript] = true ∧
              ∀ other : Fin cursors.length,
                servesCursor cursors[other] transcripts[transcript] = true → other = place) := by
  refine ⟨validateDependencyClosure_eq_ok_iff, fun cursors transcripts closed => ?_⟩
  refine ⟨closed.interactions, fun different => ?_⟩
  rcases (nodup_iff_matching closed.counted closed.served).mp different with ⟨matching, serves⟩
  exact ⟨matching, serves, cursor_of_transcript different serves⟩

/-! ## A cursor of two interactions -/

/-- An interaction of the first operation with a request and a response object. -/
def twoObjectsInteraction (sequence : Nat) : DependencyTranscriptInteraction Bytes where
  causalParentId := none
  operationId := ⟨1⟩
  outcome := .response
  requestDigest := [1]
  requestObjectId := ⟨1⟩
  responseDigest := [2]
  responseObjectId := ⟨2⟩
  sequence := sequence
  sessionPosition := sequence

/-- A transcript of two interactions. -/
def twoInteractions : DependencyTranscript Bytes where
  adapterId := "reproit-native"
  adapterVersion := "1.0.0"
  interactions := [twoObjectsInteraction 0, twoObjectsInteraction 1]

/-- A core that reads that transcript. -/
def twoInteractionsCore : Core Bytes Unit :=
  { plainCore with parseTranscript := fun _ => .ok twoInteractions }

/-- The cursor of that transcript. -/
def twoInteractionsCursor : DependencyCursorPayload Bytes where
  adapterId := "reproit-native"
  adapterVersion := "1.0.0"
  causalParentId := none
  cursor := ""
  cursorDigest := []

/-- An object of some role in memory. -/
def objectInMemory (number : Nat) (mediaType : String) (bytes : Bytes) :
    PreparedCandidateObject Bytes Unit where
  descriptor :=
    { mediaType := mediaType
      objectId := ⟨number⟩
      plainDigest := bytes
      plainSize := bytes.length
      role := .dependencyTranscript }
  source := .bytes bytes

/-- A candidate with one cursor record. -/
def oneCursorCandidate : Sdk.Candidate Bytes where
  captureId := ⟨1⟩
  operationId := ⟨1⟩
  records := [{ kind := .dependency, payload := "", sequence := 0 }]
  worldId := []

/-- The objects of that candidate. -/
def oneTranscriptObjects : List (PreparedCandidateObject Bytes Unit) :=
  [objectInMemory 1 "application/octet-stream" [1],
    objectInMemory 2 "application/octet-stream" [2],
    objectInMemory 3 AutomaticWorld.dependencyTranscriptMediaType [3]]

/-- One cursor stands for a transcript of two interactions, so that cursors and interactions are not
matched one to one. -/
theorem cursor_of_two_interactions :
    validateDependencyClosure twoInteractionsCore (fun _ => .ok twoInteractionsCursor)
        (fun _ => none) oneCursorCandidate oneTranscriptObjects = .ok () ∧
      Closed twoInteractionsCore (fun _ => .ok twoInteractionsCursor) (fun _ => none)
        oneCursorCandidate oneTranscriptObjects [twoInteractionsCursor] [twoInteractions] ∧
      ¬ ∃ matching : Fin [twoInteractionsCursor].length →
          Fin ([twoInteractions].flatMap fun transcript => transcript.interactions).length,
        Function.Bijective matching := by
  refine ⟨by decide +kernel, ⟨by rfl, by rfl, by rfl, by decide +kernel⟩, ?_⟩
  rintro ⟨matching, bijective⟩
  have same := Fintype.card_of_bijective bijective
  cases same

end Managed
end ReproItSdk
