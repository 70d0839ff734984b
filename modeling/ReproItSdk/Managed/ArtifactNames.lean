import ReproItSdk.Library.Separated
import ReproItSdk.World.ClosedWorld
import ReproItSdk.Managed.ArtifactSet

/-! # Names of artifacts

Every artifact of a closed capture has a name that is spelled from its kind and its data.  The
spelling is injective, so two artifacts share a name only when they share the data.  The artifacts
of a dependency class are named by class and request alone.

Main results:

- Theorem {lit}`uri_injective`: different names are spelled differently.
- Theorem {lit}`names_nodup_iff`: when the names of a run are distinct.
- Theorem {lit}`closed_artifacts_unique_iff`: a closed capture passes the uniqueness tests exactly
  when no two of its dependency observations have one class and one request, and no two unowned
  observations left the same evidence at one place.
-/

namespace ReproItSdk
namespace Managed

open AutomaticWorld AutomaticWorldCoordinator Separated

variable {Digest Replay : Type}

/-! ## Names -/

/-- The data that the name of an artifact is spelled from. -/
inductive ArtifactName (Digest : Type) where
  | request (observationClass : AutomaticObservationClass) (requestDigest : Digest)
  | response (observationClass : AutomaticObservationClass) (requestDigest : Digest)
  | state (observationClass : AutomaticObservationClass) (requestDigest : Digest)
      (sessionPosition : Nat) (outcome : DependencyOutcome)
  | unowned (sequence : Nat) (digest : Digest)
  | transcript (digest : Digest)
deriving DecidableEq, Repr

namespace ArtifactName

/-- Spelling of a name. -/
def uri (core : Core Digest Replay) : ArtifactName Digest → String
  | .request observationClass requestDigest =>
      dependencyUri core observationClass requestDigest ++ "/" ++ "request"
  | .response observationClass requestDigest =>
      dependencyUri core observationClass requestDigest ++ "/" ++ "response"
  | .state observationClass requestDigest sessionPosition outcome =>
      stateUri core observationClass requestDigest sessionPosition outcome
  | .unowned sequence digest => unownedUri core sequence digest
  | .transcript digest =>
      "reproit-managed://automatic-dependency/transcript" ++ "/" ++ core.digestText digest

/-- Spelling of the name of a transcript. -/
theorem uri_transcript (core : Core Digest Replay) (digest : Digest) :
    uri core (.transcript digest) = transcriptUri core digest :=
  rfl

/-- Spelling of the name of a request. -/
theorem uri_request (core : Core Digest Replay) (observationClass : AutomaticObservationClass)
    (requestDigest : Digest) :
    uri core (.request observationClass requestDigest) =
      dependencyUri core observationClass requestDigest ++ "/request" :=
  String.append_assoc ..

/-- Spelling of the name of a response. -/
theorem uri_response (core : Core Digest Replay) (observationClass : AutomaticObservationClass)
    (requestDigest : Digest) :
    uri core (.response observationClass requestDigest) =
      dependencyUri core observationClass requestDigest ++ "/response" :=
  String.append_assoc ..

/-- The character in which the prefixes of the three kinds of names differ. -/
def kind : ArtifactName Digest → Char
  | .request .. | .response .. | .transcript _ => 'd'
  | .state .. => 'w'
  | .unowned .. => 'u'

/-- A longer text has the characters of its prefix. -/
private theorem character_append {head : String} {index : Nat} {character : Char} (rest : String)
    (shown : head.toList[index]? = some character) :
    (head ++ rest).toList[index]? = some character := by
  obtain ⟨bound, _⟩ := List.getElem?_eq_some_iff.mp shown
  rw [String.toList_append, List.getElem?_append_left bound, shown]

/-- A spelling shows the kind of its name. -/
theorem uri_kind (core : Core Digest Replay) (name : ArtifactName Digest) :
    (name.uri core).toList[28]? = some name.kind := by
  have dependency : ("reproit-managed://automatic-dependency/" : String).toList[28]? = some 'd' :=
    rfl
  have transcript :
      ("reproit-managed://automatic-dependency/transcript" : String).toList[28]? = some 'd' :=
    rfl
  have state : ("reproit-managed://automatic-world/" : String).toList[28]? = some 'w' := rfl
  have unowned : ("reproit-managed://automatic-unowned/" : String).toList[28]? = some 'u' := rfl
  cases name with
  | request observationClass requestDigest =>
      unfold uri dependencyUri
      iterate 5 refine character_append _ ?_
      exact dependency
  | response observationClass requestDigest =>
      unfold uri dependencyUri
      iterate 5 refine character_append _ ?_
      exact dependency
  | state observationClass requestDigest sessionPosition outcome =>
      unfold uri stateUri
      iterate 7 refine character_append _ ?_
      exact state
  | unowned sequence digest =>
      unfold uri unownedUri
      iterate 3 refine character_append _ ?_
      exact unowned
  | transcript digest =>
      unfold uri
      iterate 2 refine character_append _ ?_
      exact transcript

end ArtifactName

/-- How digests and boundaries are written: each has its own text, and the text of a digest starts
with the name of the hash and holds no slash. -/
structure TextualNames (core : Core Digest Replay) : Prop where
  digestText : Function.Injective core.digestText
  boundaryId : Function.Injective core.boundaryId
  prefixed : ∀ digest, ∃ rest, core.digestText digest = "sha256:" ++ rest
  unbroken : ∀ digest, Unbroken '/' (core.digestText digest)

section Spelling

variable {core : Core Digest Replay}

/-- The text of a digest is no last part of a dependency name. -/
theorem TextualNames.not_stream (textual : TextualNames core) (digest : Digest) :
    core.digestText digest ≠ "request" ∧ core.digestText digest ≠ "response" := by
  obtain ⟨rest, spelled⟩ := textual.prefixed digest
  rw [spelled]
  constructor <;>
  · intro same
    have second := congrArg (fun text => text.toList[0]?) same
    simp at second

/-- A text that names a boundary and a digest names no others. -/
theorem TextualNames.boundary_inj (textual : TextualNames core) {head : String}
    {observationClass otherClass : AutomaticObservationClass} {digest otherDigest : Digest}
    (same : head ++ core.boundaryId observationClass ++ "/" ++ core.digestText digest =
      head ++ core.boundaryId otherClass ++ "/" ++ core.digestText otherDigest) :
    observationClass = otherClass ∧ digest = otherDigest := by
  obtain ⟨heads, digests⟩ := join_inj (textual.unbroken _) (textual.unbroken _) same
  exact ⟨textual.boundaryId ((String.append_right_inj head).mp heads), textual.digestText digests⟩

/-- The spelling of an outcome holds no slash. -/
theorem unbroken_outcomeName (outcome : DependencyOutcome) :
    Unbroken '/' (outcomeName outcome) := by
  cases outcome <;> decide

/-- Outcomes are spelled differently. -/
theorem outcomeName_injective : Function.Injective outcomeName := by
  intro outcome other same
  cases outcome <;> cases other <;> first | rfl | exact absurd same (by decide)

/-- Different names are spelled differently. -/
theorem uri_injective (textual : TextualNames core) :
    Function.Injective (ArtifactName.uri core) := by
  intro name other same
  have kinds : name.kind = other.kind := by
    have characters := congrArg (fun text : String => text.toList[28]?) same
    simpa only [ArtifactName.uri_kind, Option.some.injEq] using characters
  have unbroken : Unbroken '/' "request" ∧ Unbroken '/' "response" := by decide
  cases name <;> cases other <;> simp only [ArtifactName.kind, Char.reduceEq] at kinds
  case request.request observationClass digest otherClass otherDigest =>
    obtain ⟨names, -⟩ := join_inj unbroken.1 unbroken.1 same
    obtain ⟨rfl, rfl⟩ := textual.boundary_inj names
    rfl
  case request.response observationClass digest otherClass otherDigest =>
    obtain ⟨-, streams⟩ := join_inj unbroken.1 unbroken.2 same
    exact absurd streams (by decide)
  case request.transcript observationClass digest otherDigest =>
    obtain ⟨-, texts⟩ := join_inj unbroken.1 (textual.unbroken _) same
    exact absurd texts.symm (textual.not_stream otherDigest).1
  case response.request observationClass digest otherClass otherDigest =>
    obtain ⟨-, streams⟩ := join_inj unbroken.2 unbroken.1 same
    exact absurd streams (by decide)
  case response.response observationClass digest otherClass otherDigest =>
    obtain ⟨names, -⟩ := join_inj unbroken.2 unbroken.2 same
    obtain ⟨rfl, rfl⟩ := textual.boundary_inj names
    rfl
  case response.transcript observationClass digest otherDigest =>
    obtain ⟨-, texts⟩ := join_inj unbroken.2 (textual.unbroken _) same
    exact absurd texts.symm (textual.not_stream otherDigest).2
  case state.state observationClass digest position outcome otherClass otherDigest otherPosition
      otherOutcome =>
    obtain ⟨rest, outcomes⟩ :=
      join_inj (unbroken_outcomeName outcome) (unbroken_outcomeName otherOutcome) same
    obtain ⟨names, positions⟩ :=
      join_inj (unbroken_toString position) (unbroken_toString otherPosition) rest
    obtain ⟨rfl, rfl⟩ := textual.boundary_inj names
    cases toString_injective positions
    cases outcomeName_injective outcomes
    rfl
  case unowned.unowned sequence digest otherSequence otherDigest =>
    obtain ⟨heads, digests⟩ := join_inj (textual.unbroken _) (textual.unbroken _) same
    cases toString_injective ((String.append_right_inj _).mp heads)
    cases textual.digestText digests
    rfl
  case transcript.request digest otherClass otherDigest =>
    obtain ⟨-, texts⟩ := join_inj (textual.unbroken _) unbroken.1 same
    exact absurd texts (textual.not_stream digest).1
  case transcript.response digest otherClass otherDigest =>
    obtain ⟨-, texts⟩ := join_inj (textual.unbroken _) unbroken.2 same
    exact absurd texts (textual.not_stream digest).2
  case transcript.transcript digest otherDigest =>
    obtain ⟨-, digests⟩ := join_inj (textual.unbroken _) (textual.unbroken _) same
    cases textual.digestText digests
    rfl

end Spelling

/-! ## Names of a run -/

/-- Names of the artifacts of a finished observation. -/
def entryNames (core : Core Digest Replay) (entry : ObservationLog × DependencyOutcome) :
    List (ArtifactName Digest) :=
  let requestDigest := core.sha256 entry.1.request
  if isDependencyClass entry.1.observationClass then
    [.request entry.1.observationClass requestDigest,
     .response entry.1.observationClass requestDigest]
  else [.state entry.1.observationClass requestDigest entry.1.sessionPosition entry.2]

/-- Name of the artifact of an unowned observation. -/
def unownedName (core : Core Digest Replay) (log : UnownedLog) : ArtifactName Digest :=
  .unowned log.sequence (core.digestOf log.evidence)

/-- Names of all artifacts of a run whose close writes a transcript or none. -/
def names (core : Core Digest Replay) (history : History) (transcript : Option Digest) :
    List (ArtifactName Digest) :=
  history.finished.flatMap (entryNames core) ++ history.unowned.map (unownedName core) ++
    transcript.toList.map .transcript

/-- Two finished observations that do not share a dependency class and a request. -/
def RequestsDiffer (entry other : ObservationLog × DependencyOutcome) : Prop :=
  isDependencyClass entry.1.observationClass = true →
    entry.1.observationClass = other.1.observationClass → entry.1.request ≠ other.1.request

/-- Two unowned observations that differ in place or in evidence. -/
def EvidenceDiffers (log other : UnownedLog) : Prop :=
  log.sequence = other.sequence → log.evidence ≠ other.evidence

/-- A run without two dependency observations of one class and one request, and without two
unowned observations that left the same evidence at one place. -/
structure DistinctRequests (history : History) : Prop where
  requests : history.finished.Pairwise RequestsDiffer
  evidence : history.unowned.Pairwise EvidenceDiffers

/-- The digests of a run do not collide. -/
structure CollisionFree (core : Core Digest Replay) (history : History) : Prop where
  requests : ∀ entry ∈ history.finished, ∀ other ∈ history.finished,
    core.sha256 entry.1.request = core.sha256 other.1.request → entry.1.request = other.1.request
  evidence : ∀ log ∈ history.unowned, ∀ other ∈ history.unowned,
    core.digestOf log.evidence = core.digestOf other.evidence → log.evidence = other.evidence

/-- Two observations of one class are at different positions. -/
def PositionsDiffer (entry other : ObservationLog × DependencyOutcome) : Prop :=
  entry.1.observationClass = other.1.observationClass →
    entry.1.sessionPosition ≠ other.1.sessionPosition

/-- Distinct positions of each class are distinct positions of the observations. -/
theorem positions_pairwise {history : History}
    (distinct : ∀ observationClass, (history.positions observationClass).Nodup) :
    history.finished.Pairwise PositionsDiffer := by
  rw [List.pairwise_iff_forall_sublist]
  intro entry other sublist sameClass
  have filtered := sublist.filter fun entry' => entry'.1.observationClass ==
    entry.1.observationClass
  rw [List.filter_cons_of_pos (by simp), List.filter_cons_of_pos (by simp [sameClass]),
    List.filter_nil] at filtered
  have positions := filtered.map fun entry : ObservationLog × DependencyOutcome =>
    entry.1.sessionPosition
  simpa using List.Nodup.sublist positions (distinct entry.1.observationClass)

section Distinct

variable {core : Core Digest Replay} {history : History}

/-- Names of two observations are disjoint when their requests and positions differ. -/
theorem entryNames_disjoint {entry other : ObservationLog × DependencyOutcome}
    (collisionFree : core.sha256 entry.1.request = core.sha256 other.1.request →
      entry.1.request = other.1.request)
    (positions : PositionsDiffer entry other) :
    List.Disjoint (entryNames core entry) (entryNames core other) ↔
      RequestsDiffer entry other := by
  unfold entryNames RequestsDiffer
  cases dependency : isDependencyClass entry.1.observationClass <;>
    cases otherDependency : isDependencyClass other.1.observationClass
  · simp only [Bool.false_eq_true, if_false, false_imp_iff, iff_true, List.disjoint_singleton,
      List.mem_singleton, ArtifactName.state.injEq, not_and]
    exact fun sameClass _ samePosition => absurd samePosition.symm (positions sameClass.symm)
  · simp
  · simp only [if_true, true_imp_iff, Bool.false_eq_true, if_false]
    refine iff_of_true (by simp) fun sameClass => ?_
    rw [sameClass, otherDependency] at dependency
    cases dependency
  · simp only [if_true, true_imp_iff]
    constructor
    · intro disjoint sameClass sameRequest
      rw [sameClass, sameRequest] at disjoint
      exact disjoint List.mem_cons_self List.mem_cons_self
    · intro differ name first second
      have agree : entry.1.observationClass = other.1.observationClass ∧
          core.sha256 entry.1.request = core.sha256 other.1.request := by
        simp only [List.mem_cons, List.not_mem_nil, or_false] at first second
        rcases first with rfl | rfl <;> rcases second with same | same <;> injection same
        all_goals exact ⟨‹_›, ‹_›⟩
      exact differ agree.1 (collisionFree agree.2)

/-- When the names of a run are distinct. -/
theorem names_nodup_iff (collisionFree : CollisionFree core history)
    (positions : history.finished.Pairwise PositionsDiffer) (transcript : Option Digest) :
    (names core history transcript).Nodup ↔ DistinctRequests history := by
  have finished : (history.finished.flatMap (entryNames core)).Nodup ↔
      history.finished.Pairwise RequestsDiffer := by
    have single : ∀ entry ∈ history.finished, (entryNames core entry).Nodup := by
      intro entry _
      unfold entryNames
      split <;> simp
    rw [List.nodup_flatMap, and_iff_right single]
    constructor
    · intro disjoint
      refine (disjoint.and positions).imp_of_mem fun first second both => ?_
      exact (entryNames_disjoint (collisionFree.requests _ first _ second) both.2).mp both.1
    · intro differ
      refine (differ.and positions).imp_of_mem fun first second both => ?_
      exact (entryNames_disjoint (collisionFree.requests _ first _ second) both.2).mpr both.1
  have unowned : (history.unowned.map (unownedName core)).Nodup ↔
      history.unowned.Pairwise EvidenceDiffers := by
    rw [List.Nodup, List.pairwise_map]
    constructor
    · refine List.Pairwise.imp fun differ sameSequence sameEvidence => differ ?_
      rw [unownedName, unownedName, sameSequence, sameEvidence]
    · intro differ
      refine differ.imp_of_mem fun first second differ same => ?_
      simp only [unownedName, ArtifactName.unowned.injEq] at same
      exact differ same.1 (collisionFree.evidence _ first _ second same.2)
  have kinds : ∀ name ∈ history.finished.flatMap (entryNames core),
      name ∉ history.unowned.map (unownedName core) ∧
        name ∉ transcript.toList.map ArtifactName.transcript := by
    intro name member
    obtain ⟨entry, -, named⟩ := List.mem_flatMap.mp member
    unfold entryNames at named
    split at named <;> simp only [List.mem_cons, List.not_mem_nil, or_false] at named
    · rcases named with rfl | rfl <;> simp [unownedName]
    · subst named
      simp [unownedName]
  unfold names
  rw [List.nodup_append, List.nodup_append, finished, unowned]
  constructor
  · rintro ⟨⟨requests, evidence, -⟩, -, -⟩
    exact ⟨requests, evidence⟩
  · rintro ⟨requests, evidence⟩
    refine ⟨⟨requests, evidence, fun name member other unowned same => ?_⟩, ?_, ?_⟩
    · exact (kinds name member).1 (same ▸ unowned)
    · cases transcript <;> simp
    · intro name member other named same
      rcases List.mem_append.mp member with finished | unowned
      · exact (kinds name finished).2 (same ▸ named)
      · subst same
        obtain ⟨log, -, rfl⟩ := List.mem_map.mp unowned
        simp [unownedName] at named

end Distinct

/-! ## Names of a closed capture -/

section Closed

variable {core : Core Digest Replay} {operationId : OperationId}

/-- Spellings of the names of a list of artifacts. -/
def uris (artifacts : List (ObservationArtifact Digest)) : List String :=
  artifacts.map (·.artifact.uri)

/-- The artifacts of the publications have the names of the finished observations. -/
theorem uris_of_published {finished : List (ObservationLog × DependencyOutcome)}
    {publications : List (Publication Digest)}
    (logs : List.Forall₂ (PublishedAs core operationId) finished publications) :
    uris (publications.flatMap fun publication => publication.artifacts core) =
      (finished.flatMap (entryNames core)).map (ArtifactName.uri core) := by
  induction logs with
  | nil => rfl
  | @cons entry publication finished publications published _ ih =>
      have first : uris (publication.artifacts core) =
          (entryNames core entry).map (ArtifactName.uri core) := by
        unfold Publication.artifacts entryNames
        rw [published.sameClass, ← published.sameRequest]
        split
        · rw [List.map_cons, List.map_cons, List.map_nil, ArtifactName.uri_request,
            ArtifactName.uri_response, ← published.sameClass]
          rfl
        · rw [List.map_cons, List.map_nil, ← published.sameClass, ← published.samePosition,
            ← published.sameOutcome]
          rfl
      rw [List.flatMap_cons, List.flatMap_cons, List.map_append, ← first, ← ih]
      exact List.map_append

/-- An artifact of the World has a reference of its name, and no other artifact has one. -/
def Referenced (artifact : ObservationArtifact Digest) : Prop :=
  artifact.reference.map (·.uri) =
    if artifact.artifact.role = .worldState then some artifact.artifact.uri else none

/-- The artifacts of a publication are referenced. -/
theorem referenced_of_publication (publication : Publication Digest) :
    ∀ artifact ∈ publication.artifacts core, Referenced artifact := by
  intro artifact member
  unfold Publication.artifacts at member
  split at member
  · simp only [Publication.dependencyArtifacts, List.mem_cons, List.not_mem_nil, or_false] at member
    rcases member with rfl | rfl <;> rfl
  · rw [List.mem_singleton] at member
    subst member
    rfl

/-- Names of the references are the names of the World artifacts. -/
theorem uris_of_references :
    ∀ artifacts : List (ObservationArtifact Digest), (∀ artifact ∈ artifacts, Referenced artifact) →
      (artifacts.filterMap (·.reference)).map (·.uri) =
        suppliedWorld (artifacts.map (·.artifact))
  | [], _ => rfl
  | artifact :: artifacts, referenced => by
      rw [List.forall_mem_cons] at referenced
      have rest := uris_of_references artifacts referenced.2
      have first := referenced.1
      unfold Referenced at first
      unfold suppliedWorld at rest ⊢
      rw [List.filterMap_cons, List.map_cons, List.filter_cons]
      by_cases world : artifact.artifact.role = .worldState
      · rw [if_pos world] at first
        obtain ⟨reference, present, named⟩ := Option.map_eq_some_iff.mp first
        simp [present, world, named, rest]
      · rw [if_neg world, Option.map_eq_none_iff] at first
        simp [first, world, rest]

/-- What the close of a run names and draws. -/
structure NamedCapture (core : Core Digest Replay) (history : History) (io : CloseIo)
    (capture : AutomaticWorldCapture Digest) : Prop where
  names : ∃ transcript, (capture.closure.artifacts.map (·.uri)).Perm
    ((names core history transcript).map (ArtifactName.uri core))
  objectIds : (capture.closure.artifacts.map (·.objectId)).Subperm
    (history.drawn ++ io.transcriptObjectId.toOption.toList)
  referenced : ((expectedWorld capture.closure.world).map (·.uri)).Perm
    (suppliedWorld capture.closure.artifacts)

/-- A successful close names and draws what its run committed. -/
theorem namedCapture_of_committed {world named : AutomaticWorldCoordinator Digest Replay}
    {history : History} {publications : List (Publication Digest)} {io : CloseIo}
    {capture : AutomaticWorldCapture Digest}
    (committed : Committed core world history publications)
    (effect : world.CloseEffect core io capture named) : NamedCapture core history io capture := by
  have committedUris : (uris world.artifacts).Perm
      ((names core history none).map (ArtifactName.uri core)) := by
    have perm := committed.artifacts.map (·.artifact.uri)
    rw [List.map_append] at perm
    refine perm.trans (.of_eq ?_)
    have published := uris_of_published committed.logs
    unfold uris at published
    simp only [names, published, List.map_append, Option.toList_none, List.map_nil,
      List.append_nil, List.map_map]
    rfl
  have referenced : ∀ artifact ∈ world.artifacts, Referenced artifact := by
    intro artifact member
    rcases List.mem_append.mp (committed.artifacts.subset member) with published | unowned
    · obtain ⟨publication, -, member⟩ := List.mem_flatMap.mp published
      exact referenced_of_publication publication artifact member
    · obtain ⟨log, -, rfl⟩ := List.mem_map.mp unowned
      rfl
  cases effect with
  | mk ready transcript artifacts references fenced reservation spool =>
      have uris_eq : capture.closure.artifacts.map (·.uri) = uris named.artifacts := by
        rw [artifacts, List.map_map]
        rfl
      have ids_eq : capture.closure.artifacts.map (·.objectId) =
          named.artifacts.map (·.artifact.objectId) := by
        rw [artifacts, List.map_map]
        rfl
      have referencedNamed : ∀ artifact ∈ named.artifacts, Referenced artifact := by
        cases transcript with
        | quiet none => exact referenced
        | written bytes objectId some encoded drawn =>
            intro artifact member
            rcases List.mem_append.mp member with earlier | last
            · exact referenced artifact earlier
            · rw [List.mem_singleton.mp last]
              rfl
      refine ⟨?_, ?_, ?_⟩
      · rw [uris_eq]
        cases transcript with
        | quiet none => exact ⟨.none, committedUris⟩
        | written bytes objectId some encoded drawn =>
            refine ⟨Option.some (core.digestOf bytes), ?_⟩
            have perm := committedUris.append_right [transcriptUri core (core.digestOf bytes)]
            simpa [uris, names, transcriptArtifact, ArtifactName.uri_transcript] using perm
      · rw [ids_eq]
        cases transcript with
        | quiet none => exact committed.drawn.subperm.trans (List.sublist_append_left _ _).subperm
        | written bytes objectId some encoded drawn =>
            have perm := committed.drawn.append_right [objectId]
            simpa [transcriptArtifact, drawn, Except.toOption] using perm.subperm
      · unfold expectedWorld
        rw [references, artifacts]
        exact .of_eq (uris_of_references named.artifacts referencedNamed)

end Closed

/-- A capture whose artifacts have distinct names and identifiers, which no test that compares
names ever refuses. -/
structure UniquelyNamed [DecidableEq Digest] (core : Core Digest Replay)
    (capture : AutomaticWorldCapture Digest) : Prop where
  uris : (capture.closure.artifacts.map (·.uri)).Nodup
  objectIds : (capture.closure.artifacts.map (·.objectId)).Nodup
  passes : ∀ spool io rejection,
    inspectArtifacts core capture.closure.world capture.closure.artifacts spool io =
      .error rejection → rejection.comparesNames = false

/-- A closed capture is uniquely named exactly when no two of its dependency observations have one
class and one request, and no two unowned observations left the same evidence at one place. -/
theorem closed_artifacts_unique_iff [DecidableEq Digest] (core : Core Digest Replay)
    (textual : TextualNames core) (operationId : OperationId)
    (registrations : AutomaticObservationClass → Option (AutomaticObservationRegistration Digest))
    (calls : List WorldCall) (completion : TriggerCompletion) (io : CloseIo)
    (capture : AutomaticWorldCapture Digest)
    (collisionFree : CollisionFree core
      (observedRun core (newWithRegistrations operationId registrations) calls).2)
    (fresh : ((observedRun core (newWithRegistrations operationId registrations) calls).2.drawn ++
      io.transcriptObjectId.toOption.toList).Nodup)
    (closed : (observedRun core (newWithRegistrations operationId registrations) calls).1.close
      core completion io = .ok capture) :
    UniquelyNamed core capture ↔
      DistinctRequests
        (observedRun core (newWithRegistrations operationId registrations) calls).2 := by
  have positioned := positioned_run core operationId registrations calls
  have commits := commits_run core operationId registrations calls
  have captures := captures_run core (newWithRegistrations operationId registrations) calls
  generalize observedRun core (newWithRegistrations operationId registrations) calls = state at *
  obtain ⟨world, history⟩ := state
  obtain ⟨named, effect⟩ := close_effect closed
  obtain ⟨publications, committed⟩ :=
    commits.committed (intact_of_closable captures effect.ready)
  obtain ⟨⟨transcript, perm⟩, drawn, referenced⟩ := namedCapture_of_committed committed effect
  have positions : history.finished.Pairwise PositionsDiffer :=
    positions_pairwise fun observationClass =>
      (positions_perm_range positioned (settled_of_closable commits.tracks effect.ready)
        (kept_of_closable commits.tracks effect.ready) observationClass).nodup_iff.mpr
        List.nodup_range
  have unique : (capture.closure.artifacts.map (·.uri)).Nodup ↔ DistinctRequests history := by
    rw [perm.nodup_iff, List.nodup_map_iff (uri_injective textual),
      names_nodup_iff collisionFree positions]
  have objectIds : (capture.closure.artifacts.map (·.objectId)).Nodup := by
    obtain ⟨ids, same, sublist⟩ := drawn
    exact same.nodup_iff.mp (fresh.sublist sublist)
  constructor
  · exact fun named => unique.mp named.uris
  · intro distinct
    exact
      { uris := unique.mpr distinct
        objectIds := objectIds
        passes := fun _ _ _ rejected =>
          inspectArtifacts_unique objectIds (unique.mpr distinct) referenced rejected }

/-! ## Concrete runs -/

/-- The plain core writes digests and boundaries as the model expects. -/
theorem textualNames_plainCore : TextualNames plainCore where
  digestText _ _ same := plainText_injective ((String.append_right_inj "sha256:").mp same)
  boundaryId := by
    intro observationClass other same
    cases observationClass <;> cases other <;> first | rfl | exact absurd same (by decide)
  prefixed digest := ⟨plainText digest, rfl⟩
  unbroken := by
    intro digest member
    have listed : '/' ∈ "sha256:".toList ∨ '/' ∈ (plainText digest).toList := by
      rwa [← List.mem_append, ← String.toList_append]
    rcases listed with head | rest
    · exact absurd head (by decide)
    · exact plainText_unbroken digest rest

/-- In the plain core no digests collide. -/
theorem collisionFree_plainCore (history : History) : CollisionFree plainCore history where
  requests _ _ _ _ same := same
  evidence _ _ _ _ same := same

/-- The theorem applies to a run that captures the environment and the clock. -/
theorem closed_artifacts_unique_iff_ambient :
    ∃ capture, (observedRun plainCore plainWorld plainCalls).1.close plainCore .returned
        plainCloseIo = .ok capture ∧
      (UniquelyNamed plainCore capture ↔
        DistinctRequests (observedRun plainCore plainWorld plainCalls).2) := by
  have closes : ((observedRun plainCore plainWorld plainCalls).1.close plainCore .returned
      plainCloseIo).isOk = true := by
    decide +kernel
  cases closed : (observedRun plainCore plainWorld plainCalls).1.close plainCore .returned
      plainCloseIo with
  | ok capture =>
      exact ⟨capture, rfl,
        closed_artifacts_unique_iff plainCore textualNames_plainCore _ _ plainCalls .returned
          plainCloseIo capture (collisionFree_plainCore _) (by decide +kernel) closed⟩
  | error error =>
      rw [closed] at closes
      cases closes

/-- One finished clock observation: its request is the one record of the clock. -/
def plainClock (sessionId sessionPosition objectId : Nat) (clock : UInt8) : List WorldCall :=
  [.session (.openObservation sessionId .clock none true plainOpenIo),
   .session (.writeObservation sessionId .request [0] { reserved := true, append := .complete }),
   .session (.dispatchObservation sessionId
    { validateRequest := true
      readRequest := true
      reserved := true
      writeResponse := .complete }),
   .session (.writeObservation sessionId .response [1, clock]
    { reserved := true, append := .complete }),
   .session (.finishObservation sessionId .response sessionPosition (plainFinishIo objectId))]

/-- A run that reads the clock twice. -/
def plainClocks : List WorldCall :=
  plainClock 7 0 1 5 ++ plainClock 8 1 3 6 ++ [.session (.bindNativeSentinelCoverage [1])]

/-- A file system that serves every look. -/
def plainInspectIo (_ : SpoolFile) : InspectIo where
  regular := true
  hashed := true
  read := true

/-- An inspection was refused for an equal name. -/
def saysDuplicate : Except Rejection Unit → Bool
  | .error .duplicateUri => true
  | _ => false

/-- The refusal that is meant. -/
theorem eq_of_saysDuplicate {inspected : Except Rejection Unit}
    (same : saysDuplicate inspected = true) : inspected = .error .duplicateUri := by
  unfold saysDuplicate at same
  split at same
  · rfl
  · cases same

/-- A run that reads the clock twice closes, and its artifacts are refused for an equal name. -/
theorem two_clock_reads_collide :
    ((observedRun plainCore plainWorld plainClocks).2.drawn ++
      plainCloseIo.transcriptObjectId.toOption.toList).Nodup ∧
    ∃ capture, (observedRun plainCore plainWorld plainClocks).1.close plainCore .returned
        plainCloseIo = .ok capture ∧
      ¬ (capture.closure.artifacts.map (·.uri)).Nodup ∧
      inspectArtifacts plainCore capture.closure.world capture.closure.artifacts capture.spool
        plainInspectIo = .error .duplicateUri := by
  refine ⟨by decide +kernel, ?_⟩
  have refused : ((observedRun plainCore plainWorld plainClocks).1.close plainCore .returned
      plainCloseIo).toOption.map (fun capture =>
        decide (¬ (capture.closure.artifacts.map (·.uri)).Nodup) &&
          saysDuplicate (inspectArtifacts plainCore capture.closure.world
            capture.closure.artifacts capture.spool plainInspectIo)) = some true := by
    decide +kernel
  cases closed : (observedRun plainCore plainWorld plainClocks).1.close plainCore .returned
      plainCloseIo with
  | ok capture =>
      rw [closed] at refused
      simp only [Except.toOption, Option.map_some, Option.some.injEq, Bool.and_eq_true,
        decide_eq_true_eq] at refused
      refine ⟨capture, rfl, refused.1, ?_⟩
      exact eq_of_saysDuplicate refused.2
  | error error =>
      rw [closed] at refused
      cases refused

end Managed
end ReproItSdk
