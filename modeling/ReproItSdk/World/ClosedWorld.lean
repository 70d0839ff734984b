import ReproItSdk.World.Positions

/-! # Complete closed Worlds

A coordinator that closes has published every finished observation exactly once: its observations,
the interactions of the transcript and the references of the checkpoint are built from one list of
publications, which follows the finished observations of the history in order.

Main results:

- Theorem {lit}`closed_world_is_complete`: a successful close publishes exactly the finished
  observations, with the digests and sizes of the bytes that were written.
-/

namespace ReproItSdk
namespace AutomaticWorld

open AutomaticWorldCoordinator

variable {Digest Replay : Type}

/-! ## The invariant -/

/-- A publication is the one of a finished observation. -/
structure PublishedAs (core : Core Digest Replay) (operationId : OperationId)
    (entry : ObservationLog × DependencyOutcome) (publication : Publication Digest) : Prop where
  sameClass : publication.observationClass = entry.1.observationClass
  sameParent : publication.causalParentId = entry.1.causalParentId
  samePosition : publication.sessionPosition = entry.1.sessionPosition
  sameOutcome : publication.outcome = entry.2
  sameRequest : publication.request = entry.1.request
  sameResponse : publication.response = entry.1.response
  requestPath : publication.requestPath = .sessionRequest entry.1.sessionId
  responsePath : publication.responsePath = .sessionResponse entry.1.sessionId
  evidenced : core.canonicalDigest (publication.evidence core operationId) =
    .ok publication.evidenceDigest

/-- The artifact that an unowned observation left. -/
def UnownedLog.artifact (core : Core Digest Replay) (log : UnownedLog) :
    ObservationArtifact Digest :=
  unownedArtifact core log.sequence log.evidence log.objectId

/-- The coordinator has published a list of publications, one for each finished observation. -/
structure Committed (core : Core Digest Replay) (world : AutomaticWorldCoordinator Digest Replay)
    (history : History) (publications : List (Publication Digest)) : Prop where
  logs : List.Forall₂ (PublishedAs core world.operationId) history.finished publications
  observations : world.observations =
    publications.map fun publication => publication.observation core world.operationId
  interactions : world.dependencyInteractions =
    publications.flatMap fun publication => publication.interactions core world.operationId
  sequences : world.observations.map (·.observationSequence) =
    List.range world.observations.length
  interactionSequences : world.dependencyInteractions.map (·.sequence) =
    List.range world.dependencyInteractions.length
  artifacts : world.artifacts.Perm
    (publications.flatMap (fun publication => publication.artifacts core) ++
      history.unowned.map fun log => log.artifact core)
  drawn : (world.artifacts.map (·.artifact.objectId)).Perm history.drawn

/-- A capture that remembers no loss. -/
def Intact (world : AutomaticWorldCoordinator Digest Replay) : Prop :=
  world.captures = true ∧ world.incompleteSession = false ∧
    ∀ observation ∈ world.observations, observation.ownerAdapterId ≠ none

/-- A coordinator whose extension is intact is intact. -/
theorem Extends.intact {before after : AutomaticWorldCoordinator Digest Replay}
    (extended : Extends before after) (intact : Intact after) : Intact before := by
  obtain ⟨captures, complete, owned⟩ := intact
  refine ⟨extended.captures.symm.trans captures, ?_, ?_⟩
  · cases lost : before.incompleteSession with
    | false => rfl
    | true => simp [extended.incomplete lost] at complete
  · exact fun observation member => owned observation (extended.observations.subset member)

/-- The coordinator tracks its history, and has published it while it is intact. -/
structure Commits (core : Core Digest Replay) (world : AutomaticWorldCoordinator Digest Replay)
    (history : History) : Prop where
  tracks : Tracks world history
  committed : Intact world → ∃ publications, Committed core world history publications

/-- What a call leaves alone when it publishes nothing. -/
theorem Commits.kept {core : Core Digest Replay}
    {world next : AutomaticWorldCoordinator Digest Replay} {history later : History}
    (commits : Commits core world history) (tracks : Tracks next later)
    (extended : Extends world next)
    (same : Intact next → next.artifacts = world.artifacts ∧
      next.dependencyInteractions = world.dependencyInteractions ∧
      next.observations = world.observations ∧ later.finished = history.finished ∧
      later.unowned = history.unowned ∧ later.drawn = history.drawn) :
    Commits core next later where
  tracks := tracks
  committed := by
    intro intact
    obtain ⟨publications, committed⟩ := commits.committed (extended.intact intact)
    obtain ⟨artifacts, interactions, observations, finished, unowned, drawn⟩ := same intact
    have operation := extended.operationId
    refine ⟨publications, ?_⟩
    constructor
    · rw [finished, operation]
      exact committed.logs
    · rw [observations, operation]
      exact committed.observations
    · rw [interactions, operation]
      exact committed.interactions
    · rw [observations]
      exact committed.sequences
    · rw [interactions]
      exact committed.interactionSequences
    · rw [artifacts, unowned]
      exact committed.artifacts
    · rw [artifacts, drawn]
      exact committed.drawn

/-! ## One call -/

/-- Object identifiers of the artifacts of a publication. -/
theorem objectIds_of_publishes {core : Core Digest Replay}
    {world : AutomaticWorldCoordinator Digest Replay} {session : ObservationSession}
    {outcome : DependencyOutcome} {io : FinishIo} {publication : Publication Digest}
    (published : world.Publishes core session outcome io publication) :
    (publication.artifacts core).map (·.artifact.objectId) =
      History.drawnIds session.observationClass io := by
  unfold Publication.artifacts History.drawnIds
  rw [published.sameClass, published.responseDrawn]
  split
  · rename_i dependency
    rw [published.requestDrawn dependency]
    rfl
  · rfl

/-- The interactions of a publication number themselves after the earlier ones. -/
theorem interactionSequence_of_publishes {core : Core Digest Replay}
    {world : AutomaticWorldCoordinator Digest Replay} {session : ObservationSession}
    {outcome : DependencyOutcome} {io : FinishIo} {publication : Publication Digest}
    (published : world.Publishes core session outcome io publication)
    (numbered : world.dependencyInteractions.map (·.sequence) =
      List.range world.dependencyInteractions.length) :
    (world.dependencyInteractions ++
        publication.interactions core world.operationId).map (·.sequence) =
      List.range (world.dependencyInteractions ++
        publication.interactions core world.operationId).length := by
  unfold Publication.interactions
  split
  · simp [numbered, Publication.interaction, published.interactionNext, List.range_succ]
  · simp [numbered]

/-- A publication follows the one call that finishes its observation. -/
theorem committed_publish {core : Core Digest Replay}
    {world : AutomaticWorldCoordinator Digest Replay} {history : History} {sessionId : Nat}
    {session : ObservationSession} {log : ObservationLog} {outcome : DependencyOutcome}
    {io : FinishIo} {publication : Publication Digest}
    {publications : List (Publication Digest)} (intact : Intact world)
    (committed : Committed core world history publications)
    (agrees : SessionAgrees world sessionId session log)
    (published : world.Publishes core session outcome io publication) :
    Committed core ({ world with sessions := world.sessions.erase sessionId }.publish core
        publication)
      (History.finish outcome log (History.draw (History.drawnIds log.observationClass io)
        { history with live := history.live.erase sessionId }))
      (publications ++ [publication]) where
  logs := by
    refine List.rel_append committed.logs (.cons ?_ .nil)
    have request := (agrees.requestStored intact.2.1).1
    have response := (agrees.responseStored intact.2.1 intact.1).1
    rw [← agrees.requestPath, published.requestStored] at request
    rw [← agrees.responsePath, published.responseStored] at response
    exact
      { sameClass := published.sameClass.trans agrees.sameClass
        sameParent := published.sameParent.trans agrees.sameParent
        samePosition := published.samePosition.trans agrees.samePosition
        sameOutcome := published.sameOutcome
        sameRequest := Option.some.inj request
        sameResponse := Option.some.inj response
        requestPath := by rw [published.sameRequestPath, agrees.requestPath, agrees.sameId]
        responsePath := by rw [published.sameResponsePath, agrees.responsePath, agrees.sameId]
        evidenced := published.evidenced }
  observations := by simp [publish, committed.observations]
  interactions := by simp [publish, committed.interactions]
  sequences := by
    simp [publish, committed.sequences, Publication.observation, published.observationNext,
      List.range_succ]
  interactionSequences := by
    simpa only [publish] using
      interactionSequence_of_publishes published committed.interactionSequences
  artifacts := by
    simp only [publish, History.finish, History.draw, List.flatMap_append, List.flatMap_singleton,
      List.append_assoc]
    have moved := (committed.artifacts.append_right (publication.artifacts core))
    rw [List.append_assoc] at moved
    exact moved.trans (List.Perm.append_left _ List.perm_append_comm)
  drawn := by
    simp only [publish, History.finish, History.draw, List.map_append,
      objectIds_of_publishes published, agrees.sameClass]
    exact committed.drawn.append_right _

/-- A finish of an intact coordinator publishes its observation. -/
theorem commits_finish (core : Core Digest Replay)
    {world next : AutomaticWorldCoordinator Digest Replay} {history : History} {sessionId : Nat}
    {outcome : DependencyOutcome} {sessionPosition : Nat} {io : FinishIo}
    {reply : Except Error Unit} (commits : Commits core world history)
    (effect : world.FinishEffect core sessionId outcome io reply next) :
    Commits core next (history.record
      { before := world
        call := .finishObservation sessionId outcome sessionPosition io
        reply := reply.map fun _ => .done
        after := next }) := by
  have extended := effect.extends
  refine ⟨tracks_finish commits.tracks effect, fun intact => ?_⟩
  obtain ⟨publications, committed⟩ := commits.committed (extended.intact intact)
  cases effect with
  | unknown absent =>
      refine ⟨publications, ?_⟩
      simpa [History.record, History.endLog, commits.tracks.no_log absent] using committed
  | lost error session present artifacts interactions =>
      simp [Intact] at intact
  | replayed session replay present complete replays =>
      simp [Intact, captures, replays] at intact
  | published session publication present complete captures published =>
      obtain ⟨log, logged, agrees⟩ := commits.tracks.log_of_session present
      refine ⟨publications ++ [publication], ?_⟩
      simp only [History.record, Except.map, History.endLog, logged]
      exact committed_publish (extended.intact intact) committed agrees published

/-- An unowned observation leaves its artifact in an intact coordinator. -/
theorem commits_markUnowned (core : Core Digest Replay)
    {world next : AutomaticWorldCoordinator Digest Replay} {history : History}
    {observationClass : AutomaticObservationClass} {causalParentId : Option OperationId}
    {evidence : Bytes} {io : UnownedIo} {reply : Except Error Unit}
    (commits : Commits core world history)
    (effect : world.UnownedEffect core observationClass causalParentId evidence io reply next) :
    Commits core next (history.record
      { before := world
        call := .markUnowned observationClass causalParentId evidence io
        reply := reply.map fun _ => .done
        after := next }) := by
  have tracks := tracks_markUnowned commits.tracks effect
  have extended := effect.extends
  cases effect with
  | replays error none replays =>
      refine commits.kept tracks extended fun intact => ?_
      simp [Intact, loseSession] at intact
  | dropped error none =>
      refine commits.kept tracks extended fun _ => ?_
      simp [History.record, none, dropObservation]
  | unstored error spool quiet none others =>
      refine commits.kept tracks extended fun _ => ?_
      simp [History.record, none]
  | unrecorded error spool objectId quiet some others =>
      refine ⟨tracks, fun intact => ?_⟩
      obtain ⟨publications, committed⟩ := commits.committed (extended.intact intact)
      refine ⟨publications, ?_⟩
      simp only [History.record, some]
      refine { committed with artifacts := ?_, drawn := ?_ }
      · simp only [List.map_append, List.map_singleton]
        rw [← List.append_assoc]
        exact committed.artifacts.append_right _
      · simp only [List.map_append, List.map_singleton]
        exact committed.drawn.append_right _
  | recorded spool objectId some captures others =>
      refine ⟨tracks, fun intact => ?_⟩
      have owned := intact.2.2 _ (List.mem_append_right _ (List.mem_singleton_self _))
      exact absurd rfl owned

/-- A call that publishes nothing and ends no observation keeps the commits. -/
theorem Commits.unpublished {core : Core Digest Replay}
    {world next : AutomaticWorldCoordinator Digest Replay} {history later : History}
    (commits : Commits core world history) (tracks : Tracks next later)
    (unpublished : Unpublished world next) (finished : later.finished = history.finished)
    (unowned : later.unowned = history.unowned) (drawn : later.drawn = history.drawn) :
    Commits core next later :=
  commits.kept tracks unpublished.extends fun _ =>
    ⟨unpublished.artifacts, unpublished.interactions, unpublished.observations, finished, unowned,
      drawn⟩

/-- Every session call keeps the commits. -/
theorem commits_perform (core : Core Digest Replay)
    (world : AutomaticWorldCoordinator Digest Replay) (history : History) (call : SessionCall)
    (commits : Commits core world history) :
    Commits core (perform core world call).2
      (history.record (Runs.answer (perform core) world call)) := by
  have tracks := tracks_perform core world history call commits.tracks
  have kept : ∀ sessionId change, (history.updateLog sessionId change).finished =
        history.finished ∧
      (history.updateLog sessionId change).unowned = history.unowned ∧
      (history.updateLog sessionId change).drawn = history.drawn := by
    intro sessionId change
    unfold History.updateLog
    split <;> exact ⟨rfl, rfl, rfl⟩
  cases call with
  | openObservation sessionId observationClass causalParentId semanticContract io =>
      have effect := openObservationInner_effect world sessionId observationClass causalParentId
        semanticContract io
      refine commits.unpublished tracks effect.unpublished ?_ ?_ ?_
      all_goals
        simp only [History.record, Runs.answer]
        split <;> rfl
  | writeObservation sessionId stream chunk io =>
      have effect := writeObservation_effect world sessionId stream chunk io
      refine commits.unpublished tracks effect.unpublished ?_ ?_ ?_
      all_goals
        simp only [History.record, Runs.answer]
        split
        · simp only [kept]
        · rfl
  | dispatchObservation sessionId io =>
      have effect := dispatchObservation_effect core world sessionId io
      refine commits.unpublished tracks effect.unpublished ?_ ?_ ?_
      all_goals
        simp only [History.record, Runs.answer]
        split
        · simp only [kept]
        · rfl
  | readObservationResponse sessionId io =>
      exact commits.unpublished tracks
        (readObservationResponse_effect world sessionId io).unpublished rfl rfl rfl
  | finishObservation sessionId outcome sessionPosition io =>
      exact commits_finish core commits
        (finishObservation_effect core world sessionId outcome sessionPosition io)
  | abandonObservation sessionId =>
      have effect := abandonObservation_effect world sessionId
      refine commits.unpublished tracks effect.unpublished ?_ ?_ ?_
      all_goals
        simp only [History.record, History.endLog, Runs.answer]
        split <;> rfl
  | markUnowned observationClass causalParentId evidence io =>
      exact commits_markUnowned core commits
        (markUnowned_effect core world observationClass causalParentId evidence io)
  | bindNativeSentinelCoverage evidence =>
      exact commits.unpublished tracks
        (bindNativeSentinelCoverage_effect core world evidence).unpublished rfl rfl rfl
  | invalidateAmbientContext =>
      exact commits.unpublished tracks ⟨rfl, fun _ => rfl, id, rfl, rfl, rfl, rfl⟩ rfl rfl rfl

/-! ## Runs -/

/-- Every run keeps the commits. -/
theorem commits_preserved (core : Core Digest Replay) :
    Preserved core (Commits core) where
  session := commits_perform core
  numbered _ _ _ commits :=
    commits.unpublished ((tracks_preserved core).numbered _ _ _ commits.tracks)
      ⟨rfl, id, id, rfl, rfl, rfl, rfl⟩ rfl rfl rfl
  dropped _ _ commits :=
    commits.unpublished ((tracks_preserved core).dropped _ _ commits.tracks)
      ⟨rfl, id, fun _ => rfl, rfl, rfl, rfl, rfl⟩ rfl rfl rfl

/-- An intact coordinator has published its finished observations. -/
theorem commits_run (core : Core Digest Replay) (operationId : OperationId)
    (registrations : AutomaticObservationClass → Option (AutomaticObservationRegistration Digest))
    (calls : List WorldCall) :
    Commits core (observedRun core (newWithRegistrations operationId registrations) calls).1
      (observedRun core (newWithRegistrations operationId registrations) calls).2 := by
  refine (commits_preserved core).run ⟨tracks_empty rfl, fun _ => ⟨[], ?_⟩⟩ calls
  exact ⟨.nil, rfl, rfl, rfl, rfl, .nil, .nil⟩

/-! ## What a finished observation is published as -/

/-- The interaction of a finished observation. -/
structure InteractionOf (core : Core Digest Replay) (operationId : OperationId)
    (entry : ObservationLog × DependencyOutcome)
    (interaction : DependencyTranscriptInteraction Digest) : Prop where
  operation : interaction.operationId = operationId
  sameParent : interaction.causalParentId = entry.1.causalParentId
  samePosition : interaction.sessionPosition = entry.1.sessionPosition
  sameOutcome : interaction.outcome = entry.2
  requestDigest : interaction.requestDigest = core.sha256 entry.1.request
  responseDigest : interaction.responseDigest = core.sha256 entry.1.response

/-- The reference of a finished observation. -/
structure ReferenceOf (core : Core Digest Replay) (entry : ObservationLog × DependencyOutcome)
    (reference : ArtifactReference Digest) : Prop where
  digest : reference.digest = core.sha256 entry.1.response
  size : reference.size = entry.1.response.length
  uri : reference.uri = stateUri core entry.1.observationClass (core.sha256 entry.1.request)
    entry.1.sessionPosition entry.2

/-- The record of a finished observation: its evidence is the digest of its interaction or of its
reference. -/
structure ObservationOf (core : Core Digest Replay) (operationId : OperationId)
    (entry : ObservationLog × DependencyOutcome)
    (observation : AutomaticObservationPayload Digest) : Prop where
  operation : observation.operationId = operationId
  sameClass : observation.observationClass = entry.1.observationClass
  sameParent : observation.causalParentId = entry.1.causalParentId
  owned : observation.ownerAdapterId ≠ none
  dependency : isDependencyClass entry.1.observationClass = true → ∃ interaction,
    InteractionOf core operationId entry interaction ∧
      core.canonicalDigest (.interaction interaction) = .ok observation.evidenceDigest
  state : isDependencyClass entry.1.observationClass = false → ∃ reference,
    ReferenceOf core entry reference ∧
      core.canonicalDigest (.reference reference) = .ok observation.evidenceDigest

section Published

variable {core : Core Digest Replay} {operationId : OperationId}
  {entry : ObservationLog × DependencyOutcome} {publication : Publication Digest}
  {finished : List (ObservationLog × DependencyOutcome)}
  {publications : List (Publication Digest)}

/-- The interaction of a publication is that of its observation. -/
theorem PublishedAs.interactionOf (published : PublishedAs core operationId entry publication) :
    InteractionOf core operationId entry (publication.interaction core operationId) where
  operation := rfl
  sameParent := published.sameParent
  samePosition := published.samePosition
  sameOutcome := published.sameOutcome
  requestDigest := by rw [← published.sameRequest]; rfl
  responseDigest := by rw [← published.sameResponse]; rfl

/-- The reference of a publication is that of its observation. -/
theorem PublishedAs.referenceOf (published : PublishedAs core operationId entry publication) :
    ReferenceOf core entry (publication.reference core) where
  digest := by rw [← published.sameResponse]; rfl
  size := by rw [← published.sameResponse]; rfl
  uri := by
    rw [← published.sameClass, ← published.sameRequest, ← published.samePosition,
      ← published.sameOutcome]
    rfl

/-- The record of a publication is that of its observation. -/
theorem PublishedAs.observationOf (published : PublishedAs core operationId entry publication) :
    ObservationOf core operationId entry (publication.observation core operationId) where
  operation := rfl
  sameClass := published.sameClass
  sameParent := published.sameParent
  owned := Option.some_ne_none _
  dependency := by
    intro dependency
    have evidenced := published.evidenced
    rw [Publication.evidence, published.sameClass, if_pos dependency] at evidenced
    exact ⟨_, published.interactionOf, evidenced⟩
  state := by
    intro state
    have evidenced := published.evidenced
    rw [Publication.evidence, published.sameClass, if_neg (by simp [state])] at evidenced
    exact ⟨_, published.referenceOf, evidenced⟩

/-- Each finished observation of a dependency class has one interaction. -/
theorem interactions_of_published
    (logs : List.Forall₂ (PublishedAs core operationId) finished publications) :
    List.Forall₂ (InteractionOf core operationId)
      (finished.filter fun entry => isDependencyClass entry.1.observationClass)
      (publications.flatMap fun publication => publication.interactions core operationId) := by
  induction logs with
  | nil => exact .nil
  | @cons entry publication finished publications published _ ih =>
      rw [List.flatMap_cons, Publication.interactions, published.sameClass, List.filter_cons]
      split
      · exact .cons published.interactionOf ih
      · exact ih

/-- Each finished observation of a state class has one reference. -/
theorem references_of_published
    (logs : List.Forall₂ (PublishedAs core operationId) finished publications) :
    List.Forall₂ (ReferenceOf core)
      (finished.filter fun entry => !isDependencyClass entry.1.observationClass)
      ((publications.flatMap fun publication => publication.artifacts core).filterMap
        (·.reference)) := by
  induction logs with
  | nil => exact .nil
  | @cons entry publication finished publications published _ ih =>
      rw [List.flatMap_cons, List.filterMap_append, Publication.artifacts, published.sameClass,
        List.filter_cons]
      cases isDependencyClass entry.1.observationClass with
      | true => exact ih
      | false => exact .cons published.referenceOf ih

/-- Each finished observation has one record. -/
theorem observations_of_published
    (logs : List.Forall₂ (PublishedAs core operationId) finished publications) :
    List.Forall₂ (ObservationOf core operationId) finished
      (publications.map fun publication => publication.observation core operationId) := by
  rw [List.forall₂_map_right_iff]
  exact logs.imp fun _ _ published => published.observationOf

end Published

/-! ## Closing -/

/-- A coordinator that may close is intact. -/
theorem intact_of_closable {world : AutomaticWorldCoordinator Digest Replay}
    (captures : world.captures = true) (ready : world.closable = true) : Intact world := by
  simp only [closable, Bool.and_eq_true, Bool.not_eq_true', List.all_eq_true] at ready
  refine ⟨captures, ready.1.1.1.1.1.2, fun observation member unowned => ?_⟩
  have owned := ready.1.1.2 observation member
  simp [unowned] at owned

/-- A coordinator that may close has no open session. -/
theorem settled_of_closable {world : AutomaticWorldCoordinator Digest Replay} {history : History}
    (tracks : Tracks world history) (ready : world.closable = true) :
    ∀ sessionId, history.live.lookup sessionId = none := by
  intro sessionId
  simp only [closable, Bool.and_eq_true, beq_iff_eq] at ready
  exact tracks.no_log ((KeyedTable.size_eq_zero_iff world.sessions).mp ready.1.1.1.1.2 sessionId)

/-- A coordinator that may close has lost no observation. -/
theorem kept_of_closable {world : AutomaticWorldCoordinator Digest Replay} {history : History}
    (tracks : Tracks world history) (ready : world.closable = true) : history.lost = [] := by
  by_contra lost
  simp [closable, tracks.lost lost] at ready

/-- What a close publishes of the observations of a run. -/
structure CompleteWorld (core : Core Digest Replay)
    (world : AutomaticWorldCoordinator Digest Replay) (history : History)
    (capture : AutomaticWorldCapture Digest) : Prop where
  settled : ∀ sessionId, history.live.lookup sessionId = none
  kept : history.lost = []
  observations :
    List.Forall₂ (ObservationOf core world.operationId) history.finished world.observations
  sequences : world.observations.map (·.observationSequence) = List.range world.observations.length
  positions : ∀ observationClass, (history.positions observationClass).Perm
    (List.range (history.positions observationClass).length)
  interactions : List.Forall₂ (InteractionOf core world.operationId)
    (history.finished.filter fun entry => isDependencyClass entry.1.observationClass)
    world.dependencyInteractions
  interactionSequences : world.dependencyInteractions.map (·.sequence) =
    List.range world.dependencyInteractions.length
  transcript : world.dependencyInteractions ≠ [] → ∃ bytes,
    core.canonicalBytes (.transcript world.dependencyTranscript) = .ok bytes ∧
      capture.spool .dependencyTranscript = some bytes
  references : ∃ references,
    List.Forall₂ (ReferenceOf core)
      (history.finished.filter fun entry => !isDependencyClass entry.1.observationClass)
      references ∧
    (capture.closure.world.points.flatMap (·.artifacts)).Perm
      (references ++ history.unowned.filterMap fun log => (log.artifact core).reference)
  fence : world.Fences core capture.fence

/-- A successful close publishes exactly the finished observations of its run, in order, with the
digests and sizes of the bytes that were written. -/
theorem closed_world_is_complete (core : Core Digest Replay) (operationId : OperationId)
    (registrations : AutomaticObservationClass → Option (AutomaticObservationRegistration Digest))
    (calls : List WorldCall) (completion : TriggerCompletion) (io : CloseIo)
    (capture : AutomaticWorldCapture Digest)
    (closed : (observedRun core (newWithRegistrations operationId registrations) calls).1.close
      core completion io = .ok capture) :
    CompleteWorld core (observedRun core (newWithRegistrations operationId registrations) calls).1
      (observedRun core (newWithRegistrations operationId registrations) calls).2 capture := by
  have commits := commits_run core operationId registrations calls
  have positioned := positioned_run core operationId registrations calls
  have captures := captures_run core (newWithRegistrations operationId registrations) calls
  generalize observedRun core (newWithRegistrations operationId registrations) calls = state at *
  obtain ⟨world, history⟩ := state
  obtain ⟨named, effect⟩ := close_effect closed
  have ready := effect.ready
  have settled := settled_of_closable commits.tracks ready
  have kept := kept_of_closable commits.tracks ready
  obtain ⟨publications, committed⟩ := commits.committed (intact_of_closable captures ready)
  -- Naming the transcript changes neither the observations nor the references.
  have same : named.observations = world.observations ∧
      named.worldReferences = world.worldReferences ∧ named.operationId = world.operationId ∧
      named.droppedObservationCount = world.droppedObservationCount ∧
      named.overflowed = world.overflowed := by
    cases effect.transcript with
    | quiet none => exact ⟨rfl, rfl, rfl, rfl, rfl⟩
    | written bytes objectId some encoded drawn =>
        refine ⟨rfl, ?_, rfl, rfl, rfl⟩
        simp [worldReferences, transcriptArtifact]
  obtain ⟨sameObservations, sameReferences, sameOperation, sameDropped, sameOverflowed⟩ := same
  constructor
  · exact settled
  · exact kept
  · rw [committed.observations]
    exact observations_of_published committed.logs
  · exact committed.sequences
  · intro observationClass
    have perm := positions_perm_range positioned settled kept observationClass
    rw [perm.length_eq, List.length_range]
    exact perm
  · rw [committed.interactions]
    exact interactions_of_published committed.logs
  · exact committed.interactionSequences
  · intro some
    cases effect.transcript with
    | quiet none => exact absurd none some
    | written bytes objectId _ encoded drawn =>
        exact ⟨bytes, encoded, by simp [effect.spool]⟩
  · refine ⟨_, references_of_published committed.logs, ?_⟩
    rw [effect.references, sameReferences, worldReferences]
    have perm := committed.artifacts.filterMap (·.reference)
    rwa [List.filterMap_append, List.filterMap_map] at perm
  · obtain ⟨count, digest, operation, dropped, complete⟩ := effect.fenced
    rw [sameObservations] at count digest
    exact ⟨count, digest, operation.trans sameOperation, dropped.trans sameDropped,
      complete.trans sameOverflowed⟩

/-! ## A concrete run -/

/-- A finish whose steps succeed. -/
def plainFinishIo (objectId : Nat) : FinishIo where
  validateRequest := true
  validateResponse := true
  digestRequest := true
  digestResponse := true
  requestObjectId := .ok { value := objectId }
  responseObjectId := .ok { value := objectId + 1 }
  recorded := .ok ()

/-- An internal session whose steps succeed. -/
def plainInternalIo (objectId : Nat) : InternalIo where
  opening := plainOpenIo
  request := { reserved := true, append := .complete }
  dispatch :=
    { validateRequest := true
      readRequest := true
      reserved := true
      writeResponse := .complete }
  response := { reserved := true, append := .complete }
  finish := plainFinishIo objectId

/-- An ambient capture whose steps succeed. -/
def plainAmbientIo : AmbientIo where
  environment := [([1], [2])]
  environmentSession := plainInternalIo 1
  clock := .ok "2024-01-01T00:00:00.000Z"
  clockSession := plainInternalIo 3

/-- A run that captures the environment and the clock under a clean kernel trace. -/
def plainCalls : List WorldCall :=
  [.captureAmbient plainAmbientIo, .session (.bindNativeSentinelCoverage [1])]

/-- The theorem applies to a run that captures the environment and the clock. -/
theorem closed_world_is_complete_ambient :
    ∃ capture, (observedRun plainCore plainWorld plainCalls).1.close plainCore .returned
        plainCloseIo = .ok capture ∧
      CompleteWorld plainCore (observedRun plainCore plainWorld plainCalls).1
        (observedRun plainCore plainWorld plainCalls).2 capture := by
  have closes : ((observedRun plainCore plainWorld plainCalls).1.close plainCore .returned
      plainCloseIo).isOk = true := by
    decide +kernel
  cases closed : (observedRun plainCore plainWorld plainCalls).1.close plainCore .returned
      plainCloseIo with
  | ok capture =>
      exact ⟨capture, rfl,
        closed_world_is_complete plainCore _ _ plainCalls .returned plainCloseIo capture closed⟩
  | error error =>
      rw [closed] at closes
      cases closes

end AutomaticWorld
end ReproItSdk
