import ReproItSdk.Engine.Residue
import Mathlib.Data.List.Induction

/-! # What the sentinel still tracks

The sentinel attributes kernel events to the observations it tracks.  The engine tells it when an
observation is finished, abandoned or cleaned up and when an operation ends.  The low-level calls
that write, dispatch and read release an observation when its session or its operation refuses
them, and do not tell the sentinel.

Main results:

- Theorem {lit}`released_observation_stays_tracked`: a dispatch that fails leaves its observation
  behind.
- Theorem {lit}`TableStep.agrees` and {lit}`agrees_of_touches`: what every step keeps.
- Theorem {lit}`sentinel_agrees`: the runs in which no such call is refused.
-/

namespace ReproItSdk
namespace Engine

variable {Engine Begin Operation Digest Sink : Type}

/-! ## Agreement -/

/-- Every observation that the sentinel tracks is open, and belongs to the operation that the
sentinel attributes its events to. -/
def Agrees (state : EngineState Engine Operation Digest Sink) : Prop :=
  ∀ handle observation, state.active handle = some observation →
    ∃ entry, state.observation? handle = some entry ∧
      entry.operationHandle = observation.operationHandle

/-- A dispatch without a request is refused.  The engine releases the observation, and the sentinel
goes on tracking it. -/
theorem released_observation_stays_tracked :
    ¬ Agrees ((EngineSystem.new (fun _ => plainSurroundings) true :
      EngineSystem Unit Unit Unit Unit).after plainPort
        [.call { format := callFormat, call := .engineOpen (.ok ()) },
          .call { format := callFormat, call := .operationBegin () 1 },
          .call { format := callFormat, call := .observationOpen none .database 2 },
          .call { format := callFormat, call := .observationDispatch 3 }]).shared := by
  intro agrees
  obtain ⟨entry, present, -⟩ := agrees 3
    { operationHandle := 2, observationClass := .database, threadId := 0, dispatched := false } rfl
  cases present

/-! ## Steps that name no observation -/

section Tables

variable {port : EnginePort Engine Begin Operation Digest}
  {before after : EngineState Engine Operation Digest Sink}

/-- An observation of another operation survives the end of an operation. -/
theorem observation?_detach {state : EngineState Engine Operation Digest Sink}
    {operationHandle handle : Nat} {entry : ObservationEntry Digest} :
    (state.detach operationHandle).observation? handle = some entry ↔
      state.observation? handle = some entry ∧ entry.operationHandle ≠ operationHandle := by
  refine KeyedTable.lookup_retain_eq_some.trans ?_
  simp [EngineState.observation?]

/-- The observations of other operations survive the end of some. -/
theorem observation?_foldl_detach (operationHandles : List Nat)
    {state : EngineState Engine Operation Digest Sink} {handle : Nat}
    {entry : ObservationEntry Digest} :
    (operationHandles.foldl EngineState.detach state).observation? handle = some entry ↔
      state.observation? handle = some entry ∧ entry.operationHandle ∉ operationHandles := by
  induction operationHandles generalizing state with
  | nil => simp
  | cons operationHandle operationHandles ih =>
      rw [List.foldl_cons, ih, observation?_detach, List.mem_cons, not_or, and_assoc]

/-- The observations of other engines survive the end of one. -/
theorem observation?_closeEngine {state : EngineState Engine Operation Digest Sink}
    {engineHandle handle : Nat} {entry : ObservationEntry Digest}
    (present : state.observation? handle = some entry)
    (apart : entry.operationHandle ∉ state.registry.operationsOf engineHandle) :
    (state.closeEngine engineHandle).observation? handle = some entry := by
  let opened := state.withRegistry fun registry =>
    { registry with engines := registry.engines.erase engineHandle }
  have kept : ((state.registry.operationsOf engineHandle).foldl EngineState.detach
      opened).observation? handle = some entry :=
    (observation?_foldl_detach _).mpr ⟨present, apart⟩
  simp only [EngineState.closeEngine, EngineState.removeEngineSinks, EngineState.afterSentinel,
    EngineState.withRegistry, EngineState.noted, EngineState.observation?,
    Registry.removeEngineOperations, registry_cancelTasks]
  exact kept

/-- Dropping an operation keeps the agreement. -/
theorem Agrees.detach (agrees : Agrees before) (operationHandle : Nat) :
    Agrees (before.detach operationHandle) := by
  intro handle observation tracked
  obtain ⟨was, apart⟩ := active_detach.mp tracked
  obtain ⟨entry, present, same⟩ := agrees handle observation was
  exact ⟨entry, observation?_detach.mpr ⟨present, same ▸ apart⟩, same⟩

/-- An explained observation is open before the step. -/
theorem Agrees.open_of_explained (agrees : Agrees before) {handle : Nat}
    {observation : Sentinel.ActiveObservation} (explained : Explained before handle observation) :
    ∃ entry, before.observation? handle = some entry ∧
      entry.operationHandle = observation.operationHandle := by
  rcases explained with ⟨old, was, same⟩ | present
  · obtain ⟨entry, present, owner⟩ := agrees handle old was
    exact ⟨entry, present, owner.trans same⟩
  · exact present

/-- A step that leaves the observations alone keeps the agreement. -/
theorem Agrees.of_same (agrees : Agrees before) (step : TableStep port before after)
    (same : after.registry.observations = before.registry.observations) : Agrees after := by
  intro handle observation tracked
  obtain ⟨entry, present, owner⟩ := agrees.open_of_explained (step.explains tracked)
  refine ⟨entry, ?_, owner⟩
  rw [EngineState.observation?, same]
  exact present

/-- Every step that names no observation keeps the agreement. -/
theorem TableStep.agrees (step : TableStep port before after) (fresh : Fresh before)
    (agrees : Agrees before) : Agrees after := by
  have kept := agrees.of_same step
  cases step with
  | operation operationHandle entry operation present moved => exact kept rfl
  | heard call quiet => exact kept rfl
  | announced observationHandle entry observationClass present => exact kept rfl
  | skipped => exact kept rfl
  | engineOpened engine room => exact kept rfl
  | operationStarted entry room owned => exact kept rfl
  | observationOpened entry room owned =>
      intro handle observation tracked
      obtain ⟨old, present, owner⟩ := agrees handle observation tracked
      have other : handle ≠ before.registry.nextHandle :=
        Nat.ne_of_lt (fresh.active handle observation tracked)
      exact ⟨old, (AList.lookup_insert_ne other).trans present, owner⟩
  | detached operationHandle => exact agrees.detach operationHandle
  | ended operationHandle how entry present => exact agrees.detach operationHandle
  | engineClosed engineHandle =>
      intro handle observation tracked
      obtain ⟨was, apart⟩ := active_closeEngine tracked
      obtain ⟨entry, present, owner⟩ := agrees handle observation was
      exact ⟨entry, observation?_closeEngine present (owner ▸ apart), owner⟩
  | entrusted entry job present room => exact agrees.detach job.operationHandle

/-- Calls that name no observation keep the agreement. -/
theorem TableSteps.agrees (steps : TableSteps port before after) (fresh : Fresh before)
    (agrees : Agrees before) : Fresh after ∧ Agrees after := by
  induction steps with
  | refl => exact ⟨fresh, agrees⟩
  | tail _ step ih => exact ⟨(EngineStep.table _ step).fresh ih.1, step.agrees ih.1 ih.2⟩

end Tables

/-! ## Calls on an observation -/

section Observations

variable {port : EnginePort Engine Begin Operation Digest}
  {before after : EngineState Engine Operation Digest Sink} {observationHandle : Nat}

/-- The calls on an observation keep the operation that the sentinel knows. -/
theorem Touches.active_owner (touches : Touches port observationHandle before after)
    {operationHandle : Nat} (belongs : Belongs observationHandle operationHandle before)
    (known : ∀ observation, before.active observationHandle = some observation →
      observation.operationHandle = operationHandle) :
    ∀ observation, after.active observationHandle = some observation →
      observation.operationHandle = operationHandle := by
  induction touches with
  | refl => exact known
  | tail made step ih =>
      intro observation tracked
      rcases step.explains tracked with ⟨old, was, same⟩ | ⟨entry, present, same⟩
      · rw [← same]
        exact ih old was
      · rw [← same]
        exact (Touches.frames made belongs).1 entry present

/-- The calls on an observation that is not tracked do not track it. -/
theorem Touches.untracked (touches : Touches port observationHandle before after)
    (untracked : before.active observationHandle = none) :
    after.active observationHandle = none := by
  induction touches with
  | refl => exact untracked
  | @tail middle last made step ih =>
      cases step with
      | dispatched =>
          refine (Sentinel.Controller.active_observationDispatched middle.sentinel
            observationHandle observationHandle (middle.surroundings 0).threadId
            (middle.surroundings 0).readings).trans ?_
          rw [show middle.sentinel.active observationHandle = none from ih]
          rfl
      | finished =>
          exact (Sentinel.Controller.active_observationFinished middle.sentinel observationHandle
            observationHandle (middle.surroundings 0).readings).trans (if_pos rfl)
      | session entry session present => exact ih
      | operation entry owner operation present owned moved => exact ih
      | release => exact ih
      | noted entry outcome => exact ih

/-- A call on an observation keeps the agreement if it leaves the observation open or the sentinel
does not track it any more. -/
theorem agrees_of_touches (agrees : Agrees before)
    (touches : Touches port observationHandle before after)
    (leaves : after.active observationHandle = none ∨
      (after.observation? observationHandle).isSome = true) : Agrees after := by
  have owned : ∃ operationHandle, Belongs observationHandle operationHandle before ∧
      ∀ observation, before.active observationHandle = some observation →
        observation.operationHandle = operationHandle := by
    cases present : before.observation? observationHandle with
    | none =>
        refine ⟨0, fun entry found => ?_, fun observation tracked => ?_⟩
        · rw [present] at found
          cases found
        · obtain ⟨entry, found, -⟩ := agrees observationHandle observation tracked
          rw [present] at found
          cases found
    | some entry =>
        refine ⟨entry.operationHandle, fun other found => ?_, fun observation tracked => ?_⟩
        · rw [present] at found
          cases found
          rfl
        · obtain ⟨other, found, same⟩ := agrees observationHandle observation tracked
          rw [present] at found
          cases found
          exact same.symm
  obtain ⟨operationHandle, belongs, known⟩ := owned
  obtain ⟨stays, apart⟩ := touches.frames belongs
  intro handle observation tracked
  by_cases other : handle = observationHandle
  · subst other
    rcases leaves with gone | open'
    · rw [gone] at tracked
      cases tracked
    · obtain ⟨entry, present⟩ := Option.isSome_iff_exists.mp open'
      exact ⟨entry, present, (stays entry present).trans
        (touches.active_owner belongs known observation tracked).symm⟩
  · rw [apart.active handle other] at tracked
    rw [apart.observations handle other]
    exact agrees handle observation tracked

end Observations

/-! ## Calls that are refused -/

section Refused

variable (port : EnginePort Engine Begin Operation Digest)

/-- The session of an observation refuses a call, or its operation does. -/
def Refuses {α β : Type} (state : EngineState Engine Operation Digest Sink)
    (observationHandle : Nat)
    (onSession : SemanticDependencySession Digest →
      Except Error α × SemanticDependencySession Digest)
    (onOperation : Operation → Except Error β × Operation) : Prop :=
  ∃ entry, state.observation? observationHandle = some entry ∧
    ((∃ session error, entry.semanticDependency = some session ∧
        (onSession session).1 = .error error) ∨
      ∃ owner error, state.registry.operations.lookup entry.operationHandle = some owner ∧
        (onOperation owner.operation).1 = .error error)

/-- The session of an observation refuses the bytes that its operation returns. -/
def RefusesRead (state : EngineState Engine Operation Digest Sink) (observationHandle : Nat) :
    Prop :=
  ∃ entry owner session read error, state.observation? observationHandle = some entry ∧
    state.registry.operations.lookup entry.operationHandle = some owner ∧
    entry.semanticDependency = some session ∧
    (port.readObservationResponse owner.operation observationHandle).1 = .ok read ∧
    (session.write .response read.1).1 = .error error

/-- A low-level call is refused, and the engine releases an observation that the sentinel tracks. -/
def LosesObservation (state : EngineState Engine Operation Digest Sink) :
    EngineCall Engine Begin → Prop
  | .observationWrite chunk observationHandle stream =>
      ∃ bytes, decodeChunk port chunk maxObservationChunkBytes = .ok bytes ∧ bytes ≠ [] ∧
        bytes.length ≤ maxObservationChunkBytes ∧
        (state.active observationHandle).isSome = true ∧
        Refuses state observationHandle (·.write stream bytes)
          (port.writeObservation · observationHandle stream bytes)
  | .observationDispatch observationHandle =>
      (state.active observationHandle).isSome = true ∧
        Refuses state observationHandle (·.dispatch port.dependencies)
          (port.dispatchObservation · observationHandle)
  | .observationRead observationHandle =>
      (state.active observationHandle).isSome = true ∧ RefusesRead port state observationHandle
  | _ => False

end Refused

section Accepted

variable {port : EnginePort Engine Begin Operation Digest}
  {state : EngineState Engine Operation Digest Sink} {observationHandle : Nat}
  {entry : ObservationEntry Digest}

/-- Looking for an open observation finds it. -/
theorem observationEntry_present (present : state.observation? observationHandle = some entry) :
    observationEntry observationHandle state = (.ok entry, state) :=
  Fallible.find_ok present

variable (port) in
/-- A call on a session that is not refused keeps the observation open. -/
theorem open_onSession {α : Type}
    (call : SemanticDependencySession Digest → Except Error α × SemanticDependencySession Digest)
    (present : state.observation? observationHandle = some entry)
    (accepted : ∀ session error, entry.semanticDependency = some session →
      (call session).1 ≠ .error error) :
    ∃ value next,
      Fallible.onError (onSession observationHandle call)
        (invalidateSemanticObservation port observationHandle) state = (.ok value, next) ∧
      next.registry.operations = state.registry.operations ∧
      (next.observation? observationHandle).isSome = true := by
  cases semantic : entry.semanticDependency with
  | none =>
      refine ⟨none, state, ?_, rfl, Option.isSome_iff_exists.mpr ⟨entry, present⟩⟩
      simp only [Fallible.onError, onSession_plain present semantic]
  | some session =>
      cases made : (call session).1 with
      | error error => exact absurd made (accepted session error semantic)
      | ok value =>
          refine ⟨some value,
            state.withRegistry (·.updateSession observationHandle entry (call session).2), ?_, rfl,
            Option.isSome_iff_exists.mpr ⟨_, AList.lookup_insert _⟩⟩
          simp only [Fallible.onError, onSession_present present semantic, made, Except.map]

/-- A call on an operation that is not refused keeps the observation open. -/
theorem open_onOperation {α : Type} {operationHandle : Nat}
    {call : Operation → Except Error α × Operation}
    (present : (state.observation? observationHandle).isSome = true)
    (accepted : ∀ owner error, state.registry.operations.lookup operationHandle = some owner →
      (call owner.operation).1 ≠ .error error) :
    (((do
        let _ ← operationEntry operationHandle
        Fallible.onError (onOperation operationHandle call)
          (invalidateSemanticObservation port observationHandle) :
      EngineM Engine Operation Digest Sink α) state).2.observation?
        observationHandle).isSome = true := by
  cases owned : state.registry.operations.lookup operationHandle with
  | none =>
      simp only [bind, Fallible.bind, operationEntry, Fallible.find, owned]
      exact present
  | some owner =>
      cases made : (call owner.operation).1 with
      | error error => exact absurd made (accepted owner error owned)
      | ok value =>
          simp only [bind, Fallible.bind, operationEntry, Fallible.find, owned, Fallible.onError,
            onOperation_present owned, made]
          exact present

/-- A call on the session and on the operation of an observation, neither of which refuses it. -/
theorem open_chain {α β : Type}
    {first : SemanticDependencySession Digest →
      Except Error α × SemanticDependencySession Digest}
    {second : Operation → Except Error β × Operation}
    (present : state.observation? observationHandle = some entry)
    (accepted : ¬ Refuses state observationHandle first second) :
    (((do
        let _ ← Fallible.onError (onSession observationHandle first)
          (invalidateSemanticObservation port observationHandle)
        let _ ← operationEntry entry.operationHandle
        Fallible.onError (onOperation entry.operationHandle second)
          (invalidateSemanticObservation port observationHandle) :
      EngineM Engine Operation Digest Sink β) state).2.observation?
        observationHandle).isSome = true := by
  obtain ⟨value, next, made, operations, open'⟩ := open_onSession port first present
    fun session error semantic refused =>
      accepted ⟨entry, present, .inl ⟨session, error, semantic, refused⟩⟩
  rw [Fallible.bind_ok made]
  refine open_onOperation open' fun owner error owned refused => ?_
  rw [operations] at owned
  exact accepted ⟨entry, present, .inr ⟨owner, error, owned, refused⟩⟩

/-- A write that is not refused keeps its observation open. -/
theorem open_write {stream : ObservationStreamInput} {chunk : String}
    (present : state.observation? observationHandle = some entry)
    (accepted : ∀ bytes, decodeChunk port chunk maxObservationChunkBytes = .ok bytes →
      bytes ≠ [] → bytes.length ≤ maxObservationChunkBytes → ¬ Refuses state observationHandle (·.write stream bytes)
        (port.writeObservation · observationHandle stream bytes)) :
    ((dispatchImmediate port (.observationWrite chunk observationHandle stream)
      state).2.observation? observationHandle).isSome = true := by
  have open' : (state.observation? observationHandle).isSome = true :=
    Option.isSome_iff_exists.mpr ⟨entry, present⟩
  unfold dispatchImmediate
  rw [Fallible.bind_pure_snd]
  unfold writeObservation
  cases decoded : decodeChunk port chunk maxObservationChunkBytes with
  | error error =>
      rw [Fallible.ofExcept_error_bind]
      exact open'
  | ok bytes =>
      rw [Fallible.ofExcept_ok_bind]
      unfold writeObservationBytes
      by_cases fits : bytes ≠ [] ∧ bytes.length ≤ maxObservationChunkBytes
      · have passes : (Fallible.check (fun _ => bytes ≠ [] ∧
            bytes.length ≤ maxObservationChunkBytes) observationQuotaError :
              EngineM Engine Operation Digest Sink Unit) state = (.ok (), state) :=
          Fallible.check_ok (by simpa using fits)
        rw [Fallible.bind_ok passes, Fallible.bind_ok (observationEntry_present present)]
        exact open_chain present (accepted bytes decoded fits.1 fits.2)
      · have refused : (Fallible.check (fun _ => bytes ≠ [] ∧
            bytes.length ≤ maxObservationChunkBytes) observationQuotaError :
              EngineM Engine Operation Digest Sink Unit) state =
            (.error observationQuotaError, state) := Fallible.check_error (by simpa using fits)
        rw [Fallible.bind_error refused]
        exact open'

/-- A dispatch that is not refused keeps its observation open. -/
theorem open_dispatch (present : state.observation? observationHandle = some entry)
    (accepted : ¬ Refuses state observationHandle (·.dispatch port.dependencies)
      (port.dispatchObservation · observationHandle)) :
    ((dispatchImmediate port (.observationDispatch observationHandle) state).2.observation?
      observationHandle).isSome = true := by
  have dispatched : ((dispatchObservation port observationHandle state).2.observation?
      observationHandle).isSome = true := by
    unfold dispatchObservation
    rw [Fallible.bind_ok (observationEntry_present present)]
    exact open_chain present accepted
  show ((dispatchObservationCall port observationHandle state).2.observation?
    observationHandle).isSome = true
  unfold dispatchObservationCall
  rcases made : dispatchObservation port observationHandle state with ⟨error | action, next⟩
  · rw [made] at dispatched
    rw [Fallible.bind_error made]
    exact dispatched
  · rw [made] at dispatched
    rw [Fallible.bind_ok made]
    exact dispatched

/-- A read that is not refused keeps its observation open. -/
theorem open_read (present : state.observation? observationHandle = some entry)
    (accepted : ¬ RefusesRead port state observationHandle) :
    ((dispatchImmediate port (.observationRead observationHandle) state).2.observation?
      observationHandle).isSome = true := by
  have open' : (state.observation? observationHandle).isSome = true :=
    Option.isSome_iff_exists.mpr ⟨entry, present⟩
  unfold dispatchImmediate
  rw [Fallible.bind_pure_snd]
  unfold readObservation
  rw [Fallible.bind_ok (observationEntry_present present)]
  cases owned : state.registry.operations.lookup entry.operationHandle with
  | none =>
      rw [Fallible.bind_error (onOperation_absent owned)]
      exact open'
  | some owner =>
      let next := state.withRegistry (·.updateOperation entry.operationHandle owner
        (port.readObservationResponse owner.operation observationHandle).2)
      have called : onOperation entry.operationHandle
          (fun operation => port.readObservationResponse operation observationHandle) state =
          ((port.readObservationResponse owner.operation observationHandle).1, next) :=
        onOperation_present owned
      cases made : (port.readObservationResponse owner.operation observationHandle).1 with
      | error error =>
          rw [made] at called
          rw [Fallible.bind_error called]
          exact open'
      | ok read =>
          rw [made] at called
          have still : next.observation? observationHandle = some entry := present
          obtain ⟨value, last, written, -, open''⟩ := open_onSession port
            (·.write .response read.1) still fun session error semantic refused =>
              accepted ⟨entry, owner, session, read, error, present, owned, semantic, made,
                refused⟩
          rw [Fallible.bind_ok called, Fallible.bind_ok (observationEntry_present still),
            Fallible.bind_ok written]
          exact open''

end Accepted

/-! ## Every call -/

section Calls

variable {port : EnginePort Engine Begin Operation Digest}
  {state : EngineState Engine Operation Digest Sink}

/-- A call on an observation that is not tracked, or that stays open if it is. -/
theorem Agrees.touched {α : Type} {computation : EngineM Engine Operation Digest Sink α}
    {observationHandle : Nat} (agrees : Agrees state)
    (touches : Fallible.Relates (Touches port observationHandle) computation)
    (leaves : ∀ entry, (state.active observationHandle).isSome = true →
      state.observation? observationHandle = some entry →
      ((computation state).2.observation? observationHandle).isSome = true) :
    Agrees (computation state).2 := by
  refine agrees_of_touches agrees (touches state) ?_
  cases tracked : state.active observationHandle with
  | none => exact .inl ((touches state).untracked tracked)
  | some observation =>
      obtain ⟨entry, present, -⟩ := agrees observationHandle observation tracked
      exact .inr (leaves entry (by rw [tracked]; rfl) present)

/-- A call that tells the sentinel first that the observation is finished. -/
theorem Agrees.finished {α : Type} {rest : Option Sentinel.OperationCoverage →
      EngineM Engine Operation Digest Sink α} {observationHandle : Nat} (agrees : Agrees state)
    (continues : ∀ told, Fallible.Relates (Touches port observationHandle) (rest told)) :
    Agrees ((tellSentinel (fun met => .observationFinished observationHandle met.readings) >>=
      rest) state).2 := by
  have told : Touches port observationHandle state (state.afterSentinel fun met =>
      .observationFinished observationHandle met.readings) := .single (.finished state)
  have untracked : (state.afterSentinel fun met =>
      .observationFinished observationHandle met.readings).active observationHandle = none :=
    (Sentinel.Controller.active_observationFinished state.sentinel observationHandle
      observationHandle (state.surroundings 0).readings).trans (if_pos rfl)
  exact (agrees_of_touches agrees told (.inl untracked)).touched (continues _)
    fun _ tracked _ => by rw [untracked] at tracked; cases tracked

/-- What follows an open keeps the agreement: without a session nothing happens. -/
theorem Agrees.started {observationHandle : Nat} {entry : ObservationEntry Digest}
    (agrees : Agrees state) (present : state.observation? observationHandle = some entry)
    (sessionPosition : Nat) (requestBytes : Bytes) :
    Agrees (startDependency port observationHandle sessionPosition requestBytes state).2 := by
  have touches : Touches port observationHandle state _ :=
    touches_startDependency sessionPosition requestBytes state
  refine agrees_of_touches agrees touches ?_
  cases semantic : entry.semanticDependency with
  | none =>
      have missing : requiredSession observationHandle state = (.error invalidDependency, state) := by
        simp only [requiredSession, bind, Fallible.bind, observationEntry_present present,
          Fallible.find, semantic]
      unfold startDependency
      rw [Fallible.bind_error missing]
      exact .inr (Option.isSome_iff_exists.mpr ⟨entry, present⟩)
  | some session =>
      have leaves : Fallible.Outcome _ _
          (startDependency port observationHandle sessionPosition requestBytes state) :=
        meets_startDependency sessionPosition requestBytes state
          ⟨entry, present, by rw [semantic]; rfl⟩
      generalize startDependency port observationHandle sessionPosition requestBytes state =
        outcome at leaves ⊢
      rcases outcome with ⟨error | value, next⟩
      · have gone : Gone observationHandle next := leaves
        exact .inl gone.2
      · have open' : SessionOpen observationHandle next := leaves
        obtain ⟨entry, present, -⟩ := open'
        exact .inr (Option.isSome_iff_exists.mpr ⟨entry, present⟩)

/-- The compact open keeps the agreement. -/
theorem agrees_openDependency (fresh : Fresh state) (agrees : Agrees state)
    (operationHandle : Nat) (causalParentId : Option OperationId)
    (request : SemanticDependencyRequestInput) :
    Agrees (openDependency port operationHandle causalParentId request state).2 := by
  unfold openDependency
  simp only [bind, Fallible.bind, Fallible.ofExcept]
  cases valid : SemanticDependencySession.canonicalRequest port.dependencies request with
  | error error => exact agrees
  | ok bytes =>
      have effect := openObservation_effect port operationHandle request.observationClass
        causalParentId state
      dsimp only
      generalize openObservation port operationHandle request.observationClass causalParentId
        state = outcome at effect ⊢
      rcases outcome with ⟨reply, next⟩
      change OpenEffect port operationHandle request.observationClass causalParentId state reply
        next at effect
      cases effect with
      | refused error refuses => exact agrees
      | unknown absent => exact agrees
      | failed error owner operation owned opens => exact agrees
      | opened owner operation position room owned opens =>
          have announced : Agrees
              (state.opened operationHandle owner operation request.observationClass) :=
            ((tables_opened room owned opens).agrees fresh agrees).2
          exact announced.started (AList.lookup_insert _) position bytes

/-- The compact finish keeps the agreement. -/
theorem agrees_finishDependency (agrees : Agrees state) (dependencyHandle : Nat)
    (response : Option SemanticDependencyResponseInput) :
    Agrees (finishDependency port dependencyHandle response state).2 := by
  cases present : state.observation? dependencyHandle with
  | none =>
      rw [finishDependency_unknown present]
      exact agrees
  | some entry =>
      have touches : Touches port dependencyHandle state _ :=
        touches_finishDependency response state
      exact agrees_of_touches agrees touches
        (.inl (finishDependency_leaves port present response).2.2)

/-- A call that loses no observation keeps the agreement. -/
theorem agrees_dispatchImmediate (fresh : Fresh state) (agrees : Agrees state)
    {call : EngineCall Engine Begin} (keeps : ¬ LosesObservation port state call) :
    Agrees (dispatchImmediate port call state).2 := by
  cases observing : call.isObserving with
  | false => exact (TableSteps.agrees (tables_dispatchImmediate observing state) fresh agrees).2
  | true =>
      cases call with
      | dependencyOpen causalParentId operationHandle request =>
          exact agrees_openDependency fresh agrees operationHandle causalParentId request
      | dependencyFinish dependencyHandle response =>
          exact agrees_finishDependency agrees dependencyHandle response
      | observationWrite chunk observationHandle stream =>
          refine agrees.touched (touches_observationWrite chunk observationHandle stream)
            fun entry tracked present => open_write present ?_
          exact fun bytes decoded full fits refuses =>
            keeps ⟨bytes, decoded, full, fits, tracked, refuses⟩
      | observationDispatch observationHandle =>
          refine agrees.touched (touches_observationDispatch observationHandle)
            fun entry tracked present => open_dispatch present ?_
          exact fun refuses => keeps ⟨tracked, refuses⟩
      | observationRead observationHandle =>
          refine agrees.touched (touches_observationRead observationHandle)
            fun entry tracked present => open_read present ?_
          exact fun refuses => keeps ⟨tracked, refuses⟩
      | observationFinish observationHandle outcome sessionPosition =>
          exact agrees.finished fun _ => Fallible.Relates.bind
            (touches_finishObservationInner outcome sessionPosition)
            fun _ => Fallible.Relates.pure _
      | observationAbandon observationHandle =>
          exact agrees.finished fun _ => Fallible.Relates.bind touches_abandonObservation
            fun _ => Fallible.Relates.pure _
      | _ => cases observing

end Calls

/-! ## Runs -/

section Runs

variable (port : EnginePort Engine Begin Operation Digest)

/-- A call under the lock that loses no observation keeps the agreement. -/
theorem agrees_callStep (system : EngineSystem Engine Operation Digest Sink)
    (fresh : Fresh system.shared) (agrees : Agrees system.shared)
    {request : EngineRequest Engine Begin}
    (keeps : request.format = callFormat → ¬ LosesObservation port system.shared request.call) :
    Agrees (system.callStep port request).2.shared := by
  unfold EngineSystem.callStep
  split
  · exact agrees
  · rename_i format
    split
    · rename_i failure operationHandle projectToken same
      have made : TableSteps port system.shared _ :=
        tables_registerFailure operationHandle failure projectToken system.shared
      have registered : Agrees
          (registerFailure operationHandle failure projectToken system.shared).2 :=
        (TableSteps.agrees made fresh agrees).2
      split <;>
      · rename_i made
        rw [made] at registered
        exact registered
    · rename_i sinkHandle timeoutMs same
      have made : TableSteps port system.shared _ :=
        tables_sinkTask sinkHandle timeoutMs system.shared
      have looked : Agrees (sinkTask sinkHandle timeoutMs system.shared).2 :=
        (TableSteps.agrees made fresh agrees).2
      split <;>
      · rename_i made
        rw [made] at looked
        exact looked
    · exact agrees_dispatchImmediate fresh agrees (keeps (not_not.mp format))

/-- A change aside keeps the agreement. -/
theorem Aside.agrees {before after : EngineState Engine Operation Digest Sink}
    (aside : Aside before after) (agrees : Agrees before) : Agrees after := by
  intro handle observation tracked
  rw [EngineState.active, aside.sentinel] at tracked
  rw [EngineState.observation?, aside.observations]
  exact agrees handle observation tracked

/-- In a run in which no write, dispatch or read of a tracked observation is refused, every
observation that the sentinel tracks is open and belongs to the operation it is attributed to. -/
theorem sentinel_agrees (surroundings : Nat → Surroundings) (hasWorker : Bool)
    (actions : List (EngineAction Engine Begin Sink))
    (keeps : ∀ before request, before ++ [.call request] <+: actions →
      request.format = callFormat →
      ¬ LosesObservation port ((EngineSystem.new surroundings hasWorker :
        EngineSystem Engine Operation Digest Sink).after port before).shared request.call) :
    Agrees ((EngineSystem.new surroundings hasWorker :
      EngineSystem Engine Operation Digest Sink).after port actions).shared := by
  induction actions using List.reverseRecOn with
  | nil =>
      intro handle observation tracked
      cases tracked
  | append_singleton actions action ih =>
      have agrees := ih fun before request part =>
        keeps before request (part.trans (List.prefix_append _ _))
      rw [EngineSystem.after_append_singleton]
      by_cases calls : ∃ request, action = .call request
      · obtain ⟨request, rfl⟩ := calls
        exact agrees_callStep port _ (fresh_after port surroundings hasWorker actions) agrees
          (keeps actions request (List.prefix_refl _))
      · exact (EngineSystem.aside_step port _ fun request same => calls ⟨request, same⟩).agrees
          agrees

end Runs

/-- An engine, an operation and an observation that the sentinel tracks. -/
theorem sentinel_agrees_opened :
    Agrees ((EngineSystem.new (fun _ => plainSurroundings) true :
      EngineSystem Unit Unit Unit Unit).after plainPort
        [.call { format := callFormat, call := .engineOpen (.ok ()) },
          .call { format := callFormat, call := .operationBegin () 1 },
          .call { format := callFormat, call := .observationOpen none .database 2 }]).shared := by
  refine sentinel_agrees plainPort (fun _ => plainSurroundings) true _ ?_
  intro before request part _ loses
  have made := part.subset (List.mem_append_right before (List.mem_singleton_self _))
  simp only [List.mem_cons, List.not_mem_nil, or_false, EngineAction.call.injEq] at made
  rcases made with rfl | rfl | rfl <;> exact loses

end Engine
end ReproItSdk
