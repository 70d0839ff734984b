import ReproItSdk.Engine.Steps

/-! # What the calls under the lock do

Every call that holds the lock of the engine is a sequence of steps.  A step belongs to an
observation or an operation, tells the sentinel, consumes a handle, grants the next handle to a new
entry, or ends an operation or an engine with everything below it.

What a step preserves is preserved by every call.

Main results:

- Theorem {lit}`steps_dispatchImmediate`: the calls that do not leave the lock.
- Theorem {lit}`registerFailure_effect`: what becomes of a failed operation under the lock.
-/

namespace ReproItSdk
namespace Engine

variable {Engine Begin Operation Digest Sink : Type}

/-! ## Granting a handle -/

namespace Registry

variable (registry : Registry Engine Operation Digest)

/-- The registry with a new engine. -/
def grantEngine (engine : Engine) : Registry Engine Operation Digest :=
  { registry.skipHandle with
    engines := registry.engines.insert registry.nextHandle engine }

/-- The registry with a new operation. -/
def grantOperation (entry : OperationEntry Operation) : Registry Engine Operation Digest :=
  { registry.skipHandle with
    operations := registry.operations.insert registry.nextHandle entry }

/-- The registry with a new sink. -/
def grantSink (entry : SinkEntry) : Registry Engine Operation Digest :=
  { registry.skipHandle with
    sinks := registry.sinks.insert registry.nextHandle entry }

end Registry

/-! ## Steps -/

/-- The job that a failed operation becomes. -/
def failureJob (operationHandle : Nat) (entry : OperationEntry Operation)
    (failure : FailureIdentity) (projectToken : String) : ProductionFailureJob Operation where
  failure := failure
  operation := entry.operation
  projectToken := projectToken
  operationHandle := operationHandle

namespace EngineState

/-- The state without an operation and its observations. -/
def take (state : EngineState Engine Operation Digest Sink) (operationHandle : Nat) :
    EngineState Engine Operation Digest Sink :=
  (state.detach operationHandle).withRegistry (·.removeOperation operationHandle)

/-- The state after an operation has become the job of a new task with a sink. -/
def entrust (state : EngineState Engine Operation Digest Sink) (entry : OperationEntry Operation)
    (job : ProductionFailureJob Operation) : EngineState Engine Operation Digest Sink :=
  ((state.take job.operationHandle).addTask job).withRegistry
    (·.grantSink { engineHandle := entry.engineHandle, task := state.tasks.length })

end EngineState

/-- A call of the sentinel that opens no observation. -/
def Quiet (call : Sentinel.Call) : Prop :=
  ∀ observationHandle operationHandle observationClass readings,
    call ≠ .observationOpened observationHandle operationHandle observationClass readings

/-- One step of a call under the lock that names no observation of its own. -/
inductive TableStep (port : EnginePort Engine Begin Operation Digest) :
    EngineState Engine Operation Digest Sink → EngineState Engine Operation Digest Sink → Prop
  | operation (state : EngineState Engine Operation Digest Sink) (operationHandle : Nat)
      (entry : OperationEntry Operation) (operation : Operation)
      (present : state.registry.operations.lookup operationHandle = some entry)
      (moved : port.Moves entry.operation operation) :
      TableStep port state
        (state.withRegistry (·.updateOperation operationHandle entry operation))
  | heard (state : EngineState Engine Operation Digest Sink) (call : Surroundings → Sentinel.Call)
      (quiet : ∀ met, Quiet (call met)) : TableStep port state (state.afterSentinel call)
  | announced (state : EngineState Engine Operation Digest Sink) (observationHandle : Nat)
      (entry : ObservationEntry Digest) (observationClass : AutomaticObservationClass)
      (present : state.registry.observations.lookup observationHandle = some entry) :
      TableStep port state (state.afterSentinel fun met =>
        .observationOpened observationHandle entry.operationHandle observationClass met.readings)
  | skipped (state : EngineState Engine Operation Digest Sink) :
      TableStep port state (state.withRegistry (·.skipHandle))
  | engineOpened (state : EngineState Engine Operation Digest Sink) (engine : Engine)
      (room : KeyedTable.size state.registry.engines < maxEngines) :
      TableStep port state (state.withRegistry (·.grantEngine engine))
  | operationStarted (state : EngineState Engine Operation Digest Sink)
      (entry : OperationEntry Operation)
      (room : KeyedTable.size state.registry.operations < maxOperations)
      (owned : (state.registry.engines.lookup entry.engineHandle).isSome = true) :
      TableStep port state (state.withRegistry (·.grantOperation entry))
  | observationOpened (state : EngineState Engine Operation Digest Sink)
      (entry : ObservationEntry Digest)
      (room : KeyedTable.size state.registry.observations < maxObservationSessions)
      (owned : (state.registry.operations.lookup entry.operationHandle).isSome = true) :
      TableStep port state (state.withRegistry (·.grantObservation entry))
  | detached (state : EngineState Engine Operation Digest Sink) (operationHandle : Nat) :
      TableStep port state (state.detach operationHandle)
  | ended (state : EngineState Engine Operation Digest Sink) (operationHandle : Nat)
      (how : OperationEnd) (entry : OperationEntry Operation)
      (present : state.registry.operations.lookup operationHandle = some entry) :
      TableStep port state ((state.take operationHandle).noted [.ended operationHandle how])
  | engineClosed (state : EngineState Engine Operation Digest Sink) (engineHandle : Nat) :
      TableStep port state (state.closeEngine engineHandle)
  | entrusted (state : EngineState Engine Operation Digest Sink)
      (entry : OperationEntry Operation) (job : ProductionFailureJob Operation)
      (present : state.registry.operations.lookup job.operationHandle = some entry)
      (room : KeyedTable.size state.registry.sinks < maxSinks) :
      TableStep port state (state.entrust entry job)

/-- One step of a call under the lock. -/
inductive EngineStep (port : EnginePort Engine Begin Operation Digest) :
    EngineState Engine Operation Digest Sink → EngineState Engine Operation Digest Sink → Prop
  | observation (state : EngineState Engine Operation Digest Sink) (observationHandle : Nat)
      {next : EngineState Engine Operation Digest Sink}
      (step : ObservationStep port observationHandle state next) : EngineStep port state next
  | table (state : EngineState Engine Operation Digest Sink)
      {next : EngineState Engine Operation Digest Sink} (step : TableStep port state next) :
      EngineStep port state next

/-- What the calls that name no observation do to the state. -/
abbrev TableSteps (port : EnginePort Engine Begin Operation Digest) :
    EngineState Engine Operation Digest Sink → EngineState Engine Operation Digest Sink → Prop :=
  Relation.ReflTransGen (TableStep port)

instance (port : EnginePort Engine Begin Operation Digest) :
    IsPreorder (EngineState Engine Operation Digest Sink) (TableSteps port) where
  refl _ := .refl
  trans _ _ _ := .trans

/-- What calls under the lock do to the state. -/
abbrev EngineSteps (port : EnginePort Engine Begin Operation Digest) :
    EngineState Engine Operation Digest Sink → EngineState Engine Operation Digest Sink → Prop :=
  Relation.ReflTransGen (EngineStep port)

instance (port : EnginePort Engine Begin Operation Digest) :
    IsPreorder (EngineState Engine Operation Digest Sink) (EngineSteps port) where
  refl _ := .refl
  trans _ _ _ := .trans

/-- What every step preserves is preserved by a sequence of steps. -/
theorem EngineSteps.preserves {port : EnginePort Engine Begin Operation Digest}
    {relation : EngineState Engine Operation Digest Sink →
      EngineState Engine Operation Digest Sink → Prop} [IsPreorder _ relation]
    (preserved : ∀ before after, EngineStep port before after → relation before after)
    {before after : EngineState Engine Operation Digest Sink}
    (steps : EngineSteps port before after) : relation before after := by
  induction steps with
  | refl => exact refl_of relation before
  | tail _ step ih => exact trans_of relation ih (preserved _ _ step)

/-! ## Parts of the calls -/

section Parts

variable {port : EnginePort Engine Begin Operation Digest} {α : Type}

/-- A call on an observation. -/
theorem steps_of_touches {observationHandle : Nat}
    {computation : EngineM Engine Operation Digest Sink α}
    (touches : Fallible.Relates (Touches port observationHandle) computation) :
    Fallible.Relates (EngineSteps port) computation := by
  refine touches.mono fun before after touched => ?_
  induction touched with
  | refl => exact .refl
  | tail _ step ih => exact ih.tail (.observation _ observationHandle step)

/-- Steps that name no observation are steps. -/
theorem TableSteps.steps {before after : EngineState Engine Operation Digest Sink}
    (made : TableSteps port before after) : EngineSteps port before after := by
  induction made with
  | refl => exact .refl
  | tail _ step ih => exact ih.tail (.table _ step)

/-- The calls that name no observation. -/
theorem steps_of_tables {computation : EngineM Engine Operation Digest Sink α}
    (steps : Fallible.Relates (TableSteps port) computation) :
    Fallible.Relates (EngineSteps port) computation :=
  steps.mono fun _ _ made => made.steps

/-- A call of the sentinel that opens no observation. -/
theorem tables_tellSentinel {call : Surroundings → Sentinel.Call} (quiet : ∀ met, Quiet (call met)) :
    Fallible.Relates (TableSteps port)
      (tellSentinel call : EngineM Engine Operation Digest Sink _) :=
  fun state => .single (.heard state call quiet)

/-- A call on an operation. -/
theorem tables_onOperation (operationHandle : Nat) {call : Operation → Except Error α × Operation}
    (moved : ∀ operation, port.Moves operation (call operation).2) :
    Fallible.Relates (TableSteps port)
      (onOperation operationHandle call : EngineM Engine Operation Digest Sink _) := by
  intro state
  cases present : state.registry.operations.lookup operationHandle with
  | none =>
      rw [onOperation_absent present]
  | some entry =>
      rw [onOperation_present present]
      exact .single (.operation state operationHandle entry _ present (moved _))

/-- A new entry under a new handle, if there is one. -/
theorem tables_grant {before : EngineState Engine Operation Digest Sink → Prop}
    {insert : Nat → Registry Engine Operation Digest → Registry Engine Operation Digest}
    {rest : Nat → EngineM Engine Operation Digest Sink α}
    (granted : ∀ state, before state → TableStep port state
      (state.withRegistry fun registry => insert registry.nextHandle registry.skipHandle))
    (continues : ∀ handle, Fallible.Relates (TableSteps port) (rest handle)) :
    Fallible.Moves (TableSteps port) before
      (allocateHandle >>= fun handle => changeRegistry (insert handle) >>= fun _ => rest handle)
      fun _ _ => True := by
  intro state holds
  refine ⟨?_, fun _ _ => trivial⟩
  by_cases room : state.registry.nextHandle < u64Max
  · have grows := Relation.ReflTransGen.single (granted state holds)
    simp only [allocateHandle, bind, Fallible.bind, Fallible.gets, Fallible.check, room,
      decide_true, if_true, changeRegistry, Fallible.modify, pure, Fallible.pure]
    exact grows.trans (continues _ _)
  · simp only [allocateHandle, bind, Fallible.bind, Fallible.gets, Fallible.check, room,
      decide_false, Bool.false_eq_true, if_false]
    exact .refl

/-- A dropped or finished call opens no observation. -/
theorem quiet_simple : (∀ installs, Quiet (.engineOpened installs)) ∧
    (∀ operationHandle readings, Quiet (.operationStarted operationHandle readings)) ∧
    (∀ operationHandle readings, Quiet (.operationFinished operationHandle readings)) ∧
    (∀ observationHandle threadId readings,
      Quiet (.observationDispatched observationHandle threadId readings)) ∧
    (∀ observationHandle readings, Quiet (.observationFinished observationHandle readings)) := by
  refine ⟨?_, ?_, ?_, ?_, ?_⟩ <;>
  · intros
    intro _ _ _ _ same
    cases same

end Parts

/-! ## The calls -/

section Calls

variable {port : EnginePort Engine Begin Operation Digest}

/-- A new engine. -/
theorem tables_openEngine (engine : Except Error Engine) :
    Fallible.Relates (TableSteps port)
      (openEngine engine : EngineM Engine Operation Digest Sink _) := by
  refine Fallible.Moves.relates ?_
  have checked : Fallible.Moves (TableSteps port) (fun _ => True)
      (Fallible.check (fun state : EngineState Engine Operation Digest Sink =>
        KeyedTable.size state.registry.engines < maxEngines) quotaError)
      fun _ state => KeyedTable.size state.registry.engines < maxEngines :=
    Fallible.Moves.check fun _ _ room => of_decide_eq_true room
  refine Fallible.Moves.bind checked fun _ => ?_
  refine Fallible.Moves.bind (Fallible.Moves.ofExcept fun _ _ _ room => room) fun engine => ?_
  refine tables_grant (fun state room => .engineOpened state engine room) fun handle => ?_
  exact Fallible.Relates.bind (tables_tellSentinel fun met => quiet_simple.1 _)
    fun _ => Fallible.Relates.pure _

/-- A new operation. -/
theorem tables_beginOperation (payload : Begin) (engineHandle : Nat) :
    Fallible.Relates (TableSteps port)
      (beginOperation port payload engineHandle : EngineM Engine Operation Digest Sink _) := by
  refine Fallible.Moves.relates ?_
  have checked : Fallible.Moves (TableSteps port) (fun _ => True)
      (Fallible.check (fun state : EngineState Engine Operation Digest Sink =>
        KeyedTable.size state.registry.operations < maxOperations) quotaError)
      fun _ state => KeyedTable.size state.registry.operations < maxOperations :=
    Fallible.Moves.check fun _ _ room => of_decide_eq_true room
  have found : Fallible.Moves (TableSteps port)
      (fun state => KeyedTable.size state.registry.operations < maxOperations)
      (Fallible.find (fun state : EngineState Engine Operation Digest Sink =>
        state.registry.engines.lookup engineHandle) handleNotFound)
      fun _ state => KeyedTable.size state.registry.operations < maxOperations ∧
        (state.registry.engines.lookup engineHandle).isSome = true :=
    Fallible.Moves.find fun _ room _ present =>
      ⟨room, Option.isSome_iff_exists.mpr ⟨_, present⟩⟩
  refine Fallible.Moves.bind checked fun _ => ?_
  refine Fallible.Moves.bind found fun engine => ?_
  refine Fallible.Moves.bind (Fallible.Moves.ofExcept fun _ _ _ ready => ready)
    fun operation => ?_
  refine tables_grant (fun state ready =>
    .operationStarted state { engineHandle := engineHandle, operation := operation } ready.1
      ready.2) fun handle => ?_
  exact Fallible.Relates.bind (tables_tellSentinel fun met => quiet_simple.2.1 _ _)
    fun _ => Fallible.Relates.pure _

/-- The state in which the sentinel knows a new observation. -/
def EngineState.opened (state : EngineState Engine Operation Digest Sink) (operationHandle : Nat)
    (owner : OperationEntry Operation) (operation : Operation)
    (observationClass : AutomaticObservationClass) : EngineState Engine Operation Digest Sink :=
  (state.withRegistry fun registry =>
    (registry.updateOperation operationHandle owner operation).grantObservation
      { operationHandle := operationHandle
        semanticDependency := SemanticDependencySession.forClass observationClass }).afterSentinel
    fun met => .observationOpened state.registry.nextHandle operationHandle observationClass
      met.readings

/-- An observation that is opened. -/
theorem tables_opened {state : EngineState Engine Operation Digest Sink} {operationHandle : Nat}
    {owner : OperationEntry Operation} {operation : Operation} {position : Nat}
    {observationClass : AutomaticObservationClass} {causalParentId : Option OperationId}
    (room : KeyedTable.size state.registry.observations < maxObservationSessions)
    (owned : state.registry.operations.lookup operationHandle = some owner)
    (opens : port.openObservation owner.operation state.registry.nextHandle observationClass
      causalParentId = (.ok position, operation)) :
    TableSteps port state (state.opened operationHandle owner operation observationClass) := by
  have moved : port.Moves owner.operation operation := by
    have made : port.Moves owner.operation (port.openObservation owner.operation
        state.registry.nextHandle observationClass causalParentId).2 :=
      .openObservation _ _ _ _
    rwa [opens] at made
  let entry : ObservationEntry Digest :=
    { operationHandle := operationHandle
      semanticDependency := SemanticDependencySession.forClass observationClass }
  let called := state.withRegistry (·.updateOperation operationHandle owner operation)
  have granted : TableStep port called (called.withRegistry (·.grantObservation entry)) :=
    .observationOpened called entry room
      ((KeyedTable.isSome_lookup_insert _ _ _ _).mpr (.inr rfl))
  have announced : TableStep port (called.withRegistry (·.grantObservation entry))
      (state.opened operationHandle owner operation observationClass) :=
    .announced (called.withRegistry (·.grantObservation entry)) state.registry.nextHandle entry
      observationClass (AList.lookup_insert _)
  exact .head (.operation state operationHandle owner operation owned moved)
    (.head granted (.single announced))

/-- A new observation, which the sentinel hears of before anything else happens to it. -/
theorem relates_openObservation {relation : EngineState Engine Operation Digest Sink →
      EngineState Engine Operation Digest Sink → Prop} [IsPreorder _ relation]
    (lifts : ∀ before after, TableSteps port before after → relation before after) {α : Type}
    {operationHandle : Nat} {observationClass : AutomaticObservationClass}
    {causalParentId : Option OperationId}
    {rest : Nat × Nat → EngineM Engine Operation Digest Sink α}
    (continues : ∀ opened, Fallible.Relates relation (rest opened)) :
    Fallible.Relates relation
      (openObservation port operationHandle observationClass causalParentId >>= fun opened =>
        tellSentinel (fun met => .observationOpened opened.1 operationHandle observationClass
          met.readings) >>= fun _ => rest opened) := by
  intro state
  have effect := openObservation_effect port operationHandle observationClass causalParentId state
  simp only [bind, Fallible.bind]
  generalize openObservation port operationHandle observationClass causalParentId state = outcome
    at effect ⊢
  rcases outcome with ⟨reply, next⟩
  change OpenEffect port operationHandle observationClass causalParentId state reply next at effect
  cases effect with
  | refused error refuses => exact refl_of relation state
  | unknown absent => exact lifts _ _ (.single (.skipped state))
  | failed error owner operation owned opens =>
      refine lifts _ _ (.head (.skipped state) (.single ?_))
      have moved : port.Moves owner.operation operation := by
        have made : port.Moves owner.operation (port.openObservation owner.operation
            state.registry.nextHandle observationClass causalParentId).2 :=
          .openObservation _ _ _ _
        rwa [opens] at made
      exact .operation (state.withRegistry (·.skipHandle)) operationHandle owner operation owned
        moved
  | opened owner operation position room owned opens =>
      have opened : relation state
          (state.opened operationHandle owner operation observationClass) :=
        lifts _ _ (tables_opened room owned opens)
      exact trans_of relation opened (continues _ _)

/-- An operation that ends. -/
theorem tables_endOperation (operationHandle : Nat) (how : OperationEnd) :
    Fallible.Relates (TableSteps port)
      (endOperation operationHandle how : EngineM Engine Operation Digest Sink _) := by
  intro state
  cases present : state.registry.operations.lookup operationHandle with
  | none =>
      have found : (state.detach operationHandle).registry.operations.lookup operationHandle =
          none := present
      simp only [endOperation, detachOperation, operationEntry, bind, Fallible.bind,
        Fallible.modify, Fallible.find, found]
      exact .single (.detached state operationHandle)
  | some entry =>
      have found : (state.detach operationHandle).registry.operations.lookup operationHandle =
          some entry := present
      simp only [endOperation, detachOperation, operationEntry, bind, Fallible.bind,
        Fallible.modify, Fallible.find, found, changeRegistry, noteAll]
      exact .single (.ended state operationHandle how entry present)

/-- An engine that is closed. -/
theorem tables_closeEngine (engineHandle : Nat) :
    Fallible.Relates (TableSteps port)
      (closeEngine engineHandle : EngineM Engine Operation Digest Sink _) :=
  Fallible.Relates.bind (Fallible.Relates.find _ _) fun _ =>
    Fallible.Relates.modify fun state => .single (.engineClosed state engineHandle)

/-- Whether a call names an observation, or is a dependency that becomes one. -/
def EngineCall.isObserving : EngineCall Engine Begin → Bool
  | .dependencyFinish .. | .dependencyOpen .. | .observationRead .. | .observationWrite ..
  | .observationDispatch .. | .observationFinish .. | .observationAbandon .. => true
  | _ => false

/-- The calls that name no observation. -/
theorem tables_dispatchImmediate {call : EngineCall Engine Begin}
    (plain : call.isObserving = false) :
    Fallible.Relates (TableSteps port)
      (dispatchImmediate port call : EngineM Engine Operation Digest Sink _) := by
  cases call with
  | contract => exact Fallible.Relates.pure _
  | engineOpen engine =>
      exact Fallible.Relates.bind (tables_openEngine engine) fun _ => Fallible.Relates.pure _
  | engineClose engineHandle =>
      exact Fallible.Relates.bind (tables_closeEngine engineHandle)
        fun _ => Fallible.Relates.pure _
  | operationBegin payload engineHandle =>
      exact Fallible.Relates.bind (tables_beginOperation payload engineHandle)
        fun _ => Fallible.Relates.pure _
  | operationInput input operationHandle =>
      exact Fallible.Relates.bind (tables_onOperation _ fun _ => .recordInput _ _)
        fun _ => Fallible.Relates.pure _
  | observationOpen causalParentId observationClass operationHandle =>
      exact relates_openObservation (fun _ _ made => made) fun opened => Fallible.Relates.pure _
  | operationUnowned causalParentId observationClass evidence operationHandle =>
      refine Fallible.Relates.bind ?_ fun _ => Fallible.Relates.pure _
      refine Fallible.Relates.bind (Fallible.Relates.check _ _) fun _ => ?_
      exact Fallible.Relates.bind (Fallible.Relates.ofExcept _)
        fun _ => tables_onOperation _ fun _ => .markUnowned _ _ _ _
  | operationCloseWorld completion operationHandle =>
      refine Fallible.Relates.bind ?_ fun _ => Fallible.Relates.pure _
      refine Fallible.Relates.bind (tables_tellSentinel fun met => quiet_simple.2.2.1 _ _)
        fun coverage => ?_
      refine Fallible.Relates.bind (Fallible.Relates.find _ _) fun _ => ?_
      refine Fallible.Relates.bind ?_ fun _ => tables_onOperation _ fun _ => .closeWorld _ _
      unfold bindCoverage
      split
      · exact tables_onOperation _ fun _ => .bindNativeSentinelCoverage _ _
      · exact Fallible.Relates.pure ()
  | operationSucceed operationHandle =>
      exact Fallible.Relates.bind (tables_endOperation _ _) fun _ => Fallible.Relates.pure _
  | operationAbandon operationHandle =>
      exact Fallible.Relates.bind (tables_endOperation _ _) fun _ => Fallible.Relates.pure _
  | operationFail failure operationHandle projectToken => exact Fallible.Relates.fail _
  | sinkWait sinkHandle timeoutMs => exact Fallible.Relates.fail _
  | dependencyOpen causalParentId operationHandle request => cases plain
  | dependencyFinish dependencyHandle response => cases plain
  | observationWrite chunk observationHandle stream => cases plain
  | observationDispatch observationHandle => cases plain
  | observationRead observationHandle => cases plain
  | observationFinish observationHandle outcome sessionPosition => cases plain
  | observationAbandon observationHandle => cases plain

/-- A write. -/
theorem touches_observationWrite (chunk : String) (observationHandle : Nat)
    (stream : ObservationStreamInput) :
    Fallible.Relates (Touches port observationHandle)
      (dispatchImmediate port (.observationWrite chunk observationHandle stream) :
        EngineM Engine Operation Digest Sink _) := by
  refine Fallible.Relates.bind ?_ fun _ => Fallible.Relates.pure _
  exact Fallible.Relates.bind (Fallible.Relates.ofExcept _)
    fun chunk => touches_writeObservationBytes stream chunk

/-- A dispatch. -/
theorem touches_observationDispatch (observationHandle : Nat) :
    Fallible.Relates (Touches port observationHandle)
      (dispatchImmediate port (.observationDispatch observationHandle) :
        EngineM Engine Operation Digest Sink _) := by
  refine Fallible.Relates.bind touches_dispatchObservation fun _ => ?_
  exact Fallible.Relates.bind (fun state => .single (.dispatched state))
    fun _ => Fallible.Relates.pure _

/-- A read. -/
theorem touches_observationRead (observationHandle : Nat) :
    Fallible.Relates (Touches port observationHandle)
      (dispatchImmediate port (.observationRead observationHandle) :
        EngineM Engine Operation Digest Sink _) :=
  Fallible.Relates.bind touches_readObservation fun _ => Fallible.Relates.pure _

/-- A finish. -/
theorem touches_observationFinish (observationHandle : Nat) (outcome : DependencyOutcome)
    (sessionPosition : Nat) :
    Fallible.Relates (Touches port observationHandle)
      (dispatchImmediate port (.observationFinish observationHandle outcome sessionPosition) :
        EngineM Engine Operation Digest Sink _) := by
  refine Fallible.Relates.bind (fun state => .single (.finished state)) fun _ => ?_
  exact Fallible.Relates.bind (touches_finishObservationInner _ _)
    fun _ => Fallible.Relates.pure _

/-- An abandon. -/
theorem touches_observationAbandon (observationHandle : Nat) :
    Fallible.Relates (Touches port observationHandle)
      (dispatchImmediate port (.observationAbandon observationHandle) :
        EngineM Engine Operation Digest Sink _) := by
  refine Fallible.Relates.bind (fun state => .single (.finished state)) fun _ => ?_
  exact Fallible.Relates.bind touches_abandonObservation fun _ => Fallible.Relates.pure _

/-- Every call under the lock is a sequence of steps. -/
theorem steps_dispatchImmediate (call : EngineCall Engine Begin) :
    Fallible.Relates (EngineSteps port)
      (dispatchImmediate port call : EngineM Engine Operation Digest Sink _) := by
  cases observing : call.isObserving with
  | false => exact steps_of_tables (tables_dispatchImmediate observing)
  | true =>
      cases call with
      | dependencyOpen causalParentId operationHandle request =>
          refine Fallible.Relates.bind (Fallible.Relates.ofExcept _) fun bytes => ?_
          exact relates_openObservation (fun _ _ made => made.steps)
            fun opened => steps_of_touches (touches_startDependency _ _)
      | dependencyFinish dependencyHandle response =>
          exact steps_of_touches (touches_finishDependency response)
      | observationWrite chunk observationHandle stream =>
          exact steps_of_touches (touches_observationWrite chunk observationHandle stream)
      | observationDispatch observationHandle =>
          exact steps_of_touches (touches_observationDispatch observationHandle)
      | observationRead observationHandle =>
          exact steps_of_touches (touches_observationRead observationHandle)
      | observationFinish observationHandle outcome sessionPosition =>
          exact steps_of_touches (touches_observationFinish observationHandle outcome
            sessionPosition)
      | observationAbandon observationHandle =>
          exact steps_of_touches (touches_observationAbandon observationHandle)
      | _ => cases observing

end Calls

/-! ## Registering a failure -/

section Failures

variable {port : EnginePort Engine Begin Operation Digest}

/-- What becomes of a failed operation under the lock. -/
inductive RegisterEffect (operationHandle : Nat) (failure : FailureIdentity)
    (state : EngineState Engine Operation Digest Sink) :
    Except Error (Nat × Nat) → EngineState Engine Operation Digest Sink → Prop
  | unknown (absent : state.registry.operations.lookup operationHandle = none) :
      RegisterEffect operationHandle failure state (.error handleNotFound)
        (state.detach operationHandle)
  | abandoned (error : Error) (entry : OperationEntry Operation)
      (present : state.registry.operations.lookup operationHandle = some entry) :
      RegisterEffect operationHandle failure state (.error error)
        ((state.take operationHandle).noted [.ended operationHandle .abandoned])
  | registered (entry : OperationEntry Operation) (projectToken : String)
      (present : state.registry.operations.lookup operationHandle = some entry)
      (room : KeyedTable.size state.registry.sinks < maxSinks) :
      RegisterEffect operationHandle failure state
        (.ok (state.registry.nextHandle, state.tasks.length))
        (state.entrust entry (failureJob operationHandle entry failure projectToken))

/-- A failed operation leaves its table. -/
theorem registerFailure_effect (operationHandle : Nat) (failure : FailureIdentity)
    (projectToken : String) (state : EngineState Engine Operation Digest Sink) :
    RegisterEffect operationHandle failure state
      (registerFailure operationHandle failure projectToken state).1
      (registerFailure operationHandle failure projectToken state).2 := by
  cases present : state.registry.operations.lookup operationHandle with
  | none =>
      simp only [registerFailure, takeFailureOperation, operationEntry, bind, Fallible.bind,
        Fallible.gets, Fallible.attempt, Fallible.find, present, detachOperation, Fallible.modify,
        Fallible.ofExcept]
      exact .unknown present
  | some entry =>
      by_cases room : KeyedTable.size state.registry.sinks < maxSinks
      · have free : ¬ maxSinks ≤ KeyedTable.size state.registry.sinks := Nat.not_le_of_lt room
        cases valid : newProjectToken projectToken with
        | error error =>
            simp only [registerFailure, takeFailureOperation, operationEntry, bind, Fallible.bind,
              Fallible.gets, Fallible.attempt, Fallible.find, present, detachOperation,
              Fallible.modify, Fallible.ofExcept, changeRegistry, Fallible.onError,
              Fallible.check, free, decide_false, Bool.not_false, if_true, pure, Fallible.pure,
              valid, abandonOperation, noteAll]
            exact .abandoned error entry present
        | ok token =>
            by_cases left : state.registry.nextHandle < u64Max
            · have unspent : ((state.withRegistry (·.removeOperation operationHandle)).detach
                  operationHandle).registry.nextHandle < u64Max := left
              simp only [registerFailure, takeFailureOperation, operationEntry, bind,
                Fallible.bind, Fallible.gets, Fallible.attempt, Fallible.find, present,
                detachOperation, Fallible.modify, Fallible.ofExcept, changeRegistry,
                Fallible.onError, Fallible.check, free, decide_false, Bool.not_false, if_true,
                pure, Fallible.pure, valid, prepareFailure, allocateHandle, unspent, decide_true]
              exact .registered entry token present room
            · have spent : ¬ ((state.withRegistry (·.removeOperation operationHandle)).detach
                  operationHandle).registry.nextHandle < u64Max := left
              simp only [registerFailure, takeFailureOperation, operationEntry, bind,
                Fallible.bind, Fallible.gets, Fallible.attempt, Fallible.find, present,
                detachOperation, Fallible.modify, Fallible.ofExcept, changeRegistry,
                Fallible.onError, Fallible.check, free, decide_false, Bool.not_false, if_true,
                pure, Fallible.pure, valid, prepareFailure, allocateHandle, spent, decide_false,
                Bool.false_eq_true, if_false, abandonOperation, noteAll]
              exact .abandoned quotaError entry present
      · have full : maxSinks ≤ KeyedTable.size state.registry.sinks := Nat.le_of_not_lt room
        simp only [registerFailure, takeFailureOperation, operationEntry, bind, Fallible.bind,
          Fallible.gets, Fallible.attempt, Fallible.find, present, detachOperation,
          Fallible.modify, Fallible.ofExcept, changeRegistry, Fallible.onError, Fallible.check,
          full, decide_true, Bool.not_true, Bool.false_eq_true, if_false, abandonOperation,
          noteAll]
        exact .abandoned quotaError entry present

/-- A failed operation ends, or becomes the job of a new task. -/
theorem tables_registerFailure (operationHandle : Nat) (failure : FailureIdentity)
    (projectToken : String) :
    Fallible.Relates (TableSteps port)
      (registerFailure operationHandle failure projectToken :
        EngineM Engine Operation Digest Sink _) := by
  intro state
  have effect := registerFailure_effect operationHandle failure projectToken state
  generalize registerFailure operationHandle failure projectToken state = outcome at effect ⊢
  rcases outcome with ⟨reply, next⟩
  change RegisterEffect operationHandle failure state reply next at effect
  cases effect with
  | unknown absent => exact .single (.detached state operationHandle)
  | abandoned error entry present =>
      exact .single (.ended state operationHandle .abandoned entry present)
  | registered entry projectToken present room =>
      exact .single (.entrusted state entry _ present room)

/-- Looking for the task of a sink changes nothing. -/
theorem tables_sinkTask (sinkHandle timeoutMs : Nat) :
    Fallible.Relates (TableSteps port)
      (sinkTask sinkHandle timeoutMs : EngineM Engine Operation Digest Sink _) :=
  Fallible.Relates.bind (Fallible.Relates.check _ _) fun _ =>
    Fallible.Relates.bind (Fallible.Relates.find _ _) fun _ => Fallible.Relates.pure _

end Failures

/-! ## The system -/

/-- Nothing changes but sinks, tasks and the journal. -/
structure Aside (before after : EngineState Engine Operation Digest Sink) : Prop where
  sentinel : after.sentinel = before.sentinel
  nextHandle : after.registry.nextHandle = before.registry.nextHandle
  engines : after.registry.engines = before.registry.engines
  observations : after.registry.observations = before.registry.observations
  operations : after.registry.operations = before.registry.operations

/-- Removing a sink leaves the other tables alone. -/
theorem aside_removeSinkIfSame (state : EngineState Engine Operation Digest Sink)
    (sinkHandle task : Nat) :
    Aside state (state.withRegistry (·.removeSinkIfSame sinkHandle task)) := by
  unfold Registry.removeSinkIfSame EngineState.withRegistry
  refine ⟨rfl, ?_, ?_, ?_, ?_⟩ <;>
  · dsimp only
    split
    · split <;> rfl
    · rfl

namespace EngineSystem

variable (port : EnginePort Engine Begin Operation Digest)

/-- A call is a sequence of steps as far as it holds the lock. -/
theorem steps_callStep (system : EngineSystem Engine Operation Digest Sink)
    (request : EngineRequest Engine Begin) :
    EngineSteps port system.shared (system.callStep port request).2.shared := by
  unfold callStep
  split
  · exact .refl
  · split
    · rename_i failure operationHandle projectToken same
      have steps : EngineSteps port system.shared _ := steps_of_tables
        (tables_registerFailure operationHandle failure projectToken) system.shared
      split <;>
      · rename_i made
        rw [made] at steps
        exact steps
    · rename_i sinkHandle timeoutMs same
      have steps : EngineSteps port system.shared _ :=
        steps_of_tables (tables_sinkTask sinkHandle timeoutMs) system.shared
      split <;>
      · rename_i made
        rw [made] at steps
        exact steps
    · exact steps_dispatchImmediate request.call system.shared

/-- The steps of the system that begin no call change sinks, tasks and the journal at most. -/
theorem aside_step (system : EngineSystem Engine Operation Digest Sink)
    {action : EngineAction Engine Begin Sink} (quiet : ∀ request, action ≠ .call request) :
    Aside system.shared (step port system action).2.shared := by
  cases action with
  | call request => exact absurd rfl (quiet request)
  | send callId connected =>
      show Aside system.shared (system.sendStep callId connected).2.shared
      unfold sendStep
      split
      · split <;> exact ⟨rfl, rfl, rfl, rfl, rfl⟩
      · exact ⟨rfl, rfl, rfl, rfl, rfl⟩
  | cancel callId =>
      show Aside system.shared (system.cancelStep callId).2.shared
      unfold cancelStep
      split <;> exact ⟨rfl, rfl, rfl, rfl, rfl⟩
  | unregister callId =>
      show Aside system.shared (system.unregisterStep callId).2.shared
      unfold unregisterStep
      split
      · exact aside_removeSinkIfSame system.shared _ _
      · exact aside_removeSinkIfSame system.shared _ _
      · exact ⟨rfl, rfl, rfl, rfl, rfl⟩
  | look callId expired idle =>
      show Aside system.shared (system.lookStep callId expired idle).2.shared
      unfold lookStep
      split
      · split <;> exact ⟨rfl, rfl, rfl, rfl, rfl⟩
      · exact ⟨rfl, rfl, rfl, rfl, rfl⟩
  | receive =>
      show Aside system.shared system.receiveStep.shared
      unfold receiveStep
      split
      · split <;> exact ⟨rfl, rfl, rfl, rfl, rfl⟩
      · exact ⟨rfl, rfl, rfl, rfl, rfl⟩
  | finalize finalized =>
      show Aside system.shared (system.finalizeStep finalized).shared
      unfold finalizeStep
      split <;> exact ⟨rfl, rfl, rfl, rfl, rfl⟩

/-- Every step of the system is a sequence of steps under the lock or changes aside. -/
theorem shared_step (system : EngineSystem Engine Operation Digest Sink)
    (action : EngineAction Engine Begin Sink) :
    EngineSteps port system.shared (step port system action).2.shared ∨
      Aside system.shared (step port system action).2.shared := by
  cases action with
  | call request => exact .inl (steps_callStep port system request)
  | _ => exact .inr (aside_step port system fun _ same => by cases same)

end EngineSystem
end Engine
end ReproItSdk
