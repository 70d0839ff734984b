import ReproItSdk.Engine.Calls

/-! # The engine with its callers and its worker

Most calls hold the lock of the engine until they return.  Two do not: a failure is registered
under the lock and sent to the worker afterwards, and a wait looks at its failure task outside.
Between their steps other calls and the worker run in any order.

Main definitions:

- Function {lit}`registerFailure`: the part of {lit}`enqueue_failure` under the lock.
- Structure {lit}`EngineSystem`: the shared state, the queue of the worker and all calls.
- Function {lit}`EngineSystem.step`: one step of a caller or of the worker.
-/

namespace ReproItSdk
namespace Engine

variable {Engine Begin Operation Digest Sink : Type}

/-! ## Registering a failure -/

/-- {lit}`MAX_PROJECT_TOKEN_BYTES`. -/
def maxProjectTokenBytes : Nat :=
  1024

/-- {lit}`is_ascii_graphic`. -/
def isAsciiGraphic (character : Char) : Bool :=
  33 ≤ character.toNat && character.toNat ≤ 126

/-- The error of an invalid project token. -/
def projectTokenInvalid : Error where
  code := .schemaInvalid
  message := "The managed project token is invalid."

/-- {lit}`ManagedProjectToken::new`. -/
def newProjectToken (value : String) : Except Error String :=
  if value.isEmpty ∨ maxProjectTokenBytes < value.utf8ByteSize ∨
      ¬ value.toList.all isAsciiGraphic then
    .error projectTokenInvalid
  else .ok value

/-- {lit}`abandon_incomplete` of an operation that has left its table. -/
def abandonOperation (operationHandle : Nat) : EngineM Engine Operation Digest Sink Unit :=
  noteAll [.ended operationHandle .abandoned]

/-- {lit}`take_failure_operation`: without room for a sink the operation is abandoned. -/
def takeFailureOperation (operationHandle : Nat) (atCapacity : Bool) :
    EngineM Engine Operation Digest Sink (OperationEntry Operation) := do
  let entry ← operationEntry operationHandle
  changeRegistry (·.removeOperation operationHandle)
  Fallible.onError (Fallible.check (fun _ => !atCapacity) quotaError)
    (abandonOperation operationHandle)
  pure entry

/-- A new failure task with its job. -/
def EngineState.addTask (state : EngineState Engine Operation Digest Sink)
    (job : ProductionFailureJob Operation) : EngineState Engine Operation Digest Sink :=
  { state with tasks := state.tasks ++ [.pending (some job)] }

/-- {lit}`prepare_failure`: a sink with a pending task.  The reply names both. -/
def prepareFailure (operationHandle : Nat) (entry : OperationEntry Operation)
    (failure : FailureIdentity) (projectToken : String) :
    EngineM Engine Operation Digest Sink (Nat × Nat) := do
  let handle ← Fallible.onError allocateHandle (abandonOperation operationHandle)
  let task ← Fallible.gets (·.tasks.length)
  Fallible.modify (·.addTask
    { failure := failure
      operation := entry.operation
      projectToken := projectToken
      operationHandle := operationHandle })
  changeRegistry fun registry =>
    { registry with
      sinks := registry.sinks.insert handle
        { engineHandle := entry.engineHandle, task := task } }
  pure (handle, task)

/-- The part of {lit}`enqueue_failure` under the lock. -/
def registerFailure (operationHandle : Nat) (failure : FailureIdentity) (projectToken : String) :
    EngineM Engine Operation Digest Sink (Nat × Nat) := do
  let atCapacity ← Fallible.gets fun state : EngineState Engine Operation Digest Sink =>
    decide (maxSinks ≤ KeyedTable.size state.registry.sinks)
  let taken ← Fallible.attempt (takeFailureOperation operationHandle atCapacity)
  detachOperation operationHandle
  let entry ← Fallible.ofExcept taken
  let projectToken ← Fallible.onError (Fallible.ofExcept (newProjectToken projectToken))
    (abandonOperation operationHandle)
  prepareFailure operationHandle entry failure projectToken

/-! ## Waiting for a sink -/

/-- {lit}`MAX_SINK_WAIT_MS`. -/
def maxSinkWaitMs : Nat :=
  1800000

/-- The part of {lit}`wait_for_sink` under the lock: the task of a sink. -/
def sinkTask (sinkHandle timeoutMs : Nat) : EngineM Engine Operation Digest Sink Nat := do
  Fallible.check (fun _ => timeoutMs ≤ maxSinkWaitMs) quotaError
  let entry ← Fallible.find (fun state : EngineState Engine Operation Digest Sink =>
    state.registry.sinks.lookup sinkHandle) handleNotFound
  pure entry.task

/-- What {lit}`wait_until_idle` answers when it looks at a task, unless it goes on waiting.  A sink
tells whether it is idle. -/
def waitAnswer {Job : Type} (cell : FailureTaskState Job Sink) (expired idle : Bool) :
    Option (Except Error Bool) :=
  match cell with
  | .cancelled => some (.error taskNotFound)
  | .failed error => some (.error error)
  | .ready _ => some (.ok idle)
  | .pending _ | .running => if expired then some (.ok false) else none

/-- {lit}`remove_sink_if_same`. -/
def Registry.removeSinkIfSame (registry : Registry Engine Operation Digest)
    (sinkHandle task : Nat) : Registry Engine Operation Digest :=
  match registry.sinks.lookup sinkHandle with
  | some entry =>
      if entry.task = task then { registry with sinks := registry.sinks.erase sinkHandle }
      else registry
  | none => registry

/-! ## The system -/

/-- {lit}`quota_error` of the failure tasks. -/
def taskQuotaError : Error where
  code := .runtimeQuota
  message := "The shared SDK failure task limit was reached."

/-- Progress of a call. -/
inductive CallPhase where
  | sending (operationHandle sinkHandle task : Nat)
  | rejecting (operationHandle sinkHandle task : Nat) (error : Error)
  | rejected (operationHandle sinkHandle task : Nat) (error : Error)
  | waiting (sinkHandle task : Nat)
  | settled (sinkHandle task : Nat) (answer : Except Error Bool)
  | returned
deriving DecidableEq, Repr

/-- The shared state with the worker and all calls that were ever made. -/
structure EngineSystem (Engine Operation Digest Sink : Type) where
  shared : EngineState Engine Operation Digest Sink
  hasWorker : Bool
  queue : List Nat
  running : Option (Nat × ProductionFailureJob Operation)
  calls : List CallPhase

/-- A call with the format that its caller speaks. -/
structure EngineRequest (Engine Begin : Type) where
  format : String
  call : EngineCall Engine Begin

/-- The steps of the callers and of the worker.  A step carries what it meets outside: whether the
worker still listens, what a wait finds, and what became of a failure. -/
inductive EngineAction (Engine Begin Sink : Type) where
  | call (request : EngineRequest Engine Begin)
  | send (callId : Nat) (connected : Bool)
  | cancel (callId : Nat)
  | unregister (callId : Nat)
  | look (callId : Nat) (expired idle : Bool)
  | receive
  | finalize (finalized : Option (Except Error Sink))

/-- What a call answers when it returns. -/
structure CallAnswer where
  callId : Nat
  reply : Except Error EngineReply

namespace EngineSystem

/-- The system before the first call. -/
def new (surroundings : Nat → Surroundings) (hasWorker : Bool) :
    EngineSystem Engine Operation Digest Sink where
  shared :=
    { registry := .new
      sentinel := .new
      surroundings := surroundings
      tasks := []
      journal := [] }
  hasWorker := hasWorker
  queue := []
  running := none
  calls := []

/-- A call that was made and is in some phase. -/
def begun (system : EngineSystem Engine Operation Digest Sink)
    (shared : EngineState Engine Operation Digest Sink) (phase : CallPhase) :
    EngineSystem Engine Operation Digest Sink :=
  { system with shared := shared, calls := system.calls ++ [phase] }

/-- A call that was made and returned at once. -/
def answered (system : EngineSystem Engine Operation Digest Sink)
    (shared : EngineState Engine Operation Digest Sink) (reply : Except Error EngineReply) :
    Option CallAnswer × EngineSystem Engine Operation Digest Sink :=
  (some { callId := system.calls.length, reply := reply }, system.begun shared .returned)

/-- A call that goes on in another phase. -/
def moved (system : EngineSystem Engine Operation Digest Sink)
    (shared : EngineState Engine Operation Digest Sink) (callId : Nat) (phase : CallPhase) :
    EngineSystem Engine Operation Digest Sink :=
  { system with shared := shared, calls := system.calls.set callId phase }

/-- A call that returns. -/
def ended (system : EngineSystem Engine Operation Digest Sink)
    (shared : EngineState Engine Operation Digest Sink) (callId : Nat)
    (reply : Except Error EngineReply) :
    Option CallAnswer × EngineSystem Engine Operation Digest Sink :=
  (some { callId := callId, reply := reply }, system.moved shared callId .returned)

/-- {lit}`dispatch_call` as far as it holds the lock. -/
def callStep (port : EnginePort Engine Begin Operation Digest)
    (system : EngineSystem Engine Operation Digest Sink) (request : EngineRequest Engine Begin) :
    Option CallAnswer × EngineSystem Engine Operation Digest Sink :=
  if request.format ≠ callFormat then system.answered system.shared (.error port.schemaInvalid)
  else
    match request.call with
    | .operationFail failure operationHandle projectToken =>
        match registerFailure operationHandle failure projectToken system.shared with
        | (.error error, shared) => system.answered shared (.error error)
        | (.ok made, shared) => (none, system.begun shared (.sending operationHandle made.1 made.2))
    | .sinkWait sinkHandle timeoutMs =>
        match sinkTask sinkHandle timeoutMs system.shared with
        | (.error error, shared) => system.answered shared (.error error)
        | (.ok task, shared) => (none, system.begun shared (.waiting sinkHandle task))
    | call =>
        system.answered (dispatchImmediate port call system.shared).2
          (dispatchImmediate port call system.shared).1

/-- {lit}`try_send`: why the worker does not take a task, if it does not. -/
def sendError (system : EngineSystem Engine Operation Digest Sink) (connected : Bool) :
    Option Error :=
  if ¬ system.hasWorker then some backgroundUnavailable
  else if maxFailureTasks ≤ system.queue.length then some taskQuotaError
  else if ¬ connected then some backgroundUnavailable
  else none

/-- The rest of {lit}`enqueue_failure`: send the task to the worker. -/
def sendStep (system : EngineSystem Engine Operation Digest Sink) (callId : Nat)
    (connected : Bool) : Option CallAnswer × EngineSystem Engine Operation Digest Sink :=
  match system.calls[callId]? with
  | some (.sending operationHandle sinkHandle task) =>
      match system.sendError connected with
      | some error =>
          (none, system.moved system.shared callId
            (.rejecting operationHandle sinkHandle task error))
      | none =>
          { system with queue := system.queue ++ [task] }.ended system.shared callId
            (.ok (.sink sinkHandle))
  | _ => (none, system)

/-- {lit}`reject_failure_enqueue` as far as cancelling the task. -/
def cancelStep (system : EngineSystem Engine Operation Digest Sink) (callId : Nat) :
    Option CallAnswer × EngineSystem Engine Operation Digest Sink :=
  match system.calls[callId]? with
  | some (.rejecting operationHandle sinkHandle task error) =>
      (none, system.moved (system.shared.cancelTask task) callId
        (.rejected operationHandle sinkHandle task error))
  | _ => (none, system)

/-- The end of a call that removes its sink. -/
def unregisterStep (system : EngineSystem Engine Operation Digest Sink) (callId : Nat) :
    Option CallAnswer × EngineSystem Engine Operation Digest Sink :=
  match system.calls[callId]? with
  | some (.rejected _ sinkHandle task error) =>
      system.ended (system.shared.withRegistry (·.removeSinkIfSame sinkHandle task)) callId
        (.error error)
  | some (.settled sinkHandle task answer) =>
      system.ended (system.shared.withRegistry (·.removeSinkIfSame sinkHandle task)) callId
        (answer.map .idle)
  | _ => (none, system)

/-- A look of {lit}`wait_for_sink` at its task.  An answer other than that the sink is busy removes
the sink. -/
def lookStep (system : EngineSystem Engine Operation Digest Sink) (callId : Nat)
    (expired idle : Bool) : Option CallAnswer × EngineSystem Engine Operation Digest Sink :=
  match system.calls[callId]? with
  | some (.waiting sinkHandle task) =>
      match system.shared.tasks[task]?.bind (waitAnswer · expired idle) with
      | none => (none, system)
      | some (.ok false) => system.ended system.shared callId (.ok (.idle false))
      | some answer => (none, system.moved system.shared callId (.settled sinkHandle task answer))
  | _ => (none, system)

/-- The worker takes the next task, and its job if that was not cancelled. -/
def receiveStep (system : EngineSystem Engine Operation Digest Sink) :
    EngineSystem Engine Operation Digest Sink :=
  match system.running, system.queue with
  | none, task :: queue =>
      match system.shared.tasks[task]?.bind (·.takeJob) with
      | none => { system with queue := queue }
      | some (job, cell) =>
          { system with
            shared := { system.shared with tasks := system.shared.tasks.set task cell }
            queue := queue
            running := some (task, job) }
  | _, _ => system

/-- The shared state after a failure was finished: the operation is consumed, and the task keeps
the sink or the error. -/
def finished (shared : EngineState Engine Operation Digest Sink) (task operationHandle : Nat)
    (result : Except Error Sink) : EngineState Engine Operation Digest Sink :=
  { shared with
    tasks := shared.tasks.modify task (·.complete result)
    journal := shared.journal ++ [.ended operationHandle .failed] }

/-- The worker finishes the job it runs. -/
def finalizeStep (system : EngineSystem Engine Operation Digest Sink)
    (finalized : Option (Except Error Sink)) : EngineSystem Engine Operation Digest Sink :=
  match system.running with
  | none => system
  | some (task, job) =>
      { system with
        shared := finished system.shared task job.operationHandle (finalResult finalized)
        running := none }

/-- One step of a caller or of the worker.  A step that cannot be taken does nothing. -/
def step (port : EnginePort Engine Begin Operation Digest)
    (system : EngineSystem Engine Operation Digest Sink) (action : EngineAction Engine Begin Sink) :
    Option CallAnswer × EngineSystem Engine Operation Digest Sink :=
  match action with
  | .call request => system.callStep port request
  | .send callId connected => system.sendStep callId connected
  | .cancel callId => system.cancelStep callId
  | .unregister callId => system.unregisterStep callId
  | .look callId expired idle => system.lookStep callId expired idle
  | .receive => (none, system.receiveStep)
  | .finalize finalized => (none, system.finalizeStep finalized)

/-- The system after a run. -/
def after (port : EnginePort Engine Begin Operation Digest)
    (system : EngineSystem Engine Operation Digest Sink)
    (actions : List (EngineAction Engine Begin Sink)) :
    EngineSystem Engine Operation Digest Sink :=
  Runs.final (step port) system actions

/-- The system after one more step. -/
theorem after_append_singleton {port : EnginePort Engine Begin Operation Digest}
    (system : EngineSystem Engine Operation Digest Sink)
    (before : List (EngineAction Engine Begin Sink)) (last : EngineAction Engine Begin Sink) :
    system.after port (before ++ [last]) = (step port (system.after port before) last).2 :=
  Runs.final_append _ before [last] system

end EngineSystem
end Engine
end ReproItSdk
