import ReproItSdk.Core.Model
import ReproItSdk.Library.Runs

/-! # Failure tasks

A failure task is a cell behind a lock.  It holds the job of a failure until a worker takes it, and
the sink or the error that the worker made of it afterwards.  Anyone may cancel it, and anyone may
wait until its sink is idle.

Workers, cancelling threads and waiters run concurrently.  One step is one critical section of the
cell, one reading of the clock, or one look of a waiter at the sink.

Main definitions:

- Inductive {lit}`FailureTaskState`: the cell, with its operations.
- Structure {lit}`TaskSystem`: the cell, the clock, the workers and the waiters.
- Function {lit}`TaskSystem.step`: one step of any thread, with what it did.
-/

namespace ReproItSdk
namespace Engine

variable {Job Sink : Type}

/-! ## Errors -/

/-- {lit}`not_found` of a failure task. -/
def taskNotFound : Error where
  code := .notFound
  message := "The shared SDK failure task does not exist."

/-- {lit}`background_unavailable`. -/
def backgroundUnavailable : Error where
  code := .serviceUnavailable
  message := "The shared SDK failure task is unavailable."

/-! ## The cell -/

/-- State of a failure task. -/
inductive FailureTaskState (Job Sink : Type) where
  | cancelled
  | failed (error : Error)
  | pending (job : Option Job)
  | ready (sink : Sink)
  | running
deriving DecidableEq, Repr

namespace FailureTaskState

/-- {lit}`take_job`: the job, if nobody has taken it, and the state it leaves. -/
def takeJob : FailureTaskState Job Sink → Option (Job × FailureTaskState Job Sink)
  | .pending (some job) => some (job, .running)
  | _ => none

/-- {lit}`complete`: a cancelled task keeps nothing. -/
def complete (state : FailureTaskState Job Sink) (result : Except Error Sink) :
    FailureTaskState Job Sink :=
  match state, result with
  | .cancelled, _ => .cancelled
  | _, .ok sink => .ready sink
  | _, .error error => .failed error

/-- Whether {lit}`complete` stores its result. -/
def keeps : FailureTaskState Job Sink → Bool
  | .cancelled => false
  | _ => true

/-- Whether the task is still to be done. -/
def unfinished : FailureTaskState Job Sink → Bool
  | .pending _ | .running => true
  | _ => false

end FailureTaskState

/-- {lit}`finish_failure_task`: a finalizer that panics counts as an error. -/
def finalResult (finalized : Option (Except Error Sink)) : Except Error Sink :=
  finalized.getD (.error backgroundUnavailable)

/-! ## Waiters -/

/-- Progress of a call of {lit}`wait_until_idle`. -/
inductive WaiterPhase (Sink : Type) where
  | called
  | sleeping
  | holding (sink : Sink)
  | measured (sink : Sink) (remaining : Nat)
  | polling (sink : Sink) (deadline : Nat)
  | returned
deriving DecidableEq, Repr

/-- A call of {lit}`wait_until_idle`. -/
structure Waiter (Sink : Type) where
  started : Nat
  timeout : Nat
  phase : WaiterPhase Sink
deriving DecidableEq, Repr

namespace Waiter

/-- Time that is left of the timeout. -/
def remaining (waiter : Waiter Sink) (clock : Nat) : Nat :=
  waiter.timeout - (clock - waiter.started)

/-- The waiter in another phase. -/
def enter (waiter : Waiter Sink) (phase : WaiterPhase Sink) : Waiter Sink :=
  { waiter with phase := phase }

end Waiter

/-- What a waiter makes of the cell. -/
inductive Look (Sink : Type) where
  | answers (answer : Except Error Bool)
  | takes (sink : Sink)
  | sleeps

/-- One turn of the loop of {lit}`wait_until_idle` under the lock. -/
def look (cell : FailureTaskState Job Sink) (clock : Nat) (waiter : Waiter Sink) : Look Sink :=
  match cell with
  | .cancelled => .answers (.error taskNotFound)
  | .failed error => .answers (.error error)
  | .ready sink => .takes sink
  | .pending _ | .running =>
      if waiter.remaining clock = 0 then .answers (.ok false) else .sleeps

/-- The rest of a turn, after the condition variable gave the lock back. -/
def lookAfterSleep (cell : FailureTaskState Job Sink) (clock : Nat) (waiter : Waiter Sink)
    (timedOut : Bool) : Look Sink :=
  if timedOut ∧ cell.unfinished then .answers (.ok false) else look cell clock waiter

/-! ## The system -/

/-- Progress of a run of a worker with the task. -/
inductive RunPhase (Job : Type) where
  | running (job : Job)
  | done
deriving DecidableEq, Repr

/-- A failure task with all threads that use it. -/
structure TaskSystem (Job Sink : Type) where
  cell : FailureTaskState Job Sink
  clock : Nat
  runs : KeyedTable Nat (RunPhase Job)
  waiters : KeyedTable Nat (Waiter Sink)

/-- What a step did. -/
inductive TaskEvent (Sink : Type) where
  | took (runId : Nat)
  | stored (runId : Nat) (result : Except Error Sink)
  | cancelled
  | called (waiterId started timeout : Nat)
  | sawSink (waiterId : Nat) (sink : Sink)
  | returned (waiterId : Nat) (answer : Except Error Bool)

/-- The steps of the threads. -/
inductive TaskAction (Sink : Type) where
  | tick (elapsed : Nat)
  | takeJob (runId : Nat)
  | complete (runId : Nat) (finalized : Option (Except Error Sink))
  | cancel
  | call (waiterId timeout : Nat)
  | look (waiterId : Nat)
  | wake (waiterId : Nat) (timedOut : Bool)
  | measure (waiterId : Nat)
  | enterSink (waiterId : Nat)
  | poll (waiterId : Nat) (idle : Bool)

namespace TaskSystem

/-- {lit}`FailureTask::pending`. -/
def pending (job : Job) : TaskSystem Job Sink where
  cell := .pending (some job)
  clock := 0
  runs := ∅
  waiters := ∅

/-- Move a waiter to another phase. -/
def move (system : TaskSystem Job Sink) (waiterId : Nat) (waiter : Waiter Sink)
    (phase : WaiterPhase Sink) : TaskSystem Job Sink :=
  { system with waiters := system.waiters.insert waiterId (waiter.enter phase) }

/-- What becomes of a waiter that looked at the cell. -/
def looked (system : TaskSystem Job Sink) (waiterId : Nat) (waiter : Waiter Sink) :
    Look Sink → Option (TaskEvent Sink) × TaskSystem Job Sink
  | .answers answer => (some (.returned waiterId answer), system.move waiterId waiter .returned)
  | .takes sink => (some (.sawSink waiterId sink), system.move waiterId waiter (.holding sink))
  | .sleeps => (none, system.move waiterId waiter .sleeping)

/-- A waiter that the condition variable wakes.  It may wake at any time, and is told that the time
is over only when it is. -/
def wakeStep (system : TaskSystem Job Sink) (waiterId : Nat) (waiter : Waiter Sink)
    (timedOut : Bool) : Option (TaskEvent Sink) × TaskSystem Job Sink :=
  if timedOut ∧ system.clock < waiter.started + waiter.timeout then (none, system)
  else
    system.looked waiterId waiter (lookAfterSleep system.cell system.clock waiter timedOut)

/-- A waiter that looks whether the sink is idle.  The sink compares the clock with its own deadline
whenever it is not. -/
def pollStep (system : TaskSystem Job Sink) (waiterId : Nat) (waiter : Waiter Sink)
    (deadline : Nat) (idle : Bool) : Option (TaskEvent Sink) × TaskSystem Job Sink :=
  if idle ∨ deadline ≤ system.clock then
    (some (.returned waiterId (.ok idle)), system.move waiterId waiter .returned)
  else (none, system)

/-- One step of a waiter. -/
def waiterStep (system : TaskSystem Job Sink) (waiterId : Nat) (waiter : Waiter Sink) :
    WaiterPhase Sink → TaskAction Sink → Option (TaskEvent Sink) × TaskSystem Job Sink
  | .called, .look _ =>
      system.looked waiterId waiter (Engine.look system.cell system.clock waiter)
  | .sleeping, .wake _ timedOut => system.wakeStep waiterId waiter timedOut
  | .holding sink, .measure _ =>
      (none, system.move waiterId waiter (.measured sink (waiter.remaining system.clock)))
  | .measured sink remaining, .enterSink _ =>
      (none, system.move waiterId waiter (.polling sink (system.clock + remaining)))
  | .polling _ deadline, .poll _ idle => system.pollStep waiterId waiter deadline idle
  | _, _ => (none, system)

/-- A step of a waiter that is there. -/
def waiterStepAt (system : TaskSystem Job Sink) (waiterId : Nat) (action : TaskAction Sink) :
    Option (TaskEvent Sink) × TaskSystem Job Sink :=
  match system.waiters.lookup waiterId with
  | none => (none, system)
  | some waiter => system.waiterStep waiterId waiter waiter.phase action

/-- {lit}`FailureWork::run` as far as taking the job. -/
def takeJobStep (system : TaskSystem Job Sink) (runId : Nat) :
    Option (TaskEvent Sink) × TaskSystem Job Sink :=
  match system.runs.lookup runId with
  | some _ => (none, system)
  | none =>
      match system.cell.takeJob with
      | none => (none, { system with runs := system.runs.insert runId .done })
      | some (job, cell) =>
          (some (.took runId),
            { system with cell := cell, runs := system.runs.insert runId (.running job) })

/-- The end of {lit}`finish_failure_task`. -/
def completeStep (system : TaskSystem Job Sink) (runId : Nat)
    (finalized : Option (Except Error Sink)) : Option (TaskEvent Sink) × TaskSystem Job Sink :=
  match system.runs.lookup runId with
  | some (.running _) =>
      (if system.cell.keeps then some (.stored runId (finalResult finalized)) else none,
        { system with
          cell := system.cell.complete (finalResult finalized)
          runs := system.runs.insert runId .done })
  | _ => (none, system)

/-- The beginning of {lit}`wait_until_idle`. -/
def callStep (system : TaskSystem Job Sink) (waiterId timeout : Nat) :
    Option (TaskEvent Sink) × TaskSystem Job Sink :=
  match system.waiters.lookup waiterId with
  | some _ => (none, system)
  | none =>
      (some (.called waiterId system.clock timeout),
        { system with
          waiters := system.waiters.insert waiterId
            { started := system.clock, timeout := timeout, phase := .called } })

/-- One step of any thread.  A step that no thread can take does nothing. -/
def step (system : TaskSystem Job Sink) (action : TaskAction Sink) :
    Option (TaskEvent Sink) × TaskSystem Job Sink :=
  match action with
  | .tick elapsed => (none, { system with clock := system.clock + elapsed })
  | .takeJob runId => system.takeJobStep runId
  | .complete runId finalized => system.completeStep runId finalized
  | .cancel => (some .cancelled, { system with cell := .cancelled })
  | .call waiterId timeout => system.callStep waiterId timeout
  | .look waiterId | .wake waiterId _ | .measure waiterId | .enterSink waiterId
  | .poll waiterId _ => system.waiterStepAt waiterId action

end TaskSystem
end Engine
end ReproItSdk
