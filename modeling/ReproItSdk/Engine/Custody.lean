import ReproItSdk.Engine.Burden

/-! # One place for every operation

The calls that are in progress, the queue and the worker share the tasks.  No run gives an operation
two places, and no step of the system changes the burden of a handle that was allocated.

Main results:

- Theorem {lit}`EngineSystem.callStep_effect`: what a call does.
- Theorem {lit}`EngineSystem.settles_after`: every run keeps the system orderly and the burdens of
  the handles allocated before it.
-/

namespace ReproItSdk
namespace Engine

variable {Engine Begin Operation Digest Sink : Type}

/-! ## Calls in progress -/

namespace CallPhase

/-- The sink and the task of a call in progress were given out before. -/
def Allocated (handles tasks : Nat) : CallPhase → Prop
  | .sending _ sinkHandle task => sinkHandle < handles ∧ task < tasks
  | .rejecting _ sinkHandle task _ => sinkHandle < handles ∧ task < tasks
  | .rejected _ sinkHandle task _ => sinkHandle < handles ∧ task < tasks
  | .waiting sinkHandle _ => sinkHandle < handles
  | .settled sinkHandle _ _ => sinkHandle < handles
  | .returned => True

/-- A call in progress does not interfere with a sink and its pending task. -/
def Avoids (sinkHandle task : Nat) : CallPhase → Prop
  | .sending _ other otherTask => other ≠ sinkHandle ∧ otherTask ≠ task
  | .rejecting _ other otherTask _ => other ≠ sinkHandle ∧ otherTask ≠ task
  | .rejected _ other otherTask _ => other ≠ sinkHandle ∧ otherTask ≠ task
  | .waiting other otherTask => other = sinkHandle → otherTask = task
  | .settled other _ _ => other ≠ sinkHandle
  | .returned => True

/-- What was given out stays so. -/
theorem Allocated.mono {handles tasks moreHandles moreTasks : Nat} {phase : CallPhase}
    (allocated : phase.Allocated handles tasks) (grows : handles ≤ moreHandles)
    (lengthens : tasks ≤ moreTasks) : phase.Allocated moreHandles moreTasks := by
  cases phase with
  | sending operationHandle sinkHandle task =>
      exact ⟨Nat.lt_of_lt_of_le allocated.1 grows, Nat.lt_of_lt_of_le allocated.2 lengthens⟩
  | rejecting operationHandle sinkHandle task error =>
      exact ⟨Nat.lt_of_lt_of_le allocated.1 grows, Nat.lt_of_lt_of_le allocated.2 lengthens⟩
  | rejected operationHandle sinkHandle task error =>
      exact ⟨Nat.lt_of_lt_of_le allocated.1 grows, Nat.lt_of_lt_of_le allocated.2 lengthens⟩
  | waiting sinkHandle task => exact Nat.lt_of_lt_of_le allocated grows
  | settled sinkHandle task answer => exact Nat.lt_of_lt_of_le allocated grows
  | returned => trivial

/-- A call in progress avoids what is given out after it. -/
theorem Allocated.avoids {sinkHandle task : Nat} {phase : CallPhase}
    (allocated : phase.Allocated sinkHandle task) : phase.Avoids sinkHandle task := by
  cases phase with
  | sending operationHandle other otherTask =>
      exact ⟨Nat.ne_of_lt allocated.1, Nat.ne_of_lt allocated.2⟩
  | rejecting operationHandle other otherTask error =>
      exact ⟨Nat.ne_of_lt allocated.1, Nat.ne_of_lt allocated.2⟩
  | rejected operationHandle other otherTask error =>
      exact ⟨Nat.ne_of_lt allocated.1, Nat.ne_of_lt allocated.2⟩
  | waiting other otherTask => exact fun same => absurd same (Nat.ne_of_lt allocated)
  | settled other otherTask answer => exact Nat.ne_of_lt allocated
  | returned => trivial

end CallPhase

/-! ## Orderly systems -/

namespace EngineSystem

/-- Whether the worker holds the operation that was live under a handle. -/
def underway (system : EngineSystem Engine Operation Digest Sink) (operationHandle : Nat) : Nat :=
  match system.running with
  | some (_, job) => if job.operationHandle = operationHandle then 1 else 0
  | none => 0

/-- How many places an operation is in. -/
def burden (system : EngineSystem Engine Operation Digest Sink) (operationHandle : Nat) : Nat :=
  system.shared.burden operationHandle + system.underway operationHandle

/-- What holds between any two steps of the system. -/
structure Orderly (system : EngineSystem Engine Operation Digest Sink) : Prop where
  sound : system.shared.registry.Sound
  single : ∀ operationHandle, system.burden operationHandle ≤
    if operationHandle < system.shared.registry.nextHandle then 1 else 0
  running : ∀ task job, system.running = some (task, job) → system.shared.TakenAt task
  queue : ∀ task ∈ system.queue, task < system.shared.tasks.length
  calls : ∀ phase ∈ system.calls,
    phase.Allocated system.shared.registry.nextHandle system.shared.tasks.length

/-- How the system changes between orderly states. -/
structure Settled (before after : EngineSystem Engine Operation Digest Sink) : Prop where
  orderly : after.Orderly
  nextHandle : before.shared.registry.nextHandle ≤ after.shared.registry.nextHandle
  old : ∀ operationHandle < before.shared.registry.nextHandle,
    after.burden operationHandle = before.burden operationHandle

/-- An orderly system settles. -/
def Settles (before after : EngineSystem Engine Operation Digest Sink) : Prop :=
  before.Orderly → Settled before after

instance : IsPreorder (EngineSystem Engine Operation Digest Sink) Settles where
  refl system orderly := ⟨orderly, Nat.le_refl _, fun _ _ => rfl⟩
  trans first second third before after orderly := by
    have middle := before orderly
    have last := after middle.orderly
    refine ⟨last.orderly, Nat.le_trans middle.nextHandle last.nextHandle, ?_⟩
    intro operationHandle allocated
    rw [last.old _ (Nat.lt_of_lt_of_le allocated middle.nextHandle), middle.old _ allocated]

/-- A step of a caller, which leaves the worker alone. -/
theorem Orderly.caller {system next : EngineSystem Engine Operation Digest Sink}
    (orderly : system.Orderly) (sound : next.shared.registry.Sound)
    (conserves : Conserves system.shared next.shared)
    (taken : ∀ task, system.shared.TakenAt task → next.shared.TakenAt task)
    (length : system.shared.tasks.length ≤ next.shared.tasks.length)
    (running : next.running = system.running)
    (queue : ∀ task ∈ next.queue, task ∈ system.queue ∨ task < next.shared.tasks.length)
    (calls : ∀ phase ∈ next.calls, phase ∈ system.calls ∨
      phase.Allocated next.shared.registry.nextHandle next.shared.tasks.length) :
    Settled system next := by
  have underway : ∀ handle, next.underway handle = system.underway handle := by
    intro handle
    unfold EngineSystem.underway
    rw [running]
  have old : ∀ handle < system.shared.registry.nextHandle,
      next.burden handle = system.burden handle := by
    intro handle allocated
    rw [burden, burden, conserves.old handle allocated, underway]
  refine ⟨⟨sound, ?_, ?_, ?_, ?_⟩, conserves.nextHandle, old⟩
  · intro handle
    have single := orderly.single handle
    by_cases allocated : handle < system.shared.registry.nextHandle
    · rw [old handle allocated, if_pos (Nat.lt_of_lt_of_le allocated conserves.nextHandle)]
      rwa [if_pos allocated] at single
    · rw [if_neg allocated, burden] at single
      have fresh := conserves.fresh handle (Nat.le_of_not_lt allocated) (by omega)
      rw [burden, underway]
      omega
  · intro task job same
    rw [running] at same
    exact taken task (orderly.running task job same)
  · intro task member
    rcases queue task member with old | new
    · exact Nat.lt_of_lt_of_le (orderly.queue task old) length
    · exact new
  · intro phase member
    rcases calls phase member with old | new
    · exact (orderly.calls phase old).mono conserves.nextHandle length
    · exact new

/-! ## Calls -/

section Calls

variable {port : EnginePort Engine Begin Operation Digest}

/-- What a call does as far as it holds the lock. -/
inductive CallEffect (port : EnginePort Engine Begin Operation Digest)
    (system : EngineSystem Engine Operation Digest Sink) :
    Option CallAnswer → EngineSystem Engine Operation Digest Sink → Prop
  | returned (shared : EngineState Engine Operation Digest Sink)
      (reply : Except Error EngineReply) (steps : EngineSteps port system.shared shared) :
      CallEffect port system (some { callId := system.calls.length, reply := reply })
        (system.begun shared .returned)
  | sending (entry : OperationEntry Operation) (job : ProductionFailureJob Operation)
      (present : system.shared.registry.operations.lookup job.operationHandle = some entry)
      (room : KeyedTable.size system.shared.registry.sinks < maxSinks) :
      CallEffect port system none (system.begun (system.shared.entrust entry job)
        (.sending job.operationHandle system.shared.registry.nextHandle
          system.shared.tasks.length))
  | waiting (sinkHandle : Nat) (entry : SinkEntry)
      (found : system.shared.registry.sinks.lookup sinkHandle = some entry) :
      CallEffect port system none (system.begun system.shared (.waiting sinkHandle entry.task))

/-- A wait finds the task of its sink. -/
theorem sinkTask_ok {state next : EngineState Engine Operation Digest Sink}
    {sinkHandle timeoutMs task : Nat}
    (answered : sinkTask sinkHandle timeoutMs state = (.ok task, next)) :
    next = state ∧ ∃ entry, state.registry.sinks.lookup sinkHandle = some entry ∧
      entry.task = task := by
  by_cases inTime : timeoutMs ≤ maxSinkWaitMs
  · cases found : state.registry.sinks.lookup sinkHandle with
    | none =>
        simp only [sinkTask, bind, Fallible.bind, Fallible.check, inTime, decide_true, if_true,
          Fallible.find, found] at answered
        cases answered
    | some entry =>
        simp only [sinkTask, bind, Fallible.bind, Fallible.check, inTime, decide_true, if_true,
          Fallible.find, found] at answered
        cases answered
        exact ⟨rfl, entry, rfl, rfl⟩
  · simp only [sinkTask, bind, Fallible.bind, Fallible.check, inTime, decide_false,
      Bool.false_eq_true, if_false] at answered
    cases answered

variable (port) in
/-- Every call does one of these. -/
theorem callStep_effect (system : EngineSystem Engine Operation Digest Sink)
    (request : EngineRequest Engine Begin) :
    CallEffect port system (system.callStep port request).1 (system.callStep port request).2 := by
  unfold callStep
  split
  · exact .returned system.shared _ .refl
  · split
    · rename_i failure operationHandle projectToken same
      have effect := registerFailure_effect operationHandle failure projectToken system.shared
      have steps : EngineSteps port system.shared _ := steps_of_tables
        (tables_registerFailure operationHandle failure projectToken) system.shared
      generalize registerFailure operationHandle failure projectToken system.shared = outcome
        at effect steps ⊢
      rcases outcome with ⟨reply, next⟩
      change RegisterEffect operationHandle failure system.shared reply next at effect
      cases effect with
      | unknown absent => exact .returned _ _ steps
      | abandoned error entry present => exact .returned _ _ steps
      | registered entry projectToken present room =>
          exact .sending entry (failureJob operationHandle entry failure projectToken) present room
    · rename_i sinkHandle timeoutMs same
      have steps : EngineSteps port system.shared _ :=
        steps_of_tables (tables_sinkTask sinkHandle timeoutMs) system.shared
      split
      · rename_i error shared made
        rw [made] at steps
        exact .returned shared _ steps
      · rename_i task shared made
        obtain ⟨rfl, entry, found, rfl⟩ := sinkTask_ok made
        exact .waiting sinkHandle entry found
    · exact .returned _ _ (steps_dispatchImmediate request.call system.shared)

/-- A call in progress was begun. -/
theorem mem_begun {system : EngineSystem Engine Operation Digest Sink}
    {shared : EngineState Engine Operation Digest Sink} {phase other : CallPhase}
    (member : other ∈ (system.begun shared phase).calls) :
    other ∈ system.calls ∨ other = phase := by
  rcases List.mem_append.mp member with old | new
  · exact .inl old
  · exact .inr (List.mem_singleton.mp new)

/-- A call that begins leaves the system orderly. -/
theorem settled_begun {system : EngineSystem Engine Operation Digest Sink}
    (orderly : system.Orderly) {shared : EngineState Engine Operation Digest Sink}
    (proceeds : Proceeds system.shared shared) {phase : CallPhase}
    (allocated : phase.Allocated shared.registry.nextHandle shared.tasks.length) :
    Settled system (system.begun shared phase) := by
  obtain ⟨sound, keeps, conserves, -⟩ := proceeds orderly.sound
  refine orderly.caller sound conserves keeps.taken keeps.length rfl (fun _ => .inl) ?_
  intro other member
  rcases mem_begun member with old | rfl
  · exact .inl old
  · exact .inr allocated

/-- Every call leaves the system orderly. -/
theorem settles_callStep (system : EngineSystem Engine Operation Digest Sink)
    (request : EngineRequest Engine Begin) :
    Settles system (system.callStep port request).2 := by
  intro orderly
  have effect := callStep_effect port system request
  generalize system.callStep port request = outcome at effect ⊢
  rcases outcome with ⟨answer, next⟩
  change CallEffect port system answer next at effect
  have proceeds : ∀ shared, EngineSteps port system.shared shared →
      Proceeds system.shared shared := fun shared steps =>
    steps.preserves fun _ _ step sound =>
      ⟨step.advances.sound sound, step.keeps sound, step.conserves, step.advances⟩
  cases effect with
  | returned shared reply steps => exact settled_begun orderly (proceeds shared steps) trivial
  | sending entry job present room =>
      refine settled_begun orderly (proceeds _ (.single (.table _ (.entrusted _ entry job present room)))) ?_
      refine ⟨Nat.lt_succ_self _, ?_⟩
      show system.shared.tasks.length < (system.shared.tasks ++ [_]).length
      simp
  | waiting sinkHandle entry found =>
      refine settled_begun orderly (refl_of Proceeds _) ?_
      have held : system.shared.registry.holds .sinks sinkHandle = true :=
        Option.isSome_iff_exists.mpr ⟨entry, found⟩
      exact orderly.sound.allocated held

end Calls

/-! ## The other steps of the callers -/

/-- A call in progress that moves on. -/
theorem mem_moved {system : EngineSystem Engine Operation Digest Sink}
    {shared : EngineState Engine Operation Digest Sink} {callId : Nat} {phase other : CallPhase}
    (member : other ∈ (system.moved shared callId phase).calls) :
    other ∈ system.calls ∨ other = phase :=
  List.mem_or_eq_of_mem_set member

/-- A call in progress that moves on leaves the system orderly. -/
theorem settled_moved {system : EngineSystem Engine Operation Digest Sink}
    (orderly : system.Orderly) (shared : EngineState Engine Operation Digest Sink)
    (sound : shared.registry.Sound) (conserves : Conserves system.shared shared)
    (taken : ∀ task, system.shared.TakenAt task → shared.TakenAt task)
    (length : system.shared.tasks.length ≤ shared.tasks.length) {callId : Nat} {phase : CallPhase}
    (allocated : phase.Allocated system.shared.registry.nextHandle system.shared.tasks.length) :
    Settled system (system.moved shared callId phase) := by
  refine orderly.caller sound conserves taken length rfl (fun _ => .inl) ?_
  intro other member
  rcases mem_moved member with old | rfl
  · exact .inl old
  · exact .inr (allocated.mono conserves.nextHandle length)

/-- A call in progress that leaves the shared state alone. -/
theorem settled_aside {system : EngineSystem Engine Operation Digest Sink}
    (orderly : system.Orderly) {callId : Nat} {phase : CallPhase}
    (allocated : phase.Allocated system.shared.registry.nextHandle system.shared.tasks.length) :
    Settled system (system.moved system.shared callId phase) :=
  settled_moved orderly system.shared orderly.sound (refl_of Conserves _) (fun _ => id) (Nat.le_refl _) allocated

/-- The call with an identifier was made. -/
theorem Orderly.allocated {system : EngineSystem Engine Operation Digest Sink}
    (orderly : system.Orderly) {callId : Nat} {phase : CallPhase}
    (found : system.calls[callId]? = some phase) :
    phase.Allocated system.shared.registry.nextHandle system.shared.tasks.length :=
  orderly.calls phase (List.mem_of_getElem? found)

/-- Sending a task leaves the system orderly. -/
theorem settles_sendStep (system : EngineSystem Engine Operation Digest Sink) (callId : Nat)
    (connected : Bool) : Settles system (system.sendStep callId connected).2 := by
  intro orderly
  unfold sendStep
  split
  · rename_i operationHandle sinkHandle task found
    have allocated := orderly.allocated found
    split
    · exact settled_aside orderly allocated
    · refine orderly.caller orderly.sound (refl_of Conserves _) (fun _ => id) (Nat.le_refl _) rfl
        ?_ ?_
      · intro other member
        rcases List.mem_append.mp member with old | new
        · exact .inl old
        · rw [List.mem_singleton.mp new]
          exact .inr allocated.2
      · intro other member
        rcases List.mem_or_eq_of_mem_set member with old | rfl
        · exact .inl old
        · exact .inr trivial
  · exact refl_of Settles system orderly

/-- Cancelling a task conserves the burdens. -/
theorem conserves_cancelTask (state : EngineState Engine Operation Digest Sink) (task : Nat) :
    Conserves state (state.cancelTask task) := by
  refine .of_burden (Nat.le_refl _) fun handle => ?_
  have places := places_cancelTask state task handle
  have holds : (state.cancelTask task).registry.holds .operations handle =
      state.registry.holds .operations handle := rfl
  unfold EngineState.burden
  rw [holds]
  omega

/-- Cancelling a task leaves the system orderly. -/
theorem settles_cancelStep (system : EngineSystem Engine Operation Digest Sink) (callId : Nat) :
    Settles system (system.cancelStep callId).2 := by
  intro orderly
  unfold cancelStep
  split
  · rename_i operationHandle sinkHandle task error found
    obtain ⟨-, length, taken, -⟩ := keeps_cancelTasks [task] system.shared
    have allocated : sinkHandle < system.shared.registry.nextHandle ∧
        task < system.shared.tasks.length := orderly.allocated found
    exact settled_moved orderly (system.shared.cancelTask task) orderly.sound
      (conserves_cancelTask system.shared task) taken (Nat.le_of_eq length.symm)
      allocated
  · exact refl_of Settles system orderly

/-- Removing a sink leaves the handles alone. -/
theorem nextHandle_removeSinkIfSame (registry : Registry Engine Operation Digest)
    (sinkHandle task : Nat) :
    (registry.removeSinkIfSame sinkHandle task).nextHandle = registry.nextHandle ∧
      (registry.removeSinkIfSame sinkHandle task).operations = registry.operations := by
  unfold Registry.removeSinkIfSame
  split
  · split <;> exact ⟨rfl, rfl⟩
  · exact ⟨rfl, rfl⟩

/-- Removing a sink leaves the system orderly. -/
theorem settles_unregisterStep (system : EngineSystem Engine Operation Digest Sink)
    (callId : Nat) : Settles system (system.unregisterStep callId).2 := by
  intro orderly
  have removed : ∀ sinkHandle task,
      Settled system (system.moved
        (system.shared.withRegistry (·.removeSinkIfSame sinkHandle task)) callId .returned) := by
    intro sinkHandle task
    obtain ⟨nextHandle, operations⟩ :=
      nextHandle_removeSinkIfSame system.shared.registry sinkHandle task
    refine settled_moved orderly (system.shared.withRegistry (·.removeSinkIfSame sinkHandle task))
      ?_ (.of_burden ?_ fun handle => ?_) (fun _ => id) (Nat.le_refl _) ?_
    · exact (Registry.drops_removeSinkIfSame _ _ _).evolves.sound orderly.sound
    · exact Nat.le_of_eq nextHandle.symm
    · have holds : (system.shared.withRegistry
          (·.removeSinkIfSame sinkHandle task)).registry.holds .operations handle =
          system.shared.registry.holds .operations handle := by
        show Option.isSome (AList.lookup handle
          (system.shared.registry.removeSinkIfSame sinkHandle task).operations) = _
        rw [operations]
        rfl
      unfold EngineState.burden
      rw [holds]
      rfl
    · trivial
  unfold unregisterStep
  split
  · exact removed _ _
  · exact removed _ _
  · exact refl_of Settles system orderly

/-- A look at a task leaves the system orderly. -/
theorem settles_lookStep (system : EngineSystem Engine Operation Digest Sink) (callId : Nat)
    (expired idle : Bool) : Settles system (system.lookStep callId expired idle).2 := by
  intro orderly
  unfold lookStep
  split
  · rename_i sinkHandle task found
    split
    · exact refl_of Settles system orderly
    · exact settled_moved orderly system.shared orderly.sound (refl_of Conserves _) (fun _ => id)
        (Nat.le_refl _) trivial
    · have allocated : sinkHandle < system.shared.registry.nextHandle := orderly.allocated found
      exact settled_moved orderly system.shared orderly.sound (refl_of Conserves _) (fun _ => id)
        (Nat.le_refl _) allocated
  · exact refl_of Settles system orderly

/-! ## The worker -/

/-- The burdens of a system with the same handles. -/
theorem Orderly.worker {system next : EngineSystem Engine Operation Digest Sink}
    (orderly : system.Orderly) (registry : next.shared.registry = system.shared.registry)
    (length : next.shared.tasks.length = system.shared.tasks.length)
    (same : ∀ handle, next.burden handle = system.burden handle)
    (running : ∀ task job, next.running = some (task, job) → next.shared.TakenAt task)
    (queue : ∀ task ∈ next.queue, task ∈ system.queue) (calls : next.calls = system.calls) :
    Settled system next := by
  refine ⟨⟨?_, ?_, running, ?_, ?_⟩, ?_, fun handle _ => same handle⟩
  · rw [registry]
    exact orderly.sound
  · intro handle
    rw [same, registry]
    exact orderly.single handle
  · intro task member
    rw [length]
    exact orderly.queue task (queue task member)
  · intro phase member
    rw [calls] at member
    rw [registry, length]
    exact orderly.calls phase member
  · rw [registry]

/-- A job that the worker takes moves from its task to the worker. -/
theorem settles_receiveStep (system : EngineSystem Engine Operation Digest Sink) :
    Settles system system.receiveStep := by
  intro orderly
  unfold receiveStep
  split
  · rename_i task queue idle waiting
    split
    · refine orderly.worker rfl rfl (fun _ => rfl) (fun _ _ busy => ?_) ?_ rfl
      · exact orderly.running _ _ busy
      · intro other member
        rw [waiting]
        exact List.mem_cons_of_mem _ member
    · rename_i job cell taken
      obtain ⟨pending, found, took⟩ := Option.bind_eq_some_iff.mp taken
      have before : pending = .pending (some job) ∧ cell = .running := by
        cases pending with
        | pending held =>
            cases held with
            | none => cases took
            | some held =>
                cases took
                exact ⟨rfl, rfl⟩
        | cancelled => cases took
        | failed error => cases took
        | ready sink => cases took
        | running => cases took
      obtain ⟨rfl, rfl⟩ := before
      obtain ⟨inside, here⟩ := List.getElem?_eq_some_iff.mp found
      refine orderly.worker rfl List.length_set (fun handle => ?_) ?_ ?_ rfl
      · have counted : (system.shared.tasks.set task .running).countP (·.holdsJob handle) +
            (if job.operationHandle = handle then 1 else 0) =
            system.shared.tasks.countP (·.holdsJob handle) := by
          have held : (FailureTaskState.pending (some job) : FailureTaskState _ Sink).holdsJob
              handle = (job.operationHandle == handle) := rfl
          have left : (FailureTaskState.running :
              FailureTaskState (ProductionFailureJob Operation) Sink).holdsJob handle = false := rfl
          rw [List.countP_set inside, here, held, left]
          by_cases same : job.operationHandle = handle
          · have positive : 0 < system.shared.tasks.countP (·.holdsJob handle) :=
              List.countP_pos_iff.mpr
                ⟨_, List.mem_of_getElem? found, held.trans (beq_iff_eq.mpr same)⟩
            simp only [same, beq_self_eq_true, if_true, Bool.false_eq_true, if_false]
            omega
          · simp [same]
        simp only [burden, underway, idle, EngineState.burden, EngineState.pendingJobs,
          EngineState.endings]
        omega
      · intro other otherJob busy
        cases busy
        exact ⟨.running, List.getElem?_set_self inside, fun _ same => by cases same⟩
      · intro other member
        rw [waiting]
        exact List.mem_cons_of_mem _ member
  · exact refl_of Settles system orderly

/-- Completing a task whose job is gone changes no count. -/
theorem countP_complete {tasks : List (FailureTaskState (ProductionFailureJob Operation) Sink)}
    {task : Nat} (taken : ∃ cell, tasks[task]? = some cell ∧ cell.Taken)
    (result : Except Error Sink) (handle : Nat) :
    (tasks.modify task (·.complete result)).countP (·.holdsJob handle) =
      tasks.countP (·.holdsJob handle) := by
  obtain ⟨cell, found, gone⟩ := taken
  obtain ⟨inside, here⟩ := List.getElem?_eq_some_iff.mp found
  have completed : (cell.complete result).holdsJob handle = false := by
    cases cell <;> cases result <;> rfl
  have set : tasks.modify task (·.complete result) = tasks.set task (cell.complete result) := by
    rw [List.modify_eq_set_getElem?, found]
    rfl
  rw [set, List.countP_set inside, here, gone.holdsJob, completed]
  simp

/-- A finished job ends its operation. -/
theorem settles_finalizeStep (system : EngineSystem Engine Operation Digest Sink)
    (finalized : Option (Except Error Sink)) :
    Settles system (system.finalizeStep finalized) := by
  intro orderly
  unfold finalizeStep
  split
  · exact refl_of Settles system orderly
  · rename_i task job busy
    refine orderly.worker rfl (List.length_modify _ _ _) (fun handle => ?_)
      (fun _ _ idle => by cases idle) (fun _ => id) rfl
    have counted := countP_complete (orderly.running task job busy) (finalResult finalized) handle
    simp only [burden, underway, busy, EngineState.burden, EngineState.pendingJobs,
      EngineState.endings, finished, counted, List.countP_append, List.countP_singleton,
      JournalEntry.ends, beq_iff_eq]
    omega

/-! ## Runs -/

section Runs

variable {port : EnginePort Engine Begin Operation Digest}

variable (port)

/-- Every step leaves the system orderly. -/
theorem settles_step (system : EngineSystem Engine Operation Digest Sink)
    (action : EngineAction Engine Begin Sink) : Settles system (step port system action).2 := by
  cases action with
  | call request => exact settles_callStep system request
  | send callId connected => exact settles_sendStep system callId connected
  | cancel callId => exact settles_cancelStep system callId
  | unregister callId => exact settles_unregisterStep system callId
  | look callId expired idle => exact settles_lookStep system callId expired idle
  | receive => exact settles_receiveStep system
  | finalize finalized => exact settles_finalizeStep system finalized

/-- Every run leaves the system orderly. -/
theorem settles_after (system : EngineSystem Engine Operation Digest Sink)
    (actions : List (EngineAction Engine Begin Sink)) :
    Settles system (system.after port actions) := by
  induction actions generalizing system with
  | nil => exact refl_of Settles system
  | cons action actions ih => exact trans_of Settles (settles_step port system action) (ih _)

/-- A new system is orderly. -/
theorem orderly_new (surroundings : Nat → Surroundings) (hasWorker : Bool) :
    (new surroundings hasWorker : EngineSystem Engine Operation Digest Sink).Orderly where
  sound := sound_new
  single _ := Nat.zero_le _
  running _ _ busy := by cases busy
  queue _ member := by cases member
  calls _ member := by cases member

end Runs
end EngineSystem
end Engine
end ReproItSdk
