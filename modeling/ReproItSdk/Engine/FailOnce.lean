import ReproItSdk.Engine.Custody

/-! # A failed operation is consumed once

A call that fails an operation takes it from the registry.  Until the call returns, the operation is
the job of a pending task whose sink nobody else knows, or it has been abandoned: by the call
itself, or by another call that closed the engine in between.

Main results:

- Theorem {lit}`EngineSystem.entrusted_step`: what the call waits for, step by step.
- Theorem {lit}`EngineSystem.operationFail_consumes_once`: where the operation is when the call
  returns.
-/

namespace ReproItSdk
namespace Engine

variable {Engine Begin Operation Digest Sink : Type}

namespace EngineSystem

/-! ## What a failing call leaves -/

/-- One task holds the operation, under the sink of a handle. -/
structure HeldOnce (system : EngineSystem Engine Operation Digest Sink) (operationHandle : Nat)
    (operation : Operation) (sinkHandle : Nat) : Prop where
  held : ∃ entry job, system.shared.registry.sinks.lookup sinkHandle = some entry ∧
    system.shared.tasks[entry.task]? = some (.pending (some job)) ∧
    job.operationHandle = operationHandle ∧ job.operation = operation
  tasks : system.shared.pendingJobs operationHandle = 1
  worker : system.underway operationHandle = 0
  endings : system.shared.endings operationHandle = 0

/-- The operation was abandoned once, and nobody holds it. -/
structure AbandonedOnce (system : EngineSystem Engine Operation Digest Sink)
    (operationHandle : Nat) : Prop where
  abandoned : .ended operationHandle .abandoned ∈ system.shared.journal
  tasks : system.shared.pendingJobs operationHandle = 0
  worker : system.underway operationHandle = 0
  endings : system.shared.endings operationHandle = 1

/-- An operation in one place that is held is held once. -/
theorem heldOnce_of_burden {system : EngineSystem Engine Operation Digest Sink}
    {sinkHandle : Nat} {entry : SinkEntry} {job : ProductionFailureJob Operation}
    (single : system.burden job.operationHandle = 1)
    (found : system.shared.registry.sinks.lookup sinkHandle = some entry)
    (cell : system.shared.tasks[entry.task]? = some (.pending (some job))) :
    system.HeldOnce job.operationHandle job.operation sinkHandle := by
  have positive : 0 < system.shared.pendingJobs job.operationHandle :=
    List.countP_pos_iff.mpr
      ⟨_, List.mem_of_getElem? cell, by simp [FailureTaskState.holdsJob]⟩
  unfold burden EngineState.burden at single
  exact ⟨⟨entry, job, found, cell, rfl, rfl⟩, by omega, by omega, by omega⟩

/-- An operation in one place that was abandoned was abandoned once. -/
theorem abandonedOnce_of_burden {system : EngineSystem Engine Operation Digest Sink}
    {operationHandle : Nat} (single : system.burden operationHandle = 1)
    (abandoned : .ended operationHandle .abandoned ∈ system.shared.journal) :
    system.AbandonedOnce operationHandle := by
  have positive : 0 < system.shared.endings operationHandle :=
    List.countP_pos_iff.mpr ⟨_, abandoned, by simp [JournalEntry.ends]⟩
  unfold burden EngineState.burden at single
  exact ⟨abandoned, by omega, by omega, by omega⟩

/-! ## While the call is in progress -/

/-- The operation is the job of a pending task, which no other call or worker gets at. -/
structure Pending (callId sinkHandle task engineHandle : Nat)
    (job : ProductionFailureJob Operation)
    (system : EngineSystem Engine Operation Digest Sink) : Prop where
  registered : system.shared.registry.sinks.lookup sinkHandle =
    some { engineHandle := engineHandle, task := task }
  cell : system.shared.tasks[task]? = some (.pending (some job))
  queue : task ∉ system.queue
  running : ∀ other otherJob, system.running = some (other, otherJob) → other ≠ task
  others : ∀ otherId phase, system.calls[otherId]? = some phase → otherId ≠ callId →
    phase.Avoids sinkHandle task

/-- The operation was abandoned. -/
def Abandoned (operationHandle : Nat) (system : EngineSystem Engine Operation Digest Sink) : Prop :=
  .ended operationHandle .abandoned ∈ system.shared.journal

/-- A call that failed an operation is in progress. -/
structure Entrusted (callId sinkHandle task engineHandle : Nat)
    (job : ProductionFailureJob Operation)
    (system : EngineSystem Engine Operation Digest Sink) : Prop where
  owner : ∀ entry, system.shared.registry.sinks.lookup sinkHandle = some entry → entry.task = task
  sinkAllocated : sinkHandle < system.shared.registry.nextHandle
  taskAllocated : task < system.shared.tasks.length
  phase :
    ((system.calls[callId]? = some (.sending job.operationHandle sinkHandle task) ∨
        ∃ error, system.calls[callId]? =
          some (.rejecting job.operationHandle sinkHandle task error)) ∧
      (Pending callId sinkHandle task engineHandle job system ∨
        Abandoned job.operationHandle system)) ∨
    ((∃ error, system.calls[callId]? =
        some (.rejected job.operationHandle sinkHandle task error)) ∧
      Abandoned job.operationHandle system)

/-- What the call answers. -/
inductive Resolved (callId sinkHandle task engineHandle : Nat)
    (job : ProductionFailureJob Operation) :
    CallAnswer → EngineSystem Engine Operation Digest Sink → Prop
  | held (system : EngineSystem Engine Operation Digest Sink)
      (registered : system.shared.registry.sinks.lookup sinkHandle =
        some { engineHandle := engineHandle, task := task })
      (cell : system.shared.tasks[task]? = some (.pending (some job))) :
      Resolved callId sinkHandle task engineHandle job
        { callId := callId, reply := .ok (.sink sinkHandle) } system
  | abandoned (system : EngineSystem Engine Operation Digest Sink)
      (gone : Abandoned job.operationHandle system) :
      Resolved callId sinkHandle task engineHandle job
        { callId := callId, reply := .ok (.sink sinkHandle) } system
  | rejected (system : EngineSystem Engine Operation Digest Sink) (error : Error)
      (gone : Abandoned job.operationHandle system)
      (removed : system.shared.registry.sinks.lookup sinkHandle = none) :
      Resolved callId sinkHandle task engineHandle job
        { callId := callId, reply := .error error } system

section Entrusted

variable {port : EnginePort Engine Begin Operation Digest}
  {callId sinkHandle task engineHandle : Nat} {job : ProductionFailureJob Operation}
  {system : EngineSystem Engine Operation Digest Sink}

/-- What a step makes of a call in progress: it answers the call, or the call goes on. -/
def Continues (callId sinkHandle task engineHandle : Nat) (job : ProductionFailureJob Operation)
    (outcome : Option CallAnswer × EngineSystem Engine Operation Digest Sink) : Prop :=
  ((∀ answer, outcome.1 = some answer → answer.callId ≠ callId) ∧
    Entrusted callId sinkHandle task engineHandle job outcome.2) ∨
  ∃ answer, outcome.1 = some answer ∧ outcome.2.calls[callId]? = some .returned ∧
    Resolved callId sinkHandle task engineHandle job answer outcome.2

/-- The call was made. -/
theorem Entrusted.made (entrusted : Entrusted callId sinkHandle task engineHandle job system) :
    callId < system.calls.length := by
  rcases entrusted.phase with ⟨found | ⟨error, found⟩, -⟩ | ⟨⟨error, found⟩, -⟩ <;>
    exact (List.getElem?_eq_some_iff.mp found).1

/-- A step that keeps the phase of the call, and the pending task or abandons it. -/
theorem Entrusted.keep {next : EngineSystem Engine Operation Digest Sink}
    (entrusted : Entrusted callId sinkHandle task engineHandle job system)
    (owner : ∀ entry, next.shared.registry.sinks.lookup sinkHandle = some entry →
      entry.task = task)
    (grows : system.shared.registry.nextHandle ≤ next.shared.registry.nextHandle)
    (lengthens : system.shared.tasks.length ≤ next.shared.tasks.length)
    (phase : next.calls[callId]? = system.calls[callId]?)
    (pending : Pending callId sinkHandle task engineHandle job system →
      Pending callId sinkHandle task engineHandle job next ∨ Abandoned job.operationHandle next)
    (abandoned : Abandoned job.operationHandle system → Abandoned job.operationHandle next) :
    Entrusted callId sinkHandle task engineHandle job next := by
  refine ⟨owner, Nat.lt_of_lt_of_le entrusted.sinkAllocated grows,
    Nat.lt_of_lt_of_le entrusted.taskAllocated lengthens, ?_⟩
  rw [phase]
  rcases entrusted.phase with ⟨found, held | gone⟩ | ⟨found, gone⟩
  · exact .inl ⟨found, pending held⟩
  · exact .inl ⟨found, .inr (abandoned gone)⟩
  · exact .inr ⟨found, abandoned gone⟩

/-- A call that another caller makes. -/
theorem Entrusted.begun (entrusted : Entrusted callId sinkHandle task engineHandle job system)
    {shared : EngineState Engine Operation Digest Sink} (keeps : Keeps system.shared shared)
    {phase : CallPhase} (avoids : phase.Avoids sinkHandle task) :
    Entrusted callId sinkHandle task engineHandle job (system.begun shared phase) := by
  have same : (system.begun shared phase).calls[callId]? = system.calls[callId]? :=
    List.getElem?_append_left entrusted.made
  refine entrusted.keep ?_ keeps.nextHandle keeps.length same ?_ fun gone =>
    keeps.journal.subset gone
  · intro entry found
    rcases keeps.sinks sinkHandle entry found with old | new
    · exact entrusted.owner entry old
    · exact absurd entrusted.sinkAllocated (Nat.not_lt_of_le new)
  · intro pending
    rcases keeps.pending sinkHandle _ job pending.registered pending.cell with
      ⟨registered, cell⟩ | abandoned
    · refine .inl ⟨registered, cell, pending.queue, pending.running, ?_⟩
      intro otherId other found different
      by_cases old : otherId < system.calls.length
      · exact pending.others otherId other ((List.getElem?_append_left old).symm.trans found)
          different
      · have member : (system.calls ++ [phase])[otherId]? =
            [phase][otherId - system.calls.length]? :=
          List.getElem?_append_right (Nat.le_of_not_lt old)
        have new : [phase][otherId - system.calls.length]? = some other :=
          member.symm.trans found
        rw [List.mem_singleton.mp (List.mem_of_getElem? new)]
        exact avoids
    · exact .inr abandoned

/-- A call of another caller. -/
theorem continues_callStep (orderly : system.Orderly)
    (entrusted : Entrusted callId sinkHandle task engineHandle job system)
    (request : EngineRequest Engine Begin) :
    Continues callId sinkHandle task engineHandle job (system.callStep port request) := by
  have effect := callStep_effect port system request
  generalize system.callStep port request = outcome at effect ⊢
  rcases outcome with ⟨answer, next⟩
  change CallEffect port system answer next at effect
  have keeps : ∀ shared, EngineSteps port system.shared shared → Keeps system.shared shared := by
    intro shared steps
    have proceeds : Proceeds system.shared shared := steps.preserves fun _ _ step sound =>
      ⟨step.advances.sound sound, step.keeps sound, step.conserves, step.advances⟩
    exact (proceeds orderly.sound).2.1
  cases effect with
  | returned shared reply steps =>
      refine .inl ⟨?_, entrusted.begun (keeps shared steps) trivial⟩
      rintro answer ⟨⟩
      exact Nat.ne_of_gt entrusted.made
  | sending entry other present room =>
      refine .inl ⟨(fun _ same => by cases same), entrusted.begun
        (keeps _ (.single (.table _ (.entrusted _ entry other present room)))) ⟨?_, ?_⟩⟩
      · exact Nat.ne_of_gt entrusted.sinkAllocated
      · exact Nat.ne_of_gt entrusted.taskAllocated
  | waiting other entry found =>
      refine .inl ⟨(fun _ same => by cases same), entrusted.begun (refl_of Keeps _) ?_⟩
      rintro rfl
      exact entrusted.owner entry found

/-- Another call that moves on. -/
theorem others_moved {otherId : Nat} {phase : CallPhase} {calls : List CallPhase}
    (others : ∀ id other, calls[id]? = some other → id ≠ callId →
      other.Avoids sinkHandle task)
    (avoids : otherId ≠ callId → phase.Avoids sinkHandle task) :
    ∀ id other, (calls.set otherId phase)[id]? = some other → id ≠ callId →
      other.Avoids sinkHandle task := by
  intro id other found different
  by_cases same : otherId = id
  · subst same
    have inside : otherId < calls.length := by
      have bound := (List.getElem?_eq_some_iff.mp found).1
      rwa [List.length_set] at bound
    rw [List.getElem?_set_self inside] at found
    cases found
    exact avoids different
  · exact others id other ((List.getElem?_set_ne same).symm.trans found) different

/-- Another call moves on and leaves the shared state alone. -/
theorem Entrusted.aside (entrusted : Entrusted callId sinkHandle task engineHandle job system)
    {otherId : Nat} (different : otherId ≠ callId) {queue : List Nat} {phase : CallPhase}
    (avoids : Pending callId sinkHandle task engineHandle job system →
      phase.Avoids sinkHandle task ∧ task ∉ queue) :
    Entrusted callId sinkHandle task engineHandle job
      ({ system with queue := queue }.moved system.shared otherId phase) := by
  refine entrusted.keep entrusted.owner (Nat.le_refl _) (Nat.le_refl _)
    (List.getElem?_set_ne different) ?_ id
  intro pending
  obtain ⟨apart, absent⟩ := avoids pending
  exact .inl ⟨pending.registered, pending.cell, absent, pending.running,
    others_moved pending.others fun _ => apart⟩

/-- The phases of the call that another phase rules out. -/
theorem Entrusted.phase_of (entrusted : Entrusted callId sinkHandle task engineHandle job system)
    {phase : CallPhase} (found : system.calls[callId]? = some phase) :
    ((phase = .sending job.operationHandle sinkHandle task ∨
        ∃ error, phase = .rejecting job.operationHandle sinkHandle task error) ∧
      (Pending callId sinkHandle task engineHandle job system ∨
        Abandoned job.operationHandle system)) ∨
    ((∃ error, phase = .rejected job.operationHandle sinkHandle task error) ∧
      Abandoned job.operationHandle system) := by
  have phases := entrusted.phase
  rw [found] at phases
  simpa only [Option.some.injEq] using phases

/-- A call that has not been taken up goes on. -/
theorem continues_idle (entrusted : Entrusted callId sinkHandle task engineHandle job system) :
    Continues callId sinkHandle task engineHandle job (none, system) :=
  .inl ⟨(fun _ same => by cases same), entrusted⟩

/-- The call sends its task, or another call does. -/
theorem continues_sendStep
    (entrusted : Entrusted callId sinkHandle task engineHandle job system) (otherId : Nat)
    (connected : Bool) :
    Continues callId sinkHandle task engineHandle job (system.sendStep otherId connected) := by
  unfold sendStep
  split
  · rename_i operationHandle other otherTask found
    by_cases same : otherId = callId
    · subst same
      rcases entrusted.phase_of found with ⟨sending | ⟨error, other⟩, state⟩ | ⟨⟨error, other⟩, -⟩
      · cases sending
        split
        · rename_i error refused
          have moved : (system.moved system.shared otherId
              (.rejecting job.operationHandle sinkHandle task error)).calls[otherId]? =
              some (.rejecting job.operationHandle sinkHandle task error) :=
            List.getElem?_set_self entrusted.made
          refine .inl ⟨(fun _ same => by cases same), entrusted.owner, entrusted.sinkAllocated,
            entrusted.taskAllocated, .inl ⟨.inr ⟨error, moved⟩, ?_⟩⟩
          rcases state with pending | gone
          · exact .inl ⟨pending.registered, pending.cell, pending.queue, pending.running,
              others_moved pending.others fun different => absurd rfl different⟩
          · exact .inr gone
        · refine .inr ⟨_, rfl, List.getElem?_set_self entrusted.made, ?_⟩
          rcases state with pending | gone
          · exact .held _ pending.registered pending.cell
          · exact .abandoned _ gone
      · cases other
      · cases other
    · split
      · refine .inl ⟨(fun _ same => by cases same), ?_⟩
        refine entrusted.aside same fun pending => ⟨?_, pending.queue⟩
        have apart : CallPhase.Avoids sinkHandle task
            (.sending operationHandle other otherTask) := pending.others otherId _ found same
        exact apart
      · refine .inl ⟨?_, ?_⟩
        · rintro answer ⟨⟩
          exact same
        · refine entrusted.aside same fun pending => ⟨trivial, ?_⟩
          intro member
          rcases List.mem_append.mp member with old | new
          · exact pending.queue old
          · have apart : CallPhase.Avoids sinkHandle task
              (.sending operationHandle other otherTask) := pending.others otherId _ found same
            exact apart.2 (List.mem_singleton.mp new).symm
  · exact continues_idle entrusted

/-- The call cancels its task, or another call does. -/
theorem continues_cancelStep
    (entrusted : Entrusted callId sinkHandle task engineHandle job system) (otherId : Nat) :
    Continues callId sinkHandle task engineHandle job (system.cancelStep otherId) := by
  unfold cancelStep
  split
  · rename_i operationHandle other otherTask error found
    have length : (system.shared.cancelTask otherTask).tasks.length =
        system.shared.tasks.length := List.length_set
    have kept : Abandoned job.operationHandle system →
        Abandoned job.operationHandle (system.moved (system.shared.cancelTask otherTask) otherId
          (.rejected operationHandle other otherTask error)) :=
      fun gone => List.mem_append_left _ gone
    refine .inl ⟨(fun _ same => by cases same), ?_⟩
    by_cases same : otherId = callId
    · subst same
      rcases entrusted.phase_of found with ⟨sending | ⟨error, rejecting⟩, state⟩ |
        ⟨⟨error, wrong⟩, -⟩
      · cases sending
      · cases rejecting
        have moved : (system.moved (system.shared.cancelTask task) otherId
            (.rejected job.operationHandle sinkHandle task error)).calls[otherId]? =
            some (.rejected job.operationHandle sinkHandle task error) :=
          List.getElem?_set_self entrusted.made
        refine ⟨entrusted.owner, entrusted.sinkAllocated, ?_, .inr ⟨⟨error, moved⟩, ?_⟩⟩
        · show task < (system.shared.cancelTask task).tasks.length
          rw [length]
          exact entrusted.taskAllocated
        · rcases state with pending | gone
          · refine List.mem_append_right _ ?_
            rw [pending.cell]
            exact List.mem_singleton_self _
          · exact kept gone
      · cases wrong
    · refine entrusted.keep entrusted.owner (Nat.le_refl _) (Nat.le_of_eq length.symm)
        (List.getElem?_set_ne same) ?_ kept
      intro pending
      have apart : CallPhase.Avoids sinkHandle task
        (.rejecting operationHandle other otherTask error) := pending.others otherId _ found same
      refine .inl ⟨pending.registered, ?_, pending.queue, pending.running,
        others_moved pending.others fun _ => apart⟩
      exact (List.getElem?_set_ne apart.2).trans pending.cell
  · exact continues_idle entrusted

/-- What is left of a sink after another or the same was removed. -/
theorem lookup_removeSinkIfSame (registry : Registry Engine Operation Digest)
    (other otherTask handle : Nat) :
    (registry.removeSinkIfSame other otherTask).sinks.lookup handle =
      if other = handle ∧ (registry.sinks.lookup handle).any (·.task = otherTask) then none
      else registry.sinks.lookup handle := by
  unfold Registry.removeSinkIfSame
  by_cases same : other = handle
  · subst same
    cases found : registry.sinks.lookup other with
    | none => simp [found]
    | some entry =>
        by_cases matches' : entry.task = otherTask
        · simp [matches']
        · simp [matches', found]
  · have apart : ¬ (other = handle ∧ (registry.sinks.lookup handle).any (·.task = otherTask)) :=
      fun both => same both.1
    rw [if_neg apart]
    split
    · split
      · exact AList.lookup_erase_ne (Ne.symm same)
      · rfl
    · rfl

/-- Another call that removes a sink removes another sink. -/
theorem Entrusted.unregister
    (entrusted : Entrusted callId sinkHandle task engineHandle job system)
    {otherId other otherTask : Nat} (different : otherId ≠ callId)
    (apart : Pending callId sinkHandle task engineHandle job system → other ≠ sinkHandle) :
    Entrusted callId sinkHandle task engineHandle job
      (system.moved (system.shared.withRegistry (·.removeSinkIfSame other otherTask)) otherId
        .returned) := by
  have left := lookup_removeSinkIfSame system.shared.registry other otherTask sinkHandle
  refine entrusted.keep ?_ (Nat.le_of_eq (nextHandle_removeSinkIfSame _ _ _).1.symm)
    (Nat.le_refl _) (List.getElem?_set_ne different) ?_ id
  · intro entry found
    have found' := left.symm.trans found
    split at found'
    · cases found'
    · exact entrusted.owner entry found'
  · intro pending
    refine .inl ⟨?_, pending.cell, pending.queue, pending.running,
      others_moved pending.others fun _ => trivial⟩
    exact (left.trans (if_neg fun both => apart pending both.1)).trans pending.registered

/-- The call removes its sink and returns, or another call does. -/
theorem continues_unregisterStep
    (entrusted : Entrusted callId sinkHandle task engineHandle job system) (otherId : Nat) :
    Continues callId sinkHandle task engineHandle job (system.unregisterStep otherId) := by
  unfold unregisterStep
  split
  · rename_i operationHandle other otherTask error found
    by_cases same : otherId = callId
    · subst same
      rcases entrusted.phase_of found with ⟨sending | ⟨error, wrong⟩, -⟩ | ⟨⟨error, rejected⟩, gone⟩
      · cases sending
      · cases wrong
      · cases rejected
        refine .inr ⟨_, rfl, List.getElem?_set_self entrusted.made, .rejected _ error gone ?_⟩
        refine (lookup_removeSinkIfSame system.shared.registry sinkHandle task sinkHandle).trans ?_
        split
        · rfl
        · rename_i kept
          cases present : system.shared.registry.sinks.lookup sinkHandle with
          | none => rfl
          | some entry =>
              refine absurd ⟨rfl, ?_⟩ kept
              rw [present]
              simpa using entrusted.owner entry present
    · refine .inl ⟨?_, entrusted.unregister same fun pending => ?_⟩
      · rintro answer ⟨⟩
        exact same
      · have apart : CallPhase.Avoids sinkHandle task
          (.rejected operationHandle other otherTask error) := pending.others otherId _ found same
        exact apart.1
  · rename_i other otherTask answer found
    by_cases same : otherId = callId
    · subst same
      rcases entrusted.phase_of found with ⟨wrong | ⟨error, wrong⟩, -⟩ | ⟨⟨error, wrong⟩, -⟩ <;>
        cases wrong
    · refine .inl ⟨?_, entrusted.unregister same fun pending => ?_⟩
      · rintro answer ⟨⟩
        exact same
      · have apart : CallPhase.Avoids sinkHandle task (.settled other otherTask answer) :=
          pending.others otherId _ found same
        exact apart
  · exact continues_idle entrusted

/-- A look at a pending task finds at most that time is over. -/
theorem waitAnswer_pending {job : ProductionFailureJob Operation} {expired idle : Bool}
    {answer : Except Error Bool}
    (answered : waitAnswer (.pending (some job) : FailureTaskState _ Sink) expired idle =
      some answer) : answer = .ok false := by
  simp only [waitAnswer] at answered
  split at answered
  · cases answered
    rfl
  · cases answered

/-- A wait of another call looks at its task. -/
theorem continues_lookStep
    (entrusted : Entrusted callId sinkHandle task engineHandle job system) (otherId : Nat)
    (expired idle : Bool) :
    Continues callId sinkHandle task engineHandle job
      (system.lookStep otherId expired idle) := by
  unfold lookStep
  split
  · rename_i other otherTask found
    by_cases same : otherId = callId
    · subst same
      rcases entrusted.phase_of found with ⟨wrong | ⟨error, wrong⟩, -⟩ | ⟨⟨error, wrong⟩, -⟩ <;>
        cases wrong
    · split
      · exact continues_idle entrusted
      · refine .inl ⟨?_, entrusted.aside same fun pending => ⟨trivial, pending.queue⟩⟩
        rintro answer ⟨⟩
        exact same
      · rename_i answer busy looked
        refine .inl ⟨(fun _ same => by cases same), entrusted.aside same fun pending =>
          ⟨?_, pending.queue⟩⟩
        have waits : CallPhase.Avoids sinkHandle task (.waiting other otherTask) :=
          pending.others otherId _ found same
        rintro rfl
        rw [waits rfl, pending.cell] at looked
        have answered : waitAnswer (.pending (some job) : FailureTaskState _ Sink) expired idle =
            some answer := looked
        exact busy (waitAnswer_pending answered)
  · exact continues_idle entrusted

/-- The worker takes another task. -/
theorem continues_receiveStep
    (entrusted : Entrusted callId sinkHandle task engineHandle job system) :
    Continues callId sinkHandle task engineHandle job (none, system.receiveStep) := by
  refine .inl ⟨(fun _ same => by cases same), ?_⟩
  unfold receiveStep
  split
  · rename_i other queue idle waiting
    have apart : Pending callId sinkHandle task engineHandle job system →
        other ≠ task ∧ task ∉ queue := by
      intro pending
      have absent := pending.queue
      rw [waiting, List.mem_cons, not_or] at absent
      exact ⟨Ne.symm absent.1, absent.2⟩
    split
    · refine entrusted.keep entrusted.owner (Nat.le_refl _) (Nat.le_refl _) rfl ?_ id
      intro pending
      exact .inl ⟨pending.registered, pending.cell, (apart pending).2, pending.running,
        pending.others⟩
    · refine entrusted.keep entrusted.owner (Nat.le_refl _) (Nat.le_of_eq List.length_set.symm)
        rfl ?_ id
      intro pending
      refine .inl ⟨pending.registered, ?_, (apart pending).2, ?_, pending.others⟩
      · exact (List.getElem?_set_ne (apart pending).1).trans pending.cell
      · rintro busy otherJob ⟨⟩
        exact (apart pending).1
  · exact entrusted

/-- The worker finishes another task. -/
theorem continues_finalizeStep
    (entrusted : Entrusted callId sinkHandle task engineHandle job system)
    (finalized : Option (Except Error Sink)) :
    Continues callId sinkHandle task engineHandle job (none, system.finalizeStep finalized) := by
  refine .inl ⟨(fun _ same => by cases same), ?_⟩
  unfold finalizeStep
  split
  · exact entrusted
  · rename_i other otherJob busy
    refine entrusted.keep entrusted.owner (Nat.le_refl _)
      (Nat.le_of_eq (List.length_modify _ _ _).symm) rfl ?_ fun gone => List.mem_append_left _ gone
    intro pending
    refine .inl ⟨pending.registered, ?_, pending.queue, (fun _ _ idle => by cases idle),
      pending.others⟩
    have apart := pending.running other otherJob busy
    show (system.shared.tasks.modify other _)[task]? = _
    rw [List.getElem?_modify, pending.cell]
    simp [apart]

/-- Every step answers the call or lets it go on. -/
theorem entrusted_step (orderly : system.Orderly)
    (entrusted : Entrusted callId sinkHandle task engineHandle job system)
    (action : EngineAction Engine Begin Sink) :
    Continues callId sinkHandle task engineHandle job (step port system action) := by
  cases action with
  | call request => exact continues_callStep orderly entrusted request
  | send otherId connected => exact continues_sendStep entrusted otherId connected
  | cancel otherId => exact continues_cancelStep entrusted otherId
  | unregister otherId => exact continues_unregisterStep entrusted otherId
  | look otherId expired idle => exact continues_lookStep entrusted otherId expired idle
  | receive => exact continues_receiveStep entrusted
  | finalize finalized => exact continues_finalizeStep entrusted finalized

end Entrusted

/-! ## Until the call returns -/

section Runs

variable {port : EnginePort Engine Begin Operation Digest}

/-- The last of some steps answers a call. -/
def Answers (port : EnginePort Engine Begin Operation Digest)
    (system : EngineSystem Engine Operation Digest Sink)
    (actions : List (EngineAction Engine Begin Sink)) (callId : Nat)
    (reply : Except Error EngineReply) : Prop :=
  ∃ before last, actions = before ++ [last] ∧
    (step port (system.after port before) last).1 = some { callId := callId, reply := reply }

/-- A call that returned does not answer again. -/
theorem returned_step {callId : Nat} {system : EngineSystem Engine Operation Digest Sink}
    (returned : system.calls[callId]? = some .returned) (action : EngineAction Engine Begin Sink) :
    (∀ answer, (step port system action).1 = some answer → answer.callId ≠ callId) ∧
      (step port system action).2.calls[callId]? = some .returned := by
  have made : callId < system.calls.length := (List.getElem?_eq_some_iff.mp returned).1
  have begun : ∀ shared phase, (system.begun shared phase).calls[callId]? = some .returned :=
    fun _ _ => (List.getElem?_append_left made).trans returned
  have moved : ∀ (otherId : Nat) (phase : CallPhase), otherId ≠ callId →
      (system.calls.set otherId phase)[callId]? = some .returned :=
    fun _ _ different => (List.getElem?_set_ne different).trans returned
  have apart : ∀ (otherId : Nat) (phase : CallPhase), system.calls[otherId]? = some phase →
      phase ≠ .returned → otherId ≠ callId := by
    rintro otherId phase found different rfl
    rw [returned] at found
    cases found
    exact different rfl
  have silent : ∀ answer : CallAnswer, none = some answer → answer.callId ≠ callId :=
    fun _ same => by cases same
  cases action with
  | call request =>
      have effect := callStep_effect port system request
      show (∀ answer, (system.callStep port request).1 = some answer → _) ∧
        (system.callStep port request).2.calls[callId]? = _
      generalize system.callStep port request = outcome at effect ⊢
      rcases outcome with ⟨answer, next⟩
      change CallEffect port system answer next at effect
      cases effect with
      | returned shared reply steps =>
          refine ⟨?_, begun _ _⟩
          rintro answer ⟨⟩
          exact Nat.ne_of_gt made
      | sending entry other present room => exact ⟨silent, begun _ _⟩
      | waiting other entry found => exact ⟨silent, begun _ _⟩
  | send otherId connected =>
      simp only [step, sendStep]
      split
      · rename_i found
        have different := apart otherId _ found (by intro same; cases same)
        split
        · exact ⟨silent, moved otherId _ different⟩
        · refine ⟨?_, moved otherId _ different⟩
          rintro answer ⟨⟩
          exact different
      · exact ⟨silent, returned⟩
  | cancel otherId =>
      simp only [step, cancelStep]
      split
      · rename_i found
        exact ⟨silent, moved otherId _ (apart otherId _ found (by intro same; cases same))⟩
      · exact ⟨silent, returned⟩
  | unregister otherId =>
      simp only [step, unregisterStep]
      split
      · rename_i found
        have different := apart otherId _ found (by intro same; cases same)
        refine ⟨?_, moved otherId _ different⟩
        rintro answer ⟨⟩
        exact different
      · rename_i found
        have different := apart otherId _ found (by intro same; cases same)
        refine ⟨?_, moved otherId _ different⟩
        rintro answer ⟨⟩
        exact different
      · exact ⟨silent, returned⟩
  | look otherId expired idle =>
      simp only [step, lookStep]
      split
      · rename_i found
        have different := apart otherId _ found (by intro same; cases same)
        split
        · exact ⟨silent, returned⟩
        · refine ⟨?_, moved otherId _ different⟩
          rintro answer ⟨⟩
          exact different
        · exact ⟨silent, moved otherId _ different⟩
      · exact ⟨silent, returned⟩
  | receive =>
      refine ⟨silent, ?_⟩
      show system.receiveStep.calls[callId]? = _
      unfold receiveStep
      split
      · split <;> exact returned
      · exact returned
  | finalize finalized =>
      refine ⟨silent, ?_⟩
      show (system.finalizeStep finalized).calls[callId]? = _
      unfold finalizeStep
      split <;> exact returned

/-- A call that returned stays so. -/
theorem returned_after {callId : Nat} (actions : List (EngineAction Engine Begin Sink))
    {system : EngineSystem Engine Operation Digest Sink}
    (returned : system.calls[callId]? = some .returned) :
    (system.after port actions).calls[callId]? = some .returned := by
  induction actions generalizing system with
  | nil => exact returned
  | cons action actions ih => exact ih (returned_step returned action).2

variable (port) in
/-- A call in progress stays so, or it has returned. -/
theorem entrusted_after {callId sinkHandle task engineHandle : Nat}
    {job : ProductionFailureJob Operation} (actions : List (EngineAction Engine Begin Sink))
    {system : EngineSystem Engine Operation Digest Sink} (orderly : system.Orderly)
    (state : Entrusted callId sinkHandle task engineHandle job system ∨
      system.calls[callId]? = some .returned) :
    Entrusted callId sinkHandle task engineHandle job (system.after port actions) ∨
      (system.after port actions).calls[callId]? = some .returned := by
  induction actions generalizing system with
  | nil => exact state
  | cons action actions ih =>
      refine ih (settles_step port system action orderly).orderly ?_
      rcases state with entrusted | returned
      · rcases entrusted_step orderly entrusted action with
          ⟨-, goes⟩ | ⟨answer, -, returned, -⟩
        · exact .inl goes
        · exact .inr returned
      · exact .inr (returned_step returned action).2

/-- What a call that fails an operation leaves after it registered the failure. -/
def failing (system : EngineSystem Engine Operation Digest Sink)
    (operationHandle : Nat) (next : EngineState Engine Operation Digest Sink) :
    Except Error (Nat × Nat) → Option CallAnswer × EngineSystem Engine Operation Digest Sink
  | .error error => system.answered next (.error error)
  | .ok made => (none, system.begun next (.sending operationHandle made.1 made.2))

variable (port) in
/-- A call that fails an operation begins in one of three ways. -/
theorem failStep_effect (system : EngineSystem Engine Operation Digest Sink)
    (failure : FailureIdentity) (operationHandle : Nat) (projectToken : String) :
    ∃ reply next, RegisterEffect operationHandle failure system.shared reply next ∧
      system.callStep port
        { format := callFormat, call := .operationFail failure operationHandle projectToken } =
        failing system operationHandle next reply := by
  refine ⟨_, _, registerFailure_effect operationHandle failure projectToken system.shared, ?_⟩
  rw [EngineSystem.callStep, if_neg fun different => different rfl]
  rcases registered : registerFailure operationHandle failure projectToken system.shared with
    ⟨error | made, shared⟩ <;> simp only [registered] <;> rfl

/-- Nothing of an operation that has left its table comes back. -/
theorem operation_gone {system next : EngineSystem Engine Operation Digest Sink}
    (sound : next.shared.registry.Sound) (advances : Advances system.shared next.shared)
    {operationHandle : Nat} (allocated : operationHandle < system.shared.registry.nextHandle)
    (released : ¬ system.shared.registry.Live operationHandle) :
    next.shared.registry.operations.lookup operationHandle = none ∧
      KeyedTable.All (fun _ entry => entry.operationHandle ≠ operationHandle)
        next.shared.registry.observations := by
  have gone : next.shared.registry.holds .operations operationHandle = false := by
    rw [Bool.eq_false_iff]
    exact fun held => advances.not_live allocated released ⟨.operations, held⟩
  refine ⟨Option.isNone_iff_eq_none.mp (by simpa [Registry.holds] using gone), ?_⟩
  rintro handle entry found rfl
  have held : next.shared.registry.holds .operations entry.operationHandle = true :=
    sound.owned.observations handle entry found
  rw [gone] at held
  cases held

/-- A run that ends with the first step of a call ends there; a longer one goes on from it. -/
theorem Answers.cases {system : EngineSystem Engine Operation Digest Sink}
    {first : EngineAction Engine Begin Sink} {between : List (EngineAction Engine Begin Sink)}
    {callId : Nat} {reply : Except Error EngineReply}
    (answers : Answers port system (first :: between) callId reply) :
    (between = [] ∧ (step port system first).1 = some { callId := callId, reply := reply }) ∨
      Answers port (step port system first).2 between callId reply := by
  obtain ⟨before, last, split, answered⟩ := answers
  cases before with
  | nil =>
      cases split
      exact .inl ⟨rfl, answered⟩
  | cons other before =>
      cases split
      exact .inr ⟨before, last, rfl, answered⟩

/-- A call in progress that returns is resolved. -/
theorem resolved_of_answers {callId sinkHandle task engineHandle : Nat}
    {job : ProductionFailureJob Operation} {actions : List (EngineAction Engine Begin Sink)}
    {system : EngineSystem Engine Operation Digest Sink} {reply : Except Error EngineReply}
    (orderly : system.Orderly)
    (entrusted : Entrusted callId sinkHandle task engineHandle job system)
    (answers : Answers port system actions callId reply) :
    Resolved callId sinkHandle task engineHandle job { callId := callId, reply := reply }
      (system.after port actions) := by
  obtain ⟨before, last, rfl, answered⟩ := answers
  rw [after_append_singleton]
  have settled := settles_after port system before orderly
  rcases entrusted_after port before orderly (.inl entrusted) with going | returned
  · rcases entrusted_step settled.orderly going last with ⟨apart, -⟩ | ⟨answer, same, -, resolved⟩
    · exact absurd rfl (apart _ answered)
    · rw [answered] at same
      cases same
      exact resolved
  · exact absurd rfl ((returned_step returned last).1 _ answered)

/-- A call that returned at once answers at once. -/
theorem Answers.at_once {system : EngineSystem Engine Operation Digest Sink}
    {first : EngineAction Engine Begin Sink} {between : List (EngineAction Engine Begin Sink)}
    {callId : Nat} {reply : Except Error EngineReply}
    (answers : Answers port system (first :: between) callId reply)
    (returned : (step port system first).2.calls[callId]? = some .returned) :
    between = [] ∧ (step port system first).1 = some { callId := callId, reply := reply } := by
  rcases answers.cases with here | ⟨before, last, -, answered⟩
  · exact here
  · exact absurd rfl ((returned_step (returned_after before returned) last).1 _ answered)

/-- A call that becomes a job in the queue begins in progress. -/
theorem entrusted_begun {system : EngineSystem Engine Operation Digest Sink}
    (orderly : system.Orderly) (entry : OperationEntry Operation)
    (job : ProductionFailureJob Operation) :
    Entrusted system.calls.length system.shared.registry.nextHandle system.shared.tasks.length
      entry.engineHandle job
      (system.begun (system.shared.entrust entry job)
        (.sending job.operationHandle system.shared.registry.nextHandle
          system.shared.tasks.length)) := by
  have registered : (system.shared.entrust entry job).registry.sinks.lookup
      system.shared.registry.nextHandle =
      some { engineHandle := entry.engineHandle, task := system.shared.tasks.length } :=
    AList.lookup_insert _
  have cell : (system.shared.entrust entry job).tasks[system.shared.tasks.length]? =
      some (.pending (some job)) := List.getElem?_concat_length
  refine ⟨?_, Nat.lt_succ_self _, ?_, .inl ⟨.inl List.getElem?_concat_length, .inl
    ⟨registered, cell, ?_, ?_, ?_⟩⟩⟩
  · intro other found
    have same := found.symm.trans registered
    cases same
    rfl
  · show system.shared.tasks.length < (system.shared.tasks ++ [_]).length
    simp
  · exact fun member => absurd (orderly.queue _ member) (Nat.lt_irrefl _)
  · intro other otherJob busy
    obtain ⟨held, found, -⟩ := orderly.running other otherJob busy
    exact Nat.ne_of_lt (List.getElem?_eq_some_iff.mp found).1
  · intro otherId phase found different
    have old : otherId < system.calls.length := by
      have bound := (List.getElem?_eq_some_iff.mp found).1
      have length : (system.calls ++ [CallPhase.sending job.operationHandle
        system.shared.registry.nextHandle system.shared.tasks.length]).length =
          system.calls.length + 1 := by simp
      have inside : otherId < system.calls.length + 1 := by rwa [← length]
      omega
    exact (orderly.allocated ((List.getElem?_append_left old).symm.trans found)).avoids

end Runs
end EngineSystem
end Engine
end ReproItSdk
