import ReproItSdk.Engine.Integrity

/-! # Where an operation is

An operation is live in the registry, held by a failure task that nobody took, held by the worker,
or has ended.  The burden of a handle counts the places where its operation is.  No step of a call
changes the burden of a handle that was allocated, and a new handle gets a burden of one at most.

Main results:

- Theorem {lit}`EngineStep.conserves`: a step of a call under the lock keeps the burden.
- Theorem {lit}`EngineStep.keeps`: a task that is pending keeps its job and its sink, or its
  operation is abandoned.
-/

namespace ReproItSdk
namespace Engine

variable {Engine Begin Operation Digest Sink : Type}

/-! ## Places -/

namespace FailureTaskState

/-- Whether a cell holds the operation that was live under a handle. -/
def holdsJob (operationHandle : Nat) : FailureTaskState (ProductionFailureJob Operation) Sink → Bool
  | .pending (some job) => job.operationHandle == operationHandle
  | _ => false

/-- Whether the job of a cell is gone for good. -/
def Taken {Job : Type} (cell : FailureTaskState Job Sink) : Prop :=
  ∀ job, cell ≠ .pending job

/-- A cell whose job is gone holds no operation. -/
theorem Taken.holdsJob {cell : FailureTaskState (ProductionFailureJob Operation) Sink}
    (taken : cell.Taken) (operationHandle : Nat) : cell.holdsJob operationHandle = false := by
  cases cell with
  | pending job => exact absurd rfl (taken job)
  | cancelled => rfl
  | failed error => rfl
  | ready sink => rfl
  | running => rfl

end FailureTaskState

/-- Whether an entry of the journal says that an operation ended. -/
def JournalEntry.ends (operationHandle : Nat) : JournalEntry Digest → Bool
  | .ended handle _ => handle == operationHandle
  | .committed .. => false

namespace EngineState

/-- How many tasks hold the operation that was live under a handle. -/
def pendingJobs (state : EngineState Engine Operation Digest Sink) (operationHandle : Nat) : Nat :=
  state.tasks.countP (·.holdsJob operationHandle)

/-- How often an operation ended. -/
def endings (state : EngineState Engine Operation Digest Sink) (operationHandle : Nat) : Nat :=
  state.journal.countP (·.ends operationHandle)

/-- How many places an operation is in, apart from the worker. -/
def burden (state : EngineState Engine Operation Digest Sink) (operationHandle : Nat) : Nat :=
  (state.registry.holds .operations operationHandle).toNat + state.pendingJobs operationHandle +
    state.endings operationHandle

end EngineState

/-! ## Cancelling tasks -/

/-- What a cancelled task drops is what it held. -/
theorem ends_droppedOperations (cell : FailureTaskState (ProductionFailureJob Operation) Sink)
    (operationHandle : Nat) :
    (droppedOperations (some cell) : List (JournalEntry Digest)).countP (·.ends operationHandle) =
      if cell.holdsJob operationHandle then 1 else 0 := by
  cases cell with
  | pending job =>
      cases job with
      | none => rfl
      | some job => simp [droppedOperations, JournalEntry.ends, FailureTaskState.holdsJob]
  | cancelled => rfl
  | failed error => rfl
  | ready sink => rfl
  | running => rfl

/-- A cancelled task ends the operation it held. -/
theorem places_cancelTask (state : EngineState Engine Operation Digest Sink)
    (task operationHandle : Nat) :
    (state.cancelTask task).pendingJobs operationHandle +
        (state.cancelTask task).endings operationHandle =
      state.pendingJobs operationHandle + state.endings operationHandle := by
  simp only [EngineState.pendingJobs, EngineState.endings, EngineState.cancelTask,
    List.countP_append]
  cases found : state.tasks[task]? with
  | none =>
      rw [List.set_eq_of_length_le (List.getElem?_eq_none_iff.mp found)]
      rfl
  | some cell =>
      obtain ⟨inside, here⟩ := List.getElem?_eq_some_iff.mp found
      have cancelled : (FailureTaskState.cancelled :
          FailureTaskState (ProductionFailureJob Operation) Sink).holdsJob operationHandle =
          false := rfl
      have counted : cell.holdsJob operationHandle = true →
          0 < state.tasks.countP (·.holdsJob operationHandle) :=
        fun holds => List.countP_pos_iff.mpr ⟨cell, List.mem_of_getElem? found, holds⟩
      rw [List.countP_set inside, here, ends_droppedOperations, cancelled]
      by_cases holds : cell.holdsJob operationHandle = true
      · have positive := counted holds
        simp only [holds, if_true, Bool.false_eq_true, if_false]
        omega
      · simp only [holds, Bool.false_eq_true, if_false]
        omega

/-- Cancelled tasks end the operations they held. -/
theorem places_cancelTasks (tasks : List Nat) (state : EngineState Engine Operation Digest Sink)
    (operationHandle : Nat) :
    (state.cancelTasks tasks).pendingJobs operationHandle +
        (state.cancelTasks tasks).endings operationHandle =
      state.pendingJobs operationHandle + state.endings operationHandle := by
  induction tasks generalizing state with
  | nil => rfl
  | cons task tasks ih => exact (ih (state.cancelTask task)).trans (places_cancelTask state _ _)

/-! ## Steps keep the burden -/

/-- The burdens of allocated handles stay, and new handles get one at most. -/
structure Conserves (before after : EngineState Engine Operation Digest Sink) : Prop where
  nextHandle : before.registry.nextHandle ≤ after.registry.nextHandle
  old : ∀ operationHandle < before.registry.nextHandle,
    after.burden operationHandle = before.burden operationHandle
  fresh : ∀ operationHandle, before.registry.nextHandle ≤ operationHandle →
    before.burden operationHandle = 0 →
    after.burden operationHandle ≤
      if operationHandle < after.registry.nextHandle then 1 else 0

/-- Nothing changes a burden. -/
theorem Conserves.of_burden {before after : EngineState Engine Operation Digest Sink}
    (nextHandle : before.registry.nextHandle ≤ after.registry.nextHandle)
    (same : ∀ operationHandle, after.burden operationHandle = before.burden operationHandle) :
    Conserves before after where
  nextHandle := nextHandle
  old operationHandle _ := same operationHandle
  fresh operationHandle _ unused := by
    rw [same, unused]
    exact Nat.zero_le _

instance : IsPreorder (EngineState Engine Operation Digest Sink) Conserves where
  refl state := .of_burden (Nat.le_refl _) fun _ => rfl
  trans first second third before after := by
    refine ⟨Nat.le_trans before.nextHandle after.nextHandle, ?_, ?_⟩
    · intro operationHandle allocated
      rw [after.old _ (Nat.lt_of_lt_of_le allocated before.nextHandle),
        before.old _ allocated]
    · intro operationHandle unallocated unused
      have middle := before.fresh operationHandle unallocated unused
      by_cases allocated : operationHandle < second.registry.nextHandle
      · rw [if_pos allocated] at middle
        rw [after.old _ allocated, if_pos (Nat.lt_of_lt_of_le allocated after.nextHandle)]
        exact middle
      · rw [if_neg allocated] at middle
        exact after.fresh _ (Nat.le_of_not_lt allocated) (Nat.le_zero.mp middle)

/-- A call on an operation keeps it live. -/
theorem holds_updateOperation {registry : Registry Engine Operation Digest}
    {operationHandle : Nat} {entry : OperationEntry Operation}
    (present : registry.operations.lookup operationHandle = some entry) (operation : Operation)
    (handle : Nat) :
    (registry.updateOperation operationHandle entry operation).holds .operations handle =
      registry.holds .operations handle := by
  by_cases same : handle = operationHandle
  · subst same
    simp [Registry.holds, Registry.updateOperation, present]
  · simp [Registry.holds, Registry.updateOperation, AList.lookup_insert_ne same]

/-- A call on an operation keeps the burdens. -/
theorem burden_updateOperation {state : EngineState Engine Operation Digest Sink}
    {operationHandle : Nat} {entry : OperationEntry Operation}
    (present : state.registry.operations.lookup operationHandle = some entry)
    (operation : Operation) (handle : Nat) :
    (state.withRegistry (·.updateOperation operationHandle entry operation)).burden handle =
      state.burden handle := by
  unfold EngineState.burden
  rw [show (state.withRegistry (·.updateOperation operationHandle entry operation)).registry.holds
      .operations handle = state.registry.holds .operations handle from
    holds_updateOperation present operation handle]
  rfl

/-- A step of a call on an observation keeps the burdens. -/
theorem ObservationStep.conserves {port : EnginePort Engine Begin Operation Digest}
    {observationHandle : Nat} {before after : EngineState Engine Operation Digest Sink}
    (step : ObservationStep port observationHandle before after) : Conserves before after := by
  cases step with
  | dispatched => exact .of_burden (Nat.le_refl _) fun _ => rfl
  | finished => exact .of_burden (Nat.le_refl _) fun _ => rfl
  | session entry session present => exact .of_burden (Nat.le_refl _) fun _ => rfl
  | operation entry owner operation present owned moved =>
      exact .of_burden (Nat.le_refl _) fun _ => burden_updateOperation owned operation _
  | release => exact .of_burden (Nat.le_refl _) fun _ => rfl
  | noted entry outcome =>
      refine .of_burden (Nat.le_refl _) fun _ => ?_
      simp [EngineState.burden, EngineState.endings, EngineState.noted, JournalEntry.ends,
        EngineState.pendingJobs]

/-- An operation that leaves its table. -/
theorem holds_take {state : EngineState Engine Operation Digest Sink} {operationHandle : Nat}
    (present : state.registry.holds .operations operationHandle = true) (handle : Nat) :
    (state.registry.holds .operations handle).toNat =
      ((state.take operationHandle).registry.holds .operations handle).toNat +
        if operationHandle = handle then 1 else 0 := by
  by_cases same : operationHandle = handle
  · subst same
    have gone : (state.take operationHandle).registry.holds .operations operationHandle =
        false := by
      simp [Registry.holds, EngineState.take, EngineState.withRegistry, Registry.removeOperation]
    rw [present, gone, if_pos rfl]
    rfl
  · have kept : (state.registry.operations.erase operationHandle).lookup handle =
        state.registry.operations.lookup handle := AList.lookup_erase_ne (Ne.symm same)
    simp [Registry.holds, EngineState.take, EngineState.withRegistry, Registry.removeOperation,
      EngineState.detach, EngineState.afterSentinel, Registry.removeOperationObservations, kept,
      same]

/-- An operation that ends leaves its table for the journal. -/
theorem burden_ended {state : EngineState Engine Operation Digest Sink} {operationHandle : Nat}
    (how : OperationEnd) (present : state.registry.holds .operations operationHandle = true)
    (handle : Nat) :
    ((state.take operationHandle).noted [.ended operationHandle how]).burden handle =
      state.burden handle := by
  have left := holds_take present handle
  have noted : ((state.take operationHandle).noted [.ended operationHandle how]).endings handle =
      state.endings handle + if operationHandle = handle then 1 else 0 := by
    show (state.journal ++ _).countP _ = _
    simp [JournalEntry.ends, EngineState.endings, List.countP_singleton]
  have registry : ((state.take operationHandle).noted
      [.ended operationHandle how]).registry = (state.take operationHandle).registry := rfl
  have jobs : ((state.take operationHandle).noted
      [.ended operationHandle how]).pendingJobs handle = state.pendingJobs handle := rfl
  unfold EngineState.burden
  rw [noted, registry, jobs]
  omega

/-- An entrusted operation leaves its table for a task. -/
theorem burden_entrust {state : EngineState Engine Operation Digest Sink}
    {entry : OperationEntry Operation} {job : ProductionFailureJob Operation}
    (present : state.registry.holds .operations job.operationHandle = true) (handle : Nat) :
    (state.entrust entry job).burden handle = state.burden handle := by
  have left := holds_take present handle
  have jobs : (state.entrust entry job).pendingJobs handle =
      state.pendingJobs handle + if job.operationHandle = handle then 1 else 0 := by
    show (state.tasks ++ [_]).countP _ = _
    simp [FailureTaskState.holdsJob, EngineState.pendingJobs, List.countP_singleton]
  have endings : (state.entrust entry job).endings handle = state.endings handle := rfl
  have holds : (state.entrust entry job).registry.holds .operations handle =
      (state.take job.operationHandle).registry.holds .operations handle := rfl
  unfold EngineState.burden
  rw [jobs, endings, holds]
  omega

/-- Dropping observations keeps the tasks and the journal. -/
theorem foldl_detach_keeps (operationHandles : List Nat)
    (state : EngineState Engine Operation Digest Sink) :
    (operationHandles.foldl EngineState.detach state).tasks = state.tasks ∧
      (operationHandles.foldl EngineState.detach state).journal = state.journal := by
  induction operationHandles generalizing state with
  | nil => exact ⟨rfl, rfl⟩
  | cons operationHandle operationHandles ih => exact ih (state.detach operationHandle)

/-- The state in which {lit}`close_engine` begins to cancel tasks. -/
def EngineState.drop (state : EngineState Engine Operation Digest Sink) (engineHandle : Nat) :
    EngineState Engine Operation Digest Sink :=
  (((state.registry.operationsOf engineHandle).foldl EngineState.detach
      (state.withRegistry fun registry =>
        { registry with engines := registry.engines.erase engineHandle })).withRegistry
    (·.removeEngineOperations engineHandle)).noted
    ((state.registry.operationsOf engineHandle).map (.ended · .abandoned))

/-- A closed engine drops its operations and cancels its tasks. -/
theorem closeEngine_places (state : EngineState Engine Operation Digest Sink)
    (engineHandle : Nat) :
    (state.drop engineHandle).tasks = state.tasks ∧
      (state.drop engineHandle).journal = state.journal ++
        (state.registry.operationsOf engineHandle).map (.ended · .abandoned) ∧
      (state.drop engineHandle).registry.tasksOf engineHandle =
        state.registry.tasksOf engineHandle ∧
      (state.closeEngine engineHandle).tasks =
        ((state.drop engineHandle).cancelTasks (state.registry.tasksOf engineHandle)).tasks ∧
      (state.closeEngine engineHandle).journal =
        ((state.drop engineHandle).cancelTasks (state.registry.tasksOf engineHandle)).journal := by
  let opened := state.withRegistry fun registry =>
    { registry with engines := registry.engines.erase engineHandle }
  let detached := (state.registry.operationsOf engineHandle).foldl EngineState.detach opened
  have kept := foldl_detach_keeps (state.registry.operationsOf engineHandle) opened
  have left := detached_foldl (state.registry.operationsOf engineHandle) opened
  have tasks : (state.drop engineHandle).registry.tasksOf engineHandle =
      state.registry.tasksOf engineHandle := by
    show (KeyedTable.retain _ detached.registry.sinks).entries.map _ = _
    rw [left.sinks]
    rfl
  refine ⟨kept.1, ?_, tasks, ?_, ?_⟩
  · show detached.journal ++ _ = _
    rw [kept.2]
    rfl
  · rw [← tasks]
    rfl
  · rw [← tasks]
    rfl

/-- The handles of a table are listed once. -/
theorem count_operationsOf (registry : Registry Engine Operation Digest)
    (engineHandle handle : Nat) :
    ((registry.operationsOf engineHandle).map
        (.ended · .abandoned : Nat → JournalEntry Digest)).countP (·.ends handle) =
      if handle ∈ registry.operationsOf engineHandle then 1 else 0 := by
  rw [List.countP_map]
  have counted : (registry.operationsOf engineHandle).countP
      ((fun entry : JournalEntry Digest => entry.ends handle) ∘ (.ended · .abandoned)) =
      (registry.operationsOf engineHandle).count handle :=
    List.countP_congr fun _ _ => by simp [JournalEntry.ends]
  rw [counted]
  have distinct : (registry.operationsOf engineHandle).Nodup :=
    AList.keys_nodup _
  split
  · rename_i member
    exact List.count_eq_one_of_mem distinct member
  · rename_i absent
    exact List.count_eq_zero_of_not_mem absent

/-- A close ends the operations of the engine, live or entrusted. -/
theorem burden_closeEngine (state : EngineState Engine Operation Digest Sink)
    (engineHandle handle : Nat) :
    (state.closeEngine engineHandle).burden handle = state.burden handle := by
  obtain ⟨tasks, journal, -, closedTasks, closedJournal⟩ := closeEngine_places state engineHandle
  have places := places_cancelTasks (state.registry.tasksOf engineHandle)
    (state.drop engineHandle) handle
  have jobs : (state.closeEngine engineHandle).pendingJobs handle =
      ((state.drop engineHandle).cancelTasks
        (state.registry.tasksOf engineHandle)).pendingJobs handle := by
    unfold EngineState.pendingJobs
    rw [closedTasks]
  have endings : (state.closeEngine engineHandle).endings handle =
      ((state.drop engineHandle).cancelTasks
        (state.registry.tasksOf engineHandle)).endings handle := by
    unfold EngineState.endings
    rw [closedJournal]
  have droppedJobs : (state.drop engineHandle).pendingJobs handle = state.pendingJobs handle := by
    unfold EngineState.pendingJobs
    rw [tasks]
  have droppedEndings : (state.drop engineHandle).endings handle = state.endings handle +
      if handle ∈ state.registry.operationsOf engineHandle then 1 else 0 := by
    unfold EngineState.endings
    rw [journal, List.countP_append, count_operationsOf]
  have closes := closes_closeEngine state engineHandle
  have held : (state.registry.holds .operations handle).toNat =
      ((state.closeEngine engineHandle).registry.holds .operations handle).toNat +
        if handle ∈ state.registry.operationsOf engineHandle then 1 else 0 := by
    have started : handle ∈ state.registry.operationsOf engineHandle ↔
        ∃ entry, state.registry.operations.lookup handle = some entry ∧
          entry.engineHandle = engineHandle := by
      refine AList.lookup_isSome.symm.trans (Option.isSome_iff_exists.trans ?_)
      simp [KeyedTable.lookup_retain_eq_some]
    have kept : (state.closeEngine engineHandle).registry.holds .operations handle = true ↔
        ∃ entry, state.registry.operations.lookup handle = some entry ∧
          entry.engineHandle ≠ engineHandle := by
      rw [Registry.holds, closes.operations]
      refine Option.isSome_iff_exists.trans ?_
      simp [KeyedTable.lookup_retain_eq_some]
    cases present : state.registry.operations.lookup handle with
    | none =>
        have gone : (state.closeEngine engineHandle).registry.holds .operations handle = false := by
          rw [Bool.eq_false_iff]
          intro live
          obtain ⟨entry, found, -⟩ := kept.mp live
          rw [present] at found
          cases found
        rw [if_neg, gone, Registry.holds, present]
        · rfl
        · intro member
          obtain ⟨entry, found, -⟩ := started.mp member
          rw [present] at found
          cases found
    | some entry =>
        by_cases same : entry.engineHandle = engineHandle
        · have gone : (state.closeEngine engineHandle).registry.holds .operations handle =
              false := by
            rw [Bool.eq_false_iff]
            intro live
            obtain ⟨other, found, different⟩ := kept.mp live
            rw [present] at found
            cases found
            exact different same
          rw [if_pos (started.mpr ⟨entry, present, same⟩), gone, Registry.holds, present]
          rfl
        · rw [if_neg, kept.mpr ⟨entry, present, same⟩, Registry.holds, present]
          · rfl
          · intro member
            obtain ⟨other, found, different⟩ := started.mp member
            rw [present] at found
            cases found
            exact same different
  unfold EngineState.burden
  rw [jobs, endings, held]
  omega

/-- A new operation is live and nowhere else. -/
theorem conserves_grantOperation (state : EngineState Engine Operation Digest Sink)
    (entry : OperationEntry Operation) :
    Conserves state (state.withRegistry (·.grantOperation entry)) where
  nextHandle := Nat.le_succ _
  old handle allocated := by
    have kept : (state.registry.operations.insert state.registry.nextHandle entry).lookup handle =
        state.registry.operations.lookup handle :=
      AList.lookup_insert_ne (Nat.ne_of_lt allocated)
    have holds : (state.withRegistry (·.grantOperation entry)).registry.holds .operations handle =
        state.registry.holds .operations handle := congrArg Option.isSome kept
    unfold EngineState.burden
    rw [holds]
    rfl
  fresh handle unallocated unused := by
    unfold EngineState.burden at unused ⊢
    have jobs : (state.withRegistry (·.grantOperation entry)).pendingJobs handle =
        state.pendingJobs handle := rfl
    have endings : (state.withRegistry (·.grantOperation entry)).endings handle =
        state.endings handle := rfl
    rw [jobs, endings]
    by_cases same : handle = state.registry.nextHandle
    · have bound := Bool.toNat_le
        ((state.withRegistry (·.grantOperation entry)).registry.holds .operations handle)
      have granted : handle <
          (state.withRegistry (·.grantOperation entry)).registry.nextHandle := by
        rw [same]
        exact Nat.lt_succ_self _
      rw [if_pos granted]
      omega
    · have kept : (state.registry.operations.insert state.registry.nextHandle entry).lookup
          handle = state.registry.operations.lookup handle := AList.lookup_insert_ne same
      have holds : (state.withRegistry (·.grantOperation entry)).registry.holds .operations
          handle = state.registry.holds .operations handle := congrArg Option.isSome kept
      rw [holds]
      omega

/-- Every step that names no observation keeps the burdens. -/
theorem TableStep.conserves {port : EnginePort Engine Begin Operation Digest}
    {before after : EngineState Engine Operation Digest Sink}
    (step : TableStep port before after) : Conserves before after := by
  cases step with
  | operation operationHandle entry operation present moved =>
      exact .of_burden (Nat.le_refl _) fun _ => burden_updateOperation present operation _
  | heard call quiet => exact .of_burden (Nat.le_refl _) fun _ => rfl
  | announced observationHandle entry observationClass present =>
      exact .of_burden (Nat.le_refl _) fun _ => rfl
  | skipped => exact .of_burden (Nat.le_succ _) fun _ => rfl
  | engineOpened engine room => exact .of_burden (Nat.le_succ _) fun _ => rfl
  | operationStarted entry room owned => exact conserves_grantOperation before entry
  | observationOpened entry room owned => exact .of_burden (Nat.le_succ _) fun _ => rfl
  | detached operationHandle => exact .of_burden (Nat.le_refl _) fun _ => rfl
  | ended operationHandle how entry present =>
      exact .of_burden (Nat.le_refl _) fun _ =>
        burden_ended how (Option.isSome_iff_exists.mpr ⟨entry, present⟩) _
  | engineClosed engineHandle =>
      exact .of_burden (Nat.le_of_eq (closes_closeEngine before engineHandle).nextHandle.symm)
        fun _ => burden_closeEngine before engineHandle _
  | entrusted entry job present room =>
      exact .of_burden (Nat.le_succ _) fun _ =>
        burden_entrust (Option.isSome_iff_exists.mpr ⟨entry, present⟩) _

/-- Every step of a call under the lock keeps the burdens. -/
theorem EngineStep.conserves {port : EnginePort Engine Begin Operation Digest}
    {before after : EngineState Engine Operation Digest Sink}
    (step : EngineStep port before after) : Conserves before after := by
  cases step with
  | observation observationHandle step => exact step.conserves
  | table step => exact step.conserves

/-! ## Steps keep pending tasks -/

/-- The job of a task is gone for good. -/
def EngineState.TakenAt (state : EngineState Engine Operation Digest Sink) (task : Nat) : Prop :=
  ∃ cell, state.tasks[task]? = some cell ∧ cell.Taken

/-- A task whose job is gone stays so, and a pending task with a sink keeps both or its operation
is abandoned. -/
structure Keeps (before after : EngineState Engine Operation Digest Sink) : Prop where
  nextHandle : before.registry.nextHandle ≤ after.registry.nextHandle
  journal : before.journal <+: after.journal
  length : before.tasks.length ≤ after.tasks.length
  sinks : ∀ sinkHandle entry, after.registry.sinks.lookup sinkHandle = some entry →
    before.registry.sinks.lookup sinkHandle = some entry ∨ before.registry.nextHandle ≤ sinkHandle
  taken : ∀ task, before.TakenAt task → after.TakenAt task
  pending : ∀ (sinkHandle : Nat) (entry : SinkEntry) (job : ProductionFailureJob Operation), before.registry.sinks.lookup sinkHandle = some entry →
    before.tasks[entry.task]? = some (.pending (some job)) →
    (after.registry.sinks.lookup sinkHandle = some entry ∧
      after.tasks[entry.task]? = some (.pending (some job))) ∨
    .ended job.operationHandle .abandoned ∈ after.journal

/-- A step that leaves the tasks and the sinks alone. -/
theorem Keeps.of_same {before after : EngineState Engine Operation Digest Sink}
    (nextHandle : before.registry.nextHandle ≤ after.registry.nextHandle)
    (journal : before.journal <+: after.journal) (tasks : after.tasks = before.tasks)
    (sinks : after.registry.sinks = before.registry.sinks) : Keeps before after where
  nextHandle := nextHandle
  journal := journal
  length := Nat.le_of_eq (congrArg List.length tasks.symm)
  sinks sinkHandle entry found := .inl (by rwa [sinks] at found)
  taken task := by
    rintro ⟨cell, found, gone⟩
    exact ⟨cell, by rwa [tasks], gone⟩
  pending sinkHandle entry job found held := .inl ⟨by rwa [sinks], by rwa [tasks]⟩

instance : IsPreorder (EngineState Engine Operation Digest Sink) Keeps where
  refl state := .of_same (Nat.le_refl _) (List.prefix_refl _) rfl rfl
  trans first second third before after := by
    refine ⟨Nat.le_trans before.nextHandle after.nextHandle, before.journal.trans after.journal,
      Nat.le_trans before.length after.length, ?_,
      fun task gone => after.taken task (before.taken task gone), ?_⟩
    · intro sinkHandle entry found
      rcases after.sinks sinkHandle entry found with old | new
      · exact before.sinks sinkHandle entry old
      · exact .inr (Nat.le_trans before.nextHandle new)
    · intro sinkHandle entry job found held
      rcases before.pending sinkHandle entry job found held with kept | abandoned
      · exact after.pending sinkHandle entry job kept.1 kept.2
      · exact .inr (after.journal.subset abandoned)

/-- A step of a call on an observation leaves the tasks alone. -/
theorem ObservationStep.keeps {port : EnginePort Engine Begin Operation Digest}
    {observationHandle : Nat} {before after : EngineState Engine Operation Digest Sink}
    (step : ObservationStep port observationHandle before after) : Keeps before after := by
  cases step with
  | noted entry outcome => exact .of_same (Nat.le_refl _) (List.prefix_append _ _) rfl rfl
  | _ => exact .of_same (Nat.le_refl _) (List.prefix_refl _) rfl rfl

/-- A cancelled task is taken, and its operation abandoned. -/
theorem keeps_cancelTasks (tasks : List Nat) (state : EngineState Engine Operation Digest Sink) :
    state.journal <+: (state.cancelTasks tasks).journal ∧
      (state.cancelTasks tasks).tasks.length = state.tasks.length ∧
      (∀ task, state.TakenAt task → (state.cancelTasks tasks).TakenAt task) ∧
      ∀ (task : Nat) (job : ProductionFailureJob Operation), state.tasks[task]? = some (.pending (some job)) →
        ((state.cancelTasks tasks).tasks[task]? = some (.pending (some job)) ∧ task ∉ tasks) ∨
          .ended job.operationHandle .abandoned ∈ (state.cancelTasks tasks).journal := by
  induction tasks generalizing state with
  | nil =>
      exact ⟨List.prefix_refl _, rfl, fun _ gone => gone,
        fun _ _ found => .inl ⟨found, List.not_mem_nil⟩⟩
  | cons first tasks ih =>
      obtain ⟨journal, length, taken, pending⟩ := ih (state.cancelTask first)
      refine ⟨(List.prefix_append _ _).trans journal, length.trans List.length_set, ?_, ?_⟩
      · rintro task ⟨cell, found, gone⟩
        refine taken task ?_
        by_cases same : first = task
        · subst same
          have inside := (List.getElem?_eq_some_iff.mp found).1
          exact ⟨.cancelled, List.getElem?_set_self inside, fun _ same => by cases same⟩
        · exact ⟨cell, (List.getElem?_set_ne same).trans found, gone⟩
      · intro task job found
        by_cases same : first = task
        · subst same
          refine .inr (journal.subset (List.mem_append_right _ ?_))
          rw [found]
          exact List.mem_singleton_self _
        · have kept : (state.cancelTask first).tasks[task]? = some (.pending (some job)) :=
            (List.getElem?_set_ne same).trans found
          rcases pending task job kept with still | abandoned
          · refine .inl ⟨still.1, ?_⟩
            rw [List.mem_cons, not_or]
            exact ⟨Ne.symm same, still.2⟩
          · exact .inr abandoned

/-- A close cancels the tasks of the sinks it removes. -/
theorem keeps_closeEngine (state : EngineState Engine Operation Digest Sink)
    (engineHandle : Nat) : Keeps state (state.closeEngine engineHandle) := by
  obtain ⟨tasks, journal, -, closedTasks, closedJournal⟩ := closeEngine_places state engineHandle
  obtain ⟨prefixed, length, taken, pending⟩ :=
    keeps_cancelTasks (state.registry.tasksOf engineHandle) (state.drop engineHandle)
  rw [journal] at prefixed
  rw [tasks] at length pending
  rw [← closedTasks] at length pending
  rw [← closedJournal] at prefixed pending
  have closes := closes_closeEngine state engineHandle
  refine ⟨Nat.le_of_eq closes.nextHandle.symm, (List.prefix_append _ _).trans prefixed,
    Nat.le_of_eq length.symm, ?_, ?_, ?_⟩
  · intro sinkHandle entry found
    rw [closes.sinks] at found
    exact .inl (KeyedTable.lookup_retain_eq_some.mp found).1
  · intro task gone
    unfold EngineState.TakenAt at taken gone ⊢
    rw [closedTasks]
    rw [tasks] at taken
    exact taken task gone
  intro sinkHandle entry job found held
  rcases pending entry.task job held with ⟨still, apart⟩ | abandoned
  · refine .inl ⟨?_, still⟩
    rw [closes.sinks]
    refine KeyedTable.lookup_retain_eq_some.mpr ⟨found, ?_⟩
    rw [decide_eq_true_eq]
    intro same
    refine apart (List.mem_map.mpr ⟨⟨sinkHandle, entry⟩, ?_, rfl⟩)
    exact AList.mem_lookup_iff.mp
      (KeyedTable.lookup_retain_eq_some.mpr ⟨found, decide_eq_true same⟩)
  · exact .inr abandoned

/-- A new sink and a new task leave the others alone. -/
theorem keeps_entrust {state : EngineState Engine Operation Digest Sink}
    (allocated : KeyedTable.All (fun handle _ => handle < state.registry.nextHandle)
      state.registry.sinks)
    (entry : OperationEntry Operation) (job : ProductionFailureJob Operation) :
    Keeps state (state.entrust entry job) where
  nextHandle := Nat.le_succ _
  journal := List.prefix_refl _
  sinks sinkHandle sink found := by
    by_cases same : sinkHandle = state.registry.nextHandle
    · exact .inr (Nat.le_of_eq same.symm)
    · exact .inl ((AList.lookup_insert_ne same).symm.trans found)
  length := by
    show state.tasks.length ≤ (state.tasks ++ [_]).length
    simp
  taken task := by
    rintro ⟨cell, found, gone⟩
    refine ⟨cell, ?_, gone⟩
    exact (List.getElem?_append_left (List.getElem?_eq_some_iff.mp found).1).trans found
  pending sinkHandle sink held found pending := by
    refine .inl ⟨?_, ?_⟩
    · exact (AList.lookup_insert_ne (Nat.ne_of_lt (allocated sinkHandle sink found))).trans found
    · exact (List.getElem?_append_left (List.getElem?_eq_some_iff.mp pending).1).trans pending

/-- What a step makes of a sound registry and its tasks. -/
def Proceeds (before after : EngineState Engine Operation Digest Sink) : Prop :=
  before.registry.Sound →
    after.registry.Sound ∧ Keeps before after ∧ Conserves before after ∧ Advances before after

instance : IsPreorder (EngineState Engine Operation Digest Sink) Proceeds where
  refl state sound := ⟨sound, refl_of Keeps state, refl_of Conserves state, refl_of Advances state⟩
  trans first second third before after sound := by
    obtain ⟨middle, keeps, conserves, advances⟩ := before sound
    obtain ⟨last, keeps', conserves', advances'⟩ := after middle
    exact ⟨last, trans_of Keeps keeps keeps', trans_of Conserves conserves conserves',
      trans_of Advances advances advances'⟩

/-- Every step that names no observation keeps pending tasks. -/
theorem TableStep.keeps {port : EnginePort Engine Begin Operation Digest}
    {before after : EngineState Engine Operation Digest Sink}
    (step : TableStep port before after) (sound : before.registry.Sound) :
    Keeps before after := by
  cases step with
  | operation operationHandle entry operation present moved =>
      exact .of_same (Nat.le_refl _) (List.prefix_refl _) rfl rfl
  | heard call quiet => exact .of_same (Nat.le_refl _) (List.prefix_refl _) rfl rfl
  | announced observationHandle entry observationClass present =>
      exact .of_same (Nat.le_refl _) (List.prefix_refl _) rfl rfl
  | skipped => exact .of_same (Nat.le_succ _) (List.prefix_refl _) rfl rfl
  | engineOpened engine room => exact .of_same (Nat.le_succ _) (List.prefix_refl _) rfl rfl
  | operationStarted entry room owned => exact .of_same (Nat.le_succ _) (List.prefix_refl _) rfl rfl
  | observationOpened entry room owned => exact .of_same (Nat.le_succ _) (List.prefix_refl _) rfl rfl
  | detached operationHandle => exact .of_same (Nat.le_refl _) (List.prefix_refl _) rfl rfl
  | ended operationHandle how entry present =>
      exact .of_same (Nat.le_refl _) (List.prefix_append _ _) rfl rfl
  | engineClosed engineHandle => exact keeps_closeEngine before engineHandle
  | entrusted entry job present room =>
      refine keeps_entrust (fun handle sink found => ?_) entry job
      have held : before.registry.holds .sinks handle = true :=
        Option.isSome_iff_exists.mpr ⟨sink, found⟩
      exact sound.allocated held

/-- Every step of a call under the lock keeps pending tasks. -/
theorem EngineStep.keeps {port : EnginePort Engine Begin Operation Digest}
    {before after : EngineState Engine Operation Digest Sink}
    (step : EngineStep port before after) (sound : before.registry.Sound) :
    Keeps before after := by
  cases step with
  | observation observationHandle step => exact step.keeps
  | table step => exact step.keeps sound

end Engine
end ReproItSdk
