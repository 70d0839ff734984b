import ReproItSdk.Engine.FailureTask

/-! # The protocol of a failure task

The transcript of a run lists what every step did.  It agrees with the cell and with the waiters
after every step, whichever threads took the steps.

Main results:

- Theorem {lit}`step_effect`: what each step does.
- Structure {lit}`Agrees`: what the transcript says of the state, kept by every step.
- Theorem {lit}`protocol_sound`: jobs, cancellation and answers of every run.
- Theorem {lit}`cancel_hides_failure`: a cancel hides the error of a task that failed before it.
-/

namespace ReproItSdk
namespace Engine

variable {Job Sink : Type}

namespace TaskSystem

/-! ## Effects -/

/-- What a waiter that is awake makes of the cell. -/
inductive LookEffect (cell : FailureTaskState Job Sink) (clock : Nat) (waiter : Waiter Sink) :
    Look Sink → Prop
  | notFound (cancelled : cell = .cancelled) :
      LookEffect cell clock waiter (.answers (.error taskNotFound))
  | failed (error : Error) (failed : cell = .failed error) :
      LookEffect cell clock waiter (.answers (.error error))
  | takes (sink : Sink) (ready : cell = .ready sink) : LookEffect cell clock waiter (.takes sink)
  | late (unfinished : cell.unfinished = true)
      (expired : waiter.started + waiter.timeout ≤ clock) :
      LookEffect cell clock waiter (.answers (.ok false))
  | sleeps (unfinished : cell.unfinished = true) : LookEffect cell clock waiter .sleeps

/-- One turn of the loop of a waiter. -/
theorem look_effect (cell : FailureTaskState Job Sink) {clock : Nat} {waiter : Waiter Sink}
    (begun : waiter.started ≤ clock) : LookEffect cell clock waiter (look cell clock waiter) := by
  have unfinished_effect : cell.unfinished = true →
      LookEffect cell clock waiter
        (if waiter.remaining clock = 0 then .answers (.ok false) else .sleeps) := by
    intro unfinished
    split
    case isTrue expired =>
        unfold Waiter.remaining at expired
        exact .late unfinished (by omega)
    case isFalse => exact .sleeps unfinished
  cases cell with
  | cancelled => exact .notFound rfl
  | failed error => exact .failed error rfl
  | ready sink => exact .takes sink rfl
  | pending job => exact unfinished_effect rfl
  | running => exact unfinished_effect rfl

/-- A turn of the loop after a sleep. -/
theorem lookAfterSleep_effect (cell : FailureTaskState Job Sink) {clock : Nat}
    {waiter : Waiter Sink} (begun : waiter.started ≤ clock) {timedOut : Bool}
    (expired : ¬ (timedOut = true ∧ clock < waiter.started + waiter.timeout)) :
    LookEffect cell clock waiter (lookAfterSleep cell clock waiter timedOut) := by
  unfold lookAfterSleep
  split
  case isTrue both =>
      exact .late both.2 (Nat.not_lt.mp fun early => expired ⟨both.1, early⟩)
  case isFalse => exact look_effect cell begun

/-- What a step does. -/
inductive TaskEffect (system : TaskSystem Job Sink) :
    TaskAction Sink → Option (TaskEvent Sink) → TaskSystem Job Sink → Prop
  | passed (elapsed : Nat) :
      TaskEffect system (.tick elapsed) none { system with clock := system.clock + elapsed }
  | took (runId : Nat) (job : Job) (absent : system.runs.lookup runId = none)
      (pending : system.cell = .pending (some job)) :
      TaskEffect system (.takeJob runId) (some (.took runId))
        { system with
          cell := .running
          runs := system.runs.insert runId (.running job) }
  | missed (runId : Nat) (absent : system.runs.lookup runId = none) :
      TaskEffect system (.takeJob runId) none
        { system with runs := system.runs.insert runId .done }
  | stored (runId : Nat) (job : Job) (finalized : Option (Except Error Sink))
      (running : system.runs.lookup runId = some (.running job))
      (kept : system.cell ≠ .cancelled) :
      TaskEffect system (.complete runId finalized) (some (.stored runId (finalResult finalized)))
        { system with
          cell := system.cell.complete (finalResult finalized)
          runs := system.runs.insert runId .done }
  | discarded (runId : Nat) (finalized : Option (Except Error Sink))
      (cancelled : system.cell = .cancelled) :
      TaskEffect system (.complete runId finalized) none
        { system with runs := system.runs.insert runId .done }
  | cancelled :
      TaskEffect system .cancel (some .cancelled) { system with cell := .cancelled }
  | called (waiterId timeout : Nat) (absent : system.waiters.lookup waiterId = none) :
      TaskEffect system (.call waiterId timeout) (some (.called waiterId system.clock timeout))
        { system with
          waiters := system.waiters.insert waiterId
            { started := system.clock, timeout := timeout, phase := .called } }
  | looked (action : TaskAction Sink) (waiterId : Nat) (waiter : Waiter Sink) (look : Look Sink)
      (present : system.waiters.lookup waiterId = some waiter)
      (effect : LookEffect system.cell system.clock waiter look) :
      TaskEffect system action (system.looked waiterId waiter look).1
        (system.looked waiterId waiter look).2
  | measured (waiterId : Nat) (waiter : Waiter Sink) (sink : Sink)
      (present : system.waiters.lookup waiterId = some waiter)
      (holding : waiter.phase = .holding sink) :
      TaskEffect system (.measure waiterId) none
        (system.move waiterId waiter (.measured sink (waiter.remaining system.clock)))
  | entered (waiterId : Nat) (waiter : Waiter Sink) (sink : Sink) (remaining : Nat)
      (present : system.waiters.lookup waiterId = some waiter)
      (measured : waiter.phase = .measured sink remaining) :
      TaskEffect system (.enterSink waiterId) none
        (system.move waiterId waiter (.polling sink (system.clock + remaining)))
  | reported (waiterId : Nat) (waiter : Waiter Sink) (sink : Sink) (deadline : Nat) (idle : Bool)
      (present : system.waiters.lookup waiterId = some waiter)
      (polling : waiter.phase = .polling sink deadline)
      (late : idle = false → deadline ≤ system.clock) :
      TaskEffect system (.poll waiterId idle) (some (.returned waiterId (.ok idle)))
        (system.move waiterId waiter .returned)
  | idled (action : TaskAction Sink) : TaskEffect system action none system

/-- What a step of a waiter does. -/
theorem waiterStep_effect {system : TaskSystem Job Sink} {waiterId : Nat} {waiter : Waiter Sink}
    (present : system.waiters.lookup waiterId = some waiter)
    (begun : waiter.started ≤ system.clock) (action : TaskAction Sink)
    (about : action = .look waiterId ∨ (∃ timedOut, action = .wake waiterId timedOut) ∨
      action = .measure waiterId ∨ action = .enterSink waiterId ∨
      ∃ idle, action = .poll waiterId idle) :
    TaskEffect system action (system.waiterStep waiterId waiter waiter.phase action).1
      (system.waiterStep waiterId waiter waiter.phase action).2 := by
  cases phase : waiter.phase with
  | called =>
      rcases about with rfl | ⟨timedOut, rfl⟩ | rfl | rfl | ⟨idle, rfl⟩
      · exact .looked _ waiterId waiter _ present (look_effect system.cell begun)
      all_goals exact .idled _
  | sleeping =>
      rcases about with rfl | ⟨timedOut, rfl⟩ | rfl | rfl | ⟨idle, rfl⟩
      case inr.inl =>
        change TaskEffect system _ (system.wakeStep waiterId waiter timedOut).1
          (system.wakeStep waiterId waiter timedOut).2
        unfold wakeStep
        split
        case isTrue => exact .idled _
        case isFalse expired =>
            exact .looked _ waiterId waiter _ present (lookAfterSleep_effect system.cell begun expired)
      all_goals exact .idled _
  | holding sink =>
      rcases about with rfl | ⟨timedOut, rfl⟩ | rfl | rfl | ⟨idle, rfl⟩
      case inr.inr.inl => exact .measured waiterId waiter sink present phase
      all_goals exact .idled _
  | measured sink remaining =>
      rcases about with rfl | ⟨timedOut, rfl⟩ | rfl | rfl | ⟨idle, rfl⟩
      case inr.inr.inr.inl => exact .entered waiterId waiter sink remaining present phase
      all_goals exact .idled _
  | polling sink deadline =>
      rcases about with rfl | ⟨timedOut, rfl⟩ | rfl | rfl | ⟨idle, rfl⟩
      case inr.inr.inr.inr =>
        change TaskEffect system _ (system.pollStep waiterId waiter deadline idle).1
          (system.pollStep waiterId waiter deadline idle).2
        unfold pollStep
        split
        case isTrue now =>
            refine .reported waiterId waiter sink deadline idle present phase ?_
            intro busy
            rw [busy] at now
            exact now.resolve_left Bool.false_ne_true
        case isFalse => exact .idled _
      all_goals exact .idled _
  | returned => exact .idled _

/-- Taking the job. -/
theorem takeJobStep_effect (system : TaskSystem Job Sink) (runId : Nat) :
    TaskEffect system (.takeJob runId) (system.takeJobStep runId).1
      (system.takeJobStep runId).2 := by
  unfold takeJobStep
  split
  case h_1 => exact .idled _
  case h_2 absent =>
      split
      case h_1 => exact .missed runId absent
      case h_2 job cell taken =>
          unfold FailureTaskState.takeJob at taken
          split at taken
          case h_1 pending =>
              cases taken
              exact .took runId job absent pending
          case h_2 => cases taken

/-- Completing the task. -/
theorem completeStep_effect (system : TaskSystem Job Sink) (runId : Nat)
    (finalized : Option (Except Error Sink)) :
    TaskEffect system (.complete runId finalized) (system.completeStep runId finalized).1
      (system.completeStep runId finalized).2 := by
  unfold completeStep
  split
  case h_1 job running =>
      by_cases cancelled : system.cell = .cancelled
      · have effect := TaskEffect.discarded runId finalized cancelled
        rw [cancelled] at effect ⊢
        exact effect
      · have kept : system.cell.keeps = true := by
          unfold FailureTaskState.keeps
          split
          case h_1 same => exact absurd same cancelled
          case h_2 => rfl
        rw [if_pos kept]
        exact .stored runId job finalized running cancelled
  case h_2 => exact .idled _

/-- What each step does, when no waiter started in the future. -/
theorem step_effect {system : TaskSystem Job Sink}
    (begun : ∀ waiterId waiter, system.waiters.lookup waiterId = some waiter →
      waiter.started ≤ system.clock) (action : TaskAction Sink) :
    TaskEffect system action (system.step action).1 (system.step action).2 := by
  have waits (waiterId : Nat) (about : action = .look waiterId ∨
      (∃ timedOut, action = .wake waiterId timedOut) ∨ action = .measure waiterId ∨
      action = .enterSink waiterId ∨ ∃ idle, action = .poll waiterId idle) :
      TaskEffect system action (system.waiterStepAt waiterId action).1
        (system.waiterStepAt waiterId action).2 := by
    unfold waiterStepAt
    cases present : system.waiters.lookup waiterId with
    | none => exact .idled _
    | some waiter =>
        exact waiterStep_effect present (begun waiterId waiter present) action about
  cases action with
  | tick elapsed => exact .passed elapsed
  | takeJob runId => exact takeJobStep_effect system runId
  | complete runId finalized => exact completeStep_effect system runId finalized
  | cancel => exact .cancelled
  | call waiterId timeout =>
      change TaskEffect system _ (system.callStep waiterId timeout).1
        (system.callStep waiterId timeout).2
      unfold callStep
      split
      case h_1 => exact .idled _
      case h_2 absent => exact .called waiterId timeout absent
  | look waiterId => exact waits waiterId (.inl rfl)
  | wake waiterId timedOut => exact waits waiterId (.inr (.inl ⟨timedOut, rfl⟩))
  | measure waiterId => exact waits waiterId (.inr (.inr (.inl rfl)))
  | enterSink waiterId => exact waits waiterId (.inr (.inr (.inr (.inl rfl))))
  | poll waiterId idle => exact waits waiterId (.inr (.inr (.inr (.inr ⟨idle, rfl⟩))))

/-! ## Reading a transcript -/

/-- One answered step. -/
abbrev Entry (Job Sink : Type) : Type :=
  Runs.Answered (TaskSystem Job Sink) (TaskAction Sink) (Option (TaskEvent Sink))

/-- What the steps did, in order. -/
def events (past : List (Entry Job Sink)) : List (TaskEvent Sink) :=
  past.filterMap (·.reply)

/-- Run that took the job. -/
def taker? : TaskEvent Sink → Option Nat
  | .took runId => some runId
  | _ => none

/-- Runs that took the job, in order. -/
def takers (past : List (Entry Job Sink)) : List Nat :=
  (events past).filterMap taker?

/-- Whether a step is none of a live task: it does not take the job, store a result or see the
sink. -/
def Dead (entry : Entry Job Sink) : Prop :=
  match entry.reply with
  | some (.took _) | some (.stored _ _) | some (.sawSink _ _) => False
  | _ => True

/-- The steps before the first cancel. -/
def beforeCancel (past : List (Entry Job Sink)) : List (Entry Job Sink) :=
  past.takeWhile fun entry =>
    match entry.reply with
    | some .cancelled => false
    | _ => true

/-- Events of one more step. -/
theorem events_append (past : List (Entry Job Sink)) (entry : Entry Job Sink) :
    events (past ++ [entry]) = events past ++ entry.reply.toList := by
  unfold events
  rw [List.filterMap_append]
  cases answered : entry.reply <;> simp [answered]

/-- An event of the past stays one. -/
theorem mem_events_append {past : List (Entry Job Sink)} {event : TaskEvent Sink}
    (member : event ∈ events past) (entry : Entry Job Sink) : event ∈ events (past ++ [entry]) := by
  rw [events_append]
  exact List.mem_append_left _ member

/-! ## What the transcript says -/

/-- What the transcript says of one waiter. -/
structure WaiterAgrees (past : List (Entry Job Sink)) (clock waiterId : Nat)
    (waiter : Waiter Sink) : Prop where
  begun : waiter.started ≤ clock
  called : .called waiterId waiter.started waiter.timeout ∈ events past
  holding : ∀ sink, waiter.phase = .holding sink → .sawSink waiterId sink ∈ events past
  measured : ∀ sink remaining, waiter.phase = .measured sink remaining →
    .sawSink waiterId sink ∈ events past ∧ waiter.started + waiter.timeout ≤ clock + remaining
  polling : ∀ sink deadline, waiter.phase = .polling sink deadline →
    .sawSink waiterId sink ∈ events past ∧ waiter.started + waiter.timeout ≤ deadline

/-- What the transcript says of the state. -/
structure Agrees (past : List (Entry Job Sink)) (system : TaskSystem Job Sink) : Prop where
  cancelled : system.cell = .cancelled ↔ .cancelled ∈ events past
  taken : (takers past).length ≤ 1
  fresh : ∀ job, system.cell = .pending (some job) →
    takers past = [] ∧ ∀ runId job, system.runs.lookup runId ≠ some (.running job)
  busy : ∀ runId job, system.runs.lookup runId = some (.running job) →
    system.cell = .running ∨ system.cell = .cancelled
  single : ∀ left right leftJob rightJob,
    system.runs.lookup left = some (.running leftJob) →
      system.runs.lookup right = some (.running rightJob) → left = right
  failed : ∀ error, system.cell = .failed error →
    ∃ runId, .stored runId (.error error) ∈ events past
  stored : ∀ runId error, .stored runId (.error error) ∈ events past →
    system.cell = .failed error ∨ system.cell = .cancelled
  waiters : KeyedTable.All (WaiterAgrees past system.clock) system.waiters
  dead : past.Pairwise fun earlier later => earlier.reply = some .cancelled → Dead later

/-- Nothing happened before the first step. -/
theorem pending_agrees (job : Job) : Agrees [] (pending job : TaskSystem Job Sink) where
  cancelled := by simp [pending, events]
  taken := Nat.zero_le 1
  fresh _ _ := ⟨rfl, fun runId job held => by simp [pending] at held⟩
  busy runId job held := by simp [pending] at held
  single left _ _ _ held := by simp [pending] at held
  failed error held := by cases held
  stored runId error member := by cases member
  waiters := KeyedTable.all_empty
  dead := List.Pairwise.nil

/-! ## One more step -/

/-- Whether a step did nothing to the cell. -/
def Aside : Option (TaskEvent Sink) → Prop
  | some (.took _) | some (.stored _ _) | some .cancelled => False
  | _ => True

/-- Runs that took the job after one more step. -/
theorem takers_append (past : List (Entry Job Sink)) (entry : Entry Job Sink) :
    takers (past ++ [entry]) = takers past ++ entry.reply.toList.filterMap taker? := by
  unfold takers
  rw [events_append, List.filterMap_append]

/-- What the transcript says of a waiter holds after more steps and more time. -/
theorem WaiterAgrees.append {past : List (Entry Job Sink)} {clock later waiterId : Nat}
    {waiter : Waiter Sink} (agrees : WaiterAgrees past clock waiterId waiter)
    (passed : clock ≤ later) (entry : Entry Job Sink) :
    WaiterAgrees (past ++ [entry]) later waiterId waiter where
  begun := agrees.begun.trans passed
  called := mem_events_append agrees.called entry
  holding sink phase := mem_events_append (agrees.holding sink phase) entry
  measured sink remaining phase := by
    obtain ⟨saw, enough⟩ := agrees.measured sink remaining phase
    exact ⟨mem_events_append saw entry, enough.trans (Nat.add_le_add_right passed remaining)⟩
  polling sink deadline phase := by
    obtain ⟨saw, enough⟩ := agrees.polling sink deadline phase
    exact ⟨mem_events_append saw entry, enough⟩

/-- A waiter that returned or sleeps needs no more than its call. -/
theorem WaiterAgrees.plain {past : List (Entry Job Sink)} {clock waiterId : Nat}
    {waiter : Waiter Sink} (agrees : WaiterAgrees past clock waiterId waiter)
    {phase : WaiterPhase Sink} (plain : phase = .returned ∨ phase = .sleeping) :
    WaiterAgrees past clock waiterId (waiter.enter phase) := by
  rcases plain with rfl | rfl <;>
    exact ⟨agrees.begun, agrees.called, fun _ phase => (by cases phase),
      fun _ _ phase => (by cases phase), fun _ _ phase => (by cases phase)⟩

/-- After a cancel the last step is none of a live task, if it is none of a cancelled one. -/
theorem Agrees.dead_append {past : List (Entry Job Sink)} {system : TaskSystem Job Sink}
    (agrees : Agrees past system) {entry : Entry Job Sink}
    (dead : system.cell = .cancelled → Dead entry) :
    (past ++ [entry]).Pairwise fun earlier later =>
      earlier.reply = some .cancelled → Dead later := by
  refine List.pairwise_append.mpr ⟨agrees.dead, List.pairwise_singleton _ _, ?_⟩
  intro earlier member last lastMember cancels
  rw [List.mem_singleton.mp lastMember]
  exact dead (agrees.cancelled.mpr (List.mem_filterMap.mpr ⟨earlier, member, cancels⟩))

/-- A step aside from the cell adds no event of the cell. -/
theorem events_aside (past : List (Entry Job Sink)) {entry : Entry Job Sink}
    (aside : Aside entry.reply) :
    (.cancelled ∈ events (past ++ [entry]) ↔ .cancelled ∈ events past) ∧
      takers (past ++ [entry]) = takers past ∧
      ∀ runId result, .stored runId result ∈ events (past ++ [entry]) →
        .stored runId result ∈ events past := by
  rw [events_append, takers_append]
  cases answered : entry.reply with
  | none => simp
  | some event =>
      rw [answered] at aside
      cases event <;> simp_all [Aside, taker?]

/-- A step aside from the cell keeps the agreement. -/
theorem Agrees.aside {past : List (Entry Job Sink)} {system next : TaskSystem Job Sink}
    (agrees : Agrees past system) {entry : Entry Job Sink} (aside : Aside entry.reply)
    (cell : next.cell = system.cell) (runs : next.runs = system.runs)
    (waiters : KeyedTable.All (WaiterAgrees (past ++ [entry]) next.clock) next.waiters)
    (dead : system.cell = .cancelled → Dead entry) : Agrees (past ++ [entry]) next := by
  obtain ⟨cancels, takes, stores⟩ := events_aside past aside
  constructor
  · rw [cell, cancels]
    exact agrees.cancelled
  · rw [takes]
    exact agrees.taken
  · rw [cell, takes, runs]
    exact agrees.fresh
  · rw [cell, runs]
    exact agrees.busy
  · rw [runs]
    exact agrees.single
  · intro error failed
    obtain ⟨runId, member⟩ := agrees.failed error (cell.symm.trans failed)
    exact ⟨runId, mem_events_append member entry⟩
  · intro runId error member
    rw [cell]
    exact agrees.stored runId error (stores runId _ member)
  · exact waiters
  · exact agrees.dead_append dead

/-- The waiters agree with one more step, when they are as they were. -/
theorem Agrees.waiters_append {past : List (Entry Job Sink)} {system : TaskSystem Job Sink}
    (agrees : Agrees past system) {later : Nat} (passed : system.clock ≤ later)
    (entry : Entry Job Sink) :
    KeyedTable.All (WaiterAgrees (past ++ [entry]) later) system.waiters :=
  agrees.waiters.mono fun _ _ waiter => waiter.append passed entry

/-- Moving one waiter keeps the agreement of the others. -/
theorem Agrees.waiters_move {past : List (Entry Job Sink)} {system : TaskSystem Job Sink}
    (agrees : Agrees past system) {waiterId : Nat} {waiter : Waiter Sink}
    {phase : WaiterPhase Sink} (entry : Entry Job Sink)
    (moved : WaiterAgrees (past ++ [entry]) system.clock waiterId (waiter.enter phase)) :
    KeyedTable.All (WaiterAgrees (past ++ [entry]) system.clock)
      (system.move waiterId waiter phase).waiters :=
  (agrees.waiters_append (Nat.le_refl _) entry).insert moved

/-- A waiter that looked at the cell keeps the agreement. -/
theorem Agrees.looked {past : List (Entry Job Sink)} {system : TaskSystem Job Sink}
    (agrees : Agrees past system) {waiterId : Nat} {waiter : Waiter Sink} {look : Look Sink}
    (present : system.waiters.lookup waiterId = some waiter)
    (effect : LookEffect system.cell system.clock waiter look) {entry : Entry Job Sink}
    (reply : entry.reply = (system.looked waiterId waiter look).1) :
    Agrees (past ++ [entry]) (system.looked waiterId waiter look).2 := by
  have waiting := (agrees.waiters waiterId waiter present).append (Nat.le_refl _) entry
  have answers (answer : Except Error Bool)
      (reply : entry.reply = some (.returned waiterId answer)) :
      Agrees (past ++ [entry]) (system.move waiterId waiter .returned) := by
    refine agrees.aside ?_ rfl rfl (agrees.waiters_move entry (waiting.plain (.inl rfl))) ?_
    · rw [reply]
      trivial
    · intro _
      unfold Dead
      rw [reply]
      trivial
  cases effect with
  | notFound => exact answers _ reply
  | failed => exact answers _ reply
  | late => exact answers _ reply
  | takes sink ready =>
      have reply : entry.reply = some (.sawSink waiterId sink) := reply
      have saw : .sawSink waiterId sink ∈ events (past ++ [entry]) := by
        rw [events_append, reply]
        exact List.mem_append_right _ (List.mem_singleton_self _)
      refine agrees.aside ?_ rfl rfl (agrees.waiters_move entry
        ⟨waiting.begun, waiting.called, ?_, fun _ _ phase => (by cases phase),
          fun _ _ phase => (by cases phase)⟩) ?_
      · rw [reply]
        trivial
      · intro seen phase
        cases phase
        exact saw
      · intro cancelled
        rw [ready] at cancelled
        cases cancelled
  | sleeps =>
      have reply : entry.reply = none := reply
      refine agrees.aside ?_ rfl rfl (agrees.waiters_move entry (waiting.plain (.inr rfl))) ?_
      · rw [reply]
        trivial
      · intro _
        unfold Dead
        rw [reply]
        trivial

/-- A step that does not concern the cell or a waiter keeps the agreement. -/
theorem Agrees.silent {past : List (Entry Job Sink)} {system next : TaskSystem Job Sink}
    (agrees : Agrees past system) {entry : Entry Job Sink} (reply : entry.reply = none)
    (cell : next.cell = system.cell) (runs : next.runs = system.runs)
    (waiters : KeyedTable.All (WaiterAgrees (past ++ [entry]) next.clock) next.waiters) :
    Agrees (past ++ [entry]) next := by
  refine agrees.aside ?_ cell runs waiters ?_
  · rw [reply]
    trivial
  · intro _
    unfold Dead
    rw [reply]
    trivial

/-- A run that is not over is another one than a run that is. -/
theorem running_of_insert_done {runs : KeyedTable Nat (RunPhase Job)} {doneId runId : Nat} {job : Job}
    (running : (runs.insert doneId .done).lookup runId = some (.running job)) :
    runs.lookup runId = some (.running job) ∧ runId ≠ doneId := by
  by_cases same : runId = doneId
  · subst same
    rw [AList.lookup_insert] at running
    cases running
  · rw [AList.lookup_insert_ne same] at running
    exact ⟨running, same⟩

/-- Taking the job keeps the agreement. -/
theorem Agrees.took {past : List (Entry Job Sink)} {system : TaskSystem Job Sink}
    (agrees : Agrees past system) {runId : Nat} {job : Job}
    (pending : system.cell = .pending (some job)) {entry : Entry Job Sink}
    (reply : entry.reply = some (.took runId)) :
    Agrees (past ++ [entry])
      { system with cell := .running, runs := system.runs.insert runId (.running job) } := by
  obtain ⟨untaken, unrun⟩ := agrees.fresh job pending
  have alone : ∀ other otherJob,
      (system.runs.insert runId (.running job)).lookup other = some (.running otherJob) →
        other = runId := by
    intro other otherJob running
    by_contra different
    rw [AList.lookup_insert_ne different] at running
    exact unrun other otherJob running
  have live : .cancelled ∉ events past := by
    intro member
    have cancelled := agrees.cancelled.mpr member
    rw [pending] at cancelled
    cases cancelled
  constructor
  · rw [events_append, reply]
    simpa using live
  · rw [takers_append, untaken, reply]
    exact Nat.le_refl 1
  · intro _ held
    cases held
  · exact fun _ _ _ => .inl rfl
  · intro left right leftJob rightJob onLeft onRight
    exact (alone left leftJob onLeft).trans (alone right rightJob onRight).symm
  · intro _ held
    cases held
  · intro other error member
    rw [events_append, reply] at member
    rcases List.mem_append.mp member with old | new
    · have impossible := agrees.stored other error old
      rw [pending] at impossible
      rcases impossible with held | held <;> cases held
    · simp at new
  · exact agrees.waiters_append (Nat.le_refl _) entry
  · refine agrees.dead_append ?_
    intro cancelled
    rw [pending] at cancelled
    cases cancelled

/-- A run that ends without touching the cell keeps the agreement. -/
theorem Agrees.runEnds {past : List (Entry Job Sink)} {system : TaskSystem Job Sink}
    (agrees : Agrees past system) (runId : Nat) {entry : Entry Job Sink}
    (reply : entry.reply = none) :
    Agrees (past ++ [entry]) { system with runs := system.runs.insert runId .done } := by
  have same : events (past ++ [entry]) = events past := by
    rw [events_append, reply]
    exact List.append_nil _
  have takes : takers (past ++ [entry]) = takers past := by
    rw [takers, takers, same]
  constructor
  · rw [same]
    exact agrees.cancelled
  · rw [takes]
    exact agrees.taken
  · intro job pending
    rw [takes]
    obtain ⟨untaken, unrun⟩ := agrees.fresh job pending
    exact ⟨untaken, fun other otherJob running =>
      unrun other otherJob (running_of_insert_done running).1⟩
  · exact fun other job running => agrees.busy other job (running_of_insert_done running).1
  · exact fun left right leftJob rightJob onLeft onRight =>
      agrees.single left right leftJob rightJob (running_of_insert_done onLeft).1
        (running_of_insert_done onRight).1
  · rw [same]
    exact agrees.failed
  · rw [same]
    exact agrees.stored
  · exact agrees.waiters_append (Nat.le_refl _) entry
  · refine agrees.dead_append fun _ => ?_
    unfold Dead
    rw [reply]
    trivial

/-- Storing a result keeps the agreement. -/
theorem Agrees.stores {past : List (Entry Job Sink)} {system : TaskSystem Job Sink}
    (agrees : Agrees past system) {runId : Nat} {job : Job}
    (running : system.runs.lookup runId = some (.running job)) (kept : system.cell ≠ .cancelled)
    {result : Except Error Sink} {entry : Entry Job Sink}
    (reply : entry.reply = some (.stored runId result)) :
    Agrees (past ++ [entry])
      { system with
        cell := system.cell.complete result
        runs := system.runs.insert runId .done } := by
  have busy : system.cell = .running := (agrees.busy runId job running).resolve_right kept
  have live : .cancelled ∉ events past := fun member => kept (agrees.cancelled.mpr member)
  have nobody : ∀ other otherJob,
      (system.runs.insert runId .done).lookup other ≠ some (.running otherJob) := by
    intro other otherJob held
    obtain ⟨held, different⟩ := running_of_insert_done held
    exact different (agrees.single other runId otherJob job held running)
  have new : .stored runId result ∈ events (past ++ [entry]) := by
    rw [events_append, reply]
    exact List.mem_append_right _ (List.mem_singleton_self _)
  rw [busy]
  constructor
  · rw [events_append, reply]
    cases result <;> simpa [FailureTaskState.complete] using live
  · rw [takers_append, reply]
    exact (Nat.le_of_eq (congrArg List.length (List.append_nil _))).trans agrees.taken
  · intro _ held
    cases result <;> cases held
  · exact fun other otherJob held => absurd held (nobody other otherJob)
  · exact fun left _ leftJob _ held => absurd held (nobody left leftJob)
  · intro error held
    cases result with
    | ok sink => cases held
    | error cause =>
        cases held
        exact ⟨runId, new⟩
  · intro other error member
    rw [events_append, reply] at member
    rcases List.mem_append.mp member with old | last
    · have impossible := agrees.stored other error old
      rw [busy] at impossible
      rcases impossible with held | held <;> cases held
    · cases List.mem_singleton.mp last
      exact .inl rfl
  · exact agrees.waiters_append (Nat.le_refl _) entry
  · exact agrees.dead_append fun cancelled => absurd cancelled kept

/-- A cancel keeps the agreement. -/
theorem Agrees.cancels {past : List (Entry Job Sink)} {system : TaskSystem Job Sink}
    (agrees : Agrees past system) {entry : Entry Job Sink} (reply : entry.reply = some .cancelled) :
    Agrees (past ++ [entry]) { system with cell := .cancelled } := by
  constructor
  · rw [events_append, reply]
    simp
  · rw [takers_append, reply]
    exact (Nat.le_of_eq (congrArg List.length (List.append_nil _))).trans agrees.taken
  · intro _ held
    cases held
  · exact fun _ _ _ => .inr rfl
  · exact agrees.single
  · intro _ held
    cases held
  · exact fun _ _ _ => .inr rfl
  · exact agrees.waiters_append (Nat.le_refl _) entry
  · refine agrees.dead_append fun _ => ?_
    unfold Dead
    rw [reply]
    trivial

/-- Every step keeps the agreement. -/
theorem agrees_step {past : List (Entry Job Sink)} {system : TaskSystem Job Sink}
    (agrees : Agrees past system) (action : TaskAction Sink) :
    Agrees (past ++ [Runs.answer step system action]) (system.step action).2 := by
  have effect := step_effect (fun waiterId waiter present =>
    (agrees.waiters waiterId waiter present).begun) action
  unfold Runs.answer
  generalize (system.step action).1 = reply at effect ⊢
  generalize (system.step action).2 = next at effect ⊢
  cases effect with
  | passed elapsed =>
      exact agrees.silent rfl rfl rfl (agrees.waiters_append (Nat.le_add_right _ _) _)
  | took runId job absent pending => exact agrees.took pending rfl
  | missed runId absent => exact agrees.runEnds runId rfl
  | stored runId job finalized running kept => exact agrees.stores running kept rfl
  | discarded runId finalized cancelled => exact agrees.runEnds runId rfl
  | cancelled => exact agrees.cancels rfl
  | called waiterId timeout absent =>
      refine agrees.aside trivial rfl rfl
        ((agrees.waiters_append (Nat.le_refl _) _).insert ?_) (fun _ => trivial)
      refine ⟨Nat.le_refl _, ?_, fun _ phase => (by cases phase),
        fun _ _ phase => (by cases phase), fun _ _ phase => (by cases phase)⟩
      rw [events_append]
      exact List.mem_append_right _ (List.mem_singleton_self _)
  | looked _ waiterId waiter look present effect => exact agrees.looked present effect rfl
  | measured waiterId waiter sink present holding =>
      have waiting := (agrees.waiters waiterId waiter present).append (Nat.le_refl _)
        ⟨system, .measure waiterId, none,
          system.move waiterId waiter (.measured sink (waiter.remaining system.clock))⟩
      refine agrees.silent rfl rfl rfl (agrees.waiters_move _
        ⟨waiting.begun, waiting.called, fun _ phase => (by cases phase), ?_,
          fun _ _ phase => (by cases phase)⟩)
      intro seen remaining phase
      cases phase
      refine ⟨waiting.holding sink holding, ?_⟩
      have begun := waiting.begun
      unfold Waiter.remaining
      dsimp only [Waiter.enter]
      omega
  | entered waiterId waiter sink remaining present measured =>
      have waiting := (agrees.waiters waiterId waiter present).append (Nat.le_refl _)
        ⟨system, .enterSink waiterId, none,
          system.move waiterId waiter (.polling sink (system.clock + remaining))⟩
      refine agrees.silent rfl rfl rfl (agrees.waiters_move _
        ⟨waiting.begun, waiting.called, fun _ phase => (by cases phase),
          fun _ _ phase => (by cases phase), ?_⟩)
      intro seen deadline phase
      cases phase
      exact waiting.measured sink remaining measured
  | reported waiterId waiter sink deadline idle present polling late =>
      have waiting := (agrees.waiters waiterId waiter present).append (Nat.le_refl _)
        ⟨system, .poll waiterId idle, some (.returned waiterId (.ok idle)),
          system.move waiterId waiter .returned⟩
      exact agrees.aside trivial rfl rfl (agrees.waiters_move _ (waiting.plain (.inl rfl)))
        (fun _ => trivial)
  | idled =>
      exact agrees.silent rfl rfl rfl (agrees.waiters_append (Nat.le_refl _) _)

/-! ## Answers -/

/-- How a waiter comes to its answer. -/
inductive AnswerEffect (system : TaskSystem Job Sink) (action : TaskAction Sink)
    (waiterId : Nat) : Except Error Bool → Prop
  | looked (waiter : Waiter Sink) (answer : Except Error Bool)
      (present : system.waiters.lookup waiterId = some waiter)
      (effect : LookEffect system.cell system.clock waiter (.answers answer)) :
      AnswerEffect system action waiterId answer
  | reported (waiter : Waiter Sink) (sink : Sink) (deadline : Nat) (idle : Bool)
      (present : system.waiters.lookup waiterId = some waiter)
      (polling : waiter.phase = .polling sink deadline)
      (polled : action = .poll waiterId idle)
      (late : idle = false → deadline ≤ system.clock) :
      AnswerEffect system action waiterId (.ok idle)

/-- Every answer of a waiter comes from the cell or from the sink. -/
theorem answer_effect {past : List (Entry Job Sink)} {system : TaskSystem Job Sink}
    (agrees : Agrees past system) {action : TaskAction Sink} {waiterId : Nat}
    {answer : Except Error Bool}
    (returned : (system.step action).1 = some (.returned waiterId answer)) :
    AnswerEffect system action waiterId answer := by
  have effect := step_effect (fun waiterId waiter present =>
    (agrees.waiters waiterId waiter present).begun) action
  rw [returned] at effect
  generalize (system.step action).2 = next at effect
  generalize replied : some (TaskEvent.returned waiterId answer) = reply at effect
  cases effect with
  | looked _ otherId waiter look present effect =>
      cases look with
      | answers other =>
          cases replied
          exact .looked waiter answer present effect
      | takes => cases replied
      | sleeps => cases replied
  | reported otherId waiter sink deadline idle present polling late =>
      cases replied
      exact .reported waiter sink deadline idle present polling rfl late
  | passed => cases replied
  | took => cases replied
  | missed => cases replied
  | stored => cases replied
  | discarded => cases replied
  | cancelled => cases replied
  | called => cases replied
  | measured => cases replied
  | entered => cases replied
  | idled => cases replied

/-- A sink that was seen was seen before the first cancel. -/
theorem sawSink_beforeCancel {past : List (Entry Job Sink)}
    (dead : past.Pairwise fun earlier later => earlier.reply = some .cancelled → Dead later)
    {waiterId : Nat} {sink : Sink} (saw : .sawSink waiterId sink ∈ events past) :
    .sawSink waiterId sink ∈ events (beforeCancel past) := by
  induction past with
  | nil => exact saw
  | cons entry past ih =>
      obtain ⟨first, rest⟩ := List.pairwise_cons.mp dead
      obtain ⟨seen, member, reply⟩ := List.mem_filterMap.mp saw
      have undead : ¬ Dead seen := by
        unfold Dead
        rw [reply]
        exact not_false
      have uncancelled : entry.reply ≠ some .cancelled := by
        intro cancels
        rcases List.mem_cons.mp member with rfl | later
        · rw [cancels] at reply
          cases reply
        · exact undead (first seen later cancels)
      have kept : beforeCancel (entry :: past) = entry :: beforeCancel past := by
        unfold beforeCancel
        rw [List.takeWhile_cons_of_pos]
        split
        case h_1 cancels => exact absurd cancels uncancelled
        case h_2 => rfl
      rw [kept]
      rcases List.mem_cons.mp member with rfl | later
      · exact List.mem_filterMap.mpr ⟨seen, List.mem_cons_self, reply⟩
      · have found := ih rest (List.mem_filterMap.mpr ⟨seen, later, reply⟩)
        obtain ⟨entry', member', reply'⟩ := List.mem_filterMap.mp found
        exact List.mem_filterMap.mpr ⟨entry', List.mem_cons_of_mem _ member', reply'⟩

/-- A cancelled cell stays cancelled, and no step after it is one of a live task. -/
theorem step_of_cancelled {past : List (Entry Job Sink)} {system : TaskSystem Job Sink}
    (agrees : Agrees past system) (cancelled : system.cell = .cancelled)
    (action : TaskAction Sink) :
    (system.step action).2.cell = .cancelled ∧ Dead (Runs.answer step system action) := by
  have next := agrees_step agrees action
  have known : .cancelled ∈ events (past ++ [Runs.answer step system action]) :=
    mem_events_append (agrees.cancelled.mp cancelled) _
  refine ⟨next.cancelled.mpr known, ?_⟩
  obtain ⟨entry, member, cancels⟩ := List.mem_filterMap.mp (agrees.cancelled.mp cancelled)
  exact (List.pairwise_append.mp next.dead).2.2 entry member _ (List.mem_singleton_self _) cancels

/-! ## The protocol -/

/-- What holds after every run, and of the next step. -/
structure ProtocolSound (past : List (Entry Job Sink)) (system : TaskSystem Job Sink) : Prop where
  takenOnce : (takers past).length ≤ 1
  untakenAfterCancel : .cancelled ∈ events past →
    ∀ action runId, (system.step action).1 ≠ some (.took runId)
  staysCancelled : .cancelled ∈ events past → ∀ action, (system.step action).2.cell = .cancelled
  okAfterCancel : .cancelled ∈ events past → ∀ action waiterId idle,
    (system.step action).1 = some (.returned waiterId (.ok idle)) →
      ∃ sink, .sawSink waiterId sink ∈ events (beforeCancel past)
  errors : ∀ action waiterId error,
    (system.step action).1 = some (.returned waiterId (.error error)) →
      error = taskNotFound ∧ .cancelled ∈ events past ∨
        .cancelled ∉ events past ∧ ∃ runId, .stored runId (.error error) ∈ events past
  failureShown : ∀ runId error, .stored runId (.error error) ∈ events past →
    .cancelled ∉ events past → ∀ waiterId waiter, system.waiters.lookup waiterId = some waiter →
      (waiter.phase = .called →
        (system.step (.look waiterId)).1 = some (.returned waiterId (.error error))) ∧
      ∀ timedOut, waiter.phase = .sleeping →
        (timedOut = true → waiter.started + waiter.timeout ≤ system.clock) →
          (system.step (.wake waiterId timedOut)).1 = some (.returned waiterId (.error error))
  idle : ∀ action waiterId, (system.step action).1 = some (.returned waiterId (.ok true)) →
    action = .poll waiterId true ∧ ∃ sink, .sawSink waiterId sink ∈ events past
  late : ∀ action waiterId, (system.step action).1 = some (.returned waiterId (.ok false)) →
    ∃ started timeout, .called waiterId started timeout ∈ events past ∧
      started + timeout ≤ system.clock

/-- A cell that holds a failure is not cancelled, and the failure was stored. -/
theorem cell_of_stored {past : List (Entry Job Sink)} {system : TaskSystem Job Sink}
    (agrees : Agrees past system) {runId : Nat} {error : Error}
    (stored : .stored runId (.error error) ∈ events past) (live : .cancelled ∉ events past) :
    system.cell = .failed error :=
  (agrees.stored runId error stored).resolve_right fun cancelled =>
    live (agrees.cancelled.mp cancelled)

/-- A waiter that is awake shows the stored failure. -/
theorem shows_failure {system : TaskSystem Job Sink}
    {error : Error} (failed : system.cell = .failed error)
    {waiterId : Nat} {waiter : Waiter Sink}
    (present : system.waiters.lookup waiterId = some waiter) :
    (waiter.phase = .called →
      (system.step (.look waiterId)).1 = some (.returned waiterId (.error error))) ∧
    ∀ timedOut, waiter.phase = .sleeping →
      (timedOut = true → waiter.started + waiter.timeout ≤ system.clock) →
        (system.step (.wake waiterId timedOut)).1 = some (.returned waiterId (.error error)) := by
  constructor
  · intro called
    simp only [step, waiterStepAt, present, called, waiterStep, failed, Engine.look, looked]
  · intro timedOut sleeping onTime
    have allowed : ¬ (timedOut = true ∧ system.clock < waiter.started + waiter.timeout) :=
      fun both => absurd (onTime both.1) (Nat.not_le.mpr both.2)
    have finished : ¬ (timedOut = true ∧ system.cell.unfinished = true) := by
      rw [failed]
      exact fun both => Bool.false_ne_true both.2
    simp only [step, waiterStepAt, present, sleeping, waiterStep, wakeStep, if_neg allowed,
      lookAfterSleep, if_neg finished]
    simp only [failed, Engine.look, looked]

/-- The job of a failure task is taken at most once and never after a cancel, a cancelled task stays
cancelled, and every waiter answers with what the task and the sink came to. -/
theorem protocol_sound (job : Job) (actions : List (TaskAction Sink)) :
    ProtocolSound (Runs.answered step (pending job) actions)
      (Runs.final step (pending job) actions) := by
  have agrees := Runs.answered_preserves Agrees
    (fun _ _ action agrees => agrees_step agrees action) actions (pending_agrees job)
  rw [List.nil_append] at agrees
  generalize Runs.answered step (pending job) actions = past at agrees ⊢
  generalize Runs.final step (pending job) actions = system at agrees ⊢
  constructor
  · exact agrees.taken
  · intro cancelled action runId took
    have dead := (step_of_cancelled agrees (agrees.cancelled.mpr cancelled) action).2
    unfold Dead Runs.answer at dead
    rw [took] at dead
    exact dead
  · exact fun cancelled action =>
      (step_of_cancelled agrees (agrees.cancelled.mpr cancelled) action).1
  · intro cancelled action waiterId idle returned
    have cell := agrees.cancelled.mpr cancelled
    generalize answered : Except.ok (ε := Error) idle = answer at returned
    cases answer_effect agrees returned with
    | looked waiter _ present effect =>
        cases effect with
        | notFound => cases answered
        | failed => cases answered
        | late unfinished =>
            rw [cell] at unfinished
            cases unfinished
    | reported waiter sink deadline _ present polling =>
        exact ⟨sink, sawSink_beforeCancel agrees.dead
          ((agrees.waiters waiterId waiter present).polling sink deadline polling).1⟩
  · intro action waiterId error returned
    generalize answered : Except.error (α := Bool) error = answer at returned
    cases answer_effect agrees returned with
    | looked waiter _ present effect =>
        cases effect with
        | notFound cancelled =>
            cases answered
            exact .inl ⟨rfl, agrees.cancelled.mp cancelled⟩
        | failed _ failed =>
            cases answered
            refine .inr ⟨fun member => ?_, agrees.failed error failed⟩
            have cancelled := agrees.cancelled.mpr member
            rw [failed] at cancelled
            cases cancelled
        | late => cases answered
    | reported => cases answered
  · intro runId error stored live waiterId waiter present
    exact shows_failure (cell_of_stored agrees stored live) present
  · intro action waiterId returned
    generalize answered : Except.ok (ε := Error) true = answer at returned
    cases answer_effect agrees returned with
    | looked waiter _ present effect => cases effect <;> cases answered
    | reported waiter sink deadline _ present polling polled =>
        cases answered
        exact ⟨polled, sink,
          ((agrees.waiters waiterId waiter present).polling sink deadline polling).1⟩
  · intro action waiterId returned
    generalize answered : Except.ok (ε := Error) false = answer at returned
    cases answer_effect agrees returned with
    | looked waiter _ present effect =>
        have waiting := agrees.waiters waiterId waiter present
        cases effect with
        | notFound => cases answered
        | failed => cases answered
        | late _ expired => exact ⟨waiter.started, waiter.timeout, waiting.called, expired⟩
    | reported waiter sink deadline _ present polling _ late =>
        cases answered
        have waiting := agrees.waiters waiterId waiter present
        exact ⟨waiter.started, waiter.timeout, waiting.called,
          (waiting.polling sink deadline polling).2.trans (late rfl)⟩

/-- A task that failed and was cancelled afterwards answers that it does not exist. -/
theorem cancel_hides_failure :
    let run : List (Entry Unit Unit) := Runs.answered step (pending ())
      [.takeJob 0, .complete 0 (some (.error backgroundUnavailable)), .cancel, .call 0 10, .look 0]
    run.map (·.reply) =
      [some (.took 0), some (.stored 0 (.error backgroundUnavailable)), some .cancelled,
        some (.called 0 0 10), some (.returned 0 (.error taskNotFound))] ∧
      taskNotFound ≠ backgroundUnavailable := by
  exact ⟨rfl, by decide⟩

end TaskSystem
end Engine
end ReproItSdk
