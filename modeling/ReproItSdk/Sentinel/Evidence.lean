import ReproItSdk.Sentinel.Controller

/-! # What a clean trace says

The transcript of a run tells which events were drained while an operation was tracked and who owned
them.  An operation that is not marked incomplete had a healthy tracer all the time, and every event
had one owner.

Main results:

- Theorem {lit}`applyEvents_progress`: what draining events does to one operation.
- Theorem {lit}`step_progress`: what any call does to an operation that stays tracked.
- Theorem {lit}`trace_sound`: clean traces of every run, and what becomes of incomplete operations.
-/

namespace ReproItSdk
namespace Sentinel

/-! ## Events of one drain -/

/-- Every event but an exit has exactly one owner. -/
def Owned (observations : KeyedTable Nat ActiveObservation) (events : List Event) : Prop :=
  ∀ event ∈ events, event.kind ≠ .exit → ∃ owner, owners observations event = [owner]

/-- Number of events that an observation of one operation owns alone. -/
def ownedCount (observations : KeyedTable Nat ActiveObservation) (operationHandle : Nat)
    (events : List Event) : Nat :=
  events.countP fun event =>
    decide (event.kind ≠ .exit ∧ owners observations event = [operationHandle])

/-- The counters of an operation are {lit}`u64` values. -/
def ActiveOperation.Bounded (operation : ActiveOperation) : Prop :=
  operation.relevantEvents ≤ u64Max ∧ operation.ownedEvents ≤ u64Max

/-- What an operation that is still complete went through while events were drained. -/
structure Progress (observations : KeyedTable Nat ActiveObservation) (operationHandle : Nat)
    (events : List Event) (operation next : ActiveOperation) : Prop where
  complete : operation.incomplete = false
  start : next.startSequence = operation.startSequence
  owned : Owned observations events
  relevantEvents : next.relevantEvents =
    saturatingAdd operation.relevantEvents (ownedCount observations operationHandle events)
  ownedEvents : next.ownedEvents =
    saturatingAdd operation.ownedEvents (ownedCount observations operationHandle events)

/-- Saturating additions add up. -/
theorem saturatingAdd_saturatingAdd (start first second : Nat) :
    saturatingAdd (saturatingAdd start first) second = saturatingAdd start (first + second) := by
  unfold saturatingAdd
  omega

/-- Adding nothing to a counter. -/
theorem saturatingAdd_zero {counter : Nat} (bounded : counter ≤ u64Max) :
    saturatingAdd counter 0 = counter := by
  unfold saturatingAdd
  omega

/-- An operation that nothing happened to. -/
theorem Progress.refl (observations : KeyedTable Nat ActiveObservation) (operationHandle : Nat)
    {events : List Event} {operation : ActiveOperation} (bounded : operation.Bounded)
    (complete : operation.incomplete = false) (owned : Owned observations events)
    (none : ownedCount observations operationHandle events = 0) :
    Progress observations operationHandle events operation operation := by
  refine ⟨complete, rfl, owned, ?_, ?_⟩
  · rw [none, saturatingAdd_zero bounded.1]
  · rw [none, saturatingAdd_zero bounded.2]

/-- More events after the first. -/
theorem Progress.cons {observations : KeyedTable Nat ActiveObservation} {operationHandle : Nat}
    {event : Event} {events : List Event} {operation middle next : ActiveOperation}
    (first : Progress observations operationHandle [event] operation middle)
    (rest : Progress observations operationHandle events middle next) :
    Progress observations operationHandle (event :: events) operation next := by
  have count : ownedCount observations operationHandle (event :: events) =
      ownedCount observations operationHandle [event] +
        ownedCount observations operationHandle events := by
    unfold ownedCount
    rw [List.countP_cons, List.countP_singleton, Nat.add_comm]
  refine ⟨first.complete, rest.start.trans first.start, ?_, ?_, ?_⟩
  · intro other member
    rcases List.mem_cons.mp member with rfl | later
    · exact first.owned other (List.mem_singleton_self _)
    · exact rest.owned other later
  · rw [rest.relevantEvents, first.relevantEvents, saturatingAdd_saturatingAdd, count]
  · rw [rest.ownedEvents, first.ownedEvents, saturatingAdd_saturatingAdd, count]

namespace Controller

/-! ## Draining -/

/-- Attributing events changes no observation and no tracer. -/
theorem applyEvents_frame (events : List Event) (controller : Controller) :
    (events.foldl applyEvent controller).activeObservations = controller.activeObservations ∧
      (events.foldl applyEvent controller).installed = controller.installed := by
  induction events generalizing controller with
  | nil => exact ⟨rfl, rfl⟩
  | cons event events ih =>
      obtain ⟨observations, installed⟩ := ih (controller.applyEvent event)
      rw [List.foldl_cons, observations, installed]
      unfold applyEvent
      split
      · exact ⟨rfl, rfl⟩
      · split
        · split <;> exact ⟨rfl, rfl⟩
        · exact ⟨rfl, rfl⟩

/-- What one event does to an operation that is complete afterwards. -/
theorem applyEvent_progress {controller : Controller} {event : Event} {operationHandle : Nat}
    {next : ActiveOperation}
    (bounded : KeyedTable.All (fun _ operation => operation.Bounded) controller.activeOperations)
    (tracked : (controller.applyEvent event).activeOperations.lookup operationHandle = some next)
    (complete : next.incomplete = false) :
    ∃ operation, controller.activeOperations.lookup operationHandle = some operation ∧
      Progress controller.activeObservations operationHandle [event] operation next := by
  have unowned {observations : KeyedTable Nat ActiveObservation}
      (other : ¬ (event.kind ≠ .exit ∧ owners observations event = [operationHandle])) :
      ownedCount observations operationHandle [event] = 0 := by
    unfold ownedCount
    rw [List.countP_singleton, if_neg]
    simpa using other
  unfold applyEvent at tracked
  split at tracked
  case isTrue exits =>
      refine ⟨next, tracked, .refl _ _ (bounded _ _ tracked) complete ?_
        (unowned fun both => both.1 exits)⟩
      intro other member relevant
      rw [List.mem_singleton.mp member] at relevant
      exact absurd exits relevant
  case isFalse relevant =>
      split at tracked
      case h_1 owner single =>
          have owned : Owned controller.activeObservations [event] := by
            intro other member _
            rw [List.mem_singleton.mp member]
            exact ⟨owner, single⟩
          have untouched (different : operationHandle ≠ owner) :
              ownedCount controller.activeObservations operationHandle [event] = 0 := by
            refine unowned fun both => different ?_
            rw [single] at both
            exact (List.cons.inj both.2).1.symm
          split at tracked
          case h_1 absent =>
              refine ⟨next, tracked, .refl _ _ (bounded _ _ tracked) complete owned
                (untouched ?_)⟩
              rintro rfl
              rw [absent] at tracked
              cases tracked
          case h_2 operation present =>
              by_cases same : operationHandle = owner
              · subst same
                rw [AList.lookup_insert] at tracked
                cases tracked
                have one : ownedCount controller.activeObservations operationHandle [event] = 1 := by
                  unfold ownedCount
                  rw [List.countP_singleton, if_pos]
                  simpa using ⟨relevant, single⟩
                exact ⟨operation, present, complete, rfl, owned, by rw [one]; rfl,
                  by rw [one]; rfl⟩
              · rw [AList.lookup_insert_ne same] at tracked
                exact ⟨next, tracked, .refl _ _ (bounded _ _ tracked) complete owned
                  (untouched same)⟩
      case h_2 =>
          rw [KeyedTable.lookup_mapValues, Option.map_eq_some_iff] at tracked
          obtain ⟨operation, -, rfl⟩ := tracked
          cases complete

/-- The counters of all operations are {lit}`u64` values. -/
def AllBounded (controller : Controller) : Prop :=
  KeyedTable.All (fun _ operation => operation.Bounded) controller.activeOperations

/-- Changing every operation keeps the counters bounded. -/
theorem AllBounded.mapValues {controller : Controller} (bounded : controller.AllBounded)
    {change : ActiveOperation → ActiveOperation}
    (keeps : ∀ operation : ActiveOperation, operation.Bounded → (change operation).Bounded) :
    KeyedTable.All (fun _ operation => operation.Bounded)
      (KeyedTable.mapValues (fun _ operation => change operation) controller.activeOperations) := by
  intro handle next tracked
  rw [KeyedTable.lookup_mapValues, Option.map_eq_some_iff] at tracked
  obtain ⟨operation, present, rfl⟩ := tracked
  exact keeps operation (bounded handle operation present)

/-- Marking keeps the counters bounded. -/
theorem AllBounded.markAllIncomplete {controller : Controller}
    (bounded : controller.AllBounded) : controller.markAllIncomplete.AllBounded :=
  bounded.mapValues fun (operation : ActiveOperation) (held : operation.Bounded) =>
    (held : ActiveOperation.Bounded { operation with incomplete := true })

/-- One event keeps the counters bounded. -/
theorem AllBounded.applyEvent {controller : Controller} (bounded : controller.AllBounded)
    (event : Event) : (controller.applyEvent event).AllBounded := by
  unfold Controller.applyEvent
  split
  case isTrue => exact bounded
  case isFalse =>
      split
      case h_1 owner single =>
          split
          case h_1 => exact bounded
          case h_2 operation present =>
              exact bounded.insert ⟨Nat.min_le_right _ _, Nat.min_le_right _ _⟩
      case h_2 =>
          refine bounded.mapValues fun operation held => ?_
          exact ⟨Nat.min_le_right _ _, held.2⟩

/-- Events keep the counters bounded. -/
theorem AllBounded.applyEvents (events : List Event) {controller : Controller}
    (bounded : controller.AllBounded) :
    (events.foldl Controller.applyEvent controller).AllBounded := by
  induction events generalizing controller with
  | nil => exact bounded
  | cons event events ih => exact ih (bounded.applyEvent event)

/-- Draining keeps the counters bounded. -/
theorem AllBounded.drain {controller : Controller} (bounded : controller.AllBounded)
    (readings : Readings) : (controller.drain readings).AllBounded := by
  unfold Controller.drain
  split
  · exact bounded.markAllIncomplete
  · dsimp only
    split
    · exact bounded.applyEvents readings.events
    · exact (bounded.applyEvents readings.events).markAllIncomplete

/-- What draining events does to an operation that is complete afterwards. -/
theorem applyEvents_progress {operationHandle : Nat} {next : ActiveOperation}
    (complete : next.incomplete = false) (events : List Event) :
    ∀ {controller : Controller}, controller.AllBounded →
      (events.foldl applyEvent controller).activeOperations.lookup operationHandle = some next →
      ∃ operation, controller.activeOperations.lookup operationHandle = some operation ∧
        Progress controller.activeObservations operationHandle events operation next := by
  induction events with
  | nil =>
      intro controller bounded tracked
      refine ⟨next, tracked, .refl _ _ (bounded _ _ tracked) complete ?_ rfl⟩
      intro event member
      cases member
  | cons event events ih =>
      intro controller bounded tracked
      rw [List.foldl_cons] at tracked
      obtain ⟨middle, present, rest⟩ := ih (bounded.applyEvent event) tracked
      obtain ⟨operation, held, first⟩ :=
        applyEvent_progress bounded present rest.complete
      have same : (controller.applyEvent event).activeObservations =
          controller.activeObservations := (applyEvents_frame [event] controller).1
      rw [same] at rest
      exact ⟨operation, held, first.cons rest⟩

/-- An operation that is complete after all were marked is none. -/
theorem not_complete_of_marked {controller : Controller} {operationHandle : Nat}
    {next : ActiveOperation}
    (tracked : controller.markAllIncomplete.activeOperations.lookup operationHandle = some next) :
    next.incomplete = true := by
  unfold markAllIncomplete at tracked
  rw [KeyedTable.lookup_mapValues, Option.map_eq_some_iff] at tracked
  obtain ⟨operation, -, rfl⟩ := tracked
  rfl

/-- A drain of a healthy tracer whose events all had one owner. -/
structure CleanDrain (controller : Controller) (readings : Readings) : Prop where
  installed : controller.installed = true
  healthy : readings.healthy = true
  owned : Owned controller.activeObservations readings.events

/-- What a drain does to an operation that is complete afterwards. -/
theorem drain_progress {controller : Controller} {readings : Readings} {operationHandle : Nat}
    {next : ActiveOperation} (bounded : controller.AllBounded)
    (tracked : (controller.drain readings).activeOperations.lookup operationHandle = some next)
    (complete : next.incomplete = false) :
    CleanDrain controller readings ∧ ∃ operation,
      controller.activeOperations.lookup operationHandle = some operation ∧
        Progress controller.activeObservations operationHandle readings.events operation next := by
  unfold drain at tracked
  split at tracked
  case isTrue =>
      rw [not_complete_of_marked tracked] at complete
      cases complete
  case isFalse installed =>
      dsimp only at tracked
      split at tracked
      case isTrue healthy =>
          obtain ⟨operation, present, progress⟩ :=
            applyEvents_progress complete readings.events bounded tracked
          exact ⟨⟨not_not.mp installed, healthy, progress.owned⟩, operation, present, progress⟩
      case isFalse =>
          rw [not_complete_of_marked tracked] at complete
          cases complete

/-- Draining changes no observation and no tracer. -/
theorem drain_frame (controller : Controller) (readings : Readings) :
    (controller.drain readings).activeObservations = controller.activeObservations ∧
      (controller.drain readings).installed = controller.installed := by
  unfold drain
  split
  · exact ⟨rfl, rfl⟩
  · dsimp only
    split
    · exact applyEvents_frame readings.events controller
    · exact applyEvents_frame readings.events controller

end Controller

/-! ## One call -/

/-- What a call reads from the tracer. -/
def Call.readings? : Call → Option Readings
  | .engineOpened _ | .engineClosed => none
  | .operationStarted _ readings | .operationFinished _ readings | .operationRemoved _ readings
  | .observationOpened _ _ _ readings | .observationDispatched _ _ readings
  | .observationFinished _ readings => some readings

namespace Controller

/-- Number of events that a call drained and an observation of one operation owned alone. -/
def ownedDuring (controller : Controller) (operationHandle : Nat) (call : Call) : Nat :=
  match call.readings? with
  | none => 0
  | some readings =>
      ownedCount controller.activeObservations operationHandle readings.events

/-- A call that is nothing but a clean drain to an operation. -/
structure Kept (controller : Controller) (operationHandle : Nat) (call : Call)
    (operation next : ActiveOperation) : Prop where
  other : ∀ readings, call ≠ .operationStarted operationHandle readings
  drained : ∀ readings, call.readings? = some readings → CleanDrain controller readings
  complete : operation.incomplete = false
  start : next.startSequence = operation.startSequence
  relevantEvents : next.relevantEvents =
    saturatingAdd operation.relevantEvents (controller.ownedDuring operationHandle call)
  ownedEvents : next.ownedEvents =
    saturatingAdd operation.ownedEvents (controller.ownedDuring operationHandle call)

/-- What a call does to an operation that is complete afterwards. -/
inductive StepProgress (controller : Controller) (operationHandle : Nat) (call : Call)
    (next : ActiveOperation) : Prop
  | started (readings : Readings) (starts : call = .operationStarted operationHandle readings)
      (installed : controller.installed = true) (healthy : readings.healthyAgain = true)
      (counters : next = ⟨readings.sequence, 0, 0, false⟩) :
      StepProgress controller operationHandle call next
  | kept (operation : ActiveOperation)
      (present : controller.activeOperations.lookup operationHandle = some operation)
      (kept : Kept controller operationHandle call operation next) :
      StepProgress controller operationHandle call next

/-- A call keeps an operation that its drain left complete. -/
theorem kept_of_drain {controller : Controller} {readings : Readings} {operationHandle : Nat}
    {next : ActiveOperation} {call : Call} (bounded : controller.AllBounded)
    (reads : call.readings? = some readings)
    (other : ∀ readings, call ≠ .operationStarted operationHandle readings)
    (tracked : (controller.drain readings).activeOperations.lookup operationHandle = some next)
    (complete : next.incomplete = false) :
    StepProgress controller operationHandle call next := by
  obtain ⟨drained, operation, present, progress⟩ := drain_progress bounded tracked complete
  refine .kept operation present ⟨other, ?_, progress.complete, progress.start, ?_, ?_⟩
  · intro others same
    rw [reads] at same
    cases same
    exact drained
  · rw [ownedDuring, reads]
    exact progress.relevantEvents
  · rw [ownedDuring, reads]
    exact progress.ownedEvents

/-- What any call does to an operation that is complete afterwards. -/
theorem step_progress {controller : Controller} {call : Call} {operationHandle : Nat}
    {next : ActiveOperation} (bounded : controller.AllBounded)
    (tracked : (controller.step call).2.activeOperations.lookup operationHandle = some next)
    (complete : next.incomplete = false) :
    StepProgress controller operationHandle call next := by
  have unchanged (reads : call.readings? = none)
      (other : ∀ readings, call ≠ .operationStarted operationHandle readings)
      (held : controller.activeOperations.lookup operationHandle = some next) :
      StepProgress controller operationHandle call next := by
    have bound := bounded _ _ held
    refine .kept next held ⟨other, ?_, complete, rfl, ?_, ?_⟩
    · intro readings same
      rw [reads] at same
      cases same
    · rw [ownedDuring, reads, saturatingAdd_zero bound.1]
    · rw [ownedDuring, reads, saturatingAdd_zero bound.2]
  have unmarked {marked : Controller}
      (held : marked.markAllIncomplete.activeOperations.lookup operationHandle = some next) :
      StepProgress controller operationHandle call next := by
    rw [not_complete_of_marked held] at complete
    cases complete
  cases call with
  | engineOpened installs => exact unchanged rfl (fun _ => Call.noConfusion) tracked
  | engineClosed =>
      change controller.engineClosed.activeOperations.lookup operationHandle = some next at tracked
      unfold engineClosed at tracked
      split at tracked
      · cases tracked
      · exact unchanged rfl (fun _ => Call.noConfusion) tracked
  | operationStarted handle readings =>
      change (controller.operationStarted handle readings).activeOperations.lookup operationHandle =
        some next at tracked
      unfold operationStarted at tracked
      dsimp only at tracked
      split at tracked
      case isTrue => exact unmarked tracked
      case isFalse =>
          by_cases same : operationHandle = handle
          · subst same
            rw [AList.lookup_insert, (drain_frame controller readings).2] at tracked
            cases tracked
            simp only [Bool.not_eq_false', Bool.and_eq_true] at complete
            refine .started readings rfl complete.1 complete.2 ?_
            rw [complete.1, complete.2]
            rfl
          · rw [AList.lookup_insert_ne same] at tracked
            refine kept_of_drain bounded rfl ?_ tracked complete
            rintro _ ⟨⟩
            exact same rfl
  | operationFinished handle readings =>
      change (controller.operationFinished handle readings).2.activeOperations.lookup
        operationHandle = some next at tracked
      unfold operationFinished at tracked
      dsimp only at tracked
      refine kept_of_drain bounded rfl (fun _ => Call.noConfusion) ?_ complete
      split at tracked
      · exact tracked
      · by_cases same : operationHandle = handle
        · subst same
          rw [AList.lookup_erase] at tracked
          cases tracked
        · rwa [AList.lookup_erase_ne same] at tracked
  | operationRemoved handle readings =>
      change (controller.removeOperation handle readings).activeOperations.lookup
        operationHandle = some next at tracked
      unfold removeOperation at tracked
      dsimp only at tracked
      refine kept_of_drain bounded rfl (fun _ => Call.noConfusion) ?_ complete
      by_cases same : operationHandle = handle
      · subst same
        rw [AList.lookup_erase] at tracked
        cases tracked
      · rwa [AList.lookup_erase_ne same] at tracked
  | observationOpened observationHandle handle observationClass readings =>
      change (controller.observationOpened observationHandle handle observationClass
        readings).activeOperations.lookup operationHandle = some next at tracked
      unfold observationOpened at tracked
      dsimp only at tracked
      split at tracked
      · exact unmarked tracked
      · exact kept_of_drain bounded rfl (fun _ => Call.noConfusion) tracked complete
  | observationDispatched observationHandle threadId readings =>
      change (controller.observationDispatched observationHandle threadId
        readings).activeOperations.lookup operationHandle = some next at tracked
      unfold observationDispatched at tracked
      dsimp only at tracked
      split at tracked
      · exact unmarked tracked
      · exact kept_of_drain bounded rfl (fun _ => Call.noConfusion) tracked complete
  | observationFinished observationHandle readings =>
      change (controller.observationFinished observationHandle
        readings).activeOperations.lookup operationHandle = some next at tracked
      unfold observationFinished at tracked
      dsimp only at tracked
      split at tracked
      · exact unmarked tracked
      · exact kept_of_drain bounded rfl (fun _ => Call.noConfusion) tracked complete

/-- Every call keeps the counters bounded. -/
theorem AllBounded.step {controller : Controller} (bounded : controller.AllBounded) (call : Call) :
    (controller.step call).2.AllBounded := by
  have fresh : ∀ sequence incomplete,
      ActiveOperation.Bounded ⟨sequence, 0, 0, incomplete⟩ :=
    fun _ _ => ⟨Nat.zero_le _, Nat.zero_le _⟩
  cases call with
  | engineOpened => exact bounded
  | engineClosed =>
      change controller.engineClosed.AllBounded
      unfold engineClosed
      split
      · exact KeyedTable.all_empty
      · exact bounded
  | operationStarted handle readings =>
      change (controller.operationStarted handle readings).AllBounded
      unfold operationStarted
      dsimp only
      split
      · exact (bounded.drain readings).markAllIncomplete
      · exact KeyedTable.All.insert (bounded.drain readings) (fresh _ _)
  | operationFinished handle readings =>
      change (controller.operationFinished handle readings).2.AllBounded
      unfold operationFinished
      dsimp only
      split
      · exact bounded.drain readings
      · exact KeyedTable.All.erase (bounded.drain readings) handle
  | operationRemoved handle readings => exact KeyedTable.All.erase (bounded.drain readings) handle
  | observationOpened observationHandle handle observationClass readings =>
      change (controller.observationOpened observationHandle handle observationClass
        readings).AllBounded
      unfold observationOpened
      dsimp only
      split
      · exact (bounded.drain readings).markAllIncomplete
      · exact bounded.drain readings
  | observationDispatched observationHandle threadId readings =>
      change (controller.observationDispatched observationHandle threadId readings).AllBounded
      unfold observationDispatched
      dsimp only
      split
      · exact (bounded.drain readings).markAllIncomplete
      · exact bounded.drain readings
  | observationFinished observationHandle readings =>
      change (controller.observationFinished observationHandle readings).AllBounded
      unfold observationFinished
      dsimp only
      split
      · exact (bounded.drain readings).markAllIncomplete
      · exact bounded.drain readings

end Controller

/-! ## Transcripts -/

/-- One answered call. -/
abbrev Entry : Type :=
  Runs.Answered Controller Call (Option OperationCoverage)

/-- A call during which an operation stayed complete: it is not started again, every drain was of a
healthy tracer whose events all had one owner, and nothing marked it. -/
structure Undisturbed (operationHandle : Nat) (entry : Entry) : Prop where
  other : ∀ readings, entry.call ≠ .operationStarted operationHandle readings
  drained : ∀ readings, entry.call.readings? = some readings →
    entry.before.CleanDrain readings
  unmarked : ∃ operation, entry.after.activeOperations.lookup operationHandle = some operation ∧
    operation.incomplete = false

/-- Number of events that the calls drained and an observation of one operation owned alone. -/
def totalOwned (operationHandle : Nat) (entries : List Entry) : Nat :=
  (entries.map fun entry => entry.before.ownedDuring operationHandle entry.call).sum

/-- What the transcript says of an operation that is complete: since it was started with a healthy
tracer nothing disturbed it, and it counted the events it owned. -/
inductive SinceStart (past : List Entry) (operationHandle : Nat) (operation : ActiveOperation) :
    Prop
  | intro (before between : List Entry) (start : Entry) (readings : Readings)
      (split : past = before ++ start :: between)
      (started : start.call = .operationStarted operationHandle readings)
      (installed : start.before.installed = true)
      (healthy : readings.healthyAgain = true)
      (undisturbed : ∀ entry ∈ between, Undisturbed operationHandle entry)
      (counters : operation =
        ⟨readings.sequence, saturatingAdd 0 (totalOwned operationHandle between),
          saturatingAdd 0 (totalOwned operationHandle between), false⟩) :
      SinceStart past operationHandle operation

/-- What the transcript says of the controller. -/
structure Tracked (past : List Entry) (controller : Controller) : Prop where
  bounded : controller.AllBounded
  complete : ∀ operationHandle operation,
    controller.activeOperations.lookup operationHandle = some operation →
      operation.incomplete = false → SinceStart past operationHandle operation

/-- Nothing is tracked before the first call. -/
theorem new_tracked : Tracked [] .new where
  bounded := KeyedTable.all_empty
  complete _ _ present := by cases present

/-- Every call keeps what the transcript says. -/
theorem step_tracked {past : List Entry} {controller : Controller}
    (tracked : Tracked past controller) (call : Call) :
    Tracked (past ++ [Runs.answer Controller.step controller call]) (controller.step call).2 := by
  refine ⟨tracked.bounded.step call, ?_⟩
  intro operationHandle next present complete
  cases Controller.step_progress tracked.bounded present complete with
  | started readings starts installed healthy counters =>
      refine .intro past [] _ readings rfl starts installed healthy ?_ counters
      intro entry member
      cases member
  | kept operation held kept =>
      cases tracked.complete operationHandle operation held kept.complete with
      | intro before between start readings split started installed healthy undisturbed counters =>
          refine .intro before (between ++ [Runs.answer Controller.step controller call]) start
            readings ?_ started installed healthy ?_ ?_
          · rw [split, List.append_assoc, List.cons_append]
          · intro entry member
            rcases List.mem_append.mp member with old | last
            · exact undisturbed entry old
            · rw [List.mem_singleton.mp last]
              exact ⟨kept.other, kept.drained, next, present, complete⟩
          · have total : totalOwned operationHandle
                (between ++ [Runs.answer Controller.step controller call]) =
                totalOwned operationHandle between +
                  controller.ownedDuring operationHandle call := by
              unfold totalOwned
              rw [List.map_append, List.sum_append, List.map_singleton, List.sum_singleton]
              rfl
            have relevant := kept.relevantEvents
            have owned := kept.ownedEvents
            have start := kept.start
            rw [counters, saturatingAdd_saturatingAdd, ← total] at relevant owned
            rw [counters] at start
            cases next
            simp_all

/-! ## Clean traces -/

/-- What a clean trace stands for: a healthy tracer from the start of the operation to its end, and
no event without exactly one owner.  The evidence counts the events that observations of the
operation owned. -/
inductive CleanTrace (past : List Entry) (controller : Controller) (operationHandle : Nat)
    (readings : Readings) (evidence : NativeCoverageEvidence) : Prop
  | intro (before between : List Entry) (start : Entry) (startReadings : Readings)
      (split : past = before ++ start :: between)
      (started : start.call = .operationStarted operationHandle startReadings)
      (installed : start.before.installed = true)
      (healthy : startReadings.healthyAgain = true)
      (undisturbed : ∀ entry ∈ between, Undisturbed operationHandle entry)
      (drained : controller.CleanDrain readings)
      (healthyAtEnd : readings.healthyAgain = true)
      (sequence : startReadings.sequence ≤ readings.sequence)
      (startSequence : evidence.startSequence = startReadings.sequence)
      (endSequence : evidence.endSequence = readings.sequence)
      (ownedEvents : evidence.ownedEvents = saturatingAdd 0 (totalOwned operationHandle between +
        controller.ownedDuring operationHandle (.operationFinished operationHandle readings)))
      (relevantEvents : evidence.relevantEvents = evidence.ownedEvents) :
      CleanTrace past controller operationHandle readings evidence

/-- A clean answer comes from an operation that is complete and from a healthy tracer. -/
theorem coverageResult_clean {operation : ActiveOperation} {healthy : Bool} {sequence : Nat}
    {evidence : NativeCoverageEvidence}
    (clean : coverageResult operation healthy sequence = .cleanKernelTrace evidence) :
    operation.incomplete = false ∧ healthy = true ∧ operation.startSequence ≤ sequence ∧
      evidence =
        ⟨operation.startSequence, sequence, operation.relevantEvents, operation.ownedEvents⟩ := by
  unfold coverageResult at clean
  split at clean
  case isTrue => cases clean
  case isFalse allowed =>
      rw [not_or, not_or, not_or, Bool.not_eq_true, not_not, Nat.not_lt, Nat.not_lt] at allowed
      cases clean
      exact ⟨allowed.1, allowed.2.1, allowed.2.2.2, rfl⟩

/-- A clean answer stands for a clean trace. -/
theorem clean_of_tracked {past : List Entry} {controller : Controller}
    (tracked : Tracked past controller) {operationHandle : Nat} {readings : Readings}
    {evidence : NativeCoverageEvidence}
    (clean : (controller.step (.operationFinished operationHandle readings)).1 =
      some (.cleanKernelTrace evidence)) :
    CleanTrace past controller operationHandle readings evidence := by
  change some (controller.operationFinished operationHandle readings).1 = _ at clean
  have clean := Option.some.inj clean
  unfold Controller.operationFinished at clean
  dsimp only at clean
  split at clean
  case h_1 => cases clean
  case h_2 next present =>
      obtain ⟨complete, healthy, ordered, counters⟩ := coverageResult_clean clean
      have installed : ((controller.drain readings).dropObservations operationHandle).installed =
          controller.installed := (Controller.drain_frame controller readings).2
      rw [installed] at healthy ordered counters
      rw [Bool.and_eq_true] at healthy
      rw [if_pos healthy.1] at ordered counters
      obtain ⟨drained, operation, held, progress⟩ :=
        Controller.drain_progress tracked.bounded present complete
      cases tracked.complete operationHandle operation held progress.complete with
      | intro before between start startReadings split started installed startHealthy undisturbed
          counted =>
          have startSequence : next.startSequence = startReadings.sequence := by
            rw [progress.start, counted]
          have owned : next.ownedEvents = saturatingAdd 0 (totalOwned operationHandle between +
              controller.ownedDuring operationHandle
                (.operationFinished operationHandle readings)) := by
            rw [progress.ownedEvents, counted, saturatingAdd_saturatingAdd]
            rfl
          have relevant : next.relevantEvents = next.ownedEvents := by
            rw [progress.relevantEvents, progress.ownedEvents, counted]
          rw [startSequence] at ordered
          refine .intro before between start startReadings split started installed startHealthy
            undisturbed drained healthy.2 ordered ?_ ?_ ?_ ?_
          · rw [counters, startSequence]
          · rw [counters]
          · rw [counters]
            exact owned
          · rw [counters]
            exact relevant

/-! ## Incomplete operations -/

/-- No operation under a handle is complete. -/
def NotComplete (operationHandle : Nat) (controller : Controller) : Prop :=
  ∀ operation, controller.activeOperations.lookup operationHandle = some operation →
    operation.incomplete = true

/-- An operation that is not complete stays so until its handle is started again. -/
theorem notComplete_step {controller : Controller} (bounded : controller.AllBounded)
    {operationHandle : Nat} (incomplete : NotComplete operationHandle controller) {call : Call}
    (other : ∀ readings, call ≠ .operationStarted operationHandle readings) :
    NotComplete operationHandle (controller.step call).2 := by
  intro next present
  by_contra complete
  cases Controller.step_progress bounded present (Bool.eq_false_of_not_eq_true complete) with
  | started readings starts => exact other readings starts
  | kept operation held kept =>
      have marked := incomplete operation held
      rw [kept.complete] at marked
      cases marked

/-- The same for a run. -/
theorem notComplete_final {operationHandle : Nat} (calls : List Call)
    (other : ∀ call ∈ calls, ∀ readings, call ≠ .operationStarted operationHandle readings) :
    ∀ {controller : Controller}, controller.AllBounded → NotComplete operationHandle controller →
      (Runs.final Controller.step controller calls).AllBounded ∧
        NotComplete operationHandle (Runs.final Controller.step controller calls) := by
  induction calls with
  | nil => exact fun bounded incomplete => ⟨bounded, incomplete⟩
  | cons call calls ih =>
      intro controller bounded incomplete
      exact ih (fun later member => other later (List.mem_cons_of_mem _ member))
        (bounded.step call) (notComplete_step bounded incomplete (other call List.mem_cons_self))

/-- What the sentinel says of finished operations, after any run. -/
structure TraceSound (past : List Entry) (controller : Controller) : Prop where
  clean : ∀ operationHandle readings evidence,
    (controller.step (.operationFinished operationHandle readings)).1 =
        some (.cleanKernelTrace evidence) →
      CleanTrace past controller operationHandle readings evidence
  sticky : ∀ operationHandle operation,
    controller.activeOperations.lookup operationHandle = some operation →
      operation.incomplete = true → ∀ later : List Call,
        (∀ call ∈ later, ∀ readings, call ≠ .operationStarted operationHandle readings) →
          ∀ readings,
            ((Runs.final Controller.step controller later).step
              (.operationFinished operationHandle readings)).1 = some .incomplete

/-- A clean kernel trace stands for a healthy tracer and owned events since the operation was
started, and an operation that was marked incomplete never has one. -/
theorem trace_sound (calls : List Call) :
    TraceSound (Runs.answered Controller.step .new calls) (Runs.final Controller.step .new calls) :=
  by
  have tracked := Runs.answered_preserves Tracked
    (fun _ _ call tracked => step_tracked tracked call) calls new_tracked
  rw [List.nil_append] at tracked
  constructor
  · exact fun operationHandle readings evidence clean => clean_of_tracked tracked clean
  · intro operationHandle operation present marked later other readings
    have notComplete : NotComplete operationHandle (Runs.final Controller.step .new calls) := by
      intro same held
      rw [present] at held
      cases held
      exact marked
    obtain ⟨bounded, still⟩ := notComplete_final later other tracked.bounded notComplete
    cases finished : ((Runs.final Controller.step (Runs.final Controller.step .new calls)
        later).operationFinished operationHandle readings).1 with
    | incomplete => exact congrArg some finished
    | cleanKernelTrace evidence =>
        unfold Controller.operationFinished at finished
        dsimp only at finished
        split at finished
        case h_1 => cases finished
        case h_2 next held =>
            obtain ⟨complete, -⟩ := coverageResult_clean finished
            obtain ⟨-, before, tracked, progress⟩ :=
              Controller.drain_progress bounded held complete
            have marked := still before tracked
            rw [progress.complete] at marked
            cases marked

end Sentinel
end ReproItSdk
