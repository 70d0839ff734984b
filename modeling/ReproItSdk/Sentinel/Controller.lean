import ReproItSdk.Core.Model
import ReproItSdk.Library.Runs

/-! # The sentinel

The sentinel counts kernel events.  It attributes each event to the observation that was dispatched
on the thread of the event, and an operation whose events all have an owner has a clean trace.

The kernel tracer is not modelled.  Every call carries what it read from the tracer: the events it
drained, whether the tracer was healthy, and its sequence number.

Main definitions:

- Structure {lit}`Controller`: active observations and operations, and whether a tracer runs.
- Function {lit}`Controller.applyEvent`: attribute one event.
- Function {lit}`Controller.step`: answer one call.
-/

namespace ReproItSdk
namespace Sentinel

/-! ## Constants -/

/-- Most operations that are tracked at once. -/
def maxActiveOperations : Nat :=
  512

/-- Most observations that are tracked at once. -/
def maxActiveObservations : Nat :=
  1024

/-! ## Events -/

/-- Kinds of kernel events. -/
inductive EventKind where
  | filesystem
  | network
  | clock
  | randomness
  | process
  | exit
deriving DecidableEq, Repr

namespace EventKind

/-- {lit}`is_exactly_owned_by`. -/
def isExactlyOwnedBy : EventKind → AutomaticObservationClass → Bool
  | .filesystem, .filesystem | .clock, .clock | .randomness, .randomness => true
  | _, _ => false

/-- {lit}`is_owned_by`: a semantic dependency owns its transitive kernel effects. -/
def isOwnedBy : EventKind → AutomaticObservationClass → Bool
  | .filesystem, .database | .filesystem, .filesystem | .filesystem, .outboundHttp
  | .filesystem, .queue => true
  | .network, .database | .network, .outboundHttp | .network, .queue => true
  | .clock, .clock | .clock, .database | .clock, .outboundHttp | .clock, .queue => true
  | .randomness, .database | .randomness, .outboundHttp | .randomness, .queue
  | .randomness, .randomness => true
  | _, _ => false

end EventKind

/-- A kernel event. -/
structure Event where
  kind : EventKind
  threadId : Int
deriving DecidableEq, Repr

/-- What a call reads from the tracer, if one runs. -/
structure Readings where
  events : List Event
  healthy : Bool
  healthyAgain : Bool
  sequence : Nat
deriving DecidableEq, Repr

/-! ## Coverage -/

/-- {lit}`NativeCoverageEvidence`. -/
structure NativeCoverageEvidence where
  startSequence : Nat
  endSequence : Nat
  relevantEvents : Nat
  ownedEvents : Nat
deriving DecidableEq, Repr

/-- What the sentinel says of a finished operation. -/
inductive OperationCoverage where
  | incomplete
  | cleanKernelTrace (evidence : NativeCoverageEvidence)
deriving DecidableEq, Repr

/-- An operation that is tracked. -/
structure ActiveOperation where
  startSequence : Nat
  relevantEvents : Nat
  ownedEvents : Nat
  incomplete : Bool
deriving DecidableEq, Repr

/-- An observation that is tracked. -/
structure ActiveObservation where
  operationHandle : Nat
  observationClass : AutomaticObservationClass
  threadId : Int
  dispatched : Bool
deriving DecidableEq, Repr

/-- {lit}`coverage_result`. -/
def coverageResult (operation : ActiveOperation) (runtimeHealthy : Bool) (endSequence : Nat) :
    OperationCoverage :=
  if operation.incomplete ∨ ¬ runtimeHealthy ∨ operation.relevantEvents < operation.ownedEvents ∨
      endSequence < operation.startSequence then
    .incomplete
  else
    .cleanKernelTrace
      { startSequence := operation.startSequence
        endSequence := endSequence
        relevantEvents := operation.relevantEvents
        ownedEvents := operation.ownedEvents }

/-! ## The controller -/

/-- The state behind the lock of the sentinel. -/
structure Controller where
  activeObservations : KeyedTable Nat ActiveObservation
  activeOperations : KeyedTable Nat ActiveOperation
  engineCount : Nat
  installed : Bool

/-- Operations whose dispatched observations on the thread of an event have a class that fits. -/
def fittingOwners (observations : KeyedTable Nat ActiveObservation) (event : Event)
    (fits : AutomaticObservationClass → Bool) : List Nat :=
  (observations.entries.filter fun entry =>
    entry.2.dispatched && decide (entry.2.threadId = event.threadId) &&
      fits entry.2.observationClass).map fun entry => entry.2.operationHandle

/-- The owners of an event: those that own it exactly, if there are any. -/
def owners (observations : KeyedTable Nat ActiveObservation) (event : Event) : List Nat :=
  let exactOwner := fittingOwners observations event event.kind.isExactlyOwnedBy
  if exactOwner.isEmpty then fittingOwners observations event event.kind.isOwnedBy else exactOwner

/-- An operation with one more event of its own. -/
def ActiveOperation.countOwned (operation : ActiveOperation) : ActiveOperation :=
  { operation with
    relevantEvents := saturatingAdd operation.relevantEvents 1
    ownedEvents := saturatingAdd operation.ownedEvents 1 }

/-- An operation with one more event of nobody. -/
def ActiveOperation.countLost (operation : ActiveOperation) : ActiveOperation :=
  { operation with
    relevantEvents := saturatingAdd operation.relevantEvents 1
    incomplete := true }

namespace Controller

/-- {lit}`Controller::new`. -/
def new : Controller where
  activeObservations := ∅
  activeOperations := ∅
  engineCount := 0
  installed := false

/-- {lit}`mark_all_incomplete`. -/
def markAllIncomplete (controller : Controller) : Controller :=
  { controller with
    activeOperations :=
      KeyedTable.mapValues (fun _ operation => { operation with incomplete := true })
        controller.activeOperations }

/-- {lit}`apply_event`: an event with one owner counts for its operation, any other event makes
every operation incomplete. -/
def applyEvent (controller : Controller) (event : Event) : Controller :=
  if event.kind = .exit then controller
  else
    match owners controller.activeObservations event with
    | [owner] =>
        match controller.activeOperations.lookup owner with
        | none => controller
        | some operation =>
            { controller with
              activeOperations := controller.activeOperations.insert owner operation.countOwned }
    | _ =>
        { controller with
          activeOperations :=
            KeyedTable.mapValues (fun _ operation => operation.countLost)
              controller.activeOperations }

/-- {lit}`drain`: attribute all events since the last call. -/
def drain (controller : Controller) (readings : Readings) : Controller :=
  if ¬ controller.installed then controller.markAllIncomplete
  else
    let applied := readings.events.foldl applyEvent controller
    if readings.healthy then applied else applied.markAllIncomplete

/-- Forget the observations of an operation. -/
def dropObservations (controller : Controller) (operationHandle : Nat) : Controller :=
  { controller with
    activeObservations :=
      KeyedTable.retain (fun _ observation => observation.operationHandle ≠ operationHandle)
        controller.activeObservations }

/-! ## Calls -/

/-- {lit}`engine_opened`.  The flag tells whether a tracer could be installed. -/
def engineOpened (controller : Controller) (installs : Bool) : Controller :=
  { controller with
    engineCount := min (controller.engineCount + 1) u64Max
    installed := controller.installed || installs }

/-- {lit}`engine_closed`: the last engine takes the tracer with it. -/
def engineClosed (controller : Controller) : Controller :=
  if controller.engineCount - 1 = 0 then
    { activeObservations := ∅, activeOperations := ∅, engineCount := 0, installed := false }
  else { controller with engineCount := controller.engineCount - 1 }

/-- {lit}`operation_started`. -/
def operationStarted (controller : Controller) (operationHandle : Nat) (readings : Readings) :
    Controller :=
  let drained := controller.drain readings
  if maxActiveOperations ≤ KeyedTable.size drained.activeOperations then
    drained.markAllIncomplete
  else
    { drained with
      activeOperations := drained.activeOperations.insert operationHandle
        { startSequence := if drained.installed then readings.sequence else 0
          relevantEvents := 0
          ownedEvents := 0
          incomplete := !(drained.installed && readings.healthyAgain) } }

/-- {lit}`operation_finished`. -/
def operationFinished (controller : Controller) (operationHandle : Nat) (readings : Readings) :
    OperationCoverage × Controller :=
  let left := (controller.drain readings).dropObservations operationHandle
  match left.activeOperations.lookup operationHandle with
  | none => (.incomplete, left)
  | some operation =>
      (coverageResult operation (left.installed && readings.healthyAgain)
          (if left.installed then readings.sequence else 0),
        { left with activeOperations := left.activeOperations.erase operationHandle })

/-- {lit}`remove_operation`. -/
def removeOperation (controller : Controller) (operationHandle : Nat) (readings : Readings) :
    Controller :=
  let left := (controller.drain readings).dropObservations operationHandle
  { left with activeOperations := left.activeOperations.erase operationHandle }

/-- {lit}`observation_opened`. -/
def observationOpened (controller : Controller) (observationHandle operationHandle : Nat)
    (observationClass : AutomaticObservationClass) (readings : Readings) : Controller :=
  let drained := controller.drain readings
  if maxActiveObservations ≤ KeyedTable.size drained.activeObservations then
    drained.markAllIncomplete
  else
    { drained with
      activeObservations := drained.activeObservations.insert observationHandle
        { operationHandle := operationHandle
          observationClass := observationClass
          threadId := 0
          dispatched := false } }

/-- {lit}`observation_dispatched` on a thread. -/
def observationDispatched (controller : Controller) (observationHandle : Nat) (threadId : Int)
    (readings : Readings) : Controller :=
  let drained := controller.drain readings
  match drained.activeObservations.lookup observationHandle with
  | none => drained.markAllIncomplete
  | some observation =>
      { drained with
        activeObservations := drained.activeObservations.insert observationHandle
          { observation with threadId := threadId, dispatched := true } }

/-- {lit}`observation_finished`. -/
def observationFinished (controller : Controller) (observationHandle : Nat)
    (readings : Readings) : Controller :=
  let drained := controller.drain readings
  match drained.activeObservations.lookup observationHandle with
  | none => drained.markAllIncomplete
  | some _ =>
      { drained with
        activeObservations := drained.activeObservations.erase observationHandle }

end Controller

/-- The calls of the sentinel. -/
inductive Call where
  | engineOpened (installs : Bool)
  | engineClosed
  | operationStarted (operationHandle : Nat) (readings : Readings)
  | operationFinished (operationHandle : Nat) (readings : Readings)
  | operationRemoved (operationHandle : Nat) (readings : Readings)
  | observationOpened (observationHandle operationHandle : Nat)
      (observationClass : AutomaticObservationClass) (readings : Readings)
  | observationDispatched (observationHandle : Nat) (threadId : Int) (readings : Readings)
  | observationFinished (observationHandle : Nat) (readings : Readings)
deriving DecidableEq, Repr

namespace Controller

/-- Answer one call.  Only a finished operation has an answer. -/
def step (controller : Controller) : Call → Option OperationCoverage × Controller
  | .engineOpened installs => (none, controller.engineOpened installs)
  | .engineClosed => (none, controller.engineClosed)
  | .operationStarted operationHandle readings =>
      (none, controller.operationStarted operationHandle readings)
  | .operationFinished operationHandle readings =>
      let finished := controller.operationFinished operationHandle readings
      (some finished.1, finished.2)
  | .operationRemoved operationHandle readings =>
      (none, controller.removeOperation operationHandle readings)
  | .observationOpened observationHandle operationHandle observationClass readings =>
      (none,
        controller.observationOpened observationHandle operationHandle observationClass readings)
  | .observationDispatched observationHandle threadId readings =>
      (none, controller.observationDispatched observationHandle threadId readings)
  | .observationFinished observationHandle readings =>
      (none, controller.observationFinished observationHandle readings)

end Controller
end Sentinel
end ReproItSdk
