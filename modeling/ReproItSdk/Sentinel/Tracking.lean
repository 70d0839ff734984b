import ReproItSdk.Sentinel.Evidence

/-! # Which observations the sentinel tracks

Draining attributes events and tracks no other observation.  Only an open adds an observation, a
dispatch keeps the operation of the one it names, and everything else removes some.

Main results:

- Theorem {lit}`tracked_step`: where the observations that are tracked after a call come from.
-/

namespace ReproItSdk
namespace Sentinel
namespace Controller

variable {controller : Controller}

/-- The observation tracked under a handle. -/
def active (controller : Controller) (observationHandle : Nat) : Option ActiveObservation :=
  controller.activeObservations.lookup observationHandle

/-! ## Calls on one observation -/

/-- Draining tracks the same observations. -/
@[simp] theorem active_drain (controller : Controller) (readings : Readings) (observationHandle : Nat) :
    (controller.drain readings).active observationHandle = controller.active observationHandle := by
  unfold active
  rw [(drain_frame controller readings).1]

/-- A finished observation is not tracked, and the others are as before. -/
theorem active_observationFinished (controller : Controller) (observationHandle handle : Nat) (readings : Readings) :
    (controller.observationFinished observationHandle readings).active handle =
      if handle = observationHandle then none else controller.active handle := by
  have drained := active_drain controller readings
  unfold observationFinished
  dsimp only
  split
  · rename_i absent
    by_cases same : handle = observationHandle
    · subst same
      rw [if_pos rfl]
      exact absent
    · rw [if_neg same]
      exact drained handle
  · by_cases same : handle = observationHandle
    · subst same
      rw [if_pos rfl]
      exact AList.lookup_erase _ _
    · rw [if_neg same]
      exact (AList.lookup_erase_ne same).trans (drained handle)

/-- A dispatched observation keeps its operation, and the others are as before. -/
theorem active_observationDispatched (controller : Controller) (observationHandle handle : Nat)
    (threadId : Int) (readings : Readings) :
    (controller.observationDispatched observationHandle threadId readings).active handle =
      (controller.active handle).map fun observation =>
        if handle = observationHandle then
          { observation with threadId := threadId, dispatched := true }
        else observation := by
  have drained := active_drain controller readings
  unfold observationDispatched
  dsimp only
  split
  · rename_i absent
    by_cases same : handle = observationHandle
    · subst same
      have none : controller.active handle = none := (drained handle).symm.trans absent
      rw [none]
      exact absent
    · simp only [same, if_false, Option.map_id']
      exact drained handle
  · rename_i observation present
    by_cases same : handle = observationHandle
    · subst same
      have some : controller.active handle = some observation :=
        (drained handle).symm.trans present
      rw [some]
      simp [active]
    · simp only [same, if_false, Option.map_id']
      exact (AList.lookup_insert_ne same).trans (drained handle)

/-- An open tracks one more observation at most. -/
theorem active_observationOpened (controller : Controller)
    (observationHandle operationHandle handle : Nat)
    (observationClass : AutomaticObservationClass) (readings : Readings) :
    (controller.observationOpened observationHandle operationHandle observationClass
        readings).active handle = controller.active handle ∨
      (handle = observationHandle ∧
        (controller.observationOpened observationHandle operationHandle observationClass
          readings).active handle =
          some
            { operationHandle := operationHandle
              observationClass := observationClass
              threadId := 0
              dispatched := false }) := by
  have drained := active_drain controller readings
  unfold observationOpened
  dsimp only
  split
  · exact .inl (drained handle)
  · by_cases same : handle = observationHandle
    · subst same
      exact .inr ⟨rfl, AList.lookup_insert _⟩
    · exact .inl ((AList.lookup_insert_ne same).trans (drained handle))

/-! ## Calls on one operation -/

/-- Forgetting the observations of an operation. -/
theorem active_dropObservations (controller : Controller) (operationHandle handle : Nat)
    (observation : ActiveObservation) :
    (controller.dropObservations operationHandle).active handle = some observation ↔
      controller.active handle = some observation ∧
        observation.operationHandle ≠ operationHandle := by
  refine KeyedTable.lookup_retain_eq_some.trans ?_
  simp [active]

/-- An operation that is removed takes its observations along. -/
theorem active_removeOperation {operationHandle handle : Nat} {readings : Readings}
    {observation : ActiveObservation} :
    (controller.removeOperation operationHandle readings).active handle = some observation ↔
      controller.active handle = some observation ∧
        observation.operationHandle ≠ operationHandle := by
  refine (active_dropObservations (controller.drain readings) _ _ _).trans ?_
  rw [active_drain]

/-- An operation that is finished takes its observations along. -/
theorem active_operationFinished {operationHandle handle : Nat} {readings : Readings}
    {observation : ActiveObservation} :
    (controller.operationFinished operationHandle readings).2.active handle = some observation ↔
      controller.active handle = some observation ∧
        observation.operationHandle ≠ operationHandle := by
  have dropped := active_dropObservations (controller.drain readings) operationHandle handle observation
  rw [active_drain] at dropped
  unfold operationFinished
  dsimp only
  split <;> exact dropped

/-- An operation that starts changes no observation. -/
theorem active_operationStarted (operationHandle handle : Nat) (readings : Readings) :
    (controller.operationStarted operationHandle readings).active handle =
      controller.active handle := by
  unfold operationStarted
  dsimp only
  split <;> exact active_drain controller readings handle

/-- The last engine takes all observations along. -/
theorem active_engineClosed {handle : Nat} {observation : ActiveObservation}
    (tracked : controller.engineClosed.active handle = some observation) :
    controller.active handle = some observation := by
  unfold engineClosed at tracked
  split at tracked
  · cases tracked
  · exact tracked

/-! ## Any call -/

/-- Where an observation that is tracked after a call comes from. -/
inductive Source (controller : Controller) (handle : Nat) (observation : ActiveObservation) :
    Call → Prop
  | before (call : Call) (old : ActiveObservation)
      (tracked : controller.active handle = some old)
      (same : old.operationHandle = observation.operationHandle) :
      Source controller handle observation call
  | opened (observationClass : AutomaticObservationClass) (readings : Readings) :
      Source controller handle observation
        (.observationOpened handle observation.operationHandle observationClass readings)

/-- A tracked observation was tracked before with the same operation, or it was opened. -/
theorem tracked_step {call : Call} {handle : Nat} {observation : ActiveObservation}
    (tracked : (controller.step call).2.active handle = some observation) :
    Source controller handle observation call := by
  cases call with
  | engineOpened installs => exact .before _ observation tracked rfl
  | engineClosed => exact .before _ observation (active_engineClosed tracked) rfl
  | operationStarted operationHandle readings =>
      refine .before _ observation ?_ rfl
      rwa [← active_operationStarted operationHandle handle readings]
  | operationFinished operationHandle readings =>
      exact .before _ observation (active_operationFinished.mp tracked).1 rfl
  | operationRemoved operationHandle readings =>
      exact .before _ observation (active_removeOperation.mp tracked).1 rfl
  | observationOpened observationHandle operationHandle observationClass readings =>
      rcases active_observationOpened controller observationHandle operationHandle
        handle observationClass readings with old | ⟨rfl, new⟩
      · exact .before _ observation (old.symm.trans tracked) rfl
      · have same := new.symm.trans tracked
        cases same
        exact .opened observationClass readings
  | observationDispatched observationHandle threadId readings =>
      have found := (active_observationDispatched controller observationHandle handle
        threadId readings).symm.trans tracked
      obtain ⟨old, was, same⟩ := Option.map_eq_some_iff.mp found
      refine .before _ old was ?_
      rw [← same]
      split <;> rfl
  | observationFinished observationHandle readings =>
      have found := (active_observationFinished controller observationHandle handle
        readings).symm.trans tracked
      split at found
      · cases found
      · exact .before _ observation found rfl

end Controller
end Sentinel
end ReproItSdk
