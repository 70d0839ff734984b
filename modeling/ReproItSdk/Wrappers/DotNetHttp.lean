import ReproItSdk.Wrappers.DotNetDependency

/-! # The HTTP observer of a .NET application

{lit}`HttpDiagnosticsObserver` hears of the start, the end and the exceptions of HTTP requests.  It
opens a dependency at a start, keeps the connection under the request, and finishes or abandons it
at the end.  Events come from any thread and name only the request, so that between two steps of one
event the steps of others may come.  A connection that was removed while its response could not be
read is neither finished nor abandoned.

The observer is disposed after the engines of all its projects are closed.

Main results:

- Theorem {lit}`accounted_step`: what every step keeps.
- Theorem {lit}`accounted_run`: what holds in every state of a run.
- Theorem {lit}`dependency_capture_accounted`: the translator and the observer together.
-/

namespace ReproItSdk
namespace Wrappers
namespace Native
namespace DotNet

/-! ## The observer -/

/-- {lit}`MaxActiveRequests`. -/
def maxActiveRequests : Nat :=
  512

/-- {lit}`AutomaticOperation`: whether it is finished, its World complete or the engine has marked
it. -/
structure Operation where
  finished : Bool := false
  worldComplete : Bool := false
  unowned : Bool := false
deriving DecidableEq, Repr

/-- {lit}`IsActive`. -/
def Operation.isActive (operation : Operation) : Bool :=
  !operation.finished && !operation.worldComplete

/-- Where a connection is.  A thread that has opened it, that has removed it at the end of the
request, or that is to abandon it holds it alone; otherwise it is active, finished, abandoned, or
nobody's. -/
inductive ConnectionPhase where
  | opening
  | active
  | stopping (flow : Option Nat)
  | abandoning (flow : Option Nat)
  | finished
  | abandoned
  | dropped
deriving DecidableEq, Repr

/-- {lit}`SdkEngineDependencyConnection`, with its operation and its request. -/
structure Connection where
  operation : Nat
  request : Nat
  phase : ConnectionPhase
deriving DecidableEq, Repr

/-- The observer, its operations and every connection it opened.  The dictionary of the source holds
the connections that are active, under their requests. -/
structure Observer where
  operations : Nat → Operation
  connections : List Connection := []
  disposed : Bool := false
  lost : List Nat := []

/-- What a thread reads of a response: it may throw, and the response may be unsupported or without
a record. -/
inductive ResponseRead where
  | throws
  | unsupported
  | unmade
  | made
deriving DecidableEq, Repr

/-- One step of a thread.  {lit}`flow` is the operation that {lit}`ActiveOperation` gives to it, and
{lit}`marks` and {lit}`finishes` are what the bridge answers. -/
inductive ObserverStep where
  | completeWorld (operation : Nat)
  | endOperation (operation : Nat)
  | start (operation request : Nat) (made marks : Bool) (opens : Option ObservationAction)
  | place (handle : Nat) (marks : Bool)
  | stop (request flow : Option Nat) (marks : Bool)
  | respond (handle : Nat) (response : ResponseRead) (finishes marks : Bool)
  | except (request flow : Option Nat) (marks : Bool)
  | abandon (handle : Nat) (marks : Bool)
  | dispose
deriving DecidableEq, Repr

namespace Connection

/-- The connection is in the dictionary. -/
def isActive (connection : Connection) : Bool :=
  connection.phase == .active

/-- A thread holds the connection. -/
def isHeld (connection : Connection) : Bool :=
  match connection.phase with
  | .opening | .stopping _ | .abandoning _ => true
  | _ => false

end Connection

namespace Observer

/-- Change one operation. -/
def change (state : Observer) (operation : Nat) (changed : Operation → Operation) : Observer :=
  { state with
    operations := Function.update state.operations operation (changed (state.operations operation)) }

/-- {lit}`AbandonLocked`, and every other end of an operation. -/
def ended (state : Observer) (operation : Nat) : Observer :=
  state.change operation fun ended => { ended with finished := true }

/-- {lit}`MarkUnowned`: an operation that cannot be marked is given up. -/
def marked (state : Observer) (operation : Nat) (marks : Bool) : Observer :=
  if (state.operations operation).isActive then
    if marks then state.change operation fun marked => { marked with unowned := true }
    else state.ended operation
  else state

/-- {lit}`MarkActiveUnowned`. -/
def markedFlow (state : Observer) (flow : Option Nat) (marks : Bool) : Observer :=
  flow.elim state (state.marked · marks)

/-- Move a connection to another phase. -/
def moved (state : Observer) (handle : Nat) (phase : ConnectionPhase) : Observer :=
  { state with
    connections := state.connections.modify handle fun connection =>
      { connection with phase := phase } }

/-- An interaction of an operation that was not recorded completely. -/
def loses (state : Observer) (operation : Nat) : Observer :=
  { state with lost := operation :: state.lost }

/-- The size of the dictionary. -/
def count (state : Observer) : Nat :=
  state.connections.countP Connection.isActive

/-- The connection that the dictionary holds under a request. -/
def find (state : Observer) (request : Nat) : Option Nat :=
  state.connections.findIdx? fun connection =>
    connection.isActive && connection.request == request

/-- The connection of a handle, if it is in a phase. -/
def held (state : Observer) (handle : Nat) (phase : ConnectionPhase → Bool) : Option Connection :=
  state.connections[handle]?.filter fun connection => phase connection.phase

/-- {lit}`ObserveStart` from where it reaches its operation: the request is not made, or the
dependency is opened. -/
def started (state : Observer) (operation request : Nat) (made marks : Bool)
    (opens : Option ObservationAction) : Observer :=
  if (state.operations operation).isActive then
    if made then
      match opens with
      | none => (state.ended operation).loses operation
      | some .capture =>
          { state with connections := state.connections ++ [⟨operation, request, .opening⟩] }
      | some .replay =>
          { state with
            connections := state.connections ++ [⟨operation, request, .abandoning operation⟩] }
    else (state.marked operation marks).loses operation
  else state

/-- The end of {lit}`ObserveStart`: the connection is kept unless the observer is disposed or full or
has the request already. -/
def placed (state : Observer) (handle : Nat) (marks : Bool) : Observer :=
  match state.held handle (· == .opening) with
  | none => state
  | some connection =>
      if state.disposed ∨ maxActiveRequests ≤ state.count ∨
          (state.find connection.request).isSome then
        (((state.moved handle .abandoned).loses connection.operation).marked
          connection.operation marks)
      else state.moved handle .active

/-- {lit}`Remove`: the connection of a request goes to a phase, or the operation of the thread is
marked. -/
def removed (state : Observer) (request flow : Option Nat) (marks : Bool)
    (phase : ConnectionPhase) : Observer :=
  match request.bind state.find with
  | none => state.markedFlow flow marks
  | some handle => state.moved handle phase

/-- The end of {lit}`ObserveStop`. -/
def responded (state : Observer) (handle : Nat) (response : ResponseRead)
    (finishes marks : Bool) : Observer :=
  match state.connections[handle]? with
  | some ⟨operation, _, .stopping flow⟩ =>
      match response with
      | .throws => ((state.moved handle .dropped).loses operation).markedFlow flow marks
      | .unsupported => ((state.moved handle .abandoned).loses operation).markedFlow flow marks
      | .unmade => (state.moved handle .abandoned).loses operation
      | .made =>
          if finishes then state.moved handle .finished
          else (state.moved handle .abandoned).loses operation
  | _ => state

/-- {lit}`Abandon`, and the mark that follows it. -/
def abandoned (state : Observer) (handle : Nat) (marks : Bool) : Observer :=
  match state.connections[handle]? with
  | some ⟨operation, _, .abandoning flow⟩ =>
      ((state.moved handle .abandoned).loses operation).markedFlow flow marks
  | _ => state

/-- {lit}`Dispose` after the engines are closed: every active connection is to be abandoned. -/
def disposing (state : Observer) : Observer :=
  if state.disposed then state
  else
    { state with
      operations := fun operation => { state.operations operation with finished := true }
      connections := state.connections.map fun connection =>
        if connection.isActive then { connection with phase := .abandoning none } else connection
      disposed := true }

/-- The state after a step. -/
def step (state : Observer) : ObserverStep → Observer
  | .completeWorld operation =>
      state.change operation fun completed => { completed with worldComplete := true }
  | .endOperation operation => state.ended operation
  | .start operation request made marks opens =>
      state.started operation request made marks opens
  | .place handle marks => state.placed handle marks
  | .stop request flow marks => state.removed request flow marks (.stopping flow)
  | .respond handle response finishes marks => state.responded handle response finishes marks
  | .except request flow marks => state.removed request flow marks (.abandoning flow)
  | .abandon handle marks => state.abandoned handle marks
  | .dispose => state.disposing

/-- The state after some steps. -/
def run (steps : List ObserverStep) (state : Observer) : Observer :=
  steps.foldl step state

/-- The engine delivers no failure of the operation: it was ended or marked, or one of its
observations was abandoned. -/
def Poisoned (state : Observer) (operation : Nat) : Prop :=
  (state.operations operation).finished = true ∨ (state.operations operation).unowned = true ∨
    ∃ connection ∈ state.connections,
      connection.operation = operation ∧ connection.phase = .abandoned

end Observer

/-- A thread that removes a connection reads its response. -/
def ObserverStep.Reads : ObserverStep → Prop
  | .respond _ response _ _ => response ≠ .throws
  | _ => True

/-! ## What every step keeps -/

/-- The dictionary is bounded and empty once the observer is disposed, no connection is nobody's,
and the engine delivers no failure of an operation that lost an interaction. -/
structure Observer.Accounted (state : Observer) : Prop where
  bounded : state.count ≤ maxActiveRequests
  cleared : state.disposed = true → ∀ connection ∈ state.connections, connection.phase ≠ .active
  kept : ∀ connection ∈ state.connections, connection.phase ≠ .dropped
  poisoned : ∀ operation ∈ state.lost, state.Poisoned operation

section Lists

variable {α : Type}

/-- An item of a list with one item changed. -/
theorem mem_modify {items : List α} {position : Nat} {change : α → α} {item : α}
    (member : item ∈ items.modify position change) :
    item ∈ items ∨ ∃ before, items[position]? = some before ∧ item = change before := by
  obtain ⟨index, found⟩ := List.mem_iff_getElem?.mp member
  by_cases same : position = index
  · subst same
    rw [List.getElem?_modify_eq] at found
    obtain ⟨before, present, changed⟩ := Option.map_eq_some_iff.mp found
    exact .inr ⟨before, present, changed.symm⟩
  · rw [List.getElem?_modify_ne _ _ same] at found
    exact .inl (List.mem_of_getElem? found)

/-- An item of a list that is not the one changed. -/
theorem mem_modify_of_ne {items : List α} {position : Nat} {change : α → α} {item : α}
    (member : item ∈ items) (other : items[position]? ≠ some item) :
    item ∈ items.modify position change := by
  obtain ⟨index, found⟩ := List.mem_iff_getElem?.mp member
  have apart : position ≠ index := fun same => other (same ▸ found)
  refine List.mem_iff_getElem?.mpr ⟨index, ?_⟩
  rw [List.getElem?_modify_ne _ _ apart, found]

/-- One changed item adds at most one to a count. -/
theorem countP_modify_le_succ (counts : α → Bool) (items : List α) (position : Nat)
    (change : α → α) :
    (items.modify position change).countP counts ≤ items.countP counts + 1 := by
  induction items generalizing position with
  | nil => simp
  | cons item items ih =>
      cases position with
      | zero =>
          simp only [List.modify_zero_cons, List.countP_cons]
          split <;> split <;> omega
      | succ position =>
          simp only [List.modify_succ_cons, List.countP_cons]
          have := ih position
          omega

/-- A changed item that is not counted adds nothing to a count. -/
theorem countP_modify_le {counts : α → Bool} {change : α → α}
    (uncounted : ∀ item, counts (change item) = false) (items : List α) (position : Nat) :
    (items.modify position change).countP counts ≤ items.countP counts := by
  induction items generalizing position with
  | nil => simp
  | cons item items ih =>
      cases position with
      | zero =>
          simp only [List.modify_zero_cons, List.countP_cons, uncounted]
          simp
      | succ position =>
          simp only [List.modify_succ_cons, List.countP_cons]
          have := ih position
          omega

end Lists

namespace Observer

variable {state : Observer}

/-- A change of an operation that ends or marks it keeps what was poisoned. -/
theorem poisoned_change {operation : Nat} {changed : Operation → Operation}
    (finished : ∀ before, before.finished = true → (changed before).finished = true)
    (unowned : ∀ before, before.unowned = true → (changed before).unowned = true) {other : Nat}
    (poisoned : state.Poisoned other) : (state.change operation changed).Poisoned other := by
  rcases poisoned with ended | marked | abandoned
  · refine .inl ?_
    by_cases same : other = operation
    · subst same
      simpa [change] using finished _ ended
    · simpa [change, Function.update_of_ne same] using ended
  · refine .inr (.inl ?_)
    by_cases same : other = operation
    · subst same
      simpa [change] using unowned _ marked
    · simpa [change, Function.update_of_ne same] using marked
  · exact .inr (.inr abandoned)

/-- Changing an operation keeps the account. -/
theorem Accounted.change (accounted : state.Accounted) {operation : Nat}
    {changed : Operation → Operation}
    (finished : ∀ before, before.finished = true → (changed before).finished = true)
    (unowned : ∀ before, before.unowned = true → (changed before).unowned = true) :
    (state.change operation changed).Accounted where
  bounded := accounted.bounded
  cleared := accounted.cleared
  kept := accounted.kept
  poisoned other lost := poisoned_change finished unowned (accounted.poisoned other lost)

/-- Ending an operation keeps the account. -/
theorem Accounted.ended (accounted : state.Accounted) (operation : Nat) :
    (state.ended operation).Accounted :=
  accounted.change (fun _ _ => rfl) fun _ => id

/-- An operation that was ended is poisoned. -/
theorem poisoned_ended (operation : Nat) : (state.ended operation).Poisoned operation :=
  .inl (by simp [ended, Observer.change])

/-- Marking an operation keeps the account. -/
theorem Accounted.marked (accounted : state.Accounted) (operation : Nat) (marks : Bool) :
    (state.marked operation marks).Accounted := by
  unfold Observer.marked
  split
  · split
    · exact accounted.change (fun _ => id) fun _ _ => rfl
    · exact accounted.ended operation
  · exact accounted

/-- An active operation that is to be marked is poisoned. -/
theorem poisoned_marked {operation : Nat} (active : (state.operations operation).isActive = true)
    (marks : Bool) : (state.marked operation marks).Poisoned operation := by
  unfold Observer.marked
  rw [if_pos active]
  split
  · exact .inr (.inl (by simp [Observer.change]))
  · exact poisoned_ended operation

/-- Marking the operation of a thread keeps the account. -/
theorem Accounted.markedFlow (accounted : state.Accounted) (flow : Option Nat) (marks : Bool) :
    (state.markedFlow flow marks).Accounted := by
  cases flow with
  | none => exact accounted
  | some operation => exact accounted.marked operation marks

/-- Losing an interaction of a poisoned operation keeps the account. -/
theorem Accounted.loses (accounted : state.Accounted) {operation : Nat}
    (poisoned : state.Poisoned operation) : (state.loses operation).Accounted where
  bounded := accounted.bounded
  cleared := accounted.cleared
  kept := accounted.kept
  poisoned other lost := by
    rcases List.mem_cons.mp lost with same | before
    · exact same ▸ poisoned
    · exact accounted.poisoned other before

/-- Moving a connection that was not abandoned keeps what was poisoned. -/
theorem poisoned_moved {handle : Nat} {phase : ConnectionPhase} {connection : Connection}
    (found : state.connections[handle]? = some connection) (open_ : connection.phase ≠ .abandoned)
    {operation : Nat} (poisoned : state.Poisoned operation) :
    (state.moved handle phase).Poisoned operation := by
  rcases poisoned with ended | marked | ⟨other, member, same, abandoned⟩
  · exact .inl ended
  · exact .inr (.inl marked)
  · refine .inr (.inr ⟨other, mem_modify_of_ne member ?_, same, abandoned⟩)
    intro taken
    rw [found] at taken
    cases taken
    exact open_ abandoned

/-- Moving a connection out of the dictionary keeps the account. -/
theorem Accounted.moved (accounted : state.Accounted) {handle : Nat} {phase : ConnectionPhase}
    {connection : Connection} (found : state.connections[handle]? = some connection)
    (open_ : connection.phase ≠ .abandoned) (inactive : phase ≠ .active)
    (kept : phase ≠ .dropped) : (state.moved handle phase).Accounted where
  bounded := Nat.le_trans
    (countP_modify_le (fun item => by simpa [Connection.isActive] using inactive) _ _)
    accounted.bounded
  cleared disposed item member := by
    rcases mem_modify member with before | ⟨_, _, rfl⟩
    · exact accounted.cleared disposed item before
    · exact inactive
  kept item member := by
    rcases mem_modify member with before | ⟨_, _, rfl⟩
    · exact accounted.kept item before
    · exact kept
  poisoned operation lost :=
    poisoned_moved found open_ (accounted.poisoned operation lost)

/-- The operation of an abandoned connection is poisoned. -/
theorem poisoned_abandoned {handle : Nat} {connection : Connection}
    (found : state.connections[handle]? = some connection) :
    (state.moved handle .abandoned).Poisoned connection.operation := by
  refine .inr (.inr ⟨{ connection with phase := .abandoned }, ?_, rfl, rfl⟩)
  refine List.mem_iff_getElem?.mpr ⟨handle, ?_⟩
  simp [Observer.moved, found]

/-- Abandoning a connection keeps the account. -/
theorem Accounted.abandons (accounted : state.Accounted) {handle : Nat} {connection : Connection}
    (found : state.connections[handle]? = some connection)
    (open_ : connection.phase ≠ .abandoned) :
    ((state.moved handle .abandoned).loses connection.operation).Accounted :=
  (accounted.moved found open_ (by simp) (by simp)).loses (poisoned_abandoned found)

/-- What a thread holds of a connection. -/
theorem held_spec {handle : Nat} {phase : ConnectionPhase → Bool} {connection : Connection}
    (held : state.held handle phase = some connection) :
    state.connections[handle]? = some connection ∧ phase connection.phase = true :=
  Option.filter_eq_some_iff.mp held

/-- What the dictionary holds is active. -/
theorem find_spec {request handle : Nat} (found : state.find request = some handle) :
    ∃ connection, state.connections[handle]? = some connection ∧
      connection.phase = .active := by
  obtain ⟨inside, holds, _⟩ := List.findIdx?_eq_some_iff_getElem.mp found
  refine ⟨state.connections[handle], List.getElem?_eq_getElem inside, ?_⟩
  simp only [Bool.and_eq_true] at holds
  simpa [Connection.isActive] using holds.1

/-- Opening a dependency keeps the account. -/
theorem Accounted.opens (accounted : state.Accounted) {connection : Connection}
    (inactive : connection.phase ≠ .active) (kept : connection.phase ≠ .dropped) :
    ({ state with connections := state.connections ++ [connection] } : Observer).Accounted where
  bounded := by
    have uncounted : [connection].countP Connection.isActive = 0 := by
      simp [Connection.isActive, inactive]
    simpa [count, List.countP_append, uncounted] using accounted.bounded
  cleared disposed item member := by
    rcases List.mem_append.mp member with before | new
    · exact accounted.cleared disposed item before
    · exact List.mem_singleton.mp new ▸ inactive
  kept item member := by
    rcases List.mem_append.mp member with before | new
    · exact accounted.kept item before
    · exact List.mem_singleton.mp new ▸ kept
  poisoned operation lost := by
    rcases accounted.poisoned operation lost with ended | marked | ⟨item, member, abandoned⟩
    · exact .inl ended
    · exact .inr (.inl marked)
    · exact .inr (.inr ⟨item, List.mem_append_left _ member, abandoned⟩)

/-- A start keeps the account. -/
theorem accounted_started (accounted : state.Accounted) (operation request : Nat)
    (made marks : Bool) (opens : Option ObservationAction) :
    (state.started operation request made marks opens).Accounted := by
  unfold started
  by_cases active : (state.operations operation).isActive = true
  · rw [if_pos active]
    split
    · split
      · exact (accounted.ended operation).loses (poisoned_ended operation)
      · exact accounted.opens (by simp) (by simp)
      · exact accounted.opens (by simp) (by simp)
    · exact (accounted.marked operation marks).loses (poisoned_marked active marks)
  · rw [if_neg active]
    exact accounted

/-- Keeping a connection keeps the account: the dictionary has room for it. -/
theorem accounted_placed (accounted : state.Accounted) (handle : Nat) (marks : Bool) :
    (state.placed handle marks).Accounted := by
  unfold placed
  split
  · exact accounted
  · rename_i connection held
    obtain ⟨found, phase⟩ := held_spec held
    have opening : connection.phase = .opening := by simpa using phase
    have whole : connection.phase ≠ .abandoned := by simp [opening]
    split
    · exact (accounted.abandons found whole).marked connection.operation marks
    · rename_i kept
      simp only [not_or, Nat.not_le] at kept
      obtain ⟨undisposed, room, _⟩ := kept
      refine ⟨?_, fun disposed => absurd disposed undisposed, ?_, fun operation lost =>
        poisoned_moved found whole (accounted.poisoned operation lost)⟩
      · have grows := countP_modify_le_succ Connection.isActive state.connections handle
          fun connection => { connection with phase := .active }
        exact Nat.le_trans grows room
      · intro item member
        rcases mem_modify member with before | ⟨_, _, rfl⟩
        · exact accounted.kept item before
        · simp

/-- Removing a connection keeps the account. -/
theorem accounted_removed (accounted : state.Accounted) (request flow : Option Nat) (marks : Bool)
    {phase : ConnectionPhase} (inactive : phase ≠ .active) (kept : phase ≠ .dropped) :
    (state.removed request flow marks phase).Accounted := by
  unfold removed
  split
  · exact accounted.markedFlow flow marks
  · rename_i handle found
    obtain ⟨request, _, present⟩ := Option.bind_eq_some_iff.mp found
    obtain ⟨connection, there, active⟩ := find_spec present
    exact accounted.moved there (by simp [active]) inactive kept

/-- The end of a request keeps the account if its response is read. -/
theorem accounted_responded (accounted : state.Accounted) (handle : Nat)
    {response : ResponseRead} (reads : response ≠ .throws) (finishes marks : Bool) :
    (state.responded handle response finishes marks).Accounted := by
  unfold responded
  split
  · rename_i operation request flow found
    have abandons := accounted.abandons found (by simp)
    cases response with
    | throws => exact absurd rfl reads
    | unsupported => exact abandons.markedFlow flow marks
    | unmade => exact abandons
    | made =>
        dsimp only
        split
        · exact accounted.moved found (by simp) (by simp) (by simp)
        · exact abandons
  · exact accounted

/-- Abandoning a connection keeps the account. -/
theorem accounted_abandoned (accounted : state.Accounted) (handle : Nat) (marks : Bool) :
    (state.abandoned handle marks).Accounted := by
  unfold abandoned
  split
  · rename_i operation request flow found
    exact (accounted.abandons found (by simp)).markedFlow flow marks
  · exact accounted

/-- Disposing the observer keeps the account. -/
theorem accounted_disposing (accounted : state.Accounted) : state.disposing.Accounted := by
  unfold disposing
  split
  · exact accounted
  · have cleared : ∀ connection ∈ state.connections.map (fun connection =>
        if connection.isActive then { connection with phase := .abandoning none }
        else connection), connection.phase ≠ .active ∧ connection.phase ≠ .dropped := by
      intro connection member
      obtain ⟨before, present, rfl⟩ := List.mem_map.mp member
      split
      · simp
      · rename_i inactive
        exact ⟨by simpa [Connection.isActive] using inactive, accounted.kept before present⟩
    refine ⟨?_, fun _ connection member => (cleared connection member).1,
      fun connection member => (cleared connection member).2, fun _ _ => .inl rfl⟩
    have empty : (state.connections.map fun connection =>
        if connection.isActive then { connection with phase := .abandoning none }
        else connection).countP Connection.isActive = 0 := by
      rw [List.countP_eq_zero]
      intro connection member
      simpa [Connection.isActive] using (cleared connection member).1
    exact Nat.le_trans (Nat.le_of_eq empty) (Nat.zero_le _)

/-- Every step keeps the account if a thread that removes a connection reads its response. -/
theorem accounted_step (accounted : state.Accounted) {step : ObserverStep} (reads : step.Reads) :
    (state.step step).Accounted := by
  cases step with
  | completeWorld operation =>
      show (state.change operation fun completed =>
        { completed with worldComplete := true }).Accounted
      exact accounted.change (fun _ finished => finished) fun _ unowned => unowned
  | endOperation operation => exact accounted.ended operation
  | start operation request made marks opens =>
      exact accounted_started accounted operation request made marks opens
  | place handle marks => exact accounted_placed accounted handle marks
  | stop request flow marks =>
      exact accounted_removed accounted request flow marks (by simp) (by simp)
  | respond handle response finishes marks =>
      exact accounted_responded accounted handle reads finishes marks
  | except request flow marks =>
      exact accounted_removed accounted request flow marks (by simp) (by simp)
  | abandon handle marks => exact accounted_abandoned accounted handle marks
  | dispose => exact accounted_disposing accounted

/-- The account holds in every state of a run. -/
theorem accounted_run {steps : List ObserverStep} (reads : ∀ step ∈ steps, step.Reads)
    (accounted : state.Accounted) : (state.run steps).Accounted := by
  induction steps generalizing state with
  | nil => exact accounted
  | cons step steps ih =>
      exact ih (fun later member => reads later (List.mem_cons_of_mem _ member))
        (accounted_step accounted (reads step List.mem_cons_self))

/-- A connection that no thread holds is finished or abandoned once the observer is disposed. -/
theorem Accounted.settled (accounted : state.Accounted) (disposed : state.disposed = true)
    {connection : Connection} (member : connection ∈ state.connections)
    (free : connection.isHeld = false) :
    connection.phase = .finished ∨ connection.phase = .abandoned := by
  have inactive := accounted.cleared disposed connection member
  have kept := accounted.kept connection member
  unfold Connection.isHeld at free
  cases phase : connection.phase with
  | opening => simp [phase] at free
  | active => exact absurd phase inactive
  | stopping flow => simp [phase] at free
  | abandoning flow => simp [phase] at free
  | finished => exact .inl rfl
  | abandoned => exact .inr rfl
  | dropped => exact absurd phase kept

end Observer

/-! ## The translator and the observer together -/

/-- A dependency call is transparent exactly if its request can be built or its operation delivers
no failure anyway.  In every run of the observer in which a thread that removes a connection reads
its response, the dictionary stays bounded, every connection is kept, held by a thread, finished or
abandoned, and the engine delivers no failure of an operation that lost an interaction. -/
theorem dependency_capture_accounted {τ ε : Type} (bridge : SdkEngineBridge)
    (strictUtf8 : τ → Option Bytes) (encodeBase64Url : Bytes → Bytes)
    (reconstructResponse : Bytes → String → Option SemanticDependencyResponse) (captureError : ε)
    (live : Nat → Except ε (SemanticDependencyResponse × Option ε)) (operation : Nat)
    (request : SemanticDependencyRequest τ) (calls lives streams : Nat)
    (operations : Nat → AutomaticOperation) (steps : List ObserverStep)
    (observed : Nat → Operation) :
    let process := HostProcess.start calls lives streams operations
    let built := makeRequest strictUtf8 encodeBase64Url request
    (Transparent (seenLive live) (replaysTranslate bridge operation built process) [operation]
        process
        (translate bridge strictUtf8 encodeBase64Url reconstructResponse captureError live operation
          request process) ↔
      built.isSome = true ∨ process.Lost operation) ∧
    ((∀ step ∈ steps, step.Reads) →
      let state := Observer.run steps { operations := observed }
      state.count ≤ maxActiveRequests ∧
        (∀ connection ∈ state.connections, connection.isActive = true ∨
          connection.isHeld = true ∨ connection.phase = .finished ∨
          connection.phase = .abandoned) ∧
        (state.disposed = true → ∀ connection ∈ state.connections, connection.isHeld = false →
          connection.phase = .finished ∨ connection.phase = .abandoned) ∧
        ∀ loser ∈ state.lost, state.Poisoned loser) := by
  intro process built
  refine ⟨transparent_translate_iff bridge strictUtf8 encodeBase64Url reconstructResponse
    captureError live operation request process rfl rfl, fun reads => ?_⟩
  have begins : ({ operations := observed } : Observer).Accounted :=
    ⟨Nat.zero_le _, by simp, by simp, by simp⟩
  have accounted := Observer.accounted_run reads begins
  refine ⟨accounted.bounded, fun connection member => ?_,
    fun disposed connection member => accounted.settled disposed member, accounted.poisoned⟩
  have kept := accounted.kept connection member
  unfold Connection.isActive Connection.isHeld
  cases phase : connection.phase <;> simp_all

/-- A request whose encoding is not a text is passed through while its operation stays active, and a
connection is nobody's after its response could not be read. -/
theorem dependency_capture_unaccounted :
    let bridge : SdkEngineBridge :=
      { openDependency := fun _ _ => some "capture", finishDependency := fun _ _ => some "response"
        openObservation := fun _ => true, writeObservation := fun _ _ => true
        dispatchObservation := fun _ => some "capture", readObservation := fun _ => none
        finishObservation := fun _ _ => true, markOperationUnowned := fun _ => true }
    let request : SemanticDependencyRequest (Option Bytes) :=
      { encoding := none, metadata := [], method := none
        observationClass := some (asciiBytes "outbound-http")
        operation := some (asciiBytes "outbound-http-request"), payload := []
        protocol := some (asciiBytes "http"), target := some [] }
    let process := HostProcess.start 0 0 0 fun _ => { active := true, unowned := false }
    let response : SemanticDependencyResponse := ⟨none, none, [], "response", none, none, none⟩
    let live : Nat → Except Unit (SemanticDependencyResponse × Option Unit) :=
      fun _ => .ok (response, none)
    let state := Observer.run
      [.start 0 0 true true (some .capture), .place 0 true, .stop (some 0) none true,
        .respond 0 .throws true true, .dispose] { operations := fun _ => {} }
    ¬ Transparent (seenLive live) (replaysTranslate bridge 0 (makeRequest id id request) process)
        [0] process (translate bridge id id (fun _ _ => none) () live 0 request process) ∧
      ∃ connection ∈ state.connections, connection.phase = .dropped := by
  intro bridge request process response live state
  refine ⟨fun transparent => ?_, ⟨0, 0, .dropped⟩, by decide, rfl⟩
  have condition := (transparent_translate_iff bridge id id (fun _ _ => none) () live 0 request
    process rfl rfl).mp transparent
  rcases condition with impossible | inactive | unowned
  · cases impossible
  · cases inactive
  · cases unowned

end DotNet
end Native
end Wrappers
end ReproItSdk
