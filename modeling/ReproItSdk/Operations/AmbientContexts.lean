import Mathlib.Data.List.Infix
import Mathlib.Logic.Function.Basic
import ReproItSdk.Library.Runs

/-! # Ambient contexts of the .NET SDK

An activation of an operation is a node that points to the activation around it, and each
asynchronous flow holds one node in a slot of its own.  A flow that starts from another one gets a
copy of the slot.  An activation of a fuzz context keeps the value that it put aside.

The state also lists, for each flow, the activations that enclose what the flow runs.

Main results:

- Theorem {lit}`sound_run`: what the slots hold after every run.
- Theorem {lit}`activeOperation_eq`: the walk from a slot finds the innermost enclosing operation
  that is active, unless it stops before.
- Theorem {lit}`fuzzSound_run`: what the fuzz slots hold when activations are disposed in order.
- Theorem {lit}`ambient_contexts`: what both contexts return in every flow.
-/

namespace ReproItSdk
namespace AmbientContexts

/-! ## State -/

/-- Identity of a {lit}`FuzzCampaignContext`: an inbound one, or one that {lit}`WithParent` made
for an operation. -/
inductive FuzzContext where
  | inbound (id : Nat)
  | withParent (context : FuzzContext) (operation : Nat)
deriving DecidableEq, Repr

/-- {lit}`AutomaticOperationActivation`, with the operation it was made for and whether it was
disposed. -/
structure OperationActivation where
  operation : Option Nat
  parent : Option Nat
  owner : Nat
  disposed : Bool
deriving DecidableEq, Repr

/-- {lit}`AutomaticOperation`. -/
structure AutomaticOperation where
  finished : Bool
  worldComplete : Bool
  activations : List Nat
  automaticActivation : Option Nat
  fuzzContext : Option FuzzContext
deriving DecidableEq, Repr

/-- {lit}`DistributedFuzz.Activation`. -/
structure FuzzActivation where
  context : FuzzContext
  parent : Option FuzzContext
  disposed : Bool
deriving DecidableEq, Repr

/-- The objects of a process, the slots of its flows, and what encloses what a flow runs, innermost
first.  A flow is disordered when an activation of a fuzz context around it was disposed in another
flow, or when it disposed one that was not its innermost. -/
structure Contexts where
  operations : List AutomaticOperation
  activations : List OperationActivation
  fuzzActivations : List FuzzActivation
  current : Nat → Option Nat
  fuzzCurrent : Nat → Option FuzzContext
  enclosing : Nat → List Nat
  fuzzEnclosing : Nat → List Nat
  disordered : Nat → Bool

/-- A process that has started nothing. -/
def Contexts.new : Contexts where
  operations := []
  activations := []
  fuzzActivations := []
  current := fun _ => none
  fuzzCurrent := fun _ => none
  enclosing := fun _ => []
  fuzzEnclosing := fun _ => []
  disordered := fun _ => false

/-- What happens in the flows. -/
inductive Event where
  | fork (parent child : Nat)
  | startOperation (flow : Nat)
  | activate (flow operation : Nat)
  | dispose (flow activation : Nat)
  | closeWorld (operation : Nat)
  | finish (flow operation : Nat)
  | activateFuzz (flow : Nat) (context : FuzzContext)
  | disposeFuzz (flow activation : Nat)
deriving DecidableEq, Repr

namespace Contexts

/-- {lit}`IsActive`. -/
def isActive (contexts : Contexts) (operation : Nat) : Bool :=
  match contexts.operations[operation]? with
  | some state => !state.finished && !state.worldComplete
  | none => false

/-- The active operation of an activation. -/
def activeOf (contexts : Contexts) (activation : Nat) : Option Nat :=
  match contexts.activations[activation]? with
  | some node => node.operation.filter contexts.isActive
  | none => none

/-- The parent of an activation. -/
def parentOf (contexts : Contexts) (activation : Nat) : Option Nat :=
  contexts.activations[activation]?.bind OperationActivation.parent

/-- The loop of {lit}`ActiveOperation`, with the number of turns that are left. -/
def walk (contexts : Contexts) : Nat → Option Nat → Option Nat
  | 0, _ => none
  | _ + 1, none => none
  | depth + 1, some activation =>
      match contexts.activeOf activation with
      | some operation => some operation
      | none => walk contexts depth (contexts.parentOf activation)

/-- {lit}`ActiveOperation`. -/
def activeOperation (contexts : Contexts) (flow : Nat) : Option Nat :=
  contexts.walk 64 (contexts.current flow)

/-- {lit}`DistributedFuzz.Active`. -/
def activeFuzz (contexts : Contexts) (flow : Nat) : Option FuzzContext :=
  match (contexts.activeOperation flow).bind fun operation =>
      contexts.operations[operation]?.bind AutomaticOperation.fuzzContext with
  | some context => some context
  | none => contexts.fuzzCurrent flow

/-- {lit}`Activate`; an operation that is not active refuses its activation. -/
def activate (contexts : Contexts) (flow operation : Nat) : Contexts :=
  if contexts.isActive operation then
    { contexts with
      activations := contexts.activations ++
        [{ operation := some operation, parent := contexts.current flow, owner := operation,
           disposed := false }]
      operations := contexts.operations.modify operation fun state =>
        { state with activations := contexts.activations.length :: state.activations }
      current := Function.update contexts.current flow (some contexts.activations.length)
      enclosing := Function.update contexts.enclosing flow
        (contexts.activations.length :: contexts.enclosing flow) }
  else contexts

/-- {lit}`ReleaseOperation` and {lit}`UnregisterActivation`. -/
def release (contexts : Contexts) (activation : Nat) : Contexts :=
  { contexts with
    activations := contexts.activations.modify activation fun node =>
      { node with operation := none, disposed := true }
    operations :=
      match contexts.activations[activation]?.bind OperationActivation.operation with
      | some operation => contexts.operations.modify operation fun state =>
          { state with activations := state.activations.filter (· ≠ activation) }
      | none => contexts.operations }

/-- {lit}`Deactivate`. -/
def deactivate (contexts : Contexts) (flow activation : Nat) : Contexts :=
  if contexts.current flow = some activation then
    { contexts with
      current := Function.update contexts.current flow (contexts.parentOf activation) }.release
        activation
  else contexts.release activation

/-- {lit}`ClearOperation` of the activations that an operation has left. -/
def clearActivations (contexts : Contexts) (operation : Nat) : Contexts :=
  let remaining := (contexts.operations[operation]?.map AutomaticOperation.activations).getD []
  { contexts with
    activations := contexts.activations.mapIdx fun activation node =>
      if activation ∈ remaining ∧ node.operation = some operation then
        { node with operation := none }
      else node
    operations := contexts.operations.modify operation fun state =>
      { state with activations := [] } }

/-- {lit}`FinishLocked`. -/
def finishLocked (contexts : Contexts) (flow operation : Nat) (state : AutomaticOperation) :
    Contexts :=
  let ended : Contexts :=
    { contexts with
      operations := contexts.operations.modify operation fun state =>
        { state with finished := true, automaticActivation := none } }
  match state.automaticActivation with
  | some activation => (ended.deactivate flow activation).clearActivations operation
  | none => ended.clearActivations operation

/-- An end of an operation that may have ended before. -/
def finish (contexts : Contexts) (flow operation : Nat) : Contexts :=
  match contexts.operations[operation]? with
  | some state =>
      if state.finished then contexts else contexts.finishLocked flow operation state
  | none => contexts

/-- {lit}`StartOperation`, which activates the operation in the flow. -/
def startOperation (contexts : Contexts) (flow : Nat) : Contexts :=
  let operation := contexts.operations.length
  let started : Contexts :=
    { contexts with
      operations := contexts.operations ++
        [{ finished := false, worldComplete := false, activations := [],
           automaticActivation := none,
           fuzzContext := (contexts.activeFuzz flow).map (.withParent · operation) }] }
  let activated := started.activate flow operation
  { activated with
    operations := activated.operations.modify operation fun state =>
      { state with automaticActivation := some contexts.activations.length } }

/-- {lit}`CloseWorld` of an active operation. -/
def closeWorld (contexts : Contexts) (operation : Nat) : Contexts :=
  { contexts with
    operations := contexts.operations.modify operation fun state =>
      { state with worldComplete := true } }

/-- {lit}`DistributedFuzz.Activate`. -/
def activateFuzz (contexts : Contexts) (flow : Nat) (context : FuzzContext) : Contexts :=
  { contexts with
    fuzzActivations := contexts.fuzzActivations ++
      [{ context := context, parent := contexts.fuzzCurrent flow, disposed := false }]
    fuzzCurrent := Function.update contexts.fuzzCurrent flow (some context)
    fuzzEnclosing := Function.update contexts.fuzzEnclosing flow
      (contexts.fuzzActivations.length :: contexts.fuzzEnclosing flow) }

/-- An activation of a fuzz context was not disposed. -/
def fuzzLive (contexts : Contexts) (activation : Nat) : Bool :=
  contexts.fuzzActivations[activation]?.any fun node => !node.disposed

/-- The innermost activation of a fuzz context around a flow that was not disposed. -/
def innermostFuzz (contexts : Contexts) (flow : Nat) : Option Nat :=
  (contexts.fuzzEnclosing flow).find? contexts.fuzzLive

/-- A disposal leaves a flow out of order. -/
def disorders (contexts : Contexts) (flow activation other : Nat) : Bool :=
  decide ((activation ∈ contexts.fuzzEnclosing other ∨ other = flow) ∧
    ¬ (other = flow ∧ contexts.innermostFuzz flow = some activation))

/-- {lit}`Dispose` of an activation of a fuzz context. -/
def disposeFuzz (contexts : Contexts) (flow activation : Nat) : Contexts :=
  match contexts.fuzzActivations[activation]? with
  | some node =>
      if node.disposed then contexts
      else
        { contexts with
          fuzzActivations := contexts.fuzzActivations.modify activation fun node =>
            { node with disposed := true }
          fuzzCurrent := Function.update contexts.fuzzCurrent flow
            (if contexts.fuzzCurrent flow = some node.context then node.parent
             else contexts.fuzzCurrent flow)
          disordered := fun other =>
            contexts.disordered other || contexts.disorders flow activation other }
  | none => contexts

/-- A flow that starts from another one. -/
def fork (contexts : Contexts) (parent child : Nat) : Contexts :=
  { contexts with
    current := Function.update contexts.current child (contexts.current parent)
    fuzzCurrent := Function.update contexts.fuzzCurrent child (contexts.fuzzCurrent parent)
    enclosing := Function.update contexts.enclosing child (contexts.enclosing parent)
    fuzzEnclosing := Function.update contexts.fuzzEnclosing child
      (contexts.fuzzEnclosing parent)
    disordered := Function.update contexts.disordered child (contexts.disordered parent) }

/-- One event. -/
def step (contexts : Contexts) : Event → Contexts
  | .fork parent child => contexts.fork parent child
  | .startOperation flow => contexts.startOperation flow
  | .activate flow operation => contexts.activate flow operation
  | .dispose flow activation => contexts.deactivate flow activation
  | .closeWorld operation => contexts.closeWorld operation
  | .finish flow operation => contexts.finish flow operation
  | .activateFuzz flow context => contexts.activateFuzz flow context
  | .disposeFuzz flow activation => contexts.disposeFuzz flow activation

/-- A run. -/
def run (contexts : Contexts) (events : List Event) : Contexts :=
  events.foldl step contexts

end Contexts

/-! ## What encloses a flow -/

/-- The operation of an activation that was not disposed, while it is active. -/
def Contexts.liveOwner (contexts : Contexts) (activation : Nat) : Option Nat :=
  match contexts.activations[activation]? with
  | some node =>
      if node.disposed = false ∧ contexts.isActive node.owner = true then some node.owner else none
  | none => none

/-- The innermost activation around a flow whose operation is active and that was not disposed. -/
def Contexts.innermost (contexts : Contexts) (flow : Nat) : Option Nat :=
  (contexts.enclosing flow).find? fun activation => (contexts.liveOwner activation).isSome

/-- The activations that a walk visits, whatever it finds. -/
def Contexts.visited (contexts : Contexts) : Nat → Option Nat → List Nat
  | 0, _ => []
  | _ + 1, none => []
  | depth + 1, some activation =>
      activation :: visited contexts depth (contexts.parentOf activation)

/-- Activations that point from a slot outwards. -/
inductive Chain (contexts : Contexts) : Option Nat → List Nat → Prop
  | nil : Chain contexts none []
  | cons {activation : Nat} {node : OperationActivation} {rest : List Nat}
      (found : contexts.activations[activation]? = some node)
      (outer : Chain contexts node.parent rest) : Chain contexts (some activation)
        (activation :: rest)

/-- An activation was disposed. -/
def Contexts.Disposed (contexts : Contexts) (activation : Nat) : Prop :=
  ∃ node, contexts.activations[activation]? = some node ∧ node.disposed = true

/-- A list without some of its entries that are gone. -/
inductive Skips (gone : Nat → Prop) : List Nat → List Nat → Prop
  | nil : Skips gone [] []
  | keep (entry : Nat) {entries kept : List Nat} (rest : Skips gone entries kept) :
      Skips gone (entry :: entries) (entry :: kept)
  | drop {entry : Nat} {entries kept : List Nat} (absent : gone entry)
      (rest : Skips gone entries kept) : Skips gone (entry :: entries) kept

/-- What the slots and the activations hold. -/
structure Sound (contexts : Contexts) : Prop where
  owned : ∀ (activation : Nat) (node : OperationActivation),
    contexts.activations[activation]? = some node → ∃ state : AutomaticOperation,
      contexts.operations[node.owner]? = some state
  chains : ∀ flow, ∃ nodes, Skips contexts.Disposed (contexts.enclosing flow) nodes ∧
    Chain contexts (contexts.current flow) nodes
  held : ∀ (activation : Nat) (node : OperationActivation) (operation : Nat),
    contexts.activations[activation]? = some node → node.operation = some operation →
      operation = node.owner ∧ node.disposed = false
  cleared : ∀ (activation : Nat) (node : OperationActivation),
    contexts.activations[activation]? = some node → node.operation = none →
      node.disposed = true ∨ ∃ state : AutomaticOperation,
        contexts.operations[node.owner]? = some state ∧ state.finished = true

/-- Objects stay, point where they pointed, and do not come back to life. -/
structure Aged (before after : Contexts) : Prop where
  activations : ∀ (activation : Nat) (node : OperationActivation),
    before.activations[activation]? = some node → ∃ node' : OperationActivation,
      after.activations[activation]? = some node' ∧ node'.parent = node.parent ∧
        node'.owner = node.owner ∧ (node.disposed = true → node'.disposed = true)
  operations : ∀ (operation : Nat) (state : AutomaticOperation),
    before.operations[operation]? = some state → ∃ state' : AutomaticOperation,
      after.operations[operation]? = some state' ∧
      (state.finished = true → state'.finished = true) ∧
      (state.worldComplete = true → state'.worldComplete = true) ∧
      state'.fuzzContext = state.fuzzContext

section Aging

variable {before middle after contexts : Contexts}

/-- Nothing ages at once. -/
theorem Aged.refl (contexts : Contexts) : Aged contexts contexts where
  activations _ node found := ⟨node, found, rfl, rfl, id⟩
  operations _ state found := ⟨state, found, id, id, rfl⟩

/-- Objects age further. -/
theorem Aged.trans (first : Aged before middle) (second : Aged middle after) :
    Aged before after where
  activations := by
    intro activation node found
    rcases first.activations activation node found with ⟨node', found', parent, owner, disposed⟩
    rcases second.activations activation node' found' with
      ⟨node'', found'', parent', owner', disposed'⟩
    exact ⟨node'', found'', parent'.trans parent, owner'.trans owner, disposed' ∘ disposed⟩
  operations := by
    intro operation state found
    rcases first.operations operation state found with ⟨state', found', finished, complete, fuzz⟩
    rcases second.operations operation state' found' with
      ⟨state'', found'', finished', complete', fuzz'⟩
    exact ⟨state'', found'', finished' ∘ finished, complete' ∘ complete, fuzz'.trans fuzz⟩

/-- A chain stays a chain. -/
theorem Chain.aged (aged : Aged before after) {slot : Option Nat} {nodes : List Nat}
    (chain : Chain before slot nodes) : Chain after slot nodes := by
  induction chain with
  | nil => exact .nil
  | cons found outer ih =>
      rcases aged.activations _ _ found with ⟨node', found', parent, -, -⟩
      exact .cons found' (parent ▸ ih)

/-- A disposed activation stays disposed. -/
theorem Aged.disposed (aged : Aged before after) {activation : Nat}
    (disposed : before.Disposed activation) : after.Disposed activation := by
  rcases disposed with ⟨node, found, gone⟩
  rcases aged.activations activation node found with ⟨node', found', -, -, kept⟩
  exact ⟨node', found', kept gone⟩

/-- An operation that is active was so before, if it was there. -/
theorem Aged.isActive (aged : Aged before after) {operation : Nat} {state : AutomaticOperation}
    (found : before.operations[operation]? = some state)
    (active : after.isActive operation = true) : before.isActive operation = true := by
  rcases aged.operations operation state found with ⟨state', found', finished, complete, -⟩
  simp only [Contexts.isActive, found', found, Bool.and_eq_true, Bool.not_eq_true'] at active ⊢
  refine ⟨?_, ?_⟩
  · exact Bool.eq_false_iff.mpr fun ended => nomatch (finished ended).symm.trans active.1
  · exact Bool.eq_false_iff.mpr fun closed => nomatch (complete closed).symm.trans active.2

/-- What was left out stays gone. -/
theorem Skips.mono {gone gone' : Nat → Prop} (implied : ∀ entry, gone entry → gone' entry)
    {entries kept : List Nat} (skips : Skips gone entries kept) : Skips gone' entries kept := by
  induction skips with
  | nil => exact .nil
  | keep entry _ ih => exact .keep entry ih
  | drop absent _ ih => exact .drop (implied _ absent) ih

/-- The first entry that was kept may be left out once it is gone. -/
theorem Skips.tail {gone : Nat → Prop} {first : Nat} {entries kept rest : List Nat}
    (skips : Skips gone entries kept) (starts : kept = first :: rest) (absent : gone first) :
    Skips gone entries rest := by
  induction skips with
  | nil => cases starts
  | keep entry later _ =>
      cases starts
      exact .drop absent later
  | drop lost _ ih => exact .drop lost (ih starts)

/-- An entry that is found beyond what is gone is found in the whole list. -/
theorem Skips.find?_eq {gone : Nat → Prop} {found : Nat → Bool}
    (absent : ∀ entry, gone entry → found entry = false) {entries kept : List Nat}
    (skips : Skips gone entries kept) : entries.find? found = kept.find? found := by
  induction skips with
  | nil => rfl
  | keep entry _ ih => rw [List.find?_cons, List.find?_cons, ih]
  | drop lost _ ih => rw [List.find?_cons, absent _ lost, ih]

/-- What is left is no longer, up to any entry that is not gone. -/
theorem Skips.mem_take {gone : Nat → Prop} {entries kept : List Nat}
    (skips : Skips gone entries kept) {entry : Nat} (present : ¬ gone entry) (count : Nat)
    (early : entry ∈ entries.take count) : entry ∈ kept.take count := by
  induction skips generalizing count with
  | nil => exact early
  | keep first _ ih =>
      cases count with
      | zero => exact early
      | succ count =>
          rw [List.take_succ_cons, List.mem_cons] at early ⊢
          exact early.imp_right (ih count)
  | drop lost _ ih =>
      cases count with
      | zero => exact absurd early (by simp)
      | succ count =>
          rw [List.take_succ_cons, List.mem_cons] at early
          rcases early with rfl | later
          · exact absurd lost present
          · exact List.take_subset_take_left _ (Nat.le_succ count) (ih count later)

/-- Slots and enclosures that stay keep their chains. -/
theorem Aged.chain (aged : Aged before after) {slot : Option Nat} {around : List Nat}
    (held : ∃ nodes, Skips before.Disposed around nodes ∧ Chain before slot nodes) :
    ∃ nodes, Skips after.Disposed around nodes ∧ Chain after slot nodes := by
  rcases held with ⟨nodes, skips, chain⟩
  exact ⟨nodes, skips.mono fun _ => aged.disposed, chain.aged aged⟩

/-- A walk along a chain finds the first activation that is active. -/
theorem Chain.walk_eq {slot : Option Nat} {nodes : List Nat} (chain : Chain contexts slot nodes)
    (depth : Nat) :
    contexts.walk depth slot = (nodes.take depth).findSome? contexts.activeOf ∧
      contexts.visited depth slot = nodes.take depth := by
  induction chain generalizing depth with
  | nil => cases depth <;> exact ⟨rfl, rfl⟩
  | cons found outer ih =>
      cases depth with
      | zero => exact ⟨rfl, rfl⟩
      | succ depth =>
          rw [Contexts.walk, Contexts.visited, Contexts.parentOf, found, Option.bind_some,
            (ih depth).1, (ih depth).2, List.take_succ_cons, List.findSome?_cons]
          refine ⟨?_, rfl⟩
          cases contexts.activeOf _ <;> rfl

/-- The active operation of an activation is that of its owner, unless it was disposed. -/
theorem Sound.activeOf_eq (sound : Sound contexts) (activation : Nat) :
    contexts.activeOf activation = contexts.liveOwner activation := by
  unfold Contexts.activeOf Contexts.liveOwner
  cases found : contexts.activations[activation]? with
  | none => rfl
  | some node =>
      cases held : node.operation with
      | some operation =>
          rcases sound.held activation node operation found held with ⟨rfl, kept⟩
          simp [held, kept, Option.filter]
      | none =>
          rcases sound.cleared activation node found held with gone | ⟨state, present, finished⟩
          · simp [held, gone]
          · simp [held, Contexts.isActive, present, finished]

/-- Disposed activations are not live. -/
theorem Contexts.Disposed.liveOwner {activation : Nat} (disposed : contexts.Disposed activation) :
    contexts.liveOwner activation = none := by
  rcases disposed with ⟨node, found, gone⟩
  simp [Contexts.liveOwner, found, gone]

end Aging

/-! ## What the events keep -/

section Steps

variable {contexts : Contexts}

/-- A process that has started nothing is sound. -/
theorem sound_new : Sound Contexts.new where
  owned := by simp [Contexts.new]
  chains _ := ⟨[], .nil, .nil⟩
  held := by simp [Contexts.new]
  cleared := by simp [Contexts.new]

/-- A change of an operation that neither revives nor reopens it, nor gives it a fuzz context. -/
def Ages (change : AutomaticOperation → AutomaticOperation) : Prop :=
  ∀ state, (state.finished = true → (change state).finished = true) ∧
    (state.worldComplete = true → (change state).worldComplete = true) ∧
    (change state).fuzzContext = state.fuzzContext

/-- Operations that change at one place. -/
theorem operations_modify {change : AutomaticOperation → AutomaticOperation}
    (ages : Ages change) (operations : List AutomaticOperation) (place operation : Nat)
    (state : AutomaticOperation) (found : operations[operation]? = some state) :
    ∃ state', (operations.modify place change)[operation]? = some state' ∧
      (state.finished = true → state'.finished = true) ∧
      (state.worldComplete = true → state'.worldComplete = true) ∧
      state'.fuzzContext = state.fuzzContext := by
  rw [List.getElem?_modify, found]
  by_cases here : place = operation
  · exact ⟨change state, by simp [here], ages state⟩
  · exact ⟨state, by simp [here], id, id, rfl⟩

/-- An operation that has finished stays so. -/
theorem Aged.finished {before after : Contexts} (aged : Aged before after) {operation : Nat}
    (held : ∃ state : AutomaticOperation,
      before.operations[operation]? = some state ∧ state.finished = true) :
    ∃ state : AutomaticOperation,
      after.operations[operation]? = some state ∧ state.finished = true := by
  rcases held with ⟨state, present, finished⟩
  rcases aged.operations operation state present with ⟨state', present', kept, -⟩
  exact ⟨state', present', kept finished⟩

/-- An operation that was there stays there. -/
theorem Aged.present {before after : Contexts} (aged : Aged before after) {operation : Nat}
    (held : ∃ state : AutomaticOperation, before.operations[operation]? = some state) :
    ∃ state : AutomaticOperation, after.operations[operation]? = some state := by
  rcases held with ⟨state, present⟩
  rcases aged.operations operation state present with ⟨state', present', -, -⟩
  exact ⟨state', present'⟩

/-- A sound process stays so when its operations age. -/
theorem Sound.operations (sound : Sound contexts) {operations : List AutomaticOperation}
    (aged : Aged contexts { contexts with operations := operations }) :
    Sound { contexts with operations := operations } where
  owned activation node found := aged.present (sound.owned activation node found)
  chains flow := aged.chain (sound.chains flow)
  held := sound.held
  cleared activation node found none :=
    (sound.cleared activation node found none).imp_right aged.finished

/-- A change of an operation ages the process. -/
theorem aged_modify {change : AutomaticOperation → AutomaticOperation} (ages : Ages change)
    (contexts : Contexts) (operation : Nat) :
    Aged contexts { contexts with operations := contexts.operations.modify operation change } where
  activations _ node found := ⟨node, found, rfl, rfl, id⟩
  operations other state found :=
    operations_modify ages contexts.operations operation other state found

/-- What a flow that starts changes ages nothing. -/
theorem aged_fork (contexts : Contexts) (parent child : Nat) :
    Aged contexts (contexts.fork parent child) :=
  ⟨fun _ node found => ⟨node, found, rfl, rfl, id⟩, fun _ state found => ⟨state, found, id, id, rfl⟩⟩

/-- A flow that starts has the chain of the flow it starts from. -/
theorem Sound.fork (sound : Sound contexts) (parent child : Nat) :
    Sound (contexts.fork parent child) where
  owned := sound.owned
  chains flow := by
    apply (aged_fork contexts parent child).chain
    simp only [Contexts.fork, Function.update_apply]
    by_cases started : flow = child
    · simp only [started, if_true]
      exact sound.chains parent
    · simp only [started, if_false]
      exact sound.chains flow
  held := sound.held
  cleared := sound.cleared

/-- An entry of a list with one more entry is an old one or the last. -/
theorem getElem?_concat_cases {α : Type} {entries : List α} {last entry : α} {place : Nat}
    (found : (entries ++ [last])[place]? = some entry) :
    entries[place]? = some entry ∨ place = entries.length ∧ entry = last := by
  rcases Nat.lt_trichotomy place entries.length with before | rfl | beyond
  · rw [List.getElem?_append_left before] at found
    exact .inl found
  · rw [List.getElem?_concat_length] at found
    exact .inr ⟨rfl, (Option.some.inj found).symm⟩
  · rw [List.getElem?_eq_none (by simp; omega)] at found
    cases found

/-- An entry of a list stays when one is added. -/
theorem getElem?_concat_of_some {α : Type} {entries : List α} {last entry : α} {place : Nat}
    (found : entries[place]? = some entry) : (entries ++ [last])[place]? = some entry :=
  (List.getElem?_append_left (List.getElem?_eq_some_iff.mp found).1).trans found

/-- An activation ages nothing. -/
theorem aged_activate (contexts : Contexts) (flow operation : Nat) :
    Aged contexts (contexts.activate flow operation) := by
  unfold Contexts.activate
  by_cases active : contexts.isActive operation = true
  · rw [if_pos active]
    constructor
    · intro activation node found
      exact ⟨node, getElem?_concat_of_some found, rfl, rfl, id⟩
    · intro other state found
      have ages : Ages fun state =>
          { state with activations := contexts.activations.length :: state.activations } :=
        fun _ => ⟨id, id, rfl⟩
      exact operations_modify ages contexts.operations operation other state found
  · rw [if_neg active]
    exact Aged.refl contexts

/-- An operation that is active is there. -/
theorem exists_of_isActive {operation : Nat} (active : contexts.isActive operation = true) :
    ∃ state : AutomaticOperation, contexts.operations[operation]? = some state := by
  unfold Contexts.isActive at active
  cases found : contexts.operations[operation]? with
  | none =>
      rw [found] at active
      cases active
  | some state => exact ⟨state, rfl⟩

/-- A new activation points to the slot of its flow. -/
theorem Sound.activate (sound : Sound contexts) (flow operation : Nat) :
    Sound (contexts.activate flow operation) := by
  have aged := aged_activate contexts flow operation
  unfold Contexts.activate at aged ⊢
  by_cases active : contexts.isActive operation = true
  · rw [if_pos active] at aged ⊢
    constructor
    · intro activation node found
      rcases getElem?_concat_cases found with before | ⟨-, rfl⟩
      · exact aged.present (sound.owned activation node before)
      · exact aged.present (exists_of_isActive active)
    · intro other
      by_cases here : other = flow
      · rcases aged.chain (sound.chains flow) with ⟨nodes, skips, chain⟩
        simp only [here, Function.update_self]
        exact ⟨_, .keep _ skips, .cons (List.getElem?_concat_length ..) chain⟩
      · simp only [here, Function.update_of_ne, ne_eq, not_false_eq_true]
        exact aged.chain (sound.chains other)
    · intro activation node held found some
      rcases getElem?_concat_cases found with before | ⟨-, rfl⟩
      · exact sound.held activation node held before some
      · cases some
        exact ⟨rfl, rfl⟩
    · intro activation node found none
      rcases getElem?_concat_cases found with before | ⟨-, rfl⟩
      · exact (sound.cleared activation node before none).imp_right aged.finished
      · cases none
  · rw [if_neg active]
    exact sound

/-- The activations after one was released. -/
theorem getElem?_release (contexts : Contexts) (activation other : Nat) :
    (contexts.release activation).activations[other]? =
      contexts.activations[other]?.map fun node =>
        if activation = other then { node with operation := none, disposed := true } else node := by
  unfold Contexts.release
  rw [List.getElem?_modify]
  cases contexts.activations[other]? with
  | none => rfl
  | some node => by_cases here : activation = other <;> simp [here]

/-- A release ages the process. -/
theorem aged_release (contexts : Contexts) (activation : Nat) :
    Aged contexts (contexts.release activation) where
  activations other node found := by
    rw [getElem?_release, found, Option.map_some]
    by_cases here : activation = other
    · rw [if_pos here]
      exact ⟨_, rfl, rfl, rfl, fun _ => rfl⟩
    · rw [if_neg here]
      exact ⟨_, rfl, rfl, rfl, id⟩
  operations other state found := by
    unfold Contexts.release
    cases contexts.activations[activation]?.bind OperationActivation.operation with
    | none => exact ⟨state, found, id, id, rfl⟩
    | some operation =>
        have ages : Ages fun state =>
            { state with activations := state.activations.filter (· ≠ activation) } :=
          fun _ => ⟨id, id, rfl⟩
        exact operations_modify ages contexts.operations operation other state found

/-- A released activation that was there is disposed. -/
theorem disposed_release (contexts : Contexts) {activation : Nat} {node : OperationActivation}
    (found : contexts.activations[activation]? = some node) :
    (contexts.release activation).Disposed activation :=
  ⟨_, by rw [getElem?_release, found, Option.map_some, if_pos rfl], rfl⟩

/-- A process stays sound when an activation is released. -/
theorem Sound.release (sound : Sound contexts) (activation : Nat) :
    Sound (contexts.release activation) := by
  have aged := aged_release contexts activation
  constructor
  · intro other node found
    rw [getElem?_release, Option.map_eq_some_iff] at found
    rcases found with ⟨before, found, rfl⟩
    have held := aged.present (sound.owned other before found)
    by_cases here : activation = other
    · rw [if_pos here]
      exact held
    · rw [if_neg here]
      exact held
  · intro flow
    exact aged.chain (sound.chains flow)
  · intro other node operation found some
    rw [getElem?_release, Option.map_eq_some_iff] at found
    rcases found with ⟨before, found, rfl⟩
    by_cases here : activation = other
    · rw [if_pos here] at some
      cases some
    · rw [if_neg here] at some ⊢
      exact sound.held other before operation found some
  · intro other node found none
    rw [getElem?_release, Option.map_eq_some_iff] at found
    rcases found with ⟨before, found, rfl⟩
    by_cases here : activation = other
    · rw [if_pos here]
      exact .inl rfl
    · rw [if_neg here] at none ⊢
      exact (sound.cleared other before found none).imp_right aged.finished

/-- Slots that change age nothing. -/
theorem aged_slots (contexts : Contexts) (current : Nat → Option Nat) :
    Aged contexts { contexts with current := current } :=
  ⟨fun _ node found => ⟨node, found, rfl, rfl, id⟩, fun _ state found => ⟨state, found, id, id, rfl⟩⟩

/-- A disposal releases the activation, whatever it does to the slot. -/
theorem aged_deactivate (contexts : Contexts) (flow activation : Nat) :
    Aged contexts (contexts.deactivate flow activation) := by
  unfold Contexts.deactivate
  split
  · exact (aged_slots contexts _).trans (aged_release _ activation)
  · exact aged_release contexts activation

/-- A disposal that finds its activation in the slot moves the slot outwards. -/
theorem Sound.deactivate (sound : Sound contexts) (flow activation : Nat) :
    Sound (contexts.deactivate flow activation) := by
  have aged := aged_deactivate contexts flow activation
  unfold Contexts.deactivate at aged ⊢
  by_cases top : contexts.current flow = some activation
  · rw [if_pos top] at aged ⊢
    have released := sound.release activation
    constructor
    · exact released.owned
    · intro other
      by_cases here : other = flow
      · rcases sound.chains flow with ⟨nodes, skips, chain⟩
        rw [top] at chain
        cases chain with
        | @cons _ node rest found outer =>
            have slot : contexts.parentOf activation = node.parent := by
              rw [Contexts.parentOf, found, Option.bind_some]
            have gone : (Contexts.release _ activation).Disposed activation :=
              disposed_release { contexts with current := _ } found
            rw [here, show Contexts.current _ flow = node.parent from
              (Function.update_self flow _ _).trans slot]
            exact ⟨rest, (skips.mono fun _ => aged.disposed).tail rfl gone, outer.aged aged⟩
      · rw [show Contexts.current _ other = contexts.current other from
          Function.update_of_ne here _ _]
        exact aged.chain (sound.chains other)
    · exact released.held
    · exact released.cleared
  · rw [if_neg top]
    exact sound.release activation

/-- What an operation has left of its activations is cleared. -/
theorem getElem?_clearActivations (contexts : Contexts) (operation activation : Nat) :
    ∃ gone : Prop, ∃ _ : Decidable gone,
      (contexts.clearActivations operation).activations[activation]? =
        contexts.activations[activation]?.map fun node =>
          if gone ∧ node.operation = some operation then { node with operation := none }
          else node :=
  ⟨_, inferInstance, List.getElem?_mapIdx⟩

/-- Clearing ages the process. -/
theorem aged_clearActivations (contexts : Contexts) (operation : Nat) :
    Aged contexts (contexts.clearActivations operation) where
  activations activation node found := by
    rcases getElem?_clearActivations contexts operation activation with ⟨gone, _, entry⟩
    rw [entry, found, Option.map_some]
    split
    · exact ⟨_, rfl, rfl, rfl, id⟩
    · exact ⟨_, rfl, rfl, rfl, id⟩
  operations other state found := by
    have ages : Ages fun state => { state with activations := [] } := fun _ => ⟨id, id, rfl⟩
    exact operations_modify ages contexts.operations operation other state found

/-- Clearing keeps a process sound once the operation has finished. -/
theorem Sound.clearActivations (sound : Sound contexts) {operation : Nat}
    (finished : ∃ state : AutomaticOperation,
      contexts.operations[operation]? = some state ∧ state.finished = true) :
    Sound (contexts.clearActivations operation) := by
  have aged := aged_clearActivations contexts operation
  constructor
  · intro activation node found
    rcases getElem?_clearActivations contexts operation activation with ⟨gone, _, entry⟩
    rw [entry, Option.map_eq_some_iff] at found
    rcases found with ⟨before, found, rfl⟩
    have held := aged.present (sound.owned activation before found)
    by_cases cleared : gone ∧ before.operation = some operation
    · rw [if_pos cleared]
      exact held
    · rw [if_neg cleared]
      exact held
  · intro flow
    exact aged.chain (sound.chains flow)
  · intro activation node held found some
    rcases getElem?_clearActivations contexts operation activation with ⟨gone, _, entry⟩
    rw [entry, Option.map_eq_some_iff] at found
    rcases found with ⟨before, found, rfl⟩
    split at some
    next => cases some
    next kept =>
      rw [if_neg kept]
      exact sound.held activation before held found some
  · intro activation node found none
    rcases getElem?_clearActivations contexts operation activation with ⟨gone, _, entry⟩
    rw [entry, Option.map_eq_some_iff] at found
    rcases found with ⟨before, found, rfl⟩
    by_cases cleared : gone ∧ before.operation = some operation
    · rw [if_pos cleared]
      rcases sound.held activation before operation found cleared.2 with ⟨rfl, -⟩
      exact .inr (aged.finished finished)
    · rw [if_neg cleared] at none ⊢
      exact (sound.cleared activation before found none).imp_right aged.finished

/-- An end of an operation ages the process. -/
theorem aged_finishLocked (contexts : Contexts) (flow operation : Nat)
    (state : AutomaticOperation) : Aged contexts (contexts.finishLocked flow operation state) := by
  have ages : Ages fun state : AutomaticOperation =>
      { state with finished := true, automaticActivation := none } := fun _ => ⟨fun _ => rfl, id, rfl⟩
  have ended := aged_modify ages contexts operation
  unfold Contexts.finishLocked
  cases state.automaticActivation with
  | none => exact ended.trans (aged_clearActivations _ operation)
  | some activation =>
      exact (ended.trans (aged_deactivate _ flow activation)).trans
        (aged_clearActivations _ operation)

/-- A process stays sound when an operation ends. -/
theorem Sound.finishLocked (sound : Sound contexts) (flow : Nat) {operation : Nat}
    {state : AutomaticOperation} (found : contexts.operations[operation]? = some state) :
    Sound (contexts.finishLocked flow operation state) := by
  have ages : Ages fun state : AutomaticOperation =>
      { state with finished := true, automaticActivation := none } := fun _ => ⟨fun _ => rfl, id, rfl⟩
  have ended := sound.operations (aged_modify ages contexts operation)
  have finished : ∃ ended : AutomaticOperation,
      (contexts.operations.modify operation fun state =>
        { state with finished := true, automaticActivation := none })[operation]? = some ended ∧
      ended.finished = true := by
    rw [List.getElem?_modify, found]
    simp only [if_true]
    exact ⟨_, rfl, rfl⟩
  unfold Contexts.finishLocked
  cases state.automaticActivation with
  | none => exact ended.clearActivations finished
  | some activation =>
      exact (ended.deactivate flow activation).clearActivations
        ((aged_deactivate _ flow activation).finished finished)

/-- An end that may come again ages the process. -/
theorem aged_finish (contexts : Contexts) (flow operation : Nat) :
    Aged contexts (contexts.finish flow operation) := by
  unfold Contexts.finish
  split
  · split
    · exact Aged.refl contexts
    · exact aged_finishLocked contexts flow operation _
  · exact Aged.refl contexts

/-- A process stays sound at an end that may come again. -/
theorem Sound.finish (sound : Sound contexts) (flow operation : Nat) :
    Sound (contexts.finish flow operation) := by
  unfold Contexts.finish
  cases found : contexts.operations[operation]? with
  | none => exact sound
  | some state =>
      by_cases finished : state.finished = true
      · simp only [finished, if_true]
        exact sound
      · simp only [finished]
        exact sound.finishLocked flow found

/-- A start ages the process. -/
theorem aged_startOperation (contexts : Contexts) (flow : Nat) :
    Aged contexts (contexts.startOperation flow) := by
  have ages : Ages fun state : AutomaticOperation =>
      { state with automaticActivation := some contexts.activations.length } := fun _ => ⟨id, id, rfl⟩
  unfold Contexts.startOperation
  refine Aged.trans ?_ (aged_modify ages _ _)
  refine Aged.trans ⟨?_, ?_⟩ (aged_activate _ flow contexts.operations.length)
  · exact fun _ node found => ⟨node, found, rfl, rfl, id⟩
  · exact fun _ state found => ⟨state, getElem?_concat_of_some found, id, id, rfl⟩

/-- A process stays sound when an operation starts. -/
theorem Sound.startOperation (sound : Sound contexts) (flow : Nat) :
    Sound (contexts.startOperation flow) := by
  have ages : Ages fun state : AutomaticOperation =>
      { state with automaticActivation := some contexts.activations.length } := fun _ => ⟨id, id, rfl⟩
  unfold Contexts.startOperation
  refine Sound.operations (Sound.activate (sound.operations ⟨?_, ?_⟩) flow _)
    (aged_modify ages _ _)
  · exact fun _ node found => ⟨node, found, rfl, rfl, id⟩
  · exact fun _ state found => ⟨state, getElem?_concat_of_some found, id, id, rfl⟩

/-- Fuzz contexts are no part of what the operations hold. -/
theorem disposeFuzz_operations (contexts : Contexts) (flow activation : Nat) :
    (contexts.disposeFuzz flow activation).operations = contexts.operations ∧
      (contexts.disposeFuzz flow activation).activations = contexts.activations ∧
      (contexts.disposeFuzz flow activation).current = contexts.current ∧
      (contexts.disposeFuzz flow activation).enclosing = contexts.enclosing := by
  unfold Contexts.disposeFuzz
  split
  · split <;> exact ⟨rfl, rfl, rfl, rfl⟩
  · exact ⟨rfl, rfl, rfl, rfl⟩

/-- An event ages the process. -/
theorem aged_step (contexts : Contexts) (event : Event) : Aged contexts (contexts.step event) := by
  cases event with
  | fork parent child => exact aged_fork contexts parent child
  | startOperation flow => exact aged_startOperation contexts flow
  | activate flow operation => exact aged_activate contexts flow operation
  | dispose flow activation => exact aged_deactivate contexts flow activation
  | closeWorld operation =>
      have ages : Ages fun state : AutomaticOperation => { state with worldComplete := true } :=
        fun _ => ⟨id, fun _ => rfl, rfl⟩
      exact aged_modify ages contexts operation
  | finish flow operation => exact aged_finish contexts flow operation
  | activateFuzz flow context =>
      exact ⟨fun _ node found => ⟨node, found, rfl, rfl, id⟩,
        fun _ state found => ⟨state, found, id, id, rfl⟩⟩
  | disposeFuzz flow activation =>
      rcases disposeFuzz_operations contexts flow activation with
        ⟨operations, activations, -, -⟩
      constructor
      · intro other node found
        exact ⟨node, (congrArg (·[other]?) activations).trans found, rfl, rfl, id⟩
      · intro other state found
        exact ⟨state, (congrArg (·[other]?) operations).trans found, id, id, rfl⟩

/-- A sound process stays so at every event. -/
theorem Sound.step (sound : Sound contexts) (event : Event) : Sound (contexts.step event) := by
  have aged := aged_step contexts event
  cases event with
  | fork parent child => exact sound.fork parent child
  | startOperation flow => exact sound.startOperation flow
  | activate flow operation => exact sound.activate flow operation
  | dispose flow activation => exact sound.deactivate flow activation
  | closeWorld operation => exact sound.operations aged
  | finish flow operation => exact sound.finish flow operation
  | activateFuzz flow context =>
      exact ⟨sound.owned, fun flow => aged.chain (sound.chains flow), sound.held, sound.cleared⟩
  | disposeFuzz flow activation =>
      rcases disposeFuzz_operations contexts flow activation with
        ⟨operations, activations, current, enclosing⟩
      unfold Contexts.step
      refine ⟨?_, fun other => ?_, ?_, ?_⟩
      · rw [activations, operations]
        exact sound.owned
      · rw [current, enclosing]
        exact aged.chain (sound.chains other)
      · rw [activations]
        exact sound.held
      · rw [activations, operations]
        exact sound.cleared

/-- A run ages the process. -/
theorem aged_run (contexts : Contexts) (events : List Event) :
    Aged contexts (contexts.run events) := by
  unfold Contexts.run
  induction events generalizing contexts with
  | nil => exact Aged.refl contexts
  | cons event rest ih => exact (aged_step contexts event).trans (ih (contexts.step event))

/-- A sound process stays so in every run. -/
theorem Sound.run (sound : Sound contexts) (events : List Event) :
    Sound (contexts.run events) := by
  unfold Contexts.run
  induction events generalizing contexts with
  | nil => exact sound
  | cons event rest ih => exact ih (sound.step event)

/-- A process that starts with nothing is sound after every run. -/
theorem sound_run (events : List Event) : Sound (Contexts.new.run events) :=
  sound_new.run events

end Steps

/-! ## What a walk finds -/

section Walks

variable {contexts : Contexts}

/-- The activation that a search in a list finds is the one that holds what it finds. -/
theorem findSome?_eq {α β : Type} (holds : α → Option β) (entries : List α) :
    entries.findSome? holds = (entries.find? fun entry => (holds entry).isSome).bind holds := by
  induction entries with
  | nil => rfl
  | cons entry rest ih =>
      rw [List.findSome?_cons, List.find?_cons]
      cases held : holds entry with
      | none => simpa using ih
      | some value => simp [held]

/-- What a search finds in the first entries is what it finds in all of them, if it is there. -/
theorem find?_take {α : Type} [DecidableEq α] (holds : α → Bool) (entries : List α)
    (count : Nat) :
    (entries.take count).find? holds =
      (entries.find? holds).filter (· ∈ entries.take count) := by
  cases inside : (entries.take count).find? holds with
  | some entry =>
      have whole : entries.find? holds = some entry := by
        rw [← List.take_append_drop count entries, List.find?_append, inside, Option.some_or]
      rw [whole, Option.filter_some, if_pos (by simpa using List.mem_of_find?_eq_some inside)]
  | none =>
      cases whole : entries.find? holds with
      | none => rfl
      | some entry =>
          have absent : entry ∉ entries.take count := fun among =>
            List.find?_eq_none.mp inside entry among (List.find?_some whole)
          rw [Option.filter_some, if_neg (by simpa using absent)]

/-- The walk finds the innermost enclosing operation that is active, unless it stops before. -/
theorem Sound.activeOperation_eq (sound : Sound contexts) (flow : Nat) :
    contexts.activeOperation flow =
      ((contexts.innermost flow).filter
        (· ∈ contexts.visited 64 (contexts.current flow))).bind contexts.liveOwner := by
  rcases sound.chains flow with ⟨nodes, skips, chain⟩
  have live : contexts.activeOf = contexts.liveOwner := funext sound.activeOf_eq
  unfold Contexts.activeOperation Contexts.innermost
  rw [(chain.walk_eq 64).1, (chain.walk_eq 64).2, live, findSome?_eq, find?_take]
  rw [skips.find?_eq fun entry gone => by rw [gone.liveOwner]; rfl]

/-- The walk visits what is among the first activations that enclose a flow. -/
theorem Sound.visited_of_early (sound : Sound contexts) {flow activation : Nat}
    (innermost : contexts.innermost flow = some activation)
    (early : activation ∈ (contexts.enclosing flow).take 64) :
    activation ∈ contexts.visited 64 (contexts.current flow) := by
  rcases sound.chains flow with ⟨nodes, skips, chain⟩
  rw [(chain.walk_eq 64).2]
  apply skips.mem_take _ 64 early
  intro gone
  have live := List.find?_some innermost
  rw [gone.liveOwner] at live
  cases live

end Walks

/-! ## What the fuzz slots hold -/

section Fuzz

variable {contexts : Contexts} {activations : List FuzzActivation}

/-- Activations of fuzz contexts that lie outwards from a slot. -/
inductive FuzzChain (activations : List FuzzActivation) : Option FuzzContext → List Nat → Prop
  | nil : FuzzChain activations none []
  | skip {activation : Nat} {node : FuzzActivation} {rest : List Nat} {slot : Option FuzzContext}
      (found : activations[activation]? = some node) (gone : node.disposed = true)
      (outer : FuzzChain activations slot rest) : FuzzChain activations slot (activation :: rest)
  | keep {activation : Nat} {node : FuzzActivation} {rest : List Nat}
      (found : activations[activation]? = some node) (live : node.disposed = false)
      (fresh : activation ∉ rest) (outer : FuzzChain activations node.parent rest) :
      FuzzChain activations (some node.context) (activation :: rest)

/-- The context of an activation. -/
def Contexts.fuzzContextAt (contexts : Contexts) (activation : Nat) : Option FuzzContext :=
  contexts.fuzzActivations[activation]?.map FuzzActivation.context

/-- What the slots of the flows that are in order hold. -/
def FuzzSound (contexts : Contexts) : Prop :=
  ∀ flow, contexts.disordered flow = false →
    FuzzChain contexts.fuzzActivations (contexts.fuzzCurrent flow) (contexts.fuzzEnclosing flow)

/-- A slot holds the context of the innermost activation that was not disposed. -/
theorem FuzzChain.slot_eq {slot : Option FuzzContext} {around : List Nat}
    (chain : FuzzChain contexts.fuzzActivations slot around) :
    slot = (around.find? contexts.fuzzLive).bind contexts.fuzzContextAt := by
  induction chain with
  | nil => rfl
  | skip found gone _ ih =>
      rw [List.find?_cons, show contexts.fuzzLive _ = false by simp [Contexts.fuzzLive, found, gone]]
      exact ih
  | keep found live _ _ _ =>
      rw [List.find?_cons, show contexts.fuzzLive _ = true by simp [Contexts.fuzzLive, found, live]]
      simp [Contexts.fuzzContextAt, found]

/-- What encloses a flow was made. -/
theorem FuzzChain.mem_lt {slot : Option FuzzContext} {around : List Nat}
    (chain : FuzzChain activations slot around) {activation : Nat}
    (among : activation ∈ around) : activation < activations.length := by
  induction chain with
  | nil => cases among
  | skip found _ _ ih =>
      rcases List.mem_cons.mp among with rfl | later
      · exact (List.getElem?_eq_some_iff.mp found).1
      · exact ih later
  | keep found _ _ _ ih =>
      rcases List.mem_cons.mp among with rfl | later
      · exact (List.getElem?_eq_some_iff.mp found).1
      · exact ih later

/-- A chain stays when the activations it is made of do. -/
theorem FuzzChain.mono {activations' : List FuzzActivation} {slot : Option FuzzContext}
    {around : List Nat} (chain : FuzzChain activations slot around)
    (kept : ∀ activation ∈ around, activations'[activation]? = activations[activation]?) :
    FuzzChain activations' slot around := by
  induction chain with
  | nil => exact .nil
  | skip found gone _ ih =>
      have same := kept _ (List.mem_cons_self ..)
      exact .skip (same.trans found) gone (ih fun activation among =>
        kept activation (List.mem_cons_of_mem _ among))
  | keep found live fresh _ ih =>
      have same := kept _ (List.mem_cons_self ..)
      exact .keep (same.trans found) live fresh (ih fun activation among =>
        kept activation (List.mem_cons_of_mem _ among))

/-- The innermost activation is disposed, and the slot moves to what it put aside. -/
theorem FuzzChain.dispose {slot : Option FuzzContext} {around : List Nat}
    (chain : FuzzChain contexts.fuzzActivations slot around) {activation : Nat}
    {node : FuzzActivation} (found : contexts.fuzzActivations[activation]? = some node)
    (innermost : around.find? contexts.fuzzLive = some activation) :
    slot = some node.context ∧
      FuzzChain (contexts.fuzzActivations.modify activation fun node =>
        { node with disposed := true }) node.parent around := by
  induction chain with
  | nil => cases innermost
  | @skip first before rest slot found' gone outer ih =>
      have dead : contexts.fuzzLive first = false := by simp [Contexts.fuzzLive, found', gone]
      rw [List.find?_cons, dead] at innermost
      rcases ih innermost with ⟨held, outer⟩
      have apart : activation ≠ first := by
        rintro rfl
        exact nomatch dead.symm.trans (List.find?_some innermost)
      exact ⟨held, .skip ((List.getElem?_modify_ne _ _ apart).trans found') gone outer⟩
  | @keep first before rest found' live fresh outer _ =>
      have alive : contexts.fuzzLive first = true := by simp [Contexts.fuzzLive, found', live]
      rw [List.find?_cons, alive] at innermost
      cases innermost
      cases found.symm.trans found'
      have gone : (contexts.fuzzActivations.modify activation fun node =>
          { node with disposed := true })[activation]? = some { node with disposed := true } := by
        rw [List.getElem?_modify_eq, found]
        rfl
      have others : ∀ other ∈ rest, (contexts.fuzzActivations.modify activation fun node =>
          { node with disposed := true })[other]? = contexts.fuzzActivations[other]? :=
        fun other among =>
          List.getElem?_modify_ne _ _ fun here : activation = other => fresh (here ▸ among)
      exact ⟨rfl, .skip gone rfl (outer.mono others)⟩

/-- The fuzz contexts of a process. -/
def Contexts.fuzz (contexts : Contexts) :
    List FuzzActivation × (Nat → Option FuzzContext) × (Nat → List Nat) × (Nat → Bool) :=
  (contexts.fuzzActivations, contexts.fuzzCurrent, contexts.fuzzEnclosing, contexts.disordered)

/-- Processes with the same fuzz contexts hold the same. -/
theorem FuzzSound.congr {before after : Contexts} (sound : FuzzSound before)
    (same : after.fuzz = before.fuzz) : FuzzSound after := by
  simp only [Contexts.fuzz, Prod.mk.injEq] at same
  rcases same with ⟨activations, current, enclosing, disordered⟩
  unfold FuzzSound
  rw [activations, current, enclosing, disordered]
  exact sound

/-- An activation of an operation leaves the fuzz contexts. -/
theorem activate_fuzz (contexts : Contexts) (flow operation : Nat) :
    (contexts.activate flow operation).fuzz = contexts.fuzz := by
  unfold Contexts.activate
  split <;> rfl

/-- So does the start of an operation. -/
theorem startOperation_fuzz (contexts : Contexts) (flow : Nat) :
    (contexts.startOperation flow).fuzz = contexts.fuzz :=
  activate_fuzz { contexts with operations := _ } flow contexts.operations.length

/-- So does its disposal. -/
theorem deactivate_fuzz (contexts : Contexts) (flow activation : Nat) :
    (contexts.deactivate flow activation).fuzz = contexts.fuzz := by
  unfold Contexts.deactivate
  split <;> rfl

/-- So does the end of an operation. -/
theorem finish_fuzz (contexts : Contexts) (flow operation : Nat) :
    (contexts.finish flow operation).fuzz = contexts.fuzz := by
  unfold Contexts.finish
  split
  · split
    · rfl
    · unfold Contexts.finishLocked
      split
      · exact deactivate_fuzz _ flow _
      · rfl
  · rfl

/-- The fuzz contexts are sound at first. -/
theorem fuzzSound_new : FuzzSound Contexts.new := fun _ _ => .nil

/-- A flow that starts has the slot of the flow it starts from. -/
theorem FuzzSound.fork (sound : FuzzSound contexts) (parent child : Nat) :
    FuzzSound (contexts.fork parent child) := by
  intro flow ordered
  simp only [Contexts.fork, Function.update_apply] at ordered ⊢
  by_cases started : flow = child
  · simp only [started, if_true] at ordered ⊢
    exact sound parent ordered
  · simp only [started, if_false] at ordered ⊢
    exact sound flow ordered

/-- An activation of a fuzz context lies around its flow. -/
theorem FuzzSound.activateFuzz (sound : FuzzSound contexts) (flow : Nat)
    (context : FuzzContext) : FuzzSound (contexts.activateFuzz flow context) := by
  intro other ordered
  have chain := sound other ordered
  have kept : ∀ activation ∈ contexts.fuzzEnclosing other,
      (contexts.activateFuzz flow context).fuzzActivations[activation]? =
        contexts.fuzzActivations[activation]? := by
    intro activation among
    exact List.getElem?_append_left (chain.mem_lt among)
  have outer := chain.mono kept
  by_cases here : other = flow
  · cases here
    unfold Contexts.activateFuzz
    simp only [Function.update_self]
    apply FuzzChain.keep (List.getElem?_concat_length ..) rfl ?_ outer
    intro again
    exact Nat.lt_irrefl _ (chain.mem_lt again)
  · unfold Contexts.activateFuzz
    simp only [Function.update_of_ne here]
    exact outer

/-- A disposal keeps what the flows hold that it leaves in order. -/
theorem FuzzSound.disposeFuzz (sound : FuzzSound contexts) (flow activation : Nat) :
    FuzzSound (contexts.disposeFuzz flow activation) := by
  unfold Contexts.disposeFuzz
  cases found : contexts.fuzzActivations[activation]? with
  | none => exact sound
  | some node =>
      by_cases gone : node.disposed = true
      · simp only [gone, if_true]
        exact sound
      · simp only [gone, Bool.false_eq_true, if_false]
        intro other ordered
        rcases Bool.or_eq_false_iff.mp ordered with ⟨before, after⟩
        have chain := sound other before
        have place := of_decide_eq_false after
        by_cases here : other = flow
        · cases here
          rcases not_not.mp fun apart => place ⟨.inr rfl, apart⟩ with ⟨-, innermost⟩
          rcases chain.dispose found innermost with ⟨held, outer⟩
          simp only [held, if_true, Function.update_self]
          exact outer
        · have outside : activation ∉ contexts.fuzzEnclosing other := fun around =>
            place ⟨.inl around, fun inside => here inside.1⟩
          simp only [Function.update_of_ne here]
          exact chain.mono fun entry among =>
            List.getElem?_modify_ne _ _ fun same : activation = entry => outside (same ▸ among)

/-- The fuzz contexts stay sound at every event. -/
theorem FuzzSound.step (sound : FuzzSound contexts) (event : Event) :
    FuzzSound (contexts.step event) := by
  cases event with
  | fork parent child => exact sound.fork parent child
  | startOperation flow => exact sound.congr (startOperation_fuzz contexts flow)
  | activate flow operation => exact sound.congr (activate_fuzz contexts flow operation)
  | dispose flow activation => exact sound.congr (deactivate_fuzz contexts flow activation)
  | closeWorld operation => exact sound.congr rfl
  | finish flow operation => exact sound.congr (finish_fuzz contexts flow operation)
  | activateFuzz flow context => exact sound.activateFuzz flow context
  | disposeFuzz flow activation => exact sound.disposeFuzz flow activation

/-- The fuzz contexts are sound after every run. -/
theorem fuzzSound_run (events : List Event) : FuzzSound (Contexts.new.run events) := by
  induction events using List.reverseRecOn with
  | nil => exact fuzzSound_new
  | append_singleton events event ih =>
      rw [Contexts.run, List.foldl_concat]
      exact ih.step event

end Fuzz

/-! ## What comes back -/

section Restored

variable {contexts before after : Contexts}

/-- A search finds the same in a list when its entries only stop to match, and its find does not. -/
theorem find?_eq_of_imp {α : Type} {holds kept : α → Bool} {entries : List α}
    (fewer : ∀ entry ∈ entries, kept entry = true → holds entry = true)
    (still : ∀ entry, entries.find? holds = some entry → kept entry = true) :
    entries.find? kept = entries.find? holds := by
  induction entries with
  | nil => rfl
  | cons entry rest ih =>
      rw [List.find?_cons, List.find?_cons]
      cases first : holds entry with
      | true =>
          rw [still entry (by rw [List.find?_cons, first])]
      | false =>
          have lost : kept entry = false :=
            Bool.eq_false_iff.mpr fun some =>
              nomatch first.symm.trans (fewer entry (List.mem_cons_self ..) some)
          rw [lost]
          apply ih
          · exact fun other among => fewer other (List.mem_cons_of_mem _ among)
          · exact fun other found => still other (by rw [List.find?_cons, first]; exact found)

/-- What a search finds behind entries that do not match. -/
theorem find?_append_of_none {α : Type} {holds : α → Bool} {made entries : List α}
    (none : ∀ entry ∈ made, holds entry = false) :
    (made ++ entries).find? holds = entries.find? holds := by
  rw [List.find?_append, List.find?_eq_none.mpr fun entry among => by simp [none entry among],
    Option.none_or]

/-- Entries of a chain are there. -/
theorem Chain.found {slot : Option Nat} {nodes : List Nat} (chain : Chain contexts slot nodes)
    {activation : Nat} (among : activation ∈ nodes) :
    ∃ node, contexts.activations[activation]? = some node := by
  induction chain with
  | nil => cases among
  | cons found _ ih =>
      rcases List.mem_cons.mp among with rfl | later
      · exact ⟨_, found⟩
      · exact ih later

/-- An entry was kept or is gone. -/
theorem Skips.mem {gone : Nat → Prop} {entries kept : List Nat} (skips : Skips gone entries kept)
    {entry : Nat} (among : entry ∈ entries) : entry ∈ kept ∨ gone entry := by
  induction skips with
  | nil => cases among
  | keep first _ ih =>
      rcases List.mem_cons.mp among with rfl | later
      · exact .inl (List.mem_cons_self ..)
      · exact (ih later).imp_left (List.mem_cons_of_mem _)
  | drop lost _ ih =>
      rcases List.mem_cons.mp among with rfl | later
      · exact .inr lost
      · exact ih later

/-- What encloses a flow was made. -/
theorem Sound.found (sound : Sound contexts) {flow activation : Nat}
    (among : activation ∈ contexts.enclosing flow) :
    ∃ node, contexts.activations[activation]? = some node := by
  rcases sound.chains flow with ⟨nodes, skips, chain⟩
  rcases skips.mem among with kept | ⟨node, found, -⟩
  · exact chain.found kept
  · exact ⟨node, found⟩

/-- An activation that is live was so before. -/
theorem Aged.liveOwner (aged : Aged before after) (sound : Sound before) {activation owner : Nat}
    (present : ∃ node, before.activations[activation]? = some node)
    (live : after.liveOwner activation = some owner) :
    before.liveOwner activation = some owner := by
  rcases present with ⟨node, found⟩
  rcases aged.activations activation node found with ⟨node', found', -, owner', disposed⟩
  rcases sound.owned activation node found with ⟨state, present⟩
  simp only [Contexts.liveOwner, found', found, Option.ite_none_right_eq_some,
    Option.some.injEq] at live ⊢
  rw [owner'] at live
  rcases live with ⟨⟨kept, active⟩, rfl⟩
  refine ⟨⟨?_, aged.isActive present active⟩, rfl⟩
  exact Bool.eq_false_iff.mpr fun gone => nomatch kept.symm.trans (disposed gone)

/-- An activation comes around its own flow. -/
theorem activate_enclosing (contexts : Contexts) (place operation flow : Nat) :
    contexts.enclosing flow <:+ (contexts.activate place operation).enclosing flow := by
  unfold Contexts.activate
  split
  · by_cases here : flow = place
    · simp only [here, Function.update_self]
      exact List.suffix_cons ..
    · simp only [Function.update_of_ne here]
      exact List.suffix_rfl
  · exact List.suffix_rfl

/-- So does that of an operation that starts. -/
theorem startOperation_enclosing (contexts : Contexts) (place flow : Nat) :
    contexts.enclosing flow <:+ (contexts.startOperation place).enclosing flow := by
  have started : ∀ operations : List AutomaticOperation, contexts.enclosing flow <:+
      (Contexts.activate { contexts with operations := operations } place
        contexts.operations.length).enclosing flow := fun operations =>
    activate_enclosing { contexts with operations := operations } place _ flow
  unfold Contexts.startOperation
  exact started _

/-- A disposal leaves what encloses the flows. -/
theorem deactivate_enclosing (contexts : Contexts) (flow activation : Nat) :
    (contexts.deactivate flow activation).enclosing = contexts.enclosing := by
  unfold Contexts.deactivate
  split <;> rfl

/-- So does the end of an operation. -/
theorem finish_enclosing (contexts : Contexts) (flow operation : Nat) :
    (contexts.finish flow operation).enclosing = contexts.enclosing := by
  unfold Contexts.finish
  split
  · split
    · rfl
    · unfold Contexts.finishLocked
      split
      · exact deactivate_enclosing _ flow _
      · rfl
  · rfl

/-- A disposal leaves the fuzz contexts around the flows. -/
theorem disposeFuzz_fuzzEnclosing (contexts : Contexts) (flow activation : Nat) :
    (contexts.disposeFuzz flow activation).fuzzEnclosing = contexts.fuzzEnclosing := by
  unfold Contexts.disposeFuzz
  split
  · split <;> rfl
  · rfl

/-- Equal fuzz contexts enclose the same. -/
theorem fuzzEnclosing_of_fuzz (same : after.fuzz = before.fuzz) :
    after.fuzzEnclosing = before.fuzzEnclosing :=
  congrArg (fun fuzz => fuzz.2.2.1) same

/-- The owner of an activation is there. -/
theorem Sound.owner_found (sound : Sound contexts) {activation owner : Nat}
    (live : contexts.liveOwner activation = some owner) :
    ∃ state : AutomaticOperation, contexts.operations[owner]? = some state := by
  unfold Contexts.liveOwner at live
  cases found : contexts.activations[activation]? with
  | none =>
      rw [found] at live
      cases live
  | some node =>
      simp only [found, Option.ite_none_right_eq_some, Option.some.injEq] at live
      rcases live with ⟨-, rfl⟩
      exact sound.owned activation node found

/-- What an event puts around a flow that it does not start. -/
theorem suffix_step (contexts : Contexts) (event : Event) (flow : Nat)
    (other : ∀ parent, event ≠ .fork parent flow) :
    contexts.enclosing flow <:+ (contexts.step event).enclosing flow ∧
      contexts.fuzzEnclosing flow <:+ (contexts.step event).fuzzEnclosing flow := by
  cases event with
  | fork parent child =>
      have apart : flow ≠ child := by
        rintro rfl
        exact other parent rfl
      simp only [Contexts.step, Contexts.fork, Function.update_of_ne apart]
      exact ⟨List.suffix_rfl, List.suffix_rfl⟩
  | startOperation place =>
      constructor
      · exact startOperation_enclosing contexts place flow
      · exact (congrFun (fuzzEnclosing_of_fuzz (startOperation_fuzz contexts place)) flow) ▸
          List.suffix_rfl
  | activate place operation =>
      constructor
      · exact activate_enclosing contexts place operation flow
      · exact (congrFun (fuzzEnclosing_of_fuzz (activate_fuzz contexts place operation)) flow) ▸
          List.suffix_rfl
  | dispose place activation =>
      constructor
      · exact (congrFun (deactivate_enclosing contexts place activation) flow) ▸ List.suffix_rfl
      · exact (congrFun (fuzzEnclosing_of_fuzz (deactivate_fuzz contexts place activation)) flow) ▸
          List.suffix_rfl
  | closeWorld operation => exact ⟨List.suffix_rfl, List.suffix_rfl⟩
  | finish place operation =>
      constructor
      · exact (congrFun (finish_enclosing contexts place operation) flow) ▸ List.suffix_rfl
      · exact (congrFun (fuzzEnclosing_of_fuzz (finish_fuzz contexts place operation)) flow) ▸
          List.suffix_rfl
  | activateFuzz place context =>
      refine ⟨List.suffix_rfl, ?_⟩
      unfold Contexts.step Contexts.activateFuzz
      by_cases here : flow = place
      · simp only [here, Function.update_self]
        exact List.suffix_cons ..
      · simp only [Function.update_of_ne here]
        exact List.suffix_rfl
  | disposeFuzz place activation =>
      constructor
      · exact (congrFun (disposeFuzz_operations contexts place activation).2.2.2 flow) ▸
          List.suffix_rfl
      · exact (congrFun (disposeFuzz_fuzzEnclosing contexts place activation) flow) ▸
          List.suffix_rfl

/-- What a run puts around a flow that it does not start. -/
theorem suffix_run (contexts : Contexts) (events : List Event) (flow : Nat)
    (other : ∀ parent, Event.fork parent flow ∉ events) :
    contexts.enclosing flow <:+ (contexts.run events).enclosing flow ∧
      contexts.fuzzEnclosing flow <:+ (contexts.run events).fuzzEnclosing flow := by
  unfold Contexts.run
  induction events generalizing contexts with
  | nil => exact ⟨List.suffix_rfl, List.suffix_rfl⟩
  | cons event rest ih =>
      have first := suffix_step contexts event flow fun parent here =>
        other parent (here ▸ List.mem_cons_self ..)
      have later := ih (contexts.step event) fun parent among =>
        other parent (List.mem_cons_of_mem _ among)
      exact ⟨first.1.trans later.1, first.2.trans later.2⟩

/-- The walk stops no earlier than at the innermost activation that is live. -/
def Contexts.Reached (contexts : Contexts) (flow : Nat) : Prop :=
  ∀ activation, contexts.innermost flow = some activation →
    activation ∈ contexts.visited 64 (contexts.current flow)

/-- A walk that gets there finds the innermost operation that is active. -/
theorem Sound.activeOperation_of_reached (sound : Sound contexts) {flow : Nat}
    (reached : contexts.Reached flow) :
    contexts.activeOperation flow = (contexts.innermost flow).bind contexts.liveOwner := by
  rw [sound.activeOperation_eq]
  cases innermost : contexts.innermost flow with
  | none => rfl
  | some activation =>
      rw [Option.filter_some, if_pos (decide_eq_true (reached activation innermost))]

/-- A walk that does not get there finds none. -/
theorem Sound.activeOperation_of_not_reached (sound : Sound contexts) {flow : Nat}
    (reached : ¬ contexts.Reached flow) : contexts.activeOperation flow = none := by
  rw [sound.activeOperation_eq]
  cases innermost : contexts.innermost flow with
  | none => rfl
  | some activation =>
      rw [Option.filter_some, if_neg]
      · rfl
      · intro visited
        apply reached
        intro other found
        cases innermost.symm.trans found
        exact of_decide_eq_true visited

/-- The innermost activation comes back when those made inside are disposed. -/
theorem Sound.innermost_restored (sound : Sound before) (aged : Aged before after) {flow : Nat}
    {made : List Nat} (around : after.enclosing flow = made ++ before.enclosing flow)
    (disposed : ∀ activation ∈ made, after.Disposed activation)
    (still : ∀ activation, before.innermost flow = some activation →
      (after.liveOwner activation).isSome = true) :
    (after.innermost flow).bind after.liveOwner =
      (before.innermost flow).bind before.liveOwner := by
  have same : after.innermost flow = before.innermost flow := by
    unfold Contexts.innermost
    rw [around, find?_append_of_none fun entry among => by
      rw [(disposed entry among).liveOwner]; rfl]
    apply find?_eq_of_imp _ still
    intro entry among live
    rcases Option.isSome_iff_exists.mp live with ⟨owner, live⟩
    rw [aged.liveOwner sound (sound.found among) live]
    rfl
  rw [same]
  cases innermost : before.innermost flow with
  | none => rfl
  | some activation =>
      rcases Option.isSome_iff_exists.mp (still activation innermost) with ⟨owner, live⟩
      have among := List.mem_of_find?_eq_some innermost
      rw [Option.bind_some, Option.bind_some, live,
        aged.liveOwner sound (sound.found among) live]

/-- Fuzz activations stay, keep their contexts and do not come back to life. -/
structure FuzzAged (before after : Contexts) : Prop where
  kept : ∀ (activation : Nat) (node : FuzzActivation),
    before.fuzzActivations[activation]? = some node → ∃ node' : FuzzActivation,
      after.fuzzActivations[activation]? = some node' ∧ node'.context = node.context ∧
        (node.disposed = true → node'.disposed = true)

/-- An event ages the fuzz activations. -/
theorem fuzzAged_step (contexts : Contexts) (event : Event) :
    FuzzAged contexts (contexts.step event) := by
  have still : ∀ after : Contexts, after.fuzz = contexts.fuzz → FuzzAged contexts after := by
    intro after same
    have activations : after.fuzzActivations = contexts.fuzzActivations := congrArg Prod.fst same
    exact ⟨fun _ node found => ⟨node, activations ▸ found, rfl, id⟩⟩
  cases event with
  | fork parent child => exact ⟨fun _ node found => ⟨node, found, rfl, id⟩⟩
  | startOperation flow => exact still _ (startOperation_fuzz contexts flow)
  | activate flow operation => exact still _ (activate_fuzz contexts flow operation)
  | dispose flow activation => exact still _ (deactivate_fuzz contexts flow activation)
  | closeWorld operation => exact still _ rfl
  | finish flow operation => exact still _ (finish_fuzz contexts flow operation)
  | activateFuzz flow context =>
      exact ⟨fun _ node found => ⟨node, getElem?_concat_of_some found, rfl, id⟩⟩
  | disposeFuzz flow activation =>
      constructor
      intro other node found
      change ∃ node', (contexts.disposeFuzz flow activation).fuzzActivations[other]? = _ ∧ _
      unfold Contexts.disposeFuzz
      split
      · split
        · exact ⟨node, found, rfl, id⟩
        · simp only [List.getElem?_modify, found]
          by_cases here : activation = other
          · simp only [here, if_true]
            exact ⟨_, rfl, rfl, fun _ => rfl⟩
          · simp only [here, if_false]
            exact ⟨_, rfl, rfl, id⟩
      · exact ⟨node, found, rfl, id⟩

/-- A flow that is out of order stays so until it starts again. -/
theorem disordered_step (contexts : Contexts) (event : Event) (flow : Nat)
    (other : ∀ parent, event ≠ .fork parent flow) (before : contexts.disordered flow = true) :
    (contexts.step event).disordered flow = true := by
  have still : ∀ after : Contexts, after.fuzz = contexts.fuzz →
      after.disordered flow = true := by
    intro after same
    have disordered : after.disordered = contexts.disordered :=
      congrArg (fun fuzz => fuzz.2.2.2) same
    exact (congrFun disordered flow).trans before
  cases event with
  | fork parent child =>
      have apart : flow ≠ child := by
        rintro rfl
        exact other parent rfl
      simp only [Contexts.step, Contexts.fork, Function.update_of_ne apart]
      exact before
  | startOperation place => exact still _ (startOperation_fuzz contexts place)
  | activate place operation => exact still _ (activate_fuzz contexts place operation)
  | dispose place activation => exact still _ (deactivate_fuzz contexts place activation)
  | closeWorld operation => exact before
  | finish place operation => exact still _ (finish_fuzz contexts place operation)
  | activateFuzz place context => exact before
  | disposeFuzz place activation =>
      change (contexts.disposeFuzz place activation).disordered flow = true
      unfold Contexts.disposeFuzz
      split
      · split
        · exact before
        · simp only [before, Bool.true_or]
      · exact before

/-- A run ages the fuzz activations. -/
theorem fuzzAged_run (contexts : Contexts) (events : List Event) :
    FuzzAged contexts (contexts.run events) := by
  unfold Contexts.run
  induction events generalizing contexts with
  | nil => exact ⟨fun _ node found => ⟨node, found, rfl, id⟩⟩
  | cons event rest ih =>
      constructor
      intro activation node found
      rcases (fuzzAged_step contexts event).kept activation node found with
        ⟨node', found', context, disposed⟩
      rcases (ih (contexts.step event)).kept activation node' found' with
        ⟨node'', found'', context', disposed'⟩
      exact ⟨node'', found'', context'.trans context, disposed' ∘ disposed⟩

/-- A flow that is in order after a run was so before it. -/
theorem ordered_run (contexts : Contexts) (events : List Event) {flow : Nat}
    (other : ∀ parent, Event.fork parent flow ∉ events)
    (ordered : (contexts.run events).disordered flow = false) :
    contexts.disordered flow = false := by
  unfold Contexts.run at ordered
  induction events generalizing contexts with
  | nil => exact ordered
  | cons event rest ih =>
      have later := ih (contexts.step event)
        (fun parent among => other parent (List.mem_cons_of_mem _ among)) ordered
      apply Bool.eq_false_iff.mpr
      intro before
      have kept := disordered_step contexts event flow
        (fun parent here => other parent (here ▸ List.mem_cons_self ..)) before
      exact nomatch later.symm.trans kept

/-- An activation that is live was so before, with the same context. -/
theorem FuzzAged.live (aged : FuzzAged before after) {activation : Nat}
    (made : activation < before.fuzzActivations.length)
    (live : after.fuzzLive activation = true) : before.fuzzLive activation = true := by
  rcases aged.kept activation _ (List.getElem?_eq_getElem made) with ⟨node', found', -, disposed⟩
  simp only [Contexts.fuzzLive, found', List.getElem?_eq_getElem made, Option.any_some,
    Bool.not_eq_true'] at live ⊢
  exact Bool.eq_false_iff.mpr fun gone => nomatch live.symm.trans (disposed gone)

/-- The fuzz slot comes back when the activations made inside are disposed. -/
theorem FuzzSound.slot_restored (sound : FuzzSound before) (sound' : FuzzSound after)
    (aged : FuzzAged before after) {flow : Nat} {made : List Nat}
    (around : after.fuzzEnclosing flow = made ++ before.fuzzEnclosing flow)
    (ordered : before.disordered flow = false) (ordered' : after.disordered flow = false)
    (disposed : ∀ activation ∈ made, after.fuzzLive activation = false)
    (still : ∀ activation, before.innermostFuzz flow = some activation →
      after.fuzzLive activation = true) :
    after.fuzzCurrent flow = before.fuzzCurrent flow := by
  have chain := sound flow ordered
  have same : (after.fuzzEnclosing flow).find? after.fuzzLive =
      (before.fuzzEnclosing flow).find? before.fuzzLive := by
    rw [around, find?_append_of_none disposed]
    exact find?_eq_of_imp (fun entry among live => aged.live (chain.mem_lt among) live) still
  rw [(sound' flow ordered').slot_eq, chain.slot_eq, same]
  cases innermost : (before.fuzzEnclosing flow).find? before.fuzzLive with
  | none => rfl
  | some activation =>
      have made := chain.mem_lt (List.mem_of_find?_eq_some innermost)
      rcases aged.kept activation _ (List.getElem?_eq_getElem made) with ⟨node', found', context, -⟩
      simp only [Option.bind_some, Contexts.fuzzContextAt, found', Option.map_some, context,
        List.getElem?_eq_getElem made]

/-- The fuzz context of an operation. -/
def Contexts.fuzzContextOf (contexts : Contexts) (operation : Nat) : Option FuzzContext :=
  contexts.operations[operation]?.bind AutomaticOperation.fuzzContext

/-- An operation keeps its fuzz context. -/
theorem Aged.fuzzContextOf (aged : Aged before after) {operation : Nat}
    (present : ∃ state : AutomaticOperation, before.operations[operation]? = some state) :
    after.fuzzContextOf operation = before.fuzzContextOf operation := by
  rcases present with ⟨state, found⟩
  rcases aged.operations operation state found with ⟨state', found', -, -, fuzz⟩
  simp only [Contexts.fuzzContextOf, found, found', Option.bind_some, fuzz]

end Restored

/-! ## Both contexts -/

/-- The fuzz context of an active operation comes before the slot. -/
theorem activeFuzz_eq (contexts : Contexts) (flow : Nat) :
    contexts.activeFuzz flow =
      ((contexts.activeOperation flow).bind contexts.fuzzContextOf).or
        (contexts.fuzzCurrent flow) := by
  unfold Contexts.activeFuzz Contexts.fuzzContextOf
  cases (contexts.activeOperation flow).bind _ <;> rfl

end AmbientContexts
end ReproItSdk
