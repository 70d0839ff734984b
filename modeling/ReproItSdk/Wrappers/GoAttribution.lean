import ReproItSdk.World.FailClosed

/-! # Attribution of reads to goroutines

The Go SDK knows the operations that are active in a process and on which goroutine each of them was
started.  A read of the clock or of random bytes belongs to the newest operation of the goroutine
that reads; a read that belongs to none is reported to every active operation.  Operations start and
end on any goroutine while a read is under way, so that every locked section is a step of its own.

Main definitions:

- Function {lit}`step`: one locked section of a start, a terminal call, a close or a read.
- Structure {lit}`Registered`: what the registry keeps of the operations.
- Inductive {lit}`Accounted`: how an instrumented read ends.

Main results:

- Theorem {lit}`reads_are_attributed`: what holds after any interleaving.
-/

namespace ReproItSdk
namespace GoAttribution

open AutomaticWorld AutomaticWorldCoordinator

variable {Digest Replay : Type}

/-! ## Operations -/

/-- {lit}`automaticMaxActiveOperations`. -/
def automaticMaxActiveOperations : Nat :=
  512

/-- {lit}`automaticRandomValueBytes`. -/
def automaticRandomValueBytes : Nat :=
  32 * 1024

/-- {lit}`AutomaticOperation` with its World in the engine.  The goroutine on which it was started,
whether its start has returned, and whether it was finished before, are known to its callers
alone. -/
structure Operation (Digest Replay : Type) where
  project : Nat
  ownerGoroutineId : Nat
  activeRegistered : Bool
  finished : Bool
  worldComplete : Bool
  world : AutomaticWorldCoordinator Digest Replay
  goroutine : Nat
  startReturned : Bool
  finishedEarly : Bool

/-- The sources that are instrumented, with the bytes that a random read asks for. -/
inductive Source where
  | clock
  | randomness (length : Nat)
deriving DecidableEq, Repr

/-- The observation class of a source. -/
def Source.observationClass : Source → AutomaticObservationClass
  | .clock => .clock
  | .randomness _ => .randomness

/-- How a read ended. -/
inductive Outcome where
  | quiet
  | empty
  | observed (operation : Nat) (candidates : List Nat)
  | failed (operation : Nat)
  | unowned
deriving DecidableEq, Repr

/-- Where a read is.  The candidates are the live operations of the goroutine as the newest one was
looked up. -/
inductive Phase where
  | checking (pending active : List Nat)
  | confirming (active : List Nat) (newest : Nat) (candidates : List Nat)
  | opening (operation : Nat) (candidates : List Nat)
  | marking (pending : List Nat) (outcome : Outcome)
deriving DecidableEq, Repr

/-- A read that is under way, with the operations that were registered and active as it began. -/
structure Read where
  source : Source
  began : List Nat
  phase : Phase
deriving DecidableEq, Repr

/-- A read that has ended, with the operations that were active as it began and as it ended. -/
structure ReadRecord where
  goroutine : Nat
  source : Source
  throughout : List Nat
  outcome : Outcome
deriving DecidableEq, Repr

/-- The operations of a process, the registry and the reads.  Operations are numbered in the order
of their starts; {lit}`closing` are those that a close took from the registry and has not finished
yet. -/
structure State (Digest Replay : Type) where
  started : Nat
  operation : Nat → Option (Operation Digest Replay)
  operations : List Nat
  byGoroutine : Nat → List Nat
  closedProjects : List Nat
  closing : List Nat
  reads : Nat → Option Read
  records : List ReadRecord

namespace State

/-- A process in which no operation was started. -/
def initial : State Digest Replay where
  started := 0
  operation _ := none
  operations := []
  byGoroutine _ := []
  closedProjects := []
  closing := []
  reads _ := none
  records := []

/-- Change an operation. -/
def modify (state : State Digest Replay) (id : Nat)
    (change : Operation Digest Replay → Operation Digest Replay) : State Digest Replay :=
  { state with
    operation := Function.update state.operation id ((state.operation id).map change) }

/-- {lit}`isActive`. -/
def isActive (state : State Digest Replay) (id : Nat) : Bool :=
  (state.operation id).any fun operation => ! operation.finished && ! operation.worldComplete

/-- An operation was not finished. -/
def live (state : State Digest Replay) (id : Nat) : Bool :=
  (state.operation id).any fun operation => ! operation.finished

/-- The live operations of a goroutine, in the order of their starts. -/
def liveOn (state : State Digest Replay) (goroutine : Nat) : List Nat :=
  (List.range state.started).filter fun id =>
    (state.operation id).any fun operation =>
      ! operation.finished && operation.goroutine == goroutine

end State

/-! ## The registry -/

/-- {lit}`registerAutomaticOperation` for a new operation.  A goroutine that is not known is 0. -/
def register (goroutine project : Nat) (world : AutomaticWorldCoordinator Digest Replay)
    (state : State Digest Replay) : State Digest Replay :=
  if automaticMaxActiveOperations ≤ state.operations.length then state
  else
    { state with
      started := state.started + 1
      operation := Function.update state.operation state.started
        (some
          { project := project
            ownerGoroutineId := goroutine
            activeRegistered := false
            finished := false
            worldComplete := false
            world := world
            goroutine := goroutine
            startReturned := false
            finishedEarly := false })
      operations := state.operations ++ [state.started]
      byGoroutine :=
        if goroutine = 0 then state.byGoroutine
        else
          Function.update state.byGoroutine goroutine
            (state.byGoroutine goroutine ++ [state.started]) }

/-- The end of {lit}`startOperation`, which marks the operation as registered. -/
def returned (id : Nat) (state : State Digest Replay) : State Digest Replay :=
  state.modify id fun operation =>
    if operation.startReturned then operation
    else { operation with activeRegistered := true, startReturned := true }

/-- Remove the newest entry of an operation from a stack. -/
def removeNewest (id : Nat) (stack : List Nat) : List Nat :=
  (stack.reverse.erase id).reverse

/-- {lit}`unregisterAutomaticOperation`. -/
def unregister (id : Nat) (state : State Digest Replay) : State Digest Replay :=
  match state.operation id with
  | none => state
  | some operation =>
      let cleared :=
        { state.modify id fun operation => { operation with ownerGoroutineId := 0 } with
          operations := state.operations.erase id }
      if operation.ownerGoroutineId = 0 then cleared
      else
        { cleared with
          byGoroutine := Function.update state.byGoroutine operation.ownerGoroutineId
            (removeNewest id (state.byGoroutine operation.ownerGoroutineId)) }

/-- {lit}`finishLocked`.  An operation is unregistered if its start has marked it as registered. -/
def finishLocked (id : Nat) (state : State Digest Replay) : State Digest Replay :=
  match state.operation id with
  | none => state
  | some operation =>
      if operation.activeRegistered then
        let done := state.modify id fun operation => { operation with finished := true }
        (unregister id done).modify id fun operation =>
          { operation with activeRegistered := false }
      else
        state.modify id fun operation =>
          { operation with
            finished := true
            finishedEarly := operation.finishedEarly || ! operation.finished }

/-- {lit}`abandonLocked`. -/
def abandonLocked (id : Nat) (state : State Digest Replay) : State Digest Replay :=
  if state.live id then finishLocked id state else state

/-- The World of an operation after an engine call. -/
def setWorld (id : Nat) (world : AutomaticWorldCoordinator Digest Replay)
    (state : State Digest Replay) : State Digest Replay :=
  state.modify id fun operation => { operation with world := world }

/-! ## Terminal calls -/

section Steps

variable (core : Core Digest Replay)

/-- {lit}`markUnhealthyAdaptersLocked`: whether every mark was accepted, and the World after
them. -/
def markUnhealthyAdapters : List (AutomaticObservationClass × UnownedIo) →
    AutomaticWorldCoordinator Digest Replay → Bool × AutomaticWorldCoordinator Digest Replay
  | [], world => (true, world)
  | (observationClass, io) :: checks, world =>
      match world.markUnowned core observationClass none [] io with
      | (.error _, world) => (false, world)
      | (.ok (), world) => markUnhealthyAdapters checks world

/-- Whether the engine closes a World. -/
def closesWorld (world : AutomaticWorldCoordinator Digest Replay) (completion : TriggerCompletion)
    (io : CloseIo) : Bool :=
  if world.captures then (world.close core completion io).isOk
  else (world.finishReplay core).isOk

/-- {lit}`closeWorld`, with the adapters that are not healthy. -/
def closeWorld (id : Nat) (unhealthy : List (AutomaticObservationClass × UnownedIo))
    (completion : TriggerCompletion) (io : CloseIo) (state : State Digest Replay) :
    State Digest Replay :=
  match state.operation id with
  | none => state
  | some operation =>
      if operation.finished || operation.worldComplete then state
      else
        let marked := markUnhealthyAdapters core unhealthy operation.world
        let state := setWorld id marked.2 state
        if marked.1 && closesWorld core marked.2 completion io then
          state.modify id fun operation => { operation with worldComplete := true }
        else abandonLocked id state

/-- {lit}`takeAutomaticProjectOperations` in {lit}`AutomaticProject.Close`.  A close waits for the
starts of its project. -/
def takeProject (project : Nat) (state : State Digest Replay) : State Digest Replay :=
  let owned (id : Nat) : Bool :=
    (state.operation id).any fun operation => operation.project == project
  let starting := (List.range state.started).any fun id =>
    (state.operation id).any fun operation =>
      operation.project == project && ! operation.startReturned
  if project ∈ state.closedProjects ∨ starting then state
  else
    { state with
      closedProjects := project :: state.closedProjects
      operations := state.operations.filter fun id => ! owned id
      closing := state.closing ++ state.operations.filter owned }

/-! ## Reads -/

/-- The answers of the engine and the number of a session that a read opens. -/
structure ReadAnswers where
  session : Nat
  openIo : OpenIo
  unownedIo : UnownedIo
  evidence : Bytes

/-- The next phase of a read. -/
def State.phase (state : State Digest Replay) (goroutine : Nat) (read : Read) (phase : Phase) :
    State Digest Replay :=
  { state with
    reads := Function.update state.reads goroutine (some { read with phase := phase }) }

/-- The end of a read. -/
def State.done (state : State Digest Replay) (goroutine : Nat) (read : Read) (outcome : Outcome) :
    State Digest Replay :=
  { state with
    reads := Function.update state.reads goroutine none
    records := state.records ++
      [{ goroutine := goroutine
         source := read.source
         throughout := read.began.filter state.isActive
         outcome := outcome }] }

/-- The first section of {lit}`snapshotAutomaticOperations`, which takes the operations in any
order. -/
def beginRead (goroutine : Nat) (source : Source) (candidates : List Nat)
    (state : State Digest Replay) : State Digest Replay :=
  if (state.reads goroutine).isSome ∨ ¬ candidates.Perm state.operations then state
  else
    { state with
      reads := Function.update state.reads goroutine
        (some
          { source := source
            began := state.operations.filter state.isActive
            phase := .checking candidates [] }) }

/-- {lit}`markUnowned`. -/
def markUnowned (id : Nat) (source : Source) (answers : ReadAnswers) (state : State Digest Replay) :
    State Digest Replay :=
  match state.operation id with
  | none => state
  | some operation =>
      if operation.finished || operation.worldComplete then state
      else
        match operation.world.markUnowned core source.observationClass none answers.evidence
            answers.unownedIo with
        | (.ok (), world) => setWorld id world state
        | (.error _, world) => abandonLocked id (setWorld id world state)

/-- {lit}`openObservationSession`, and whether it opened a session. -/
def openObservationSession (id : Nat) (source : Source) (answers : ReadAnswers)
    (state : State Digest Replay) : Bool × State Digest Replay :=
  match state.operation id with
  | none => (false, state)
  | some operation =>
      if operation.finished || operation.worldComplete then (false, state)
      else
        match operation.world.openObservationInner answers.session source.observationClass none true
            answers.openIo with
        | (.ok _, world) => (true, setWorld id world state)
        | (.error _, world) => (false, abandonLocked id (setWorld id world state))

/-- The next locked section of {lit}`instrumentedTimeNow` or {lit}`automaticRandomReader.Read`. -/
def advance (goroutine : Nat) (answers : ReadAnswers) (state : State Digest Replay) :
    State Digest Replay :=
  match state.reads goroutine with
  | none => state
  | some read =>
      match read.phase with
      | .checking (id :: pending) active =>
          state.phase goroutine read
            (.checking pending (if state.isActive id then active ++ [id] else active))
      | .checking [] active =>
          if active = [] then state.done goroutine read .quiet
          else if read.source = .randomness 0 then state.done goroutine read .empty
          else
            match (state.byGoroutine goroutine).getLast? with
            | none => state.phase goroutine read (.marking active .unowned)
            | some newest =>
                state.phase goroutine read
                  (.confirming active newest (state.liveOn goroutine))
      | .confirming active newest candidates =>
          if ! state.isActive newest then
            state.phase goroutine read (.marking active .unowned)
          else
            match read.source with
            | .clock => state.phase goroutine read (.opening newest candidates)
            | .randomness length =>
                if automaticRandomValueBytes < length then
                  state.phase goroutine read (.marking active .unowned)
                else state.phase goroutine read (.opening newest candidates)
      | .opening id candidates =>
          match openObservationSession id read.source answers state with
          | (true, state) => state.done goroutine read (.observed id candidates)
          | (false, state) =>
              match read.source with
              | .clock => state.phase goroutine read (.marking [id] (.failed id))
              | .randomness _ => state.done goroutine read (.failed id)
      | .marking (id :: pending) outcome =>
          (markUnowned core id read.source answers state).phase goroutine read
            (.marking pending outcome)
      | .marking [] outcome => state.done goroutine read outcome

/-! ## Steps -/

/-- One locked section of a goroutine. -/
inductive Event (Digest Replay : Type) where
  | register (goroutine project : Nat) (world : AutomaticWorldCoordinator Digest Replay)
  | returned (operation : Nat)
  | terminal (operation : Nat)
  | closeWorld (operation : Nat) (unhealthy : List (AutomaticObservationClass × UnownedIo))
      (completion : TriggerCompletion) (io : CloseIo)
  | engineCall (operation : Nat) (call : SessionCall)
  | takeProject (project : Nat)
  | finishTaken (operation : Nat)
  | beginRead (goroutine : Nat) (source : Source) (candidates : List Nat)
  | advance (goroutine : Nat) (answers : ReadAnswers)

/-- One step of a process. -/
def step (event : Event Digest Replay) (state : State Digest Replay) : State Digest Replay :=
  match event with
  | .register goroutine project world =>
      if project ∈ state.closedProjects then state else register goroutine project world state
  | .returned id => returned id state
  | .terminal id => abandonLocked id state
  | .closeWorld id unhealthy completion io => closeWorld core id unhealthy completion io state
  | .engineCall id call =>
      state.modify id fun operation =>
        { operation with world := (perform core operation.world call).2 }
  | .takeProject project => takeProject project state
  | .finishTaken id =>
      if id ∈ state.closing then
        { finishLocked id state with closing := state.closing.erase id }
      else state
  | .beginRead goroutine source candidates => beginRead goroutine source candidates state
  | .advance goroutine answers => advance core goroutine answers state

/-- The states after any interleaving. -/
inductive Reached : State Digest Replay → Prop
  | initial : Reached .initial
  | stepped {state : State Digest Replay} (reached : Reached state) (event : Event Digest Replay) :
      Reached (step core event state)

end Steps

/-! ## What the registry keeps -/

/-- What an operation keeps to.  An operation that was finished before its start returned is still
on its stack. -/
structure Operation.Consistent (operation : Operation Digest Replay) : Prop where
  owned : operation.ownerGoroutineId ≠ 0 → operation.ownerGoroutineId = operation.goroutine
  kept : operation.finished = false → operation.ownerGoroutineId = operation.goroutine
  returned : operation.activeRegistered = true → operation.startReturned = true
  early : operation.finished = true →
    (operation.activeRegistered = true ∨ operation.ownerGoroutineId ≠ 0 ∨
      operation.startReturned = false) → operation.finishedEarly = true

/-- What the registry keeps of the operations. -/
structure Registered (state : State Digest Replay) : Prop where
  known : ∀ id, (state.operation id).isSome ↔ id < state.started
  single : state.operations.Nodup
  bounded : state.operations.length ≤ automaticMaxActiveOperations
  present : ∀ id operation, state.operation id = some operation → operation.finished = false →
    id ∉ state.closing → id ∈ state.operations
  listed : ∀ id ∈ state.operations, id < state.started
  consistent : ∀ id operation, state.operation id = some operation → operation.Consistent
  stacked : ∀ id goroutine, id ∈ state.byGoroutine goroutine ↔ goroutine ≠ 0 ∧
    ∃ operation, state.operation id = some operation ∧ operation.ownerGoroutineId = goroutine
  sorted : ∀ goroutine, (state.byGoroutine goroutine).Pairwise (· < ·)

/-- What changes of an operation over time: it is not started anew, and nothing it lost comes
back. -/
structure Ages (before after : Operation Digest Replay) : Prop where
  goroutine : after.goroutine = before.goroutine
  finished : before.finished = true → after.finished = true
  worldComplete : before.worldComplete = true → after.worldComplete = true
  world : Extends before.world after.world
  unclosed : Doomed before.world → before.worldComplete = false → after.worldComplete = false

/-- An operation that does not change. -/
theorem Ages.refl (operation : Operation Digest Replay) : Ages operation operation :=
  ⟨rfl, id, id, .refl _, fun _ => id⟩

/-- An operation whose World is left alone. -/
theorem Ages.of_world {before after : Operation Digest Replay}
    (goroutine : after.goroutine = before.goroutine)
    (finished : before.finished = true → after.finished = true)
    (complete : after.worldComplete = before.worldComplete) (world : after.world = before.world) :
    Ages before after :=
  ⟨goroutine, finished, complete.trans, world ▸ .refl _, fun _ => complete.trans⟩

/-- Operations age one step after the other. -/
theorem Ages.trans {first second third : Operation Digest Replay} (before : Ages first second)
    (after : Ages second third) : Ages first third where
  goroutine := after.goroutine.trans before.goroutine
  finished := after.finished ∘ before.finished
  worldComplete := after.worldComplete ∘ before.worldComplete
  world := before.world.trans after.world
  unclosed doomed unclosed :=
    after.unclosed (before.world.doomed doomed) (before.unclosed doomed unclosed)

/-- A step that leaves the reads alone, keeps the registry, and ages the operations. -/
structure Moves (before after : State Digest Replay) : Prop where
  reads : after.reads = before.reads
  records : after.records = before.records
  started : before.started ≤ after.started
  ages : ∀ id operation, before.operation id = some operation →
    ∃ next, after.operation id = some next ∧ Ages operation next
  registered : Registered before → Registered after

/-- Nothing moves. -/
theorem Moves.refl (state : State Digest Replay) : Moves state state where
  reads := rfl
  records := rfl
  started := Nat.le_refl _
  ages _ operation found := ⟨operation, found, .refl operation⟩
  registered := id

/-- Moves compose. -/
theorem Moves.trans {first second third : State Digest Replay} (before : Moves first second)
    (after : Moves second third) : Moves first third where
  reads := after.reads.trans before.reads
  records := after.records.trans before.records
  started := Nat.le_trans before.started after.started
  ages id operation found := by
    obtain ⟨next, foundNext, ages⟩ := before.ages id operation found
    obtain ⟨last, foundLast, alsoAges⟩ := after.ages id next foundNext
    exact ⟨last, foundLast, ages.trans alsoAges⟩
  registered := after.registered ∘ before.registered

section Moves

variable {state : State Digest Replay} {id : Nat} {operation : Operation Digest Replay}

/-- A change of an operation that is there. -/
theorem modify_eq (found : state.operation id = some operation)
    (change : Operation Digest Replay → Operation Digest Replay) :
    state.modify id change =
      { state with
        operation := Function.update state.operation id (some (change operation)) } := by
  rw [State.modify, found, Option.map_some]

/-- A change of an operation that is not there. -/
theorem modify_eq_self (none : state.operation id = none)
    (change : Operation Digest Replay → Operation Digest Replay) :
    state.modify id change = state := by
  rw [State.modify, none, Option.map_none, ← none, Function.update_eq_self]

/-- The operations after one was replaced. -/
theorem of_update {next after : Operation Digest Replay} {other : Nat}
    (found : Function.update state.operation id (some next) other = some after) :
    other = id ∧ after = next ∨ other ≠ id ∧ state.operation other = some after := by
  by_cases same : other = id
  · subst same
    rw [Function.update_self] at found
    exact .inl ⟨rfl, (Option.some.inj found).symm⟩
  · rw [Function.update_of_ne same] at found
    exact .inr ⟨same, found⟩

/-- An operation that is replaced by an older one ages, and so does every other operation. -/
theorem ages_update {next : Operation Digest Replay} (found : state.operation id = some operation)
    (ages : Ages operation next) (other : Nat) (before : Operation Digest Replay)
    (was : state.operation other = some before) :
    ∃ after, Function.update state.operation id (some next) other = some after ∧
      Ages before after := by
  by_cases same : other = id
  · subst same
    obtain rfl := Option.some.inj (found.symm.trans was)
    exact ⟨next, Function.update_self _ _ _, ages⟩
  · exact ⟨before, (Function.update_of_ne same _ _).trans was, .refl before⟩

/-- Replacing an operation starts none. -/
theorem isSome_update {next : Operation Digest Replay}
    (found : state.operation id = some operation) (other : Nat) :
    (Function.update state.operation id (some next) other).isSome =
      (state.operation other).isSome := by
  by_cases same : other = id
  · subst same
    rw [Function.update_self, found, Option.isSome_some, Option.isSome_some]
  · rw [Function.update_of_ne same]

/-- A change of one operation that leaves it on its stack is a move. -/
theorem moves_modify {change : Operation Digest Replay → Operation Digest Replay}
    (found : state.operation id = some operation) (ages : Ages operation (change operation))
    (owner : (change operation).ownerGoroutineId = operation.ownerGoroutineId)
    (consistent : operation.Consistent → (change operation).Consistent) :
    Moves state (state.modify id change) where
  reads := rfl
  records := rfl
  started := Nat.le_refl _
  ages := by
    rw [modify_eq found]
    exact ages_update found ages
  registered registered := by
    rw [modify_eq found]
    refine
      { registered with
        known := fun other => ?_
        present := fun other next after live untaken => ?_
        consistent := fun other next after => ?_
        stacked := fun other goroutine => ?_ }
    · exact (isSome_update found other).symm ▸ registered.known other
    · rcases of_update after with ⟨rfl, rfl⟩ | ⟨-, was⟩
      · refine registered.present other operation found ?_ untaken
        by_contra done
        rw [ages.finished (Bool.eq_true_of_not_eq_false done)] at live
        cases live
      · exact registered.present other next was live untaken
    · rcases of_update after with ⟨rfl, rfl⟩ | ⟨-, was⟩
      · exact consistent (registered.consistent other operation found)
      · exact registered.consistent other next was
    · refine (registered.stacked other goroutine).trans (and_congr_right fun _ => ?_)
      by_cases same : other = id
      · subst same
        simp only [Function.update_self, found, Option.some.injEq, exists_eq_left', owner]
      · simp only [Function.update_of_ne same]

/-- Removing from an ascending stack leaves the other entries. -/
theorem removeNewest_eq {stack : List Nat} (sorted : stack.Pairwise (· < ·)) :
    removeNewest id stack = stack.filter (· != id) := by
  have distinct : stack.reverse.Nodup := by
    rw [List.nodup_reverse]
    exact sorted.imp Nat.ne_of_lt
  rw [removeNewest, distinct.erase_eq_filter, List.filter_reverse, List.reverse_reverse]

/-- A registered operation is finished and taken out of the registry. -/
theorem finishLocked_registered (found : state.operation id = some operation)
    (active : operation.activeRegistered = true) :
    finishLocked id state =
      { state with
        operation := Function.update state.operation id
          (some
            { operation with
              finished := true
              ownerGoroutineId := 0
              activeRegistered := false })
        operations := state.operations.erase id
        byGoroutine :=
          if operation.ownerGoroutineId = 0 then state.byGoroutine
          else
            Function.update state.byGoroutine operation.ownerGoroutineId
              (removeNewest id (state.byGoroutine operation.ownerGoroutineId)) } := by
  unfold finishLocked
  simp only [found, active, if_true]
  unfold unregister
  simp only [State.modify, found, Option.map_some, Function.update_self]
  split <;> simp [*]

/-- The stacks after an operation was taken from its own. -/
theorem mem_unstacked (registered : Registered state) (found : state.operation id = some operation)
    (other goroutine : Nat) :
    other ∈ (if operation.ownerGoroutineId = 0 then state.byGoroutine
        else
          Function.update state.byGoroutine operation.ownerGoroutineId
            (removeNewest id (state.byGoroutine operation.ownerGoroutineId))) goroutine ↔
      other ≠ id ∧ other ∈ state.byGoroutine goroutine := by
  have onlyOwner (member : id ∈ state.byGoroutine goroutine) :
      goroutine ≠ 0 ∧ operation.ownerGoroutineId = goroutine := by
    obtain ⟨known, before, was, owner⟩ := (registered.stacked id goroutine).mp member
    obtain rfl := Option.some.inj (found.symm.trans was)
    exact ⟨known, owner⟩
  by_cases unknown : operation.ownerGoroutineId = 0
  · rw [if_pos unknown]
    refine ⟨fun member => ⟨?_, member⟩, And.right⟩
    rintro rfl
    obtain ⟨known, owner⟩ := onlyOwner member
    exact known (owner.symm.trans unknown)
  · rw [if_neg unknown]
    by_cases same : goroutine = operation.ownerGoroutineId
    · subst same
      rw [Function.update_self, removeNewest_eq (registered.sorted _), List.mem_filter, and_comm,
        bne_iff_ne]
    · rw [Function.update_of_ne same]
      refine ⟨fun member => ⟨?_, member⟩, And.right⟩
      rintro rfl
      exact same (onlyOwner member).2.symm

/-- Finishing an operation is a move. -/
theorem moves_finishLocked (id : Nat) (state : State Digest Replay) :
    Moves state (finishLocked id state) := by
  cases found : state.operation id with
  | none =>
      rw [finishLocked, found]
      exact .refl state
  | some operation =>
      cases active : operation.activeRegistered with
      | true =>
          rw [finishLocked_registered found active]
          refine
            { reads := rfl
              records := rfl
              started := Nat.le_refl _
              ages := ages_update found (.of_world rfl (fun _ => rfl) rfl rfl)
              registered := fun registered => ?_ }
          refine
            { known := fun other => ?_
              single := registered.single.erase id
              bounded := Nat.le_trans List.length_erase_le registered.bounded
              present := fun other next after live untaken => ?_
              listed := fun other member => registered.listed other (List.mem_of_mem_erase member)
              consistent := fun other next after => ?_
              stacked := fun other goroutine => ?_
              sorted := fun goroutine => ?_ }
          · exact (isSome_update found other).symm ▸ registered.known other
          · rcases of_update after with ⟨-, rfl⟩ | ⟨different, was⟩
            · cases live
            · exact (List.mem_erase_of_ne different).mpr
                (registered.present other next was live untaken)
          · rcases of_update after with ⟨-, rfl⟩ | ⟨-, was⟩
            · have started := (registered.consistent id operation found).returned active
              exact ⟨fun owner => absurd rfl owner, nofun, nofun, by simp [started]⟩
            · exact registered.consistent other next was
          · refine (mem_unstacked registered found other goroutine).trans ?_
            rw [registered.stacked]
            by_cases same : other = id
            · subst same
              simp only [ne_eq, not_true, false_and, Function.update_self, Option.some.injEq,
                exists_eq_left', false_iff]
              rintro ⟨known, rfl⟩
              exact known rfl
            · simp [same]
          · dsimp only
            split
            · exact registered.sorted goroutine
            · by_cases same : goroutine = operation.ownerGoroutineId
              · subst same
                rw [Function.update_self, removeNewest_eq (registered.sorted _)]
                exact (registered.sorted _).filter _
              · rw [Function.update_of_ne same]
                exact registered.sorted goroutine
      | false =>
          have changed : finishLocked id state = state.modify id fun operation =>
              { operation with
                finished := true
                finishedEarly := operation.finishedEarly || ! operation.finished } := by
            rw [finishLocked, found]
            simp only [active, Bool.false_eq_true, if_false]
          rw [changed]
          refine moves_modify found (.of_world rfl (fun _ => rfl) rfl rfl) rfl
            fun consistent => ⟨consistent.owned, nofun, consistent.returned, fun _ cause => ?_⟩
          cases done : operation.finished with
          | false => simp
          | true => simp [consistent.early done cause]

/-- A finished operation is finished. -/
theorem finished_of_finishLocked (found : (finishLocked id state).operation id = some operation) :
    operation.finished = true := by
  cases was : state.operation id with
  | none =>
      rw [finishLocked, was] at found
      cases was.symm.trans found
  | some before =>
      cases active : before.activeRegistered with
      | true =>
          rw [finishLocked_registered was active] at found
          rcases of_update found with ⟨-, rfl⟩ | ⟨different, -⟩
          · rfl
          · exact absurd rfl different
      | false =>
          rw [finishLocked, was] at found
          simp only [active, Bool.false_eq_true, if_false] at found
          rw [modify_eq was] at found
          rcases of_update found with ⟨-, rfl⟩ | ⟨different, -⟩
          · rfl
          · exact absurd rfl different

/-- Abandoning an operation is a move. -/
theorem moves_abandonLocked (id : Nat) (state : State Digest Replay) :
    Moves state (abandonLocked id state) := by
  unfold abandonLocked
  split
  · exact moves_finishLocked id state
  · exact .refl state

/-- A World after an engine call is a move. -/
theorem moves_setWorld {world : AutomaticWorldCoordinator Digest Replay}
    (found : state.operation id = some operation) (extended : Extends operation.world world) :
    Moves state (setWorld id world state) := by
  have ages : Ages operation { operation with world := world } :=
    ⟨rfl, fun done => done, fun done => done, extended, fun _ done => done⟩
  exact moves_modify found ages rfl fun consistent =>
    ⟨consistent.owned, consistent.kept, consistent.returned, consistent.early⟩

/-- The end of a start is a move. -/
theorem moves_returned (id : Nat) (state : State Digest Replay) :
    Moves state (returned id state) := by
  cases found : state.operation id with
  | none =>
      rw [returned, modify_eq_self found]
      exact .refl state
  | some operation =>
      refine moves_modify found ?_ ?_ fun consistent => ?_
      · split
        · exact .refl operation
        · exact .of_world rfl (fun done => done) rfl rfl
      · split <;> rfl
      · split
        · exact consistent
        · rename_i unreturned
          exact ⟨consistent.owned, consistent.kept, fun _ => rfl, fun done _ =>
            consistent.early done (.inr (.inr (Bool.eq_false_of_not_eq_true unreturned)))⟩

/-- The start of an operation is a move. -/
theorem moves_register (registered : Registered state) (goroutine project : Nat)
    (world : AutomaticWorldCoordinator Digest Replay) :
    Moves state (register goroutine project world state) := by
  unfold register
  split
  · exact .refl state
  · rename_i room
    have fresh {other : Nat} {before : Operation Digest Replay}
        (found : state.operation other = some before) : other ≠ state.started := by
      have known := (registered.known other).mp (Option.isSome_of_eq_some found)
      omega
    have unlisted : state.started ∉ state.operations := fun member =>
      Nat.lt_irrefl _ (registered.listed _ member)
    refine
      { reads := rfl
        records := rfl
        started := Nat.le_succ _
        ages := fun other before found =>
          ⟨before, (Function.update_of_ne (fresh found) _ _).trans found, .refl before⟩
        registered := fun _ => ?_ }
    refine
      { known := fun other => ?_
        single := ?_
        bounded := ?_
        present := fun other next after live untaken => ?_
        listed := fun other member => ?_
        consistent := fun other next after => ?_
        stacked := fun other place => ?_
        sorted := fun place => ?_ }
    · by_cases same : other = state.started
      · subst same
        simp
      · dsimp only
        rw [Function.update_of_ne same, registered.known other]
        omega
    · rw [List.nodup_append]
      refine ⟨registered.single, List.nodup_singleton _, fun other member newest last => ?_⟩
      rintro rfl
      exact unlisted (List.mem_singleton.mp last ▸ member)
    · simp only [List.length_append, List.length_singleton]
      omega
    · rcases of_update after with ⟨rfl, -⟩ | ⟨-, was⟩
      · exact List.mem_append_right _ (List.mem_singleton_self _)
      · exact List.mem_append_left _ (registered.present other next was live untaken)
    · rcases List.mem_append.mp member with member | member
      · exact Nat.lt_succ_of_lt (registered.listed other member)
      · rw [List.mem_singleton.mp member]
        exact Nat.lt_succ_self _
    · rcases of_update after with ⟨-, rfl⟩ | ⟨-, was⟩
      · exact ⟨fun _ => rfl, fun _ => rfl, nofun, nofun⟩
      · exact registered.consistent other next was
    · dsimp only
      have stacked := registered.stacked other place
      by_cases same : other = state.started
      · subst same
        have unstacked : state.started ∉ state.byGoroutine place := fun member => by
          obtain ⟨-, before, found, -⟩ := stacked.mp member
          exact fresh found rfl
        simp only [Function.update_self, Option.some.injEq, exists_eq_left']
        split
        · simp only [unstacked, false_iff, not_and]
          omega
        · by_cases there : place = goroutine
          · subst there
            simp [*]
          · rw [Function.update_of_ne there]
            simp only [unstacked, false_iff, not_and]
            omega
      · rw [Function.update_of_ne same]
        refine Iff.trans ?_ stacked
        split
        · exact Iff.rfl
        · by_cases there : place = goroutine
          · subst there
            simp [same]
          · rw [Function.update_of_ne there]
    · dsimp only
      split
      · exact registered.sorted place
      · by_cases same : place = goroutine
        · subst same
          rw [Function.update_self, List.pairwise_append]
          refine ⟨registered.sorted place, List.pairwise_singleton _ _, fun other member last => ?_⟩
          intro newest
          obtain ⟨-, before, found, -⟩ := (registered.stacked other place).mp member
          rw [List.mem_singleton.mp newest]
          exact (registered.known other).mp (Option.isSome_of_eq_some found)
        · rw [Function.update_of_ne same]
          exact registered.sorted place

/-- Taking the operations of a project is a move. -/
theorem moves_takeProject (project : Nat) (state : State Digest Replay) :
    Moves state (takeProject project state) := by
  unfold takeProject
  dsimp only
  split
  · exact .refl state
  · exact
      { reads := rfl
        records := rfl
        started := Nat.le_refl _
        ages := fun other before found => ⟨before, found, .refl before⟩
        registered := fun registered =>
          { registered with
            single := registered.single.filter _
            bounded := Nat.le_trans (List.length_filter_le _ _) registered.bounded
            present := fun other next found live untaken => by
              have member := registered.present other next found live fun taken =>
                untaken (List.mem_append_left _ taken)
              refine List.mem_filter.mpr ⟨member, ?_⟩
              by_contra owned
              refine untaken (List.mem_append_right _ (List.mem_filter.mpr ⟨member, ?_⟩))
              simpa using owned
            listed := fun other member =>
              registered.listed other (List.mem_of_mem_filter member) } }

/-- Finishing an operation that a close has taken is a move. -/
theorem moves_finishTaken (id : Nat) (state : State Digest Replay) :
    Moves state { finishLocked id state with closing := state.closing.erase id } := by
  have moved := moves_finishLocked id state
  have closing : (finishLocked id state).closing = state.closing := by
    unfold finishLocked
    split
    · rfl
    · split
      · dsimp only
        unfold unregister
        split
        · rfl
        · split <;> rfl
      · rfl
  refine
    { reads := moved.reads
      records := moved.records
      started := moved.started
      ages := moved.ages
      registered := fun registered => ?_ }
  refine { moved.registered registered with present := fun other next found live untaken => ?_ }
  refine (moved.registered registered).present other next found live ?_
  rw [closing]
  intro taken
  by_cases same : other = id
  · subst same
    rw [finished_of_finishLocked found] at live
    cases live
  · exact untaken ((List.mem_erase_of_ne same).mpr taken)

section Engine

variable {core : Core Digest Replay}

/-- A call of the engine is a move. -/
theorem moves_engineCall (id : Nat) (call : SessionCall) (state : State Digest Replay) :
    Moves state
      (state.modify id fun operation =>
        { operation with world := (perform core operation.world call).2 }) := by
  cases found : state.operation id with
  | none =>
      rw [modify_eq_self found]
      exact .refl state
  | some operation =>
      exact moves_modify found
        ⟨rfl, fun done => done, fun done => done, perform_extends core _ call, fun _ done => done⟩
        rfl fun consistent =>
          ⟨consistent.owned, consistent.kept, consistent.returned, consistent.early⟩

/-- Marking adapters forgets nothing. -/
theorem markUnhealthyAdapters_extends
    (unhealthy : List (AutomaticObservationClass × UnownedIo))
    (world : AutomaticWorldCoordinator Digest Replay) :
    Extends world (markUnhealthyAdapters core unhealthy world).2 := by
  induction unhealthy generalizing world with
  | nil => exact .refl world
  | cons check checks ih =>
      obtain ⟨observationClass, io⟩ := check
      have extended := (markUnowned_effect core world observationClass none [] io).extends
      unfold markUnhealthyAdapters
      split
      · rename_i marked
        rw [marked] at extended
        exact extended
      · rename_i marked
        rw [marked] at extended
        exact extended.trans (ih _)

/-- A World that lost an observation does not close. -/
theorem closesWorld_doomed {world : AutomaticWorldCoordinator Digest Replay}
    (doomed : Doomed world) (completion : TriggerCompletion) (io : CloseIo) :
    closesWorld core world completion io = false := by
  unfold closesWorld
  split
  · rw [close_doomed doomed]
    rfl
  · rename_i replays
    rw [finishReplay_doomed doomed (Bool.eq_false_of_not_eq_true replays)]
    rfl

/-- The World of an operation after an engine call. -/
theorem operation_setWorld {world : AutomaticWorldCoordinator Digest Replay}
    (found : state.operation id = some operation) :
    (setWorld id world state).operation id = some { operation with world := world } := by
  rw [setWorld, modify_eq found]
  exact Function.update_self _ _ _

/-- Closing a World is a move. -/
theorem moves_closeWorld (id : Nat) (unhealthy : List (AutomaticObservationClass × UnownedIo))
    (completion : TriggerCompletion) (io : CloseIo) (state : State Digest Replay) :
    Moves state (closeWorld core id unhealthy completion io state) := by
  unfold closeWorld
  split
  · exact .refl state
  · rename_i operation found
    split
    · exact .refl state
    · have marked := moves_setWorld found
        (@markUnhealthyAdapters_extends _ _ core unhealthy operation.world)
      refine marked.trans ?_
      dsimp only
      split
      · rename_i closes
        refine moves_modify (operation_setWorld found) ?_ rfl fun consistent =>
          ⟨consistent.owned, consistent.kept, consistent.returned, consistent.early⟩
        refine ⟨rfl, fun done => done, fun _ => rfl, .refl _, fun doomed _ => ?_⟩
        rw [closesWorld_doomed doomed, Bool.and_false] at closes
        cases closes
      · exact moves_abandonLocked id _

/-- Marking an operation is a move. -/
theorem moves_markUnowned (id : Nat) (source : Source) (answers : ReadAnswers)
    (state : State Digest Replay) : Moves state (markUnowned core id source answers state) := by
  unfold markUnowned
  split
  · exact .refl state
  · rename_i operation found
    have extended := (markUnowned_effect core operation.world source.observationClass none
      answers.evidence answers.unownedIo).extends
    split
    · exact .refl state
    · split
      · rename_i marked
        rw [marked] at extended
        exact moves_setWorld found extended
      · rename_i marked
        rw [marked] at extended
        exact (moves_setWorld found extended).trans (moves_abandonLocked id _)

/-- Opening a session is a move. -/
theorem moves_openObservationSession (id : Nat) (source : Source) (answers : ReadAnswers)
    (state : State Digest Replay) :
    Moves state (openObservationSession id source answers state).2 := by
  unfold openObservationSession
  split
  · exact .refl state
  · rename_i operation found
    have extended := (openObservationInner_effect operation.world answers.session
      source.observationClass none true answers.openIo).unpublished.extends
    split
    · exact .refl state
    · split
      · rename_i opened
        rw [opened] at extended
        exact moves_setWorld found extended
      · rename_i refused
        rw [refused] at extended
        exact (moves_setWorld found extended).trans (moves_abandonLocked id _)

end Engine
end Moves

/-! ## What the reads keep -/

/-- An operation whose World was not closed and never will be. -/
def Lost (state : State Digest Replay) (id : Nat) : Prop :=
  ∃ operation, state.operation id = some operation ∧ operation.worldComplete = false ∧
    Doomed operation.world

/-- What a read under way keeps to.  An operation that stays active is still to be looked at, or it
was looked at. -/
def Read.Ok (read : Read) (state : State Digest Replay) : Prop :=
  (∀ id ∈ read.began, id < state.started) ∧
    match read.phase with
    | .checking pending active =>
        ∀ id ∈ read.began, state.isActive id = true → id ∈ pending ∨ id ∈ active
    | .confirming active newest candidates =>
        (∀ id ∈ read.began, state.isActive id = true → id ∈ active) ∧ newest < state.started ∧
          (state.isActive newest = true → newest ∈ candidates) ∧
          ∀ other ∈ candidates, other ≤ newest
    | .opening id candidates =>
        id < state.started ∧ id ∈ candidates ∧ ∀ other ∈ candidates, other ≤ id
    | .marking pending .unowned =>
        ∀ id ∈ read.began, state.isActive id = true → id ∈ pending ∨ Lost state id
    | .marking _ (.failed id) => id < state.started ∧ state.isActive id = false
    | .marking _ _ => False

/-- How a read is accounted for. -/
def Accounted (lost : Nat → Prop) (state : State Digest Replay) (record : ReadRecord) : Prop :=
  match record.outcome with
  | .quiet => record.throughout = []
  | .empty => record.source = .randomness 0
  | .observed id candidates => id ∈ candidates ∧ ∀ other ∈ candidates, other ≤ id
  | .failed id => id < state.started ∧ state.isActive id = false
  | .unowned => ∀ id ∈ record.throughout, lost id

/-- What every step keeps. -/
structure Attributed (state : State Digest Replay) : Prop where
  registered : Registered state
  reading : ∀ goroutine read, state.reads goroutine = some read → read.Ok state
  accounted : ∀ record ∈ state.records, Accounted (Lost state) state record

section Reads

variable {before after state : State Digest Replay} {id goroutine : Nat} {read : Read}

/-- What is lost stays lost. -/
theorem Moves.lost (moves : Moves before after) (lost : Lost before id) : Lost after id := by
  obtain ⟨operation, found, unclosed, doomed⟩ := lost
  obtain ⟨next, foundNext, ages⟩ := moves.ages id operation found
  exact ⟨next, foundNext, ages.unclosed doomed unclosed, ages.world.doomed doomed⟩

/-- An active operation has been active since its start. -/
theorem Moves.active (moves : Moves before after) (registered : Registered before)
    (started : id < before.started) (active : after.isActive id = true) :
    before.isActive id = true := by
  obtain ⟨operation, found⟩ := Option.isSome_iff_exists.mp ((registered.known id).mpr started)
  obtain ⟨next, foundNext, ages⟩ := moves.ages id operation found
  simp only [State.isActive, found, foundNext, Option.any_some, Bool.and_eq_true,
    Bool.not_eq_true'] at active ⊢
  constructor
  · by_contra done
    rw [ages.finished (Bool.eq_true_of_not_eq_false done)] at active
    cases active.1
  · by_contra done
    rw [ages.worldComplete (Bool.eq_true_of_not_eq_false done)] at active
    cases active.2

/-- An operation that is not active stays so. -/
theorem Moves.inactive (moves : Moves before after) (registered : Registered before)
    (started : id < before.started) (inactive : before.isActive id = false) :
    after.isActive id = false := by
  by_contra active
  rw [moves.active registered started (Bool.eq_true_of_not_eq_false active)] at inactive
  cases inactive

/-- A move keeps what a read under way keeps to. -/
theorem Moves.ok (moves : Moves before after) (registered : Registered before)
    (ok : read.Ok before) : read.Ok after := by
  obtain ⟨began, ok⟩ := ok
  have active (id : Nat) (member : id ∈ read.began) (active : after.isActive id = true) :
      before.isActive id = true :=
    moves.active registered (began id member) active
  refine ⟨fun id member => Nat.lt_of_lt_of_le (began id member) moves.started, ?_⟩
  split
  · rename_i phase
    rw [phase] at ok
    exact fun id member now => ok id member (active id member now)
  · rename_i phase
    rw [phase] at ok
    obtain ⟨looked, started, chosen, newest⟩ := ok
    exact ⟨fun id member now => looked id member (active id member now),
      Nat.lt_of_lt_of_le started moves.started,
      fun now => chosen (moves.active registered started now), newest⟩
  · rename_i phase
    rw [phase] at ok
    exact ⟨Nat.lt_of_lt_of_le ok.1 moves.started, ok.2⟩
  · rename_i phase
    rw [phase] at ok
    exact fun id member now => (ok id member (active id member now)).imp_right moves.lost
  · rename_i phase
    rw [phase] at ok
    exact ⟨Nat.lt_of_lt_of_le ok.1 moves.started, moves.inactive registered ok.1 ok.2⟩
  · rename_i pending outcome unowned failed phase
    rw [phase] at ok
    cases outcome <;> first | exact ok | exact (unowned rfl).elim | exact (failed _ rfl).elim

/-- A move keeps how a read is accounted for. -/
theorem Moves.accounted (moves : Moves before after) (registered : Registered before)
    {record : ReadRecord} (accounted : Accounted (Lost before) before record) :
    Accounted (Lost after) after record := by
  unfold Accounted at accounted ⊢
  split <;> rename_i outcome <;> rw [outcome] at accounted
  · exact accounted
  · exact accounted
  · exact accounted
  · exact ⟨Nat.lt_of_lt_of_le accounted.1 moves.started,
      moves.inactive registered accounted.1 accounted.2⟩
  · exact fun id member => moves.lost (accounted id member)

/-- A move keeps everything. -/
theorem Moves.attributed (moves : Moves before after) (attributed : Attributed before) :
    Attributed after where
  registered := moves.registered attributed.registered
  reading goroutine read found := by
    rw [moves.reads] at found
    exact moves.ok attributed.registered (attributed.reading goroutine read found)
  accounted record member := by
    rw [moves.records] at member
    exact moves.accounted attributed.registered (attributed.accounted record member)

/-- The next phase of a read. -/
theorem Attributed.phase (attributed : Attributed state) {phase : Phase}
    (ok : ({ read with phase := phase } : Read).Ok state) :
    Attributed (state.phase goroutine read phase) where
  registered := { attributed.registered with }
  reading other next found := by
    by_cases same : other = goroutine
    · subst same
      simp only [State.phase, Function.update_self, Option.some.injEq] at found
      exact found ▸ ok
    · exact attributed.reading other next ((Function.update_of_ne same _ _).symm.trans found)
  accounted := attributed.accounted

/-- The end of a read. -/
theorem Attributed.done (attributed : Attributed state) {outcome : Outcome}
    (accounted : Accounted (Lost state) state
      { goroutine := goroutine
        source := read.source
        throughout := read.began.filter state.isActive
        outcome := outcome }) :
    Attributed (state.done goroutine read outcome) where
  registered := { attributed.registered with }
  reading other next found := by
    by_cases same : other = goroutine
    · subst same
      cases (Function.update_self _ _ _).symm.trans found
    · exact attributed.reading other next ((Function.update_of_ne same _ _).symm.trans found)
  accounted record member := by
    rcases List.mem_append.mp member with earlier | last
    · exact attributed.accounted record earlier
    · rw [List.mem_singleton.mp last]
      exact accounted

/-! ## Steps of a read -/

section Engine

variable {core : Core Digest Replay} {source : Source} {answers : ReadAnswers}

/-- Only a live operation is active. -/
theorem live_of_isActive (active : state.isActive id = true) : state.live id = true := by
  simp only [State.isActive, State.live, Option.any_eq_true, Bool.and_eq_true] at active ⊢
  obtain ⟨operation, found, unfinished, -⟩ := active
  exact ⟨operation, found, unfinished⟩

/-- An abandoned operation is not active. -/
theorem isActive_abandonLocked (id : Nat) (state : State Digest Replay) :
    (abandonLocked id state).isActive id = false := by
  unfold abandonLocked
  split
  · cases found : (finishLocked id state).operation id with
    | none => simp [State.isActive, found]
    | some operation => simp [State.isActive, found, finished_of_finishLocked found]
  · rename_i dead
    by_contra active
    exact dead (live_of_isActive (Bool.eq_true_of_not_eq_false active))

/-- A World that accepts a mark remembers a loss. -/
theorem doomed_of_marked {world next : AutomaticWorldCoordinator Digest Replay}
    (marked : world.markUnowned core source.observationClass none answers.evidence
      answers.unownedIo = (.ok (), next)) : Doomed next := by
  have effect := markUnowned_effect core world source.observationClass none answers.evidence
    answers.unownedIo
  rw [marked] at effect
  cases effect with
  | recorded spool objectId some captures others =>
      exact .inr (.inr ⟨captures, _, List.mem_append_right _ (List.mem_singleton_self _), rfl⟩)

/-- An operation that is still active after it was marked has lost its World. -/
theorem lost_of_markUnowned
    (active : (markUnowned core id source answers state).isActive id = true) :
    Lost (markUnowned core id source answers state) id := by
  cases found : state.operation id with
  | none =>
      simp only [State.isActive, markUnowned, found, Option.any_none, Bool.false_eq_true] at active
  | some operation =>
      cases idle : operation.finished || operation.worldComplete with
      | true =>
          simp only [State.isActive, markUnowned, found, idle, if_true, Option.any_some,
            ← Bool.not_or, Bool.not_true, Bool.false_eq_true] at active
      | false =>
          have unclosed : operation.worldComplete = false := (Bool.or_eq_false_iff.mp idle).2
          rcases marked : operation.world.markUnowned core source.observationClass none
            answers.evidence answers.unownedIo with ⟨reply, world⟩
          cases reply with
          | ok =>
              have kept : markUnowned core id source answers state = setWorld id world state := by
                simp only [markUnowned, found, idle, marked, Bool.false_eq_true, if_false]
              rw [kept]
              exact ⟨_, operation_setWorld found, unclosed, doomed_of_marked marked⟩
          | error =>
              simp only [markUnowned, found, idle, marked, Bool.false_eq_true, if_false,
                isActive_abandonLocked] at active

/-- An operation whose session was refused is not active. -/
theorem inactive_of_refused
    (refused : (openObservationSession id source answers state).1 = false) :
    (openObservationSession id source answers state).2.isActive id = false := by
  cases found : state.operation id with
  | none => simp only [State.isActive, openObservationSession, found, Option.any_none]
  | some operation =>
      cases idle : operation.finished || operation.worldComplete with
      | true =>
          simp only [State.isActive, openObservationSession, found, idle, if_true, Option.any_some,
            ← Bool.not_or, Bool.not_true]
      | false =>
          rcases opened : operation.world.openObservationInner answers.session
            source.observationClass none true answers.openIo with ⟨reply, world⟩
          cases reply with
          | ok =>
              simp only [openObservationSession, found, idle, opened, Bool.false_eq_true,
                if_false, reduceCtorEq] at refused
          | error =>
              simp only [openObservationSession, found, idle, opened, Bool.false_eq_true,
                if_false, isActive_abandonLocked]

/-- The live operations of a goroutine. -/
theorem mem_liveOn :
    id ∈ state.liveOn goroutine ↔ id < state.started ∧
      ∃ operation, state.operation id = some operation ∧ operation.finished = false ∧
        operation.goroutine = goroutine := by
  simp only [State.liveOn, List.mem_filter, List.mem_range, Option.any_eq_true, Bool.and_eq_true,
    Bool.not_eq_true', beq_iff_eq]

/-- The live operations of a known goroutine are on its stack. -/
theorem Registered.stack_of_live (registered : Registered state) (known : goroutine ≠ 0)
    (live : id ∈ state.liveOn goroutine) : id ∈ state.byGoroutine goroutine := by
  obtain ⟨-, operation, found, unfinished, started⟩ := mem_liveOn.mp live
  have owner := (registered.consistent id operation found).kept unfinished
  exact (registered.stacked id goroutine).mpr ⟨known, operation, found, owner.trans started⟩

/-- What is on a stack was started on its goroutine, and is live unless it was finished before its
start returned. -/
theorem Registered.live_of_stack (registered : Registered state)
    (member : id ∈ state.byGoroutine goroutine) :
    ∃ operation, state.operation id = some operation ∧ operation.goroutine = goroutine ∧
      (operation.finished = false ∨ operation.finishedEarly = true) := by
  obtain ⟨known, operation, found, rfl⟩ := (registered.stacked id goroutine).mp member
  have consistent := registered.consistent id operation found
  refine ⟨operation, found, (consistent.owned known).symm, ?_⟩
  cases done : operation.finished with
  | false => exact .inl rfl
  | true => exact .inr (consistent.early done (.inr (.inl known)))

/-- The newest entry of a stack is the newest live operation of its goroutine, if it is active. -/
theorem Registered.newest (registered : Registered state)
    (newest : (state.byGoroutine goroutine).getLast? = some id) :
    id < state.started ∧ (state.isActive id = true → id ∈ state.liveOn goroutine) ∧
      ∀ other ∈ state.liveOn goroutine, other ≤ id := by
  obtain ⟨older, stack⟩ := List.getLast?_eq_some_iff.mp newest
  have member : id ∈ state.byGoroutine goroutine := by simp [stack]
  have known := ((registered.stacked id goroutine).mp member).1
  obtain ⟨operation, found, started, -⟩ := registered.live_of_stack member
  have bound := (registered.known id).mp (Option.isSome_of_eq_some found)
  refine ⟨bound, fun active => ?_, fun other live => ?_⟩
  · have live := live_of_isActive active
    simp only [State.live, found, Option.any_some, Bool.not_eq_true'] at live
    exact mem_liveOn.mpr ⟨bound, operation, found, live, started⟩
  · have entry := registered.stack_of_live known live
    have sorted := registered.sorted goroutine
    rw [stack] at entry sorted
    rcases List.mem_append.mp entry with earlier | last
    · exact Nat.le_of_lt ((List.pairwise_append.mp sorted).2.2 other earlier id
        (List.mem_singleton_self _))
    · exact Nat.le_of_eq (List.mem_singleton.mp last)

/-- A locked section of a read keeps everything. -/
theorem attributed_advance (attributed : Attributed state) (goroutine : Nat)
    (answers : ReadAnswers) : Attributed (advance core goroutine answers state) := by
  unfold advance
  split
  · exact attributed
  · rename_i read found
    obtain ⟨began, ok⟩ := attributed.reading goroutine read found
    split <;> rename_i phase <;> rw [phase] at ok
    · rename_i id pending active
      refine attributed.phase ⟨began, fun other member now => ?_⟩
      rcases ok other member now with waiting | looked
      · rcases List.mem_cons.mp waiting with rfl | waiting
        · exact .inr (by simp [now])
        · exact .inl waiting
      · refine .inr ?_
        split
        · exact List.mem_append_left _ looked
        · exact looked
    · rename_i active
      have looked (id : Nat) (member : id ∈ read.began) (now : state.isActive id = true) :
          id ∈ active :=
        (ok id member now).resolve_left List.not_mem_nil
      split
      · rename_i none
        refine attributed.done (List.filter_eq_nil_iff.mpr fun id member now => ?_)
        have listed := looked id member now
        rw [none] at listed
        exact List.not_mem_nil listed
      · split
        · rename_i nothing
          exact attributed.done nothing
        · split
          · exact attributed.phase ⟨began, fun id member now => .inl (looked id member now)⟩
          · rename_i newest top
            exact attributed.phase ⟨began, looked, attributed.registered.newest top⟩
    · rename_i active newest candidates
      obtain ⟨looked, started, chosen, latest⟩ := ok
      have unowned : Attributed (state.phase goroutine read (.marking active .unowned)) :=
        attributed.phase ⟨began, fun id member now => .inl (looked id member now)⟩
      split
      · exact unowned
      · rename_i now
        have opening : Attributed (state.phase goroutine read (.opening newest candidates)) :=
          attributed.phase ⟨began, started, chosen (by simpa using now), latest⟩
        split
        · exact opening
        · split
          · exact unowned
          · exact opening
    · rename_i id candidates
      have moves := moves_openObservationSession id read.source answers state
      have refused := @inactive_of_refused _ _ state id read.source answers
      split <;> rename_i opened <;> rw [opened] at moves refused
      · exact (moves.attributed attributed).done ok.2
      · have failed := (⟨Nat.lt_of_lt_of_le ok.1 moves.started, refused rfl⟩ :
          id < _ ∧ State.isActive _ id = false)
        split
        · exact (moves.attributed attributed).phase
            ⟨fun other member => Nat.lt_of_lt_of_le (began other member) moves.started, failed⟩
        · exact (moves.attributed attributed).done failed
    · rename_i id pending outcome
      have moves := @moves_markUnowned _ _ core id read.source answers state
      refine (moves.attributed attributed).phase
        ⟨fun other member => Nat.lt_of_lt_of_le (began other member) moves.started, ?_⟩
      cases outcome with
      | unowned =>
          intro other member now
          have was := moves.active attributed.registered (began other member) now
          rcases ok other member was with waiting | lost
          · rcases List.mem_cons.mp waiting with rfl | waiting
            · exact .inr (lost_of_markUnowned now)
            · exact .inl waiting
          · exact .inr (moves.lost lost)
      | failed other =>
          exact ⟨Nat.lt_of_lt_of_le ok.1 moves.started,
            moves.inactive attributed.registered ok.1 ok.2⟩
      | quiet => exact ok.elim
      | empty => exact ok.elim
      | observed other candidates => exact ok.elim
    · rename_i outcome
      cases outcome with
      | unowned =>
          refine attributed.done fun id member => ?_
          obtain ⟨started, now⟩ := List.mem_filter.mp member
          exact (ok id started now).resolve_left List.not_mem_nil
      | failed id => exact attributed.done ok
      | quiet => exact ok.elim
      | empty => exact ok.elim
      | observed id candidates => exact ok.elim

/-- The first snapshot of a read keeps everything. -/
theorem attributed_beginRead (attributed : Attributed state) (goroutine : Nat) (source : Source)
    (candidates : List Nat) : Attributed (beginRead goroutine source candidates state) := by
  unfold beginRead
  split
  · exact attributed
  · rename_i taken
    have same : candidates.Perm state.operations := by
      simp only [not_or, not_not] at taken
      exact taken.2
    refine @Attributed.phase _ _ state goroutine
      ⟨source, state.operations.filter state.isActive, .checking candidates []⟩ attributed _
      ⟨?_, ?_⟩
    · exact fun id member => attributed.registered.listed id (List.mem_of_mem_filter member)
    · exact fun id member _ => .inl (same.mem_iff.mpr (List.mem_of_mem_filter member))

/-- Every step keeps the registry and the reads. -/
theorem attributed_step (attributed : Attributed state) (event : Event Digest Replay) :
    Attributed (step core event state) := by
  cases event with
  | register goroutine project world =>
      unfold step
      dsimp only
      split
      · exact attributed
      · exact (moves_register attributed.registered goroutine project world).attributed attributed
  | returned id => exact (moves_returned id state).attributed attributed
  | terminal id => exact (moves_abandonLocked id state).attributed attributed
  | closeWorld id unhealthy completion io =>
      exact (moves_closeWorld id unhealthy completion io state).attributed attributed
  | engineCall id call => exact (moves_engineCall id call state).attributed attributed
  | takeProject project => exact (moves_takeProject project state).attributed attributed
  | finishTaken id =>
      unfold step
      dsimp only
      split
      · exact (moves_finishTaken id state).attributed attributed
      · exact attributed
  | beginRead goroutine source candidates =>
      exact attributed_beginRead attributed goroutine source candidates
  | advance goroutine answers => exact attributed_advance attributed goroutine answers

/-- Every interleaving keeps the registry and the reads. -/
theorem attributed_reached (reached : Reached core state) : Attributed state := by
  induction reached with
  | initial =>
      refine ⟨?_, nofun, nofun⟩
      constructor <;> simp [State.initial]
  | stepped reached event ih => exact attributed_step ih event

/-- An operation whose World was not closed and that the engine refuses to close. -/
def Unclosable (core : Core Digest Replay) (state : State Digest Replay) (id : Nat) : Prop :=
  ∃ operation, state.operation id = some operation ∧ operation.worldComplete = false ∧
    ∀ completion io, closesWorld core operation.world completion io = false

/-- An operation whose World is lost is not closed. -/
theorem Lost.unclosable (lost : Lost state id) : Unclosable core state id := by
  obtain ⟨operation, found, unclosed, doomed⟩ := lost
  exact ⟨operation, found, unclosed, closesWorld_doomed doomed⟩

end Engine

/-- Reads are accounted for by what is implied. -/
theorem Accounted.mono {lost gone : Nat → Prop} {record : ReadRecord}
    (accounted : Accounted lost state record) (implied : ∀ id, lost id → gone id) :
    Accounted gone state record := by
  unfold Accounted at accounted ⊢
  split <;> rename_i outcome <;> rw [outcome] at accounted
  · exact accounted
  · exact accounted
  · exact accounted
  · exact accounted
  · exact fun id member => implied id (accounted id member)

end Reads

/-- After any interleaving the registry holds every live operation that no close has taken, once,
and no more than the limit; a stack holds the live operations of its goroutine in the order of their
starts, and apart from them only operations that were finished before their start returned; and
every read is accounted for. -/
theorem reads_are_attributed {core : Core Digest Replay} {state : State Digest Replay}
    (reached : Reached core state) :
    (state.operations.Nodup ∧ state.operations.length ≤ automaticMaxActiveOperations ∧
      ∀ id, state.live id = true → id ∉ state.closing → id ∈ state.operations) ∧
    (∀ goroutine, (state.byGoroutine goroutine).Pairwise (· < ·) ∧
      (goroutine ≠ 0 → ∀ id ∈ state.liveOn goroutine, id ∈ state.byGoroutine goroutine) ∧
      ∀ id ∈ state.byGoroutine goroutine, ∃ operation, state.operation id = some operation ∧
        operation.goroutine = goroutine ∧
        (operation.finished = false ∨ operation.finishedEarly = true)) ∧
    ∀ record ∈ state.records, Accounted (Unclosable core state) state record := by
  have attributed := attributed_reached reached
  have registered := attributed.registered
  refine ⟨⟨registered.single, registered.bounded, fun id live untaken => ?_⟩,
    fun goroutine => ⟨registered.sorted goroutine, fun known id => registered.stack_of_live known,
      fun id => registered.live_of_stack⟩, fun record member => ?_⟩
  · simp only [State.live, Option.any_eq_true, Bool.not_eq_true'] at live
    obtain ⟨operation, found, unfinished⟩ := live
    exact registered.present id operation found unfinished untaken
  · exact (attributed.accounted record member).mono fun id lost => lost.unclosable

/-- The state after some events. -/
def run (core : Core Digest Replay) (events : List (Event Digest Replay)) :
    State Digest Replay :=
  events.foldl (fun state event => step core event state) .initial

/-- A run is an interleaving. -/
theorem reached_run (core : Core Digest Replay) (events : List (Event Digest Replay)) :
    Reached core (run core events) := by
  suffices later : ∀ state, Reached core state →
      Reached core (events.foldl (fun state event => step core event state) state) from
    later _ .initial
  induction events with
  | nil => exact fun state reached => reached
  | cons event events ih => exact fun state reached => ih _ (.stepped reached event)

/-- Answers of an engine that refuses the session of a read. -/
def refusing : ReadAnswers where
  session := 7
  openIo := { createRequest := false, createResponse := true }
  unownedIo := ⟨true, .complete, .ok { value := 1 }, .ok ()⟩
  evidence := [0]

/-- Two operations are started on two goroutines, and the second one reads the clock. -/
def clockRead : List (Event Bytes Unit) :=
  [.register 2 0 plainWorld, .returned 0, .engineCall 0 (.bindNativeSentinelCoverage [1]),
    .register 1 0 plainWorld, .returned 1, .beginRead 1 .clock [1, 0]] ++
  List.replicate 7 (.advance 1 refusing)

/-- The theorem applies to a read whose session was refused. -/
theorem reads_are_attributed_refused :
    (run plainCore clockRead).operations.Nodup ∧ ∀ record ∈ (run plainCore clockRead).records,
      Accounted (Unclosable plainCore (run plainCore clockRead)) (run plainCore clockRead)
        record := by
  have attributed := reads_are_attributed (reached_run plainCore clockRead)
  exact ⟨attributed.1.1, attributed.2.2⟩

/-- A clock read whose session is refused leaves the other operations able to close. -/
theorem refused_read_spares_others :
    ¬ ∀ state, Reached plainCore state → ∀ record ∈ state.records,
      (∃ id candidates, record.outcome = .observed id candidates) ∨
        ∀ id ∈ record.throughout, Unclosable plainCore state id := by
  intro dichotomy
  have records : (run plainCore clockRead).records =
      [{ goroutine := 1, source := .clock, throughout := [0], outcome := .failed 1 }] := by
    decide +kernel
  have settled := dichotomy _ (reached_run plainCore clockRead)
    { goroutine := 1, source := .clock, throughout := [0], outcome := .failed 1 }
    (by rw [records]; exact List.mem_singleton_self _)
  rcases settled with ⟨id, candidates, observed⟩ | unclosable
  · cases observed
  · obtain ⟨operation, found, -, refused⟩ := unclosable 0 (List.mem_singleton_self _)
    have closes : ((run plainCore clockRead).operation 0).any (fun operation =>
        closesWorld plainCore operation.world .returned plainCloseIo) = true := by
      rfl
    rw [found, Option.any_some, refused] at closes
    cases closes

end GoAttribution
end ReproItSdk
