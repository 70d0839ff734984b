import ReproItSdk.Core.Model
import ReproItSdk.Library.Fallible

/-! # One interaction of an application, seen by a wrapper

A wrapper of a library call runs the live call, or answers from a recording, and tells the engine
through a bridge.  The bridge may raise at every call.  The operation context and the sessions of
the Python and the Node SDK keep one operation alive until something is lost, and then give it up.

The state of an interaction counts the calls of the bridge and of the live function, so that what
they answer is a function of the position of the call.

Main definitions:

- Structure {lit}`Bridge`: what the bridge answers, call by call.
- Structure {lit}`Interaction`: the operation context during one interaction.
- Functions {lit}`openDependency`, {lit}`finishDependency` and {lit}`markUnowned`: the calls.
- Structure {lit}`Quiet`: what every call that does not run the live function keeps.
-/

namespace ReproItSdk
namespace Wrappers

/-! ## The bridge and the live function -/

/-- What the bridge answers to the call at each position; without an answer it raises. -/
structure Bridge where
  opens : Nat → Option String
  dispatches : Nat → Option String
  reads : Nat → Option (Bytes × Bool)
  finishes : Nat → Option String
  accepts : Nat → Bool

/-- What a wrapper raises: the error of the live function, one that a replay rebuilds, or one of
the SDK. -/
inductive Raised (ε : Type) where
  | live (error : ε)
  | rebuilt (error : ε)
  | internal
deriving DecidableEq, Repr

/-- What the application sees of a live function. -/
def seen {ε α : Type} (outcome : Except ε α) : Except (Raised ε) α :=
  outcome.mapError Raised.live

/-- The operation context during one interaction, with what the live function did. -/
structure Interaction (ε α : Type) where
  calls : Nat
  active : Bool
  session : Bool
  recorded : Bool
  unowned : Bool
  lives : Nat
  outcome : Option (Except ε α)

/-- Wrapper code: it changes the interaction and may raise. -/
abbrev WrapperM (ε α β : Type) : Type :=
  Fallible (Interaction ε α) (Raised ε) β

namespace Interaction

variable {ε α : Type}

/-- An interaction that begins. -/
def start (calls lives : Nat) (active unowned : Bool) : Interaction ε α where
  calls := calls
  active := active
  session := false
  recorded := false
  unowned := unowned
  lives := lives
  outcome := none

/-- The interaction after a call of the bridge. -/
def asked (state : Interaction ε α) : Interaction ε α :=
  { state with calls := state.calls + 1 }

/-- {lit}`OperationContext._abandon`: give the operation up and tell the engine. -/
def abandoned (state : Interaction ε α) : Interaction ε α :=
  if state.active then { state.asked with active := false } else state

/-- {lit}`_DependencySession._abandon` and {lit}`_fail`. -/
def dropped (state : Interaction ε α) : Interaction ε α :=
  { state with session := false }.abandoned

/-- {lit}`_ObservationSession._abandon` and {lit}`_fail`: an open session is abandoned first. -/
def released (state : Interaction ε α) : Interaction ε α :=
  (if state.session then { state.asked with session := false } else state).abandoned

/-- {lit}`OperationContext._mark_unowned`: an operation that cannot be marked is given up. -/
def markedUnowned (bridge : Bridge) (state : Interaction ε α) : Interaction ε α :=
  if state.active then
    if bridge.accepts state.calls then { state.asked with unowned := true }
    else state.asked.abandoned
  else state

/-- The interaction is recorded, or the operation was given up or marked. -/
def Accounted (state : Interaction ε α) : Prop :=
  state.recorded = true ∨ state.active = false ∨ state.unowned = true

end Interaction

/-! ## Calls of the bridge -/

section Calls

variable {ε α : Type}

/-- Give the operation up. -/
def abandonOperation : WrapperM ε α Unit :=
  Fallible.modify Interaction.abandoned

/-- Mark the operation. -/
def markUnowned (bridge : Bridge) : WrapperM ε α Unit :=
  Fallible.modify (Interaction.markedUnowned bridge)

/-- Run the live function, and keep what it did. -/
def runLive (live : Nat → Except ε α) : WrapperM ε α (Except ε α) :=
  fun state =>
    (.ok (live state.lives),
      { state with lives := state.lives + 1, outcome := some (live state.lives) })

/-- {lit}`OperationContext._open_dependency`: the action of a new session, if there is one. -/
def openDependency (bridge : Bridge) : WrapperM ε α (Option String) :=
  fun state =>
    if state.active then
      match bridge.opens state.calls with
      | none => (.ok none, state.asked.abandoned)
      | some action => (.ok (some action), { state.asked with session := true })
    else (.ok none, state)

/-- {lit}`_DependencySession._abandon`. -/
def abandonDependency : WrapperM ε α Unit :=
  Fallible.modify Interaction.dropped

/-- A read of a session; one that fails ends the session. -/
def readSession (bridge : Bridge) (fails : Interaction ε α → Interaction ε α) :
    WrapperM ε α (Option (Bytes × Bool)) :=
  fun state =>
    if state.session then
      match bridge.reads state.calls with
      | none => (.ok none, fails state.asked)
      | some read => (.ok (some read), state.asked)
    else (.ok none, state)

/-- A finish of a session; one that fails ends the session. -/
def finishSession (bridge : Bridge) (fails : Interaction ε α → Interaction ε α) :
    WrapperM ε α (Option String) :=
  fun state =>
    if state.session then
      match bridge.finishes state.calls with
      | none => (.ok none, fails state.asked)
      | some outcome =>
          (.ok (some outcome), { state.asked with session := false, recorded := true })
    else (.ok none, state)

/-- {lit}`_DependencySession._finish`. -/
def finishDependency (bridge : Bridge) : WrapperM ε α (Option String) :=
  finishSession bridge Interaction.dropped

/-- {lit}`_DependencySession._read_response`. -/
def readDependency (bridge : Bridge) : WrapperM ε α (Option (Bytes × Bool)) :=
  readSession bridge Interaction.dropped

end Calls

/-! ## What the calls keep -/

/-- The live function did not run, and what is accounted for stays so. -/
structure Quiet {ε α : Type} (before after : Interaction ε α) : Prop where
  lives : after.lives = before.lives
  outcome : after.outcome = before.outcome
  recorded : before.recorded = true → after.recorded = true
  unowned : before.unowned = true → after.unowned = true
  active : before.active = false → after.active = false

section Kept

variable {ε α : Type}

instance : IsPreorder (Interaction ε α) Quiet where
  refl _ := ⟨rfl, rfl, id, id, id⟩
  trans _ _ _ first second :=
    ⟨second.lives.trans first.lives, second.outcome.trans first.outcome,
      second.recorded ∘ first.recorded, second.unowned ∘ first.unowned,
      second.active ∘ first.active⟩

/-- A call of the bridge is quiet. -/
theorem quiet_asked (state : Interaction ε α) : Quiet state state.asked :=
  ⟨rfl, rfl, id, id, id⟩

/-- Giving the operation up is quiet. -/
theorem quiet_abandoned (state : Interaction ε α) : Quiet state state.abandoned := by
  unfold Interaction.abandoned
  split
  · exact ⟨rfl, rfl, id, id, fun _ => rfl⟩
  · exact refl_of Quiet state

/-- An operation that was given up is not active. -/
@[simp]
theorem active_abandoned (state : Interaction ε α) : state.abandoned.active = false := by
  unfold Interaction.abandoned
  split
  · rfl
  · rename_i inactive
    exact Bool.eq_false_of_not_eq_true inactive

/-- Ending a dependency session is quiet. -/
theorem quiet_dropped (state : Interaction ε α) : Quiet state state.dropped := by
  have ended : Quiet state { state with session := false } := ⟨rfl, rfl, id, id, id⟩
  exact trans_of Quiet ended (quiet_abandoned _)

/-- Ending a dependency session gives the operation up. -/
@[simp]
theorem active_dropped (state : Interaction ε α) : state.dropped.active = false :=
  active_abandoned _

/-- Ending an observation session is quiet. -/
theorem quiet_released (state : Interaction ε α) : Quiet state state.released := by
  refine trans_of Quiet ?_ (quiet_abandoned _)
  split
  · exact ⟨rfl, rfl, id, id, id⟩
  · exact refl_of Quiet state

/-- Ending an observation session gives the operation up. -/
@[simp]
theorem active_released (state : Interaction ε α) : state.released.active = false :=
  active_abandoned _

/-- Marking the operation is quiet. -/
theorem quiet_markedUnowned (bridge : Bridge) (state : Interaction ε α) :
    Quiet state (state.markedUnowned bridge) := by
  unfold Interaction.markedUnowned
  split
  · split
    · exact ⟨rfl, rfl, id, fun _ => rfl, id⟩
    · exact trans_of Quiet (quiet_asked state) (quiet_abandoned _)
  · exact refl_of Quiet state

/-- Reading a session is quiet. -/
theorem quiet_readSession (bridge : Bridge) {fails : Interaction ε α → Interaction ε α}
    (quiet : ∀ state, Quiet state (fails state)) :
    Fallible.Relates Quiet (readSession bridge fails) := by
  intro state
  unfold readSession
  split
  · split
    · exact trans_of Quiet (quiet_asked state) (quiet _)
    · exact quiet_asked state
  · exact refl_of Quiet state

/-- Finishing a session is quiet. -/
theorem quiet_finishSession (bridge : Bridge) {fails : Interaction ε α → Interaction ε α}
    (quiet : ∀ state, Quiet state (fails state)) :
    Fallible.Relates Quiet (finishSession bridge fails) := by
  intro state
  unfold finishSession
  split
  · split
    · exact trans_of Quiet (quiet_asked state) (quiet _)
    · exact ⟨rfl, rfl, fun _ => rfl, id, id⟩
  · exact refl_of Quiet state

/-- A finish of an open session records the interaction, or ends the session. -/
theorem accounted_finishSession (bridge : Bridge) {fails : Interaction ε α → Interaction ε α}
    (ends : ∀ state, (fails state).active = false) :
    Fallible.Meets (fun state : Interaction ε α => state.session = true ∨ state.Accounted)
      (finishSession bridge fails) (fun _ state => state.Accounted) fun _ _ => False := by
  intro state ready
  unfold finishSession
  by_cases session : state.session = true
  · rw [if_pos session]
    split
    · exact .inr (.inl (ends _))
    · exact .inl rfl
  · rw [if_neg session]
    rcases ready with opened | accounted
    · exact absurd opened session
    · exact accounted

end Kept

/-- The live function ran once, and what is accounted for stays so. -/
structure Ran {ε α : Type} (live : Nat → Except ε α) (before after : Interaction ε α) : Prop where
  lives : after.lives = before.lives + 1
  outcome : after.outcome = some (live before.lives)
  recorded : before.recorded = true → after.recorded = true
  unowned : before.unowned = true → after.unowned = true
  active : before.active = false → after.active = false

section Runs

variable {ε α : Type} {live : Nat → Except ε α} {before middle after : Interaction ε α}

/-- The live function runs after some calls. -/
theorem Quiet.then_ran (quiet : Quiet before middle) (ran : Ran live middle after) :
    Ran live before after where
  lives := by rw [ran.lives, quiet.lives]
  outcome := by rw [ran.outcome, quiet.lives]
  recorded := ran.recorded ∘ quiet.recorded
  unowned := ran.unowned ∘ quiet.unowned
  active := ran.active ∘ quiet.active

/-- Some calls follow the live function. -/
theorem Ran.then_quiet (ran : Ran live before middle) (quiet : Quiet middle after) :
    Ran live before after where
  lives := by rw [quiet.lives, ran.lives]
  outcome := by rw [quiet.outcome, ran.outcome]
  recorded := quiet.recorded ∘ ran.recorded
  unowned := quiet.unowned ∘ ran.unowned
  active := quiet.active ∘ ran.active

/-- What is accounted for stays so while the live function runs. -/
theorem Ran.accounted (ran : Ran live before after) (accounted : before.Accounted) :
    after.Accounted := by
  rcases accounted with recorded | inactive | unowned
  · exact .inl (ran.recorded recorded)
  · exact .inr (.inl (ran.active inactive))
  · exact .inr (.inr (ran.unowned unowned))

/-- The live function runs once. -/
theorem ran_runLive (live : Nat → Except ε α) (state : Interaction ε α) :
    Ran live state (runLive live state).2 :=
  ⟨rfl, rfl, id, id, id⟩

end Runs

/-! ## Transparency -/

/-- What a wrapper owes to the application and to the recording.  A wrapper that replays does not
run the live function.  Any other runs it once and gives its outcome.  An interaction that is not
recorded leaves an operation that was given up or marked. -/
structure Transparent {ε α : Type} (live : Nat → Except ε α) (replays : Bool)
    (before : Interaction ε α) (result : Except (Raised ε) α × Interaction ε α) : Prop where
  replayed : replays = true → result.2.lives = before.lives
  ran : replays = false → result.2.lives = before.lives + 1 ∧ result.1 = seen (live before.lives)
  lost : before.active = true → result.2.recorded = false →
    result.2.active = false ∨ result.2.unowned = true

end Wrappers
end ReproItSdk
