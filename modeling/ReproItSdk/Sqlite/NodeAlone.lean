import Mathlib.Data.List.ReduceOption
import ReproItSdk.Sqlite.Node

/-! # An operation of the Node SDK alone in a fresh process

The requests of an operation are compared with those it makes in a fresh process that installs the
adapter.  They are the same where the operation calls its databases at the places that they have in
its own order, and nobody else prepares statements on them.

Main results:

- Theorem {lit}`related_other`: events of others keep what the two processes have in common.
- Theorem {lit}`related_own`: the operation's own calls keep it, and ask for the same.
- Theorem {lit}`emitted_alone`: an undisturbed operation asks for the same in a fresh process.
-/

namespace ReproItSdk
namespace Sqlite
namespace Node

open Unicode

/-! ## Both processes -/

/-- Whether an event is a call of an operation. -/
def Event.madeBy (operation : Nat) : Event → Bool
  | .call caller _ => caller = some operation
  | _ => false

/-- The database that a call names. -/
def databaseOf : Call → Option Nat
  | .exec database _ => some database
  | .prepare database _ _ _ => some database
  | .statement _ _ _ => none

/-- The order in which an operation first calls databases, after one more event. -/
def Event.meets (operation : Nat) (order : List Nat) : Event → List Nat
  | .call caller made =>
      if caller = some operation then (databaseOf made).elim order (meet order) else order
  | _ => order

/-- The order in which an operation first calls databases. -/
def firstCalls (operation : Nat) (events : List Event) : List Nat :=
  events.foldl (Event.meets operation) []

section Alone

variable (base64url : Bytes → Text) (operation : Nat)

/-- The requests that an operation makes in a process. -/
def emitted (installed : Option SqliteAdapter) (history : List Event) : List DependencyRequest :=
  (Runs.repliesTo (Event.madeBy operation)
    (Runs.answered (step base64url) installed history)).reduceOption

/-- The adapter when an operation makes its first call. -/
def atStart (history : List Event) : Option SqliteAdapter :=
  Runs.final (step base64url) none (Runs.earlier (Event.madeBy operation) history)

/-- The requests that an operation makes in a fresh process that installs the adapter. -/
def emittedAlone (history : List Event) : List DependencyRequest :=
  emitted base64url operation (Runs.final (step base64url) none [.install])
    (history.filter (Event.madeBy operation))

/-- A database has the place in the order of all first calls that it has in the operation's own
order. -/
def SamePlace (done : List Event) (adapter : SqliteAdapter) (database : Nat) : Prop :=
  adapter.called.idxOf database = (firstCalls operation done).idxOf database

/-- The statements of a database were all prepared by the operation. -/
structure Unprepared (start : SqliteAdapter) (done : List Event) (database : Nat) : Prop where
  before : start.nextStatementId database = 1
  own : ∀ caller index sql succeeds,
    .call caller (.prepare database index sql succeeds) ∈ done → caller = some operation

/-- When a call of an operation gets its own numbers. -/
def OwnNumbers (start : SqliteAdapter) (done : List Event) (adapter : SqliteAdapter) :
    Call → Prop
  | .exec database _ => SamePlace operation done adapter database
  | .prepare database _ _ _ =>
      SamePlace operation done adapter database ∧ Unprepared operation start done database
  | .statement _ statement _ => statement.caller = some operation

/-- When a call of an operation does not meet what others did: the adapter stays installed, and the
call gets its own numbers. -/
def Undisturbed (start : Option SqliteAdapter) (done : List Event)
    (installed : Option SqliteAdapter) : Event → Prop
  | .call _ call => ∃ started adapter, start = some started ∧ installed = some adapter ∧
      .release ∉ done ∧ OwnNumbers operation started done adapter call
  | _ => True

/-- What the adapter has in common with the adapter of the operation alone. -/
structure Agrees (start : SqliteAdapter) (done : List Event) (adapter alone : SqliteAdapter) :
    Prop where
  numbered : Numbered adapter
  numbered' : Numbered alone
  order : alone.called = firstCalls operation done
  counters : ∀ database, Unprepared operation start done database →
    adapter.nextStatementId database = alone.nextStatementId database
  statements : ∀ index, adapter.statementStates ⟨some operation, index⟩ =
    alone.statementStates ⟨some operation, index⟩
  ids : ∀ index state, adapter.statementStates ⟨some operation, index⟩ = some state →
    (adapter.databaseStates state.database).map DatabaseState.id =
      (alone.databaseStates state.database).map DatabaseState.id

/-- What a process with other operations has in common with the process of the operation alone. -/
def Related (start : Option SqliteAdapter) (done : List Event)
    (installed installedAlone : Option SqliteAdapter) : Prop :=
  ∀ started, start = some started → .release ∉ done →
    ∃ adapter alone, installed = some adapter ∧ installedAlone = some alone ∧
      Agrees operation started done adapter alone

variable {base64url operation} {start adapter alone next : SqliteAdapter} {done : List Event}
  {event : Event}

/-- A database that is unprepared after an event was so before. -/
theorem Unprepared.back {database : Nat}
    (unprepared : Unprepared operation start (done ++ [event]) database) :
    Unprepared operation start done database :=
  ⟨unprepared.before, fun caller index sql succeeds among =>
    unprepared.own caller index sql succeeds (List.mem_append_left _ among)⟩

/-- First calls after one more event. -/
theorem firstCalls_append : firstCalls operation (done ++ [event]) =
    Event.meets operation (firstCalls operation done) event := by
  rw [firstCalls, List.foldl_append]
  rfl

/-- Events of others leave the operation's order. -/
theorem firstCalls_other (others : event.madeBy operation = false) :
    firstCalls operation (done ++ [event]) = firstCalls operation done := by
  rw [firstCalls_append]
  cases event with
  | call caller call => exact if_neg (of_decide_eq_false others)
  | _ => rfl

/-- A call of the operation adds its database to the operation's order. -/
theorem firstCalls_own {call : Call} {database : Nat} (named : databaseOf call = some database) :
    firstCalls operation (done ++ [.call (some operation) call]) =
      meet (firstCalls operation done) database := by
  rw [firstCalls_append, Event.meets, if_pos rfl, named]
  rfl

/-- What both adapters have in common stays when an event of others leaves it as it is in the
first. -/
theorem Agrees.moved (agrees : Agrees operation start done adapter alone)
    (others : event.madeBy operation = false) (numbered : Numbered next)
    (counters : ∀ database, Unprepared operation start (done ++ [event]) database →
      next.nextStatementId database = adapter.nextStatementId database)
    (statements : ∀ index, next.statementStates ⟨some operation, index⟩ =
      adapter.statementStates ⟨some operation, index⟩)
    (ids : ∀ database, (adapter.databaseStates database).isSome →
      (next.databaseStates database).map DatabaseState.id =
        (adapter.databaseStates database).map DatabaseState.id) :
    Agrees operation start (done ++ [event]) next alone where
  numbered := numbered
  numbered' := agrees.numbered'
  order := agrees.order.trans (firstCalls_other others).symm
  counters database still := (counters database still).trans (agrees.counters _ still.back)
  statements index := (statements index).trans (agrees.statements index)
  ids := by
    intro index state found
    rw [statements index] at found
    rcases agrees.numbered.made _ state found with ⟨owner, held, -⟩
    rw [ids state.database (by rw [held]; rfl)]
    exact agrees.ids index state found

/-- The number of a database does not change when it is called. -/
theorem Seen.map_id {database : Nat} {result : Option DatabaseState × SqliteAdapter}
    (seen : Seen adapter database result) (other : Nat)
    (known : (adapter.databaseStates other).isSome) :
    (result.2.databaseStates other).map DatabaseState.id =
      (adapter.databaseStates other).map DatabaseState.id := by
  rcases Option.isSome_iff_exists.mp known with ⟨state, found⟩
  rw [found, seen.known other state found]

/-- A raised counter changes no number of a database. -/
theorem map_id_withCounter {database : Nat} {state : DatabaseState}
    (found : adapter.databaseStates database = some state) (other : Nat) :
    ((withCounter adapter database state).databaseStates other).map DatabaseState.id =
      (adapter.databaseStates other).map DatabaseState.id := by
  simp only [withCounter, Function.update_apply]
  split
  · next same =>
      rw [same, found]
      rfl
  · rfl

/-- A raised counter is that of its database. -/
theorem nextStatementId_withCounter {database : Nat} {state : DatabaseState} (other : Nat) :
    (withCounter adapter database state).nextStatementId other =
      if other = database then state.nextStatementId + 1 else adapter.nextStatementId other := by
  simp only [SqliteAdapter.nextStatementId, withCounter, Function.update_apply]
  split <;> rfl

/-- A statement that somebody else prepares. -/
theorem Agrees.prepare_other (agrees : Agrees operation start done adapter alone)
    {caller : Option Nat} (foreign : caller ≠ some operation) (database index : Nat)
    (sql : Option Text) (succeeds : Bool) :
    Agrees operation start (done ++ [.call caller (.prepare database index sql succeeds)])
      (adapter.prepare base64url ⟨caller, index⟩ database sql succeeds).2 alone := by
  have others : (Event.call caller (.prepare database index sql succeeds)).madeBy operation =
      false := decide_eq_false foreign
  have seen := agrees.numbered.stateForDatabase database
  have numbered := agrees.numbered.prepare base64url ⟨caller, index⟩ database sql succeeds
  have apart : ∀ other, Unprepared operation start
      (done ++ [.call caller (.prepare database index sql succeeds)]) other →
        other ≠ database := by
    rintro other unprepared rfl
    exact foreign (unprepared.own caller index sql succeeds
      (List.mem_append_right _ (List.mem_singleton_self _)))
  by_cases gives : ∃ state, Gives adapter database state
  · rcases gives with ⟨state, gives⟩
    have found := seen.state.symm.trans gives.given
    have own : ∀ mine, (⟨some operation, mine⟩ : Reference) ≠ ⟨caller, index⟩ := fun mine same =>
      foreign (congrArg Reference.caller same).symm
    have counters : ∀ other, Unprepared operation start
        (done ++ [.call caller (.prepare database index sql succeeds)]) other →
          (withCounter (adapter.stateForDatabase database).2 database state).nextStatementId other =
            adapter.nextStatementId other := by
      intro other unprepared
      rw [nextStatementId_withCounter, if_neg (apart other unprepared), seen.counters]
    rw [prepare_of_gives base64url gives] at numbered ⊢
    refine agrees.moved others numbered ?_ ?_ ?_
    · simp only
      split <;> exact counters
    · simp only
      intro mine
      split
      · exact (Function.update_of_ne (own mine) _ _).trans (congrFun seen.statements _)
      · exact congrFun seen.statements _
    · simp only
      intro other known
      have same := (map_id_withCounter found other).trans (seen.map_id other known)
      split <;> exact same
  · rw [prepare_of_not_gives base64url (not_exists.mp gives)] at numbered ⊢
    exact agrees.moved others numbered (fun other _ => seen.counters other)
      (fun mine => congrFun seen.statements _) seen.map_id

/-- Every event of others keeps what both processes have in common. -/
theorem related_other {began installed installedAlone : Option SqliteAdapter}
    (related : Related operation began done installed installedAlone)
    (others : event.madeBy operation = false) :
    Related operation began (done ++ [event]) (step base64url installed event).2
      installedAlone := by
  intro started start_eq kept
  rcases related started start_eq fun among => kept (List.mem_append_left _ among) with
    ⟨adapter, alone, rfl, rfl, agrees⟩
  cases event with
  | install =>
      exact ⟨adapter, alone, rfl, rfl, agrees.moved others agrees.numbered (fun _ _ => rfl)
        (fun _ => rfl) fun _ _ => rfl⟩
  | release => exact absurd (List.mem_append_right _ (List.mem_singleton_self _)) kept
  | call caller call =>
      have foreign : caller ≠ some operation := of_decide_eq_false others
      refine ⟨_, alone, rfl, rfl, ?_⟩
      cases call with
      | exec database sql =>
          have seen := agrees.numbered.stateForDatabase database
          simp only [SqliteAdapter.perform, exec_eq]
          exact agrees.moved others seen.numbered (fun other _ => seen.counters other)
            (fun mine => congrFun seen.statements _) seen.map_id
      | prepare database index sql succeeds =>
          exact agrees.prepare_other foreign database index sql succeeds
      | statement name statement arguments =>
          exact agrees.moved others agrees.numbered (fun _ _ => rfl) (fun _ => rfl) fun _ _ => rfl

/-- A database at the operation's own place shows the same in both adapters, when nobody else
prepared statements on it. -/
theorem Agrees.id_eq (agrees : Agrees operation start done adapter alone) {database : Nat}
    (place : SamePlace operation done adapter database) :
    (adapter.stateForDatabase database).1.map DatabaseState.id =
      (alone.stateForDatabase database).1.map DatabaseState.id := by
  rw [(agrees.numbered.stateForDatabase database).id,
    (agrees.numbered'.stateForDatabase database).id, place, agrees.order]

/-- The state of a database that is seen has the counter of the database. -/
theorem Seen.counter {database : Nat} {result : Option DatabaseState × SqliteAdapter}
    (seen : Seen adapter database result) {state : DatabaseState} (given : result.1 = some state) :
    state.nextStatementId = adapter.nextStatementId database := by
  rw [← seen.counters database, SqliteAdapter.nextStatementId, ← seen.state, given]
  rfl

/-- A database that only the operation prepares statements on is in the same state in both
adapters. -/
theorem Agrees.state_eq (agrees : Agrees operation start done adapter alone) {database : Nat}
    (place : SamePlace operation done adapter database)
    (unprepared : Unprepared operation start done database) :
    (adapter.stateForDatabase database).1 = (alone.stateForDatabase database).1 := by
  have ids := agrees.id_eq place
  cases here : (adapter.stateForDatabase database).1 with
  | none =>
      rw [here, Option.map_none] at ids
      exact (Option.map_eq_none_iff.mp ids.symm).symm
  | some state =>
      rw [here, Option.map_some] at ids
      rcases Option.map_eq_some_iff.mp ids.symm with ⟨state', there, number⟩
      have counter := (agrees.numbered.stateForDatabase database).counter here
      have counter' := (agrees.numbered'.stateForDatabase database).counter there
      rw [there, Option.some.injEq]
      cases state
      cases state'
      simp only [DatabaseState.mk.injEq] at *
      exact ⟨number.symm, by rw [counter, counter', agrees.counters database unprepared]⟩

/-- Databases that the operation's statements were prepared on are known. -/
theorem Agrees.known (agrees : Agrees operation start done adapter alone) {index : Nat}
    {state : StatementState}
    (found : adapter.statementStates ⟨some operation, index⟩ = some state) :
    (adapter.databaseStates state.database).isSome ∧
      (alone.databaseStates state.database).isSome := by
  rcases agrees.numbered.made _ state found with ⟨owner, held, -⟩
  rcases agrees.numbered'.made _ state ((agrees.statements index).symm.trans found) with
    ⟨owner', held', -⟩
  rw [held, held']
  exact ⟨rfl, rfl⟩

/-- What both adapters have in common after a call of the operation, when the numbers that are
there stay in both. -/
theorem Agrees.called (agrees : Agrees operation start done adapter alone)
    {next next' : SqliteAdapter} {call : Call} {database : Nat}
    (named : databaseOf call = some database)
    (seen : Seen adapter database (adapter.stateForDatabase database))
    (seen' : Seen alone database (alone.stateForDatabase database))
    (numbered : Numbered next) (numbered' : Numbered next')
    (order : next'.called = (alone.stateForDatabase database).2.called)
    (counters : ∀ other, Unprepared operation start done other →
      next.nextStatementId other = next'.nextStatementId other)
    (statements : ∀ index, next.statementStates ⟨some operation, index⟩ =
      next'.statementStates ⟨some operation, index⟩)
    (made : ∀ index state, next.statementStates ⟨some operation, index⟩ = some state →
      adapter.statementStates ⟨some operation, index⟩ = some state ∨
        (next.databaseStates state.database).map DatabaseState.id =
          (next'.databaseStates state.database).map DatabaseState.id)
    (ids : ∀ other, (next.databaseStates other).map DatabaseState.id =
      ((adapter.stateForDatabase database).2.databaseStates other).map DatabaseState.id)
    (ids' : ∀ other, (next'.databaseStates other).map DatabaseState.id =
      ((alone.stateForDatabase database).2.databaseStates other).map DatabaseState.id) :
    Agrees operation start (done ++ [.call (some operation) call]) next next' where
  numbered := numbered
  numbered' := numbered'
  order := by rw [order, seen'.called, firstCalls_own named, agrees.order]
  counters other still := counters other still.back
  statements := statements
  ids := by
    intro index state found
    rcases made index state found with before | same
    · rcases agrees.known before with ⟨known, known'⟩
      rw [ids, ids', seen.map_id _ known, seen'.map_id _ known']
      exact agrees.ids index state before
    · exact same

/-- A statement that the operation prepares gets the same number in both processes. -/
theorem Agrees.prepare_own (agrees : Agrees operation start done adapter alone) {database : Nat}
    (place : SamePlace operation done adapter database)
    (unprepared : Unprepared operation start done database) (index : Nat) (sql : Option Text)
    (succeeds : Bool) :
    (adapter.prepare base64url ⟨some operation, index⟩ database sql succeeds).1 =
        (alone.prepare base64url ⟨some operation, index⟩ database sql succeeds).1 ∧
      Agrees operation start
        (done ++ [.call (some operation) (.prepare database index sql succeeds)])
        (adapter.prepare base64url ⟨some operation, index⟩ database sql succeeds).2
        (alone.prepare base64url ⟨some operation, index⟩ database sql succeeds).2 := by
  have seen := agrees.numbered.stateForDatabase database
  have seen' := agrees.numbered'.stateForDatabase database
  have numbered := agrees.numbered.prepare base64url ⟨some operation, index⟩ database sql succeeds
  have numbered' :=
    agrees.numbered'.prepare base64url ⟨some operation, index⟩ database sql succeeds
  have same := agrees.state_eq place unprepared
  have counters : ∀ other, Unprepared operation start done other →
      (adapter.stateForDatabase database).2.nextStatementId other =
        (alone.stateForDatabase database).2.nextStatementId other := by
    intro other still
    rw [seen.counters, seen'.counters, agrees.counters other still]
  have statements : ∀ own,
      (adapter.stateForDatabase database).2.statementStates ⟨some operation, own⟩ =
        (alone.stateForDatabase database).2.statementStates ⟨some operation, own⟩ := by
    intro own
    rw [seen.statements, seen'.statements, agrees.statements own]
  by_cases gives : ∃ state, Gives adapter database state
  · rcases gives with ⟨state, gives⟩
    have gives' : Gives alone database state := ⟨same ▸ gives.given, gives.room⟩
    have found := seen.state.symm.trans gives.given
    have found' := seen'.state.symm.trans gives'.given
    rw [prepare_of_gives base64url gives] at numbered ⊢
    rw [prepare_of_gives base64url gives'] at numbered' ⊢
    refine ⟨rfl, ?_⟩
    have counted : ∀ other, Unprepared operation start done other →
        (withCounter (adapter.stateForDatabase database).2 database state).nextStatementId other =
          (withCounter (alone.stateForDatabase database).2 database state).nextStatementId
            other := by
      intro other still
      rw [nextStatementId_withCounter, nextStatementId_withCounter, counters other still]
    by_cases made : (createRequest base64url state.id "prepare".toList
        (some state.nextStatementId) sql []).isSome ∧ succeeds = true
    · simp only [if_pos made] at numbered numbered' ⊢
      refine agrees.called rfl seen seen' numbered numbered' rfl counted ?_ ?_
        (map_id_withCounter found) (map_id_withCounter found')
      · intro own
        simp only [withStatement, Function.update_apply]
        split
        · rfl
        · exact statements own
      · intro own made present
        simp only [withStatement, Function.update_apply] at present
        split at present
        · cases present
          right
          have first := (map_id_withCounter found database).trans (by rw [found])
          have second := (map_id_withCounter found' database).trans (by rw [found'])
          exact first.trans second.symm
        · exact .inl ((congrFun seen.statements _).symm.trans present)
    · simp only [if_neg made] at numbered numbered' ⊢
      exact agrees.called rfl seen seen' numbered numbered' rfl counted statements
        (fun own _ present => .inl ((congrFun seen.statements _).symm.trans present))
        (map_id_withCounter found) (map_id_withCounter found')
  · have refused : ∀ state, ¬ Gives alone database state := fun state gives' =>
      gives ⟨state, same ▸ gives'.given, gives'.room⟩
    rw [prepare_of_not_gives base64url (not_exists.mp gives)] at numbered ⊢
    rw [prepare_of_not_gives base64url refused] at numbered' ⊢
    exact ⟨rfl, agrees.called rfl seen seen' numbered numbered' rfl counters statements
      (fun own _ present => .inl ((congrFun seen.statements _).symm.trans present))
      (fun _ => rfl) fun _ => rfl⟩

/-- The operation's own calls ask for the same in both processes, where they get its own
numbers. -/
theorem related_own {began installed installedAlone : Option SqliteAdapter}
    (related : Related operation began done installed installedAlone)
    (mine : event.madeBy operation = true)
    (undisturbed : Undisturbed operation began done installed event) :
    (step base64url installed event).1 = (step base64url installedAlone event).1 ∧
      Related operation began (done ++ [event]) (step base64url installed event).2
        (step base64url installedAlone event).2 := by
  cases event with
  | install => cases mine
  | release => cases mine
  | call caller call =>
      have own : caller = some operation := of_decide_eq_true mine
      subst own
      rcases undisturbed with ⟨started, adapter, rfl, rfl, kept, numbers⟩
      rcases related started rfl kept with ⟨_, alone, found, rfl, agrees⟩
      cases found
      have seen := agrees.numbered.stateForDatabase
      have seen' := agrees.numbered'.stateForDatabase
      suffices performed :
          (adapter.perform base64url (some operation) call).1 =
              (alone.perform base64url (some operation) call).1 ∧
            Agrees operation started (done ++ [.call (some operation) call])
              (adapter.perform base64url (some operation) call).2
              (alone.perform base64url (some operation) call).2 by
        refine ⟨performed.1, ?_⟩
        intro other start_eq _
        cases start_eq
        exact ⟨_, _, rfl, rfl, performed.2⟩
      cases call with
      | exec database sql =>
          simp only [SqliteAdapter.perform, exec_eq]
          refine ⟨?_, ?_⟩
          · have ids := agrees.id_eq numbers
            have reply : ∀ given : Option DatabaseState,
                (given.bind fun state =>
                  createRequest base64url state.id "exec".toList none sql []) =
                (given.map DatabaseState.id).bind fun number =>
                  createRequest base64url number "exec".toList none sql [] := by
              intro given
              cases given <;> rfl
            rw [reply, reply, ids]
          · refine agrees.called rfl (seen database) (seen' database) (seen database).numbered
              (seen' database).numbered rfl ?_ ?_ ?_ (fun _ => rfl) fun _ => rfl
            · intro other still
              rw [(seen database).counters, (seen' database).counters,
                agrees.counters other still]
            · intro index
              rw [(seen database).statements, (seen' database).statements,
                agrees.statements index]
            · intro index state present
              exact .inl ((congrFun (seen database).statements _).symm.trans present)
      | prepare database index sql succeeds =>
          exact agrees.prepare_own numbers.1 numbers.2 index sql succeeds
      | statement name statement arguments =>
          have own : statement = ⟨some operation, statement.index⟩ := by
            rw [← numbers]
          refine ⟨?_, ?_⟩
          · simp only [SqliteAdapter.perform, SqliteAdapter.statement]
            rw [own, ← agrees.statements]
            cases present : adapter.statementStates ⟨some operation, statement.index⟩ with
            | none => rfl
            | some state =>
                have ids := agrees.ids statement.index state present
                simp only [Option.bind_eq_bind, Option.bind_some]
                cases here : adapter.databaseStates state.database <;>
                  cases there : alone.databaseStates state.database <;>
                  simp only [here, there, Option.map_none, Option.map_some, reduceCtorEq,
                    Option.some.injEq] at ids
                · rfl
                · simp only [Option.bind_some, ids]
          · exact
              { numbered := agrees.numbered
                numbered' := agrees.numbered'
                order := by
                  rw [firstCalls_append, Event.meets, if_pos rfl]
                  exact agrees.order
                counters := fun other still => agrees.counters other still.back
                statements := agrees.statements
                ids := agrees.ids }

/-! ## The beginning -/

/-- No statement belongs to an operation that has made no call. -/
def Unmet (operation : Nat) (installed : Option SqliteAdapter) : Prop :=
  ∀ adapter, installed = some adapter → Numbered adapter ∧
    ∀ index, adapter.statementStates ⟨some operation, index⟩ = none

/-- Calls of others make no statement for an operation. -/
theorem Unmet.step {installed : Option SqliteAdapter} (unmet : Unmet operation installed)
    (others : event.madeBy operation = false) :
    Unmet operation (step base64url installed event).2 := by
  intro after stepped
  refine ⟨numbered_step base64url (fun adapter found => (unmet adapter found).1) event after
    stepped, fun mine => ?_⟩
  cases event with
  | install =>
      cases installed with
      | none =>
          cases stepped
          rfl
      | some adapter => exact (unmet after stepped).2 mine
  | release => cases stepped
  | call caller call =>
      cases installed with
      | none => cases stepped
      | some adapter =>
          cases stepped
          rcases unmet adapter rfl with ⟨numbered, free⟩
          have foreign : caller ≠ some operation := of_decide_eq_false others
          have apart : ∀ index, (⟨some operation, mine⟩ : Reference) ≠ ⟨caller, index⟩ :=
            fun index same => foreign (congrArg Reference.caller same).symm
          have seen := numbered.stateForDatabase
          cases call with
          | exec database sql =>
              simp only [SqliteAdapter.perform, exec_eq]
              rw [(seen database).statements]
              exact free mine
          | prepare database index sql succeeds =>
              simp only [SqliteAdapter.perform]
              by_cases gives : ∃ state, Gives adapter database state
              · rcases gives with ⟨state, gives⟩
                rw [prepare_of_gives base64url gives]
                simp only
                split
                · exact (Function.update_of_ne (apart index) _ _).trans
                    ((congrFun (seen database).statements _).trans (free mine))
                · exact (congrFun (seen database).statements _).trans (free mine)
              · rw [prepare_of_not_gives base64url (not_exists.mp gives), (seen database).statements]
                exact free mine
          | statement name statement arguments => exact free mine

variable (base64url)

/-- An operation that gets its own numbers asks for the same in a fresh process. -/
theorem emitted_alone (history : List Event)
    (undisturbed : ∀ done event later,
      Runs.during (Event.madeBy operation) history = done ++ event :: later →
      event.madeBy operation = true →
      Undisturbed operation (atStart base64url operation history) done
        (Runs.final (step base64url) (atStart base64url operation history) done) event) :
    emitted base64url operation none history = emittedAlone base64url operation history := by
  have unmet : Unmet operation (atStart base64url operation history) :=
    Runs.final_preserves (Unmet operation)
      (fun _ _ unmet (met : Event.madeBy operation _ = false) => unmet.step met)
      (Runs.earlier (Event.madeBy operation) history) (fun _ absent => nomatch absent)
      fun entry among => Runs.earlier_others (Runs.call_mem_of_answered among)
  have began : Related operation (atStart base64url operation history) []
      (atStart base64url operation history) (some .new) := by
    intro started start_eq _
    rcases unmet started start_eq with ⟨numbered, free⟩
    refine ⟨started, .new, start_eq, rfl, numbered, numbered_new, rfl, ?_, free, ?_⟩
    · intro database unprepared
      exact unprepared.before
    · intro index state present
      rw [free index] at present
      cases present
  exact congrArg List.reduceOption (Runs.repliesTo_history
    (fun done installed installedAlone event related mine
        (met : Undisturbed operation (atStart base64url operation history) done installed event) =>
      related_own related mine met)
    (fun _ _ _ _ related others => related_other related others) history began undisturbed)

end Alone
end Node
end Sqlite
end ReproItSdk
