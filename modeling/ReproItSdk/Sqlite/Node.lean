import Mathlib.Data.List.Nodup
import Mathlib.Logic.Function.Basic
import ReproItSdk.Library.Runs
import ReproItSdk.Sqlite.Requests

/-! # SQLite identities of the Node SDK

A database gets its number at the first call that the installed adapter sees of it, and a statement
gets the next number of its database when it is prepared.  The numbers live in the closure of the
install, and all operations share them.

Main results:

- Structure {lit}`Numbered`: which numbers databases and statements have.
- Theorem {lit}`identified_run`: after every history databases have different numbers, and so have
  the statements of a database.
-/

namespace ReproItSdk
namespace Sqlite
namespace Node

open Unicode

/-! ## The adapter -/

/-- A value of {lit}`databaseStates`. -/
structure DatabaseState where
  id : Nat
  nextStatementId : Nat := 1
deriving DecidableEq, Repr

/-- A value of {lit}`statementStates`. -/
structure StatementState where
  database : Nat
  id : Nat
  sql : Option Text
deriving DecidableEq, Repr

/-- The closure of {lit}`installSqliteAdapter`, with the databases that were called, in the order
of their first calls. -/
structure SqliteAdapter where
  nextDatabaseId : Nat
  called : List Nat
  databaseStates : Nat → Option DatabaseState
  statementStates : Reference → Option StatementState

/-- The closure of a new install. -/
def SqliteAdapter.new : SqliteAdapter where
  nextDatabaseId := 1
  called := []
  databaseStates := fun _ => none
  statementStates := fun _ => none

/-- A call that a hook of the adapter sees; the live call of {lit}`prepare` succeeds or not, and a
statement is called by one of {lit}`get`, {lit}`all` and {lit}`run`. -/
inductive Call where
  | exec (database : Nat) (sql : Option Text)
  | prepare (database index : Nat) (sql : Option Text) (succeeds : Bool)
  | statement (name : Text) (statement : Reference) (arguments : List Argument)
deriving DecidableEq, Repr

/-- An install or a release of the adapter, or a call of an operation or of code outside of all
operations. -/
inductive Event where
  | install
  | release
  | call (caller : Option Nat) (call : Call)
deriving DecidableEq, Repr

/-- The order of first calls after a call of a database. -/
def meet (called : List Nat) (database : Nat) : List Nat :=
  if database ∈ called then called else called ++ [database]

/-- {lit}`allocateStatementId`. -/
def allocateStatementId (state : DatabaseState) : Option (Nat × DatabaseState) :=
  if maxCursorsPerDatabase < state.nextStatementId then none
  else some (state.nextStatementId, { state with nextStatementId := state.nextStatementId + 1 })

namespace SqliteAdapter

/-- {lit}`stateForDatabase`. -/
def stateForDatabase (adapter : SqliteAdapter) (database : Nat) :
    Option DatabaseState × SqliteAdapter :=
  match adapter.databaseStates database with
  | some state => (some state, { adapter with called := meet adapter.called database })
  | none =>
      if maxDatabases < adapter.nextDatabaseId then
        (none, { adapter with called := meet adapter.called database })
      else
        (some { id := adapter.nextDatabaseId },
          { adapter with
            nextDatabaseId := adapter.nextDatabaseId + 1
            called := meet adapter.called database
            databaseStates := Function.update adapter.databaseStates database
              (some { id := adapter.nextDatabaseId }) })

section Step

variable (base64url : Bytes → Text)

/-- The hook of {lit}`exec`. -/
def exec (adapter : SqliteAdapter) (database : Nat) (sql : Option Text) :
    Option DependencyRequest × SqliteAdapter :=
  match adapter.stateForDatabase database with
  | (none, adapter) => (none, adapter)
  | (some state, adapter) =>
      (createRequest base64url state.id "exec".toList none sql [], adapter)

/-- The request of {lit}`prepare`, once the statement has a number; the statement is there once the
live call has succeeded. -/
def prepareNumbered (adapter : SqliteAdapter) (statement : Reference) (database : Nat)
    (sql : Option Text) (succeeds : Bool) (databaseId statementId : Nat) :
    Option DependencyRequest × SqliteAdapter :=
  match createRequest base64url databaseId "prepare".toList (some statementId) sql [] with
  | none => (none, adapter)
  | some request =>
      if succeeds then
        (some request,
          { adapter with
            statementStates := Function.update adapter.statementStates statement
              (some { database := database, id := statementId, sql := sql }) })
      else (some request, adapter)

/-- The hook of {lit}`prepare`, once the database has a number. -/
def prepareKnown (adapter : SqliteAdapter) (statement : Reference) (database : Nat)
    (sql : Option Text) (succeeds : Bool) (state : DatabaseState) :
    Option DependencyRequest × SqliteAdapter :=
  match allocateStatementId state with
  | none => (none, adapter)
  | some (statementId, after) =>
      { adapter with
        databaseStates := Function.update adapter.databaseStates database
          (some after) }.prepareNumbered base64url statement database sql succeeds state.id
            statementId

/-- The hook of {lit}`prepare`. -/
def prepare (adapter : SqliteAdapter) (statement : Reference) (database : Nat)
    (sql : Option Text) (succeeds : Bool) : Option DependencyRequest × SqliteAdapter :=
  match adapter.stateForDatabase database with
  | (none, adapter) => (none, adapter)
  | (some state, adapter) =>
      adapter.prepareKnown base64url statement database sql succeeds state

/-- The hooks of {lit}`get`, {lit}`all` and {lit}`run`. -/
def statement (adapter : SqliteAdapter) (name : Text) (statement : Reference)
    (arguments : List Argument) : Option DependencyRequest := do
  let state ← adapter.statementStates statement
  let database ← adapter.databaseStates state.database
  createRequest base64url database.id name (some state.id) state.sql arguments

/-- A call of an operation, with the request that the adapter makes of it. -/
def perform (adapter : SqliteAdapter) (caller : Option Nat) :
    Call → Option DependencyRequest × SqliteAdapter
  | .exec database sql => adapter.exec base64url database sql
  | .prepare database index sql succeeds =>
      adapter.prepare base64url ⟨caller, index⟩ database sql succeeds
  | .statement name statement arguments =>
      (adapter.statement base64url name statement arguments, adapter)

end Step
end SqliteAdapter

/-- One event of a process; the adapter is installed once, and a release puts the methods back. -/
def step (base64url : Bytes → Text) (installed : Option SqliteAdapter) :
    Event → Option DependencyRequest × Option SqliteAdapter
  | .install => (none, some (installed.getD .new))
  | .release => (none, none)
  | .call caller call =>
      match installed with
      | none => (none, none)
      | some adapter =>
          let performed := adapter.perform base64url caller call
          (performed.1, some performed.2)

/-! ## Numbers -/

/-- What numbers of databases and statements come from. -/
structure Numbered (adapter : SqliteAdapter) : Prop where
  once : adapter.called.Nodup
  known : ∀ database, (adapter.databaseStates database).map DatabaseState.id =
    if database ∈ adapter.called then numberAt (adapter.called.idxOf database) else none
  next : adapter.nextDatabaseId = min adapter.called.length maxDatabases + 1
  made : ∀ statement state, adapter.statementStates statement = some state →
    ∃ database, adapter.databaseStates state.database = some database ∧
      state.id < database.nextStatementId
  apart : ∀ statement other state state', adapter.statementStates statement = some state →
    adapter.statementStates other = some state' → state.database = state'.database →
    state.id = state'.id → statement = other

/-- Databases have different numbers, and so have the statements of one database. -/
structure Identified (adapter : SqliteAdapter) : Prop where
  databases : ∀ database other state state', adapter.databaseStates database = some state →
    adapter.databaseStates other = some state' → state.id = state'.id → database = other
  statements : ∀ statement other state state', adapter.statementStates statement = some state →
    adapter.statementStates other = some state' → state.database = state'.database →
    state.id = state'.id → statement = other

/-- The number that the next statement of a database gets. -/
def SqliteAdapter.nextStatementId (adapter : SqliteAdapter) (database : Nat) : Nat :=
  (adapter.databaseStates database).elim 1 DatabaseState.nextStatementId

section Numbers

variable {adapter : SqliteAdapter}

/-- A new closure has given no number. -/
theorem numbered_new : Numbered SqliteAdapter.new where
  once := List.nodup_nil
  known := by simp [SqliteAdapter.new]
  next := rfl
  made := by simp [SqliteAdapter.new]
  apart := by simp [SqliteAdapter.new]

/-- Databases that have a number were called, and it is the number of their place. -/
theorem Numbered.id_eq (numbered : Numbered adapter) {database : Nat} {state : DatabaseState}
    (found : adapter.databaseStates database = some state) :
    database ∈ adapter.called ∧
      some state.id = numberAt (adapter.called.idxOf database) := by
  have known := numbered.known database
  rw [found, Option.map_some] at known
  split at known
  · next among => exact ⟨among, known⟩
  · cases known

/-- Numbers in order tell databases and statements apart. -/
theorem Numbered.identified (numbered : Numbered adapter) : Identified adapter where
  databases := by
    intro database other state state' found found' same
    rcases numbered.id_eq found with ⟨among, number⟩
    rcases numbered.id_eq found' with ⟨among', number'⟩
    have places := numberAt_injective number.symm (same ▸ number'.symm)
    exact (List.idxOf_inj among).mp places
  statements := numbered.apart

/-- First calls stay in order. -/
theorem nodup_meet {called : List Nat} (once : called.Nodup) (database : Nat) :
    (meet called database).Nodup := by
  unfold meet
  split
  · exact once
  next absent =>
    exact List.nodup_append.mpr ⟨once, List.nodup_singleton _, fun first among other single same =>
      absent (List.mem_singleton.mp single ▸ same ▸ among)⟩

/-- What was called after a call of a database. -/
@[simp]
theorem mem_meet {called : List Nat} {database other : Nat} :
    other ∈ meet called database ↔ other ∈ called ∨ other = database := by
  unfold meet
  split
  · next among => exact ⟨.inl, fun either => either.elim id fun same => same ▸ among⟩
  · rw [List.mem_append, List.mem_singleton]

/-- A database that was called keeps its place. -/
theorem idxOf_meet_of_mem {called : List Nat} {database other : Nat} (among : other ∈ called) :
    (meet called database).idxOf other = called.idxOf other := by
  unfold meet
  split
  · rfl
  · exact List.idxOf_append_of_mem among

/-- The place of the database that is called. -/
theorem idxOf_meet_self {called : List Nat} {database : Nat} :
    (meet called database).idxOf database = called.idxOf database := by
  unfold meet
  split
  · rfl
  next absent => rw [List.idxOf_append_of_notMem absent, List.idxOf_eq_length absent]; simp

/-- What {lit}`stateForDatabase` answers and changes. -/
structure Seen (adapter : SqliteAdapter) (database : Nat)
    (result : Option DatabaseState × SqliteAdapter) : Prop where
  id : result.1.map DatabaseState.id = numberAt (adapter.called.idxOf database)
  state : result.1 = result.2.databaseStates database
  called : result.2.called = meet adapter.called database
  statements : result.2.statementStates = adapter.statementStates
  counters : ∀ other, result.2.nextStatementId other = adapter.nextStatementId other
  known : ∀ other state, adapter.databaseStates other = some state →
    result.2.databaseStates other = some state
  numbered : Numbered result.2

/-- The number of a database is the number of its place in the order of first calls. -/
theorem Numbered.stateForDatabase (numbered : Numbered adapter) (database : Nat) :
    Seen adapter database (adapter.stateForDatabase database) := by
  have once := nodup_meet numbered.once database
  unfold SqliteAdapter.stateForDatabase
  cases found : adapter.databaseStates database with
  | some state =>
      rcases numbered.id_eq found with ⟨among, number⟩
      have same : meet adapter.called database = adapter.called := if_pos among
      simp only [same]
      exact
        { id := number
          state := found.symm
          called := same.symm
          statements := rfl
          counters := fun _ => rfl
          known := fun _ _ => id
          numbered := numbered }
  | none =>
      have unknown := numbered.known database
      rw [found, Option.map_none] at unknown
      by_cases full : maxDatabases < adapter.nextDatabaseId
      · have beyond : maxDatabases ≤ adapter.called.length := by
          have := numbered.next
          omega
        have place : numberAt (adapter.called.idxOf database) = none := by
          by_cases among : database ∈ adapter.called
          · rw [if_pos among] at unknown
            exact unknown.symm
          · rw [List.idxOf_eq_length among, numberAt, if_neg (by omega)]
        simp only [if_pos full]
        refine ⟨place.symm, found.symm, rfl, rfl, fun _ => rfl, fun _ _ => id, once, ?_, ?_,
          numbered.made, numbered.apart⟩
        · intro other
          show (adapter.databaseStates other).map DatabaseState.id = _
          by_cases among : other ∈ adapter.called
          · rw [numbered.known, if_pos among, if_pos (mem_meet.mpr (.inl among)),
              idxOf_meet_of_mem among]
          · rw [numbered.known, if_neg among]
            split
            · next met =>
                rcases mem_meet.mp met with there | rfl
                · exact absurd there among
                · rw [idxOf_meet_self, place]
            · rfl
        · show adapter.nextDatabaseId = min (meet adapter.called database).length maxDatabases + 1
          unfold meet
          split
          · exact numbered.next
          · rw [numbered.next, List.length_append, List.length_singleton]
            omega
      · have room : adapter.called.length < maxDatabases := by
          have := numbered.next
          omega
        have absent : database ∉ adapter.called := by
          intro among
          rw [if_pos among, numberAt,
            if_pos ((List.idxOf_lt_length_of_mem among).trans room)] at unknown
          cases unknown
        have number : some adapter.nextDatabaseId = numberAt (adapter.called.idxOf database) := by
          rw [List.idxOf_eq_length absent, numberAt, if_pos room, numbered.next,
            min_eq_left room.le]
        have unlike : ∀ other state, adapter.databaseStates other = some state →
            other ≠ database := by
          rintro other state present rfl
          rw [found] at present
          cases present
        simp only [if_neg full]
        refine ⟨number, by simp, rfl, rfl, ?_, ?_, once, ?_, ?_, ?_, numbered.apart⟩
        · intro other
          unfold SqliteAdapter.nextStatementId
          simp only [Function.update_apply]
          split
          · next same =>
              rw [same, found]
              rfl
          · rfl
        · intro other state present
          exact (Function.update_of_ne (unlike other state present) _ _).trans present
        · intro other
          simp only [Function.update_apply]
          by_cases here : other = database
          · rw [if_pos here, if_pos (mem_meet.mpr (.inr here)), here, idxOf_meet_self]
            exact number
          · rw [if_neg here, numbered.known]
            by_cases among : other ∈ adapter.called
            · rw [if_pos among, if_pos (mem_meet.mpr (.inl among)), idxOf_meet_of_mem among]
            · rw [if_neg among, if_neg fun met => (mem_meet.mp met).elim among here]
        · show adapter.nextDatabaseId + 1 = min (meet adapter.called database).length _ + 1
          rw [meet, if_neg absent, List.length_append, List.length_singleton, numbered.next]
          omega
        · intro statement state present
          rcases numbered.made statement state present with ⟨owner, held, below⟩
          exact ⟨owner, (Function.update_of_ne (unlike _ owner held) _ _).trans held, below⟩

/-- The closure after a statement of a database got its number. -/
def withCounter (adapter : SqliteAdapter) (database : Nat) (state : DatabaseState) :
    SqliteAdapter :=
  { adapter with
    databaseStates := Function.update adapter.databaseStates database
      (some { state with nextStatementId := state.nextStatementId + 1 }) }

/-- The closure after a statement was prepared. -/
def withStatement (adapter : SqliteAdapter) (statement : Reference) (database : Nat)
    (state : DatabaseState) (sql : Option Text) : SqliteAdapter :=
  { withCounter adapter database state with
    statementStates := Function.update adapter.statementStates statement
      (some { database := database, id := state.nextStatementId, sql := sql }) }

/-- A raised counter leaves the numbers in order. -/
theorem Numbered.withCounter (numbered : Numbered adapter) {database : Nat}
    {state : DatabaseState} (found : adapter.databaseStates database = some state) :
    Numbered (withCounter adapter database state) where
  once := numbered.once
  known := by
    intro other
    refine Eq.trans ?_ (numbered.known other)
    simp only [Node.withCounter, Function.update_apply]
    split
    · next same =>
        rw [same, found]
        rfl
    · rfl
  next := numbered.next
  made := by
    intro statement made present
    rcases numbered.made statement made present with ⟨owner, held, below⟩
    simp only [Node.withCounter, Function.update_apply]
    split
    · next same =>
        rw [same, found] at held
        cases held
        exact ⟨_, rfl, below.trans (Nat.lt_succ_self _)⟩
    · exact ⟨owner, held, below⟩
  apart := numbered.apart

/-- A new statement has a number that no statement of its database has. -/
theorem Numbered.withStatement (numbered : Numbered adapter) {database : Nat}
    {state : DatabaseState} (found : adapter.databaseStates database = some state)
    (statement : Reference) (sql : Option Text) :
    Numbered (withStatement adapter statement database state sql) where
  once := numbered.once
  known := (numbered.withCounter found).known
  next := numbered.next
  made := by
    intro other made present
    simp only [Node.withStatement, Function.update_apply] at present
    split at present
    · cases present
      exact ⟨_, Function.update_self _ _ _, Nat.lt_succ_self _⟩
    · exact (numbered.withCounter found).made other made present
  apart := by
    have unused : ∀ other made, adapter.statementStates other = some made →
        made.database = database → made.id ≠ state.nextStatementId := by
      intro other made present owner
      rcases numbered.made other made present with ⟨holder, held, below⟩
      rw [owner, found] at held
      cases held
      exact below.ne
    intro first second made made' present present' owner same
    simp only [Node.withStatement, Function.update_apply] at present present'
    split at present <;> split at present'
    next here there => rw [here, there]
    next here apart =>
      cases present
      exact absurd same.symm (unused second made' present' owner.symm)
    next apart here =>
      cases present'
      exact absurd same (unused first made present owner)
    next apart apart' =>
      exact numbered.apart first second made made' present present' owner same

/-! ## What the calls do -/

/-- A call of {lit}`exec`. -/
theorem exec_eq (base64url : Bytes → Text) (adapter : SqliteAdapter) (database : Nat)
    (sql : Option Text) :
    adapter.exec base64url database sql =
      ((adapter.stateForDatabase database).1.bind fun state =>
        createRequest base64url state.id "exec".toList none sql [],
        (adapter.stateForDatabase database).2) := by
  unfold SqliteAdapter.exec
  cases given : adapter.stateForDatabase database with
  | mk state next => cases state <;> rfl

/-- A database gives a new statement its next number. -/
structure Gives (adapter : SqliteAdapter) (database : Nat) (state : DatabaseState) : Prop where
  given : (adapter.stateForDatabase database).1 = some state
  room : state.nextStatementId ≤ maxCursorsPerDatabase

/-- A call of {lit}`prepare` whose database gives the statement a number. -/
theorem prepare_of_gives (base64url : Bytes → Text) {database : Nat} {state : DatabaseState}
    (gives : Gives adapter database state) (statement : Reference) (sql : Option Text)
    (succeeds : Bool) :
    adapter.prepare base64url statement database sql succeeds =
      (createRequest base64url state.id "prepare".toList (some state.nextStatementId) sql [],
        if (createRequest base64url state.id "prepare".toList (some state.nextStatementId) sql
            []).isSome ∧ succeeds = true
        then withStatement (adapter.stateForDatabase database).2 statement database state sql
        else withCounter (adapter.stateForDatabase database).2 database state) := by
  have seen : adapter.stateForDatabase database =
      (some state, (adapter.stateForDatabase database).2) := Prod.ext gives.given rfl
  have allocated : allocateStatementId state = some (state.nextStatementId,
      { state with nextStatementId := state.nextStatementId + 1 }) :=
    if_neg (Nat.not_lt.mpr gives.room)
  unfold SqliteAdapter.prepare
  rw [seen]
  simp only [SqliteAdapter.prepareKnown, allocated, SqliteAdapter.prepareNumbered]
  cases createRequest base64url state.id "prepare".toList (some state.nextStatementId) sql [] with
  | none => rfl
  | some request => cases succeeds <;> rfl

/-- Other calls of {lit}`prepare` ask for nothing and make nothing. -/
theorem prepare_of_not_gives (base64url : Bytes → Text) {database : Nat}
    (refused : ∀ state, ¬ Gives adapter database state) (statement : Reference)
    (sql : Option Text) (succeeds : Bool) :
    adapter.prepare base64url statement database sql succeeds =
      (none, (adapter.stateForDatabase database).2) := by
  unfold SqliteAdapter.prepare
  cases seen : adapter.stateForDatabase database with
  | mk given next =>
      cases given with
      | none => rfl
      | some state =>
          have full : maxCursorsPerDatabase < state.nextStatementId :=
            Nat.not_le.mp fun room => refused state ⟨by rw [seen], room⟩
          simp only [SqliteAdapter.prepareKnown, allocateStatementId, if_pos full]

/-- A call of {lit}`prepare` keeps the numbers in order. -/
theorem Numbered.prepare (base64url : Bytes → Text) (numbered : Numbered adapter)
    (statement : Reference) (database : Nat) (sql : Option Text) (succeeds : Bool) :
    Numbered (adapter.prepare base64url statement database sql succeeds).2 := by
  have seen := numbered.stateForDatabase database
  by_cases gives : ∃ state, Gives adapter database state
  · rcases gives with ⟨state, gives⟩
    have found := seen.state.symm.trans gives.given
    rw [prepare_of_gives base64url gives]
    simp only
    split
    · exact seen.numbered.withStatement found statement sql
    · exact seen.numbered.withCounter found
  · rw [prepare_of_not_gives base64url (not_exists.mp gives)]
    exact seen.numbered

/-- Every event keeps the numbers in order. -/
theorem numbered_step (base64url : Bytes → Text) {installed : Option SqliteAdapter}
    (numbered : ∀ adapter, installed = some adapter → Numbered adapter) (event : Event) :
    ∀ adapter, (step base64url installed event).2 = some adapter → Numbered adapter := by
  intro after stepped
  cases event with
  | install =>
      cases installed with
      | none =>
          cases stepped
          exact numbered_new
      | some adapter => exact numbered after stepped
  | release => cases stepped
  | call caller call =>
      cases installed with
      | none => cases stepped
      | some adapter =>
          cases stepped
          have before := numbered adapter rfl
          cases call with
          | exec database sql =>
              simp only [SqliteAdapter.perform, exec_eq]
              exact (before.stateForDatabase database).numbered
          | prepare database index sql succeeds =>
              exact before.prepare base64url ⟨caller, index⟩ database sql succeeds
          | statement name statement arguments => exact before

/-- Numbers are in order after every history. -/
theorem numbered_run (base64url : Bytes → Text) (history : List Event) :
    ∀ adapter, Runs.final (step base64url) none history = some adapter → Numbered adapter :=
  Runs.final_preserves
    (fun installed => ∀ adapter, installed = some adapter → Numbered adapter)
    (fun _ event numbered (_ : True) => numbered_step base64url numbered event) history
    (fun _ absent => nomatch absent) fun _ _ => trivial

/-- After every history databases have different numbers, and so have the statements of a
database. -/
theorem identified_run (base64url : Bytes → Text) (history : List Event) :
    ∀ adapter, Runs.final (step base64url) none history = some adapter → Identified adapter :=
  fun adapter reached => (numbered_run base64url history adapter reached).identified

end Numbers
end Node
end Sqlite
end ReproItSdk
