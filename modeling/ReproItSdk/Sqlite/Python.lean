import Mathlib.Data.List.Nodup
import Mathlib.Logic.Function.Basic
import ReproItSdk.Library.Runs
import ReproItSdk.Sqlite.Requests

/-! # SQLite identities of the Python SDK

A connection gets the next number of the process when it is opened, and a cursor gets the next
number of its connection when it is made.  Both counters are shared by all operations, and an
install of the adapter sets the counter of the connections back.

Main results:

- Structure {lit}`Numbered`: which numbers connections and cursors have.
- Theorem {lit}`numbered_run`: they have them after every history.
- Theorem {lit}`identified_run`: living connections have different numbers, and so have the cursors
  of a connection.
-/

namespace ReproItSdk
namespace Sqlite
namespace Python

/-! ## The adapter -/

/-- {lit}`_ConnectionState`, and whether the application still holds the connection. -/
structure ConnectionState where
  databaseId : Option Nat
  nextCursorId : Nat := 1
  unsupported : Bool := false
  alive : Bool := true
deriving DecidableEq, Repr

/-- {lit}`_CursorState`. -/
structure CursorState where
  connection : Reference
  cursorId : Nat
deriving DecidableEq, Repr

/-- State of the adapter in a process, with the connections opened since the last install. -/
structure SqliteAdapter where
  installed : Bool
  nextDatabaseId : Nat
  opened : List Reference
  connections : Reference → Option ConnectionState
  cursors : Reference → Option CursorState

/-- The adapter when its module is loaded. -/
def SqliteAdapter.new : SqliteAdapter where
  installed := false
  nextDatabaseId := 1
  opened := []
  connections := fun _ => none
  cursors := fun _ => none

/-- What a call does to the adapter. -/
inductive Call where
  | connect (index : Nat)
  | drop (connection : Reference)
  | spoil (connection : Reference)
  | make (connection : Reference) (index : Nat) (body : Body) (succeeds : Bool)
  | use (cursor : Reference) (body : Body)
deriving DecidableEq, Repr

/-- {lit}`_ManagedConnection.cursor`, of which the live call succeeds or not. -/
def cursor (connection : Reference) (index : Nat) (succeeds : Bool) : Call :=
  .make connection index ⟨"cursor".toList, none, .ordered []⟩ succeeds

/-- {lit}`_ManagedConnection.execute`, of which the live call succeeds or not. -/
def execute (connection : Reference) (index : Nat) (sql : Unicode.Text) (bindings : Bindings)
    (succeeds : Bool) : Call :=
  .make connection index ⟨"execute".toList, some sql, bindings⟩ succeeds

/-- {lit}`_ManagedCursor.execute`. -/
def cursorExecute (cursor : Reference) (sql : Unicode.Text) (bindings : Bindings) : Call :=
  .use cursor ⟨"execute".toList, some sql, bindings⟩

/-- {lit}`_ManagedCursor.fetchone`. -/
def fetchone (cursor : Reference) : Call :=
  .use cursor ⟨"fetchone".toList, none, .ordered []⟩

/-- {lit}`_ManagedCursor.fetchall`. -/
def fetchall (cursor : Reference) : Call :=
  .use cursor ⟨"fetchall".toList, none, .ordered []⟩

/-- An install or a release of the adapter, or a call of an operation or of code outside of all
operations. -/
inductive Event where
  | install
  | release
  | call (caller : Option Nat) (call : Call)
deriving DecidableEq, Repr

/-- The number of the next connection, and the counter after it. -/
def allocateDatabaseId (nextDatabaseId : Nat) : Option Nat × Nat :=
  if maxDatabases < nextDatabaseId then (none, nextDatabaseId)
  else (some nextDatabaseId, nextDatabaseId + 1)

/-- {lit}`_allocate_cursor_id`. -/
def allocateCursorId (state : ConnectionState) : Option (Nat × ConnectionState) :=
  if maxCursorsPerDatabase < state.nextCursorId then none
  else some (state.nextCursorId, { state with nextCursorId := state.nextCursorId + 1 })

namespace SqliteAdapter

/-- {lit}`_install_sqlite_adapter`, which refuses to install twice. -/
def install (adapter : SqliteAdapter) : SqliteAdapter :=
  if adapter.installed then adapter
  else { adapter with installed := true, nextDatabaseId := 1, opened := [] }

/-- {lit}`_restore_sqlite_adapter`. -/
def restore (adapter : SqliteAdapter) : SqliteAdapter :=
  { adapter with installed := false }

/-- {lit}`_initialize_connection` of a new connection. -/
def initializeConnection (adapter : SqliteAdapter) (connection : Reference) : SqliteAdapter :=
  if (adapter.connections connection).isSome then adapter
  else
    { adapter with
      nextDatabaseId := (allocateDatabaseId adapter.nextDatabaseId).2
      opened := adapter.opened ++ [connection]
      connections := Function.update adapter.connections connection
        (some { databaseId := (allocateDatabaseId adapter.nextDatabaseId).1 }) }

/-- A change of the state of a connection. -/
def modifyConnection (adapter : SqliteAdapter) (connection : Reference)
    (change : ConnectionState → ConnectionState) : SqliteAdapter :=
  { adapter with
    connections := Function.update adapter.connections connection
      ((adapter.connections connection).map change) }

section Step

variable (base64url : Bytes → Unicode.Text)

/-- The request of a new cursor that got a number; the cursor is there once the live call has
succeeded. -/
def makeNumbered (adapter : SqliteAdapter) (caller : Option Nat) (connection : Reference)
    (index : Nat) (body : Body) (succeeds : Bool) (databaseId : Option Nat) (cursorId : Nat) :
    Option DependencyRequest × SqliteAdapter :=
  match request base64url databaseId cursorId body with
  | none => (none, adapter)
  | some request =>
      if succeeds then
        (some request,
          { adapter with
            cursors := Function.update adapter.cursors ⟨caller, index⟩
              (some { connection := connection, cursorId := cursorId }) })
      else (some request, adapter)

/-- A new cursor of a connection that is supported. -/
def makeSupported (adapter : SqliteAdapter) (caller : Option Nat) (connection : Reference)
    (index : Nat) (body : Body) (succeeds : Bool) (state : ConnectionState) :
    Option DependencyRequest × SqliteAdapter :=
  match allocateCursorId state with
  | none => (none, adapter)
  | some (cursorId, after) =>
      (adapter.modifyConnection connection fun _ => after).makeNumbered base64url caller connection
        index body succeeds state.databaseId cursorId

/-- A call that makes a cursor of a connection. -/
def make (adapter : SqliteAdapter) (caller : Option Nat) (connection : Reference) (index : Nat)
    (body : Body) (succeeds : Bool) : Option DependencyRequest × SqliteAdapter :=
  if (adapter.cursors ⟨caller, index⟩).isSome then (none, adapter)
  else
    match adapter.connections connection with
    | none => (none, adapter)
    | some state =>
        if state.unsupported then (none, adapter)
        else adapter.makeSupported base64url caller connection index body succeeds state

/-- The request of a call on a cursor. -/
def use (adapter : SqliteAdapter) (cursor : Reference) (body : Body) :
    Option DependencyRequest := do
  let state ← adapter.cursors cursor
  let connection ← adapter.connections state.connection
  if connection.unsupported then none
  else request base64url connection.databaseId state.cursorId body

/-- A call of an operation, with the request that the adapter makes of it. -/
def perform (adapter : SqliteAdapter) (caller : Option Nat) :
    Call → Option DependencyRequest × SqliteAdapter
  | .connect index => (none, adapter.initializeConnection ⟨caller, index⟩)
  | .drop connection =>
      (none, adapter.modifyConnection connection fun state => { state with alive := false })
  | .spoil connection =>
      (none, adapter.modifyConnection connection fun state => { state with unsupported := true })
  | .make connection index body succeeds =>
      adapter.make base64url caller connection index body succeeds
  | .use cursor body => (adapter.use base64url cursor body, adapter)

/-- One event of a process. -/
def step (adapter : SqliteAdapter) : Event → Option DependencyRequest × SqliteAdapter
  | .install => (none, adapter.install)
  | .release => (none, adapter.restore)
  | .call caller call => adapter.perform base64url caller call

end Step
end SqliteAdapter

/-! ## Numbers -/

/-- What numbers of connections and cursors come from. -/
structure Numbered (adapter : SqliteAdapter) : Prop where
  once : adapter.opened.Nodup
  present : ∀ connection ∈ adapter.opened, (adapter.connections connection).isSome
  numbered : ∀ connection state, connection ∈ adapter.opened →
    adapter.connections connection = some state →
    state.databaseId = numberAt (adapter.opened.idxOf connection)
  next : adapter.nextDatabaseId = min adapter.opened.length maxDatabases + 1
  made : ∀ cursor state, adapter.cursors cursor = some state →
    ∃ connection, adapter.connections state.connection = some connection ∧
      state.cursorId < connection.nextCursorId
  apart : ∀ cursor other state state', adapter.cursors cursor = some state →
    adapter.cursors other = some state' → state.connection = state'.connection →
    state.cursorId = state'.cursorId → cursor = other

/-- Living connections have different numbers, and so have the cursors of one connection. -/
structure Identified (adapter : SqliteAdapter) : Prop where
  connections : ∀ connection other state state' number,
    adapter.connections connection = some state → adapter.connections other = some state' →
    state.alive = true → state'.alive = true → state.databaseId = some number →
    state'.databaseId = some number → connection = other
  cursors : ∀ cursor other state state', adapter.cursors cursor = some state →
    adapter.cursors other = some state' → state.connection = state'.connection →
    state.cursorId = state'.cursorId → cursor = other

/-- No connection that was opened before the last install and still lives has the number that the
next connection gets. -/
def FreshNumber (adapter : SqliteAdapter) : Prop :=
  ∀ connection state, adapter.connections connection = some state → state.alive = true →
    connection ∉ adapter.opened → state.databaseId ≠ some adapter.nextDatabaseId

/-- The counter gives the number of the next place. -/
theorem allocateDatabaseId_eq (place : Nat) :
    allocateDatabaseId (min place maxDatabases + 1) =
      (numberAt place, min (place + 1) maxDatabases + 1) := by
  unfold allocateDatabaseId numberAt
  by_cases below : place < maxDatabases
  · rw [if_neg (by omega), if_pos below, min_eq_left below.le, min_eq_left below]
  · rw [if_pos (by omega), if_neg below, min_eq_right (by omega), min_eq_right (by omega)]

namespace SqliteAdapter

/-- A connection after a change was there before. -/
theorem modifyConnection_some {adapter : SqliteAdapter} {connection other : Reference}
    {change : ConnectionState → ConnectionState} {after : ConnectionState}
    (found : (adapter.modifyConnection connection change).connections other = some after) :
    ∃ before, adapter.connections other = some before ∧
      (after = before ∨ other = connection ∧ after = change before) := by
  simp only [modifyConnection, Function.update_apply] at found
  split at found
  · next same =>
      rcases Option.map_eq_some_iff.mp found with ⟨before, present, rfl⟩
      exact ⟨before, by rw [same, present], .inr ⟨same, rfl⟩⟩
  · exact ⟨after, found, .inl rfl⟩

/-- A connection is there after a change as before. -/
@[simp]
theorem modifyConnection_isSome (adapter : SqliteAdapter) (connection other : Reference)
    (change : ConnectionState → ConnectionState) :
    ((adapter.modifyConnection connection change).connections other).isSome =
      (adapter.connections other).isSome := by
  simp only [modifyConnection, Function.update_apply]
  split
  · next same => rw [Option.isSome_map, same]
  · rfl

/-- Other connections do not change. -/
theorem modifyConnection_of_ne (adapter : SqliteAdapter) {connection other : Reference}
    (change : ConnectionState → ConnectionState) (apart : other ≠ connection) :
    (adapter.modifyConnection connection change).connections other =
      adapter.connections other :=
  Function.update_of_ne apart _ _

/-- The connection that changes. -/
theorem modifyConnection_self (adapter : SqliteAdapter) (connection : Reference)
    (change : ConnectionState → ConnectionState) :
    (adapter.modifyConnection connection change).connections connection =
      (adapter.connections connection).map change :=
  Function.update_self _ _ _

/-- A change keeps what it does not touch. -/
theorem modifyConnection_map {β : Type} (adapter : SqliteAdapter) {connection : Reference}
    {change : ConnectionState → ConnectionState} (view : ConnectionState → β)
    (same : ∀ state, adapter.connections connection = some state →
      view (change state) = view state) (other : Reference) :
    ((adapter.modifyConnection connection change).connections other).map view =
      (adapter.connections other).map view := by
  by_cases here : other = connection
  · rw [here, modifyConnection_self, Option.map_map]
    cases present : adapter.connections connection with
    | none => rfl
    | some state => exact congrArg some (same state present)
  · rw [modifyConnection_of_ne adapter change here]

end SqliteAdapter

/-! ## What the events keep -/

/-- Changes of connections that keep their numbers and revive none. -/
structure Gentle (adapter : SqliteAdapter) (connection : Reference)
    (change : ConnectionState → ConnectionState) : Prop where
  number : ∀ state, adapter.connections connection = some state →
    (change state).databaseId = state.databaseId
  cursors : ∀ state, adapter.connections connection = some state →
    state.nextCursorId ≤ (change state).nextCursorId
  alive : ∀ state, adapter.connections connection = some state → (change state).alive = true →
    state.alive = true

section Kept

variable {adapter : SqliteAdapter} {connection : Reference}
  {change : ConnectionState → ConnectionState}

/-- A change keeps what the number of a connection is. -/
theorem Gentle.number_eq (gentle : Gentle adapter connection change) {other : Reference}
    {after : ConnectionState}
    (found : (adapter.modifyConnection connection change).connections other = some after) :
    ∃ before, adapter.connections other = some before ∧
      after.databaseId = before.databaseId ∧ before.nextCursorId ≤ after.nextCursorId ∧
      (after.alive = true → before.alive = true) := by
  rcases SqliteAdapter.modifyConnection_some found with ⟨before, present, rfl | ⟨rfl, rfl⟩⟩
  · exact ⟨_, present, rfl, le_rfl, id⟩
  · exact ⟨before, present, gentle.number _ present, gentle.cursors _ present,
      gentle.alive _ present⟩

/-- Numbers stay in order when a connection changes. -/
theorem Numbered.modifyConnection (numbered : Numbered adapter)
    (gentle : Gentle adapter connection change) :
    Numbered (adapter.modifyConnection connection change) where
  once := numbered.once
  present := by
    intro other among
    rw [SqliteAdapter.modifyConnection_isSome]
    exact numbered.present other among
  numbered := by
    intro other after among found
    rcases gentle.number_eq found with ⟨before, present, same, -, -⟩
    rw [same]
    exact numbered.numbered other before among present
  next := numbered.next
  made := by
    intro cursor state found
    rcases numbered.made cursor state found with ⟨before, present, below⟩
    have there := SqliteAdapter.modifyConnection_isSome adapter connection state.connection change
    rw [present] at there
    rcases Option.isSome_iff_exists.mp there with ⟨after, here⟩
    rcases gentle.number_eq here with ⟨_, present', -, grows, -⟩
    rw [present] at present'
    cases present'
    exact ⟨after, here, Nat.lt_of_lt_of_le below grows⟩
  apart := numbered.apart

/-- Living connections stay apart when a connection changes. -/
theorem Identified.modifyConnection (identified : Identified adapter)
    (gentle : Gentle adapter connection change) :
    Identified (adapter.modifyConnection connection change) where
  connections := by
    intro first second after after' number found found' alive alive' here there
    rcases gentle.number_eq found with ⟨before, present, same, -, lived⟩
    rcases gentle.number_eq found' with ⟨before', present', same', -, lived'⟩
    exact identified.connections first second before before' number present present'
      (lived alive) (lived' alive') (same ▸ here) (same' ▸ there)
  cursors := identified.cursors

end Kept

section Steps

variable {adapter : SqliteAdapter}

/-- Numbers start in order. -/
theorem numbered_new : Numbered SqliteAdapter.new where
  once := List.nodup_nil
  present := by simp [SqliteAdapter.new]
  numbered := by simp [SqliteAdapter.new]
  next := rfl
  made := by simp [SqliteAdapter.new]
  apart := by simp [SqliteAdapter.new]

/-- There is nothing to tell apart in a new adapter. -/
theorem identified_new : Identified SqliteAdapter.new where
  connections := by simp [SqliteAdapter.new]
  cursors := by simp [SqliteAdapter.new]

/-- An install starts the numbers of connections again. -/
theorem Numbered.install (numbered : Numbered adapter) : Numbered adapter.install := by
  unfold SqliteAdapter.install
  split
  · exact numbered
  · exact
      { once := List.nodup_nil
        present := by simp
        numbered := by simp
        next := rfl
        made := numbered.made
        apart := numbered.apart }

/-- An install changes no number. -/
theorem Identified.install (identified : Identified adapter) : Identified adapter.install := by
  unfold SqliteAdapter.install
  split
  · exact identified
  · exact { connections := identified.connections, cursors := identified.cursors }

/-- A new connection gets the number of its place. -/
theorem Numbered.initializeConnection (numbered : Numbered adapter) (connection : Reference) :
    Numbered (adapter.initializeConnection connection) := by
  unfold SqliteAdapter.initializeConnection
  split
  · exact numbered
  next free =>
    have absent : connection ∉ adapter.opened := fun among =>
      free (numbered.present connection among)
    refine ⟨?_, ?_, ?_, ?_, ?_, numbered.apart⟩
    · exact List.nodup_append.mpr ⟨numbered.once, List.nodup_singleton _,
        fun first among other single same =>
          absent (List.mem_singleton.mp single ▸ same ▸ among)⟩
    · intro other among
      simp only [Function.update_apply]
      split
      · rfl
      next apart =>
        rcases List.mem_append.mp among with before | here
        · exact numbered.present other before
        · exact absurd (List.mem_singleton.mp here) apart
    · intro other state among found
      simp only [Function.update_apply] at found
      split at found
      next same =>
        cases found
        rw [same, List.idxOf_append_of_notMem absent, numbered.next, allocateDatabaseId_eq]
        simp
      next apart =>
        rcases List.mem_append.mp among with before | here
        · rw [List.idxOf_append_of_mem before]
          exact numbered.numbered other state before found
        · exact absurd (List.mem_singleton.mp here) apart
    · simp only [numbered.next, allocateDatabaseId_eq, List.length_append, List.length_singleton]
    · intro cursor state found
      rcases numbered.made cursor state found with ⟨owner, present, below⟩
      refine ⟨owner, ?_, below⟩
      refine (Function.update_of_ne (fun same => ?_) _ _).trans present
      exact free (by rw [← same, present]; rfl)

/-- A new connection has a number that no living connection has. -/
theorem Identified.initializeConnection (identified : Identified adapter)
    (numbered : Numbered adapter) (fresh : FreshNumber adapter) (connection : Reference) :
    Identified (adapter.initializeConnection connection) := by
  unfold SqliteAdapter.initializeConnection
  split
  · exact identified
  next free =>
    have given : ∀ number, (allocateDatabaseId adapter.nextDatabaseId).1 = some number →
        number = adapter.nextDatabaseId := by
      intro number allocated
      unfold allocateDatabaseId at allocated
      split at allocated
      · cases allocated
      · exact (Option.some.inj allocated).symm
    have unused : ∀ other state number, adapter.connections other = some state →
        state.alive = true → state.databaseId = some number →
        (allocateDatabaseId adapter.nextDatabaseId).1 ≠ some number := by
      intro other state number present alive has allocated
      rw [given number allocated] at has
      by_cases among : other ∈ adapter.opened
      · rw [numbered.numbered other state among present, numbered.next] at has
        exact numberAt_ne_next (List.idxOf_lt_length_of_mem among) has
      · exact fresh other state present alive among has
    refine ⟨?_, identified.cursors⟩
    intro first second state state' number found found' alive alive' here there
    simp only [Function.update_apply] at found found'
    split at found <;> split at found'
    next same same' => rw [same, same']
    next same apart =>
      cases found
      exact absurd here (unused second state' number found' alive' there)
    next apart same =>
      cases found'
      exact absurd there (unused first state number found alive here)
    next apart apart' =>
      exact identified.connections first second state state' number found found' alive alive'
        here there

/-- A new cursor has the number that its connection gave, below the counter, and unlike those of
the other cursors. -/
theorem numbered_makeCursor (numbered : Numbered adapter) {connection : Reference}
    (cursor : Reference) {state : ConnectionState} (cursorId : Nat)
    (present : adapter.connections connection = some state) (below : cursorId < state.nextCursorId)
    (unused : ∀ other made, adapter.cursors other = some made → made.connection = connection →
      made.cursorId ≠ cursorId) :
    Numbered { adapter with
      cursors := Function.update adapter.cursors cursor
        (some { connection := connection, cursorId := cursorId }) } where
  once := numbered.once
  present := numbered.present
  numbered := numbered.numbered
  next := numbered.next
  made := by
    intro other made found
    simp only [Function.update_apply] at found
    split at found
    · cases found
      exact ⟨state, present, below⟩
    · exact numbered.made other made found
  apart := by
    intro first second made made' found found' owner same
    simp only [Function.update_apply] at found found'
    split at found <;> split at found'
    next here there => rw [here, there]
    next here apart =>
      cases found
      exact absurd same.symm (unused second made' found' owner.symm)
    next apart here =>
      cases found'
      exact absurd same (unused first made found owner)
    next apart apart' => exact numbered.apart first second made made' found found' owner same

/-- Identities of connections do not depend on cursors. -/
theorem identified_makeCursor (identified : Identified adapter) {next : SqliteAdapter}
    (numbered : Numbered next) (same : next.connections = adapter.connections) :
    Identified next where
  connections := by
    rw [same]
    exact identified.connections
  cursors := numbered.apart

/-- The state after a cursor is made, when the connection gave it a number. -/
def withCursor (adapter : SqliteAdapter) (connection cursor : Reference)
    (given : Nat × ConnectionState) : SqliteAdapter :=
  { adapter.modifyConnection connection fun _ => given.2 with
    cursors := Function.update adapter.cursors cursor
      (some { connection := connection, cursorId := given.1 }) }

/-- A connection gives a new cursor its next number. -/
structure Gives (adapter : SqliteAdapter) (connection cursor : Reference)
    (state : ConnectionState) : Prop where
  free : adapter.cursors cursor = none
  present : adapter.connections connection = some state
  supported : state.unsupported = false
  room : state.nextCursorId ≤ maxCursorsPerDatabase

/-- The number that a connection gives, and its state after it. -/
def given (state : ConnectionState) : Nat × ConnectionState :=
  (state.nextCursorId, { state with nextCursorId := state.nextCursorId + 1 })

/-- What a call does whose connection gives the cursor a number. -/
theorem make_of_gives (base64url : Bytes → Unicode.Text) {caller : Option Nat}
    {connection : Reference} {index : Nat} {state : ConnectionState}
    (gives : Gives adapter connection ⟨caller, index⟩ state) (body : Body) (succeeds : Bool) :
    adapter.make base64url caller connection index body succeeds =
      (request base64url state.databaseId state.nextCursorId body,
        if (request base64url state.databaseId state.nextCursorId body).isSome ∧ succeeds = true
        then withCursor adapter connection ⟨caller, index⟩ (given state)
        else adapter.modifyConnection connection fun _ => (given state).2) := by
  have allocated : allocateCursorId state = some (given state) := by
    rw [allocateCursorId, if_neg (Nat.not_lt.mpr gives.room), given]
  simp only [SqliteAdapter.make, gives.free, gives.present, gives.supported, Option.isSome_none,
    Bool.false_eq_true, if_false, SqliteAdapter.makeSupported, allocated,
    SqliteAdapter.makeNumbered]
  cases asked : request base64url state.databaseId (given state).1 body with
  | none =>
      rw [show state.nextCursorId = (given state).1 from rfl, asked]
      rfl
  | some requested =>
      rw [show state.nextCursorId = (given state).1 from rfl, asked]
      cases succeeds <;> rfl

/-- Other calls that make a cursor do nothing. -/
theorem make_of_not_gives (base64url : Bytes → Unicode.Text) {caller : Option Nat}
    {connection : Reference} {index : Nat}
    (refused : ∀ state, ¬ Gives adapter connection ⟨caller, index⟩ state) (body : Body)
    (succeeds : Bool) :
    adapter.make base64url caller connection index body succeeds = (none, adapter) := by
  unfold SqliteAdapter.make
  split
  · rfl
  next free =>
    cases present : adapter.connections connection with
    | none => rfl
    | some state =>
        simp only
        split
        · rfl
        next supported =>
          have full : maxCursorsPerDatabase < state.nextCursorId := by
            refine Nat.not_le.mp fun room => refused state ⟨?_, present, ?_, room⟩
            · exact Option.not_isSome_iff_eq_none.mp free
            · exact Bool.eq_false_iff.mpr supported
          simp only [SqliteAdapter.makeSupported, allocateCursorId, if_pos full]

/-- What a call that makes a cursor changes. -/
theorem make_cases (base64url : Bytes → Unicode.Text) (adapter : SqliteAdapter)
    (caller : Option Nat) (connection : Reference) (index : Nat) (body : Body) (succeeds : Bool) :
    (adapter.make base64url caller connection index body succeeds).2 = adapter ∨
      ∃ state, Gives adapter connection ⟨caller, index⟩ state ∧
        ((adapter.make base64url caller connection index body succeeds).2 =
            adapter.modifyConnection connection (fun _ => (given state).2) ∨
          (adapter.make base64url caller connection index body succeeds).2 =
            withCursor adapter connection ⟨caller, index⟩ (given state)) := by
  by_cases gives : ∃ state, Gives adapter connection ⟨caller, index⟩ state
  · rcases gives with ⟨state, gives⟩
    rw [make_of_gives base64url gives]
    refine .inr ⟨state, gives, ?_⟩
    split
    · exact .inr rfl
    · exact .inl rfl
  · rw [make_of_not_gives base64url (not_exists.mp gives)]
    exact .inl rfl

/-- A new cursor raises the counter of its connection only. -/
theorem Gives.gentle {connection cursor : Reference} {state : ConnectionState}
    (gives : Gives adapter connection cursor state) :
    Gentle adapter connection fun _ => (given state).2 := by
  constructor <;> intro other found <;> rw [gives.present] at found <;> cases found
  · rfl
  · exact Nat.le_succ _
  · exact id

/-- A call that makes a cursor keeps the numbers in order. -/
theorem numbered_make (base64url : Bytes → Unicode.Text) (numbered : Numbered adapter)
    (caller : Option Nat) (connection : Reference) (index : Nat) (body : Body) (succeeds : Bool) :
    Numbered (adapter.make base64url caller connection index body succeeds).2 := by
  rcases make_cases base64url adapter caller connection index body succeeds with
    same | ⟨state, gives, changed⟩
  · rw [same]
    exact numbered
  have numbered' := numbered.modifyConnection gives.gentle
  rcases changed with changed | changed
  · rw [changed]
    exact numbered'
  rw [changed]
  have here : (adapter.modifyConnection connection fun _ => (given state).2).connections
      connection = some (given state).2 := by
    rw [SqliteAdapter.modifyConnection_self, gives.present, Option.map_some]
  refine numbered_makeCursor numbered' _ _ here (Nat.lt_succ_self state.nextCursorId) ?_
  intro other made found owner
  rcases numbered.made other made found with ⟨holder, held, below⟩
  rw [owner, gives.present] at held
  cases held
  exact below.ne

/-- A call that makes a cursor keeps living connections apart. -/
theorem identified_make (base64url : Bytes → Unicode.Text) (numbered : Numbered adapter)
    (identified : Identified adapter) (caller : Option Nat) (connection : Reference) (index : Nat)
    (body : Body) (succeeds : Bool) :
    Identified (adapter.make base64url caller connection index body succeeds).2 := by
  have numbered' := numbered_make base64url numbered caller connection index body succeeds
  rcases make_cases base64url adapter caller connection index body succeeds with
    same | ⟨state, gives, changed⟩
  · rw [same]
    exact identified
  have identified' := identified.modifyConnection gives.gentle
  rcases changed with changed | changed
  · rw [changed]
    exact identified'
  · exact identified_makeCursor identified' numbered' (by rw [changed]; rfl)

/-- The connections that a process opens get numbers that no living connection has. -/
def Fresh (adapter : SqliteAdapter) : Event → Prop
  | .call _ (.connect _) => FreshNumber adapter
  | _ => True

/-- The application lets a connection go. -/
theorem gentle_drop (connection : Reference) :
    Gentle adapter connection fun state => { state with alive := false } :=
  ⟨fun _ _ => rfl, fun _ _ => le_rfl, fun _ _ alive => nomatch alive⟩

/-- A connection is no longer supported. -/
theorem gentle_spoil (connection : Reference) :
    Gentle adapter connection fun state => { state with unsupported := true } :=
  ⟨fun _ _ => rfl, fun _ _ => le_rfl, fun _ _ alive => alive⟩

/-- Every event keeps the numbers in order. -/
theorem numbered_step (base64url : Bytes → Unicode.Text) (numbered : Numbered adapter)
    (event : Event) : Numbered (adapter.step base64url event).2 := by
  cases event with
  | install => exact numbered.install
  | release =>
      exact ⟨numbered.once, numbered.present, numbered.numbered, numbered.next, numbered.made,
        numbered.apart⟩
  | call caller call =>
      cases call with
      | connect index => exact numbered.initializeConnection _
      | drop connection => exact numbered.modifyConnection (gentle_drop connection)
      | spoil connection => exact numbered.modifyConnection (gentle_spoil connection)
      | make connection index body succeeds =>
          exact numbered_make base64url numbered caller connection index body succeeds
      | use cursor body => exact numbered

/-- Every event keeps living connections apart, when the connections it opens get fresh
numbers. -/
theorem identified_step (base64url : Bytes → Unicode.Text) (numbered : Numbered adapter)
    (identified : Identified adapter) (event : Event) (fresh : Fresh adapter event) :
    Identified (adapter.step base64url event).2 := by
  cases event with
  | install => exact identified.install
  | release => exact ⟨identified.connections, identified.cursors⟩
  | call caller call =>
      cases call with
      | connect index => exact identified.initializeConnection numbered fresh _
      | drop connection => exact identified.modifyConnection (gentle_drop connection)
      | spoil connection => exact identified.modifyConnection (gentle_spoil connection)
      | make connection index body succeeds =>
          exact identified_make base64url numbered identified caller connection index body succeeds
      | use cursor body => exact identified

/-- Numbers are in order after every history. -/
theorem numbered_run (base64url : Bytes → Unicode.Text) (history : List Event)
    (numbered : Numbered adapter) :
    Numbered (Runs.final (SqliteAdapter.step base64url) adapter history) :=
  Runs.final_preserves Numbered
    (fun _ event numbered (_ : True) => numbered_step base64url numbered event) history numbered
    fun _ _ => trivial

/-- Living connections have different numbers after every history whose connections get fresh
ones, and so have the cursors of a connection. -/
theorem identified_run (base64url : Bytes → Unicode.Text) (history : List Event)
    (fresh : ∀ entry ∈ Runs.answered (SqliteAdapter.step base64url) .new history,
      Fresh entry.before entry.call) :
    Identified (Runs.final (SqliteAdapter.step base64url) .new history) :=
  (Runs.final_preserves (fun adapter => Numbered adapter ∧ Identified adapter)
    (fun _ event kept fresh => ⟨numbered_step base64url kept.1 event,
      identified_step base64url kept.1 kept.2 event fresh⟩) history
    ⟨numbered_new, identified_new⟩ fresh).2

end Steps
end Python
end Sqlite
end ReproItSdk
