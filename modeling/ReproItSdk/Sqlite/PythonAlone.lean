import Mathlib.Data.List.Induction
import Mathlib.Data.List.ReduceOption
import ReproItSdk.Sqlite.Python

/-! # An operation alone in a fresh process

The requests of an operation are compared with those it makes in a fresh process that opens the
connections that were opened before it.  They are the same where the numbers that the operation
gets were not moved by other operations.

Main results:

- Theorem {lit}`related_other`: events of others keep what the two processes have in common.
- Theorem {lit}`related_own`: the operation's own calls keep it, and ask for the same.
- Theorem {lit}`emitted_alone`: an undisturbed operation asks for the same in a fresh process.
-/

namespace ReproItSdk
namespace Sqlite
namespace Python

/-! ## Both processes -/

/-- Whether an event is a call of an operation. -/
def Event.madeBy (operation : Nat) : Event → Bool
  | .call caller _ => caller = some operation
  | _ => false

section Alone

variable (base64url : Bytes → Unicode.Text) (operation : Nat)

/-- The requests that an operation makes in a process. -/
def emitted (adapter : SqliteAdapter) (history : List Event) : List DependencyRequest :=
  (Runs.repliesTo (Event.madeBy operation)
    (Runs.answered (SqliteAdapter.step base64url) adapter history)).reduceOption

/-- The adapter when an operation makes its first call. -/
def atStart (history : List Event) : SqliteAdapter :=
  Runs.final (SqliteAdapter.step base64url) .new (Runs.earlier (Event.madeBy operation) history)

/-- Opening of connections. -/
def opening (connections : List Reference) : List Event :=
  connections.map fun connection => .call connection.caller (.connect connection.index)

/-- A fresh process that installs the adapter and opens connections. -/
def freshProcess (connections : List Reference) : SqliteAdapter :=
  Runs.final (SqliteAdapter.step base64url) .new (.install :: opening connections)

/-- The requests that an operation makes in a fresh process that opens the connections that were
opened before it under the same install. -/
def emittedAlone (history : List Event) : List DependencyRequest :=
  emitted base64url operation (freshProcess base64url (atStart base64url operation history).opened)
    (history.filter (Event.madeBy operation))

/-- A connection was opened by the operation or before it under the same install, and nobody else
has made the adapter give it up. -/
structure Steady (start : SqliteAdapter) (done : List Event) (connection : Reference) : Prop where
  opened : ∀ state, start.connections connection = some state →
    connection ∈ start.opened ∧ state.unsupported = false
  own : start.connections connection = none → connection.caller = some operation
  supported : ∀ caller, .call caller (.spoil connection) ∈ done → caller = some operation

/-- A connection whose cursors were all made by the operation. -/
structure Reserved (start : SqliteAdapter) (done : List Event) (connection : Reference) : Prop
    extends Steady operation start done connection where
  unused : ∀ state, start.connections connection = some state → state.nextCursorId = 1
  cursors : ∀ caller index body succeeds,
    .call caller (.make connection index body succeeds) ∈ done → caller = some operation

/-- Since the operation began, nobody else opened a connection and the adapter was not installed
again. -/
structure Counting (done : List Event) : Prop where
  installed : .install ∉ done
  own : ∀ caller index, .call caller (.connect index) ∈ done → caller = some operation

/-- When a call of an operation does not meet what others did. -/
def Undisturbed (start : SqliteAdapter) (done : List Event) (adapter : SqliteAdapter) :
    Event → Prop
  | .call _ (.connect _) => Counting operation done
  | .call _ (.make connection _ _ _) => Reserved operation start done connection
  | .call _ (.use cursor _) => cursor.caller = some operation ∧
      ∀ state, adapter.cursors cursor = some state → Steady operation start done state.connection
  | _ => True

/-- What a process with other operations has in common with the process of the operation alone. -/
structure Related (start : SqliteAdapter) (done : List Event) (adapter alone : SqliteAdapter) :
    Prop where
  steady : ∀ connection, Steady operation start done connection →
    (adapter.connections connection).map (fun state => (state.databaseId, state.unsupported)) =
      (alone.connections connection).map fun state => (state.databaseId, state.unsupported)
  reserved : ∀ connection, Reserved operation start done connection →
    (adapter.connections connection).map ConnectionState.nextCursorId =
      (alone.connections connection).map ConnectionState.nextCursorId
  present : ∀ index, (adapter.connections ⟨some operation, index⟩).isSome =
    (alone.connections ⟨some operation, index⟩).isSome
  cursors : ∀ index, adapter.cursors ⟨some operation, index⟩ =
    alone.cursors ⟨some operation, index⟩
  kept : ∀ connection, (start.connections connection).isSome →
    (adapter.connections connection).isSome
  next : Counting operation done → adapter.nextDatabaseId = alone.nextDatabaseId

variable {base64url operation} {start adapter alone next : SqliteAdapter} {done : List Event}
  {event : Event}

/-- A connection that is steady after an event was so before. -/
theorem Steady.before {connection : Reference}
    (steady : Steady operation start (done ++ [event]) connection) :
    Steady operation start done connection :=
  ⟨steady.opened, steady.own, fun caller among =>
    steady.supported caller (List.mem_append_left _ among)⟩

/-- A connection that is reserved after an event was so before. -/
theorem Reserved.before {connection : Reference}
    (reserved : Reserved operation start (done ++ [event]) connection) :
    Reserved operation start done connection :=
  ⟨reserved.toSteady.before, reserved.unused, fun caller index body succeeds among =>
    reserved.cursors caller index body succeeds (List.mem_append_left _ among)⟩

/-- Counting goes back to the beginning. -/
theorem Counting.before (counting : Counting operation (done ++ [event])) :
    Counting operation done :=
  ⟨fun among => counting.installed (List.mem_append_left _ among), fun caller index among =>
    counting.own caller index (List.mem_append_left _ among)⟩

/-- What both processes have in common stays when an event leaves it as it is in the first. -/
theorem Related.moved (related : Related operation start done adapter alone)
    (steady : ∀ connection, Steady operation start (done ++ [event]) connection →
      (next.connections connection).map (fun state => (state.databaseId, state.unsupported)) =
        (adapter.connections connection).map fun state => (state.databaseId, state.unsupported))
    (reserved : ∀ connection, Reserved operation start (done ++ [event]) connection →
      (next.connections connection).map ConnectionState.nextCursorId =
        (adapter.connections connection).map ConnectionState.nextCursorId)
    (present : ∀ connection, (adapter.connections connection).isSome →
      (next.connections connection).isSome)
    (own : ∀ index, (next.connections ⟨some operation, index⟩).isSome →
      (adapter.connections ⟨some operation, index⟩).isSome)
    (cursors : ∀ index, next.cursors ⟨some operation, index⟩ =
      adapter.cursors ⟨some operation, index⟩)
    (counted : Counting operation (done ++ [event]) →
      next.nextDatabaseId = adapter.nextDatabaseId) :
    Related operation start (done ++ [event]) next alone where
  steady connection still := (steady connection still).trans (related.steady _ still.before)
  reserved connection still := (reserved connection still).trans (related.reserved _ still.before)
  present index :=
    (Bool.eq_iff_iff.mpr ⟨own index, present _⟩).trans (related.present index)
  cursors index := (cursors index).trans (related.cursors index)
  kept connection there := present connection (related.kept connection there)
  next counting := (counted counting).trans (related.next counting.before)

/-- Events of others that touch no connection keep what both processes have in common. -/
theorem Related.untouched (related : Related operation start done adapter alone)
    (connections : next.connections = adapter.connections)
    (cursors : next.cursors = adapter.cursors)
    (counted : Counting operation (done ++ [event]) →
      next.nextDatabaseId = adapter.nextDatabaseId) :
    Related operation start (done ++ [event]) next alone :=
  related.moved (fun _ _ => by rw [connections]) (fun _ _ => by rw [connections])
    (fun _ there => by rw [connections]; exact there)
    (fun _ there => by rw [← connections]; exact there) (fun _ => by rw [cursors]) counted

/-- A connection that somebody else opens is not the operation's. -/
theorem related_connect (related : Related operation start done adapter alone)
    {caller : Option Nat} {index : Nat} (foreign : caller ≠ some operation) :
    Related operation start (done ++ [.call caller (.connect index)])
      (adapter.initializeConnection ⟨caller, index⟩) alone := by
  have counted : ¬ Counting operation (done ++ [.call caller (.connect index)]) := fun counting =>
    foreign (counting.own caller index (List.mem_append_right _ (List.mem_singleton_self _)))
  by_cases taken : (adapter.connections ⟨caller, index⟩).isSome
  · rw [SqliteAdapter.initializeConnection, if_pos taken]
    exact related.untouched rfl rfl fun counting => absurd counting counted
  have unopened : start.connections ⟨caller, index⟩ = none :=
    Option.not_isSome_iff_eq_none.mp fun there => taken (related.kept _ there)
  have apart : ∀ connection,
      Steady operation start (done ++ [.call caller (.connect index)]) connection →
        connection ≠ ⟨caller, index⟩ := by
    rintro connection steady rfl
    exact foreign (steady.own unopened)
  rw [SqliteAdapter.initializeConnection, if_neg taken]
  refine related.moved ?_ ?_ ?_ ?_ (fun _ => rfl) fun counting => absurd counting counted
  · intro connection steady
    simp only [Function.update_of_ne (apart connection steady)]
  · intro connection reserved
    simp only [Function.update_of_ne (apart connection reserved.toSteady)]
  · intro connection there
    simp only [Function.update_apply]
    split
    · rfl
    · exact there
  · intro own there
    have apart' : (⟨some operation, own⟩ : Reference) ≠ ⟨caller, index⟩ := fun same =>
      foreign (congrArg Reference.caller same).symm
    simpa only [Function.update_of_ne apart'] using there

/-- A change of a connection by somebody else. -/
theorem related_modify (related : Related operation start done adapter alone)
    {connection : Reference} {change : ConnectionState → ConnectionState}
    (steady : Steady operation start (done ++ [event]) connection →
      ∀ state, adapter.connections connection = some state →
        ((change state).databaseId, (change state).unsupported) =
          (state.databaseId, state.unsupported))
    (reserved : Reserved operation start (done ++ [event]) connection →
      ∀ state, adapter.connections connection = some state →
        (change state).nextCursorId = state.nextCursorId) :
    Related operation start (done ++ [event]) (adapter.modifyConnection connection change)
      alone := by
  refine related.moved ?_ ?_ ?_ ?_ (fun _ => rfl) fun _ => rfl
  · intro other still
    by_cases here : other = connection
    · subst here
      exact SqliteAdapter.modifyConnection_map adapter
        (fun state => (state.databaseId, state.unsupported)) (steady still) other
    · rw [SqliteAdapter.modifyConnection_of_ne adapter change here]
  · intro other still
    by_cases here : other = connection
    · subst here
      exact SqliteAdapter.modifyConnection_map adapter ConnectionState.nextCursorId
        (reserved still) other
    · rw [SqliteAdapter.modifyConnection_of_ne adapter change here]
  · intro other there
    rwa [SqliteAdapter.modifyConnection_isSome]
  · intro own there
    rwa [SqliteAdapter.modifyConnection_isSome] at there

/-- A cursor that somebody else makes. -/
theorem related_make (related : Related operation start done adapter alone)
    {caller : Option Nat} (foreign : caller ≠ some operation) (connection : Reference)
    (index : Nat) (body : Body) (succeeds : Bool) :
    Related operation start
      (done ++ [.call caller (.make connection index body succeeds)])
      (adapter.make base64url caller connection index body succeeds).2 alone := by
  rcases make_cases base64url adapter caller connection index body succeeds with
    same | ⟨state, gives, changed⟩
  · rw [same]
    exact related.untouched rfl rfl fun _ => rfl
  have modified : Related operation start
      (done ++ [.call caller (.make connection index body succeeds)])
      (adapter.modifyConnection connection fun _ => (given state).2) alone := by
    refine related_modify related (fun _ other found => ?_) fun reserved => ?_
    · rw [gives.present] at found
      cases found
      rfl
    · exact absurd (reserved.cursors caller index body succeeds
        (List.mem_append_right _ (List.mem_singleton_self _))) foreign
  rcases changed with changed | changed
  · rw [changed]
    exact modified
  · rw [changed]
    refine ⟨modified.steady, modified.reserved, modified.present, fun own => ?_, modified.kept,
      modified.next⟩
    have apart : (⟨some operation, own⟩ : Reference) ≠ ⟨caller, index⟩ := fun same =>
      foreign (congrArg Reference.caller same).symm
    exact (Function.update_of_ne apart _ _).trans (modified.cursors own)

/-- Every event of others keeps what both processes have in common. -/
theorem related_other (related : Related operation start done adapter alone)
    (others : event.madeBy operation = false) :
    Related operation start (done ++ [event]) (adapter.step base64url event).2 alone := by
  cases event with
  | install =>
      have reset : ¬ Counting operation (done ++ [.install]) := fun counting =>
        counting.installed (List.mem_append_right _ (List.mem_singleton_self _))
      refine related.untouched ?_ ?_ fun counting => absurd counting reset
      all_goals
        simp only [SqliteAdapter.step, SqliteAdapter.install]
        split <;> rfl
  | release => exact related.untouched rfl rfl fun _ => rfl
  | call caller call =>
      have foreign : caller ≠ some operation := of_decide_eq_false others
      cases call with
      | connect index => exact related_connect related foreign
      | drop connection => exact related_modify related (fun _ _ _ => rfl) fun _ _ _ => rfl
      | spoil connection =>
          refine related_modify related (fun steady => ?_) fun _ _ _ => rfl
          exact absurd (steady.supported caller
            (List.mem_append_right _ (List.mem_singleton_self _))) foreign
      | make connection index body succeeds =>
          exact related_make related foreign connection index body succeeds
      | use cursor body => exact related.untouched rfl rfl fun _ => rfl

/-- What both processes have in common stays when nothing happens. -/
theorem Related.stays (related : Related operation start done adapter alone) :
    Related operation start (done ++ [event]) adapter alone :=
  related.untouched rfl rfl fun _ => rfl

/-- A connection that the operation opens gets the same number in both processes. -/
theorem related_connect_own (related : Related operation start done adapter alone) (index : Nat)
    (counting : Counting operation done) :
    Related operation start (done ++ [event])
      (adapter.initializeConnection ⟨some operation, index⟩)
      (alone.initializeConnection ⟨some operation, index⟩) := by
  have present := related.present index
  by_cases taken : (adapter.connections ⟨some operation, index⟩).isSome
  · rw [SqliteAdapter.initializeConnection, if_pos taken, SqliteAdapter.initializeConnection,
      if_pos (present ▸ taken)]
    exact related.stays
  have untaken : ¬ (alone.connections ⟨some operation, index⟩).isSome = true := present ▸ taken
  rw [SqliteAdapter.initializeConnection, if_neg taken, SqliteAdapter.initializeConnection,
    if_neg untaken, related.next counting]
  refine ⟨?_, ?_, ?_, related.cursors, ?_, fun _ => rfl⟩
  · intro connection still
    simp only [Function.update_apply]
    split
    · rfl
    · exact related.steady connection still.before
  · intro connection still
    simp only [Function.update_apply]
    split
    · rfl
    · exact related.reserved connection still.before
  · intro own
    simp only [Function.update_apply]
    split
    · rfl
    · exact related.present own
  · intro connection there
    simp only [Function.update_apply]
    split
    · rfl
    · exact related.kept connection there

/-- What a steady connection shows in both processes. -/
theorem Related.steady_cases (related : Related operation start done adapter alone)
    {connection : Reference} (steady : Steady operation start done connection) :
    (adapter.connections connection = none ∧ alone.connections connection = none) ∨
      ∃ state state', adapter.connections connection = some state ∧
        alone.connections connection = some state' ∧ state.databaseId = state'.databaseId ∧
        state.unsupported = state'.unsupported := by
  have same := related.steady connection steady
  cases here : adapter.connections connection <;> cases there : alone.connections connection <;>
    simp only [here, there, Option.map_none, Option.map_some, reduceCtorEq, Option.some.injEq,
      Prod.mk.injEq] at same
  · exact .inl ⟨rfl, rfl⟩
  · exact .inr ⟨_, _, rfl, rfl, same⟩

/-- Changes of one connection by the operation, in both processes. -/
theorem related_modify_own (related : Related operation start done adapter alone)
    {connection : Reference} {change change' : ConnectionState → ConnectionState}
    (steady : Steady operation start done connection →
      ((adapter.connections connection).map change).map
          (fun state => (state.databaseId, state.unsupported)) =
        ((alone.connections connection).map change').map fun state =>
          (state.databaseId, state.unsupported))
    (reserved : Reserved operation start done connection →
      ((adapter.connections connection).map change).map ConnectionState.nextCursorId =
        ((alone.connections connection).map change').map ConnectionState.nextCursorId) :
    Related operation start (done ++ [event]) (adapter.modifyConnection connection change)
      (alone.modifyConnection connection change') where
  steady other still := by
    by_cases here : other = connection
    · rw [here, SqliteAdapter.modifyConnection_self, SqliteAdapter.modifyConnection_self]
      exact steady (here ▸ still.before)
    · rw [SqliteAdapter.modifyConnection_of_ne _ _ here,
        SqliteAdapter.modifyConnection_of_ne _ _ here]
      exact related.steady other still.before
  reserved other still := by
    by_cases here : other = connection
    · rw [here, SqliteAdapter.modifyConnection_self, SqliteAdapter.modifyConnection_self]
      exact reserved (here ▸ still.before)
    · rw [SqliteAdapter.modifyConnection_of_ne _ _ here,
        SqliteAdapter.modifyConnection_of_ne _ _ here]
      exact related.reserved other still.before
  present index := by
    rw [SqliteAdapter.modifyConnection_isSome, SqliteAdapter.modifyConnection_isSome]
    exact related.present index
  cursors := related.cursors
  kept other there := by
    rw [SqliteAdapter.modifyConnection_isSome]
    exact related.kept other there
  next counting := related.next counting.before

/-- A cursor that the operation makes gets the same number in both processes. -/
theorem related_make_own (related : Related operation start done adapter alone)
    {connection : Reference} (reserved : Reserved operation start done connection) (index : Nat)
    (body : Body) (succeeds : Bool) :
    (adapter.make base64url (some operation) connection index body succeeds).1 =
        (alone.make base64url (some operation) connection index body succeeds).1 ∧
      Related operation start (done ++ [event])
        (adapter.make base64url (some operation) connection index body succeeds).2
        (alone.make base64url (some operation) connection index body succeeds).2 := by
  have cursor := related.cursors index
  rcases related.steady_cases reserved.toSteady with
    ⟨absent, absent'⟩ | ⟨state, state', present, present', number, supported⟩
  · have refused : ∀ state, ¬ Gives adapter connection ⟨some operation, index⟩ state :=
      fun _ gives => nomatch absent.symm.trans gives.present
    have refused' : ∀ state, ¬ Gives alone connection ⟨some operation, index⟩ state :=
      fun _ gives => nomatch absent'.symm.trans gives.present
    rw [make_of_not_gives base64url refused, make_of_not_gives base64url refused']
    exact ⟨rfl, related.stays⟩
  have counter : state.nextCursorId = state'.nextCursorId := by
    have same := related.reserved connection reserved
    rwa [present, present', Option.map_some, Option.map_some, Option.some.injEq] at same
  by_cases gives : Gives adapter connection ⟨some operation, index⟩ state
  · have gives' : Gives alone connection ⟨some operation, index⟩ state' :=
      ⟨cursor ▸ gives.free, present', supported ▸ gives.supported, counter ▸ gives.room⟩
    rw [make_of_gives base64url gives, make_of_gives base64url gives', number, counter]
    refine ⟨rfl, ?_⟩
    have modified : Related operation start (done ++ [event])
        (adapter.modifyConnection connection fun _ => (given state).2)
        (alone.modifyConnection connection fun _ => (given state').2) := by
      refine related_modify_own related (fun _ => ?_) fun _ => ?_ <;>
        rw [present, present'] <;> simp [given, number, supported, counter]
    simp only
    split
    · refine ⟨modified.steady, modified.reserved, modified.present, fun own => ?_, modified.kept,
        modified.next⟩
      simp only [withCursor, Function.update_apply, given, counter]
      split
      · rfl
      · exact related.cursors own
    · exact modified
  · have refused : ∀ other, ¬ Gives adapter connection ⟨some operation, index⟩ other := by
      intro other gives'
      have same := gives'.present
      rw [present] at same
      cases same
      exact gives gives'
    have refused' : ∀ other, ¬ Gives alone connection ⟨some operation, index⟩ other := by
      intro other gives'
      have same := gives'.present
      rw [present'] at same
      cases same
      exact gives ⟨cursor ▸ gives'.free, present, supported ▸ gives'.supported,
        counter ▸ gives'.room⟩
    rw [make_of_not_gives base64url refused, make_of_not_gives base64url refused']
    exact ⟨rfl, related.stays⟩

/-- A call on a cursor of the operation asks for the same in both processes. -/
theorem use_own (related : Related operation start done adapter alone) {cursor : Reference}
    (own : cursor.caller = some operation)
    (steady : ∀ state, adapter.cursors cursor = some state →
      Steady operation start done state.connection) (body : Body) :
    adapter.use base64url cursor body = alone.use base64url cursor body := by
  have same : adapter.cursors cursor = alone.cursors cursor := by
    have := related.cursors cursor.index
    rwa [← own] at this
  unfold SqliteAdapter.use
  rw [← same]
  cases found : adapter.cursors cursor with
  | none => rfl
  | some state =>
      rcases related.steady_cases (steady state found) with
        ⟨absent, absent'⟩ | ⟨first, second, present, present', number, supported⟩
      · simp only [Option.bind_eq_bind, Option.bind_some, absent, absent']
      · simp only [Option.bind_eq_bind, Option.bind_some, present, present', number, supported]

/-- The operation's own calls ask for the same in both processes, where nobody moves the numbers
that they get. -/
theorem related_own (related : Related operation start done adapter alone)
    (mine : event.madeBy operation = true)
    (undisturbed : Undisturbed operation start done adapter event) :
    (adapter.step base64url event).1 = (alone.step base64url event).1 ∧
      Related operation start (done ++ [event]) (adapter.step base64url event).2
        (alone.step base64url event).2 := by
  cases event with
  | install => cases mine
  | release => cases mine
  | call caller call =>
      have own : caller = some operation := of_decide_eq_true mine
      subst own
      cases call with
      | connect index => exact ⟨rfl, related_connect_own related index undisturbed⟩
      | drop connection =>
          refine ⟨rfl, related_modify_own related (fun steady => ?_) fun reserved => ?_⟩
          · rw [Option.map_map, Option.map_map]
            exact related.steady connection steady
          · rw [Option.map_map, Option.map_map]
            exact related.reserved connection reserved
      | spoil connection =>
          refine ⟨rfl, related_modify_own related (fun steady => ?_) fun reserved => ?_⟩
          · rcases related.steady_cases steady with
              ⟨absent, absent'⟩ | ⟨state, state', present, present', number, -⟩
            · rw [absent, absent']
            · rw [present, present']
              simp [number]
          · rw [Option.map_map, Option.map_map]
            exact related.reserved connection reserved
      | make connection index body succeeds =>
          exact related_make_own related undisturbed index body succeeds
      | use cursor body =>
          exact ⟨use_own related undisturbed.1 undisturbed.2 body, related.stays⟩

/-! ## The beginning -/

/-- Nothing belongs to an operation that has made no call. -/
structure Unmet (operation : Nat) (adapter : SqliteAdapter) : Prop where
  connections : ∀ index, adapter.connections ⟨some operation, index⟩ = none
  cursors : ∀ index, adapter.cursors ⟨some operation, index⟩ = none

/-- Calls of others make nothing for an operation. -/
theorem Unmet.step (unmet : Unmet operation adapter) (event : Event)
    (others : event.madeBy operation = false) :
    Unmet operation (adapter.step base64url event).2 := by
  have modified : ∀ connection change,
      Unmet operation (adapter.modifyConnection connection change) := by
    refine fun connection change => ⟨fun index => ?_, unmet.cursors⟩
    rw [← Option.not_isSome_iff_eq_none, SqliteAdapter.modifyConnection_isSome,
      unmet.connections index]
    exact Bool.false_ne_true
  cases event with
  | install =>
      simp only [SqliteAdapter.step, SqliteAdapter.install]
      split
      · exact unmet
      · exact ⟨unmet.connections, unmet.cursors⟩
  | release => exact ⟨unmet.connections, unmet.cursors⟩
  | call caller call =>
      have foreign : caller ≠ some operation := of_decide_eq_false others
      have apart : ∀ own index, (⟨some operation, own⟩ : Reference) ≠ ⟨caller, index⟩ :=
        fun own index same => foreign (congrArg Reference.caller same).symm
      cases call with
      | connect index =>
          simp only [SqliteAdapter.step, SqliteAdapter.perform,
            SqliteAdapter.initializeConnection]
          split
          · exact unmet
          · exact ⟨fun own => (Function.update_of_ne (apart own index) _ _).trans
              (unmet.connections own), unmet.cursors⟩
      | drop connection => exact modified connection _
      | spoil connection => exact modified connection _
      | make connection index body succeeds =>
          simp only [SqliteAdapter.step, SqliteAdapter.perform]
          rcases make_cases base64url adapter caller connection index body succeeds with
            same | ⟨state, gives, changed | changed⟩
          · rw [same]
            exact unmet
          · rw [changed]
            exact modified connection _
          · rw [changed]
            exact ⟨(modified connection _).connections, fun own =>
              (Function.update_of_ne (apart own index) _ _).trans (unmet.cursors own)⟩
      | use cursor body => exact unmet

variable (base64url)

/-- A fresh process that has opened connections, as far as numbers go. -/
theorem freshProcess_spec {connections : List Reference} (once : connections.Nodup) :
    (freshProcess base64url connections).opened = connections ∧
      (freshProcess base64url connections).nextDatabaseId =
        min connections.length maxDatabases + 1 ∧
      (freshProcess base64url connections).cursors = (fun _ => none) ∧
      ∀ connection, (freshProcess base64url connections).connections connection =
        if connection ∈ connections
        then some { databaseId := numberAt (connections.idxOf connection) } else none := by
  induction connections using List.reverseRecOn with
  | nil =>
      refine ⟨rfl, rfl, rfl, fun connection => ?_⟩
      rw [if_neg (List.not_mem_nil)]
      rfl
  | append_singleton front last ih =>
      rcases ih (List.Nodup.of_append_left once) with ⟨opened, counter, cursors, states⟩
      have absent : last ∉ front := fun among =>
        (List.nodup_append.mp once).2.2 last among last (List.mem_singleton_self _) rfl
      have stepped : freshProcess base64url (front ++ [last]) =
          (freshProcess base64url front).initializeConnection last := by
        unfold freshProcess opening
        rw [List.map_append, ← List.cons_append, Runs.final_append]
        rfl
      have free : ¬ ((freshProcess base64url front).connections last).isSome = true := by
        rw [states, if_neg absent]
        exact Bool.false_ne_true
      rw [stepped, SqliteAdapter.initializeConnection, if_neg free]
      simp only [opened, counter, cursors, allocateDatabaseId_eq, List.length_append,
        List.length_singleton, true_and]
      intro connection
      simp only [Function.update_apply]
      by_cases here : connection = last
      · rw [if_pos here, if_pos (by simp [here]), here, List.idxOf_append_of_notMem absent]
        simp
      · rw [if_neg here, states]
        by_cases among : connection ∈ front
        · rw [if_pos among, if_pos (List.mem_append_left _ among),
            List.idxOf_append_of_mem among]
        · rw [if_neg among, if_neg (by simp [among, here])]

/-- The two processes have everything in common when the operation begins. -/
theorem related_start (numbered : Numbered start) (unmet : Unmet operation start) :
    Related operation start [] start (freshProcess base64url start.opened) := by
  rcases freshProcess_spec base64url numbered.once with
    ⟨-, counter, cursors, states⟩
  have unopened : ∀ connection, start.connections connection = none →
      connection ∉ start.opened := by
    intro connection absent among
    have := numbered.present connection among
    rw [absent] at this
    cases this
  refine ⟨?_, ?_, ?_, ?_, fun _ => id, fun _ => numbered.next.trans counter.symm⟩
  · intro connection steady
    cases found : start.connections connection with
    | none => rw [states, if_neg (unopened connection found)]
    | some state =>
        rcases steady.opened state found with ⟨among, supported⟩
        rw [states, if_pos among]
        simp [numbered.numbered connection state among found, supported]
  · intro connection reserved
    cases found : start.connections connection with
    | none => rw [states, if_neg (unopened connection found)]
    | some state =>
        rw [states, if_pos (reserved.opened state found).1]
        simp [reserved.unused state found]
  · intro index
    rw [states, if_neg (unopened _ (unmet.connections index)), unmet.connections index]
  · intro index
    rw [unmet.cursors index, cursors]

/-- An operation whose numbers nobody else moves asks for the same in a fresh process that opens
the connections that were opened before it. -/
theorem emitted_alone (history : List Event)
    (undisturbed : ∀ done event later,
      Runs.during (Event.madeBy operation) history = done ++ event :: later →
      event.madeBy operation = true →
      Undisturbed operation (atStart base64url operation history) done
        (Runs.final (SqliteAdapter.step base64url) (atStart base64url operation history) done)
        event) :
    emitted base64url operation .new history = emittedAlone base64url operation history := by
  have unmet : Unmet operation (atStart base64url operation history) :=
    Runs.final_preserves (Unmet operation)
      (fun _ event unmet (met : event.madeBy operation = false) => unmet.step event met)
      (Runs.earlier (Event.madeBy operation) history) ⟨fun _ => rfl, fun _ => rfl⟩
      fun entry among => Runs.earlier_others (Runs.call_mem_of_answered among)
  have start := related_start base64url
    (numbered_run base64url (Runs.earlier (Event.madeBy operation) history) numbered_new) unmet
  exact congrArg List.reduceOption (Runs.repliesTo_history
    (fun done adapter alone event related mine
        (met : Undisturbed operation (atStart base64url operation history) done adapter event) =>
      related_own related mine met)
    (fun _ _ _ _ related others => related_other related others) history start undisturbed)

end Alone
end Python
end Sqlite
end ReproItSdk
