import ReproItSdk.Core.Model
import ReproItSdk.Library.Patches

/-! # Hook leases of the Python SDK

The first open project replaces functions of the standard library, one attribute after another, and
publishes the adapters; the close of the last project puts everything back.  An installation that
fails on the way is taken back.

Main definitions:

- Functions {lit}`acquireAutomaticAdapters` and {lit}`releaseAutomaticAdapters`.
- Inductive {lit}`Event`: what happens in a process that uses the SDK.

Main results:

- Theorem {lit}`acquire_again`: when an acquire after the last release succeeds.
-/

namespace ReproItSdk
namespace PythonHooks

open Patches

/-! ## Attributes -/

/-- The modules that hold the SQLite functions. -/
inductive SqliteModule where
  | sqlite3
  | dbapi2
  | native
deriving DecidableEq, Repr

/-- The attributes of the standard library that the adapters replace. -/
inductive Attribute where
  | timeNs
  | time
  | clock (name : String)
  | urandom
  | getrandom
  | randomUrandom
  | pread
  | osRead
  | osOpen
  | builtinsOpen
  | ioOpen
  | environmentGet
  | environmentIter
  | environmentLen
  | connect (owner : SqliteModule)
  | connection (owner : SqliteModule)
  | urlopen
  | openerOpen
  | redirectRequest
  | proxyOpen
  | responseRead
  | responseClose
  | responseIsclosed
  | responseClosed
  | responseMethod (name : String)
deriving DecidableEq, Repr

/-- The hooks of the adapters. -/
inductive Hook where
  | timeNs
  | unsupportedTime
  | clock (name : String)
  | urandom
  | unsupportedGetrandom
  | pread
  | unsupportedOsRead
  | unsupportedOsOpen
  | unsupportedOpen
  | unsupportedIoOpen
  | environmentGet
  | unsupportedEnvironmentIter
  | unsupportedEnvironmentLen
  | connect
  | managedConnection
  | urlopen
  | openerOpen
  | redirectRequest
  | proxyOpen
  | responseRead
  | responseClose
  | responseIsclosed
  | responseClosed
  | unsupportedResponse (name : String)
deriving DecidableEq, Repr

/-- The hook that replaces an attribute. -/
def hookOf : Attribute → Hook
  | .timeNs => .timeNs
  | .time => .unsupportedTime
  | .clock name => .clock name
  | .urandom => .urandom
  | .getrandom => .unsupportedGetrandom
  | .randomUrandom => .urandom
  | .pread => .pread
  | .osRead => .unsupportedOsRead
  | .osOpen => .unsupportedOsOpen
  | .builtinsOpen => .unsupportedOpen
  | .ioOpen => .unsupportedIoOpen
  | .environmentGet => .environmentGet
  | .environmentIter => .unsupportedEnvironmentIter
  | .environmentLen => .unsupportedEnvironmentLen
  | .connect _ => .connect
  | .connection _ => .managedConnection
  | .urlopen => .urlopen
  | .openerOpen => .openerOpen
  | .redirectRequest => .redirectRequest
  | .proxyOpen => .proxyOpen
  | .responseRead => .responseRead
  | .responseClose => .responseClose
  | .responseIsclosed => .responseIsclosed
  | .responseClosed => .responseClosed
  | .responseMethod name => .unsupportedResponse name

/-- An object of the standard library or of the application, and whether it is a property. -/
structure Foreign where
  identity : Nat
  property : Bool
deriving DecidableEq, Repr

/-- The value of an attribute. -/
inductive Object where
  | hook (function : Hook)
  | foreign (value : Foreign)
deriving DecidableEq, Repr

/-- {lit}`isinstance(value, property)`. -/
def Object.isProperty : Object → Bool
  | .hook function => function == .responseClosed
  | .foreign value => value.property

/-- {lit}`_UNSUPPORTED_CLOCK_NAMES`. -/
def unsupportedClockNames : List String :=
  ["monotonic", "monotonic_ns", "perf_counter", "perf_counter_ns", "process_time",
    "process_time_ns", "thread_time", "thread_time_ns", "clock_gettime", "clock_gettime_ns"]

/-- The names of {lit}`_ORIGINAL_RESPONSE_METHODS`. -/
def responseMethodNames : List String :=
  ["detach", "fileno", "flush", "peek", "read1", "readable", "readinto", "readinto1", "readline",
    "readlines", "seek", "seekable", "tell", "truncate", "writable", "write", "writelines"]

/-- The standard library as the adapters found it when they were imported. -/
structure Platform where
  original : Attribute → Foreign
  clocks : String → Bool
  getrandom : Bool
  pread : Bool
  responseMethods : String → Bool
  implementationDigest : Option String

namespace Platform

variable (platform : Platform)

/-- The standard library has an attribute. -/
def has : Attribute → Bool
  | .clock name => platform.clocks name
  | .getrandom => platform.getrandom
  | .pread => platform.pread
  | .responseMethod name => platform.responseMethods name
  | _ => true

/-- The original value of an attribute. -/
def value (target : Attribute) : Option Object :=
  if platform.has target then some (.foreign (platform.original target)) else none

/-- The names of {lit}`_CLOCK_ORIGINALS`. -/
def clockAttributes : List Attribute :=
  (unsupportedClockNames.filter platform.clocks).map .clock

/-- The attributes that {lit}`_hooks_are_original` looks at itself. -/
def runtimeChecks : List Attribute :=
  [.timeNs, .time] ++ platform.clockAttributes ++
    [.urandom, .getrandom, .randomUrandom, .pread, .osRead, .osOpen, .builtinsOpen, .ioOpen,
      .environmentGet, .environmentIter, .environmentLen]

/-- The attributes that {lit}`_install_hooks` replaces itself, in its order. -/
def runtimeAttributes : List Attribute :=
  [.timeNs, .time] ++ platform.clockAttributes ++ [.urandom] ++
    (if platform.getrandom then [.getrandom] else []) ++ [.randomUrandom] ++
    (if platform.pread then [.pread] else []) ++
    [.osRead, .osOpen, .builtinsOpen, .ioOpen, .environmentGet, .environmentIter, .environmentLen]

/-- The attributes of the URL adapter. -/
def httpAttributes : List Attribute :=
  [.urlopen, .openerOpen, .redirectRequest, .proxyOpen, .responseRead, .responseClose,
      .responseIsclosed, .responseClosed] ++
    (responseMethodNames.filter platform.responseMethods).map .responseMethod

end Platform

/-- The attributes of the SQLite adapter. -/
def sqliteAttributes : List Attribute :=
  [.connect .sqlite3, .connect .dbapi2, .connect .native, .connection .sqlite3,
    .connection .dbapi2, .connection .native]

/-- All attributes that the adapters replace, in the order of the installation. -/
def Platform.hooked (platform : Platform) : List Attribute :=
  platform.runtimeAttributes ++ sqliteAttributes ++ platform.httpAttributes

/-! ## Registrations -/

/-- {lit}`_ObservationAdapterRegistration`. -/
structure ObservationAdapterRegistration where
  adapterId : String
  adapterVersion : String
  observationClass : AutomaticObservationClass
  implementationDigest : String
deriving DecidableEq, Repr

/-- The name of an observation class. -/
def observationClassName : AutomaticObservationClass → String
  | .clock => "clock"
  | .database => "database"
  | .environment => "environment"
  | .filesystem => "filesystem"
  | .outboundHttp => "outbound-http"
  | .queue => "queue"
  | .randomness => "randomness"

/-- {lit}`MAX_OBSERVATION_ADAPTERS`. -/
def maxObservationAdapters : Nat :=
  7

/-- {lit}`_REGISTRATIONS`. -/
def Platform.registrations (platform : Platform) : List ObservationAdapterRegistration :=
  match platform.implementationDigest with
  | none => []
  | some digest =>
      AutomaticObservationClass.all.map fun observationClass =>
        { adapterId := "reproit.python." ++ observationClassName observationClass
          adapterVersion := "1.0.0"
          observationClass := observationClass
          implementationDigest := digest }

/-- {lit}`_activate_observation_adapters`: the active registrations, or none for an exception. -/
def activateObservationAdapters (registrations active : List ObservationAdapterRegistration) :
    Option (List ObservationAdapterRegistration) :=
  if registrations = [] then none
  else if ¬ (registrations.map (·.observationClass)).Nodup then none
  else if maxObservationAdapters < registrations.length then none
  else if active ≠ [] then none
  else some registrations

/-- {lit}`_deactivate_observation_adapters`. -/
def deactivateObservationAdapters (registrations active : List ObservationAdapterRegistration) :
    List ObservationAdapterRegistration :=
  if registrations.any fun value =>
      active.find? (·.observationClass == value.observationClass) != some value then []
  else active.filter fun entry =>
    ! registrations.any (·.observationClass == entry.observationClass)

/-! ## Hooks -/

/-- The attributes and what the adapters and the library keep beside them. -/
structure HookState where
  attributes : Attribute → Option Object
  sqliteInstalled : Bool
  nextDatabaseId : Nat
  httpInstalled : Bool
  defaultOpener : Option Nat
  ownedOpener : Option Nat
  active : List ObservationAdapterRegistration
  openProjects : Nat

/-- The steps of an installation that may raise an exception. -/
inductive InstallStep where
  | replace (target : Attribute)
  | activate
deriving DecidableEq, Repr

section Hooks

variable (platform : Platform)

/-- Every attribute of a list has its original value. -/
def HookState.original (state : HookState) (attributes : List Attribute) : Bool :=
  attributes.all fun target => state.attributes target == platform.value target

/-- {lit}`sqlite_adapter._hooks_are_original`. -/
def sqliteHooksAreOriginal (state : HookState) : Bool :=
  ! state.sqliteInstalled && state.original platform sqliteAttributes

/-- {lit}`http_adapter._hooks_are_original`. -/
def httpHooksAreOriginal (state : HookState) : Bool :=
  ! state.httpInstalled && state.original platform platform.httpAttributes

/-- {lit}`_hooks_are_original`. -/
def hooksAreOriginal (state : HookState) : Bool :=
  state.original platform platform.runtimeChecks && sqliteHooksAreOriginal platform state &&
    httpHooksAreOriginal platform state

/-- What the adapters put in the place of an attribute, and how they recognise it later.  The hook
of {lit}`HTTPResponse.closed` is a new property for each installation. -/
def patch (target : Attribute) : Patch Attribute (Option Object) where
  name := target
  hook := some (.hook (hookOf target))
  owned value :=
    match target with
    | .responseClosed => value.any Object.isProperty
    | target => value == some (.hook (hookOf target))
  former := platform.value target

/-- Replace attributes, up to the first that cannot be replaced. -/
def replaceAll (io : InstallStep → Bool) : List Attribute → HookState → Bool × HookState
  | [], state => (true, state)
  | target :: attributes, state =>
      if io (.replace target) then
        replaceAll io attributes
          { state with attributes := apply (patch platform target) state.attributes }
      else (false, state)

/-- {lit}`_install_sqlite_adapter`. -/
def installSqliteAdapter (io : InstallStep → Bool) (state : HookState) : Bool × HookState :=
  if ¬ sqliteHooksAreOriginal platform state then (false, state)
  else
    match replaceAll platform io sqliteAttributes state with
    | (false, state) => (false, state)
    | (true, state) => (true, { state with nextDatabaseId := 1, sqliteInstalled := true })

/-- {lit}`_install_http_adapter`. -/
def installHttpAdapter (io : InstallStep → Bool) (state : HookState) : Bool × HookState :=
  if ¬ httpHooksAreOriginal platform state ∨ state.defaultOpener ≠ none then (false, state)
  else
    match replaceAll platform io platform.httpAttributes state with
    | (false, state) => (false, state)
    | (true, state) => (true, { state with ownedOpener := none, httpInstalled := true })

/-- {lit}`_install_hooks`. -/
def installHooks (io : InstallStep → Bool) (state : HookState) : Bool × HookState :=
  match replaceAll platform io platform.runtimeAttributes state with
  | (false, state) => (false, state)
  | (true, state) =>
      match installSqliteAdapter platform io state with
      | (false, state) => (false, state)
      | (true, state) => installHttpAdapter platform io state

/-- Put back the attributes of a list that still have their hooks. -/
def HookState.putBack (state : HookState) (attributes : List Attribute) : HookState :=
  { state with attributes := revertAll (attributes.map (patch platform)) state.attributes }

/-- {lit}`_restore_sqlite_adapter`. -/
def restoreSqliteAdapter (state : HookState) : HookState :=
  { state.putBack platform sqliteAttributes with sqliteInstalled := false }

/-- {lit}`_restore_http_adapter`. -/
def restoreHttpAdapter (state : HookState) : HookState :=
  { state.putBack platform platform.httpAttributes with
    ownedOpener := none
    httpInstalled := false }

/-- {lit}`_restore_hooks`. -/
def restoreHooks (state : HookState) : HookState :=
  (restoreSqliteAdapter platform (restoreHttpAdapter platform state)).putBack platform
    platform.runtimeAttributes

/-- {lit}`_acquire_automatic_adapters`. -/
def acquireAutomaticAdapters (io : InstallStep → Bool) (state : HookState) : Bool × HookState :=
  if 0 < state.openProjects then
    (true, { state with openProjects := state.openProjects + 1 })
  else if ¬ hooksAreOriginal platform state then (false, state)
  else
    match installHooks platform io state with
    | (false, state) => (false, restoreHooks platform state)
    | (true, state) =>
        if ¬ io .activate then (false, restoreHooks platform state)
        else
          match activateObservationAdapters platform.registrations state.active with
          | none => (false, restoreHooks platform state)
          | some active => (true, { state with active := active, openProjects := 1 })

/-- {lit}`_release_automatic_adapters`. -/
def releaseAutomaticAdapters (state : HookState) : HookState :=
  if state.openProjects = 0 then state
  else if state.openProjects - 1 ≠ 0 then
    { state with openProjects := state.openProjects - 1 }
  else
    restoreHooks platform
      { state with
        openProjects := 0
        active := deactivateObservationAdapters platform.registrations state.active }

end Hooks

/-! ## Runs -/

/-- A live URL open.  The standard library builds its default opener for the first one that has no
TLS context of its own, and the adapter adopts it after a response. -/
structure UrlOpen where
  ownContext : Bool
  answered : Bool
  opener : Nat
deriving DecidableEq, Repr

/-- The effect of a live URL open. -/
def HookState.opened (state : HookState) (call : UrlOpen) : HookState :=
  let defaultOpener :=
    if call.ownContext then state.defaultOpener else state.defaultOpener.or (some call.opener)
  { state with
    defaultOpener := defaultOpener
    ownedOpener :=
      if state.httpInstalled && call.answered then state.ownedOpener.or defaultOpener
      else state.ownedOpener }

/-- {lit}`_MAX_DATABASES`. -/
def maxDatabases : Nat :=
  65536

/-- The effect of a database connect. -/
def HookState.connected (state : HookState) : HookState :=
  if state.sqliteInstalled && decide (state.nextDatabaseId ≤ maxDatabases) then
    { state with nextDatabaseId := state.nextDatabaseId + 1 }
  else state

/-- What happens in a process that uses the SDK: leases, calls of the application, and attributes
that somebody else replaces.  Calls that leave the state of the hooks alone are no events. -/
inductive Event where
  | acquire (io : InstallStep → Bool)
  | release
  | urlopen (call : UrlOpen)
  | connect
  | replace (target : Attribute) (foreign : Foreign)

/-- A state with what the callers know: the leases that are held, the attributes that somebody else
replaced since they had their hooks, and the installations that succeeded. -/
structure Run where
  state : HookState
  held : Nat
  touched : List Attribute
  installations : List (InstallStep → Bool)

namespace Run

variable (platform : Platform)

/-- A process in which the adapters were just imported. -/
def start (defaultOpener : Option Nat) : Run where
  state :=
    { attributes := platform.value
      sqliteInstalled := false
      nextDatabaseId := 1
      httpInstalled := false
      defaultOpener := defaultOpener
      ownedOpener := none
      active := []
      openProjects := 0 }
  held := 0
  touched := []
  installations := []

/-- One event. -/
def step (event : Event) (run : Run) : Run :=
  match event with
  | .acquire io =>
      let acquired := acquireAutomaticAdapters platform io run.state
      if acquired.1 then
        { state := acquired.2
          held := run.held + 1
          touched :=
            if run.held = 0 then run.touched.filter (· ∉ platform.hooked) else run.touched
          installations := if run.held = 0 then io :: run.installations else run.installations }
      else { run with state := acquired.2 }
  | .release =>
      { run with
        state := releaseAutomaticAdapters platform run.state
        held := run.held - 1 }
  | .urlopen call => { run with state := run.state.opened call }
  | .connect => { run with state := run.state.connected }
  | .replace target foreign =>
      { run with
        state :=
          { run.state with
            attributes := Function.update run.state.attributes target (some (.foreign foreign)) }
        touched := target :: run.touched }

end Run

/-! ## Replaced attributes -/

section Attributes

variable {platform : Platform}

/-- The adapters look at every attribute that they replace themselves. -/
theorem mem_runtimeChecks {target : Attribute} (member : target ∈ platform.runtimeAttributes) :
    target ∈ platform.runtimeChecks := by
  simp only [Platform.runtimeAttributes, List.mem_append] at member
  simp only [Platform.runtimeChecks, List.mem_append]
  rcases member with (((((basic | clocks) | random) | getrandom) | urandom) | pread) | files
  · exact .inl (.inl basic)
  · exact .inl (.inr clocks)
  · right
    simp_all
  · right
    split at getrandom
    · simp_all
    · cases getrandom
  · right
    simp_all
  · right
    split at pread
    · simp_all
    · cases pread
  · right
    simp only [List.mem_cons] at files ⊢
    tauto

/-- The SQLite adapter replaces attributes of its own. -/
theorem runtime_of_sqlite {target : Attribute} (member : target ∈ sqliteAttributes) :
    target ∉ platform.runtimeAttributes := by
  simp only [sqliteAttributes, List.mem_cons, List.not_mem_nil, or_false] at member
  rcases member with rfl | rfl | rfl | rfl | rfl | rfl <;>
    simp [Platform.runtimeAttributes, Platform.clockAttributes]

/-- The URL adapter replaces attributes of its own. -/
theorem others_of_http {target : Attribute} (member : target ∈ platform.httpAttributes) :
    target ∉ platform.runtimeAttributes ∧ target ∉ sqliteAttributes := by
  simp only [Platform.httpAttributes, List.mem_append, List.mem_cons, List.not_mem_nil,
    or_false, List.mem_map] at member
  rcases member with (rfl | rfl | rfl | rfl | rfl | rfl | rfl | rfl) | ⟨name, -, rfl⟩ <;>
    simp [Platform.runtimeAttributes, Platform.clockAttributes, sqliteAttributes]

/-- Before an installation every attribute that is replaced has its original value. -/
theorem original_of_hooksAreOriginal {state : HookState}
    (original : hooksAreOriginal platform state = true) :
    (∀ target ∈ platform.hooked, state.attributes target = platform.value target) ∧
      state.sqliteInstalled = false ∧ state.httpInstalled = false := by
  simp only [hooksAreOriginal, sqliteHooksAreOriginal, httpHooksAreOriginal, HookState.original,
    Bool.and_eq_true, List.all_eq_true, beq_iff_eq, Bool.not_eq_true'] at original
  obtain ⟨⟨runtime, sqliteInstalled, sqlite⟩, httpInstalled, http⟩ := original
  refine ⟨?_, sqliteInstalled, httpInstalled⟩
  intro target member
  simp only [Platform.hooked, List.mem_append] at member
  rcases member with (member | member) | member
  · exact runtime target (mem_runtimeChecks member)
  · exact sqlite target member
  · exact http target member

/-- A hook recognises itself. -/
theorem owned_hook (target : Attribute) :
    (patch platform target).owned (some (.hook (hookOf target))) = true := by
  cases target <;> simp [patch, hookOf, Object.isProperty]

/-- Attributes of a list may have got their hooks, and nothing else has changed. -/
def Changed (targets : List Attribute) (before after : Attribute → Option Object) : Prop :=
  ∀ target, after target = before target ∨
    target ∈ targets ∧ after target = some (.hook (hookOf target))

/-- Changes compose. -/
theorem Changed.trans {targets first second : List Attribute}
    {before between after : Attribute → Option Object} (change : Changed first before between)
    (later : Changed second between after) (inFirst : ∀ target ∈ first, target ∈ targets)
    (inSecond : ∀ target ∈ second, target ∈ targets) : Changed targets before after := by
  intro target
  rcases later target with same | ⟨member, hooked⟩
  · rcases change target with kept | ⟨member, hooked⟩
    · exact .inl (same.trans kept)
    · exact .inr ⟨inFirst target member, same.trans hooked⟩
  · exact .inr ⟨inSecond target member, hooked⟩

/-- A hook stays. -/
theorem Changed.hooked {targets : List Attribute} {before after : Attribute → Option Object}
    (change : Changed targets before after) {target : Attribute}
    (hooked : before target = some (.hook (hookOf target))) :
    after target = some (.hook (hookOf target)) := by
  rcases change target with same | ⟨-, replaced⟩
  · rw [same, hooked]
  · exact replaced

/-- Attributes outside the list keep their values. -/
theorem Changed.kept {targets : List Attribute} {before after : Attribute → Option Object}
    (change : Changed targets before after) {target : Attribute} (other : target ∉ targets) :
    after target = before target := by
  rcases change target with same | ⟨member, -⟩
  · exact same
  · exact absurd member other

/-- Replacing attributes changes these alone, and all of them unless it stops at one. -/
theorem replaceAll_spec (io : InstallStep → Bool) (targets : List Attribute) (state : HookState) :
    ∃ table, replaceAll platform io targets state =
        (targets.all fun target => io (.replace target), { state with attributes := table }) ∧
      Changed targets state.attributes table ∧
      ((∀ target ∈ targets, io (.replace target) = true) →
        ∀ target ∈ targets, table target = some (.hook (hookOf target))) := by
  induction targets generalizing state with
  | nil => exact ⟨state.attributes, rfl, fun _ => .inl rfl, fun _ _ member => by cases member⟩
  | cons first targets ih =>
      rw [replaceAll]
      by_cases goes : io (.replace first) = true
      · obtain ⟨table, result, kept, replaced⟩ :=
          ih { state with attributes := apply (patch platform first) state.attributes }
        refine ⟨table, by simp [goes, result], ?_, ?_⟩
        · intro target
          rcases kept target with same | ⟨member, hooked⟩
          · by_cases named : target = first
            · subst named
              right
              exact ⟨List.mem_cons_self, by rw [same, apply]; exact Function.update_self _ _ _⟩
            · left
              rw [same, apply]
              exact Function.update_of_ne named _ _
          · exact .inr ⟨List.mem_cons_of_mem _ member, hooked⟩
        · intro all target member
          rcases List.mem_cons.mp member with rfl | member
          · rcases kept target with same | ⟨-, hooked⟩
            · rw [same, apply]
              exact Function.update_self _ _ _
            · exact hooked
          · exact replaced (fun other later => all other (List.mem_cons_of_mem _ later)) target
              member
      · refine ⟨state.attributes, by simp [goes], fun _ => .inl rfl, ?_⟩
        intro all
        exact absurd (all first List.mem_cons_self) goes

/-! ## Restored attributes -/

/-- The attributes in the order in which they are put back. -/
def Platform.restored (platform : Platform) : List Attribute :=
  platform.httpAttributes ++ sqliteAttributes ++ platform.runtimeAttributes

/-- The attributes that are put back are those that were replaced. -/
theorem mem_restored {target : Attribute} :
    target ∈ platform.restored ↔ target ∈ platform.hooked := by
  simp only [Platform.restored, Platform.hooked, List.mem_append]
  tauto

/-- What is put back, beside the flags of the adapters. -/
theorem restoreHooks_eq (state : HookState) :
    restoreHooks platform state =
      { state with
        attributes := revertAll (platform.restored.map (patch platform)) state.attributes
        sqliteInstalled := false
        httpInstalled := false
        ownedOpener := none } := by
  simp [restoreHooks, restoreSqliteAdapter, restoreHttpAdapter, HookState.putBack,
    Platform.restored, revertAll_append]

/-- An attribute with its original value or its hook gets its original value. -/
theorem restored_value {table : Attribute → Option Object} {target : Attribute}
    (known : table target = platform.value target ∨
      target ∈ platform.hooked ∧ table target = some (.hook (hookOf target))) :
    revertAll (platform.restored.map (patch platform)) table target = platform.value target := by
  apply revertAll_fixed
  · intro entry member named
    obtain ⟨other, -, rfl⟩ := List.mem_map.mp member
    exact congrArg platform.value named
  · rcases known with original | ⟨member, hooked⟩
    · exact .inl original
    · refine .inr ⟨patch platform target, List.mem_map_of_mem (mem_restored.mpr member), rfl, ?_⟩
      rw [hooked]
      exact owned_hook target

/-- An attribute keeps its value or gets its original value. -/
theorem restored_cases (table : Attribute → Option Object) (target : Attribute) :
    revertAll (platform.restored.map (patch platform)) table target = table target ∨
      revertAll (platform.restored.map (patch platform)) table target = platform.value target := by
  rcases @revertAll_cases _ _ _ (platform.restored.map (patch platform)) table target with
    kept | ⟨entry, member, named, given⟩
  · exact .inl kept
  · obtain ⟨other, -, rfl⟩ := List.mem_map.mp member
    right
    rw [given]
    exact congrArg platform.value named

end Attributes

/-! ## Leases -/

section Leases

variable {platform : Platform}

/-- The steps of an installation that replace attributes do not fail. -/
def Replaces (platform : Platform) (io : InstallStep → Bool) : Prop :=
  ∀ target ∈ platform.hooked, io (.replace target) = true

/-- What an installation makes of a state. -/
structure InstallEffect (platform : Platform) (io : InstallStep → Bool) (state next : HookState)
    (installed : Bool) : Prop where
  success : installed = true ↔ Replaces platform io ∧ state.defaultOpener = none
  active : next.active = state.active
  openProjects : next.openProjects = state.openProjects
  defaultOpener : next.defaultOpener = state.defaultOpener
  changed : Changed platform.hooked state.attributes next.attributes
  hooked : installed = true → ∀ target ∈ platform.hooked,
    next.attributes target = some (.hook (hookOf target))

/-- An installation replaces every attribute or fails on the way. -/
theorem installHooks_effect {state : HookState} (io : InstallStep → Bool)
    (original : hooksAreOriginal platform state = true) :
    InstallEffect platform io state (installHooks platform io state).2
      (installHooks platform io state).1 := by
  obtain ⟨values, sqliteInstalled, httpInstalled⟩ := original_of_hooksAreOriginal original
  have runtime_hooked : ∀ target ∈ platform.runtimeAttributes, target ∈ platform.hooked := by
    intro target member
    simp [Platform.hooked, member]
  have sqlite_hooked : ∀ target ∈ sqliteAttributes, target ∈ platform.hooked := by
    intro target member
    simp [Platform.hooked, member]
  have http_hooked : ∀ target ∈ platform.httpAttributes, target ∈ platform.hooked := by
    intro target member
    simp [Platform.hooked, member]
  have all_hooked : ∀ target ∈ platform.hooked, target ∈ platform.hooked := fun _ member => member
  obtain ⟨first, ran, changed, replaced⟩ := @replaceAll_spec platform io
    platform.runtimeAttributes state
  have firstChange := changed.trans (fun _ => .inl rfl : Changed [] first first) runtime_hooked
    (fun _ member => by cases member)
  unfold installHooks
  rw [ran]
  by_cases runtime : ∀ target ∈ platform.runtimeAttributes, io (.replace target) = true
  · rw [List.all_eq_true.mpr runtime]
    have sqliteOriginal :
        sqliteHooksAreOriginal platform { state with attributes := first } = true := by
      simp only [sqliteHooksAreOriginal, sqliteInstalled, Bool.not_false, Bool.true_and,
        HookState.original, List.all_eq_true, beq_iff_eq]
      intro target member
      exact (changed.kept (runtime_of_sqlite member)).trans
        (values target (sqlite_hooked target member))
    obtain ⟨second, ran, change, alsoReplaced⟩ := @replaceAll_spec platform io sqliteAttributes
      { state with attributes := first }
    have secondChange := firstChange.trans change all_hooked sqlite_hooked
    simp only [installSqliteAdapter, sqliteOriginal, not_true_eq_false, if_false, ran]
    by_cases sqlite : ∀ target ∈ sqliteAttributes, io (.replace target) = true
    · rw [List.all_eq_true.mpr sqlite]
      simp only [installHttpAdapter]
      by_cases opener : state.defaultOpener = none
      · have httpOriginal : httpHooksAreOriginal platform
            { state with
              attributes := second
              nextDatabaseId := 1
              sqliteInstalled := true } = true := by
          simp only [httpHooksAreOriginal, httpInstalled, Bool.not_false, Bool.true_and,
            HookState.original, List.all_eq_true, beq_iff_eq]
          intro target member
          have others := others_of_http member
          exact (change.kept others.2).trans ((changed.kept others.1).trans
            (values target (http_hooked target member)))
        obtain ⟨third, ran, later, lastReplaced⟩ := @replaceAll_spec platform io
          platform.httpAttributes
          { state with attributes := second, nextDatabaseId := 1, sqliteInstalled := true }
        have thirdChange := secondChange.trans later all_hooked http_hooked
        rw [if_neg (not_or.mpr ⟨not_not.mpr httpOriginal, not_not.mpr opener⟩), ran]
        by_cases http : ∀ target ∈ platform.httpAttributes, io (.replace target) = true
        · rw [List.all_eq_true.mpr http]
          have all : Replaces platform io := by
            intro target member
            simp only [Platform.hooked, List.mem_append] at member
            rcases member with (member | member) | member
            · exact runtime target member
            · exact sqlite target member
            · exact http target member
          refine ⟨⟨fun _ => ⟨all, opener⟩, fun _ => rfl⟩, rfl, rfl, rfl, thirdChange, ?_⟩
          intro _ target member
          simp only [Platform.hooked, List.mem_append] at member
          rcases member with (member | member) | member
          · exact later.hooked (change.hooked (replaced runtime target member))
          · exact later.hooked (alsoReplaced sqlite target member)
          · exact lastReplaced http target member
        · have failed :
              (platform.httpAttributes.all fun target => io (.replace target)) = false := by
            simpa [List.all_eq_false] using http
          rw [failed]
          refine ⟨⟨nofun, ?_⟩, rfl, rfl, rfl, thirdChange, nofun⟩
          rintro ⟨all, -⟩
          exact absurd (fun target member => all target (http_hooked target member)) http
      · rw [if_pos (.inr opener)]
        exact ⟨⟨nofun, fun both => absurd both.2 opener⟩, rfl, rfl, rfl, secondChange, nofun⟩
    · have failed : (sqliteAttributes.all fun target => io (.replace target)) = false := by
        simpa [List.all_eq_false] using sqlite
      rw [failed]
      refine ⟨⟨nofun, ?_⟩, rfl, rfl, rfl, secondChange, nofun⟩
      rintro ⟨all, -⟩
      exact absurd (fun target member => all target (sqlite_hooked target member)) sqlite
  · have failed :
        (platform.runtimeAttributes.all fun target => io (.replace target)) = false := by
      simpa [List.all_eq_false] using runtime
    rw [failed]
    refine ⟨⟨nofun, ?_⟩, rfl, rfl, rfl, firstChange, nofun⟩
    rintro ⟨all, -⟩
    exact absurd (fun target member => all target (runtime_hooked target member)) runtime

/-- An active set of registrations can be published for every platform that has any. -/
theorem activateObservationAdapters_isSome :
    (activateObservationAdapters platform.registrations []).isSome = true ↔
      platform.registrations ≠ [] := by
  unfold activateObservationAdapters Platform.registrations
  cases platform.implementationDigest with
  | none => simp
  | some digest =>
      have distinct : ((AutomaticObservationClass.all.map fun observationClass =>
          ({ adapterId := "reproit.python." ++ observationClassName observationClass
             adapterVersion := "1.0.0"
             observationClass := observationClass
             implementationDigest := digest } : ObservationAdapterRegistration)).map
            (·.observationClass)).Nodup := by
        have classes : (AutomaticObservationClass.all.map id).Nodup := by
          decide
        rw [List.map_map]
        exact classes
      have few : ¬ maxObservationAdapters < AutomaticObservationClass.all.length := by
        decide
      simp only [List.length_map, distinct, not_true_eq_false, if_false, few, ne_eq]
      simp [AutomaticObservationClass.all]

/-- Published registrations are the ones that were given. -/
theorem activateObservationAdapters_eq {active next : List ObservationAdapterRegistration}
    (activated : activateObservationAdapters platform.registrations active = some next) :
    next = platform.registrations ∧ platform.registrations ≠ [] := by
  unfold activateObservationAdapters at activated
  split at activated
  · cases activated
  · rename_i some
    split at activated
    · cases activated
    · split at activated
      · cases activated
      · split at activated
        · cases activated
        · exact ⟨(Option.some.inj activated).symm, some⟩

/-- Nothing of a published set stays. -/
theorem deactivateObservationAdapters_self (registrations : List ObservationAdapterRegistration) :
    deactivateObservationAdapters registrations registrations = [] := by
  unfold deactivateObservationAdapters
  split
  · rfl
  · rw [List.filter_eq_nil_iff]
    intro entry member
    simp only [Bool.not_eq_true', Bool.not_eq_false, List.any_eq_true, beq_iff_eq]
    exact ⟨entry, member, rfl⟩

/-! ## Runs of leases -/

/-- The value of an attribute that nobody else has replaced. -/
def expected (platform : Platform) (held : Nat) (target : Attribute) : Option Object :=
  if 0 < held ∧ target ∈ platform.hooked then some (.hook (hookOf target))
  else platform.value target

/-- Somebody else replaced an attribute, and their value is there. -/
def Taken (touched : List Attribute) (table : Attribute → Option Object) (target : Attribute) :
    Prop :=
  target ∈ touched ∧ ∃ value, table target = some (.foreign value)

/-- What every run keeps. -/
structure Kept (platform : Platform) (run : Run) : Prop where
  counted : run.state.openProjects = run.held
  known : ∀ target, run.state.attributes target = expected platform run.held target ∨
    Taken run.touched run.state.attributes target
  registered : 0 < run.held →
    run.state.active = platform.registrations ∧ platform.registrations ≠ []
  unregistered : run.held = 0 → run.state.active = []
  idle : run.held = 0 → run.state.sqliteInstalled = false ∧ run.state.httpInstalled = false
  proven : ∀ io ∈ run.installations,
    Replaces platform io ∧ io .activate = true ∧ platform.registrations ≠ []

/-- Putting the hooks back leaves the original values and those of somebody else. -/
theorem restoreHooks_known {state : HookState} {touched : List Attribute}
    (known : ∀ target, state.attributes target = platform.value target ∨
      (target ∈ platform.hooked ∧ state.attributes target = some (.hook (hookOf target))) ∨
        Taken touched state.attributes target) (target : Attribute) :
    (restoreHooks platform state).attributes target = expected platform 0 target ∨
      Taken touched (restoreHooks platform state).attributes target := by
  have original : expected platform 0 target = platform.value target := by
    simp [expected]
  rw [original, restoreHooks_eq]
  rcases known target with value | hooked | ⟨member, value, foreign⟩
  · exact .inl (restored_value (.inl value))
  · exact .inl (restored_value (.inr hooked))
  · rcases @restored_cases platform state.attributes target with same | given
    · exact .inr ⟨member, value, same.trans foreign⟩
    · exact .inl given

/-- An acquire without a lease installs the hooks or changes nothing for good. -/
theorem acquire_idle {run : Run} (kept : Kept platform run) (free : run.held = 0)
    (io : InstallStep → Bool) :
    ((acquireAutomaticAdapters platform io run.state).1 = true ↔
      hooksAreOriginal platform run.state = true ∧ Replaces platform io ∧
        run.state.defaultOpener = none ∧ io .activate = true ∧ platform.registrations ≠ []) := by
  have closed : run.state.openProjects = 0 := kept.counted.trans free
  unfold acquireAutomaticAdapters
  rw [if_neg (by omega)]
  by_cases original : hooksAreOriginal platform run.state = true
  · rw [if_neg (not_not.mpr original)]
    have effect := installHooks_effect io original
    rcases answer : installHooks platform io run.state with ⟨installed, next⟩
    rw [answer] at effect
    cases installed with
    | false =>
        have failed := effect.success
        simp only [Bool.false_eq_true, false_iff, not_and] at failed ⊢
        rintro - all opener
        exact absurd opener (failed all)
    | true =>
        have ⟨all, opener⟩ := effect.success.mp rfl
        by_cases activates : io .activate = true
        · have inactive : next.active = [] := effect.active.trans (kept.unregistered free)
          have published := @activateObservationAdapters_isSome platform
          rcases activated : activateObservationAdapters platform.registrations [] with - | active
          · rw [activated] at published
            have empty : platform.registrations = [] := by simpa using published
            simp only [activates, not_true_eq_false, if_false, inactive, activated]
            simp [empty]
          · rw [activated] at published
            simp only [activates, not_true_eq_false, if_false, inactive, activated, true_iff]
            exact ⟨original, all, opener, trivial, published.mp rfl⟩
        · simp [activates]
  · simp [original]

/-- A failed acquire without a lease leaves no hook behind. -/
theorem failed_acquire {run : Run} (kept : Kept platform run) (free : run.held = 0)
    {io : InstallStep → Bool}
    (failed : (acquireAutomaticAdapters platform io run.state).1 = false) :
    Kept platform { run with state := (acquireAutomaticAdapters platform io run.state).2 } := by
  have closed : run.state.openProjects = 0 := kept.counted.trans free
  have values {target : Attribute} : expected platform run.held target = platform.value target := by
    simp [expected, free]
  revert failed
  unfold acquireAutomaticAdapters
  rw [if_neg (by omega)]
  by_cases original : hooksAreOriginal platform run.state = true
  · rw [if_neg (not_not.mpr original)]
    have effect := installHooks_effect io original
    rcases answer : installHooks platform io run.state with ⟨installed, next⟩
    rw [answer] at effect
    -- Every failure after the first replaced attribute puts the hooks back.
    have back : Kept platform { run with state := restoreHooks platform next } := by
      have known : ∀ target, next.attributes target = platform.value target ∨
          (target ∈ platform.hooked ∧
            next.attributes target = some (.hook (hookOf target))) ∨
          Taken run.touched next.attributes target := by
        intro target
        rcases effect.changed target with same | hooked
        · rcases kept.known target with value | ⟨member, value, foreign⟩
          · exact .inl (same.trans (value.trans values))
          · exact .inr (.inr ⟨member, value, same.trans foreign⟩)
        · exact .inr (.inl hooked)
      have attributes := restoreHooks_known known
      refine
        { counted := ?_
          known := ?_
          registered := fun held => absurd held (by simp [free])
          unregistered := ?_
          idle := ?_
          proven := kept.proven }
      · rw [restoreHooks_eq]
        exact effect.openProjects.trans kept.counted
      · intro target
        simp only [free]
        exact attributes target
      · intro _
        rw [restoreHooks_eq]
        exact effect.active.trans (kept.unregistered free)
      · intro _
        rw [restoreHooks_eq]
        exact ⟨rfl, rfl⟩
    cases installed with
    | false => exact fun _ => back
    | true =>
        dsimp only
        split
        · exact fun _ => back
        · split
          · exact fun _ => back
          · nofun
  · rw [if_pos original]
    exact fun _ => kept

/-- An acquire that installs the hooks puts all of them in place. -/
theorem installed_acquire {run : Run} (kept : Kept platform run) (free : run.held = 0)
    {io : InstallStep → Bool}
    (acquired : (acquireAutomaticAdapters platform io run.state).1 = true) :
    Kept platform (run.step platform (.acquire io)) := by
  have proven := (acquire_idle kept free io).mp acquired
  have closed : run.state.openProjects = 0 := kept.counted.trans free
  have values {target : Attribute} : expected platform run.held target = platform.value target := by
    simp [expected, free]
  simp only [Run.step, acquired, if_true, free]
  revert acquired
  unfold acquireAutomaticAdapters
  rw [if_neg (by omega), if_neg (not_not.mpr proven.1)]
  have effect := installHooks_effect io proven.1
  rcases answer : installHooks platform io run.state with ⟨installed, next⟩
  rw [answer] at effect
  cases installed with
  | false => nofun
  | true =>
      dsimp only
      split
      · nofun
      · split
        · nofun
        · rename_i active activated
          intro _
          have published := activateObservationAdapters_eq activated
          refine
            { counted := rfl
              known := ?_
              registered := fun _ => published
              unregistered := nofun
              idle := nofun
              proven := ?_ }
          · intro target
            by_cases member : target ∈ platform.hooked
            · left
              simp only [expected, member, and_true, Nat.zero_lt_one, if_true, zero_add]
              exact effect.hooked rfl target member
            · have same := effect.changed.kept member
              simp only [expected, member, and_false, if_false]
              rcases kept.known target with value | ⟨touched, value, foreign⟩
              · exact .inl (same.trans (value.trans values))
              · refine .inr ⟨?_, value, same.trans foreign⟩
                simp [touched, member]
          · intro other member
            rcases List.mem_cons.mp member with rfl | member
            · exact ⟨proven.2.1, proven.2.2.2.1, proven.2.2.2.2⟩
            · exact kept.proven other member

/-- A release keeps the hooks for the remaining leases, or puts them back. -/
theorem kept_release {run : Run} (kept : Kept platform run) :
    Kept platform (run.step platform .release) := by
  simp only [Run.step]
  unfold releaseAutomaticAdapters
  split
  · rename_i closed
    have free : run.held = 0 := kept.counted.symm.trans closed
    simp only [free, Nat.zero_sub]
    rw [← free]
    exact kept
  · rename_i held
    split
    · rename_i more
      have several : 1 < run.held := by
        have := kept.counted
        omega
      refine
        { counted := ?_
          known := ?_
          registered := fun _ => kept.registered (by omega)
          unregistered := fun none => by simp only at none; omega
          idle := fun none => by simp only at none; omega
          proven := kept.proven }
      · simp only [kept.counted]
      · intro target
        have same : expected platform (run.held - 1) target =
            expected platform run.held target := by
          simp [expected, show 0 < run.held - 1 by omega, show 0 < run.held by omega]
        simp only [same]
        exact kept.known target
    · rename_i last
      have one : run.held = 1 := by
        have := kept.counted
        omega
      have ⟨active, _⟩ := kept.registered (by omega)
      have known : ∀ target, run.state.attributes target = platform.value target ∨
          (target ∈ platform.hooked ∧
            run.state.attributes target = some (.hook (hookOf target))) ∨
          Taken run.touched run.state.attributes target := by
        intro target
        rcases kept.known target with value | taken
        · unfold expected at value
          split at value
          · rename_i hooked
            exact .inr (.inl ⟨hooked.2, value⟩)
          · exact .inl value
        · exact .inr (.inr taken)
      have attributes := @restoreHooks_known platform
        { run.state with
          openProjects := 0
          active := deactivateObservationAdapters platform.registrations run.state.active }
        run.touched known
      refine
        { counted := ?_
          known := ?_
          registered := fun held => by simp only [one] at held; omega
          unregistered := ?_
          idle := ?_
          proven := kept.proven }
      · rw [restoreHooks_eq, one]
      · intro target
        simp only [one, Nat.sub_self]
        exact attributes target
      · intro _
        rw [restoreHooks_eq, active]
        exact deactivateObservationAdapters_self _
      · intro _
        rw [restoreHooks_eq]
        exact ⟨rfl, rfl⟩

/-- Every event keeps the leases. -/
theorem leases_step {run : Run} (kept : Kept platform run) (event : Event) :
    Kept platform (run.step platform event) := by
  cases event with
  | acquire io =>
      by_cases free : run.held = 0
      · cases acquired : (acquireAutomaticAdapters platform io run.state).1 with
        | true => exact installed_acquire kept free acquired
        | false =>
            have failed := failed_acquire kept free acquired
            simpa [Run.step, acquired] using failed
      · have held : 0 < run.state.openProjects := by
          have := kept.counted
          omega
        simp only [Run.step, acquireAutomaticAdapters, held, if_true, free, if_false]
        refine
          { counted := ?_
            known := ?_
            registered := fun _ => kept.registered (by omega)
            unregistered := nofun
            idle := nofun
            proven := kept.proven }
        · simp only [kept.counted]
        · intro target
          have same : expected platform (run.held + 1) target =
              expected platform run.held target := by
            simp [expected, Nat.pos_of_ne_zero free]
          simp only [same]
          exact kept.known target
  | release => exact kept_release kept
  | urlopen call =>
      exact
        { counted := kept.counted
          known := kept.known
          registered := kept.registered
          unregistered := kept.unregistered
          idle := kept.idle
          proven := kept.proven }
  | connect =>
      simp only [Run.step]
      unfold HookState.connected
      split
      · exact
          { counted := kept.counted
            known := kept.known
            registered := kept.registered
            unregistered := kept.unregistered
            idle := kept.idle
            proven := kept.proven }
      · exact kept
  | replace target foreign =>
      refine
        { counted := kept.counted
          known := ?_
          registered := kept.registered
          unregistered := kept.unregistered
          idle := kept.idle
          proven := kept.proven }
      intro other
      by_cases same : other = target
      · subst same
        exact .inr ⟨List.mem_cons_self, foreign, Function.update_self _ _ _⟩
      · have kept' : (run.step platform (.replace target foreign)).state.attributes other =
            run.state.attributes other := Function.update_of_ne same _ _
        rw [kept']
        rcases kept.known other with value | ⟨member, value, taken⟩
        · exact .inl value
        · exact .inr ⟨List.mem_cons_of_mem _ member, value, kept'.trans taken⟩

/-! ## Whole runs -/

/-- A run after some events. -/
def Run.after (platform : Platform) : List Event → Run → Run
  | [], run => run
  | event :: events, run => Run.after platform events (run.step platform event)

/-- Nothing is held when the adapters were just imported. -/
theorem kept_start (defaultOpener : Option Nat) :
    Kept platform (.start platform defaultOpener) where
  counted := rfl
  known _ := .inl (by simp [Run.start, expected])
  registered := nofun
  unregistered _ := rfl
  idle _ := ⟨rfl, rfl⟩
  proven := nofun

/-- Every run keeps the leases. -/
theorem kept_after {run : Run} (kept : Kept platform run) (events : List Event) :
    Kept platform (run.after platform events) := by
  induction events generalizing run with
  | nil => exact kept
  | cons event events ih => exact ih (leases_step kept event)

/-- An acquire without a lease succeeds again, with the steps of an installation that succeeded
before, if the hooks are original and the standard library has no default opener. -/
theorem acquire_again {run : Run} (kept : Kept platform run) (free : run.held = 0)
    {io : InstallStep → Bool} (before : io ∈ run.installations) :
    (acquireAutomaticAdapters platform io run.state).1 = true ↔
      run.state.defaultOpener = none ∧ hooksAreOriginal platform run.state = true := by
  have ⟨replaces, activates, registered⟩ := kept.proven io before
  rw [acquire_idle kept free]
  constructor
  · rintro ⟨original, -, opener, -, -⟩
    exact ⟨opener, original⟩
  · rintro ⟨opener, original⟩
    exact ⟨original, replaces, opener, activates, registered⟩

/-- An event that neither builds the default opener of the standard library nor replaces an
attribute. -/
def Event.Quiet : Event → Prop
  | .urlopen call => call.ownContext = true
  | .replace _ _ => False
  | _ => True

/-- In quiet runs nobody replaces an attribute, and an installation finds no default opener. -/
structure Calm (run : Run) : Prop where
  untouched : run.touched = []
  unopened : run.installations ≠ [] → run.state.defaultOpener = none

/-- Putting the hooks back keeps the default opener. -/
@[simp] theorem restoreHooks_defaultOpener (state : HookState) :
    (restoreHooks platform state).defaultOpener = state.defaultOpener := by
  rw [restoreHooks_eq]

/-- An acquire keeps the default opener. -/
theorem acquire_defaultOpener (io : InstallStep → Bool) (state : HookState) :
    (acquireAutomaticAdapters platform io state).2.defaultOpener = state.defaultOpener := by
  unfold acquireAutomaticAdapters
  split
  · rfl
  · split
    · rfl
    · rename_i original
      have effect := installHooks_effect io (not_not.mp original)
      rcases answer : installHooks platform io state with ⟨installed, next⟩
      rw [answer] at effect
      cases installed with
      | false => exact (restoreHooks_defaultOpener next).trans effect.defaultOpener
      | true =>
          dsimp only
          split
          · exact (restoreHooks_defaultOpener next).trans effect.defaultOpener
          · split
            · exact (restoreHooks_defaultOpener next).trans effect.defaultOpener
            · exact effect.defaultOpener

/-- A release keeps the default opener. -/
theorem release_defaultOpener (state : HookState) :
    (releaseAutomaticAdapters platform state).defaultOpener = state.defaultOpener := by
  unfold releaseAutomaticAdapters
  split
  · rfl
  · split
    · rfl
    · exact restoreHooks_defaultOpener _

/-- Quiet events keep a run calm. -/
theorem calm_step {run : Run} (kept : Kept platform run) (calm : Calm run) {event : Event}
    (quiet : event.Quiet) : Calm (run.step platform event) := by
  cases event with
  | acquire io =>
      have opener := @acquire_defaultOpener platform io run.state
      cases acquired : (acquireAutomaticAdapters platform io run.state).1 with
      | false =>
          simp only [Run.step, acquired, Bool.false_eq_true, if_false]
          exact ⟨calm.untouched, fun some => opener.trans (calm.unopened some)⟩
      | true =>
          simp only [Run.step, acquired, if_true]
          refine ⟨?_, ?_⟩
          · simp [calm.untouched]
          · intro some
            refine opener.trans ?_
            by_cases free : run.held = 0
            · exact ((acquire_idle kept free io).mp acquired).2.2.1
            · have earlier : run.installations ≠ [] := by simpa [free] using some
              exact calm.unopened earlier
  | release =>
      exact ⟨calm.untouched, fun some => (release_defaultOpener _).trans (calm.unopened some)⟩
  | urlopen call =>
      have own : call.ownContext = true := quiet
      refine ⟨calm.untouched, fun some => ?_⟩
      simp only [Run.step, HookState.opened, own, if_true]
      exact calm.unopened some
  | connect =>
      refine ⟨calm.untouched, fun some => ?_⟩
      simp only [Run.step, HookState.connected]
      split
      · exact calm.unopened some
      · exact calm.unopened some
  | replace target foreign => exact absurd quiet not_false

/-- Quiet runs stay calm. -/
theorem calm_after {run : Run} (kept : Kept platform run) (calm : Calm run) {events : List Event}
    (quiet : ∀ event ∈ events, event.Quiet) : Calm (run.after platform events) := by
  induction events generalizing run with
  | nil => exact calm
  | cons event events ih =>
      exact ih (leases_step kept event) (calm_step kept calm (quiet event List.mem_cons_self))
        fun other member => quiet other (List.mem_cons_of_mem _ member)

/-- Without a lease the hooks of a calm run are original. -/
theorem hooksAreOriginal_of_calm {run : Run} (kept : Kept platform run) (calm : Calm run)
    (free : run.held = 0) : hooksAreOriginal platform run.state = true := by
  have values : ∀ target, run.state.attributes target = platform.value target := by
    intro target
    rcases kept.known target with value | ⟨member, -⟩
    · simpa [expected, free] using value
    · rw [calm.untouched] at member
      cases member
  have ⟨sqliteInstalled, httpInstalled⟩ := kept.idle free
  simp [hooksAreOriginal, sqliteHooksAreOriginal, httpHooksAreOriginal, HookState.original, values,
    sqliteInstalled, httpInstalled]

/-- What holds after any events of a process that uses the SDK. -/
structure Leases (platform : Platform) (run : Run) : Prop where
  counted : run.state.openProjects = run.held
  hooked : 0 < run.held → ∀ target ∈ platform.hooked, target ∉ run.touched →
    run.state.attributes target = some (.hook (hookOf target))
  registered : 0 < run.held →
    run.state.active = platform.registrations ∧ platform.registrations ≠ []
  restored : run.held = 0 → ∀ target, target ∉ run.touched →
    run.state.attributes target = platform.value target
  unhooked : run.held = 0 → ∀ target hook, run.state.attributes target ≠ some (.hook hook)
  unregistered : run.held = 0 → run.state.active = []
  again : run.held = 0 → ∀ io ∈ run.installations,
    ((acquireAutomaticAdapters platform io run.state).1 = true ↔
      run.state.defaultOpener = none ∧ hooksAreOriginal platform run.state = true)

/-- What every run keeps says where the hooks are. -/
theorem Kept.leases {run : Run} (kept : Kept platform run) : Leases platform run where
  counted := kept.counted
  hooked held target member untouched := by
    rcases kept.known target with value | ⟨touched, -⟩
    · simpa [expected, held, member] using value
    · exact absurd touched untouched
  registered := kept.registered
  restored free target untouched := by
    rcases kept.known target with value | ⟨touched, -⟩
    · simpa [expected, free] using value
    · exact absurd touched untouched
  unhooked free target hook hooked := by
    rcases kept.known target with value | ⟨-, foreign, taken⟩
    · rw [hooked] at value
      simp [expected, free, Platform.value] at value
    · rw [hooked] at taken
      cases taken
  unregistered := kept.unregistered
  again free _ before := acquire_again kept free before

end Leases
end PythonHooks
end ReproItSdk
