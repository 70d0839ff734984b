import ReproItSdk.Replay.PythonHooks

/-! # Hook leases of the Node.js SDK

The first lease installs one adapter for each observation class.  An adapter replaces properties of
the runtime one after another, and takes all of them back when one cannot be replaced; the other
classes are installed without it.  The last lease that is released takes every adapter back.

Main definitions:

- Functions {lit}`acquireRuntimeObservationAdapters` and {lit}`release`.
- Inductive {lit}`Event`: what happens in a process that uses the SDK.

Main results:

- Theorem {lit}`hook_leases`: what holds of the leases of both SDKs after any events.
-/

namespace ReproItSdk
namespace NodeHooks

open Patches PythonHooks

/-! ## Properties -/

/-- The value of a property.  A replacement belongs to the request of a class that it was made for,
and replacements of earlier installations are foreign to a later one. -/
inductive Value where
  | foreign (identity : Nat) (callable : Bool)
  | hook (observationClass : AutomaticObservationClass) (index : Nat)
deriving DecidableEq, Repr

/-- {lit}`typeof value === "function"`. -/
def Value.callable : Value → Bool
  | .foreign _ callable => callable
  | .hook observationClass _ => observationClass != .environment

/-- The objects of the runtime whose properties the adapters replace. -/
inductive HostObject where
  | globalThis
  | performance
  | process
  | dateTimeFormat
  | fs
  | fsPromises
  | math
  | crypto
  | cryptoPrototype
  | subtlePrototype
  | sqlite
  | databasePrototype
  | statementPrototype
  | workerThreads
  | http
  | https
deriving DecidableEq, Repr

/-- The owner of a property: an object of the runtime, or the object that a value is. -/
inductive Owner where
  | host (object : HostObject)
  | object (value : Value)
deriving DecidableEq, Repr

/-- A property of an object. -/
structure Key where
  owner : Owner
  name : String
deriving DecidableEq, Repr

/-- The flags of a property descriptor. -/
structure Flags where
  writable : Bool
  enumerable : Bool
  configurable : Bool
deriving DecidableEq, Repr

/-- A property descriptor. -/
inductive Descriptor where
  | data (value : Value) (flags : Flags)
  | accessor (getter setter : Option Value) (flags : Flags)
deriving DecidableEq, Repr

/-- A value is a replacement of the adapters. -/
def Value.isHook : Value → Bool
  | .foreign _ _ => false
  | .hook _ _ => true

/-- A property holds a replacement of the adapters. -/
def Descriptor.isHooked : Descriptor → Bool
  | .data value _ => value.isHook
  | .accessor getter _ _ => getter.any Value.isHook

/-- A property that is not one of the adapters. -/
abbrev Plain : Type :=
  { descriptor : Option Descriptor // descriptor.any Descriptor.isHooked = false }

/-- The runtime as the adapters found it when they were imported.  A read of a property that is no
own value may give a function of a prototype or of a getter. -/
structure Host where
  table : Key → Plain
  readsFunction : Key → Bool
  implementationDigest : Option String

/-! ## Requests -/

/-- The owner of a requested property.  The function {lit}`process.hrtime` is looked up when its
property is replaced. -/
inductive OwnerExpression where
  | host (object : HostObject)
  | hrtime
deriving DecidableEq, Repr

/-- How an adapter replaces a property. -/
inductive Method where
  | patchValue
  | patchFunction
  | patchUnownedFunction
  | patchUnownedAccessor
  | environment
  | patchMethod
  | httpFunction
deriving DecidableEq, Repr

/-- A property that an adapter replaces, and how. -/
structure Request where
  method : Method
  owner : OwnerExpression
  name : String
deriving DecidableEq, Repr

/-- Requests of one method for some properties of an object. -/
def HostObject.requests (object : HostObject) (method : Method) (names : List String) :
    List Request :=
  names.map fun name => { method := method, owner := .host object, name := name }

/-- {lit}`installClockAdapter`. -/
def clockRequests : List Request :=
  HostObject.requests .globalThis .patchValue ["Date"] ++
    HostObject.requests .performance .patchUnownedFunction
      ["eventLoopUtilization", "mark", "measure", "now", "toJSON"] ++
    HostObject.requests .performance .patchUnownedAccessor ["timeOrigin"] ++
    HostObject.requests .process .patchUnownedFunction
      ["cpuUsage", "resourceUsage", "uptime", "hrtime"] ++
    [{ method := .patchUnownedFunction, owner := .hrtime, name := "bigint" }] ++
    HostObject.requests .dateTimeFormat .patchUnownedAccessor ["format"] ++
    HostObject.requests .dateTimeFormat .patchUnownedFunction ["formatToParts"]

/-- {lit}`installSqliteAdapter`. -/
def databaseRequests : List Request :=
  HostObject.requests .databasePrototype .patchMethod ["exec", "prepare"] ++
    HostObject.requests .statementPrototype .patchMethod
      ["get", "all", "run", "columns", "iterate", "setAllowBareNamedParameters",
        "setAllowUnknownNamedParameters", "setReadBigInts", "setReturnArrays"] ++
    HostObject.requests .databasePrototype .patchMethod
      ["aggregate", "applyChangeset", "close", "createSession", "createTagStore", "deserialize",
        "enableDefensive", "enableLoadExtension", "function", "loadExtension", "location", "open",
        "serialize", "setAuthorizer", "Symbol.dispose"] ++
    HostObject.requests .sqlite .patchMethod ["backup"] ++
    HostObject.requests .process .patchMethod ["dlopen"] ++
    HostObject.requests .workerThreads .patchMethod ["Worker"]

/-- {lit}`installEnvironmentAdapter`. -/
def environmentRequests : List Request :=
  HostObject.requests .process .environment ["env"]

/-- {lit}`installFilesystemAdapter`. -/
def filesystemRequests : List Request :=
  HostObject.requests .fs .patchFunction ["readFileSync", "readFile"] ++
    HostObject.requests .fsPromises .patchFunction ["readFile"] ++
    HostObject.requests .fs .patchUnownedFunction
      ["access", "accessSync", "createReadStream", "fstat", "fstatSync", "lstat", "lstatSync",
        "open", "openSync", "opendir", "opendirSync", "read", "readdir", "readdirSync", "readlink",
        "readlinkSync", "readSync", "readv", "readvSync", "realpath", "realpathSync", "stat",
        "statSync", "statfs", "statfsSync"] ++
    HostObject.requests .fsPromises .patchUnownedFunction
      ["access", "lstat", "open", "opendir", "readdir", "readlink", "realpath", "stat", "statfs"]

/-- {lit}`installHttpAdapter`. -/
def outboundHttpRequests : List Request :=
  HostObject.requests .http .httpFunction ["request", "get"] ++
    HostObject.requests .https .httpFunction ["request", "get"]

/-- {lit}`installRandomnessAdapter`. -/
def randomnessRequests : List Request :=
  HostObject.requests .math .patchFunction ["random"] ++
    HostObject.requests .crypto .patchFunction
      ["randomBytes", "randomFillSync", "randomFill", "randomUUID"] ++
    HostObject.requests .crypto .patchUnownedFunction
      ["generateKey", "generateKeyPair", "generateKeyPairSync", "generateKeySync", "generatePrime",
        "generatePrimeSync", "pseudoRandomBytes", "randomInt"] ++
    HostObject.requests .cryptoPrototype .patchFunction ["getRandomValues"] ++
    HostObject.requests .subtlePrototype .patchUnownedFunction ["generateKey"]

/-- The properties that the adapter of a class replaces, in its order. -/
def requests : AutomaticObservationClass → List Request
  | .clock => clockRequests
  | .database => databaseRequests
  | .environment => environmentRequests
  | .filesystem => filesystemRequests
  | .outboundHttp => outboundHttpRequests
  | .queue => []
  | .randomness => randomnessRequests

/-! ## Replacing properties -/

section Replacing

variable (host : Host)

/-- {lit}`typeof owner?.[name] === "function"`. -/
def readsFunction (table : Key → Option Descriptor) (key : Key) : Bool :=
  match table key with
  | some (.data value _) => value.callable
  | _ => host.readsFunction key

/-- The property {lit}`process.hrtime`. -/
def hrtimeKey : Key where
  owner := .host .process
  name := "hrtime"

/-- The owner of a requested property, if there is one. -/
def OwnerExpression.resolve (table : Key → Option Descriptor) : OwnerExpression → Option Owner
  | .host object => some (.host object)
  | .hrtime =>
      match table hrtimeKey with
      | some (.data value _) => some (.object value)
      | _ => none

/-- The patch of an own value. -/
def valuePatch (key : Key) (value replacement : Value) (flags : Flags) :
    Patch Key (Option Descriptor) where
  name := key
  hook := some (.data replacement flags)
  owned current :=
    match current with
    | some (.data value _) => value == replacement
    | _ => false
  former := some (.data value flags)

/-- The patch of a getter. -/
def getterPatch (key : Key) (getter : Value) (setter : Option Value) (replacement : Value)
    (flags : Flags) : Patch Key (Option Descriptor) where
  name := key
  hook := some (.accessor (some replacement) setter flags)
  owned current :=
    match current with
    | some (.accessor getter _ _) => getter == some replacement
    | _ => false
  former := some (.accessor (some getter) setter flags)

/-- What the replacement of a property comes to. -/
inductive Outcome where
  | thrown
  | skipped
  | patched (patch : Patch Key (Option Descriptor))

/-- The replacement of an own value that {lit}`Object.defineProperty` accepts. -/
def definesValue (table : Key → Option Descriptor) (replacement : Value)
    (admits : Value → Flags → Bool) (key : Key) : Outcome :=
  match table key with
  | some (.data value flags) =>
      if admits value flags && (flags.writable || flags.configurable) then
        .patched (valuePatch key value replacement flags)
      else .thrown
  | _ => .thrown

/-- The replacement of the property that a request names. -/
def replaceProperty (table : Key → Option Descriptor) (replacement : Value) (method : Method)
    (key : Key) : Outcome :=
  match method with
  | .patchValue | .environment => definesValue table replacement (fun _ _ => true) key
  | .patchFunction =>
      if readsFunction host table key then definesValue table replacement (fun _ _ => true) key
      else .thrown
  | .patchUnownedFunction =>
      if readsFunction host table key then definesValue table replacement (fun _ _ => true) key
      else .skipped
  | .patchUnownedAccessor =>
      match table key with
      | some (.accessor (some getter) setter flags) =>
          if getter.callable then
            if flags.configurable then .patched (getterPatch key getter setter replacement flags)
            else .thrown
          else .skipped
      | _ => .skipped
  | .patchMethod =>
      if readsFunction host table key then
        definesValue table replacement (fun _ flags => flags.configurable) key
      else .thrown
  | .httpFunction => definesValue table replacement (fun value _ => value.callable) key

/-- {lit}`copyFunctionProperties`, for the one function whose properties are replaced as well. -/
def copyFunctionProperties (key : Key) (replacement : Value) (table : Key → Option Descriptor) :
    Key → Option Descriptor :=
  if key = hrtimeKey then
    match table key with
    | some (.data original _) => fun other =>
        if other.owner = .object replacement then
          if other.name ∈ ["arguments", "caller", "length", "name", "prototype"] then none
          else table { owner := .object original, name := other.name }
        else table other
    | _ => table
  else table

/-- A table with the properties that were replaced in it, the newest first. -/
structure Patched where
  table : Key → Option Descriptor
  log : List (Patch Key (Option Descriptor))

/-- The requests of an adapter, up to the first that throws an exception. -/
def replaceProperties (observationClass : AutomaticObservationClass) (io : Nat → Bool) :
    Nat → List Request → Patched → Bool × Patched
  | _, [], patched => (true, patched)
  | index, request :: requests, patched =>
      if io index then
        match request.owner.resolve patched.table with
        | none => replaceProperties observationClass io (index + 1) requests patched
        | some owner =>
            let key : Key := { owner := owner, name := request.name }
            let replacement : Value := .hook observationClass index
            match replaceProperty host patched.table replacement request.method key with
            | .thrown => (false, patched)
            | .skipped => replaceProperties observationClass io (index + 1) requests patched
            | .patched patch =>
                replaceProperties observationClass io (index + 1) requests
                  { table := apply patch (copyFunctionProperties key replacement patched.table)
                    log := patch :: patched.log }
      else (false, patched)

end Replacing

/-! ## Installations -/

/-- An installed adapter with what its restore takes back. -/
structure InstalledClass where
  registration : ObservationAdapterRegistration
  restore : List (Patch Key (Option Descriptor))

/-- The properties of the runtime and the state of the adapters.  The installed classes are listed
the newest first, and {lit}`unreleased` are the leases whose release was not called. -/
structure HookState where
  table : Key → Option Descriptor
  installed : List ObservationAdapterRegistration
  installedClasses : List InstalledClass
  leaseCount : Nat
  issued : Nat
  unreleased : List Nat

/-- The steps of an installation that do not throw an exception of their own. -/
structure InstallIo where
  request : AutomaticObservationClass → Nat → Bool
  register : AutomaticObservationClass → Bool
  syncBuiltinExports : Bool

/-- {lit}`MAX_INSTALLED`. -/
def maxInstalled : Nat :=
  7

/-- {lit}`registrationFor`, with none for an exception. -/
def Host.registrationFor (host : Host) (observationClass : AutomaticObservationClass) :
    Option ObservationAdapterRegistration :=
  host.implementationDigest.map fun digest =>
    { adapterId := "node-runtime-" ++ observationClassName observationClass
      adapterVersion := "1.0.0"
      observationClass := observationClass
      implementationDigest := digest }

/-- {lit}`installObservationAdapter`, with none for an exception. -/
def installObservationAdapter (registration : ObservationAdapterRegistration)
    (installed : List ObservationAdapterRegistration) :
    Option (List ObservationAdapterRegistration) :=
  if installed.any (·.observationClass == registration.observationClass) then none
  else if maxInstalled ≤ installed.length then none
  else some (registration :: installed)

/-- {lit}`removeObservationAdapter`. -/
def removeObservationAdapter (registration : ObservationAdapterRegistration)
    (installed : List ObservationAdapterRegistration) : List ObservationAdapterRegistration :=
  if installed.find? (·.observationClass == registration.observationClass) = some registration then
    installed.filter (·.observationClass != registration.observationClass)
  else installed

section Installing

variable (host : Host)

/-- The turn of one class in {lit}`installRuntimeObservationAdapters`. -/
def installClass (io : InstallIo) (observationClass : AutomaticObservationClass)
    (state : HookState) : HookState :=
  match host.registrationFor observationClass with
  | none => state
  | some registration =>
      match replaceProperties host observationClass (io.request observationClass) 0
          (requests observationClass) { table := state.table, log := [] } with
      | (false, patched) => { state with table := revertAll patched.log patched.table }
      | (true, patched) =>
          match if io.register observationClass then
              installObservationAdapter registration state.installed else none with
          | none => { state with table := revertAll patched.log patched.table }
          | some installed =>
              { state with
                table := patched.table
                installed := installed
                installedClasses :=
                  { registration := registration, restore := patched.log } ::
                    state.installedClasses }

/-- {lit}`restoreRuntimeObservationAdapters`. -/
def restoreClasses : List InstalledClass → HookState → HookState
  | [], state => { state with installedClasses := [] }
  | entry :: entries, state =>
      restoreClasses entries
        { state with
          table := revertAll entry.restore state.table
          installed := removeObservationAdapter entry.registration state.installed }

/-- {lit}`installRuntimeObservationAdapters`. -/
def installRuntimeObservationAdapters (io : InstallIo) (state : HookState) : HookState :=
  let state := AutomaticObservationClass.all.foldl
    (fun state observationClass => installClass host io observationClass state) state
  if io.syncBuiltinExports then state else restoreClasses state.installedClasses state

/-- {lit}`acquireRuntimeObservationAdapters`.  A lease is the number of those issued before. -/
def acquireRuntimeObservationAdapters (io : InstallIo) (state : HookState) : HookState :=
  let state :=
    if state.leaseCount = 0 then installRuntimeObservationAdapters host io state else state
  { state with
    leaseCount := state.leaseCount + 1
    issued := state.issued + 1
    unreleased := state.issued :: state.unreleased }

/-- The function that an acquire returned for a lease. -/
def release (lease : Nat) (state : HookState) : HookState :=
  if lease ∉ state.unreleased then state
  else
    let state :=
      { state with
        unreleased := state.unreleased.erase lease
        leaseCount := state.leaseCount - 1 }
    if state.leaseCount = 0 then restoreClasses state.installedClasses state else state

end Installing

/-! ## Runs -/

/-- What happens in a process that uses the SDK: leases, and properties that somebody else
replaces.  Calls of hooked functions leave the state of the hooks alone and are no events. -/
inductive Event where
  | acquire (io : InstallIo)
  | release (lease : Nat)
  | replace (key : Key) (descriptor : Plain)

/-- A state with the properties as they would be without the SDK, the properties that somebody else
replaced since the last installation, and the installations with what they found and installed. -/
structure Run where
  state : HookState
  application : Key → Plain
  touched : List Key
  installations : List (InstallIo × (Key → Plain) × List AutomaticObservationClass)

/-- The classes that are installed. -/
def HookState.classes (state : HookState) : List AutomaticObservationClass :=
  state.installedClasses.map (·.registration.observationClass)

namespace Run

variable (host : Host)

/-- A process in which the adapters were just imported. -/
def start : Run where
  state :=
    { table := fun key => (host.table key).val
      installed := []
      installedClasses := []
      leaseCount := 0
      issued := 0
      unreleased := [] }
  application := host.table
  touched := []
  installations := []

/-- One event. -/
def step (event : Event) (run : Run) : Run :=
  match event with
  | .acquire io =>
      let state := acquireRuntimeObservationAdapters host io run.state
      if run.state.leaseCount = 0 then
        { run with
          state := state
          touched := []
          installations := (io, run.application, state.classes) :: run.installations }
      else { run with state := state }
  | .release lease => { run with state := release lease run.state }
  | .replace key descriptor =>
      { run with
        state :=
          { run.state with table := Function.update run.state.table key descriptor.val }
        application := Function.update run.application key descriptor
        touched := key :: run.touched }

/-- A run after some events. -/
def after : List Event → Run → Run
  | [], run => run
  | event :: events, run => after events (run.step host event)

end Run

/-! ## Patches of an installation -/

section Patching

variable {host : Host}

/-- The properties that exist without the SDK: those of its replacements are left out. -/
def InScope (key : Key) : Prop :=
  ∀ observationClass index, key.owner ≠ .object (.hook observationClass index)

/-- What a patch of an installation is about. -/
structure Proper (table : Key → Option Descriptor) (key : Key)
    (patch : Patch Key (Option Descriptor)) : Prop where
  name : patch.name = key
  owned : patch.owned patch.hook = true
  former : patch.former = table key
  blind : ∀ descriptor : Plain, patch.owned descriptor.val = false
  hooked : patch.hook.any Descriptor.isHooked = true

/-- An own value is patched properly. -/
theorem definesValue_proper {table : Key → Option Descriptor}
    {observationClass : AutomaticObservationClass} {index : Nat} {admits : Value → Flags → Bool}
    {key : Key} {patch : Patch Key (Option Descriptor)}
    (patched : definesValue table (.hook observationClass index) admits key = .patched patch) :
    Proper table key patch := by
  unfold definesValue at patched
  split at patched
  · rename_i value flags found
    split at patched
    · cases patched
      refine ⟨rfl, by simp [valuePatch], found.symm, ?_, rfl⟩
      rintro ⟨descriptor, plain⟩
      rcases descriptor with - | ⟨value, flags⟩ | ⟨getter, setter, flags⟩
      · rfl
      · cases value with
        | foreign identity callable => simp [valuePatch]
        | hook observationClass index => simp [Descriptor.isHooked, Value.isHook] at plain
      · rfl
    · cases patched
  · cases patched

/-- A property is patched properly. -/
theorem replaceProperty_proper {table : Key → Option Descriptor}
    {observationClass : AutomaticObservationClass} {index : Nat} {method : Method} {key : Key}
    {patch : Patch Key (Option Descriptor)}
    (patched : replaceProperty host table (.hook observationClass index) method key =
      .patched patch) : Proper table key patch := by
  cases method with
  | patchValue => exact definesValue_proper patched
  | environment => exact definesValue_proper patched
  | httpFunction => exact definesValue_proper patched
  | patchFunction =>
      simp only [replaceProperty] at patched
      split at patched
      · exact definesValue_proper patched
      · cases patched
  | patchUnownedFunction =>
      simp only [replaceProperty] at patched
      split at patched
      · exact definesValue_proper patched
      · cases patched
  | patchMethod =>
      simp only [replaceProperty] at patched
      split at patched
      · exact definesValue_proper patched
      · cases patched
  | patchUnownedAccessor =>
      simp only [replaceProperty] at patched
      split at patched
      · rename_i getter setter flags found
        split at patched
        · split at patched
          · cases patched
            refine ⟨rfl, by simp [getterPatch], found.symm, ?_, rfl⟩
            rintro ⟨descriptor, plain⟩
            rcases descriptor with - | ⟨value, flags⟩ | ⟨getter, setter, flags⟩
            · rfl
            · rfl
            · rcases getter with - | ⟨identity, callable⟩ | ⟨observationClass, index⟩
              · simp [getterPatch]
              · simp [getterPatch]
              · simp [Descriptor.isHooked, Value.isHook] at plain
          · cases patched
        · cases patched
      · cases patched

/-- Copied properties belong to the replacement alone. -/
theorem copyFunctionProperties_of_ne {key other : Key} {replacement : Value}
    {table : Key → Option Descriptor} (different : other.owner ≠ .object replacement) :
    copyFunctionProperties key replacement table other = table other := by
  unfold copyFunctionProperties
  split
  · rcases table key with - | ⟨original, flags⟩ | ⟨getter, setter, flags⟩
    · rfl
    · exact if_neg different
    · rfl
  · rfl

/-- The replaced property itself is not copied. -/
theorem copyFunctionProperties_self {key : Key} {replacement : Value}
    {table : Key → Option Descriptor} :
    copyFunctionProperties key replacement table key = table key := by
  by_cases hrtime : key = hrtimeKey
  · apply copyFunctionProperties_of_ne
    simp [hrtime, hrtimeKey]
  · rw [copyFunctionProperties, if_neg hrtime]

/-- The patches of a log recognise no value that is foreign. -/
def Blind (log : List (Patch Key (Option Descriptor))) : Prop :=
  ∀ patch ∈ log, ∀ descriptor : Plain, patch.owned descriptor.val = false

/-- The empty log recognises nothing. -/
theorem blind_nil : Blind [] :=
  fun _ member => absurd member List.not_mem_nil

/-- The properties of an adapter are replaced one after another. -/
theorem replaceProperties_logged {base : Key → Option Descriptor}
    {observationClass : AutomaticObservationClass} {io : Nat → Bool} {index : Nat}
    {requests : List Request} {patched : Patched}
    (logged : Logged InScope base patched.log patched.table) (blind : Blind patched.log) :
    Logged InScope base (replaceProperties host observationClass io index requests patched).2.log
        (replaceProperties host observationClass io index requests patched).2.table ∧
      Blind (replaceProperties host observationClass io index requests patched).2.log := by
  induction requests generalizing index patched with
  | nil => exact ⟨logged, blind⟩
  | cons request requests ih =>
      rw [replaceProperties]
      split
      · split
        · exact ih logged blind
        · rename_i owner resolved
          dsimp only
          split
          · exact ⟨logged, blind⟩
          · exact ih logged blind
          · rename_i patch replaced
            have proper := replaceProperty_proper replaced
            apply ih
            · refine .patched (.outside logged ?_) patch proper.owned ?_
              · intro key inside
                exact copyFunctionProperties_of_ne (inside _ _)
              · rw [proper.former, proper.name, copyFunctionProperties_self]
            · intro other member
              rcases List.mem_cons.mp member with rfl | member
              · exact proper.blind
              · exact blind other member
      · exact ⟨logged, blind⟩

/-! ## Installed adapters -/

/-- What the restores of the installed classes take back, the newest first. -/
def wholeLog (entries : List InstalledClass) : List (Patch Key (Option Descriptor)) :=
  entries.flatMap (·.restore)

/-- The installed classes stand over the properties of the runtime. -/
structure Standing (base : Key → Option Descriptor) (state : HookState) : Prop where
  logged : Logged InScope base (wholeLog state.installedClasses) state.table
  blind : Blind (wholeLog state.installedClasses)
  registered : state.installed = state.installedClasses.map (·.registration)
  distinct : (state.installed.map (·.observationClass)).Nodup

/-- Taking back the properties of an adapter that cannot be installed leaves the others. -/
theorem Standing.taken_back {base : Key → Option Descriptor} {state : HookState}
    (standing : Standing base state) {patched : Patched}
    (logged : Logged InScope state.table patched.log patched.table) :
    Standing base { state with table := revertAll patched.log patched.table } where
  logged := .outside standing.logged fun _ inside => revertAll_logged logged inside rfl
  blind := standing.blind
  registered := standing.registered
  distinct := standing.distinct

/-- The turn of one class leaves the installed classes standing. -/
theorem standing_installClass {base : Key → Option Descriptor} {state : HookState}
    (standing : Standing base state) (io : InstallIo)
    (observationClass : AutomaticObservationClass) :
    Standing base (installClass host io observationClass state) := by
  unfold installClass
  split
  · exact standing
  · rename_i registration registered
    obtain ⟨logged, blind⟩ := @replaceProperties_logged host state.table observationClass
      (io.request observationClass) 0 (requests observationClass)
      { table := state.table, log := [] } (.base fun _ _ => rfl) (fun _ member => by cases member)
    split
    · rename_i patched failed
      rw [failed] at logged
      exact standing.taken_back logged
    · rename_i patched replaced
      rw [replaced] at logged blind
      split
      · exact standing.taken_back logged
      · rename_i installed published
        have fresh : installed = registration :: state.installed ∧
            registration.observationClass ∉ state.installed.map (·.observationClass) := by
          split at published
          · unfold installObservationAdapter at published
            split at published
            · cases published
            · rename_i unknown
              split at published
              · cases published
              · refine ⟨(Option.some.inj published).symm, ?_⟩
                intro known
                obtain ⟨entry, member, same⟩ := List.mem_map.mp known
                exact unknown (List.any_eq_true.mpr ⟨entry, member, beq_iff_eq.mpr same⟩)
          · cases published
        refine
          { logged := Logged.append logged standing.logged
            blind := ?_
            registered := ?_
            distinct := ?_ }
        · intro patch member
          rcases List.mem_append.mp member with new | old
          · exact blind patch new
          · exact standing.blind patch old
        · rw [fresh.1, standing.registered, List.map_cons]
        · rw [fresh.1, List.map_cons, List.nodup_cons]
          exact ⟨fresh.2, standing.distinct⟩

/-- The turns of several classes leave the installed classes standing. -/
theorem standing_installClasses {base : Key → Option Descriptor} {state : HookState}
    (standing : Standing base state) (io : InstallIo)
    (classes : List AutomaticObservationClass) :
    Standing base (classes.foldl
      (fun state observationClass => installClass host io observationClass state) state) := by
  induction classes generalizing state with
  | nil => exact standing
  | cons observationClass classes ih => exact ih (standing_installClass standing io _)

/-- Removing the newest registration leaves the others. -/
theorem removeObservationAdapter_cons {registration : ObservationAdapterRegistration}
    {installed : List ObservationAdapterRegistration}
    (distinct : ((registration :: installed).map (·.observationClass)).Nodup) :
    removeObservationAdapter registration (registration :: installed) = installed := by
  unfold removeObservationAdapter
  rw [if_pos (by simp)]
  rw [List.map_cons, List.nodup_cons] at distinct
  rw [List.filter_cons_of_neg (by simp), List.filter_eq_self]
  intro entry member
  simp only [bne_iff_ne, ne_eq]
  intro same
  exact distinct.1 (same ▸ List.mem_map_of_mem member)

/-- A restore takes back every installed class. -/
theorem restoreClasses_eq {entries : List InstalledClass} {state : HookState}
    (registered : state.installed = entries.map (·.registration))
    (distinct : (state.installed.map (·.observationClass)).Nodup) :
    restoreClasses entries state =
      { state with
        table := revertAll (wholeLog entries) state.table
        installed := []
        installedClasses := [] } := by
  induction entries generalizing state with
  | nil =>
      rw [restoreClasses]
      simp only [List.map_nil] at registered
      simp [wholeLog, revertAll, registered]
  | cons entry entries ih =>
      rw [restoreClasses]
      have removed : removeObservationAdapter entry.registration state.installed =
          entries.map (·.registration) := by
        rw [registered, List.map_cons] at distinct ⊢
        exact removeObservationAdapter_cons distinct
      have rest : ((entries.map (·.registration)).map (·.observationClass)).Nodup := by
        rw [registered, List.map_cons, List.map_cons, List.nodup_cons] at distinct
        exact distinct.2
      rw [removed, ih rfl rest]
      simp [wholeLog, revertAll_append]

/-- An installation without installed classes stands over the properties that it finds. -/
theorem standing_install {state : HookState} (io : InstallIo)
    (empty : state.installedClasses = []) (unregistered : state.installed = []) :
    Standing state.table (installRuntimeObservationAdapters host io state) := by
  have start : Standing state.table state := by
    refine ⟨?_, ?_, ?_, ?_⟩
    · rw [empty]
      exact .base fun _ _ => rfl
    · rw [empty]
      intro patch member
      cases member
    · rw [empty, unregistered, List.map_nil]
    · rw [unregistered]
      exact List.nodup_nil
  have standing := @standing_installClasses host _ _ start io AutomaticObservationClass.all
  unfold installRuntimeObservationAdapters
  dsimp only
  split
  · exact standing
  · rw [restoreClasses_eq standing.registered standing.distinct]
    refine ⟨?_, ?_, rfl, List.nodup_nil⟩
    · exact .base fun key inside => revertAll_logged standing.logged inside rfl
    · intro patch member
      cases member

/-! ## Runs of leases -/

/-- The leases of a state. -/
def HookState.leases (state : HookState) : Nat × Nat × List Nat :=
  (state.leaseCount, state.issued, state.unreleased)

/-- The turn of one class leaves the leases alone. -/
theorem leases_installClass (io : InstallIo) (observationClass : AutomaticObservationClass)
    (state : HookState) :
    (installClass host io observationClass state).leases = state.leases := by
  unfold installClass
  split
  · rfl
  · split
    · rfl
    · split
      · rfl
      · rfl

/-- A restore leaves the leases alone. -/
theorem leases_restoreClasses (entries : List InstalledClass) (state : HookState) :
    (restoreClasses entries state).leases = state.leases := by
  induction entries generalizing state with
  | nil => rfl
  | cons entry entries ih => exact ih _

/-- An installation leaves the leases alone. -/
theorem leases_install (io : InstallIo) (state : HookState) :
    (installRuntimeObservationAdapters host io state).leases = state.leases := by
  have classes (list : List AutomaticObservationClass) (state : HookState) :
      (list.foldl (fun state observationClass => installClass host io observationClass state)
        state).leases = state.leases := by
    induction list generalizing state with
    | nil => rfl
    | cons observationClass list ih => exact (ih _).trans (leases_installClass io _ state)
  unfold installRuntimeObservationAdapters
  dsimp only
  split
  · exact classes _ state
  · exact (leases_restoreClasses _ _).trans (classes _ state)

/-- The properties stand between a patched table and the properties of the application. -/
structure Between (base patched : Key → Option Descriptor) (run : Run) : Prop where
  logged : Logged InScope base (wholeLog run.state.installedClasses) patched
  untouched : ∀ key, InScope key → key ∉ run.touched →
    run.state.table key = patched key ∧ base key = (run.application key).val
  touched : ∀ key, InScope key → key ∈ run.touched →
    run.state.table key = (run.application key).val

/-- What every run keeps. -/
structure Kept (run : Run) : Prop where
  counted : run.state.leaseCount = run.state.unreleased.length
  numbered : ∀ lease ∈ run.state.unreleased, lease < run.state.issued
  single : run.state.unreleased.Nodup
  idle : run.state.leaseCount = 0 → run.state.installedClasses = []
  registered : run.state.installed = run.state.installedClasses.map (·.registration)
  distinct : (run.state.installed.map (·.observationClass)).Nodup
  blind : Blind (wholeLog run.state.installedClasses)
  between : ∃ base patched, Between base patched run

/-- Without a lease the properties are those of the application. -/
theorem Kept.restored {run : Run} (kept : Kept run) (free : run.state.leaseCount = 0) {key : Key}
    (inside : InScope key) : run.state.table key = (run.application key).val := by
  obtain ⟨base, patched, between⟩ := kept.between
  have logged := between.logged
  rw [kept.idle free] at logged
  by_cases touched : key ∈ run.touched
  · exact between.touched key inside touched
  · have ⟨same, original⟩ := between.untouched key inside touched
    exact same.trans ((logged.eq_newest inside).trans original)

/-- Taking back the installed classes gives the properties of the application. -/
theorem Kept.taken_back {run : Run} (kept : Kept run) {key : Key} (inside : InScope key) :
    revertAll (wholeLog run.state.installedClasses) run.state.table key =
      (run.application key).val := by
  obtain ⟨base, patched, between⟩ := kept.between
  by_cases touched : key ∈ run.touched
  · have foreign := between.touched key inside touched
    rw [revertAll_foreign, foreign]
    intro patch member _
    rw [foreign]
    exact kept.blind patch member (run.application key)
  · have ⟨same, original⟩ := between.untouched key inside touched
    exact (revertAll_logged between.logged inside same).trans original

/-- The leases are counted when a process starts. -/
theorem kept_start : Kept (.start host) where
  counted := rfl
  numbered _ member := absurd member List.not_mem_nil
  single := List.nodup_nil
  idle _ := rfl
  registered := rfl
  distinct := List.nodup_nil
  blind := blind_nil
  between := by
    refine ⟨fun key => (host.table key).val, fun key => (host.table key).val, ?_, ?_, ?_⟩
    · exact .base fun _ _ => rfl
    · exact fun _ _ _ => ⟨rfl, rfl⟩
    · exact fun _ _ touched => absurd touched List.not_mem_nil

/-- A further lease leaves the hooks in place. -/
theorem kept_acquire_held {run : Run} (kept : Kept run) (held : run.state.leaseCount ≠ 0)
    (io : InstallIo) : Kept (run.step host (.acquire io)) := by
  simp only [Run.step, acquireRuntimeObservationAdapters, if_neg held]
  refine
    { counted := ?_
      numbered := ?_
      single := ?_
      idle := nofun
      registered := kept.registered
      distinct := kept.distinct
      blind := kept.blind
      between := ?_ }
  · simp only [kept.counted, List.length_cons]
  · intro lease member
    rcases List.mem_cons.mp member with rfl | member
    · exact Nat.lt_succ_self _
    · exact Nat.lt_succ_of_lt (kept.numbered lease member)
  · rw [List.nodup_cons]
    exact ⟨fun member => Nat.lt_irrefl _ (kept.numbered _ member), kept.single⟩
  · obtain ⟨base, patched, between⟩ := kept.between
    exact ⟨base, patched, between.logged, between.untouched, between.touched⟩

/-- The first lease puts the hooks in place. -/
theorem kept_acquire_free {run : Run} (kept : Kept run) (free : run.state.leaseCount = 0)
    (io : InstallIo) : Kept (run.step host (.acquire io)) := by
  have empty := kept.idle free
  have unregistered : run.state.installed = [] := by
    rw [kept.registered, empty, List.map_nil]
  have standing := @standing_install host run.state io empty unregistered
  have leases := @leases_install host io run.state
  simp only [HookState.leases, Prod.mk.injEq] at leases
  obtain ⟨count, issued, unreleased⟩ := leases
  have none : run.state.unreleased = [] := by
    rw [← List.length_eq_zero_iff, ← kept.counted, free]
  simp only [Run.step, acquireRuntimeObservationAdapters, if_pos free]
  refine
    { counted := ?_
      numbered := ?_
      single := ?_
      idle := nofun
      registered := standing.registered
      distinct := standing.distinct
      blind := standing.blind
      between := ⟨run.state.table, _, standing.logged, ?_, ?_⟩ }
  · simp only [count, free, unreleased, none, List.length_cons, List.length_nil]
  · intro lease member
    simp only [unreleased, none, List.mem_singleton] at member
    rw [member]
    exact Nat.lt_succ_self _
  · simp only [unreleased, none]
    exact List.nodup_singleton _
  · intro key inside _
    exact ⟨rfl, kept.restored free inside⟩
  · exact fun _ _ touched => absurd touched List.not_mem_nil

/-- A release takes the hooks back with the last lease. -/
theorem kept_release {run : Run} (kept : Kept run) (lease : Nat) :
    Kept (run.step host (.release lease)) := by
  simp only [Run.step]
  unfold release
  split
  · exact kept
  · rename_i held
    have member : lease ∈ run.state.unreleased := not_not.mp held
    have length := List.length_erase_of_mem member
    have positive := List.length_pos_of_mem member
    have counted := kept.counted
    have rest : ∀ other ∈ run.state.unreleased.erase lease, other < run.state.issued :=
      fun other among => kept.numbered other (List.mem_of_mem_erase among)
    dsimp only
    split
    · rename_i last
      have back := @restoreClasses_eq run.state.installedClasses
        { run.state with
          leaseCount := run.state.leaseCount - 1
          unreleased := run.state.unreleased.erase lease } kept.registered kept.distinct
      rw [back]
      refine
        { counted := ?_
          numbered := rest
          single := kept.single.erase lease
          idle := fun _ => rfl
          registered := rfl
          distinct := List.nodup_nil
          blind := blind_nil
          between := ⟨fun key => (run.application key).val, fun key => (run.application key).val,
            .base fun _ _ => rfl, ?_, ?_⟩ }
      · simp only [length, counted]
      · exact fun key inside _ => ⟨kept.taken_back inside, rfl⟩
      · exact fun key inside _ => kept.taken_back inside
    · rename_i more
      refine
        { counted := ?_
          numbered := rest
          single := kept.single.erase lease
          idle := fun none => absurd none more
          registered := kept.registered
          distinct := kept.distinct
          blind := kept.blind
          between := ?_ }
      · simp only [length, counted]
      · obtain ⟨base, patched, between⟩ := kept.between
        exact ⟨base, patched, between.logged, between.untouched, between.touched⟩

/-- Every event keeps the leases. -/
theorem kept_step {run : Run} (kept : Kept run) (event : Event) : Kept (run.step host event) := by
  cases event with
  | acquire io =>
      by_cases free : run.state.leaseCount = 0
      · exact kept_acquire_free kept free io
      · exact kept_acquire_held kept free io
  | release lease => exact kept_release kept lease
  | replace key descriptor =>
      obtain ⟨base, patched, between⟩ := kept.between
      refine
        { counted := kept.counted
          numbered := kept.numbered
          single := kept.single
          idle := kept.idle
          registered := kept.registered
          distinct := kept.distinct
          blind := kept.blind
          between := ⟨base, patched, between.logged, ?_, ?_⟩ }
      · intro other inside untouched
        simp only [Run.step, List.mem_cons, not_or] at untouched
        simp only [Run.step, Function.update_of_ne untouched.1]
        exact between.untouched other inside untouched.2
      · intro other inside touched
        by_cases same : other = key
        · subst same
          simp only [Run.step, Function.update_self]
        · simp only [Run.step, List.mem_cons, same, false_or] at touched
          simp only [Run.step, Function.update_of_ne same]
          exact between.touched other inside touched

/-! ## Equal installations -/

/-- Two tables agree on the properties of known owners, among them what {lit}`process.hrtime` is. -/
structure Agree (known : Owner → Prop) (first second : Key → Option Descriptor) : Prop where
  host : ∀ object, known (.host object)
  same : ∀ key, known key.owner → first key = second key
  hrtime : ∀ value flags, first hrtimeKey = some (.data value flags) → known (.object value)

/-- What {lit}`process.hrtime` was before the patches of a log is known. -/
def KnownLog (known : Owner → Prop) (log : List (Patch Key (Option Descriptor))) : Prop :=
  ∀ patch ∈ log, patch.name = hrtimeKey →
    ∀ value flags, patch.former = some (.data value flags) → known (.object value)

variable {known : Owner → Prop} {first second : Key → Option Descriptor}

/-- An owner is found in both tables. -/
theorem Agree.resolve (agree : Agree known first second) (expression : OwnerExpression) :
    expression.resolve first = expression.resolve second ∧
      ∀ owner, expression.resolve first = some owner → known owner := by
  cases expression with
  | host object =>
      refine ⟨rfl, fun owner found => ?_⟩
      obtain rfl := Option.some.inj found
      exact agree.host object
  | hrtime =>
      have same := agree.same hrtimeKey (agree.host _)
      refine ⟨by simp only [OwnerExpression.resolve, same], fun owner found => ?_⟩
      simp only [OwnerExpression.resolve] at found
      split at found
      · rename_i value flags data
        obtain rfl := Option.some.inj found
        exact agree.hrtime value flags data
      · cases found

/-- The replacement of a property depends on this property alone. -/
theorem replaceProperty_congr {key : Key} (same : first key = second key) (replacement : Value)
    (method : Method) :
    replaceProperty host first replacement method key =
      replaceProperty host second replacement method key := by
  unfold replaceProperty readsFunction definesValue
  rw [same]

/-- A replaced own value was an own value before. -/
theorem definesValue_data {table : Key → Option Descriptor} {replacement : Value}
    {admits : Value → Flags → Bool} {key : Key} {patch : Patch Key (Option Descriptor)}
    (patched : definesValue table replacement admits key = .patched patch) :
    ∃ original flags, table key = some (.data original flags) ∧
      patch.hook = some (.data replacement flags) := by
  unfold definesValue at patched
  split at patched
  · rename_i value flags found
    split at patched
    · cases patched
      exact ⟨value, flags, found, rfl⟩
    · cases patched
  · cases patched

/-- A property gets an own value only if it had one before. -/
theorem replaceProperty_data {table : Key → Option Descriptor} {replacement : Value}
    {method : Method} {key : Key} {patch : Patch Key (Option Descriptor)}
    (patched : replaceProperty host table replacement method key = .patched patch)
    {value : Value} {flags : Flags} (data : patch.hook = some (.data value flags)) :
    value = replacement ∧ ∃ original flags, table key = some (.data original flags) := by
  have plain {admits : Value → Flags → Bool}
      (defined : definesValue table replacement admits key = .patched patch) :
      value = replacement ∧ ∃ original flags, table key = some (.data original flags) := by
    obtain ⟨original, flags, found, hook⟩ := definesValue_data defined
    rw [hook] at data
    simp only [Option.some.injEq, Descriptor.data.injEq] at data
    exact ⟨data.1.symm, original, flags, found⟩
  cases method with
  | patchValue => exact plain patched
  | environment => exact plain patched
  | httpFunction => exact plain patched
  | patchFunction =>
      simp only [replaceProperty] at patched
      split at patched
      · exact plain patched
      · cases patched
  | patchUnownedFunction =>
      simp only [replaceProperty] at patched
      split at patched
      · exact plain patched
      · cases patched
  | patchMethod =>
      simp only [replaceProperty] at patched
      split at patched
      · exact plain patched
      · cases patched
  | patchUnownedAccessor =>
      simp only [replaceProperty] at patched
      split at patched
      · split at patched
        · split at patched
          · cases patched
            cases data
          · cases patched
        · cases patched
      · cases patched

/-- The owners that are known after a property was replaced. -/
def knownAfter (known : Owner → Prop) (table : Key → Option Descriptor) (key : Key)
    (replacement : Value) (owner : Owner) : Prop :=
  known owner ∨ key = hrtimeKey ∧ owner = .object replacement ∧
    ∃ original flags, table key = some (.data original flags)

/-- Copied properties agree. -/
theorem Agree.copied (agree : Agree known first second) {key other : Key} {replacement : Value}
    (inside : knownAfter known first key replacement other.owner) :
    copyFunctionProperties key replacement first other =
      copyFunctionProperties key replacement second other := by
  by_cases hrtime : key = hrtimeKey
  · subst hrtime
    have same := agree.same hrtimeKey (agree.host _)
    simp only [copyFunctionProperties, if_true, ← same]
    rcases found : first hrtimeKey with - | ⟨original, flags⟩ | ⟨getter, setter, flags⟩
    · rcases inside with member | ⟨-, -, original, flags, data⟩
      · exact agree.same other member
      · rw [found] at data
        cases data
    · dsimp only
      by_cases own : other.owner = .object replacement
      · rw [if_pos own, if_pos own]
        split
        · rfl
        · exact agree.same _ (agree.hrtime original flags found)
      · rw [if_neg own, if_neg own]
        rcases inside with member | ⟨-, named, -⟩
        · exact agree.same other member
        · exact absurd named own
    · rcases inside with member | ⟨-, -, original, flags, data⟩
      · exact agree.same other member
      · rw [found] at data
        cases data
  · rw [copyFunctionProperties, copyFunctionProperties, if_neg hrtime, if_neg hrtime]
    rcases inside with member | ⟨named, -⟩
    · exact agree.same other member
    · exact absurd named hrtime

/-- Tables still agree after a property was replaced in both. -/
theorem Agree.replaced (agree : Agree known first second) {key : Key}
    {observationClass : AutomaticObservationClass} {index : Nat} {method : Method}
    {patch : Patch Key (Option Descriptor)}
    (patched : replaceProperty host first (.hook observationClass index) method key =
      .patched patch) :
    Agree (knownAfter known first key (.hook observationClass index))
      (apply patch (copyFunctionProperties key (.hook observationClass index) first))
      (apply patch (copyFunctionProperties key (.hook observationClass index) second)) where
  host object := .inl (agree.host object)
  same other inside := by
    by_cases named : other = patch.name
    · subst named
      rw [apply, apply, Function.update_self, Function.update_self]
    · rw [apply, apply, Function.update_of_ne named, Function.update_of_ne named]
      exact agree.copied inside
  hrtime value flags data := by
    have proper := replaceProperty_proper patched
    by_cases named : hrtimeKey = patch.name
    · rw [apply, ← named, Function.update_self] at data
      rcases replaceProperty_data patched data with ⟨same, original⟩
      rw [same]
      exact .inr ⟨proper.name.symm.trans named.symm, rfl, original⟩
    · rw [apply, Function.update_of_ne named,
        copyFunctionProperties_of_ne (by simp [hrtimeKey])] at data
      exact .inl (agree.hrtime value flags data)

/-- An adapter replaces the same properties in tables that agree. -/
theorem Agree.replaceProperties (agree : Agree known first second)
    {observationClass : AutomaticObservationClass} {io : Nat → Bool} {index : Nat}
    {requests : List Request} {log : List (Patch Key (Option Descriptor))}
    (knownLog : KnownLog known log) :
    ∃ known' : Owner → Prop, ∃ done log' first' second',
      NodeHooks.replaceProperties host observationClass io index requests ⟨first, log⟩ =
        (done, ⟨first', log'⟩) ∧
      NodeHooks.replaceProperties host observationClass io index requests ⟨second, log⟩ =
        (done, ⟨second', log'⟩) ∧
      Agree known' first' second' ∧ KnownLog known' log' ∧ ∀ owner, known owner → known' owner := by
  induction requests generalizing index log first second known with
  | nil => exact ⟨known, true, log, first, second, rfl, rfl, agree, knownLog, fun _ => id⟩
  | cons request requests ih =>
      have ⟨same, found⟩ := agree.resolve request.owner
      rw [NodeHooks.replaceProperties, NodeHooks.replaceProperties]
      split
      · rw [← same]
        cases resolved : request.owner.resolve first with
        | none => exact ih agree knownLog
        | some owner =>
            dsimp only
            have inside := found owner resolved
            have equal := agree.same { owner := owner, name := request.name } inside
            rw [← replaceProperty_congr equal]
            cases answer : replaceProperty host first (.hook observationClass index) request.method
                { owner := owner, name := request.name } with
            | thrown =>
                exact ⟨known, false, log, first, second, rfl, rfl, agree, knownLog, fun _ => id⟩
            | skipped => exact ih agree knownLog
            | patched patch =>
                have proper := replaceProperty_proper answer
                have after := agree.replaced answer
                have logAfter : KnownLog (knownAfter known first
                    { owner := owner, name := request.name } (.hook observationClass index))
                    (patch :: log) := by
                  intro other member named value flags former
                  rcases List.mem_cons.mp member with rfl | member
                  · refine .inl (agree.hrtime value flags ?_)
                    rw [← former, proper.former, ← proper.name, named]
                  · exact .inl (knownLog other member named value flags former)
                obtain ⟨known', done, log', first', second', ran, alsoRan, agrees, logs, more⟩ :=
                  @ih _ _ _ after (index + 1) (patch :: log) logAfter
                exact ⟨known', done, log', first', second', ran, alsoRan, agrees, logs,
                  fun owner before => more owner (.inl before)⟩
      · exact ⟨known, false, log, first, second, rfl, rfl, agree, knownLog, fun _ => id⟩

/-- Tables still agree after the same patches were taken back in both. -/
theorem Agree.taken_back (agree : Agree known first second)
    {log : List (Patch Key (Option Descriptor))} (knownLog : KnownLog known log) :
    Agree known (revertAll log first) (revertAll log second) where
  host := agree.host
  same key inside := revertAll_congr (agree.same key inside)
  hrtime value flags data := by
    rcases @revertAll_cases _ _ _ log first hrtimeKey with kept | ⟨patch, member, named, given⟩
    · exact agree.hrtime value flags (kept.symm.trans data)
    · exact knownLog patch member named value flags (given.symm.trans data)

/-- Two states have the same adapters over tables that agree. -/
structure Same (known : Owner → Prop) (state other : HookState) : Prop where
  agree : Agree known state.table other.table
  installed : state.installed = other.installed
  installedClasses : state.installedClasses = other.installedClasses

/-- The turn of one class does the same in both states. -/
theorem Same.installClass {state other : HookState} (same : Same known state other)
    (io : InstallIo) (observationClass : AutomaticObservationClass) :
    ∃ known' : Owner → Prop, Same known' (installClass host io observationClass state)
      (installClass host io observationClass other) := by
  unfold NodeHooks.installClass
  cases host.registrationFor observationClass with
  | none => exact ⟨known, same⟩
  | some registration =>
      have empty : KnownLog known [] := fun _ member => absurd member List.not_mem_nil
      obtain ⟨known', done, log, first, second, ran, alsoRan, agree, knownLog, -⟩ :=
        @Agree.replaceProperties host known state.table other.table same.agree observationClass
          (io.request observationClass) 0 (requests observationClass) [] empty
      rw [ran, alsoRan]
      cases done with
      | false => exact ⟨known', agree.taken_back knownLog, same.installed, same.installedClasses⟩
      | true =>
          dsimp only
          rw [← same.installed]
          split
          · exact ⟨known', agree.taken_back knownLog, rfl, same.installedClasses⟩
          · exact ⟨known', agree, rfl, by rw [same.installedClasses]⟩

/-- The classes that an installation installs depend on what it finds alone. -/
theorem Same.install {state other : HookState} (same : Same known state other) (io : InstallIo) :
    (installRuntimeObservationAdapters host io state).classes =
      (installRuntimeObservationAdapters host io other).classes := by
  have classes (list : List AutomaticObservationClass) :
      ∀ {known : Owner → Prop} {state other : HookState}, Same known state other →
        ∃ known' : Owner → Prop, Same known'
          (list.foldl (fun state observationClass =>
            NodeHooks.installClass host io observationClass state) state)
          (list.foldl (fun state observationClass =>
            NodeHooks.installClass host io observationClass state) other) := by
    induction list with
    | nil => exact fun {known _ _} same => ⟨known, same⟩
    | cons observationClass list ih =>
        intro known state other same
        obtain ⟨known', next⟩ := @Same.installClass host _ _ _ same io observationClass
        exact ih next
  obtain ⟨known', after⟩ := classes AutomaticObservationClass.all same
  have gone (entries : List InstalledClass) (state : HookState) :
      (restoreClasses entries state).classes = [] := by
    induction entries generalizing state with
    | nil => rfl
    | cons entry entries ih => exact ih _
  unfold installRuntimeObservationAdapters
  dsimp only
  split
  · exact congrArg (List.map (·.registration.observationClass)) after.installedClasses
  · rw [gone, gone]

/-! ## Whole runs -/

/-- The recorded installations installed what the same steps install from the properties that they
found. -/
structure Recorded (host : Host) (run : Run) : Prop where
  installed : ∀ entry ∈ run.installations, ∀ state : HookState, state.installed = [] →
    state.installedClasses = [] →
    (∀ key, InScope key → state.table key = (entry.2.1 key).val) →
    (installRuntimeObservationAdapters host entry.1 state).classes = entry.2.2
  held : run.state.leaseCount ≠ 0 →
    ∃ entry, run.installations.head? = some entry ∧ run.state.classes = entry.2.2

/-- The owners of properties that exist without the SDK. -/
def Inside (owner : Owner) : Prop :=
  ∀ observationClass index, owner ≠ .object (.hook observationClass index)

/-- States with the same properties of the application agree. -/
theorem agree_of_application {state other : HookState} {application : Key → Plain}
    (first : ∀ key, InScope key → state.table key = (application key).val)
    (second : ∀ key, InScope key → other.table key = (application key).val) :
    Agree Inside state.table other.table where
  host object := nofun
  same key inside := (first key inside).trans (second key inside).symm
  hrtime value flags data := by
    rw [first hrtimeKey nofun] at data
    have plain := (application hrtimeKey).property
    rw [data] at plain
    rintro observationClass index named
    obtain rfl := Owner.object.inj named
    simp [Descriptor.isHooked, Value.isHook] at plain

/-- Every event keeps the record of the installations. -/
theorem recorded_step {run : Run} (kept : Kept run) (recorded : Recorded host run) (event : Event) :
    Recorded host (run.step host event) := by
  cases event with
  | acquire io =>
      by_cases free : run.state.leaseCount = 0
      · have empty := kept.idle free
        have unregistered : run.state.installed = [] := by
          rw [kept.registered, empty, List.map_nil]
        simp only [Run.step, if_pos free]
        refine ⟨?_, fun _ => ⟨_, rfl, rfl⟩⟩
        intro entry member
        rcases List.mem_cons.mp member with rfl | member
        · intro state installed classes found
          have same : Same Inside state run.state :=
            { agree := agree_of_application found fun key inside => kept.restored free inside
              installed := installed.trans unregistered.symm
              installedClasses := classes.trans empty.symm }
          rw [same.install]
          simp only [acquireRuntimeObservationAdapters, if_pos free]
          rfl
        · exact recorded.installed entry member
      · simp only [Run.step, if_neg free, acquireRuntimeObservationAdapters]
        exact ⟨recorded.installed, fun _ => recorded.held free⟩
  | release lease =>
      simp only [Run.step]
      unfold release
      split
      · exact recorded
      · dsimp only
        split
        · rename_i last
          refine ⟨recorded.installed, fun held => ?_⟩
          have leases := leases_restoreClasses run.state.installedClasses
            { run.state with
              leaseCount := run.state.leaseCount - 1
              unreleased := run.state.unreleased.erase lease }
          have none := congrArg Prod.fst leases
          exact absurd (none.trans last) held
        · rename_i more
          exact ⟨recorded.installed, fun _ => recorded.held fun none => more (by simp [none])⟩
  | replace key descriptor => exact ⟨recorded.installed, recorded.held⟩

/-- What holds of the leases after any events of a process that uses the SDK. -/
structure Leases (host : Host) (run : Run) : Prop where
  counted : run.state.leaseCount = run.state.unreleased.length
  inPlace : ∀ key, InScope key → key ∉ run.touched → run.state.table key =
    (((wholeLog run.state.installedClasses).find? (·.name = key)).map (·.hook)).getD
      (run.application key).val
  foreign : ∀ key, InScope key → key ∈ run.touched →
    run.state.table key = (run.application key).val
  registered : run.state.installed = run.state.installedClasses.map (·.registration)
  held : run.state.unreleased ≠ [] →
    ∃ entry, run.installations.head? = some entry ∧ run.state.classes = entry.2.2
  restored : run.state.unreleased = [] → run.state.installedClasses = [] ∧
    run.state.installed = [] ∧
    ∀ key, InScope key → run.state.table key = (run.application key).val
  again : run.state.unreleased = [] → ∀ entry ∈ run.installations,
    (∀ key, InScope key → entry.2.1 key = run.application key) →
    (acquireRuntimeObservationAdapters host entry.1 run.state).classes = entry.2.2

/-- What every run keeps says where the hooks are. -/
theorem Kept.leases {run : Run} (kept : Kept run) (recorded : Recorded host run) :
    Leases host run where
  counted := kept.counted
  inPlace key inside untouched := by
    obtain ⟨base, patched, between⟩ := kept.between
    have ⟨same, original⟩ := between.untouched key inside untouched
    rw [same, between.logged.eq_newest inside, original]
  foreign key inside touched := by
    obtain ⟨base, patched, between⟩ := kept.between
    exact between.touched key inside touched
  registered := kept.registered
  held some := by
    refine recorded.held fun free => some ?_
    rw [← List.length_eq_zero_iff, ← kept.counted, free]
  restored none := by
    have free : run.state.leaseCount = 0 := by
      rw [kept.counted, none, List.length_nil]
    have empty := kept.idle free
    refine ⟨empty, ?_, fun key inside => kept.restored free inside⟩
    rw [kept.registered, empty, List.map_nil]
  again none entry member same := by
    have free : run.state.leaseCount = 0 := by
      rw [kept.counted, none, List.length_nil]
    have empty := kept.idle free
    have unregistered : run.state.installed = [] := by
      rw [kept.registered, empty, List.map_nil]
    have classes := recorded.installed entry member run.state unregistered empty
      fun key inside =>
        (kept.restored free inside).trans (congrArg Subtype.val (same key inside).symm)
    rw [← classes]
    simp only [acquireRuntimeObservationAdapters, if_pos free]
    rfl

/-- Every run keeps the leases and the record of the installations. -/
theorem kept_after {run : Run} (kept : Kept run) (recorded : Recorded host run)
    (events : List Event) :
    Kept (run.after host events) ∧ Recorded host (run.after host events) := by
  induction events generalizing run with
  | nil => exact ⟨kept, recorded⟩
  | cons event events ih => exact ih (kept_step kept event) (recorded_step kept recorded event)

end Patching

/-! ## Both SDKs -/

/-- After any events the hooks and the registrations of both SDKs are in place exactly while a
lease is held.  In the Python SDK an acquire after the last release succeeds with the steps of an
earlier one if the standard library has no default opener and nobody replaced an attribute, so that
it does in every quiet run.  In the Node.js SDK it installs the classes of the earlier one. -/
theorem hook_leases (platform : Platform) (defaultOpener : Option Nat)
    (events : List PythonHooks.Event) (host : Host) (hostEvents : List Event) :
    (let run := PythonHooks.Run.after platform events (.start platform defaultOpener)
     PythonHooks.Leases platform run ∧
       ((∀ event ∈ events, event.Quiet) → run.held = 0 → ∀ io ∈ run.installations,
         (acquireAutomaticAdapters platform io run.state).1 = true)) ∧
    Leases host (Run.after host hostEvents (.start host)) := by
  constructor
  · have start := @PythonHooks.kept_start platform defaultOpener
    have kept := PythonHooks.kept_after start events
    refine ⟨kept.leases, fun quiet free io before => ?_⟩
    have calm := calm_after start ⟨rfl, fun some => absurd rfl some⟩ quiet
    rw [acquire_again kept free before]
    refine ⟨calm.unopened ?_, hooksAreOriginal_of_calm kept calm free⟩
    exact List.ne_nil_of_mem before
  · have recorded : Recorded host (.start host) :=
      ⟨fun _ member => absurd member List.not_mem_nil, fun held => absurd rfl held⟩
    have ⟨kept, records⟩ := kept_after kept_start recorded hostEvents
    exact kept.leases records

/-- A standard library with all attributes. -/
def fullPlatform : Platform where
  original _ := ⟨0, false⟩
  clocks _ := true
  getrandom := true
  pread := true
  responseMethods _ := true
  implementationDigest := some "sha256:00"

/-- After a URL open without a context of its own the adapters cannot be acquired again. -/
theorem urlopen_blocks_acquire :
    ¬ ∀ (platform : Platform) (defaultOpener : Option Nat) (events : List PythonHooks.Event),
      (∀ event ∈ events, ∀ target value, event ≠ .replace target value) →
      let run := PythonHooks.Run.after platform events (.start platform defaultOpener)
      run.held = 0 → ∀ io ∈ run.installations,
        (acquireAutomaticAdapters platform io run.state).1 = true := by
  intro again
  let io : InstallStep → Bool := fun _ => true
  let start := PythonHooks.Run.start fullPlatform none
  have kept : PythonHooks.Kept fullPlatform start := PythonHooks.kept_start none
  have original : hooksAreOriginal fullPlatform start.state = true :=
    hooksAreOriginal_of_calm kept ⟨rfl, fun _ => rfl⟩ rfl
  have acquired : (acquireAutomaticAdapters fullPlatform io start.state).1 = true :=
    (acquire_idle kept rfl io).mpr ⟨original, fun _ _ => rfl, rfl, rfl, by intro none; cases none⟩
  let events : List PythonHooks.Event := [.acquire io, .urlopen ⟨false, true, 1⟩, .release]
  let run := start.after fullPlatform events
  have keptRun : PythonHooks.Kept fullPlatform run := PythonHooks.kept_after kept events
  have first : start.step fullPlatform (.acquire io) =
      { state := (acquireAutomaticAdapters fullPlatform io start.state).2
        held := 1
        touched := []
        installations := [io] } := by
    simp only [PythonHooks.Run.step, if_pos acquired]
    rfl
  let taken := (acquireAutomaticAdapters fullPlatform io start.state).2
  have last : run =
      { state := releaseAutomaticAdapters fullPlatform (taken.opened ⟨false, true, 1⟩)
        held := 0
        touched := []
        installations := [io] } := by
    simp only [run, events, PythonHooks.Run.after, first]
    rfl
  have free : run.held = 0 := by
    rw [last]
  have before : io ∈ run.installations := by
    rw [last]
    exact List.mem_singleton_self io
  have opener : run.state.defaultOpener ≠ none := by
    rw [last]
    simp only [release_defaultOpener, HookState.opened, Bool.false_eq_true, if_false]
    cases taken.defaultOpener with
    | none => exact Option.some_ne_none _
    | some opener => exact Option.some_ne_none _
  have succeeded := again fullPlatform none events (by simp [events]) free io before
  exact opener ((acquire_again keptRun free before).mp succeeded).1

end NodeHooks
end ReproItSdk
