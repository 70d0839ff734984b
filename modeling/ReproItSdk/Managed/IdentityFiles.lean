import Mathlib.Data.List.Infix
import Mathlib.Logic.Function.Basic
import ReproItSdk.Core.Model

/-! # Files of the workload identity

The key, the deployment metadata and the registration receipt of a workload are files of one
directory, which every process of the workload may create.  A call writes its value to a temporary
file and links that file to the final name, which succeeds for the first call only; any other call
reads what is there.  The file-system steps of the calls interleave in any order, and each call may
stop between two steps.

Main results:

- Theorem {lit}`Sound.step`: every step keeps the file and the calls.
- Theorem {lit}`created_once`: the file appears whole, stays, and is what every call returns.
-/

namespace ReproItSdk
namespace ManagedIdentity

variable {α : Type}

/-! ## Files -/

/-- A file of the identity: the bytes of a value, the value of bytes, and whether a call takes a
value that is stored already instead of its own. -/
structure IdentityFile (α : Type) where
  bytes : α → Bytes
  read : Bytes → Option α
  read_bytes : ∀ value, read (bytes value) = some value
  takes : α → α → Bool

/-- {lit}`WORKLOAD_KEY_BYTES`. -/
def workloadKeyBytes : Nat :=
  32

/-- The workload key, which {lit}`read_key` takes whatever it is. -/
def workloadKey : IdentityFile { key : Bytes // key.length = workloadKeyBytes } where
  bytes := Subtype.val
  read stored := if size : stored.length = workloadKeyBytes then some ⟨stored, size⟩ else none
  read_bytes key := dif_pos key.2
  takes _ _ := true

/-- The deployment metadata, which are taken from the same binding only. -/
def deploymentMetadata {Metadata Digest : Type} [DecidableEq Digest] (bytes : Metadata → Bytes)
    (read : Bytes → Option Metadata) (read_bytes : ∀ value, read (bytes value) = some value)
    (bindingDigest : Metadata → Digest) : IdentityFile Metadata :=
  ⟨bytes, read, read_bytes, fun own stored => bindingDigest stored == bindingDigest own⟩

/-- The registration receipt, which is taken only if it is the expected one. -/
def registrationReceipt {Receipt : Type} [DecidableEq Receipt] (bytes : Receipt → Bytes)
    (read : Bytes → Option Receipt) (read_bytes : ∀ value, read (bytes value) = some value) :
    IdentityFile Receipt :=
  ⟨bytes, read, read_bytes, fun own stored => stored == own⟩

/-! ## Calls -/

/-- Where a call is, with the bytes that it has written or read. -/
inductive Phase (α : Type) where
  | looking
  | creating
  | writing (written : Bytes)
  | linking (written : Bytes)
  | unlinking (created : Bool)
  | opening
  | reading (linked taken : Bytes)
  | returned (value : α)
  | failed

/-- The phases of all calls, and what the final name is linked to: the file of which call, and its
bytes, which nobody writes to any more. -/
structure Directory (α : Type) where
  phases : Nat → Phase α
  final : Option (Nat × Bytes)

/-- A call goes on with its next step, in which a write and a read transfer some of the bytes that
are missing, or it stops for good: it meets an error or its process crashes. -/
inductive Event where
  | proceed (count : Nat)
  | stop

namespace Directory

/-- A directory without the file, before any call. -/
def new : Directory α where
  phases _ := .looking
  final := none

/-- Change the phase of a call. -/
def goto (directory : Directory α) (id : Nat) (phase : Phase α) : Directory α :=
  { directory with phases := Function.update directory.phases id phase }

/-- The next step of a call that proposes a value: the lookup, a step of
{lit}`atomic_create_from_temporary`, or one of a reader. -/
def proceed (file : IdentityFile α) (own : α) (directory : Directory α) (id count : Nat) :
    Phase α → Directory α
  | .looking => directory.goto id (if directory.final.isSome then .opening else .creating)
  | .creating => directory.goto id (.writing [])
  | .writing written =>
      match (file.bytes own).drop written.length with
      | [] => directory.goto id (.linking written)
      | missing => directory.goto id (.writing (written ++ missing.take (count + 1)))
  | .linking written =>
      match directory.final with
      | none => { directory.goto id (.unlinking true) with final := some (id, written) }
      | some _ => directory.goto id (.unlinking false)
  | .unlinking created => directory.goto id (if created then .returned own else .opening)
  | .opening =>
      match directory.final with
      | none => directory.goto id .failed
      | some (_, linked) => directory.goto id (.reading linked [])
  | .reading linked taken =>
      match linked.drop taken.length with
      | [] =>
          match file.read taken with
          | none => directory.goto id .failed
          | some stored =>
              directory.goto id (if file.takes own stored then .returned stored else .failed)
      | missing => directory.goto id (.reading linked (taken ++ missing.take (count + 1)))
  | .returned _ | .failed => directory

/-- One step of a call. -/
def step (file : IdentityFile α) (proposed : Nat → α) (directory : Directory α)
    (event : Nat × Event) : Directory α :=
  match event.2, directory.phases event.1 with
  | .proceed count, phase => directory.proceed file (proposed event.1) event.1 count phase
  | .stop, .returned _ => directory
  | .stop, _ => directory.goto event.1 .failed

/-- The directory after some steps of some calls. -/
def run (file : IdentityFile α) (proposed : Nat → α) (directory : Directory α)
    (events : List (Nat × Event)) : Directory α :=
  events.foldl (step file proposed) directory

end Directory

/-! ## What every step keeps -/

section Steps

variable {file : IdentityFile α} {proposed : Nat → α} {directory before after : Directory α}
  {id : Nat} {phase : Phase α}

/-- What a call keeps to: its bytes are whole before they are linked, and it reads the value that
the final name is linked to and returns it if it is its own or one that it takes. -/
def Phase.Ok (file : IdentityFile α) (proposed : Nat → α) (directory : Directory α) (id : Nat) :
    Phase α → Prop
  | .looking | .creating | .failed => True
  | .writing written => written <+: file.bytes (proposed id)
  | .linking written => written = file.bytes (proposed id)
  | .unlinking true => ∃ linked, directory.final = some (id, linked)
  | .unlinking false | .opening => ∃ final, directory.final = some final
  | .reading linked taken => (∃ owner, directory.final = some (owner, linked)) ∧ taken <+: linked
  | .returned value => ∃ owner linked, directory.final = some (owner, linked) ∧
      value = proposed owner ∧ (owner = id ∨ file.takes (proposed id) value = true)

/-- What every step keeps. -/
structure Sound (file : IdentityFile α) (proposed : Nat → α) (directory : Directory α) :
    Prop where
  whole : ∀ owner linked, directory.final = some (owner, linked) →
    linked = file.bytes (proposed owner)
  calls : ∀ id, (directory.phases id).Ok file proposed directory id

/-- A step leads to a sound directory, in which a final name that was linked stays so. -/
structure Keeps (file : IdentityFile α) (proposed : Nat → α) (before after : Directory α) :
    Prop where
  sound : Sound file proposed after
  stays : ∀ final, before.final = some final → after.final = some final

/-- A call keeps to it while the final name stays. -/
theorem Phase.Ok.stays (ok : phase.Ok file proposed before id)
    (stays : ∀ final, before.final = some final → after.final = some final) :
    phase.Ok file proposed after id := by
  unfold Phase.Ok at ok ⊢
  split <;> simp only at ok
  · trivial
  · trivial
  · trivial
  · exact ok
  · exact ok
  · exact ok.imp fun linked final => stays _ final
  · exact ok.imp stays
  · exact ok.imp stays
  · exact ⟨ok.1.imp fun owner final => stays _ final, ok.2⟩
  · exact ok.imp fun owner => Exists.imp fun linked given => ⟨stays _ given.1, given.2⟩

/-- A step of one call that leaves the final name to the first one keeps everything. -/
theorem Sound.goes (sound : Sound file proposed before)
    (stays : ∀ final, before.final = some final → after.final = some final)
    (whole : ∀ owner linked, after.final = some (owner, linked) →
      linked = file.bytes (proposed owner))
    (moved : after.phases = Function.update before.phases id phase)
    (ok : phase.Ok file proposed after id) : Keeps file proposed before after := by
  refine ⟨⟨whole, fun other => ?_⟩, stays⟩
  rw [moved]
  by_cases own : other = id
  · subst own
    rw [Function.update_self]
    exact ok
  · rw [Function.update_of_ne own]
    exact (sound.calls other).stays stays

/-- A call that goes to a phase whose condition holds keeps everything. -/
theorem Sound.goto (sound : Sound file proposed directory)
    (ok : phase.Ok file proposed directory id) :
    Keeps file proposed directory (directory.goto id phase) :=
  sound.goes (fun _ final => final) sound.whole rfl (ok.stays fun _ final => final)

/-- A prefix that takes some of what is missing is a prefix. -/
theorem prefix_more {early whole : Bytes} (within : early <+: whole) (count : Nat) :
    early ++ (whole.drop early.length).take (count + 1) <+: whole := by
  obtain ⟨rest, rfl⟩ := within
  rw [List.drop_left]
  exact (List.prefix_append_right_inj early).mpr (List.take_prefix _ _)

/-- The next step of a call keeps the file and the calls. -/
theorem Sound.proceed (sound : Sound file proposed directory)
    (ok : phase.Ok file proposed directory id) (count : Nat) :
    Keeps file proposed directory (directory.proceed file (proposed id) id count phase) := by
  unfold Phase.Ok at ok
  unfold Directory.proceed
  split
  · refine sound.goto ?_
    cases final : directory.final with
    | none => trivial
    | some linked => exact ⟨linked, final⟩
  · exact sound.goto List.nil_prefix
  · split <;> rename_i missing
    · exact sound.goto (ok.eq_of_length_le (List.drop_eq_nil_iff.mp missing))
    · exact sound.goto (prefix_more ok count)
  · split <;> rename_i final
    · refine sound.goes (fun linked was => ?_) (fun owner linked now => ?_) rfl ⟨_, rfl⟩
      · rw [final] at was
        cases was
      · cases now
        exact ok
    · exact sound.goto ⟨_, final⟩
  · rename_i created
    cases created with
    | true => exact sound.goto ⟨id, ok.choose, ok.choose_spec, rfl, .inl rfl⟩
    | false => exact sound.goto ok
  · split <;> rename_i final
    · exact sound.goto trivial
    · exact sound.goto ⟨⟨_, final⟩, List.nil_prefix⟩
  · obtain ⟨⟨owner, final⟩, within⟩ := ok
    split <;> rename_i missing
    · rw [within.eq_of_length_le (List.drop_eq_nil_iff.mp missing), sound.whole owner _ final,
        file.read_bytes]
      refine sound.goto ?_
      split <;> rename_i takes
      · exact ⟨owner, _, final, rfl, .inr takes⟩
      · trivial
    · exact sound.goto ⟨⟨owner, final⟩, prefix_more within count⟩
  · exact ⟨sound, fun _ final => final⟩
  · exact ⟨sound, fun _ final => final⟩

/-- One step keeps the file and the calls. -/
theorem Sound.step (sound : Sound file proposed directory) (event : Nat × Event) :
    Keeps file proposed directory (directory.step file proposed event) := by
  unfold Directory.step
  split
  · exact sound.proceed (sound.calls event.1) _
  · exact ⟨sound, fun _ final => final⟩
  · exact sound.goto trivial

/-- Any steps keep the file and the calls. -/
theorem Sound.run (sound : Sound file proposed directory) (events : List (Nat × Event)) :
    Keeps file proposed directory (directory.run file proposed events) := by
  refine List.foldlRecOn (motive := Keeps file proposed directory) events _
    ⟨sound, fun _ final => final⟩ fun middle kept event _ => ?_
  have next := kept.sound.step event
  exact ⟨next.sound, fun linked final => next.stays linked (kept.stays linked final)⟩

end Steps

/-- Whatever the calls do, and whichever of them stop, the final name is absent or linked to the
whole bytes of one proposed value; once linked it stays so; and this value is what every call
returns, if it is its own or one that it takes. -/
theorem created_once (file : IdentityFile α) (proposed : Nat → α)
    (events later : List (Nat × Event)) :
    let directory := Directory.new.run file proposed events
    (∀ owner linked, directory.final = some (owner, linked) →
      linked = file.bytes (proposed owner) ∧
      (directory.run file proposed later).final = some (owner, linked)) ∧
    ∀ id value, directory.phases id = .returned value →
      ∃ owner linked, directory.final = some (owner, linked) ∧ value = proposed owner ∧
        (owner = id ∨ file.takes (proposed id) value = true) := by
  intro directory
  have start : Sound file proposed Directory.new := ⟨nofun, fun _ => trivial⟩
  have sound : Sound file proposed directory := (start.run events).sound
  refine ⟨fun owner linked final => ?_, fun id value returned => ?_⟩
  · exact ⟨sound.whole owner linked final, (sound.run later).stays _ final⟩
  · have ok := sound.calls id
    rw [returned] at ok
    exact ok

/-- Of two calls that find no key, the first one links its key and crashes before it removes its
temporary file; the second one leaves the key there and returns it. -/
example : let key (id : Nat) : { key : Bytes // key.length = workloadKeyBytes } :=
      ⟨List.replicate 32 (UInt8.ofNat id), List.length_replicate⟩
    (Directory.new.run workloadKey key ([(0, .proceed 0), (1, .proceed 0)] ++
      List.replicate 4 (0, .proceed 31) ++ (0, .stop) :: List.replicate 8 (1, .proceed 31))).phases
        1 = .returned (key 0) :=
  rfl

end ManagedIdentity
end ReproItSdk
