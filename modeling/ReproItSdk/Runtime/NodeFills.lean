import ReproItSdk.Runtime.NodeReads

/-! # Random fills of the Node SDK

A random fill draws bytes into a typed array, a DataView or an ArrayBuffer.  The adapter records the
bytes of a region that it computes from the optional arguments, and a replay writes them back.  The
runtime computes its own region: it counts the offset and the size in elements of the view.

Main definitions:

- Structure {lit}`FillBuffer`: the memory of a buffer and the window of it that is filled.
- Function {lit}`FillBuffer.randomFillRegion`: the region that the adapter takes.
- Function {lit}`FillBuffer.liveRegion`: the region that the runtime fills.

Main results:

- Theorem {lit}`fill_replays_iff`: which fills are recorded and replayed exactly.
-/

namespace ReproItSdk
namespace Runtime
namespace Node

open Canonical

/-! ## Buffers and arguments -/

/-- What an application passes to be filled.  A view is a window of the memory of its buffer. -/
inductive FillTarget where
  | typedArray (element : ElementSize) (window : Region)
  | dataView (window : Region)
  | arrayBuffer
  | other
deriving DecidableEq, Repr

/-- The window of a memory that a target stands for. -/
def FillTarget.window (memory : Bytes) : FillTarget → Option Region
  | .typedArray _ window => some window
  | .dataView window => some window
  | .arrayBuffer => some ⟨0, memory.length⟩
  | .other => none

/-- {lit}`BYTES_PER_ELEMENT` of a target, or one. -/
def FillTarget.elementBytes : FillTarget → Nat
  | .typedArray element _ => element.bytes
  | _ => 1

/-- The memory of a buffer and what is filled of it. -/
structure FillBuffer where
  memory : Bytes
  target : FillTarget
  within : ∀ window ∈ target.window memory, window.offset + window.length ≤ memory.length

/-- An argument of a fill.  Neither the adapter nor the runtime takes one that is no number, and the
adapter takes no fraction. -/
inductive FillArgument where
  | undefined
  | integer (value : Int)
  | function
  | other
deriving DecidableEq, Repr

/-- The integer of an argument, with one for an argument that is not given. -/
def FillArgument.value? (missing : Int) : FillArgument → Option Int
  | .undefined => some missing
  | .integer value => some value
  | .function => none
  | .other => none

/-! ## The adapter -/

/-- {lit}`randomFillRegion`: its bytes are a region of the memory. -/
def FillBuffer.randomFillRegion (buffer : FillBuffer) (offset size : FillArgument) :
    Option Region := do
  let window ← buffer.target.window buffer.memory
  let offset ← offset.value? 0
  let length ← size.value? (window.length - offset)
  if validRandomLength length.toNat ∧ 0 ≤ offset ∧ offset + length ≤ window.length then
    some ⟨window.offset + offset.toNat, length.toNat⟩
  else none

/-- What {lit}`normalizeRandomFill` returns beside the callback. -/
structure NormalizedFill where
  offset : FillArgument
  size : FillArgument
deriving DecidableEq, Repr

/-- {lit}`normalizeRandomFill`. -/
def normalizeRandomFill (offset size callback : FillArgument) : Option NormalizedFill :=
  if offset = .function ∧ size = .undefined ∧ callback = .undefined then
    some ⟨.integer 0, .undefined⟩
  else if size = .function ∧ callback = .undefined then some ⟨offset, .undefined⟩
  else if callback = .function then some ⟨offset, size⟩
  else none

/-- {lit}`randomFillArguments`, after the buffer. -/
def randomFillArguments (normalized : NormalizedFill) : List FillArgument :=
  if normalized.size ≠ .undefined then [normalized.offset, normalized.size, .function]
  else if normalized.offset ≠ .integer 0 then [normalized.offset, .function]
  else [.function]

/-! ## The runtime -/

/-- The number of bytes of a size in elements, or the bytes that are left. -/
def FillArgument.bytes? (element rest : Int) : FillArgument → Option Int
  | .undefined => some rest
  | .integer size => some (size * element)
  | .function => none
  | .other => none

/-- The region of the memory that the runtime fills, when it accepts the arguments. -/
def FillBuffer.liveRegion (buffer : FillBuffer) (offset size : FillArgument) : Option Region := do
  let window ← buffer.target.window buffer.memory
  let offset ← offset.value? 0
  let start := offset * buffer.target.elementBytes
  let length ← size.bytes? buffer.target.elementBytes (window.length - start)
  if 0 ≤ start ∧ 0 ≤ length ∧ start + length ≤ window.length then
    some ⟨window.offset + start.toNat, length.toNat⟩
  else none

/-- {lit}`randomFill` of the runtime, with the arguments after the buffer. -/
def FillBuffer.liveFill (buffer : FillBuffer) : List FillArgument → Option Region
  | [callback] => if callback = .function then buffer.liveRegion .undefined .undefined else none
  | [offset, callback] =>
      if callback = .function then buffer.liveRegion offset .undefined else none
  | [offset, size, callback] =>
      if callback = .function then buffer.liveRegion offset size else none
  | _ => none

/-- The call forms of {lit}`randomFill`, with what stands between the buffer and the callback. -/
inductive FillForm where
  | whole
  | tail (offset : FillArgument)
  | range (offset size : FillArgument)
deriving DecidableEq, Repr

/-- {lit}`normalizeRandomFill` of the arguments of a call. -/
def FillForm.normalized : FillForm → Option NormalizedFill
  | .whole => normalizeRandomFill .function .undefined .undefined
  | .tail offset => normalizeRandomFill offset .function .undefined
  | .range offset size => normalizeRandomFill offset size .function

/-- A random fill. -/
inductive RandomFill where
  | randomFillSync (offset size : FillArgument)
  | randomFill (form : FillForm)
  | getRandomValues
deriving DecidableEq, Repr

/-- {lit}`byteLength` of a target. -/
def FillBuffer.byteLength (buffer : FillBuffer) : FillArgument :=
  (buffer.target.window buffer.memory).elim .undefined fun window => .integer window.length

/-- The region that {lit}`managedRandomFillSync`, {lit}`managedRandomFill` or
{lit}`managedGetRandomValues` observes.  A fill without one is unowned. -/
def FillBuffer.observed (buffer : FillBuffer) : RandomFill → Option Region
  | .randomFillSync offset size => buffer.randomFillRegion offset size
  | .randomFill form =>
      form.normalized.bind fun normalized =>
        buffer.randomFillRegion normalized.offset normalized.size
  | .getRandomValues => buffer.randomFillRegion (.integer 0) buffer.byteLength

/-- The region that the runtime fills when the adapter calls it. -/
def FillBuffer.filled (buffer : FillBuffer) : RandomFill → Option Region
  | .randomFillSync offset size => buffer.liveRegion offset size
  | .randomFill form => form.normalized.bind fun normalized =>
      buffer.liveFill (randomFillArguments normalized)
  | .getRandomValues => buffer.liveRegion .undefined .undefined

/-! ## Exact replays -/

/-- The bytes that a record holds. -/
def recordedValue (record : Bytes) : Option Bytes :=
  (parseResponse record).bind fun response => response.value.bind Base64.decode

/-- The drawn bytes of a fill are recorded, and a replay that starts with the memory before the fill
ends with the memory after it. -/
structure RecordsFill (sha256 : HashFunction) (memory : Bytes) (call : ObservedCall Bytes)
    (live : Region) (drawn : Bytes) : Prop where
  finished : ∀ engine : Nat → Bool, (∀ turn, engine turn = true) →
    ∃ record, call.capture sha256 engine (.ok (overwrite memory live.offset drawn)) =
      .finished record
  recorded : ∀ engine record,
    call.capture sha256 engine (.ok (overwrite memory live.offset drawn)) = .finished record →
      recordedValue record = some drawn
  replayed : ∀ engine record,
    call.capture sha256 engine (.ok (overwrite memory live.offset drawn)) = .finished record →
      call.replay sha256 (serving record) = .value (overwrite memory live.offset drawn)

/-- A fill that the runtime accepts is unowned, or recorded and replayed whatever is drawn. -/
def FillBuffer.Replays (sha256 : HashFunction) (buffer : FillBuffer) (fill : RandomFill) : Prop :=
  ∀ live ∈ buffer.filled fill, ∀ region ∈ buffer.observed fill, ∀ drawn : Bytes,
    drawn.length = live.length →
      RecordsFill sha256 buffer.memory (fillCall buffer.memory region) live drawn

/-- The elements have one byte, or neither an offset nor a size is given, or the number of bytes, as
the adapter counts it, is not one that it takes. -/
def FillBuffer.Countable (buffer : FillBuffer) (offset size : FillArgument) : Prop :=
  buffer.target.elementBytes = 1 ∨ (offset.value? 0 = some 0 ∧ size = .undefined) ∨
    ∀ window ∈ buffer.target.window buffer.memory, ∀ start ∈ offset.value? 0,
      ∀ length ∈ size.value? (window.length - start), validRandomLength length.toNat = false

/-- A fill that the runtime accepts counts bytes, or fills the whole window, or is too long or too
short to be observed. -/
def FillBuffer.HoldsWhen (buffer : FillBuffer) : RandomFill → Prop
  | .randomFillSync offset size =>
      (buffer.liveRegion offset size).isSome = true → buffer.Countable offset size
  | .randomFill .whole => True
  | .randomFill (.tail offset) =>
      (buffer.liveRegion offset .undefined).isSome = true → buffer.Countable offset .undefined
  | .randomFill (.range offset size) =>
      (buffer.liveRegion offset size).isSome = true → buffer.Countable offset size
  | .getRandomValues => True

/-! ## The regions of a fill -/

/-- What it means that the adapter takes a region. -/
theorem randomFillRegion_eq_some {buffer : FillBuffer} {offset size : FillArgument}
    {region : Region} : buffer.randomFillRegion offset size = some region ↔
      ∃ window start length, buffer.target.window buffer.memory = some window ∧
        offset.value? 0 = some start ∧ size.value? (window.length - start) = some length ∧
        (validRandomLength length.toNat = true ∧ 0 ≤ start ∧ start + length ≤ window.length) ∧
        region = ⟨window.offset + start.toNat, length.toNat⟩ := by
  simp only [FillBuffer.randomFillRegion, bind, Option.bind_eq_some_iff]
  constructor
  · rintro ⟨window, taken, start, given, length, counted, made⟩
    split at made
    · rename_i fits
      exact ⟨window, start, length, taken, given, counted, fits, (Option.some.inj made).symm⟩
    · cases made
  · rintro ⟨window, start, length, taken, given, counted, fits, rfl⟩
    exact ⟨window, taken, start, given, length, counted, if_pos fits⟩

/-- What it means that the runtime fills a region. -/
theorem liveRegion_eq_some {buffer : FillBuffer} {offset size : FillArgument} {region : Region} :
    buffer.liveRegion offset size = some region ↔
      ∃ window start length, buffer.target.window buffer.memory = some window ∧
        offset.value? 0 = some start ∧
        size.bytes? buffer.target.elementBytes
          (window.length - start * buffer.target.elementBytes) = some length ∧
        (0 ≤ start * buffer.target.elementBytes ∧ 0 ≤ length ∧
          start * buffer.target.elementBytes + length ≤ window.length) ∧
        region = ⟨window.offset + (start * buffer.target.elementBytes).toNat, length.toNat⟩ := by
  simp only [FillBuffer.liveRegion, bind, Option.bind_eq_some_iff]
  constructor
  · rintro ⟨window, taken, start, given, length, counted, made⟩
    split at made
    · rename_i fits
      exact ⟨window, start, length, taken, given, counted, fits, (Option.some.inj made).symm⟩
    · cases made
  · rintro ⟨window, start, length, taken, given, counted, fits, rfl⟩
    exact ⟨window, taken, start, given, length, counted, if_pos fits⟩

/-- The adapter takes valid regions of the memory. -/
theorem randomFillRegion_within {buffer : FillBuffer} {offset size : FillArgument}
    {region : Region} (taken : buffer.randomFillRegion offset size = some region) :
    region.offset + region.length ≤ buffer.memory.length ∧ region.length ≤ maxValueBytes := by
  rcases (randomFillRegion_eq_some).mp taken with
    ⟨window, start, length, owned, -, -, ⟨valid, positive, fits⟩, rfl⟩
  have within := buffer.within window owned
  simp only [validRandomLength, Bool.and_eq_true, decide_eq_true_eq] at valid
  constructor
  · dsimp only
    omega
  · exact valid.2

/-- The runtime fills regions of the memory. -/
theorem filledRegion_within {buffer : FillBuffer} {offset size : FillArgument} {live : Region}
    (filled : buffer.liveRegion offset size = some live) :
    live.offset + live.length ≤ buffer.memory.length := by
  rcases (liveRegion_eq_some).mp filled with
    ⟨window, start, length, owned, -, -, ⟨positive, enough, fits⟩, rfl⟩
  have within := buffer.within window owned
  dsimp only
  omega

/-- Elements have bytes. -/
theorem elementBytes_pos (target : FillTarget) : 0 < target.elementBytes := by
  cases target with
  | typedArray element window =>
      change 0 < element.bytes
      cases element <;> decide
  | dataView window => exact Nat.one_pos
  | arrayBuffer => exact Nat.one_pos
  | other => exact Nat.one_pos

/-- What the runtime accepts fits in the window when it is counted in bytes. -/
theorem fits_of_filled {buffer : FillBuffer} {offset size : FillArgument} {live window : Region}
    {start length : Int} (filled : buffer.liveRegion offset size = some live)
    (owned : buffer.target.window buffer.memory = some window)
    (given : offset.value? 0 = some start)
    (counted : size.value? (window.length - start) = some length)
    (valid : validRandomLength length.toNat = true) :
    0 ≤ start ∧ start + length ≤ window.length := by
  rcases (liveRegion_eq_some).mp filled with
    ⟨window', start', length', owned', given', counted', ⟨positive, enough, fits⟩, rfl⟩
  cases owned.symm.trans owned'
  cases given.symm.trans given'
  simp only [validRandomLength, Bool.and_eq_true, decide_eq_true_eq] at valid
  have element : (0 : Int) < buffer.target.elementBytes := by
    exact_mod_cast elementBytes_pos buffer.target
  generalize (buffer.target.elementBytes : Int) = bytes at *
  have low : 0 ≤ start := nonneg_of_mul_nonneg_left positive element
  constructor
  · exact low
  · cases size with
    | undefined =>
        cases counted
        omega
    | integer count =>
        cases counted
        cases counted'
        calc start + length ≤ (start + length) * bytes :=
              le_mul_of_one_le_right (by omega) element
          _ = start * bytes + length * bytes := Int.add_mul ..
          _ ≤ window.length := fits
    | function => cases counted
    | other => cases counted

/-- The adapter and the runtime take the same region when elements are bytes or the whole window is
filled, and regions of different lengths otherwise. -/
theorem region_of_arguments {buffer : FillBuffer} {offset size : FillArgument}
    {region live : Region} (observed : buffer.randomFillRegion offset size = some region)
    (filled : buffer.liveRegion offset size = some live) :
    (live.length = region.length →
        buffer.target.elementBytes = 1 ∨ (offset.value? 0 = some 0 ∧ size = .undefined)) ∧
      (buffer.target.elementBytes = 1 ∨ (offset.value? 0 = some 0 ∧ size = .undefined) →
        live = region) := by
  rcases (randomFillRegion_eq_some).mp observed with
    ⟨window, start, length, owned, given, counted, ⟨valid, positive, fits⟩, rfl⟩
  rcases (liveRegion_eq_some).mp filled with
    ⟨window', start', length', owned', given', counted', ⟨positive', enough', fits'⟩, rfl⟩
  cases owned.symm.trans owned'
  cases given.symm.trans given'
  simp only [validRandomLength, Bool.and_eq_true, decide_eq_true_eq] at valid
  have element := elementBytes_pos buffer.target
  generalize buffer.target.elementBytes = bytes at *
  cases size with
  | undefined =>
      cases counted
      cases counted'
      constructor
      · intro same
        have scaled : start * bytes = start := by
          dsimp only at same
          omega
        rcases mul_right_eq_self₀.mp scaled with one | zero
        · exact .inl (by exact_mod_cast one)
        · exact .inr ⟨by rw [given, zero], rfl⟩
      · rintro (rfl | ⟨zero, -⟩)
        · simp only [Nat.cast_one, Int.mul_one]
        · cases given.symm.trans zero
          simp only [Int.zero_mul]
  | integer count =>
      cases counted
      cases counted'
      constructor
      · intro same
        have scaled : length * bytes = length := by
          dsimp only at same
          omega
        rcases mul_right_eq_self₀.mp scaled with one | zero
        · exact .inl (by exact_mod_cast one)
        · omega
      · rintro (rfl | ⟨-, absent⟩)
        · simp only [Nat.cast_one, Int.mul_one]
        · cases absent
  | function => cases counted
  | other => cases counted

/-- The adapter and the runtime take the same region of a whole target. -/
theorem region_of_values {buffer : FillBuffer} {region live : Region}
    (observed : buffer.randomFillRegion (.integer 0) buffer.byteLength = some region)
    (filled : buffer.liveRegion .undefined .undefined = some live) : live = region := by
  rcases (liveRegion_eq_some).mp filled with ⟨window, start, length, owned, given, counted, -, rfl⟩
  have rest : buffer.byteLength = .integer window.length := by
    rw [FillBuffer.byteLength, owned, Option.elim_some]
  rw [rest] at observed
  rcases (randomFillRegion_eq_some).mp observed with
    ⟨window', start', length', owned', given', counted', -, rfl⟩
  cases owned.symm.trans owned'
  cases given
  cases given'
  cases counted
  cases counted'
  simp only [Int.zero_mul, Int.sub_zero]

/-! ## Call forms -/

/-- The offset and the size of a call form. -/
def FillForm.given : FillForm → NormalizedFill
  | .whole => ⟨.integer 0, .undefined⟩
  | .tail offset => ⟨offset, .undefined⟩
  | .range offset size => ⟨offset, size⟩

/-- Every call form is normalized to its offset and its size. -/
theorem normalized_form (form : FillForm) : form.normalized = some form.given := by
  cases form with
  | whole => rfl
  | tail offset => simp [FillForm.normalized, normalizeRandomFill, FillForm.given]
  | range offset size => simp [FillForm.normalized, normalizeRandomFill, FillForm.given]

/-- The runtime fills the region of the arguments that the adapter hands over. -/
theorem liveFill_normalized (buffer : FillBuffer) (normalized : NormalizedFill) :
    buffer.liveFill (randomFillArguments normalized) =
      buffer.liveRegion normalized.offset normalized.size := by
  unfold randomFillArguments
  split
  · rfl
  · rename_i missing
    rw [ne_eq, not_not] at missing
    rw [missing]
    split
    · rfl
    · rename_i start
      rw [ne_eq, not_not] at start
      rw [start]
      rfl

/-! ## Records of a fill -/

section Records

variable {sha256 : HashFunction}

/-- A record of a result holds the bytes that it is encoded as. -/
theorem recordedValue_captured {α : Type} {call : ObservedCall α} {result : α} {bytes : Bytes}
    {engine : Nat → Bool} {record : Bytes} (encoded : call.encode result = some (some bytes))
    (captured : call.capture sha256 engine (.ok result) = .finished record) :
    recordedValue record = some bytes := by
  simp only [ObservedCall.capture, encoded] at captured
  rcases finishCapture_finished sha256 engine call.request captured with ⟨valid, rfl⟩
  have plain : (capturedResponse (call.request.digest sha256) call.request "response" (some bytes)
      none none).Plain :=
    capturedResponse_plain sha256 _ call.request (.inr rfl) (some bytes)
      (fun _ among => by cases among) rfl
  have length := length_bytes plain
  have encoding := Base64.length_encode bytes
  rw [validatePair_response, validValue_encode, Bool.and_eq_true, decide_eq_true_eq] at valid
  have bounded := valid.1
  have short : (capturedResponse (call.request.digest sha256) call.request "response" (some bytes)
      none none).bytes.length ≤ maxResponseBytes := by
    change _ ≤ 512 + (Base64.encode bytes).length at length
    simp only [maxResponseBytes, maxValueBytes] at *
    omega
  rw [recordedValue, parseResponse_record short]
  exact Base64.decode_encode bytes

/-- The bytes of a memory where some were written. -/
theorem taken_overwrite {memory drawn : Bytes} {offset : Nat} (inside : offset ≤ memory.length) :
    ((overwrite memory offset drawn).drop offset).take drawn.length = drawn := by
  have front : (memory.take offset).length = offset := by
    rw [List.length_take]
    omega
  unfold overwrite
  rw [List.append_assoc, List.drop_left' front]
  exact List.take_left' rfl

/-- A fill of the region that the adapter takes is recorded and replayed. -/
theorem recordsFill_of_region {memory drawn : Bytes} {region : Region}
    (inside : region.offset + region.length ≤ memory.length)
    (bounded : region.length ≤ maxValueBytes) (length : drawn.length = region.length) :
    RecordsFill sha256 memory (fillCall memory region) region drawn := by
  have encoded : (fillCall memory region).encode (overwrite memory region.offset drawn) =
      some (some drawn) := by
    change some (some (((overwrite memory region.offset drawn).drop region.offset).take
      region.length)) = _
    rw [← length, taken_overwrite (by omega)]
  have decoded : (fillCall memory region).decode (some drawn) =
      some (overwrite memory region.offset drawn) := rfl
  have fits : validValue (fillCall memory region).request (some (Base64.encode drawn)) = true := by
    rw [validValue_encode]
    simp [fillCall, randomRequest, length, bounded]
  constructor
  · intro engine takes
    rcases captured_of_bytes encoded fits takes with ⟨record, captured, -⟩
    exact ⟨record, captured⟩
  · intro engine record captured
    exact recordedValue_captured encoded captured
  · intro engine record captured
    rw [replay_captured _ sha256 engine encoded captured, decoded]
    rfl

/-- What is recorded of a fill has the length of the region that the adapter takes. -/
theorem length_of_recordsFill {memory drawn : Bytes} {region live : Region}
    (inside : region.offset + region.length ≤ memory.length)
    (room : live.offset + drawn.length ≤ memory.length)
    (records : RecordsFill sha256 memory (fillCall memory region) live drawn) :
    drawn.length = region.length := by
  rcases records.finished (fun _ => true) (fun _ => rfl) with ⟨record, captured⟩
  have drew := records.recorded _ record captured
  have taken : recordedValue record = some (((overwrite memory live.offset drawn).drop
      region.offset).take region.length) := recordedValue_captured rfl captured
  rw [drew] at taken
  rw [Option.some.inj taken, List.length_take, List.length_drop, length_overwrite room]
  omega

end Records

/-! ## Which fills are replayed -/

/-- Which arguments are recorded and replayed exactly. -/
theorem arguments_iff (sha256 : HashFunction) (buffer : FillBuffer) (offset size : FillArgument) :
    (∀ live ∈ buffer.liveRegion offset size, ∀ region ∈ buffer.randomFillRegion offset size,
        ∀ drawn : Bytes, drawn.length = live.length →
          RecordsFill sha256 buffer.memory (fillCall buffer.memory region) live drawn) ↔
      ((buffer.liveRegion offset size).isSome = true → buffer.Countable offset size) := by
  constructor
  · intro replays accepted
    rcases Option.isSome_iff_exists.mp accepted with ⟨live, filled⟩
    cases observed : buffer.randomFillRegion offset size with
    | none =>
        right
        right
        intro window owned start given length counted
        by_contra valid
        rw [Bool.not_eq_false] at valid
        have taken := fits_of_filled filled owned given counted valid
        rw [randomFillRegion_eq_some.mpr ⟨window, start, length, owned, given, counted,
          ⟨valid, taken⟩, rfl⟩] at observed
        cases observed
    | some region =>
        have inside := randomFillRegion_within observed
        have room := filledRegion_within filled
        have drawn : (List.replicate live.length (0 : UInt8)).length = live.length :=
          List.length_replicate
        have records := replays live filled region observed _ drawn
        have same := length_of_recordsFill inside.1 (by omega) records
        rcases (region_of_arguments observed filled).1 (drawn.symm.trans same) with one | whole
        · exact .inl one
        · exact .inr (.inl whole)
  · intro countable live filled region observed drawn length
    have inside := randomFillRegion_within observed
    have same : live = region := by
      apply (region_of_arguments observed filled).2
      rcases countable (Option.isSome_iff_exists.mpr ⟨live, filled⟩) with one | whole | uncounted
      · exact .inl one
      · exact .inr whole
      · rcases (randomFillRegion_eq_some).mp observed with
          ⟨window, start, count, owned, given, counted, ⟨valid, -⟩, -⟩
        have invalid := uncounted window owned start given count counted
        rw [valid] at invalid
        cases invalid
    rw [same] at length ⊢
    exact recordsFill_of_region inside.1 inside.2 length

/-- A fill is unowned, or recorded and replayed exactly, when and only when it is one that the
runtime refuses, that counts bytes, that fills a whole window, or that is too short or too long. -/
theorem fill_replays_iff (sha256 : HashFunction) (buffer : FillBuffer) (fill : RandomFill) :
    buffer.Replays sha256 fill ↔ buffer.HoldsWhen fill := by
  cases fill with
  | randomFillSync offset size => exact arguments_iff sha256 buffer offset size
  | randomFill form =>
      have normal := normalized_form form
      simp only [FillBuffer.Replays, FillBuffer.filled, FillBuffer.observed, normal,
        Option.bind_some, liveFill_normalized]
      rw [arguments_iff sha256 buffer]
      cases form with
      | whole => exact iff_of_true (fun _ => .inr (.inl ⟨rfl, rfl⟩)) trivial
      | tail offset => rfl
      | range offset size => rfl
  | getRandomValues =>
      apply iff_of_true _ trivial
      intro live filled region observed drawn length
      have inside := randomFillRegion_within observed
      rw [region_of_values observed filled] at length ⊢
      exact recordsFill_of_region inside.1 inside.2 length

/-- A fill of the second of two elements of four bytes records seven bytes. -/
theorem second_element_misplaced : ¬ ∀ sha256 buffer fill,
    FillBuffer.Replays sha256 buffer fill := by
  intro all
  have digest : (List.replicate 32 (0 : UInt8)).length = 32 := rfl
  let buffer : FillBuffer := ⟨List.replicate 8 0, .typedArray .four ⟨0, 8⟩, by decide⟩
  have countable := (arguments_iff (fun _ => ⟨_, digest⟩) buffer (.integer 1) .undefined).mp
    (all _ buffer (.randomFillSync (.integer 1) .undefined)) (by decide)
  rcases countable with one | whole | uncounted
  · cases one
  · cases whole.1
  · have invalid := uncounted ⟨0, 8⟩ rfl 1 rfl 7 rfl
    cases invalid

end Node
end Runtime
end ReproItSdk
