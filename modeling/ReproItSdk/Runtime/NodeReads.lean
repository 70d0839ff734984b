import ReproItSdk.Runtime.NodeObservation

/-! # Reads that the Node SDK observes

Each adapter makes an observed call of its arguments, or marks the operation as not owned.  A read
is well recorded when its live result is either replayed as it was or over the bound and abandoned.
The resolver of file names and the hash function are parameters.

Main definitions:

- Type {lit}`RuntimeRead`: a read with its live result.
- Predicate {lit}`RuntimeRead.Conforms`: results within the bound are recorded and replayed, and
  those over it are abandoned.

Main results:

- Theorem {lit}`contained_iff`: a fill is replayed when the adapter takes all of it.
- Theorem {lit}`conforms_iff`: which reads are well recorded.
-/

namespace ReproItSdk
namespace Runtime
namespace Node

open Unicode Json Decimal Canonical

/-! ## Strings -/

/-- The code units of a string. -/
abbrev JsString : Type :=
  List UInt16

/-- The text of a string, with replaced surrogates. -/
def JsString.text (string : JsString) : Text :=
  decodeUtf16 (string.map UInt16.toNat)

/-- The string of a text. -/
def JsString.ofText (text : Text) : JsString :=
  (utf16 text).map UInt16.ofNat

/-- {lit}`isWellFormed`: every surrogate has its other half. -/
def JsString.isWellFormed (string : JsString) : Bool :=
  JsString.ofText string.text = string

/-- {lit}`Buffer.from` of a string. -/
def JsString.bytes (string : JsString) : Bytes :=
  utf8 string.text

/-! ## Adapters -/

/-- {lit}`responseBytes`. -/
def responseBytes (bytes : Bytes) : Option Bytes :=
  if bytes.length ≤ maxValueBytes then some bytes else none

/-- {lit}`observedEnvironmentValue`, for the value of the variable or its absence.  A record that is
not a text is refused, as a capture makes no such record. -/
def observedEnvironmentValue (name : JsString) : Option (ObservedCall (Option JsString)) := do
  let target ← encodedTarget name.text
  return {
    request := { length := none, offset := none, operation := .environment, target := target }
    encode := fun value =>
      match value with
      | none => some none
      | some value => some (responseBytes value.bytes)
    decode := fun bytes =>
      match bytes with
      | none => some none
      | some bytes => (decodeUtf8 bytes).map fun text => some (JsString.ofText text) }

/-- The first argument of a file read. -/
inductive FileArgument where
  | path (name : JsString)
  | other
deriving DecidableEq, Repr

/-- The options of a file read. -/
inductive ReadOptions where
  | absent
  | settings (encoded : Bool)
  | encoding
deriving DecidableEq, Repr

/-- {lit}`returnsBuffer`. -/
def returnsBuffer : ReadOptions → Bool
  | .absent => true
  | .settings encoded => !encoded
  | .encoding => false

/-- {lit}`filesystemRequest`. -/
def filesystemRequest (resolve : JsString → JsString) (file : FileArgument)
    (options : ReadOptions) : Option SemanticRequest :=
  match file with
  | .other => none
  | .path name =>
      if returnsBuffer options then do
        let target ← encodedTarget (resolve name).text
        return {
          length := some maxValueBytes
          offset := some 0
          operation := .filesystem
          target := target }
      else none

/-- {lit}`managedReadFileSync`, {lit}`managedReadFile` and {lit}`managedPromiseReadFile`. -/
def managedReadFile (resolve : JsString → JsString) (file : FileArgument) (options : ReadOptions) :
    Option (ObservedCall Bytes) := do
  let request ← filesystemRequest resolve file options
  return { request := request, encode := fun content => some (responseBytes content), decode := id }

/-- {lit}`validRandomLength`. -/
def validRandomLength (length : Nat) : Bool :=
  0 < length && length ≤ maxValueBytes

/-- {lit}`randomRequest`. -/
def randomRequest (length : Nat) : SemanticRequest where
  length := some length
  offset := none
  operation := .randomness
  target := none

/-- {lit}`managedRandomBytes`. -/
def managedRandomBytes (size : Nat) : Option (ObservedCall Bytes) :=
  if validRandomLength size then
    some {
      request := randomRequest size
      encode := fun bytes => some (responseBytes bytes)
      decode := id }
  else none

/-- The bytes of a buffer after a write at an offset. -/
def overwrite (bytes : Bytes) (offset : Nat) (written : Bytes) : Bytes :=
  bytes.take offset ++ written ++ bytes.drop (offset + written.length)

/-- A region of a buffer. -/
structure Region where
  offset : Nat
  length : Nat
deriving DecidableEq, Repr

/-- A region lies in another one. -/
def Region.Within (inner outer : Region) : Prop :=
  outer.offset ≤ inner.offset ∧ inner.offset + inner.length ≤ outer.offset + outer.length

/-- {lit}`randomFillRegion` of the bytes of a buffer. -/
def randomFillRegion (bytes : Bytes) (offset : Nat) (size : Option Nat) : Option Region :=
  let length := size.getD (bytes.length - offset)
  if validRandomLength length && offset + length ≤ bytes.length then some ⟨offset, length⟩ else none

/-- The fill of a region.  Its result is the buffer with its bytes after the fill. -/
def fillCall (before : Bytes) (region : Region) : ObservedCall Bytes where
  request := randomRequest region.length
  encode := fun bytes => some (some ((bytes.drop region.offset).take region.length))
  decode := fun value => value.map (overwrite before region.offset)

/-- {lit}`managedRandomFillSync`, {lit}`managedRandomFill` and {lit}`managedGetRandomValues`. -/
def managedRandomFill (before : Bytes) (offset : Nat) (size : Option Nat) :
    Option (ObservedCall Bytes) :=
  (randomFillRegion before offset size).map (fillCall before)

/-- Every adapter makes a valid request. -/
theorem validateRequest_adapters :
    (∀ name, ∀ call ∈ observedEnvironmentValue name, validateRequest call.request = true) ∧
      (∀ resolve file options, ∀ call ∈ managedReadFile resolve file options,
        validateRequest call.request = true) ∧
      (∀ size, ∀ call ∈ managedRandomBytes size, validateRequest call.request = true) ∧
      ∀ before offset size, ∀ call ∈ managedRandomFill before offset size,
        validateRequest call.request = true := by
  refine ⟨?_, ?_, ?_, ?_⟩
  · intro name call owned
    rcases Option.bind_eq_some_iff.mp owned with ⟨target, encoded, made⟩
    cases made
    simp [validateRequest, validTarget_encodedTarget encoded]
  · intro resolve file options call owned
    rcases Option.bind_eq_some_iff.mp owned with ⟨request, requested, made⟩
    cases made
    unfold filesystemRequest at requested
    split at requested
    · cases requested
    · split at requested
      · rcases Option.bind_eq_some_iff.mp requested with ⟨target, encoded, made⟩
        cases made
        simp [validateRequest, validTarget_encodedTarget encoded, validLength, maxValueBytes]
      · cases requested
  · intro size call owned
    unfold managedRandomBytes at owned
    split at owned
    · rename_i valid
      cases owned
      simpa [validateRequest, randomRequest, validLength, validRandomLength] using valid
    · cases owned
  · intro before offset size call owned
    rcases Option.map_eq_some_iff.mp owned with ⟨region, taken, made⟩
    cases made
    simp only [randomFillRegion] at taken
    split at taken
    · rename_i valid
      cases taken
      rw [Bool.and_eq_true] at valid
      simpa [validateRequest, fillCall, randomRequest, validLength, validRandomLength] using valid.1
    · cases taken

/-! ## Reads -/

/-- A live result is recorded and replayed when it is within the bound, and abandoned when it is
not. -/
structure WellRecorded {α : Type} (sha256 : HashFunction) (call : ObservedCall α) (within : Prop)
    (result : α) : Prop where
  recorded : within → ∀ engine : Nat → Bool, (∀ turn, engine turn = true) →
    ∃ record, call.capture sha256 engine (.ok result) = .finished record ∧
      call.replay sha256 (serving record) = .value result
  abandoned : ¬ within → ∀ engine, call.capture sha256 engine (.ok result) = .abandoned

/-- {lit}`BYTES_PER_ELEMENT` of the arrays of bytes and of numbers. -/
inductive ElementSize where
  | one
  | two
  | four
  | eight
deriving DecidableEq, Repr

/-- The number of bytes of an element. -/
def ElementSize.bytes : ElementSize → Nat
  | .one => 1
  | .two => 2
  | .four => 4
  | .eight => 8

/-- The bytes that the runtime fills: it counts offsets and sizes in elements. -/
def liveRegion (element : ElementSize) (before : Bytes) (offset : Nat) (size : Option Nat) :
    Region where
  offset := offset * element.bytes
  length := size.elim (before.length - offset * element.bytes) (· * element.bytes)

/-- A read or a fill, with its live result or for every one that can be drawn. -/
inductive RuntimeRead where
  | environment (name : JsString) (value : Option JsString)
  | file (argument : FileArgument) (options : ReadOptions) (content : Bytes)
  | randomBytes (size : Nat)
  | randomFill (element : ElementSize) (before : Bytes) (offset : Nat) (size : Option Nat)
  | getRandomValues (before : Bytes)
deriving DecidableEq, Repr

/-- The fill of a region of a buffer is well recorded, whatever is drawn. -/
def FillConforms (sha256 : HashFunction) (before : Bytes) (offset : Nat) (size : Option Nat)
    (live : Region) : Prop :=
  ∀ call ∈ managedRandomFill before offset size, live.offset + live.length ≤ before.length →
    ∀ drawn : Bytes, drawn.length = live.length →
      WellRecorded sha256 call (live.length ≤ maxValueBytes) (overwrite before live.offset drawn)

/-- A read is well recorded when its adapter observes it. -/
def RuntimeRead.Conforms (sha256 : HashFunction) (resolve : JsString → JsString) :
    RuntimeRead → Prop
  | .environment name value =>
      ∀ call ∈ observedEnvironmentValue name,
        WellRecorded sha256 call (∀ text ∈ value, text.bytes.length ≤ maxValueBytes) value
  | .file argument options content =>
      ∀ call ∈ managedReadFile resolve argument options,
        WellRecorded sha256 call (content.length ≤ maxValueBytes) content
  | .randomBytes size =>
      ∀ call ∈ managedRandomBytes size, ∀ drawn : Bytes, drawn.length = size →
        WellRecorded sha256 call (size ≤ maxValueBytes) drawn
  | .randomFill element before offset size =>
      FillConforms sha256 before offset size (liveRegion element before offset size)
  | .getRandomValues before =>
      FillConforms sha256 before 0 (some before.length) ⟨0, before.length⟩

/-- An observed variable is set to a string without halves of pairs, an observed fill has no size or
elements of one byte. -/
def RuntimeRead.HoldsWhen : RuntimeRead → Prop
  | .environment name value =>
      (observedEnvironmentValue name).isSome = true → ∃ text, value = some text ∧
        (text.bytes.length ≤ maxValueBytes → text.isWellFormed = true)
  | .randomFill element before offset size =>
      (managedRandomFill before offset size).isSome = true →
        (liveRegion element before offset size).offset +
            (liveRegion element before offset size).length ≤ before.length →
          element = .one ∨ size = none
  | _ => True

/-! ## Which reads are well recorded -/

section Calls

variable {α : Type} {sha256 : HashFunction} {call : ObservedCall α} {result : α}

/-- A result whose bytes fit is recorded, and its replay decodes the bytes. -/
theorem captured_of_bytes {bytes : Bytes} (encoded : call.encode result = some (some bytes))
    (fits : validValue call.request (some (Base64.encode bytes)) = true) {engine : Nat → Bool}
    (takes : ∀ turn, engine turn = true) :
    ∃ record, call.capture sha256 engine (.ok result) = .finished record ∧
      call.replay sha256 (serving record) =
        (call.decode (some bytes)).elim .unavailable Replayed.value := by
  have valid : validatePair call.request
      (capturedResponse (call.request.digest sha256) call.request "response" (some bytes) none none)
      (call.request.digest sha256) = true := by
    rw [validatePair_response]
    exact fits
  have finished := finishCapture_valid sha256 engine call.request valid takes
  have captured : call.capture sha256 engine (.ok result) = .finished
      (capturedResponse (call.request.digest sha256) call.request "response" (some bytes) none none).bytes := by
    simp only [ObservedCall.capture, encoded]
    exact finished
  exact ⟨_, captured, replay_captured call sha256 engine encoded captured⟩

/-- A result without bytes is abandoned. -/
theorem abandoned_of_null (encoded : call.encode result = some none) (engine : Nat → Bool) :
    call.capture sha256 engine (.ok result) = .abandoned := by
  simp only [ObservedCall.capture, encoded]

/-- A result with bytes that fit is well recorded when it is decoded from them. -/
theorem wellRecorded_iff {bytes : Bytes} {within : Prop} (holds : within)
    (encoded : call.encode result = some (some bytes))
    (fits : validValue call.request (some (Base64.encode bytes)) = true) :
    WellRecorded sha256 call within result ↔ call.decode (some bytes) = some result := by
  constructor
  · intro recorded
    rcases recorded.recorded holds (fun _ => true) (fun _ => rfl) with ⟨record, captured, replayed⟩
    rw [replay_captured call sha256 _ encoded captured] at replayed
    cases decoded : call.decode (some bytes) with
    | none =>
        rw [decoded] at replayed
        cases replayed
    | some value =>
        rw [decoded] at replayed
        cases replayed
        rfl
  · intro decoded
    constructor
    · intro _ engine takes
      rcases captured_of_bytes encoded fits takes with ⟨record, captured, replayed⟩
      rw [decoded] at replayed
      exact ⟨record, captured, replayed⟩
    · exact fun beyond => absurd holds beyond

/-- A result over the bound without bytes is well recorded. -/
theorem wellRecorded_beyond {within : Prop} (beyond : ¬ within)
    (encoded : call.encode result = some none) : WellRecorded sha256 call within result where
  recorded := fun holds => absurd holds beyond
  abandoned := fun _ engine => abandoned_of_null encoded engine

/-- A result within the bound without bytes is not. -/
theorem not_wellRecorded {within : Prop} (holds : within)
    (encoded : call.encode result = some none) : ¬ WellRecorded sha256 call within result := by
  intro recorded
  rcases recorded.recorded holds (fun _ => true) (fun _ => rfl) with ⟨record, captured, -⟩
  rw [abandoned_of_null encoded] at captured
  cases captured

end Calls

section Reads

variable (sha256 : HashFunction)

/-- A read of a variable is well recorded when the variable is set to a well formed string. -/
theorem environment_iff {name : JsString} {value : Option JsString}
    {call : ObservedCall (Option JsString)} (owned : call ∈ observedEnvironmentValue name) :
    WellRecorded sha256 call (∀ text ∈ value, text.bytes.length ≤ maxValueBytes) value ↔
      ∃ text, value = some text ∧
        (text.bytes.length ≤ maxValueBytes → text.isWellFormed = true) := by
  rcases Option.bind_eq_some_iff.mp owned with ⟨target, encodedName, made⟩
  cases made
  cases value with
  | none =>
      constructor
      · exact fun recorded => absurd recorded (not_wellRecorded (fun _ among => by cases among) rfl)
      · rintro ⟨text, absent, -⟩
        cases absent
  | some text =>
      by_cases within : text.bytes.length ≤ maxValueBytes
      · have holds : ∀ other ∈ some text, other.bytes.length ≤ maxValueBytes := by
          rintro other found
          rwa [← Option.some.inj found]
        rw [wellRecorded_iff holds (congrArg some (if_pos within)) ?_]
        · change (decodeUtf8 (utf8 text.text)).map _ = _ ↔ _
          rw [decodeUtf8_utf8]
          constructor
          · intro same
            have whole : JsString.ofText text.text = text :=
              Option.some.inj (Option.some.inj same)
            exact ⟨text, rfl, fun _ => decide_eq_true whole⟩
          · rintro ⟨other, same, formed⟩
            cases same
            have whole : JsString.ofText text.text = text := of_decide_eq_true (formed within)
            exact congrArg (some ∘ some) whole
        · rw [validValue_encode]
          simp [within]
      · constructor
        · exact fun _ => ⟨text, rfl, fun short => absurd short within⟩
        · intro _
          apply wellRecorded_beyond
          · exact fun all => within (all text rfl)
          · exact congrArg some (if_neg within)

/-- A read of a file is well recorded. -/
theorem file_conforms {resolve : JsString → JsString} {argument : FileArgument}
    {options : ReadOptions} {call : ObservedCall Bytes}
    (owned : call ∈ managedReadFile resolve argument options) (content : Bytes) :
    WellRecorded sha256 call (content.length ≤ maxValueBytes) content := by
  rcases Option.bind_eq_some_iff.mp owned with ⟨request, requested, made⟩
  cases made
  have operation : request.operation = .filesystem ∧ request.length = some maxValueBytes := by
    unfold filesystemRequest at requested
    split at requested
    · cases requested
    · split at requested
      · rcases Option.bind_eq_some_iff.mp requested with ⟨target, encodedName, made⟩
        cases made
        exact ⟨rfl, rfl⟩
      · cases requested
  by_cases within : content.length ≤ maxValueBytes
  · apply (wellRecorded_iff within (congrArg some (if_pos within)) ?_).mpr
    · rfl
    · rw [validValue_encode]
      simp [operation, within]
  · exact wellRecorded_beyond within (congrArg some (if_neg within))

/-- So are bytes that are drawn. -/
theorem randomBytes_conforms {size : Nat} {call : ObservedCall Bytes}
    (owned : call ∈ managedRandomBytes size) {drawn : Bytes} (length : drawn.length = size) :
    WellRecorded sha256 call (size ≤ maxValueBytes) drawn := by
  subst length
  unfold managedRandomBytes at owned
  split at owned
  · rename_i valid
    cases owned
    have within : drawn.length ≤ maxValueBytes := by
      simp only [validRandomLength, Bool.and_eq_true, decide_eq_true_eq] at valid
      omega
    apply (wellRecorded_iff within (congrArg some (if_pos within)) ?_).mpr
    · rfl
    · rw [validValue_encode]
      simp [randomRequest, within]
  · cases owned

/-! ## Fills -/

/-- The bytes of a buffer after a write. -/
theorem getElem_overwrite {bytes written : Bytes} {offset : Nat}
    (fits : offset + written.length ≤ bytes.length) (position : Nat) :
    (overwrite bytes offset written)[position]? =
      if offset ≤ position ∧ position < offset + written.length then written[position - offset]?
      else bytes[position]? := by
  have front : (bytes.take offset).length = offset := by
    rw [List.length_take]
    omega
  unfold overwrite
  by_cases before : position < offset
  · rw [if_neg (by omega), List.append_assoc, List.getElem?_append_left (by omega),
      List.getElem?_take_of_lt before]
  · by_cases inside : position < offset + written.length
    · rw [if_pos ⟨by omega, inside⟩, List.getElem?_append_left (by
        rw [List.length_append]
        omega), List.getElem?_append_right (by omega), front]
    · rw [if_neg (by omega), List.getElem?_append_right (by
        rw [List.length_append]
        omega), List.getElem?_drop, List.length_append, front]
      congr 1
      omega

/-- A write does not change how long a buffer is. -/
theorem length_overwrite {bytes written : Bytes} {offset : Nat}
    (fits : offset + written.length ≤ bytes.length) :
    (overwrite bytes offset written).length = bytes.length := by
  simp only [overwrite, List.length_append, List.length_take, List.length_drop]
  omega

/-- A region of one buffer turns another one into it when they agree elsewhere. -/
theorem overwrite_region_iff {before after : Bytes} (length : after.length = before.length)
    {region : Region} (fits : region.offset + region.length ≤ before.length) :
    overwrite before region.offset ((after.drop region.offset).take region.length) = after ↔
      ∀ position, ¬ (region.offset ≤ position ∧ position < region.offset + region.length) →
        before[position]? = after[position]? := by
  have size : ((after.drop region.offset).take region.length).length = region.length := by
    rw [List.length_take, List.length_drop]
    omega
  have written (position : Nat) : (overwrite before region.offset
      ((after.drop region.offset).take region.length))[position]? =
        if region.offset ≤ position ∧ position < region.offset + region.length then
          ((after.drop region.offset).take region.length)[position - region.offset]?
        else before[position]? := by
    rw [getElem_overwrite (by omega), size]
  constructor
  · intro same position outside
    have here := written position
    rw [same, if_neg outside] at here
    exact here.symm
  · intro agree
    apply List.ext_getElem?
    intro position
    rw [written position]
    split
    · rename_i inside
      rw [List.getElem?_take_of_lt (by omega), List.getElem?_drop]
      congr 1
      omega
    · rename_i outside
      exact agree position outside

/-- A fill of a region that the adapter takes is well recorded when the buffer is its old bytes
with the new ones of that region. -/
theorem fill_iff {before after : Bytes} (length : after.length = before.length) {region : Region}
    (fits : region.offset + region.length ≤ before.length)
    (bounded : region.length ≤ maxValueBytes) {within : Prop} :
    WellRecorded sha256 (fillCall before region) within after ↔
      within ∧ ∀ position, ¬ (region.offset ≤ position ∧
        position < region.offset + region.length) → before[position]? = after[position]? := by
  have size : ((after.drop region.offset).take region.length).length = region.length := by
    rw [List.length_take, List.length_drop]
    omega
  have valid : validValue (fillCall before region).request
      (some (Base64.encode ((after.drop region.offset).take region.length))) = true := by
    rw [validValue_encode, size]
    simp [fillCall, randomRequest, bounded]
  by_cases holds : within
  · rw [wellRecorded_iff holds rfl valid]
    constructor
    · exact fun decoded => ⟨holds, (overwrite_region_iff length fits).mp (Option.some.inj decoded)⟩
    · exact fun both => congrArg some ((overwrite_region_iff length fits).mpr both.2)
  · constructor
    · intro recorded
      have finished : ∃ record, (fillCall before region).capture sha256 (fun _ => true)
          (.ok after) = .finished record ∧ _ := captured_of_bytes rfl valid (fun _ => rfl)
      rcases finished with ⟨record, captured, -⟩
      rw [recorded.abandoned holds] at captured
      cases captured
    · exact fun both => absurd both.1 holds

/-- A fill is well recorded when the adapter takes all that it changes. -/
theorem contained_iff {before : Bytes} {offset : Nat} {size : Option Nat} {region live : Region}
    (taken : randomFillRegion before offset size = some region)
    (fits : live.offset + live.length ≤ before.length) :
    FillConforms sha256 before offset size live ↔ live.length = 0 ∨ live.Within region := by
  have made : managedRandomFill before offset size = some (fillCall before region) := by
    rw [managedRandomFill, taken, Option.map_some]
  have bounds : region.offset + region.length ≤ before.length ∧ region.length ≤ maxValueBytes := by
    simp only [randomFillRegion] at taken
    split at taken
    · rename_i valid
      cases taken
      simp only [validRandomLength, Bool.and_eq_true, decide_eq_true_eq] at valid
      exact ⟨valid.2, valid.1.2⟩
    · cases taken
  constructor
  · intro conforms
    by_cases empty : live.length = 0
    · exact .inl empty
    · -- A draw that changes every byte of the live region shows whether all of it is taken.
      have drawn : (((before.drop live.offset).take live.length).map (· + 1)).length =
          live.length := by
        rw [List.length_map, List.length_take, List.length_drop]
        omega
      have recorded := conforms _ made fits _ drawn
      rw [fill_iff sha256 (length_overwrite (by omega)) bounds.1 bounds.2] at recorded
      have changed (position : Nat) (low : live.offset ≤ position)
          (high : position < live.offset + live.length) :
          region.offset ≤ position ∧ position < region.offset + region.length := by
        by_contra outside
        have same := recorded.2 position outside
        rw [getElem_overwrite (by omega), drawn, if_pos ⟨low, high⟩, List.getElem?_map,
          List.getElem?_take_of_lt (by omega), List.getElem?_drop,
          Nat.add_sub_cancel' low] at same
        have present : position < before.length := by omega
        rw [List.getElem?_eq_getElem present, Option.map_some] at same
        have byte := congrArg UInt8.toNat (Option.some.inj same)
        rw [UInt8.toNat_add, UInt8.toNat_one] at byte
        omega
      have first := changed live.offset le_rfl (by omega)
      have last := changed (live.offset + live.length - 1) (by omega) (by omega)
      exact .inr ⟨first.1, by omega⟩
  · intro contained call owned _ drawn length
    rw [made] at owned
    cases owned
    apply (fill_iff sha256 (length_overwrite (by omega)) bounds.1 bounds.2).mpr
    rcases contained with empty | within
    · constructor
      · rw [empty]
        exact Nat.zero_le _
      · intro position _
        rw [getElem_overwrite (by omega), if_neg (by omega)]
    · have low := within.1
      have high := within.2
      constructor
      · omega
      · intro position outside
        rw [getElem_overwrite (by omega), if_neg (by omega)]

/-- The region that an adapter takes has the size that it was given. -/
theorem randomFillRegion_some {before : Bytes} {offset : Nat} {size : Option Nat} {region : Region}
    (taken : randomFillRegion before offset size = some region) :
    region = ⟨offset, size.getD (before.length - offset)⟩ ∧ 0 < region.length ∧
      offset + region.length ≤ before.length := by
  simp only [randomFillRegion] at taken
  split at taken
  · rename_i valid
    cases taken
    simp only [validRandomLength, Bool.and_eq_true, decide_eq_true_eq] at valid
    exact ⟨rfl, valid.1.1, valid.2⟩
  · cases taken

/-- The adapter takes what the runtime fills when it is given no size or elements of one byte. -/
theorem liveRegion_within {element : ElementSize} {before : Bytes} {offset : Nat}
    {size : Option Nat} {region : Region}
    (taken : randomFillRegion before offset size = some region)
    (fits : (liveRegion element before offset size).offset +
      (liveRegion element before offset size).length ≤ before.length) :
    ((liveRegion element before offset size).length = 0 ∨
        (liveRegion element before offset size).Within region) ↔
      element = .one ∨ size = none := by
  rcases randomFillRegion_some taken with ⟨rfl, positive, inside⟩
  simp only [Region.Within]
  cases size with
  | none =>
      simp only [liveRegion, Option.elim_none, Option.getD_none] at *
      constructor
      · exact fun _ => .inr trivial
      · intro _
        right
        cases element with
        | one => simp only [ElementSize.bytes] at *; omega
        | two => simp only [ElementSize.bytes] at *; omega
        | four => simp only [ElementSize.bytes] at *; omega
        | eight => simp only [ElementSize.bytes] at *; omega
  | some size =>
      simp only [liveRegion, Option.elim_some, Option.getD_some] at *
      cases element with
      | one => simp only [ElementSize.bytes, Nat.mul_one, le_refl, and_self, or_true, true_or]
      | two =>
          simp only [ElementSize.bytes, reduceCtorEq, or_self, iff_false]
          omega
      | four =>
          simp only [ElementSize.bytes, reduceCtorEq, or_self, iff_false]
          omega
      | eight =>
          simp only [ElementSize.bytes, reduceCtorEq, or_self, iff_false]
          omega

end Reads
end Node
end Runtime
end ReproItSdk
