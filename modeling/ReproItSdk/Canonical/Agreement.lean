import ReproItSdk.Canonical.Encoders
import ReproItSdk.Canonical.GoRoundTrip

/-! # The SDKs agree on canonical JSON

The digests of a protocol value are taken from its canonical bytes, so every SDK has to write the
same ones.

Main results:

- Theorem {lit}`same_bytes_iff`: the four SDKs write the same bytes for a value exactly when none of
  its texts contains an escape that the Go SDK replaces and its keys stand in one order by code
  points, by code units and as properties of an object.
- Theorem {lit}`different_bytes`: values for which one SDK writes other bytes.
-/

namespace ReproItSdk.Canonical

open Unicode Json Decimal

/-! ## Go values -/

/-- Go types that hold an integer. -/
inductive IntegerForm where
  | int
  | int64
  | number

/-- An integer in one of the Go types. -/
def goInteger (form : Int → IntegerForm) (value : Int) : GoValue :=
  match form value with
  | .int => .int value
  | .int64 => .int64 value
  | .number => .number (decimal value)

mutual

/-- The Go value of a JSON value, with any of the types for its integers. -/
def goValue (form : Int → IntegerForm) : Document Int → GoValue
  | .null => .nil
  | .bool value => .bool value
  | .number value => goInteger form value
  | .string text => .string text
  | .array elements => .slice (goElements form elements)
  | .object members => .map (goMembers form members)

/-- The Go values of the elements of an array. -/
def goElements (form : Int → IntegerForm) : List (Document Int) → List GoValue
  | [] => []
  | first :: rest => goValue form first :: goElements form rest

/-- The Go values of the members of an object. -/
def goMembers (form : Int → IntegerForm) : List (Text × Document Int) → List (Text × GoValue)
  | [] => []
  | (key, value) :: rest => (key, goValue form value) :: goMembers form rest

end

theorem goElements_eq (form : Int → IntegerForm) (elements : List (Document Int)) :
    goElements form elements = elements.map (goValue form) := by
  induction elements with
  | nil => rfl
  | cons first rest ih => rw [goElements, ih, List.map_cons]

theorem goMembers_eq (form : Int → IntegerForm) (members : List (Text × Document Int)) :
    goMembers form members = members.map fun member => (member.1, goValue form member.2) := by
  induction members with
  | nil => rfl
  | cons first rest ih => rw [goMembers, ih, List.map_cons]

/-- The digits of a number of 64 bits are read back. -/
theorem parseInt64_decimal {value : Int} (low : -2 ^ 63 ≤ value) (high : value < 2 ^ 63) :
    parseInt64 (decimal value) = some value := by
  have digits (magnitude : Nat) : Nat.toDigits 10 magnitude ≠ [] ∧
      (Nat.toDigits 10 magnitude).all Char.isDigit = true := by
    refine ⟨Nat.toDigits_ne_nil, List.all_eq_true.mpr fun digit among => isDigit_of_mem among⟩
  unfold decimal
  split
  case isTrue negative =>
    simp only [parseInt64, List.head?_cons, if_true, true_or, List.tail_cons,
      if_pos (digits value.natAbs), Nat.ofDigitChars_ten_toDigits]
    rw [if_pos (by omega)]
    exact congrArg some (by omega)
  case isFalse positive =>
    obtain ⟨first, rest, written, number⟩ := decimal_head value
    rw [decimal, if_neg positive] at written
    have digit := (digits value.natAbs).2
    rw [written, List.all_cons, Bool.and_eq_true] at digit
    have noMinus : first ≠ '-' := by
      rintro rfl
      exact absurd digit.1 (by decide)
    have noPlus : first ≠ '+' := by
      rintro rfl
      exact absurd digit.1 (by decide)
    have read := Nat.ofDigitChars_ten_toDigits (n := value.natAbs)
    have all := digits value.natAbs
    rw [written] at read all ⊢
    simp only [parseInt64, List.head?_cons, Option.some.injEq, noMinus, noPlus, or_self, if_false,
      if_pos all, read]
    rw [if_pos (by omega)]
    exact congrArg some (by omega)

/-- The Go value of a JSON value is a value of the bridge. -/
theorem bridge_goValue (form : Int → IntegerForm) {value : Document Int} (isJson : IsJson value) :
    Bridge (goValue form value) := by
  induction isJson with
  | null => exact .nil
  | bool value => exact .bool value
  | number value small =>
      rw [goValue, goInteger]
      cases form value with
      | int => exact .int value
      | int64 => exact .int64 value
      | number => exact .number _ value (parseInt64_decimal (by omega) (by omega)) rfl
  | string text _ => exact .string text
  | array elements _ ih =>
      rw [goValue, goElements_eq]
      exact .slice _ (by simpa using ih)
  | object members distinct _ _ ih =>
      rw [goValue, goMembers_eq]
      refine .map _ (by simpa [Function.comp_def] using distinct) ?_
      rw [List.forall_mem_map]
      exact ih

/-- The Go value of a JSON value holds the JSON value. -/
theorem tree_goValue (form : Int → IntegerForm) (value : Document Int) :
    tree (goValue form value) = value.map decimal := by
  induction value using Document.induction with
  | number value =>
      rw [goValue, goInteger]
      cases form value <;> rfl
  | array elements ih =>
      rw [goValue, tree, goElements_eq, treeElements_eq, List.map_map, Document.map, Document.mapElements_eq]
      exact congrArg Document.array (List.map_congr_left ih)
  | object members ih =>
      rw [goValue, tree, goMembers_eq, treeMembers_eq, List.map_map, Document.map, Document.mapMembers_eq]
      exact congrArg Document.object (List.map_congr_left fun member among => congrArg _ (ih member among))
  | _ => rfl

/-- Go sorts keys by bytes and writes strings its own way. -/
theorem CanonicalBytes_goValue (form : Int → IntegerForm) (value : JsonValue) :
    CanonicalBytes (goValue form value.document) =
      .ok (utf8 (renderWith encodeString (canonicalDocument utf8 value.document))) := by
  rw [CanonicalBytes_bridge (bridge_goValue form value.isJson), content, tree_goValue,
    canonicalDocument, Document.map_sorted]

/-! ## Orders of keys -/

/-- One key stands before another one among the properties of an object: array indexes by their
numbers before other keys by their code units. -/
def PropertyBefore (left right : Text) : Prop :=
  match Node.arrayIndex? left, Node.arrayIndex? right with
  | some index, some index' => index < index'
  | some _, none => True
  | none, some _ => False
  | none, none => utf16 left < utf16 right

/-- Keys stand in one order by code points, by code units and as properties of an object. -/
def OneOrder (keys : List Text) : Prop :=
  ∀ left ∈ keys, ∀ right ∈ keys, left < right → utf16 left < utf16 right ∧ PropertyBefore left right

/-- The order of properties is the order of their codes. -/
theorem propertyBefore_iff (left right : Text) :
    PropertyBefore left right ↔ Node.propertyCode left < Node.propertyCode right := by
  unfold PropertyBefore Node.propertyCode
  cases Node.arrayIndex? left <;> cases Node.arrayIndex? right <;> simp [List.cons_lt_cons_iff]

/-- Keys in one order are keys that two pairs of codes order the same way. -/
theorem oneOrder_iff (keys : List Text) :
    OneOrder keys ↔ Agree id utf16 keys ∧ Agree id Node.propertyCode keys := by
  simp only [OneOrder, Agree, propertyBefore_iff, id_eq]
  refine ⟨fun both => ⟨?_, ?_⟩, fun both left here right there less => ?_⟩
  · exact fun left here right there less => (both left here right there less).1
  · exact fun left here right there less => (both left here right there less).2
  · exact ⟨both.1 left here right there less, both.2 left here right there less⟩

/-- What holds of the texts of a sorted document. -/
theorem all_canonicalDocument {γ : Type*} [LinearOrder γ] (code : Text → γ) {text : Text → Prop}
    (value : Document Int) :
    Document.All (fun _ => True) text (fun _ => True) (canonicalDocument code value) ↔
      Document.All (fun _ => True) text (fun _ => True) value := by
  rw [canonicalDocument, Document.all_map]
  exact Document.all_sorted (fun _ _ _ holds => holds) code value

/-- A sorted document can be read back. -/
theorem readable_canonicalDocument {γ : Type*} [LinearOrder γ] (code : Text → γ)
    (value : JsonValue) : Readable (canonicalDocument code value.document) := by
  rw [canonicalDocument]
  refine (Document.all_map decimal _).mpr ?_
  refine (Document.all_sorted (fun _ _ perm => perm.nodup_iff.mp) code _).mpr ?_
  exact value.isJson.mono (fun value _ => ⟨value, rfl⟩) (fun _ holds => holds)
    fun _ holds => holds

/-- Two orders of keys give one text exactly when they order the keys of every object the same
way. -/
theorem render_canonicalDocument_iff {γ : Type*} [LinearOrder γ] {code : Text → γ}
    (injective : Function.Injective code) (value : JsonValue) :
    renderWith quote (canonicalDocument code value.document) =
        renderWith quote (canonicalDocument id value.document) ↔
      Document.All (fun _ => True) (fun _ => True) (Agree id code) value.document := by
  have distinct : Document.All (fun _ => True) (fun _ => True) List.Nodup value.document :=
    value.isJson.mono (fun _ _ => trivial) (fun _ holds => holds) fun _ holds => holds
  rw [← Document.sorted_eq_sorted_iff Function.injective_id injective distinct]
  refine ⟨fun same => ?_, fun same => by rw [canonicalDocument, canonicalDocument, same]⟩
  exact (Document.map_injective decimal_injective (renderWith_quote_injective
    (readable_canonicalDocument code value) (readable_canonicalDocument id value) same)).symm

/-- The byte order of keys is the order of code points. -/
theorem canonicalDocument_utf8 (value : JsonValue) :
    canonicalDocument utf8 value.document = canonicalDocument id value.document := by
  have distinct : Document.All (fun _ => True) (fun _ => True) List.Nodup value.document :=
    value.isJson.mono (fun _ _ => trivial) (fun _ holds => holds) fun _ holds => holds
  have agree : Document.All (fun _ => True) (fun _ => True) (Agree utf8 id) value.document :=
    distinct.mono (fun _ holds => holds) (fun _ holds => holds)
      fun _ _ left _ right _ => (utf8_lt_iff left right).mp
  rw [canonicalDocument, canonicalDocument,
    (Document.sorted_eq_sorted_iff utf8_injective Function.injective_id distinct).mpr agree]

/-! ## Agreement -/

/-- The four SDKs write the same bytes for a value. -/
def SameBytes (form : Int → IntegerForm) (value : JsonValue) : Prop :=
  CanonicalBytes (goValue form value.document) = .ok (Python.canonical_bytes value) ∧
    Node.canonicalBytes value = .ok (Python.canonical_bytes value) ∧
    DotNet.Bytes value = .ok (Python.canonical_bytes value)

/-- No text of a value contains an escape that the Go SDK replaces, and the keys of every object
stand in one order. -/
def Portable (value : JsonValue) : Prop :=
  Document.All (fun _ => True) NoEscape OneOrder value.document

/-- Go writes the bytes of Python exactly when no text of the value contains an escape. -/
theorem go_same_iff (form : Int → IntegerForm) (value : JsonValue) :
    CanonicalBytes (goValue form value.document) = .ok (Python.canonical_bytes value) ↔
      Document.All (fun _ => True) NoEscape (fun _ => True) value.document := by
  rw [CanonicalBytes_goValue, Python.canonical_bytes, Python.dumps_eq, canonicalDocument_utf8,
    Except.ok.injEq, utf8_injective.eq_iff, renderWith_eq_iff length_encodeString_le
      (fun text same => (encodeString_eq_quote_iff text).mpr (noEscape_of_length_eq same)),
    all_canonicalDocument]
  constructor
  · exact fun all => all.mono (fun _ holds => holds)
      (fun text same => (encodeString_eq_quote_iff text).mp same) fun _ holds => holds
  · exact fun all => all.mono (fun _ holds => holds)
      (fun text clean => (encodeString_eq_quote_iff text).mpr clean) fun _ holds => holds

/-- Node writes the bytes of Python exactly when properties stand in the order of code points. -/
theorem node_same_iff (value : JsonValue) :
    Node.canonicalBytes value = .ok (Python.canonical_bytes value) ↔
      Document.All (fun _ => True) (fun _ => True) (Agree id Node.propertyCode) value.document := by
  have written : Node.canonicalBytes value =
      .ok (utf8 (renderWith quote (canonicalDocument Node.propertyCode value.document))) := by
    rw [Node.canonicalBytes, Node.canonicalValue_eq value.isJson]
    rfl
  rw [written, Python.canonical_bytes, Python.dumps_eq, Except.ok.injEq, utf8_injective.eq_iff,
    render_canonicalDocument_iff Node.propertyCode_injective]

/-- .NET writes the bytes of Python exactly when keys stand in one order by code points and by code
units. -/
theorem dotNet_same_iff (value : JsonValue) :
    DotNet.Bytes value = .ok (Python.canonical_bytes value) ↔
      Document.All (fun _ => True) (fun _ => True) (Agree id utf16) value.document := by
  have written : DotNet.Bytes value =
      .ok (utf8 (renderWith quote (canonicalDocument utf16 value.document))) := by
    rw [DotNet.Bytes, DotNet.write_eq value.isJson]
    rfl
  rw [written, Python.canonical_bytes, Python.dumps_eq, Except.ok.injEq, utf8_injective.eq_iff,
    render_canonicalDocument_iff utf16_injective]

/-- The four SDKs write the same bytes for a value exactly when no text of it contains an escape that
the Go SDK replaces and the keys of every object stand in one order. -/
theorem same_bytes_iff (form : Int → IntegerForm) (value : JsonValue) :
    SameBytes form value ↔ Portable value := by
  rw [SameBytes, go_same_iff, node_same_iff, dotNet_same_iff, Portable]
  constructor
  · rintro ⟨clean, properties, units⟩
    refine (clean.and (properties.and units)).mono (fun _ _ => trivial) (fun _ holds => holds.1)
      fun keys holds => (oneOrder_iff keys).mpr ⟨holds.2.2, holds.2.1⟩
  · intro portable
    refine ⟨?_, ?_, ?_⟩
    · exact portable.mono (fun _ holds => holds) (fun _ holds => holds) fun _ _ => trivial
    · exact portable.mono (fun _ holds => holds) (fun _ _ => trivial)
        fun keys holds => ((oneOrder_iff keys).mp holds).2
    · exact portable.mono (fun _ holds => holds) (fun _ _ => trivial)
        fun keys holds => ((oneOrder_iff keys).mp holds).1

/-- A text that contains an escape. -/
def escapedValue : JsonValue :=
  ⟨.string ['\\', 'u', '0', '0', '3', 'c'], .string _ trivial⟩

/-- Two keys that are array indexes. -/
def indexedValue : JsonValue :=
  ⟨.object [(['1', '0'], .null), (['9'], .null)], by simp⟩

/-- Two keys, one of them outside the basic plane. -/
def supplementaryValue : JsonValue :=
  ⟨.object [(['\ufffd'], .null), ([Char.ofNat 65536], .null)], by simp⟩

/-- Values for which Go, Node or .NET writes other bytes than Python. -/
theorem different_bytes :
    ¬ SameBytes (fun _ => .int) escapedValue ∧ ¬ SameBytes (fun _ => .int) indexedValue ∧
      ¬ SameBytes (fun _ => .int) supplementaryValue := by
  refine ⟨fun same => ?_, fun same => ?_, fun same => ?_⟩
  · have clean := Document.all_string.mp ((go_same_iff _ escapedValue).mp same.1)
    exact absurd clean (by decide)
  · have agree := (Document.all_object.mp ((node_same_iff indexedValue).mp same.2.1)).1
    exact absurd (agree ['1', '0'] (by decide) ['9'] (by decide) (by decide)) (by decide)
  · have agree := (Document.all_object.mp ((dotNet_same_iff supplementaryValue).mp same.2.2)).1
    exact absurd (agree ['\ufffd'] (by decide) [Char.ofNat 65536] (by decide) (by decide))
      (by decide)

end ReproItSdk.Canonical
