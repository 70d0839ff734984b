import ReproItSdk.Library.Decimal
import ReproItSdk.Library.JsonStrings
import ReproItSdk.Library.JsonWriter

/-! # Canonical JSON of the Python, Node and .NET SDKs

Each SDK sorts the members of an object its own way: Python by code points, .NET by code units of
UTF-16, and Node by code units of UTF-16 into a new object, which then lists the keys that are array
indexes first.

Main results:

- Theorems {lit}`dumps_eq`, {lit}`canonicalValue_eq` and {lit}`write_eq`: what each SDK writes is the
  text with the fewest escapes of a document sorted by some code of its keys.
-/

namespace ReproItSdk.Canonical

open Unicode Json Decimal

/-- JSON values: integers that every SDK holds exactly, and objects with distinct keys. -/
abbrev IsJson : Document Int → Prop :=
  Document.All (fun value => value.natAbs ≤ 2 ^ 53 - 1) (fun _ => True) List.Nodup

/-- A JSON value. -/
structure JsonValue where
  document : Document Int
  isJson : IsJson document

/-! ## Python -/

namespace Python

mutual

/-- {lit}`json.dumps` with sorted keys, short separators and without escapes for other scripts. -/
def dumps : Document Int → Text
  | .null => ['n', 'u', 'l', 'l']
  | .bool true => ['t', 'r', 'u', 'e']
  | .bool false => ['f', 'a', 'l', 's', 'e']
  | .number value => decimal value
  | .string text => quote text
  | .array elements => '[' :: separated (dumpsElements elements) ++ [']']
  | .object members =>
      '\x7b' :: separated ((sortBy (fun item => item.1) (dumpsMembers members)).map fun item =>
        quote item.1 ++ ':' :: item.2) ++ ['\x7d']

/-- Texts of the elements of a list. -/
def dumpsElements : List (Document Int) → List Text
  | [] => []
  | first :: rest => dumps first :: dumpsElements rest

/-- Texts of the values of a dictionary. -/
def dumpsMembers : List (Text × Document Int) → List (Text × Text)
  | [] => []
  | (key, value) :: rest => (key, dumps value) :: dumpsMembers rest

end

/-- Canonical JSON of a value. -/
def canonical_bytes (value : JsonValue) : List UInt8 :=
  utf8 (dumps value.document)

end Python

/-! ## Node -/

namespace Node

/-- The number of a key that is an array index: the digits of a number below the largest length of
an array. -/
def arrayIndex? (key : Text) : Option Nat :=
  let value := Nat.ofDigitChars 10 key 0
  if key.all Char.isDigit ∧ Nat.toDigits 10 value = key ∧ value < 4294967295 then some value
  else none

/-- Properties of an object that got its entries in some order: array indexes from small to large,
then the other keys in that order. -/
def ownProperties {α : Type*} (entries : List (Text × α)) : List (Text × α) :=
  sortBy (fun entry => (arrayIndex? entry.1).getD 0)
      (entries.filter fun entry => (arrayIndex? entry.1).isSome) ++
    entries.filter fun entry => (arrayIndex? entry.1).isNone

/-- Collects values, up to the first error. -/
def collect {α : Type*} : List (Except String α) → Except String (List α)
  | [] => .ok []
  | first :: rest => do
      let value ← first
      let values ← collect rest
      return value :: values

mutual

/-- The object that is written instead of a value. -/
def canonicalValue : Document Int → Except String (Document Int)
  | .null => .ok .null
  | .string value => .ok (.string value)
  | .bool value => .ok (.bool value)
  | .number value =>
      if value.natAbs ≤ 2 ^ 53 - 1 then .ok (.number value)
      else .error "The protocol value contains an invalid number."
  | .array elements => do
      let values ← collect (canonicalElements elements)
      return .array values
  | .object members => do
      let keys := sortBy (fun entry => utf16 entry.1) (canonicalMembers members)
      let entries ← collect (keys.map fun entry => do
        let value ← entry.2
        return (entry.1, value))
      return .object (ownProperties entries)

/-- The values of an array. -/
def canonicalElements : List (Document Int) → List (Except String (Document Int))
  | [] => []
  | first :: rest => canonicalValue first :: canonicalElements rest

/-- The values of the keys of an object. -/
def canonicalMembers : List (Text × Document Int) → List (Text × Except String (Document Int))
  | [] => []
  | (key, value) :: rest => (key, canonicalValue value) :: canonicalMembers rest

end

/-- {lit}`JSON.stringify` of a value whose objects list their properties in order. -/
def stringify (value : Document Int) : Text :=
  renderWith quote (value.map decimal)

/-- Canonical JSON of a value. -/
def canonicalBytes (value : JsonValue) : Except String (List UInt8) := do
  let value ← canonicalValue value.document
  return utf8 (stringify value)

end Node

/-! ## .NET -/

namespace DotNet

/-- What stands for a character that is not written as it is. -/
def escapeUnit (character : Char) : Text :=
  if character = '\"' then ['\\', '\"']
  else if character = '\\' then ['\\', '\\']
  else if character = '\x08' then ['\\', 'b']
  else if character = '\x09' then ['\\', 't']
  else if character = '\x0a' then ['\\', 'n']
  else if character = '\x0c' then ['\\', 'f']
  else if character = '\x0d' then ['\\', 'r']
  else unicodeEscape character

/-- The loop of {lit}`WriteString`, with the raw text that is not written yet. -/
def writeRaw (raw : Text) : Text → Text
  | [] => raw
  | character :: rest =>
      if 32 ≤ character.toNat ∧ character ≠ '\"' ∧ character ≠ '\\' then
        writeRaw (raw ++ [character]) rest
      else raw ++ escapeUnit character ++ writeRaw [] rest

/-- {lit}`WriteString`. -/
def writeString (value : Text) : Text :=
  '\"' :: writeRaw [] value ++ ['\"']

mutual

/-- {lit}`Write` and {lit}`WriteValue`. -/
def write : Document Int → Except String Text
  | .null => .ok ['n', 'u', 'l', 'l']
  | .object item => writeObject utf16 writeString (writeMembers item)
  | .array items => writeArray (writeElements items)
  | .string value => .ok (writeString value)
  | .bool true => .ok ['t', 'r', 'u', 'e']
  | .bool false => .ok ['f', 'a', 'l', 's', 'e']
  | .number number =>
      if -2 ^ 63 ≤ number ∧ number < 2 ^ 63 then .ok (decimal number)
      else .error "The protocol value contains an invalid number."

/-- Texts of the items of an array. -/
def writeElements : List (Document Int) → List (Except String Text)
  | [] => []
  | first :: rest => write first :: writeElements rest

/-- Texts of the children of an object. -/
def writeMembers : List (Text × Document Int) → List (Text × Except String Text)
  | [] => []
  | (name, child) :: rest => (name, write child) :: writeMembers rest

end

/-- Canonical JSON of a value. -/
def Bytes (value : JsonValue) : Except String (List UInt8) := do
  let buffer ← write value.document
  return utf8 buffer

end DotNet

/-! ## Sorted documents -/

/-- The document that is written where keys are sorted by a code. -/
def canonicalDocument {γ : Type*} [LinearOrder γ] (code : Text → γ) (value : Document Int) : Document Text :=
  (value.sorted code).map decimal

section Documents

variable {γ : Type*} [LinearOrder γ] (code : Text → γ)

theorem canonicalDocument_array (elements : List (Document Int)) :
    canonicalDocument code (.array elements) =
      .array (elements.map (canonicalDocument code)) := by
  rw [canonicalDocument, Document.sorted, Document.map, Document.sortedElements_eq, Document.mapElements_eq,
    List.map_map]
  rfl

theorem canonicalDocument_object (members : List (Text × Document Int)) :
    canonicalDocument code (.object members) =
      .object ((sortBy (fun member => code member.1) members).map fun member =>
        (member.1, canonicalDocument code member.2)) := by
  rw [canonicalDocument, Document.sorted, Document.map, Document.sortedMembers_eq, Document.mapMembers_eq,
    ← map_sortBy_members code (Document.sorted code), List.map_map]
  rfl

end Documents

namespace Python

theorem dumpsElements_eq (elements : List (Document Int)) :
    dumpsElements elements = elements.map dumps := by
  induction elements with
  | nil => rfl
  | cons first rest ih => rw [dumpsElements, ih, List.map_cons]

theorem dumpsMembers_eq (members : List (Text × Document Int)) :
    dumpsMembers members = members.map fun member => (member.1, dumps member.2) := by
  induction members with
  | nil => rfl
  | cons first rest ih => rw [dumpsMembers, ih, List.map_cons]

/-- Python sorts keys by code points. -/
theorem dumps_eq (value : Document Int) :
    dumps value = renderWith quote (canonicalDocument id value) := by
  induction value using Document.induction with
  | bool value => cases value <;> rfl
  | array elements ih =>
      rw [dumps, dumpsElements_eq, List.map_congr_left ih, canonicalDocument_array, renderWith,
        renderElements_eq, List.map_map]
      rfl
  | object members ih =>
      have values : dumpsMembers members = members.map fun member =>
          (member.1, renderWith quote (canonicalDocument id member.2)) := by
        rw [dumpsMembers_eq]
        exact List.map_congr_left fun member among => congrArg _ (ih member among)
      have ordered := map_sortBy_members id
        (fun value => renderWith quote (canonicalDocument id value)) members
      simp only [id_eq] at ordered
      rw [dumps, values, canonicalDocument_object, renderWith, renderMembers_eq, List.map_map,
        ← ordered, List.map_map]
      rfl
  | _ => rfl

end Python

namespace Node

/-- Code of a key whose order is the order of properties: array indexes by their numbers before other
keys by their code units. -/
def propertyCode (key : Text) : List Nat :=
  match arrayIndex? key with
  | some index => [0, index]
  | none => 1 :: utf16 key

/-- An array index is written with the digits of its number. -/
theorem digits_of_arrayIndex {key : Text} {index : Nat} (found : arrayIndex? key = some index) :
    key = Nat.toDigits 10 index := by
  unfold arrayIndex? at found
  dsimp only at found
  split at found
  case isTrue digits =>
    rw [Option.some.injEq] at found
    rw [← found, digits.2.1]
  case isFalse => cases found

/-- Different keys have different codes. -/
theorem propertyCode_injective : Function.Injective propertyCode := by
  intro left right same
  unfold propertyCode at same
  cases first : arrayIndex? left with
  | none =>
      cases second : arrayIndex? right with
      | none =>
          rw [first, second] at same
          exact utf16_injective (List.cons.inj same).2
      | some index => simp [first, second] at same
  | some index =>
      cases second : arrayIndex? right with
      | none => simp [first, second] at same
      | some index' =>
          rw [first, second] at same
          have equal : index = index' := by simpa using same
          rw [digits_of_arrayIndex first, digits_of_arrayIndex second, equal]

/-- An object lists the entries that it got. -/
theorem ownProperties_perm {α : Type*} (entries : List (Text × α)) :
    (ownProperties entries).Perm entries := by
  have split := List.filter_append_perm (fun entry => (arrayIndex? entry.1).isSome) entries
  simp only [Option.not_isSome] at split
  exact ((sortBy_perm _ _).append_right _).trans split

/-- An object that got its entries sorted by code units lists its properties by their codes. -/
theorem ownProperties_sortBy {α : Type*} {entries : List (Text × α)}
    (distinct : (entries.map Prod.fst).Nodup) :
    ownProperties (sortBy (fun entry => utf16 entry.1) entries) =
      sortBy (fun entry => propertyCode entry.1) entries := by
  refine (sortBy_eq_of_pairwise ((ownProperties_perm _).trans (sortBy_perm _ _)).symm
    (fun left here right there same => ?_) ?_).symm
  · exact List.inj_on_of_nodup_map distinct here there (propertyCode_injective same)
  · rw [ownProperties, List.pairwise_append]
    refine ⟨?_, ?_, ?_⟩
    · refine (pairwise_sortBy _ _).imp_of_mem fun {left right} here there below => ?_
      rw [mem_sortBy, List.mem_filter, Option.isSome_iff_exists] at here there
      obtain ⟨-, index, first⟩ := here
      obtain ⟨-, index', second⟩ := there
      rw [first, second, Option.getD_some, Option.getD_some] at below
      rw [propertyCode, propertyCode, first, second]
      rw [← not_lt] at below ⊢
      simpa [List.cons_lt_cons_iff] using below
    · refine ((pairwise_sortBy (fun entry => utf16 entry.1) entries).filter _).imp_of_mem
        fun {left right} here there below => ?_
      rw [List.mem_filter, Option.isNone_iff_eq_none] at here there
      rw [propertyCode, propertyCode, here.2, there.2]
      rw [← not_lt] at below ⊢
      simpa [List.cons_lt_cons_iff] using below
    · intro left here right there
      rw [mem_sortBy, List.mem_filter, Option.isSome_iff_exists] at here
      rw [List.mem_filter, Option.isNone_iff_eq_none] at there
      obtain ⟨-, index, first⟩ := here
      rw [propertyCode, propertyCode, first, there.2]
      rw [← not_lt]
      simp [List.cons_lt_cons_iff]

/-- Values without an error are collected. -/
theorem collect_ok {α : Type*} (values : List α) : collect (values.map Except.ok) = .ok values := by
  induction values with
  | nil => rfl
  | cons first rest ih =>
      rw [List.map_cons, collect, ih]
      rfl

theorem canonicalElements_eq (elements : List (Document Int)) :
    canonicalElements elements = elements.map canonicalValue := by
  induction elements with
  | nil => rfl
  | cons first rest ih => rw [canonicalElements, ih, List.map_cons]

theorem canonicalMembers_eq (members : List (Text × Document Int)) :
    canonicalMembers members = members.map fun member => (member.1, canonicalValue member.2) := by
  induction members with
  | nil => rfl
  | cons first rest ih => rw [canonicalMembers, ih, List.map_cons]

/-- The object that is written instead of a value is sorted by the order of properties. -/
theorem canonicalValue_eq {value : Document Int} (isJson : IsJson value) :
    canonicalValue value = .ok (value.sorted propertyCode) := by
  induction isJson with
  | number value small => exact if_pos small
  | array elements _ ih =>
      rw [canonicalValue, canonicalElements_eq, List.map_congr_left ih, Document.sorted,
        Document.sortedElements_eq]
      have collected := collect_ok (elements.map (Document.sorted propertyCode))
      rw [List.map_map] at collected
      exact congrArg (· >>= _) collected
  | object members distinct _ _ ih =>
      have values : canonicalMembers members = members.map fun member =>
          (member.1, Except.ok (member.2.sorted propertyCode)) := by
        rw [canonicalMembers_eq]
        exact List.map_congr_left fun member among => congrArg _ (ih member among)
      have keys := Document.keys_sortedMembers propertyCode members
      have collected := collect_ok ((sortBy (fun entry => utf16 entry.1) members).map
        fun member => (member.1, member.2.sorted propertyCode))
      rw [List.map_map] at collected
      rw [canonicalValue, values, ← map_sortBy_members utf16 fun value =>
        Except.ok (Document.sorted propertyCode value), List.map_map]
      refine (congrArg (· >>= _) collected).trans ?_
      rw [map_sortBy_members utf16 (Document.sorted propertyCode), ← Document.sortedMembers_eq]
      exact congrArg (fun properties => Except.ok (Document.object properties))
        (ownProperties_sortBy (by rw [keys]; exact distinct))
  | _ => rfl

end Node

namespace DotNet

/-- A character that is not written as it is has its shortest escape. -/
theorem escapeUnit_eq {character : Char}
    (special : ¬ (32 ≤ character.toNat ∧ character ≠ '\"' ∧ character ≠ '\\')) :
    escapeUnit character = escapeCharacter character := by
  unfold escapeUnit escapeCharacter shortEscape?
  split_ifs <;> simp_all

/-- The loop writes the shortest escapes. -/
theorem writeRaw_eq (raw value : Text) : writeRaw raw value = raw ++ escape value := by
  induction value generalizing raw with
  | nil => simp [writeRaw, escape]
  | cons character rest ih =>
      have written : escape (character :: rest) = escapeCharacter character ++ escape rest := by
        rw [escape, escape, List.flatMap_cons]
      rw [writeRaw, written]
      split
      case isTrue plain =>
        rw [ih, escapeCharacter_plain plain.1 plain.2.1 plain.2.2, List.append_assoc]
      case isFalse special =>
        rw [ih, escapeUnit_eq special, List.nil_append, List.append_assoc]

/-- Strings have the shortest escapes. -/
theorem writeString_eq (value : Text) : writeString value = quote value := by
  rw [writeString, writeRaw_eq, List.nil_append, quote]

theorem writeElements_eq (elements : List (Document Int)) :
    writeElements elements = elements.map write := by
  induction elements with
  | nil => rfl
  | cons first rest ih => rw [writeElements, ih, List.map_cons]

theorem writeMembers_eq (members : List (Text × Document Int)) :
    writeMembers members = members.map fun member => (member.1, write member.2) := by
  induction members with
  | nil => rfl
  | cons first rest ih => rw [writeMembers, ih, List.map_cons]

/-- .NET sorts keys by code units. -/
theorem write_eq {value : Document Int} (isJson : IsJson value) :
    write value = .ok (renderWith quote (canonicalDocument utf16 value)) := by
  have quotes : writeString = quote := funext writeString_eq
  induction isJson with
  | bool value => cases value <;> rfl
  | number value small =>
      rw [write, if_pos (by omega)]
      rfl
  | string text _ =>
      rw [write, quotes]
      rfl
  | array elements _ ih =>
      rw [write, writeElements_eq, writeArray_ok ih, canonicalDocument_array, renderWith,
        renderElements_eq, List.map_map]
      rfl
  | object members _ _ _ ih =>
      rw [write, writeMembers_eq, quotes, writeObject_ok utf16 quote
        (fun value => renderWith quote (canonicalDocument utf16 value)) ih,
        canonicalDocument_object, renderWith, renderMembers_eq, List.map_map]
      rfl
  | null => rfl

end DotNet
end ReproItSdk.Canonical
