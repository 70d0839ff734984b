import ReproItSdk.Canonical.GoRoundTrip
import ReproItSdk.Library.Base64
import ReproItSdk.Library.OrderedRecord
import ReproItSdk.Wrappers.GoDependency

/-! # Headers and strings of the Go HTTP adapter

A header maps keys to lists of values.  The adapter records its fields in the order of the keys,
unless a key is sensitive or the fields are too many or too long.  Strings of Go are byte strings;
the canonical writer replaces what is not UTF-8 in them.

Main definitions:

- Function {lit}`automaticHttpMetadata`: the fields that are recorded of a header.
- Function {lit}`encodeString`: a byte string as it is written in a canonical record.

Main results:

- Theorem {lit}`automaticHttpMetadata_eq_some`: when the fields of a header are recorded, and which.
- Theorem {lit}`encodeString_utf8`: a string that is UTF-8 is written as its text.
-/

namespace ReproItSdk
namespace Http
namespace Go

open Unicode Json Wrappers.Native

/-! ## Strings -/

/-- {lit}`strings.ToLower`, as far as its result is ASCII: two characters beyond ASCII have a lower
case in it. -/
def toLower : Bytes → Bytes
  | 0xe2 :: 0x84 :: 0xaa :: rest => 0x6b :: toLower rest
  | 0xc4 :: 0xb0 :: rest => 0x69 :: toLower rest
  | byte :: rest => (if 0x41 ≤ byte ∧ byte ≤ 0x5a then byte + 0x20 else byte) :: toLower rest
  | [] => []

/-- {lit}`strings.EqualFold` with a word of ASCII letters other than {lit}`k` and {lit}`s`. -/
def equalFold (left right : Bytes) : Bool :=
  let fold (text : Bytes) : Bytes :=
    text.map fun byte => if 0x41 ≤ byte ∧ byte ≤ 0x5a then byte + 0x20 else byte
  fold left = fold right

/-- The encodings of the characters that {lit}`unicode.IsSpace` holds of. -/
def spaces : List Bytes :=
  [0x09, 0x0a, 0x0b, 0x0c, 0x0d, 0x20].map (fun byte => [byte]) ++
    [[0xc2, 0x85], [0xc2, 0xa0], [0xe1, 0x9a, 0x80]] ++
    (List.range 11).map (fun index => [0xe2, 0x80, 0x80 + UInt8.ofNat index]) ++
    [[0xe2, 0x80, 0xa8], [0xe2, 0x80, 0xa9], [0xe2, 0x80, 0xaf], [0xe2, 0x81, 0x9f],
      [0xe3, 0x80, 0x80]]

/-- A text without the words it starts with, for so many turns. -/
def trimStart (words : List Bytes) : Nat → Bytes → Bytes
  | 0, text => text
  | turns + 1, text =>
      match words.find? (·.isPrefixOf text) with
      | none => text
      | some word => trimStart words turns (text.drop word.length)

/-- {lit}`strings.TrimSpace`. -/
def trimSpace (text : Bytes) : Bytes :=
  let front := trimStart spaces text.length text
  (trimStart (spaces.map List.reverse) front.length front.reverse).reverse

/-- The characters of a byte string; a byte that starts none is absent. -/
def runesFrom : Nat → Bytes → List (Option Char)
  | 0, _ => []
  | _, [] => []
  | turns + 1, byte :: rest =>
      match (byte :: rest).toByteArray.utf8DecodeChar? 0 with
      | none => none :: runesFrom turns rest
      | some character => some character :: runesFrom turns ((byte :: rest).drop character.utf8Size)

/-- The characters that a loop over a byte string yields. -/
def runes (text : Bytes) : List (Option Char) :=
  runesFrom text.length text

/-- {lit}`json.Marshal` of one of them. -/
def marshalRune : Option Char → Text
  | none => ['\\', 'u', 'f', 'f', 'f', 'd']
  | some character => Canonical.marshalCharacter character

/-- The replacements of {lit}`encodeCanonical` in a marshalled string. -/
def restoreHtml (text : Text) : Text :=
  let text := Rewriting.replaceAll ['\\', 'u', '0', '0', '3', 'c'] '<' text
  let text := Rewriting.replaceAll ['\\', 'u', '0', '0', '3', 'e'] '>' text
  let text := Rewriting.replaceAll ['\\', 'u', '0', '0', '2', '6'] '&' text
  let text := Rewriting.replaceAll ['\\', 'u', '2', '0', '2', '8'] '\u2028' text
  Rewriting.replaceAll ['\\', 'u', '2', '0', '2', '9'] '\u2029' text

/-- The string case of {lit}`encodeCanonical`, for a byte string. -/
def encodeString (typed : Bytes) : Text :=
  restoreHtml ('\"' :: (runes typed).flatMap marshalRune ++ ['\"'])

/-- {lit}`stringList`, as {lit}`encodeCanonical` writes it. -/
def stringList (values : List Bytes) : Except String Text :=
  writeArray (values.map fun value => .ok (encodeString value))

/-- {lit}`CanonicalBytes` of a map, from what is written for its values. -/
def canonicalMap (members : List (Text × Except String Text)) : Except String Bytes := do
  let output ← Canonical.writeMap members
  return utf8 output

/-- A string that is UTF-8 consists of its characters. -/
theorem runesFrom_utf8 (text : Text) {turns : Nat} (enough : (utf8 text).length ≤ turns) :
    runesFrom turns (utf8 text) = text.map some := by
  induction text generalizing turns with
  | nil => cases turns <;> rfl
  | cons character rest ih =>
      have size := String.length_utf8EncodeChar character
      have positive := character.utf8Size_pos
      have whole : utf8 (character :: rest) = String.utf8EncodeChar character ++ utf8 rest := rfl
      rw [whole, List.length_append] at enough
      rw [whole, List.map_cons]
      cases turns with
      | zero => omega
      | succ turns =>
          have decoded : (String.utf8EncodeChar character ++ utf8 rest).toByteArray.utf8DecodeChar?
              0 = some character := by
            rw [List.toByteArray_append]
            exact ByteArray.utf8DecodeChar?_utf8EncodeChar_append
          cases bytes : String.utf8EncodeChar character ++ utf8 rest with
          | nil =>
              have empty := congrArg List.length bytes
              rw [List.length_append, List.length_nil] at empty
              omega
          | cons byte others =>
              rw [bytes] at decoded
              simp only [runesFrom, decoded]
              rw [← bytes, List.drop_left' size, ih (by omega)]

/-- A string that is UTF-8 is written as its text. -/
theorem encodeString_utf8 (text : Text) :
    encodeString (utf8 text) = Canonical.encodeString text := by
  have known : runes (utf8 text) = text.map some := runesFrom_utf8 text le_rfl
  rw [encodeString, known, List.flatMap_map]
  rfl

/-! ## Headers -/

/-- {lit}`http.Header`: a map from keys to values, listed in any order. -/
structure Header where
  fields : List (Bytes × List Bytes)
  distinct : (fields.map Prod.fst).Nodup

/-- {lit}`automaticHTTPSensitiveHeaders`. -/
def automaticHttpSensitiveHeaders : List Bytes :=
  [asciiBytes "authorization", asciiBytes "cookie", asciiBytes "proxy-authenticate",
    asciiBytes "proxy-authorization", asciiBytes "set-cookie", asciiBytes "www-authenticate",
    asciiBytes "reproit-fuzz-context", asciiBytes "reproit-parent-operation"]

/-- {lit}`automaticHTTPHeaderBytes`. -/
def automaticHttpHeaderBytes : Nat :=
  8192

/-- {lit}`automaticHTTPHeaderFields`. -/
def automaticHttpHeaderFields : Nat :=
  64

/-- A key is one of them, however it is spelt. -/
def isSensitive (key : Bytes) : Bool :=
  toLower key ∈ automaticHttpSensitiveHeaders

/-- What the loops of {lit}`automaticHTTPMetadata` have collected. -/
structure Collected where
  result : List DependencyMetadata := []
  total : Nat := 0
deriving DecidableEq, Repr

/-- The inner loop of {lit}`automaticHTTPMetadata`. -/
def collectValue (key : Bytes) (collected : Collected) (value : Bytes) : Option Collected :=
  if collected.result.length = automaticHttpHeaderFields ∨
      automaticHttpHeaderBytes - collected.total < key.length then none
  else
    let total := collected.total + key.length
    if automaticHttpHeaderBytes - total < value.length then none
    else some ⟨collected.result ++ [⟨key, value⟩], total + value.length⟩

/-- The outer loop of {lit}`automaticHTTPMetadata`. -/
def collectField (collected : Collected) (field : Bytes × List Bytes) : Option Collected :=
  if isSensitive field.1 then none else field.2.foldlM (collectValue field.1) collected

/-- {lit}`automaticHTTPMetadata`. -/
def automaticHttpMetadata (header : Header) : Option (List DependencyMetadata) :=
  ((sortBy Prod.fst header.fields).foldlM collectField {}).map Collected.result

/-- The bytes of a recorded field. -/
def weight (field : DependencyMetadata) : Nat :=
  field.name.length + field.value.length

/-- The values of a key as recorded fields. -/
def entries (field : Bytes × List Bytes) : List DependencyMetadata :=
  field.2.map fun value => ⟨field.1, value⟩

/-- All that a header could record, in the order of its keys. -/
def Header.entries (header : Header) : List DependencyMetadata :=
  (sortBy Prod.fst header.fields).flatMap Go.entries

/-- Some recorded fields are neither too many nor too long. -/
def Bounded (metadata : List DependencyMetadata) : Prop :=
  metadata.length ≤ automaticHttpHeaderFields ∧ (metadata.map weight).sum ≤ automaticHttpHeaderBytes

/-- What is collected after some fields. -/
def collected (metadata : List DependencyMetadata) : Collected :=
  ⟨metadata, (metadata.map weight).sum⟩

/-- Fewer fields are bounded as well. -/
theorem Bounded.of_append {front rest : List DependencyMetadata}
    (bounded : Bounded (front ++ rest)) : Bounded front := by
  rcases bounded with ⟨number, length⟩
  rw [List.length_append] at number
  rw [List.map_append, List.sum_append] at length
  exact ⟨by omega, by omega⟩

/-- A value is collected when it leaves the fields bounded. -/
theorem collectValue_eq_some {metadata : List DependencyMetadata} (bounded : Bounded metadata)
    {key value : Bytes} {result : Collected} :
    collectValue key (collected metadata) value = some result ↔
      Bounded (metadata ++ [⟨key, value⟩]) ∧ result = collected (metadata ++ [⟨key, value⟩]) := by
  have total : ((metadata ++ [(⟨key, value⟩ : DependencyMetadata)]).map weight).sum =
      (metadata.map weight).sum + key.length + value.length := by
    simp [weight, Nat.add_assoc]
  have number : (metadata ++ [(⟨key, value⟩ : DependencyMetadata)]).length =
      metadata.length + 1 := by
    simp
  have within := bounded
  simp only [Bounded] at within
  unfold collectValue collected Bounded
  rw [total, number]
  dsimp only
  by_cases full : metadata.length = automaticHttpHeaderFields ∨
      automaticHttpHeaderBytes - (metadata.map weight).sum < key.length
  · rw [if_pos full]
    constructor
    · intro taken
      cases taken
    · rintro ⟨fits, -⟩
      omega
  · rw [if_neg full]
    rw [not_or] at full
    by_cases long : automaticHttpHeaderBytes - ((metadata.map weight).sum + key.length) <
        value.length
    · rw [if_pos long]
      constructor
      · intro taken
        cases taken
      · rintro ⟨fits, -⟩
        omega
    · rw [if_neg long, Option.some.injEq]
      constructor
      · rintro rfl
        exact ⟨by omega, rfl⟩
      · rintro ⟨-, rfl⟩
        rfl

/-- The values of a key are collected when they leave the fields bounded. -/
theorem collectValues_eq_some {metadata : List DependencyMetadata} (bounded : Bounded metadata)
    {key : Bytes} {values : List Bytes} {result : Collected} :
    values.foldlM (collectValue key) (collected metadata) = some result ↔
      Bounded (metadata ++ entries (key, values)) ∧
        result = collected (metadata ++ entries (key, values)) := by
  induction values generalizing metadata with
  | nil =>
      simp only [List.foldlM_nil, entries, List.map_nil, List.append_nil, pure,
        Option.some.injEq]
      exact ⟨fun same => ⟨bounded, same.symm⟩, fun both => both.2.symm⟩
  | cons value values ih =>
      have split : metadata ++ entries (key, value :: values) =
          metadata ++ [⟨key, value⟩] ++ entries (key, values) := by
        simp [entries]
      rw [List.foldlM_cons, split]
      simp only [bind, Option.bind_eq_some_iff]
      constructor
      · rintro ⟨next, taken, rest⟩
        rcases (collectValue_eq_some bounded).mp taken with ⟨fits, rfl⟩
        exact (ih fits).mp rest
      · intro rest
        have fits := rest.1.of_append
        exact ⟨_, (collectValue_eq_some bounded).mpr ⟨fits, rfl⟩, (ih fits).mpr rest⟩

/-- Fields are collected when no key is sensitive and they leave the fields bounded. -/
theorem collectFields_eq_some {metadata : List DependencyMetadata} (bounded : Bounded metadata)
    {fields : List (Bytes × List Bytes)} {result : Collected} :
    fields.foldlM collectField (collected metadata) = some result ↔
      (∀ field ∈ fields, isSensitive field.1 = false) ∧
        Bounded (metadata ++ fields.flatMap entries) ∧
        result = collected (metadata ++ fields.flatMap entries) := by
  induction fields generalizing metadata with
  | nil =>
      simp only [List.foldlM_nil, List.flatMap_nil, List.append_nil, pure, Option.some.injEq,
        List.not_mem_nil, false_implies, implies_true, true_and]
      exact ⟨fun same => ⟨bounded, same.symm⟩, fun both => both.2.symm⟩
  | cons field fields ih =>
      rw [List.foldlM_cons, List.flatMap_cons, ← List.append_assoc]
      simp only [bind, Option.bind_eq_some_iff, List.forall_mem_cons]
      constructor
      · rintro ⟨next, taken, rest⟩
        unfold collectField at taken
        split at taken
        · cases taken
        · rename_i plain
          rw [Bool.not_eq_true] at plain
          rcases (collectValues_eq_some bounded).mp taken with ⟨fits, rfl⟩
          rcases (ih fits).mp rest with ⟨plains, result⟩
          exact ⟨⟨plain, plains⟩, result⟩
      · rintro ⟨⟨plain, plains⟩, rest⟩
        have fits := rest.1.of_append
        refine ⟨collected (metadata ++ entries field), ?_, (ih fits).mpr ⟨plains, rest⟩⟩
        rw [collectField, if_neg (by rw [plain]; decide)]
        exact (collectValues_eq_some bounded).mpr ⟨fits, rfl⟩

/-- The fields of a header are recorded when no key is sensitive and they are bounded. -/
theorem automaticHttpMetadata_eq_some {header : Header} {metadata : List DependencyMetadata} :
    automaticHttpMetadata header = some metadata ↔
      (∀ field ∈ header.fields, isSensitive field.1 = false) ∧ Bounded header.entries ∧
        metadata = header.entries := by
  have empty : Bounded [] := ⟨Nat.zero_le _, Nat.zero_le _⟩
  have collects (result : Collected) : (sortBy Prod.fst header.fields).foldlM collectField {} =
      some result ↔ _ := collectFields_eq_some empty
  simp only [automaticHttpMetadata, Option.map_eq_some_iff]
  constructor
  · rintro ⟨result, taken, rfl⟩
    rcases (collects result).mp taken with ⟨plain, bounded, rfl⟩
    exact ⟨fun field among => plain field (mem_sortBy.mpr among), bounded, rfl⟩
  · rintro ⟨plain, bounded, rfl⟩
    exact ⟨collected header.entries, (collects _).mpr
      ⟨fun field among => plain field (mem_sortBy.mp among), bounded, rfl⟩, rfl⟩

/-- A header with a sensitive key is not recorded. -/
theorem automaticHttpMetadata_of_sensitive {header : Header} {field : Bytes × List Bytes}
    (among : field ∈ header.fields) (sensitive : isSensitive field.1 = true) :
    automaticHttpMetadata header = none := by
  cases recorded : automaticHttpMetadata header with
  | none => rfl
  | some metadata =>
      have plain := (automaticHttpMetadata_eq_some.mp recorded).1 field among
      rw [sensitive] at plain
      cases plain

end Go
end Http
end ReproItSdk
