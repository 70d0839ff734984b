import ReproItSdk.Canonical.Agreement
import ReproItSdk.Http.GoRecord

/-! # Replayed responses of the Go HTTP adapter

The payload of a recorded response is an object of strings, integers and lists.  Bodies and trailers
stand in it as base64 texts and are always read back.  The status, the protocol and the transfer
encodings stand in it as they are: a string that is not UTF-8 is read as another one, and a string
with one of the five escapes makes the parser refuse the payload.

Main definitions:

- Structure {lit}`Replayable`: when a recorded response can be replayed.
- Structure {lit}`Reproduces`: a response is replayed as it was.

Main results:

- Theorem {lit}`reproduced_iff`: when a recorded response is replayed as it was.
-/

namespace ReproItSdk
namespace Http
namespace Go

open Unicode Json Canonical Decimal Wrappers.Native

/-! ## Texts of bytes -/

/-- A text of base64 has no escape. -/
theorem noEscape_encode (bytes : Bytes) : NoEscape (Base64.encode bytes) := by
  intro html _ inside
  have marked : '\\' ∈ Base64.encode bytes := inside.subset (by simp [unicodeEscape])
  rcases Base64.digit_of_mem marked with ⟨value, small, same⟩
  have apart : ∀ index : Fin 64, Base64.digit index ≠ '\\' := by decide
  exact apart ⟨value, small⟩ same.symm

/-- A text of base64 is written as it is. -/
theorem encodeString_encode (bytes : Bytes) :
    encodeString (utf8 (Base64.encode bytes)) = quote (Base64.encode bytes) := by
  rw [encodeString_utf8]
  exact (encodeString_eq_quote_iff _).mpr (noEscape_encode bytes)

/-- A text of base64 has no line breaks. -/
theorem decodeString_encode (bytes : Bytes) :
    decodeString (Base64.encode bytes) = some bytes := by
  have apart : ∀ index : Fin 64,
      Base64.digit index ≠ '\x0d' ∧ Base64.digit index ≠ '\x0a' := by
    decide
  have unchanged : (Base64.encode bytes).filter
      (fun character => character ≠ '\x0d' ∧ character ≠ '\x0a') = Base64.encode bytes := by
    rw [List.filter_eq_self]
    intro character among
    rcases Base64.digit_of_mem among with ⟨value, small, rfl⟩
    simpa using apart ⟨value, small⟩
  rw [decodeString, unchanged, Base64.decode_encode]

/-! ## Payloads -/

/-- The text of a part as a value that is written. -/
def partText (part : Part) : Except String Text :=
  .ok part.text

/-- An object of parts is written in the order of its keys. -/
theorem writeMap_parts (members : List (Text × Part)) (names : List Text)
    (keys : members.map Prod.fst = names) (sorted : names.Pairwise (utf8 · ≤ utf8 ·))
    (clean : ∀ name ∈ names, NoEscape name) :
    writeMap (members.map fun member => (member.1, partText member.2)) =
      .ok (Part.object members).text := by
  subst keys
  have up : members.Pairwise fun left right => utf8 left.1 ≤ utf8 right.1 := by
    rw [List.pairwise_map] at sorted
    exact sorted
  have order : sortBy (fun member : Text × Part => utf8 member.1) members = members :=
    List.Pairwise.insertionSort_eq up
  have texts : ∀ member ∈ members, partText member.2 = .ok member.2.text := fun _ _ => rfl
  have written := writeObject_ok utf8 Canonical.encodeString Part.text texts
  have same : members.map (fun member => Canonical.encodeString member.1 ++ ':' :: member.2.text) =
      members.map memberText := by
    apply List.map_congr_left
    intro member among
    have unescaped := clean member.1 (List.mem_map_of_mem among)
    rw [memberText, (encodeString_eq_quote_iff member.1).mpr unescaped]
  rw [order, same] at written
  exact written

/-- A field of a trailer as a document. -/
def fieldDocument (field : DependencyMetadata) : Document Text :=
  .object [("name".toList, .string (Base64.encode field.name)),
    ("value".toList, .string (Base64.encode field.value))]

/-- A field of a trailer is written as its document. -/
theorem metadataField_eq (field : DependencyMetadata) :
    metadataField field = .ok (renderWith quote (fieldDocument field)) := by
  have written := writeMap_parts
    [("name".toList, .document (.string (Base64.encode field.name))),
      ("value".toList, .document (.string (Base64.encode field.value)))]
    ["name".toList, "value".toList] rfl (by decide) (by decide)
  rw [metadataField, encodeString_encode, encodeString_encode]
  exact written

/-- The members of the payload of a response. -/
def payloadParts (response : Response) (body bodyKind : Bytes)
    (trailer : List DependencyMetadata) : List (Text × Part) :=
  [("body".toList, .document (.string (Base64.encode body))),
    ("body_kind".toList, stringPart bodyKind),
    ("close".toList, .document (.bool response.close)),
    ("content_length".toList, .document (.number (decimal response.contentLength.toInt))),
    ("proto".toList, stringPart response.proto),
    ("proto_major".toList, .document (.number (decimal response.protoMajor.toInt))),
    ("proto_minor".toList, .document (.number (decimal response.protoMinor.toInt))),
    ("status".toList, stringPart response.status),
    ("trailer".toList, .document (.array (trailer.map fieldDocument))),
    ("transfer_encoding".toList, .array (response.transferEncoding.map stringPart)),
    ("uncompressed".toList, .document (.bool response.uncompressed))]

/-- The keys of the payload of a response. -/
def payloadKeys : List Text :=
  ["body".toList, "body_kind".toList, "close".toList, "content_length".toList, "proto".toList,
    "proto_major".toList, "proto_minor".toList, "status".toList, "trailer".toList,
    "transfer_encoding".toList, "uncompressed".toList]

/-- The payload of a response is the object of its members. -/
theorem responsePayload_eq (response : Response) (body bodyKind : Bytes)
    (trailer : List DependencyMetadata) :
    responsePayload response body bodyKind (writeArray (trailer.map metadataField)) =
      .ok (utf8 (Part.object (payloadParts response body bodyKind trailer)).text) := by
  have fields : writeArray (trailer.map metadataField) =
      partText (.document (.array (trailer.map fieldDocument))) := by
    rw [writeArray_ok fun field _ => metadataField_eq field, partText, Part.document, renderWith,
      renderElements_eq, List.map_map]
    rfl
  have encodings : stringList response.transferEncoding =
      partText (.array (response.transferEncoding.map stringPart)) := by
    rw [stringList, writeArray_ok fun encoding _ => rfl, partText, Part.array, List.map_map]
    rfl
  have bools (value : Bool) :
      Canonical.encodeCanonical (.bool value) = partText (.document (.bool value)) := by
    cases value <;> rfl
  have longs (value : Int) :
      Canonical.encodeCanonical (.int64 value) = partText (.document (.number (decimal value))) :=
    rfl
  have integers (value : Int) :
      Canonical.encodeCanonical (.int value) = partText (.document (.number (decimal value))) :=
    rfl
  have strings (value : Bytes) : .ok (encodeString value) = partText (stringPart value) := rfl
  have base64 : .ok (encodeString (utf8 (Base64.encode body))) =
      partText (.document (.string (Base64.encode body))) := by
    rw [encodeString_encode]
    rfl
  have written := writeMap_parts (payloadParts response body bodyKind trailer) payloadKeys rfl
    (by decide +kernel) (by decide +kernel)
  rw [responsePayload, canonicalMap, base64, fields, encodings, bools, bools, longs, integers,
    integers, strings, strings, strings]
  simp only [payloadParts, List.map_cons, List.map_nil] at written
  rw [written]
  rfl

/-- The document of a trailer is readable. -/
theorem readable_trailer (trailer : List DependencyMetadata) :
    Readable (.array (trailer.map fieldDocument)) := by
  refine .array _ ?_
  rw [List.forall_mem_map]
  intro field _
  have distinct : ["name".toList, "value".toList].Nodup := by decide
  refine .object _ distinct (fun _ _ => trivial) ?_
  simp only [List.forall_mem_cons]
  exact ⟨.string _ trivial, .string _ trivial, fun _ among => by cases among⟩

/-- The document of a trailer is not deep. -/
theorem height_trailer (trailer : List DependencyMetadata) :
    (Document.array (trailer.map fieldDocument)).height ≤ 2 := by
  rw [Document.height]
  induction trailer with
  | nil => exact Nat.zero_le _
  | cons field trailer ih =>
      rw [List.map_cons, Document.elementsHeight]
      exact Nat.max_le.mpr ⟨by simp [fieldDocument, Document.height, Document.membersHeight], ih⟩

/-- The decoder on the payload of a response. -/
theorem reading_payload (response : Response) (body bodyKind : Bytes)
    (trailer : List DependencyMetadata) :
    Reading (decodeStrictValue (maxStrictJSONDepth + 1))
      (Part.object (payloadParts response body bodyKind trailer)) := by
  have texts (text : Text) : Reading (decodeStrictValue 512) (.document (.string text)) :=
    reading_document (.string text trivial) (by simp [Document.height])
  have bools (value : Bool) : Reading (decodeStrictValue 512) (.document (.bool value)) :=
    reading_document (.bool value) (by simp [Document.height])
  have numbers (value : Int) :
      Reading (decodeStrictValue 512) (.document (.number (decimal value))) :=
    reading_document (.number _ ⟨value, rfl⟩) (by simp [Document.height])
  have trailers : Reading (decodeStrictValue 512)
      (.document (.array (trailer.map fieldDocument))) :=
    reading_document (readable_trailer trailer)
      (Nat.lt_of_le_of_lt (height_trailer trailer) (by decide))
  have encodings : Reading (decodeStrictValue 512)
      (.array (response.transferEncoding.map stringPart)) := by
    apply reading_array
    rw [List.forall_mem_map]
    intro encoding _
    exact reading_string encoding 510
  apply reading_object
  · have keys : (payloadParts response body bodyKind trailer).map Prod.fst = payloadKeys := rfl
    rw [keys]
    decide +kernel
  · simp only [payloadParts, List.forall_mem_cons]
    exact ⟨texts _, reading_string _ 511, bools _, numbers _, reading_string _ 511, numbers _,
      numbers _, reading_string _ 511, trailers, encodings, bools _, fun _ among => by cases among⟩

/-! ## Decoded payloads -/

/-- A string of a response is parsed. -/
abbrev Parsed (typed : Bytes) : Prop :=
  ¬ Escapes (runes typed)

/-- The strings of a payload are parsed. -/
structure ParsedStrings (response : Response) (bodyKind : Bytes) : Prop where
  bodyKind : Parsed bodyKind
  proto : Parsed response.proto
  status : Parsed response.status
  transferEncoding : ∀ encoding ∈ response.transferEncoding, Parsed encoding

/-- The map that the payload of a response is parsed to. -/
def payloadObject (response : Response) (body bodyKind : Bytes)
    (trailer : List DependencyMetadata) : List (Text × GoValue) :=
  [("body".toList, .string (Base64.encode body)),
    ("body_kind".toList, .string (lossy bodyKind)),
    ("close".toList, .bool response.close),
    ("content_length".toList, .number (decimal response.contentLength.toInt)),
    ("proto".toList, .string (lossy response.proto)),
    ("proto_major".toList, .number (decimal response.protoMajor.toInt)),
    ("proto_minor".toList, .number (decimal response.protoMinor.toInt)),
    ("status".toList, .string (lossy response.status)),
    ("trailer".toList, ofTree (.array (trailer.map fieldDocument))),
    ("transfer_encoding".toList,
      .slice (response.transferEncoding.map fun encoding => .string (lossy encoding))),
    ("uncompressed".toList, .bool response.uncompressed)]

/-- A list of strings is parsed when each of them is. -/
theorem outcomes_strings (values : List Bytes) :
    ((∀ value ∈ values, Parsed value) →
      outcomes (values.map stringPart) = some (values.map fun value => .string (lossy value))) ∧
    ((¬ ∀ value ∈ values, Parsed value) → outcomes (values.map stringPart) = none) := by
  induction values with
  | nil => exact ⟨fun _ => rfl, fun some => absurd (fun _ among => by cases among) some⟩
  | cons value values ih =>
      rw [List.forall_mem_cons, List.map_cons, outcomes_cons]
      by_cases escapes : Escapes (runes value)
      · rw [stringPart, if_pos escapes]
        exact ⟨fun all => absurd escapes all.1, fun _ => rfl⟩
      · rw [stringPart, if_neg escapes, Option.bind_some]
        constructor
        · rintro ⟨-, all⟩
          rw [ih.1 all]
          rfl
        · intro some
          rw [ih.2 fun all => some ⟨escapes, all⟩]
          rfl

/-- The payload of a response is parsed when its strings are. -/
theorem memberOutcomes_payload (response : Response) (body bodyKind : Bytes)
    (trailer : List DependencyMetadata) :
    (ParsedStrings response bodyKind →
      memberOutcomes (payloadParts response body bodyKind trailer) =
        some (payloadObject response body bodyKind trailer)) ∧
    (¬ ParsedStrings response bodyKind →
      memberOutcomes (payloadParts response body bodyKind trailer) = none) := by
  have encodings := outcomes_strings response.transferEncoding
  constructor
  · rintro ⟨kind, proto, status, all⟩
    have transfer := congrArg (Option.map GoValue.slice) (encodings.1 all)
    exact memberOutcomes_eq_some (.cons ⟨rfl, rfl⟩ (.cons ⟨rfl, if_neg kind⟩ (.cons ⟨rfl, rfl⟩
      (.cons ⟨rfl, rfl⟩ (.cons ⟨rfl, if_neg proto⟩ (.cons ⟨rfl, rfl⟩ (.cons ⟨rfl, rfl⟩
      (.cons ⟨rfl, if_neg status⟩ (.cons ⟨rfl, rfl⟩ (.cons ⟨rfl, transfer⟩
      (.cons ⟨rfl, rfl⟩ .nil)))))))))))
  · intro some
    by_cases kind : Escapes (runes bodyKind)
    · exact memberOutcomes_eq_none (.tail _ (.head _)) (if_pos kind)
    by_cases proto : Escapes (runes response.proto)
    · exact memberOutcomes_eq_none (.tail _ (.tail _ (.tail _ (.tail _ (.head _))))) (if_pos proto)
    by_cases status : Escapes (runes response.status)
    · exact memberOutcomes_eq_none (.tail _ (.tail _ (.tail _ (.tail _ (.tail _ (.tail _ (.tail _
        (.head _)))))))) (if_pos status)
    have transfer := encodings.2 fun all => some ⟨kind, proto, status, all⟩
    exact memberOutcomes_eq_none (.tail _ (.tail _ (.tail _ (.tail _ (.tail _ (.tail _ (.tail _
      (.tail _ (.tail _ (.head _)))))))))) (congrArg (Option.map GoValue.slice) transfer)

/-- A record has the keys that are listed when each of them is a key of it. -/
theorem hasExactKeys_eq (value : List (Text × GoValue)) (keys : List Text) :
    hasExactKeys value keys =
      ((value.map Prod.fst).length = keys.length && keys.all (· ∈ value.map Prod.fst)) := by
  have held (key : Text) :
      (OrderedRecord.get key value).isSome = decide (key ∈ value.map Prod.fst) := by
    by_cases among : key ∈ value.map Prod.fst
    · rw [decide_eq_true among]
      exact OrderedRecord.isSome_get among
    · rw [OrderedRecord.get_eq_none among, decide_eq_false among]
      rfl
  simp only [hasExactKeys, held, List.length_map]

/-- An integer of 64 bits is read back. -/
theorem integerValue_decimal (value : Int64) :
    integerValue (.number (decimal value.toInt)) = some value.toInt := by
  have read := parseInt64_decimal value.le_toInt value.toInt_lt
  rw [integerValue, read]
  exact if_pos (decide_eq_true rfl)

/-- A field of a trailer is read back. -/
theorem fieldFromPayload_fieldDocument (field : DependencyMetadata) :
    fieldFromPayload (ofTree (fieldDocument field)) = some field := by
  have keys : hasExactKeys [("name".toList, .string (Base64.encode field.name)),
      ("value".toList, .string (Base64.encode field.value))]
      ["name".toList, "value".toList] = true := by
    rw [hasExactKeys_eq]
    rfl
  have name : OrderedRecord.get "name".toList [("name".toList, .string (Base64.encode field.name)),
      ("value".toList, .string (Base64.encode field.value))] =
      some (GoValue.string (Base64.encode field.name)) := rfl
  have value : OrderedRecord.get "value".toList
      [("name".toList, .string (Base64.encode field.name)),
        ("value".toList, .string (Base64.encode field.value))] =
      some (GoValue.string (Base64.encode field.value)) := rfl
  simp only [fieldFromPayload, fieldDocument, ofTree, ofMembers, mapOf, Option.bind_eq_bind,
    Option.bind_some, keys, if_true, stringEntry, name, value, stringOf, decodeString_encode]
  rfl

/-- The trailer of a payload is read back. -/
theorem automaticHttpMetadataFromPayload_trailer {trailer : List DependencyMetadata}
    (plain : ∀ field ∈ trailer, isSensitive field.name = false) (bounded : Bounded trailer) :
    automaticHttpMetadataFromPayload (ofTree (.array (trailer.map fieldDocument))) =
      some (Header.empty.collect trailer) := by
  have reads : (ofElements (trailer.map fieldDocument)).map fieldFromPayload =
      trailer.map some := by
    rw [ofElements_eq, List.map_map, List.map_map]
    exact List.map_congr_left fun field _ => fieldFromPayload_fieldDocument field
  have number : (ofElements (trailer.map fieldDocument)).length = trailer.length := by
    rw [ofElements_eq, List.length_map, List.length_map]
  have fits : 0 + (trailer.map weight).sum ≤ automaticHttpHeaderBytes := by
    rw [Nat.zero_add]
    exact bounded.2
  simp only [automaticHttpMetadataFromPayload, ofTree, anyList, Option.bind_eq_bind,
    Option.bind_some]
  rw [number, if_neg (Nat.not_lt.mpr bounded.1), headerLoop_eq_some reads plain fits]

/-- A list of strings is read back. -/
theorem automaticHttpStringList_strings (values : List Bytes) :
    automaticHttpStringList (.slice (values.map fun value => .string (lossy value))) =
      some (values.map lossy) := by
  simp only [automaticHttpStringList, anyList, Option.bind_eq_bind, Option.bind_some]
  induction values with
  | nil => rfl
  | cons value values ih =>
      rw [List.map_cons, List.mapM_cons, ih]
      rfl

/-- The integers of a response that its payload is checked for. -/
structure CheckedIntegers (response : Response) (body : Bytes) : Prop where
  protoMajor : 0 ≤ response.protoMajor.toInt ∧ response.protoMajor.toInt ≤ 255
  protoMinor : 0 ≤ response.protoMinor.toInt ∧ response.protoMinor.toInt ≤ 255
  contentLength : -1 ≤ response.contentLength.toInt
  body : body.length ≤ automaticHttpBodyBytes

/-- What is decoded of the payload of a response. -/
def decodedPayload (response : Response) (body bodyKind : Bytes)
    (trailer : List DependencyMetadata) : ReplayPayload where
  body := body
  bodyKind := lossy bodyKind
  close := response.close
  contentLength := response.contentLength.toInt
  proto := lossy response.proto
  protoMajor := response.protoMajor.toInt
  protoMinor := response.protoMinor.toInt
  status := lossy response.status
  trailer := Header.empty.collect trailer
  transferEncoding := response.transferEncoding.map lossy
  uncompressed := response.uncompressed

/-- What is decoded of the parsed payload of a response. -/
theorem decodeObject_payload {response : Response} {body bodyKind : Bytes}
    {trailer : List DependencyMetadata} {payload : ReplayPayload}
    (plain : ∀ field ∈ trailer, isSensitive field.name = false) (bounded : Bounded trailer) :
    decodeObject (payloadObject response body bodyKind trailer) = some payload ↔
      CheckedIntegers response body ∧
        payload = decodedPayload response body bodyKind trailer := by
  have current : hasExactKeys (payloadObject response body bodyKind trailer) currentKeys =
      true := by
    have keys : (payloadObject response body bodyKind trailer).map Prod.fst = payloadKeys := rfl
    rw [hasExactKeys_eq, keys]
    decide +kernel
  have smalls (key : String) (value : Int64)
      (found : OrderedRecord.get key.toList (payloadObject response body bodyKind trailer) =
        some (.number (decimal value.toInt))) :
      smallEntry key (payloadObject response body bodyKind trailer) =
        if value.toInt < 0 ∨ 255 < value.toInt then none else some value.toInt := by
    simp only [smallEntry, found, Option.bind_eq_bind, Option.bind_some, integerValue_decimal]
  have strings (key : String) (text : Text)
      (found : OrderedRecord.get key.toList (payloadObject response body bodyKind trailer) =
        some (.string text)) :
      stringEntry key (payloadObject response body bodyKind trailer) = some text := by
    simp only [stringEntry, found, Option.bind_some, stringOf]
  have trailers : (OrderedRecord.get "trailer".toList
      (payloadObject response body bodyKind trailer)).bind automaticHttpMetadataFromPayload =
      some (Header.empty.collect trailer) :=
    automaticHttpMetadataFromPayload_trailer plain bounded
  have encodings : (OrderedRecord.get "transfer_encoding".toList
      (payloadObject response body bodyKind trailer)).bind automaticHttpStringList =
      some (response.transferEncoding.map lossy) :=
    automaticHttpStringList_strings response.transferEncoding
  have length : (OrderedRecord.get "content_length".toList
      (payloadObject response body bodyKind trailer)).bind integerValue =
      some response.contentLength.toInt :=
    integerValue_decimal response.contentLength
  have closes : (OrderedRecord.get "close".toList
      (payloadObject response body bodyKind trailer)).bind boolOf = some response.close := rfl
  have uncompresses : (OrderedRecord.get "uncompressed".toList
      (payloadObject response body bodyKind trailer)).bind boolOf =
      some response.uncompressed := rfl
  have pair : bodyAndTrailer (payloadObject response body bodyKind trailer) =
      some (Base64.encode body, Header.empty.collect trailer) := by
    rw [bodyAndTrailer, if_pos current, strings "body" _ rfl, trailers]
    rfl
  simp only [decodeObject, pair, strings "body_kind" _ rfl, closes, length,
    strings "proto" _ rfl, smalls "proto_major" _ rfl, smalls "proto_minor" _ rfl,
    strings "status" _ rfl, encodings, uncompresses, decodeString_encode, Option.bind_eq_bind,
    Option.bind_some]
  by_cases major : response.protoMajor.toInt < 0 ∨ 255 < response.protoMajor.toInt
  · rw [if_pos major, Option.bind_none]
    constructor
    · intro none
      cases none
    · rintro ⟨checked, -⟩
      have := checked.protoMajor
      omega
  rw [if_neg major, Option.bind_some]
  by_cases minor : response.protoMinor.toInt < 0 ∨ 255 < response.protoMinor.toInt
  · rw [if_pos minor, Option.bind_none]
    constructor
    · intro none
      cases none
    · rintro ⟨checked, -⟩
      have := checked.protoMinor
      omega
  rw [if_neg minor, Option.bind_some]
  by_cases bounds : automaticHttpBodyBytes < body.length ∨ response.contentLength.toInt < -1
  · rw [if_pos bounds]
    constructor
    · intro none
      cases none
    · rintro ⟨checked, -⟩
      have := checked.body
      have := checked.contentLength
      omega
  rw [if_neg bounds, Option.some.injEq]
  constructor
  · rintro rfl
    exact ⟨⟨by omega, by omega, by omega, by omega⟩, rfl⟩
  · rintro ⟨-, rfl⟩
    rfl

/-- What is decoded of the payload of a response. -/
theorem decode_payload {response : Response} {body bodyKind : Bytes}
    {trailer : List DependencyMetadata} {payload : ReplayPayload}
    (plain : ∀ field ∈ trailer, isSensitive field.name = false) (bounded : Bounded trailer)
    (fits : (utf8 (Part.object (payloadParts response body bodyKind trailer)).text).length ≤
      sdkEngineMaxSemanticDependencyRecordBytes) :
    decodeAutomaticHttpReplayPayload
        (utf8 (Part.object (payloadParts response body bodyKind trailer)).text) = some payload ↔
      ParsedStrings response bodyKind ∧ CheckedIntegers response body ∧
        payload = decodedPayload response body bodyKind trailer := by
  have parsed := parseStrictJSON_part (reading_payload response body bodyKind trailer)
    (Int.ofNat_le.mpr fits)
  have members := memberOutcomes_payload response body bodyKind trailer
  rw [decodeAutomaticHttpReplayPayload, parsed, Part.object]
  by_cases strings : ParsedStrings response bodyKind
  · rw [members.1 strings]
    simp only [Option.map_some, Option.bind_eq_bind, Option.bind_some, mapOf]
    rw [decodeObject_payload plain bounded]
    exact (and_iff_right strings).symm
  · rw [members.2 strings]
    constructor
    · intro none
      cases none
    · rintro ⟨all, -⟩
      exact absurd all strings

/-- The header of a response is read back. -/
theorem automaticHttpHeaderFromMetadata_eq {metadata : List DependencyMetadata}
    (plain : ∀ field ∈ metadata, isSensitive field.name = false) (bounded : Bounded metadata) :
    automaticHttpHeaderFromMetadata metadata = some (Header.empty.collect metadata) := by
  have fits : 0 + (metadata.map weight).sum ≤ automaticHttpHeaderBytes := by
    rw [Nat.zero_add]
    exact bounded.2
  rw [automaticHttpHeaderFromMetadata, if_neg (Nat.not_lt.mpr bounded.1),
    headerLoop_eq_some rfl plain fits]

/-- The recorded fields of a header have keys of the header. -/
theorem plain_entries {header : Header}
    (plain : ∀ field ∈ header.fields, isSensitive field.1 = false) :
    ∀ field ∈ header.entries, isSensitive field.name = false := by
  intro field among
  rcases List.mem_flatMap.mp among with ⟨entry, held, inside⟩
  rcases List.mem_map.mp inside with ⟨value, -, rfl⟩
  exact plain entry (mem_sortBy.mp held)

/-! ## Replays -/

/-- The kind that a body is recorded with. -/
def ReplayBody.kind : ReplayBody → Bytes
  | .absent => asciiBytes "nil"
  | .noBody => asciiBytes "no-body"
  | .reader _ => asciiBytes "stream"

/-- The bytes that can be read of a body. -/
def ReplayBody.bytes : ReplayBody → Bytes
  | .absent => []
  | .noBody => []
  | .reader value => value

/-- A replayed response is the recorded one, with its body. -/
structure Reproduces (response : Response) (body bodyKind : Bytes)
    (replayed : Response × ReplayBody) : Prop where
  status : replayed.1.status = response.status
  statusCode : replayed.1.statusCode = response.statusCode
  proto : replayed.1.proto = response.proto
  protoMajor : replayed.1.protoMajor = response.protoMajor
  protoMinor : replayed.1.protoMinor = response.protoMinor
  header : ∀ key, replayed.1.header.values key = response.header.values key
  contentLength : replayed.1.contentLength = response.contentLength
  transferEncoding : replayed.1.transferEncoding = response.transferEncoding
  close : replayed.1.close = response.close
  uncompressed : replayed.1.uncompressed = response.uncompressed
  trailer : ∀ key, replayed.1.trailer.values key = response.trailer.values key
  bodyKind : replayed.2.kind = bodyKind
  body : replayed.2.bytes = body

/-- A body fits to the kind it is recorded with. -/
def FitsKind (response : Response) (body bodyKind : Bytes) : Prop :=
  (bodyKind = asciiBytes "stream" ∧
    (response.contentLength.toInt < 0 ∨ response.contentLength.toInt = body.length)) ∨
  ((bodyKind = asciiBytes "nil" ∨ bodyKind = asciiBytes "no-body") ∧ body = [] ∧
    response.trailer.entries = [])

/-- When a recorded response can be replayed: its strings are UTF-8 without one of the five escapes,
its integers are in the ranges that the payload is checked for, and its body fits to its kind. -/
structure Replayable (response : Response) (body bodyKind : Bytes) : Prop where
  status : Kept response.status
  proto : Kept response.proto
  transferEncoding : ∀ encoding ∈ response.transferEncoding, Kept encoding
  protoMajor : 0 ≤ response.protoMajor.toInt ∧ response.protoMajor.toInt ≤ 255
  protoMinor : 0 ≤ response.protoMinor.toInt ∧ response.protoMinor.toInt ≤ 255
  contentLength : -1 ≤ response.contentLength.toInt
  body : FitsKind response body bodyKind

/-- A string is kept when it is parsed and read as itself. -/
theorem kept_iff_parsed (typed : Bytes) :
    Kept typed ↔ Parsed typed ∧ utf8 (lossy typed) = typed := by
  rw [kept_iff]
  constructor
  · rintro ⟨text, read, same⟩
    by_cases escapes : Escapes (runes typed)
    · rw [stringPart, if_pos escapes] at read
      cases read
    · rw [stringPart, if_neg escapes, Option.some.injEq, GoValue.string.injEq] at read
      rw [read]
      exact ⟨escapes, same⟩
  · rintro ⟨escapes, same⟩
    exact ⟨lossy typed, if_neg escapes, same⟩

/-- The kinds are read as they are written. -/
theorem lossy_kinds : lossy (asciiBytes "nil") = "nil".toList ∧
    lossy (asciiBytes "no-body") = "no-body".toList ∧
    lossy (asciiBytes "stream") = "stream".toList := by
  have written : utf8 "nil".toList = asciiBytes "nil" ∧
      utf8 "no-body".toList = asciiBytes "no-body" ∧
      utf8 "stream".toList = asciiBytes "stream" := by
    decide +kernel
  rw [← written.1, ← written.2.1, ← written.2.2]
  exact ⟨lossy_utf8 _, lossy_utf8 _, lossy_utf8 _⟩

/-- The body of a decoded payload fits to the kind where there is one. -/
theorem fitsKind_of_reconstruct {response : Response} {body bodyKind : Bytes}
    {replayed : ReplayBody}
    (built : reconstructAutomaticHttpBody
      (decodedPayload response body bodyKind response.trailer.entries) = some replayed)
    (kind : replayed.kind = bodyKind) : FitsKind response body bodyKind := by
  have empty : (decodedPayload response body bodyKind response.trailer.entries).trailer.fields =
      [] ↔ response.trailer.entries = [] :=
    fields_collect_eq_nil.trans (and_iff_right rfl)
  unfold reconstructAutomaticHttpBody at built
  split at built
  · split at built
    · cases built
    · rename_i none
      cases built
      rw [not_or, not_not, not_not, empty] at none
      exact .inr ⟨.inl kind.symm, none⟩
  · split at built
    · split at built
      · cases built
      · rename_i none
        cases built
        rw [not_or, not_not, not_not, empty] at none
        exact .inr ⟨.inr kind.symm, none⟩
    · split at built
      · split at built
        · cases built
        · rename_i length
          cases built
          rw [not_and_or, not_not, not_le] at length
          exact .inl ⟨kind.symm, length⟩
      · cases built

/-- A body that fits to its kind is in the decoded payload. -/
theorem reconstruct_of_fitsKind {response : Response} {body bodyKind : Bytes}
    (fits : FitsKind response body bodyKind) :
    ∃ replayed, reconstructAutomaticHttpBody
        (decodedPayload response body bodyKind response.trailer.entries) = some replayed ∧
      replayed.kind = bodyKind ∧ replayed.bytes = body := by
  rcases lossy_kinds with ⟨absent, noBody, stream⟩
  rcases fits with ⟨rfl, length⟩ | ⟨kinds, rfl, trailer⟩
  · refine ⟨.reader body, ?_, rfl, rfl⟩
    simp only [reconstructAutomaticHttpBody, decodedPayload, stream]
    rw [if_neg (by decide), if_neg (by decide), if_pos trivial, if_neg (by omega)]
  · rw [trailer]
    rcases kinds with rfl | rfl
    · refine ⟨.absent, ?_, rfl, rfl⟩
      simp only [reconstructAutomaticHttpBody, decodedPayload, absent]
      rfl
    · refine ⟨.noBody, ?_, rfl, rfl⟩
      simp only [reconstructAutomaticHttpBody, decodedPayload, noBody]
      rw [if_neg (by decide)]
      rfl

/-- A kind that a body fits to is parsed. -/
theorem parsed_of_fitsKind {response : Response} {body bodyKind : Bytes}
    (fits : FitsKind response body bodyKind) : Parsed bodyKind := by
  have kinds : Parsed (asciiBytes "nil") ∧ Parsed (asciiBytes "no-body") ∧
      Parsed (asciiBytes "stream") := by
    decide +kernel
  rcases fits with ⟨rfl, -⟩ | ⟨rfl | rfl, -⟩
  · exact kinds.2.2
  · exact kinds.1
  · exact kinds.2.1

/-- What is recorded of a response. -/
theorem makeAutomaticHttpResponseRecord_eq_some {response : Response} {body bodyKind : Bytes}
    {record : Wrappers.Native.Go.SemanticDependencyResponse}
    (made : makeAutomaticHttpResponseRecord response body bodyKind = some record) :
    unsupportedResponse response body = false ∧
      (∀ field ∈ response.header.fields, isSensitive field.1 = false) ∧
      Bounded response.header.entries ∧
      (∀ field ∈ response.trailer.fields, isSensitive field.1 = false) ∧
      Bounded response.trailer.entries ∧
      record.payload = utf8 (Part.object
        (payloadParts response body bodyKind response.trailer.entries)).text ∧
      record.payload.length ≤ sdkEngineMaxSemanticDependencyRecordBytes ∧
      record = { metadata := response.header.entries, outcome := "response",
                 payload := record.payload, hasPayload := true,
                 statusCode := some response.statusCode.toInt.toNat } := by
  unfold makeAutomaticHttpResponseRecord at made
  split at made
  · cases made
  · rename_i supported
    rw [Bool.not_eq_true] at supported
    simp only [Option.bind_eq_bind, Option.bind_eq_some_iff, automaticHttpMetadataPayload,
      Option.map_eq_some_iff] at made
    rcases made with ⟨metadata, taken, _, ⟨trailer, taken', rfl⟩, payload, written, made⟩
    rcases automaticHttpMetadata_eq_some.mp taken with ⟨plain, bounded, rfl⟩
    rcases automaticHttpMetadata_eq_some.mp taken' with ⟨plain', bounded', rfl⟩
    rw [responsePayload_eq] at written
    cases written
    split at made
    · cases made
    · rename_i short
      cases made
      exact ⟨supported, plain, bounded, plain', bounded', rfl, Nat.not_lt.mp short, rfl⟩

/-- The response that is built of a decoded payload. -/
def rebuilt (response : Response) (body bodyKind : Bytes) : Response :=
  replayedResponse response.statusCode.toInt.toNat
    (decodedPayload response body bodyKind response.trailer.entries)
    (Header.empty.collect response.header.entries)

/-- When a recorded response is reconstructed, and how. -/
theorem reconstruct_eq_ok {response : Response} {body bodyKind : Bytes}
    {record : Wrappers.Native.Go.SemanticDependencyResponse} {replayed : Response × ReplayBody}
    (made : makeAutomaticHttpResponseRecord response body bodyKind = some record) :
    reconstructAutomaticHttpResponse record = .ok replayed ↔
      ParsedStrings response bodyKind ∧ CheckedIntegers response body ∧
        reconstructAutomaticHttpBody
          (decodedPayload response body bodyKind response.trailer.entries) = some replayed.2 ∧
        replayed.1 = rebuilt response body bodyKind := by
  rcases makeAutomaticHttpResponseRecord_eq_some made with
    ⟨-, plain, bounded, plain', bounded', written, fits, whole⟩
  have header := automaticHttpHeaderFromMetadata_eq (plain_entries plain) bounded
  rw [written] at fits
  have decoded := fun payload => @decode_payload response body bodyKind response.trailer.entries
    payload (plain_entries plain') bounded' fits
  rw [← written] at decoded
  rw [whole, reconstructAutomaticHttpResponse, if_neg (by simp), if_neg (by simp)]
  dsimp only
  rw [header]
  cases found : decodeAutomaticHttpReplayPayload record.payload with
  | none =>
      constructor
      · intro none
        cases none
      · rintro ⟨strings, integers, -⟩
        have some := (decoded _).mpr ⟨strings, integers, rfl⟩
        rw [found] at some
        cases some
  | some payload =>
      rcases (decoded payload).mp found with ⟨strings, integers, rfl⟩
      simp only [Option.bind_eq_bind, Option.bind_some, strings, integers, true_and]
      cases reconstructAutomaticHttpBody
          (decodedPayload response body bodyKind response.trailer.entries) with
      | none => simp
      | some value =>
          rcases replayed with ⟨other, otherBody⟩
          simp [rebuilt, eq_comm, and_comm]

/-- A recorded response is replayed as it was exactly when it can be replayed. -/
theorem reproduced_iff {response : Response} {body bodyKind : Bytes}
    {record : Wrappers.Native.Go.SemanticDependencyResponse}
    (made : makeAutomaticHttpResponseRecord response body bodyKind = some record) :
    (∃ replayed, reconstructAutomaticHttpResponse record = .ok replayed ∧
      Reproduces response body bodyKind replayed) ↔ Replayable response body bodyKind := by
  constructor
  · rintro ⟨⟨replayed, value⟩, built, same⟩
    rcases (reconstruct_eq_ok made).mp built with ⟨strings, integers, found, rfl⟩
    have encodings : response.transferEncoding.map (utf8 ∘ lossy) =
        response.transferEncoding.map id := by
      rw [List.map_id, ← List.map_map]
      exact same.transferEncoding
    constructor
    · exact (kept_iff_parsed _).mpr ⟨strings.status, same.status⟩
    · exact (kept_iff_parsed _).mpr ⟨strings.proto, same.proto⟩
    · intro encoding among
      have read := List.map_inj_left.mp encodings encoding among
      exact (kept_iff_parsed _).mpr ⟨strings.transferEncoding encoding among, read⟩
    · exact integers.protoMajor
    · exact integers.protoMinor
    · exact integers.contentLength
    · exact fitsKind_of_reconstruct found same.bodyKind
  · intro replayable
    rcases makeAutomaticHttpResponseRecord_eq_some made with ⟨supported, -⟩
    simp only [unsupportedResponse, Bool.or_eq_false_iff, decide_eq_false_iff_not] at supported
    rcases reconstruct_of_fitsKind replayable.body with ⟨value, found, kind, bytes⟩
    have status := (kept_iff_parsed _).mp replayable.status
    have proto := (kept_iff_parsed _).mp replayable.proto
    have encodings := fun encoding among =>
      (kept_iff_parsed encoding).mp (replayable.transferEncoding encoding among)
    have strings : ParsedStrings response bodyKind :=
      ⟨parsed_of_fitsKind replayable.body, proto.1, status.1,
        fun encoding among => (encodings encoding among).1⟩
    have integers : CheckedIntegers response body :=
      ⟨replayable.protoMajor, replayable.protoMinor, replayable.contentLength, by omega⟩
    refine ⟨(rebuilt response body bodyKind, value),
      (reconstruct_eq_ok made).mpr ⟨strings, integers, found, rfl⟩, ?_⟩
    have code : ((response.statusCode.toInt.toNat : Nat) : Int) = response.statusCode.toInt :=
      Int.toNat_of_nonneg (by omega)
    constructor
    · exact status.2
    · change Int64.ofInt _ = _
      rw [code, Int64.ofInt_toInt]
    · exact proto.2
    · exact Int64.ofInt_toInt _
    · exact Int64.ofInt_toInt _
    · exact values_collect_entries response.header
    · exact Int64.ofInt_toInt _
    · change (response.transferEncoding.map lossy).map utf8 = _
      rw [List.map_map]
      refine (List.map_congr_left fun encoding among => ?_).trans (List.map_id _)
      exact (encodings encoding among).2
    · rfl
    · rfl
    · exact values_collect_entries response.trailer
    · exact kind
    · exact bytes

/-- A response with a body of two bytes and a field with two values, one of them empty. -/
def greeting (status : Bytes) : Response where
  status := status
  statusCode := 200
  proto := asciiBytes "HTTP/1.1"
  protoMajor := 1
  protoMinor := 1
  header := ⟨[(asciiBytes "Vary", [asciiBytes "Accept", []])], by decide⟩
  contentLength := 2
  transferEncoding := []
  close := false
  uncompressed := false
  trailer := ⟨[], by decide⟩

/-- A response that is replayed as it was. -/
theorem reproduced_greeting :
    ∃ record, makeAutomaticHttpResponseRecord (greeting (asciiBytes "200 OK")) [0x68, 0x69]
        (asciiBytes "stream") = some record ∧
      ∃ replayed, reconstructAutomaticHttpResponse record = .ok replayed ∧
        Reproduces (greeting (asciiBytes "200 OK")) [0x68, 0x69] (asciiBytes "stream")
          replayed := by
  have recorded : (makeAutomaticHttpResponseRecord (greeting (asciiBytes "200 OK")) [0x68, 0x69]
      (asciiBytes "stream")).isSome = true := by
    decide +kernel
  rcases Option.isSome_iff_exists.mp recorded with ⟨record, made⟩
  refine ⟨record, made, (reproduced_iff made).mpr ?_⟩
  constructor
  · exact ⟨"200 OK".toList, by decide +kernel, by decide +kernel⟩
  · exact ⟨"HTTP/1.1".toList, by decide +kernel, by decide +kernel⟩
  · intro encoding among
    cases among
  · decide
  · decide
  · decide
  · exact .inl ⟨rfl, .inr (by decide)⟩

/-- A reason phrase with a byte of Latin-1 is recorded, and replayed with the replacement character
in the place of the byte. -/
theorem reason_phrase_replaced :
    ∃ record, makeAutomaticHttpResponseRecord (greeting (asciiBytes "200 Cr" ++ [0xe9]))
        [0x68, 0x69] (asciiBytes "stream") = some record ∧
      ¬ ∃ replayed, reconstructAutomaticHttpResponse record = .ok replayed ∧
        Reproduces (greeting (asciiBytes "200 Cr" ++ [0xe9])) [0x68, 0x69] (asciiBytes "stream")
          replayed := by
  have recorded : (makeAutomaticHttpResponseRecord (greeting (asciiBytes "200 Cr" ++ [0xe9]))
      [0x68, 0x69] (asciiBytes "stream")).isSome = true := by
    decide +kernel
  have changed : utf8 (lossy (asciiBytes "200 Cr" ++ [0xe9])) ≠ asciiBytes "200 Cr" ++ [0xe9] := by
    decide +kernel
  rcases Option.isSome_iff_exists.mp recorded with ⟨record, made⟩
  refine ⟨record, made, ?_⟩
  rintro ⟨replayed, built, same⟩
  have whole := ((reconstruct_eq_ok made).mp built).2.2.2
  have status := same.status
  rw [whole] at status
  exact changed status

end Go
end Http
end ReproItSdk
