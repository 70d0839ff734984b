import Mathlib.Data.Bool.AllAny
import Mathlib.Data.List.Infix
import ReproItSdk.Library.Decimal
import ReproItSdk.Library.Json
import ReproItSdk.Library.JsonStrings
import ReproItSdk.Library.JsonWriter
import ReproItSdk.Library.Rewriting

/-! # Canonical JSON of the Go SDK

The Go SDK writes strings with the encoder of the standard library, which also escapes characters
that matter in HTML, and then replaces five escapes by the characters they stand for, all over the
written text.

Main results:

- Theorem {lit}`encodeString_eq_quote_iff`: a string is written with the fewest escapes exactly when
  it contains none of the five escapes itself.
- Theorem {lit}`length_encodeString_le`: otherwise it is written shorter.
- Theorem {lit}`encodeCanonical_bridge`: a value of the bridge is written as its content.
-/

namespace ReproItSdk.Canonical

open Unicode Json Rewriting Decimal

/-! ## Strings -/

/-- Characters that {lit}`json.Marshal` escapes for HTML and JavaScript. -/
def htmlCharacters : List Char :=
  ['<', '>', '&', '\u2028', '\u2029']

/-- A character as {lit}`json.Marshal` writes it. -/
def marshalCharacter (character : Char) : Text :=
  if character ∈ htmlCharacters then unicodeEscape character else escapeCharacter character

/-- The string that {lit}`json.Marshal` writes for a text. -/
def marshal (text : Text) : Text :=
  '\"' :: text.flatMap marshalCharacter ++ ['\"']

/-- The string case of {lit}`encodeCanonical`. -/
def encodeString (typed : Text) : Text :=
  let text := marshal typed
  let text := replaceAll ['\\', 'u', '0', '0', '3', 'c'] '<' text
  let text := replaceAll ['\\', 'u', '0', '0', '3', 'e'] '>' text
  let text := replaceAll ['\\', 'u', '0', '0', '2', '6'] '&' text
  let text := replaceAll ['\\', 'u', '2', '0', '2', '8'] '\u2028' text
  replaceAll ['\\', 'u', '2', '0', '2', '9'] '\u2029' text

/-! ## Values -/

/-- A value of type {lit}`any`, as far as the encoder tells values apart. -/
inductive GoValue where
  | nil
  | bool (value : Bool)
  | string (text : Text)
  | number (digits : Text)
  | int (value : Int)
  | int64 (value : Int)
  | float64
  | slice (elements : List GoValue)
  | mapSlice (elements : List (List (Text × GoValue)))
  | map (members : List (Text × GoValue))
  | other (typeName : String)

/-- {lit}`strconv.ParseInt` for base 10 and 64 bits, which {lit}`json.Number.Int64` calls. -/
def parseInt64 (text : Text) : Option Int :=
  let negative := text.head? = some '-'
  let digits := if negative ∨ text.head? = some '+' then text.tail else text
  if digits ≠ [] ∧ digits.all Char.isDigit then
    let magnitude := Nat.ofDigitChars 10 digits 0
    if negative then if magnitude ≤ 2 ^ 63 then some (-magnitude) else none
    else if magnitude < 2 ^ 63 then some magnitude else none
  else none

/-- Writes the members of a map in the byte order of their keys. -/
def writeMap (members : List (Text × Except String Text)) : Except String Text :=
  writeObject utf8 encodeString members

mutual

/-- Text that {lit}`encodeCanonical` writes for a value. -/
def encodeCanonical : GoValue → Except String Text
  | .nil => .ok ['n', 'u', 'l', 'l']
  | .bool true => .ok ['t', 'r', 'u', 'e']
  | .bool false => .ok ['f', 'a', 'l', 's', 'e']
  | .string typed => .ok (encodeString typed)
  | .number typed =>
      match parseInt64 typed with
      | none => .error "The protocol value contains a non-canonical integer."
      | some parsed =>
          if decimal parsed ≠ typed then
            .error "The protocol value contains a non-canonical integer."
          else .ok typed
  | .int typed => .ok (decimal typed)
  | .int64 typed => .ok (decimal typed)
  | .float64 => .error "The protocol value contains a floating-point number."
  | .slice elements => writeArray (encodeElements elements)
  | .mapSlice elements => writeArray (encodeMaps elements)
  | .map members => writeMap (encodeMembers members)
  | .other typeName => .error ("The protocol value has unsupported type " ++ typeName ++ ".")

/-- Texts of the elements of a slice. -/
def encodeElements : List GoValue → List (Except String Text)
  | [] => []
  | first :: rest => encodeCanonical first :: encodeElements rest

/-- Texts of the maps of a slice of maps. -/
def encodeMaps : List (List (Text × GoValue)) → List (Except String Text)
  | [] => []
  | first :: rest => writeMap (encodeMembers first) :: encodeMaps rest

/-- Texts of the values of a map. -/
def encodeMembers : List (Text × GoValue) → List (Text × Except String Text)
  | [] => []
  | (key, value) :: rest => (key, encodeCanonical value) :: encodeMembers rest

end

/-- Canonical JSON of a value. -/
def CanonicalBytes (value : GoValue) : Except String (List UInt8) := do
  let output ← encodeCanonical value
  return utf8 output

/-! ## Strings with escapes in their text -/

/-- The five replacements of {lit}`encodeCanonical`. -/
def replacements : List (Rule Char) :=
  htmlCharacters.map fun character => (unicodeEscape character, character)

/-- The text contains none of the five escapes that are replaced. -/
def NoEscape (text : Text) : Prop :=
  ∀ character ∈ htmlCharacters, ¬ unicodeEscape character <:+: text

instance : DecidablePred NoEscape :=
  fun text => List.decidableBAll (fun character => ¬ unicodeEscape character <:+: text) htmlCharacters

/-- Every escape starts with the reverse solidus and has no other one. -/
theorem replacements_marked : Marked '\\' replacements := by
  constructor
  · have unmarked : ∀ character ∈ htmlCharacters, '\\' ∉ (unicodeEscape character).tail :=
      List.all_iff_forall_prop.mp (by decide)
    simp only [replacements, List.forall_mem_map]
    exact fun character html => ⟨_, rfl, unmarked character html⟩
  · decide

/-- The five passes are one pass. -/
theorem encodeString_eq (typed : Text) :
    encodeString typed = rewrite replacements (marshal typed) :=
  foldl_replaceAll replacements_marked (marshal typed)

/-- An escape of the standard encoder is replaced. -/
theorem matching_unicodeEscape {character : Char} (html : character ∈ htmlCharacters)
    (rest : Text) :
    matching? replacements (unicodeEscape character ++ rest) =
      some (unicodeEscape character, character) := by
  simp only [htmlCharacters, List.mem_cons, List.not_mem_nil, or_false] at html
  rcases html with rfl | rfl | rfl | rfl | rfl <;> rfl

/-- Escapes that start one text belong to one character. -/
theorem eq_of_unicodeEscape_prefix {character other : Char} {rest : Text}
    (html : other ∈ htmlCharacters) (basic : character.toNat < 65536)
    (starts : unicodeEscape other <+: unicodeEscape character ++ rest) :
    other.toNat = character.toNat := by
  have basic' : ∀ other ∈ htmlCharacters, other.toNat < 65536 :=
    List.all_iff_forall_prop.mp (by decide)
  have same : unicodeEscape other = unicodeEscape character :=
    (List.prefix_of_prefix_length_le starts (List.prefix_append _ _) (by rfl)).eq_of_length (by rfl)
  simp only [unicodeEscape, List.cons.injEq, true_and] at same
  exact eq_of_hexadecimal_eq (basic' other html) basic same

/-- No escape starts at a reverse solidus that something else than its tail follows. -/
theorem matching_solidus {rest : Text}
    (absent : ∀ character ∈ htmlCharacters, ¬ (unicodeEscape character).tail <+: rest) :
    matching? replacements ('\\' :: rest) = none := by
  rw [matching_eq_none]
  simp only [replacements, List.forall_mem_map]
  intro character html starts
  rw [unicodeEscape, List.cons_prefix_cons] at starts
  exact absent character html starts.2

/-- A reverse solidus where no escape starts is copied with the unmarked text behind it. -/
theorem rewrite_solidus {tail rest : Text}
    (missing : matching? replacements ('\\' :: tail ++ rest) = none) (unmarked : '\\' ∉ tail) :
    rewrite replacements ('\\' :: tail ++ rest) = '\\' :: tail ++ rewrite replacements rest := by
  rw [List.cons_append] at missing
  rw [List.cons_append, rewrite_of_no_matching missing,
    rewrite_append replacements_marked unmarked, List.cons_append]

/-- Every character but the reverse solidus is written with the fewest escapes after all. -/
theorem rewrite_marshalCharacter {character : Char} (other : character ≠ '\\') (rest : Text) :
    rewrite replacements (marshalCharacter character ++ rest) =
      escapeCharacter character ++ rewrite replacements rest := by
  unfold marshalCharacter
  split
  case isTrue html =>
    have plain : ∀ character ∈ htmlCharacters, escapeCharacter character = [character] :=
      List.all_iff_forall_prop.mp (by decide)
    have found := matching_unicodeEscape html rest
    rw [plain character html]
    have filled : (unicodeEscape character, character).1 ≠ [] := by simp [unicodeEscape]
    exact rewrite_of_matching filled found
  case isFalse common =>
    have escaped := escapeCharacter_cases character
    generalize escapeCharacter character = part at escaped ⊢
    cases escaped with
    | plain printable noQuote noSolidus =>
        exact rewrite_append replacements_marked (by simpa using other.symm) rest
    | short letter written =>
        obtain ⟨noCode, solidus⟩ := shortEscape_letter written
        refine rewrite_solidus (matching_solidus fun character html starts => ?_) ?_
        · exact noCode (List.cons_prefix_cons.mp starts).1.symm
        · simpa using fun same => other (solidus same.symm)
    | code control =>
        refine rewrite_solidus (matching_solidus fun special html starts => ?_) ?_
        · have apart : ∀ special ∈ htmlCharacters, 32 ≤ special.toNat :=
            List.all_iff_forall_prop.mp (by decide)
          have whole : unicodeEscape special <+: unicodeEscape character ++ rest :=
            List.cons_prefix_cons.mpr ⟨rfl, starts⟩
          have same := eq_of_unicodeEscape_prefix html (by omega) whole
          have := apart special html
          omega
        · simpa using solidus_notMem_hexadecimal character.toNat

/-- Text behind the quotation mark that opens a string. -/
def marshalBody (text : Text) : Text :=
  text.flatMap marshalCharacter ++ ['\"']

/-- Characters of escapes behind the reverse solidus are written as they are, and nothing else is
written with them at the start. -/
theorem prefix_marshalBody {word text : Text}
    (plain : ∀ character ∈ word, marshalCharacter character = [character] ∧ character ≠ '\"' ∧
      character ≠ '\\')
    (starts : word <+: marshalBody text) : word <+: text := by
  induction word generalizing text with
  | nil => exact List.nil_prefix
  | cons character word ih =>
      obtain ⟨-, noQuote, noSolidus⟩ := plain character (by simp)
      cases text with
      | nil =>
          rw [marshalBody, List.flatMap_nil, List.nil_append, List.cons_prefix_cons] at starts
          exact absurd starts.1 noQuote
      | cons other text =>
          rw [marshalBody, List.flatMap_cons, List.append_assoc] at starts
          have written : marshalCharacter other = [other] ∨
              ∃ rest, marshalCharacter other = '\\' :: rest := by
            unfold marshalCharacter
            split
            · exact .inr ⟨_, rfl⟩
            · have escaped := escapeCharacter_cases other
              generalize escapeCharacter other = part at escaped ⊢
              cases escaped with
              | plain _ _ _ => exact .inl rfl
              | short letter _ => exact .inr ⟨_, rfl⟩
              | code _ => exact .inr ⟨_, rfl⟩
          rcases written with same | ⟨rest, solidus⟩
          · rw [same, List.singleton_append, List.cons_prefix_cons] at starts
            rw [List.cons_prefix_cons]
            exact ⟨starts.1, ih (fun next among => plain next (List.mem_cons_of_mem _ among))
              starts.2⟩
          · rw [solidus, List.cons_append, List.cons_prefix_cons] at starts
            exact absurd starts.1 noSolidus

/-- Characters of escapes behind the reverse solidus are written as they are. -/
theorem unicodeEscape_tail_plain {character : Char} (html : character ∈ htmlCharacters) :
    ∀ digit ∈ (unicodeEscape character).tail, marshalCharacter digit = [digit] ∧
      escapeCharacter digit = [digit] ∧ digit ≠ '\"' ∧ digit ≠ '\\' := by
  have all : ∀ digit ∈ htmlCharacters.flatMap fun character => (unicodeEscape character).tail,
      marshalCharacter digit = [digit] ∧ escapeCharacter digit = [digit] ∧ digit ≠ '\"' ∧
        digit ≠ '\\' :=
    List.all_iff_forall_prop.mp (by decide)
  exact fun digit among => all digit (List.mem_flatMap.mpr ⟨character, html, among⟩)

/-- Characters that are written as they are make a text that is written as it is. -/
theorem flatMap_plain {write : Char → Text} {word : Text}
    (plain : ∀ character ∈ word, write character = [character]) : word.flatMap write = word := by
  rw [List.flatMap_congr plain, List.flatMap_singleton']

/-- The escapes of a text stand at its start or behind it. -/
theorem noEscape_cons {character : Char} {text : Text} :
    NoEscape (character :: text) ↔
      (∀ html ∈ htmlCharacters, ¬ unicodeEscape html <+: character :: text) ∧ NoEscape text := by
  simp only [NoEscape, List.infix_cons_iff, not_or, forall_and]

/-- A reverse solidus and what stands behind the one of an escape lose four characters. -/
theorem rewrite_solidus_escape {html : Char} (special : html ∈ htmlCharacters) (text : Text) :
    rewrite replacements (marshalBody ((unicodeEscape html) ++ text)) =
        '\\' :: html :: rewrite replacements (marshalBody text) ∧
      (escape (unicodeEscape html ++ text)).length = 7 + (escape text).length := by
  have plain := unicodeEscape_tail_plain special
  have written : marshalBody (unicodeEscape html ++ text) =
      '\\' :: (unicodeEscape html ++ marshalBody text) := by
    have tail := flatMap_plain fun digit among => (plain digit among).1
    rw [marshalBody, marshalBody, List.flatMap_append, unicodeEscape, List.flatMap_cons]
    rw [unicodeEscape, List.tail_cons] at tail
    rw [tail]
    rfl
  have shortest : escape (unicodeEscape html ++ text) =
      '\\' :: (unicodeEscape html ++ escape text) := by
    have tail := flatMap_plain fun digit among => (plain digit among).2.1
    rw [escape, escape, List.flatMap_append, unicodeEscape, List.flatMap_cons]
    rw [unicodeEscape, List.tail_cons] at tail
    rw [tail]
    rfl
  have filled : (unicodeEscape html, html).1 ≠ [] := by simp [unicodeEscape]
  constructor
  · rw [written, rewrite_of_no_matching (matching_solidus fun character _ starts => ?_)]
    · exact congrArg _ (rewrite_of_matching filled (matching_unicodeEscape special _))
    · exact absurd (List.cons_prefix_cons.mp starts).1 (by decide)
  · rw [shortest, List.length_cons, List.length_append]
    simp [unicodeEscape, hexadecimal]
    omega

/-- What the replacements make of a text: as long as the shortest escapes only where the text has
none of the escapes itself, and then the same. -/
theorem rewrite_marshalBody (text : Text) :
    (rewrite replacements (marshalBody text)).length ≤ (escape text ++ ['\"']).length ∧
      (NoEscape text → rewrite replacements (marshalBody text) = escape text ++ ['\"']) ∧
      ((rewrite replacements (marshalBody text)).length = (escape text ++ ['\"']).length →
        NoEscape text) := by
  induction size : text.length using Nat.strongRecOn generalizing text with
  | ind length ih =>
      cases text with
      | nil =>
          have empty : rewrite replacements (marshalBody []) = escape [] ++ ['\"'] := by decide
          exact ⟨by rw [empty], fun _ => empty, fun _ => by decide⟩
      | cons character text =>
          obtain ⟨shorter, same, tight⟩ := ih text.length (by simp [← size]) text rfl
          have behind : marshalBody (character :: text) =
              marshalCharacter character ++ marshalBody text := by
            rw [marshalBody, marshalBody, List.flatMap_cons, List.append_assoc]
          have shortest : escape (character :: text) =
              escapeCharacter character ++ escape text := by
            rw [escape, escape, List.flatMap_cons]
          rw [noEscape_cons]
          by_cases solidus : character = '\\'
          · subst solidus
            by_cases starts : ∃ html ∈ htmlCharacters, unicodeEscape html <+: '\\' :: text
            · obtain ⟨html, special, rest, whole⟩ := starts
              obtain ⟨rewritten, longer⟩ := rewrite_solidus_escape special rest
              have sizes := congrArg List.length whole
              have fewer : rest.length < length := by
                rw [List.length_append, size] at sizes
                have : 0 < (unicodeEscape html).length := by simp [unicodeEscape]
                omega
              have rest_shorter := (ih rest.length fewer rest rfl).1
              rw [← whole, rewritten]
              simp only [List.length_append, List.length_cons, List.length_nil, longer]
                at rest_shorter ⊢
              exact ⟨by omega, fun clean => absurd (List.prefix_append _ _) (clean.1 html special),
                fun equal => absurd equal (by omega)⟩
            · have absent : ∀ html ∈ htmlCharacters, ¬ unicodeEscape html <+: '\\' :: text :=
                fun html special prefixed => starts ⟨html, special, prefixed⟩
              have copied : rewrite replacements (marshalBody ('\\' :: text)) =
                  '\\' :: '\\' :: rewrite replacements (marshalBody text) := by
                rw [behind]
                change rewrite replacements ('\\' :: '\\' :: marshalBody text) = _
                rw [rewrite_of_no_matching (matching_solidus fun html special starts => ?_),
                  rewrite_of_no_matching (matching_solidus fun html special starts => ?_)]
                · refine absent html special (List.cons_prefix_cons.mpr ⟨rfl, ?_⟩)
                  exact prefix_marshalBody (fun digit among =>
                    have plain := unicodeEscape_tail_plain special digit among
                    ⟨plain.1, plain.2.2⟩) starts
                · exact absurd (List.cons_prefix_cons.mp starts).1 (by decide)
              have solidus : escapeCharacter '\\' = ['\\', '\\'] := by decide
              rw [copied, shortest, solidus]
              simp only [List.length_append, List.length_cons, List.length_nil] at shorter tight ⊢
              refine ⟨by omega, fun clean => by rw [same clean.2]; rfl, fun equal => ⟨absent, ?_⟩⟩
              exact tight (by omega)
          · have absent : ∀ html ∈ htmlCharacters, ¬ unicodeEscape html <+: character :: text :=
              fun html _ starts => solidus (List.cons_prefix_cons.mp starts).1.symm
            rw [behind, shortest, rewrite_marshalCharacter solidus, List.append_assoc]
            simp only [List.length_append] at shorter tight ⊢
            refine ⟨by omega, fun clean => by rw [same clean.2], fun equal => ⟨absent, ?_⟩⟩
            exact tight (by omega)

/-- The quotation mark that opens a string is copied. -/
theorem encodeString_eq_cons (typed : Text) :
    encodeString typed = '\"' :: rewrite replacements (marshalBody typed) := by
  rw [encodeString_eq, marshal, List.cons_append, rewrite_of_no_matching
    (replacements_marked.matching_of_ne (by decide) _)]
  rfl

/-- A string is never longer than with the fewest escapes. -/
theorem length_encodeString_le (typed : Text) :
    (encodeString typed).length ≤ (quote typed).length := by
  rw [encodeString_eq_cons, quote, List.cons_append, List.length_cons, List.length_cons]
  exact Nat.succ_le_succ (rewrite_marshalBody typed).1

/-- A string that is as long as with the fewest escapes has no escape in its text. -/
theorem noEscape_of_length_eq {typed : Text}
    (same : (encodeString typed).length = (quote typed).length) : NoEscape typed := by
  rw [encodeString_eq_cons, quote, List.cons_append, List.length_cons, List.length_cons] at same
  exact (rewrite_marshalBody typed).2.2 (Nat.succ.inj same)

/-- A text is written with the fewest escapes exactly when it contains none of the five escapes. -/
theorem encodeString_eq_quote_iff (typed : Text) :
    encodeString typed = quote typed ↔ NoEscape typed := by
  refine ⟨fun same => noEscape_of_length_eq (congrArg _ same), fun clean => ?_⟩
  rw [encodeString_eq_cons, (rewrite_marshalBody typed).2.1 clean, quote, List.cons_append]

example : encodeString ['\\', 'u', '0', '0', '3', 'c'] = ['\"', '\\', '<', '\"'] := by decide

/-! ## Content of a value -/

mutual

/-- Document with what a value holds, over the digits of its numbers. -/
def tree : GoValue → Document Text
  | .nil => .null
  | .bool value => .bool value
  | .string text => .string text
  | .number digits => .number digits
  | .int value => .number (decimal value)
  | .int64 value => .number (decimal value)
  | .float64 => .null
  | .slice elements => .array (treeElements elements)
  | .mapSlice elements => .array (treeMaps elements)
  | .map members => .object (treeMembers members)
  | .other _ => .null

/-- Documents of the elements of a slice. -/
def treeElements : List GoValue → List (Document Text)
  | [] => []
  | first :: rest => tree first :: treeElements rest

/-- Documents of the maps of a slice of maps. -/
def treeMaps : List (List (Text × GoValue)) → List (Document Text)
  | [] => []
  | first :: rest => .object (treeMembers first) :: treeMaps rest

/-- Documents of the values of a map. -/
def treeMembers : List (Text × GoValue) → List (Text × Document Text)
  | [] => []
  | (key, value) :: rest => (key, tree value) :: treeMembers rest

end

/-- Content of a value: a map has no order, so its members are listed in the byte order of their
keys. -/
def content (value : GoValue) : Document Text :=
  (tree value).sorted utf8

/-- Values of the bridge: no value, booleans, integers, valid texts, slices and maps. -/
inductive Bridge : GoValue → Prop
  | nil : Bridge .nil
  | bool (value : Bool) : Bridge (.bool value)
  | string (text : Text) : Bridge (.string text)
  | number (digits : Text) (parsed : Int) (isInteger : parseInt64 digits = some parsed)
      (canonical : decimal parsed = digits) : Bridge (.number digits)
  | int (value : Int) : Bridge (.int value)
  | int64 (value : Int) : Bridge (.int64 value)
  | slice (elements : List GoValue) (inside : ∀ element ∈ elements, Bridge element) :
      Bridge (.slice elements)
  | map (members : List (Text × GoValue)) (distinct : (members.map Prod.fst).Nodup)
      (inside : ∀ member ∈ members, Bridge member.2) : Bridge (.map members)

theorem treeElements_eq (elements : List GoValue) : treeElements elements = elements.map tree := by
  induction elements with
  | nil => rfl
  | cons first rest ih => rw [treeElements, ih, List.map_cons]

theorem treeMembers_eq (members : List (Text × GoValue)) :
    treeMembers members = members.map fun member => (member.1, tree member.2) := by
  induction members with
  | nil => rfl
  | cons first rest ih => rw [treeMembers, ih, List.map_cons]

theorem encodeElements_eq (elements : List GoValue) :
    encodeElements elements = elements.map encodeCanonical := by
  induction elements with
  | nil => rfl
  | cons first rest ih => rw [encodeElements, ih, List.map_cons]

theorem encodeMembers_eq (members : List (Text × GoValue)) :
    encodeMembers members = members.map fun member => (member.1, encodeCanonical member.2) := by
  induction members with
  | nil => rfl
  | cons first rest ih => rw [encodeMembers, ih, List.map_cons]

/-- Content of a slice. -/
theorem content_slice (elements : List GoValue) :
    content (.slice elements) = .array (elements.map content) := by
  rw [content, tree, Document.sorted, Document.sortedElements_eq, treeElements_eq, List.map_map]
  rfl

/-- Content of a map. -/
theorem content_map (members : List (Text × GoValue)) :
    content (.map members) = .object ((sortBy (fun member => utf8 member.1) members).map
      fun member => (member.1, content member.2)) := by
  rw [content, tree, Document.sorted, Document.sortedMembers_eq, treeMembers_eq, List.map_map,
    map_sortBy_members utf8 content]
  rfl

/-- A value of the bridge is written as its content. -/
theorem encodeCanonical_bridge {value : GoValue} (bridge : Bridge value) :
    encodeCanonical value = .ok (renderWith encodeString (content value)) := by
  induction bridge with
  | bool value => cases value <;> rfl
  | number digits parsed isInteger canonical =>
      rw [encodeCanonical, isInteger]
      simp [canonical, content, tree, Document.sorted, renderWith]
  | slice elements _ ih =>
      rw [encodeCanonical, encodeElements_eq, writeArray_ok ih, content_slice, renderWith,
        renderElements_eq, List.map_map]
      rfl
  | map members _ _ ih =>
      rw [encodeCanonical, encodeMembers_eq, writeMap, writeObject_ok utf8 encodeString
        (fun value => renderWith encodeString (content value)) ih, content_map, renderWith,
        renderMembers_eq, List.map_map]
      rfl
  | _ => rfl

/-- Canonical bytes of a value of the bridge. -/
theorem CanonicalBytes_bridge {value : GoValue} (bridge : Bridge value) :
    CanonicalBytes value = .ok (utf8 (renderWith encodeString (content value))) := by
  rw [CanonicalBytes, encodeCanonical_bridge bridge]
  rfl

end ReproItSdk.Canonical
