import ReproItSdk.Canonical.GoReading
import ReproItSdk.Http.GoMetadata

/-! # Strings in the records of the Go HTTP adapter

The canonical writer puts the replacement character for what is not UTF-8 in a string, and it
replaces five escapes in the written string even where they stem from the text.  The strict parser
reads the first as the replacement character and refuses the second.

Main definitions:

- Function {lit}`lossy`: the text that a string is read as.
- Function {lit}`stringPart`: what the parser makes of a string.

Main results:

- Theorem {lit}`kept_iff`: a string is read back exactly when it is UTF-8 and contains none of the
  five escapes.
-/

namespace ReproItSdk
namespace Http
namespace Go

open Unicode Json Rewriting Canonical Wrappers.Native

/-! ## Characters -/

/-- The character that is read for one of a string. -/
def readRune (rune : Option Char) : Char :=
  rune.getD '\ufffd'

/-- The text that a string is read as. -/
def lossy (text : Bytes) : Text :=
  (runes text).map readRune

/-- One of the five escapes is among some characters. -/
def Escapes (characters : List (Option Char)) : Prop :=
  ∃ html ∈ htmlCharacters, (unicodeEscape html).map some <:+: characters

instance : DecidablePred Escapes := fun characters =>
  List.decidableBEx (fun html => (unicodeEscape html).map some <:+: characters) htmlCharacters

/-- What the strict parser makes of a string. -/
def stringPart (typed : Bytes) : Part :=
  ⟨encodeString typed, if Escapes (runes typed) then none else some (.string (lossy typed))⟩

/-- Some characters as {lit}`json.Marshal` writes them, and the closing mark. -/
def marshalled (characters : List (Option Char)) : Text :=
  characters.flatMap marshalRune ++ ['\"']

/-- The first of some characters is written before the others. -/
theorem marshalled_cons (first : Option Char) (rest : List (Option Char)) :
    marshalled (first :: rest) = marshalRune first ++ marshalled rest := by
  rw [marshalled, marshalled, List.flatMap_cons, List.append_assoc]

/-- An escape stands at the start of some characters or behind it. -/
theorem escapes_cons {first : Option Char} {rest : List (Option Char)} :
    Escapes (first :: rest) ↔
      (∃ html ∈ htmlCharacters, (unicodeEscape html).map some <+: first :: rest) ∨
        Escapes rest := by
  simp only [Escapes, List.infix_cons_iff, and_or_left, exists_or]

/-! ## Replacements in a written string -/

/-- A character is written as itself or with a reverse solidus. -/
theorem marshalRune_cases (rune : Option Char) :
    (∃ character, rune = some character ∧ marshalRune rune = [character]) ∨
      ∃ rest, marshalRune rune = '\\' :: rest := by
  cases rune with
  | none => exact .inr ⟨_, rfl⟩
  | some character =>
      unfold marshalRune marshalCharacter
      dsimp only
      split
      · exact .inr ⟨_, rfl⟩
      · have escaped := escapeCharacter_cases character
        generalize escapeCharacter character = part at escaped ⊢
        cases escaped with
        | plain _ _ _ => exact .inl ⟨_, rfl, rfl⟩
        | short letter _ => exact .inr ⟨_, rfl⟩
        | code _ => exact .inr ⟨_, rfl⟩

/-- Characters of escapes behind the reverse solidus are written only for themselves. -/
theorem prefix_marshalled {word : Text} {characters : List (Option Char)}
    (plain : ∀ character ∈ word, character ≠ '\"' ∧ character ≠ '\\')
    (starts : word <+: marshalled characters) : word.map some <+: characters := by
  induction word generalizing characters with
  | nil => exact List.nil_prefix
  | cons character word ih =>
      have here := plain character (by simp)
      have later := fun next among => plain next (List.mem_cons_of_mem character among)
      cases characters with
      | nil =>
          rw [marshalled, List.flatMap_nil, List.nil_append, List.cons_prefix_cons] at starts
          exact absurd starts.1 here.1
      | cons first rest =>
          rw [marshalled_cons] at starts
          rcases marshalRune_cases first with ⟨same, rfl, written⟩ | ⟨others, written⟩
          · rw [written, List.singleton_append, List.cons_prefix_cons] at starts
            rw [List.map_cons, List.cons_prefix_cons]
            exact ⟨congrArg some starts.1, ih later starts.2⟩
          · rw [written, List.cons_append, List.cons_prefix_cons] at starts
            exact absurd starts.1 here.2

/-- The replacement character is written by its code, which is no escape that is replaced. -/
theorem rewrite_none (rest : Text) :
    rewrite replacements (marshalRune none ++ rest) =
      marshalRune none ++ rewrite replacements rest := by
  apply rewrite_solidus
  · apply matching_solidus
    intro html special starts
    have apart : ∀ html ∈ htmlCharacters,
        (unicodeEscape html).tail.take 5 ≠ ['u', 'f', 'f', 'f', 'd'] :=
      List.all_iff_forall_prop.mp (by decide)
    have length : (unicodeEscape html).tail.length = 5 := rfl
    apply apart html special
    have same := List.prefix_iff_eq_take.mp starts
    rw [length] at same
    rw [List.take_of_length_le (Nat.le_of_eq length), same]
    rfl
  · decide

/-- A reverse solidus before an escape loses the escape. -/
theorem rewrite_starts {html : Char} (special : html ∈ htmlCharacters)
    (rest : List (Option Char)) :
    rewrite replacements (marshalled ((unicodeEscape html).map some ++ rest)) =
      '\\' :: html :: rewrite replacements (marshalled rest) := by
  have plain := unicodeEscape_tail_plain special
  have written : marshalled ((unicodeEscape html).map some ++ rest) =
      '\\' :: (unicodeEscape html ++ marshalled rest) := by
    have tail : (unicodeEscape html).tail.flatMap marshalCharacter = (unicodeEscape html).tail :=
      flatMap_plain fun digit among => (plain digit among).1
    rw [unicodeEscape, List.tail_cons] at tail
    rw [marshalled, marshalled, List.flatMap_append, unicodeEscape, List.map_cons,
      List.flatMap_cons, List.flatMap_map]
    change '\\' :: '\\' :: List.flatMap marshalCharacter _ ++ _ ++ _ = _
    rw [tail]
    simp
  have filled : (unicodeEscape html, html).1 ≠ [] := by simp [unicodeEscape]
  rw [written, rewrite_of_no_matching (matching_solidus fun character _ starts => ?_)]
  · exact congrArg _ (rewrite_of_matching filled (matching_unicodeEscape special _))
  · exact absurd (List.cons_prefix_cons.mp starts).1 (by decide)

/-- A reverse solidus that starts no escape is written twice. -/
theorem rewrite_twice {rest : List (Option Char)}
    (absent : ¬ ∃ html ∈ htmlCharacters, (unicodeEscape html).map some <+: some '\\' :: rest) :
    rewrite replacements (marshalled (some '\\' :: rest)) =
      '\\' :: '\\' :: rewrite replacements (marshalled rest) := by
  rw [marshalled_cons]
  change rewrite replacements ('\\' :: '\\' :: marshalled rest) = _
  rw [rewrite_of_no_matching (matching_solidus fun html special starts => ?_),
    rewrite_of_no_matching (matching_solidus fun html special starts => ?_)]
  · apply absent
    refine ⟨html, special, ?_⟩
    rw [unicodeEscape, List.map_cons, List.cons_prefix_cons]
    have plain := unicodeEscape_tail_plain special
    exact ⟨rfl, prefix_marshalled (fun digit among => (plain digit among).2.2) starts⟩
  · exact absurd (List.cons_prefix_cons.mp starts).1 (by decide)

/-! ## Scanning -/

/-- A character that is escaped is scanned as one part. -/
theorem scanString_escapeCharacter (character : Char) :
    ∃ part : StringPart, (∀ text, scanString (escapeCharacter character ++ text) =
        (scanString text).map fun scanned => (part :: scanned.1, scanned.2)) ∧
      ∀ parts, joinUnits (part :: parts) = character :: joinUnits parts := by
  have escaped := escapeCharacter_cases character
  generalize escapeCharacter character = written at escaped ⊢
  cases escaped with
  | plain printable noQuote noSolidus =>
      refine ⟨.plain character, fun text => ?_, fun parts => by rw [joinUnits]⟩
      rw [List.singleton_append, scanString.eq_def]
      dsimp only
      rw [if_neg noQuote, if_neg noSolidus, if_neg (Nat.not_lt.mpr printable)]
      cases scanString text with
      | none => rfl
      | some scanned => rfl
  | short letter written =>
      refine ⟨.plain character, fun text => ?_, fun parts => by rw [joinUnits]⟩
      change scanString ('\\' :: letter :: text) = _
      rw [scanString.eq_def]
      dsimp only
      rw [if_neg (by decide), if_pos rfl, if_neg (shortEscape_letter written).1,
        unescape_shortEscape written]
      cases scanString text with
      | none => rfl
      | some scanned => rfl
  | code control =>
      refine ⟨.unit character.toNat, fun text => ?_, fun parts => ?_⟩
      · have value := hexadecimal_eq (show character.toNat < 65536 by omega)
        simp only [unicodeEscape, hexadecimal, List.cons_append, List.nil_append]
        rw [scanString.eq_def]
        dsimp only
        rw [if_neg (by decide), if_pos rfl, if_pos rfl, value]
        cases scanString text with
        | none => rfl
        | some scanned => rfl
      · rw [joinUnits.eq_def]
        dsimp only
        rw [if_pos (by omega), Char.ofNat_toNat]

/-- A character that starts no escape is scanned as one part. -/
theorem scanString_cons {first : Option Char} {rest : List (Option Char)}
    (absent : ¬ ∃ html ∈ htmlCharacters, (unicodeEscape html).map some <+: first :: rest)
    (tail : Text) :
    ∃ part : StringPart,
      scanString (rewrite replacements (marshalled (first :: rest)) ++ tail) =
        (scanString (rewrite replacements (marshalled rest) ++ tail)).map
          (fun scanned => (part :: scanned.1, scanned.2)) ∧
      ∀ parts, joinUnits (part :: parts) = readRune first :: joinUnits parts := by
  by_cases solidus : first = some '\\'
  · subst solidus
    rcases scanString_escapeCharacter '\\' with ⟨part, scanned, joined⟩
    have written : escapeCharacter '\\' = ['\\', '\\'] := by decide
    rw [written] at scanned
    refine ⟨part, ?_, joined⟩
    rw [rewrite_twice absent]
    exact scanned _
  · rw [marshalled_cons]
    cases first with
    | none =>
        refine ⟨.unit 65533, ?_, fun parts => by rw [joinUnits.eq_def]; rfl⟩
        rw [rewrite_none, List.append_assoc]
        change scanString ('\\' :: 'u' :: 'f' :: 'f' :: 'f' :: 'd' ::
          (rewrite replacements (marshalled rest) ++ tail)) = _
        rw [scanString.eq_def]
        dsimp only
        have value : hexadecimal? 'f' 'f' 'f' 'd' = some 65533 := by decide
        rw [if_neg (by decide), if_pos rfl, if_pos rfl, value]
        cases scanString (rewrite replacements (marshalled rest) ++ tail) with
        | none => rfl
        | some scanned => rfl
    | some character =>
        have other : character ≠ '\\' := fun same => solidus (congrArg some same)
        rcases scanString_escapeCharacter character with ⟨part, scanned, joined⟩
        refine ⟨part, ?_, joined⟩
        change scanString (rewrite replacements (marshalCharacter character ++ _) ++ tail) = _
        rw [rewrite_marshalCharacter other, List.append_assoc]
        exact scanned _

/-- The scanner on a string behind its opening mark: it refuses a string with an escape in its
text, and reads any other one. -/
theorem scanString_marshalled (characters : List (Option Char)) (tail : Text) :
    (Escapes characters →
      scanString (rewrite replacements (marshalled characters) ++ tail) = none) ∧
    (¬ Escapes characters → ∃ parts,
      scanString (rewrite replacements (marshalled characters) ++ tail) = some (parts, tail) ∧
        joinUnits parts = characters.map readRune) := by
  induction characters with
  | nil =>
      have written : rewrite replacements (marshalled []) = ['\"'] := by decide
      rw [written]
      constructor
      · intro escapes
        exact absurd escapes (by decide)
      · intro _
        exact ⟨[], by rw [scanString.eq_def]; rfl, rfl⟩
  | cons first rest ih =>
      rw [escapes_cons]
      by_cases starts : ∃ html ∈ htmlCharacters, (unicodeEscape html).map some <+: first :: rest
      · refine ⟨fun _ => ?_, fun none => absurd (.inl starts) none⟩
        rcases starts with ⟨html, special, others, whole⟩
        have unknown : ∀ html ∈ htmlCharacters, html ≠ 'u' ∧ unescape? html = none :=
          List.all_iff_forall_prop.mp (by decide)
        rw [← whole, rewrite_starts special, List.cons_append, List.cons_append,
          scanString.eq_def]
        dsimp only
        rw [if_neg (by decide), if_pos rfl, if_neg (unknown html special).1,
          (unknown html special).2]
        rfl
      · rw [or_iff_right starts]
        rcases scanString_cons starts tail with ⟨part, scanned, joined⟩
        rw [scanned]
        constructor
        · intro escapes
          rw [ih.1 escapes]
          rfl
        · intro plain
          rcases ih.2 plain with ⟨parts, found, whole⟩
          refine ⟨part :: parts, by rw [found]; rfl, ?_⟩
          rw [joined, whole, List.map_cons]

/-! ## Strings -/

/-- The five passes over a written string are one pass behind its opening mark. -/
theorem encodeString_eq (typed : Bytes) :
    encodeString typed = '\"' :: rewrite replacements (marshalled (runes typed)) := by
  have passes : encodeString typed =
      rewrite replacements ('\"' :: marshalled (runes typed)) :=
    foldl_replaceAll replacements_marked ('\"' :: marshalled (runes typed))
  rw [passes, rewrite_of_no_matching (replacements_marked.matching_of_ne (by decide) _)]

/-- The decoder on a string. -/
theorem reading_string (typed : Bytes) (levels : Nat) :
    Reading (decodeStrictValue (levels + 1)) (stringPart typed) := by
  constructor
  · exact ⟨_, _, encodeString_eq typed, by decide⟩
  · intro decoder state stack tail here allowed boundary
    have scanned := scanString_marshalled (runes typed) tail
    rw [stringPart, encodeString_eq, List.cons_append] at here
    rw [decodeStrictValue, Decoder.token, here, Decoder.tokenHere,
      Decoder.peek_cons (by decide)]
    dsimp only
    rw [if_neg (by decide), if_neg (by decide), if_neg (by decide), if_neg (by decide),
      if_neg (by decide), if_neg (by rintro ⟨-, rfl | rfl⟩ <;> cases allowed), if_pos allowed,
      readScalar, if_pos rfl, readString]
    by_cases escapes : Escapes (runes typed)
    · rw [scanned.1 escapes, stringPart, if_pos escapes]
      rfl
    · rcases scanned.2 escapes with ⟨parts, found, whole⟩
      rw [found, stringPart, if_neg escapes, lossy, ← whole]
      rfl

/-- A string that is UTF-8 is read as its text. -/
theorem lossy_utf8 (text : Text) : lossy (utf8 text) = text := by
  have known : runes (utf8 text) = text.map some := runesFrom_utf8 text le_rfl
  rw [lossy, known, List.map_map]
  exact List.map_id' text

/-- A string that is UTF-8 has the escapes of its text. -/
theorem escapes_utf8 (text : Text) : Escapes (runes (utf8 text)) ↔ ¬ NoEscape text := by
  have known : runes (utf8 text) = text.map some := runesFrom_utf8 text le_rfl
  have among (word : Text) : word.map some <:+: text.map some ↔ word <:+: text := by
    rw [List.infix_map_iff]
    constructor
    · rintro ⟨other, inside, same⟩
      rw [List.map_injective_iff.mpr (Option.some_injective Char) same]
      exact inside
    · intro inside
      exact ⟨word, inside, rfl⟩
  simp only [Escapes, NoEscape, known, among, not_forall, not_not, exists_prop]

/-- A string is read back when it is UTF-8 and its text contains none of the five escapes. -/
def Kept (typed : Bytes) : Prop :=
  ∃ text, NoEscape text ∧ utf8 text = typed

/-- A string is read back exactly when it is UTF-8 and contains none of the five escapes. -/
theorem kept_iff (typed : Bytes) :
    Kept typed ↔ ∃ text, (stringPart typed).outcome = some (.string text) ∧ utf8 text = typed := by
  constructor
  · rintro ⟨text, clean, rfl⟩
    have plain : ¬ Escapes (runes (utf8 text)) := by
      rw [escapes_utf8, not_not]
      exact clean
    refine ⟨text, ?_, rfl⟩
    rw [stringPart, if_neg plain, lossy_utf8]
  · rintro ⟨text, read, rfl⟩
    refine ⟨text, ?_, rfl⟩
    by_contra escapes
    rw [stringPart, if_pos ((escapes_utf8 text).mpr escapes)] at read
    cases read

end Go
end Http
end ReproItSdk
