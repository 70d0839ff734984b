import ReproItSdk.Canonical.GoDecoder

/-! # What the strict decoder makes of written parts

A text may be built of parts that are read back, of parts that are read as something else, and of
parts that are refused.  The decoder reads arrays and objects of such parts in order, and refuses
them once it refuses a part.

Main definitions:

- Structure {lit}`Part`: a text with what the decoder makes of it.
- Definition {lit}`Reading`: the decoder makes it of the text wherever it expects a value.

Main results:

- Theorem {lit}`reading_document`: a document with short escapes, decimal numbers and distinct keys
  is read back, at any depth the decoder has levels for.
-/

namespace ReproItSdk.Canonical

open Unicode Json Decimal

/-! ## Scanners -/

/-- Letters of short escapes stand for the characters they were written for. -/
theorem unescape_shortEscape {character letter : Char}
    (written : shortEscape? character = some letter) : unescape? letter = some character := by
  unfold shortEscape? at written
  split_ifs at written <;> simp_all <;> subst written <;> decide

/-- A string is scanned up to its closing quotation mark, and its parts are its text. -/
theorem scanString_escape (text tail : Text) :
    ∃ parts, scanString (escape text ++ '\"' :: tail) = some (parts, tail) ∧
      joinUnits parts = text := by
  induction text with
  | nil => exact ⟨[], by rw [scanString.eq_def]; rfl, rfl⟩
  | cons character text ih =>
      obtain ⟨parts, scanned, joined⟩ := ih
      have written : escape (character :: text) ++ '\"' :: tail =
          escapeCharacter character ++ (escape text ++ '\"' :: tail) := by
        rw [escape, escape, List.flatMap_cons, List.append_assoc]
      have escaped := escapeCharacter_cases character
      rw [written]
      generalize escapeCharacter character = part at escaped ⊢
      cases escaped with
      | plain printable noQuote noSolidus =>
          refine ⟨.plain character :: parts, ?_, by rw [joinUnits, joined]⟩
          rw [List.singleton_append, scanString.eq_def]
          dsimp only
          rw [if_neg noQuote, if_neg noSolidus, if_neg (Nat.not_lt.mpr printable), scanned]
          rfl
      | short letter written =>
          refine ⟨.plain character :: parts, ?_, by rw [joinUnits, joined]⟩
          change scanString ('\\' :: letter :: (escape text ++ '\"' :: tail)) = _
          rw [scanString.eq_def]
          dsimp only
          rw [if_neg (by decide), if_pos rfl, if_neg (shortEscape_letter written).1, unescape_shortEscape written, scanned]
          rfl
      | code control =>
          refine ⟨.unit character.toNat :: parts, ?_, ?_⟩
          · have value := hexadecimal_eq (show character.toNat < 65536 by omega)
            simp only [unicodeEscape, hexadecimal, List.cons_append, List.nil_append]
            rw [scanString.eq_def]
            dsimp only
            rw [if_neg (by decide), if_pos rfl, if_pos rfl, value, scanned]
            rfl
          · rw [joinUnits.eq_def]
            dsimp only
            rw [if_pos (by omega), joined, Char.ofNat_toNat]

/-- A string is read back. -/
theorem readString_escape (text tail : Text) :
    readString (escape text ++ '\"' :: tail) = some (text, tail) := by
  obtain ⟨parts, scanned, joined⟩ := scanString_escape text tail
  rw [readString, scanned]
  simp [joined]

/-- What may follow a value inside an array or an object, or at the end of the text. -/
def Boundary (tail : Text) : Prop :=
  ∀ character ∈ tail.head?, character = ',' ∨ character = ']' ∨ character = '\x7d'

/-- A number without a fraction or an exponent ends at a boundary. -/
theorem readFraction_boundary {tail : Text} (boundary : Boundary tail) (front : Text) :
    readFraction front tail = some (front, tail) := by
  cases tail with
  | nil => rfl
  | cons character rest =>
      have next := boundary character rfl
      rw [readFraction, readExponent]
      rcases next with rfl | rfl | rfl <;> simp

/-- Digits end at a boundary. -/
theorem takeWhile_digits {digits tail : Text} (all : ∀ digit ∈ digits, digit.isDigit = true)
    (boundary : Boundary tail) : (digits ++ tail).takeWhile Char.isDigit = digits := by
  rw [List.takeWhile_append_of_pos all]
  cases tail with
  | nil => simp
  | cons character rest =>
      rcases boundary character rfl with rfl | rfl | rfl <;> simp

/-- The digits of a number are read back. -/
theorem readMagnitude_toDigits {tail : Text} (boundary : Boundary tail) (sign : Text)
    (value : Nat) :
    readMagnitude sign (Nat.toDigits 10 value ++ tail) =
      some (sign ++ Nat.toDigits 10 value, tail) := by
  rcases Nat.eq_zero_or_pos value with rfl | positive
  · rw [Nat.toDigits_zero, List.singleton_append, readMagnitude, if_pos rfl,
      readFraction_boundary boundary]
  · obtain ⟨first, rest, digits, nonzero⟩ := toDigits_ne_zero_head positive
    have all : ∀ digit ∈ first :: rest, digit.isDigit = true :=
      fun digit among => isDigit_of_mem (by rw [digits]; exact among)
    rw [digits, List.cons_append, readMagnitude, if_neg nonzero, if_pos (all first (by simp))]
    dsimp only
    rw [takeWhile_digits (fun digit among => all digit (List.mem_cons_of_mem _ among)) boundary,
      List.drop_left, readFraction_boundary boundary]

/-- An integer is read back. -/
theorem readNumber_decimal {tail : Text} (boundary : Boundary tail) (value : Int) :
    readNumber (decimal value ++ tail) = some (decimal value, tail) := by
  unfold decimal
  split
  · rw [List.cons_append, readNumber, if_pos rfl, readMagnitude_toDigits boundary]
    rfl
  · have read := readMagnitude_toDigits boundary [] value.natAbs
    cases digits : Nat.toDigits 10 value.natAbs with
    | nil => exact absurd digits Nat.toDigits_ne_nil
    | cons first rest =>
        have noSign : first ≠ '-' := by
          rintro rfl
          exact toDigits_ne_minus _ _ digits
        rw [digits] at read
        rw [List.cons_append, readNumber, if_neg noSign, ← List.cons_append, read]
        rfl

/-! ## Scalars -/

mutual

/-- The value that a document is decoded to. -/
def ofTree : Document Text → GoValue
  | .null => .nil
  | .bool value => .bool value
  | .number digits => .number digits
  | .string text => .string text
  | .array elements => .slice (ofElements elements)
  | .object members => .map (ofMembers members)

/-- The values that the elements of an array are decoded to. -/
def ofElements : List (Document Text) → List GoValue
  | [] => []
  | first :: rest => ofTree first :: ofElements rest

/-- The values that the members of an object are decoded to. -/
def ofMembers : List (Text × Document Text) → List (Text × GoValue)
  | [] => []
  | (key, value) :: rest => (key, ofTree value) :: ofMembers rest

end

theorem ofElements_eq (elements : List (Document Text)) : ofElements elements = elements.map ofTree := by
  induction elements with
  | nil => rfl
  | cons first rest ih => rw [ofElements, ih, List.map_cons]

theorem ofMembers_eq (members : List (Text × Document Text)) :
    ofMembers members = members.map fun member => (member.1, ofTree member.2) := by
  induction members with
  | nil => rfl
  | cons first rest ih => rw [ofMembers, ih, List.map_cons]

/-- The digits of an integer. -/
def IsInteger (digits : Text) : Prop :=
  ∃ value, decimal value = digits

/-- Documents with integers for numbers and distinct keys in every object. -/
abbrev Readable : Document Text → Prop :=
  Document.All IsInteger (fun _ => True) List.Nodup

/-- Characters that a value does not start with. -/
def separators : List Char :=
  [' ', '\x09', '\x0d', '\x0a', ',', ':', ']', '\x7d']

/-- The digits of an integer start with a digit or a minus sign. -/
theorem decimal_head (value : Int) :
    ∃ first rest, decimal value = first :: rest ∧ (first = '-' ∨ first.isDigit = true) := by
  unfold decimal
  split
  · exact ⟨_, _, rfl, .inl rfl⟩
  · cases digits : Nat.toDigits 10 value.natAbs with
    | nil => exact absurd digits Nat.toDigits_ne_nil
    | cons first rest => exact ⟨_, _, rfl, .inr (isDigit_of_mem (by rw [digits]; simp))⟩

/-- Digits and the minus sign start no other token than a number. -/
theorem ne_of_digit {first : Char} (number : first = '-' ∨ first.isDigit = true) :
    first ∉ separators ∧ first ≠ '[' ∧ first ≠ '\x7b' ∧ first ≠ '\"' ∧ first ≠ 'n' ∧ first ≠ 't' ∧
      first ≠ 'f' := by
  rcases number with rfl | digit
  · decide
  · have apart (other : Char) (noDigit : other.isDigit = false) : first ≠ other := by
      rintro rfl
      simp [digit] at noDigit
    refine ⟨?_, apart _ rfl, apart _ rfl, apart _ rfl, apart _ rfl, apart _ rfl, apart _ rfl⟩
    simp [separators, apart]

/-- A document that is neither an array nor an object. -/
def Scalar : Document Text → Prop
  | .array _ | .object _ => False
  | _ => True

/-- The text of a value starts with a character of its own. -/
theorem renderWith_head {tree : Document Text} (readable : Readable tree) :
    ∃ first rest, renderWith quote tree = first :: rest ∧ first ∉ separators ∧
      (Scalar tree → first ≠ '[' ∧ first ≠ '\x7b') := by
  cases readable with
  | null => exact ⟨_, _, rfl, by decide, fun _ => by decide⟩
  | bool value => cases value <;> exact ⟨_, _, rfl, by decide, fun _ => by decide⟩
  | number digits holds =>
      obtain ⟨value, rfl⟩ := holds
      obtain ⟨first, rest, written, number⟩ := decimal_head value
      obtain ⟨other, noBracket, noBrace, -⟩ := ne_of_digit number
      exact ⟨first, rest, written, other, fun _ => ⟨noBracket, noBrace⟩⟩
  | string text _ => exact ⟨_, _, rfl, by decide, fun _ => by decide⟩
  | array elements _ => exact ⟨_, _, rfl, by decide, False.elim⟩
  | object members _ _ _ => exact ⟨_, _, rfl, by decide, False.elim⟩

/-- A scalar is read back. -/
theorem readScalar_render {tree : Document Text} (readable : Readable tree) (scalar : Scalar tree)
    {tail : Text} (boundary : Boundary tail) :
    readScalar (renderWith quote tree ++ tail) = some (ofTree tree, tail) := by
  cases readable with
  | null => simp [renderWith, readScalar, readLiteral, ofTree]
  | bool value => cases value <;> simp [renderWith, readScalar, readLiteral, ofTree]
  | number digits holds =>
      obtain ⟨value, rfl⟩ := holds
      obtain ⟨first, rest, written, number⟩ := decimal_head value
      obtain ⟨-, -, -, noQuote, noNull, noTrue, noFalse⟩ := ne_of_digit number
      have read := readNumber_decimal boundary value
      rw [written] at read
      rw [renderWith, written, List.cons_append, readScalar, if_neg noQuote, if_neg noNull,
        if_neg noTrue, if_neg noFalse, ← List.cons_append, read, ofTree]
      rfl
  | string text _ =>
      have read := readString_escape text tail
      rw [renderWith, quote, List.append_assoc, List.cons_append, readScalar, if_pos rfl]
      rw [List.singleton_append, read, ofTree]
      rfl
  | array elements _ => exact absurd scalar id
  | object members _ _ _ => exact absurd scalar id

/-! ## Tokens -/

namespace Decoder

/-- A character that is no space is the next one. -/
theorem peek_cons {character : Char} {rest : Text} {state : TokenState} {stack : List TokenState}
    (space : isSpace character = false) :
    peek ⟨character :: rest, state, stack⟩ = some (character, rest) := by
  simp [peek, space]

/-- There is more where no bracket or brace closes. -/
theorem more_cons {character : Char} {rest : Text} {state : TokenState} {stack : List TokenState}
    (space : isSpace character = false) :
    more ⟨character :: rest, state, stack⟩ = decide (character ≠ ']' ∧ character ≠ '\x7d') := by
  rw [more, peek_cons space]

/-- Where a value or a key may start there is no separator to pass. -/
theorem passSeparator_of_start {text : Text} {state : TokenState} {stack : List TokenState}
    (start : state.valueAllowed = true ∨ state = .objectStart) :
    passSeparator ⟨text, state, stack⟩ = ⟨text, state, stack⟩ := by
  unfold passSeparator
  cases peek ⟨text, state, stack⟩ with
  | none => rfl
  | some next => cases state <;> simp_all [TokenState.valueAllowed]

/-- A comma between elements is passed. -/
theorem passSeparator_element (text : Text) (stack : List TokenState) :
    passSeparator ⟨',' :: text, .arrayComma, stack⟩ = ⟨text, .arrayValue, stack⟩ := by
  rw [passSeparator, peek_cons (by decide)]
  rfl

/-- A comma between members is passed. -/
theorem passSeparator_member (text : Text) (stack : List TokenState) :
    passSeparator ⟨',' :: text, .objectComma, stack⟩ = ⟨text, .objectKey, stack⟩ := by
  rw [passSeparator, peek_cons (by decide)]
  rfl

/-- The colon behind a key is passed. -/
theorem passSeparator_value (text : Text) (stack : List TokenState) :
    passSeparator ⟨':' :: text, .objectColon, stack⟩ = ⟨text, .objectValue, stack⟩ := by
  rw [passSeparator, peek_cons (by decide)]
  rfl

/-- A closing bracket is the next token. -/
theorem token_closeArray {state comma : TokenState} {stack : List TokenState} (tail : Text)
    (inside : comma = .arrayStart ∨ comma = .arrayComma) :
    token ⟨']' :: tail, comma, state :: stack⟩ =
      .ok (.delimiter ']', ⟨tail, state.valueEnd, stack⟩) := by
  have here : peek ⟨']' :: tail, comma, state :: stack⟩ = some (']', tail) := peek_cons (by decide)
  have pass : passSeparator ⟨']' :: tail, comma, state :: stack⟩ =
      ⟨']' :: tail, comma, state :: stack⟩ := by
    rw [passSeparator, here]
    simp
  rw [token, pass, tokenHere, here]
  rcases inside with rfl | rfl <;> rfl

/-- A closing brace is the next token. -/
theorem token_closeObject {state comma : TokenState} {stack : List TokenState} (tail : Text)
    (inside : comma = .objectStart ∨ comma = .objectComma) :
    token ⟨'\x7d' :: tail, comma, state :: stack⟩ =
      .ok (.delimiter '\x7d', ⟨tail, state.valueEnd, stack⟩) := by
  have here : peek ⟨'\x7d' :: tail, comma, state :: stack⟩ = some ('\x7d', tail) :=
    peek_cons (by decide)
  have pass : passSeparator ⟨'\x7d' :: tail, comma, state :: stack⟩ =
      ⟨'\x7d' :: tail, comma, state :: stack⟩ := by
    rw [passSeparator, here]
    simp
  rw [token, pass, tokenHere, here]
  rcases inside with rfl | rfl <;> rfl

/-- A key is the next token of an object. -/
theorem tokenHere_key {state : TokenState} (key rest : Text) (stack : List TokenState)
    (start : state = .objectStart ∨ state = .objectKey) :
    tokenHere ⟨quote key ++ rest, state, stack⟩ =
      .ok (.value (.string key), ⟨rest, .objectColon, stack⟩) := by
  have read := readString_escape key rest
  have written : quote key ++ rest = '\"' :: (escape key ++ '\"' :: rest) := by simp [quote]
  rw [written, tokenHere, peek_cons (by decide)]
  rcases start with rfl | rfl <;> simp [read]

/-- A scalar is the next token where a value may stand. -/
theorem tokenHere_scalar {tree : Document Text} (readable : Readable tree) (scalar : Scalar tree)
    {tail : Text} (boundary : Boundary tail) {state : TokenState}
    (allowed : state.valueAllowed = true) (stack : List TokenState) :
    tokenHere ⟨renderWith quote tree ++ tail, state, stack⟩ =
      .ok (.value (ofTree tree), ⟨tail, state.valueEnd, stack⟩) := by
  have read := readScalar_render readable scalar boundary
  obtain ⟨first, rest, written, other, noBracket⟩ := renderWith_head readable
  have noBracket := noBracket scalar
  rw [written, List.cons_append] at read
  have space : isSpace first = false := by
    simp [separators] at other
    simp [isSpace, other]
  rw [written, List.cons_append, tokenHere, peek_cons space]
  simp only [separators, List.mem_cons, List.not_mem_nil, or_false, not_or] at other
  dsimp only
  rw [if_neg noBracket.1, if_neg other.2.2.2.2.2.2.1, if_neg noBracket.2, if_neg other.2.2.2.2.2.2.2,
    if_neg (by simp [other]), if_neg (by rintro ⟨-, rfl | rfl⟩ <;> cases allowed), if_pos allowed, read]

end Decoder

/-! ## Parts -/

/-- A text, with the value that it is read as or nothing where it is refused. -/
structure Part where
  text : Text
  outcome : Option GoValue

/-- The part of a document that is written with short escapes. -/
def Part.document (tree : Document Text) : Part :=
  ⟨renderWith quote tree, some (ofTree tree)⟩

/-- The values of some parts, unless one is refused. -/
def outcomes (parts : List Part) : Option (List GoValue) :=
  parts.mapM Part.outcome

/-- The members with the values of some parts, unless one is refused. -/
def memberOutcomes (members : List (Text × Part)) : Option (List (Text × GoValue)) :=
  members.mapM fun member => member.2.outcome.map (member.1, ·)

/-- A member as it is written. -/
def memberText (member : Text × Part) : Text :=
  quote member.1 ++ ':' :: member.2.text

/-- The array of some parts. -/
def Part.array (parts : List Part) : Part :=
  ⟨'[' :: separated (parts.map Part.text) ++ [']'], (outcomes parts).map .slice⟩

/-- The object of some parts. -/
def Part.object (members : List (Text × Part)) : Part :=
  ⟨'\x7b' :: separated (members.map memberText) ++ ['\x7d'], (memberOutcomes members).map .map⟩

/-- A reader makes the outcome of a part of its text wherever the decoder expects a value. -/
structure Reading (decodeEntry : Decoder → Option (GoValue × Decoder)) (part : Part) : Prop where
  head : ∃ first rest, part.text = first :: rest ∧ first ∉ separators
  read : ∀ decoder state stack tail, decoder.passSeparator = ⟨part.text ++ tail, state, stack⟩ →
    state.valueAllowed = true → Boundary tail →
    decodeEntry decoder = part.outcome.map fun value => (value, ⟨tail, state.valueEnd, stack⟩)

/-- There are at least as many commas as there are parts but the first. -/
theorem length_le_separated {α : Type*} (write : α → Text) (items : List α) :
    items.length ≤ (separated (items.map write)).length + 1 := by
  rw [length_separated]
  have count : items.length ≤ (items.map fun item => (write item).length + 1).sum := by
    induction items with
    | nil => simp
    | cons first rest ih =>
        rw [List.length_cons, List.map_cons, List.sum_cons]
        omega
  omega

/-- What follows an element is a boundary. -/
theorem boundary_following (parts : List Text) {closing : Char}
    (closes : closing = ']' ∨ closing = '\x7d') (tail : Text) :
    Boundary (parts.flatMap (',' :: ·) ++ closing :: tail) := by
  intro character next
  cases parts with
  | nil =>
      obtain rfl : closing = character := by simpa using next
      exact .inr closes
  | cons first rest =>
      obtain rfl : ',' = character := by simpa using next
      exact .inl rfl

/-- Behind a separator there is another value. -/
theorem Reading.more {decodeEntry : Decoder → Option (GoValue × Decoder)} {part : Part}
    (reading : Reading decodeEntry part) (tail : Text) (state : TokenState)
    (stack : List TokenState) : Decoder.more ⟨part.text ++ tail, state, stack⟩ = true := by
  rcases reading.head with ⟨first, rest, written, other⟩
  simp only [separators, List.mem_cons, List.not_mem_nil, or_false, not_or] at other
  rw [written, List.cons_append, Decoder.more_cons (by simp [isSpace, other])]
  simp [other]

/-! ## Arrays -/

/-- A turn of the loop over elements. -/
theorem decodeElements_turn {decodeEntry : Decoder → Option (GoValue × Decoder)} {part : Part}
    (reading : Reading decodeEntry part) {decoder : Decoder} {start : TokenState}
    {stack : List TokenState} {tail : Text} (more : decoder.more = true)
    (here : decoder.passSeparator = ⟨part.text ++ tail, start, stack⟩)
    (allowed : start.valueAllowed = true) (boundary : Boundary tail) (turns : Nat)
    (values : List GoValue) :
    decodeElements decodeEntry (turns + 1) decoder values =
      part.outcome.bind fun value =>
        decodeElements decodeEntry turns ⟨tail, start.valueEnd, stack⟩ (values ++ [value]) := by
  rw [decodeElements, if_pos more, reading.read _ _ _ _ here allowed boundary]
  cases part.outcome with
  | none => rfl
  | some value => rfl

/-- The values of some parts and one before them. -/
theorem outcomes_cons (part : Part) (parts : List Part) :
    outcomes (part :: parts) =
      part.outcome.bind fun value => (outcomes parts).map (value :: ·) := by
  rw [outcomes, List.mapM_cons]
  cases part.outcome with
  | none => rfl
  | some value =>
      simp only [Option.bind_eq_bind, Option.bind_some, outcomes]
      cases List.mapM Part.outcome parts with
      | none => rfl
      | some values => rfl

/-- The loop over the elements that follow the first one. -/
theorem decodeElements_parts {decodeEntry : Decoder → Option (GoValue × Decoder)}
    {parts : List Part} (reads : ∀ part ∈ parts, Reading decodeEntry part) {turns : Nat}
    (enough : parts.length < turns) (values : List GoValue) (state : TokenState)
    (stack : List TokenState) (tail : Text) :
    decodeElements decodeEntry turns
        ⟨(parts.map Part.text).flatMap (',' :: ·) ++ ']' :: tail, .arrayComma, state :: stack⟩
          values =
      (outcomes parts).map fun rest =>
        (.slice (values ++ rest), ⟨tail, state.valueEnd, stack⟩) := by
  induction parts generalizing turns values with
  | nil =>
      cases turns with
      | zero => cases enough
      | succ turns =>
          rw [List.map_nil, List.flatMap_nil, List.nil_append, decodeElements,
            Decoder.more_cons (by decide), if_neg (by decide),
            Decoder.token_closeArray tail (.inr rfl)]
          simp [outcomes]
  | cons part parts ih =>
      cases turns with
      | zero => cases enough
      | succ turns =>
          have reads' := fun other among => reads other (List.mem_cons_of_mem part among)
          rw [List.map_cons, List.flatMap_cons, List.cons_append, List.cons_append,
            List.append_assoc, decodeElements_turn (reads part (by simp))
            (Decoder.more_cons (by decide)) (Decoder.passSeparator_element _ _) rfl
            (boundary_following _ (.inl rfl) tail), outcomes_cons]
          cases part.outcome with
          | none => rfl
          | some value =>
              have rest := ih reads' (Nat.lt_of_succ_lt_succ enough) (values ++ [value])
              refine rest.trans ?_
              rw [Option.bind_some, Option.map_map]
              simp [Function.comp_def]

/-- An array of parts is read in order. -/
theorem reading_array {parts : List Part} {levels : Nat}
    (reads : ∀ part ∈ parts, Reading (decodeStrictValue levels) part) :
    Reading (decodeStrictValue (levels + 1)) (.array parts) := by
  constructor
  · exact ⟨_, _, rfl, by decide⟩
  · intro decoder state stack tail here allowed boundary
    have token : decoder.token = .ok (.delimiter '[',
        ⟨separated (parts.map Part.text) ++ ']' :: tail, .arrayStart, state :: stack⟩) := by
      rw [Decoder.token, here, Part.array, List.append_assoc, Decoder.tokenHere,
        List.cons_append, Decoder.peek_cons (by decide)]
      dsimp only
      rw [if_pos rfl, Decoder.enter, if_pos allowed]
      rfl
    rw [decodeStrictValue, token]
    dsimp only
    rw [if_neg (by decide), if_pos rfl]
    have count := length_le_separated Part.text parts
    cases parts with
    | nil =>
        rw [List.map_nil, separated, List.nil_append, decodeElements,
          Decoder.more_cons (by decide), if_neg (by decide),
          Decoder.token_closeArray tail (.inl rfl)]
        rfl
    | cons part parts =>
        have first := reads part (by simp)
        have reads' := fun other among => reads other (List.mem_cons_of_mem part among)
        have enough : parts.length < (separated ((part :: parts).map Part.text) ++
            ']' :: tail).length := by
          simp only [List.length_append, List.length_cons] at count ⊢
          omega
        rw [List.map_cons, separated, List.append_assoc] at enough ⊢
        rw [decodeElements_turn first (first.more _ _ _)
          (Decoder.passSeparator_of_start (.inl rfl)) rfl (boundary_following _ (.inl rfl) tail),
          Part.array, outcomes_cons]
        cases part.outcome with
        | none => rfl
        | some value =>
            refine (decodeElements_parts reads' enough [value] state stack tail).trans ?_
            rw [Option.bind_some, Option.map_map, Option.map_map]
            rfl

/-! ## Objects -/

/-- A turn of the loop over members. -/
theorem decodeMembers_part {decodeEntry : Decoder → Option (GoValue × Decoder)}
    {member : Text × Part} (reading : Reading decodeEntry member.2) {decoder : Decoder}
    {start : TokenState} {stack : List TokenState} {tail : Text} (more : decoder.more = true)
    (here : decoder.passSeparator = ⟨memberText member ++ tail, start, stack⟩)
    (key : start = .objectStart ∨ start = .objectKey) (boundary : Boundary tail)
    {object : List (Text × GoValue)} (fresh : member.1 ∉ object.map Prod.fst) (turns : Nat) :
    decodeMembers decodeEntry (turns + 1) decoder object =
      member.2.outcome.bind fun value =>
        decodeMembers decodeEntry turns ⟨tail, .objectComma, stack⟩
          (object ++ [(member.1, value)]) := by
  have token : decoder.token =
      .ok (.value (.string member.1),
        ⟨':' :: (member.2.text ++ tail), .objectColon, stack⟩) := by
    rw [Decoder.token, here, memberText, List.append_assoc, Decoder.tokenHere_key _ _ _ key]
    rfl
  have entry := reading.read _ _ _ _ (Decoder.passSeparator_value (member.2.text ++ tail) stack)
    rfl boundary
  rw [decodeMembers, if_pos more, token]
  dsimp only
  rw [if_neg fresh, entry]
  cases member.2.outcome with
  | none => rfl
  | some value => rfl

/-- The members with the values of some parts and one before them. -/
theorem memberOutcomes_cons (member : Text × Part) (members : List (Text × Part)) :
    memberOutcomes (member :: members) =
      member.2.outcome.bind fun value =>
        (memberOutcomes members).map ((member.1, value) :: ·) := by
  rw [memberOutcomes, List.mapM_cons]
  cases member.2.outcome with
  | none => rfl
  | some value =>
      simp only [Option.map_some, Option.bind_eq_bind, Option.bind_some, memberOutcomes]
      cases List.mapM (fun member : Text × Part => member.2.outcome.map (member.1, ·))
          members with
      | none => rfl
      | some values => rfl

/-- Members whose parts are all read have their values. -/
theorem memberOutcomes_eq_some {members : List (Text × Part)} {values : List (Text × GoValue)}
    (reads : List.Forall₂ (fun member value => member.1 = value.1 ∧
      member.2.outcome = some value.2) members values) :
    memberOutcomes members = some values := by
  induction reads with
  | nil => rfl
  | cons here _ ih =>
      rw [memberOutcomes_cons, here.2, Option.bind_some, ih, here.1]
      rfl

/-- Members are refused with any of their parts. -/
theorem memberOutcomes_eq_none {members : List (Text × Part)} {member : Text × Part}
    (among : member ∈ members) (refused : member.2.outcome = none) :
    memberOutcomes members = none := by
  induction members with
  | nil => cases among
  | cons first members ih =>
      rw [memberOutcomes_cons]
      rcases List.mem_cons.mp among with rfl | later
      · rw [refused]
        rfl
      · rw [ih later]
        cases first.2.outcome with
        | none => rfl
        | some value => rfl

/-- The loop over the members that follow the first one. -/
theorem decodeMembers_parts {decodeEntry : Decoder → Option (GoValue × Decoder)}
    {members : List (Text × Part)} (reads : ∀ member ∈ members, Reading decodeEntry member.2)
    {turns : Nat} (enough : members.length < turns) {object : List (Text × GoValue)}
    (distinct : (object.map Prod.fst ++ members.map Prod.fst).Nodup) (state : TokenState)
    (stack : List TokenState) (tail : Text) :
    decodeMembers decodeEntry turns
        ⟨(members.map memberText).flatMap (',' :: ·) ++ '\x7d' :: tail, .objectComma,
          state :: stack⟩ object =
      (memberOutcomes members).map fun rest =>
        (.map (object ++ rest), ⟨tail, state.valueEnd, stack⟩) := by
  induction members generalizing turns object with
  | nil =>
      cases turns with
      | zero => cases enough
      | succ turns =>
          rw [List.map_nil, List.flatMap_nil, List.nil_append, decodeMembers,
            Decoder.more_cons (by decide), if_neg (by decide),
            Decoder.token_closeObject tail (.inr rfl)]
          simp [memberOutcomes]
  | cons member members ih =>
      cases turns with
      | zero => cases enough
      | succ turns =>
          have reads' := fun other among => reads other (List.mem_cons_of_mem member among)
          have fresh : member.1 ∉ object.map Prod.fst := by
            intro among
            exact List.disjoint_of_nodup_append distinct among (by simp)
          rw [List.map_cons, List.flatMap_cons, List.cons_append, List.cons_append,
            List.append_assoc, decodeMembers_part (reads member (by simp))
            (Decoder.more_cons (by decide)) (Decoder.passSeparator_member _ _) (.inr rfl)
            (boundary_following _ (.inr rfl) tail) fresh, memberOutcomes_cons]
          cases member.2.outcome with
          | none => rfl
          | some value =>
              have distinct' : ((object ++ [(member.1, value)]).map Prod.fst ++
                  members.map Prod.fst).Nodup := by
                simpa using distinct
              refine (ih reads' (Nat.lt_of_succ_lt_succ enough) distinct').trans ?_
              rw [Option.bind_some, Option.map_map]
              simp [Function.comp_def]

/-- An object of parts is read in order. -/
theorem reading_object {members : List (Text × Part)} (distinct : (members.map Prod.fst).Nodup)
    {levels : Nat} (reads : ∀ member ∈ members, Reading (decodeStrictValue levels) member.2) :
    Reading (decodeStrictValue (levels + 1)) (.object members) := by
  constructor
  · exact ⟨_, _, rfl, by decide⟩
  · intro decoder state stack tail here allowed boundary
    have token : decoder.token = .ok (.delimiter '\x7b',
        ⟨separated (members.map memberText) ++ '\x7d' :: tail, .objectStart,
          state :: stack⟩) := by
      rw [Decoder.token, here, Part.object, List.append_assoc, Decoder.tokenHere,
        List.cons_append, Decoder.peek_cons (by decide)]
      dsimp only
      rw [if_neg (by decide), if_neg (by decide), if_pos rfl, Decoder.enter, if_pos allowed]
      rfl
    rw [decodeStrictValue, token]
    dsimp only
    rw [if_pos rfl]
    have count := length_le_separated memberText members
    cases members with
    | nil =>
        rw [List.map_nil, separated, List.nil_append, decodeMembers,
          Decoder.more_cons (by decide), if_neg (by decide),
          Decoder.token_closeObject tail (.inl rfl)]
        rfl
    | cons member members =>
        have reads' := fun other among => reads other (List.mem_cons_of_mem member among)
        have enough : members.length < (separated ((member :: members).map memberText) ++
            '\x7d' :: tail).length := by
          simp only [List.length_append, List.length_cons] at count ⊢
          omega
        have more : Decoder.more ⟨memberText member ++
            ((members.map memberText).flatMap (',' :: ·) ++ '\x7d' :: tail), .objectStart,
            state :: stack⟩ = true := by
          rw [memberText, quote, List.cons_append, List.cons_append, List.cons_append,
            Decoder.more_cons (by decide)]
          rfl
        rw [List.map_cons, separated, List.append_assoc] at enough ⊢
        rw [decodeMembers_part (reads member (by simp)) more
          (Decoder.passSeparator_of_start (.inr rfl)) (.inl rfl)
          (boundary_following _ (.inr rfl) tail) (by simp), Part.object, memberOutcomes_cons]
        cases member.2.outcome with
        | none => rfl
        | some value =>
            refine (decodeMembers_parts reads' enough (by simpa using distinct) state stack
              tail).trans ?_
            rw [Option.bind_some, Option.map_map, Option.map_map]
            rfl

/-! ## Documents -/

/-- An array of documents is an array of parts. -/
theorem document_array (elements : List (Document Text)) :
    Part.document (.array elements) = .array (elements.map Part.document) := by
  have values : outcomes (elements.map Part.document) = some (elements.map ofTree) := by
    induction elements with
    | nil => rfl
    | cons element elements ih =>
        rw [List.map_cons, outcomes_cons, ih]
        rfl
  simp only [Part.document, Part.array, values, renderWith, renderElements_eq, ofTree,
    ofElements_eq, List.map_map, Option.map_some]
  rfl

/-- An object of documents is an object of parts. -/
theorem document_object (members : List (Text × Document Text)) :
    Part.document (.object members) =
      .object (members.map fun member => (member.1, .document member.2)) := by
  have values : memberOutcomes (members.map fun member => (member.1, .document member.2)) =
      some (members.map fun member => (member.1, ofTree member.2)) :=
    memberOutcomes_eq_some (by
      rw [List.forall₂_map_left_iff, List.forall₂_map_right_iff]
      exact List.forall₂_same.mpr fun _ _ => ⟨rfl, rfl⟩)
  rw [Part.object, values, Part.document, renderWith, renderMembers_eq, ofTree, ofMembers_eq,
    List.map_map]
  rfl

/-- A scalar is read back. -/
theorem reading_scalar {tree : Document Text} (readable : Readable tree) (scalar : Scalar tree)
    {levels : Nat} (low : tree.height < levels) :
    Reading (decodeStrictValue levels) (.document tree) := by
  rcases renderWith_head readable with ⟨first, rest, written, other, -⟩
  refine ⟨⟨first, rest, written, other⟩, fun decoder state stack tail here allowed boundary => ?_⟩
  cases levels with
  | zero => cases low
  | succ levels =>
      rw [decodeStrictValue, Decoder.token, here, Part.document,
        Decoder.tokenHere_scalar readable scalar boundary allowed]
      rfl

/-- The strict decoder reads a document back where it has more levels left than the document is
high. -/
theorem reading_document {tree : Document Text} (readable : Readable tree) {levels : Nat}
    (low : tree.height < levels) : Reading (decodeStrictValue levels) (.document tree) := by
  induction tree using Document.induction generalizing levels with
  | array elements ih =>
      have readable := Document.all_array.mp readable
      cases levels with
      | zero => cases low
      | succ levels =>
          rw [document_array]
          refine reading_array fun part among => ?_
          obtain ⟨element, member, rfl⟩ := List.mem_map.mp among
          exact ih element member (readable element member)
            (Nat.lt_of_lt_of_le (Document.height_lt_of_mem member) (Nat.le_of_lt_succ low))
  | object members ih =>
      have readable := Document.all_object.mp readable
      cases levels with
      | zero => cases low
      | succ levels =>
          rw [document_object]
          refine reading_object (by simpa [Function.comp_def] using readable.1) fun part among => ?_
          obtain ⟨member, listed, rfl⟩ := List.mem_map.mp among
          exact ih member listed (readable.2.2 member listed)
            (Nat.lt_of_lt_of_le (Document.height_lt_of_mem_members listed)
              (Nat.le_of_lt_succ low))
  | _ => exact reading_scalar readable trivial low

/-! ## Whole texts -/

/-- The strict parser makes of the text of a part what its decoder makes of it. -/
theorem parseStrictJSON_part {part : Part}
    (reading : Reading (decodeStrictValue (maxStrictJSONDepth + 1)) part) {maximumBytes : Int}
    (fits : ((utf8 part.text).length : Int) ≤ maximumBytes) :
    parseStrictJSON (utf8 part.text) maximumBytes = part.outcome := by
  have here : Decoder.passSeparator ⟨part.text, .topValue, []⟩ =
      ⟨part.text ++ [], .topValue, []⟩ := by
    rw [List.append_nil]
    exact Decoder.passSeparator_of_start (.inl rfl)
  have read := reading.read _ _ _ _ here rfl fun _ next => by cases next
  rw [parseStrictJSON, if_neg (not_lt.mpr fits), decodeUtf8_utf8]
  simp only [Option.bind_eq_bind, Option.bind_some]
  rw [read]
  cases part.outcome with
  | none => rfl
  | some value => rfl

end ReproItSdk.Canonical
