import ReproItSdk.Canonical.GoRoundTrip

/-! # Reader of JSON texts

The JSON readers of the standard libraries of Python and Node read one value with white space around
its tokens.  The adapters read back texts that they write themselves: integers for numbers and
strings without lone surrogates.

Main results:

- Theorem {lit}`readDocument_render`: a text that is written is read back, whatever follows it.
- Theorem {lit}`parseJson_render`: the same for a whole text.
- Theorem {lit}`integers_map`: the integers of a document are read back.
-/

namespace ReproItSdk.Canonical

open Unicode Json Decimal

/-! ## Reader -/

/-- Reads one value that is neither an array nor an object. -/
def readAtom (text : Text) : Option (Document Text × Text) := do
  let (value, rest) ← readScalar text
  return (tree value, rest)

/-- Reads the elements of an array up to its closing bracket. -/
def readElements (read : Text → Option (Document Text × Text)) :
    Nat → Text → Option (List (Document Text) × Text)
  | 0, _ => none
  | turns + 1, text => do
      let (element, rest) ← read text
      match rest.dropWhile isSpace with
      | [] => none
      | mark :: rest =>
          if mark = ']' then some ([element], rest)
          else if mark = ',' then do
            let (elements, rest) ← readElements read turns rest
            return (element :: elements, rest)
          else none

/-- Reads a key of an object and the colon behind it. -/
def readKey (text : Text) : Option (Text × Text) :=
  match text.dropWhile isSpace with
  | [] => none
  | mark :: rest =>
      if mark = '\"' then do
        let (key, rest) ← readString rest
        match rest.dropWhile isSpace with
        | [] => none
        | mark :: rest => if mark = ':' then some (key, rest) else none
      else none

/-- Reads the members of an object up to its closing brace. -/
def readMembers (read : Text → Option (Document Text × Text)) :
    Nat → Text → Option (List (Text × Document Text) × Text)
  | 0, _ => none
  | turns + 1, text => do
      let (key, rest) ← readKey text
      let (value, rest) ← read rest
      match rest.dropWhile isSpace with
      | [] => none
      | mark :: rest =>
          if mark = '\x7d' then some ([(key, value)], rest)
          else if mark = ',' then do
            let (members, rest) ← readMembers read turns rest
            return ((key, value) :: members, rest)
          else none

/-- Reads an array behind its opening bracket. -/
def readArray (read : Text → Option (Document Text × Text)) (text : Text) :
    Option (Document Text × Text) :=
  match text.dropWhile isSpace with
  | [] => none
  | mark :: rest =>
      if mark = ']' then some (.array [], rest)
      else do
        let (elements, rest) ← readElements read (text.length + 1) (mark :: rest)
        return (.array elements, rest)

/-- Reads an object behind its opening brace. -/
def readObject (read : Text → Option (Document Text × Text)) (text : Text) :
    Option (Document Text × Text) :=
  match text.dropWhile isSpace with
  | [] => none
  | mark :: rest =>
      if mark = '\x7d' then some (.object [], rest)
      else do
        let (members, rest) ← readMembers read (text.length + 1) (mark :: rest)
        return (.object members, rest)

/-- Reads one value that is nested less deep than a number of levels. -/
def readDocument : Nat → Text → Option (Document Text × Text)
  | 0, _ => none
  | levels + 1, text =>
      match text.dropWhile isSpace with
      | [] => none
      | mark :: rest =>
          if mark = '[' then readArray (readDocument levels) rest
          else if mark = '\x7b' then readObject (readDocument levels) rest
          else readAtom (mark :: rest)

/-- {lit}`json.loads` and {lit}`JSON.parse`: one value and white space. -/
def parseJson (text : Text) : Option (Document Text) := do
  let (document, rest) ← readDocument (text.length + 1) text
  if rest.all isSpace then some document else none

/-! ## Integers -/

/-- The integer with some digits, behind a sign or not. -/
def signedInteger (digits : Text) : Int :=
  if digits.head? = some '-' then -(Nat.ofDigitChars 10 digits.tail 0 : Int)
  else Nat.ofDigitChars 10 digits 0

/-- The integer that is written with some digits. -/
def integer? (digits : Text) : Option Int :=
  if decimal (signedInteger digits) = digits then some (signedInteger digits) else none

mutual

/-- A document with the integers that its numbers stand for. -/
def integers : Document Text → Option (Document Int)
  | .null => some .null
  | .bool value => some (.bool value)
  | .number digits => (integer? digits).map .number
  | .string text => some (.string text)
  | .array elements => (integerElements elements).map .array
  | .object members => (integerMembers members).map .object

/-- The elements of an array with their integers. -/
def integerElements : List (Document Text) → Option (List (Document Int))
  | [] => some []
  | first :: rest => do
      let element ← integers first
      let elements ← integerElements rest
      return element :: elements

/-- The members of an object with their integers. -/
def integerMembers : List (Text × Document Text) → Option (List (Text × Document Int))
  | [] => some []
  | (key, value) :: rest => do
      let value ← integers value
      let members ← integerMembers rest
      return (key, value) :: members

end

/-! ## Round trip of integers -/

/-- The digits of an integer stand for it. -/
theorem signedInteger_decimal (value : Int) : signedInteger (decimal value) = value := by
  unfold signedInteger decimal
  by_cases negative : value < 0
  · rw [if_pos negative, List.head?_cons, if_pos rfl, List.tail_cons,
      Nat.ofDigitChars_ten_toDigits]
    omega
  · have plain : (Nat.toDigits 10 value.natAbs).head? ≠ some '-' := by
      intro head
      rcases List.head?_eq_some_iff.mp head with ⟨rest, digits⟩
      exact toDigits_ne_minus _ _ digits
    rw [if_neg negative, if_neg plain, Nat.ofDigitChars_ten_toDigits]
    omega

/-- The digits of an integer are read back. -/
theorem integer_decimal (value : Int) : integer? (decimal value) = some value := by
  unfold integer?
  rw [signedInteger_decimal]
  exact if_pos rfl

/-- The integers of a document are read back. -/
theorem integers_map (document : Document Int) :
    integers (document.map decimal) = some document := by
  induction document using Document.induction with
  | null => rfl
  | bool value => rfl
  | number value =>
      show (integer? (decimal value)).map _ = _
      rw [integer_decimal]
      rfl
  | string text => rfl
  | array elements ih =>
      have read : integerElements (elements.map (Document.map decimal)) = some elements := by
        induction elements with
        | nil => rfl
        | cons first rest others =>
            have here := ih first (List.mem_cons_self ..)
            have there := others fun element among => ih element (List.mem_cons_of_mem _ among)
            rw [List.map_cons, integerElements, here, there]
            rfl
      rw [Document.map, Document.mapElements_eq, integers, read]
      rfl
  | object members ih =>
      have read : integerMembers (members.map fun member =>
          (member.1, member.2.map decimal)) = some members := by
        induction members with
        | nil => rfl
        | cons first rest others =>
            have here := ih first (List.mem_cons_self ..)
            have there := others fun member among => ih member (List.mem_cons_of_mem _ among)
            rw [List.map_cons, integerMembers, here, there]
            rfl
      rw [Document.map, Document.mapMembers_eq, integers, read]
      rfl

/-! ## Round trip of texts -/

/-- A reader reads a document back, whatever follows it. -/
def ReadsBack (read : Text → Option (Document Text × Text)) (document : Document Text) : Prop :=
  ∀ tail, Boundary tail → read (renderWith quote document ++ tail) = some (document, tail)

/-- A text that starts with a character of its own has no space before it. -/
theorem dropWhile_space {character : Char} (visible : character ∉ separators) (rest : Text) :
    (character :: rest).dropWhile isSpace = character :: rest := by
  apply List.dropWhile_cons_of_neg
  intro space
  simp only [isSpace, decide_eq_true_eq] at space
  apply visible
  rcases space with rfl | rfl | rfl | rfl
  · decide
  · decide
  · decide
  · decide

/-- A closing bracket, a comma or a colon has no space before it. -/
theorem dropWhile_mark {mark : Char} (marks : mark = ',' ∨ mark = ':' ∨ mark = ']' ∨ mark = '\x7d')
    (rest : Text) : (mark :: rest).dropWhile isSpace = mark :: rest := by
  apply List.dropWhile_cons_of_neg
  rcases marks with rfl | rfl | rfl | rfl
  · decide
  · decide
  · decide
  · decide

/-- A value that is neither an array nor an object is read back. -/
theorem readAtom_render {document : Document Text} (readable : Readable document)
    (scalar : Scalar document) : ReadsBack readAtom document := by
  intro tail boundary
  unfold readAtom
  rw [readScalar_render readable scalar boundary]
  exact congrArg (fun value => some (value, tail)) (tree_ofTree document)

/-- The elements of an array are read back. -/
theorem readElements_render {read : Text → Option (Document Text × Text)}
    {first : Document Text} {rest : List (Document Text)}
    (reads : ∀ element ∈ first :: rest, ReadsBack read element) (tail : Text) {turns : Nat}
    (enough : rest.length < turns) :
    readElements read turns (renderWith quote first ++
        ((rest.map (renderWith quote)).flatMap (',' :: ·) ++ ']' :: tail)) =
      some (first :: rest, tail) := by
  induction rest generalizing first turns with
  | nil =>
      cases turns with
      | zero => cases enough
      | succ turns =>
          have here := reads first (List.mem_cons_self ..) _
            (boundary_following [] (.inl rfl) tail)
          rw [List.map_nil, readElements, here]
          simp only [Option.bind_eq_bind, Option.bind_some, List.flatMap_nil, List.nil_append]
          rw [dropWhile_mark (by decide)]
          exact if_pos rfl
  | cons second rest ih =>
      cases turns with
      | zero => cases enough
      | succ turns =>
          have here := reads first (List.mem_cons_self ..) _
            (boundary_following ((second :: rest).map (renderWith quote)) (.inl rfl) tail)
          have there := ih (fun element among => reads element (List.mem_cons_of_mem _ among))
            (Nat.lt_of_succ_lt_succ enough)
          rw [readElements, here]
          simp only [Option.bind_eq_bind, Option.bind_some, List.map_cons, List.flatMap_cons,
            List.cons_append, List.append_assoc]
          rw [dropWhile_mark (by decide)]
          dsimp only
          rw [if_neg (by decide), if_pos rfl, there]
          rfl

/-- A key of an object is read back. -/
theorem readKey_render (key rest : Text) :
    readKey (quote key ++ ':' :: rest) = some (key, rest) := by
  have read := readString_escape key (':' :: rest)
  unfold readKey quote
  rw [List.append_assoc, List.cons_append, dropWhile_space (by decide)]
  dsimp only
  rw [if_pos rfl, List.singleton_append, read]
  simp only [Option.bind_eq_bind, Option.bind_some]
  rw [dropWhile_mark (by decide)]
  exact if_pos rfl

/-- The members of an object are read back. -/
theorem readMembers_render {read : Text → Option (Document Text × Text)}
    {first : Text × Document Text} {rest : List (Text × Document Text)}
    (reads : ∀ member ∈ first :: rest, ReadsBack read member.2) (tail : Text) {turns : Nat}
    (enough : rest.length < turns) :
    readMembers read turns (renderMember first ++
        ((rest.map renderMember).flatMap (',' :: ·) ++ '\x7d' :: tail)) =
      some (first :: rest, tail) := by
  induction rest generalizing first turns with
  | nil =>
      cases turns with
      | zero => cases enough
      | succ turns =>
          have here := reads first (List.mem_cons_self ..) _
            (boundary_following [] (.inr rfl) tail)
          rw [List.map_nil, readMembers, renderMember, List.append_assoc, List.cons_append,
            readKey_render]
          simp only [Option.bind_eq_bind, Option.bind_some]
          rw [here]
          simp only [Option.bind_some, List.flatMap_nil, List.nil_append]
          rw [dropWhile_mark (by decide)]
          exact if_pos rfl
  | cons second rest ih =>
      cases turns with
      | zero => cases enough
      | succ turns =>
          have here := reads first (List.mem_cons_self ..) _
            (boundary_following ((second :: rest).map renderMember) (.inr rfl) tail)
          have there := ih (fun member among => reads member (List.mem_cons_of_mem _ among))
            (Nat.lt_of_succ_lt_succ enough)
          rw [readMembers, renderMember, List.append_assoc, List.cons_append, readKey_render]
          simp only [Option.bind_eq_bind, Option.bind_some]
          rw [here]
          simp only [Option.bind_some, List.map_cons, List.flatMap_cons, List.cons_append,
            List.append_assoc]
          rw [dropWhile_mark (by decide)]
          dsimp only
          rw [if_neg (by decide), if_pos rfl, there]
          rfl

/-- An array is read back. -/
theorem readArray_render {read : Text → Option (Document Text × Text)}
    {elements : List (Document Text)} (readable : ∀ element ∈ elements, Readable element)
    (reads : ∀ element ∈ elements, ReadsBack read element) (tail : Text) :
    readArray read (separated (elements.map (renderWith quote)) ++ ']' :: tail) =
      some (.array elements, tail) := by
  cases elements with
  | nil =>
      unfold readArray
      rw [List.map_nil, separated, List.nil_append, dropWhile_mark (by decide)]
      exact if_pos rfl
  | cons first rest =>
      rcases renderWith_head (readable first (List.mem_cons_self ..)) with
        ⟨head, body, written, visible, _⟩
      have count : rest.length < (separated ((first :: rest).map (renderWith quote)) ++
          ']' :: tail).length + 1 := by
        have least := length_le_separated (renderWith quote) (first :: rest)
        rw [List.length_append, List.length_cons]
        rw [List.length_cons] at least
        omega
      have all := readElements_render reads tail count
      unfold readArray
      rw [List.map_cons, separated, List.append_assoc] at count all ⊢
      rw [written, List.cons_append] at count all ⊢
      rw [dropWhile_space visible]
      dsimp only
      have other : head ≠ ']' := by
        rintro rfl
        exact visible (by decide)
      rw [if_neg other, all]
      rfl

/-- An object is read back. -/
theorem readObject_render {read : Text → Option (Document Text × Text)}
    {members : List (Text × Document Text)}
    (reads : ∀ member ∈ members, ReadsBack read member.2) (tail : Text) :
    readObject read (separated (members.map renderMember) ++ '\x7d' :: tail) =
      some (.object members, tail) := by
  cases members with
  | nil =>
      unfold readObject
      rw [List.map_nil, separated, List.nil_append, dropWhile_mark (by decide)]
      exact if_pos rfl
  | cons first rest =>
      have count : rest.length < (separated ((first :: rest).map renderMember) ++
          '\x7d' :: tail).length + 1 := by
        have least := length_le_separated renderMember (first :: rest)
        rw [List.length_append, List.length_cons]
        rw [List.length_cons] at least
        omega
      have all := readMembers_render reads tail count
      have written : renderMember first = '\"' :: (escape first.1 ++ ['\"'] ++
          ':' :: renderWith quote first.2) := rfl
      unfold readObject
      rw [List.map_cons, separated, List.append_assoc] at count all ⊢
      rw [written, List.cons_append] at count all ⊢
      rw [dropWhile_space (by decide)]
      dsimp only
      rw [if_neg (by decide), all]
      rfl

/-- A value that is neither an array nor an object is read back wherever a level is left. -/
theorem readDocument_scalar {document : Document Text} (readable : Readable document)
    (scalar : Scalar document) {levels : Nat} (low : document.height < levels) :
    ReadsBack (readDocument levels) document := by
  intro tail boundary
  rcases renderWith_head readable with ⟨first, rest, written, visible, plain⟩
  have read := readAtom_render readable scalar tail boundary
  cases levels with
  | zero => cases low
  | succ levels =>
      rw [written, List.cons_append] at read ⊢
      rw [readDocument, dropWhile_space visible]
      dsimp only
      rw [if_neg (plain scalar).1, if_neg (plain scalar).2]
      exact read

/-- A text that is written for a document is read back with more levels than the document is
high. -/
theorem readDocument_render {document : Document Text} (readable : Readable document)
    {levels : Nat} (low : document.height < levels) :
    ReadsBack (readDocument levels) document := by
  induction document using Document.induction generalizing levels with
  | array elements ih =>
      intro tail boundary
      have readable := Document.all_array.mp readable
      cases levels with
      | zero => cases low
      | succ levels =>
          have reads (element : Document Text) (among : element ∈ elements) :
              ReadsBack (readDocument levels) element :=
            ih element among (readable element among)
              (Nat.lt_of_lt_of_le (Document.height_lt_of_mem among) (Nat.le_of_lt_succ low))
          rw [renderWith, renderElements_eq, List.append_assoc, List.cons_append, readDocument,
            dropWhile_space (by decide)]
          dsimp only
          rw [if_pos rfl, List.singleton_append]
          exact readArray_render readable reads tail
  | object members ih =>
      intro tail boundary
      have readable := Document.all_object.mp readable
      cases levels with
      | zero => cases low
      | succ levels =>
          have reads (member : Text × Document Text) (among : member ∈ members) :
              ReadsBack (readDocument levels) member.2 :=
            ih member among (readable.2.2 member among)
              (Nat.lt_of_lt_of_le (Document.height_lt_of_mem_members among) (Nat.le_of_lt_succ low))
          rw [renderWith, renderMembers_eq, List.append_assoc, List.cons_append, readDocument,
            dropWhile_space (by decide)]
          dsimp only
          rw [if_neg (by decide), if_pos rfl, List.singleton_append]
          exact readObject_render reads tail
  | _ => exact readDocument_scalar readable trivial low

/-- A part is not longer than the separated text. -/
theorem length_le_of_mem {α : Type*} (write : α → Text) {items : List α} {item : α}
    (among : item ∈ items) : (write item).length ≤ (separated (items.map write)).length := by
  have part := List.single_le_sum (fun _ _ => Nat.zero_le _) _
    (List.mem_map_of_mem (f := fun item => (write item).length + 1) among)
  rw [length_separated]
  omega

/-- An array is not higher than a bound on its elements. -/
theorem elementsHeight_le {elements : List (Document Text)} {bound : Nat}
    (low : ∀ element ∈ elements, element.height < bound) :
    Document.elementsHeight elements ≤ bound := by
  induction elements with
  | nil => exact Nat.zero_le _
  | cons first rest ih =>
      have here := low first (List.mem_cons_self ..)
      have there := ih fun element among => low element (List.mem_cons_of_mem _ among)
      rw [Document.elementsHeight]
      omega

/-- An object is not higher than a bound on its values. -/
theorem membersHeight_le {members : List (Text × Document Text)} {bound : Nat}
    (low : ∀ member ∈ members, member.2.height < bound) :
    Document.membersHeight members ≤ bound := by
  induction members with
  | nil => exact Nat.zero_le _
  | cons first rest ih =>
      have here := low first (List.mem_cons_self ..)
      have there := ih fun member among => low member (List.mem_cons_of_mem _ among)
      rw [Document.membersHeight]
      omega

/-- A document is not higher than its text is long. -/
theorem height_le_length (document : Document Text) :
    document.height ≤ (renderWith quote document).length := by
  induction document using Document.induction with
  | array elements ih =>
      rw [renderWith, renderElements_eq, Document.height]
      apply elementsHeight_le
      intro element among
      have here := ih element among
      have part := length_le_of_mem (renderWith quote) among
      rw [List.length_append, List.length_cons]
      omega
  | object members ih =>
      rw [renderWith, renderMembers_eq, Document.height]
      apply membersHeight_le
      intro member among
      have here := ih member among
      have part := length_le_of_mem renderMember among
      have whole : (renderMember member).length =
          (quote member.1).length + ((renderWith quote member.2).length + 1) := List.length_append
      change (renderMember member).length ≤ (separated (members.map fun member =>
        quote member.1 ++ ':' :: renderWith quote member.2)).length at part
      rw [List.length_append, List.length_cons]
      omega
  | _ => exact Nat.zero_le _

/-- A text that is written is read back. -/
theorem parseJson_render {document : Document Text} (readable : Readable document) :
    parseJson (renderWith quote document) = some document := by
  have read := readDocument_render readable (Nat.lt_succ_of_le (height_le_length document)) []
    fun _ next => by cases next
  rw [List.append_nil] at read
  unfold parseJson
  rw [read]
  rfl

end ReproItSdk.Canonical
