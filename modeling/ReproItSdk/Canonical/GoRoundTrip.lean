import ReproItSdk.Canonical.GoReading

/-! # Round trip of canonical JSON in the Go SDK

Main results:

- Theorem {lit}`decodeStrictValue_render`: the strict decoder reads a document with short escapes,
  decimal numbers and distinct keys back, at any depth it has levels for.
- Theorem {lit}`renderWith_quote_injective`: such documents have different texts.
- Theorem {lit}`canonical_round_trip`: canonical bytes of a clean value are parsed back to its
  content, down to the depth limit, and no clean value with another content has them.
- Theorem {lit}`deep_and_escaped_values_are_refused`: deeper values and values whose text contains an
  escape are not parsed back.
-/

namespace ReproItSdk.Canonical

open Unicode Json Decimal

/-! ## Values -/

/-- A reader reads a value back wherever the decoder expects one. -/
def Reads (decodeEntry : Decoder → Option (GoValue × Decoder)) (tree : Document Text) : Prop :=
  ∀ decoder state stack tail, decoder.passSeparator = ⟨renderWith quote tree ++ tail, state, stack⟩ →
    state.valueAllowed = true → Boundary tail →
    decodeEntry decoder = some (ofTree tree, ⟨tail, state.valueEnd, stack⟩)

/-- The members of an object as they are written. -/
def renderMember (member : Text × Document Text) : Text :=
  quote member.1 ++ ':' :: renderWith quote member.2

/-- The strict decoder reads a document back where it has more levels left than the document is
high. -/
theorem decodeStrictValue_render {tree : Document Text} (readable : Readable tree) {levels : Nat}
    (low : tree.height < levels) : Reads (decodeStrictValue levels) tree :=
  (reading_document readable low).read

/-- A document that is not higher than the limit is parsed back. -/
theorem parseStrictJSON_render {tree : Document Text} (readable : Readable tree)
    (low : tree.height ≤ maxStrictJSONDepth) {maximumBytes : Int}
    (fits : ((utf8 (renderWith quote tree)).length : Int) ≤ maximumBytes) :
    parseStrictJSON (utf8 (renderWith quote tree)) maximumBytes = some (ofTree tree) :=
  parseStrictJSON_part (reading_document readable (Nat.lt_succ_of_le low)) fits

/-! ## Different documents -/

/-- Documents that are decoded to one value are the same. -/
theorem ofTree_injective : Function.Injective ofTree := by
  intro left
  induction left using Document.induction with
  | array elements ih =>
      intro right same
      cases right <;> simp only [ofTree, reduceCtorEq, GoValue.slice.injEq] at same
      rw [ofElements_eq, ofElements_eq] at same
      rw [Document.eq_of_map_eq ih same]
  | object members ih =>
      intro right same
      cases right <;> simp only [ofTree, reduceCtorEq, GoValue.map.injEq] at same
      rw [ofMembers_eq, ofMembers_eq] at same
      refine congrArg Document.object (Document.eq_of_map_eq (fun member among other equal => ?_) same)
      rw [Prod.mk.injEq] at equal
      exact Prod.ext equal.1 (ih member among equal.2)
  | _ => intro right same; cases right <;> simp_all [ofTree]

/-- Documents with integers for numbers and distinct keys have different texts. -/
theorem renderWith_quote_injective {left right : Document Text} (readable : Readable left)
    (readable' : Readable right) (same : renderWith quote left = renderWith quote right) :
    left = right := by
  have here (tree : Document Text) : Decoder.passSeparator ⟨renderWith quote tree, .topValue, []⟩ =
      ⟨renderWith quote tree ++ [], .topValue, []⟩ := by
    rw [List.append_nil]
    exact Decoder.passSeparator_of_start (.inl rfl)
  have nothing : Boundary [] := fun _ next => by cases next
  have levels (tree : Document Text) (among : tree = left ∨ tree = right) :
      tree.height < left.height + right.height + 1 := by
    rcases among with rfl | rfl <;> omega
  have read := decodeStrictValue_render readable (levels left (.inl rfl)) _ _ _ _ (here left) rfl
    nothing
  have read' := decodeStrictValue_render readable' (levels right (.inr rfl)) _ _ _ _ (here right) rfl
    nothing
  rw [same, read'] at read
  exact (ofTree_injective (Prod.mk.inj (Option.some.inj read)).1).symm

/-! ## Values of the bridge -/

/-- No text of a value contains one of the five escapes that are replaced. -/
def Clean (value : GoValue) : Prop :=
  Document.All (fun _ => True) NoEscape (fun _ => True) (tree value)

/-- A value is decoded to its own content. -/
theorem tree_ofTree (document : Document Text) : tree (ofTree document) = document := by
  induction document using Document.induction with
  | array elements ih =>
      rw [ofTree, tree, ofElements_eq, treeElements_eq, List.map_map]
      exact congrArg Document.array ((List.map_congr_left ih).trans (List.map_id' _))
  | object members ih =>
      rw [ofTree, tree, ofMembers_eq, treeMembers_eq, List.map_map]
      refine congrArg Document.object ((List.map_congr_left fun member among => ?_).trans
        (List.map_id' _))
      exact Prod.ext rfl (ih member among)
  | _ => rfl

/-- The value that is decoded from the content of a value has the same content. -/
theorem content_ofTree_content (value : GoValue) :
    content (ofTree (content value)) = content value := by
  rw [content, tree_ofTree, content, Document.sorted_sorted]

/-- Content of a value of the bridge is readable. -/
theorem readable_content {value : GoValue} (bridge : Bridge value) : Readable (content value) := by
  induction bridge with
  | number digits parsed _ canonical => exact .number digits ⟨parsed, canonical⟩
  | int value => exact .number _ ⟨value, rfl⟩
  | int64 value => exact .number _ ⟨value, rfl⟩
  | string text => exact .string text trivial
  | slice elements _ ih =>
      rw [content_slice]
      exact .array _ (by simpa using ih)
  | map members distinct _ ih =>
      rw [content_map]
      refine .object _ ?_ (fun _ _ => trivial) ?_
      · rw [List.map_map]
        exact ((sortBy_perm _ members).map Prod.fst).nodup_iff.mpr distinct
      · rw [List.forall_mem_map]
        exact fun member among => ih member (mem_sortBy.mp among)
  | nil => exact .null
  | bool value => exact .bool value

/-- A clean value is written with short escapes. -/
theorem encodeCanonical_clean {value : GoValue} (bridge : Bridge value) (clean : Clean value) :
    CanonicalBytes value = .ok (utf8 (renderWith quote (content value))) := by
  have strings := (Document.all_sorted (fun _ _ _ holds => holds) utf8 (tree value)).mpr clean
  rw [CanonicalBytes_bridge bridge, content, renderWith_congr (strings.mono (fun _ holds => holds)
    (fun text holds => (encodeString_eq_quote_iff text).mpr holds) fun _ holds => holds)]

/-- Canonical bytes of a value without the five escapes in its texts are a text that the strict
parser reads back, with integers as numbers of the same digits, where the value is not nested deeper
than the limit; and no other content has them. -/
theorem canonical_round_trip {value : GoValue} (bridge : Bridge value) (clean : Clean value) :
    ∃ bytes, CanonicalBytes value = .ok bytes ∧
      ((content value).height ≤ maxStrictJSONDepth →
        ∀ maximumBytes : Int, (bytes.length : Int) ≤ maximumBytes →
          parseStrictJSON bytes maximumBytes = some (ofTree (content value)) ∧
            content (ofTree (content value)) = content value) ∧
      ∀ other, Bridge other → Clean other → CanonicalBytes other = .ok bytes →
        content other = content value := by
  refine ⟨_, encodeCanonical_clean bridge clean, fun low maximumBytes fits => ⟨?_, ?_⟩, ?_⟩
  · exact parseStrictJSON_render (readable_content bridge) low fits
  · exact content_ofTree_content value
  · intro other bridge' clean' same
    rw [encodeCanonical_clean bridge' clean', Except.ok.injEq] at same
    exact renderWith_quote_injective (readable_content bridge') (readable_content bridge)
      (utf8_injective same)

/-- A map that is parsed back. -/
theorem canonical_round_trip_map :
    ∃ bytes, CanonicalBytes (.map [(['b'], .int 7), (['a'], .slice [.nil, .number ['1', '2']])]) =
        .ok bytes ∧
      parseStrictJSON bytes 100 = some (.map [(['a'], .slice [.nil, .number ['1', '2']]),
        (['b'], .number ['7'])]) := by
  have elements : ∀ element ∈ [GoValue.nil, .number ['1', '2']], Bridge element := by
    simpa using ⟨Bridge.nil, Bridge.number _ 12 (by decide) (by decide)⟩
  have bridge : Bridge (.map [(['b'], .int 7), (['a'], .slice [.nil, .number ['1', '2']])]) :=
    .map _ (by decide) (by simpa using ⟨Bridge.int 7, Bridge.slice _ elements⟩)
  have clean : Clean (.map [(['b'], .int 7), (['a'], .slice [.nil, .number ['1', '2']])]) := by
    simp only [Clean, tree, treeMembers, treeElements, Document.all_object, List.forall_mem_cons]
    simp
    decide
  obtain ⟨bytes, written, read, -⟩ := canonical_round_trip bridge clean
  have size : bytes = utf8 (['\x7b', '\"', 'a', '\"', ':', '[', 'n', 'u', 'l', 'l', ',', '1', '2', ']',
      ',', '\"', 'b', '\"', ':', '7', '\x7d']) :=
    Except.ok.inj (written.symm.trans rfl)
  refine ⟨bytes, written, (read (by decide) 100 ?_).1⟩
  rw [size]
  decide

/-! ## Values that are not parsed back -/

/-- Slices in one another. -/
def nested : Nat → GoValue
  | 0 => .slice []
  | depth + 1 => .slice [nested depth]

/-- Slices in one another are values of the bridge. -/
theorem bridge_nested (depth : Nat) : Bridge (nested depth) := by
  induction depth with
  | zero => exact .slice [] (by simp)
  | succ depth ih => exact .slice _ (by simpa using ih)

/-- Slices in one another have no texts. -/
theorem clean_nested (depth : Nat) : Clean (nested depth) := by
  unfold Clean
  induction depth with
  | zero => exact .array [] (by simp)
  | succ depth ih => exact .array _ (by simpa [treeElements] using ih)

/-- Text of slices in one another. -/
theorem encodeCanonical_nested (depth : Nat) :
    ∃ rest, encodeCanonical (nested depth) = .ok (List.replicate depth '[' ++ '[' :: rest) := by
  induction depth with
  | zero => exact ⟨[']'], rfl⟩
  | succ depth ih =>
      obtain ⟨rest, written⟩ := ih
      refine ⟨rest ++ [']'], ?_⟩
      rw [nested, encodeCanonical, encodeElements, encodeElements, written]
      simp [writeArray, writeSeparated, writeFollowing, bind, Except.bind, pure, Except.pure,
        List.replicate_succ]

/-- More brackets than levels are refused. -/
theorem decodeStrictValue_brackets (levels : Nat) (rest : Text) {state : TokenState}
    (allowed : state.valueAllowed = true) (stack : List TokenState) :
    decodeStrictValue levels ⟨List.replicate levels '[' ++ '[' :: rest, state, stack⟩ = none := by
  induction levels generalizing state stack with
  | zero => rfl
  | succ levels ih =>
      have token : Decoder.token ⟨'[' :: (List.replicate levels '[' ++ '[' :: rest), state, stack⟩ =
          .ok (.delimiter '[', ⟨List.replicate levels '[' ++ '[' :: rest, .arrayStart,
            state :: stack⟩) := by
        rw [Decoder.token, Decoder.passSeparator_of_start (.inl allowed), Decoder.tokenHere,
          Decoder.peek_cons (by decide)]
        dsimp only
        rw [if_pos rfl, Decoder.enter, if_pos allowed]
      have more : Decoder.more ⟨List.replicate levels '[' ++ '[' :: rest, .arrayStart,
          state :: stack⟩ = true := by
        cases levels with
        | zero => exact Decoder.more_cons (by decide)
        | succ levels => exact Decoder.more_cons (by decide)
      rw [List.replicate_succ, List.cons_append, decodeStrictValue, token]
      dsimp only
      rw [if_neg (by decide), if_pos rfl, decodeElements, if_pos more, ih rfl]
      rfl

/-- A value deeper than the limit is refused, and so is the text of a value that contains an
escape. -/
theorem deep_and_escaped_values_are_refused :
    (∃ bytes, Bridge (nested 513) ∧ Clean (nested 513) ∧ CanonicalBytes (nested 513) = .ok bytes ∧
      ∀ maximumBytes, parseStrictJSON bytes maximumBytes = none) ∧
    (∃ bytes, Bridge (.string ['\\', 'u', '0', '0', '3', 'c']) ∧
      CanonicalBytes (.string ['\\', 'u', '0', '0', '3', 'c']) = .ok bytes ∧
      ∀ maximumBytes, parseStrictJSON bytes maximumBytes = none) := by
  obtain ⟨rest, written⟩ := encodeCanonical_nested 513
  refine ⟨⟨utf8 (List.replicate 513 '[' ++ '[' :: rest), bridge_nested 513, ?_, ?_, ?_⟩,
    ⟨utf8 ['\"', '\\', '<', '\"'], .string _, rfl, ?_⟩⟩
  · exact clean_nested 513
  · rw [CanonicalBytes, written]
    rfl
  · intro maximumBytes
    rw [parseStrictJSON, decodeUtf8_utf8]
    split
    · rfl
    · simp only [Option.bind_eq_bind, Option.bind_some]
      have refused : decodeStrictValue (maxStrictJSONDepth + 1)
          ⟨List.replicate 513 '[' ++ '[' :: rest, .topValue, []⟩ = none :=
        decodeStrictValue_brackets 513 rest rfl []
      rw [refused]
      rfl
  · intro maximumBytes
    rw [parseStrictJSON, decodeUtf8_utf8]
    split
    · rfl
    · rfl

end ReproItSdk.Canonical
