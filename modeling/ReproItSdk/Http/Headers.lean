import ReproItSdk.Library.OrderedRecord
import ReproItSdk.Library.Unicode

/-! # Combined headers of Node responses

The runtime combines the raw headers of a response into an object: of repeated names it keeps the
first value of some, a list of cookies to set, and joins the values of the others.  The adapter
joins all values of a name.  The function that makes names lower case is a parameter.

Main definitions:

- Function {lit}`liveHeaders`: the object of the runtime.
- Function {lit}`headerObject`: the object of the adapter.

Main result:

- Theorem {lit}`liveHeaders_eq_iff`: the objects are the same exactly when no name whose first value
  is kept is repeated.
-/

namespace ReproItSdk
namespace Http
namespace Node

open Unicode OrderedRecord

/-! ## Names -/

/-- The names of which the runtime keeps the first value. -/
def firstValueNames : List Text :=
  ["age".toList, "authorization".toList, "content-length".toList, "content-type".toList,
    "etag".toList, "expires".toList, "from".toList, "host".toList, "if-modified-since".toList,
    "if-unmodified-since".toList, "last-modified".toList, "location".toList,
    "max-forwards".toList, "proxy-authorization".toList, "referer".toList, "retry-after".toList,
    "server".toList, "user-agent".toList]

/-- {lit}`SENSITIVE_HEADERS`. -/
def sensitiveHeaders : List Text :=
  ["authorization".toList, "cookie".toList, "proxy-authenticate".toList,
    "proxy-authorization".toList, "set-cookie".toList, "www-authenticate".toList,
    "reproit-fuzz-context".toList, "reproit-parent-operation".toList]

/-! ## Objects -/

/-- The value of a header. -/
inductive HeaderValue where
  | one (value : Text)
  | many (values : List Text)
deriving DecidableEq, Repr

/-- Headers of the runtime, in the order of their first occurrence. -/
abbrev Headers : Type :=
  List (Text × HeaderValue)

/-- One raw header, as the runtime documents it. -/
def addHeaderLine (headers : Headers) (name value : Text) : Headers :=
  match get name headers with
  | none =>
      if name = "set-cookie".toList then set name (.many [value]) headers
      else set name (.one value) headers
  | some (.many values) => set name (.many (values ++ [value])) headers
  | some (.one old) =>
      if name ∈ firstValueNames then headers
      else if name = "cookie".toList then set name (.one (old ++ "; ".toList ++ value)) headers
      else set name (.one (old ++ ", ".toList ++ value)) headers

/-- One raw header, as the adapter merges it. -/
def mergeLine (headers : List (Text × Text)) (name value : Text) : List (Text × Text) :=
  match get name headers with
  | none => set name value headers
  | some old => set name (old ++ ", ".toList ++ value) headers

/-- The raw headers two by two. -/
def pairs : List Text → List (Text × Text)
  | name :: value :: rest => (name, value) :: pairs rest
  | _ => []

section Lower

variable (lower : Text → Text)

/-- {lit}`headers` and {lit}`trailers` of a live response. -/
def liveHeaders (raw : List Text) : Headers :=
  (pairs raw).foldl (fun headers field => addHeaderLine headers (lower field.1) field.2) []

/-- {lit}`headerObject`. -/
def headerObject (raw : List Text) : List (Text × Text) :=
  (pairs raw).foldl (fun headers field => mergeLine headers (lower field.1) field.2) []

end Lower

/-! ## Agreement -/

/-- The object of the adapter with the values of the runtime. -/
def ones (headers : List (Text × Text)) : Headers :=
  mapValues .one headers

/-- No field has a name whose first value is kept and that is repeated or already set. -/
def Single (headers : List (Text × Text)) (names : List Text) : Prop :=
  ∀ name ∈ firstValueNames,
    (get name headers ≠ none → name ∉ names) ∧ names.count name ≤ 1

/-- The adapter has a longer value of a name whose first value is kept. -/
def Behind (live : Headers) (replayed : List (Text × Text)) : Prop :=
  ∃ name ∈ firstValueNames, ∃ old longer, get name live = some (.one old) ∧
    get name replayed = some longer ∧ old.length < longer.length

/-- Names that the runtime neither lists nor joins by semicolons. -/
def Plain (name : Text) : Prop :=
  name ≠ "set-cookie".toList ∧ name ≠ "cookie".toList

/-- A value that is behind stays behind. -/
theorem Behind.line {live : Headers} {replayed : List (Text × Text)} (behind : Behind live replayed)
    (name value : Text) :
    Behind (addHeaderLine live name value) (mergeLine replayed name value) := by
  rcases behind with ⟨kept, among, old, longer, before, after, less⟩
  by_cases same : kept = name
  · subst same
    refine ⟨kept, among, old, longer ++ ", ".toList ++ value, ?_, ?_, ?_⟩
    · rw [addHeaderLine, before]
      dsimp only
      rw [if_pos among, before]
    · rw [mergeLine, after]
      exact get_set_self ..
    · simp only [List.length_append]
      omega
  · refine ⟨kept, among, old, longer, ?_, ?_, less⟩
    · rw [← before]
      unfold addHeaderLine
      split
      · split
        · exact get_set_ne same ..
        · exact get_set_ne same ..
      · exact get_set_ne same ..
      · split
        · rfl
        · split
          · exact get_set_ne same ..
          · exact get_set_ne same ..
    · rw [← after]
      unfold mergeLine
      split
      · exact get_set_ne same ..
      · exact get_set_ne same ..

/-- Objects of which one is behind are different. -/
theorem Behind.ne {live : Headers} {replayed : List (Text × Text)} (behind : Behind live replayed) :
    live ≠ ones replayed := by
  rintro rfl
  rcases behind with ⟨name, -, old, longer, before, after, less⟩
  rw [ones, get_mapValues, after, Option.map_some, Option.some.injEq,
    HeaderValue.one.injEq] at before
  rw [before] at less
  exact Nat.lt_irrefl _ less

/-- A new name, or one whose values are joined, keeps the objects the same. -/
theorem addHeaderLine_ones {replayed : List (Text × Text)} {name : Text} (plain : Plain name)
    (joined : get name replayed ≠ none → name ∉ firstValueNames) (value : Text) :
    addHeaderLine (ones replayed) name value = ones (mergeLine replayed name value) := by
  unfold addHeaderLine mergeLine
  rw [ones, get_mapValues]
  cases found : get name replayed with
  | none =>
      simp only [Option.map_none, if_neg plain.1]
      exact (mapValues_set ..).symm
  | some old =>
      have other : name ∉ firstValueNames := joined (by rw [found]; exact Option.some_ne_none _)
      simp only [Option.map_some, if_neg other, if_neg plain.2]
      exact (mapValues_set ..).symm

/-- A repeated name whose first value is kept leaves the runtime behind. -/
theorem behind_of_repeated {replayed : List (Text × Text)} {name : Text}
    (among : name ∈ firstValueNames) {old : Text} (found : get name replayed = some old)
    (value : Text) :
    Behind (addHeaderLine (ones replayed) name value) (mergeLine replayed name value) := by
  have live : get name (ones replayed) = some (.one old) := by
    rw [ones, get_mapValues, found]
    rfl
  refine ⟨name, among, old, old ++ ", ".toList ++ value, ?_, ?_, ?_⟩
  · rw [addHeaderLine, live]
    dsimp only
    rw [if_pos among, live]
  · rw [mergeLine, found]
    exact get_set_self ..
  · have separator : (", ".toList).length = 2 := rfl
    simp only [List.length_append, separator]
    omega

/-- A line sets its own name and no other one. -/
theorem get_mergeLine_ne_none (replayed : List (Text × Text)) (name value other : Text) :
    get other (mergeLine replayed name value) ≠ none ↔
      other = name ∨ get other replayed ≠ none := by
  by_cases same : other = name
  · subst same
    unfold mergeLine
    split <;> simp
  · unfold mergeLine
    split <;> simp [get_set_ne same, same]

/-- A name that is not repeated can be put before others. -/
theorem single_cons {replayed : List (Text × Text)} {name : Text}
    (joined : get name replayed ≠ none → name ∉ firstValueNames) (value : Text)
    (names : List Text) :
    Single (mergeLine replayed name value) names ↔ Single replayed (name :: names) := by
  apply forall_congr'
  intro other
  apply imp_congr_right
  intro among
  rw [get_mergeLine_ne_none]
  by_cases same : other = name
  · subst same
    have absent : get other replayed = none := by
      by_contra present
      exact joined present among
    rw [absent, List.count_cons_self]
    constructor
    · rintro ⟨apart, -⟩
      have fresh := apart (.inl rfl)
      rw [List.count_eq_zero_of_not_mem fresh]
      exact ⟨fun present => absurd rfl present, le_rfl⟩
    · rintro ⟨-, once⟩
      have fresh : other ∉ names := List.count_eq_zero.mp (by omega)
      exact ⟨fun _ => fresh, by omega⟩
  · have apart : name ≠ other := fun equal => same equal.symm
    rw [List.count_cons_of_ne apart]
    simp [same]

/-- The objects of some fields are the same when no name whose first value is kept is repeated. -/
theorem foldl_eq_iff (fields : List (Text × Text)) (plain : ∀ field ∈ fields, Plain field.1)
    (replayed : List (Text × Text)) :
    fields.foldl (fun headers field => addHeaderLine headers field.1 field.2) (ones replayed) =
        ones (fields.foldl (fun headers field => mergeLine headers field.1 field.2) replayed) ↔
      Single replayed (fields.map Prod.fst) := by
  have behind (fields : List (Text × Text)) {live : Headers} {replayed : List (Text × Text)}
      (start : Behind live replayed) :
      Behind (fields.foldl (fun headers field => addHeaderLine headers field.1 field.2) live)
        (fields.foldl (fun headers field => mergeLine headers field.1 field.2) replayed) := by
    induction fields generalizing live replayed with
    | nil => exact start
    | cons field fields ih => exact ih (start.line field.1 field.2)
  induction fields generalizing replayed with
  | nil => simp [Single]
  | cons field fields ih =>
      have first := plain field (List.mem_cons_self ..)
      rw [List.foldl_cons, List.foldl_cons, List.map_cons]
      by_cases joined : get field.1 replayed ≠ none → field.1 ∉ firstValueNames
      · have rest := ih (fun other among => plain other (List.mem_cons_of_mem _ among))
          (mergeLine replayed field.1 field.2)
        rw [addHeaderLine_ones first joined]
        exact rest.trans (single_cons joined field.2 _)
      · rw [Classical.not_imp, not_not] at joined
        rcases joined with ⟨present, among⟩
        rcases Option.ne_none_iff_exists'.mp present with ⟨old, found⟩
        constructor
        · intro same
          exact absurd same (behind fields (behind_of_repeated among found field.2)).ne
        · intro single
          exact absurd (List.mem_cons_self ..) ((single field.1 among).1 present)

/-- The objects of the runtime and of the adapter are the same exactly when no name whose first
value is kept is repeated. -/
theorem liveHeaders_eq_iff (lower : Text → Text) (raw : List Text)
    (plain : ∀ field ∈ pairs raw, Plain (lower field.1)) :
    liveHeaders lower raw = ones (headerObject lower raw) ↔
      ∀ name ∈ firstValueNames, ((pairs raw).map fun field => lower field.1).count name ≤ 1 := by
  have lowered := foldl_eq_iff ((pairs raw).map fun field => (lower field.1, field.2))
    (by
      intro field among
      rcases List.mem_map.mp among with ⟨pair, inside, rfl⟩
      exact plain pair inside) []
  rw [List.foldl_map, List.foldl_map, List.map_map] at lowered
  rw [liveHeaders, headerObject]
  refine lowered.trans ?_
  constructor
  · exact fun single name among => (single name among).2
  · exact fun once name among => ⟨fun present => absurd rfl present, once name among⟩

end Node
end Http
end ReproItSdk
