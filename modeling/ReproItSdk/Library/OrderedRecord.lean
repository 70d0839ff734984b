import Mathlib.Data.List.Basic

/-! # Ordered records

A record as the list of its keys and values in the order in which the keys were first set.

Main results:

- Theorems {lit}`get_set_self` and {lit}`get_set_ne`: what a record holds after a key is set.
- Theorem {lit}`mapValues_set`: changed values are set the same way.
- Theorem {lit}`nodup_set`: keys stay distinct.
-/

namespace OrderedRecord

variable {κ α β : Type*} [DecidableEq κ]

/-- The value of a key. -/
def get (key : κ) : List (κ × α) → Option α
  | [] => none
  | (other, value) :: rest => if other = key then some value else get key rest

/-- The record with a value for a key, at the end when the key is new. -/
def set (key : κ) (value : α) : List (κ × α) → List (κ × α)
  | [] => [(key, value)]
  | (other, old) :: rest =>
      if other = key then (other, value) :: rest else (other, old) :: set key value rest

attribute [local simp] get set

/-- A record with every value changed. -/
def mapValues (change : α → β) (record : List (κ × α)) : List (κ × β) :=
  record.map fun entry => (entry.1, change entry.2)

/-- A key that is set has its value. -/
@[simp] theorem get_set_self (key : κ) (value : α) (record : List (κ × α)) :
    get key (set key value record) = some value := by
  induction record with
  | nil => simp [set, get]
  | cons entry record ih =>
      rcases entry with ⟨other, old⟩
      by_cases same : other = key
      · simp [set, get, same]
      · simp [set, get, same, ih]

/-- Other keys keep their values. -/
theorem get_set_ne {key other : κ} (apart : other ≠ key) (value : α) (record : List (κ × α)) :
    get other (set key value record) = get other record := by
  induction record with
  | nil => simp [set, get, Ne.symm apart]
  | cons entry record ih =>
      rcases entry with ⟨first, old⟩
      by_cases same : first = key
      · subst same
        simp [set, get, Ne.symm apart]
      · by_cases here : first = other
        · subst here
          simp [set, get, same]
        · simp [set, get, same, here, ih]

/-- The value of a key after all values are changed. -/
theorem get_mapValues (change : α → β) (key : κ) (record : List (κ × α)) :
    get key (mapValues change record) = (get key record).map change := by
  induction record with
  | nil => rfl
  | cons entry record ih =>
      rcases entry with ⟨other, old⟩
      by_cases same : other = key
      · simp [mapValues, get, same]
      · simpa [mapValues, get, same] using ih

/-- Changed values are set the same way. -/
theorem mapValues_set (change : α → β) (key : κ) (value : α) (record : List (κ × α)) :
    mapValues change (set key value record) = set key (change value) (mapValues change record) := by
  induction record with
  | nil => rfl
  | cons entry record ih =>
      rcases entry with ⟨other, old⟩
      by_cases same : other = key
      · simp [mapValues, set, same]
      · simpa [mapValues, set, same] using ih

/-- The keys after one is set. -/
theorem keys_set (key : κ) (value : α) (record : List (κ × α)) :
    (set key value record).map Prod.fst =
      if key ∈ record.map Prod.fst then record.map Prod.fst else record.map Prod.fst ++ [key] := by
  induction record with
  | nil => simp [set]
  | cons entry record ih =>
      rcases entry with ⟨other, old⟩
      by_cases same : other = key
      · simp [set, same]
      · rw [set, if_neg same, List.map_cons, ih]
        by_cases among : key ∈ record.map Prod.fst
        · simp [among]
        · simp [among, Ne.symm same]

/-- Keys stay distinct. -/
theorem nodup_set (key : κ) (value : α) {record : List (κ × α)}
    (distinct : (record.map Prod.fst).Nodup) : ((set key value record).map Prod.fst).Nodup := by
  rw [keys_set]
  split
  · exact distinct
  · rename_i fresh
    rw [List.nodup_append]
    refine ⟨distinct, by simp, ?_⟩
    rintro other among _ (last : _ ∈ [key]) rfl
    exact fresh (List.mem_singleton.mp last ▸ among)

/-- A key that is set is in the record with its value. -/
theorem mem_set_self (key : κ) (value : α) (record : List (κ × α)) :
    (key, value) ∈ set key value record := by
  induction record with
  | nil => simp [set]
  | cons entry record ih =>
      rcases entry with ⟨other, old⟩
      by_cases same : other = key
      · simp [set, same]
      · simp [set, same, ih]

/-- What is in a record after a key is set was in it before or is set. -/
theorem mem_set {key : κ} {value : α} {record : List (κ × α)} {entry : κ × α}
    (among : entry ∈ set key value record) : entry ∈ record ∨ entry = (key, value) := by
  induction record with
  | nil => exact .inr (List.mem_singleton.mp among)
  | cons first record ih =>
      rcases first with ⟨other, old⟩
      by_cases same : other = key
      · subst same
        rw [set, if_pos rfl] at among
        rcases List.mem_cons.mp among with rfl | later
        · exact .inr rfl
        · exact .inl (.tail _ later)
      · rw [set, if_neg same] at among
        rcases List.mem_cons.mp among with rfl | later
        · exact .inl (.head _)
        · exact (ih later).imp (.tail _) id

/-- Other entries stay in the record. -/
theorem mem_set_of_ne {key : κ} {value : α} {record : List (κ × α)} {entry : κ × α}
    (apart : entry.1 ≠ key) (among : entry ∈ record) : entry ∈ set key value record := by
  induction record with
  | nil => cases among
  | cons first record ih =>
      rcases first with ⟨other, old⟩
      by_cases same : other = key
      · rcases List.mem_cons.mp among with rfl | later
        · exact absurd same apart
        · simp [set, same, later]
      · rcases List.mem_cons.mp among with rfl | later
        · simp [set, same]
        · simp [set, same, ih later]

/-- Only the keys of a record have a value. -/
theorem get_eq_none {key : κ} {record : List (κ × α)} (absent : key ∉ record.map Prod.fst) :
    get key record = none := by
  induction record with
  | nil => rfl
  | cons entry record ih =>
      rw [List.map_cons, List.mem_cons, not_or] at absent
      rw [get, if_neg (Ne.symm absent.1), ih absent.2]

/-- The keys of a record have a value. -/
theorem isSome_get {key : κ} {record : List (κ × α)} (among : key ∈ record.map Prod.fst) :
    (get key record).isSome = true := by
  induction record with
  | nil => cases among
  | cons entry record ih =>
      rcases entry with ⟨other, value⟩
      by_cases same : other = key
      · simp [get, same]
      · rw [List.map_cons, List.mem_cons] at among
        rw [get, if_neg same]
        exact ih (among.resolve_left (Ne.symm same))

/-- The value of a key is the one that stands with it, where keys are distinct. -/
theorem get_eq_some_iff {key : κ} {value : α} {record : List (κ × α)}
    (distinct : (record.map Prod.fst).Nodup) :
    get key record = some value ↔ (key, value) ∈ record := by
  induction record with
  | nil => simp [get]
  | cons entry record ih =>
      rcases entry with ⟨other, old⟩
      rw [List.map_cons, List.nodup_cons] at distinct
      by_cases same : other = key
      · subst same
        have absent : (other, value) ∉ record := fun among =>
          distinct.1 (List.mem_map.mpr ⟨_, among, rfl⟩)
        simp [get, absent, eq_comm]
      · simp [get, same, Ne.symm same, ih distinct.2]

/-- The order of a record with distinct keys does not matter for the values of its keys. -/
theorem get_perm {record others : List (κ × α)} (perm : record.Perm others)
    (distinct : (record.map Prod.fst).Nodup) (key : κ) : get key record = get key others := by
  have distinct' : (others.map Prod.fst).Nodup := (perm.map Prod.fst).nodup_iff.mp distinct
  apply Option.ext
  intro value
  rw [get_eq_some_iff distinct, get_eq_some_iff distinct', perm.mem_iff]

/-! ## Groups -/

/-- The record with another value for a key, behind those the key has. -/
def add (key : κ) (value : α) (record : List (κ × List α)) : List (κ × List α) :=
  set key ((get key record).getD [] ++ [value]) record

/-- The values of some entries by their keys, each key where it comes first. -/
def grouped (entries : List (κ × α)) : List (κ × List α) :=
  entries.foldl (fun record entry => add entry.1 entry.2 record) []

/-- The values of a key after some entries are added. -/
theorem get_foldl_add (key : κ) (entries : List (κ × α)) (record : List (κ × List α)) :
    get key (entries.foldl (fun record entry => add entry.1 entry.2 record) record) =
      if key ∈ entries.map Prod.fst then
        some ((get key record).getD [] ++ (entries.filter (·.1 = key)).map Prod.snd)
      else get key record := by
  induction entries generalizing record with
  | nil => simp
  | cons entry entries ih =>
      rcases entry with ⟨first, value⟩
      rw [List.foldl_cons, ih]
      by_cases same : first = key
      · subst same
        by_cases among : first ∈ entries.map Prod.fst
        · simp [among, add]
        · have none : entries.filter (·.1 = first) = [] := by
            rw [List.filter_eq_nil_iff]
            intro other inside equal
            exact among (List.mem_map.mpr ⟨other, inside, by simpa using equal⟩)
          rw [if_neg among]
          simp [add, none]
      · rw [add, get_set_ne (Ne.symm same)]
        have keys : key ∈ ((first, value) :: entries).map Prod.fst ↔
            key ∈ entries.map Prod.fst := by
          rw [List.map_cons, List.mem_cons, or_iff_right (Ne.symm same)]
        have held : ((first, value) :: entries).filter (·.1 = key) =
            entries.filter (·.1 = key) := by
          rw [List.filter_cons, if_neg (by simpa using same)]
        rw [held]
        exact (if_congr keys rfl rfl).symm

/-- The values of a key among some entries. -/
theorem get_grouped (key : κ) (entries : List (κ × α)) :
    get key (grouped entries) =
      if key ∈ entries.map Prod.fst then some ((entries.filter (·.1 = key)).map Prod.snd)
      else none := by
  rw [grouped, get_foldl_add]
  rfl

/-- Grouped keys are distinct. -/
theorem nodup_grouped (entries : List (κ × α)) : ((grouped entries).map Prod.fst).Nodup := by
  have general (record : List (κ × List α)) (distinct : (record.map Prod.fst).Nodup) :
      ((entries.foldl (fun record entry => add entry.1 entry.2 record) record).map
        Prod.fst).Nodup := by
    induction entries generalizing record with
    | nil => exact distinct
    | cons entry entries ih => exact ih _ (nodup_set _ _ distinct)
  exact general [] List.nodup_nil

end OrderedRecord
