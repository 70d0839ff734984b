import Mathlib.Data.List.AList
import Mathlib.Algebra.BigOperators.Group.List.Basic
import Mathlib.Algebra.Order.BigOperators.Group.List
import Mathlib.Algebra.Order.Group.Nat
import Mathlib.Algebra.GroupWithZero.Nat

/-! # Keyed tables and their totals

A keyed table is a finite map with at most one value for each key.  The tables of a program that
accounts for resources carry a second number, the total of a weight over their entries, and the
lemmas below say how each table operation moves that total.

Main results:

- Theorem {lit}`total_insert_of_lookup_none`: inserting a fresh key adds its weight.
- Theorem {lit}`total_erase_of_lookup`: erasing a present key takes its weight away.
- Theorems {lit}`Any.insert` and {lit}`Any.erase`: an entry with a property survives a change of
  another entry.
- Theorems {lit}`All.insert` and {lit}`All.erase`: a property of all entries survives a change of
  one entry that keeps it.
-/

/-- A finite map from keys to values. -/
abbrev KeyedTable (κ : Type*) (ν : Type*) : Type _ :=
  AList (fun _ : κ => ν)

namespace KeyedTable

variable {κ ν : Type*} [DecidableEq κ]

/-! ## Totals -/

/-- Sum of a weight over the entries of a table. -/
def total (weight : κ → ν → ℕ) (table : KeyedTable κ ν) : ℕ :=
  (table.entries.map fun entry => weight entry.1 entry.2).sum

/-- Number of entries of a table. -/
def size (table : KeyedTable κ ν) : ℕ :=
  table.entries.length

omit [DecidableEq κ] in
/-- The size is the total of the constant weight one. -/
theorem size_eq_total (table : KeyedTable κ ν) :
    size table = total (fun _ _ => 1) table := by
  simp [size, total]

omit [DecidableEq κ] in
/-- The empty table has total zero. -/
@[simp] theorem total_empty (weight : κ → ν → ℕ) :
    total weight (∅ : KeyedTable κ ν) = 0 :=
  rfl

omit [DecidableEq κ] in
/-- The empty table has no entries. -/
@[simp] theorem size_empty : size (∅ : KeyedTable κ ν) = 0 :=
  rfl

/-- A key that a table does not hold is erased without effect. -/
theorem erase_of_lookup_none {table : KeyedTable κ ν} {key : κ}
    (absent : table.lookup key = none) : table.erase key = table := by
  apply AList.ext
  exact List.kerase_of_notMem_keys (AList.lookup_eq_none.mp absent)

private theorem sum_kerase (weight : κ → ν → ℕ) (key : κ) :
    ∀ (entries : List (Sigma fun _ : κ => ν)) {value : ν},
      value ∈ List.dlookup key entries →
      ((List.kerase key entries).map fun entry => weight entry.1 entry.2).sum + weight key value =
        (entries.map fun entry => weight entry.1 entry.2).sum
  | [], _, present => by simp at present
  | ⟨key', value'⟩ :: entries, value, present => by
      by_cases same : key = key'
      · subst same
        simp only [List.dlookup_cons_eq, Option.mem_def, Option.some.injEq] at present
        subst present
        simp [List.kerase_cons_eq, Nat.add_comm]
      · rw [List.dlookup_cons_ne _ _ (by simpa using same)] at present
        have tail := sum_kerase weight key entries present
        rw [List.kerase_cons_ne (by simpa using same)]
        simp only [List.map_cons, List.sum_cons]
        omega

/-- Erasing a present key takes its weight out of the total. -/
theorem total_erase_of_lookup (weight : κ → ν → ℕ) {table : KeyedTable κ ν} {key : κ} {value : ν}
    (present : table.lookup key = some value) :
    total weight (table.erase key) + weight key value = total weight table :=
  sum_kerase weight key table.entries present

/-- Inserting a value replaces the weight of the key's old entry. -/
theorem total_insert (weight : κ → ν → ℕ) (table : KeyedTable κ ν) (key : κ) (value : ν) :
    total weight (table.insert key value) = weight key value + total weight (table.erase key) := by
  rw [total, AList.entries_insert, List.map_cons, List.sum_cons]
  rfl

/-- Inserting a fresh key adds its weight to the total. -/
theorem total_insert_of_lookup_none (weight : κ → ν → ℕ) {table : KeyedTable κ ν} {key : κ}
    (absent : table.lookup key = none) (value : ν) :
    total weight (table.insert key value) = weight key value + total weight table := by
  rw [total_insert, erase_of_lookup_none absent]

/-- Replacing the value of a present key exchanges the two weights. -/
theorem total_insert_of_lookup (weight : κ → ν → ℕ) {table : KeyedTable κ ν} {key : κ} {old : ν}
    (present : table.lookup key = some old) (value : ν) :
    total weight (table.insert key value) + weight key old =
      total weight table + weight key value := by
  have erased := total_erase_of_lookup weight present
  rw [total_insert]
  omega

/-- The weight of a present entry is part of the total. -/
theorem weight_le_total (weight : κ → ν → ℕ) {table : KeyedTable κ ν} {key : κ} {value : ν}
    (present : table.lookup key = some value) :
    weight key value ≤ total weight table := by
  have erased := total_erase_of_lookup weight present
  omega

/-- A table is empty exactly when its size is zero. -/
theorem size_eq_zero_iff (table : KeyedTable κ ν) :
    size table = 0 ↔ ∀ key, table.lookup key = none := by
  constructor
  · intro empty key
    have entries : table.entries = [] := List.length_eq_zero_iff.mp empty
    simp [AList.lookup, entries]
  · intro absent
    by_contra nonempty
    obtain ⟨entry, member⟩ := List.exists_mem_of_length_pos (Nat.pos_of_ne_zero nonempty)
    have present : entry.1 ∈ table := List.mem_map_of_mem member
    exact (AList.lookup_eq_none.mp (absent entry.1)) present

/-- Inserting a fresh key makes a table one entry larger. -/
theorem size_insert_of_lookup_none {table : KeyedTable κ ν} {key : κ}
    (absent : table.lookup key = none) (value : ν) :
    size (table.insert key value) = size table + 1 := by
  rw [size_eq_total, size_eq_total, total_insert_of_lookup_none _ absent, Nat.add_comm]

/-- Replacing the value of a present key keeps the size. -/
theorem size_insert_of_lookup {table : KeyedTable κ ν} {key : κ} {old : ν}
    (present : table.lookup key = some old) (value : ν) :
    size (table.insert key value) = size table := by
  have moved := total_insert_of_lookup (fun _ _ => 1) present value
  rw [size_eq_total, size_eq_total]
  omega

/-- Erasing a present key makes a table one entry smaller. -/
theorem size_erase_of_lookup {table : KeyedTable κ ν} {key : κ} {value : ν}
    (present : table.lookup key = some value) :
    size (table.erase key) + 1 = size table := by
  rw [size_eq_total, size_eq_total]
  exact total_erase_of_lookup (fun _ _ => 1) present

/-- What is left after an erasure was there, under another key. -/
theorem lookup_erase_eq_some {table : KeyedTable κ ν} {key other : κ} {value : ν} :
    (table.erase key).lookup other = some value ↔
      table.lookup other = some value ∧ other ≠ key := by
  by_cases same : other = key
  · subst same
    simp [AList.lookup_erase]
  · simp [AList.lookup_erase_ne same, same]

/-- Erasing never makes a table larger. -/
theorem size_erase_le (table : KeyedTable κ ν) (key : κ) :
    size (table.erase key) ≤ size table := by
  cases present : table.lookup key with
  | none => rw [erase_of_lookup_none present]
  | some value =>
      have smaller := size_erase_of_lookup present
      omega

/-- Inserting a value adds one entry at most. -/
theorem size_insert_le (table : KeyedTable κ ν) (key : κ) (value : ν) :
    size (table.insert key value) ≤ size table + 1 := by
  have erased := size_erase_le table key
  rw [size_eq_total, total_insert, ← size_eq_total]
  omega

/-- A key is in a table after an insertion if it was there or is the new one. -/
theorem isSome_lookup_insert (table : KeyedTable κ ν) (key other : κ) (value : ν) :
    ((table.insert key value).lookup other).isSome = true ↔
      (table.lookup other).isSome = true ∨ other = key := by
  by_cases same : other = key
  · subst same
    simp [AList.lookup_insert]
  · simp [AList.lookup_insert_ne same, same]

/-! ## All entries at once -/

section Bulk

omit [DecidableEq κ] in
/-- Entries with mapped values have the same keys. -/
theorem keys_mapValues {μ : Type*} (change : κ → ν → μ) (entries : List (Sigma fun _ : κ => ν)) :
    (entries.map fun entry => (⟨entry.1, change entry.1 entry.2⟩ : Sigma fun _ : κ => μ)).keys =
      entries.keys := by
  rw [List.keys, List.keys, List.map_map]
  rfl

/-- Change every value of a table. -/
def mapValues {μ : Type*} (change : κ → ν → μ) (table : KeyedTable κ ν) : KeyedTable κ μ where
  entries := table.entries.map fun entry => ⟨entry.1, change entry.1 entry.2⟩
  nodupKeys := by
    rw [List.NodupKeys, keys_mapValues]
    exact table.nodupKeys

/-- Keep the entries with a property, as {lit}`retain` does. -/
def retain (keep : κ → ν → Bool) (table : KeyedTable κ ν) : KeyedTable κ ν where
  entries := table.entries.filter fun entry => keep entry.1 entry.2
  nodupKeys := table.nodupKeys.sublist List.filter_sublist

/-- Every value is changed where it stands. -/
@[simp] theorem lookup_mapValues {μ : Type*} (change : κ → ν → μ) (table : KeyedTable κ ν)
    (key : κ) : (mapValues change table).lookup key = (table.lookup key).map (change key) :=
  List.dlookup_map₂ key

/-- An entry is kept if it has the property. -/
theorem lookup_retain (keep : κ → ν → Bool) (table : KeyedTable κ ν) (key : κ) :
    (retain keep table).lookup key = (table.lookup key).filter (keep key) := by
  ext value
  rw [Option.filter_eq_some_iff, ← Option.mem_def, ← Option.mem_def, AList.lookup, AList.lookup,
    List.mem_dlookup_iff (retain keep table).nodupKeys, List.mem_dlookup_iff table.nodupKeys]
  exact List.mem_filter

/-- A kept entry was there and has the property. -/
theorem lookup_retain_eq_some {keep : κ → ν → Bool} {table : KeyedTable κ ν} {key : κ}
    {value : ν} : (retain keep table).lookup key = some value ↔
      table.lookup key = some value ∧ keep key value = true := by
  rw [lookup_retain, Option.filter_eq_some_iff]

omit [DecidableEq κ] in
/-- Keeping some entries does not add any. -/
theorem size_retain_le (keep : κ → ν → Bool) (table : KeyedTable κ ν) :
    size (retain keep table) ≤ size table :=
  List.length_filter_le _ _

end Bulk

/-! ## Some entry and all entries -/

/-- Some entry of a table has a property. -/
def Any (property : ν → Prop) (table : KeyedTable κ ν) : Prop :=
  ∃ key value, table.lookup key = some value ∧ property value

/-- All entries of a table have a property. -/
def All (property : κ → ν → Prop) (table : KeyedTable κ ν) : Prop :=
  ∀ key value, table.lookup key = some value → property key value

section AnyAll

variable {property : ν → Prop} {relation : κ → ν → Prop} {table : KeyedTable κ ν} {key : κ}

/-- Inserting a value with the property. -/
theorem any_insert_self {value : ν} (holds : property value) :
    Any property (table.insert key value) :=
  ⟨key, value, AList.lookup_insert _, holds⟩

/-- Inserting a fresh key keeps the other entries. -/
theorem Any.insert_of_lookup_none (any : Any property table) (absent : table.lookup key = none)
    (value : ν) : Any property (table.insert key value) := by
  obtain ⟨other, found, present, holds⟩ := any
  have different : other ≠ key := by
    rintro rfl
    rw [absent] at present
    cases present
  exact ⟨other, found, (AList.lookup_insert_ne different).trans present, holds⟩

/-- Replacing a value by one that keeps the property. -/
theorem Any.insert {old value : ν} (any : Any property table) (present : table.lookup key = some old)
    (keeps : property old → property value) : Any property (table.insert key value) := by
  obtain ⟨other, found, lookup, holds⟩ := any
  by_cases same : other = key
  · subst same
    cases present.symm.trans lookup
    exact any_insert_self (keeps holds)
  · exact ⟨other, found, (AList.lookup_insert_ne same).trans lookup, holds⟩

/-- Erasing an entry without the property. -/
theorem Any.erase {old : ν} (any : Any property table) (present : table.lookup key = some old)
    (fails : ¬ property old) : Any property (table.erase key) := by
  obtain ⟨other, found, lookup, holds⟩ := any
  have different : other ≠ key := by
    rintro rfl
    cases present.symm.trans lookup
    exact fails holds
  exact ⟨other, found, (AList.lookup_erase_ne different).trans lookup, holds⟩

/-- All entries of the empty table have any property. -/
theorem all_empty : All relation (∅ : KeyedTable κ ν) := by
  intro key value present
  simp at present

/-- Inserting a value with the property of all entries. -/
theorem All.insert {value : ν} (all : All relation table) (holds : relation key value) :
    All relation (table.insert key value) := by
  intro other found present
  by_cases same : other = key
  · subst same
    rw [AList.lookup_insert] at present
    cases present
    exact holds
  · rw [AList.lookup_insert_ne same] at present
    exact all other found present

/-- A property of all entries that implies another. -/
theorem All.mono {weaker : κ → ν → Prop} (all : All relation table)
    (implies : ∀ key value, relation key value → weaker key value) : All weaker table :=
  fun key value present => implies key value (all key value present)

/-- Erasing an entry keeps a property of all entries. -/
theorem All.erase (all : All relation table) (key : κ) : All relation (table.erase key) := by
  intro other found present
  by_cases same : other = key
  · subst same
    rw [AList.lookup_erase] at present
    cases present
  · rw [AList.lookup_erase_ne same] at present
    exact all other found present

end AnyAll

section Comparison

variable {μ : Type*} {weight : κ → ν → ℕ} {weight' : κ → μ → ℕ} {table : KeyedTable κ ν}
  {table' : KeyedTable κ μ}

/-- A table whose weights another one has as well is no heavier. -/
theorem total_le_of_lookup (has : ∀ key value, table.lookup key = some value →
      ∃ value', table'.lookup key = some value' ∧ weight' key value' = weight key value) :
    total weight table ≤ total weight' table' := by
  have subset : (mapValues weight table).entries ⊆ (mapValues weight' table').entries := by
    rintro ⟨key, bytes⟩ member
    have present := AList.mem_lookup_iff.mpr member
    rw [lookup_mapValues, Option.mem_def, Option.map_eq_some_iff] at present
    rcases present with ⟨value, found, rfl⟩
    rcases has key value found with ⟨value', found', same⟩
    apply AList.mem_lookup_iff.mp
    rw [lookup_mapValues, found', Option.map_some, same, Option.mem_def]
  rcases List.subperm_of_subset (mapValues weight table).nodupKeys.nodup subset with
    ⟨entries, same, inside⟩
  have sums := (inside.map Sigma.snd).sum_le_sum fun _ _ => Nat.zero_le _
  rw [(same.map Sigma.snd).sum_eq] at sums
  simpa only [mapValues, List.map_map, Function.comp_def, total] using sums

/-- With an entry that is missing here, the other one is heavier by its weight. -/
theorem total_add_le_of_lookup (weight : κ → ν → ℕ) (weight' : κ → μ → ℕ) {key : κ} {value : μ}
    (absent : table.lookup key = none)
    (present : table'.lookup key = some value)
    (has : ∀ key value, table.lookup key = some value →
      ∃ value', table'.lookup key = some value' ∧ weight' key value' = weight key value) :
    total weight table + weight' key value ≤ total weight' table' := by
  have erased := total_erase_of_lookup weight' present
  have rest : total weight table ≤ total weight' (table'.erase key) := by
    apply total_le_of_lookup
    intro other found there
    have apart : other ≠ key := by
      rintro rfl
      cases absent.symm.trans there
    rcases has other found there with ⟨value', there', same⟩
    exact ⟨value', lookup_erase_eq_some.mpr ⟨there', apart⟩, same⟩
  omega

/-- Tables with the same weights are as heavy as each other. -/
theorem total_eq_of_lookup
    (same : ∀ key, (table.lookup key).map (weight key) = (table'.lookup key).map (weight' key)) :
    total weight table = total weight' table' := by
  apply Nat.le_antisymm
  · apply total_le_of_lookup
    intro key value found
    have there := same key
    rw [found, Option.map_some, eq_comm, Option.map_eq_some_iff] at there
    exact there
  · apply total_le_of_lookup
    intro key value found
    have there := same key
    rw [found, Option.map_some, Option.map_eq_some_iff] at there
    exact there

end Comparison
end KeyedTable
