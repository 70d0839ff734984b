import Mathlib.Data.List.Sort
import Mathlib.Data.List.Lex
import Mathlib.Data.List.Pairwise
import Mathlib.Algebra.Order.BigOperators.Group.List
import Mathlib.Algebra.Order.Ring.Nat
import ReproItSdk.Library.Unicode

/-! # JSON documents and their texts

A document is a tree whose objects list their members in the order of its text.  Sorting the members
by a code of their keys gives a canonical document; a text is written with some way to quote
strings.

Main results:

- Theorem {lit}`sortBy_congr`: codes that order the items of a list the same way sort it the same way.
- Theorem {lit}`sorted_eq_sorted_iff`: two codes of keys sort a document the same way exactly when
  they order the keys of its objects the same way.
- Theorem {lit}`renderWith_eq_iff`: two ways to quote give one text exactly when they agree on the
  strings of the document.
-/

namespace Json

open Unicode

/-- A document over numbers of some kind. -/
inductive Document (ν : Type) where
  | null
  | bool (value : Bool)
  | number (value : ν)
  | string (text : Text)
  | array (elements : List (Document ν))
  | object (members : List (Text × Document ν))

/-! ## Sorting by a code -/

section Sorting

variable {α β γ δ : Type*} [LinearOrder γ] [LinearOrder δ]

/-- Sorts a list by a code of its items. -/
def sortBy (code : α → γ) (items : List α) : List α :=
  items.insertionSort fun left right => code left ≤ code right

/-- Sorted items are the same items. -/
theorem sortBy_perm (code : α → γ) (items : List α) : (sortBy code items).Perm items :=
  List.perm_insertionSort _ items

@[simp] theorem mem_sortBy {code : α → γ} {items : List α} {item : α} :
    item ∈ sortBy code items ↔ item ∈ items :=
  (sortBy_perm code items).mem_iff

/-- The codes of sorted items go up. -/
theorem pairwise_sortBy (code : α → γ) (items : List α) :
    (sortBy code items).Pairwise fun left right => code left ≤ code right := by
  have total : Std.Total fun left right => code left ≤ code right :=
    ⟨fun left right => le_total (code left) (code right)⟩
  have transitive : IsTrans α fun left right => code left ≤ code right :=
    ⟨fun _ _ _ => le_trans⟩
  exact List.pairwise_insertionSort _ items

/-- The keys of sorted members are the sorted keys. -/
theorem keys_sortBy (code : α → γ) (members : List (α × β)) :
    (sortBy (fun member => code member.1) members).map Prod.fst =
      sortBy code (members.map Prod.fst) :=
  List.map_insertionSort _ _ _ members fun _ _ _ _ => Iff.rfl

/-- Sorting commutes with a change of the values. -/
theorem map_sortBy_members {ε : Type*} (code : α → γ) (change : β → ε) (members : List (α × β)) :
    (sortBy (fun member => code member.1) members).map (fun member => (member.1, change member.2)) =
      sortBy (fun member => code member.1)
        (members.map fun member => (member.1, change member.2)) :=
  List.map_insertionSort _ _ _ members fun _ _ _ _ => Iff.rfl

/-- Two codes order some items the same way. -/
def Agree (code : α → γ) (code' : α → δ) (items : List α) : Prop :=
  ∀ left ∈ items, ∀ right ∈ items, code left < code right → code' left < code' right

/-- Sorting finds the one order in which the codes go up, where they are different. -/
theorem sortBy_eq_of_pairwise {code : α → γ} {items others : List α} (perm : items.Perm others)
    (apart : ∀ left ∈ items, ∀ right ∈ items, code left = code right → left = right)
    (up : others.Pairwise fun left right => code left ≤ code right) :
    sortBy code items = others := by
  refine List.Perm.eq_of_pairwise (fun left right here there below above => ?_)
    (pairwise_sortBy code items) up ((sortBy_perm code items).trans perm)
  exact apart left (mem_sortBy.mp here) right (perm.mem_iff.mpr there) (le_antisymm below above)

/-- The order of items with different codes does not matter. -/
theorem sortBy_eq_of_perm {code : α → γ} {items others : List α} (perm : items.Perm others)
    (apart : ∀ left ∈ items, ∀ right ∈ items, code left = code right → left = right) :
    sortBy code items = sortBy code others :=
  sortBy_eq_of_pairwise (perm.trans (sortBy_perm code others).symm) apart
    (pairwise_sortBy code others)

/-- Codes that order the items of a list the same way sort it the same way. -/
theorem sortBy_congr {code : α → γ} {code' : α → δ} {items : List α}
    (apart : ∀ left ∈ items, ∀ right ∈ items, code left = code right → left = right)
    (apart' : ∀ left ∈ items, ∀ right ∈ items, code' left = code' right → left = right)
    (agree : Agree code code' items) : sortBy code items = sortBy code' items := by
  have sorted : (sortBy code items).Pairwise fun left right => code' left ≤ code' right := by
    refine (pairwise_sortBy code items).imp_of_mem fun {left right} here there below => ?_
    rw [mem_sortBy] at here there
    rcases below.lt_or_eq with less | equal
    · exact (agree left here right there less).le
    · rw [apart left here right there equal]
  refine List.Perm.eq_of_pairwise (fun left right here there below above => ?_) sorted
    (pairwise_sortBy code' items) ((sortBy_perm code items).trans (sortBy_perm code' items).symm)
  exact apart' left (mem_sortBy.mp here) right (mem_sortBy.mp there) (le_antisymm below above)

/-- Codes that sort a list the same way order its items the same way. -/
theorem agree_of_sortBy_eq {code : α → γ} {code' : α → δ} {items : List α}
    (apart' : ∀ left ∈ items, ∀ right ∈ items, code' left = code' right → left = right)
    (same : sortBy code items = sortBy code' items) : Agree code code' items := by
  intro left here right there less
  have pairs : (sortBy code items).Pairwise fun left right =>
      (code left < code right → code' left ≤ code' right) ∧
        (code right < code left → code' right ≤ code' left) := by
    have sorted' := pairwise_sortBy code' items
    rw [← same] at sorted'
    refine (pairwise_sortBy code items).imp₂ (fun _ _ below below' => ?_) sorted'
    exact ⟨fun _ => below', fun above => absurd above below.not_gt⟩
  have symmetric : Std.Symm fun left right =>
      (code left < code right → code' left ≤ code' right) ∧
        (code right < code left → code' right ≤ code' left) :=
    ⟨fun _ _ both => ⟨both.2, both.1⟩⟩
  have all := List.Pairwise.forall_of_forall (fun _ _ => by simp) pairs
    (mem_sortBy.mpr here) (mem_sortBy.mpr there)
  refine (all.1 less).lt_of_ne fun equal => ?_
  rw [apart' left here right there equal] at less
  exact lt_irrefl _ less

end Sorting

/-! ## Induction and predicates -/

/-- Proves a property of a document from its parts. -/
theorem Document.induction {ν : Type} {motive : Document ν → Prop} (null : motive .null)
    (bool : ∀ value, motive (.bool value)) (number : ∀ value, motive (.number value))
    (string : ∀ text, motive (.string text))
    (array : ∀ elements, (∀ element ∈ elements, motive element) → motive (.array elements))
    (object : ∀ members, (∀ member ∈ members, motive member.2) → motive (.object members))
    (tree : Document ν) : motive tree := by
  refine @Document.rec ν motive (fun elements => ∀ element ∈ elements, motive element)
    (fun members => ∀ member ∈ members, motive member.2) (fun member => motive member.2)
    null bool number string array object (by simp) (fun first rest here later => ?_) (by simp)
    (fun first rest here later => ?_) (fun _ _ here => here) tree
  · simpa using ⟨here, later⟩
  · rintro member among
    rcases List.mem_cons.mp among with rfl | further
    · exact here
    · exact later member further

variable {ν μ : Type}

/-- Every number, every string and every list of keys of a document has a property. -/
inductive Document.All (number : ν → Prop) (text : Text → Prop) (keys : List Text → Prop) :
    Document ν → Prop
  | null : All number text keys .null
  | bool (value : Bool) : All number text keys (.bool value)
  | number (value : ν) (holds : number value) : All number text keys (.number value)
  | string (content : Text) (holds : text content) : All number text keys (.string content)
  | array (elements : List (Document ν))
      (inside : ∀ element ∈ elements, All number text keys element) :
      All number text keys (.array elements)
  | object (members : List (Text × Document ν)) (holds : keys (members.map Prod.fst))
      (named : ∀ member ∈ members, text member.1)
      (inside : ∀ member ∈ members, All number text keys member.2) :
      All number text keys (.object members)

namespace Document

section All

variable {number : ν → Prop} {text : Text → Prop} {keys : List Text → Prop}

@[simp] theorem all_null : All number text keys .null :=
  .null

@[simp] theorem all_bool (value : Bool) : All number text keys (.bool value) :=
  .bool value

@[simp] theorem all_number {value : ν} : All number text keys (.number value) ↔ number value :=
  ⟨fun all => by cases all; assumption, .number value⟩

@[simp] theorem all_string {content : Text} :
    All number text keys (.string content) ↔ text content :=
  ⟨fun all => by cases all; assumption, .string content⟩

@[simp] theorem all_array {elements : List (Document ν)} :
    All number text keys (.array elements) ↔
      ∀ element ∈ elements, All number text keys element :=
  ⟨fun all => by cases all; assumption, .array elements⟩

@[simp] theorem all_object {members : List (Text × Document ν)} :
    All number text keys (.object members) ↔ keys (members.map Prod.fst) ∧
      (∀ member ∈ members, text member.1) ∧
      ∀ member ∈ members, All number text keys member.2 :=
  ⟨fun all => by cases all; exact ⟨‹_›, ‹_›, ‹_›⟩,
    fun parts => .object members parts.1 parts.2.1 parts.2.2⟩

/-- Properties that follow from others. -/
theorem All.mono {number' : ν → Prop} {text' : Text → Prop} {keys' : List Text → Prop}
    (numbers : ∀ value, number value → number' value) (texts : ∀ content, text content → text' content)
    (lists : ∀ names, keys names → keys' names) {tree : Document ν} (all : All number text keys tree) :
    All number' text' keys' tree := by
  induction all with
  | null => exact .null
  | bool value => exact .bool value
  | number value holds => exact .number value (numbers value holds)
  | string content holds => exact .string content (texts content holds)
  | array elements _ ih => exact .array elements ih
  | object members holds named _ ih =>
      exact .object members (lists _ holds) (fun member among => texts _ (named member among)) ih

/-- Two facts about all parts of a document. -/
theorem All.and {number' : ν → Prop} {text' : Text → Prop} {keys' : List Text → Prop}
    {tree : Document ν} (all : All number text keys tree) (also : All number' text' keys' tree) :
    All (fun value => number value ∧ number' value) (fun content => text content ∧ text' content)
      (fun names => keys names ∧ keys' names) tree := by
  induction all with
  | null => exact .null
  | bool value => exact .bool value
  | number value holds => exact .number value ⟨holds, all_number.mp also⟩
  | string content holds => exact .string content ⟨holds, all_string.mp also⟩
  | array elements _ ih =>
      exact .array elements fun element among => ih element among (all_array.mp also element among)
  | object members holds named _ ih =>
      obtain ⟨holds', named', inside⟩ := all_object.mp also
      exact .object members ⟨holds, holds'⟩
        (fun member among => ⟨named member among, named' member among⟩)
        fun member among => ih member among (inside member among)

end All

/-! ## Changes of a document -/

mutual

/-- Changes every number of a document. -/
def map (change : ν → μ) : Document ν → Document μ
  | .null => .null
  | .bool value => .bool value
  | .number value => .number (change value)
  | .string text => .string text
  | .array elements => .array (mapElements change elements)
  | .object members => .object (mapMembers change members)

/-- Changes every number of the elements of an array. -/
def mapElements (change : ν → μ) : List (Document ν) → List (Document μ)
  | [] => []
  | first :: rest => first.map change :: mapElements change rest

/-- Changes every number of the members of an object. -/
def mapMembers (change : ν → μ) : List (Text × Document ν) → List (Text × Document μ)
  | [] => []
  | (key, value) :: rest => (key, value.map change) :: mapMembers change rest

end

theorem mapElements_eq (change : ν → μ) (elements : List (Document ν)) :
    mapElements change elements = elements.map (map change) := by
  induction elements with
  | nil => rfl
  | cons first rest ih => rw [mapElements, ih, List.map_cons]

theorem mapMembers_eq (change : ν → μ) (members : List (Text × Document ν)) :
    mapMembers change members = members.map fun member => (member.1, member.2.map change) := by
  induction members with
  | nil => rfl
  | cons first rest ih => rw [mapMembers, ih, List.map_cons]

/-- What holds of a document with changed numbers. -/
theorem all_map {number : μ → Prop} {text : Text → Prop} {keys : List Text → Prop}
    (change : ν → μ) (tree : Document ν) :
    All number text keys (tree.map change) ↔
      All (fun value => number (change value)) text keys tree := by
  induction tree using Document.induction with
  | array elements ih =>
      simp only [map, mapElements_eq, all_array, List.forall_mem_map]
      exact forall₂_congr ih
  | object members ih =>
      simp only [map, mapMembers_eq, all_object, List.forall_mem_map, List.map_map,
        Function.comp_def]
      exact and_congr Iff.rfl (and_congr Iff.rfl (forall₂_congr ih))
  | _ => simp [map]

/-- Lists with the same images are the same when no item of the first one shares its image. -/
theorem eq_of_map_eq {α β : Type*} {change : α → β} {left right : List α}
    (apart : ∀ item ∈ left, ∀ other, change item = change other → item = other)
    (same : left.map change = right.map change) : left = right := by
  induction left generalizing right with
  | nil => simpa using same.symm
  | cons item left ih =>
      cases right with
      | nil => simp at same
      | cons other right =>
          rw [List.map_cons, List.map_cons, List.cons.injEq] at same
          rw [apart item (by simp) other same.1,
            ih (fun item among => apart item (List.mem_cons_of_mem _ among)) same.2]

/-- Different numbers stay different in a document. -/
theorem map_injective {change : ν → μ} (injective : Function.Injective change) :
    Function.Injective (map change) := by
  intro left
  induction left using Document.induction with
  | null => intro right same; cases right <;> simp_all [map]
  | bool value => intro right same; cases right <;> simp_all [map]
  | number value =>
      intro right same
      cases right <;> simp only [map, reduceCtorEq, number.injEq] at same
      rw [injective same]
  | string text => intro right same; cases right <;> simp_all [map]
  | array elements ih =>
      intro right same
      cases right <;> simp only [map, reduceCtorEq, array.injEq] at same
      rw [mapElements_eq, mapElements_eq] at same
      rw [eq_of_map_eq ih same]
  | object members ih =>
      intro right same
      cases right <;> simp only [map, reduceCtorEq, object.injEq] at same
      rw [mapMembers_eq, mapMembers_eq] at same
      refine congrArg object (eq_of_map_eq (fun member among other equal => ?_) same)
      rw [Prod.mk.injEq] at equal
      exact Prod.ext equal.1 (ih member among equal.2)

/-! ## Height of a document -/

mutual

/-- How deep arrays and objects are nested around the innermost value of a document. -/
def height : Document ν → Nat
  | .array elements => elementsHeight elements
  | .object members => membersHeight members
  | _ => 0

/-- How deep the innermost value of an array is nested. -/
def elementsHeight : List (Document ν) → Nat
  | [] => 0
  | first :: rest => max (first.height + 1) (elementsHeight rest)

/-- How deep the innermost value of an object is nested. -/
def membersHeight : List (Text × Document ν) → Nat
  | [] => 0
  | (_, value) :: rest => max (value.height + 1) (membersHeight rest)

end

/-- The elements of an array are less deep than the array. -/
theorem height_lt_of_mem {elements : List (Document ν)} {element : Document ν}
    (among : element ∈ elements) : element.height < (array elements).height := by
  rw [height]
  induction elements with
  | nil => cases among
  | cons first rest ih =>
      rw [elementsHeight]
      rcases List.mem_cons.mp among with rfl | later
      · omega
      · have := ih later
        omega

/-- The values of an object are less deep than the object. -/
theorem height_lt_of_mem_members {members : List (Text × Document ν)} {member : Text × Document ν}
    (among : member ∈ members) : member.2.height < (object members).height := by
  rw [height]
  induction members with
  | nil => cases among
  | cons first rest ih =>
      rw [membersHeight]
      rcases List.mem_cons.mp among with rfl | later
      · omega
      · have := ih later
        omega

/-! ## Sorted documents -/

mutual

/-- Sorts the members of every object by a code of their keys. -/
def sorted {γ : Type*} [LinearOrder γ] (code : Text → γ) : Document ν → Document ν
  | .null => .null
  | .bool value => .bool value
  | .number value => .number value
  | .string text => .string text
  | .array elements => .array (sortedElements code elements)
  | .object members =>
      .object (sortBy (fun member => code member.1) (sortedMembers code members))

/-- Sorts the objects in the elements of an array. -/
def sortedElements {γ : Type*} [LinearOrder γ] (code : Text → γ) :
    List (Document ν) → List (Document ν)
  | [] => []
  | first :: rest => first.sorted code :: sortedElements code rest

/-- Sorts the objects in the values of an object. -/
def sortedMembers {γ : Type*} [LinearOrder γ] (code : Text → γ) :
    List (Text × Document ν) → List (Text × Document ν)
  | [] => []
  | (key, value) :: rest => (key, value.sorted code) :: sortedMembers code rest

end

theorem sortedElements_eq {γ : Type*} [LinearOrder γ] (code : Text → γ)
    (elements : List (Document ν)) : sortedElements code elements = elements.map (sorted code) := by
  induction elements with
  | nil => rfl
  | cons first rest ih => rw [sortedElements, ih, List.map_cons]

theorem sortedMembers_eq {γ : Type*} [LinearOrder γ] (code : Text → γ)
    (members : List (Text × Document ν)) :
    sortedMembers code members = members.map fun member => (member.1, member.2.sorted code) := by
  induction members with
  | nil => rfl
  | cons first rest ih => rw [sortedMembers, ih, List.map_cons]

section Sorted

variable {γ δ : Type*} [LinearOrder γ] [LinearOrder δ]

/-- Sorting keeps the keys of an object. -/
theorem keys_sortedMembers (code : Text → γ) (members : List (Text × Document ν)) :
    (sortedMembers code members).map Prod.fst = members.map Prod.fst := by
  rw [sortedMembers_eq, List.map_map]
  rfl

/-- Sorting and changing numbers do not meet. -/
theorem map_sorted (change : ν → μ) (code : Text → γ) (tree : Document ν) :
    (tree.sorted code).map change = (tree.map change).sorted code := by
  induction tree using Document.induction with
  | array elements ih =>
      simp only [sorted, map, sortedElements_eq, mapElements_eq, List.map_map, array.injEq]
      exact List.map_congr_left ih
  | object members ih =>
      simp only [sorted, map, sortedMembers_eq, mapMembers_eq, List.map_map, object.injEq]
      rw [map_sortBy_members code (Document.map change), List.map_map]
      refine congrArg _ (List.map_congr_left fun member among => ?_)
      exact congrArg _ (ih member among)
  | _ => rfl

/-- A sorted document is sorted already. -/
theorem sorted_sorted (code : Text → γ) (tree : Document ν) :
    (tree.sorted code).sorted code = tree.sorted code := by
  induction tree using Document.induction with
  | array elements ih =>
      simp only [sorted, sortedElements_eq, List.map_map, array.injEq]
      exact List.map_congr_left ih
  | object members ih =>
      have again : sortedMembers code
          (sortBy (fun member => code member.1) (sortedMembers code members)) =
          sortBy (fun member => code member.1) (sortedMembers code members) := by
        simp only [sortedMembers_eq]
        rw [map_sortBy_members code (sorted code), List.map_map]
        refine congrArg _ (List.map_congr_left fun member among => ?_)
        exact congrArg _ (ih member among)
      simp only [sorted, again, object.injEq]
      exact (pairwise_sortBy _ _).insertionSort_eq
  | _ => rfl

/-- What does not depend on the order of members holds of a sorted document. -/
theorem all_sorted {number : ν → Prop} {text : Text → Prop} {keys : List Text → Prop}
    (unordered : ∀ left right : List Text, left.Perm right → keys left → keys right)
    (code : Text → γ) (tree : Document ν) :
    All number text keys (tree.sorted code) ↔ All number text keys tree := by
  induction tree using Document.induction with
  | array elements ih =>
      simp only [sorted, sortedElements_eq, all_array, List.forall_mem_map]
      exact forall₂_congr ih
  | object members ih =>
      have perm := (sortBy_perm (fun member => code member.1) (sortedMembers code members)).map
        Prod.fst
      rw [keys_sortedMembers] at perm
      simp only [sorted, all_object, mem_sortBy]
      refine and_congr ⟨unordered _ _ perm, unordered _ _ perm.symm⟩ ?_
      simp only [sortedMembers_eq, List.forall_mem_map]
      exact and_congr Iff.rfl (forall₂_congr ih)
  | _ => simp [sorted]

/-- Codes that order distinct keys the same way sort their members the same way. -/
theorem sortBy_members_congr {code : Text → γ} {code' : Text → δ}
    (injective : Function.Injective code) (injective' : Function.Injective code')
    {members : List (Text × Document ν)} (distinct : (members.map Prod.fst).Nodup)
    (agree : Agree code code' (members.map Prod.fst)) :
    sortBy (fun member => code member.1) members =
      sortBy (fun member => code' member.1) members := by
  have apart : ∀ left ∈ members, ∀ right ∈ members, left.1 = right.1 → left = right :=
    fun left here right there => List.inj_on_of_nodup_map distinct here there
  refine sortBy_congr (fun left here right there equal => ?_)
    (fun left here right there equal => ?_) fun left here right there => ?_
  · exact apart left here right there (injective equal)
  · exact apart left here right there (injective' equal)
  · exact agree left.1 (List.mem_map_of_mem here) right.1 (List.mem_map_of_mem there)

/-- Two codes sort a document the same way exactly when they order the keys of its objects the
same way. -/
theorem sorted_eq_sorted_iff {code : Text → γ} {code' : Text → δ}
    (injective : Function.Injective code) (injective' : Function.Injective code') {tree : Document ν}
    (distinct : All (fun _ => True) (fun _ => True) List.Nodup tree) :
    tree.sorted code = tree.sorted code' ↔
      All (fun _ => True) (fun _ => True) (Agree code code') tree := by
  induction tree using Document.induction with
  | array elements ih =>
      simp only [sorted, sortedElements_eq, all_array, array.injEq, List.map_inj_left] at distinct ⊢
      exact forall₂_congr fun element among => ih element among (distinct element among)
  | object members ih =>
      simp only [sorted, all_object, object.injEq, implies_true, true_and] at distinct ⊢
      have values : (∀ member ∈ members, member.2.sorted code = member.2.sorted code') ↔
          ∀ member ∈ members, All (fun _ => True) (fun _ => True) (Agree code code') member.2 :=
        forall₂_congr fun member among => ih member among (distinct.2 member among)
      have keys' := keys_sortedMembers code' members
      rw [← values]
      refine ⟨fun same => ?_, fun ⟨agree, equal⟩ => ?_⟩
      · have names := congrArg (List.map Prod.fst) same
        rw [keys_sortBy, keys_sortBy, keys', keys_sortedMembers] at names
        have agree : Agree code code' (members.map Prod.fst) :=
          agree_of_sortBy_eq (fun _ _ _ _ equal => injective' equal) names
        rw [← sortBy_members_congr injective injective' (by rw [keys']; exact distinct.1)
          (by rw [keys']; exact agree), sortedMembers_eq, sortedMembers_eq,
          ← map_sortBy_members code (sorted code), ← map_sortBy_members code (sorted code'),
          List.map_inj_left] at same
        refine ⟨agree, fun member among => ?_⟩
        exact (Prod.mk.inj (same member (mem_sortBy.mpr among))).2
      · have parts : sortedMembers code members = sortedMembers code' members := by
          rw [sortedMembers_eq, sortedMembers_eq, List.map_inj_left]
          exact fun member among => congrArg _ (equal member among)
        rw [parts]
        exact sortBy_members_congr injective injective' (by rw [keys']; exact distinct.1)
          (by rw [keys']; exact agree)
  | _ => simp [sorted]

end Sorted
end Document

/-! ## Texts -/

/-- Writes parts with commas between them. -/
def separated : List Text → Text
  | [] => []
  | first :: rest => first ++ rest.flatMap (',' :: ·)

section Render

variable (quote : Text → Text)

mutual

/-- Text of a document with some way to quote strings. -/
def renderWith : Document Text → Text
  | .null => ['n', 'u', 'l', 'l']
  | .bool true => ['t', 'r', 'u', 'e']
  | .bool false => ['f', 'a', 'l', 's', 'e']
  | .number digits => digits
  | .string text => quote text
  | .array elements => '[' :: separated (renderElements elements) ++ [']']
  | .object members => '\x7b' :: separated (renderMembers members) ++ ['\x7d']

/-- Texts of the elements of an array. -/
def renderElements : List (Document Text) → List Text
  | [] => []
  | first :: rest => renderWith first :: renderElements rest

/-- Texts of the members of an object. -/
def renderMembers : List (Text × Document Text) → List Text
  | [] => []
  | (key, value) :: rest => (quote key ++ ':' :: renderWith value) :: renderMembers rest

end

theorem renderElements_eq (elements : List (Document Text)) :
    renderElements quote elements = elements.map (renderWith quote) := by
  induction elements with
  | nil => rfl
  | cons first rest ih => rw [renderElements, ih, List.map_cons]

theorem renderMembers_eq (members : List (Text × Document Text)) :
    renderMembers quote members =
      members.map fun member => quote member.1 ++ ':' :: renderWith quote member.2 := by
  induction members with
  | nil => rfl
  | cons first rest ih => rw [renderMembers, ih, List.map_cons]

end Render

/-- Quoting all strings of a document the same way gives the same text. -/
theorem renderWith_congr {quote quote' : Text → Text} {tree : Document Text}
    (same : Document.All (fun _ => True) (fun text => quote text = quote' text) (fun _ => True) tree) :
    renderWith quote tree = renderWith quote' tree := by
  induction same with
  | bool value => cases value <;> rfl
  | string text holds => exact holds
  | array elements _ ih =>
      rw [renderWith, renderWith, renderElements_eq, renderElements_eq,
        List.map_congr_left ih]
  | object members _ named _ ih =>
      rw [renderWith, renderWith, renderMembers_eq, renderMembers_eq]
      refine congrArg (fun parts => '\x7b' :: separated parts ++ ['\x7d'])
        (List.map_congr_left fun member among => ?_)
      rw [named member among, ih member among]
  | _ => rfl

/-- The parts decide how long a separated text is. -/
theorem length_separated {α : Type*} (write : α → Text) (items : List α) :
    (separated (items.map write)).length =
      (items.map fun item => (write item).length + 1).sum - 1 := by
  cases items with
  | nil => rfl
  | cons first rest =>
      simp [separated, List.flatMap_map, List.length_flatMap]

/-- Longer parts make a longer separated text. -/
theorem length_separated_le {α : Type*} {write write' : α → Text} {items : List α}
    (shorter : ∀ item ∈ items, (write item).length ≤ (write' item).length) :
    (separated (items.map write)).length ≤ (separated (items.map write')).length ∧
      ((separated (items.map write)).length = (separated (items.map write')).length →
        ∀ item ∈ items, (write item).length = (write' item).length) := by
  have sums := List.sum_le_sum fun item among => Nat.succ_le_succ (shorter item among)
  rw [length_separated, length_separated]
  refine ⟨Nat.sub_le_sub_right sums 1, fun same item among => ?_⟩
  by_contra different
  have strictly := List.sum_lt_sum (fun item => (write item).length + 1)
    (fun item => (write' item).length + 1)
    (fun item among => Nat.succ_le_succ (shorter item among))
    ⟨item, among, Nat.succ_lt_succ (lt_of_le_of_ne (shorter item among) different)⟩
  have positive := List.single_le_sum (fun _ _ => Nat.zero_le _) _
    (List.mem_map_of_mem (f := fun item => (write item).length + 1) among)
  omega

/-- Shorter quotes make a shorter text, unless the strings of the document have quotes of the same
length. -/
theorem length_renderWith_le {quote quote' : Text → Text}
    (shorter : ∀ text, (quote text).length ≤ (quote' text).length) (tree : Document Text) :
    (renderWith quote tree).length ≤ (renderWith quote' tree).length ∧
      ((renderWith quote tree).length = (renderWith quote' tree).length →
        Document.All (fun _ => True) (fun text => (quote text).length = (quote' text).length)
          (fun _ => True) tree) := by
  induction tree using Document.induction with
  | bool value => cases value <;> simp [renderWith]
  | string text => exact ⟨shorter text, fun same => .string text same⟩
  | array elements ih =>
      have parts := length_separated_le fun element among => (ih element among).1
      simp only [renderWith, renderElements_eq, List.length_append, List.length_cons]
      refine ⟨by omega, fun same => .array elements fun element among => ?_⟩
      exact (ih element among).2 (parts.2 (by omega) element among)
  | object members ih =>
      have write (member : Text × Document Text) (among : member ∈ members) :
          (quote member.1 ++ ':' :: renderWith quote member.2).length ≤
            (quote' member.1 ++ ':' :: renderWith quote' member.2).length := by
        have key := shorter member.1
        have value := (ih member among).1
        simp only [List.length_append, List.length_cons]
        omega
      have parts := length_separated_le write
      simp only [renderWith, renderMembers_eq, List.length_append, List.length_cons] at parts ⊢
      refine ⟨by omega, fun same => ?_⟩
      have equal (member : Text × Document Text) (among : member ∈ members) :
          (quote member.1).length = (quote' member.1).length ∧
            (renderWith quote member.2).length = (renderWith quote' member.2).length := by
        have key := shorter member.1
        have value := (ih member among).1
        have both := parts.2 (by omega) member among
        omega
      exact .object members trivial (fun member among => (equal member among).1)
        fun member among => (ih member among).2 (equal member among).2
  | _ => simp [renderWith]

/-- Two ways to quote, one never longer than the other and as long only where they are the same,
give one text exactly when they agree on the strings of the document. -/
theorem renderWith_eq_iff {quote quote' : Text → Text}
    (shorter : ∀ text, (quote text).length ≤ (quote' text).length)
    (tight : ∀ text, (quote text).length = (quote' text).length → quote text = quote' text)
    (tree : Document Text) :
    renderWith quote tree = renderWith quote' tree ↔
      Document.All (fun _ => True) (fun text => quote text = quote' text) (fun _ => True) tree := by
  refine ⟨fun same => ?_, renderWith_congr⟩
  exact ((length_renderWith_le shorter tree).2 (congrArg _ same)).mono (fun _ holds => holds)
    tight fun _ holds => holds

end Json
