import Mathlib.Logic.Function.Basic

/-! # Patches of a table

A table from names to values in which some values are replaced and put back later.  A patch knows
what it put under a name and what was there before, and it recognises its own value when it is
taken back, so that what somebody else put there stays.

Main results:

- Theorem {lit}`revertAll_logged`: taking back a log of patches, the newest first, gives the table
  from before, at every name that nobody else changed.
- Theorem {lit}`revertAll_fixed`: patches with one former value for a name give this value back.
- Theorem {lit}`Logged.eq_newest`: a patched table has the value of the newest patch.
-/

namespace Patches

variable {Name Value : Type*} [DecidableEq Name]

/-- A replaced value: what was put under a name, how it is recognised, and what was there. -/
structure Patch (Name Value : Type*) where
  name : Name
  hook : Value
  owned : Value → Bool
  former : Value

/-- Put the value of a patch into a table. -/
def apply (patch : Patch Name Value) (table : Name → Value) : Name → Value :=
  Function.update table patch.name patch.hook

/-- Take a patch back, unless somebody else changed the value. -/
def revert (patch : Patch Name Value) (table : Name → Value) : Name → Value :=
  if patch.owned (table patch.name) then Function.update table patch.name patch.former else table

/-- Take patches back, the first of the list first. -/
def revertAll : List (Patch Name Value) → (Name → Value) → Name → Value
  | [], table => table
  | patch :: patches, table => revertAll patches (revert patch table)

/-- A patch changes no other name. -/
theorem revert_of_ne {patch : Patch Name Value} {table : Name → Value} {name : Name}
    (other : patch.name ≠ name) : revert patch table name = table name := by
  unfold revert
  split
  · exact Function.update_of_ne other.symm _ _
  · rfl

/-- A patch that recognises its value puts the former value back. -/
theorem revert_owned {patch : Patch Name Value} {table : Name → Value}
    (owned : patch.owned (table patch.name) = true) :
    revert patch table patch.name = patch.former := by
  rw [revert, if_pos owned, Function.update_self]

/-- A patch keeps a value that it does not recognise. -/
theorem revert_foreign {patch : Patch Name Value} {table : Name → Value}
    (foreign : patch.owned (table patch.name) = false) : revert patch table = table := by
  rw [revert, if_neg (by simp [foreign])]

/-- Patches are taken back one part after the other. -/
theorem revertAll_append (first second : List (Patch Name Value)) (table : Name → Value) :
    revertAll (first ++ second) table = revertAll second (revertAll first table) := by
  induction first generalizing table with
  | nil => rfl
  | cons patch patches ih => exact ih _

/-- Patches with one former value for a name give it back, from the former value itself and from any
value that one of them recognises. -/
theorem revertAll_fixed {patches : List (Patch Name Value)} {table : Name → Value} {name : Name}
    {former : Value} (same : ∀ patch ∈ patches, patch.name = name → patch.former = former)
    (known : table name = former ∨
      ∃ patch ∈ patches, patch.name = name ∧ patch.owned (table name) = true) :
    revertAll patches table name = former := by
  induction patches generalizing table with
  | nil =>
      rcases known with kept | ⟨patch, member, -⟩
      · exact kept
      · cases member
  | cons patch patches ih =>
      have later : ∀ other ∈ patches, other.name = name → other.former = former :=
        fun other member => same other (List.mem_cons_of_mem _ member)
      rw [revertAll]
      refine ih later ?_
      by_cases named : patch.name = name
      · subst named
        cases recognised : patch.owned (table patch.name) with
        | true =>
            left
            rw [revert_owned recognised, same patch List.mem_cons_self rfl]
        | false =>
            rw [revert_foreign recognised]
            rcases known with kept | ⟨other, member, found, owned⟩
            · exact .inl kept
            · rcases List.mem_cons.mp member with rfl | member
              · rw [recognised] at owned
                cases owned
              · exact .inr ⟨other, member, found, owned⟩
      · rw [revert_of_ne named]
        rcases known with kept | ⟨other, member, found, owned⟩
        · exact .inl kept
        · rcases List.mem_cons.mp member with rfl | member
          · exact absurd found named
          · exact .inr ⟨other, member, found, owned⟩

/-- Values that no patch recognises stay. -/
theorem revertAll_foreign {patches : List (Patch Name Value)} {table : Name → Value} {name : Name}
    (foreign : ∀ patch ∈ patches, patch.name = name → patch.owned (table name) = false) :
    revertAll patches table name = table name := by
  induction patches generalizing table with
  | nil => rfl
  | cons patch patches ih =>
      have kept : revert patch table name = table name := by
        by_cases named : patch.name = name
        · subst named
          rw [revert_foreign (foreign patch List.mem_cons_self rfl)]
        · exact revert_of_ne named
      rw [revertAll, ih, kept]
      intro other member named
      rw [kept]
      exact foreign other (List.mem_cons_of_mem _ member) named

/-- A value stays or becomes the former value of a patch. -/
theorem revertAll_cases {patches : List (Patch Name Value)} {table : Name → Value} {name : Name} :
    revertAll patches table name = table name ∨
      ∃ patch ∈ patches, patch.name = name ∧ revertAll patches table name = patch.former := by
  induction patches generalizing table with
  | nil => exact .inl rfl
  | cons patch patches ih =>
      rw [revertAll]
      rcases @ih (revert patch table) with kept | ⟨other, member, named, given⟩
      · by_cases named : patch.name = name
        · subst named
          cases recognised : patch.owned (table patch.name) with
          | true =>
              right
              exact ⟨patch, List.mem_cons_self, rfl, by rw [kept, revert_owned recognised]⟩
          | false =>
              left
              rw [kept, revert_foreign recognised]
        · left
          rw [kept, revert_of_ne named]
      · exact .inr ⟨other, List.mem_cons_of_mem _ member, named, given⟩

/-- What is put back under a name depends on the value under this name alone. -/
theorem revertAll_congr {patches : List (Patch Name Value)} {first second : Name → Value}
    {name : Name} (same : first name = second name) :
    revertAll patches first name = revertAll patches second name := by
  induction patches generalizing first second with
  | nil => exact same
  | cons patch patches ih =>
      rw [revertAll, revertAll]
      apply ih
      by_cases named : patch.name = name
      · subst named
        unfold revert
        rw [same]
        split
        · rw [Function.update_self, Function.update_self]
        · exact same
      · rw [revert_of_ne named, revert_of_ne named, same]

/-! ## Logs -/

/-- A table was made from a base by the patches of a log, the newest first, as far as the names of a
scope go.  Names outside the scope may change in between. -/
inductive Logged (scope : Name → Prop) (base : Name → Value) :
    List (Patch Name Value) → (Name → Value) → Prop
  | base {table : Name → Value} (same : ∀ name, scope name → table name = base name) :
      Logged scope base [] table
  | patched {log : List (Patch Name Value)} {table : Name → Value}
      (logged : Logged scope base log table) (patch : Patch Name Value)
      (owned : patch.owned patch.hook = true) (former : patch.former = table patch.name) :
      Logged scope base (patch :: log) (apply patch table)
  | outside {log : List (Patch Name Value)} {table next : Name → Value}
      (logged : Logged scope base log table)
      (same : ∀ name, scope name → next name = table name) : Logged scope base log next

variable {scope : Name → Prop} {base table : Name → Value} {log : List (Patch Name Value)}

/-- Taking back a log gives the base, at every name with the value of the patched table. -/
theorem revertAll_logged (logged : Logged scope base log table) {current : Name → Value}
    {name : Name} (inside : scope name) (kept : current name = table name) :
    revertAll log current name = base name := by
  induction logged generalizing current with
  | base same => exact kept.trans (same name inside)
  | @patched log table logged patch owned former ih =>
      rw [revertAll]
      apply ih
      by_cases named : patch.name = name
      · subst named
        have hooked : current patch.name = patch.hook := by
          rw [kept, apply, Function.update_self]
        rw [revert_owned (by rw [hooked, owned]), former]
      · rw [revert_of_ne named, kept, apply, Function.update_of_ne (Ne.symm named)]
  | outside logged same ih => exact ih (kept.trans (same name inside))

/-- A patched table has the value of the newest patch, or that of the base. -/
theorem Logged.eq_newest (logged : Logged scope base log table) {name : Name}
    (inside : scope name) :
    table name = ((log.find? (·.name = name)).map (·.hook)).getD (base name) := by
  induction logged with
  | base same => exact same name inside
  | @patched log table logged patch owned former ih =>
      by_cases named : patch.name = name
      · subst named
        simp [apply]
      · rw [apply, Function.update_of_ne (Ne.symm named), ih]
        simp [named]
  | outside logged same ih => exact (same name inside).trans ih

/-- Logs compose. -/
theorem Logged.append {before : Name → Value} {earlier : List (Patch Name Value)}
    (logged : Logged scope table log before) (first : Logged scope base earlier table) :
    Logged scope base (log ++ earlier) before := by
  induction logged with
  | base same => exact .outside first same
  | patched logged patch owned former ih => exact .patched ih patch owned former
  | outside logged same ih => exact .outside ih same

end Patches
