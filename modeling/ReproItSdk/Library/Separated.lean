import Mathlib.Data.List.Basic
import Mathlib.Data.List.Induction
import Mathlib.Data.Nat.Digits.Lemmas

/-! # Texts with a separator

A text can be cut at the last separator: two joined texts are equal only if both parts are, as
long as the last parts hold no separator.

Main results:

- Theorem {lit}`append_separator_inj`: lists joined by a separator.
- Theorem {lit}`separated_inj`: parts that each follow a separator.
- Theorem {lit}`join_inj`: texts joined by a separator.
-/

namespace Separated

/-! ## Lists -/

/-- Lists joined by a separator are cut at the last separator. -/
theorem append_separator_inj {α : Type*} {separator : α} {first other last end_ : List α}
    (unbroken : separator ∉ last) (intact : separator ∉ end_)
    (joined : first ++ separator :: last = other ++ separator :: end_) :
    first = other ∧ last = end_ := by
  have contained : ∀ {middle left right : List α},
      separator ∉ left → separator :: left = middle ++ separator :: right → middle = [] := by
    intro middle left right notMem split
    cases middle with
    | nil => rfl
    | cons head tail =>
        rw [List.cons_append, List.cons.injEq] at split
        exact absurd (split.2 ▸ List.mem_append_right _ List.mem_cons_self) notMem
  rcases List.append_eq_append_iff.mp joined with ⟨middle, longer, rest⟩ | ⟨middle, longer, rest⟩
  · have empty := contained unbroken rest
    subst empty
    exact ⟨by simpa using longer.symm, by simpa using rest⟩
  · have empty := contained intact rest
    subst empty
    exact ⟨by simpa using longer, by simpa using rest.symm⟩

/-- Parts, each after a separator. -/
def separated {α : Type*} (separator : α) (parts : List (List α)) : List α :=
  parts.flatMap (separator :: ·)

/-- Parts after parts. -/
theorem separated_append {α : Type*} (separator : α) (parts others : List (List α)) :
    separated separator (parts ++ others) =
      separated separator parts ++ separated separator others :=
  List.flatMap_append

/-- Parts without separators are told apart by what they spell. -/
theorem separated_inj {α : Type*} {separator : α} {parts others : List (List α)}
    (unbroken : ∀ part ∈ parts, separator ∉ part) (intact : ∀ part ∈ others, separator ∉ part)
    (same : separated separator parts = separated separator others) : parts = others := by
  induction parts using List.reverseRecOn generalizing others with
  | nil =>
      cases others with
      | nil => rfl
      | cons part others => simp [separated] at same
  | append_singleton parts part ih =>
      rcases List.eq_nil_or_concat others with rfl | ⟨rest, last, rfl⟩
      · simp [separated] at same
      · rw [List.concat_eq_append] at same intact ⊢
        rw [separated_append, separated_append] at same
        simp only [separated, List.flatMap_cons, List.flatMap_nil, List.append_nil] at same
        obtain ⟨firsts, lasts⟩ := append_separator_inj (unbroken part (by simp))
          (intact last (by simp)) same
        rw [lasts, ih (fun item among => unbroken item (by simp [among]))
          (fun item among => intact item (by simp [among])) firsts]

/-! ## Texts -/

/-- A text without a separator. -/
def Unbroken (separator : Char) (text : String) : Prop :=
  separator ∉ text.toList

/-- Decide whether a text holds a separator. -/
instance (separator : Char) (text : String) : Decidable (Unbroken separator text) :=
  inferInstanceAs (Decidable (separator ∉ text.toList))

/-- Texts joined by a slash are cut at the last slash. -/
theorem join_inj {first other last end_ : String} (unbroken : Unbroken '/' last)
    (intact : Unbroken '/' end_) (joined : first ++ "/" ++ last = other ++ "/" ++ end_) :
    first = other ∧ last = end_ := by
  have lists := congrArg String.toList joined
  simp only [String.toList_append, List.append_assoc] at lists
  obtain ⟨firsts, lasts⟩ := append_separator_inj unbroken intact lists
  exact ⟨String.toList_inj.mp firsts, String.toList_inj.mp lasts⟩

/-- Decimal numbers hold no slash. -/
theorem unbroken_toString (number : Nat) : Unbroken '/' (toString number) := by
  intro member
  have listed : '/' ∈ Nat.toDigits 10 number := by
    simpa only [Nat.toString_eq_repr, Nat.toList_repr] using member
  have digit := Nat.isDigit_of_mem_toDigits (by decide) (by decide) listed
  exact absurd digit (by decide)

/-- Decimal numbers name their values. -/
theorem toString_injective : Function.Injective (toString : Nat → String) := by
  intro number other same
  have digits : Nat.toDigits 10 number = Nat.toDigits 10 other := by
    simpa [Nat.toString_eq_repr, Nat.toList_repr] using congrArg String.toList same
  have values := congrArg (Nat.ofDigitChars 10 · 0) digits
  simpa [Nat.ofDigitChars_toDigits] using values

end Separated
