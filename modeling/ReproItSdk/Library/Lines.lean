import Mathlib.Data.List.Infix

/-! # Lines of a text

A text is cut into lines at a separator of two different items, from left to right.

Main results:

- Theorem {lit}`lines_append`: the lines of two texts with a separator between them.
- Theorem {lit}`flatMap_lines`: the lines, each with its separator, are the text with one more.
- Theorem {lit}`unbroken_of_mem_lines`: no line holds the separator.
-/

namespace Lines

variable {α : Type*} [DecidableEq α] {first second : α}

/-- Put an item in front of the first line. -/
def extend (item : α) : List (List α) → List (List α)
  | [] => [[item]]
  | line :: rest => (item :: line) :: rest

/-- The lines of a text. -/
def lines (first second : α) : List α → List (List α)
  | [] => [[]]
  | [item] => [[item]]
  | item :: next :: rest =>
      if item = first ∧ next = second then [] :: lines first second rest
      else extend item (lines first second (next :: rest))

-- made here once for all proofs below
attribute [elab_as_elim] lines.induct_unfolding lines.fun_cases_unfolding

/-- A text without the separator. -/
def Unbroken (first second : α) (text : List α) : Prop :=
  ¬ [first, second] <:+: text

/-- A text has at least one line. -/
theorem lines_ne_nil (text : List α) : lines first second text ≠ [] := by
  fun_cases lines first second text with
  | case1 => simp
  | case2 => simp
  | case3 => simp
  | case4 item next rest other =>
      cases lines first second (next :: rest) <;> simp [extend]

/-- An item in front of some lines is in front of the first of them. -/
theorem extend_append (item : α) {some rest : List (List α)} (inhabited : some ≠ []) :
    extend item (some ++ rest) = extend item some ++ rest := by
  cases some with
  | nil => exact absurd rfl inhabited
  | cons line some => rfl

/-- An item in front of a text, where the two do not begin with the separator. -/
theorem lines_cons {item : α} {text : List α} (inhabited : text ≠ [])
    (other : ¬(item = first ∧ text.head? = some second)) :
    lines first second (item :: text) = extend item (lines first second text) := by
  cases text with
  | nil => exact absurd rfl inhabited
  | cons next rest =>
      rw [lines, if_neg]
      simpa using other

/-- The lines of two texts with a separator between them. -/
theorem lines_append (different : first ≠ second) (text rest : List α) :
    lines first second (text ++ first :: second :: rest) =
      lines first second text ++ lines first second rest := by
  fun_induction lines first second text with
  | case1 => simp [lines]
  | case2 item =>
      rw [List.singleton_append, lines_cons (by simp)]
      · simp [lines, extend]
      · rintro ⟨rfl, same⟩
        exact different (by simpa using same)
  | case3 item next others separates ih =>
      obtain ⟨rfl, rfl⟩ := separates
      simp [lines, ih]
  | case4 item next others separates ih =>
      rw [List.cons_append, lines_cons (by simp) (by simpa using separates), ih,
        extend_append item (lines_ne_nil _)]

/-- A text without the separator is one line. -/
theorem lines_of_unbroken {text : List α} (unbroken : Unbroken first second text) :
    lines first second text = [text] := by
  fun_induction lines first second text with
  | case1 => rfl
  | case2 item => rfl
  | case3 item next rest separates ih =>
      obtain ⟨rfl, rfl⟩ := separates
      exact absurd ⟨[], rest, rfl⟩ unbroken
  | case4 item next rest separates ih =>
      rw [ih, extend]
      intro found
      exact unbroken (List.infix_cons found)

/-- Texts without the separator, each followed by it, are the first lines of what they begin. -/
theorem lines_flatMap (different : first ≠ second) {parts : List (List α)}
    (unbroken : ∀ part ∈ parts, Unbroken first second part) (rest : List α) :
    lines first second (parts.flatMap (· ++ [first, second]) ++ rest) =
      parts ++ lines first second rest := by
  induction parts with
  | nil => rfl
  | cons part parts ih =>
      have others := ih fun other among => unbroken other (List.mem_cons_of_mem _ among)
      simp only [List.flatMap_cons, List.append_assoc, List.cons_append, List.nil_append]
      rw [lines_append different, lines_of_unbroken (unbroken part (by simp)), others]
      rfl

/-- An item in front of the first line is in front of the lines with their separators. -/
theorem flatMap_extend (item : α) {parts : List (List α)} (inhabited : parts ≠ []) :
    (extend item parts).flatMap (· ++ [first, second]) =
      item :: parts.flatMap (· ++ [first, second]) := by
  cases parts with
  | nil => exact absurd rfl inhabited
  | cons part parts => simp [extend]

/-- The lines, each with its separator, are the text with one more separator. -/
theorem flatMap_lines (text : List α) :
    (lines first second text).flatMap (· ++ [first, second]) = text ++ [first, second] := by
  fun_induction lines first second text with
  | case1 => simp
  | case2 item => simp
  | case3 item next rest separates ih =>
      obtain ⟨rfl, rfl⟩ := separates
      simp [ih]
  | case4 item next rest separates ih =>
      rw [flatMap_extend item (lines_ne_nil _), ih]
      rfl

/-- The first line begins the text. -/
theorem head_lines_prefix {text line : List α} {rest : List (List α)}
    (cut : lines first second text = line :: rest) : line <+: text := by
  have whole := @flatMap_lines α _ first second text
  rw [cut, List.flatMap_cons, List.append_assoc] at whole
  by_cases short : line.length ≤ text.length
  · have begins : line <+: text ++ [first, second] := ⟨_, whole⟩
    exact List.prefix_of_prefix_length_le begins (List.prefix_append _ _) short
  · have long := congrArg List.length whole
    simp only [List.length_append, List.length_cons, List.length_nil] at long
    omega

/-- No line holds the separator. -/
theorem unbroken_of_mem_lines {text line : List α}
    (among : line ∈ lines first second text) : Unbroken first second line := by
  fun_induction lines first second text generalizing line with
  | case1 =>
      simp only [List.mem_singleton] at among
      subst among
      simp [Unbroken]
  | case2 item =>
      simp only [List.mem_singleton] at among
      subst among
      intro found
      exact absurd found.length_le (by simp)
  | case3 item next rest separates ih =>
      rcases List.mem_cons.mp among with rfl | among
      · simp [Unbroken]
      · exact ih among
  | case4 item next rest separates ih =>
      cases cut : lines first second (next :: rest) with
      | nil => exact absurd cut (lines_ne_nil _)
      | cons front others =>
          rw [cut] at among ih
          rcases List.mem_cons.mp among with rfl | among
          · intro found
            rcases List.infix_cons_iff.mp found with here | later
            · -- the separator would begin with the item and what follows it in the text
              have begins : [first, second] <+: item :: next :: rest :=
                here.trans (List.cons_prefix_cons.mpr ⟨rfl, head_lines_prefix cut⟩)
              simp only [List.cons_prefix_cons] at begins
              exact separates ⟨begins.1.symm, begins.2.1.symm⟩
            · exact ih (by simp) later
          · exact ih (List.mem_cons_of_mem _ among)

end Lines
