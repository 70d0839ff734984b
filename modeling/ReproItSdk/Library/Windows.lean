import Mathlib.Data.List.Infix

/-! # Search of a stream through windows

A stream is searched piece by piece.  Each piece is searched together with the end of what was
searched before it, of which no more than a given number of elements is kept.

Main results:

- Theorem {lit}`infix_of_window`: what a window holds, the stream holds.
- Theorem {lit}`infix_window_iff`: a pattern that is at most one longer than what is kept is found
  in a window exactly when it is in the stream.
-/

namespace Windows

variable {α : Type*} {keep : Nat}

/-- The last elements of a list, no more than a given number of them. -/
def lastOf (keep : Nat) (items : List α) : List α :=
  items.drop (items.length - keep)

/-- The windows in which the pieces of a stream are searched, from the end of what came before. -/
def windows (keep : Nat) : List α → List (List α) → List (List α)
  | _, [] => []
  | tail, piece :: pieces => (tail ++ piece) :: windows keep (lastOf keep (tail ++ piece)) pieces

/-- The last elements are at the end. -/
theorem lastOf_suffix (keep : Nat) (items : List α) : lastOf keep items <:+ items :=
  List.drop_suffix _ _

/-- A part of the last elements before a list is a part of all of them before it. -/
theorem infix_of_lastOf {pattern items rest : List α}
    (found : pattern <:+: lastOf keep items ++ rest) : pattern <:+: items ++ rest := by
  obtain ⟨before, whole⟩ := lastOf_suffix keep items
  rw [← whole, List.append_assoc]
  exact List.infix_append_of_infix_right found

/-- A pattern across the end of a list starts among its last elements. -/
theorem infix_append_lastOf {pattern items rest : List α} (short : pattern.length ≤ keep + 1)
    (found : pattern <:+: items ++ rest) :
    pattern <:+: items ∨ pattern <:+: lastOf keep items ++ rest := by
  obtain ⟨before, after, whole⟩ := found
  rw [List.append_assoc] at whole
  by_cases early : before.length + pattern.length ≤ items.length
  · -- the pattern ends inside the list
    left
    have taken : before ++ pattern = items.take (before.length + pattern.length) := by
      have := congrArg (List.take (before.length + pattern.length)) whole
      rw [← List.append_assoc, List.take_append_of_le_length (by simp),
        List.take_append_of_le_length early] at this
      rw [← this, List.take_of_length_le (by simp)]
    exact ⟨before, items.drop (before.length + pattern.length), by
      rw [taken, List.take_append_drop]⟩
  · right
    have dropped : items.length - keep ≤ before.length := by
      omega
    have inside : items.length - keep ≤ items.length := by
      omega
    refine ⟨before.drop (items.length - keep), after, ?_⟩
    calc
      before.drop (items.length - keep) ++ pattern ++ after
          = (before ++ (pattern ++ after)).drop (items.length - keep) := by
            rw [List.drop_append_of_le_length dropped, List.append_assoc]
      _ = lastOf keep items ++ rest := by
            rw [whole, List.drop_append_of_le_length inside, lastOf]

/-- What a window holds, the stream holds. -/
theorem infix_of_window {pattern tail window : List α} {pieces : List (List α)}
    (searched : window ∈ windows keep tail pieces) (found : pattern <:+: window) :
    pattern <:+: tail ++ pieces.flatten := by
  induction pieces generalizing tail with
  | nil => simp [windows] at searched
  | cons piece pieces ih =>
      rw [windows, List.mem_cons] at searched
      rw [List.flatten_cons, ← List.append_assoc]
      rcases searched with rfl | searched
      · exact List.infix_append_of_infix_left found
      · exact infix_of_lastOf (ih searched)

/-- A pattern of the stream that is at most one longer than what is kept is in a window, unless what
came before holds it. -/
theorem window_of_infix {pattern tail : List α} {pieces : List (List α)}
    (short : pattern.length ≤ keep + 1) (found : pattern <:+: tail ++ pieces.flatten) :
    pattern <:+: tail ∨ ∃ window ∈ windows keep tail pieces, pattern <:+: window := by
  induction pieces generalizing tail with
  | nil => exact .inl (by simpa using found)
  | cons piece pieces ih =>
      right
      rw [List.flatten_cons, ← List.append_assoc] at found
      rcases infix_append_lastOf short found with here | later
      · exact ⟨tail ++ piece, by simp [windows], here⟩
      · rcases ih later with kept | ⟨window, searched, inside⟩
        · have here : pattern <:+: tail ++ piece :=
            kept.trans (lastOf_suffix keep (tail ++ piece)).isInfix
          exact ⟨tail ++ piece, by simp [windows], here⟩
        · exact ⟨window, by simp [windows, searched], inside⟩

/-- A pattern that is at most one longer than what is kept is found in a window of a stream exactly
when it is in the stream. -/
theorem infix_window_iff {pattern : List α} {pieces : List (List α)} (inhabited : pattern ≠ [])
    (short : pattern.length ≤ keep + 1) :
    (∃ window ∈ windows keep [] pieces, pattern <:+: window) ↔ pattern <:+: pieces.flatten := by
  constructor
  · rintro ⟨window, searched, found⟩
    simpa using infix_of_window searched found
  · intro found
    have whole : pattern <:+: [] ++ pieces.flatten := by
      simpa using found
    rcases window_of_infix short whole with none | searched
    · exact absurd (List.infix_nil.mp none) inhabited
    · exact searched

end Windows
