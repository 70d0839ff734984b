import Mathlib.Data.List.Basic

/-! # Chunks of a list

A list cut into consecutive pieces of one size, of which the last may be shorter.

Main results:

- Theorem {lit}`chunks_flatten`: the pieces put together are the list.
- Theorem {lit}`length_of_mem_chunks`: every piece holds at least one element and at most the size.
-/

namespace Chunks

variable {α : Type*}

/-- The pieces of a list, of which no more than a given number is cut off. -/
def chunksUpTo (size : Nat) : Nat → List α → List (List α)
  | 0, _ => []
  | _ + 1, [] => []
  | fuel + 1, item :: items =>
      (item :: items).take size :: chunksUpTo size fuel ((item :: items).drop size)

/-- The consecutive pieces of a list.  A list has no more pieces than elements. -/
def chunks (size : Nat) (items : List α) : List (List α) :=
  chunksUpTo size items.length items

/-- Any fuel that suffices gives the same pieces. -/
theorem chunksUpTo_eq {size : Nat} (positive : 0 < size) :
    ∀ {fuel : Nat} {items : List α}, items.length ≤ fuel →
      chunksUpTo size fuel items = chunks size items := by
  intro fuel
  induction fuel using Nat.strongRecOn with
  | ind fuel ih =>
      intro items fits
      cases items with
      | nil => cases fuel <;> rfl
      | cons item items =>
          cases fuel with
          | zero => simp at fits
          | succ fuel =>
              have shorter : ((item :: items).drop size).length ≤ items.length := by
                simp only [List.length_drop, List.length_cons]
                omega
              have room : items.length ≤ fuel := by simpa using fits
              rw [chunks, List.length_cons, chunksUpTo, chunksUpTo,
                ih fuel (Nat.lt_succ_self fuel) (Nat.le_trans shorter room),
                ih items.length (by omega) shorter]

/-- The empty list has no pieces. -/
@[simp] theorem chunks_nil (size : Nat) : chunks size ([] : List α) = [] :=
  rfl

/-- The first piece of a list is cut off its front. -/
theorem chunks_of_ne_nil {size : Nat} (positive : 0 < size) {items : List α}
    (inhabited : items ≠ []) :
    chunks size items = items.take size :: chunks size (items.drop size) := by
  cases items with
  | nil => exact absurd rfl inhabited
  | cons item items =>
      have shorter : ((item :: items).drop size).length ≤ items.length := by
        simp only [List.length_drop, List.length_cons]
        omega
      rw [chunks, List.length_cons, chunksUpTo, chunksUpTo_eq positive shorter]

/-- Pieces are found by cutting one off after another. -/
theorem chunks_induction {size : Nat} (positive : 0 < size)
    {motive : List α → List (List α) → Prop} (empty : motive [] [])
    (cut : ∀ items, items ≠ [] →
      motive (items.drop size) (chunks size (items.drop size)) →
      motive items (items.take size :: chunks size (items.drop size))) (items : List α) :
    motive items (chunks size items) := by
  induction measured : items.length using Nat.strongRecOn generalizing items with
  | ind length ih =>
      by_cases inhabited : items = []
      · subst inhabited
        exact empty
      · rw [chunks_of_ne_nil positive inhabited]
        have shorter : (items.drop size).length < length := by
          have := List.length_pos_of_ne_nil inhabited
          simp only [List.length_drop]
          omega
        exact cut items inhabited (ih _ shorter _ rfl)

/-- The pieces put together are the list. -/
theorem chunks_flatten {size : Nat} (positive : 0 < size) (items : List α) :
    (chunks size items).flatten = items :=
  chunks_induction positive (motive := fun items pieces => pieces.flatten = items) rfl
    (fun items _ rest => by rw [List.flatten_cons, rest, List.take_append_drop]) items

/-- There are no more pieces than the length needs. -/
theorem length_chunks_lt {size : Nat} (positive : 0 < size) (items : List α) :
    (chunks size items).length * size < items.length + size := by
  apply chunks_induction positive
    (motive := fun items pieces => pieces.length * size < items.length + size)
  · simpa using positive
  · intro items inhabited rest
    have := List.length_pos_of_ne_nil inhabited
    rw [List.length_cons, Nat.succ_mul]
    by_cases more : size ≤ items.length
    · rw [List.length_drop] at rest
      omega
    · rw [List.drop_of_length_le (by omega), chunks_nil]
      simp only [List.length_nil]
      omega

/-- Every piece holds at least one element and at most the size. -/
theorem length_of_mem_chunks {size : Nat} (positive : 0 < size) {items piece : List α}
    (member : piece ∈ chunks size items) : 0 < piece.length ∧ piece.length ≤ size := by
  revert member
  refine chunks_induction positive
    (motive := fun _ pieces => piece ∈ pieces → 0 < piece.length ∧ piece.length ≤ size)
    (by simp) ?_ items
  intro items inhabited rest member
  rcases List.mem_cons.mp member with rfl | later
  · have := List.length_pos_of_ne_nil inhabited
    simp only [List.length_take]
    omega
  · exact rest later

/-! ## Readers -/

/-- The pieces of a list, with a mark on the last one. -/
def served (size : Nat) (items : List α) : List (List α × Bool) :=
  (chunks size items).dropLast.map (·, false) ++ (chunks size items).getLast?.toList.map (·, true)

/-- Puts pieces together up to the marked one, within some turns, sizes of pieces and a maximum. -/
def gather (size maximum : Nat) : Nat → List (List α × Bool) → List α → Option (List α)
  | 0, _, _ => none
  | _, [], _ => none
  | turns + 1, (piece, last) :: pieces, taken =>
      if size < piece.length then none
      else if maximum < (taken ++ piece).length then none
      else if last then some (taken ++ piece)
      else gather size maximum turns pieces (taken ++ piece)

/-- Pieces within the bounds are put together. -/
theorem gather_pieces {size maximum : Nat} {pieces : List (List α)} (inhabited : pieces ≠ [])
    (bounded : ∀ piece ∈ pieces, piece.length ≤ size) {turns : Nat}
    (enough : pieces.length ≤ turns) {taken : List α}
    (short : (taken ++ pieces.flatten).length ≤ maximum) :
    gather size maximum turns
        (pieces.dropLast.map (·, false) ++ pieces.getLast?.toList.map (·, true)) taken =
      some (taken ++ pieces.flatten) := by
  induction pieces generalizing turns taken with
  | nil => exact absurd rfl inhabited
  | cons piece pieces ih =>
      cases turns with
      | zero => cases enough
      | succ turns =>
          have small := bounded piece (List.mem_cons_self ..)
          rw [List.flatten_cons, ← List.append_assoc] at short ⊢
          have fits : (taken ++ piece).length ≤ maximum := by
            rw [List.length_append] at short
            omega
          cases pieces with
          | nil =>
              rw [List.flatten_nil, List.append_nil]
              simp only [List.dropLast_singleton, List.map_nil, List.getLast?_singleton,
                Option.toList_some, List.map_cons, List.nil_append, gather]
              rw [if_neg (Nat.not_lt.mpr small), if_neg (Nat.not_lt.mpr fits), if_pos trivial]
          | cons second pieces =>
              have rest := ih (List.cons_ne_nil _ _)
                (fun piece among => bounded piece (List.mem_cons_of_mem _ among))
                (Nat.le_of_succ_le_succ enough) short
              rw [List.dropLast_cons_cons, List.map_cons, List.cons_append, List.getLast?_cons_cons,
                gather, if_neg (Nat.not_lt.mpr small), if_neg (Nat.not_lt.mpr fits)]
              exact rest

/-- A list within the bounds is read as it is served. -/
theorem gather_served {size maximum turns : Nat} (positive : 0 < size) {items : List α}
    (inhabited : items ≠ []) (short : items.length ≤ maximum)
    (enough : items.length ≤ turns * size) :
    gather size maximum turns (served size items) [] = some items := by
  have whole := chunks_flatten positive items
  have count := length_chunks_lt positive items
  have some : chunks size items ≠ [] := by
    rw [chunks_of_ne_nil positive inhabited]
    exact List.cons_ne_nil _ _
  have few : (chunks size items).length ≤ turns := by
    apply Nat.le_of_lt_succ
    apply Nat.lt_of_mul_lt_mul_right (a := size)
    rw [Nat.succ_mul]
    omega
  have fits : ([] ++ (chunks size items).flatten).length ≤ maximum := by
    rwa [List.nil_append, whole]
  have read := gather_pieces some (fun piece among => (length_of_mem_chunks positive among).2)
    few fits
  rwa [List.nil_append, whole] at read

end Chunks
