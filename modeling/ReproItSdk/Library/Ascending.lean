import ReproItSdk.Library.Json

/-! # Lists that go up strictly

A loop that keeps the previous item and refuses an item that is not greater accepts the lists that
go up strictly.  Of sorted items it accepts those whose codes are distinct.

Main results:

- Theorem {lit}`ascends_iff_pairwise`: what the loop accepts.
- Theorem {lit}`ascends_sortBy_iff`: what it accepts of sorted items.
-/

namespace Ascending

variable {α γ : Type*} [LinearOrder γ]

/-- The loop: every item is greater than the one before it. -/
def ascends : Option γ → List γ → Bool
  | _, [] => true
  | previous, item :: items =>
      (previous.all fun before => decide (before < item)) && ascends (some item) items

/-- The loop accepts the lists that go up strictly from what came before. -/
theorem ascends_iff_pairwise (previous : Option γ) (items : List γ) :
    ascends previous items = true ↔
      (∀ before ∈ previous, ∀ item ∈ items, before < item) ∧ items.Pairwise (· < ·) := by
  induction items generalizing previous with
  | nil => simp [ascends]
  | cons item items ih =>
      rw [ascends, Bool.and_eq_true, ih, List.pairwise_cons]
      cases previous with
      | none => simp
      | some before =>
          simp only [Option.all_some, decide_eq_true_eq, Option.mem_def, Option.some.injEq,
            forall_eq', List.forall_mem_cons]
          constructor
          · rintro ⟨first, later, up⟩
            exact ⟨⟨first, fun next among => first.trans (later next among)⟩, later, up⟩
          · rintro ⟨⟨first, -⟩, later, up⟩
            exact ⟨first, later, up⟩

/-- The loop accepts sorted items exactly when their codes are distinct. -/
theorem ascends_sortBy_iff (code : α → γ) (items : List α) :
    ascends none ((Json.sortBy code items).map code) = true ↔ (items.map code).Nodup := by
  have perm : ((Json.sortBy code items).map code).Perm (items.map code) :=
    (Json.sortBy_perm code items).map code
  have up : ((Json.sortBy code items).map code).Pairwise (· ≤ ·) := by
    rw [List.pairwise_map]
    exact Json.pairwise_sortBy code items
  rw [ascends_iff_pairwise, ← perm.nodup_iff]
  constructor
  · rintro ⟨-, strict⟩
    exact strict.imp fun less => ne_of_lt less
  · intro distinct
    refine ⟨by simp, ?_⟩
    exact (up.and distinct).imp fun both => lt_of_le_of_ne both.1 both.2

end Ascending
