import Mathlib.Data.Finset.Card
import Mathlib.Data.Finset.SDiff
import Mathlib.Order.Bounds.Basic

/-! # Worklists

A worklist search starts with some items and adds what they lead to, until nothing is left to look
at.  An item may lead to nothing that can be said, and then the search fails.

Main definitions:

- Relation {lit}`Reached`: the items that the search has to find.
- Function {lit}`search`: the search, for so many turns.

Main results:

- Theorem {lit}`search_outcome`: what the search finds.
- Theorem {lit}`search_isSome`: how many turns are enough.
-/

namespace Worklist

variable {α ε : Type*}

/-! ## Reached items -/

/-- The items that some items lead to. -/
inductive Reached (successors : α → Except ε (List α)) (start : List α) : α → Prop
  | start {item : α} (among : item ∈ start) : Reached successors start item
  | next {item other : α} {following : List α} (reached : Reached successors start item)
      (found : successors item = .ok following) (among : other ∈ following) :
      Reached successors start other

variable {successors : α → Except ε (List α)} {start : List α}

/-! ## The search -/

/-- How far a search has come: what is found is reached, and what is no longer in the queue has
been followed. -/
structure Progress (successors : α → Except ε (List α)) (start found queue : List α) : Prop where
  reached : ∀ item ∈ found, Reached successors start item
  started : ∀ item ∈ start, item ∈ found
  queued : ∀ item ∈ queue, item ∈ found
  followed : ∀ item ∈ found, item ∈ queue ∨
    ∃ following, successors item = .ok following ∧ ∀ other ∈ following, other ∈ found
  distinct : found.Nodup

/-- A search that starts with some items has made no progress yet. -/
theorem progress_start (distinct : start.Nodup) : Progress successors start start start where
  reached _ among := .start among
  started _ among := among
  queued _ among := among
  followed _ among := .inl among
  distinct := distinct

variable [DecidableEq α]

/-- Adds an item to those that are found and to the queue, unless it is found already. -/
def add (state : List α × List α) (item : α) : List α × List α :=
  if item ∈ state.1 then state else (state.1 ++ [item], state.2 ++ [item])

/-- Takes items from the end of the queue until none is left; without a result there are not enough
turns. -/
def search (successors : α → Except ε (List α)) :
    Nat → List α → List α → Option (Except ε (List α))
  | 0, _, _ => none
  | turns + 1, found, queue =>
      match queue.getLast? with
      | none => some (.ok found)
      | some item =>
          match successors item with
          | .error error => some (.error error)
          | .ok following =>
              let state := following.foldl add (found, queue.dropLast)
              search successors turns state.1 state.2

/-- The items that are found after some are added. -/
theorem mem_foldl_add {following : List α} {state : List α × List α} {item : α} :
    item ∈ (following.foldl add state).1 ↔ item ∈ state.1 ∨ item ∈ following := by
  induction following generalizing state with
  | nil => simp
  | cons first following ih =>
      rw [List.foldl_cons, ih, add]
      split
      · rename_i held
        constructor
        · rintro (among | among)
          · exact .inl among
          · exact .inr (.tail _ among)
        · rintro (among | among)
          · exact .inl among
          · rcases List.mem_cons.mp among with rfl | later
            · exact .inl held
            · exact .inr later
      · simp [or_assoc]

/-- The queue after some items are added. -/
theorem mem_queue_foldl_add {following : List α} {state : List α × List α} {item : α} :
    item ∈ (following.foldl add state).2 ↔
      item ∈ state.2 ∨ (item ∈ following ∧ item ∉ state.1) := by
  induction following generalizing state with
  | nil => simp
  | cons first following ih =>
      rw [List.foldl_cons, ih, add]
      by_cases held : first ∈ state.1
      · rw [if_pos held]
        by_cases same : item = first
        · subst same
          simp [held]
        · simp [same]
      · rw [if_neg held]
        by_cases same : item = first
        · subst same
          simp [held]
        · simp [same]

/-- Items that are found once stay found once. -/
theorem nodup_foldl_add {following : List α} {state : List α × List α}
    (distinct : state.1.Nodup) : (following.foldl add state).1.Nodup := by
  induction following generalizing state with
  | nil => exact distinct
  | cons first following ih =>
      rw [List.foldl_cons]
      apply ih
      unfold add
      split
      · exact distinct
      · rename_i fresh
        rw [List.nodup_append]
        refine ⟨distinct, by simp, ?_⟩
        rintro item among _ (last : _ ∈ [first]) rfl
        exact fresh (List.mem_singleton.mp last ▸ among)

/-- A turn of the search makes progress. -/
theorem Progress.turn {found queue : List α} {item : α} {following : List α}
    (progress : Progress successors start found queue) (last : queue.getLast? = some item)
    (found' : successors item = .ok following) :
    Progress successors start (following.foldl add (found, queue.dropLast)).1
      (following.foldl add (found, queue.dropLast)).2 := by
  have whole : queue.dropLast ++ [item] = queue := List.dropLast_append_getLast? item last
  have here : item ∈ found := progress.queued item (by rw [← whole]; simp)
  constructor
  · intro other among
    rcases mem_foldl_add.mp among with held | later
    · exact progress.reached other held
    · exact .next (progress.reached item here) found' later
  · intro other among
    exact mem_foldl_add.mpr (.inl (progress.started other among))
  · intro other among
    rcases mem_queue_foldl_add.mp among with held | ⟨later, -⟩
    · have before : other ∈ queue := by
        rw [← whole]
        exact List.mem_append_left _ held
      exact mem_foldl_add.mpr (.inl (progress.queued other before))
    · exact mem_foldl_add.mpr (.inr later)
  · intro other among
    by_cases held : other ∈ found
    · rcases progress.followed other held with waits | ⟨next, leads, inside⟩
      · rw [← whole, List.mem_append, List.mem_singleton] at waits
        rcases waits with waits | rfl
        · exact .inl (mem_queue_foldl_add.mpr (.inl waits))
        · exact .inr ⟨following, found', fun after later => mem_foldl_add.mpr (.inr later)⟩
      · exact .inr ⟨next, leads, fun after later => mem_foldl_add.mpr (.inl (inside after later))⟩
    · have later := (mem_foldl_add.mp among).resolve_left held
      exact .inl (mem_queue_foldl_add.mpr (.inr ⟨later, held⟩))
  · exact nodup_foldl_add progress.distinct

/-- What a search finds: all that is reached, once each, or an item that leads to an error. -/
theorem search_outcome {turns : Nat} {found queue : List α} {outcome : Except ε (List α)}
    (progress : Progress successors start found queue)
    (searched : search successors turns found queue = some outcome) :
    (∀ items, outcome = .ok items → items.Nodup ∧
      (∀ item, item ∈ items ↔ Reached successors start item) ∧
      ∀ item ∈ items, ∃ following, successors item = .ok following) ∧
    ∀ error, outcome = .error error →
      ∃ item, Reached successors start item ∧ successors item = .error error := by
  induction turns generalizing found queue with
  | zero => cases searched
  | succ turns ih =>
      unfold search at searched
      split at searched
      · rename_i nothing
        cases searched
        have empty : queue = [] := List.getLast?_eq_none_iff.mp nothing
        subst empty
        refine ⟨?_, fun error same => (nomatch same)⟩
        rintro items ⟨⟩
        have followed : ∀ item ∈ found, ∃ following, successors item = .ok following ∧
            ∀ other ∈ following, other ∈ found := by
          intro item among
          exact (progress.followed item among).resolve_left (by simp)
        refine ⟨progress.distinct, fun item => ⟨progress.reached item, fun reached => ?_⟩,
          fun item among => ?_⟩
        · induction reached with
          | start among => exact progress.started _ among
          | next _ leads among inside =>
              rcases followed _ inside with ⟨following, leads', all⟩
              rw [leads, Except.ok.injEq] at leads'
              subst leads'
              exact all _ among
        · rcases followed item among with ⟨following, leads, -⟩
          exact ⟨following, leads⟩
      · rename_i item last
        split at searched
        · rename_i error refused
          cases searched
          refine ⟨fun items same => (nomatch same), ?_⟩
          rintro error' ⟨⟩
          have whole : queue.dropLast ++ [item] = queue := List.dropLast_append_getLast? item last
          have here : item ∈ found := progress.queued item (by rw [← whole]; simp)
          exact ⟨item, progress.reached item here, refused⟩
        · rename_i following leads
          exact ih (progress.turn last leads) searched

/-! ## Turns -/

/-- Items that are added take as much from what is not found as they put into the queue. -/
theorem measure_foldl_add {possible : Finset α} {following : List α}
    (inside : ∀ item ∈ following, item ∈ possible) (state : List α × List α) :
    (possible \ (following.foldl add state).1.toFinset).card +
        (following.foldl add state).2.length ≤
      (possible \ state.1.toFinset).card + state.2.length := by
  induction following generalizing state with
  | nil => exact le_rfl
  | cons first following ih =>
      rw [List.foldl_cons]
      have later := fun item among => inside item (List.mem_cons_of_mem first among)
      refine (ih later (add state first)).trans ?_
      unfold add
      split
      · exact le_rfl
      · rename_i fresh
        have smaller : possible \ (state.1 ++ [first]).toFinset ⊂
            possible \ state.1.toFinset := by
          rw [Finset.ssubset_iff_of_subset]
          · refine ⟨first, ?_, ?_⟩
            · simp [inside first (by simp), fresh]
            · simp
          · intro item among
            simp only [Finset.mem_sdiff, List.mem_toFinset, List.mem_append, not_or] at among ⊢
            exact ⟨among.1, among.2.1⟩
        have less := Finset.card_lt_card smaller
        dsimp only
        rw [List.length_append, List.length_singleton]
        omega

/-- A turn for each item that can be found is enough. -/
theorem search_isSome {possible : Finset α}
    (inside : ∀ item following, successors item = .ok following →
      ∀ other ∈ following, other ∈ possible) {turns : Nat} {found queue : List α}
    (enough : (possible \ found.toFinset).card + queue.length < turns) :
    (search successors turns found queue).isSome = true := by
  induction turns generalizing found queue with
  | zero => omega
  | succ turns ih =>
      unfold search
      split
      · rfl
      · rename_i item last
        split
        · rfl
        · rename_i following leads
          apply ih
          have whole := congrArg List.length (List.dropLast_append_getLast? item last)
          rw [List.length_append, List.length_singleton] at whole
          have less := measure_foldl_add (inside item following leads) (found, queue.dropLast)
          dsimp only at less
          omega

/-- More turns find the same. -/
theorem search_of_le {turns more : Nat} (less : turns ≤ more) {found queue : List α}
    {outcome : Except ε (List α)} (searched : search successors turns found queue = some outcome) :
    search successors more found queue = some outcome := by
  induction turns generalizing more found queue with
  | zero => cases searched
  | succ turns ih =>
      cases more with
      | zero => omega
      | succ more =>
          unfold search at searched ⊢
          split at searched
          · exact searched
          · split at searched
            · exact searched
            · exact ih (by omega) searched

end Worklist
