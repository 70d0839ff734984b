import Mathlib.Data.List.Basic
import Mathlib.Data.List.Induction

/-! # Replacing words of a text

Replacing several words one after the other, each one over the whole text, is the same as replacing
them all in one pass from left to right when every word starts with a mark that stands nowhere else
in the words and no replacement is an item of a word.

Main results:

- Theorem {lit}`rewrite_append`: an unmarked part of a text is copied.
- Theorem {lit}`prefix_of_prefix_rewrite`: rewriting makes no new unmarked words.
- Theorem {lit}`foldl_replaceAll`: the passes of several marked rules are one pass.
-/

namespace Rewriting

variable {α : Type*}

/-- A rule of replacement: a word and the item that takes its place. -/
abbrev Rule (α : Type*) : Type _ :=
  List α × α

section Pass

variable [DecidableEq α]

/-- The first rule whose word starts the text. -/
def matching? (rules : List (Rule α)) (text : List α) : Option (Rule α) :=
  rules.find? fun rule => rule.1.isPrefixOf text

/-- One pass from left to right that still skips some items of the last word it replaced. -/
def rewriteFrom (rules : List (Rule α)) : Nat → List α → List α
  | _, [] => []
  | skip + 1, _ :: rest => rewriteFrom rules skip rest
  | 0, item :: rest =>
      match matching? rules (item :: rest) with
      | some rule => rule.2 :: rewriteFrom rules (rule.1.length - 1) rest
      | none => item :: rewriteFrom rules 0 rest

/-- Replaces the words of the rules in one pass from left to right. -/
def rewrite (rules : List (Rule α)) (text : List α) : List α :=
  rewriteFrom rules 0 text

/-- Replaces every occurrence of a nonempty word by an item. -/
def replaceAll (word : List α) (item : α) (text : List α) : List α :=
  rewrite [(word, item)] text

/-! ## One pass -/

/-- The empty text is left as it is. -/
@[simp] theorem rewrite_nil (rules : List (Rule α)) : rewrite rules [] = [] :=
  rfl

/-- Skipping is dropping. -/
theorem rewriteFrom_eq (rules : List (Rule α)) (skip : Nat) (text : List α) :
    rewriteFrom rules skip text = rewrite rules (text.drop skip) := by
  induction skip generalizing text with
  | zero => rfl
  | succ skip ih =>
      cases text with
      | nil => rfl
      | cons item rest => exact ih rest

/-- A rule that matches starts the text with its word. -/
theorem prefix_of_matching {rules : List (Rule α)} {text : List α} {rule : Rule α}
    (found : matching? rules text = some rule) : rule ∈ rules ∧ rule.1 <+: text :=
  ⟨List.mem_of_find?_eq_some found, List.isPrefixOf_iff_prefix.mp
    (List.find?_some (p := fun rule : Rule α => rule.1.isPrefixOf text) found)⟩

/-- No rule matches exactly when no word starts the text. -/
theorem matching_eq_none {rules : List (Rule α)} {text : List α} :
    matching? rules text = none ↔ ∀ rule ∈ rules, ¬ rule.1 <+: text := by
  simp [matching?, List.find?_eq_none]

/-- A word that is found is replaced. -/
theorem rewrite_of_matching {rules : List (Rule α)} {rule : Rule α} {rest : List α}
    (filled : rule.1 ≠ []) (found : matching? rules (rule.1 ++ rest) = some rule) :
    rewrite rules (rule.1 ++ rest) = rule.2 :: rewrite rules rest := by
  cases word : rule.1 with
  | nil => exact absurd word filled
  | cons item items =>
      rw [word, List.cons_append] at found
      rw [List.cons_append, rewrite, rewriteFrom, found]
      dsimp only
      rw [rewriteFrom_eq, word, List.length_cons, Nat.add_sub_cancel, List.drop_left]

/-- An item where no word starts is copied. -/
theorem rewrite_of_no_matching {rules : List (Rule α)} {item : α} {rest : List α}
    (missing : matching? rules (item :: rest) = none) :
    rewrite rules (item :: rest) = item :: rewrite rules rest := by
  rw [rewrite, rewriteFrom, missing]
  rfl

end Pass

/-! ## Marked rules -/

/-- Every word starts with the mark and has no other one, and no replacement is an item of a
word. -/
structure Marked (mark : α) (rules : List (Rule α)) : Prop where
  word : ∀ rule ∈ rules, ∃ tail, rule.1 = mark :: tail ∧ mark ∉ tail
  fresh : ∀ rule ∈ rules, ∀ other ∈ rules, rule.2 ∉ other.1

namespace Marked

variable {mark : α} {rules : List (Rule α)}

/-- Some of the rules are marked rules. -/
theorem mono (marked : Marked mark rules) {others : List (Rule α)}
    (part : ∀ rule ∈ others, rule ∈ rules) : Marked mark others :=
  ⟨fun rule member => marked.word rule (part rule member),
    fun rule member other among => marked.fresh rule (part rule member) other (part other among)⟩

/-- Words are not empty. -/
theorem filled (marked : Marked mark rules) {rule : Rule α} (member : rule ∈ rules) :
    rule.1 ≠ [] := by
  obtain ⟨tail, word, -⟩ := marked.word rule member
  simp [word]

/-- Replacements are not marks. -/
theorem ne_mark (marked : Marked mark rules) {rule : Rule α} (member : rule ∈ rules) :
    rule.2 ≠ mark := by
  obtain ⟨tail, word, -⟩ := marked.word rule member
  rintro equal
  exact marked.fresh rule member rule member (by simp [word, equal])

variable [DecidableEq α]

/-- No word starts at another item than the mark. -/
theorem matching_of_ne (marked : Marked mark rules) {item : α} (other : item ≠ mark)
    (rest : List α) : matching? rules (item :: rest) = none := by
  rw [matching_eq_none]
  rintro rule member ⟨back, text⟩
  obtain ⟨tail, word, -⟩ := marked.word rule member
  rw [word, List.cons_append, List.cons.injEq] at text
  exact other text.1.symm

/-- Induction along a pass: words that are replaced and items that are copied. -/
theorem induction (marked : Marked mark rules) {motive : List α → Prop} (nil : motive [])
    (hit : ∀ rule rest, rule ∈ rules → matching? rules (rule.1 ++ rest) = some rule →
      motive rest → motive (rule.1 ++ rest))
    (copy : ∀ item rest, matching? rules (item :: rest) = none → motive rest →
      motive (item :: rest))
    (text : List α) : motive text := by
  induction length : text.length using Nat.strongRecOn generalizing text with
  | ind size ih =>
      cases text with
      | nil => exact nil
      | cons item rest =>
          cases found : matching? rules (item :: rest) with
          | none => exact copy item rest found (ih rest.length (by simp [← length]) rest rfl)
          | some rule =>
              obtain ⟨member, back, text⟩ := prefix_of_matching found
              have shorter : back.length < size := by
                have := List.length_pos_iff.mpr (marked.filled member)
                rw [← length, ← text, List.length_append]
                omega
              rw [← text] at found ⊢
              exact hit rule back member found (ih back.length shorter back rfl)

end Marked

variable [DecidableEq α]

/-- An unmarked part of a text is copied. -/
theorem rewrite_append {mark : α} {rules : List (Rule α)} (marked : Marked mark rules)
    {front : List α} (unmarked : mark ∉ front) (rest : List α) :
    rewrite rules (front ++ rest) = front ++ rewrite rules rest := by
  induction front with
  | nil => rfl
  | cons item front ih =>
      rw [List.mem_cons, not_or] at unmarked
      rw [List.cons_append, rewrite_of_no_matching
        (marked.matching_of_ne (fun equal => unmarked.1 equal.symm) _), ih unmarked.2,
        List.cons_append]

/-- Rewriting makes no new words: one that starts the result and has neither a mark nor a
replacement started the text. -/
theorem prefix_of_prefix_rewrite {mark : α} {rules : List (Rule α)} (marked : Marked mark rules)
    {word : List α} (fresh : ∀ rule ∈ rules, rule.2 ∉ word) (text : List α)
    (starts : word <+: rewrite rules text) : word <+: text := by
  induction word generalizing text with
  | nil => exact List.nil_prefix
  | cons item word ih =>
      induction text using marked.induction with
      | nil => simp at starts
      | hit rule rest member found _ =>
          rw [rewrite_of_matching (marked.filled member) found, List.cons_prefix_cons] at starts
          exact absurd (by simp [starts.1]) (fresh rule member)
      | copy other rest missing _ =>
          rw [rewrite_of_no_matching missing, List.cons_prefix_cons] at starts
          rw [List.cons_prefix_cons]
          refine ⟨starts.1, ih (fun rule member among => ?_) rest starts.2⟩
          exact fresh rule member (List.mem_cons_of_mem _ among)

/-! ## Several passes -/

/-- A pass with one more rule after the pass with the others is a pass with all of them. -/
theorem replaceAll_rewrite {mark : α} {rules : List (Rule α)} {last : Rule α}
    (marked : Marked mark (rules ++ [last])) (text : List α) :
    replaceAll last.1 last.2 (rewrite rules text) = rewrite (rules ++ [last]) text := by
  have front : Marked mark rules :=
    marked.mono fun rule member => List.mem_append_left _ member
  have back : Marked mark [last] :=
    marked.mono fun rule member => List.mem_append_right _ member
  have member : last ∈ rules ++ [last] := by simp
  obtain ⟨tail, word, unmarked⟩ := marked.word last member
  unfold replaceAll
  induction text using marked.induction with
  | nil => rfl
  | hit rule rest _ found ih =>
      rw [rewrite_of_matching (marked.filled (prefix_of_matching found).1) found, ← ih]
      rw [matching?, List.find?_append] at found
      cases earlier : matching? rules (rule.1 ++ rest) with
      | some first =>
          obtain rfl : first = rule := by
            rw [matching?] at earlier
            simpa [earlier] using found
          have among := (prefix_of_matching earlier).1
          rw [rewrite_of_matching (front.filled among) earlier,
            rewrite_of_no_matching (back.matching_of_ne (front.ne_mark among) _)]
      | none =>
          obtain rfl : rule = last := by
            rw [matching?] at earlier
            rw [earlier, Option.none_or, List.find?_singleton] at found
            split at found
            · exact (Option.some.inj found).symm
            · cases found
          have copied : rewrite rules (rule.1 ++ rest) = rule.1 ++ rewrite rules rest := by
            rw [word, List.cons_append] at earlier
            rw [word, List.cons_append, rewrite_of_no_matching earlier,
              rewrite_append front unmarked, List.cons_append]
          rw [copied]
          refine rewrite_of_matching (back.filled (List.mem_singleton_self _)) ?_
          simp [matching?]
  | copy item rest missing ih =>
      have absent := matching_eq_none.mp missing
      rw [rewrite_of_no_matching missing, rewrite_of_no_matching (matching_eq_none.mpr
        fun rule among => absent rule (List.mem_append_left _ among)), ← ih]
      refine rewrite_of_no_matching (matching_eq_none.mpr fun rule among starts => ?_)
      obtain rfl := List.mem_singleton.mp among
      refine absent _ member ?_
      rw [word, List.cons_prefix_cons] at starts ⊢
      refine ⟨starts.1, prefix_of_prefix_rewrite front (fun other among inside => ?_) rest starts.2⟩
      exact marked.fresh other (List.mem_append_left _ among) _ member
        (by rw [word]; exact List.mem_cons_of_mem _ inside)

/-- The passes of several marked rules, one after the other, are one pass. -/
theorem foldl_replaceAll {mark : α} {rules : List (Rule α)} (marked : Marked mark rules)
    (text : List α) :
    rules.foldl (fun text rule => replaceAll rule.1 rule.2 text) text = rewrite rules text := by
  induction rules using List.reverseRecOn with
  | nil =>
      induction text with
      | nil => rfl
      | cons item rest ih =>
          rw [rewrite_of_no_matching (matching_eq_none.mpr (by simp)), ← ih]
          rfl
  | append_singleton rules last ih =>
      rw [List.foldl_append, ih (marked.mono fun rule member => List.mem_append_left _ member)]
      exact replaceAll_rewrite marked text

end Rewriting
