import ReproItSdk.Library.Windows

/-! # Scans for matches

A scan goes through a text from left to right, takes the match at each place where there is one and
goes on behind it.  A scan through the windows of a stream ends with the last match of the last
window that has one.

Main definitions:

- Function {lit}`scan`: the matches of a text, with their places.
- Definition {lit}`SeesLast`: the windows show the last match of the stream as the stream does.

Main results:

- Theorem {lit}`seen_eq_iff`: the windows of a stream end with its last match exactly when they see
  it.
-/

namespace Scanning

open Windows

variable {α β : Type*}

/-- A match of a text: where it begins, where it ends and what it says. -/
structure Match (β : Type*) where
  index : Nat
  stop : Nat
  value : β
deriving DecidableEq

/-! ## One text -/

section Scan

variable (find : List α → Option (β × Nat))

/-- The matches of a text that begins at a position, after some items that are passed over.  What is
found at the front of a text is its value and its length. -/
def scan : Nat → Nat → List α → List (Match β)
  | _, _, [] => []
  | position, skip + 1, _ :: text => scan (position + 1) skip text
  | position, 0, item :: text =>
      match find (item :: text) with
      | some (value, length) =>
          ⟨position, position + length, value⟩ :: scan (position + 1) (length - 1) text
      | none => scan (position + 1) 0 text

-- made here once for all proofs below
attribute [elab_as_elim] scan.induct_unfolding

/-- What is found in a text depends on little of it: a match has a length within the text, stays one
in a longer text where it keeps its length unless its value changes, and is one of every text that
holds it. -/
structure Local : Prop where
  positive : ∀ {text : List α} {value : β} {length : Nat},
    find text = some (value, length) → 0 < length
  bounded : ∀ {text : List α} {value : β} {length : Nat},
    find text = some (value, length) → length ≤ text.length
  grows : ∀ {text : List α} {value : β} {length : Nat} (more : List α),
    find text = some (value, length) → ∃ value' length',
      find (text ++ more) = some (value', length') ∧ length ≤ length' ∧
        (value' = value → length' = length)
  shrinks : ∀ {text more : List α} {value : β} {length : Nat},
    find (text ++ more) = some (value, length) → length ≤ text.length →
      find text = some (value, length)

end Scan

variable {find : List α → Option (β × Nat)}

/-- A match of a scan is found where it begins. -/
theorem mem_scan (near : Local find) {position skip : Nat} {text : List α} {found : Match β}
    (among : found ∈ scan find position skip text) :
    position + skip ≤ found.index ∧ found.index < found.stop ∧
      found.stop ≤ position + text.length ∧
      find (text.drop (found.index - position)) =
        some (found.value, found.stop - found.index) := by
  fun_induction scan find position skip text with
  | case1 => simp at among
  | case2 position skip item text ih =>
      obtain ⟨later, proper, inside, here⟩ := ih among
      refine ⟨by omega, proper, by simp only [List.length_cons]; omega, ?_⟩
      obtain ⟨offset, placed⟩ : ∃ offset, found.index - position = offset + 1 :=
        ⟨found.index - position - 1, by omega⟩
      rw [placed, List.drop_succ_cons]
      rwa [show found.index - (position + 1) = offset by omega] at here
  | case3 position item text value length first ih =>
      have positive := near.positive first
      have bounded := near.bounded first
      rcases List.mem_cons.mp among with rfl | among
      · refine ⟨by simp, by simp only; omega, by simpa using bounded, ?_⟩
        simp only [Nat.sub_self, List.drop_zero, Nat.add_sub_cancel_left]
        exact first
      · obtain ⟨later, proper, inside, here⟩ := ih among
        refine ⟨by omega, proper, by simp only [List.length_cons]; omega, ?_⟩
        obtain ⟨offset, placed⟩ : ∃ offset, found.index - position = offset + 1 :=
          ⟨found.index - position - 1, by omega⟩
        rw [placed, List.drop_succ_cons]
        rwa [show found.index - (position + 1) = offset by omega] at here
  | case4 position item text first ih =>
      obtain ⟨later, proper, inside, here⟩ := ih among
      refine ⟨by omega, proper, by simp only [List.length_cons]; omega, ?_⟩
      obtain ⟨offset, placed⟩ : ∃ offset, found.index - position = offset + 1 :=
        ⟨found.index - position - 1, by omega⟩
      rw [placed, List.drop_succ_cons]
      rwa [show found.index - (position + 1) = offset by omega] at here

/-- A scan passes over no match: where one is found, a match of the scan begins or lies. -/
theorem exists_covering (near : Local find) {position skip place : Nat} {text : List α}
    {value : β} {length : Nat} (after : position + skip ≤ place)
    (here : find (text.drop (place - position)) = some (value, length)) :
    ∃ found ∈ scan find position skip text, found.index ≤ place ∧ place < found.stop := by
  fun_induction scan find position skip text with
  | case1 =>
      have positive := near.positive here
      have bounded := near.bounded here
      simp at bounded
      omega
  | case2 position skip item text ih =>
      obtain ⟨offset, placed⟩ : ∃ offset, place - position = offset + 1 :=
        ⟨place - position - 1, by omega⟩
      apply ih (by omega)
      rw [placed, List.drop_succ_cons] at here
      rwa [show place - (position + 1) = offset by omega]
  | case3 position item text value' length' first ih =>
      have positive := near.positive first
      by_cases inside : place < position + length'
      · exact ⟨_, List.mem_cons_self, by simpa using after, inside⟩
      · obtain ⟨offset, placed⟩ : ∃ offset, place - position = offset + 1 :=
          ⟨place - position - 1, by omega⟩
        rw [placed, List.drop_succ_cons] at here
        obtain ⟨found, among, covers⟩ := ih (by omega)
          (by rwa [show place - (position + 1) = offset by omega])
        exact ⟨found, List.mem_cons_of_mem _ among, covers⟩
  | case4 position item text first ih =>
      have moved : place ≠ position := by
        rintro rfl
        rw [Nat.sub_self, List.drop_zero, first] at here
        cases here
      obtain ⟨offset, placed⟩ : ∃ offset, place - position = offset + 1 :=
        ⟨place - position - 1, by omega⟩
      apply ih (by omega)
      rw [placed, List.drop_succ_cons] at here
      rwa [show place - (position + 1) = offset by omega]

/-- A scan that passes over nothing at first passes over no match. -/
theorem exists_covering_zero (near : Local find) {position place : Nat} {text : List α}
    {value : β} {length : Nat} (after : position ≤ place)
    (here : find (text.drop (place - position)) = some (value, length)) :
    ∃ found ∈ scan find position 0 text, found.index ≤ place ∧ place < found.stop :=
  exists_covering near after here

/-- The matches of a scan follow each other. -/
theorem scan_ordered (near : Local find) (position skip : Nat) (text : List α) :
    (scan find position skip text).Pairwise fun first second => first.stop ≤ second.index := by
  fun_induction scan find position skip text with
  | case1 => exact List.Pairwise.nil
  | case2 position skip item text ih => exact ih
  | case3 position item text value length first ih =>
      refine List.pairwise_cons.mpr ⟨?_, ih⟩
      intro found among
      have positive := near.positive first
      have later := (mem_scan near among).1
      simp only
      omega
  | case4 position item text first ih => exact ih

/-- Items that are passed over are not scanned. -/
theorem scan_skip (position skip : Nat) (text : List α) :
    scan find position skip text = scan find (position + skip) 0 (text.drop skip) := by
  induction text generalizing position skip with
  | nil => simp [scan]
  | cons item text ih =>
      cases skip with
      | zero => rfl
      | succ skip =>
          rw [scan, ih, List.drop_succ_cons, Nat.add_assoc, Nat.add_comm 1 skip]

/-- A scan goes on behind a match. -/
theorem scan_of_match (near : Local find) {position : Nat} {text : List α} {value : β}
    {length : Nat} (first : find text = some (value, length)) :
    scan find position 0 text = ⟨position, position + length, value⟩ ::
      scan find (position + length) 0 (text.drop length) := by
  have positive := near.positive first
  have bounded := near.bounded first
  cases text with
  | nil => simp at bounded; omega
  | cons item text =>
      obtain ⟨less, rfl⟩ : ∃ less, length = less + 1 := ⟨length - 1, by omega⟩
      rw [scan, first]
      simp only [Nat.add_sub_cancel, List.drop_succ_cons]
      rw [scan_skip, Nat.add_assoc, Nat.add_comm 1 less]

/-- The values of a scan do not depend on where the text begins. -/
theorem scan_values (position other skip : Nat) (text : List α) :
    (scan find position skip text).map Match.value =
      (scan find other skip text).map Match.value := by
  induction text generalizing position other skip with
  | nil => rfl
  | cons item text ih =>
      cases skip with
      | succ skip =>
          rw [scan, scan]
          exact ih (position + 1) (other + 1) skip
      | zero =>
          rw [scan, scan]
          rcases find (item :: text) with _ | ⟨value, length⟩
          · exact ih (position + 1) (other + 1) 0
          · simp only [List.map_cons]
            rw [ih (position + 1) (other + 1) (length - 1)]

/-- The last match of a scan: every other one ends before it begins. -/
theorem before_last (near : Local find) {position skip : Nat} {text : List α}
    {found last : Match β} (ends : (scan find position skip text).getLast? = some last)
    (among : found ∈ scan find position skip text) :
    found = last ∨ found.stop ≤ last.index := by
  have ordered := scan_ordered near position skip text
  obtain ⟨front, whole⟩ := List.getLast?_eq_some_iff.mp ends
  rw [whole] at ordered among
  rcases List.mem_append.mp among with earlier | here
  · exact .inr ((List.pairwise_append.mp ordered).2.2 found earlier last (by simp))
  · exact .inl (by simpa using here)

/-- Nothing is found behind the last match. -/
theorem lt_stop_of_last (near : Local find) {text : List α} {last : Match β}
    (ends : (scan find 0 0 text).getLast? = some last) {place : Nat} {value : β} {length : Nat}
    (here : find (text.drop place) = some (value, length)) : place < last.stop := by
  have here' : find (text.drop (place - 0)) = some (value, length) := here
  obtain ⟨found, among, -, inside⟩ := exists_covering_zero near (Nat.zero_le place) here'
  rcases before_last near ends among with rfl | earlier
  · exact inside
  · have proper := (mem_scan near (List.mem_of_getLast? ends)).2.1
    omega

/-- A match behind which nothing is found is the last one. -/
theorem getLast?_of_mem (near : Local find) {position : Nat} {text : List α} {found : Match β}
    (among : found ∈ scan find position 0 text)
    (behind : ∀ place value length, found.stop ≤ place →
      find (text.drop (place - position)) ≠ some (value, length)) :
    (scan find position 0 text).getLast? = some found := by
  rcases ends : (scan find position 0 text).getLast? with _ | last
  · rw [List.getLast?_eq_none_iff.mp ends] at among
    simp at among
  · have listed := mem_scan near (List.mem_of_getLast? ends)
    rcases before_last near ends among with rfl | earlier
    · rfl
    · exact absurd listed.2.2.2 (behind last.index _ _ earlier)

/-! ## Windows -/

/-- The windows of a stream, each with the place where it begins. -/
def placed (keep : Nat) : Nat → List α → List (List α) → List (Nat × List α)
  | _, _, [] => []
  | start, tail, piece :: pieces =>
      (start, tail ++ piece) ::
        placed keep (start + ((tail ++ piece).length - keep)) (lastOf keep (tail ++ piece)) pieces

/-- What is left of a text behind the kept end of a window. -/
theorem drop_lastOf {keep start : Nat} {text tail rest : List α}
    (whole : text.drop start = tail ++ rest) :
    text.drop (start + (tail.length - keep)) = lastOf keep tail ++ rest := by
  rw [← List.drop_drop, whole, List.drop_append_of_le_length (Nat.sub_le _ _), lastOf]

/-- A window is a part of the text, from the place where it begins. -/
theorem prefix_of_placed {keep start : Nat} {text tail : List α} {pieces : List (List α)}
    (whole : text.drop start = tail ++ pieces.flatten) {window : Nat × List α}
    (among : window ∈ placed keep start tail pieces) : window.2 <+: text.drop window.1 := by
  induction pieces generalizing start tail with
  | nil => simp [placed] at among
  | cons piece pieces ih =>
      rw [List.flatten_cons, ← List.append_assoc] at whole
      rcases List.mem_cons.mp among with rfl | among
      · rw [whole]
        exact List.prefix_append _ _
      · exact ih (drop_lastOf whole) among

/-- A later window ends no earlier than what was read before it. -/
theorem stop_le_of_placed {keep start : Nat} {tail : List α} {pieces : List (List α)}
    {window : Nat × List α} (among : window ∈ placed keep start tail pieces) :
    start + tail.length ≤ window.1 + window.2.length := by
  induction pieces generalizing start tail with
  | nil => simp [placed] at among
  | cons piece pieces ih =>
      rcases List.mem_cons.mp among with rfl | among
      · simp
      · have later := ih among
        rw [lastOf, List.length_drop, List.length_append] at later
        omega

/-- Later windows end no earlier. -/
theorem placed_ordered (keep start : Nat) (tail : List α) (pieces : List (List α)) :
    (placed keep start tail pieces).Pairwise fun first second =>
      first.1 + first.2.length ≤ second.1 + second.2.length := by
  induction pieces generalizing start tail with
  | nil => exact List.Pairwise.nil
  | cons piece pieces ih =>
      refine List.pairwise_cons.mpr ⟨?_, ih _ _⟩
      intro window among
      have later := stop_le_of_placed among
      rw [lastOf, List.length_drop] at later
      simp only
      omega

/-- The last match of the last window that has one. -/
def seen (find : List α → Option (β × Nat)) (shown : List (Nat × List α)) : Option (Match β) :=
  shown.foldl (fun known window => (scan find window.1 0 window.2).getLast?.or known) none

/-- The windows show the last match of a text as the text does: the last window that begins no later
than the match holds it whole, no match found there lies across its beginning, and the windows that
begin inside it have no match. -/
def SeesLast (find : List α → Option (β × Nat)) (text : List α) (shown : List (Nat × List α)) :
    Prop :=
  ∀ last, (scan find 0 0 text).getLast? = some last → ∃ before window after,
    shown = before ++ window :: after ∧ window.1 ≤ last.index ∧
      last.stop ≤ window.1 + window.2.length ∧
      (∀ found ∈ scan find window.1 0 window.2,
        ¬(found.index < last.index ∧ last.index < found.stop)) ∧
      ∀ later ∈ after, last.index < later.1 ∧
        (later.1 < last.stop → scan find later.1 0 later.2 = [])

/-- Windows without a match leave what was seen before them. -/
theorem foldl_seen_of_nil {shown : List (Nat × List α)} (known : Option (Match β))
    (none_ : ∀ window ∈ shown, scan find window.1 0 window.2 = []) :
    shown.foldl (fun known window => (scan find window.1 0 window.2).getLast?.or known) known =
      known := by
  induction shown generalizing known with
  | nil => rfl
  | cons window shown ih =>
      rw [List.foldl_cons, none_ window (by simp)]
      exact ih known fun later among => none_ later (List.mem_cons_of_mem _ among)

/-- What is seen is the last match of a window, and later windows have none. -/
theorem foldl_seen_eq_some {shown : List (Nat × List α)} {known : Option (Match β)}
    {last : Match β}
    (ends : shown.foldl (fun known window => (scan find window.1 0 window.2).getLast?.or known)
      known = some last) :
    (known = some last ∧ ∀ window ∈ shown, scan find window.1 0 window.2 = []) ∨
      ∃ before window after, shown = before ++ window :: after ∧
        (scan find window.1 0 window.2).getLast? = some last ∧
        ∀ later ∈ after, scan find later.1 0 later.2 = [] := by
  induction shown generalizing known with
  | nil => exact .inl ⟨ends, by simp⟩
  | cons window shown ih =>
      rw [List.foldl_cons] at ends
      rcases ih ends with ⟨here, rest⟩ | ⟨before, other, after, rfl, here, rest⟩
      · rcases matched : (scan find window.1 0 window.2).getLast? with _ | found
        · rw [matched, Option.none_or] at here
          refine .inl ⟨here, ?_⟩
          intro other among
          rcases List.mem_cons.mp among with rfl | among
          · exact List.getLast?_eq_none_iff.mp matched
          · exact rest other among
        · rw [matched, Option.some_or] at here
          exact .inr ⟨[], window, shown, rfl, matched.trans here, rest⟩
      · exact .inr ⟨window :: before, other, after, rfl, here, rest⟩

/-- A match of a window is the beginning of one of the text. -/
theorem grows_of_window (near : Local find) {text : List α} {window : Nat × List α}
    (part : window.2 <+: text.drop window.1) {place : Nat} {value : β} {length : Nat}
    (after : window.1 ≤ place)
    (here : find (window.2.drop (place - window.1)) = some (value, length)) :
    ∃ value' length', find (text.drop place) = some (value', length') ∧ length ≤ length' ∧
      (value' = value → length' = length) := by
  obtain ⟨more, whole⟩ := part
  have inside : place - window.1 ≤ window.2.length := by
    have positive := near.positive here
    have bounded := near.bounded here
    rw [List.length_drop] at bounded
    omega
  have moved : text.drop place = window.2.drop (place - window.1) ++ more := by
    rw [← List.drop_append_of_le_length inside, whole, List.drop_drop]
    congr 1
    omega
  rw [moved]
  exact near.grows more here

/-- A match of the text that lies in a window is found there. -/
theorem shrinks_to_window (near : Local find) {text : List α} {window : Nat × List α}
    (part : window.2 <+: text.drop window.1) {place : Nat} {value : β} {length : Nat}
    (after : window.1 ≤ place) (inside : place + length ≤ window.1 + window.2.length)
    (here : find (text.drop place) = some (value, length)) :
    find (window.2.drop (place - window.1)) = some (value, length) := by
  obtain ⟨more, whole⟩ := part
  have positive := near.positive here
  have moved : text.drop place = window.2.drop (place - window.1) ++ more := by
    rw [← List.drop_append_of_le_length (by omega), whole, List.drop_drop]
    congr 1
    omega
  rw [moved] at here
  apply near.shrinks here
  rw [List.length_drop]
  omega

/-- The windows of a stream end with its last match exactly when they see it. -/
theorem seen_eq_iff (near : Local find) (keep : Nat) (pieces : List (List α)) :
    seen find (placed keep 0 [] pieces) = (scan find 0 0 pieces.flatten).getLast? ↔
      SeesLast find pieces.flatten (placed keep 0 [] pieces) := by
  have whole : pieces.flatten.drop 0 = [] ++ pieces.flatten := by
    simp
  have part := @prefix_of_placed α keep 0 pieces.flatten [] pieces whole
  have ordered := placed_ordered keep 0 [] pieces
  generalize placed keep 0 [] pieces = shown at *
  generalize pieces.flatten = text at *
  have behind {last : Match β} (ends : (scan find 0 0 text).getLast? = some last)
      {window : Nat × List α} (among : window ∈ shown) {place : Nat} {value : β} {length : Nat}
      (after : window.1 ≤ place)
      (here : find (window.2.drop (place - window.1)) = some (value, length)) :
      place < last.stop := by
    obtain ⟨value', length', here', -⟩ := grows_of_window near (part among) after here
    exact lt_stop_of_last near ends here'
  constructor
  · intro same last ends
    rw [ends] at same
    rcases foldl_seen_eq_some same with ⟨nothing, -⟩ | ⟨before, window, after, rfl, here, rest⟩
    · cases nothing
    · have listed := mem_scan near (List.mem_of_getLast? here)
      have content := mem_scan near (List.mem_of_getLast? ends)
      refine ⟨before, window, after, rfl, by omega, by omega, ?_, ?_⟩
      · intro found among ⟨earlier, across⟩
        rcases before_last near here among with rfl | follows
        · omega
        · omega
      · intro later among
        refine ⟨?_, fun _ => rest later among⟩
        by_contra early
        -- a window that begins early enough holds the match whole, so it has a match
        have longer : window.1 + window.2.length ≤ later.1 + later.2.length :=
          List.rel_of_pairwise_cons (List.pairwise_append.mp ordered).2.1 among
        have shown' : later ∈ before ++ window :: after := by
          simp [among]
        have whole' : find (text.drop last.index) = some (last.value, last.stop - last.index) := by
          simpa using content.2.2.2
        have there := shrinks_to_window near (part shown') (Nat.not_lt.mp early) (by omega) whole'
        obtain ⟨found, covers, -⟩ := exists_covering_zero near (Nat.not_lt.mp early) there
        rw [rest later among] at covers
        simp at covers
  · intro sees
    rcases ends : (scan find 0 0 text).getLast? with _ | last
    · apply foldl_seen_of_nil
      intro window among
      by_contra inhabited
      obtain ⟨found, matched⟩ := List.exists_mem_of_ne_nil _ inhabited
      have listed := mem_scan near matched
      obtain ⟨value, length, here, -⟩ :=
        grows_of_window near (part among) (by omega) listed.2.2.2
      have here' : find (text.drop (found.index - 0)) = some (value, length) := here
      obtain ⟨other, covers, -⟩ := exists_covering_zero near (Nat.zero_le found.index) here'
      rw [List.getLast?_eq_none_iff.mp ends] at covers
      simp at covers
    · obtain ⟨before, window, after, rfl, begins, holds, clear, rest⟩ := sees last ends
      have content := mem_scan near (List.mem_of_getLast? ends)
      have among : window ∈ before ++ window :: after := by
        simp
      have whole' : find (text.drop last.index) = some (last.value, last.stop - last.index) := by
        simpa using content.2.2.2
      have here := shrinks_to_window near (part among) begins (by omega) whole'
      obtain ⟨found, matched, least, covers⟩ := exists_covering_zero near begins here
      have first : found.index = last.index := by
        have := clear found matched
        omega
      have listed := mem_scan near matched
      rw [first, here] at listed
      have same : found = last := by
        have := listed.2.2.2
        simp only [Option.some.injEq, Prod.mk.injEq] at this
        rcases found with ⟨index, stop, value⟩
        rcases last with ⟨index', stop', value'⟩
        simp only at *
        obtain ⟨rfl, length⟩ := this
        obtain rfl := first
        congr 1
        omega
      subst same
      have final : (scan find window.1 0 window.2).getLast? = some found := by
        apply getLast?_of_mem near matched
        intro place value length later there
        have := behind ends among (by omega) there
        omega
      have quiet : ∀ later ∈ after, scan find later.1 0 later.2 = [] := by
        intro later listed'
        by_cases inside : later.1 < found.stop
        · exact (rest later listed').2 inside
        · by_contra inhabited
          obtain ⟨other, matched'⟩ := List.exists_mem_of_ne_nil _ inhabited
          have there := mem_scan near matched'
          have := @behind found ends later (by simp [listed']) other.index _ _ (by omega)
            there.2.2.2
          omega
      rw [seen, List.foldl_append, List.foldl_cons, final, Option.some_or]
      exact foldl_seen_of_nil _ quiet

end Scanning
