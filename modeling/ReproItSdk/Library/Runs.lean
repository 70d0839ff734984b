import Mathlib.Data.List.Basic
import Mathlib.Data.List.TakeWhile

/-! # Runs of a component that answers calls

A component is a function from a state and a call to a reply and the next state.  Its runs are
lists of calls.  This file relates what one call preserves to what a whole run preserves.

Main results:

- Theorem {lit}`final_preserves`: an invariant of every guarded call holds after a guarded run.
- Theorem {lit}`final_of_event`: what an event causes and every later call preserves holds at the
  end of a run in which the event occurred.
- Theorems {lit}`repliesTo_alone` and {lit}`repliesTo_history`: calls that are made alone are
  answered as in a run with others.
-/

namespace Runs

variable {σ ι ρ : Type*}

/-! ## Runs of a list of calls -/

/-- One answered call of a run. -/
structure Answered (σ ι ρ : Type*) where
  before : σ
  call : ι
  reply : ρ
  after : σ

/-- The answered call that a state makes of a call. -/
def answer (step : σ → ι → ρ × σ) (state : σ) (call : ι) : Answered σ ι ρ where
  before := state
  call := call
  reply := (step state call).1
  after := (step state call).2

/-- All answered calls of a run, in order. -/
def answered (step : σ → ι → ρ × σ) : σ → List ι → List (Answered σ ι ρ)
  | _, [] => []
  | state, call :: calls => answer step state call :: answered step (step state call).2 calls

/-- State at the end of a run. -/
def final (step : σ → ι → ρ × σ) : σ → List ι → σ
  | state, [] => state
  | state, call :: calls => final step (step state call).2 calls

/-- An invariant that every guarded call preserves holds at the end of a guarded run. -/
theorem final_preserves {step : σ → ι → ρ × σ} (invariant : σ → Prop)
    {guard : Answered σ ι ρ → Prop}
    (preserves : ∀ state call, invariant state → guard (answer step state call) →
      invariant (step state call).2)
    (calls : List ι) {state : σ} (holds : invariant state)
    (guarded : ∀ entry ∈ answered step state calls, guard entry) :
    invariant (final step state calls) := by
  induction calls generalizing state with
  | nil => exact holds
  | cons call calls ih =>
      simp only [answered, List.forall_mem_cons] at guarded
      exact ih (preserves state call holds guarded.1) guarded.2

/-- What an event causes, and every later guarded call preserves, holds at the end of a guarded
run in which the event occurred. -/
theorem final_of_event {step : σ → ι → ρ × σ} (invariant effect : σ → Prop)
    {guard event : Answered σ ι ρ → Prop}
    (preserves : ∀ state call, invariant state → guard (answer step state call) →
      invariant (step state call).2)
    (causes : ∀ state call, invariant state → guard (answer step state call) →
      event (answer step state call) → effect (step state call).2)
    (keeps : ∀ state call, invariant state → guard (answer step state call) → effect state →
      effect (step state call).2)
    (calls : List ι) {state : σ} (holds : invariant state)
    (guarded : ∀ entry ∈ answered step state calls, guard entry)
    (occurred : ∃ entry ∈ answered step state calls, event entry) :
    effect (final step state calls) := by
  induction calls generalizing state with
  | nil => simp [answered] at occurred
  | cons call calls ih =>
      simp only [answered, List.forall_mem_cons] at guarded
      simp only [answered, List.exists_mem_cons_iff] at occurred
      have next := preserves state call holds guarded.1
      rcases occurred with now | later
      · have caused := causes state call holds guarded.1 now
        exact (final_preserves (fun state => invariant state ∧ effect state)
          (fun state call holds allowed =>
            ⟨preserves state call holds.1 allowed, keeps state call holds.1 allowed holds.2⟩)
          calls ⟨next, caused⟩ guarded.2).2
      · exact ih next guarded.2 later

/-- Calls made after a run continue from its final state. -/
theorem final_append (step : σ → ι → ρ × σ) :
    ∀ (calls later : List ι) (state : σ),
      final step state (calls ++ later) = final step (final step state calls) later
  | [], _, _ => rfl
  | _ :: calls, later, _ => final_append step calls later _

/-- The transcript of a run that goes on after another. -/
theorem answered_append (step : σ → ι → ρ × σ) :
    ∀ (calls later : List ι) (state : σ),
      answered step state (calls ++ later) =
        answered step state calls ++ answered step (final step state calls) later
  | [], _, _ => rfl
  | _ :: calls, later, _ => congrArg (List.cons _) (answered_append step calls later _)

/-- The answered calls of a run are its calls. -/
theorem call_mem_of_answered {step : σ → ι → ρ × σ} {calls : List ι} {state : σ}
    {entry : Answered σ ι ρ} (among : entry ∈ answered step state calls) : entry.call ∈ calls := by
  induction calls generalizing state with
  | nil => cases among
  | cons call calls ih =>
      rcases List.mem_cons.mp among with rfl | later
      · exact List.mem_cons_self
      · exact List.mem_cons_of_mem _ (ih later)

/-- The answered calls of a run are answers of their states. -/
theorem eq_answer_of_answered {step : σ → ι → ρ × σ} {calls : List ι} {state : σ}
    {entry : Answered σ ι ρ} (among : entry ∈ answered step state calls) :
    entry = answer step entry.before entry.call := by
  induction calls generalizing state with
  | nil => cases among
  | cons call calls ih =>
      rcases List.mem_cons.mp among with rfl | later
      · rfl
      · exact ih later

/-- What every call keeps holds before every call of a run that starts with it. -/
theorem before_of_answered {step : σ → ι → ρ × σ} {invariant : σ → Prop}
    (keeps : ∀ state call, invariant state → invariant (step state call).2) (calls : List ι)
    {state : σ} (holds : invariant state) :
    ∀ entry ∈ answered step state calls, invariant entry.before := by
  induction calls generalizing state with
  | nil => simp [answered]
  | cons call calls ih =>
      simp only [answered, List.forall_mem_cons]
      exact ⟨holds, ih (keeps state call holds)⟩

/-- What an answered call leaves, and every call keeps, holds before every later call. -/
theorem before_of_later {step : σ → ι → ρ × σ} {invariant : σ → Prop}
    (keeps : ∀ state call, invariant state → invariant (step state call).2)
    {past later : List (Answered σ ι ρ)} {event : Answered σ ι ρ} (calls : List ι) {state : σ}
    (split : answered step state calls = past ++ event :: later) (holds : invariant event.after) :
    ∀ entry ∈ later, invariant entry.before := by
  induction past generalizing calls state with
  | nil =>
      cases calls with
      | nil => cases split
      | cons call calls =>
          rw [answered, List.nil_append, List.cons.injEq] at split
          rcases split with ⟨rfl, rfl⟩
          exact before_of_answered keeps calls holds
  | cons first past ih =>
      cases calls with
      | nil => cases split
      | cons call calls =>
          rw [answered, List.cons_append, List.cons.injEq] at split
          exact ih calls split.2

/-- A relation between the transcript so far and the state that every call preserves holds at the
end of a run. -/
theorem answered_preserves {step : σ → ι → ρ × σ}
    (invariant : List (Answered σ ι ρ) → σ → Prop)
    (preserves : ∀ past state call, invariant past state →
      invariant (past ++ [answer step state call]) (step state call).2)
    (calls : List ι) {past : List (Answered σ ι ρ)} {state : σ} (holds : invariant past state) :
    invariant (past ++ answered step state calls) (final step state calls) := by
  induction calls generalizing past state with
  | nil => simpa [answered, final] using holds
  | cons call calls ih =>
      have next := ih (preserves past state call holds)
      rwa [List.append_assoc] at next

/-! ## Chains that stop at the first error -/

variable {ε ο : Type*}

/-- Calls made one after another, stopping at the first error.  The transcript lists the calls
that were made, with their replies. -/
def attempt (step : σ → ι → Except ε ο × σ) :
    σ → List ι → Except ε Unit × List (Answered σ ι (Except ε ο)) × σ
  | state, [] => (.ok (), [], state)
  | state, call :: calls =>
      match (step state call).1 with
      | .ok _ =>
          let rest := attempt step (step state call).2 calls
          (rest.1, answer step state call :: rest.2.1, rest.2.2)
      | .error error => (.error error, [answer step state call], (step state call).2)

/-- A relation between the state and a record of the replies that every guarded call preserves
holds after a guarded chain. -/
theorem attempt_preserves {η : Type*} {step : σ → ι → Except ε ο × σ}
    {invariant : σ → η → Prop} {record : η → Answered σ ι (Except ε ο) → η}
    {guard : Answered σ ι (Except ε ο) → Prop}
    (preserves : ∀ state history call, invariant state history → guard (answer step state call) →
      invariant (step state call).2 (record history (answer step state call)))
    (calls : List ι) {state : σ} {history : η} (holds : invariant state history)
    (guarded : ∀ entry ∈ (attempt step state calls).2.1, guard entry) :
    invariant (attempt step state calls).2.2
      ((attempt step state calls).2.1.foldl record history) := by
  induction calls generalizing state history with
  | nil => exact holds
  | cons call calls ih =>
      unfold attempt at guarded ⊢
      cases made : (step state call).1 with
      | ok reply =>
          simp only [made, List.forall_mem_cons] at guarded ⊢
          exact ih (preserves state history call holds guarded.1) guarded.2
      | error error =>
          simp only [made, List.forall_mem_cons] at guarded ⊢
          exact preserves state history call holds guarded.1

/-- A chain that fails does so at its first call or after it. -/
theorem attempt_cons_fails {step : σ → ι → Except ε ο × σ} {effect : σ → Prop}
    {guard : Answered σ ι (Except ε ο) → Prop} {state : σ} {call : ι} {calls : List ι} {error : ε}
    (guarded : ∀ entry ∈ (attempt step state (call :: calls)).2.1, guard entry)
    (failed : (attempt step state (call :: calls)).1 = .error error)
    (fails : guard (answer step state call) → ∀ error, (step state call).1 = .error error →
      effect (step state call).2)
    (continues : guard (answer step state call) → ∀ reply, (step state call).1 = .ok reply →
      (∀ entry ∈ (attempt step (step state call).2 calls).2.1, guard entry) →
      (attempt step (step state call).2 calls).1 = .error error →
      effect (attempt step (step state call).2 calls).2.2) :
    effect (attempt step state (call :: calls)).2.2 := by
  unfold attempt at guarded failed ⊢
  cases made : (step state call).1 with
  | ok reply =>
      simp only [made, List.forall_mem_cons] at guarded failed ⊢
      exact continues guarded.1 reply made guarded.2 failed
  | error cause =>
      simp only [made, List.forall_mem_cons] at guarded failed ⊢
      exact fails guarded.1 cause made

/-! ## Calls of a run that are made alone -/

/-- Replies of the answered calls that are one's own. -/
def repliesTo (own : ι → Bool) (entries : List (Answered σ ι ρ)) : List ρ :=
  (entries.filter fun entry => own entry.call).map Answered.reply

/-- Replies in a run that goes on after another. -/
theorem repliesTo_append (own : ι → Bool) (entries later : List (Answered σ ι ρ)) :
    repliesTo own (entries ++ later) = repliesTo own entries ++ repliesTo own later := by
  rw [repliesTo, List.filter_append, List.map_append]
  rfl

/-- One's own calls are answered alone as they are in a run with other calls between them, where an
own call answers the same in two related states and every call keeps them related. -/
theorem repliesTo_alone {step : σ → ι → ρ × σ} {own : ι → Bool}
    {related : List ι → σ → σ → Prop} {guard : List ι → σ → ι → Prop}
    (own_step : ∀ past state alone call, related past state alone → own call = true →
      guard past state call → (step state call).1 = (step alone call).1 ∧
        related (past ++ [call]) (step state call).2 (step alone call).2)
    (other_step : ∀ past state alone call, related past state alone → own call = false →
      related (past ++ [call]) (step state call).2 alone)
    (calls past : List ι) {state alone : σ} (holds : related past state alone)
    (guarded : ∀ done call later, calls = done ++ call :: later → own call = true →
      guard (past ++ done) (final step state done) call) :
    repliesTo own (answered step state calls) =
      repliesTo own (answered step alone (calls.filter own)) := by
  induction calls generalizing past state alone with
  | nil => rfl
  | cons call calls ih =>
      have later : ∀ done next rest, calls = done ++ next :: rest → own next = true →
          guard (past ++ [call] ++ done) (final step (step state call).2 done) next := by
        intro done next rest split mine
        rw [List.append_assoc]
        exact guarded (call :: done) next rest (by rw [split]; rfl) mine
      cases mine : own call with
      | true =>
          have here := guarded [] call calls rfl mine
          rw [List.append_nil] at here
          have stepped := own_step past state alone call holds mine here
          have rest := ih (past ++ [call]) stepped.2 later
          simp only [repliesTo, answered, List.filter_cons, answer, mine, if_true,
            List.map_cons] at rest ⊢
          rw [stepped.1, rest]
      | false =>
          have rest := ih (past ++ [call]) (other_step past state alone call holds mine) later
          simpa only [repliesTo, answered, List.filter_cons, answer, mine, Bool.false_eq_true,
            if_false] using rest

/-- What happens before the first call that is one's own. -/
def earlier (own : ι → Bool) (calls : List ι) : List ι :=
  calls.takeWhile fun call => !own call

/-- What happens from the first call that is one's own. -/
def during (own : ι → Bool) (calls : List ι) : List ι :=
  calls.dropWhile fun call => !own call

/-- Calls before one's own first call are calls of others. -/
theorem earlier_others {own : ι → Bool} {calls : List ι} {call : ι}
    (among : call ∈ earlier own calls) : own call = false := by
  simpa using List.mem_takeWhile_imp among

/-- One's own calls in a history are answered alone as they are there, where the two states are
related when the first of them is made. -/
theorem repliesTo_history {step : σ → ι → ρ × σ} {own : ι → Bool}
    {related : List ι → σ → σ → Prop} {guard : List ι → σ → ι → Prop}
    (own_step : ∀ past state alone call, related past state alone → own call = true →
      guard past state call → (step state call).1 = (step alone call).1 ∧
        related (past ++ [call]) (step state call).2 (step alone call).2)
    (other_step : ∀ past state alone call, related past state alone → own call = false →
      related (past ++ [call]) (step state call).2 alone)
    (history : List ι) {state alone : σ}
    (start : related [] (final step state (earlier own history)) alone)
    (guarded : ∀ done call later, during own history = done ++ call :: later → own call = true →
      guard done (final step (final step state (earlier own history)) done) call) :
    repliesTo own (answered step state history) =
      repliesTo own (answered step alone (history.filter own)) := by
  have split : history = earlier own history ++ during own history :=
    List.takeWhile_append_dropWhile.symm
  have none_earlier : (earlier own history).filter own = [] :=
    List.filter_eq_nil_iff.mpr fun call among => by simp [earlier_others among]
  have own_calls : history.filter own = (during own history).filter own := by
    conv_lhs => rw [split, List.filter_append, none_earlier, List.nil_append]
  have silent : repliesTo own (answered step state (earlier own history)) = [] := by
    unfold repliesTo
    rw [List.map_eq_nil_iff, List.filter_eq_nil_iff]
    intro entry among
    simp [earlier_others (call_mem_of_answered among)]
  rw [own_calls]
  conv_lhs => rw [split, answered_append, repliesTo_append, silent, List.nil_append]
  exact repliesTo_alone own_step other_step (during own history) [] start guarded

end Runs
