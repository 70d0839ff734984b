import Mathlib.Logic.Relation

/-! # Computations that change a state and may fail

A computation takes a state to a value or an error and the state it reached.  An error ends the
computation and keeps the changes made before it, as a method of a mutable object does that returns
early.

Four judgements describe a computation.  {lit}`Returns` says that it does not fail from any state.
{lit}`Relates` says how every run, failed or not, moves the state.  {lit}`Moves` says so of the runs
from some states, and what holds when they do not fail.  {lit}`Meets` says which values and errors a
computation returns from the states with a property.

Main results:

- Theorem {lit}`Returns.bind`: a sequence does not fail if its parts do not.
- Theorem {lit}`Relates.bind`: a sequence relates its states if its parts do.
- Theorem {lit}`Meets.bind`: the postcondition of the first part is the precondition of the rest.
- Theorems {lit}`Relates.onError` and {lit}`Meets.onError`: the rules of a cleanup.
-/

/-- A computation on a state that returns a value or an error. -/
def Fallible (σ ε α : Type) : Type :=
  σ → Except ε α × σ

namespace Fallible

variable {σ ε α β : Type}

/-! ## Computations -/

/-- Return a value. -/
protected def pure (value : α) : Fallible σ ε α :=
  fun state => (.ok value, state)

/-- Run a computation, and another one on its value unless it failed. -/
protected def bind (first : Fallible σ ε α) (rest : α → Fallible σ ε β) : Fallible σ ε β :=
  fun state =>
    match first state with
    | (.ok value, next) => rest value next
    | (.error error, next) => (.error error, next)

instance : Monad (Fallible σ ε) where
  pure := Fallible.pure
  bind := Fallible.bind

/-- Fail with an error. -/
def fail (error : ε) : Fallible σ ε α :=
  fun state => (.error error, state)

/-- Read from the state. -/
def gets (read : σ → α) : Fallible σ ε α :=
  fun state => (.ok (read state), state)

/-- Change the state. -/
def modify (change : σ → σ) : Fallible σ ε Unit :=
  fun state => (.ok (), change state)

/-- Find a value in the state, or fail with an error. -/
def find (read : σ → Option α) (error : ε) : Fallible σ ε α :=
  fun state =>
    match read state with
    | some value => (.ok value, state)
    | none => (.error error, state)

/-- The value or the error of a pure computation. -/
def ofExcept (result : Except ε α) : Fallible σ ε α :=
  fun state => (result, state)

/-- Fail with an error unless the state has a property. -/
def check (condition : σ → Bool) (error : ε) : Fallible σ ε Unit :=
  fun state => (if condition state then .ok () else .error error, state)

/-- Run a computation and return its result as a value. -/
def attempt (computation : Fallible σ ε α) : Fallible σ ε (Except ε α) :=
  fun state => (.ok (computation state).1, (computation state).2)

/-- Run a computation, and if it fails a cleanup; the error stays that of the computation. -/
def onError (computation : Fallible σ ε α) (cleanup : Fallible σ ε Unit) : Fallible σ ε α :=
  fun state =>
    match computation state with
    | (.ok value, next) => (.ok value, next)
    | (.error error, next) => (.error error, (cleanup next).2)

/-- A sequence whose first part returns. -/
theorem bind_ok {first : Fallible σ ε α} {rest : α → Fallible σ ε β} {state next : σ} {value : α}
    (returned : first state = (.ok value, next)) : (first >>= rest) state = rest value next := by
  show Fallible.bind first rest state = _
  unfold Fallible.bind
  rw [returned]

/-- A sequence whose first part fails. -/
theorem bind_error {first : Fallible σ ε α} {rest : α → Fallible σ ε β} {state next : σ}
    {error : ε} (failed : first state = (.error error, next)) :
    (first >>= rest) state = (.error error, next) := by
  show Fallible.bind first rest state = _
  unfold Fallible.bind
  rw [failed]

/-- A sequence that goes on without changing the state is where its first part left it. -/
theorem bind_pure_snd (first : Fallible σ ε α) (value : α → β) (state : σ) :
    ((first >>= fun result => Pure.pure (value result)) state).2 = (first state).2 := by
  rcases returned : first state with ⟨error | result, next⟩
  · rw [bind_error returned]
  · rw [bind_ok returned]
    rfl

/-- A sequence that begins with a read. -/
theorem gets_bind (read : σ → α) (rest : α → Fallible σ ε β) (state : σ) :
    (gets read >>= rest) state = rest (read state) state :=
  rfl

/-- A sequence that begins with a result returned as a value. -/
theorem attempt_bind (computation : Fallible σ ε α) (rest : Except ε α → Fallible σ ε β)
    (state : σ) :
    (attempt computation >>= rest) state = rest (computation state).1 (computation state).2 :=
  rfl

/-- A sequence that starts with a value. -/
theorem ofExcept_ok_bind (value : α) (rest : α → Fallible σ ε β) (state : σ) :
    ((ofExcept (.ok value) : Fallible σ ε α) >>= rest) state = rest value state :=
  rfl

/-- A sequence that starts with an error. -/
theorem ofExcept_error_bind (error : ε) (rest : α → Fallible σ ε β) (state : σ) :
    ((ofExcept (.error error) : Fallible σ ε α) >>= rest) state = (.error error, state) :=
  rfl

/-- A check that passes. -/
theorem check_ok {condition : σ → Bool} {error : ε} {state : σ} (passes : condition state = true) :
    check condition error state = (.ok (), state) := by
  rw [check, if_pos passes]

/-- A check that fails. -/
theorem check_error {condition : σ → Bool} {error : ε} {state : σ}
    (refuses : condition state = false) : check condition error state = (.error error, state) := by
  rw [check, if_neg (by rw [refuses]; exact Bool.false_ne_true)]

/-- A value that is found. -/
theorem find_ok {read : σ → Option α} {error : ε} {state : σ} {value : α}
    (found : read state = some value) : find read error state = (.ok value, state) := by
  rw [find, found]

/-- A value that is missing. -/
theorem find_error {read : σ → Option α} {error : ε} {state : σ} (absent : read state = none) :
    find read error state = (.error error, state) := by
  rw [find, absent]

/-- A sequence returns what its rest returns on the value of its first part. -/
theorem bind_eq_ok {first : Fallible σ ε α} {rest : α → Fallible σ ε β} {state next : σ}
    {value : β} : (first >>= rest) state = (.ok value, next) ↔
      ∃ item middle, first state = (.ok item, middle) ∧ rest item middle = (.ok value, next) := by
  constructor
  · intro returned
    rcases made : first state with ⟨error | item, middle⟩
    · rw [bind_error made] at returned
      cases returned
    · rw [bind_ok made] at returned
      exact ⟨item, middle, rfl, returned⟩
  · rintro ⟨item, middle, made, returned⟩
    rw [bind_ok made]
    exact returned

/-- A check returns when its condition holds. -/
theorem check_eq_ok {condition : σ → Bool} {error : ε} {state next : σ} {value : Unit} :
    check condition error state = (.ok value, next) ↔ condition state = true ∧ next = state := by
  unfold check
  by_cases holds : condition state = true
  · rw [if_pos holds]
    constructor
    · rintro ⟨⟩
      exact ⟨holds, rfl⟩
    · rintro ⟨-, rfl⟩
      rfl
  · rw [if_neg holds]
    constructor
    · rintro ⟨⟩
    · rintro ⟨passes, -⟩
      exact absurd passes holds

/-- A search returns what it finds. -/
theorem find_eq_ok {read : σ → Option α} {error : ε} {state next : σ} {value : α} :
    find read error state = (.ok value, next) ↔ read state = some value ∧ next = state := by
  cases found : read state with
  | none =>
      rw [find_error found]
      constructor
      · rintro ⟨⟩
      · rintro ⟨⟨⟩, -⟩
  | some item =>
      rw [find_ok found]
      constructor
      · rintro ⟨⟩
        exact ⟨rfl, rfl⟩
      · rintro ⟨⟨⟩, rfl⟩
        rfl

/-- A pure computation returns its value. -/
theorem ofExcept_eq_ok {result : Except ε α} {state next : σ} {value : α} :
    (ofExcept result : Fallible σ ε α) state = (.ok value, next) ↔
      result = .ok value ∧ next = state := by
  unfold ofExcept
  constructor
  · rintro ⟨⟩
    exact ⟨rfl, rfl⟩
  · rintro ⟨rfl, rfl⟩
    rfl

/-- A sequence that begins with a check returns when the check passes and the rest returns. -/
theorem check_bind_eq_ok {condition : σ → Bool} {error : ε} {rest : Unit → Fallible σ ε β}
    {state next : σ} {value : β} :
    (check condition error >>= rest) state = (.ok value, next) ↔
      condition state = true ∧ rest () state = (.ok value, next) := by
  rw [bind_eq_ok]
  constructor
  · rintro ⟨_, _, checked, returned⟩
    obtain ⟨holds, rfl⟩ := check_eq_ok.mp checked
    exact ⟨holds, returned⟩
  · rintro ⟨holds, returned⟩
    exact ⟨(), state, check_ok holds, returned⟩

/-- A sequence that begins with a result returns when it is a value and the rest returns. -/
theorem ofExcept_bind_eq_ok {result : Except ε α} {rest : α → Fallible σ ε β} {state next : σ}
    {value : β} : ((ofExcept result : Fallible σ ε α) >>= rest) state = (.ok value, next) ↔
      ∃ item, result = .ok item ∧ rest item state = (.ok value, next) := by
  rw [bind_eq_ok]
  constructor
  · rintro ⟨item, _, made, returned⟩
    obtain ⟨is_item, rfl⟩ := ofExcept_eq_ok.mp made
    exact ⟨item, is_item, returned⟩
  · rintro ⟨item, rfl, returned⟩
    exact ⟨item, state, rfl, returned⟩

/-- A sequence that begins with a search returns when it finds a value and the rest returns. -/
theorem find_bind_eq_ok {read : σ → Option α} {error : ε} {rest : α → Fallible σ ε β}
    {state next : σ} {value : β} : (find read error >>= rest) state = (.ok value, next) ↔
      ∃ item, read state = some item ∧ rest item state = (.ok value, next) := by
  rw [bind_eq_ok]
  constructor
  · rintro ⟨item, _, made, returned⟩
    obtain ⟨found, rfl⟩ := find_eq_ok.mp made
    exact ⟨item, found, returned⟩
  · rintro ⟨item, found, returned⟩
    exact ⟨item, state, find_ok found, returned⟩

/-- A sequence of results is a value when its first part is one and the rest returns one. -/
theorem except_bind_eq_ok {first : Except ε α} {rest : α → Except ε β}
    {value : β} : (first >>= rest) = .ok value ↔
      ∃ item, first = .ok item ∧ rest item = .ok value := by
  cases first with
  | error error =>
      constructor
      · rintro ⟨⟩
      · rintro ⟨_, ⟨⟩, -⟩
  | ok item =>
      constructor
      · exact fun returned => ⟨item, rfl, returned⟩
      · rintro ⟨_, ⟨⟩, returned⟩
        exact returned

/-- A read returns what it reads. -/
theorem gets_eq_ok {read : σ → α} {state next : σ} {value : α} :
    (gets read : Fallible σ ε α) state = (.ok value, next) ↔
      value = read state ∧ next = state := by
  unfold gets
  constructor
  · rintro ⟨⟩
    exact ⟨rfl, rfl⟩
  · rintro ⟨rfl, rfl⟩
    rfl

/-- A change returns with the changed state. -/
theorem modify_eq_ok {change : σ → σ} {state next : σ} {value : Unit} :
    (modify change : Fallible σ ε Unit) state = (.ok value, next) ↔ next = change state := by
  unfold modify
  constructor
  · rintro ⟨⟩
    rfl
  · rintro rfl
    rfl

/-- A returned value. -/
theorem pure_eq_ok {item value : α} {state next : σ} :
    (Pure.pure item : Fallible σ ε α) state = (.ok value, next) ↔ value = item ∧ next = state := by
  constructor
  · rintro ⟨⟩
    exact ⟨rfl, rfl⟩
  · rintro ⟨rfl, rfl⟩
    rfl

/-- A sequence fails in its first part or in its rest. -/
theorem bind_eq_error {first : Fallible σ ε α} {rest : α → Fallible σ ε β} {state next : σ}
    {error : ε} : (first >>= rest) state = (.error error, next) ↔
      first state = (.error error, next) ∨
        ∃ item middle, first state = (.ok item, middle) ∧
          rest item middle = (.error error, next) := by
  rcases made : first state with ⟨cause | item, middle⟩
  · rw [bind_error made]
    constructor
    · rintro ⟨⟩
      exact .inl rfl
    · rintro (⟨⟨⟩⟩ | ⟨_, _, ⟨⟩, -⟩)
      rfl
  · rw [bind_ok made]
    constructor
    · intro failed
      exact .inr ⟨item, middle, rfl, failed⟩
    · rintro (⟨⟨⟩⟩ | ⟨_, _, ⟨⟩, failed⟩)
      exact failed

/-- A check fails when its condition does not hold. -/
theorem check_eq_error {condition : σ → Bool} {error cause : ε} {state next : σ} :
    check condition error state = (.error cause, next) ↔
      condition state = false ∧ cause = error ∧ next = state := by
  cases holds : condition state with
  | false =>
      rw [check_error holds]
      constructor
      · rintro ⟨⟩
        exact ⟨rfl, rfl, rfl⟩
      · rintro ⟨-, rfl, rfl⟩
        rfl
  | true =>
      rw [check_ok holds]
      constructor
      · rintro ⟨⟩
      · rintro ⟨⟨⟩, -⟩

/-- A pure computation fails with its error. -/
theorem ofExcept_eq_error {result : Except ε α} {state next : σ} {error : ε} :
    (ofExcept result : Fallible σ ε α) state = (.error error, next) ↔
      result = .error error ∧ next = state := by
  unfold ofExcept
  constructor
  · rintro ⟨⟩
    exact ⟨rfl, rfl⟩
  · rintro ⟨rfl, rfl⟩
    rfl

/-- A failure leaves the state. -/
theorem fail_eq_error {error cause : ε} {state next : σ} :
    (fail error : Fallible σ ε α) state = (.error cause, next) ↔
      cause = error ∧ next = state := by
  unfold fail
  constructor
  · rintro ⟨⟩
    exact ⟨rfl, rfl⟩
  · rintro ⟨rfl, rfl⟩
    rfl

/-- A failure does not return. -/
theorem fail_ne_ok {error : ε} {state next : σ} {value : α} :
    (fail error : Fallible σ ε α) state ≠ (.ok value, next) :=
  nofun

/-- A read does not fail. -/
theorem gets_ne_error {read : σ → α} {state next : σ} {error : ε} :
    (gets read : Fallible σ ε α) state ≠ (.error error, next) :=
  nofun

/-- A change does not fail. -/
theorem modify_ne_error {change : σ → σ} {state next : σ} {error : ε} :
    (modify change : Fallible σ ε Unit) state ≠ (.error error, next) :=
  nofun

/-- A returned value is no failure. -/
theorem pure_ne_error {item : α} {state next : σ} {error : ε} :
    (Pure.pure item : Fallible σ ε α) state ≠ (.error error, next) :=
  nofun

/-- An attempt returns the result of its computation. -/
theorem attempt_eq_ok {computation : Fallible σ ε α} {state next : σ} {result : Except ε α} :
    attempt computation state = (.ok result, next) ↔ computation state = (result, next) := by
  unfold attempt
  rcases computation state with ⟨made, middle⟩
  constructor
  · rintro ⟨⟩
    rfl
  · rintro ⟨⟩
    rfl

/-- An attempt does not fail. -/
theorem attempt_ne_error {computation : Fallible σ ε α} {state next : σ} {error : ε} :
    attempt computation state ≠ (.error error, next) :=
  nofun

/-! ## Computations that do not fail -/

/-- A computation that returns a value from every state. -/
def Returns (computation : Fallible σ ε α) : Prop :=
  ∀ state, ∃ value next, computation state = (.ok value, next)

/-- A value is returned. -/
theorem Returns.pure (value : α) : Returns (Pure.pure value : Fallible σ ε α) :=
  fun state => ⟨value, state, rfl⟩

/-- A change does not fail. -/
theorem Returns.modify (change : σ → σ) : Returns (modify change : Fallible σ ε Unit) :=
  fun state => ⟨(), change state, rfl⟩

/-- A sequence does not fail if its parts do not. -/
theorem Returns.bind {first : Fallible σ ε α} {rest : α → Fallible σ ε β}
    (starts : Returns first) (continues : ∀ value, Returns (rest value)) :
    Returns (first >>= rest) := by
  intro state
  obtain ⟨value, next, made⟩ := starts state
  obtain ⟨result, last, continued⟩ := continues value next
  exact ⟨result, last, (bind_ok made).trans continued⟩

/-! ## How a computation moves the state -/

/-- Every run of a computation relates the states before and after it. -/
def Relates (relation : σ → σ → Prop) (computation : Fallible σ ε α) : Prop :=
  ∀ state, relation state (computation state).2

section Relates

variable {relation : σ → σ → Prop}

/-- A weaker relation holds as well. -/
theorem Relates.mono {weaker : σ → σ → Prop} {computation : Fallible σ ε α}
    (relates : Relates relation computation)
    (implies : ∀ before after, relation before after → weaker before after) :
    Relates weaker computation :=
  fun state => implies _ _ (relates state)

/-- A change relates the states that it maps to each other. -/
theorem Relates.modify {change : σ → σ} (changes : ∀ state, relation state (change state)) :
    Relates relation (modify change : Fallible σ ε Unit) :=
  changes

variable [IsPreorder σ relation]

/-- Returning a value keeps the state. -/
theorem Relates.pure (value : α) :
    Relates relation (Pure.pure value : Fallible σ ε α) :=
  fun state => refl_of relation state

/-- Failing keeps the state. -/
theorem Relates.fail (error : ε) : Relates relation (fail error : Fallible σ ε α) :=
  fun state => refl_of relation state

/-- Reading keeps the state. -/
theorem Relates.gets (read : σ → α) : Relates relation (gets read : Fallible σ ε α) :=
  fun state => refl_of relation state

/-- Finding a value keeps the state. -/
theorem Relates.find (read : σ → Option α) (error : ε) :
    Relates relation (find read error : Fallible σ ε α) := by
  intro state
  unfold Fallible.find
  split <;> exact refl_of relation state

/-- A pure computation keeps the state. -/
theorem Relates.ofExcept (result : Except ε α) :
    Relates relation (ofExcept result : Fallible σ ε α) :=
  fun state => refl_of relation state

/-- Checking a condition keeps the state. -/
theorem Relates.check (condition : σ → Bool) (error : ε) :
    Relates relation (check condition error : Fallible σ ε Unit) :=
  fun state => refl_of relation state

/-- A sequence relates its states if both parts do. -/
theorem Relates.bind {first : Fallible σ ε α} {rest : α → Fallible σ ε β}
    (before : Relates relation first) (after : ∀ value, Relates relation (rest value)) :
    Relates relation (first >>= rest) := by
  intro state
  have moved := before state
  show relation state (Fallible.bind first rest state).2
  unfold Fallible.bind
  split
  · rename_i value next made
    rw [made] at moved
    exact trans_of relation moved (after value next)
  · rename_i error next made
    rw [made] at moved
    exact moved

omit [IsPreorder σ relation] in
/-- Returning the result as a value moves the state in the same way. -/
theorem Relates.attempt {computation : Fallible σ ε α} (relates : Relates relation computation) :
    Relates relation (attempt computation) :=
  relates

/-- A cleanup relates the states if the computation does. -/
theorem Relates.onError {computation : Fallible σ ε α} {cleanup : Fallible σ ε Unit}
    (relates : Relates relation computation) (cleans : Relates relation cleanup) :
    Relates relation (onError computation cleanup) := by
  intro state
  have moved := relates state
  unfold Fallible.onError
  split
  · rename_i value next made
    rwa [made] at moved
  · rename_i error next made
    rw [made] at moved
    exact trans_of relation moved (cleans next)

end Relates

/-! ## How a computation moves the state from some states -/

/-- Every run from a state with a property relates the states before and after it, and a run that
does not fail has a postcondition. -/
def Moves (relation : σ → σ → Prop) (before : σ → Prop) (computation : Fallible σ ε α)
    (done : α → σ → Prop) : Prop :=
  ∀ state, before state → relation state (computation state).2 ∧
    ∀ value, (computation state).1 = .ok value → done value (computation state).2

section Moves

variable {relation : σ → σ → Prop} {before : σ → Prop}

/-- A computation that relates its states does so from any of them. -/
theorem Relates.moves {computation : Fallible σ ε α} (relates : Relates relation computation) :
    Moves relation before computation fun _ _ => True :=
  fun state _ => ⟨relates state, fun _ _ => trivial⟩

/-- A computation that moves every state relates its states. -/
theorem Moves.relates {computation : Fallible σ ε α}
    (moves : Moves relation (fun _ => True) computation fun _ _ => True) :
    Relates relation computation :=
  fun state => (moves state trivial).1

/-- Forget the postcondition. -/
theorem Moves.forget {computation : Fallible σ ε α} {done : α → σ → Prop}
    (moves : Moves relation before computation done) :
    Moves relation before computation fun _ _ => True :=
  fun state holds => ⟨(moves state holds).1, fun _ _ => trivial⟩

variable [IsPreorder σ relation]

/-- Finding a value in the state. -/
theorem Moves.find {read : σ → Option α} {error : ε} {done : α → σ → Prop}
    (found : ∀ state, before state → ∀ value, read state = some value → done value state) :
    Moves relation before (find read error) done := by
  intro state holds
  unfold Fallible.find
  split
  · rename_i value present
    refine ⟨refl_of relation state, fun returned same => ?_⟩
    cases same
    exact found state holds _ present
  · exact ⟨refl_of relation state, fun _ same => by cases same⟩

/-- Checking a condition of the state. -/
theorem Moves.check {condition : σ → Bool} {error : ε} {done : Unit → σ → Prop}
    (passes : ∀ state, before state → condition state = true → done () state) :
    Moves relation before (check condition error) done := by
  intro state holds
  refine ⟨refl_of relation state, fun value returned => ?_⟩
  cases checked : condition state with
  | false => simp [Fallible.check, checked] at returned
  | true => exact passes state holds checked

/-- A pure computation. -/
theorem Moves.ofExcept {result : Except ε α} {done : α → σ → Prop}
    (returns : ∀ value, result = .ok value → ∀ state, before state → done value state) :
    Moves relation before (ofExcept result) done :=
  fun state holds => ⟨refl_of relation state, fun value same => returns value same state holds⟩

/-- A sequence moves from where its first part starts. -/
theorem Moves.bind {first : Fallible σ ε α} {rest : α → Fallible σ ε β} {middle : α → σ → Prop}
    {done : β → σ → Prop} (starts : Moves relation before first middle)
    (continues : ∀ value, Moves relation (middle value) (rest value) done) :
    Moves relation before (first >>= rest) done := by
  intro state holds
  have moved := starts state holds
  show relation state (Fallible.bind first rest state).2 ∧
    ∀ value, (Fallible.bind first rest state).1 = .ok value →
      done value (Fallible.bind first rest state).2
  unfold Fallible.bind
  split
  · rename_i value next made
    rw [made] at moved
    have onward := continues value next (moved.2 value rfl)
    exact ⟨trans_of relation moved.1 onward.1, onward.2⟩
  · rename_i error next made
    rw [made] at moved
    exact ⟨moved.1, fun _ same => by cases same⟩

/-- A cleanup may start from any state. -/
theorem Moves.onError {computation : Fallible σ ε α} {cleanup : Fallible σ ε Unit}
    {done : α → σ → Prop} (moves : Moves relation before computation done)
    (cleans : Relates relation cleanup) :
    Moves relation before (onError computation cleanup) done := by
  intro state holds
  have moved := moves state holds
  unfold Fallible.onError
  split
  · rename_i value next made
    rwa [made] at moved
  · rename_i error next made
    rw [made] at moved
    exact ⟨trans_of relation moved.1 (cleans next), fun _ same => by cases same⟩

end Moves

/-! ## What a computation returns -/

/-- A result whose value or error has its property. -/
def Outcome (done : α → σ → Prop) (failed : ε → σ → Prop) (result : Except ε α × σ) : Prop :=
  match result with
  | (.ok value, next) => done value next
  | (.error error, next) => failed error next

/-- From the states with a property, the values and the errors have theirs. -/
def Meets (before : σ → Prop) (computation : Fallible σ ε α) (done : α → σ → Prop)
    (failed : ε → σ → Prop) : Prop :=
  ∀ state, before state → Outcome done failed (computation state)

section Meets

variable {before : σ → Prop} {done : α → σ → Prop} {failed : ε → σ → Prop}

/-- A result with weaker properties. -/
theorem Outcome.mono {weaker : α → σ → Prop} {weakerFailed : ε → σ → Prop}
    {result : Except ε α × σ} (outcome : Outcome done failed result)
    (implies : ∀ value state, done value state → weaker value state)
    (impliesFailed : ∀ error state, failed error state → weakerFailed error state) :
    Outcome weaker weakerFailed result := by
  rcases result with ⟨error | value, next⟩
  · exact impliesFailed error next outcome
  · exact implies value next outcome

/-- The error of a result that is one. -/
theorem Outcome.error {result : Except ε α × σ} (outcome : Outcome done failed result) {error : ε}
    (returned : result.1 = .error error) : failed error result.2 := by
  rcases result with ⟨found | value, next⟩
  · cases returned
    exact outcome
  · cases returned

/-- A stronger precondition and weaker postconditions. -/
theorem Meets.mono {stronger : σ → Prop} {weaker : α → σ → Prop} {weakerFailed : ε → σ → Prop}
    {computation : Fallible σ ε α} (meets : Meets before computation done failed)
    (assumes : ∀ state, stronger state → before state)
    (implies : ∀ value state, done value state → weaker value state)
    (impliesFailed : ∀ error state, failed error state → weakerFailed error state) :
    Meets stronger computation weaker weakerFailed :=
  fun state holds => (meets state (assumes state holds)).mono implies impliesFailed

/-- Returning a value. -/
theorem Meets.pure {value : α} (holds : ∀ state, before state → done value state) :
    Meets before (Pure.pure value) done failed :=
  holds

/-- Failing. -/
theorem Meets.fail {error : ε} (holds : ∀ state, before state → failed error state) :
    Meets before (fail error) done failed :=
  holds

/-- Changing the state. -/
theorem Meets.modify {change : σ → σ} {done : Unit → σ → Prop}
    (holds : ∀ state, before state → done () (change state)) :
    Meets before (modify change) done failed :=
  holds

/-- A pure computation. -/
theorem Meets.ofExcept {result : Except ε α}
    (returns : ∀ value, result = .ok value → ∀ state, before state → done value state)
    (fails : ∀ error, result = .error error → ∀ state, before state → failed error state) :
    Meets before (ofExcept result) done failed := by
  intro state holds
  cases result with
  | error error => exact fails error rfl state holds
  | ok value => exact returns value rfl state holds

/-- Finding a value. -/
theorem Meets.find {read : σ → Option α} {error : ε}
    (present : ∀ state, before state → ∀ value, read state = some value → done value state)
    (absent : ∀ state, before state → read state = none → failed error state) :
    Meets before (find read error) done failed := by
  intro state holds
  unfold Fallible.find
  cases found : read state with
  | none => exact absent state holds found
  | some value => exact present state holds value found

/-- The values of the first part start the rest. -/
theorem Meets.bind {middle : α → σ → Prop} {done : β → σ → Prop} {first : Fallible σ ε α}
    {rest : α → Fallible σ ε β} (starts : Meets before first middle failed)
    (continues : ∀ value, Meets (middle value) (rest value) done failed) :
    Meets before (first >>= rest) done failed := by
  intro state holds
  have reached := starts state holds
  show Outcome done failed (Fallible.bind first rest state)
  unfold Fallible.bind
  split
  · rename_i value next made
    rw [made] at reached
    exact continues value next reached
  · rename_i error next made
    rw [made] at reached
    exact reached

/-- A cleanup starts from the errors of the computation, and must not matter whether it fails. -/
theorem Meets.onError {broken : ε → σ → Prop} {computation : Fallible σ ε α}
    {cleanup : Fallible σ ε Unit} (meets : Meets before computation done broken)
    (cleans : ∀ error, Meets (broken error) cleanup (fun _ state => failed error state)
      fun _ state => failed error state) :
    Meets before (onError computation cleanup) done failed := by
  intro state holds
  have reached := meets state holds
  unfold Fallible.onError
  split
  · rename_i value next made
    rw [made] at reached
    exact reached
  · rename_i error next made
    rw [made] at reached
    have cleaned := cleans error next reached
    rcases outcome : cleanup next with ⟨left | done, last⟩ <;> rw [outcome] at cleaned <;>
      exact cleaned

end Meets
end Fallible
