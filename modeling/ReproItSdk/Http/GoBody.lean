import Mathlib.Logic.Function.Basic
import ReproItSdk.Http.GoRequest

/-! # Captured bodies of the Go HTTP adapter

The body of a captured response is wrapped.  What a read of the source returns is appended to the
capture, and the end of the source, an error, a panic, the size bound or a close settles the
dependency of the response.  Goroutines use the body at once; the lock of the capture is held only
while it is changed, so other goroutines take steps between a read of the source and what follows.

Main definitions:

- Function {lit}`step`: what one step of one goroutine does.
- Structure {lit}`Settled`: what is promised about the dependency, the application and the streams.

Main results:

- Theorem {lit}`serial_settled`: the promises hold when no goroutine reads the source while another
  one has not appended what it read.
-/

namespace ReproItSdk
namespace Http
namespace Go

/-! ## Goroutines -/

/-- An error of a read. -/
inductive ReadError (η : Type) where
  | eof
  | other (error : η)
deriving DecidableEq, Repr

/-- What a call of the source ends with: bytes and an error, a count that is negative or exceeds the
buffer, the error of a close, or a panic. -/
inductive CallResult (η : Type) where
  | read (bytes : Bytes) (error : Option (ReadError η))
  | miscounted (count : Int) (error : Option (ReadError η))
  | closed (error : Option η)
  | panicked
deriving DecidableEq, Repr

/-- What the dependency of the response is told. -/
inductive Settlement where
  | finished (body : Bytes)
  | failed
deriving DecidableEq, Repr

/-- What a goroutine is doing with the body.  With a result it has left the source; after it has
appended the bytes it looks at the error; it settles the dependency without the lock. -/
inductive Phase (η : Type) where
  | idle
  | reading
  | closing
  | returned (result : CallResult η)
  | appended (bytes : Bytes) (error : Option (ReadError η))
  | settling (settlement : Settlement) (result : CallResult η)
  | leaving (result : CallResult η)
deriving DecidableEq, Repr

/-- {lit}`automaticHTTPCaptureBody` and {lit}`automaticHTTPActiveStreams`, with what every goroutine
is doing.  The other fields are the history: the bytes that the source has returned and whether it
has ended, what the dependency was told, how other responses changed the number of streams, and for
each goroutine what its calls of the source ended with and what its calls of the body returned. -/
structure CaptureBody (η : Type) where
  body : Bytes := []
  terminal : Bool := false
  streams : Int
  phases : Nat → Phase η := fun _ => .idle
  delivered : Bytes := []
  ended : Bool := false
  settlements : List Settlement := []
  others : Int := 0
  results : Nat → List (CallResult η) := fun _ => []
  returns : Nat → List (CallResult η) := fun _ => []

/-- A step of a goroutine: it calls the body, the source returns to it, or it goes on, where a
dependency that it settles is accepted or not.  Or other responses change the number of streams. -/
inductive BodyStep (η : Type) where
  | read (goroutine : Nat)
  | close (goroutine : Nat)
  | source (goroutine : Nat) (result : CallResult η)
  | advance (goroutine : Nat) (accepted : Bool)
  | others (change : Int)
deriving DecidableEq, Repr

/-! ## Steps -/

section Steps

variable {η : Type} (supported : Bytes → Bool)

namespace CaptureBody

/-- A goroutine does something else. -/
def moved (state : CaptureBody η) (goroutine : Nat) (phase : Phase η) : CaptureBody η :=
  { state with phases := Function.update state.phases goroutine phase }

/-- The locked part of {lit}`finish` and {lit}`fail`: the first one settles the dependency. -/
def release (state : CaptureBody η) (goroutine : Nat) (settlement : Settlement)
    (result : CallResult η) : CaptureBody η :=
  if state.terminal then state.moved goroutine (.leaving result)
  else
    { state with terminal := true, streams := state.streams - 1 }.moved goroutine
      (.settling settlement result)

/-- {lit}`append` of bytes, and where its caller goes on. -/
def append (state : CaptureBody η) (goroutine : Nat) (bytes : Bytes)
    (error : Option (ReadError η)) : CaptureBody η :=
  if state.terminal then state.moved goroutine (.leaving (.read bytes error))
  else if automaticHttpBodyBytes - state.body.length < bytes.length then
    state.release goroutine .failed (.read bytes error)
  else { state with body := state.body ++ bytes }.moved goroutine (.appended bytes error)

/-- {lit}`Read` and {lit}`Close` once the source has returned. -/
def follow (state : CaptureBody η) (goroutine : Nat) (result : CallResult η) : CaptureBody η :=
  match result with
  | .read bytes error =>
      if bytes = [] then state.moved goroutine (.appended bytes error)
      else state.append goroutine bytes error
  | .miscounted _ _ => state.release goroutine .failed result
  | .closed _ => state.release goroutine .failed result
  | .panicked => state.release goroutine .failed result

/-- {lit}`Read` once the bytes are appended. -/
def examine (state : CaptureBody η) (goroutine : Nat) (bytes : Bytes)
    (error : Option (ReadError η)) : CaptureBody η :=
  match error with
  | none => state.moved goroutine (.leaving (.read bytes error))
  | some .eof => state.release goroutine (.finished state.body) (.read bytes error)
  | some (.other _) => state.release goroutine .failed (.read bytes error)

/-- {lit}`finishAutomaticHTTPCapture` and {lit}`failAutomaticHTTPCapture`: a body is recorded when
its record is supported and the engine accepts it. -/
def told (accepted : Bool) : Settlement → Settlement
  | .finished body => if supported body && accepted then .finished body else .failed
  | .failed => .failed

/-- A goroutine goes on. -/
def advance (state : CaptureBody η) (goroutine : Nat) (accepted : Bool) : CaptureBody η :=
  match state.phases goroutine with
  | .returned result => state.follow goroutine result
  | .appended bytes error => state.examine goroutine bytes error
  | .settling settlement result =>
      { state with settlements := state.settlements ++ [told supported accepted settlement] }.moved
        goroutine (.leaving result)
  | .leaving result =>
      { state with
        returns := Function.update state.returns goroutine (state.returns goroutine ++ [result])
      }.moved goroutine .idle
  | _ => state

/-- The bytes of a result. -/
def bytesOf : CallResult η → Bytes
  | .read bytes _ => bytes
  | _ => []

/-- A result says that the source has ended. -/
def isEof : CallResult η → Bool
  | .read _ (some .eof) => true
  | _ => false

/-- The source returns to a goroutine. -/
def answered (state : CaptureBody η) (goroutine : Nat) (result : CallResult η) : CaptureBody η :=
  { state with
    delivered := state.delivered ++ bytesOf result
    ended := state.ended || isEof result
    results := Function.update state.results goroutine (state.results goroutine ++ [result])
  }.moved goroutine (.returned result)

/-- What one step of one goroutine does; a goroutine that is elsewhere does nothing. -/
def step (state : CaptureBody η) : BodyStep η → CaptureBody η
  | .read goroutine =>
      match state.phases goroutine with
      | .idle => state.moved goroutine .reading
      | _ => state
  | .close goroutine =>
      match state.phases goroutine with
      | .idle => state.moved goroutine .closing
      | _ => state
  | .source goroutine result =>
      match state.phases goroutine, result with
      | .reading, .closed _ => state
      | .reading, result => state.answered goroutine result
      | .closing, .closed error => state.answered goroutine (.closed error)
      | .closing, .panicked => state.answered goroutine .panicked
      | _, _ => state
  | .advance goroutine accepted => state.advance supported goroutine accepted
  | .others change =>
      { state with streams := state.streams + change, others := state.others + change }

end CaptureBody
end Steps

/-! ## Runs -/

section Runs

variable {η : Type}

/-- The bytes that a goroutine has read and not appended. -/
def Phase.waiting : Phase η → Bytes
  | .returned result => CaptureBody.bytesOf result
  | _ => []

/-- A goroutine has heard of the end of the source and has not finished the capture. -/
def Phase.atEof : Phase η → Bool
  | .returned result => CaptureBody.isEof result
  | .appended bytes error => CaptureBody.isEof (.read bytes error)
  | _ => false

/-- What a goroutine is to tell the dependency. -/
def Phase.owed : Phase η → Option Settlement
  | .settling settlement _ => some settlement
  | _ => none

/-- The result that a goroutine is to return. -/
def Phase.pending : Phase η → List (CallResult η)
  | .returned result => [result]
  | .appended bytes error => [.read bytes error]
  | .settling _ result => [result]
  | .leaving result => [result]
  | _ => []

/-- The result of a goroutine that is done with the capture. -/
def Phase.done : Phase η → List (CallResult η)
  | .settling _ result => [result]
  | .leaving result => [result]
  | _ => []

/-- A result after which nothing more is recorded. -/
def CallResult.Ends : CallResult η → Prop
  | .read _ error => error ≠ none
  | _ => True

/-- A source has no bytes once it has ended. -/
def Contract (state : CaptureBody η) : BodyStep η → Prop
  | .source _ result => state.ended = true → CaptureBody.bytesOf result = []
  | _ => True

/-- A goroutine gets bytes or the end of the source only when no other one has bytes that it has not
appended. -/
def Serial (state : CaptureBody η) : BodyStep η → Prop
  | .source goroutine result =>
      CaptureBody.bytesOf result ≠ [] ∨ CaptureBody.isEof result = true →
        ∀ other, other ≠ goroutine → (state.phases other).waiting = []
  | _ => True

/-- The states of runs that start with the reserved stream and whose steps meet a condition. -/
inductive Reached (supported : Bytes → Bool) (condition : CaptureBody η → BodyStep η → Prop)
    (before : Int) : CaptureBody η → Prop
  | start : Reached supported condition before { streams := before + 1 }
  | step {state : CaptureBody η} {event : BodyStep η}
      (reached : Reached supported condition before state) (meets : condition state event) :
      Reached supported condition before (state.step supported event)

/-- The dependency is settled at most once, and once when no goroutine uses the body and one of them
got a result that ends it; it is finished with the complete body only; every goroutine gets what the
source returned to it; and the stream is given back when the dependency is settled. -/
structure Settled (before : Int) (state : CaptureBody η) : Prop where
  atMostOnce : state.settlements.length ≤ 1
  once : (∀ goroutine, state.phases goroutine = .idle) →
    (∃ goroutine, ∃ result ∈ state.returns goroutine, result.Ends) → state.settlements.length = 1
  complete : ∀ body, .finished body ∈ state.settlements →
    state.ended = true ∧ body = state.delivered
  faithful : ∀ goroutine, state.results goroutine =
    state.returns goroutine ++ (state.phases goroutine).pending
  released : state.settlements ≠ [] → state.streams = before + state.others

/-- What holds in every state of a run. -/
structure Sound (before : Int) (state : CaptureBody η) : Prop where
  slot : state.streams = before + state.others + if state.terminal then 0 else 1
  faithful : ∀ goroutine, state.results goroutine =
    state.returns goroutine ++ (state.phases goroutine).pending
  live : state.terminal = false → state.settlements = [] ∧
    ∀ goroutine, (state.phases goroutine).owed = none
  owed : state.terminal = true →
    (∃ settlement, state.settlements = [settlement] ∧
        ∀ goroutine, (state.phases goroutine).owed = none) ∨
      (state.settlements = [] ∧ ∃ goroutine, (state.phases goroutine).owed ≠ none ∧
        ∀ other, (state.phases other).owed ≠ none → other = goroutine)
  ends : ∀ goroutine, ∀ result ∈ state.returns goroutine ++ (state.phases goroutine).done,
    result.Ends → state.terminal = true

/-- What holds in every state of a run whose reads are appended one after another. -/
structure Ordered (state : CaptureBody η) : Prop where
  kept : state.terminal = false → ∀ goroutine,
    (∀ other, other ≠ goroutine → (state.phases other).waiting = []) →
      state.delivered = state.body ++ (state.phases goroutine).waiting
  single : ∀ goroutine other, (state.phases goroutine).waiting ≠ [] →
    (state.phases other).waiting ≠ [] → goroutine = other
  eofs : ∀ goroutine, (state.phases goroutine).atEof = true →
    state.ended = true ∧ ∀ other, other ≠ goroutine → (state.phases other).waiting = []
  complete : ∀ body, (.finished body ∈ state.settlements ∨
      ∃ goroutine, (state.phases goroutine).owed = some (.finished body)) →
    state.ended = true ∧ body = state.delivered

/-! ## What every step keeps -/

variable {before : Int} {state : CaptureBody η} {goroutine : Nat}

/-- A step of one goroutine that neither settles the dependency nor releases the stream. -/
structure Frames (goroutine : Nat) (state next : CaptureBody η) : Prop where
  terminal : next.terminal = state.terminal
  streams : next.streams = state.streams
  others : next.others = state.others
  settlements : next.settlements = state.settlements
  phases : ∀ other, other ≠ goroutine → next.phases other = state.phases other
  results : ∀ other, other ≠ goroutine → next.results other = state.results other
  returns : ∀ other, other ≠ goroutine → next.returns other = state.returns other

/-- A goroutine that moved is in its new phase. -/
@[simp] theorem phases_moved (state : CaptureBody η) (goroutine : Nat) (phase : Phase η) :
    (state.moved goroutine phase).phases goroutine = phase :=
  Function.update_self ..

/-- The other goroutines are in their old phases. -/
theorem phases_moved_ne (state : CaptureBody η) {goroutine other : Nat}
    (apart : other ≠ goroutine) (phase : Phase η) :
    (state.moved goroutine phase).phases other = state.phases other :=
  Function.update_of_ne apart ..

/-- A goroutine that moved changes nothing else. -/
theorem frames_moved (state : CaptureBody η) (goroutine : Nat) (phase : Phase η) :
    Frames goroutine state (state.moved goroutine phase) where
  terminal := rfl
  streams := rfl
  others := rfl
  settlements := rfl
  phases := fun _ apart => phases_moved_ne state apart phase
  results := fun _ _ => rfl
  returns := fun _ _ => rfl

/-- A step of a goroutine that owes nothing keeps the invariant when its results are accounted
for. -/
theorem sound_frames (sound : Sound before state) {next : CaptureBody η}
    (frames : Frames goroutine state next)
    (faithful : next.results goroutine = next.returns goroutine ++ (next.phases goroutine).pending)
    (free : (state.phases goroutine).owed = none) (free' : (next.phases goroutine).owed = none)
    (ends : ∀ result ∈ next.returns goroutine ++ (next.phases goroutine).done,
      result.Ends → state.terminal = true) : Sound before next := by
  constructor
  · rw [frames.streams, frames.others, frames.terminal]
    exact sound.slot
  · intro other
    by_cases same : other = goroutine
    · rw [same]
      exact faithful
    · rw [frames.results other same, frames.returns other same, frames.phases other same]
      exact sound.faithful other
  · intro running
    rw [frames.terminal] at running
    rcases sound.live running with ⟨quiet, none_owed⟩
    refine ⟨frames.settlements.trans quiet, fun other => ?_⟩
    by_cases same : other = goroutine
    · rw [same]
      exact free'
    · rw [frames.phases other same]
      exact none_owed other
  · intro over'
    rw [frames.terminal] at over'
    rw [frames.settlements]
    rcases sound.owed over' with ⟨settlement, one, none_owed⟩ | ⟨quiet, owner, owing, only⟩
    · refine .inl ⟨settlement, one, fun other => ?_⟩
      by_cases same : other = goroutine
      · rw [same]
        exact free'
      · rw [frames.phases other same]
        exact none_owed other
    · have apart : owner ≠ goroutine := by
        rintro rfl
        exact owing free
      refine .inr ⟨quiet, owner, ?_, fun other owes => ?_⟩
      · rw [frames.phases owner apart]
        exact owing
      · by_cases same : other = goroutine
        · rw [same] at owes
          exact absurd free' owes
        · rw [frames.phases other same] at owes
          exact only other owes
  · intro other result among
    rw [frames.terminal]
    by_cases same : other = goroutine
    · rw [same] at among
      exact ends result among
    · rw [frames.phases other same, frames.returns other same] at among
      exact sound.ends other result among

/-- A goroutine that owes nothing goes on with its result. -/
theorem sound_moved (sound : Sound before state) {phase : Phase η}
    (pending : phase.pending = (state.phases goroutine).pending)
    (free : (state.phases goroutine).owed = none) (free' : phase.owed = none)
    (ends : ∀ result ∈ phase.done, result.Ends → state.terminal = true) :
    Sound before (state.moved goroutine phase) := by
  apply sound_frames sound (frames_moved state goroutine phase) _ free
  · rw [phases_moved]
    exact free'
  · intro result among
    rw [phases_moved] at among
    rcases List.mem_append.mp among with returned | done
    · exact sound.ends goroutine result (List.mem_append_left _ returned)
    · exact ends result done
  · rw [phases_moved, pending]
    exact sound.faithful goroutine

/-- The first goroutine to release the capture settles the dependency, and the others leave. -/
theorem sound_release (sound : Sound before state) {settlement : Settlement}
    {result : CallResult η} (pending : (state.phases goroutine).pending = [result])
    (free : (state.phases goroutine).owed = none) :
    Sound before (state.release goroutine settlement result) := by
  unfold CaptureBody.release
  by_cases over' : state.terminal = true
  · rw [if_pos over']
    exact sound_moved sound pending.symm free rfl fun _ _ _ => over'
  · rw [if_neg over']
    rw [Bool.not_eq_true] at over'
    rcases sound.live over' with ⟨quiet, none_owed⟩
    have slot := sound.slot
    rw [over', if_neg Bool.false_ne_true] at slot
    constructor
    · change state.streams - 1 = before + state.others + 0
      omega
    · intro other
      by_cases same : other = goroutine
      · rw [same, phases_moved]
        exact (sound.faithful goroutine).trans (by rw [pending]; rfl)
      · rw [phases_moved_ne _ same]
        exact sound.faithful other
    · intro running
      cases running
    · intro _
      refine .inr ⟨quiet, goroutine, ?_, fun other owes => ?_⟩
      · rw [phases_moved]
        exact Option.some_ne_none _
      · by_contra apart
        rw [phases_moved_ne _ apart] at owes
        exact owes (none_owed other)
    · exact fun _ _ _ _ => rfl

/-- A goroutine tells the dependency what it owes. -/
theorem sound_told (sound : Sound before state) {settlement told : Settlement}
    {result : CallResult η} (here : state.phases goroutine = .settling settlement result) :
    Sound before ({ state with settlements := state.settlements ++ [told] }.moved goroutine
      (.leaving result)) := by
  have over' : state.terminal = true := by
    by_contra running
    rw [Bool.not_eq_true] at running
    have free := (sound.live running).2 goroutine
    rw [here] at free
    cases free
  rcases sound.owed over' with ⟨-, -, none_owed⟩ | ⟨quiet, owner, -, only⟩
  · have free := none_owed goroutine
    rw [here] at free
    cases free
  · have owns : goroutine = owner := by
      apply only goroutine
      rw [here]
      exact Option.some_ne_none _
    constructor
    · exact sound.slot
    · intro other
      by_cases same : other = goroutine
      · have faithful := sound.faithful goroutine
        rw [here] at faithful
        rw [same, phases_moved]
        exact faithful
      · rw [phases_moved_ne _ same]
        exact sound.faithful other
    · intro running
      rw [CaptureBody.moved] at running
      rw [over'] at running
      cases running
    · intro _
      refine .inl ⟨told, congrArg (· ++ [told]) quiet, fun other => ?_⟩
      by_cases same : other = goroutine
      · rw [same, phases_moved]
        rfl
      · rw [phases_moved_ne _ same]
        by_contra owes
        exact same ((only other owes).trans owns.symm)
    · intro _ _ _ _
      exact over'

/-- A goroutine returns its result. -/
theorem sound_returned (sound : Sound before state) {result : CallResult η}
    (here : state.phases goroutine = .leaving result) :
    Sound before ({ state with
      returns := Function.update state.returns goroutine (state.returns goroutine ++ [result])
      }.moved goroutine .idle) := by
  have ends := sound.ends goroutine
  have faithful := sound.faithful goroutine
  have free : (state.phases goroutine).owed = none := by
    rw [here]
    rfl
  have frames : Frames goroutine state ({ state with
      returns := Function.update state.returns goroutine (state.returns goroutine ++ [result])
      }.moved goroutine .idle) :=
    ⟨rfl, rfl, rfl, rfl, fun _ apart => phases_moved_ne _ apart _, fun _ _ => rfl,
      fun _ apart => Function.update_of_ne apart ..⟩
  rw [here] at ends faithful
  apply sound_frames sound frames _ free
  · rw [phases_moved]
    rfl
  · intro item among
    rw [phases_moved] at among
    apply ends item
    simpa [CaptureBody.moved, Phase.done] using among
  · rw [phases_moved]
    simpa [CaptureBody.moved, Phase.pending] using faithful

/-- The source returns to a goroutine. -/
theorem sound_answered (sound : Sound before state) (result : CallResult η)
    (none_pending : (state.phases goroutine).pending = [])
    (free : (state.phases goroutine).owed = none) :
    Sound before (state.answered goroutine result) := by
  have faithful := sound.faithful goroutine
  rw [none_pending, List.append_nil] at faithful
  have frames : Frames goroutine state (state.answered goroutine result) :=
    ⟨rfl, rfl, rfl, rfl, fun _ apart => phases_moved_ne _ apart _,
      fun _ apart => Function.update_of_ne apart .., fun _ _ => rfl⟩
  apply sound_frames sound frames _ free
  · rw [CaptureBody.answered, phases_moved]
    rfl
  · intro item among
    rw [CaptureBody.answered, phases_moved] at among
    apply sound.ends goroutine item
    rcases List.mem_append.mp among with returned | done
    · exact List.mem_append_left _ returned
    · cases done
  · rw [CaptureBody.answered, phases_moved]
    simp [CaptureBody.moved, Phase.pending, faithful]

/-- The capture of more bytes keeps the accounts. -/
theorem sound_body (sound : Sound before state) (body : Bytes) :
    Sound before { state with body := body } where
  slot := sound.slot
  faithful := sound.faithful
  live := sound.live
  owed := sound.owed
  ends := sound.ends

/-- What follows the source keeps the accounts. -/
theorem sound_follow (sound : Sound before state) {result : CallResult η}
    (here : state.phases goroutine = .returned result) :
    Sound before (state.follow goroutine result) := by
  have pending : (state.phases goroutine).pending = [result] := by
    rw [here]
    rfl
  have free : (state.phases goroutine).owed = none := by
    rw [here]
    rfl
  cases result with
  | read bytes error =>
      simp only [CaptureBody.follow]
      split
      · exact sound_moved sound pending.symm free rfl fun _ among => by cases among
      · unfold CaptureBody.append
        split
        · rename_i over'
          exact sound_moved sound pending.symm free rfl fun _ _ _ => over'
        · split
          · exact sound_release sound pending free
          · exact sound_moved (sound_body sound _) pending.symm free rfl
              fun _ among => by cases among
  | miscounted count error => exact sound_release sound pending free
  | closed error => exact sound_release sound pending free
  | panicked => exact sound_release sound pending free

/-- What follows the error of a read keeps the accounts. -/
theorem sound_examine (sound : Sound before state) {bytes : Bytes}
    {error : Option (ReadError η)} (here : state.phases goroutine = .appended bytes error) :
    Sound before (state.examine goroutine bytes error) := by
  have pending : (state.phases goroutine).pending = [.read bytes error] := by
    rw [here]
    rfl
  have free : (state.phases goroutine).owed = none := by
    rw [here]
    rfl
  unfold CaptureBody.examine
  split
  · apply sound_moved sound _ free rfl
    · intro result among ends
      cases List.mem_singleton.mp among
      exact absurd rfl ends
    · exact pending.symm
  · exact sound_release sound pending free
  · exact sound_release sound pending free

/-- Every step keeps the accounts of the capture. -/
theorem sound_step (supported : Bytes → Bool) (sound : Sound before state)
    (event : BodyStep η) : Sound before (state.step supported event) := by
  cases event with
  | read goroutine =>
      simp only [CaptureBody.step]
      split
      · rename_i here
        apply sound_moved sound _ _ rfl
        · intro _ among
          cases among
        · rw [here]
          rfl
        · rw [here]
          rfl
      · exact sound
  | close goroutine =>
      simp only [CaptureBody.step]
      split
      · rename_i here
        apply sound_moved sound _ _ rfl
        · intro _ among
          cases among
        · rw [here]
          rfl
        · rw [here]
          rfl
      · exact sound
  | source goroutine result =>
      simp only [CaptureBody.step]
      split
      · exact sound
      · rename_i here _
        exact sound_answered sound _ (by rw [here]; rfl) (by rw [here]; rfl)
      · rename_i here
        exact sound_answered sound _ (by rw [here]; rfl) (by rw [here]; rfl)
      · rename_i here
        exact sound_answered sound _ (by rw [here]; rfl) (by rw [here]; rfl)
      · exact sound
  | advance goroutine accepted =>
      simp only [CaptureBody.step, CaptureBody.advance]
      split
      · rename_i here
        exact sound_follow sound here
      · rename_i here
        exact sound_examine sound here
      · rename_i here
        exact sound_told sound here
      · rename_i here
        exact sound_returned sound here
      · exact sound
  | others change =>
      constructor
      · have slot := sound.slot
        change state.streams + change = before + (state.others + change) +
          if state.terminal = true then 0 else 1
        rw [slot]
        generalize (if state.terminal = true then (0 : Int) else 1) = held
        omega
      · exact sound.faithful
      · exact sound.live
      · exact sound.owed
      · exact sound.ends

/-! ## What serial reads keep -/

/-- A step of one goroutine that gets nothing from the source. -/
structure KeepsSource (goroutine : Nat) (state next : CaptureBody η) : Prop where
  phases : ∀ other, other ≠ goroutine → next.phases other = state.phases other
  delivered : next.delivered = state.delivered
  ended : next.ended = state.ended

/-- A goroutine that moved gets nothing from the source. -/
theorem keepsSource_moved (state : CaptureBody η) (goroutine : Nat) (phase : Phase η) :
    KeepsSource goroutine state (state.moved goroutine phase) where
  phases := fun _ apart => phases_moved_ne state apart phase
  delivered := rfl
  ended := rfl

/-- A step of a goroutine that gets nothing from the source, and keeps or drops what it had, keeps
the order of the bytes when what it tells the dependency is complete. -/
theorem ordered_frames (ordered : Ordered state) {next : CaptureBody η}
    (keeps : KeepsSource goroutine state next) (dry : (next.phases goroutine).waiting = [])
    (eof : (next.phases goroutine).atEof = true → (state.phases goroutine).atEof = true)
    (kept : next.terminal = false → state.terminal = false ∧
      next.body = state.body ++ (state.phases goroutine).waiting)
    (tells : ∀ body, (.finished body ∈ next.settlements ∨
        (next.phases goroutine).owed = some (.finished body)) →
      state.ended = true ∧ body = state.delivered) : Ordered next := by
  have phases := keeps.phases
  have waits (other : Nat) (waiting : (next.phases other).waiting ≠ []) :
      other ≠ goroutine ∧ (state.phases other).waiting ≠ [] := by
    have apart : other ≠ goroutine := by
      rintro rfl
      exact waiting dry
    rw [phases other apart] at waiting
    exact ⟨apart, waiting⟩
  constructor
  · intro running other alone
    rcases kept running with ⟨running', body⟩
    rw [keeps.delivered, body]
    by_cases held : (state.phases goroutine).waiting = []
    · have same (each : Nat) : (next.phases each).waiting = (state.phases each).waiting := by
        by_cases here : each = goroutine
        · rw [here, dry, held]
        · rw [phases each here]
      rw [held, List.append_nil, same other]
      apply ordered.kept running' other
      intro each apart
      rw [← same each]
      exact alone each apart
    · have rest (each : Nat) (apart : each ≠ goroutine) : (state.phases each).waiting = [] := by
        by_contra waiting
        exact apart (ordered.single each goroutine waiting held)
      have last : (next.phases other).waiting = [] := by
        by_contra waiting
        rcases waits other waiting with ⟨apart, waiting'⟩
        exact waiting' (rest other apart)
      rw [last, List.append_nil]
      exact ordered.kept running' goroutine rest
  · intro first second waiting waiting'
    exact ordered.single first second (waits first waiting).2 (waits second waiting').2
  · intro first atEof
    have atEof' : (state.phases first).atEof = true := by
      by_cases here : first = goroutine
      · rw [here] at atEof ⊢
        exact eof atEof
      · rw [phases first here] at atEof
        exact atEof
    rcases ordered.eofs first atEof' with ⟨over', alone⟩
    refine ⟨keeps.ended.trans over', fun other apart => ?_⟩
    by_contra waiting
    exact (waits other waiting).2 (alone other apart)
  · intro body told
    rw [keeps.ended, keeps.delivered]
    rcases told with settled | ⟨owner, owes⟩
    · exact tells body (.inl settled)
    · by_cases here : owner = goroutine
      · rw [here] at owes
        exact tells body (.inr owes)
      · rw [phases owner here] at owes
        exact ordered.complete body (.inr ⟨owner, owes⟩)

/-- A goroutine without bytes, or one that comes too late, goes on. -/
theorem ordered_moved (ordered : Ordered state) {phase : Phase η} (dry : phase.waiting = [])
    (eof : phase.atEof = true → (state.phases goroutine).atEof = true)
    (free : phase.owed = none)
    (late : (state.phases goroutine).waiting = [] ∨ state.terminal = true) :
    Ordered (state.moved goroutine phase) := by
  apply ordered_frames ordered (keepsSource_moved state goroutine phase)
  · rw [phases_moved]
    exact dry
  · rw [phases_moved]
    exact eof
  · intro running
    rcases late with none_waiting | over'
    · exact ⟨running, by rw [none_waiting, List.append_nil]; rfl⟩
    · rw [show state.terminal = false from running] at over'
      cases over'
  · intro body told
    rcases told with settled | owes
    · exact ordered.complete body (.inl settled)
    · rw [phases_moved, free] at owes
      cases owes

/-- A release keeps the order of the bytes when it settles nothing or the complete body. -/
theorem ordered_release (ordered : Ordered state) {settlement : Settlement}
    {result : CallResult η} (complete : state.terminal = false → ∀ body,
      settlement = .finished body → state.ended = true ∧ body = state.delivered) :
    Ordered (state.release goroutine settlement result) := by
  unfold CaptureBody.release
  by_cases over' : state.terminal = true
  · rw [if_pos over']
    exact ordered_moved ordered rfl (fun at' => by cases at') rfl (.inr over')
  · rw [if_neg over']
    rw [Bool.not_eq_true] at over'
    have keeps : KeepsSource goroutine state
        ({ state with terminal := true, streams := state.streams - 1 }.moved goroutine
          (.settling settlement result)) :=
      ⟨fun _ apart => phases_moved_ne _ apart _, rfl, rfl⟩
    apply ordered_frames ordered keeps
    · rw [phases_moved]
      rfl
    · rw [phases_moved]
      exact fun at' => by cases at'
    · intro running
      cases running
    · intro body told
      rcases told with settled | owes
      · exact ordered.complete body (.inl settled)
      · rw [phases_moved] at owes
        exact complete over' body (Option.some.inj owes)

/-- What follows the source keeps the order of the bytes. -/
theorem ordered_follow (ordered : Ordered state) {result : CallResult η}
    (here : state.phases goroutine = .returned result) :
    Ordered (state.follow goroutine result) := by
  have waiting : (state.phases goroutine).waiting = CaptureBody.bytesOf result := by
    rw [here]
    rfl
  have eof : (state.phases goroutine).atEof = CaptureBody.isEof result := by
    rw [here]
    rfl
  cases result with
  | read bytes error =>
      simp only [CaptureBody.follow]
      split
      · rename_i empty
        exact ordered_moved ordered rfl (fun at' => eof.trans at') rfl
          (.inl (waiting.trans empty))
      · unfold CaptureBody.append
        split
        · rename_i over'
          exact ordered_moved ordered rfl (fun at' => by cases at') rfl (.inr over')
        · rename_i running
          split
          · exact ordered_release ordered fun _ _ same => by cases same
          · have keeps : KeepsSource goroutine state
                ({ state with body := state.body ++ bytes }.moved goroutine
                  (.appended bytes error)) :=
              ⟨fun _ apart => phases_moved_ne _ apart _, rfl, rfl⟩
            apply ordered_frames ordered keeps
            · rw [phases_moved]
              rfl
            · rw [phases_moved]
              exact fun at' => eof.trans at'
            · intro still
              exact ⟨still, by rw [waiting]; rfl⟩
            · intro body told
              rcases told with settled | owes
              · exact ordered.complete body (.inl settled)
              · rw [phases_moved] at owes
                cases owes
  | miscounted count error => exact ordered_release ordered fun _ _ same => by cases same
  | closed error => exact ordered_release ordered fun _ _ same => by cases same
  | panicked => exact ordered_release ordered fun _ _ same => by cases same

/-- A read that heard of the end finishes the capture with all bytes of the source. -/
theorem ordered_examine (ordered : Ordered state) {bytes : Bytes}
    {error : Option (ReadError η)} (here : state.phases goroutine = .appended bytes error) :
    Ordered (state.examine goroutine bytes error) := by
  have dry : (state.phases goroutine).waiting = [] := by
    rw [here]
    rfl
  unfold CaptureBody.examine
  split
  · exact ordered_moved ordered rfl (fun at' => by cases at') rfl (.inl dry)
  · apply ordered_release ordered
    intro running body same
    have atEof : (state.phases goroutine).atEof = true := by
      rw [here]
      rfl
    rcases ordered.eofs goroutine atEof with ⟨over', alone⟩
    have kept := ordered.kept running goroutine alone
    rw [dry, List.append_nil] at kept
    cases same
    exact ⟨over', kept.symm⟩
  · exact ordered_release ordered fun _ _ same => by cases same

/-- What the dependency is told is what was owed to it. -/
theorem ordered_told (ordered : Ordered state) (supported : Bytes → Bool) (accepted : Bool)
    {settlement : Settlement} {result : CallResult η}
    (here : state.phases goroutine = .settling settlement result) :
    Ordered ({ state with
      settlements := state.settlements ++ [CaptureBody.told supported accepted settlement]
      }.moved goroutine (.leaving result)) := by
  have dry : (state.phases goroutine).waiting = [] := by
    rw [here]
    rfl
  have keeps : KeepsSource goroutine state ({ state with
      settlements := state.settlements ++ [CaptureBody.told supported accepted settlement]
      }.moved goroutine (.leaving result)) :=
    ⟨fun _ apart => phases_moved_ne _ apart _, rfl, rfl⟩
  apply ordered_frames ordered keeps
  · rw [phases_moved]
    rfl
  · rw [phases_moved]
    exact fun at' => by cases at'
  · intro running
    exact ⟨running, by rw [dry, List.append_nil]; rfl⟩
  · intro body told
    rcases told with settled | owes
    · rcases List.mem_append.mp settled with earlier | now
      · exact ordered.complete body (.inl earlier)
      · apply ordered.complete body
        refine .inr ⟨goroutine, ?_⟩
        rw [here]
        cases settlement with
        | finished whole =>
            simp only [CaptureBody.told] at now
            split at now
            · rw [List.mem_singleton.mp now]
              rfl
            · cases List.mem_singleton.mp now
        | failed => cases List.mem_singleton.mp now
    · rw [phases_moved] at owes
      cases owes

/-- A goroutine that gets bytes or the end of the source alone keeps the order of the bytes. -/
theorem ordered_answered (ordered : Ordered state) {result : CallResult η}
    (dry : (state.phases goroutine).waiting = [])
    (contract : state.ended = true → CaptureBody.bytesOf result = [])
    (serial : CaptureBody.bytesOf result ≠ [] ∨ CaptureBody.isEof result = true →
      ∀ other, other ≠ goroutine → (state.phases other).waiting = []) :
    Ordered (state.answered goroutine result) := by
  have here : (state.answered goroutine result).phases goroutine = .returned result :=
    phases_moved ..
  have there (other : Nat) (apart : other ≠ goroutine) :
      (state.answered goroutine result).phases other = state.phases other :=
    phases_moved_ne _ apart _
  have delivered : (state.answered goroutine result).delivered =
      state.delivered ++ CaptureBody.bytesOf result := rfl
  have ended : (state.answered goroutine result).ended =
      (state.ended || CaptureBody.isEof result) := rfl
  have waits : ((state.answered goroutine result).phases goroutine).waiting =
      CaptureBody.bytesOf result := by
    rw [here]
    rfl
  constructor
  · intro running other alone
    rw [delivered]
    by_cases empty : CaptureBody.bytesOf result = []
    · have same (each : Nat) : ((state.answered goroutine result).phases each).waiting =
          (state.phases each).waiting := by
        by_cases mine : each = goroutine
        · rw [mine, waits, empty, dry]
        · rw [there each mine]
      rw [empty, List.append_nil, same]
      apply ordered.kept running other
      intro each apart
      rw [← same each]
      exact alone each apart
    · by_cases mine : other = goroutine
      · have kept := ordered.kept running goroutine (serial (.inl empty))
        rw [dry, List.append_nil] at kept
        rw [mine, waits, kept]
        rfl
      · have waiting := alone goroutine (Ne.symm mine)
        rw [waits] at waiting
        exact absurd waiting empty
  · intro first second waiting waiting'
    by_cases mine : first = goroutine
    · by_cases mine' : second = goroutine
      · exact mine.trans mine'.symm
      · rw [mine, waits] at waiting
        rw [there second mine'] at waiting'
        exact absurd (serial (.inl waiting) second mine') waiting'
    · rw [there first mine] at waiting
      by_cases mine' : second = goroutine
      · rw [mine', waits] at waiting'
        exact absurd (serial (.inl waiting') first mine) waiting
      · rw [there second mine'] at waiting'
        exact ordered.single first second waiting waiting'
  · intro first atEof
    rw [ended]
    by_cases mine : first = goroutine
    · rw [mine, here] at atEof
      have eof : CaptureBody.isEof result = true := atEof
      rw [eof, Bool.or_true, mine]
      refine ⟨rfl, fun other apart => ?_⟩
      rw [there other apart]
      exact serial (.inr eof) other apart
    · rw [there first mine] at atEof
      rcases ordered.eofs first atEof with ⟨over', alone⟩
      rw [over', Bool.true_or]
      refine ⟨rfl, fun other apart => ?_⟩
      by_cases mine' : other = goroutine
      · rw [mine', waits]
        exact contract over'
      · rw [there other mine']
        exact alone other apart
  · intro body told
    have before' : state.ended = true ∧ body = state.delivered := by
      apply ordered.complete body
      rcases told with settled | ⟨owner, owes⟩
      · exact .inl settled
      · by_cases mine : owner = goroutine
        · rw [mine, here] at owes
          cases owes
        · rw [there owner mine] at owes
          exact .inr ⟨owner, owes⟩
    rw [ended, delivered, before'.1, contract before'.1, List.append_nil]
    exact ⟨rfl, before'.2⟩

/-- Every step of a run with serial reads keeps the order of the bytes. -/
theorem ordered_step (supported : Bytes → Bool) (ordered : Ordered state) (event : BodyStep η)
    (contract : Contract state event) (serial : Serial state event) :
    Ordered (state.step supported event) := by
  cases event with
  | read goroutine =>
      simp only [CaptureBody.step]
      split
      · rename_i here
        exact ordered_moved ordered rfl (fun at' => by cases at') rfl
          (.inl (by rw [here]; rfl))
      · exact ordered
  | close goroutine =>
      simp only [CaptureBody.step]
      split
      · rename_i here
        exact ordered_moved ordered rfl (fun at' => by cases at') rfl
          (.inl (by rw [here]; rfl))
      · exact ordered
  | source goroutine result =>
      simp only [CaptureBody.step]
      split
      · exact ordered
      · rename_i here _
        exact ordered_answered ordered (by rw [here]; rfl) contract serial
      · rename_i here
        exact ordered_answered ordered (by rw [here]; rfl) contract serial
      · rename_i here
        exact ordered_answered ordered (by rw [here]; rfl) contract serial
      · exact ordered
  | advance goroutine accepted =>
      simp only [CaptureBody.step, CaptureBody.advance]
      split
      · rename_i here
        exact ordered_follow ordered here
      · rename_i here
        exact ordered_examine ordered here
      · rename_i here
        exact ordered_told ordered supported accepted here
      · rename_i result here
        have dry : (state.phases goroutine).waiting = [] := by
          rw [here]
          rfl
        have keeps : KeepsSource goroutine state ({ state with
            returns := Function.update state.returns goroutine
              (state.returns goroutine ++ [result]) }.moved goroutine .idle) :=
          ⟨fun _ apart => phases_moved_ne _ apart _, rfl, rfl⟩
        apply ordered_frames ordered keeps
        · rw [phases_moved]
          rfl
        · rw [phases_moved]
          exact fun at' => by cases at'
        · intro running
          exact ⟨running, by rw [dry, List.append_nil]; rfl⟩
        · intro body told
          rcases told with settled | owes
          · exact ordered.complete body (.inl settled)
          · rw [phases_moved] at owes
            cases owes
      · exact ordered
  | others change => exact ⟨ordered.kept, ordered.single, ordered.eofs, ordered.complete⟩

/-! ## The promises of the capture -/

/-- The invariant of the capture is what is promised. -/
theorem settled_of_sound (sound : Sound before state) (ordered : Ordered state) :
    Settled before state := by
  constructor
  · by_cases over' : state.terminal = true
    · rcases sound.owed over' with ⟨settlement, one, -⟩ | ⟨quiet, -⟩
      · rw [one]
        exact le_rfl
      · rw [quiet]
        exact Nat.zero_le _
    · rw [Bool.not_eq_true] at over'
      rw [(sound.live over').1]
      exact Nat.zero_le _
  · rintro idle ⟨goroutine, result, among, ends⟩
    have over' := sound.ends goroutine result (List.mem_append_left _ among) ends
    rcases sound.owed over' with ⟨settlement, one, -⟩ | ⟨-, owner, owing, -⟩
    · rw [one]
      rfl
    · rw [idle owner] at owing
      exact absurd rfl owing
  · exact fun body settled => ordered.complete body (.inl settled)
  · exact sound.faithful
  · intro settled
    have over' : state.terminal = true := by
      by_contra running
      rw [Bool.not_eq_true] at running
      exact settled (sound.live running).1
    have slot := sound.slot
    rw [over', if_pos rfl, Int.add_zero] at slot
    exact slot

/-- The capture keeps its promises in every state of a run whose source ends once and whose reads
are appended one after another. -/
theorem serial_settled (supported : Bytes → Bool) (before : Int) {state : CaptureBody η}
    (reached : Reached supported (fun state event => Contract state event ∧ Serial state event)
      before state) : Settled before state := by
  suffices both : Sound before state ∧ Ordered state from settled_of_sound both.1 both.2
  induction reached with
  | start =>
      constructor
      · constructor
        · change before + 1 = before + 0 + 1
          omega
        · exact fun _ => rfl
        · exact fun _ => ⟨rfl, fun _ => rfl⟩
        · exact fun over' => by cases over'
        · exact fun _ _ among => by cases among
      · constructor
        · exact fun _ _ _ => rfl
        · exact fun _ _ waiting => absurd rfl waiting
        · exact fun _ atEof => by cases atEof
        · rintro body (settled | ⟨owner, owes⟩)
          · cases settled
          · cases owes
  | step reached meets ih =>
      exact ⟨sound_step supported ih.1 _, ordered_step supported ih.2 _ meets.1 meets.2⟩

/-- A goroutine reads a byte and the end of the source at once. -/
theorem serial_settled_read : Settled 0 (List.foldl (CaptureBody.step fun _ => true)
    ({ streams := 0 + 1 } : CaptureBody Unit)
    [.read 0, .source 0 (.read [97] (some .eof)), .advance 0 true, .advance 0 true,
      .advance 0 true]) := by
  apply serial_settled (fun _ => true) 0
  simp only [List.foldl_cons, List.foldl_nil]
  refine .step (.step (.step (.step (.step .start ?_) ?_) ?_) ?_) ?_
  · exact ⟨trivial, trivial⟩
  · refine ⟨Bool.false_ne_true.elim, fun _ other apart => ?_⟩
    exact congrArg Phase.waiting (phases_moved_ne _ apart .reading)
  · exact ⟨trivial, trivial⟩
  · exact ⟨trivial, trivial⟩
  · exact ⟨trivial, trivial⟩

/-- A goroutine that hears of the end finishes the capture before another one has appended what it
read. -/
theorem unappended_byte_lost : ¬ ∀ supported before (state : CaptureBody Unit),
    Reached supported Contract before state → Settled before state := by
  intro all
  have settled := all (fun _ => true) 0 (List.foldl (CaptureBody.step fun _ => true)
    ({ streams := 0 + 1 } : CaptureBody Unit)
    [.read 0, .read 1, .source 0 (.read [97] none), .source 1 (.read [] (some .eof)),
      .advance 1 true, .advance 1 true, .advance 1 true]) (by
        simp only [List.foldl_cons, List.foldl_nil]
        refine .step (.step (.step (.step (.step (.step (.step .start ?_) ?_) ?_) ?_) ?_) ?_) ?_
        · trivial
        · trivial
        · exact fun ended => by cases ended
        · exact fun _ => rfl
        · trivial
        · trivial
        · trivial)
  have lost := settled.complete [] (List.mem_cons_self ..)
  cases lost.2

end Runs
end Go
end Http
end ReproItSdk
