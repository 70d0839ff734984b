import Mathlib.Data.List.Sort
import ReproItSdk.Http.PythonResponse
import ReproItSdk.Wrappers.Dependency

/-! # Overlapping requests of the Python URL adapter

The engine gives a call its place when it starts.  The number of a response is given when the live
call returns, and in a replay when its record is read.  Calls of an operation may overlap: this
module records an operation call by call, in any order of starts and ends, and replays the calls in
the order in which they started.

Main definitions:

- Function {lit}`step`: what a start or an end of a call does to the capture of an operation.
- Function {lit}`replayCalls`: what a replay returns for the calls in their order.
- Predicate {lit}`ReplaysInStartOrder`: a complete capture is replayed with what was returned.

Main results:

- Theorem {lit}`replays_iff`: a capture is replayed if and only if the opened responses returned in
  the order in which they were opened.
-/

namespace ReproItSdk
namespace Http
namespace Python

open Unicode Json
open Sqlite (DependencyRequest)
open Wrappers (DependencyResponse)

/-! ## Calls -/

/-- A call of the application: {lit}`urlopen`, a full {lit}`read` of the response that the call with
the given place opened, or one that the adapter does not support. -/
inductive Call where
  | opening (url : Text) (timeout : Timeout)
  | reading (opened : Nat)
  | unsupported
deriving DecidableEq, Repr

/-- What a call gives the application. -/
inductive Result where
  | response (head : ResponseHead)
  | urlError (reason : Text)
  | body (value : Bytes)
deriving DecidableEq

/-- {lit}`_ResponseState`: the number of a response and its target. -/
structure ResponseState where
  responseId : Nat
  target : Text
deriving DecidableEq, Repr

/-- The request of a call, with the states of the opened responses. -/
def callRequest (states : Nat → Option ResponseState) : Call → Option DependencyRequest
  | .opening url timeout => request "open" url 0 (encodeTimeout timeout)
  | .reading opened => do
      let state ← states opened
      request "read" state.target state.responseId .null
  | .unsupported => none

/-- {lit}`_allocate_response_id` for the next number, with zero when the numbers are used up. -/
def allocated (nextResponseId : Nat) : Nat :=
  if maxResponses < nextResponseId then 0 else nextResponseId

/-! ## Capture -/

/-- A call that was started: its request, the state of the response that it opened, its record and
what it returned. -/
structure Started where
  call : Call
  request : DependencyRequest
  state : Option ResponseState
  response : Option DependencyResponse
  result : Option Result

/-- The capture of an operation: the calls in the order in which they started, the next number, and
whether the operation was marked or given up. -/
structure Recorder where
  started : List Started
  nextResponseId : Nat
  unowned : Bool
  abandoned : Bool

/-- The capture of an operation that begins. -/
def Recorder.start : Recorder where
  started := []
  nextResponseId := 1
  unowned := false
  abandoned := false

/-- The states of the responses that started calls opened. -/
def statesOf (started : List Started) (index : Nat) : Option ResponseState :=
  started[index]?.bind Started.state

/-- A start of a call or one of its ends: a response with whether the call was redirected or went
through a proxy, an error with a reason only, a body, or anything else.  An end comes with whether
the engine accepts it. -/
inductive Event where
  | start (call : Call)
  | returned (index : Nat) (head : ResponseHead) (redirected accepted : Bool)
  | failed (index : Nat) (reason : Text) (accepted : Bool)
  | delivered (index : Nat) (value : Bytes) (accepted : Bool)
  | threw (index : Nat)

/-- Record the end of a call with its payload, if there is one and the engine accepts it. -/
def Recorder.finish (recorder : Recorder) (index : Nat) (started : Started) (outcome : String)
    (payload : Option Bytes) (result : Result) (accepted : Bool) : Recorder :=
  match payload, accepted with
  | some payload, true =>
      let finished := { started with
        response := some { outcome := outcome, payload := some payload }
        result := some result }
      { recorder with started := recorder.started.set index finished }
  | _, _ => { recorder with abandoned := true }

/-- The call at a place that has not ended. -/
def Recorder.pending? (recorder : Recorder) (index : Nat) : Option Started :=
  recorder.started[index]?.filter fun started => started.result.isNone

section Adapter

variable (lower : Text → Text)

/-- The end of {lit}`_urlopen` with a response. -/
def Recorder.returned (recorder : Recorder) (index : Nat) (started : Started) (url : Text)
    (head : ResponseHead) (redirected accepted : Bool) : Recorder :=
  let responseId := allocated recorder.nextResponseId
  let initialized := { started with state := some ⟨responseId, url⟩ }
  let counted := { recorder with
    nextResponseId :=
      if responseId = 0 then recorder.nextResponseId else recorder.nextResponseId + 1
    unowned := recorder.unowned || redirected || head.url ≠ url || responseId = 0 }
  counted.finish index initialized "response" (encodeOpenResponse lower responseId head)
    (.response head) accepted

/-- The next capture.  After an operation was given up nothing is recorded, and there is no next
capture after an end of a call that was not started or ended before. -/
def step (recorder : Recorder) (event : Event) : Option Recorder :=
  if recorder.abandoned then some recorder
  else
    match event with
    | .start call =>
        match callRequest (statesOf recorder.started) call with
        | some request =>
            some { recorder with
              started := recorder.started ++ [⟨call, request, none, none, none⟩] }
        | none => some { recorder with unowned := true }
    | .returned index head redirected accepted =>
        match recorder.pending? index with
        | some started =>
            match started.call with
            | .opening url _ =>
                some (recorder.returned lower index started url head redirected accepted)
            | _ => none
        | none => none
    | .failed index reason accepted =>
        match recorder.pending? index with
        | some started =>
            match started.call with
            | .opening _ _ =>
                let marked := { recorder with
                  unowned := recorder.unowned || (encodeUrlError reason).isNone }
                some (marked.finish index started "error" (encodeUrlError reason) (.urlError reason)
                  accepted)
            | _ => none
        | none => none
    | .delivered index value accepted =>
        match recorder.pending? index with
        | some started =>
            match started.call with
            | .reading _ =>
                some (recorder.finish index started "response" (encodeReadResponse value)
                  (.body value) accepted)
            | _ => none
        | none => none
    | .threw index =>
        match recorder.pending? index with
        | some _ => some { recorder with unowned := true, abandoned := true }
        | none => none

/-- The capture of an operation with the given events, if they can happen. -/
def capture (events : List Event) : Option Recorder :=
  events.foldlM (step lower) .start

/-- An operation is captured completely when it was neither marked nor given up and all its calls
are recorded. -/
structure Recorder.Complete (recorder : Recorder) : Prop where
  owned : recorder.unowned = false
  kept : recorder.abandoned = false
  recorded : ∀ started ∈ recorder.started, started.response.isSome = true

/-! ## Replay -/

/-- A replay of an operation: what is left of its record, the next number and the states of the
responses that its calls opened. -/
structure Replayer where
  remaining : List (DependencyRequest × DependencyResponse)
  nextResponseId : Nat
  states : List (Option ResponseState)

/-- What a recorded outcome and its payload give a call. -/
def answerCall (replayer : Replayer) (outcome : String) (document : Document Int) :
    Call → Option (Result × Replayer)
  | .opening url _ =>
      if outcome = "response" then do
        let (responseId, head) ←
          decodeOpenResponse lower url (allocated replayer.nextResponseId) document
        return (.response head, { replayer with
          nextResponseId := replayer.nextResponseId + 1
          states := replayer.states ++ [some ⟨responseId, url⟩] })
      else if outcome = "error" then do
        let reason ← decodeUrlError document
        return (.urlError reason, { replayer with states := replayer.states ++ [none] })
      else none
  | .reading _ =>
      if outcome = "response" then do
        let value ← decodeReadResponse document
        return (.body value, { replayer with states := replayer.states ++ [none] })
      else none
  | .unsupported => none

/-- A call in a replay: the engine compares its request with the next recorded one. -/
def replayCall (replayer : Replayer) (call : Call) : Option (Result × Replayer) := do
  let request ← callRequest (fun opened => replayer.states[opened]?.join) call
  match replayer.remaining with
  | [] => none
  | (recorded, response) :: remaining =>
      if recorded ≠ request then none
      else do
        let payload ← response.payload
        let document ← decodePayload payload
        answerCall lower { replayer with remaining := remaining } response.outcome document call

/-- The calls of a replay, which ends when the whole record was used. -/
def replayCalls : Replayer → List Call → Option (List Result)
  | replayer, [] => if replayer.remaining.isEmpty then some [] else none
  | replayer, call :: calls => do
      let (result, next) ← replayCall lower replayer call
      let results ← replayCalls next calls
      return result :: results

/-- The record of an operation. -/
def interactions (started : List Started) : List (DependencyRequest × DependencyResponse) :=
  started.filterMap fun entry => entry.response.map fun response => (entry.request, response)

/-- If the operation is captured completely, its calls are accepted in a replay in the order in
which they started, and return what they returned. -/
def ReplaysInStartOrder (events : List Event) : Prop :=
  ∀ recorder, capture lower events = some recorder → recorder.Complete →
    replayCalls lower ⟨interactions recorder.started, 1, []⟩ (recorder.started.map Started.call) =
      some (recorder.started.filterMap Started.result)

/-- The calls that returned a response, in the order in which they did. -/
def returnedOpens (events : List Event) : List Nat :=
  events.filterMap fun event =>
    match event with
    | .returned index _ _ _ => some index
    | _ => none

/-- If the operation is captured completely, the calls that opened a response returned in the order
in which they started. -/
def ReturnsInStartOrder (events : List Event) : Prop :=
  ∀ recorder, capture lower events = some recorder → recorder.Complete →
    (returnedOpens events).Pairwise (· < ·)

/-! ## What a capture holds -/

/-- What is recorded of a call: nothing yet, a response with a number, an error or a body. -/
inductive Answered : Started → Prop where
  | pending (call : Call) (request : DependencyRequest) :
      Answered ⟨call, request, none, none, none⟩
  | response {url : Text} {timeout : Timeout} {request : DependencyRequest} {responseId : Nat}
      {head : ResponseHead} {payload : Bytes} (valid : 1 ≤ responseId ∧ responseId ≤ maxResponses)
      (target : head.url = url)
      (encoded : encodeOpenResponse lower responseId head = some payload) :
      Answered ⟨.opening url timeout, request, some ⟨responseId, url⟩,
        some { outcome := "response", payload := some payload }, some (.response head)⟩
  | urlError {url : Text} {timeout : Timeout} {request : DependencyRequest} {reason : Text}
      {payload : Bytes} (encoded : encodeUrlError reason = some payload) :
      Answered ⟨.opening url timeout, request, none,
        some { outcome := "error", payload := some payload }, some (.urlError reason)⟩
  | body {opened : Nat} {request : DependencyRequest} {value payload : Bytes}
      (encoded : encodeReadResponse value = some payload) :
      Answered ⟨.reading opened, request, none,
        some { outcome := "response", payload := some payload }, some (.body value)⟩

/-- The places of the calls that opened a response, with the numbers of the responses. -/
def numbered (started : List Started) (first : Nat) : List (Nat × Nat) :=
  (started.zipIdx first).filterMap fun entry =>
    entry.1.state.map fun state => (entry.2, state.responseId)

/-- What holds of a capture that was neither marked nor given up, with the calls that returned a
response. -/
structure Tracks (recorder : Recorder) (returned : List Nat) : Prop where
  answered : ∀ entry ∈ recorder.started, Answered lower entry
  requested : ∀ entry ∈ recorder.started,
    callRequest (statesOf recorder.started) entry.call = some entry.request
  earlier : ∀ index (entry : Started) opened, recorder.started[index]? = some entry →
    entry.call = .reading opened → opened < index
  numbers : (numbered recorder.started 0).Perm (returned.zipIdx 1)
  next : recorder.nextResponseId = returned.length + 1
  bounded : returned.length ≤ maxResponses

variable {lower}

/-- A call that has not ended has no state and no record. -/
theorem Answered.of_pending {entry : Started} (answered : Answered lower entry)
    (unanswered : entry.result = none) : entry.state = none := by
  cases answered with
  | pending call request => rfl
  | response valid target encoded => cases unanswered
  | urlError encoded => cases unanswered
  | body encoded => cases unanswered

/-- More states keep the request of a call. -/
theorem callRequest_mono {states states' : Nat → Option ResponseState} {call : Call}
    {made : DependencyRequest} (made_ : callRequest states call = some made)
    (more : ∀ index state, states index = some state → states' index = some state) :
    callRequest states' call = some made := by
  cases call with
  | opening url timeout => exact made_
  | reading opened =>
      rcases Option.bind_eq_some_iff.mp made_ with ⟨state, known, made_⟩
      exact Option.bind_eq_some_iff.mpr ⟨state, more opened state known, made_⟩
  | unsupported => cases made_

/-- A call that gets a state is one numbered call more. -/
theorem numbered_set {started : List Started} {index : Nat} {entry : Started}
    (present : started[index]? = some entry) (stateless : entry.state = none) (entry' : Started)
    (first : Nat) :
    (numbered (started.set index entry') first).Perm
      ((entry'.state.map fun state => (first + index, state.responseId)).toList ++
        numbered started first) := by
  induction started generalizing index first with
  | nil => cases present
  | cons head started ih =>
      cases index with
      | zero =>
          cases present
          simp only [numbered, List.set_cons_zero, List.zipIdx_cons, List.filterMap_cons, stateless,
            Option.map_none, Nat.add_zero]
          cases entry'.state with
          | none => exact .refl _
          | some state => exact .refl _
      | succ index =>
          have rest := @ih index present (first + 1)
          rw [Nat.add_right_comm first 1 index] at rest
          simp only [numbered, List.set_cons_succ, List.zipIdx_cons, List.filterMap_cons] at rest ⊢
          cases head.state with
          | none => exact rest
          | some state => exact (rest.cons _).trans List.perm_middle.symm

/-- A new call is not numbered. -/
theorem numbered_append (started : List Started) (first : Nat) {entry : Started}
    (stateless : entry.state = none) :
    numbered (started ++ [entry]) first = numbered started first := by
  simp [numbered, List.zipIdx_append, stateless]

/-- States of the calls after one of them got a state. -/
theorem statesOf_set {started : List Started} {index : Nat} {entry entry' : Started}
    (present : started[index]? = some entry) (stateless : entry.state = none) {other : Nat}
    {state : ResponseState} (known : statesOf started other = some state) :
    statesOf (started.set index entry') other = some state := by
  have apart : index ≠ other := by
    rintro rfl
    rw [statesOf, present, Option.bind_some, stateless] at known
    cases known
  rw [statesOf, List.getElem?_set_ne apart]
  exact known

/-- A call that ended leaves what is known of all calls. -/
theorem Tracks.set {recorder : Recorder} {returned : List Nat}
    (tracks : Tracks lower recorder returned) {index : Nat} {entry entry' : Started}
    (present : recorder.started[index]? = some entry) (unanswered : entry.result = none)
    (same : entry'.call = entry.call ∧ entry'.request = entry.request)
    (answered : Answered lower entry') :
    (∀ other ∈ recorder.started.set index entry', Answered lower other) ∧
      (∀ other ∈ recorder.started.set index entry',
        callRequest (statesOf (recorder.started.set index entry')) other.call =
          some other.request) ∧
      ∀ place (other : Started) opened, (recorder.started.set index entry')[place]? = some other →
        other.call = .reading opened → opened < place := by
  have among : entry ∈ recorder.started := List.mem_of_getElem? present
  have stateless := (tracks.answered entry among).of_pending unanswered
  refine ⟨?_, ?_, ?_⟩
  · intro other inside
    rcases List.mem_or_eq_of_mem_set inside with before | rfl
    · exact tracks.answered other before
    · exact answered
  · intro other inside
    apply callRequest_mono _ fun place state known => statesOf_set present stateless known
    rcases List.mem_or_eq_of_mem_set inside with before | rfl
    · exact tracks.requested other before
    · rw [same.1, same.2]
      exact tracks.requested entry among
  · intro place other opened there reads
    by_cases here : index = place
    · subst here
      have bound := (List.getElem?_eq_some_iff.mp present).1
      rw [List.getElem?_set_self bound] at there
      cases there
      exact tracks.earlier index entry opened present (same.1.symm.trans reads)
    · rw [List.getElem?_set_ne here] at there
      exact tracks.earlier place other opened there reads

/-- The end of a call that opened no response. -/
theorem Tracks.ended {recorder : Recorder} {returned : List Nat}
    (tracks : Tracks lower recorder returned) {index : Nat} {entry entry' : Started}
    (present : recorder.started[index]? = some entry) (unanswered : entry.result = none)
    (same : entry'.call = entry.call ∧ entry'.request = entry.request)
    (answered : Answered lower entry') (stateless : entry'.state = none) (unowned : Bool) :
    Tracks lower { recorder with
      started := recorder.started.set index entry'
      unowned := unowned } returned := by
  rcases tracks.set present unanswered same answered with ⟨answered, requested, earlier⟩
  have before := (tracks.answered entry (List.mem_of_getElem? present)).of_pending unanswered
  have numbers := numbered_set present before entry' 0
  rw [stateless] at numbers
  exact {
    answered := answered
    requested := requested
    earlier := earlier
    numbers := numbers.trans tracks.numbers
    next := tracks.next
    bounded := tracks.bounded }

/-- The end of a call that opened a response, which gets the next number. -/
theorem Tracks.opened {recorder : Recorder} {returned : List Nat}
    (tracks : Tracks lower recorder returned) {index : Nat} {entry entry' : Started}
    (present : recorder.started[index]? = some entry) (unanswered : entry.result = none)
    (same : entry'.call = entry.call ∧ entry'.request = entry.request)
    (answered : Answered lower entry') (url : Text)
    (opened : entry'.state = some ⟨recorder.nextResponseId, url⟩)
    (free : recorder.nextResponseId ≤ maxResponses) (unowned : Bool) :
    Tracks lower { recorder with
      started := recorder.started.set index entry'
      nextResponseId := recorder.nextResponseId + 1
      unowned := unowned } (returned ++ [index]) := by
  rcases tracks.set present unanswered same answered with ⟨answered, requested, earlier⟩
  have before := (tracks.answered entry (List.mem_of_getElem? present)).of_pending unanswered
  have numbers := numbered_set present before entry' 0
  have next := tracks.next
  rw [opened, Option.map_some, next, Nat.zero_add] at numbers
  exact {
    answered := answered
    requested := requested
    earlier := earlier
    numbers := by
      refine numbers.trans ?_
      rw [List.zipIdx_append, Nat.add_comm returned.length 1]
      exact List.perm_append_comm.trans (tracks.numbers.append_right _)
    next := by
      rw [List.length_append, List.length_singleton]
      exact congrArg Nat.succ next
    bounded := by
      rw [List.length_append, List.length_singleton]
      omega }

/-- A pending call is one that has not ended. -/
theorem pending?_eq_some {recorder : Recorder} {index : Nat} {entry : Started} :
    recorder.pending? index = some entry ↔
      recorder.started[index]? = some entry ∧ entry.result = none := by
  rw [Recorder.pending?, Option.filter_eq_some_iff, Option.isNone_iff_eq_none]

/-- A call whose end is recorded was accepted with a payload. -/
theorem finish_kept {recorder : Recorder} {index : Nat} {started : Started} {outcome : String}
    {payload : Option Bytes} {result : Result} {accepted : Bool}
    (kept : (recorder.finish index started outcome payload result accepted).abandoned = false) :
    ∃ bytes, payload = some bytes ∧
      recorder.finish index started outcome payload result accepted = { recorder with
        started := recorder.started.set index { started with
          response := some { outcome := outcome, payload := some bytes }
          result := some result } } := by
  unfold Recorder.finish at kept ⊢
  split at kept
  · rename_i bytes
    exact ⟨bytes, rfl, rfl⟩
  · cases kept

/-- The calls that returned a response, when an event is added. -/
def returnedBy : Event → List Nat
  | .returned index _ _ _ => [index]
  | _ => []

/-- A start of a call keeps what is known of a capture. -/
theorem Tracks.start {recorder : Recorder} {returned : List Nat}
    (tracks : Tracks lower recorder returned) {call : Call} {request : DependencyRequest}
    (made : callRequest (statesOf recorder.started) call = some request) :
    Tracks lower { recorder with
      started := recorder.started ++ [⟨call, request, none, none, none⟩] } returned := by
  have grown : ∀ index state, statesOf recorder.started index = some state →
      statesOf (recorder.started ++ [⟨call, request, none, none, none⟩]) index = some state := by
    intro index state known
    rcases Option.bind_eq_some_iff.mp known with ⟨entry, present, known⟩
    have bound := (List.getElem?_eq_some_iff.mp present).1
    rw [statesOf, List.getElem?_append_left bound, present]
    exact known
  constructor
  · intro entry among
    rcases List.mem_append.mp among with before | new
    · exact tracks.answered entry before
    · cases List.mem_singleton.mp new
      exact .pending call request
  · intro entry among
    apply callRequest_mono _ grown
    rcases List.mem_append.mp among with before | new
    · exact tracks.requested entry before
    · cases List.mem_singleton.mp new
      exact made
  · intro index entry opened there reads
    by_cases old : index < recorder.started.length
    · rw [List.getElem?_append_left old] at there
      exact tracks.earlier index entry opened there reads
    · rw [List.getElem?_append_right (Nat.not_lt.mp old)] at there
      have new := List.mem_of_getElem? there
      cases List.mem_singleton.mp new
      rw [show call = .reading opened from reads] at made
      rcases Option.bind_eq_some_iff.mp made with ⟨state, known, -⟩
      rcases Option.bind_eq_some_iff.mp known with ⟨earlier, present, -⟩
      have bound := (List.getElem?_eq_some_iff.mp present).1
      omega
  · rw [numbered_append recorder.started 0 rfl]
    exact tracks.numbers
  · exact tracks.next
  · exact tracks.bounded

/-- An end of a call with a response keeps what is known of a capture that is neither marked nor
given up. -/
theorem Tracks.returned {recorder : Recorder} {returned : List Nat}
    (tracks : Tracks lower recorder returned) {index : Nat} {entry : Started} {url : Text}
    {timeout : Timeout} (present : recorder.started[index]? = some entry)
    (unanswered : entry.result = none) (opens : entry.call = .opening url timeout)
    {head : ResponseHead} {redirected accepted : Bool}
    (owned : (recorder.returned lower index entry url head redirected accepted).unowned = false)
    (kept : (recorder.returned lower index entry url head redirected accepted).abandoned = false) :
    Tracks lower (recorder.returned lower index entry url head redirected accepted)
      (returned ++ [index]) := by
  simp only [Recorder.returned] at owned kept ⊢
  rcases finish_kept kept with ⟨payload, encoded, same⟩
  rw [same] at owned ⊢
  simp only [Bool.or_eq_false_iff, decide_eq_false_iff_not, ne_eq, not_not] at owned
  rcases owned with ⟨⟨⟨_, _⟩, target⟩, nonzero⟩
  have free : recorder.nextResponseId ≤ maxResponses ∧
      allocated recorder.nextResponseId = recorder.nextResponseId := by
    unfold allocated at nonzero ⊢
    split
    · rename_i full
      rw [if_pos full] at nonzero
      exact absurd rfl nonzero
    · rename_i free
      exact ⟨Nat.not_lt.mp free, rfl⟩
  rw [if_neg nonzero]
  have next := tracks.next
  refine tracks.opened present unanswered ?_ ?_ url ?_ free.1 _
  · exact ⟨rfl, rfl⟩
  · simp only [opens]
    exact .response (by omega) target encoded
  · rw [free.2]

/-- Every event keeps what is known of a capture that is neither marked nor given up. -/
theorem tracks_step {recorder next : Recorder} {returned : List Nat} {event : Event}
    (tracks : recorder.unowned = false → recorder.abandoned = false →
      Tracks lower recorder returned)
    (taken : step lower recorder event = some next) (owned : next.unowned = false)
    (kept : next.abandoned = false) : Tracks lower next (returned ++ returnedBy event) := by
  unfold step at taken
  split at taken
  · rename_i gone
    cases taken
    rw [gone] at kept
    cases kept
  · rename_i going
    have tracks := fun owned => tracks owned (Bool.eq_false_iff.mpr going)
    cases event with
    | start call =>
        simp only at taken
        simp only [returnedBy, List.append_nil]
        split at taken
        · rename_i request made
          cases taken
          exact (tracks owned).start made
        · cases taken
          cases owned
    | returned index head redirected accepted =>
        simp only at taken
        split at taken
        · rename_i entry found
          rcases pending?_eq_some.mp found with ⟨present, unanswered⟩
          split at taken
          · rename_i url timeout opens
            cases taken
            have before : recorder.unowned = false := by
              simp only [Recorder.returned] at owned kept
              rcases finish_kept kept with ⟨payload, encoded, same⟩
              rw [same] at owned
              simp only [Bool.or_eq_false_iff] at owned
              exact owned.1.1.1
            exact (tracks before).returned present unanswered opens owned kept
          · cases taken
        · cases taken
    | failed index reason accepted =>
        simp only at taken
        simp only [returnedBy, List.append_nil]
        split at taken
        · rename_i entry found
          rcases pending?_eq_some.mp found with ⟨present, unanswered⟩
          split at taken
          · rename_i url timeout opens
            cases taken
            rcases finish_kept kept with ⟨payload, encoded, same⟩
            rw [same] at owned ⊢
            rw [Bool.or_eq_false_iff] at owned
            have stateless :=
              ((tracks owned.1).answered entry (List.mem_of_getElem? present)).of_pending unanswered
            refine (tracks owned.1).ended present unanswered ?_ ?_ ?_ _
            · exact ⟨rfl, rfl⟩
            · simp only [opens, stateless]
              exact .urlError encoded
            · exact stateless
          · cases taken
        · cases taken
    | delivered index value accepted =>
        simp only at taken
        simp only [returnedBy, List.append_nil]
        split at taken
        · rename_i entry found
          rcases pending?_eq_some.mp found with ⟨present, unanswered⟩
          split at taken
          · rename_i opened reads
            cases taken
            rcases finish_kept kept with ⟨payload, encoded, same⟩
            rw [same] at owned ⊢
            have stateless :=
              ((tracks owned).answered entry (List.mem_of_getElem? present)).of_pending unanswered
            refine (tracks owned).ended present unanswered ?_ ?_ ?_ _
            · exact ⟨rfl, rfl⟩
            · simp only [reads, stateless]
              exact .body encoded
            · exact stateless
          · cases taken
        · cases taken
    | threw index =>
        simp only at taken
        split at taken
        · cases taken
          cases kept
        · cases taken

/-- The calls that returned a response are those of the events. -/
theorem returnedOpens_append (events : List Event) (event : Event) :
    returnedOpens (events ++ [event]) = returnedOpens events ++ returnedBy event := by
  rw [returnedOpens, List.filterMap_append]
  cases event <;> rfl

/-- What is known of every capture that is neither marked nor given up. -/
theorem tracks_capture (events : List Event) {recorder : Recorder}
    (captured : capture lower events = some recorder) (owned : recorder.unowned = false)
    (kept : recorder.abandoned = false) : Tracks lower recorder (returnedOpens events) := by
  induction events using List.reverseRecOn generalizing recorder with
  | nil =>
      cases captured
      exact {
        answered := fun entry among => by cases among
        requested := fun entry among => by cases among
        earlier := fun index entry opened there => by cases there
        numbers := .refl _
        next := rfl
        bounded := Nat.zero_le _ }
  | append_singleton events event ih =>
      rw [capture, List.foldlM_append] at captured
      rcases Option.bind_eq_some_iff.mp captured with ⟨before, captured, taken⟩
      rw [List.foldlM_cons] at taken
      rcases Option.bind_eq_some_iff.mp taken with ⟨after, taken, same⟩
      cases same
      rw [returnedOpens_append]
      exact tracks_step (fun owned kept => ih captured owned kept) taken owned kept

/-! ## The order of the numbers -/

/-- The responses that calls opened have the numbers from a given one on, in the order of the
calls. -/
def Consecutive : Nat → List Started → Prop
  | _, [] => True
  | next, entry :: started =>
      match entry.state with
      | some state => state.responseId = next ∧ Consecutive (next + 1) started
      | none => Consecutive next started

/-- Consecutive numbers are a range. -/
theorem consecutive_iff (started : List Started) (next first : Nat) :
    Consecutive next started ↔ (numbered started first).map Prod.snd =
      List.range' next (numbered started first).length := by
  induction started generalizing next first with
  | nil => simp [Consecutive, numbered]
  | cons entry started ih =>
      unfold Consecutive numbered
      rw [List.zipIdx_cons, List.filterMap_cons]
      cases entry.state with
      | none => exact ih next (first + 1)
      | some state =>
          simp only [Option.map_some, List.map_cons, List.length_cons, List.range'_succ,
            List.cons.injEq]
          exact and_congr_right fun _ => ih (next + 1) (first + 1)

/-- The numbered calls are in the order of their places. -/
theorem pairwise_numbered (started : List Started) (first : Nat) :
    (numbered started first).Pairwise fun left right => left.1 < right.1 := by
  have places : ((started.zipIdx first).map Prod.snd).Pairwise (· < ·) := by
    rw [List.zipIdx_map_snd]
    exact List.pairwise_lt_range'
  apply List.pairwise_filterMap.mpr
  apply (List.pairwise_map.mp places).imp
  intro left right before numberedLeft found numberedRight found'
  rcases Option.map_eq_some_iff.mp found with ⟨state, -, rfl⟩
  rcases Option.map_eq_some_iff.mp found' with ⟨state', -, rfl⟩
  exact before

/-- Where the numbers are the places in the order of returns, they are consecutive if and only if
the calls returned in the order of their places. -/
theorem consecutive_iff_pairwise {started : List Started} {returned : List Nat}
    (numbers : (numbered started 0).Perm (returned.zipIdx 1)) :
    Consecutive 1 started ↔ returned.Pairwise (· < ·) := by
  have length : (numbered started 0).length = returned.length := by
    rw [numbers.length_eq, List.length_zipIdx]
  rw [consecutive_iff started 1 0, length]
  constructor
  · intro range
    have sorted : (numbered started 0).Pairwise fun left right => left.2 < right.2 := by
      apply List.pairwise_map.mp
      rw [range]
      exact List.pairwise_lt_range'
    have ranged : (returned.zipIdx 1).Pairwise fun left right => left.2 < right.2 := by
      apply List.pairwise_map.mp
      rw [List.zipIdx_map_snd]
      exact List.pairwise_lt_range'
    have same : numbered started 0 = returned.zipIdx 1 :=
      numbers.eq_of_pairwise (fun left right _ _ below above => absurd below (Nat.lt_asymm above))
        sorted ranged
    rw [← List.zipIdx_map_fst 1 returned, ← same]
    exact List.pairwise_map.mpr (pairwise_numbered started 0)
  · intro ordered
    rw [← List.zipIdx_map_fst 1 returned] at ordered
    have same : numbered started 0 = returned.zipIdx 1 :=
      numbers.eq_of_pairwise (fun left right _ _ below above => absurd below (Nat.lt_asymm above))
        (pairwise_numbered started 0) (List.pairwise_map.mp ordered)
    rw [same, List.zipIdx_map_snd]

/-! ## Replays -/

/-- The number that a replay gives is the number of a response if it is the next one. -/
theorem eq_allocated_iff {responseId next : Nat}
    (valid : 1 ≤ responseId ∧ responseId ≤ maxResponses) :
    responseId = allocated next ↔ responseId = next := by
  unfold allocated
  split
  · omega
  · rfl

/-- A recorded call is replayed with its result, unless it opened a response whose number is not the
next one. -/
theorem replayCall_recorded {entry : Started} (answered : Answered lower entry)
    {response : DependencyResponse} (recorded : entry.response = some response)
    {states : List (Option ResponseState)}
    (requested : callRequest (fun opened => states[opened]?.join) entry.call = some entry.request)
    (remaining : List (DependencyRequest × DependencyResponse)) (next : Nat) :
    ∃ result, entry.result = some result ∧
      replayCall lower ⟨(entry.request, response) :: remaining, next, states⟩ entry.call =
        match entry.state with
        | some state =>
            if state.responseId = next then
              some (result, ⟨remaining, next + 1, states ++ [entry.state]⟩)
            else none
        | none => some (result, ⟨remaining, next, states ++ [entry.state]⟩) := by
  unfold replayCall
  rw [requested]
  cases answered with
  | pending call request => cases recorded
  | @response url timeout request responseId head payload valid target encoded =>
      cases recorded
      refine ⟨.response head, rfl, ?_⟩
      have read := decodeOpenResponse_encode lower encoded valid (allocated next)
      rw [target] at read
      simp only [answerCall, Option.bind_eq_bind, Option.bind_some, ne_eq, not_true_eq_false,
        if_false, if_true, Option.pure_def]
      rw [← Option.bind_assoc, read]
      by_cases same : responseId = next
      · have given := (eq_allocated_iff valid).mpr same
        rw [if_pos given, if_pos same, ← given]
        rfl
      · rw [if_neg fun given => same ((eq_allocated_iff valid).mp given), if_neg same]
        rfl
  | @urlError url timeout request reason payload encoded =>
      cases recorded
      refine ⟨.urlError reason, rfl, ?_⟩
      have other : ("error" = "response") = False := by decide
      simp only [answerCall, Option.bind_eq_bind, Option.bind_some, ne_eq, not_true_eq_false,
        if_false, if_true, Option.pure_def, other]
      rw [← Option.bind_assoc, decodeUrlError_encode encoded]
      rfl
  | @body opened request value payload encoded =>
      cases recorded
      refine ⟨.body value, rfl, ?_⟩
      simp only [answerCall, Option.bind_eq_bind, Option.bind_some, ne_eq, not_true_eq_false,
        if_false, if_true, Option.pure_def]
      rw [← Option.bind_assoc, decodeReadResponse_encode encoded]
      rfl

/-- The states that a replay has are those of the capture. -/
theorem states_join (done : List Started) (index : Nat) :
    (done.map Started.state)[index]?.join = statesOf done index := by
  rw [List.getElem?_map, statesOf]
  cases done[index]? with
  | none => rfl
  | some entry => rfl

/-- A replay that has answered some calls answers the others if and only if their responses have the
next numbers. -/
theorem replayCalls_iff {recorder : Recorder} {returned : List Nat}
    (tracks : Tracks lower recorder returned)
    (recorded : ∀ entry ∈ recorder.started, entry.response.isSome = true)
    (todo done : List Started) (all : done ++ todo = recorder.started) (next : Nat) :
    replayCalls lower ⟨interactions todo, next, done.map Started.state⟩ (todo.map Started.call) =
        some (todo.filterMap Started.result) ↔ Consecutive next todo := by
  induction todo generalizing done next with
  | nil => simp [replayCalls, interactions, Consecutive]
  | cons entry todo ih =>
      have among : entry ∈ recorder.started := by
        rw [← all]
        exact List.mem_append_right _ List.mem_cons_self
      have place : recorder.started[done.length]? = some entry := by
        rw [← all, List.getElem?_append_right (Nat.le_refl _), Nat.sub_self]
        rfl
      rcases Option.isSome_iff_exists.mp (recorded entry among) with ⟨response, answer⟩
      have requested : callRequest (fun opened => (done.map Started.state)[opened]?.join)
          entry.call = some entry.request := by
        have before := tracks.requested entry among
        cases call : entry.call with
        | opening url timeout =>
            rw [call] at before
            exact before
        | reading opened =>
            have earlier := tracks.earlier done.length entry opened place call
            rw [call] at before
            rcases Option.bind_eq_some_iff.mp before with ⟨state, known, made⟩
            refine Option.bind_eq_some_iff.mpr ⟨state, ?_, made⟩
            refine (states_join done opened).trans ?_
            rw [← known, statesOf, statesOf, ← all, List.getElem?_append_left earlier]
        | unsupported =>
            rw [call] at before
            cases before
      have rest := ih (done ++ [entry]) (by rw [List.append_assoc]; exact all)
      rcases replayCall_recorded (tracks.answered entry among) answer requested
        (interactions todo) next with ⟨result, given, step⟩
      have head : interactions (entry :: todo) =
          (entry.request, response) :: interactions todo := by
        rw [interactions, List.filterMap_cons, answer]
        rfl
      rw [List.map_append, List.map_singleton] at rest
      rw [head, List.map_cons, replayCalls, step, List.filterMap_cons, given, Consecutive]
      cases state : entry.state with
      | none =>
          rw [state] at rest
          rw [← rest next]
          simp only [Option.bind_eq_bind, Option.bind_some, Option.pure_def]
          rw [Option.bind_eq_some_iff]
          simp
      | some opened =>
          rw [state] at rest
          rw [← rest (next + 1)]
          by_cases same : opened.responseId = next
          · simp only [if_pos same, Option.bind_eq_bind, Option.bind_some, Option.pure_def]
            rw [Option.bind_eq_some_iff]
            simp [same]
          · simp only [if_neg same, Option.bind_eq_bind, Option.bind_none]
            simp [same]

/-- A completely captured operation is replayed in the order of its calls, with what they returned,
if and only if the calls that opened a response returned in the order in which they started. -/
theorem replays_iff (lower : Text → Text) (events : List Event) :
    ReplaysInStartOrder lower events ↔ ReturnsInStartOrder lower events := by
  apply forall_congr'
  intro recorder
  apply imp_congr_right
  intro captured
  apply imp_congr_right
  intro complete
  have tracks := tracks_capture events captured complete.owned complete.kept
  have iff := replayCalls_iff tracks complete.recorded recorder.started [] rfl 1
  exact iff.trans (consecutive_iff_pairwise tracks.numbers)

end Adapter

/-- A response to a request of a page. -/
def pageHead (url : Text) : ResponseHead where
  status := 200
  reason := "OK".toList
  version := 11
  url := url
  headers := []
  willClose := false
  chunked := false
  length := some 0
  closed := false
  statusValid := by decide
  versionValid := by decide

/-- Two requests that overlap: the second one returns first. -/
def secondFirst : List Event :=
  [.start (.opening "http://a/".toList .unspecified),
    .start (.opening "http://b/".toList .unspecified),
    .returned 1 (pageHead "http://b/".toList) false true,
    .returned 0 (pageHead "http://a/".toList) false true]

/-- Overlapping requests that return in another order are not replayed. -/
theorem overlap_refused :
    ¬ ∀ (lower : Text → Text) (events : List Event), ReplaysInStartOrder lower events := by
  intro all
  have captured : (capture id secondFirst).any (fun recorder =>
      !recorder.unowned && !recorder.abandoned &&
        recorder.started.all fun entry => entry.response.isSome) = true := by
    decide +kernel
  rcases (Option.any_eq_true _ _).mp captured with ⟨recorder, made, complete⟩
  simp only [Bool.and_eq_true, Bool.not_eq_true', List.all_eq_true] at complete
  have tracks := tracks_capture secondFirst made complete.1.1 complete.1.2
  have iff := replayCalls_iff tracks complete.2 recorder.started [] rfl 1
  have consecutive := iff.mp (all id secondFirst recorder made
    ⟨complete.1.1, complete.1.2, complete.2⟩)
  exact absurd ((consecutive_iff_pairwise tracks.numbers).mp consecutive) (by decide)

end Python
end Http
end ReproItSdk
