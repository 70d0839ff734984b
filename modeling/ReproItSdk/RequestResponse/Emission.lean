import ReproItSdk.RequestResponse.Effects

/-! # Failures of a request-response operation

The transcript of a run tells which input was accepted, which payloads were recorded and which
response was classified.  A failure is emitted once, after all of it.  The operation is over after
every error, except at the three exits that leave it as it was.

Main results:

- Structure {lit}`Account`: what the transcript says of the state, kept by every method.
- Theorem {lit}`emission_sound`: failures follow a complete exchange whose input was recorded.
- Theorem {lit}`misuse_is_forgotten`: a failure can follow a method that returned an error.
-/

namespace ReproItSdk
namespace RequestResponse

variable {ω γ Failure Digest : Type}

/-! ## Reading a transcript -/

/-- One answered method. -/
abbrev Entry (ω γ Failure Digest : Type) : Type :=
  Runs.Answered (RequestResponseOperation ω γ) Method (Reply Failure Digest)

/-- Input chunk that a method accepted. -/
def acceptedChunk? (entry : Entry ω γ Failure Digest) : Option Bytes :=
  match entry.call, entry.reply.result with
  | .recordInputChunk bytes, .ok _ => some bytes
  | _, _ => none

/-- Whether a method finished the input. -/
def finishesInput (entry : Entry ω γ Failure Digest) : Bool :=
  match entry.call, entry.reply.result with
  | .finishInput, .ok _ => true
  | _, _ => false

/-- Chunk of the response body that a method was given. -/
def responseChunk? (entry : Entry ω γ Failure Digest) : Option Bytes :=
  match entry.call with
  | .recordResponseChunk bytes => some bytes
  | _ => none

/-- Pieces of the accepted input chunks, in order. -/
def acceptedPieces (past : List (Entry ω γ Failure Digest)) : List Bytes :=
  (past.filterMap acceptedChunk?).flatMap (Chunks.chunks maxRequestInputChunkBytes)

/-- Pieces of the whole input.  An input that was finished without a piece is one empty piece. -/
def inputPieces (past : List (Entry ω γ Failure Digest)) : List Bytes :=
  if past.any finishesInput ∧ acceptedPieces past = [] then [[]] else acceptedPieces past

/-- Payloads that the underlying operation recorded, in order. -/
def recordedPayloads (past : List (Entry ω γ Failure Digest)) :
    List (OperationInputPayload Digest) :=
  past.flatMap (·.reply.recorded)

/-- Failures that the underlying operation was given, in order. -/
def emittedFailures (past : List (Entry ω γ Failure Digest)) : List Failure :=
  past.flatMap (·.reply.emitted)

/-- Classification of a response after the chunks of its body. -/
def classify (adapter : Adapter ω γ Failure Digest) (head : RequestResponseHead)
    (body : List Bytes) : γ :=
  body.foldl (fun classification bytes => (adapter.recordBodyChunk classification bytes).2)
    (adapter.start head)

/-- A classification that has seen the whole response: the head given after the input was finished
and every chunk given since, none of which was refused. -/
def Classified (adapter : Adapter ω γ Failure Digest) (past : List (Entry ω γ Failure Digest))
    (classification : γ) : Prop :=
  ∃ before begun body status headers,
    past = before ++ begun :: body ∧
      before.any finishesInput = true ∧
      begun.call = .beginResponse status headers ∧
      begun.reply.result = .ok () ∧
      (∀ entry ∈ body, (responseChunk? entry).isSome → entry.reply.result = .ok ()) ∧
      classification = classify adapter { headers := headers, status := status }
        (body.filterMap responseChunk?)

/-- First pieces of an input chunk whose recording failed. -/
def RefusedPart (past : List (Entry ω γ Failure Digest)) (front : List Bytes) : Prop :=
  ∃ entry ∈ past, ∃ bytes error,
    entry.call = .recordInputChunk bytes ∧
      entry.reply.result = .error error ∧
      ¬ entry.before.Misused entry.call ∧
      front <+: Chunks.chunks maxRequestInputChunkBytes bytes

/-! ## One more entry -/

/-- Pieces that an entry adds to the accepted ones. -/
theorem acceptedPieces_append (past : List (Entry ω γ Failure Digest))
    (entry : Entry ω γ Failure Digest) :
    acceptedPieces (past ++ [entry]) = acceptedPieces past ++
      (acceptedChunk? entry).toList.flatMap (Chunks.chunks maxRequestInputChunkBytes) := by
  unfold acceptedPieces
  rw [List.filterMap_append, List.flatMap_append]
  cases accepted : acceptedChunk? entry <;> simp [accepted]

/-- Whether the input is finished after one more entry. -/
theorem any_finishesInput_append (past : List (Entry ω γ Failure Digest))
    (entry : Entry ω γ Failure Digest) :
    (past ++ [entry]).any finishesInput = (past.any finishesInput || finishesInput entry) := by
  rw [List.any_append, List.any_cons, List.any_nil, Bool.or_false]

/-- Before the input is finished, its pieces are the accepted ones. -/
theorem inputPieces_of_incomplete {past : List (Entry ω γ Failure Digest)}
    (incomplete : past.any finishesInput = false) : inputPieces past = acceptedPieces past := by
  unfold inputPieces
  rw [if_neg]
  rw [incomplete]
  exact fun both => Bool.false_ne_true both.1

/-- A method that neither accepts a chunk nor finishes the input adds no piece. -/
theorem inputPieces_other (past : List (Entry ω γ Failure Digest))
    {entry : Entry ω γ Failure Digest} (unaccepted : acceptedChunk? entry = none)
    (unfinished : finishesInput entry = false) :
    inputPieces (past ++ [entry]) = inputPieces past := by
  unfold inputPieces
  rw [acceptedPieces_append, any_finishesInput_append, unaccepted, unfinished, Bool.or_false,
    Option.toList_none, List.flatMap_nil, List.append_nil]

/-- An accepted chunk adds its pieces. -/
theorem inputPieces_chunk (past : List (Entry ω γ Failure Digest))
    {entry : Entry ω γ Failure Digest} {bytes : Bytes}
    (accepted : acceptedChunk? entry = some bytes) (unfinished : finishesInput entry = false)
    (incomplete : past.any finishesInput = false) :
    inputPieces (past ++ [entry]) =
      inputPieces past ++ Chunks.chunks maxRequestInputChunkBytes bytes := by
  have still : (past ++ [entry]).any finishesInput = false := by
    rw [any_finishesInput_append, incomplete, unfinished, Bool.or_false]
  rw [inputPieces_of_incomplete still, inputPieces_of_incomplete incomplete,
    acceptedPieces_append, accepted, Option.toList_some, List.flatMap_singleton]

/-- Finishing an input adds an empty piece to an input without one. -/
theorem inputPieces_finish (past : List (Entry ω γ Failure Digest))
    {entry : Entry ω γ Failure Digest} (unaccepted : acceptedChunk? entry = none)
    (finishes : finishesInput entry = true) (incomplete : past.any finishesInput = false) :
    inputPieces (past ++ [entry]) =
      inputPieces past ++
        RequestResponseOperation.finishingPieces (inputPieces past).length := by
  have same : acceptedPieces (past ++ [entry]) = acceptedPieces past := by
    rw [acceptedPieces_append, unaccepted, Option.toList_none, List.flatMap_nil, List.append_nil]
  have now : (past ++ [entry]).any finishesInput = true := by
    rw [any_finishesInput_append, finishes, Bool.or_true]
  unfold RequestResponseOperation.finishingPieces
  rw [inputPieces_of_incomplete incomplete, inputPieces, same, now]
  by_cases empty : acceptedPieces past = []
  · rw [if_pos ⟨rfl, empty⟩, empty]
    rfl
  · rw [if_neg fun both => empty both.2,
      if_neg fun zero => empty (List.length_eq_zero_iff.mp zero), List.append_nil]

/-- Payloads recorded after one more entry. -/
theorem recordedPayloads_append (past : List (Entry ω γ Failure Digest))
    (entry : Entry ω γ Failure Digest) :
    recordedPayloads (past ++ [entry]) = recordedPayloads past ++ entry.reply.recorded := by
  unfold recordedPayloads
  rw [List.flatMap_append, List.flatMap_singleton]

/-- Failures emitted after one more entry. -/
theorem emittedFailures_append (past : List (Entry ω γ Failure Digest))
    (entry : Entry ω γ Failure Digest) :
    emittedFailures (past ++ [entry]) = emittedFailures past ++ entry.reply.emitted := by
  unfold emittedFailures
  rw [List.flatMap_append, List.flatMap_singleton]

/-- A refused part stays one. -/
theorem RefusedPart.append {past : List (Entry ω γ Failure Digest)} {front : List Bytes}
    (part : RefusedPart past front) (entry : Entry ω γ Failure Digest) :
    RefusedPart (past ++ [entry]) front := by
  obtain ⟨refused, member, described⟩ := part
  exact ⟨refused, List.mem_append_left _ member, described⟩

/-- A classification stays complete when a method adds no response chunk. -/
theorem Classified.append {adapter : Adapter ω γ Failure Digest}
    {past : List (Entry ω γ Failure Digest)} {classification : γ}
    (classified : Classified adapter past classification) {entry : Entry ω γ Failure Digest}
    (unrelated : responseChunk? entry = none) :
    Classified adapter (past ++ [entry]) classification := by
  obtain ⟨before, begun, body, status, headers, split, finished, call, answered, accepted, seen⟩ :=
    classified
  refine ⟨before, begun, body ++ [entry], status, headers, ?_, finished, call, answered, ?_, ?_⟩
  · rw [split, List.append_assoc, List.cons_append]
  · intro later member chunk
    rcases List.mem_append.mp member with old | new
    · exact accepted later old chunk
    · rw [List.mem_singleton.mp new, unrelated] at chunk
      cases chunk
  · rw [seen, List.filterMap_append]
    simp [unrelated]

/-- An accepted response chunk is classified. -/
theorem Classified.chunk {adapter : Adapter ω γ Failure Digest}
    {past : List (Entry ω γ Failure Digest)} {classification next : γ}
    (classified : Classified adapter past classification) {entry : Entry ω γ Failure Digest}
    {bytes : Bytes} (chunk : responseChunk? entry = some bytes)
    (accepts : entry.reply.result = .ok ())
    (recorded : adapter.recordBodyChunk classification bytes = (.ok (), next)) :
    Classified adapter (past ++ [entry]) next := by
  obtain ⟨before, begun, body, status, headers, split, finished, call, answered, accepted, seen⟩ :=
    classified
  refine ⟨before, begun, body ++ [entry], status, headers, ?_, finished, call, answered, ?_, ?_⟩
  · rw [split, List.append_assoc, List.cons_append]
  · intro later member given
    rcases List.mem_append.mp member with old | new
    · exact accepted later old given
    · rw [List.mem_singleton.mp new]
      exact accepts
  · have body_eq : (body ++ [entry]).filterMap responseChunk? =
        body.filterMap responseChunk? ++ [bytes] := by
      rw [List.filterMap_append]
      simp [chunk]
    rw [body_eq, classify, List.foldl_append, List.foldl_cons, List.foldl_nil, ← classify,
      ← seen, recorded]

namespace RequestResponseOperation

/-! ## The account -/

/-- What the transcript says of the state. -/
structure Account (adapter : Adapter ω γ Failure Digest) (contentType : String)
    (past : List (Entry ω γ Failure Digest)) (state : RequestResponseOperation ω γ) : Prop where
  consistent : state.Consistent
  typed : state.contentType = contentType
  silent : state.operation.isSome → emittedFailures past = []
  once : (emittedFailures past).length ≤ 1
  finished : state.operation.isSome → past.any finishesInput = state.inputComplete
  counted : state.operation.isSome → state.inputCount = (inputPieces past).length
  recorded : state.operation.isSome →
    recordedPayloads past = payloadsFrom adapter contentType 0 (inputPieces past)
  kept : ∃ front, recordedPayloads past =
      payloadsFrom adapter contentType 0 (inputPieces past ++ front) ∧
        (front = [] ∨ RefusedPart past front)
  classified : ∀ classification, state.classification = some classification →
    Classified adapter past classification

/-- Nothing happened before the first method. -/
theorem opened_account (adapter : Adapter ω γ Failure Digest) (contentType : String)
    (operation : ω) : Account adapter contentType [] (opened contentType operation) where
  consistent := ⟨fun held => (by cases held), fun held => (by cases held)⟩
  typed := rfl
  silent _ := rfl
  once := Nat.zero_le 1
  finished _ := rfl
  counted _ := rfl
  recorded _ := rfl
  kept := ⟨[], rfl, .inl rfl⟩
  classified _ held := by cases held

/-- A method that records nothing and does not finish the input keeps the account. -/
theorem Account.quiet {adapter : Adapter ω γ Failure Digest} {contentType : String}
    {past : List (Entry ω γ Failure Digest)} {state next : RequestResponseOperation ω γ}
    (account : Account adapter contentType past state) {entry : Entry ω γ Failure Digest}
    (unaccepted : acceptedChunk? entry = none) (unfinished : finishesInput entry = false)
    (unrecorded : entry.reply.recorded = [])
    (once : (emittedFailures past ++ entry.reply.emitted).length ≤ 1)
    (consistent : next.Consistent) (typed : next.contentType = state.contentType)
    (kept : next.operation.isSome → state.operation.isSome ∧ entry.reply.emitted = [] ∧
      next.inputComplete = state.inputComplete ∧ next.inputCount = state.inputCount)
    (classified : ∀ classification, next.classification = some classification →
      Classified adapter (past ++ [entry]) classification) :
    Account adapter contentType (past ++ [entry]) next := by
  have pieces := inputPieces_other past unaccepted unfinished
  have payloads : recordedPayloads (past ++ [entry]) = recordedPayloads past := by
    rw [recordedPayloads_append, unrecorded, List.append_nil]
  refine ⟨consistent, typed.trans account.typed, ?_, ?_, ?_, ?_, ?_, ?_, classified⟩
  · intro live
    rw [emittedFailures_append, (kept live).2.1, List.append_nil]
    exact account.silent (kept live).1
  · rw [emittedFailures_append]
    exact once
  · intro live
    rw [any_finishesInput_append, unfinished, Bool.or_false, (kept live).2.2.1]
    exact account.finished (kept live).1
  · intro live
    rw [pieces, (kept live).2.2.2]
    exact account.counted (kept live).1
  · intro live
    rw [pieces, payloads]
    exact account.recorded (kept live).1
  · obtain ⟨front, recorded, part⟩ := account.kept
    refine ⟨front, ?_, part.imp_right fun part => part.append entry⟩
    rw [pieces, payloads]
    exact recorded

/-- A method that records pieces of the input of a live operation keeps the account. -/
theorem Account.records {adapter : Adapter ω γ Failure Digest} {contentType : String}
    {past : List (Entry ω γ Failure Digest)} {state next : RequestResponseOperation ω γ}
    (account : Account adapter contentType past state) (live : state.operation.isSome)
    {entry : Entry ω γ Failure Digest} {pieces : List Bytes}
    (added : inputPieces (past ++ [entry]) = inputPieces past ++ pieces)
    (payloads : entry.reply.recorded =
      payloadsFrom adapter state.contentType state.inputCount pieces)
    (silent : entry.reply.emitted = [])
    (consistent : next.Consistent) (typed : next.contentType = state.contentType)
    (finished : (past ++ [entry]).any finishesInput = next.inputComplete)
    (counted : next.inputCount = state.inputCount + pieces.length)
    (unclassified : next.classification = none) :
    Account adapter contentType (past ++ [entry]) next := by
  have recorded : recordedPayloads (past ++ [entry]) =
      payloadsFrom adapter contentType 0 (inputPieces (past ++ [entry])) := by
    rw [recordedPayloads_append, payloads, account.recorded live, account.counted live,
      account.typed, added, payloadsFrom_append, Nat.zero_add]
  have quiet : emittedFailures (past ++ [entry]) = [] := by
    rw [emittedFailures_append, silent, account.silent live, List.append_nil]
  refine ⟨consistent, typed.trans account.typed, fun _ => quiet, ?_, fun _ => finished, ?_,
    fun _ => recorded, ⟨[], ?_, .inl rfl⟩, ?_⟩
  · rw [quiet]
    exact Nat.zero_le 1
  · intro _
    rw [counted, added, List.length_append, account.counted live]
  · rw [List.append_nil]
    exact recorded
  · intro classification held
    rw [unclassified] at held
    cases held

/-- A chunk whose recording fails ends the operation and keeps the account. -/
theorem Account.refuses {adapter : Adapter ω γ Failure Digest} {contentType : String}
    {past : List (Entry ω γ Failure Digest)} {state next : RequestResponseOperation ω γ}
    (account : Account adapter contentType past state) (live : state.operation.isSome)
    (incomplete : state.inputComplete = false) {bytes : Bytes} {reply : Reply Failure Digest}
    {error : Error} (answered : reply.result = .error error) {front : List Bytes}
    (part : front <+: Chunks.chunks maxRequestInputChunkBytes bytes)
    (payloads : reply.recorded = payloadsFrom adapter state.contentType state.inputCount front)
    (silent : reply.emitted = []) (consistent : next.Consistent) (closed : Over state next) :
    Account adapter contentType (past ++ [⟨state, .recordInputChunk bytes, reply, next⟩]) next := by
  have unaccepted : acceptedChunk? ⟨state, .recordInputChunk bytes, reply, next⟩ = none := by
    simp only [acceptedChunk?, answered]
  have pieces := inputPieces_other past unaccepted rfl
  have quiet :
      emittedFailures (past ++ [⟨state, .recordInputChunk bytes, reply, next⟩]) = [] := by
    rw [emittedFailures_append, silent, account.silent live, List.append_nil]
  have refused :
      RefusedPart (past ++ [⟨state, .recordInputChunk bytes, reply, next⟩]) front := by
    refine ⟨_, List.mem_append_right _ (List.mem_singleton_self _), bytes, error, rfl,
      answered, ?_, part⟩
    exact fun misused => Bool.false_ne_true (incomplete.symm.trans misused.2)
  have ended : ¬ next.operation.isSome := by
    rw [closed.operation]
    exact Bool.false_ne_true
  refine ⟨consistent, closed.contentType.trans account.typed, fun _ => quiet, ?_,
    fun live => absurd live ended, fun live => absurd live ended, fun live => absurd live ended,
    ⟨front, ?_, .inr refused⟩, ?_⟩
  · rw [quiet]
    exact Nat.zero_le 1
  · rw [recordedPayloads_append, payloads, account.recorded live, account.counted live,
      account.typed, pieces, payloadsFrom_append, Nat.zero_add]
  · intro classification held
    rw [closed.classification] at held
    cases held

/-- Every method keeps the account. -/
theorem account_step {adapter : Adapter ω γ Failure Digest} {contentType : String}
    {past : List (Entry ω γ Failure Digest)} {state : RequestResponseOperation ω γ}
    (account : Account adapter contentType past state) (method : Method) :
    Account adapter contentType (past ++ [Runs.answer (step adapter) state method])
      (step adapter state method).2 := by
  have effect := step_effect adapter account.consistent method
  have consistent := step_consistent adapter account.consistent method
  unfold Runs.answer
  generalize (step adapter state method).1 = reply at effect ⊢
  generalize (step adapter state method).2 = next at effect consistent ⊢
  have unfinished : state.operation.isSome → state.inputComplete = false →
      past.any finishesInput = false := fun live incomplete =>
    (account.finished live).trans incomplete
  have unclassified : state.inputComplete = false → state.classification = none := by
    intro incomplete
    rw [← Option.not_isSome_iff_eq_none]
    intro held
    rw [account.consistent.complete held] at incomplete
    cases incomplete
  have once : (emittedFailures past ++ []).length ≤ 1 := by
    rw [List.append_nil]
    exact account.once
  cases effect with
  | inputRecorded bytes _ operation live incomplete answered payloads silent =>
      refine account.records live (inputPieces_chunk past ?_ rfl
        (unfinished live incomplete)) payloads silent consistent rfl ?_ rfl
        (unclassified incomplete)
      · simp only [acceptedChunk?, answered]
      · rw [any_finishesInput_append]
        exact (Bool.or_false _).trans (account.finished live)
  | inputRefused bytes _ _ front error live incomplete answered part payloads silent closed =>
      exact account.refuses live incomplete answered part payloads silent consistent closed
  | inputFinished _ operation live incomplete answered payloads silent =>
      have finishing : finishesInput
          (⟨state, .finishInput, reply, { state with
            inputComplete := true
            operation := some operation
            inputCount := state.inputCount + (finishingPieces state.inputCount).length }⟩ :
            Entry ω γ Failure Digest) = true := by
        simp only [finishesInput, answered]
      have added := inputPieces_finish past rfl finishing (unfinished live incomplete)
      rw [← account.counted live] at added
      refine account.records live added payloads silent consistent rfl ?_ rfl
        (unclassified incomplete)
      rw [any_finishesInput_append, finishing, Bool.or_true]
  | responseBegun status headers live complete fresh =>
      refine account.quiet rfl rfl rfl once consistent rfl (fun _ => ⟨live, rfl, rfl, rfl⟩) ?_
      intro classification held
      cases held
      refine ⟨past, _, [], status, headers, rfl, ?_, rfl, rfl, ?_, rfl⟩
      · rw [account.finished live]
        exact complete
      · intro entry member
        cases member
  | chunkClassified bytes classification next held classified =>
      refine account.quiet rfl rfl rfl once consistent rfl (fun live => ⟨live, rfl, rfl, rfl⟩) ?_
      intro later held'
      cases held'
      exact (account.classified classification held).chunk rfl rfl classified
  | failed operation classification identity live held identified =>
      have silent := account.silent (by rw [live]; rfl)
      refine account.quiet rfl rfl rfl ?_ consistent rfl (fun still => by cases still)
        (fun _ held => by cases held)
      rw [silent]
      exact Nat.le_refl 1
  | misused _ misused =>
      have unaccepted : acceptedChunk? (⟨state, method, ⟨.error incompleteOperation, []⟩, state⟩ :
          Entry ω γ Failure Digest) = none := by
        cases method <;> rfl
      have unfinishing : finishesInput (⟨state, method, ⟨.error incompleteOperation, []⟩, state⟩ :
          Entry ω γ Failure Digest) = false := by
        cases method <;> rfl
      refine account.quiet unaccepted unfinishing rfl once consistent rfl
        (fun live => ⟨live, rfl, rfl, rfl⟩) ?_
      intro classification held
      refine (account.classified classification held).append ?_
      cases method with
      | recordResponseChunk bytes =>
          rw [misused.2] at held
          cases held
      | _ => rfl
  | ended _ _ _ refuses unrecorded silent closed =>
      have unaccepted : acceptedChunk? ⟨state, method, reply, next⟩ = none := by
        cases method with
        | recordInputChunk bytes =>
            obtain ⟨error, answered⟩ := refuses Method.noConfusion Method.noConfusion
            simp only [acceptedChunk?, answered]
        | _ => rfl
      have unfinishing : finishesInput ⟨state, method, reply, next⟩ = false := by
        cases method with
        | finishInput =>
            obtain ⟨error, answered⟩ := refuses Method.noConfusion Method.noConfusion
            simp only [finishesInput, answered]
        | _ => rfl
      refine account.quiet unaccepted unfinishing unrecorded ?_ consistent closed.contentType ?_ ?_
      · rw [silent]
        exact once
      · intro live
        rw [closed.operation] at live
        cases live
      · intro classification held
        rw [closed.classification] at held
        cases held

/-! ## After the end -/

/-- A method on an ended operation emits nothing and leaves it ended. -/
theorem step_of_gone (adapter : Adapter ω γ Failure Digest)
    {state : RequestResponseOperation ω γ} (consistent : state.Consistent)
    (gone : state.operation = none) (method : Method) :
    (step adapter state method).1.emitted = [] ∧ (step adapter state method).2.operation = none := by
  have dead : ¬ state.operation.isSome := by
    rw [gone]
    exact Bool.false_ne_true
  have effect := step_effect adapter consistent method
  generalize (step adapter state method).1 = reply at effect ⊢
  generalize (step adapter state method).2 = next at effect ⊢
  cases effect with
  | inputRecorded _ _ _ live => exact absurd live dead
  | inputRefused _ _ _ _ _ live => exact absurd live dead
  | inputFinished _ _ live => exact absurd live dead
  | responseBegun _ _ live => exact absurd live dead
  | chunkClassified _ _ _ held =>
      exact absurd (consistent.live (by rw [held]; rfl)) dead
  | failed _ _ _ live =>
      rw [gone] at live
      cases live
  | misused => exact ⟨rfl, gone⟩
  | ended _ _ _ _ _ silent closed => exact ⟨silent, closed.operation⟩

/-- An ended operation never emits a failure. -/
theorem emittedFailures_of_gone (adapter : Adapter ω γ Failure Digest) :
    ∀ (later : List Method) {state : RequestResponseOperation ω γ}, state.Consistent →
      state.operation = none → emittedFailures (Runs.answered (step adapter) state later) = [] := by
  intro later
  induction later with
  | nil => exact fun _ _ => rfl
  | cons method later ih =>
      intro state consistent gone
      obtain ⟨silent, still⟩ := step_of_gone adapter consistent gone method
      have rest := ih (step_consistent adapter consistent method) still
      rw [emittedFailures, Runs.answered, List.flatMap_cons]
      exact List.append_eq_nil_iff.mpr ⟨silent, rest⟩

/-- A method that is not misused and returns an error ends the operation. -/
theorem gone_of_error (adapter : Adapter ω γ Failure Digest)
    {state : RequestResponseOperation ω γ} (consistent : state.Consistent) {method : Method}
    {error : Error} (failed : (step adapter state method).1.result = .error error)
    (proper : ¬ state.Misused method) : (step adapter state method).2.operation = none := by
  have effect := step_effect adapter consistent method
  generalize (step adapter state method).1 = reply at effect failed
  generalize (step adapter state method).2 = next at effect ⊢
  cases effect with
  | inputRecorded _ _ _ _ _ answered =>
      rw [answered] at failed
      cases failed
  | inputRefused _ _ _ _ _ _ _ _ _ _ _ closed => exact closed.operation
  | inputFinished _ _ _ _ answered =>
      rw [answered] at failed
      cases failed
  | responseBegun => cases failed
  | chunkClassified => cases failed
  | failed => rfl
  | misused _ misused => exact absurd misused proper
  | ended _ _ _ _ _ _ closed => exact closed.operation

/-! ## Failures -/

/-- What a method that emits a failure found. -/
theorem emitted_of_account {adapter : Adapter ω γ Failure Digest} {contentType : String}
    {past : List (Entry ω γ Failure Digest)} {state : RequestResponseOperation ω γ}
    (account : Account adapter contentType past state) {method : Method} {identity : Failure}
    (emitted : identity ∈ (step adapter state method).1.emitted) :
    method = .finishResponse ∧ past.any finishesInput = true ∧
      recordedPayloads past = payloadsFrom adapter contentType 0 (inputPieces past) ∧
      ∃ classification, Classified adapter past classification ∧
        adapter.finish classification = some identity := by
  have effect := step_effect adapter account.consistent method
  generalize (step adapter state method).1 = reply at effect emitted
  generalize (step adapter state method).2 = next at effect
  have silent {emitted' : List Failure} (none : emitted' = []) (member : identity ∈ emitted') :
      False := by
    rw [none] at member
    cases member
  cases effect with
  | inputRecorded _ _ _ _ _ _ _ quiet => exact (silent quiet emitted).elim
  | inputRefused _ _ _ _ _ _ _ _ _ _ quiet => exact (silent quiet emitted).elim
  | inputFinished _ _ _ _ _ _ quiet => exact (silent quiet emitted).elim
  | responseBegun => cases emitted
  | chunkClassified => cases emitted
  | failed operation classification _ live held identified =>
      have alive : state.operation.isSome := by rw [live]; rfl
      have only := List.mem_singleton.mp emitted
      subst only
      refine ⟨rfl, ?_, account.recorded alive, classification,
        account.classified classification held, identified⟩
      rw [account.finished alive]
      exact account.consistent.complete (by rw [held]; rfl)
  | misused => cases emitted
  | ended _ _ _ _ _ quiet => exact (silent quiet emitted).elim

end RequestResponseOperation

open RequestResponseOperation

/-- What holds of every run of an operation.  The run is the one that has been made so far, and
{lit}`method` is the next one. -/
structure EmissionSound (adapter : Adapter ω γ Failure Digest) (contentType : String)
    (past : List (Entry ω γ Failure Digest)) (state : RequestResponseOperation ω γ) : Prop where
  once : (emittedFailures past).length ≤ 1
  recorded : ∃ front, recordedPayloads past =
      payloadsFrom adapter contentType 0 (inputPieces past ++ front) ∧
        (front = [] ∨ RefusedPart past front)
  follows : ∀ method, ∀ identity ∈ (step adapter state method).1.emitted,
    method = .finishResponse ∧ past.any finishesInput = true ∧
      recordedPayloads past = payloadsFrom adapter contentType 0 (inputPieces past) ∧
      ∃ classification, Classified adapter past classification ∧
        adapter.finish classification = some identity
  stops : ∀ method error, (step adapter state method).1.result = .error error →
    ¬ state.Misused method →
      ∀ later, emittedFailures (Runs.answered (step adapter) (step adapter state method).2 later) = []

/-- A failure is emitted at most once, after an exchange whose input was recorded piece by piece
and whose response was classified whole, and never after an error of a method that was not
misused. -/
theorem emission_sound (adapter : Adapter ω γ Failure Digest) (contentType : String)
    (operation : ω) (methods : List Method) :
    EmissionSound adapter contentType
      (Runs.answered (step adapter) (opened contentType operation) methods)
      (Runs.final (step adapter) (opened contentType operation) methods) := by
  have account := Runs.answered_preserves (Account adapter contentType)
    (fun _ _ method account => account_step account method) methods
    (opened_account adapter contentType operation)
  rw [List.nil_append] at account
  constructor
  · exact account.once
  · exact account.kept
  · intro method identity emitted
    exact emitted_of_account account emitted
  · intro method error failed proper later
    exact emittedFailures_of_gone adapter later (step_consistent adapter account.consistent method)
      (gone_of_error adapter account.consistent failed proper)

/-! ## Misuse -/

/-- An adapter that records everything and finds a failure in every response. -/
def failingAdapter : Adapter Unit Unit Unit Unit where
  encodeBase64url _ := ""
  digestOf _ := ()
  recordInput _ _ := (.ok (), ())
  fail _ _ _ := .ok ()
  start _ := ()
  recordBodyChunk _ _ := (.ok (), ())
  finish _ := some ()

/-- Transcript of a run over {lit}`failingAdapter`. -/
def failingRun (methods : List Method) : List (Entry Unit Unit Unit Unit) :=
  Runs.answered (step failingAdapter) (opened "text/plain" ()) methods

/-- One chunk is recorded as two payloads, an input without a chunk as one, and a failure follows
each of the three methods that were misused and returned an error. -/
theorem misuse_is_forgotten :
    (recordedPayloads (failingRun [.recordInputChunk (List.replicate 32769 0)])).length = 2 ∧
      (recordedPayloads (failingRun [.finishInput])).length = 1 ∧
      (∀ method ∈ [Method.recordResponseChunk [], .finishResponse],
        let run := failingRun [method, .finishInput, .beginResponse 500 [], .finishResponse]
        run.head?.map (·.reply.result) = some (.error incompleteOperation) ∧
          emittedFailures run = [()]) ∧
      let run := failingRun [.finishInput, .recordInputChunk [], .beginResponse 500 [],
        .finishResponse]
      run[1]?.map (·.reply.result) = some (.error incompleteOperation) ∧
        emittedFailures run = [()] := by
  have pieces : Chunks.chunks maxRequestInputChunkBytes (List.replicate 32769 (0 : UInt8)) =
      [List.replicate 32768 0, List.replicate 1 0] := by
    have positive : 0 < maxRequestInputChunkBytes := by decide
    have cut : ∀ length, length ≠ 0 → List.replicate length (0 : UInt8) ≠ [] := by
      intro length inhabited empty
      exact inhabited (by simpa using congrArg List.length empty)
    rw [Chunks.chunks_of_ne_nil positive (cut 32769 (by decide)), List.take_replicate,
      List.drop_replicate, Chunks.chunks_of_ne_nil positive (cut _ (by decide)),
      List.take_replicate, List.drop_replicate]
    rfl
  have live : ¬ ((opened "text/plain" () : RequestResponseOperation Unit Unit).inputComplete = true ∨
      (opened "text/plain" () : RequestResponseOperation Unit Unit).operation.isNone = true) := by
    decide
  refine ⟨?_, by decide, by decide, by decide⟩
  rw [failingRun, Runs.answered, Runs.answer, step, recordInputChunk, if_neg live, pieces]
  rfl

end RequestResponse
end ReproItSdk
