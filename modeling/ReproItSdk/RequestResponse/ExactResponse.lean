import ReproItSdk.RequestResponse.Operation

/-! # Exact responses

The classifier of this file knows one failing response by its status and its whole body.  It
compares the body piece by piece as it arrives, and keeps the number of bytes that it has compared.

Main results:

- Theorem {lit}`finish_recordBodyChunks`: the classification reports the failure exactly if the
  status is the expected one and the pieces together are the expected body.
- Theorem {lit}`finishResponse_exact`: so the operation fails on exactly that response.
-/

namespace ReproItSdk
namespace RequestResponse

variable {ω γ Failure Digest : Type}

/-! ## The classifier -/

/-- {lit}`ExactResponseFailureClassifier`; a slice has no more bytes than a {lit}`usize` counts. -/
structure ExactResponseFailureClassifier (Failure : Type) where
  body : Bytes
  failure : Failure
  status : Nat
  bounded : body.length < 2 ^ 64

/-- {lit}`ExactResponseFailureClassification`. -/
structure ExactResponseFailureClassification (Failure : Type) where
  expected : Bytes
  failure : Option Failure
  matchedBytes : Nat
deriving DecidableEq, Repr

/-- {lit}`ExactResponseFailureClassifier::start`. -/
def ExactResponseFailureClassifier.start (classifier : ExactResponseFailureClassifier Failure)
    (response : RequestResponseHead) : ExactResponseFailureClassification Failure where
  expected := classifier.body
  failure := if response.status = classifier.status then some classifier.failure else none
  matchedBytes := 0

/-- {lit}`get` of a range of a slice. -/
def getRange (bytes : Bytes) (start stop : Nat) : Option Bytes :=
  if start ≤ stop ∧ stop ≤ bytes.length then some ((bytes.drop start).take (stop - start))
  else none

namespace ExactResponseFailureClassification

/-- {lit}`record_body_chunk`. -/
def recordBodyChunk (classification : ExactResponseFailureClassification Failure)
    (bytes : Bytes) : Except Error Unit × ExactResponseFailureClassification Failure :=
  match RequestResponseOperation.checkedAdd classification.matchedBytes bytes.length with
  | none => (.ok (), { classification with failure := none })
  | some stop =>
      (.ok (),
        { classification with
          failure :=
            if getRange classification.expected classification.matchedBytes stop = some bytes then
              classification.failure
            else none
          matchedBytes := stop })

/-- No piece is refused. -/
theorem recordBodyChunk_eq (classification : ExactResponseFailureClassification Failure)
    (bytes : Bytes) : classification.recordBodyChunk bytes =
      (.ok (), (classification.recordBodyChunk bytes).2) := by
  unfold recordBodyChunk
  split <;> rfl

/-- {lit}`finish`. -/
def finish (classification : ExactResponseFailureClassification Failure) : Option Failure :=
  if classification.matchedBytes = classification.expected.length then classification.failure
  else none

/-- Records the pieces of a body one after another. -/
def recordBodyChunks (classification : ExactResponseFailureClassification Failure)
    (chunks : List Bytes) : ExactResponseFailureClassification Failure :=
  chunks.foldl (fun classification bytes => (classification.recordBodyChunk bytes).2)
    classification

end ExactResponseFailureClassification

/-! ## What has been compared -/

/-- The bytes after a front of a list are those of the list if the whole is a front of it. -/
theorem getRange_eq_some_iff {body seen bytes : Bytes} (front : seen <+: body) :
    getRange body seen.length (seen.length + bytes.length) = some bytes ↔
      seen ++ bytes <+: body := by
  rcases front with ⟨rest, rfl⟩
  unfold getRange
  simp only [List.length_append, List.drop_left, List.prefix_append_right_inj]
  constructor
  · intro same
    split at same
    · rw [← Option.some.inj same]
      exact List.take_prefix _ rest
    · cases same
  · intro front
    have short := front.length_le
    rw [if_pos ⟨by omega, by omega⟩, Nat.add_sub_cancel_left]
    exact congrArg some (List.prefix_iff_eq_take.mp front).symm

/-- A classification that has seen some bytes: it still has the failure if they are the front of the
expected body, and then it has counted them. -/
structure Compared (classifier : ExactResponseFailureClassifier Failure)
    (response : RequestResponseHead) (seen : Bytes)
    (classification : ExactResponseFailureClassification Failure) : Prop where
  expected : classification.expected = classifier.body
  failure : classification.failure =
    if response.status = classifier.status ∧ seen <+: classifier.body then some classifier.failure
    else none
  counted : seen <+: classifier.body → classification.matchedBytes = seen.length

section Compared

variable {classifier : ExactResponseFailureClassifier Failure} {response : RequestResponseHead}
  {seen : Bytes} {classification : ExactResponseFailureClassification Failure}

/-- A classification that has lost the failure has lost it for all longer bodies. -/
theorem Compared.failure_eq_none (compared : Compared classifier response seen classification)
    (apart : ¬ seen <+: classifier.body) : classification.failure = none := by
  rw [compared.failure, if_neg (fun both => apart both.2)]

/-- A new classification has seen nothing. -/
theorem compared_start (classifier : ExactResponseFailureClassifier Failure)
    (response : RequestResponseHead) :
    Compared classifier response [] (classifier.start response) := by
  constructor
  · rfl
  · simp [ExactResponseFailureClassifier.start]
  · intro _
    rfl

/-- A recorded piece is compared. -/
theorem Compared.recordBodyChunk (compared : Compared classifier response seen classification)
    (bytes : Bytes) :
    Compared classifier response (seen ++ bytes) (classification.recordBodyChunk bytes).2 := by
  by_cases front : seen <+: classifier.body
  · have counted := compared.counted front
    have fits := front.length_le
    have bounded := classifier.bounded
    unfold ExactResponseFailureClassification.recordBodyChunk RequestResponseOperation.checkedAdd
    rw [counted]
    split
    -- More bytes than a count holds are more than the expected body has.
    · rename_i overflow
      have apart : ¬ seen ++ bytes <+: classifier.body := by
        intro whole
        have length := whole.length_le
        rw [List.length_append] at length
        rw [if_pos (by omega)] at overflow
        cases overflow
      constructor
      · exact compared.expected
      · simp [apart]
      · intro whole
        exact absurd whole apart
    · rename_i stop added
      split at added
      · cases added
        constructor
        · exact compared.expected
        · dsimp only
          rw [compared.expected, compared.failure]
          by_cases whole : seen ++ bytes <+: classifier.body
          · rw [if_pos ((getRange_eq_some_iff front).mpr whole)]
            simp [front, whole]
          · rw [if_neg (fun same => whole ((getRange_eq_some_iff front).mp same))]
            simp [whole]
        · intro _
          exact List.length_append.symm
      · cases added
  · have lost := compared.failure_eq_none front
    have apart : ¬ seen ++ bytes <+: classifier.body := by
      intro whole
      exact front ((List.prefix_append seen bytes).trans whole)
    unfold ExactResponseFailureClassification.recordBodyChunk
    split
    · constructor
      · exact compared.expected
      · simp [apart]
      · intro whole
        exact absurd whole apart
    · constructor
      · exact compared.expected
      · simp [apart, lost]
      · intro whole
        exact absurd whole apart

/-- Recorded pieces are compared. -/
theorem Compared.recordBodyChunks (compared : Compared classifier response seen classification)
    (chunks : List Bytes) :
    Compared classifier response (seen ++ chunks.flatten)
      (classification.recordBodyChunks chunks) := by
  induction chunks generalizing seen classification with
  | nil =>
      rw [List.flatten_nil, List.append_nil]
      exact compared
  | cons bytes chunks ih =>
      have next := ih (compared.recordBodyChunk bytes)
      rw [List.append_assoc] at next
      exact next

/-- A classification that has seen a whole body reports the failure if it is the expected one. -/
theorem Compared.finish_eq (compared : Compared classifier response seen classification) :
    classification.finish =
      if response.status = classifier.status ∧ seen = classifier.body then some classifier.failure
      else none := by
  unfold ExactResponseFailureClassification.finish
  rw [compared.expected, compared.failure]
  by_cases front : seen <+: classifier.body
  · rw [compared.counted front]
    by_cases same : seen.length = classifier.body.length
    · rw [if_pos same, front.eq_of_length same]
      simp
    · rw [if_neg same, if_neg (fun both => same (congrArg List.length both.2))]
  · have different : seen ≠ classifier.body := by
      rintro rfl
      exact front List.prefix_rfl
    simp [front, different]

end Compared

/-- The classification reports the failure exactly if the status is the expected one and the pieces
together are the expected body. -/
theorem finish_recordBodyChunks (classifier : ExactResponseFailureClassifier Failure)
    (response : RequestResponseHead) (chunks : List Bytes) :
    ((classifier.start response).recordBodyChunks chunks).finish = some classifier.failure ↔
      response.status = classifier.status ∧ chunks.flatten = classifier.body := by
  have compared := (compared_start classifier response).recordBodyChunks chunks
  rw [compared.finish_eq, List.nil_append]
  by_cases exact_ : response.status = classifier.status ∧ chunks.flatten = classifier.body
  · simp [exact_]
  · simp [exact_]

/-! ## The operation -/

/-- What an operation is built over with the exact classifier. -/
def Adapter.exactly (adapter : Adapter ω γ Failure Digest)
    (classifier : ExactResponseFailureClassifier Failure) :
    Adapter ω (ExactResponseFailureClassification Failure) Failure Digest where
  encodeBase64url := adapter.encodeBase64url
  digestOf := adapter.digestOf
  recordInput := adapter.recordInput
  fail := adapter.fail
  start := classifier.start
  recordBodyChunk := ExactResponseFailureClassification.recordBodyChunk
  finish := ExactResponseFailureClassification.finish

section Operation

variable {adapter : Adapter ω γ Failure Digest}
  {classifier : ExactResponseFailureClassifier Failure}
  {state : RequestResponseOperation ω (ExactResponseFailureClassification Failure)}

/-- Recorded pieces of a body reach the classification, and no call of the operation. -/
theorem final_recordResponseChunks {classification : ExactResponseFailureClassification Failure}
    (classified : state.classification = some classification) (chunks : List Bytes) :
    Runs.final (RequestResponseOperation.step (adapter.exactly classifier)) state
        (chunks.map .recordResponseChunk) =
      { state with classification := some (classification.recordBodyChunks chunks) } := by
  induction chunks generalizing state classification with
  | nil =>
      rcases state with ⟨_, contentType, inputComplete, inputCount, operation⟩
      cases classified
      rfl
  | cons bytes chunks ih =>
      have recorded : RequestResponseOperation.step (adapter.exactly classifier) state
          (.recordResponseChunk bytes) = ({ result := .ok (), calls := [] },
            { state with classification := some (classification.recordBodyChunk bytes).2 }) := by
        unfold RequestResponseOperation.step RequestResponseOperation.recordResponseChunk
        rw [classified]
        dsimp only [Adapter.exactly]
        rw [ExactResponseFailureClassification.recordBodyChunk_eq]
      rw [List.map_cons, Runs.final, recorded, ih rfl]
      rfl

/-- An operation whose response begins, arrives in pieces and ends fails exactly if the response is
the expected one, and succeeds otherwise. -/
theorem finishResponse_exact {status : Nat} {headers captured : List RequestResponseHeader}
    {operation : ω} (complete : state.inputComplete = true)
    (unclassified : state.classification = none) (ready : state.operation = some operation)
    (fits : RequestResponseOperation.captureHeaders [] 0 headers = some captured)
    (chunks : List Bytes) :
    (RequestResponseOperation.finishResponse (adapter.exactly classifier)
        (Runs.final (RequestResponseOperation.step (adapter.exactly classifier)) state
          (.beginResponse status headers :: chunks.map .recordResponseChunk))).1.calls =
      if status = classifier.status ∧ chunks.flatten = classifier.body then
        [.fail classifier.failure .return]
      else [.succeed] := by
  have began : RequestResponseOperation.step (adapter.exactly classifier) state
      (.beginResponse status headers) = ({ result := .ok (), calls := [] },
        { state with
          classification :=
            some (classifier.start { headers := captured, status := status }) }) := by
    change RequestResponseOperation.beginResponse _ _ _ _ = _
    unfold RequestResponseOperation.beginResponse
    rw [if_neg (by simp [complete, unclassified, ready]), fits]
    rfl
  rw [Runs.final, began, final_recordResponseChunks rfl]
  have compared := (compared_start classifier
    { headers := captured, status := status }).recordBodyChunks chunks
  have finished := compared.finish_eq
  rw [List.nil_append] at finished
  unfold RequestResponseOperation.finishResponse
  rw [ready]
  dsimp only [Adapter.exactly]
  rw [finished]
  by_cases exact_ : status = classifier.status ∧ chunks.flatten = classifier.body
  · rw [if_pos exact_, if_pos exact_]
  · rw [if_neg exact_, if_neg exact_]

end Operation

/-- A body that arrives in two pieces fails the operation. -/
theorem finishResponse_exact_pieces :
    let adapter : Adapter Unit Unit Nat Unit :=
      ⟨fun _ => "", fun _ => (), fun _ _ => (.ok (), ()), fun _ _ _ => .ok (), fun _ => (),
        fun _ _ => (.ok (), ()), fun _ => none⟩
    let exactly := adapter.exactly ⟨[1, 2, 3], 7, 500, by decide⟩
    (RequestResponseOperation.finishResponse exactly
      (Runs.final (RequestResponseOperation.step exactly) ⟨none, "", true, 0, some ()⟩
        (.beginResponse 500 [] :: [[1], [2, 3]].map .recordResponseChunk))).1.calls =
      [.fail 7 .return] :=
  (finishResponse_exact rfl rfl rfl rfl _).trans (if_pos ⟨rfl, rfl⟩)

end RequestResponse
end ReproItSdk
