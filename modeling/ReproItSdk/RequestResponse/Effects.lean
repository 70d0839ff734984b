import ReproItSdk.RequestResponse.Operation

/-! # What each method of a request-response operation does

A method goes on with the operation, ends it, or leaves it as it was.  The effects below say which
payloads it recorded and which failure it emitted.

Main results:

- Theorem {lit}`recordPieces_effect`: pieces are recorded in order until one is refused.
- Theorem {lit}`step_effect`: the effect of every method on a consistent state.
- Theorem {lit}`captureHeaders_eq`: the captured headers are the given ones.
-/

namespace ReproItSdk
namespace RequestResponse

variable {ω γ Failure Digest : Type}

/-! ## Reading the calls -/

/-- Payload that a call recorded. -/
def OperationCall.recorded? : OperationCall Failure Digest → Option (OperationInputPayload Digest)
  | .recordInput payload (.ok _) => some payload
  | _ => none

/-- Failure that a call emitted. -/
def OperationCall.emitted? : OperationCall Failure Digest → Option Failure
  | .fail identity _ => some identity
  | _ => none

namespace Reply

/-- Payloads that a method recorded. -/
def recorded (reply : Reply Failure Digest) : List (OperationInputPayload Digest) :=
  reply.calls.filterMap OperationCall.recorded?

/-- Failures that a method emitted. -/
def emitted (reply : Reply Failure Digest) : List Failure :=
  reply.calls.filterMap OperationCall.emitted?

end Reply

namespace RequestResponseOperation

/-- Payloads of consecutive pieces, from an index on. -/
def payloadsFrom (adapter : Adapter ω γ Failure Digest) (contentType : String) :
    Nat → List Bytes → List (OperationInputPayload Digest)
  | _, [] => []
  | index, piece :: pieces =>
      inputPayload adapter contentType index piece ::
        payloadsFrom adapter contentType (index + 1) pieces

/-- Payloads of two lists of pieces that follow one another. -/
theorem payloadsFrom_append (adapter : Adapter ω γ Failure Digest) (contentType : String)
    (pieces later : List Bytes) (index : Nat) :
    payloadsFrom adapter contentType index (pieces ++ later) =
      payloadsFrom adapter contentType index pieces ++
        payloadsFrom adapter contentType (index + pieces.length) later := by
  induction pieces generalizing index with
  | nil => rfl
  | cons piece pieces ih =>
      simp only [List.cons_append, payloadsFrom, ih, List.length_cons]
      rw [Nat.add_right_comm, Nat.add_assoc]

/-! ## States -/

/-- A response is classified only while the operation is live and its input complete. -/
structure Consistent (state : RequestResponseOperation ω γ) : Prop where
  live : state.classification.isSome → state.operation.isSome
  complete : state.classification.isSome → state.inputComplete = true

/-- The operation is gone, with its classification. -/
structure Over (state next : RequestResponseOperation ω γ) : Prop where
  operation : next.operation = none
  classification : next.classification = none
  contentType : next.contentType = state.contentType

/-- Releasing an operation ends it. -/
theorem over_released (state : RequestResponseOperation ω γ) : Over state state.released :=
  ⟨rfl, rfl, rfl⟩

/-- Abandoning an operation emits no failure. -/
@[simp] theorem emitted_abandonCalls (state : RequestResponseOperation ω γ) :
    (state.abandonCalls : List (OperationCall Failure Digest)).filterMap
      OperationCall.emitted? = [] := by
  unfold abandonCalls
  split <;> rfl

/-- Abandoning an operation records nothing. -/
@[simp] theorem recorded_abandonCalls (state : RequestResponseOperation ω γ) :
    (state.abandonCalls : List (OperationCall Failure Digest)).filterMap
      OperationCall.recorded? = [] := by
  unfold abandonCalls
  split <;> rfl

/-- The exits that return an error and leave the operation as it was. -/
def Misused (state : RequestResponseOperation ω γ) : Method → Prop
  | .recordInputChunk _ => state.operation.isSome ∧ state.inputComplete = true
  | .recordResponseChunk _ => state.operation.isSome ∧ state.classification = none
  | .finishResponse => state.operation.isSome ∧ state.classification = none
  | _ => False

/-! ## Recording pieces -/

/-- What recording pieces does to a live operation. -/
inductive PiecesEffect (adapter : Adapter ω γ Failure Digest)
    (state : RequestResponseOperation ω γ) (pieces : List Bytes) :
    Reply Failure Digest → RequestResponseOperation ω γ → Prop
  | recorded (reply : Reply Failure Digest) (operation : ω)
      (answered : reply.result = .ok ())
      (payloads : reply.recorded = payloadsFrom adapter state.contentType state.inputCount pieces)
      (silent : reply.emitted = []) :
      PiecesEffect adapter state pieces reply
        { state with
          operation := some operation
          inputCount := state.inputCount + pieces.length }
  | refused (reply : Reply Failure Digest) (next : RequestResponseOperation ω γ)
      (front : List Bytes) (error : Error)
      (answered : reply.result = .error error)
      (part : front <+: pieces)
      (payloads : reply.recorded = payloadsFrom adapter state.contentType state.inputCount front)
      (silent : reply.emitted = [])
      (closed : Over state next) :
      PiecesEffect adapter state pieces reply next

/-- Recording one piece records it or ends the operation. -/
theorem recordInputRecord_effect (adapter : Adapter ω γ Failure Digest)
    (state : RequestResponseOperation ω γ) (piece : Bytes) (live : state.operation.isSome) :
    PiecesEffect adapter state [piece] (recordInputRecord adapter state piece).1
      (recordInputRecord adapter state piece).2 := by
  obtain ⟨operation, held⟩ := Option.isSome_iff_exists.mp live
  unfold recordInputRecord
  split
  · exact .refused _ _ [] captureLimit rfl (List.nil_prefix) (by simp [refuse, Reply.recorded,
      payloadsFrom]) (by simp [refuse, Reply.emitted]) (over_released state)
  · simp only [held]
    cases answered : adapter.recordInput operation
        (inputPayload adapter state.contentType state.inputCount piece) with
    | mk result next =>
        cases result with
        | error error =>
            refine .refused _ _ [] error rfl List.nil_prefix ?_ ?_ ⟨rfl, rfl, rfl⟩
            · simp only [refuse, Reply.recorded, List.filterMap_append, recorded_abandonCalls]
              rfl
            · simp only [refuse, Reply.emitted, List.filterMap_append, emitted_abandonCalls]
              rfl
        | ok answer => exact .recorded _ next rfl rfl rfl

/-- A refused piece is not recorded. -/
theorem recordInputRecord_refused (adapter : Adapter ω γ Failure Digest)
    (state : RequestResponseOperation ω γ) (piece : Bytes)
    {reply : Reply Failure Digest} {next : RequestResponseOperation ω γ} {error : Error}
    (made : recordInputRecord adapter state piece = (reply, next))
    (refused : reply.result = .error error) : reply.recorded = [] := by
  unfold recordInputRecord at made
  split at made
  · cases made
    exact recorded_abandonCalls state
  · split at made
    · cases made
      rfl
    · dsimp only at made
      split at made
      · cases made
        simp only [Reply.recorded, List.filterMap_append, recorded_abandonCalls]
        rfl
      · cases made
        cases refused

/-- Pieces are recorded in order until one is refused. -/
theorem recordPieces_effect (adapter : Adapter ω γ Failure Digest) :
    ∀ (pieces : List Bytes) (state : RequestResponseOperation ω γ), state.operation.isSome →
      PiecesEffect adapter state pieces (recordPieces adapter state pieces).1
        (recordPieces adapter state pieces).2 := by
  intro pieces
  induction pieces with
  | nil =>
      intro state live
      obtain ⟨operation, held⟩ := Option.isSome_iff_exists.mp live
      have unchanged : state = { state with
          operation := some operation, inputCount := state.inputCount + 0 } := by
        cases state
        simp_all
      have effect : PiecesEffect adapter state [] ⟨.ok (), []⟩ _ :=
        .recorded ⟨.ok (), []⟩ operation rfl rfl rfl
      rw [List.length_nil, ← unchanged] at effect
      exact effect
  | cons piece pieces ih =>
      intro state live
      unfold recordPieces
      generalize made : recordInputRecord adapter state piece = outcome
      have first := recordInputRecord_effect adapter state piece live
      rw [made] at first
      rcases outcome with ⟨reply, next⟩
      change PiecesEffect adapter state [piece] reply next at first
      cases first with
      | refused _ front error answered part payloads silent closed =>
          simp only [answered]
          exact .refused _ _ front error answered
            (part.trans (by simp)) payloads silent closed
      | recorded operation answered payloads silent =>
          simp only [answered]
          have rest := ih { state with
            operation := some operation, inputCount := state.inputCount + 1 } rfl
          generalize recordPieces adapter _ pieces = outcome at rest ⊢
          rcases outcome with ⟨later, last⟩
          change PiecesEffect adapter _ pieces later last at rest
          have joined : ∀ front : List Bytes,
              later.recorded = payloadsFrom adapter state.contentType (state.inputCount + 1) front →
              Reply.recorded ⟨later.result, reply.calls ++ later.calls⟩ =
                payloadsFrom adapter state.contentType state.inputCount (piece :: front) := by
            intro front recorded
            rw [Reply.recorded, List.filterMap_append]
            exact congrArg₂ _ payloads recorded
          have quiet : later.emitted = [] →
              Reply.emitted ⟨later.result, reply.calls ++ later.calls⟩ = [] := by
            intro none
            rw [Reply.emitted, List.filterMap_append]
            exact congrArg₂ _ silent none
          cases rest with
          | refused _ front error refused part recorded none closed =>
              exact .refused _ _ (piece :: front) error refused
                (List.cons_prefix_cons.mpr ⟨rfl, part⟩) (joined front recorded) (quiet none)
                ⟨closed.operation, closed.classification, closed.contentType⟩
          | recorded operation accepted recorded none =>
              rw [Nat.add_assoc, Nat.add_comm 1]
              exact .recorded _ operation accepted (joined pieces recorded) (quiet none)

/-! ## Headers -/

/-- The captured headers follow the ones captured before. -/
theorem captureHeaders_append {headers captured kept : List RequestResponseHeader} {bytes : Nat}
    (fits : captureHeaders captured bytes headers = some kept) : kept = captured ++ headers := by
  induction headers generalizing captured bytes with
  | nil =>
      rw [List.append_nil]
      exact (Option.some.inj fits).symm
  | cons header headers ih =>
      unfold captureHeaders at fits
      split at fits
      · cases fits
      · split at fits
        · cases fits
        · split at fits
          · cases fits
          · rw [ih fits, List.append_assoc, List.singleton_append]

/-- The captured headers are the given ones. -/
theorem captureHeaders_eq {headers kept : List RequestResponseHeader}
    (fits : captureHeaders [] 0 headers = some kept) : kept = headers :=
  captureHeaders_append fits

/-! ## Methods -/

/-- Pieces that finishing the input records: one empty piece unless a piece was recorded. -/
def finishingPieces (inputCount : Nat) : List Bytes :=
  if inputCount = 0 then [[]] else []

/-- What a method does to a consistent state. -/
inductive MethodEffect (adapter : Adapter ω γ Failure Digest)
    (state : RequestResponseOperation ω γ) :
    Method → Reply Failure Digest → RequestResponseOperation ω γ → Prop
  | inputRecorded (bytes : Bytes) (reply : Reply Failure Digest) (operation : ω)
      (live : state.operation.isSome)
      (incomplete : state.inputComplete = false)
      (answered : reply.result = .ok ())
      (payloads : reply.recorded = payloadsFrom adapter state.contentType state.inputCount
        (Chunks.chunks maxRequestInputChunkBytes bytes))
      (silent : reply.emitted = []) :
      MethodEffect adapter state (.recordInputChunk bytes) reply
        { state with
          operation := some operation
          inputCount := state.inputCount +
            (Chunks.chunks maxRequestInputChunkBytes bytes).length }
  | inputRefused (bytes : Bytes) (reply : Reply Failure Digest)
      (next : RequestResponseOperation ω γ) (front : List Bytes) (error : Error)
      (live : state.operation.isSome)
      (incomplete : state.inputComplete = false)
      (answered : reply.result = .error error)
      (part : front <+: Chunks.chunks maxRequestInputChunkBytes bytes)
      (payloads : reply.recorded = payloadsFrom adapter state.contentType state.inputCount front)
      (silent : reply.emitted = [])
      (closed : Over state next) :
      MethodEffect adapter state (.recordInputChunk bytes) reply next
  | inputFinished (reply : Reply Failure Digest) (operation : ω)
      (live : state.operation.isSome)
      (incomplete : state.inputComplete = false)
      (answered : reply.result = .ok ())
      (payloads : reply.recorded = payloadsFrom adapter state.contentType state.inputCount
        (finishingPieces state.inputCount))
      (silent : reply.emitted = []) :
      MethodEffect adapter state .finishInput reply
        { state with
          inputComplete := true
          operation := some operation
          inputCount := state.inputCount + (finishingPieces state.inputCount).length }
  | responseBegun (status : Nat) (headers : List RequestResponseHeader)
      (live : state.operation.isSome)
      (complete : state.inputComplete = true)
      (fresh : state.classification = none) :
      MethodEffect adapter state (.beginResponse status headers) ⟨.ok (), []⟩
        { state with
          classification := some (adapter.start { headers := headers, status := status }) }
  | chunkClassified (bytes : Bytes) (classification next : γ)
      (held : state.classification = some classification)
      (classified : adapter.recordBodyChunk classification bytes = (.ok (), next)) :
      MethodEffect adapter state (.recordResponseChunk bytes) ⟨.ok (), []⟩
        { state with classification := some next }
  | failed (operation : ω) (classification : γ) (identity : Failure)
      (live : state.operation = some operation)
      (held : state.classification = some classification)
      (identified : adapter.finish classification = some identity) :
      MethodEffect adapter state .finishResponse
        ⟨adapter.fail operation identity .return, [.fail identity .return]⟩ state.released
  | misused (method : Method) (misused : state.Misused method) :
      MethodEffect adapter state method ⟨.error incompleteOperation, []⟩ state
  | ended (method : Method) (reply : Reply Failure Digest) (next : RequestResponseOperation ω γ)
      (refuses : method ≠ .finishResponse → method ≠ .abandon →
        ∃ error, reply.result = .error error)
      (unrecorded : reply.recorded = [])
      (silent : reply.emitted = [])
      (closed : Over state next) :
      MethodEffect adapter state method reply next

/-- Refusing a method without recording anything ends the operation. -/
theorem refuse_effect (adapter : Adapter ω γ Failure Digest)
    (state target : RequestResponseOperation ω γ) (method : Method) (error : Error)
    (same : target.contentType = state.contentType) :
    MethodEffect adapter state method (target.refuse [] error).1 target.released :=
  .ended method _ _ (fun _ _ => ⟨error, rfl⟩) (recorded_abandonCalls target)
    (emitted_abandonCalls target) ⟨rfl, rfl, same⟩

/-- A method on an ended operation that returns an error leaves it ended. -/
theorem ended_effect (adapter : Adapter ω γ Failure Digest)
    {state : RequestResponseOperation ω γ} (consistent : state.Consistent) (method : Method)
    (error : Error) (gone : state.operation = none) :
    MethodEffect adapter state method ⟨.error error, []⟩ state := by
  refine .ended method _ _ (fun _ _ => ⟨error, rfl⟩) rfl rfl ⟨gone, ?_, rfl⟩
  rw [← Option.not_isSome_iff_eq_none]
  intro held
  simpa [gone] using consistent.live held

/-- Input is taken while it is incomplete and the operation is live. -/
theorem takesInput_iff (state : RequestResponseOperation ω γ) :
    ¬ (state.inputComplete = true ∨ state.operation.isNone = true) ↔
      state.inputComplete = false ∧ state.operation.isSome = true := by
  cases state.inputComplete <;> cases state.operation <;> simp

/-- Effect of {lit}`record_input_chunk`. -/
theorem recordInputChunk_effect (adapter : Adapter ω γ Failure Digest)
    {state : RequestResponseOperation ω γ} (consistent : state.Consistent) (bytes : Bytes) :
    MethodEffect adapter state (.recordInputChunk bytes) (recordInputChunk adapter state bytes).1
      (recordInputChunk adapter state bytes).2 := by
  unfold recordInputChunk
  split
  case isTrue refused =>
      by_cases gone : state.operation = none
      · exact ended_effect adapter consistent _ _ gone
      · have live : state.operation.isSome := Option.isSome_iff_ne_none.mpr gone
        refine .misused _ ⟨live, refused.resolve_right ?_⟩
        simpa using gone
  case isFalse allowed =>
      rw [takesInput_iff] at allowed
      have effect := recordPieces_effect adapter
        (Chunks.chunks maxRequestInputChunkBytes bytes) state allowed.2
      generalize recordPieces adapter state _ = outcome at effect ⊢
      rcases outcome with ⟨reply, next⟩
      change PiecesEffect adapter state _ reply next at effect
      cases effect with
      | recorded operation answered payloads silent =>
          exact .inputRecorded bytes reply operation allowed.2 allowed.1 answered payloads silent
      | refused _ front error answered part payloads silent closed =>
          exact .inputRefused bytes _ _ front error allowed.2 allowed.1 answered part payloads silent
            closed

/-- Effect of {lit}`finish_input`. -/
theorem finishInput_effect (adapter : Adapter ω γ Failure Digest)
    (state : RequestResponseOperation ω γ) :
    MethodEffect adapter state .finishInput (finishInput adapter state).1
      (finishInput adapter state).2 := by
  unfold finishInput
  split
  case isTrue => exact refuse_effect adapter state state _ _ rfl
  case isFalse allowed =>
      rw [takesInput_iff] at allowed
      obtain ⟨operation, held⟩ := Option.isSome_iff_exists.mp allowed.2
      split
      case isTrue first =>
          have effect := recordInputRecord_effect adapter state [] allowed.2
          generalize made : recordInputRecord adapter state [] = outcome at effect ⊢
          rcases outcome with ⟨reply, next⟩
          change PiecesEffect adapter state [[]] reply next at effect
          have pieces : finishingPieces state.inputCount = [[]] := if_pos first
          cases effect with
          | recorded operation answered payloads silent =>
              simp only [answered]
              rw [← pieces] at payloads ⊢
              exact .inputFinished reply operation allowed.2 allowed.1 answered payloads silent
          | refused _ front error answered part payloads silent closed =>
              simp only [answered]
              exact .ended _ _ _ (fun _ _ => ⟨error, answered⟩)
                (recordInputRecord_refused adapter state [] made answered) silent closed
      case isFalse later =>
          have pieces : finishingPieces state.inputCount = [] := if_neg later
          have effect : MethodEffect adapter state .finishInput ⟨.ok (), []⟩ _ :=
            .inputFinished ⟨.ok (), []⟩ operation allowed.2 allowed.1 rfl (by rw [pieces]; rfl) rfl
          rw [pieces, ← held] at effect
          exact effect

/-- Effect of {lit}`begin_response`. -/
theorem beginResponse_effect (adapter : Adapter ω γ Failure Digest)
    (state : RequestResponseOperation ω γ) (status : Nat)
    (headers : List RequestResponseHeader) :
    MethodEffect adapter state (.beginResponse status headers)
      (beginResponse adapter state status headers).1
      (beginResponse adapter state status headers).2 := by
  unfold beginResponse
  split
  case isTrue => exact refuse_effect adapter state state _ _ rfl
  case isFalse allowed =>
      rw [not_or, not_or, not_not, Option.not_isSome_iff_eq_none, Bool.not_eq_true,
        Option.isNone_eq_false_iff] at allowed
      cases fits : captureHeaders [] 0 headers with
      | none => exact refuse_effect adapter state state _ _ rfl
      | some captured =>
          rw [captureHeaders_eq fits]
          exact .responseBegun status headers allowed.2.2 allowed.1 allowed.2.1

/-- Effect of {lit}`record_response_chunk`. -/
theorem recordResponseChunk_effect (adapter : Adapter ω γ Failure Digest)
    {state : RequestResponseOperation ω γ} (consistent : state.Consistent) (bytes : Bytes) :
    MethodEffect adapter state (.recordResponseChunk bytes)
      (recordResponseChunk adapter state bytes).1 (recordResponseChunk adapter state bytes).2 := by
  unfold recordResponseChunk
  split
  case h_1 unclassified =>
      by_cases gone : state.operation = none
      · exact ended_effect adapter consistent _ _ gone
      · exact .misused _ ⟨Option.isSome_iff_ne_none.mpr gone, unclassified⟩
  case h_2 classification held =>
      split
      case h_1 error next refused => exact refuse_effect adapter state _ _ _ rfl
      case h_2 answer next classified =>
          exact .chunkClassified bytes classification next held classified

/-- Effect of {lit}`finish_response`. -/
theorem finishResponse_effect (adapter : Adapter ω γ Failure Digest)
    {state : RequestResponseOperation ω γ} (consistent : state.Consistent) :
    MethodEffect adapter state .finishResponse (finishResponse adapter state).1
      (finishResponse adapter state).2 := by
  unfold finishResponse
  split
  case h_1 unclassified =>
      by_cases gone : state.operation = none
      · exact ended_effect adapter consistent _ _ gone
      · exact .misused _ ⟨Option.isSome_iff_ne_none.mpr gone, unclassified⟩
  case h_2 classification held =>
      split
      case h_1 gone =>
          have live := consistent.live (by rw [held]; rfl)
          rw [gone] at live
          cases live
      case h_2 operation live =>
          split
          case h_1 identity identified =>
              exact .failed operation classification identity live held identified
          case h_2 unidentified =>
              exact .ended _ _ _ (fun finishes => absurd rfl finishes) rfl rfl
                (over_released state)

/-- The effect of every method on a consistent state. -/
theorem step_effect (adapter : Adapter ω γ Failure Digest)
    {state : RequestResponseOperation ω γ} (consistent : state.Consistent) (method : Method) :
    MethodEffect adapter state method (step adapter state method).1
      (step adapter state method).2 := by
  cases method with
  | recordInputChunk bytes => exact recordInputChunk_effect adapter consistent bytes
  | finishInput => exact finishInput_effect adapter state
  | beginResponse status headers => exact beginResponse_effect adapter state status headers
  | recordResponseChunk bytes => exact recordResponseChunk_effect adapter consistent bytes
  | finishResponse => exact finishResponse_effect adapter consistent
  | abandon =>
      exact .ended _ _ _ (fun _ abandons => absurd rfl abandons) (recorded_abandonCalls state)
        (emitted_abandonCalls state) (over_released state)

/-- Every method keeps the state consistent. -/
theorem step_consistent (adapter : Adapter ω γ Failure Digest)
    {state : RequestResponseOperation ω γ} (consistent : state.Consistent) (method : Method) :
    (step adapter state method).2.Consistent := by
  have effect := step_effect adapter consistent method
  generalize (step adapter state method).1 = reply at effect
  generalize (step adapter state method).2 = next at effect
  have ended : ∀ {next : RequestResponseOperation ω γ}, Over state next → next.Consistent := by
    intro next closed
    constructor <;> simp [closed.classification]
  cases effect with
  | inputRecorded => exact ⟨fun _ => rfl, consistent.complete⟩
  | inputRefused _ _ _ _ _ _ _ _ _ _ _ closed => exact ended closed
  | inputFinished => exact ⟨fun _ => rfl, fun _ => rfl⟩
  | responseBegun _ _ live complete => exact ⟨fun _ => live, fun _ => complete⟩
  | chunkClassified _ _ _ held =>
      have classified : state.classification.isSome := by rw [held]; rfl
      exact ⟨fun _ => consistent.live classified, fun _ => consistent.complete classified⟩
  | failed => exact ended (over_released state)
  | misused => exact consistent
  | ended _ _ _ _ _ _ closed => exact ended closed

end RequestResponseOperation
end RequestResponse
end ReproItSdk
