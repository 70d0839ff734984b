import ReproItSdk.Core.Model
import ReproItSdk.Library.Runs

/-! # Inputs of one operation in the Go and the .NET SDK

An operation hands its Trigger inputs to the engine and sends a failure at its end.  An input that
the engine refuses ends the operation, and an input that the SDK itself refuses does not.

The state holds the calls that the engine got, with what it answered; the engine answers the calls
as it likes.

Main results:

- Theorem {lit}`accepted_indices`: inputs that the engine accepted are numbered without gap.
- Theorem {lit}`lost_inputs_unpublished`: where no input is refused for its size or for the number
  of inputs, no failure is sent after an input was lost.
- Theorem {lit}`oversized_input_published`: a run that sends a failure after an input was refused
  for its size.
-/

namespace ReproItSdk
namespace NativeOperations

/-! ## Operations -/

/-- {lit}`automaticMaxInputBytes` and {lit}`MaxInputBytes`. -/
def maxInputBytes : Nat :=
  65536

/-- {lit}`automaticMaxInputs` and {lit}`MaxInputs`. -/
def maxInputs : Nat :=
  1024

/-- {lit}`AutomaticInputChunk`. -/
structure AutomaticInputChunk where
  channel : Bytes
  contentType : Bytes
  value : Bytes
deriving DecidableEq, Repr

/-- The record of an input; its digest is that of the value. -/
structure OperationInput where
  channel : Bytes
  contentType : Bytes
  inputIndex : Nat
  value : Bytes
deriving DecidableEq, Repr

/-- Calls that the engine gets. -/
inductive EngineCall where
  | recordInput (input : OperationInput)
  | openObservation
  | openDependency
  | observation
  | markUnowned
  | closeWorld
  | fail
  | succeed
  | abandon
deriving DecidableEq, Repr

/-- {lit}`AutomaticOperation`, with the calls that the engine got of it and whether it accepted
them. -/
structure AutomaticOperation where
  finished : Bool
  worldComplete : Bool
  inputIndex : Nat
  log : List (EngineCall × Bool)
deriving DecidableEq, Repr

/-- An operation that has begun. -/
def AutomaticOperation.new : AutomaticOperation where
  finished := false
  worldComplete := false
  inputIndex := 0
  log := []

/-- Calls of the application; a failure and a close meet unhealthy adapters, and a failure meets a
token provider that gives a token or not and an identity that can be written or not. -/
inductive Call where
  | recordInput (input : AutomaticInputChunk)
  | openObservation
  | openDependency
  | observation
  | markUnowned
  | closeWorld (unhealthy : Nat)
  | succeed
  | cancel
  | closeProject
  | fail (unhealthy : Nat) (token written : Bool)
deriving DecidableEq, Repr

namespace AutomaticOperation

variable (engine : Nat → Bool)

/-- A call of the engine. -/
def tell (operation : AutomaticOperation) (call : EngineCall) : Bool × AutomaticOperation :=
  (engine operation.log.length,
    { operation with log := operation.log ++ [(call, engine operation.log.length)] })

/-- {lit}`finishLocked`. -/
def finishLocked (operation : AutomaticOperation) : AutomaticOperation :=
  { operation with finished := true }

/-- {lit}`abandonLocked`. -/
def abandonLocked (operation : AutomaticOperation) : AutomaticOperation :=
  if operation.finished then operation else (operation.tell engine .abandon).2.finishLocked

/-- A call whose refusal ends the operation. -/
def tellOrAbandon (operation : AutomaticOperation) (call : EngineCall) :
    Bool × AutomaticOperation :=
  let told := operation.tell engine call
  if told.1 then told else (false, told.2.abandonLocked engine)

/-- An input that the SDK does not refuse itself. -/
def recordWithin (written : OperationInput → Bool) (operation : AutomaticOperation)
    (input : AutomaticInputChunk) : Bool × AutomaticOperation :=
  let record : OperationInput :=
    { channel := input.channel
      contentType := input.contentType
      inputIndex := operation.inputIndex
      value := input.value }
  if written record then
    let told := operation.tellOrAbandon engine (.recordInput record)
    if told.1 then (true, { told.2 with inputIndex := operation.inputIndex + 1 }) else told
  else (false, operation.abandonLocked engine)

/-- A call about an observation of an operation whose World is open. -/
def observe (operation : AutomaticOperation) (call : EngineCall) : Bool × AutomaticOperation :=
  if operation.finished ∨ operation.worldComplete then (false, operation)
  else operation.tellOrAbandon engine call

/-- The engine closes the World. -/
def completeWorld (operation : AutomaticOperation) : Bool × AutomaticOperation :=
  let told := operation.tellOrAbandon engine .closeWorld
  if told.1 then (true, { told.2 with worldComplete := true }) else told

/-- {lit}`Succeed`. -/
def succeed (operation : AutomaticOperation) : AutomaticOperation :=
  if operation.finished then operation
  else
    let told := operation.tell engine .succeed
    if told.1 then told.2.finishLocked else (told.2.tell engine .abandon).2.finishLocked

end AutomaticOperation

/-! ## Go -/

namespace Go

open AutomaticOperation

variable (engine : Nat → Bool) (written : OperationInput → Bool)

/-- {lit}`RecordInput`. -/
def recordInput (operation : AutomaticOperation) (input : AutomaticInputChunk) :
    Bool × AutomaticOperation :=
  if operation.finished ∨ maxInputBytes < input.value.length ∨ operation.inputIndex = maxInputs then
    (false, operation)
  else operation.recordWithin engine written input

/-- {lit}`markUnhealthyAdaptersLocked`, with the number of unhealthy adapters. -/
def markUnhealthyAdaptersLocked : Nat → AutomaticOperation → Bool × AutomaticOperation
  | 0, operation => (true, operation)
  | unhealthy + 1, operation =>
      let told := operation.tell engine .markUnowned
      if told.1 then markUnhealthyAdaptersLocked unhealthy told.2 else told

/-- {lit}`closeWorldLocked`. -/
def closeWorldLocked (operation : AutomaticOperation) (unhealthy : Nat) :
    Bool × AutomaticOperation :=
  if operation.finished ∨ operation.worldComplete then (false, operation)
  else
    let marked := markUnhealthyAdaptersLocked engine unhealthy operation
    if marked.1 then marked.2.completeWorld engine else (false, marked.2.abandonLocked engine)

/-- The end of {lit}`Fail`, once the World is closed. -/
def sendFailure (operation : AutomaticOperation) (token writes : Bool) :
    Bool × AutomaticOperation :=
  if token && writes then
    let told := operation.tell engine .fail
    if told.1 then (true, told.2.finishLocked)
    else (false, (told.2.tell engine .abandon).2.finishLocked)
  else (false, operation.abandonLocked engine)

/-- {lit}`Fail`. -/
def fail (operation : AutomaticOperation) (unhealthy : Nat) (token writes : Bool) :
    Bool × AutomaticOperation :=
  if operation.finished then (false, operation)
  else if operation.worldComplete then sendFailure engine operation token writes
  else
    let closed := closeWorldLocked engine operation unhealthy
    if closed.1 then sendFailure engine closed.2 token writes else closed

end Go

/-! ## .NET -/

namespace DotNet

open AutomaticOperation

variable (engine : Nat → Bool) (written : OperationInput → Bool)

/-- {lit}`RecordInput`. -/
def recordInput (operation : AutomaticOperation) (input : AutomaticInputChunk) :
    Bool × AutomaticOperation :=
  if operation.finished ∨ maxInputBytes < input.value.length ∨ maxInputs ≤ operation.inputIndex then
    (false, operation)
  else operation.recordWithin engine written input

/-- {lit}`CloseWorldLocked`. -/
def closeWorldLocked (operation : AutomaticOperation) : Bool × AutomaticOperation :=
  if operation.finished ∨ operation.worldComplete then (false, operation)
  else operation.completeWorld engine

/-- The end of {lit}`Fail`, once the World is closed; the token is asked for before the call. -/
def sendFailure (operation : AutomaticOperation) (token writes : Bool) :
    Bool × AutomaticOperation :=
  if token && writes then
    let told := operation.tellOrAbandon engine .fail
    if told.1 then (true, told.2.finishLocked) else told
  else (false, operation.abandonLocked engine)

/-- {lit}`Fail`. -/
def fail (operation : AutomaticOperation) (token writes : Bool) : Bool × AutomaticOperation :=
  if operation.finished then (false, operation)
  else if operation.worldComplete then sendFailure engine operation token writes
  else
    let closed := closeWorldLocked engine operation
    if closed.1 then sendFailure engine closed.2 token writes else closed

end DotNet

/-! ## Runs -/

/-- The two SDKs. -/
inductive Sdk where
  | go
  | dotNet
deriving DecidableEq, Repr

section Step

variable (sdk : Sdk) (engine : Nat → Bool) (written : OperationInput → Bool)

/-- {lit}`RecordInput` of an SDK. -/
def recordInput (operation : AutomaticOperation) (input : AutomaticInputChunk) :
    Bool × AutomaticOperation :=
  match sdk with
  | .go => Go.recordInput engine written operation input
  | .dotNet => DotNet.recordInput engine written operation input

/-- {lit}`CloseWorld` of an SDK. -/
def closeWorld (operation : AutomaticOperation) (unhealthy : Nat) : Bool × AutomaticOperation :=
  match sdk with
  | .go => Go.closeWorldLocked engine operation unhealthy
  | .dotNet => DotNet.closeWorldLocked engine operation

/-- {lit}`Fail` of an SDK. -/
def fail (operation : AutomaticOperation) (unhealthy : Nat) (token writes : Bool) :
    Bool × AutomaticOperation :=
  match sdk with
  | .go => Go.fail engine operation unhealthy token writes
  | .dotNet => DotNet.fail engine operation token writes

/-- A call of the application, and whether it returned without an error. -/
def step (operation : AutomaticOperation) : Call → Bool × AutomaticOperation
  | .recordInput input => recordInput sdk engine written operation input
  | .openObservation => operation.observe engine .openObservation
  | .openDependency => operation.observe engine .openDependency
  | .observation => operation.tell engine .observation
  | .markUnowned => operation.observe engine .markUnowned
  | .closeWorld unhealthy => closeWorld sdk engine operation unhealthy
  | .succeed => (true, operation.succeed engine)
  | .cancel => (true, operation.abandonLocked engine)
  | .closeProject => (true, operation.finishLocked)
  | .fail unhealthy token writes => fail sdk engine operation unhealthy token writes

end Step

/-! ## What a call keeps -/

/-- Number of an input that the engine accepted. -/
def acceptedIndex : EngineCall × Bool → Option Nat
  | (.recordInput input, true) => some input.inputIndex
  | _ => none

/-- Numbers of the inputs that the engine accepted, in order. -/
def AutomaticOperation.accepted (operation : AutomaticOperation) : List Nat :=
  operation.log.filterMap acceptedIndex

/-- The engine got no input that it accepted, and an operation that was finished stays so. -/
structure Quiet (before after : AutomaticOperation) : Prop where
  accepted : after.accepted = before.accepted
  inputIndex : after.inputIndex = before.inputIndex
  finished : before.finished = true → after.finished = true

section Quiet

variable (engine : Nat → Bool) {written : OperationInput → Bool} {operation : AutomaticOperation}

/-- An operation is quiet about itself. -/
theorem Quiet.refl (operation : AutomaticOperation) : Quiet operation operation :=
  ⟨rfl, rfl, id⟩

/-- Quiet steps follow each other. -/
theorem Quiet.trans {first second third : AutomaticOperation} (front : Quiet first second)
    (back : Quiet second third) : Quiet first third where
  accepted := back.accepted.trans front.accepted
  inputIndex := back.inputIndex.trans front.inputIndex
  finished ended := back.finished (front.finished ended)

/-- A call of the engine is quiet unless it hands over an input. -/
theorem quiet_tell (operation : AutomaticOperation) (call : EngineCall)
    (other : ∀ accepted, acceptedIndex (call, accepted) = none) :
    Quiet operation (operation.tell engine call).2 where
  accepted := by
    unfold AutomaticOperation.accepted AutomaticOperation.tell
    rw [List.filterMap_append, List.filterMap_cons, other]
    simp
  inputIndex := rfl
  finished := id

/-- The end of an operation is quiet. -/
theorem quiet_finishLocked (operation : AutomaticOperation) :
    Quiet operation operation.finishLocked :=
  ⟨rfl, rfl, fun _ => rfl⟩

/-- Giving an operation up is quiet. -/
theorem quiet_abandonLocked (operation : AutomaticOperation) :
    Quiet operation (operation.abandonLocked engine) := by
  unfold AutomaticOperation.abandonLocked
  split
  · exact Quiet.refl operation
  · exact (quiet_tell engine operation _ fun _ => rfl).trans (quiet_finishLocked _)

/-- An operation that was given up is finished. -/
@[simp]
theorem finished_abandonLocked (operation : AutomaticOperation) :
    (operation.abandonLocked engine).finished = true := by
  unfold AutomaticOperation.abandonLocked
  split
  · assumption
  · rfl

/-- A call whose refusal ends the operation is quiet unless it hands over an input. -/
theorem quiet_tellOrAbandon (operation : AutomaticOperation) (call : EngineCall)
    (other : ∀ accepted, acceptedIndex (call, accepted) = none) :
    Quiet operation (operation.tellOrAbandon engine call).2 := by
  have told := quiet_tell engine operation call other
  unfold AutomaticOperation.tellOrAbandon
  simp only
  split
  · exact told
  · exact told.trans (quiet_abandonLocked engine _)

/-- Calls about observations are quiet. -/
theorem quiet_observe (operation : AutomaticOperation) (call : EngineCall)
    (other : ∀ accepted, acceptedIndex (call, accepted) = none) :
    Quiet operation (operation.observe engine call).2 := by
  unfold AutomaticOperation.observe
  split
  · exact Quiet.refl operation
  · exact quiet_tellOrAbandon engine operation call other

/-- A successful end is quiet. -/
theorem quiet_succeed (operation : AutomaticOperation) :
    Quiet operation (operation.succeed engine) := by
  have told := quiet_tell engine operation .succeed fun _ => rfl
  unfold AutomaticOperation.succeed
  split
  · exact Quiet.refl operation
  simp only
  split
  · exact told.trans (quiet_finishLocked _)
  · exact told.trans ((quiet_tell engine _ _ fun _ => rfl).trans (quiet_finishLocked _))

/-- The close of the World is quiet. -/
theorem quiet_completeWorld (operation : AutomaticOperation) :
    Quiet operation (operation.completeWorld engine).2 := by
  have told := quiet_tellOrAbandon engine operation .closeWorld fun _ => rfl
  unfold AutomaticOperation.completeWorld
  simp only
  split
  · exact ⟨told.accepted, told.inputIndex, told.finished⟩
  · exact told

/-- Marks of unhealthy adapters are quiet. -/
theorem quiet_markUnhealthy (unhealthy : Nat) (operation : AutomaticOperation) :
    Quiet operation (Go.markUnhealthyAdaptersLocked engine unhealthy operation).2 := by
  induction unhealthy generalizing operation with
  | zero => exact Quiet.refl operation
  | succ unhealthy ih =>
      have told := quiet_tell engine operation .markUnowned fun _ => rfl
      unfold Go.markUnhealthyAdaptersLocked
      simp only
      split
      · exact told.trans (ih _)
      · exact told

/-- Both SDKs close the World quietly. -/
theorem quiet_closeWorld (sdk : Sdk) (operation : AutomaticOperation) (unhealthy : Nat) :
    Quiet operation (closeWorld sdk engine operation unhealthy).2 := by
  cases sdk with
  | go =>
      have marked := quiet_markUnhealthy engine unhealthy operation
      simp only [closeWorld, Go.closeWorldLocked]
      split
      · exact Quiet.refl operation
      split
      · exact marked.trans (quiet_completeWorld engine _)
      · exact marked.trans (quiet_abandonLocked engine _)
  | dotNet =>
      simp only [closeWorld, DotNet.closeWorldLocked]
      split
      · exact Quiet.refl operation
      · exact quiet_completeWorld engine operation

/-- Both SDKs send a failure quietly. -/
theorem quiet_sendFailure (operation : AutomaticOperation) (token writes : Bool) :
    Quiet operation (Go.sendFailure engine operation token writes).2 ∧
      Quiet operation (DotNet.sendFailure engine operation token writes).2 := by
  unfold Go.sendFailure DotNet.sendFailure
  constructor
  · have told := quiet_tell engine operation .fail fun _ => rfl
    split
    · simp only
      split
      · exact told.trans (quiet_finishLocked _)
      · exact told.trans ((quiet_tell engine _ _ fun _ => rfl).trans (quiet_finishLocked _))
    · exact quiet_abandonLocked engine operation
  · have told := quiet_tellOrAbandon engine operation .fail fun _ => rfl
    split
    · simp only
      split
      · exact told.trans (quiet_finishLocked _)
      · exact told
    · exact quiet_abandonLocked engine operation

/-- A failure is quiet. -/
theorem quiet_fail (sdk : Sdk) (operation : AutomaticOperation) (unhealthy : Nat)
    (token writes : Bool) :
    Quiet operation (fail sdk engine operation unhealthy token writes).2 := by
  have closed := quiet_closeWorld engine sdk operation unhealthy
  have sent := quiet_sendFailure engine
  cases sdk with
  | go =>
      simp only [fail, Go.fail]
      split
      · exact Quiet.refl operation
      split
      · exact (sent operation token writes).1
      split
      · exact closed.trans (sent _ token writes).1
      · exact closed
  | dotNet =>
      simp only [fail, DotNet.fail]
      split
      · exact Quiet.refl operation
      split
      · exact (sent operation token writes).2
      split
      · exact closed.trans (sent _ token writes).2
      · exact closed

end Quiet

/-! ## Inputs -/

/-- The numbers of the accepted inputs are those below the number of the next one. -/
def Gapless (operation : AutomaticOperation) : Prop :=
  operation.accepted = List.range operation.inputIndex

section Inputs

variable (sdk : Sdk) (engine : Nat → Bool) (written : OperationInput → Bool)

/-- Quiet calls leave no gap. -/
theorem Gapless.quiet {before after : AutomaticOperation} (gapless : Gapless before)
    (quiet : Quiet before after) : Gapless after := by
  unfold Gapless
  rw [quiet.accepted, quiet.inputIndex]
  exact gapless

/-- An input that the SDK does not refuse is numbered next if the engine accepts it, and ends the
operation otherwise. -/
theorem recordWithin_spec (operation : AutomaticOperation) (input : AutomaticInputChunk) :
    let recorded := operation.recordWithin engine written input
    (recorded.1 = false → recorded.2.finished = true) ∧
      (operation.finished = true → recorded.2.finished = true) ∧
      (Gapless operation → Gapless recorded.2) := by
  simp only [AutomaticOperation.recordWithin]
  split
  · by_cases accepted : engine operation.log.length = true
    · simp only [AutomaticOperation.tellOrAbandon, AutomaticOperation.tell, accepted, if_true]
      refine ⟨(nomatch ·), id, fun gapless => ?_⟩
      unfold Gapless AutomaticOperation.accepted
      rw [List.filterMap_append, List.range_succ]
      exact congrArg (· ++ [operation.inputIndex]) gapless
    · simp only [AutomaticOperation.tellOrAbandon, AutomaticOperation.tell, accepted,
        Bool.false_eq_true, if_false]
      refine ⟨fun _ => finished_abandonLocked engine _, fun _ => finished_abandonLocked engine _,
        fun gapless => Gapless.quiet ?_ (quiet_abandonLocked engine _)⟩
      unfold Gapless AutomaticOperation.accepted
      rw [List.filterMap_append]
      exact (List.append_nil _).trans gapless
  · exact ⟨fun _ => finished_abandonLocked engine _, fun _ => finished_abandonLocked engine _,
      fun gapless => gapless.quiet (quiet_abandonLocked engine operation)⟩

/-- An operation that refuses an input itself does not change. -/
theorem recordInput_cases (operation : AutomaticOperation) (input : AutomaticInputChunk) :
    recordInput sdk engine written operation input = (false, operation) ∨
      recordInput sdk engine written operation input =
        operation.recordWithin engine written input := by
  cases sdk <;> simp only [recordInput, Go.recordInput, DotNet.recordInput] <;> split
  all_goals first | exact .inl rfl | exact .inr rfl

/-- An input of too many bytes changes nothing. -/
theorem recordInput_of_large (operation : AutomaticOperation) {input : AutomaticInputChunk}
    (large : maxInputBytes < input.value.length) :
    recordInput sdk engine written operation input = (false, operation) := by
  cases sdk
  · exact if_pos (.inr (.inl large))
  · exact if_pos (.inr (.inl large))

/-- Every call is quiet or is an input. -/
theorem quiet_step (operation : AutomaticOperation) (call : Call) :
    Quiet operation (step sdk engine written operation call).2 ∨
      ∃ input, step sdk engine written operation call =
        operation.recordWithin engine written input := by
  cases call with
  | recordInput input =>
      rcases recordInput_cases sdk engine written operation input with same | within
      · refine .inl ?_
        rw [step, same]
        exact Quiet.refl operation
      · exact .inr ⟨input, within⟩
  | openObservation => exact .inl (quiet_observe engine operation _ fun _ => rfl)
  | openDependency => exact .inl (quiet_observe engine operation _ fun _ => rfl)
  | observation => exact .inl (quiet_tell engine operation _ fun _ => rfl)
  | markUnowned => exact .inl (quiet_observe engine operation _ fun _ => rfl)
  | closeWorld unhealthy => exact .inl (quiet_closeWorld engine sdk operation unhealthy)
  | succeed => exact .inl (quiet_succeed engine operation)
  | cancel => exact .inl (quiet_abandonLocked engine operation)
  | closeProject => exact .inl (quiet_finishLocked operation)
  | fail unhealthy token writes =>
      exact .inl (quiet_fail engine sdk operation unhealthy token writes)

/-- A finished operation stays finished. -/
theorem finished_step (operation : AutomaticOperation) (call : Call)
    (finished : operation.finished = true) :
    (step sdk engine written operation call).2.finished = true := by
  rcases quiet_step sdk engine written operation call with quiet | ⟨input, within⟩
  · exact quiet.finished finished
  · rw [within]
    exact (recordWithin_spec engine written operation input).2.1 finished

/-- The engine has accepted the inputs with the numbers 0, 1, 2, ... in this order, after every
run. -/
theorem accepted_indices (calls : List Call) :
    Gapless (Runs.final (step sdk engine written) .new calls) := by
  refine Runs.final_preserves Gapless (fun operation call gapless (_ : True) => ?_) calls rfl
    fun _ _ => trivial
  rcases quiet_step sdk engine written operation call with quiet | ⟨input, within⟩
  · exact gapless.quiet quiet
  · rw [within]
    exact (recordWithin_spec engine written operation input).2.2 gapless

/-! ## Lost inputs -/

/-- A call that loses an input. -/
def LosesInput (entry : Runs.Answered AutomaticOperation Call Bool) : Prop :=
  (∃ input, entry.call = .recordInput input) ∧ entry.reply = false

/-- A call of {lit}`Fail` that sends a failure to the engine. -/
def SendsFailure (entry : Runs.Answered AutomaticOperation Call Bool) : Prop :=
  (∃ unhealthy token writes, entry.call = .fail unhealthy token writes) ∧
    ∃ accepted, (.fail, accepted) ∈ entry.after.log.drop entry.before.log.length

/-- The input of a call, of an operation that is not finished, is one that the SDK does not refuse
for its size or for the number of inputs. -/
def Fits (entry : Runs.Answered AutomaticOperation Call Bool) : Prop :=
  ∀ input, entry.call = .recordInput input → entry.before.finished = false →
    input.value.length ≤ maxInputBytes ∧ entry.before.inputIndex < maxInputs

/-- An input that fits is lost only with its operation. -/
theorem finished_of_loses {operation : AutomaticOperation} {input : AutomaticInputChunk}
    (fits : operation.finished = false →
      input.value.length ≤ maxInputBytes ∧ operation.inputIndex < maxInputs)
    (lost : (recordInput sdk engine written operation input).1 = false) :
    (recordInput sdk engine written operation input).2.finished = true := by
  cases ended : operation.finished with
  | true =>
      have kept := finished_step sdk engine written operation (.recordInput input) ended
      exact kept
  | false =>
      rcases fits ended with ⟨size, count⟩
      have within : recordInput sdk engine written operation input =
          operation.recordWithin engine written input := by
        cases sdk
        · refine if_neg ?_
          rintro (done | large | many)
          · exact nomatch ended.symm.trans done
          · exact absurd size (Nat.not_le.mpr large)
          · exact count.ne many
        · refine if_neg ?_
          rintro (done | large | many)
          · exact nomatch ended.symm.trans done
          · exact absurd size (Nat.not_le.mpr large)
          · exact absurd many (Nat.not_le.mpr count)
      rw [within] at lost ⊢
      exact (recordWithin_spec engine written operation input).1 lost

/-- A finished operation sends nothing. -/
theorem fail_of_finished {operation : AutomaticOperation} (finished : operation.finished = true)
    (unhealthy : Nat) (token writes : Bool) :
    fail sdk engine operation unhealthy token writes = (false, operation) := by
  cases sdk
  · exact if_pos finished
  · exact if_pos finished

/-- No failure is sent after an input was lost in a run whose inputs fit, and in every run the
inputs that the engine accepted are numbered without gap. -/
theorem lost_inputs_unpublished (calls : List Call) :
    ((∀ entry ∈ Runs.answered (step sdk engine written) .new calls, Fits entry) →
      ∀ past lost later, Runs.answered (step sdk engine written) .new calls =
        past ++ lost :: later → LosesInput lost → ∀ sent ∈ later, ¬ SendsFailure sent) ∧
      Gapless (Runs.final (step sdk engine written) .new calls) := by
  refine ⟨fun fits past lost later split loses sent among sends => ?_,
    accepted_indices sdk engine written calls⟩
  have listed : lost ∈ Runs.answered (step sdk engine written) .new calls := by
    rw [split]
    exact List.mem_append_right _ List.mem_cons_self
  have made := Runs.eq_answer_of_answered listed
  rcases loses with ⟨⟨input, called⟩, refused⟩
  have ended : lost.after.finished = true := by
    have fitting := fits lost listed input called
    rw [made, called] at refused ⊢
    exact finished_of_loses sdk engine written fitting refused
  have finished := Runs.before_of_later (finished_step sdk engine written) calls split ended sent
    among
  have there : sent ∈ Runs.answered (step sdk engine written) .new calls := by
    rw [split]
    exact List.mem_append_right _ (List.mem_cons_of_mem _ among)
  have answer := Runs.eq_answer_of_answered there
  rcases sends with ⟨⟨unhealthy, token, writes, failed⟩, accepted, handed⟩
  rw [answer, failed] at handed
  simp only [Runs.answer, step, fail_of_finished sdk engine finished, List.drop_length,
    List.not_mem_nil] at handed

end Inputs

/-- An input of one byte more than an operation takes. -/
def oversizedInput : AutomaticInputChunk where
  channel := []
  contentType := []
  value := List.replicate 65537 0

/-- The input is refused for its size, and the failure is sent without it, in both SDKs. -/
theorem oversized_input_sent (sdk : Sdk) :
    ∃ lost sent, Runs.answered (step sdk (fun _ => true) fun _ => true) .new
        [.recordInput oversizedInput, .fail 0 true true] = [] ++ lost :: [sent] ∧
      LosesInput lost ∧ SendsFailure sent := by
  have large : maxInputBytes < oversizedInput.value.length := by
    rw [oversizedInput, List.length_replicate, maxInputBytes]
    omega
  have refused : step sdk (fun _ => true) (fun _ => true) .new (.recordInput oversizedInput) =
      (false, .new) :=
    recordInput_of_large sdk _ _ _ large
  refine ⟨_, _, rfl, ⟨⟨_, rfl⟩, congrArg Prod.fst refused⟩, ⟨_, _, _, rfl⟩, true, ?_⟩
  simp only [Runs.answer, refused]
  cases sdk <;> decide

/-- A failure is sent after an input was lost. -/
theorem oversized_input_published :
    ∃ sdk lost sent, Runs.answered (step sdk (fun _ => true) fun _ => true) .new
        [.recordInput oversizedInput, .fail 0 true true] = [] ++ lost :: [sent] ∧
      LosesInput lost ∧ SendsFailure sent :=
  ⟨.go, oversized_input_sent .go⟩

end NativeOperations
end ReproItSdk
