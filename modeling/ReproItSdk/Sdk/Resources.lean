import ReproItSdk.Core.Model

/-! # Process resources

One ledger for the whole process counts the bytes of active operations, the bytes of candidates on
their way to a delivery, and the bytes that captures keep on disk.  Every operation of this file is
one critical section of the ledger's lock.

The storm gate of the ledger decides by the clock and touches no counter; its decisions are inputs
of the callers.

Main definitions:

- Structure {lit}`ProcessResources`: the ledger.
- Structure {lit}`Balanced`: the counters are the sums of the entries and stay within bounds.

Main results:

- Theorems {lit}`Balanced.reserveOperation` to {lit}`Balanced.releaseCapture`: every critical
  section keeps the ledger balanced.
-/

namespace ReproItSdk
namespace Sdk

/-! ## Constants -/

/-- Most operations that are active together. -/
def maxActiveOperations : Nat :=
  512

/-- Most candidates that are queued together. -/
def maxQueuedCandidates : Nat :=
  16

/-- Most bytes of all operations and candidates. -/
def maxGlobalBytes : Nat :=
  1048576

/-- Most bytes that captures keep on disk. -/
def maxProcessCaptureBytes : Nat :=
  4 * 1024 * 1024 * 1024

/-- Largest value of a {lit}`usize` on a 64-bit target. -/
def usizeMax : Nat :=
  2 ^ 64 - 1

/-- {lit}`checked_add` on {lit}`usize` values. -/
def checkedAdd (left right : Nat) : Option Nat :=
  if left + right ≤ usizeMax then some (left + right) else none

/-! ## State -/

/-- Progress of a candidate between its operation and its delivery. -/
inductive CandidateState where
  | handoff
  | retained
deriving DecidableEq, Repr

/-- A candidate in the ledger. -/
structure CandidateEntry where
  bytes : Nat
  state : CandidateState
deriving DecidableEq, Repr

/-- The ledger of the process. -/
structure ProcessResources where
  active : KeyedTable OperationId Nat
  activeBytes : Nat
  candidates : KeyedTable CaptureId CandidateEntry
  candidateBytes : Nat
  captureBytes : Nat

namespace ProcessResources

/-- {lit}`ProcessResources::new`: nothing is reserved. -/
def new : ProcessResources where
  active := ∅
  activeBytes := 0
  candidates := ∅
  candidateBytes := 0
  captureBytes := 0

/-- {lit}`bytes_with`: all bytes and some more. -/
def bytesWith (resources : ProcessResources) (addedBytes : Nat) : Option Nat :=
  (checkedAdd resources.activeBytes resources.candidateBytes).bind fun bytes =>
    checkedAdd bytes addedBytes

/-- Whether some more bytes stay within the bound. -/
def fits (resources : ProcessResources) (addedBytes : Nat) : Bool :=
  match resources.bytesWith addedBytes with
  | none => false
  | some total => total ≤ maxGlobalBytes

/-! ## Operations -/

/-- {lit}`reserve_operation`: enter an operation with its first bytes. -/
def reserveOperation (resources : ProcessResources) (operationId : OperationId) (bytes : Nat) :
    Bool × ProcessResources :=
  if (resources.active.lookup operationId).isSome ∨
      maxActiveOperations ≤ KeyedTable.size resources.active ∨ ¬ resources.fits bytes then
    (false, resources)
  else
    (true,
      { resources with
        activeBytes := resources.activeBytes + bytes
        active := resources.active.insert operationId bytes })

/-- {lit}`grow_operation`: add bytes to an operation. -/
def growOperation (resources : ProcessResources) (operationId : OperationId) (addedBytes : Nat) :
    Bool × ProcessResources :=
  if ¬ resources.fits addedBytes then (false, resources)
  else
    match resources.active.lookup operationId with
    | none => (false, resources)
    | some bytes =>
        (true,
          { resources with
            active := resources.active.insert operationId (saturatingAdd bytes addedBytes)
            activeBytes := resources.activeBytes + addedBytes })

/-- {lit}`release_operation`: take an operation out. -/
def releaseOperation (resources : ProcessResources) (operationId : OperationId) :
    ProcessResources :=
  match resources.active.lookup operationId with
  | none => resources
  | some bytes =>
      { resources with
        active := resources.active.erase operationId
        activeBytes := resources.activeBytes - bytes }

/-! ## Candidates -/

/-- {lit}`reserve_candidate_handoff`: enter a candidate before it is sent. -/
def reserveCandidateHandoff (resources : ProcessResources) (captureId : CaptureId) (bytes : Nat) :
    Bool × ProcessResources :=
  if (resources.candidates.lookup captureId).isSome ∨
      maxQueuedCandidates ≤ KeyedTable.size resources.candidates ∨ ¬ resources.fits bytes then
    (false, resources)
  else
    (true,
      { resources with
        candidateBytes := resources.candidateBytes + bytes
        candidates :=
          resources.candidates.insert captureId { bytes := bytes, state := .handoff } })

/-- {lit}`claim_candidate`: a sink takes a candidate over, or enters it itself. -/
def claimCandidate (resources : ProcessResources) (captureId : CaptureId) (bytes : Nat) :
    Bool × ProcessResources :=
  match resources.candidates.lookup captureId with
  | some entry =>
      if entry.bytes ≠ bytes ∨ entry.state ≠ .handoff then (false, resources)
      else
        (true,
          { resources with
            candidates := resources.candidates.insert captureId { entry with state := .retained } })
  | none =>
      if maxQueuedCandidates ≤ KeyedTable.size resources.candidates ∨ ¬ resources.fits bytes then
        (false, resources)
      else
        (true,
          { resources with
            candidateBytes := resources.candidateBytes + bytes
            candidates :=
              resources.candidates.insert captureId { bytes := bytes, state := .retained } })

/-- {lit}`candidate_is_retained`: whether a sink has taken the candidate over. -/
def candidateIsRetained (resources : ProcessResources) (captureId : CaptureId) : Bool :=
  match resources.candidates.lookup captureId with
  | none => false
  | some entry => entry.state == .retained

/-- {lit}`release_candidate`: take a candidate out. -/
def releaseCandidate (resources : ProcessResources) (captureId : CaptureId) : ProcessResources :=
  match resources.candidates.lookup captureId with
  | none => resources
  | some entry =>
      { resources with
        candidates := resources.candidates.erase captureId
        candidateBytes := resources.candidateBytes - entry.bytes }

/-! ## Capture bytes -/

/-- {lit}`reserve_capture_bytes` for a reservation that holds some bytes: the answer and the bytes
it holds afterwards. -/
def reserveCaptureBytes (resources : ProcessResources) (reservedBytes bytes : Nat) :
    (Bool × Nat) × ProcessResources :=
  if u64Max < resources.captureBytes + bytes ∨
      maxProcessCaptureBytes < resources.captureBytes + bytes then
    ((false, reservedBytes), resources)
  else
    ((true, reservedBytes + bytes),
      { resources with captureBytes := resources.captureBytes + bytes })

/-- {lit}`LogicalByteReservation::release`: the bytes that a reservation holds afterwards. -/
def releaseCapture (resources : ProcessResources) (reservedBytes bytes : Nat) :
    Nat × ProcessResources :=
  let released := min bytes reservedBytes
  (reservedBytes - released,
    { resources with captureBytes := resources.captureBytes - released })

/-- Drop of a {lit}`LogicalByteReservation`. -/
def dropReservation (resources : ProcessResources) (reservedBytes : Nat) : ProcessResources :=
  { resources with captureBytes := resources.captureBytes - reservedBytes }

end ProcessResources

/-! ## Balance -/

/-- Bytes of all active operations. -/
def activeTotal (active : KeyedTable OperationId Nat) : Nat :=
  KeyedTable.total (fun _ bytes => bytes) active

/-- Bytes of all candidates. -/
def candidateTotal (candidates : KeyedTable CaptureId CandidateEntry) : Nat :=
  KeyedTable.total (fun _ entry => entry.bytes) candidates

/-- A ledger whose counters are the sums of its entries, within all bounds. -/
structure Balanced (resources : ProcessResources) : Prop where
  active : resources.activeBytes = activeTotal resources.active
  candidate : resources.candidateBytes = candidateTotal resources.candidates
  bounded : resources.activeBytes + resources.candidateBytes ≤ maxGlobalBytes
  operations : KeyedTable.size resources.active ≤ maxActiveOperations
  queued : KeyedTable.size resources.candidates ≤ maxQueuedCandidates
  capture : resources.captureBytes ≤ maxProcessCaptureBytes

section Balance

variable {resources : ProcessResources}

/-- An empty ledger is balanced. -/
theorem balanced_new : Balanced ProcessResources.new := by
  constructor <;> simp [ProcessResources.new, activeTotal, candidateTotal]

/-- Bytes that fit stay within the bound. -/
theorem ProcessResources.bounded_of_fits {bytes : Nat} (fits : resources.fits bytes = true) :
    resources.activeBytes + resources.candidateBytes + bytes ≤ maxGlobalBytes := by
  unfold ProcessResources.fits ProcessResources.bytesWith checkedAdd at fits
  by_cases small : resources.activeBytes + resources.candidateBytes ≤ usizeMax
  · rw [if_pos small, Option.bind_some] at fits
    split at fits
    · cases fits
    · rename_i total summed
      split at summed <;> cases summed
      exact of_decide_eq_true fits
  · rw [if_neg small] at fits
    cases fits

/-- A reserved operation keeps the balance. -/
theorem Balanced.reserveOperation (balanced : Balanced resources) (operationId : OperationId)
    (bytes : Nat) : Balanced (resources.reserveOperation operationId bytes).2 := by
  unfold ProcessResources.reserveOperation
  split
  · exact balanced
  · rename_i granted
    simp only [not_or, Bool.not_eq_true, Option.isSome_eq_false_iff, Option.isNone_iff_eq_none,
      not_le, Bool.not_eq_false] at granted
    obtain ⟨absent, room, fits⟩ := granted
    have within := ProcessResources.bounded_of_fits fits
    refine { balanced with active := ?_, bounded := ?_, operations := ?_ }
    · have inserted := KeyedTable.total_insert_of_lookup_none (fun _ bytes => bytes) absent bytes
      have active := balanced.active
      simp only [activeTotal] at active ⊢
      omega
    · dsimp only
      omega
    · have inserted := KeyedTable.size_insert_of_lookup_none absent bytes
      dsimp only
      omega

/-- The bytes of an operation are part of the active bytes. -/
theorem Balanced.active_le (balanced : Balanced resources) {operationId : OperationId} {bytes : Nat}
    (present : resources.active.lookup operationId = some bytes) : bytes ≤ resources.activeBytes := by
  rw [balanced.active]
  exact KeyedTable.weight_le_total (fun _ bytes => bytes) present

/-- The bytes of a candidate are part of the candidate bytes. -/
theorem Balanced.candidate_le (balanced : Balanced resources) {captureId : CaptureId}
    {entry : CandidateEntry} (present : resources.candidates.lookup captureId = some entry) :
    entry.bytes ≤ resources.candidateBytes := by
  rw [balanced.candidate]
  exact KeyedTable.weight_le_total (fun _ (entry : CandidateEntry) => entry.bytes) present

/-- Growing an operation within the bound does not saturate. -/
theorem Balanced.saturatingAdd_of_fits (balanced : Balanced resources) {operationId : OperationId}
    {bytes addedBytes : Nat} (present : resources.active.lookup operationId = some bytes)
    (fits : resources.fits addedBytes = true) :
    saturatingAdd bytes addedBytes = bytes + addedBytes := by
  have held := balanced.active_le present
  have within := ProcessResources.bounded_of_fits fits
  exact Nat.min_eq_left (by simp only [maxGlobalBytes, u64Max] at *; omega)

/-- A grown operation keeps the balance. -/
theorem Balanced.growOperation (balanced : Balanced resources) (operationId : OperationId)
    (addedBytes : Nat) : Balanced (resources.growOperation operationId addedBytes).2 := by
  unfold ProcessResources.growOperation
  split
  · exact balanced
  · rename_i granted
    have within := ProcessResources.bounded_of_fits (not_not.mp granted)
    split
    · exact balanced
    · rename_i bytes present
      refine { balanced with active := ?_, bounded := ?_, operations := ?_ }
      · rw [balanced.saturatingAdd_of_fits present (not_not.mp granted)]
        have inserted := KeyedTable.total_insert_of_lookup (fun _ bytes => bytes) present
          (bytes + addedBytes)
        have active := balanced.active
        simp only [activeTotal] at active ⊢
        omega
      · dsimp only
        omega
      · have inserted := KeyedTable.size_insert_of_lookup present (saturatingAdd bytes addedBytes)
        have operations := balanced.operations
        dsimp only
        omega

/-- A released operation keeps the balance. -/
theorem Balanced.releaseOperation (balanced : Balanced resources) (operationId : OperationId) :
    Balanced (resources.releaseOperation operationId) := by
  unfold ProcessResources.releaseOperation
  split
  · exact balanced
  · rename_i bytes present
    refine { balanced with active := ?_, bounded := ?_, operations := ?_ }
    · have erased := KeyedTable.total_erase_of_lookup (fun _ bytes => bytes) present
      have active := balanced.active
      simp only [activeTotal] at active ⊢
      omega
    · have bounded := balanced.bounded
      dsimp only
      omega
    · have smaller := KeyedTable.size_erase_le resources.active operationId
      have operations := balanced.operations
      dsimp only
      omega

/-- A new candidate keeps the balance. -/
private theorem Balanced.insertCandidate (balanced : Balanced resources) {captureId : CaptureId}
    (absent : resources.candidates.lookup captureId = none)
    (room : KeyedTable.size resources.candidates < maxQueuedCandidates) (entry : CandidateEntry)
    (fits : resources.fits entry.bytes = true) :
    Balanced
      { resources with
        candidateBytes := resources.candidateBytes + entry.bytes
        candidates := resources.candidates.insert captureId entry } := by
  have within := ProcessResources.bounded_of_fits fits
  refine { balanced with candidate := ?_, bounded := ?_, queued := ?_ }
  · have inserted := KeyedTable.total_insert_of_lookup_none
      (fun _ (entry : CandidateEntry) => entry.bytes) absent entry
    have candidate := balanced.candidate
    simp only [candidateTotal] at candidate ⊢
    omega
  · dsimp only
    omega
  · have inserted := KeyedTable.size_insert_of_lookup_none absent entry
    dsimp only
    omega

/-- A handed-off candidate keeps the balance. -/
theorem Balanced.reserveCandidateHandoff (balanced : Balanced resources) (captureId : CaptureId)
    (bytes : Nat) : Balanced (resources.reserveCandidateHandoff captureId bytes).2 := by
  unfold ProcessResources.reserveCandidateHandoff
  split
  · exact balanced
  · rename_i granted
    simp only [not_or, Bool.not_eq_true, Option.isSome_eq_false_iff, Option.isNone_iff_eq_none,
      not_le, Bool.not_eq_false] at granted
    obtain ⟨absent, room, fits⟩ := granted
    exact balanced.insertCandidate absent room { bytes := bytes, state := .handoff } fits

/-- A claimed candidate keeps the balance. -/
theorem Balanced.claimCandidate (balanced : Balanced resources) (captureId : CaptureId)
    (bytes : Nat) : Balanced (resources.claimCandidate captureId bytes).2 := by
  unfold ProcessResources.claimCandidate
  split
  · rename_i entry present
    split
    · exact balanced
    · refine { balanced with candidate := ?_, queued := ?_ }
      · have inserted := KeyedTable.total_insert_of_lookup
          (fun _ (entry : CandidateEntry) => entry.bytes) present { entry with state := .retained }
        have candidate := balanced.candidate
        simp only [candidateTotal] at candidate inserted ⊢
        omega
      · have inserted := KeyedTable.size_insert_of_lookup present { entry with state := .retained }
        have queued := balanced.queued
        dsimp only
        omega
  · rename_i absent
    split
    · exact balanced
    · rename_i granted
      simp only [not_or, not_le, Bool.not_eq_true, Bool.not_eq_false] at granted
      exact balanced.insertCandidate absent granted.1 { bytes := bytes, state := .retained }
        granted.2

/-- A released candidate keeps the balance. -/
theorem Balanced.releaseCandidate (balanced : Balanced resources) (captureId : CaptureId) :
    Balanced (resources.releaseCandidate captureId) := by
  unfold ProcessResources.releaseCandidate
  split
  · exact balanced
  · rename_i entry present
    refine { balanced with candidate := ?_, bounded := ?_, queued := ?_ }
    · have erased := KeyedTable.total_erase_of_lookup
        (fun _ (entry : CandidateEntry) => entry.bytes) present
      have candidate := balanced.candidate
      simp only [candidateTotal] at candidate ⊢
      omega
    · have bounded := balanced.bounded
      dsimp only
      omega
    · have smaller := KeyedTable.size_erase_le resources.candidates captureId
      have queued := balanced.queued
      dsimp only
      omega

/-- A reservation of capture bytes keeps the balance. -/
theorem Balanced.reserveCaptureBytes (balanced : Balanced resources) (reservedBytes bytes : Nat) :
    Balanced (resources.reserveCaptureBytes reservedBytes bytes).2 := by
  unfold ProcessResources.reserveCaptureBytes
  split
  · exact balanced
  · rename_i granted
    exact { balanced with capture := by dsimp only; omega }

/-- A release of capture bytes keeps the balance. -/
theorem Balanced.releaseCapture (balanced : Balanced resources) (reservedBytes bytes : Nat) :
    Balanced (resources.releaseCapture reservedBytes bytes).2 :=
  { balanced with capture := (Nat.sub_le _ _).trans balanced.capture }

/-- A dropped reservation keeps the balance. -/
theorem Balanced.dropReservation (balanced : Balanced resources) (reservedBytes : Nat) :
    Balanced (resources.dropReservation reservedBytes) :=
  { balanced with capture := (Nat.sub_le _ _).trans balanced.capture }

end Balance
end Sdk
end ReproItSdk
