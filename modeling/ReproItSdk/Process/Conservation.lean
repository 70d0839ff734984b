import ReproItSdk.Library.Runs
import ReproItSdk.Process.Queue

/-! # Conservation of deliveries

Every candidate that was passed to a sink is at one place: in a call, in the channel, at the worker,
or counted in one counter.  The queue state counts exactly the candidates that hold a slot, so the
channel has room for whoever took a slot, and an idle queue state means an empty channel and an idle
worker.

Main results:

- Theorem {lit}`conserved_effect`: every step conserves the deliveries.
- Theorem {lit}`deliveries_conserved`: every run conserves the deliveries, whatever the other parts
  of the process do to the ledger meanwhile.
-/

namespace ReproItSdk
namespace Process

open Sdk

/-! ## Places -/

/-- Whether a call in a phase holds a slot of the queue state. -/
def SendPhase.holdsSlot : SendPhase → Bool
  | .slotted | .returned => true
  | .entered | .claimed | .releasing | .refused => false

/-- Weight of the slot of a call. -/
def slotWeight (weight : Nat → Nat) (call : SendCall) : Nat :=
  if call.phase.holdsSlot then weight call.bytes else 0

namespace Worker

/-- The candidate whose slot the worker holds. -/
def slot : Worker → Option QueuedCandidate
  | .busy _ queued => some queued
  | .idle | .exited => none

/-- The candidate that the worker has not counted yet. -/
def uncounted : Worker → Option QueuedCandidate
  | .busy .received queued | .busy .active queued => some queued
  | .busy .recorded _ | .busy .released _ | .idle | .exited => none

end Worker

/-- The places of a candidate. -/
inductive Place where
  | calling
  | queued
  | delivering
  | counted (verdict : Verdict)
deriving DecidableEq, Repr

namespace ManagedSink

/-- The places of the candidate of a call. -/
def places (sink : ManagedSink) (callId : Nat) : List Place :=
  (sink.calls.lookup callId).toList.map (fun _ => .calling) ++
    (sink.channel.filter fun queued => queued.callId == callId).map (fun _ => .queued) ++
    (sink.worker.uncounted.toList.filter fun queued => queued.callId == callId).map
      (fun _ => .delivering) ++
    (sink.verdicts.lookup callId).toList.map .counted

/-- A weight summed over all candidates that hold a slot. -/
def slotTotal (sink : ManagedSink) (weight : Nat → Nat) : Nat :=
  KeyedTable.total (fun _ => slotWeight weight) sink.calls +
    (sink.channel.map fun queued => weight queued.bytes).sum +
    (sink.worker.slot.toList.map fun queued => weight queued.bytes).sum

/-- Number of candidates that were counted in a counter. -/
def tally (sink : ManagedSink) (verdict : Verdict) : Nat :=
  KeyedTable.total (fun _ found => if found = verdict then 1 else 0) sink.verdicts

end ManagedSink

/-- The counters of a sink that counted each verdict some number of times. -/
def countersOf (tally : Verdict → Nat) : SdkRecallCounters where
  candidateDeliveryExpired := min (tally .deliveryExpired) u64Max
  candidateDurablyAccepted := min (tally .durablyAccepted) u64Max
  candidateIncomplete := min (tally .incomplete) u64Max
  candidateQueueFull := min (tally .queueFull) u64Max
  candidateRejected := min (tally .rejected) u64Max
  eligibleFailureObserved := 0
  suppressedExactStorm := 0
  suppressedHighCardinalityStorm := 0

/-- A sink that conserves its deliveries. -/
structure Conserved (sink : ManagedSink) : Prop where
  placed : ∀ callId, (sink.places callId).length = if callId < sink.nextCall then 1 else 0
  counters : sink.recallCounters = countersOf sink.tally
  slots : sink.state.candidates = sink.slotTotal fun _ => 1
  bytes : sink.state.bytes = sink.slotTotal id
  bounded : sink.state.candidates ≤ maxQueuedCandidates
  active : sink.state.active = true → sink.worker.slot ≠ none
  quiet : sink.closed = true → KeyedTable.size sink.calls = 0
  exited : sink.worker = .exited → sink.closed = true ∧ sink.channel = []

section Step

variable {sink : ManagedSink}

/-- A new sink conserves its deliveries. -/
theorem conserved_new : Conserved ManagedSink.new where
  placed callId := by simp [ManagedSink.new, ManagedSink.places, Worker.uncounted]
  counters := by simp [ManagedSink.new, SdkRecallCounters.zero, countersOf, ManagedSink.tally]
  slots := by simp [ManagedSink.new, ManagedSink.slotTotal, Worker.slot]
  bytes := by simp [ManagedSink.new, ManagedSink.slotTotal, Worker.slot]
  bounded := by simp [ManagedSink.new]
  active := by simp [ManagedSink.new]
  quiet := by simp [ManagedSink.new]
  exited := by simp [ManagedSink.new]

/-- The number of places of a call. -/
theorem ManagedSink.length_places (sink : ManagedSink) (callId : Nat) :
    (sink.places callId).length =
      (sink.calls.lookup callId).toList.length +
        sink.channel.countP (fun queued => queued.callId == callId) +
        sink.worker.uncounted.toList.countP (fun queued => queued.callId == callId) +
        (sink.verdicts.lookup callId).toList.length := by
  simp [places, List.countP_eq_length_filter, Nat.add_assoc]

/-- A call in progress has no verdict. -/
theorem Conserved.uncounted_of_call (conserved : Conserved sink) {callId : Nat} {call : SendCall}
    (found : sink.calls.lookup callId = some call) : sink.verdicts.lookup callId = none := by
  have placed := conserved.placed callId
  rw [sink.length_places, found] at placed
  cases counted : sink.verdicts.lookup callId with
  | none => rfl
  | some verdict =>
      rw [counted] at placed
      simp only [Option.toList_some, List.length_singleton] at placed
      split at placed <;> omega

/-- The candidate of the worker has no verdict before it is counted. -/
theorem Conserved.uncounted_of_worker (conserved : Conserved sink) {queued : QueuedCandidate}
    (busy : sink.worker.uncounted = some queued) : sink.verdicts.lookup queued.callId = none := by
  have placed := conserved.placed queued.callId
  rw [sink.length_places, busy] at placed
  cases counted : sink.verdicts.lookup queued.callId with
  | none => rfl
  | some verdict =>
      rw [counted] at placed
      simp only [Option.toList_some, List.length_singleton, List.countP_singleton,
        beq_self_eq_true, if_true] at placed
      split at placed <;> omega

/-- The next call has no place yet. -/
theorem Conserved.fresh_call (conserved : Conserved sink) :
    sink.calls.lookup sink.nextCall = none := by
  have placed := conserved.placed sink.nextCall
  rw [sink.length_places, if_neg (Nat.lt_irrefl _)] at placed
  cases found : sink.calls.lookup sink.nextCall with
  | none => rfl
  | some call =>
      rw [found] at placed
      simp only [Option.toList_some, List.length_singleton] at placed
      omega

/-- Counting one more verdict raises its counter. -/
theorem countVerdict_countersOf {before after : Verdict → Nat} {verdict : Verdict}
    (raised : ∀ other, after other = before other + if verdict = other then 1 else 0) :
    countVerdict (countersOf before) verdict = countersOf after := by
  cases verdict <;> simp [countVerdict, countersOf, saturatingAdd, raised] <;> omega

/-- Counting a fresh candidate raises one counter. -/
theorem Conserved.counters_count (conserved : Conserved sink) {callId : Nat}
    (fresh : sink.verdicts.lookup callId = none) (verdict : Verdict) :
    (sink.count callId verdict).recallCounters = countersOf (sink.count callId verdict).tally := by
  have counted : (sink.count callId verdict).recallCounters =
      countVerdict (countersOf sink.tally) verdict :=
    congrArg (countVerdict · verdict) conserved.counters
  rw [counted]
  refine countVerdict_countersOf fun other => ?_
  rw [Nat.add_comm]
  exact KeyedTable.total_insert_of_lookup_none _ fresh verdict

/-! ## Calls -/

/-- Moving a call exchanges the weights of its slots. -/
theorem slotTotal_moveCall (weight : Nat → Nat) {callId : Nat} {call : SendCall}
    (found : sink.calls.lookup callId = some call) (phase : SendPhase) :
    (sink.moveCall callId call phase).slotTotal weight + slotWeight weight call =
      sink.slotTotal weight + slotWeight weight { call with phase := phase } := by
  have moved := KeyedTable.total_insert_of_lookup (fun _ => slotWeight weight) found
    { call with phase := phase }
  simp only [ManagedSink.slotTotal, ManagedSink.moveCall]
  omega

/-- Ending a call takes the weight of its slot away. -/
theorem slotTotal_eraseCall (weight : Nat → Nat) {callId : Nat} {call : SendCall}
    (found : sink.calls.lookup callId = some call) :
    { sink with calls := sink.calls.erase callId }.slotTotal weight + slotWeight weight call =
      sink.slotTotal weight := by
  have erased := KeyedTable.total_erase_of_lookup (fun _ => slotWeight weight) found
  simp only [ManagedSink.slotTotal]
  omega

/-- Moving a call keeps all places. -/
theorem length_places_moveCall {callId : Nat} {call : SendCall}
    (found : sink.calls.lookup callId = some call) (phase : SendPhase) (other : Nat) :
    ((sink.moveCall callId call phase).places other).length = (sink.places other).length := by
  rw [ManagedSink.length_places, ManagedSink.length_places]
  by_cases same : other = callId
  · subst same
    simp [ManagedSink.moveCall, found]
  · simp [ManagedSink.moveCall, AList.lookup_insert_ne same]

/-- A sink whose call moves to a phase with the same hold on a slot. -/
theorem Conserved.moveCall (conserved : Conserved sink) {callId : Nat} {call : SendCall}
    (found : sink.calls.lookup callId = some call) {phase : SendPhase}
    (sameSlot : phase.holdsSlot = call.phase.holdsSlot) :
    Conserved (sink.moveCall callId call phase) := by
  have total : ∀ weight, (sink.moveCall callId call phase).slotTotal weight =
      sink.slotTotal weight := by
    intro weight
    have moved := slotTotal_moveCall weight found phase
    simp only [slotWeight, sameSlot] at moved
    omega
  refine { conserved with placed := ?_, slots := ?_, bytes := ?_, quiet := ?_ }
  · intro other
    rw [length_places_moveCall found]
    exact conserved.placed other
  · rw [total]
    exact conserved.slots
  · rw [total]
    exact conserved.bytes
  · intro isClosed
    have size := KeyedTable.size_insert_of_lookup found { call with phase := phase }
    exact size.trans (conserved.quiet isClosed)

/-- A call that ends without a slot is counted. -/
theorem Conserved.refused (conserved : Conserved sink) {callId : Nat} {call : SendCall}
    (found : sink.calls.lookup callId = some call) (noSlot : call.phase.holdsSlot = false)
    (verdict : Verdict) :
    Conserved ({ sink with calls := sink.calls.erase callId }.count callId verdict) := by
  have fresh := conserved.uncounted_of_call found
  have total : ∀ weight, { sink with calls := sink.calls.erase callId }.slotTotal weight =
      sink.slotTotal weight := by
    intro weight
    have erased := slotTotal_eraseCall weight found
    simp only [slotWeight, noSlot, Bool.false_eq_true, if_false] at erased
    exact erased
  refine { conserved with
    placed := ?_, counters := ?_, slots := ?_, bytes := ?_, quiet := ?_ }
  · intro other
    refine Eq.trans ?_ (conserved.placed other)
    rw [ManagedSink.length_places, ManagedSink.length_places]
    by_cases same : other = callId
    · subst same
      simp only [ManagedSink.count, AList.lookup_erase, AList.lookup_insert, found, fresh,
        Option.toList_none, Option.toList_some, List.length_nil, List.length_singleton]
      omega
    · simp only [ManagedSink.count, AList.lookup_erase_ne same, AList.lookup_insert_ne same]
  · exact conserved.counters_count fresh verdict
  · exact conserved.slots.trans (total _).symm
  · exact conserved.bytes.trans (total _).symm
  · intro isClosed
    have smaller := KeyedTable.size_erase_le sink.calls callId
    have none := conserved.quiet isClosed
    exact Nat.le_zero.mp (none ▸ smaller)

/-- A call that holds a slot makes the channel shorter than its bound. -/
theorem Conserved.room_of_slotted (conserved : Conserved sink) {callId : Nat} {call : SendCall}
    (found : sink.calls.lookup callId = some call) (slot : call.phase.holdsSlot = true) :
    sink.channel.length < maxQueuedCandidates := by
  have held := KeyedTable.weight_le_total (fun _ => slotWeight fun _ => 1) found
  have slots := conserved.slots
  have bounded := conserved.bounded
  have channel : (sink.channel.map fun _ => 1).sum = sink.channel.length := by simp
  simp only [slotWeight, slot, if_true] at held
  simp only [ManagedSink.slotTotal, channel] at slots
  omega

/-- A call that holds a slot is part of the queue state. -/
theorem Conserved.slot_le (conserved : Conserved sink) {callId : Nat} {call : SendCall}
    (found : sink.calls.lookup callId = some call) (slot : call.phase.holdsSlot = true) :
    call.bytes ≤ sink.state.bytes ∧ 1 ≤ sink.state.candidates := by
  have bytes := KeyedTable.weight_le_total (fun _ => slotWeight id) found
  have slots := KeyedTable.weight_le_total (fun _ => slotWeight fun _ => 1) found
  simp only [slotWeight, slot, if_true, id_eq] at bytes slots
  rw [conserved.bytes, conserved.slots]
  simp only [ManagedSink.slotTotal, id_eq]
  constructor <;> omega

/-- The candidate of the worker is part of the queue state. -/
theorem Conserved.worker_le (conserved : Conserved sink) {queued : QueuedCandidate}
    (busy : sink.worker.slot = some queued) :
    queued.bytes ≤ sink.state.bytes ∧ 1 ≤ sink.state.candidates := by
  rw [conserved.bytes, conserved.slots]
  simp only [ManagedSink.slotTotal, busy, Option.toList_some, List.map_singleton,
    List.sum_singleton, id_eq]
  constructor <;> omega

/-! ## Steps -/

/-- A slot that is free stays within the bound. -/
theorem ManagedSink.room_of_not_full {bytes : Nat} (room : sink.full bytes = false) :
    sink.state.candidates < maxQueuedCandidates := by
  unfold ManagedSink.full at room
  rw [Bool.or_eq_false_iff, decide_eq_false_iff_not] at room
  omega

/-- A call that takes a slot raises the queue state by itself. -/
theorem Conserved.slotTaken (conserved : Conserved sink) {callId : Nat} {call : SendCall}
    (found : sink.calls.lookup callId = some call) (phase : call.phase = .claimed)
    (room : sink.full call.bytes = false) :
    Conserved ((sink.takeSlot call.bytes).moveCall callId call .slotted) := by
  have total : ∀ weight, ((sink.takeSlot call.bytes).moveCall callId call .slotted).slotTotal
      weight = sink.slotTotal weight + weight call.bytes := by
    intro weight
    have moved := slotTotal_moveCall weight found .slotted
    simp only [slotWeight, phase, SendPhase.holdsSlot, Bool.false_eq_true, if_false, if_true,
      Nat.add_zero] at moved
    exact moved
  refine { conserved with
    placed := ?_, slots := ?_, bytes := ?_, bounded := ?_, quiet := ?_ }
  · intro other
    exact (length_places_moveCall found .slotted other).trans (conserved.placed other)
  · rw [total, ← conserved.slots]
    rfl
  · rw [total, ← conserved.bytes]
    rfl
  · exact ManagedSink.room_of_not_full room
  · intro isClosed
    exact (KeyedTable.size_insert_of_lookup found _).trans (conserved.quiet isClosed)

/-- A call that gives its slot back lowers the queue state by itself. -/
theorem Conserved.gaveSlotBack (conserved : Conserved sink) {callId : Nat} {call : SendCall}
    (found : sink.calls.lookup callId = some call) (phase : call.phase = .returned) :
    Conserved ((sink.giveSlotBack call.bytes).moveCall callId call .releasing) := by
  have total : ∀ weight, ((sink.giveSlotBack call.bytes).moveCall callId call
      .releasing).slotTotal weight + weight call.bytes = sink.slotTotal weight := by
    intro weight
    have moved := slotTotal_moveCall weight found .releasing
    simp only [slotWeight, phase, SendPhase.holdsSlot, Bool.false_eq_true, if_false, if_true,
      Nat.add_zero] at moved
    exact moved
  refine { conserved with
    placed := ?_, slots := ?_, bytes := ?_, bounded := ?_, quiet := ?_ }
  · intro other
    exact (length_places_moveCall found .releasing other).trans (conserved.placed other)
  · have slots := total fun _ => 1
    rw [← conserved.slots] at slots
    exact (Nat.eq_sub_of_add_eq slots).symm
  · have bytes := total id
    rw [← conserved.bytes] at bytes
    exact (Nat.eq_sub_of_add_eq bytes).symm
  · exact (Nat.sub_le _ _).trans conserved.bounded
  · intro isClosed
    exact (KeyedTable.size_insert_of_lookup found _).trans (conserved.quiet isClosed)

/-- A pushed call moves to the channel with its slot. -/
theorem Conserved.pushed (conserved : Conserved sink) {callId : Nat} {call : SendCall}
    (found : sink.calls.lookup callId = some call) (phase : call.phase = .slotted)
    (running : sink.worker ≠ .exited) :
    Conserved
      { sink with
        calls := sink.calls.erase callId
        channel := sink.channel ++
          [{ callId := callId, captureId := call.captureId, bytes := call.bytes }] } := by
  have total : ∀ weight,
      ManagedSink.slotTotal
        { sink with
          calls := sink.calls.erase callId
          channel := sink.channel ++
            [{ callId := callId, captureId := call.captureId, bytes := call.bytes }] } weight =
        sink.slotTotal weight := by
    intro weight
    have held : slotWeight weight call = weight call.bytes := by
      simp [slotWeight, phase, SendPhase.holdsSlot]
    have erased := KeyedTable.total_erase_of_lookup (fun _ => slotWeight weight) found
    simp only [ManagedSink.slotTotal, List.map_append, List.map_singleton, List.sum_append,
      List.sum_singleton]
    omega
  refine { conserved with
    placed := ?_, slots := ?_, bytes := ?_, quiet := ?_, exited := ?_ }
  · intro other
    refine Eq.trans ?_ (conserved.placed other)
    rw [ManagedSink.length_places, ManagedSink.length_places]
    simp only [List.countP_append, List.countP_singleton]
    by_cases same : other = callId
    · subst same
      simp only [AList.lookup_erase, found, Option.toList_none, Option.toList_some,
        List.length_nil, List.length_singleton, beq_self_eq_true, if_true]
      omega
    · simp only [AList.lookup_erase_ne same, beq_eq_false_iff_ne.mpr (Ne.symm same),
        Bool.false_eq_true, if_false, Nat.add_zero]
  · exact conserved.slots.trans (total _).symm
  · exact conserved.bytes.trans (total _).symm
  · intro isClosed
    have smaller := KeyedTable.size_erase_le sink.calls callId
    have none := conserved.quiet isClosed
    exact Nat.le_zero.mp (none ▸ smaller)
  · exact fun exited => absurd exited running

/-- A counted candidate of the worker keeps its slot until it is finished. -/
theorem Conserved.recorded (conserved : Conserved sink) {phase : WorkerPhase}
    {queued : QueuedCandidate} (busy : sink.worker = .busy phase queued)
    (uncounted : phase = .received ∨ phase = .active) (verdict : Verdict) :
    Conserved ({ sink with worker := .busy .recorded queued }.count queued.callId verdict) := by
  have waiting : sink.worker.uncounted = some queued := by
    rw [busy]
    rcases uncounted with rfl | rfl <;> rfl
  have fresh := conserved.uncounted_of_worker waiting
  have slot : sink.worker.slot = some queued := by rw [busy]; rfl
  have total : ∀ weight, ({ sink with worker := .busy .recorded queued }.count queued.callId
      verdict).slotTotal weight = sink.slotTotal weight := by
    intro weight
    simp only [ManagedSink.slotTotal, ManagedSink.count, slot]
    rfl
  refine { conserved with
    placed := ?_, counters := ?_, slots := ?_, bytes := ?_, active := ?_, exited := ?_ }
  · intro other
    refine Eq.trans ?_ (conserved.placed other)
    rw [ManagedSink.length_places, ManagedSink.length_places]
    rw [waiting]
    simp only [ManagedSink.count, Worker.uncounted, Option.toList_some, Option.toList_none,
      List.countP_singleton, List.countP_nil]
    by_cases same : other = queued.callId
    · subst same
      simp only [AList.lookup_insert, fresh, Option.toList_some, Option.toList_none,
        List.length_singleton, List.length_nil, beq_self_eq_true, if_true]
    · simp only [AList.lookup_insert_ne same, beq_eq_false_iff_ne.mpr (Ne.symm same),
        Bool.false_eq_true, if_false]
  · exact conserved.counters_count fresh verdict
  · exact conserved.slots.trans (total _).symm
  · exact conserved.bytes.trans (total _).symm
  · exact fun _ => Option.some_ne_none queued
  · exact fun exited => by cases exited

/-- A finished candidate gives its slot back. -/
theorem Conserved.finished (conserved : Conserved sink) {queued : QueuedCandidate}
    (busy : sink.worker = .busy .released queued) :
    Conserved
      { sink.giveSlotBack queued.bytes with
        state := { (sink.giveSlotBack queued.bytes).state with active := false }
        worker := .idle } := by
  have slot : sink.worker.slot = some queued := by rw [busy]; rfl
  have total : ∀ weight, { sink with worker := .idle }.slotTotal weight + weight queued.bytes =
      sink.slotTotal weight := by
    intro weight
    simp only [ManagedSink.slotTotal, slot]
    rfl
  refine { conserved with
    placed := ?_, slots := ?_, bytes := ?_, bounded := ?_, active := ?_, exited := ?_ }
  · intro other
    refine Eq.trans ?_ (conserved.placed other)
    rw [ManagedSink.length_places, ManagedSink.length_places, busy]
    rfl
  · have slots := total fun _ => 1
    rw [← conserved.slots] at slots
    exact (Nat.eq_sub_of_add_eq slots).symm
  · have bytes := total id
    rw [← conserved.bytes] at bytes
    exact (Nat.eq_sub_of_add_eq bytes).symm
  · exact (Nat.sub_le _ _).trans conserved.bounded
  · exact fun active => by cases active
  · exact fun exited => by cases exited

/-- A new call is at one place. -/
theorem Conserved.entered (conserved : Conserved sink) (isOpen : sink.closed = false)
    (caller : Option Nat) (captureId : CaptureId) (bytes : Nat) :
    Conserved (sink.enter caller captureId bytes) := by
  have fresh := conserved.fresh_call
  have total : ∀ weight,
      (sink.enter caller captureId bytes).slotTotal weight = sink.slotTotal weight := by
    intro weight
    have inserted := KeyedTable.total_insert_of_lookup_none (fun _ => slotWeight weight) fresh
      { caller := caller, captureId := captureId, bytes := bytes, phase := .entered }
    have free : slotWeight weight
        { caller := caller, captureId := captureId, bytes := bytes, phase := .entered } = 0 := rfl
    simp only [ManagedSink.slotTotal, ManagedSink.enter]
    omega
  refine { conserved with placed := ?_, slots := ?_, bytes := ?_, quiet := ?_ }
  · intro other
    have placed := conserved.placed other
    rw [ManagedSink.length_places] at placed ⊢
    change ((sink.calls.insert sink.nextCall _).lookup other).toList.length +
        sink.channel.countP (fun queued => queued.callId == other) +
        sink.worker.uncounted.toList.countP (fun queued => queued.callId == other) +
        (sink.verdicts.lookup other).toList.length =
      if other < sink.nextCall + 1 then 1 else 0
    by_cases same : other = sink.nextCall
    · subst same
      rw [if_neg (Nat.lt_irrefl _), fresh] at placed
      rw [if_pos (Nat.lt_succ_self _)]
      simp only [AList.lookup_insert, Option.toList_some, Option.toList_none,
        List.length_singleton, List.length_nil] at placed ⊢
      omega
    · simp only [AList.lookup_insert_ne same]
      rw [placed]
      split <;> split <;> omega
  · exact conserved.slots.trans (total _).symm
  · exact conserved.bytes.trans (total _).symm
  · intro isClosed
    cases isOpen.symm.trans isClosed

/-- A received candidate leaves the channel with its slot. -/
theorem Conserved.received (conserved : Conserved sink) {queued : QueuedCandidate}
    {channel : List QueuedCandidate} (idle : sink.worker = .idle)
    (first : sink.channel = queued :: channel) :
    Conserved { sink with channel := channel, worker := .busy .received queued } := by
  have total : ∀ weight,
      ManagedSink.slotTotal { sink with channel := channel, worker := .busy .received queued }
        weight = sink.slotTotal weight := by
    intro weight
    simp only [ManagedSink.slotTotal, idle, first, Worker.slot, Option.toList_none,
      Option.toList_some, List.map_cons, List.map_nil, List.sum_cons, List.sum_nil]
    omega
  refine { conserved with
    placed := ?_, slots := ?_, bytes := ?_, active := ?_, exited := ?_ }
  · intro other
    refine Eq.trans ?_ (conserved.placed other)
    rw [ManagedSink.length_places, ManagedSink.length_places]
    simp only [idle, first, Worker.uncounted, Option.toList_none, Option.toList_some,
      List.countP_cons, List.countP_nil]
    omega
  · exact conserved.slots.trans (total _).symm
  · exact conserved.bytes.trans (total _).symm
  · exact fun _ => Option.some_ne_none queued
  · exact fun exited => by cases exited

/-- A worker that moves on keeps its candidate. -/
theorem Conserved.workerMoved (conserved : Conserved sink) {before after : WorkerPhase}
    {queued : QueuedCandidate} (busy : sink.worker = .busy before queued)
    (active : Bool) (worker : Worker) (moved : worker = .busy after queued)
    (sameCount : worker.uncounted = (Worker.busy before queued).uncounted) :
    Conserved
      { sink with
        state := { sink.state with active := active }
        worker := worker } := by
  subst moved
  have slot : sink.worker.slot = some queued := by rw [busy]; rfl
  have total : ∀ weight,
      ManagedSink.slotTotal { sink with worker := .busy after queued } weight =
        sink.slotTotal weight := by
    intro weight
    simp only [ManagedSink.slotTotal, slot]
    rfl
  refine { conserved with
    placed := ?_, slots := ?_, bytes := ?_, active := ?_, exited := ?_ }
  · intro other
    refine Eq.trans ?_ (conserved.placed other)
    rw [ManagedSink.length_places, ManagedSink.length_places, busy, sameCount]
  · exact conserved.slots.trans (total _).symm
  · exact conserved.bytes.trans (total _).symm
  · exact fun _ => Option.some_ne_none queued
  · exact fun exited => by cases exited

/-- Every step conserves the deliveries. -/
theorem conserved_effect {resources : ProcessResources} {action : SinkAction} {taken : SinkStep}
    (effect : SinkEffect sink resources action taken) (conserved : Conserved sink) :
    Conserved taken.sink := by
  cases effect with
  | entered caller captureId bytes isOpen =>
      exact conserved.entered isOpen caller captureId bytes
  | refused callId call verdict found reason =>
      refine conserved.refused found ?_ verdict
      rcases reason with ⟨phase, -⟩ | ⟨phase, -⟩ <;> rw [phase] <;> rfl
  | claimed callId call found phase | unclaimed callId call found phase =>
      exact conserved.moveCall found (by rw [phase]; rfl)
  | slotTaken callId call found phase room => exact conserved.slotTaken found phase room
  | slotRefused callId call found phase =>
      exact conserved.moveCall found (by rw [phase]; rfl)
  | pushed callId call found phase running => exact conserved.pushed found phase running
  | pushFailed callId call found phase =>
      exact conserved.moveCall found (by rw [phase]; rfl)
  | gaveSlotBack callId call found phase => exact conserved.gaveSlotBack found phase
  | callReleased callId call found phase =>
      exact conserved.moveCall found (by rw [phase]; rfl)
  | received queued channel idle first => exact conserved.received idle first
  | activated queued busy => exact conserved.workerMoved busy true _ rfl rfl
  | recorded phase queued verdict busy uncounted => exact conserved.recorded busy uncounted verdict
  | released queued busy => exact conserved.workerMoved busy sink.state.active _ rfl rfl
  | finished queued busy => exact conserved.finished busy
  | closed isOpen quiet =>
      exact { conserved with
        quiet := fun _ => quiet
        exited := fun exited => ⟨rfl, (conserved.exited exited).2⟩ }
  | exited isClosed empty idle =>
      refine { conserved with
        placed := ?_, slots := ?_, bytes := ?_, active := ?_, exited := ?_ }
      · intro other
        refine Eq.trans ?_ (conserved.placed other)
        rw [ManagedSink.length_places, ManagedSink.length_places, idle]
        rfl
      · rw [conserved.slots]
        simp only [ManagedSink.slotTotal, idle]
        rfl
      · rw [conserved.bytes]
        simp only [ManagedSink.slotTotal, idle]
        rfl
      · intro active
        exact absurd (by rw [idle]; rfl) (conserved.active active)
      · exact fun _ => ⟨isClosed, empty⟩

end Step

/-! ## Runs -/

/-- A step that some thread of the process takes at a sink.  The ledger at that moment is whatever
the rest of the process made of it; a step that its thread cannot take changes nothing. -/
def ManagedSink.interleave (sink : ManagedSink) (turn : ProcessResources × SinkAction) :
    Option SinkStep × ManagedSink :=
  match sink.step turn.1 turn.2 with
  | some taken => (some taken, taken.sink)
  | none => (none, sink)

/-- A sink in any order of the steps of its callers, its worker and its shutdown. -/
def ManagedSink.after (turns : List (ProcessResources × SinkAction)) : ManagedSink :=
  Runs.final ManagedSink.interleave ManagedSink.new turns

/-- Every run conserves the deliveries. -/
theorem conserved_after (turns : List (ProcessResources × SinkAction)) :
    Conserved (ManagedSink.after turns) := by
  have preserves : ∀ (sink : ManagedSink) (turn : ProcessResources × SinkAction),
      Conserved sink → Conserved (sink.interleave turn).2 := by
    intro sink turn conserved
    unfold ManagedSink.interleave
    split
    · rename_i taken stepped
      exact conserved_effect (ManagedSink.step_effect stepped) conserved
    · exact conserved
  exact Runs.final_preserves Conserved
    (fun sink turn conserved (_ : True) => preserves sink turn conserved) turns conserved_new
    fun _ _ => trivial

/-- What a sink accounts for at each moment. -/
structure Accounted (sink : ManagedSink) : Prop where
  /-- A candidate that was passed to the sink is at one place. -/
  placed : ∀ callId < sink.nextCall, ∃ place, sink.places callId = [place]
  /-- The counters are the numbers of candidates that were counted in each of them. -/
  counted : sink.recallCounters = countersOf sink.tally
  /-- The queue state counts the candidates that hold a slot. -/
  slots : sink.state.candidates = sink.slotTotal fun _ => 1
  /-- The channel takes a candidate that the queue state admitted. -/
  admitted : ∀ callId call, sink.calls.lookup callId = some call → call.phase = .slotted →
    sink.channel.length < maxQueuedCandidates ∧
      ∀ resources, (sink.step resources (.push callId)).bind SinkStep.answer =
        some (call.answer callId true)
  /-- No candidate is in the channel or at the worker of an idle sink. -/
  idle : sink.isIdle = true → sink.channel = [] ∧ sink.worker.slot = none

/-- A sink that conserves its deliveries pushes every candidate that holds a slot. -/
theorem Conserved.push_accepted {sink : ManagedSink} (conserved : Conserved sink) {callId : Nat}
    {call : SendCall} (found : sink.calls.lookup callId = some call)
    (phase : call.phase = .slotted) (resources : ProcessResources) :
    (sink.step resources (.push callId)).bind SinkStep.answer =
      some (call.answer callId true) := by
  have room := conserved.room_of_slotted found (by rw [phase]; rfl)
  have running : sink.worker ≠ .exited := by
    intro exited
    have empty := conserved.quiet (conserved.exited exited).1
    rw [(KeyedTable.size_eq_zero_iff _).mp empty callId] at found
    cases found
  have present : sink.callIn callId .slotted = some call := by
    rw [ManagedSink.callIn, found, Option.filter_some, if_pos (beq_iff_eq.mpr phase)]
  have ready : ¬(maxQueuedCandidates ≤ sink.channel.length ∨ sink.worker = .exited) := by
    rintro (full | exited)
    · omega
    · exact running exited
  simp only [ManagedSink.step, ManagedSink.callerStep, present, Option.map_some, if_neg ready,
    Option.some_or, Option.bind_some]

/-- An idle queue state has no candidate with a slot. -/
theorem Conserved.empty_of_idle {sink : ManagedSink} (conserved : Conserved sink)
    (idle : sink.isIdle = true) : sink.channel = [] ∧ sink.worker.slot = none := by
  simp only [ManagedSink.isIdle, Bool.not_eq_true', Bool.or_eq_false_iff, bne_eq_false_iff_eq]
    at idle
  have slots := conserved.slots
  rw [idle.2, ManagedSink.slotTotal] at slots
  have channel : (sink.channel.map fun _ => 1).sum = 0 := by omega
  have worker : (sink.worker.slot.toList.map fun _ => 1).sum = 0 := by omega
  constructor
  · simpa using channel
  · simpa using worker

/-- In every interleaving of callers, worker and shutdown, a sink accounts for its candidates. -/
theorem deliveries_conserved (turns : List (ProcessResources × SinkAction)) :
    Accounted (ManagedSink.after turns) := by
  have conserved := conserved_after turns
  refine
    { placed := ?_
      counted := conserved.counters
      slots := conserved.slots
      admitted := ?_
      idle := conserved.empty_of_idle }
  · intro callId passed
    have placed := conserved.placed callId
    rw [if_pos passed] at placed
    exact List.length_eq_one_iff.mp placed
  · intro callId call found phase
    exact ⟨conserved.room_of_slotted found (by rw [phase]; rfl),
      conserved.push_accepted found phase⟩

end Process
end ReproItSdk
