import ReproItSdk.Process.Custody
import ReproItSdk.Process.Effects

/-! # The ledger of the process

The ledger lists what is live and nothing else: every entry of an operation is an operation of one
SDK with the same bytes, every candidate that is handed over has an SDK that will give it up, and
every retained candidate has a sink or a recorder that will release it.

Main results:

- Theorem {lit}`OperationsBooked.effect`: a step of an SDK books what it changes.
- Theorem {lit}`ledgered_step`: every step of the process keeps the ledger.
- Theorem {lit}`ledger_sound`: in every run the counters are the sums of what is live, nothing
  clips, and nothing is left when all SDKs, sinks and recorders are gone.
-/

namespace ReproItSdk
namespace Process

open Sdk

variable {Digest : Type}

/-! ## Operations -/

/-- The bytes that an SDK counts for an operation. -/
def Instance.bytesOf (sdk : Instance Digest) (operationId : OperationId) : Option Nat :=
  (sdk.state.operations.lookup operationId).map ActiveOperation.bytes

/-- Bytes of all operations of an SDK. -/
def operationsTotal (operations : KeyedTable OperationId (ActiveOperation Digest)) : Nat :=
  KeyedTable.total (fun _ operation => operation.bytes) operations

/-- The entries of the ledger are the operations of the SDKs. -/
structure OperationsBooked (active : KeyedTable OperationId Nat)
    (sdks : KeyedTable Nat (Instance Digest)) : Prop where
  booked : KeyedTable.All
    (fun _ sdk => ∀ operationId bytes, sdk.bytesOf operationId = some bytes →
      active.lookup operationId = some bytes) sdks
  entered : ∀ operationId bytes, active.lookup operationId = some bytes →
    KeyedTable.Any (fun sdk => sdk.bytesOf operationId = some bytes) sdks
  sole : ∀ operationId, KeyedTable.All
    (fun sdkId sdk => sdk.bytesOf operationId ≠ none → KeyedTable.All
      (fun otherId other => other.bytesOf operationId ≠ none → otherId = sdkId) sdks) sdks
  total : KeyedTable.All
    (fun _ sdk => sdk.state.globalBytes = operationsTotal sdk.state.operations) sdks

section Operations

variable {active reached : KeyedTable OperationId Nat} {sdks : KeyedTable Nat (Instance Digest)}
  {sdkId : Nat} {sdk next : Instance Digest} {operationId : OperationId}

/-- Changing some operations of an SDK together with their entries keeps the books. -/
theorem OperationsBooked.set (booked : OperationsBooked active sdks)
    (found : sdks.lookup sdkId = some sdk) (changed : OperationId → Prop)
    (vacant : ∀ held, changed held → sdk.bytesOf held = none → active.lookup held = none)
    (entries : ∀ held, changed held → reached.lookup held = next.bytesOf held)
    (bytes : ∀ held, ¬ changed held → next.bytesOf held = sdk.bytesOf held)
    (rest : ∀ held, ¬ changed held → reached.lookup held = active.lookup held)
    (total : next.state.globalBytes = operationsTotal next.state.operations) :
    OperationsBooked reached (sdks.insert sdkId next) := by
  -- No other SDK has a changed operation.
  have others : ∀ held, changed held → ∀ otherId other, sdks.lookup otherId = some other →
      otherId ≠ sdkId → other.bytesOf held = none := by
    intro held change otherId other present different
    by_contra has
    obtain ⟨count, holds⟩ := Option.ne_none_iff_exists'.mp has
    have listed := booked.booked otherId other present held count holds
    have mine : sdk.bytesOf held ≠ none := by
      intro none
      rw [vacant held change none] at listed
      cases listed
    exact different (booked.sole held sdkId sdk found mine otherId other present has)
  refine { booked := ?_, entered := ?_, sole := ?_, total := booked.total.insert total }
  · intro otherId other present held count holds
    by_cases mine : otherId = sdkId
    · subst mine
      rw [AList.lookup_insert, Option.some.injEq] at present
      subst present
      by_cases change : changed held
      · rw [entries held change]
        exact holds
      · rw [bytes held change] at holds
        rw [rest held change]
        exact booked.booked otherId sdk found held count holds
    · rw [AList.lookup_insert_ne mine] at present
      have kept : ¬ changed held := by
        intro change
        rw [others held change otherId other present mine] at holds
        cases holds
      rw [rest held kept]
      exact booked.booked otherId other present held count holds
  · intro held count listed
    by_cases change : changed held
    · rw [entries held change] at listed
      exact KeyedTable.any_insert_self listed
    · rw [rest held change] at listed
      refine (booked.entered held count listed).insert found fun holds => ?_
      rw [bytes held change]
      exact holds
  · intro held oneId one present has otherId other presentOther hasOther
    by_cases change : changed held
    · have mine : ∀ id found', (sdks.insert sdkId next).lookup id = some found' →
          found'.bytesOf held ≠ none → id = sdkId := by
        intro id found' lookup holds
        by_contra different
        rw [AList.lookup_insert_ne different] at lookup
        exact holds (others held change id found' lookup different)
      exact (mine otherId other presentOther hasOther).trans (mine oneId one present has).symm
    · have before : ∀ id found', (sdks.insert sdkId next).lookup id = some found' →
          found'.bytesOf held ≠ none →
          ∃ previous, sdks.lookup id = some previous ∧ previous.bytesOf held ≠ none := by
        intro id found' lookup holds
        by_cases mine : id = sdkId
        · subst mine
          rw [AList.lookup_insert, Option.some.injEq] at lookup
          subst lookup
          rw [bytes held change] at holds
          exact ⟨sdk, found, holds⟩
        · rw [AList.lookup_insert_ne mine] at lookup
          exact ⟨found', lookup, holds⟩
      obtain ⟨previous, lookup, holds⟩ := before oneId one present has
      obtain ⟨previousOther, lookupOther, holdsOther⟩ := before otherId other presentOther hasOther
      exact booked.sole held oneId previous lookup holds otherId previousOther lookupOther
        holdsOther

/-- An SDK that counts the same bytes keeps the books. -/
theorem OperationsBooked.replace (booked : OperationsBooked active sdks)
    (found : sdks.lookup sdkId = some sdk)
    (bytes : ∀ held, next.bytesOf held = sdk.bytesOf held)
    (total : next.state.globalBytes = operationsTotal next.state.operations) :
    OperationsBooked active (sdks.insert sdkId next) :=
  booked.set found (fun _ => False) (fun _ change => change.elim) (fun _ change => change.elim)
    (fun held _ => bytes held) (fun _ _ => rfl) total

/-- An SDK without operations can be added to the books. -/
theorem OperationsBooked.insertNew (booked : OperationsBooked active sdks)
    (absent : sdks.lookup sdkId = none) (sink : SinkRef) :
    OperationsBooked active (sdks.insert sdkId (Instance.new sink)) := by
  have empty : ∀ held, (Instance.new sink : Instance Digest).bytesOf held = none := fun _ => rfl
  have old : ∀ held id found, (sdks.insert sdkId (Instance.new sink)).lookup id = some found →
      found.bytesOf held ≠ none → sdks.lookup id = some found := by
    intro held id found lookup holds
    by_cases mine : id = sdkId
    · subst mine
      rw [AList.lookup_insert, Option.some.injEq] at lookup
      subst lookup
      exact absurd (empty held) holds
    · rwa [AList.lookup_insert_ne mine] at lookup
  refine { booked := booked.booked.insert ?_, entered := ?_, sole := ?_, total := ?_ }
  · intro held count holds
    rw [empty] at holds
    cases holds
  · intro held count listed
    exact (booked.entered held count listed).insert_of_lookup_none absent _
  · intro held oneId one present has otherId other presentOther hasOther
    exact booked.sole held oneId one (old held oneId one present has) has otherId other
      (old held otherId other presentOther hasOther) hasOther
  · exact booked.total.insert rfl

/-- An SDK without operations can be taken out of the books. -/
theorem OperationsBooked.erase (booked : OperationsBooked active sdks)
    (found : sdks.lookup sdkId = some sdk) (empty : KeyedTable.size sdk.state.operations = 0) :
    OperationsBooked active (sdks.erase sdkId) where
  booked := booked.booked.erase sdkId
  entered held count listed := by
    refine (booked.entered held count listed).erase found fun holds => ?_
    rw [Instance.bytesOf, (KeyedTable.size_eq_zero_iff _).mp empty held] at holds
    cases holds
  sole held := by
    intro oneId one present has otherId other presentOther hasOther
    have old : ∀ {id : Nat} {found : Instance Digest}, (sdks.erase sdkId).lookup id = some found →
        sdks.lookup id = some found := by
      intro id found lookup
      by_cases mine : id = sdkId
      · rw [mine, AList.lookup_erase] at lookup
        cases lookup
      · rwa [AList.lookup_erase_ne mine] at lookup
    exact booked.sole held oneId one (old present) has otherId other (old presentOther) hasOther
  total := booked.total.erase sdkId

/-- The bytes of an SDK whose operation was inserted. -/
theorem bytesOf_insert {operation : ActiveOperation Digest}
    (operations : next.state.operations = sdk.state.operations.insert operationId operation)
    (held : OperationId) :
    next.bytesOf held =
      if held = operationId then some operation.bytes else sdk.bytesOf held := by
  rw [Instance.bytesOf, operations]
  by_cases same : held = operationId
  · subst same
    rw [AList.lookup_insert, if_pos rfl, Option.map_some]
  · rw [AList.lookup_insert_ne same, if_neg same, Instance.bytesOf]

/-- The bytes of an SDK whose operation was erased. -/
theorem bytesOf_erase
    (operations : next.state.operations = sdk.state.operations.erase operationId)
    (held : OperationId) :
    next.bytesOf held = if held = operationId then none else sdk.bytesOf held := by
  rw [Instance.bytesOf, operations]
  by_cases same : held = operationId
  · subst same
    rw [AList.lookup_erase, if_pos rfl, Option.map_none]
  · rw [AList.lookup_erase_ne same, if_neg same, Instance.bytesOf]

end Operations

/-! ## Entries of operations -/

section Entries

variable {resources : ProcessResources} {operationId : OperationId} {bytes : Nat}

/-- A granted reservation enters a new operation and leaves the candidates alone. -/
theorem reserveOperation_granted
    (granted : (resources.reserveOperation operationId bytes).1 = true) :
    resources.active.lookup operationId = none ∧
      (resources.reserveOperation operationId bytes).2.active =
        resources.active.insert operationId bytes := by
  unfold ProcessResources.reserveOperation at granted ⊢
  split at granted
  · cases granted
  · rename_i room
    rw [if_neg room]
    simp only [not_or, Bool.not_eq_true, Option.isSome_eq_false_iff,
      Option.isNone_iff_eq_none] at room
    exact ⟨room.1, rfl⟩

/-- A granted growth adds to the entry of an operation. -/
theorem growOperation_granted (balanced : Balanced resources)
    (granted : (resources.growOperation operationId bytes).1 = true) :
    ∃ before, resources.active.lookup operationId = some before ∧
      (resources.growOperation operationId bytes).2.active =
        resources.active.insert operationId (before + bytes) := by
  unfold ProcessResources.growOperation at granted ⊢
  split at granted
  · cases granted
  · rename_i room
    rw [if_neg room]
    split at granted
    · cases granted
    · rename_i before present
      refine ⟨before, present, ?_⟩
      simp only [balanced.saturatingAdd_of_fits present (not_not.mp room)]

/-- A release takes the entry of an operation out. -/
theorem releaseOperation_active (resources : ProcessResources) (operationId : OperationId) :
    (resources.releaseOperation operationId).active = resources.active.erase operationId := by
  unfold ProcessResources.releaseOperation
  split
  · rename_i absent
    exact (KeyedTable.erase_of_lookup_none absent).symm
  · rfl

end Entries

section Effects

variable {state reached : State Digest} {resources after : ProcessResources}

/-- What a step does to operations leaves the candidates and the capture bytes alone. -/
theorem OperationsEffect.rest (effect : OperationsEffect state resources reached after) :
    after.candidates = resources.candidates ∧ after.captureBytes = resources.captureBytes := by
  cases effect with
  | kept | changed => exact ⟨rfl, rfl⟩
  | began operationId operation =>
      unfold ProcessResources.reserveOperation
      split <;> exact ⟨rfl, rfl⟩
  | grew operationId operation grown addedBytes =>
      unfold ProcessResources.growOperation
      split
      · exact ⟨rfl, rfl⟩
      · split <;> exact ⟨rfl, rfl⟩
  | deleted operationId operation =>
      unfold ProcessResources.releaseOperation
      split <;> exact ⟨rfl, rfl⟩

/-- What a step does to operations keeps the balance. -/
theorem OperationsEffect.balanced (effect : OperationsEffect state resources reached after)
    (balanced : Balanced resources) : Balanced after := by
  cases effect with
  | kept | changed => exact balanced
  | began operationId operation => exact balanced.reserveOperation operationId operation.bytes
  | grew operationId operation grown addedBytes =>
      exact balanced.growOperation operationId addedBytes
  | deleted operationId operation => exact balanced.releaseOperation operationId

/-- What a step does to operations keeps their total. -/
theorem OperationsEffect.total (effect : OperationsEffect state resources reached after)
    (total : state.globalBytes = operationsTotal state.operations) :
    reached.globalBytes = operationsTotal reached.operations := by
  cases effect with
  | kept _ operations bytes => rw [operations, bytes, total]
  | changed operationId operation other found sameBytes _ operations bytes =>
      have exchanged := KeyedTable.total_insert_of_lookup
        (fun _ (operation : ActiveOperation Digest) => operation.bytes) found other
      rw [operations, bytes, total]
      simp only [operationsTotal]
      omega
  | began operationId operation absent granted _ operations bytes =>
      have inserted := KeyedTable.total_insert_of_lookup_none
        (fun _ (operation : ActiveOperation Digest) => operation.bytes) absent operation
      rw [operations, bytes, total]
      simp only [operationsTotal]
      omega
  | grew operationId operation grown addedBytes found moreBytes granted _ operations bytes =>
      have exchanged := KeyedTable.total_insert_of_lookup
        (fun _ (operation : ActiveOperation Digest) => operation.bytes) found grown
      rw [operations, bytes, total]
      simp only [operationsTotal]
      omega
  | deleted operationId operation found _ operations bytes =>
      have erased := KeyedTable.total_erase_of_lookup
        (fun _ (operation : ActiveOperation Digest) => operation.bytes) found
      rw [operations, bytes, total]
      simp only [operationsTotal]
      omega

/-- A step of an SDK books what it changes. -/
theorem OperationsBooked.effect {sdks : KeyedTable Nat (Instance Digest)} {sdkId : Nat}
    {sdk next : Instance Digest} (booked : OperationsBooked resources.active sdks)
    (balanced : Balanced resources) (found : sdks.lookup sdkId = some sdk)
    (effect : OperationsEffect sdk.state resources next.state after) :
    OperationsBooked after.active (sdks.insert sdkId next) := by
  have total := effect.total (booked.total sdkId sdk found)
  cases effect with
  | kept _ operations bytes =>
      refine booked.replace found (fun held => ?_) total
      rw [Instance.bytesOf, operations, Instance.bytesOf]
  | changed operationId operation other present sameBytes _ operations bytes =>
      refine booked.replace found (fun held => ?_) total
      rw [bytesOf_insert operations]
      split
      · rename_i same
        rw [same, Instance.bytesOf, present, Option.map_some, sameBytes]
      · rfl
  | began operationId operation absent granted _ operations bytes =>
      obtain ⟨fresh, entries⟩ := reserveOperation_granted granted
      refine booked.set found (· = operationId) ?_ ?_ ?_ ?_ total
      · rintro held rfl -
        exact fresh
      · rintro held rfl
        rw [entries, AList.lookup_insert, bytesOf_insert operations, if_pos rfl]
      · intro held different
        rw [bytesOf_insert operations, if_neg different]
      · intro held different
        rw [entries, AList.lookup_insert_ne different]
  | grew operationId operation grown addedBytes present moreBytes granted _ operations bytes =>
      obtain ⟨before, listed, entries⟩ := growOperation_granted balanced granted
      have counted : sdk.bytesOf operationId = some operation.bytes := by
        rw [Instance.bytesOf, present, Option.map_some]
      have same : before = operation.bytes := by
        have entry := booked.booked sdkId sdk found operationId operation.bytes counted
        exact Option.some.inj (listed.symm.trans entry)
      refine booked.set found (· = operationId) ?_ ?_ ?_ ?_ total
      · rintro held rfl none
        rw [counted] at none
        cases none
      · rintro held rfl
        rw [entries, AList.lookup_insert, bytesOf_insert operations, if_pos rfl, same, moreBytes]
      · intro held different
        rw [bytesOf_insert operations, if_neg different]
      · intro held different
        rw [entries, AList.lookup_insert_ne different]
  | deleted operationId operation present _ operations bytes =>
      have entries := releaseOperation_active resources operationId
      refine booked.set found (· = operationId) ?_ ?_ ?_ ?_ total
      · rintro held rfl none
        rw [Instance.bytesOf, present] at none
        cases none
      · rintro held rfl
        rw [entries, AList.lookup_erase, bytesOf_erase operations, if_pos rfl]
      · intro held different
        rw [bytesOf_erase operations, if_neg different]
      · intro held different
        rw [entries, AList.lookup_erase_ne different]

end Effects

/-! ## Candidates -/

/-- Every candidate of the ledger has someone who releases it. -/
structure CandidatesHeld (resources : ProcessResources) (sdks : KeyedTable Nat (Instance Digest))
    (sinks : KeyedTable Nat ManagedSink) (recorders : KeyedTable Nat LocalRecorder) : Prop where
  handoff : ∀ captureId, candidateState resources captureId = some .handoff →
    KeyedTable.Any (fun sdk => sdk.pending.handing = some captureId) sdks
  retained : ∀ captureId, candidateState resources captureId = some .retained →
    KeyedTable.Any (fun sink => sink.Holds captureId) sinks ∨
      KeyedTable.Any (fun recorder => recorder.Holds captureId) recorders
  sinks : KeyedTable.All (fun _ sink => Conserved sink) sinks
  recorders : KeyedTable.All (fun _ recorder => recorder.Numbered) recorders

section Candidates

variable {resources after : ProcessResources} {sdks : KeyedTable Nat (Instance Digest)}
  {sinks : KeyedTable Nat ManagedSink} {recorders : KeyedTable Nat LocalRecorder} {sdkId : Nat}
  {sdk next : Instance Digest}

/-- The entries of candidates are what the table of candidates lists. -/
theorem candidateState_congr (candidates : after.candidates = resources.candidates)
    (captureId : CaptureId) : candidateState after captureId = candidateState resources captureId :=
  congrArg (fun table => (table.lookup captureId).map CandidateEntry.state) candidates

/-- A step of an SDK that keeps every handed-over candidate keeps the candidates held. -/
theorem CandidatesHeld.setSdk (held : CandidatesHeld resources sdks sinks recorders)
    (found : sdks.lookup sdkId = some sdk)
    (handoff : ∀ captureId, candidateState after captureId = some .handoff →
      next.pending.handing = some captureId ∨
        (candidateState resources captureId = some .handoff ∧
          sdk.pending.handing ≠ some captureId))
    (retained : ∀ captureId, candidateState after captureId = some .retained →
      candidateState resources captureId = some .retained) :
    CandidatesHeld after (sdks.insert sdkId next) sinks recorders where
  handoff captureId listed := by
    rcases handoff captureId listed with mine | ⟨before, other⟩
    · exact KeyedTable.any_insert_self mine
    · exact (held.handoff captureId before).insert found fun handing => absurd handing other
  retained captureId listed := held.retained captureId (retained captureId listed)
  sinks := held.sinks
  recorders := held.recorders

/-- An SDK that goes on handing over what it did keeps the candidates held. -/
theorem CandidatesHeld.replace (held : CandidatesHeld resources sdks sinks recorders)
    (found : sdks.lookup sdkId = some sdk) (candidates : after.candidates = resources.candidates)
    (handing : next.pending.handing = sdk.pending.handing) :
    CandidatesHeld after (sdks.insert sdkId next) sinks recorders := by
  have same := candidateState_congr candidates
  refine held.setSdk found ?_ fun captureId listed => same captureId ▸ listed
  intro captureId listed
  rw [handing]
  by_cases mine : sdk.pending.handing = some captureId
  · exact .inl mine
  · exact .inr ⟨same captureId ▸ listed, mine⟩

/-- A step of a sink that keeps custody keeps the candidates held. -/
theorem CandidatesHeld.setSink (held : CandidatesHeld resources sdks sinks recorders) {sinkId : Nat}
    {sink moved : ManagedSink} (found : sinks.lookup sinkId = some sink)
    (custody : Custody resources after sink.Holds moved.Holds) (conserved : Conserved moved) :
    CandidatesHeld after sdks (sinks.insert sinkId moved) recorders where
  handoff captureId listed := held.handoff captureId (custody.handoff captureId listed)
  retained captureId listed := by
    rcases custody.retained captureId listed with mine | ⟨before, other⟩
    · exact .inl (KeyedTable.any_insert_self mine)
    · exact (held.retained captureId before).imp_left fun some =>
        some.insert found fun holds => absurd holds other
  sinks := held.sinks.insert conserved
  recorders := held.recorders

/-- A step of a recorder that keeps custody keeps the candidates held. -/
theorem CandidatesHeld.setRecorder (held : CandidatesHeld resources sdks sinks recorders)
    {recorderId : Nat} {recorder moved : LocalRecorder}
    (found : recorders.lookup recorderId = some recorder)
    (custody : Custody resources after recorder.Holds (heldBy (some moved)))
    (numbered : moved.Numbered) :
    CandidatesHeld after sdks sinks (recorders.insert recorderId moved) where
  handoff captureId listed := held.handoff captureId (custody.handoff captureId listed)
  retained captureId listed := by
    rcases custody.retained captureId listed with ⟨_, ⟨⟩, mine⟩ | ⟨before, other⟩
    · exact .inr (KeyedTable.any_insert_self mine)
    · exact (held.retained captureId before).imp_right fun some =>
        some.insert found fun holds => absurd holds other
  sinks := held.sinks
  recorders := held.recorders.insert numbered

/-- A recorder that goes and keeps custody keeps the candidates held. -/
theorem CandidatesHeld.eraseRecorder (held : CandidatesHeld resources sdks sinks recorders)
    {recorderId : Nat} {recorder : LocalRecorder}
    (found : recorders.lookup recorderId = some recorder)
    (custody : Custody resources after recorder.Holds (heldBy none)) :
    CandidatesHeld after sdks sinks (recorders.erase recorderId) where
  handoff captureId listed := held.handoff captureId (custody.handoff captureId listed)
  retained captureId listed := by
    rcases custody.retained captureId listed with ⟨_, none, -⟩ | ⟨before, other⟩
    · cases none
    · exact (held.retained captureId before).imp_right fun some => some.erase found other
  sinks := held.sinks
  recorders := held.recorders.erase recorderId

end Candidates

/-! ## The ledger -/

/-- A process whose ledger lists what is live and nothing else. -/
structure Ledgered (process : Process Digest) : Prop where
  balanced : Balanced process.resources
  capture : process.resources.captureBytes =
    KeyedTable.total (fun _ bytes => bytes) process.reservations
  operations : OperationsBooked process.resources.active process.sdks
  candidates : CandidatesHeld process.resources process.sdks process.sinks process.recorders

section Steps

variable {process next : Process Digest} {encoding : Encoding}

/-- A new process has an empty ledger. -/
theorem ledgered_new : Ledgered (new : Process Digest) where
  balanced := balanced_new
  capture := rfl
  operations :=
    { booked := KeyedTable.all_empty
      entered := fun _ _ listed => by simp [new, ProcessResources.new] at listed
      sole := fun _ => KeyedTable.all_empty
      total := KeyedTable.all_empty }
  candidates :=
    { handoff := fun _ listed => by simp [candidateState, new, ProcessResources.new] at listed
      retained := fun _ listed => by simp [candidateState, new, ProcessResources.new] at listed
      sinks := KeyedTable.all_empty
      recorders := KeyedTable.all_empty }

/-- A step of an SDK keeps the ledger. -/
theorem Ledgered.sdk (ledgered : Ledgered process) {sdkId : Nat} {sdk : Instance Digest}
    {taken : SdkStep Digest} (found : process.sdks.lookup sdkId = some sdk)
    (effect : SdkEffect sdk process.resources taken) (answers : List FailAnswer) :
    Ledgered
      { process.setSdk sdkId taken.sdk with
        resources := taken.resources
        answers := answers } := by
  have total := ledgered.operations.total sdkId sdk found
  cases effect with
  | operated pending state reached answer effect before after unsent =>
      exact
        { balanced := effect.balanced ledgered.balanced
          capture := effect.rest.2.trans ledgered.capture
          operations := ledgered.operations.effect ledgered.balanced found effect
          candidates := ledgered.candidates.replace found effect.rest.1 (after.trans before.symm) }
  | handedOff captureId operationId bytes pending granted =>
      obtain ⟨active, capture⟩ :=
        reserveCandidateHandoff_rest process.resources captureId bytes
      have listed := candidateState_reserveCandidateHandoff granted
      refine
        { balanced := ledgered.balanced.reserveCandidateHandoff captureId bytes
          capture := capture.trans ledgered.capture
          operations := ?_
          candidates := ledgered.candidates.setSdk found (fun other entry => ?_)
            fun other entry => ?_ }
      · exact active.symm ▸ ledgered.operations.replace found (fun _ => rfl) total
      · dsimp only [Instance.next] at entry
        rw [listed] at entry
        split at entry
        · rename_i same
          exact .inl (congrArg some same.symm)
        · refine .inr ⟨entry, ?_⟩
          rw [pending]
          exact Option.some_ne_none other |>.symm
      · dsimp only [Instance.next] at entry
        rw [listed] at entry
        split at entry
        · cases entry
        · exact entry
  | answeredPlain captureId operationId bytes retains accepted pending sink =>
      exact
        { ledgered with
          operations := ledgered.operations.replace found (fun _ => rfl) total
          candidates := ledgered.candidates.replace found rfl (by rw [pending]; rfl) }
  | lookedRetained captureId callId accepted pending retained =>
      -- A retained candidate needs the SDK no longer.
      have kept : candidateState process.resources captureId = some .retained := by
        simp only [lookAfterSend, Bool.and_eq_true] at retained
        exact candidateIsRetained_iff.mp retained.2
      refine
        { ledgered with
          operations := ledgered.operations.replace found (fun _ => rfl) total
          candidates := ledgered.candidates.setSdk found (fun other entry => .inr ⟨entry, ?_⟩)
            fun other entry => entry }
      rw [pending]
      rintro same
      cases same
      cases kept.symm.trans entry
  | lookedUnretained captureId callId accepted pending =>
      exact
        { ledgered with
          operations := ledgered.operations.replace found (fun _ => rfl) total
          candidates := ledgered.candidates.replace found rfl (by rw [pending]; rfl) }
  | released captureId answer pending =>
      obtain ⟨active, capture⟩ := releaseCandidate_rest process.resources captureId
      refine
        { balanced := ledgered.balanced.releaseCandidate captureId
          capture := capture.trans ledgered.capture
          operations := ?_
          candidates := ledgered.candidates.setSdk found (fun other entry => ?_)
            fun other entry => ?_ }
      · exact active.symm ▸ ledgered.operations.replace found (fun _ => rfl) total
      · dsimp only [Instance.next] at entry
        rw [candidateState_releaseCandidate] at entry
        split at entry
        · cases entry
        · rename_i different
          refine .inr ⟨entry, ?_⟩
          rw [pending]
          rintro same
          cases same
          exact different rfl
      · dsimp only [Instance.next] at entry
        rw [candidateState_releaseCandidate] at entry
        split at entry
        · cases entry
        · exact entry
  | dropped pending empty =>
      exact
        { ledgered with
          operations := ledgered.operations.erase found empty
          candidates :=
            { ledgered.candidates with
              handoff := fun captureId listed =>
                (ledgered.candidates.handoff captureId listed).erase found
                  (by rw [pending]; exact (Option.some_ne_none captureId).symm) } }

/-- An SDK that has an answer goes on handing its candidate over. -/
theorem Ledgered.deliverAny (ledgered : Ledgered process) (sink : SinkRef)
    (answer : Option SendAnswer) : Ledgered (process.deliverAny sink answer) := by
  rcases deliverAny_cases process sink answer with same | ⟨sdkId, sdk, captureId, given, -, -, found,
    -, pending, set⟩
  · rw [same]
    exact ledgered
  · rw [set]
    exact
      { ledgered with
        operations := ledgered.operations.replace found (fun _ => rfl)
          (ledgered.operations.total sdkId sdk found)
        candidates := ledgered.candidates.replace found rfl (by rw [pending]; rfl) }

/-- A step of a managed sink keeps the ledger. -/
theorem Ledgered.sink (ledgered : Ledgered process) {sinkId : Nat} {sink : ManagedSink}
    {action : SinkAction} {taken : SinkStep} (found : process.sinks.lookup sinkId = some sink)
    (effect : SinkEffect sink process.resources action taken) :
    Ledgered
      { process with
        sinks := process.sinks.insert sinkId taken.sink
        resources := taken.resources } := by
  have conserved := ledgered.candidates.sinks sinkId sink found
  have custody := sink_custody effect conserved
  exact
    { balanced := custody.balanced ledgered.balanced
      capture := custody.captureBytes.trans ledgered.capture
      operations := custody.active.symm ▸ ledgered.operations
      candidates := ledgered.candidates.setSink found custody (conserved_effect effect conserved) }

/-- A step of a recorder keeps the ledger. -/
theorem Ledgered.recorder (ledgered : Ledgered process) {recorderId : Nat}
    {recorder : LocalRecorder} {taken : RecorderStep}
    (found : process.recorders.lookup recorderId = some recorder)
    (effect : RecorderEffect recorder process.resources taken) :
    Ledgered
      { process.setRecorder recorderId taken.recorder with resources := taken.resources } := by
  have numbered := ledgered.candidates.recorders recorderId recorder found
  have custody := recorder_custody effect numbered
  have next := numbered_effect effect numbered
  have operations : OperationsBooked taken.resources.active process.sdks :=
    custody.active.symm ▸ ledgered.operations
  cases moved : taken.recorder with
  | none =>
      rw [moved] at custody
      exact
        { balanced := custody.balanced ledgered.balanced
          capture := custody.captureBytes.trans ledgered.capture
          operations := operations
          candidates := ledgered.candidates.eraseRecorder found custody }
  | some kept =>
      rw [moved] at custody next
      exact
        { balanced := custody.balanced ledgered.balanced
          capture := custody.captureBytes.trans ledgered.capture
          operations := operations
          candidates := ledgered.candidates.setRecorder found custody (next kept rfl) }

/-- An SDK that enters its sink goes on handing its candidate over. -/
theorem Ledgered.send (ledgered : Ledgered process) {sdkId : Nat}
    (stepped : process.sendStep sdkId = some next) : Ledgered next := by
  obtain ⟨sdk, captureId, operationId, bytes, found, pending, sent⟩ := sendStep_cases stepped
  have operations : ∀ callId, OperationsBooked process.resources.active
      (process.sdks.insert sdkId { sdk with pending := .waiting captureId callId }) :=
    fun callId => ledgered.operations.replace found (fun _ => rfl)
      (ledgered.operations.total sdkId sdk found)
  rcases sent with ⟨sinkId, sink, -, present, isOpen, rfl⟩ | ⟨recorderId, recorder, -, present, rfl⟩
  · have entered := ledgered.sink present (.entered (some sdkId) captureId bytes isOpen rfl)
    exact
      { entered with
        operations := operations sink.nextCall
        candidates := entered.candidates.replace found rfl (by rw [pending]; rfl) }
  · have entered := ledgered.recorder present
      (.entered (some sdkId) captureId operationId bytes)
    exact
      { entered with
        operations := operations recorder.nextCall
        candidates := entered.candidates.replace found rfl (by rw [pending]; rfl) }

/-- A reservation holds what the ledger adds. -/
theorem reserveCaptureBytes_moves (resources : ProcessResources) (reservedBytes bytes : Nat) :
    (resources.reserveCaptureBytes reservedBytes bytes).2.captureBytes + reservedBytes =
        resources.captureBytes + (resources.reserveCaptureBytes reservedBytes bytes).1.2 ∧
      (resources.reserveCaptureBytes reservedBytes bytes).2.active = resources.active ∧
      (resources.reserveCaptureBytes reservedBytes bytes).2.candidates = resources.candidates := by
  unfold ProcessResources.reserveCaptureBytes
  split
  · exact ⟨rfl, rfl, rfl⟩
  · refine ⟨?_, rfl, rfl⟩
    dsimp only
    omega

/-- A step of the reservations keeps the ledger. -/
theorem Ledgered.reservation (ledgered : Ledgered process) {resources : ProcessResources}
    {reservations : KeyedTable Nat Nat} (balanced : Balanced resources)
    (capture : resources.captureBytes = KeyedTable.total (fun _ bytes => bytes) reservations)
    (active : resources.active = process.resources.active)
    (candidates : resources.candidates = process.resources.candidates) :
    Ledgered { process with resources := resources, reservations := reservations } where
  balanced := balanced
  capture := capture
  operations := active.symm ▸ ledgered.operations
  candidates :=
    { ledgered.candidates with
      handoff := fun captureId listed =>
        ledgered.candidates.handoff captureId (candidateState_congr candidates captureId ▸ listed)
      retained := fun captureId listed => ledgered.candidates.retained captureId
        (candidateState_congr candidates captureId ▸ listed) }

/-- Every step of the process keeps the ledger. -/
theorem ledgered_step {action : Action Digest} (ledgered : Ledgered process)
    (stepped : process.step encoding action = some next) : Ledgered next := by
  cases action with
  | newSdk sdkId sink =>
      simp only [step] at stepped
      split at stepped
      · rename_i fresh
        cases stepped
        have absent := Option.isNone_iff_eq_none.mp fresh.1
        exact
          { ledgered with
            operations := ledgered.operations.insertNew absent sink
            candidates :=
              { ledgered.candidates with
                handoff := fun captureId listed =>
                  (ledgered.candidates.handoff captureId listed).insert_of_lookup_none absent _ } }
      · cases stepped
  | sdk sdkId action =>
      obtain ⟨sdk, found, made⟩ := Option.bind_eq_some_iff.mp stepped
      obtain ⟨taken, acted, rfl⟩ := Option.map_eq_some_iff.mp made
      exact ledgered.sdk found (Instance.step_effect acted) _
  | send sdkId => exact ledgered.send stepped
  | newSink sinkId =>
      simp only [step] at stepped
      split at stepped
      · rename_i fresh
        cases stepped
        have absent := Option.isNone_iff_eq_none.mp fresh
        exact
          { ledgered with
            candidates :=
              { ledgered.candidates with
                retained := fun captureId listed =>
                  (ledgered.candidates.retained captureId listed).imp_left fun some =>
                    some.insert_of_lookup_none absent _
                sinks := ledgered.candidates.sinks.insert conserved_new } }
      · cases stepped
  | sink sinkId action =>
      simp only [step] at stepped
      split at stepped
      · obtain ⟨sink, found, made⟩ := Option.bind_eq_some_iff.mp stepped
        obtain ⟨taken, acted, rfl⟩ := Option.map_eq_some_iff.mp made
        exact (ledgered.sink found (ManagedSink.step_effect acted)).deliverAny _ _
      · cases stepped
  | newRecorder recorderId operationId =>
      simp only [step] at stepped
      split at stepped
      · rename_i fresh
        cases stepped
        have absent := Option.isNone_iff_eq_none.mp fresh
        exact
          { ledgered with
            candidates :=
              { ledgered.candidates with
                retained := fun captureId listed =>
                  (ledgered.candidates.retained captureId listed).imp_right fun some =>
                    some.insert_of_lookup_none absent _
                recorders := ledgered.candidates.recorders.insert (numbered_new operationId) } }
      · cases stepped
  | recorder recorderId action =>
      simp only [step] at stepped
      split at stepped
      · obtain ⟨recorder, found, made⟩ := Option.bind_eq_some_iff.mp stepped
        obtain ⟨taken, acted, rfl⟩ := Option.map_eq_some_iff.mp made
        exact (ledgered.recorder found (LocalRecorder.step_effect acted)).deliverAny _ _
      · cases stepped
  | newReservation reservationId =>
      simp only [step] at stepped
      split at stepped
      · rename_i fresh
        cases stepped
        have inserted := KeyedTable.total_insert_of_lookup_none (fun _ (bytes : Nat) => bytes)
          (Option.isNone_iff_eq_none.mp fresh) 0
        refine ledgered.reservation ledgered.balanced ?_ rfl rfl
        rw [ledgered.capture]
        omega
      · cases stepped
  | reserve reservationId bytes =>
      obtain ⟨reservedBytes, found, rfl⟩ := Option.map_eq_some_iff.mp stepped
      have balanced := ledgered.balanced.reserveCaptureBytes reservedBytes bytes
      obtain ⟨moved, active, candidates⟩ :=
        reserveCaptureBytes_moves process.resources reservedBytes bytes
      have exchanged := KeyedTable.total_insert_of_lookup (fun _ (bytes : Nat) => bytes) found
        (process.resources.reserveCaptureBytes reservedBytes bytes).1.2
      have capture := ledgered.capture
      refine ledgered.reservation balanced ?_ active candidates
      omega
  | releaseBytes reservationId bytes =>
      obtain ⟨reservedBytes, found, rfl⟩ := Option.map_eq_some_iff.mp stepped
      have exchanged := KeyedTable.total_insert_of_lookup (fun _ (bytes : Nat) => bytes) found
        (reservedBytes - min bytes reservedBytes)
      have balanced := ledgered.balanced.releaseCapture reservedBytes bytes
      have capture := ledgered.capture
      refine ledgered.reservation balanced ?_ rfl rfl
      simp only [ProcessResources.releaseCapture]
      omega
  | dropReservation reservationId =>
      obtain ⟨reservedBytes, found, rfl⟩ := Option.map_eq_some_iff.mp stepped
      have erased := KeyedTable.total_erase_of_lookup (fun _ (bytes : Nat) => bytes) found
      have balanced := ledgered.balanced.dropReservation reservedBytes
      have capture := ledgered.capture
      refine ledgered.reservation balanced ?_ rfl rfl
      simp only [ProcessResources.dropReservation]
      omega

/-- Every run keeps the ledger. -/
theorem ledgered_after (encoding : Encoding) (actions : List (Action Digest)) :
    Ledgered (after encoding actions) := by
  have preserves : ∀ (process : Process Digest) (action : Action Digest), Ledgered process →
      Ledgered (process.interleave encoding action).2 := by
    intro process action ledgered
    unfold interleave
    split
    · rename_i next stepped
      exact ledgered_step ledgered stepped
    · exact ledgered
  exact Runs.final_preserves Ledgered
    (fun process action ledgered (_ : True) => preserves process action ledgered) actions ledgered_new
    fun _ _ => trivial

end Steps

/-! ## Soundness -/

/-- No subtraction that a step of the process can make next clips at zero. -/
structure Unclipped (process : Process Digest) : Prop where
  operation : KeyedTable.All (fun _ bytes => bytes ≤ process.resources.activeBytes)
    process.resources.active
  candidate : KeyedTable.All
    (fun _ (entry : CandidateEntry) => entry.bytes ≤ process.resources.candidateBytes)
    process.resources.candidates
  reservation : KeyedTable.All (fun _ bytes => bytes ≤ process.resources.captureBytes)
    process.reservations
  sdk : KeyedTable.All (fun _ sdk => KeyedTable.All
    (fun _ operation => operation.bytes ≤ sdk.state.globalBytes) sdk.state.operations) process.sdks
  call : KeyedTable.All (fun _ (sink : ManagedSink) => KeyedTable.All
    (fun _ (call : SendCall) => call.phase = .returned →
      call.bytes ≤ sink.state.bytes ∧ 1 ≤ sink.state.candidates) sink.calls) process.sinks
  worker : KeyedTable.All (fun _ (sink : ManagedSink) => ∀ queued,
    sink.worker = .busy .released queued →
      queued.bytes ≤ sink.state.bytes ∧ 1 ≤ sink.state.candidates) process.sinks

/-- All SDKs and recorders are dropped and the workers of all sinks have exited. -/
structure Gone (process : Process Digest) : Prop where
  sdks : KeyedTable.size process.sdks = 0
  recorders : KeyedTable.size process.recorders = 0
  sinks : ∀ entry ∈ process.sinks.entries, entry.2.worker = .exited

/-- A ledger whose counters are the sums of what is live. -/
structure LedgerSound (process : Process Digest) : Prop where
  /-- The counters are the sums of the entries and stay within all bounds. -/
  balanced : Balanced process.resources
  /-- The capture bytes are those of the live reservations. -/
  capture : process.resources.captureBytes =
    KeyedTable.total (fun _ bytes => bytes) process.reservations
  /-- The entries of operations are the operations of the SDKs, and the bytes of an SDK are the
  sum of its operations. -/
  operations : OperationsBooked process.resources.active process.sdks
  unclipped : Unclipped process
  /-- Nothing is left when all SDKs, sinks and recorders are gone. -/
  gone : Gone process → process.resources.activeBytes = 0 ∧ process.resources.candidateBytes = 0 ∧
    KeyedTable.size process.resources.active = 0 ∧ KeyedTable.size process.resources.candidates = 0

section Soundness

variable {process : Process Digest}

/-- No subtraction clips. -/
theorem Ledgered.unclipped (ledgered : Ledgered process) : Unclipped process where
  operation operationId bytes listed := ledgered.balanced.active_le listed
  candidate captureId entry listed := ledgered.balanced.candidate_le listed
  reservation reservationId bytes found := by
    rw [ledgered.capture]
    exact KeyedTable.weight_le_total (fun _ bytes => bytes) found
  sdk sdkId sdk found operationId operation present := by
    rw [ledgered.operations.total sdkId sdk found]
    exact KeyedTable.weight_le_total
      (fun _ (operation : ActiveOperation Digest) => operation.bytes) present
  call sinkId sink found callId call present phase :=
    (ledgered.candidates.sinks sinkId sink found).slot_le present (by rw [phase]; rfl)
  worker sinkId sink found queued busy :=
    (ledgered.candidates.sinks sinkId sink found).worker_le (by rw [busy]; rfl)

/-- A sink whose worker has exited holds nothing. -/
theorem Conserved.not_holds_of_exited {sink : ManagedSink} (conserved : Conserved sink)
    (exited : sink.worker = .exited) (captureId : CaptureId) : ¬ sink.Holds captureId := by
  obtain ⟨isClosed, empty⟩ := conserved.exited exited
  intro holds
  cases holds with
  | call some =>
      obtain ⟨callId, call, found, -⟩ := some
      rw [(KeyedTable.size_eq_zero_iff _).mp (conserved.quiet isClosed) callId] at found
      cases found
  | queued some =>
      rw [empty] at some
      cases some
  | worker some =>
      rw [exited] at some
      cases some

/-- Nothing is left when all SDKs, sinks and recorders are gone. -/
theorem Ledgered.gone (ledgered : Ledgered process) (gone : Gone process) :
    process.resources.activeBytes = 0 ∧ process.resources.candidateBytes = 0 ∧
      KeyedTable.size process.resources.active = 0 ∧
      KeyedTable.size process.resources.candidates = 0 := by
  have noSdk := (KeyedTable.size_eq_zero_iff _).mp gone.sdks
  have noRecorder := (KeyedTable.size_eq_zero_iff _).mp gone.recorders
  have active : KeyedTable.size process.resources.active = 0 := by
    refine (KeyedTable.size_eq_zero_iff _).mpr fun operationId => ?_
    by_contra listed
    obtain ⟨bytes, entry⟩ := Option.ne_none_iff_exists'.mp listed
    obtain ⟨sdkId, sdk, found, -⟩ := ledgered.operations.entered operationId bytes entry
    rw [noSdk] at found
    cases found
  have candidates : KeyedTable.size process.resources.candidates = 0 := by
    refine (KeyedTable.size_eq_zero_iff _).mpr fun captureId => ?_
    by_contra listed
    obtain ⟨entry, present⟩ := Option.ne_none_iff_exists'.mp listed
    have listed : candidateState process.resources captureId = some entry.state := by
      rw [candidateState, present, Option.map_some]
    cases progress : entry.state with
    | handoff =>
        obtain ⟨sdkId, sdk, found, -⟩ :=
          ledgered.candidates.handoff captureId (listed.trans (congrArg some progress))
        rw [noSdk] at found
        cases found
    | retained =>
        rcases ledgered.candidates.retained captureId (listed.trans (congrArg some progress)) with
          ⟨sinkId, sink, found, holds⟩ | ⟨recorderId, recorder, found, -⟩
        · have exited := gone.sinks ⟨sinkId, sink⟩ (AList.mem_lookup_iff.mp found)
          exact (ledgered.candidates.sinks sinkId sink found).not_holds_of_exited exited captureId
            holds
        · rw [noRecorder] at found
          cases found
  have empty : ∀ {κ ν : Type} [DecidableEq κ] (weight : κ → ν → Nat) (table : KeyedTable κ ν),
      KeyedTable.size table = 0 → KeyedTable.total weight table = 0 := by
    intro κ ν _ weight table none
    rw [KeyedTable.total, List.length_eq_zero_iff.mp none]
    rfl
  refine ⟨?_, ?_, active, candidates⟩
  · rw [ledgered.balanced.active]
    exact empty _ _ active
  · rw [ledgered.balanced.candidate]
    exact empty _ _ candidates

/-- In every interleaving the counters of the ledger are the sums of what is live, nothing clips,
and no operation or candidate is left when all SDKs, sinks and recorders are gone. -/
theorem ledger_sound (encoding : Encoding) (actions : List (Action Digest)) :
    LedgerSound (after encoding actions) :=
  have ledgered := ledgered_after encoding actions
  { balanced := ledgered.balanced
    capture := ledgered.capture
    operations := ledgered.operations
    unclipped := ledgered.unclipped
    gone := ledgered.gone }

/-- A reservation is live when every SDK, sink and recorder is gone, and its bytes are counted. -/
theorem capture_bytes_outlive_the_sdks :
    let actions : List (Action Unit) :=
      [.newSink 0, .newSdk 0 (.managed 0), .newReservation 0, .reserve 0 4096, .sdk 0 .startDrop,
        .sdk 0 .finishDrop, .sink 0 .close, .sink 0 .exit]
    Gone (after plainEncoding actions) ∧ (after plainEncoding actions).resources.captureBytes ≠ 0 :=
  ⟨⟨by decide, by decide, by decide⟩, by decide⟩

end Soundness
end Process
end ReproItSdk
