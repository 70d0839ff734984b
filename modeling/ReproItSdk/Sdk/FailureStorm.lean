import Mathlib.Data.List.MinMax
import Mathlib.Data.Prod.Lex
import ReproItSdk.Library.Runs
import ReproItSdk.Sdk.State

/-! # The failure storm gate

The gate decides which failures of a process become candidates.  It suppresses the exact failure
that it has admitted within a minute, and it pays for every admission with a token, of which it gets
two each second.  It remembers a bounded number of failures and forgets the one it observed least
recently.

Main definitions:

- Function {lit}`FailureStormGate.admitStorm`: the decision about a failure.
- Structure {lit}`Paid`: the admissions that the gate remembers have been paid for.

Main results:

- Theorem {lit}`Paid.recent_size`: the gate never remembers as many failures as it may, so it
  forgets none early.
- Theorem {lit}`storm_gate_sound`: equal failures are admitted a minute apart, a window of time
  bounds the admissions in it, and a failure that was not admitted lately is admitted for a token.
-/

namespace ReproItSdk
namespace Sdk

/-! ## The gate -/

/-- {lit}`MAX_FAILURE_STORM_IDENTITIES`. -/
def maxFailureStormIdentities : Nat :=
  256

/-- {lit}`FAILURE_SUPPRESSION_MS`. -/
def failureSuppressionMs : Nat :=
  60000

/-- {lit}`FAILURE_TOKENS_MILLI_CAPACITY`. -/
def failureTokensMilliCapacity : Nat :=
  4000

/-- {lit}`FailureStormEntry`. -/
structure FailureStormEntry where
  admittedAtMs : Nat
  observedAtMs : Nat
  suppressed : Nat
deriving DecidableEq, Repr

/-- {lit}`FailureStormGate`; the time at which it started is the zero of its clock. -/
structure FailureStormGate (Digest : Type) where
  admitted : KeyedTable Digest FailureStormEntry
  lastRefillMs : Nat
  tokensMilli : Nat

/-- A failure, with the milliseconds that have elapsed since the gate started. -/
structure StormRequest (Digest : Type) where
  elapsedMs : Nat
  identity : Digest
deriving DecidableEq, Repr

/-- The clock of the gate: the elapsed milliseconds as a {lit}`u64`. -/
def StormRequest.nowMs {Digest : Type} (request : StormRequest Digest) : Nat :=
  min request.elapsedMs u64Max

namespace FailureStormGate

variable {Digest : Type}

/-- {lit}`FailureStormGate::new`. -/
def new : FailureStormGate Digest where
  admitted := ∅
  lastRefillMs := 0
  tokensMilli := failureTokensMilliCapacity

/-- {lit}`refill`: two thousandths of a token for each millisecond. -/
def refill (gate : FailureStormGate Digest) (nowMs : Nat) : FailureStormGate Digest :=
  { gate with
    tokensMilli :=
      min (saturatingAdd gate.tokensMilli (min ((nowMs - gate.lastRefillMs) * 2) u64Max))
        failureTokensMilliCapacity
    lastRefillMs := nowMs }

variable [LinearOrder Digest]

/-- Forgets the failures that were admitted long ago. -/
def expire (gate : FailureStormGate Digest) (nowMs : Nat) : FailureStormGate Digest :=
  { gate with
    admitted := KeyedTable.retain
      (fun _ entry => decide (nowMs - entry.admittedAtMs < failureSuppressionMs)) gate.admitted }

/-- The failure that was observed least recently, of equally recent ones the least. -/
def oldest (gate : FailureStormGate Digest) : Option Digest :=
  (gate.admitted.entries.argmin fun entry => toLex (entry.2.observedAtMs, entry.1)).map Sigma.fst

/-- Forgets the oldest failure of a full gate. -/
def evict (gate : FailureStormGate Digest) : FailureStormGate Digest :=
  if maxFailureStormIdentities ≤ KeyedTable.size gate.admitted then
    match gate.oldest with
    | none => gate
    | some digest => { gate with admitted := gate.admitted.erase digest }
  else gate

/-- Pays for a failure and remembers it. -/
def remember (gate : FailureStormGate Digest) (nowMs : Nat) (identity : Digest) :
    FailureStormGate Digest :=
  { gate with
    tokensMilli := gate.tokensMilli - 1000
    admitted := gate.admitted.insert identity
      { admittedAtMs := nowMs, observedAtMs := nowMs, suppressed := 0 } }

/-- The decision of {lit}`admit` once the gate is refilled and has forgotten what expired. -/
def decideStorm (gate : FailureStormGate Digest) (nowMs : Nat) (identity : Digest) :
    StormDecision × FailureStormGate Digest :=
  match gate.admitted.lookup identity with
  | some entry =>
      (.suppressedExact,
        { gate with
          admitted := gate.admitted.insert identity
            { entry with observedAtMs := nowMs, suppressed := saturatingAdd entry.suppressed 1 } })
  | none =>
      if gate.tokensMilli < 1000 then (.suppressedHighCardinality, gate)
      else (.admitted, gate.evict.remember nowMs identity)

/-- {lit}`admit`. -/
def admitStorm (gate : FailureStormGate Digest) (request : StormRequest Digest) :
    StormDecision × FailureStormGate Digest :=
  ((gate.refill request.nowMs).expire request.nowMs).decideStorm request.nowMs request.identity

end FailureStormGate

variable {Digest : Type} [LinearOrder Digest]

/-- A failure with the decision about it. -/
abbrev Decided (Digest : Type) : Type :=
  Runs.Answered (FailureStormGate Digest) (StormRequest Digest) StormDecision

/-- Failures with their decisions, from a new gate on. -/
def stormDecisions (history : List (StormRequest Digest)) : List (Decided Digest) :=
  Runs.answered FailureStormGate.admitStorm .new history

/-! ## What has been paid -/

/-- Number of remembered failures that were admitted since some time. -/
def admittedSince (since : Nat) (admitted : KeyedTable Digest FailureStormEntry) : Nat :=
  KeyedTable.total (fun _ entry => if since ≤ entry.admittedAtMs then 1 else 0) admitted

/-- A gate whose remembered admissions since any time were paid for with the tokens since then. -/
structure Paid (gate : FailureStormGate Digest) : Prop where
  spent : ∀ since, 1000 * admittedSince since gate.admitted + gate.tokensMilli ≤
    failureTokensMilliCapacity + 2 * (gate.lastRefillMs - since)
  past : KeyedTable.All (fun _ entry => entry.admittedAtMs ≤ gate.lastRefillMs) gate.admitted

/-- Entries that another table has with the same times of admission are no more. -/
theorem admittedSince_le {since : Nat} {admitted admitted' : KeyedTable Digest FailureStormEntry}
    (has : ∀ digest entry, admitted.lookup digest = some entry →
      ∃ entry', admitted'.lookup digest = some entry' ∧
        entry'.admittedAtMs = entry.admittedAtMs) :
    admittedSince since admitted ≤ admittedSince since admitted' := by
  apply KeyedTable.total_le_of_lookup
  intro digest entry present
  rcases has digest entry present with ⟨entry', present', same⟩
  exact ⟨entry', present', by rw [same]⟩

/-- Entries that were all admitted before some time are not counted since then. -/
theorem admittedSince_eq_zero {since : Nat} {admitted : KeyedTable Digest FailureStormEntry}
    (before : KeyedTable.All (fun _ entry => entry.admittedAtMs < since) admitted) :
    admittedSince since admitted = 0 := by
  have same : admittedSince since admitted = KeyedTable.total (fun _ _ => 0) admitted := by
    apply KeyedTable.total_eq_of_lookup
    intro digest
    cases present : admitted.lookup digest with
    | none => rfl
    | some entry =>
        have early := before digest entry present
        simp only [Option.map_some]
        rw [if_neg (by omega)]
  rw [same]
  simp [KeyedTable.total]

/-- Entries that were all admitted since some time are all counted since then. -/
theorem admittedSince_eq_size {since : Nat} {admitted : KeyedTable Digest FailureStormEntry}
    (recent : KeyedTable.All (fun _ entry => since ≤ entry.admittedAtMs) admitted) :
    admittedSince since admitted = KeyedTable.size admitted := by
  rw [KeyedTable.size_eq_total]
  apply KeyedTable.total_eq_of_lookup
  intro digest
  cases present : admitted.lookup digest with
  | none => rfl
  | some entry => simp [recent digest entry present]

section Paid

variable {gate : FailureStormGate Digest}

/-- A new gate has admitted nothing. -/
theorem paid_new : Paid (FailureStormGate.new : FailureStormGate Digest) := by
  constructor
  · intro since
    simp [admittedSince, FailureStormGate.new]
  · exact KeyedTable.all_empty

/-- A gate that remembers no more than another one, with no more tokens, has paid if that has. -/
theorem Paid.of_entries (paid : Paid gate) {gate' : FailureStormGate Digest}
    (tokens : gate'.tokensMilli ≤ gate.tokensMilli)
    (refilled : gate'.lastRefillMs = gate.lastRefillMs)
    (has : ∀ digest entry, gate'.admitted.lookup digest = some entry →
      ∃ entry', gate.admitted.lookup digest = some entry' ∧
        entry'.admittedAtMs = entry.admittedAtMs) : Paid gate' := by
  constructor
  · intro since
    have fewer : admittedSince since gate'.admitted ≤ admittedSince since gate.admitted :=
      admittedSince_le has
    have spent := paid.spent since
    rw [refilled]
    omega
  · intro digest entry present
    rcases has digest entry present with ⟨entry', present', same⟩
    rw [refilled, ← same]
    exact paid.past digest entry' present'

omit [LinearOrder Digest] in
/-- A refill adds two thousandths of a token for each millisecond, up to what the gate holds. -/
theorem refill_tokens_le (gate : FailureStormGate Digest) (nowMs : Nat) :
    (gate.refill nowMs).tokensMilli ≤ gate.tokensMilli + 2 * (nowMs - gate.lastRefillMs) ∧
      (gate.refill nowMs).tokensMilli ≤ failureTokensMilliCapacity := by
  unfold FailureStormGate.refill saturatingAdd
  dsimp only
  omega

/-- A refilled gate has paid. -/
theorem Paid.refill (paid : Paid gate) {nowMs : Nat} (later : gate.lastRefillMs ≤ nowMs) :
    Paid (gate.refill nowMs) := by
  have tokens := refill_tokens_le gate nowMs
  constructor
  · intro since
    change 1000 * admittedSince since gate.admitted + _ ≤ _ + 2 * (nowMs - since)
    by_cases early : since ≤ gate.lastRefillMs
    · have spent := paid.spent since
      omega
    · have empty : admittedSince since gate.admitted = 0 := by
        apply admittedSince_eq_zero
        intro digest entry present
        have before := paid.past digest entry present
        omega
      omega
  · exact paid.past.mono fun _ _ before => before.trans later

/-- A gate that forgets what expired has paid. -/
theorem Paid.expire (paid : Paid gate) (nowMs : Nat) : Paid (gate.expire nowMs) := by
  apply paid.of_entries
  · rfl
  · rfl
  · intro digest entry present
    exact ⟨entry, (KeyedTable.lookup_retain_eq_some.mp present).1, rfl⟩

/-- An entry is left over if it was admitted less than a minute ago. -/
theorem lookup_expire {nowMs : Nat} {digest : Digest} {entry : FailureStormEntry} :
    (gate.expire nowMs).admitted.lookup digest = some entry ↔
      gate.admitted.lookup digest = some entry ∧
        nowMs - entry.admittedAtMs < failureSuppressionMs := by
  unfold FailureStormGate.expire
  rw [KeyedTable.lookup_retain_eq_some, decide_eq_true_iff]

/-- After it has forgotten what expired, a gate never remembers as many failures as it may: the
tokens of a minute do not pay for them. -/
theorem Paid.recent_size (paid : Paid gate) {nowMs : Nat} (later : gate.lastRefillMs ≤ nowMs) :
    KeyedTable.size ((gate.refill nowMs).expire nowMs).admitted < maxFailureStormIdentities := by
  have settled := (paid.refill later).expire nowMs
  have counted : admittedSince (nowMs - 59999) ((gate.refill nowMs).expire nowMs).admitted =
      KeyedTable.size ((gate.refill nowMs).expire nowMs).admitted := by
    apply admittedSince_eq_size
    intro digest entry present
    have recent := (lookup_expire.mp present).2
    unfold failureSuppressionMs at recent
    omega
  have spent := settled.spent (nowMs - 59999)
  have refilled : ((gate.refill nowMs).expire nowMs).lastRefillMs = nowMs := rfl
  rw [counted, refilled] at spent
  unfold maxFailureStormIdentities
  unfold failureTokensMilliCapacity at spent
  omega

/-- A gate that is not full forgets no failure early. -/
theorem evict_eq (room : KeyedTable.size gate.admitted < maxFailureStormIdentities) :
    gate.evict = gate := by
  unfold FailureStormGate.evict
  exact if_neg (Nat.not_le.mpr room)

/-- A gate that pays for a failure has paid. -/
theorem Paid.remember (paid : Paid gate) {identity : Digest}
    (unknown : gate.admitted.lookup identity = none) (token : 1000 ≤ gate.tokensMilli) :
    Paid (gate.remember gate.lastRefillMs identity) := by
  constructor
  · intro since
    have spent := paid.spent since
    have added := KeyedTable.total_insert_of_lookup_none
      (fun _ (entry : FailureStormEntry) => if since ≤ entry.admittedAtMs then 1 else 0) unknown
      { admittedAtMs := gate.lastRefillMs, observedAtMs := gate.lastRefillMs, suppressed := 0 }
    change 1000 * KeyedTable.total _ (gate.admitted.insert identity _) +
      (gate.tokensMilli - 1000) ≤ _ + 2 * (gate.lastRefillMs - since)
    change 1000 * KeyedTable.total _ gate.admitted + _ ≤ _ at spent
    rw [added]
    split
    · omega
    · omega
  · exact paid.past.insert le_rfl

end Paid

/-! ## Decisions -/

section Decisions

variable {gate : FailureStormGate Digest} {request : StormRequest Digest}

/-- What the gate does with a failure: it suppresses one that it remembers, it suppresses one that
it has no token for, and it remembers and admits any other. -/
theorem Paid.admit_cases (paid : Paid gate) (later : gate.lastRefillMs ≤ request.nowMs) :
    (∃ entry, gate.admitted.lookup request.identity = some entry ∧
        request.nowMs - entry.admittedAtMs < failureSuppressionMs ∧
        gate.admitStorm request = (.suppressedExact,
          { (gate.refill request.nowMs).expire request.nowMs with
            admitted := (gate.expire request.nowMs).admitted.insert request.identity
              { entry with
                observedAtMs := request.nowMs
                suppressed := saturatingAdd entry.suppressed 1 } })) ∨
      (gate.expire request.nowMs).admitted.lookup request.identity = none ∧
        (gate.refill request.nowMs).tokensMilli < 1000 ∧
        gate.admitStorm request =
          (.suppressedHighCardinality, (gate.refill request.nowMs).expire request.nowMs) ∨
      (gate.expire request.nowMs).admitted.lookup request.identity = none ∧
        1000 ≤ (gate.refill request.nowMs).tokensMilli ∧
        gate.admitStorm request = (.admitted,
          ((gate.refill request.nowMs).expire request.nowMs).remember request.nowMs
            request.identity) := by
  have room := evict_eq (paid.recent_size later)
  unfold FailureStormGate.admitStorm FailureStormGate.decideStorm
  split
  · rename_i entry present
    rcases lookup_expire.mp present with ⟨known, recent⟩
    exact .inl ⟨entry, known, recent, rfl⟩
  · rename_i unknown
    split
    · rename_i poor
      exact .inr (.inl ⟨unknown, poor, rfl⟩)
    · rename_i token
      rw [room]
      exact .inr (.inr ⟨unknown, Nat.le_of_not_lt token, rfl⟩)

/-- A decision leaves a gate that has paid, refilled at the time of the decision. -/
theorem Paid.admitStorm (paid : Paid gate) (later : gate.lastRefillMs ≤ request.nowMs) :
    Paid (gate.admitStorm request).2 ∧ (gate.admitStorm request).2.lastRefillMs = request.nowMs := by
  have settled := (paid.refill later).expire request.nowMs
  rcases paid.admit_cases later with ⟨entry, known, recent, decided⟩ | ⟨_, _, decided⟩ |
    ⟨unknown, token, decided⟩
  · rw [decided]
    refine ⟨settled.of_entries le_rfl rfl ?_, rfl⟩
    intro digest found present
    by_cases same : digest = request.identity
    · subst same
      change ((gate.expire request.nowMs).admitted.insert _ _).lookup _ = _ at present
      rw [AList.lookup_insert] at present
      cases present
      exact ⟨entry, lookup_expire.mpr ⟨known, recent⟩, rfl⟩
    · change ((gate.expire request.nowMs).admitted.insert _ _).lookup _ = _ at present
      rw [AList.lookup_insert_ne same] at present
      exact ⟨found, present, rfl⟩
  · rw [decided]
    exact ⟨settled, rfl⟩
  · rw [decided]
    exact ⟨settled.remember unknown token, rfl⟩

/-- An admission costs a token of the refilled gate. -/
theorem Paid.admit_tokens (paid : Paid gate) (later : gate.lastRefillMs ≤ request.nowMs) :
    (gate.admitStorm request).2.tokensMilli +
        1000 * (if (gate.admitStorm request).1 = .admitted then 1 else 0) =
      (gate.refill request.nowMs).tokensMilli := by
  rcases paid.admit_cases later with ⟨entry, known, recent, decided⟩ | ⟨_, _, decided⟩ |
    ⟨unknown, token, decided⟩
  · rw [decided]
    rfl
  · rw [decided]
    rfl
  · rw [decided]
    change (gate.refill request.nowMs).tokensMilli - 1000 + 1000 * (if _ then 1 else 0) = _
    rw [if_pos rfl]
    omega

/-- A failure that was admitted less than a minute ago stays known and is not admitted. -/
theorem Paid.admit_known (paid : Paid gate) (later : gate.lastRefillMs ≤ request.nowMs)
    {identity : Digest} {entry : FailureStormEntry}
    (known : gate.admitted.lookup identity = some entry)
    (recent : request.nowMs < entry.admittedAtMs + failureSuppressionMs) :
    (request.identity = identity → (gate.admitStorm request).1 ≠ .admitted) ∧
      ∃ entry', (gate.admitStorm request).2.admitted.lookup identity = some entry' ∧
        entry'.admittedAtMs = entry.admittedAtMs := by
  have kept : (gate.expire request.nowMs).admitted.lookup identity = some entry := by
    apply lookup_expire.mpr
    refine ⟨known, ?_⟩
    unfold failureSuppressionMs at recent ⊢
    omega
  rcases paid.admit_cases later with ⟨entry', known', _, decided⟩ | ⟨unknown, _, decided⟩ |
    ⟨unknown, token, decided⟩
  · rw [decided]
    constructor
    · intro _ admitted
      cases admitted
    · change ∃ found, ((gate.expire request.nowMs).admitted.insert _ _).lookup _ = _ ∧ _
      by_cases same : identity = request.identity
      · subst same
        cases known.symm.trans known'
        exact ⟨_, AList.lookup_insert _, rfl⟩
      · exact ⟨entry, (AList.lookup_insert_ne same).trans kept, rfl⟩
  · rw [decided]
    constructor
    · intro _ admitted
      cases admitted
    · exact ⟨entry, kept, rfl⟩
  · have apart : identity ≠ request.identity := by
      rintro rfl
      cases kept.symm.trans unknown
    rw [decided]
    constructor
    · intro same
      exact absurd same.symm apart
    · exact ⟨entry, (AList.lookup_insert_ne apart).trans kept, rfl⟩

/-- An admitted failure is known from then on. -/
theorem Paid.admit_self (paid : Paid gate) (later : gate.lastRefillMs ≤ request.nowMs)
    (admitted : (gate.admitStorm request).1 = .admitted) :
    ∃ entry, (gate.admitStorm request).2.admitted.lookup request.identity = some entry ∧
      entry.admittedAtMs = request.nowMs := by
  rcases paid.admit_cases later with ⟨entry, _, _, decided⟩ | ⟨_, _, decided⟩ | ⟨_, _, decided⟩
  · rw [decided] at admitted
    cases admitted
  · rw [decided] at admitted
    cases admitted
  · rw [decided]
    exact ⟨_, AList.lookup_insert _, rfl⟩

/-- What the gate remembers after a decision it remembered before, or has just admitted. -/
theorem Paid.admit_remembers (paid : Paid gate) (later : gate.lastRefillMs ≤ request.nowMs)
    {digest : Digest} {entry : FailureStormEntry}
    (present : (gate.admitStorm request).2.admitted.lookup digest = some entry) :
    (∃ entry', gate.admitted.lookup digest = some entry' ∧
        entry'.admittedAtMs = entry.admittedAtMs) ∨
      (gate.admitStorm request).1 = .admitted ∧ request.identity = digest ∧
        request.nowMs = entry.admittedAtMs := by
  rcases paid.admit_cases later with ⟨entry', known, recent, decided⟩ | ⟨_, _, decided⟩ |
    ⟨_, _, decided⟩
  · rw [decided] at present
    change ((gate.expire request.nowMs).admitted.insert _ _).lookup _ = _ at present
    by_cases same : digest = request.identity
    · subst same
      rw [AList.lookup_insert] at present
      cases present
      exact .inl ⟨entry', known, rfl⟩
    · rw [AList.lookup_insert_ne same] at present
      exact .inl ⟨entry, (lookup_expire.mp present).1, rfl⟩
  · rw [decided] at present
    exact .inl ⟨entry, (lookup_expire.mp present).1, rfl⟩
  · rw [decided] at present ⊢
    change ((gate.expire request.nowMs).admitted.insert _ _).lookup _ = _ at present
    by_cases same : digest = request.identity
    · subst same
      rw [AList.lookup_insert] at present
      cases present
      exact .inr ⟨rfl, rfl, rfl⟩
    · rw [AList.lookup_insert_ne same] at present
      exact .inl ⟨entry, (lookup_expire.mp present).1, rfl⟩

end Decisions

/-! ## Runs -/

/-- Failures in the order of time, none of them before the last refill of a gate. -/
def InOrder (gate : FailureStormGate Digest) (history : List (StormRequest Digest)) : Prop :=
  (gate.lastRefillMs :: history.map StormRequest.nowMs).Pairwise (· ≤ ·)

section Runs

variable {gate : FailureStormGate Digest} {request : StormRequest Digest}
  {history : List (StormRequest Digest)}

omit [LinearOrder Digest] in
/-- Failures in the order of elapsed time are in the order of the clock. -/
theorem inOrder_new
    (ordered : history.Pairwise fun earlier later => earlier.elapsedMs ≤ later.elapsedMs) :
    InOrder .new history := by
  apply List.pairwise_cons.mpr
  constructor
  · intro time _
    exact Nat.zero_le time
  · rw [List.pairwise_map]
    exact ordered.imp fun before => min_le_min_right _ before

/-- The rest of the failures is in order after the decision about the first. -/
theorem InOrder.admitStorm (inOrder : InOrder gate (request :: history)) (paid : Paid gate) :
    gate.lastRefillMs ≤ request.nowMs ∧ Paid (gate.admitStorm request).2 ∧
      InOrder (gate.admitStorm request).2 history ∧
      ∀ entry ∈ Runs.answered FailureStormGate.admitStorm (gate.admitStorm request).2 history,
        request.nowMs ≤ entry.call.nowMs := by
  unfold InOrder at inOrder
  rw [List.map_cons, List.pairwise_cons] at inOrder
  have later : gate.lastRefillMs ≤ request.nowMs := inOrder.1 _ List.mem_cons_self
  rcases paid.admitStorm later with ⟨next, refilled⟩
  refine ⟨later, next, ?_, ?_⟩
  · unfold InOrder
    rw [refilled]
    exact inOrder.2
  · intro entry among
    have called := Runs.call_mem_of_answered among
    exact (List.pairwise_cons.mp inOrder.2).1 _ (List.mem_map_of_mem called)

/-- A known failure is not admitted for a minute after its admission. -/
theorem not_admitted_again (paid : Paid gate) (inOrder : InOrder gate history)
    {identity : Digest} {known : FailureStormEntry}
    (present : gate.admitted.lookup identity = some known) :
    ∀ entry ∈ Runs.answered FailureStormGate.admitStorm gate history, entry.reply = .admitted →
      entry.call.identity = identity →
      known.admittedAtMs + failureSuppressionMs ≤ entry.call.nowMs := by
  induction history generalizing gate known with
  | nil => simp [Runs.answered]
  | cons request history ih =>
      rcases inOrder.admitStorm paid with ⟨later, paid', inOrder', after⟩
      intro entry among admitted named
      by_cases recent : request.nowMs < known.admittedAtMs + failureSuppressionMs
      · rcases paid.admit_known later present recent with ⟨refused, known', present', same⟩
        rcases List.mem_cons.mp among with rfl | among
        · exact absurd admitted (refused named)
        · rw [← same]
          exact ih paid' inOrder' present' entry among admitted named
      · have expired := Nat.le_of_not_lt recent
        rcases List.mem_cons.mp among with rfl | among
        · exact expired
        · exact expired.trans (after entry among)

/-- Equal failures are admitted a minute apart. -/
theorem admitted_apart (paid : Paid gate) (inOrder : InOrder gate history) :
    (Runs.answered FailureStormGate.admitStorm gate history).Pairwise fun first second =>
      first.reply = .admitted → second.reply = .admitted →
      first.call.identity = second.call.identity →
      first.call.nowMs + failureSuppressionMs ≤ second.call.nowMs := by
  induction history generalizing gate with
  | nil => exact .nil
  | cons request history ih =>
      rcases inOrder.admitStorm paid with ⟨later, paid', inOrder', _⟩
      rw [Runs.answered, List.pairwise_cons]
      constructor
      · intro second among admitted again same
        rcases paid.admit_self later admitted with ⟨known, present, time⟩
        have apart := not_admitted_again paid' inOrder' present second among again same.symm
        rw [time] at apart
        exact apart
      · exact ih paid' inOrder'

/-- Number of admissions within a window of the clock. -/
def admissions (start span : Nat) (decisions : List (Decided Digest)) : Nat :=
  decisions.countP fun entry => decide (entry.reply = .admitted ∧
    start ≤ entry.call.nowMs ∧ entry.call.nowMs ≤ start + span)

/-- The first failure is counted if it is admitted within the window. -/
theorem admissions_cons (start span : Nat) (gate : FailureStormGate Digest)
    (request : StormRequest Digest) (history : List (StormRequest Digest)) :
    admissions start span (Runs.answered FailureStormGate.admitStorm gate (request :: history)) =
      admissions start span
          (Runs.answered FailureStormGate.admitStorm (gate.admitStorm request).2 history) +
        if (gate.admitStorm request).1 = .admitted ∧ start ≤ request.nowMs ∧
            request.nowMs ≤ start + span then 1
        else 0 := by
  unfold admissions
  rw [Runs.answered, List.countP_cons]
  simp only [decide_eq_true_iff]
  rfl

omit [LinearOrder Digest] in
/-- Nothing is counted after the end of the window. -/
theorem admissions_eq_zero {start span : Nat} {decisions : List (Decided Digest)}
    (late : ∀ entry ∈ decisions, start + span < entry.call.nowMs) :
    admissions start span decisions = 0 := by
  apply List.countP_eq_zero.mpr
  intro entry among counted
  rw [decide_eq_true_iff] at counted
  have time := late entry among
  omega

/-- The admissions until some time are paid by the tokens of the gate and of the time until then. -/
theorem admissions_le_tokens {start span : Nat} (paid : Paid gate)
    (inOrder : InOrder gate history) :
    1000 * admissions start span (Runs.answered FailureStormGate.admitStorm gate history) ≤
      gate.tokensMilli + 2 * (start + span - gate.lastRefillMs) := by
  induction history generalizing gate with
  | nil => simp [admissions, Runs.answered]
  | cons request history ih =>
      rcases inOrder.admitStorm paid with ⟨later, paid', inOrder', after⟩
      rw [admissions_cons]
      by_cases within : request.nowMs ≤ start + span
      · have rest := ih paid' inOrder'
        have cost := paid.admit_tokens later
        have tokens := (refill_tokens_le gate request.nowMs).1
        rw [(paid.admitStorm later).2] at rest
        by_cases admitted : (gate.admitStorm request).1 = .admitted
        · rw [if_pos admitted] at cost
          split <;> omega
        · rw [if_neg admitted] at cost
          rw [if_neg (fun counted => admitted counted.1)]
          omega
      · have none_ : admissions start span (Runs.answered FailureStormGate.admitStorm
            (gate.admitStorm request).2 history) = 0 :=
          admissions_eq_zero fun entry among =>
            (Nat.lt_of_not_le within).trans_le (after entry among)
        rw [none_, if_neg (fun counted => within counted.2.2)]
        omega

/-- A window of the clock holds no more admissions than a full gate and the time of the window pay
for. -/
theorem admissions_le (start span : Nat) (paid : Paid gate) (inOrder : InOrder gate history) :
    1000 * admissions start span (Runs.answered FailureStormGate.admitStorm gate history) ≤
      failureTokensMilliCapacity + 2 * span := by
  induction history generalizing gate with
  | nil => simp [admissions, Runs.answered]
  | cons request history ih =>
      rcases inOrder.admitStorm paid with ⟨later, paid', inOrder', _⟩
      rw [admissions_cons]
      by_cases early : request.nowMs < start
      · have rest := ih paid' inOrder'
        rw [if_neg (fun counted => absurd counted.2.1 (Nat.not_le.mpr early))]
        omega
      -- The first failure of the window meets a gate that is full at most.
      · have rest : 1000 * admissions start span (Runs.answered FailureStormGate.admitStorm
            (gate.admitStorm request).2 history) ≤ (gate.admitStorm request).2.tokensMilli +
              2 * (start + span - (gate.admitStorm request).2.lastRefillMs) :=
          admissions_le_tokens paid' inOrder'
        have cost := paid.admit_tokens later
        have full := (refill_tokens_le gate request.nowMs).2
        rw [(paid.admitStorm later).2] at rest
        by_cases admitted : (gate.admitStorm request).1 = .admitted
        · rw [if_pos admitted] at cost
          split <;> omega
        · rw [if_neg admitted] at cost
          rw [if_neg (fun counted => admitted counted.1)]
          omega

/-- Everything that the gate remembers was admitted. -/
def Recalls (past : List (Decided Digest)) (gate : FailureStormGate Digest) : Prop :=
  KeyedTable.All (fun digest known => ∃ entry ∈ past, entry.reply = .admitted ∧
    entry.call.identity = digest ∧ entry.call.nowMs = known.admittedAtMs) gate.admitted

/-- What the gate remembers after some failures was admitted among them. -/
theorem recalls_run {past : List (Decided Digest)} (recalls : Recalls past gate)
    (paid : Paid gate) (inOrder : InOrder gate history) :
    Recalls (past ++ Runs.answered FailureStormGate.admitStorm gate history)
        (Runs.final FailureStormGate.admitStorm gate history) ∧
      Paid (Runs.final FailureStormGate.admitStorm gate history) ∧
      ∀ time, gate.lastRefillMs ≤ time → (∀ request ∈ history, request.nowMs ≤ time) →
        (Runs.final FailureStormGate.admitStorm gate history).lastRefillMs ≤ time := by
  induction history generalizing gate past with
  | nil =>
      rw [Runs.answered, List.append_nil]
      exact ⟨recalls, paid, fun time before _ => before⟩
  | cons request history ih =>
      rcases inOrder.admitStorm paid with ⟨later, paid', inOrder', _⟩
      have next : Recalls (past ++ [Runs.answer FailureStormGate.admitStorm gate request])
          (gate.admitStorm request).2 := by
        intro digest known present
        rcases paid.admit_remembers later present with ⟨known', present', same⟩ |
          ⟨admitted, named, time⟩
        · rcases recalls digest known' present' with ⟨entry, among, admitted, named, time⟩
          exact ⟨entry, List.mem_append_left _ among, admitted, named, time.trans same⟩
        · exact ⟨_, List.mem_append_right _ List.mem_cons_self, admitted, named, time⟩
      rcases ih next paid' inOrder' with ⟨rest, last, refilled⟩
      rw [List.append_assoc] at rest
      refine ⟨rest, last, fun time _ before => ?_⟩
      apply refilled time
      · rw [(paid.admitStorm later).2]
        exact before request List.mem_cons_self
      · exact fun entry among => before entry (List.mem_cons_of_mem _ among)

end Runs

/-- Failures of a process in the order of time: equal failures are admitted a minute apart, a window
of time holds no more admissions than four and two for each of its seconds, and a failure that was
not admitted within a minute before is admitted if the gate has a token. -/
theorem storm_gate_sound (history : List (StormRequest Digest))
    (ordered : history.Pairwise fun earlier later => earlier.elapsedMs ≤ later.elapsedMs) :
    ((stormDecisions history).Pairwise fun first second =>
        first.reply = .admitted → second.reply = .admitted →
        first.call.identity = second.call.identity →
        first.call.elapsedMs + failureSuppressionMs ≤ second.call.elapsedMs) ∧
      (∀ start span,
        1000 * ((stormDecisions history).countP fun entry => decide (entry.reply = .admitted ∧
          start ≤ entry.call.elapsedMs ∧ entry.call.elapsedMs ≤ start + span)) ≤
            4000 + 2 * span) ∧
      ∀ request : StormRequest Digest,
        (∀ earlier ∈ history, earlier.elapsedMs ≤ request.elapsedMs) →
        (∀ entry ∈ stormDecisions history, entry.reply = .admitted →
          entry.call.identity = request.identity →
          entry.call.nowMs + failureSuppressionMs ≤ request.nowMs) →
        1000 ≤ ((Runs.final FailureStormGate.admitStorm .new history).refill
          request.nowMs).tokensMilli →
        ((Runs.final FailureStormGate.admitStorm .new history).admitStorm request).1 = .admitted := by
  have inOrder := inOrder_new ordered
  refine ⟨?_, fun start span => ?_, fun request after unadmitted token => ?_⟩
  · apply (admitted_apart paid_new inOrder).imp
    intro first second apart admitted again same
    have clock := apart admitted again same
    unfold StormRequest.nowMs failureSuppressionMs at clock
    unfold failureSuppressionMs
    omega
  · have window := admissions_le (min start u64Max) span paid_new inOrder
    apply le_trans _ window
    apply Nat.mul_le_mul_left
    apply List.countP_mono_left
    intro entry _ counted
    rw [decide_eq_true_iff] at counted ⊢
    refine ⟨counted.1, ?_, ?_⟩
    · unfold StormRequest.nowMs
      omega
    · unfold StormRequest.nowMs
      omega
  · have recalls : Recalls ([] : List (Decided Digest)) .new := KeyedTable.all_empty
    rcases recalls_run recalls paid_new inOrder with ⟨remembered, paid, refilled⟩
    have later := refilled request.nowMs (Nat.zero_le _)
      fun earlier among => min_le_min_right _ (after earlier among)
    rcases paid.admit_cases later with ⟨known, present, recent, _⟩ | ⟨_, poor, _⟩ |
      ⟨_, _, decided⟩
    · rcases remembered _ known present with ⟨entry, among, admitted, named, time⟩
      have expired := unadmitted entry among admitted named
      omega
    · exact absurd token (Nat.not_le.mpr poor)
    · rw [decided]

/-- Two equal failures a minute apart, with another one between them that comes again too early. -/
def repeatedFailures : List (StormRequest Nat) :=
  [⟨0, 7⟩, ⟨1000, 8⟩, ⟨60000, 7⟩, ⟨60500, 8⟩]

/-- The gate admits the equal failures that are a minute apart, and a failure that was admitted a
minute before. -/
theorem storm_gate_sound_repeated :
    (stormDecisions repeatedFailures).map Runs.Answered.reply =
        [.admitted, .admitted, .admitted, .suppressedExact] ∧
      ((Runs.final FailureStormGate.admitStorm .new repeatedFailures).admitStorm ⟨61000, 8⟩).1 =
        .admitted :=
  ⟨by decide +kernel, (storm_gate_sound repeatedFailures (by decide)).2.2 ⟨61000, 8⟩ (by decide)
    (by decide +kernel) (by decide +kernel)⟩

end Sdk
end ReproItSdk
