import ReproItSdk.Replay.Extension

/-! # One hooked call in a capture and in a replay

A capture opens a session for the request of a hooked call, runs its live function and records the
exchange, unless the operation is given up.  A replay opens a session for the same request and
takes the exchange of the same position, without running the live function.

Main results:

- Theorem {lit}`capture_hooked`: what a capture that lost nothing did in one hooked call.
- Theorem {lit}`replay_hooked`: what a replay does in one hooked call.
-/

namespace ReproItSdk
namespace Replay

open Fallible Wrappers

/-! ## One hooked call -/

section Hooked

variable {ε α : Type}

/-- The class of a hooked call. -/
def HookedCall.observationClass : HookedCall ε α → AutomaticObservationClass
  | .observation call => call.observationClass
  | .dependency call => call.observationClass

/-- The request of a hooked call, if it has one. -/
def HookedCall.request : HookedCall ε α → Option Bytes
  | .observation call => some call.request
  | .dependency call => call.request

/-- The run in which the live function of a captured call begins; only an observed call sets the
guard. -/
def HookedCall.inside (call : HookedCall ε α) (run : Run) : Run :=
  match call with
  | .observation call =>
      { (run.called.opened call.observationClass call.request).called.called with
        reentrant := true }
  | .dependency call =>
      (run.called.opened call.observationClass (call.request.getD [])).called

/-- What is recorded of the outcome of a live function, if anything. -/
def HookedCall.recorded (call : HookedCall ε α) (outcome : Except ε α) :
    Option (Bytes × DependencyOutcome) :=
  match call with
  | .observation call => call.recorded outcome
  | .dependency call => (call.encoded outcome).bind call.record

/-- What a replay makes of a recorded response, if it accepts it. -/
def HookedCall.restored (call : HookedCall ε α) (response : Bytes) (kind : DependencyOutcome) :
    Option (Except ε α) :=
  match call with
  | .observation call =>
      (call.restored response).bind fun restored =>
        if restored.2 = kind then some restored.1 else none
  | .dependency call =>
      (readRecord response).bind fun record =>
        (call.responseFromRecord record kind).map call.rebuild

/-- The exchange of a hooked call in a run. -/
def HookedCall.exchange (call : HookedCall ε α) (run : Run) (request response : Bytes)
    (kind : DependencyOutcome) : Exchange :=
  ⟨call.observationClass, (run.requests call.observationClass).length, request, response, kind⟩

/-- A live function asked for nothing in a run, and what was recorded gives back what it
returned. -/
structure Plain (surroundings : Surroundings ε α) (call : HookedCall ε α) (live : Program ε α)
    (run : Run) : Prop where
  quiet : (live.run surroundings (call.inside run)).2.sessions = (call.inside run).sessions
  faithful : ∀ response kind,
    call.recorded (live.run surroundings (call.inside run)).1 = some (response, kind) →
      call.restored response kind = some (live.run surroundings (call.inside run)).1

end Hooked

/-! ## Calls of the engine -/

section Calls

variable {ε α : Type}

/-- An operation that was given up stays so. -/
theorem inactive_of_extends {computation : RunM ε α} (keeps : Relates Extends computation)
    {run : Run} (inactive : run.active = false) : (computation run).2.active = false := by
  by_contra active
  have before := (keeps run).active (Bool.eq_true_of_not_eq_false active)
  exact Bool.false_ne_true (inactive.symm.trans before)

/-- The engine accepts a call, or the operation is given up. -/
theorem engineCall_cases (mode : Mode) (change : Run → Run) (run : Run) :
    (engineCall mode change run : Except ε Bool × Run) = (.ok true, change run.called) ∨
      (engineCall mode change run : Except ε Bool × Run) = (.ok false, run.called.abandoned) := by
  unfold engineCall
  split
  · exact .inl rfl
  · exact .inr rfl

/-- A session of an active operation opens at the next position, or the operation is given up. -/
theorem openObservation_cases (mode : Mode) (observationClass : AutomaticObservationClass)
    (request : Bytes) {run : Run} (active : run.active = true) :
    (openObservation mode observationClass request run : Except ε (Option Nat) × Run) =
        (.ok (some (run.requests observationClass).length),
          run.called.opened observationClass request) ∨
      (openObservation mode observationClass request run : Except ε (Option Nat) × Run) =
        (.ok none, run.called.abandoned) := by
  unfold openObservation
  rw [gets_bind, if_pos active, gets_bind]
  rcases engineCall_cases (ε := ε) mode (fun run => run.opened observationClass request) run
    with accepted | refused
  · rw [bind_ok accepted]
    exact .inl rfl
  · rw [bind_ok refused]
    exact .inr rfl

/-- A capture dispatches a request, or the operation is given up. -/
theorem dispatch_capture_cases (accepts : Nat → Bool)
    (observationClass : AutomaticObservationClass) (position : Nat) (request : Bytes) (run : Run) :
    (dispatch (.capture accepts) observationClass position request run :
        Except ε (Option Action) × Run) = (.ok (some .capture), run.called) ∨
      (dispatch (.capture accepts) observationClass position request run :
        Except ε (Option Action) × Run) = (.ok none, run.called.abandoned) := by
  unfold dispatch
  rcases engineCall_cases (ε := ε) (.capture accepts) id run with accepted | refused
  · rw [bind_ok accepted]
    exact .inl rfl
  · rw [bind_ok refused]
    exact .inr rfl

end Calls

/-! ## One hooked call of a capture -/

section Capture

variable {ε α : Type} {accepts : Nat → Bool} {live : RunM ε α} {run after : Run}
  {outcome : Except ε α}

/-- Writing a response leaves the run as it was but for the calls, or the operation is given up. -/
theorem writeChunks_cases (mode : Mode) (chunks : List Bytes) (run : Run) :
    (∃ calls, (writeChunks mode chunks run : Except ε Bool × Run) =
        (.ok true, { run with calls := calls })) ∨
      ((writeChunks mode chunks run : Except ε Bool × Run).1 = .ok false ∧
        (writeChunks mode chunks run : Except ε Bool × Run).2.active = false) := by
  induction chunks generalizing run with
  | nil => exact .inl ⟨run.calls, rfl⟩
  | cons chunk chunks continues =>
      unfold writeChunks
      rcases engineCall_cases (ε := ε) mode id run with accepted | refused
      · rw [bind_ok accepted]
        rcases continues run.called with ⟨calls, written⟩ | lost
        · exact .inl ⟨calls, written⟩
        · exact .inr lost
      · rw [bind_ok refused]
        exact .inr ⟨rfl, rfl⟩

/-- Finishing a captured session adds its exchange, or the operation is given up. -/
theorem finishCaptured_cases (mode : Mode) (exchange : Exchange) (run : Run) :
    (finishCaptured mode exchange run : Except ε Bool × Run) =
        (.ok true, run.called.recorded exchange) ∨
      (finishCaptured mode exchange run : Except ε Bool × Run) =
        (.ok false, run.called.abandoned) :=
  engineCall_cases mode _ run

/-- Recording a response adds its exchange, or the operation is given up. -/
theorem recordResponse_cases (mode : Mode) (exchange : Exchange) (run : Run) :
    (∃ calls, (recordResponse mode exchange run : Except ε Unit × Run) =
        (.ok (), { run.recorded exchange with calls := calls })) ∨
      ((recordResponse mode exchange run : Except ε Unit × Run).1 = .ok () ∧
        (recordResponse mode exchange run : Except ε Unit × Run).2.active = false) := by
  unfold recordResponse
  rcases writeChunks_cases (ε := ε) mode
      (Chunks.chunks maxObservationChunkBytes exchange.response) run with
    ⟨calls, written⟩ | ⟨refused, inactive⟩
  · rw [bind_ok written, if_pos rfl]
    rcases finishCaptured_cases (ε := ε) mode exchange { run with calls := calls } with
      finished | refused
    · rw [bind_ok finished]
      exact .inl ⟨calls + 1, rfl⟩
    · rw [bind_ok refused]
      exact .inr ⟨rfl, rfl⟩
  · rw [bind_ok (Prod.ext refused rfl), if_neg Bool.false_ne_true]
    exact .inr ⟨rfl, inactive⟩

/-- What a capture that lost nothing did in a hooked call: the application got the outcome of the
live function, and the exchange was recorded after what the live function did. -/
structure Captured (call : HookedCall ε α) (lived : Except ε α × Run) (run : Run)
    (result : Except ε α × Run) : Prop where
  outcome : result.1 = lived.1
  active : lived.2.active = true
  sessions : result.2.sessions = lived.2.sessions
  recorded : ∃ request response kind, call.request = some request ∧
    call.recorded lived.1 = some (response, kind) ∧
    result.2.records = lived.2.records ++ [call.exchange run request response kind]

/-- A session that captures an observation. -/
theorem captureObservation_captured (call : ObservationCall ε α) (inside : Run)
    (kept : (captureObservation (.capture accepts) call live
      (run.requests call.observationClass).length inside).2.active = true) :
    Captured (.observation call) (live inside) run
      (captureObservation (.capture accepts) call live
        (run.requests call.observationClass).length inside) := by
  unfold captureObservation at kept ⊢
  rw [attempt_bind] at kept ⊢
  cases recorded : call.recorded (live inside).1 with
  | none =>
      rw [recorded] at kept
      exact absurd kept Bool.false_ne_true
  | some response =>
      rcases response with ⟨response, kind⟩
      rw [recorded] at kept
      dsimp only at kept ⊢
      rcases recordResponse_cases (ε := ε) (.capture accepts)
          ⟨call.observationClass, (run.requests call.observationClass).length, call.request,
            response, kind⟩ (live inside).2 with ⟨calls, written⟩ | ⟨returned, inactive⟩
      · rw [bind_ok written] at kept ⊢
        exact ⟨rfl, kept, rfl, call.request, response, kind, rfl, recorded, rfl⟩
      · rw [bind_ok (Prod.ext returned rfl)] at kept
        exact absurd (inactive.symm.trans kept) Bool.false_ne_true

/-- An open session of an observation that captures. -/
theorem observeOpened_captured (call : ObservationCall ε α) (keeps : Relates Extends live)
    (run opened : Run)
    (kept : (observeOpened (.capture accepts) call live
      (run.requests call.observationClass).length opened).2.active = true) :
    Captured (.observation call) (live opened.called.called) run
      (observeOpened (.capture accepts) call live
        (run.requests call.observationClass).length opened) := by
  have passes (inside : Run) (inactive : inside.active = false) :
      (live inside).2.active ≠ true := by
    rw [inactive_of_extends keeps inactive]
    exact Bool.false_ne_true
  unfold observeOpened at kept ⊢
  rcases engineCall_cases (ε := ε) (.capture accepts) id opened with written | refused
  · rw [bind_ok written, if_pos rfl] at kept ⊢
    rcases dispatch_capture_cases (ε := ε) accepts call.observationClass
        (run.requests call.observationClass).length call.request opened.called with
      dispatched | refused
    · change dispatch _ _ _ _ (id opened.called) = _ at dispatched
      rw [bind_ok dispatched] at kept ⊢
      exact captureObservation_captured call _ kept
    · change dispatch _ _ _ _ (id opened.called) = _ at refused
      rw [bind_ok refused] at kept
      exact absurd kept (passes _ rfl)
  · rw [bind_ok refused] at kept
    exact absurd kept (passes _ rfl)

/-- An observed call that captures. -/
theorem observe_captured (call : ObservationCall ε α) (keeps : Relates Extends live)
    (active : run.active = true) (unguarded : run.reentrant = false)
    (kept : (observe (.capture accepts) call live run).2.active = true) :
    Captured (.observation call) (live ((HookedCall.observation call).inside run)) run
      (observe (.capture accepts) call live run) := by
  unfold observe at kept ⊢
  rw [gets_bind, gets_bind, if_pos ⟨active, unguarded⟩] at kept ⊢
  change (observeActive _ _ _ _).2.active = true at kept
  have captures : Captured (.observation call) (live ((HookedCall.observation call).inside run))
      run (observeActive (.capture accepts) call live { run with reentrant := true }) := by
    unfold observeActive at kept ⊢
    have begins : ({ run with reentrant := true } : Run).active = true := active
    rcases openObservation_cases (.capture accepts) call.observationClass call.request
        begins with opened | refused
    · rw [bind_ok opened] at kept ⊢
      exact observeOpened_captured call keeps run _ kept
    · rw [bind_ok refused] at kept
      exact absurd (Eq.symm (inactive_of_extends keeps rfl) |>.trans kept) Bool.false_ne_true
  exact ⟨captures.outcome, captures.active, captures.sessions, captures.recorded⟩

/-- Marking the operation does not raise. -/
theorem markUnowned_returns (mode : Mode) (run : Run) :
    (markUnowned mode run : Except ε Unit × Run).1 = .ok () := by
  unfold markUnowned
  rw [gets_bind]
  split
  · rcases engineCall_cases (ε := ε) mode (fun run => { run with unowned := true }) run with
      accepted | refused
    · rw [bind_ok accepted]
      rfl
    · rw [bind_ok refused]
      rfl
  · rfl

/-- The callback returns the outcome of the live function with its encoding, and leaves the run as
the live function did if there is one. -/
theorem captureLive_returns (mode : Mode) (call : DependencyCall ε α) (run : Run) :
    ∃ next, captureLive mode call live run =
        (.ok ((live run).1, call.encoded (live run).1), next) ∧
      ((call.encoded (live run).1).isSome = true → next = (live run).2) := by
  unfold captureLive
  rw [attempt_bind]
  rcases live run with ⟨outcome | value, lived⟩
  · cases encoded : call.encoded (.error outcome : Except ε α) with
    | none =>
        have marked : (markUnowned mode lived : Except ε Unit × Run) =
            (.ok (), (markUnowned mode lived : Except ε Unit × Run).2) :=
          Prod.ext (markUnowned_returns mode lived) rfl
        refine ⟨_, bind_ok marked, fun present => absurd present Bool.false_ne_true⟩
    | some response => exact ⟨lived, rfl, fun _ => rfl⟩
  · exact ⟨lived, rfl, fun _ => rfl⟩

/-- A session that captures a dependency. -/
theorem captureDependency_captured (call : DependencyCall ε α) (run inside : Run)
    (request : Bytes) (requested : call.request = some request)
    (kept : (captureDependency (.capture accepts) call live
      (run.requests call.observationClass).length request inside).2.active = true) :
    ∃ next, captureDependency (.capture accepts) call live
        (run.requests call.observationClass).length request inside =
      (.ok (.live (live inside).1), next) ∧
    Captured (.dependency call) (live inside) run ((live inside).1, next) := by
  rcases captureLive_returns (.capture accepts) call inside with ⟨lived, returned, same⟩
  unfold captureDependency at kept ⊢
  rw [bind_ok returned] at kept ⊢
  dsimp only at kept ⊢
  cases recorded : (call.encoded (live inside).1).bind call.record with
  | none =>
      rw [recorded] at kept
      exact absurd kept Bool.false_ne_true
  | some record =>
      rcases record with ⟨record, kind⟩
      have encodes : (call.encoded (live inside).1).isSome = true := by
        rcases Option.bind_eq_some_iff.mp recorded with ⟨response, encoded, _⟩
        rw [encoded]
        rfl
      rw [recorded, same encodes] at kept
      rw [same encodes]
      dsimp only at kept ⊢
      rcases finishCaptured_cases (ε := ε) (.capture accepts)
          ⟨call.observationClass, (run.requests call.observationClass).length, request, record,
            kind⟩ (live inside).2 with finished | refused
      · rw [bind_ok finished] at kept ⊢
        exact ⟨_, rfl, rfl, kept, rfl, request, record, kind, requested, recorded, rfl⟩
      · rw [bind_ok refused] at kept
        exact absurd kept Bool.false_ne_true

/-- A dependency that is passed through when the operation was given up. -/
theorem inactive_passDependency (mode : Mode) (call : DependencyCall ε α)
    (keeps : Relates Extends live) {run : Run} (inactive : run.active = false) :
    (passDependency mode call live run).2.active = false :=
  inactive_of_extends (extends_passDependency mode call keeps) inactive

/-- A dependency session that captures opens at the next position, or the operation is given
up. -/
theorem openDependency_cases (accepts : Nat → Bool) (call : DependencyCall ε α)
    (request : Bytes) (active : run.active = true) :
    openDependency (.capture accepts) call request run =
        (.ok (some ((run.requests call.observationClass).length, .capture)),
          (run.called.opened call.observationClass request).called) ∨
      ∃ lost, openDependency (.capture accepts) call request run = (.ok none, lost) ∧
        lost.active = false := by
  unfold openDependency
  rcases openObservation_cases (ε := ε) (.capture accepts) call.observationClass request active
    with opened | refused
  · rw [bind_ok opened]
    dsimp only
    rcases dispatch_capture_cases (ε := ε) accepts call.observationClass
        (run.requests call.observationClass).length request
        (run.called.opened call.observationClass request) with dispatched | refused
    · rw [bind_ok dispatched]
      exact .inl rfl
    · rw [bind_ok refused]
      exact .inr ⟨_, rfl, rfl⟩
  · rw [bind_ok refused]
    exact .inr ⟨_, rfl, rfl⟩

/-- Driving a dependency that captures. -/
theorem runDependency_captured (call : DependencyCall ε α) (keeps : Relates Extends live)
    (active : run.active = true)
    (kept : (runDependency (.capture accepts) call live run).2.active = true) :
    ∃ next, runDependency (.capture accepts) call live run =
        (.ok (.live (live ((HookedCall.dependency call).inside run)).1), next) ∧
      Captured (.dependency call) (live ((HookedCall.dependency call).inside run)) run
        ((live ((HookedCall.dependency call).inside run)).1, next) := by
  have lost {inside : Run} (inactive : inside.active = false) :
      (passDependency (.capture accepts) call live inside).2.active ≠ true := by
    rw [inactive_passDependency _ call keeps inactive]
    exact Bool.false_ne_true
  cases requested : call.request with
  | none =>
      unfold runDependency at kept
      rw [requested] at kept
      exact absurd kept (lost rfl)
  | some request =>
      have inside : (HookedCall.dependency call).inside run =
          (run.called.opened call.observationClass request).called := by
        show (run.called.opened _ (call.request.getD [])).called = _
        rw [requested]
        rfl
      rw [inside]
      unfold runDependency at kept ⊢
      rw [requested] at kept ⊢
      dsimp only at kept ⊢
      rcases openDependency_cases accepts call request active with opened | ⟨next, refused, inactive⟩
      · rw [bind_ok opened] at kept ⊢
        exact captureDependency_captured call run _ request requested kept
      · rw [bind_ok refused] at kept
        exact absurd kept (lost inactive)

/-- What becomes of the result of driving a dependency leaves the run as it is. -/
theorem executeDependency_run (mode : Mode) (call : DependencyCall ε α) (run : Run) :
    (executeDependency mode call live run).2 = (runDependency mode call live run).2 := by
  unfold executeDependency
  rcases driven : runDependency mode call live run with ⟨error | result, next⟩
  · rw [bind_error driven]
  · rw [bind_ok driven]
    cases result with
    | live outcome => rfl
    | replayed response => rfl
    | invalid => rfl

/-- A dependency call that captures. -/
theorem executeDependency_captured (call : DependencyCall ε α) (keeps : Relates Extends live)
    (active : run.active = true)
    (kept : (executeDependency (.capture accepts) call live run).2.active = true) :
    Captured (.dependency call) (live ((HookedCall.dependency call).inside run)) run
      (executeDependency (.capture accepts) call live run) := by
  rw [executeDependency_run] at kept
  rcases runDependency_captured call keeps active kept with ⟨next, returned, captures⟩
  unfold executeDependency
  rw [bind_ok returned]
  exact captures

/-- A hooked call that captures and loses nothing. -/
theorem capture_hooked (call : HookedCall ε α) (keeps : Relates Extends live)
    (active : run.active = true) (unguarded : run.reentrant = false)
    (kept : (call.run (.capture accepts) live run).2.active = true) :
    Captured call (live (call.inside run)) run (call.run (.capture accepts) live run) := by
  cases call with
  | observation call => exact observe_captured call keeps active unguarded kept
  | dependency call => exact executeDependency_captured call keeps active kept

end Capture

/-! ## One hooked call of a replay -/

section Replay

variable {ε α : Type} {recording : List Exchange} {exchange : Exchange} {run : Run}

/-- A replay accepts every call of an active operation. -/
theorem engineCall_replay (change : Run → Run) (active : run.active = true) :
    (engineCall (.replay recording) change run : Except ε Bool × Run) =
      (.ok true, change run.called) := by
  unfold engineCall
  rw [if_pos ⟨active, rfl⟩]

/-- A session of a replay opens at the next position. -/
theorem openObservation_replay (observationClass : AutomaticObservationClass) (request : Bytes)
    (active : run.active = true) :
    (openObservation (.replay recording) observationClass request run :
        Except ε (Option Nat) × Run) =
      (.ok (some (run.requests observationClass).length),
        run.called.opened observationClass request) := by
  unfold openObservation
  rw [gets_bind, if_pos active, gets_bind, bind_ok (engineCall_replay _ active)]
  rfl

/-- A replay dispatches the recorded request. -/
theorem dispatch_replay {observationClass : AutomaticObservationClass} {position : Nat}
    (found : recordedAt recording observationClass position = some exchange)
    (active : run.active = true) :
    (dispatch (.replay recording) observationClass position exchange.request run :
        Except ε (Option Action) × Run) =
      (.ok (some (.replay exchange)), run.called) := by
  unfold dispatch
  rw [bind_ok (engineCall_replay _ active), if_pos rfl]
  dsimp only
  rw [found]
  dsimp only
  rw [if_pos rfl]
  rfl

/-- A replay finishes a session with the recorded outcome. -/
theorem finishReplayed_replay (active : run.active = true) :
    (finishReplayed (.replay recording) exchange exchange.outcome run : Except ε Bool × Run) =
      (.ok true, run.called) := by
  unfold finishReplayed
  rw [if_pos rfl]
  exact engineCall_replay id active

/-- What a replay of a recorded exchange did in a hooked call: it opened one session, for the
recorded request. -/
structure Replayed (call : HookedCall ε α) (exchange : Exchange) (run : Run)
    (outcome : Except ε α) (result : Except ε α × Run) : Prop where
  outcome : result.1 = outcome
  active : result.2.active = true
  reentrant : result.2.reentrant = false
  sessions : result.2.sessions = run.sessions ++ [(call.observationClass, exchange.request)]

/-- A recorded response that a replay accepts ends the session. -/
theorem replayObservation_replayed (call : ObservationCall ε α) {outcome : Except ε α}
    (restores : call.restored exchange.response = some (outcome, exchange.outcome))
    (active : run.active = true) :
    replayObservation (.replay recording) call exchange run = (outcome, run.called) := by
  unfold replayObservation
  rw [restores]
  dsimp only
  rw [bind_ok (finishReplayed_replay active), if_pos rfl]
  rfl

/-- An open session of an observation that replays. -/
theorem observeOpened_replayed (call : ObservationCall ε α) (live : RunM ε α)
    {outcome : Except ε α} {position : Nat} (active : run.active = true)
    (found : recordedAt recording call.observationClass position = some exchange)
    (asks : exchange.request = call.request)
    (restores : call.restored exchange.response = some (outcome, exchange.outcome)) :
    observeOpened (.replay recording) call live position run =
      (outcome, run.called.called.called) := by
  unfold observeOpened
  rw [bind_ok (engineCall_replay id active), if_pos rfl, ← asks]
  have written : (id run.called).active = true := active
  rw [bind_ok (dispatch_replay found written)]
  exact replayObservation_replayed call restores active

/-- An observed call that replays. -/
theorem observe_replayed (call : ObservationCall ε α) (live : RunM ε α) {outcome : Except ε α}
    (active : run.active = true) (unguarded : run.reentrant = false)
    (found : recordedAt recording call.observationClass
      (run.requests call.observationClass).length = some exchange)
    (asks : exchange.request = call.request)
    (restores : (HookedCall.observation call).restored exchange.response exchange.outcome =
      some outcome) :
    Replayed (.observation call) exchange run outcome
      (observe (.replay recording) call live run) := by
  have read : call.restored exchange.response = some (outcome, exchange.outcome) := by
    rcases Option.bind_eq_some_iff.mp restores with ⟨⟨restored, kind⟩, read, same⟩
    dsimp only at same
    split at same
    · rename_i kinds
      cases same
      rw [read, kinds]
    · cases same
  let begun : Run := { run with reentrant := true }
  have observed : observeActive (.replay recording) call live begun =
      (outcome, ((begun.called.opened call.observationClass call.request).called.called).called) := by
    unfold observeActive
    have begins : begun.active = true := active
    rw [bind_ok (openObservation_replay _ _ begins)]
    exact observeOpened_replayed call live active found asks read
  unfold observe
  rw [gets_bind, gets_bind, if_pos ⟨active, unguarded⟩]
  unfold guarded
  rw [observed]
  exact ⟨rfl, active, unguarded, by rw [asks]; rfl⟩

/-- A dependency session that replays. -/
theorem openDependency_replayed (call : DependencyCall ε α) (active : run.active = true)
    (found : recordedAt recording call.observationClass
      (run.requests call.observationClass).length = some exchange) :
    openDependency (.replay recording) call exchange.request run =
      (.ok (some ((run.requests call.observationClass).length, .replay exchange)),
        (run.called.opened call.observationClass exchange.request).called) := by
  have opens : (run.called.opened call.observationClass exchange.request).active = true := active
  unfold openDependency
  rw [bind_ok (openObservation_replay _ _ active)]
  dsimp only
  rw [bind_ok (dispatch_replay found opens)]
  rfl

/-- A recorded dependency that a replay accepts ends the session. -/
theorem replayDependency_replayed (call : DependencyCall ε α) {record : Bytes}
    {response : DependencyResponse} (active : run.active = true)
    (read : readRecord exchange.response = some record)
    (received : call.responseFromRecord record exchange.outcome = some response) :
    replayDependency (.replay recording) call exchange run =
      (.ok (.replayed response), run.called) := by
  unfold replayDependency
  rw [read]
  dsimp only
  rw [bind_ok (finishReplayed_replay active), received]
  rfl

/-- A dependency call that replays. -/
theorem executeDependency_replayed (call : DependencyCall ε α) (live : RunM ε α)
    {outcome : Except ε α} (active : run.active = true) (unguarded : run.reentrant = false)
    (found : recordedAt recording call.observationClass
      (run.requests call.observationClass).length = some exchange)
    (asks : call.request = some exchange.request)
    (restores : (HookedCall.dependency call).restored exchange.response exchange.outcome =
      some outcome) :
    Replayed (.dependency call) exchange run outcome
      (executeDependency (.replay recording) call live run) := by
  rcases Option.bind_eq_some_iff.mp restores with ⟨record, read, rebuilds⟩
  rcases Option.map_eq_some_iff.mp rebuilds with ⟨response, received, rebuilt⟩
  have opens : (run.called.opened call.observationClass exchange.request).called.active = true :=
    active
  have driven : runDependency (.replay recording) call live run =
      (.ok (.replayed response),
        (run.called.opened call.observationClass exchange.request).called.called) := by
    unfold runDependency
    rw [asks]
    dsimp only
    rw [bind_ok (openDependency_replayed call active found)]
    exact replayDependency_replayed call opens read received
  unfold executeDependency
  rw [bind_ok driven]
  exact ⟨rebuilt, active, unguarded, rfl⟩

/-- A hooked call that replays. -/
theorem replay_hooked (call : HookedCall ε α) (live : RunM ε α) {outcome : Except ε α}
    (active : run.active = true) (unguarded : run.reentrant = false)
    (found : recordedAt recording call.observationClass
      (run.requests call.observationClass).length = some exchange)
    (asks : call.request = some exchange.request)
    (restores : call.restored exchange.response exchange.outcome = some outcome) :
    Replayed call exchange run outcome (call.run (.replay recording) live run) := by
  cases call with
  | observation call =>
      have asked : exchange.request = call.request := Eq.symm (Option.some.inj asks)
      exact observe_replayed call live active unguarded found asked restores
  | dependency call =>
      exact executeDependency_replayed call live active unguarded found asks restores

/-- A replay does not dispatch a request that is not recorded at its position. -/
theorem dispatch_unrecorded {observationClass : AutomaticObservationClass} {position : Nat}
    {request : Bytes} (active : run.active = true)
    (unrecorded : ¬ ∃ exchange, recordedAt recording observationClass position = some exchange ∧
      exchange.request = request) :
    ∃ lost, (dispatch (.replay recording) observationClass position request run :
        Except ε (Option Action) × Run) = (.ok none, lost) ∧ lost.active = false := by
  unfold dispatch
  rw [bind_ok (engineCall_replay _ active), if_pos rfl]
  dsimp only
  cases found : recordedAt recording observationClass position with
  | none => exact ⟨_, rfl, rfl⟩
  | some exchange =>
      dsimp only
      rw [if_neg fun asks => unrecorded ⟨exchange, found, asks⟩]
      exact ⟨_, rfl, rfl⟩

/-- A replay that ends a session of an observation accepted the response. -/
theorem replayObservation_accepted (call : ObservationCall ε α)
    (kept : (replayObservation (.replay recording) call exchange run).2.active = true) :
    ∃ outcome, (HookedCall.observation call).restored exchange.response exchange.outcome =
      some outcome := by
  unfold replayObservation at kept
  cases read : call.restored exchange.response with
  | none =>
      rw [read] at kept
      exact absurd kept Bool.false_ne_true
  | some restored =>
      rcases restored with ⟨outcome, kind⟩
      rw [read] at kept
      by_cases same : kind = exchange.outcome
      · refine ⟨outcome, ?_⟩
        show (call.restored exchange.response).bind _ = _
        rw [read]
        exact if_pos same
      · dsimp only at kept
        unfold finishReplayed at kept
        rw [if_neg same] at kept
        exact absurd kept Bool.false_ne_true

/-- A replay of an observation that was not given up accepted a recorded exchange. -/
theorem observe_accepted (call : ObservationCall ε α) {live : RunM ε α}
    (keeps : Relates Extends live) (active : run.active = true) (unguarded : run.reentrant = false)
    (kept : (observe (.replay recording) call live run).2.active = true) :
    ∃ exchange outcome, recordedAt recording call.observationClass
        (run.requests call.observationClass).length = some exchange ∧
      call.request = exchange.request ∧
      (HookedCall.observation call).restored exchange.response exchange.outcome =
        some outcome := by
  let begun : Run := { run with reentrant := true }
  have begins : begun.active = true := active
  have opens : (id (begun.called.opened call.observationClass call.request).called).active =
      true := active
  unfold observe at kept
  rw [gets_bind, gets_bind, if_pos ⟨active, unguarded⟩] at kept
  change (observeActive _ _ _ begun).2.active = true at kept
  unfold observeActive observeOpened at kept
  rw [bind_ok (openObservation_replay _ _ begins)] at kept
  dsimp only at kept
  have written : (engineCall (.replay recording) id
      (begun.called.opened call.observationClass call.request) : Except ε Bool × Run) = _ :=
    engineCall_replay id active
  rw [bind_ok written, if_pos rfl] at kept
  by_cases recorded : ∃ exchange, recordedAt recording call.observationClass
      (run.requests call.observationClass).length = some exchange ∧
        exchange.request = call.request
  · rcases recorded with ⟨exchange, found, asks⟩
    have dispatched := dispatch_replay (ε := ε) found opens
    rw [asks] at dispatched
    change dispatch _ _ (begun.requests call.observationClass).length _ _ = _ at dispatched
    rw [bind_ok dispatched] at kept
    rcases replayObservation_accepted call kept with ⟨outcome, restores⟩
    exact ⟨exchange, outcome, found, asks.symm, restores⟩
  · rcases dispatch_unrecorded (ε := ε) opens recorded with ⟨lost, refused, inactive⟩
    change dispatch _ _ (begun.requests call.observationClass).length _ _ = _ at refused
    rw [bind_ok refused] at kept
    exact absurd (Eq.symm (inactive_of_extends keeps inactive) |>.trans kept) Bool.false_ne_true

/-- A replay that ends a session of a dependency accepted the record. -/
theorem replayDependency_accepted (call : DependencyCall ε α)
    (kept : (replayDependency (.replay recording) call exchange run).2.active = true) :
    ∃ outcome, (HookedCall.dependency call).restored exchange.response exchange.outcome =
      some outcome := by
  unfold replayDependency at kept
  cases read : readRecord exchange.response with
  | none =>
      rw [read] at kept
      exact absurd kept Bool.false_ne_true
  | some record =>
      rw [read] at kept
      dsimp only at kept
      cases received : call.responseFromRecord record exchange.outcome with
      | some response =>
          refine ⟨call.rebuild response, ?_⟩
          show (readRecord exchange.response).bind _ = _
          rw [read]
          show (call.responseFromRecord record exchange.outcome).map _ = _
          rw [received]
          rfl
      | none =>
          rw [received] at kept
          unfold finishReplayed at kept
          rw [if_pos rfl] at kept
          rcases engineCall_cases (ε := ε) (.replay recording) id run with accepted | refused
          · rw [bind_ok accepted] at kept
            exact absurd kept Bool.false_ne_true
          · rw [bind_ok refused] at kept
            exact absurd kept Bool.false_ne_true

/-- A replay of a dependency that was not given up accepted a recorded exchange. -/
theorem executeDependency_accepted (call : DependencyCall ε α) {live : RunM ε α}
    (keeps : Relates Extends live) (active : run.active = true)
    (kept : (executeDependency (.replay recording) call live run).2.active = true) :
    ∃ exchange outcome, recordedAt recording call.observationClass
        (run.requests call.observationClass).length = some exchange ∧
      call.request = some exchange.request ∧
      (HookedCall.dependency call).restored exchange.response exchange.outcome =
        some outcome := by
  have lost {inside : Run} (inactive : inside.active = false) :
      (passDependency (.replay recording) call live inside).2.active ≠ true := by
    rw [inactive_passDependency _ call keeps inactive]
    exact Bool.false_ne_true
  rw [executeDependency_run] at kept
  unfold runDependency at kept
  cases requested : call.request with
  | none =>
      rw [requested] at kept
      exact absurd kept (lost rfl)
  | some request =>
      rw [requested] at kept
      have opens : (run.called.opened call.observationClass request).active = true := active
      by_cases recorded : ∃ exchange, recordedAt recording call.observationClass
          (run.requests call.observationClass).length = some exchange ∧ exchange.request = request
      · rcases recorded with ⟨exchange, found, rfl⟩
        dsimp only at kept
        rw [bind_ok (openDependency_replayed call active found)] at kept
        rcases replayDependency_accepted call kept with ⟨outcome, restores⟩
        exact ⟨exchange, outcome, found, rfl, restores⟩
      · dsimp only at kept
        rcases dispatch_unrecorded (ε := ε) opens recorded with ⟨next, refused, inactive⟩
        have closed : openDependency (.replay recording) call request run = (.ok none, next) := by
          unfold openDependency
          rw [bind_ok (openObservation_replay _ _ active)]
          dsimp only
          rw [bind_ok refused]
          rfl
        rw [bind_ok closed] at kept
        exact absurd kept (lost inactive)

/-- A replay of a hooked call that was not given up accepted a recorded exchange. -/
theorem accepted_hooked (call : HookedCall ε α) {live : RunM ε α} (keeps : Relates Extends live)
    (active : run.active = true) (unguarded : run.reentrant = false)
    (kept : (call.run (.replay recording) live run).2.active = true) :
    ∃ exchange, recordedAt recording call.observationClass
        (run.requests call.observationClass).length = some exchange ∧
      call.restored exchange.response exchange.outcome =
        some (call.run (.replay recording) live run).1 ∧
      Replayed call exchange run (call.run (.replay recording) live run).1
        (call.run (.replay recording) live run) := by
  have accepted : ∃ exchange outcome, recordedAt recording call.observationClass
        (run.requests call.observationClass).length = some exchange ∧
      call.request = some exchange.request ∧
      call.restored exchange.response exchange.outcome = some outcome := by
    cases call with
    | observation call =>
        rcases observe_accepted call keeps active unguarded kept with
          ⟨exchange, outcome, found, asks, restores⟩
        exact ⟨exchange, outcome, found, congrArg some asks, restores⟩
    | dependency call => exact executeDependency_accepted call keeps active kept
  rcases accepted with ⟨exchange, outcome, found, asks, restores⟩
  have replays := replay_hooked call live active unguarded found asks restores
  have same : (call.run (.replay recording) live run).1 = outcome := replays.outcome
  rw [same]
  exact ⟨exchange, found, restores, replays⟩

end Replay
end Replay
end ReproItSdk
