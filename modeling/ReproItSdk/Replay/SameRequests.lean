import ReproItSdk.Replay.HookedCalls

/-! # The requests of a replay

A replay opens the sessions of the capture when every hooked call was plain: its live function
opened no session of its own, and what it recorded gives back what it returned.  The original
function of an observed call runs under the guard of the adapters, the live function of a
dependency does not, so a hooked call inside the latter is recorded and never asked for again.

Main results:

- Theorem {lit}`reproduces_of_undisturbed`: a capture whose calls were all plain is reproduced.
- Theorem {lit}`reproducible_iff_undisturbed`: with other calls some application is not reproduced.
-/

namespace ReproItSdk
namespace Replay

open Fallible Wrappers

/-! ## Captures and replays of programs -/

section Programs

variable {ε α : Type}

/-- Every hooked call of a run is plain. -/
def Program.Undisturbed (surroundings : Surroundings ε α) : Program ε α → Run → Prop
  | .finish _, _ => True
  | .outside next, run =>
      (next (surroundings.answers run.outside)).Undisturbed surroundings
        { run with outside := run.outside + 1 }
  | .hooked call live next, run =>
      Plain surroundings call live run ∧
        (next (call.run surroundings.mode (live.run surroundings) run).1).Undisturbed surroundings
          (call.run surroundings.mode (live.run surroundings) run).2

/-- The exchanges of a class, in the order of their positions, are the requests of its sessions. -/
def Tidy (run : Run) : Prop :=
  ∀ observationClass position,
    (recordedAt run.records observationClass position).map (·.request) =
      (run.requests observationClass)[position]?

/-- A replay opened, in every class, the sessions that were recorded, in the same order, and it was
not given up. -/
structure Reproduces (recording : List Exchange) (run : Run) : Prop where
  active : run.active = true
  requests : ∀ observationClass position,
    (run.requests observationClass)[position]? =
      (recordedAt recording observationClass position).map (·.request)

/-- Every capture of a program that loses nothing is reproduced by every replay. -/
def Reproducible (program : Program ε α) : Prop :=
  ∀ accepts answers, (captured accepts answers program).2.Complete →
    ∀ others, Reproduces (captured accepts answers program).2.records
      (replayed (captured accepts answers program).2.records others program).2

/-! ## Recordings -/

/-- A longer recording finds what a shorter one finds. -/
theorem recordedAt_front {records recording : List Exchange} (begins : records <+: recording)
    {observationClass : AutomaticObservationClass} {position : Nat} {exchange : Exchange}
    (found : recordedAt records observationClass position = some exchange) :
    recordedAt recording observationClass position = some exchange := by
  rcases begins with ⟨rest, rfl⟩
  unfold recordedAt at found ⊢
  rw [List.find?_append, found]
  rfl

/-- The requests of a run with one more session. -/
theorem requests_append {before after : Run} {opened : AutomaticObservationClass}
    {request : Bytes} (sessions : after.sessions = before.sessions ++ [(opened, request)])
    (observationClass : AutomaticObservationClass) :
    after.requests observationClass =
      before.requests observationClass ++ if opened = observationClass then [request] else [] := by
  unfold Run.requests
  rw [sessions, List.filter_append, List.map_append]
  by_cases same : opened = observationClass
  · simp [same]
  · simp [same]

/-- The exchange of the next position of a class is not recorded yet. -/
theorem Tidy.next {run : Run} (tidy : Tidy run) (observationClass : AutomaticObservationClass) :
    recordedAt run.records observationClass (run.requests observationClass).length = none := by
  have absent := tidy observationClass (run.requests observationClass).length
  rw [List.getElem?_eq_none (Nat.le_refl _)] at absent
  exact Option.map_eq_none_iff.mp absent

/-- A recording with one more exchange, at the next position of its class, finds it there. -/
theorem recordedAt_append (records : List Exchange) (exchange : Exchange)
    (observationClass : AutomaticObservationClass) (position : Nat) :
    recordedAt (records ++ [exchange]) observationClass position =
      (recordedAt records observationClass position).or
        (if exchange.observationClass = observationClass ∧ exchange.position = position then
          some exchange
        else none) := by
  unfold recordedAt
  rw [List.find?_append, List.find?_singleton]
  simp only [decide_eq_true_eq]

/-- A session whose exchange was recorded at the next position keeps the recording tidy. -/
theorem Tidy.append {before after : Run} (tidy : Tidy before) {exchange : Exchange}
    (position : exchange.position = (before.requests exchange.observationClass).length)
    (sessions : after.sessions =
      before.sessions ++ [(exchange.observationClass, exchange.request)])
    (records : after.records = before.records ++ [exchange]) : Tidy after := by
  intro observationClass asked
  rw [records, recordedAt_append, requests_append sessions observationClass]
  have known := tidy observationClass asked
  by_cases same : exchange.observationClass = observationClass
  · subst same
    rw [if_pos rfl]
    rcases Nat.lt_trichotomy asked (before.requests exchange.observationClass).length with
      earlier | next | later
    · rw [List.getElem?_append_left earlier, ← known]
      rw [List.getElem?_eq_getElem earlier] at known
      rcases Option.map_eq_some_iff.mp known with ⟨found, recorded, _⟩
      rw [recorded]
      rfl
    · have absent : recordedAt before.records exchange.observationClass asked = none := by
        rw [next]
        exact tidy.next _
      rw [absent, Option.none_or, if_pos ⟨rfl, position.trans next.symm⟩, next,
        List.getElem?_append_right (Nat.le_refl _), Nat.sub_self]
      rfl
    · have beyond : (before.requests exchange.observationClass ++ [exchange.request]).length ≤
          asked := by
        rw [List.length_append]
        exact later
      rw [List.getElem?_eq_none (Nat.le_of_lt later)] at known
      rw [Option.map_eq_none_iff.mp known, Option.none_or, List.getElem?_eq_none beyond]
      have elsewhere : ¬ (exchange.observationClass = exchange.observationClass ∧
          exchange.position = asked) := by
        rw [position]
        omega
      rw [if_neg elsewhere]
      rfl
  · rw [if_neg same, List.append_nil, if_neg fun found => same found.1, Option.or_none]
    exact known

/-! ## Captures that lose nothing -/

/-- A run recorded one exchange for each of its further sessions. -/
structure Accounts (before after : Run) : Prop where
  balanced :
    after.records.length + before.sessions.length = after.sessions.length + before.records.length
  covered : ∀ observationClass position,
    (before.requests observationClass).length ≤ position →
      position < (after.requests observationClass).length →
        (recordedAt after.records observationClass position).isSome = true

/-- What two parts of a run recorded, the run recorded. -/
theorem Accounts.trans {before middle after : Run} (first : Accounts before middle)
    (second : Accounts middle after) (extended : Extends middle after) :
    Accounts before after where
  balanced := by
    have early := first.balanced
    have late := second.balanced
    omega
  covered := by
    intro observationClass position least most
    by_cases early : position < (middle.requests observationClass).length
    · have found := first.covered observationClass position least early
      rcases Option.isSome_iff_exists.mp found with ⟨exchange, recorded⟩
      rw [recordedAt_front extended.records recorded]
      rfl
    · exact second.covered observationClass position (Nat.le_of_not_lt early) most

/-- The session of a captured call is the first after those before it. -/
theorem HookedCall.sessions_inside (call : HookedCall ε α) (run : Run) {request : Bytes}
    (asks : call.request = some request) :
    (call.inside run).sessions = run.sessions ++ [(call.observationClass, request)] := by
  cases call with
  | observation call =>
      cases asks
      rfl
  | dependency call =>
      have asks : call.request = some request := asks
      show _ ++ [(_, call.request.getD [])] = _
      rw [asks]
      rfl

/-- Opening a session records nothing. -/
theorem HookedCall.records_inside (call : HookedCall ε α) (run : Run) :
    (call.inside run).records = run.records := by
  cases call with
  | observation call => rfl
  | dependency call => rfl

/-- A hooked call that captures and loses nothing records one exchange for its session, if its live
function does so for its own. -/
theorem Captured.accounts {call : HookedCall ε α} {lived result : Except ε α × Run} {run : Run}
    (captures : Captured call lived run result)
    (accounts : Accounts (call.inside run) lived.2) : Accounts run result.2 := by
  rcases captures.recorded with ⟨request, response, kind, asks, _, records⟩
  have opened := call.sessions_inside run asks
  constructor
  · have balanced := accounts.balanced
    rw [opened, call.records_inside, List.length_append, List.length_singleton] at balanced
    rw [records, captures.sessions, List.length_append, List.length_singleton]
    omega
  · intro observationClass position least most
    have same : result.2.requests observationClass = lived.2.requests observationClass := by
      unfold Run.requests
      rw [captures.sessions]
    have inside := requests_append opened observationClass
    rw [same] at most
    rw [records, recordedAt_append]
    by_cases nested : ((call.inside run).requests observationClass).length ≤ position
    · have found := accounts.covered observationClass position nested most
      rcases Option.isSome_iff_exists.mp found with ⟨exchange, recorded⟩
      rw [recorded]
      rfl
    · rw [inside, List.length_append] at nested
      have own : call.observationClass = observationClass := by
        by_contra other
        rw [if_neg other] at nested
        exact nested least
      subst own
      rw [if_pos rfl, List.length_singleton] at nested
      have next : (run.requests call.observationClass).length = position := by omega
      rw [if_pos ⟨rfl, next⟩]
      rw [Option.isSome_or]
      exact Bool.or_true _

/-- The operation is active when the live function of a captured call begins. -/
theorem HookedCall.active_inside (call : HookedCall ε α) (run : Run) :
    (call.inside run).active = run.active := by
  cases call with
  | observation call => rfl
  | dependency call => rfl

/-- An observed call that the SDK makes itself is passed through. -/
theorem observe_reentrant (mode : Mode) (call : ObservationCall ε α) (live : RunM ε α) {run : Run}
    (reentrant : run.reentrant = true) : observe mode call live run = live run := by
  unfold observe
  rw [gets_bind, gets_bind, if_neg]
  rw [reentrant]
  exact fun both => Bool.false_ne_true both.2.symm

/-- A captured call is passed through, or it is captured. -/
theorem captured_or_passed {accepts : Nat → Bool} {live : RunM ε α} {run : Run}
    (call : HookedCall ε α) (keeps : Relates Extends live) (active : run.active = true)
    (kept : (call.run (.capture accepts) live run).2.active = true) :
    call.run (.capture accepts) live run = live run ∨
      Captured call (live (call.inside run)) run (call.run (.capture accepts) live run) := by
  cases call with
  | observation call =>
      cases reentrant : run.reentrant with
      | true => exact .inl (observe_reentrant _ call live reentrant)
      | false => exact .inr (observe_captured call keeps active reentrant kept)
  | dependency call => exact .inr (executeDependency_captured call keeps active kept)

/-- A capture that loses nothing records one exchange for each session. -/
theorem accounts_run (accepts : Nat → Bool) (answers : Nat → Except ε α) (program : Program ε α) :
    ∀ run : Run, run.active = true →
      (program.run ⟨.capture accepts, answers⟩ run).2.active = true →
      Accounts run (program.run ⟨.capture accepts, answers⟩ run).2 := by
  induction program with
  | finish outcome =>
      intro run _ _
      exact ⟨Nat.add_comm _ _, fun _ _ least most => absurd most (Nat.not_lt.mpr least)⟩
  | outside next accounts =>
      intro run active kept
      have rest := accounts _ { run with outside := run.outside + 1 } active kept
      exact ⟨rest.balanced, rest.covered⟩
  | hooked call live next accountsLive accounts =>
      intro run active kept
      let result := call.run (.capture accepts) (live.run ⟨.capture accepts, answers⟩) run
      have extended := extends_run ⟨.capture accepts, answers⟩ (next result.1) result.2
      have still : result.2.active = true := extended.active kept
      have first : Accounts run result.2 := by
        rcases captured_or_passed call (extends_run _ live) active still with passed | captures
        · have lived : (live.run ⟨.capture accepts, answers⟩ run).2.active = true := by
            rw [← passed]
            exact still
          show Accounts run (call.run _ _ run).2
          rw [passed]
          exact accountsLive run active lived
        · have begins : (call.inside run).active = true := by
            rw [call.active_inside]
            exact active
          exact captures.accounts (accountsLive _ begins captures.active)
      exact first.trans (accounts result.1 result.2 still kept) extended

/-! ## Plain calls -/

/-- A program that opens no session and loses nothing records nothing. -/
theorem quiet_records {accepts : Nat → Bool} {answers : Nat → Except ε α} {program : Program ε α}
    {run : Run} (quiet : (program.run ⟨.capture accepts, answers⟩ run).2.sessions = run.sessions)
    (active : run.active = true)
    (kept : (program.run ⟨.capture accepts, answers⟩ run).2.active = true) :
    (program.run ⟨.capture accepts, answers⟩ run).2.records = run.records := by
  have balanced := (accounts_run accepts answers program run active kept).balanced
  rw [quiet] at balanced
  symm
  apply (extends_run ⟨.capture accepts, answers⟩ program run).records.eq_of_length
  omega

/-- A plain call that was captured opened one session and recorded one exchange, which restores its
outcome. -/
theorem Plain.captured {accepts : Nat → Bool} {answers : Nat → Except ε α}
    {call : HookedCall ε α} {live : Program ε α} {run : Run} {result : Except ε α × Run}
    (plain : Plain ⟨.capture accepts, answers⟩ call live run) (active : run.active = true)
    (captures : Captured call (live.run ⟨.capture accepts, answers⟩ (call.inside run)) run
      result) :
    ∃ exchange, call.request = some exchange.request ∧
      exchange.observationClass = call.observationClass ∧
      exchange.position = (run.requests call.observationClass).length ∧
      call.restored exchange.response exchange.outcome = some result.1 ∧
      result.2.sessions = run.sessions ++ [(call.observationClass, exchange.request)] ∧
      result.2.records = run.records ++ [exchange] := by
  rcases captures.recorded with ⟨request, response, kind, asks, recorded, records⟩
  refine ⟨call.exchange run request response kind, asks, rfl, rfl, ?_, ?_, ?_⟩
  · rw [captures.outcome]
    exact plain.faithful response kind recorded
  · rw [captures.sessions, plain.quiet, call.sessions_inside run asks]
    rfl
  · have begins : (call.inside run).active = true := by
      rw [call.active_inside]
      exact active
    have same := quiet_records plain.quiet begins captures.active
    rw [records, same, call.records_inside]

/-! ## Replays -/

/-- A replay is where the capture was: it opened the same sessions, and nothing was given up. -/
structure Follows (original replay : Run) : Prop where
  tidy : Tidy original
  unguarded : original.reentrant = false
  active : replay.active = true
  reentrant : replay.reentrant = false
  sessions : replay.sessions = original.sessions

/-- A replay of a plain call gives the application what the capture gave it. -/
theorem Follows.hooked {accepts : Nat → Bool} {answers : Nat → Except ε α}
    {recording : List Exchange} {original replay : Run} (follows : Follows original replay)
    {call : HookedCall ε α} {live : Program ε α} (others : RunM ε α)
    (plain : Plain ⟨.capture accepts, answers⟩ call live original)
    (kept : (call.run (.capture accepts) (live.run ⟨.capture accepts, answers⟩)
      original).2.active = true)
    (recorded : (call.run (.capture accepts) (live.run ⟨.capture accepts, answers⟩)
      original).2.records <+: recording) :
    Follows (call.run (.capture accepts) (live.run ⟨.capture accepts, answers⟩) original).2
        (call.run (.replay recording) others replay).2 ∧
      (call.run (.replay recording) others replay).1 =
        (call.run (.capture accepts) (live.run ⟨.capture accepts, answers⟩) original).1 := by
  have keeps : Relates Extends (live.run ⟨.capture accepts, answers⟩) := extends_run _ live
  have kinds : Relates Extends (call.run (.capture accepts)
      (live.run ⟨.capture accepts, answers⟩)) := extends_hooked _ call keeps
  have begins : original.active = true := (kinds original).active kept
  have captures := capture_hooked call keeps begins follows.unguarded kept
  rcases plain.captured begins captures with
    ⟨exchange, asks, kind, position, restores, sessions, records⟩
  have same : replay.requests call.observationClass = original.requests call.observationClass := by
    unfold Run.requests
    rw [follows.sessions]
  have found : recordedAt recording call.observationClass
      (replay.requests call.observationClass).length = some exchange := by
    apply recordedAt_front recorded
    rw [records, recordedAt_append, same, follows.tidy.next, Option.none_or,
      if_pos ⟨kind, position⟩]
  have replays := replay_hooked call others follows.active follows.reentrant found asks restores
  have tidy : Tidy (call.run (.capture accepts) (live.run ⟨.capture accepts, answers⟩)
      original).2 := by
    rw [← kind] at position sessions
    exact follows.tidy.append position sessions records
  refine ⟨⟨tidy, ?_, replays.active, replays.reentrant, ?_⟩, replays.outcome⟩
  · exact (kinds original).reentrant.trans follows.unguarded
  · rw [replays.sessions, sessions, follows.sessions]

/-- A replay of an application follows a capture whose calls were plain. -/
theorem Follows.run {calls : HookedCall ε α → Program ε α → Prop} {accepts : Nat → Bool}
    {answers others : Nat → Except ε α} {recording : List Exchange} (program : Program ε α) :
    ∀ {original replay : Run}, Follows original replay → program.Over calls →
      program.Undisturbed ⟨.capture accepts, answers⟩ original →
      (program.run ⟨.capture accepts, answers⟩ original).2.active = true →
      (program.run ⟨.capture accepts, answers⟩ original).2.records <+: recording →
      Follows (program.run ⟨.capture accepts, answers⟩ original).2
        (program.run ⟨.replay recording, others⟩ replay).2 := by
  induction program with
  | finish outcome => exact fun follows _ _ _ _ => follows
  | outside next _ => exact fun _ confined _ _ _ => confined.elim
  | hooked call live next _ continues =>
      intro original replay follows confined undisturbed kept recorded
      let result := call.run (.capture accepts) (live.run ⟨.capture accepts, answers⟩) original
      have extended := extends_run ⟨.capture accepts, answers⟩ (next result.1) result.2
      rcases follows.hooked (live.run ⟨.replay recording, others⟩) undisturbed.1
          (extended.active kept) (extended.records.trans recorded) with ⟨followed, same⟩
      have rest := continues result.1 followed (confined.2 result.1) undisturbed.2 kept recorded
      show Follows _ ((next (call.run _ _ replay).1).run _ (call.run _ _ replay).2).2
      rw [same]
      exact rest

/-- A capture whose calls were plain, and that lost nothing, is reproduced by every replay. -/
theorem reproduces_of_undisturbed {calls : HookedCall ε α → Program ε α → Prop}
    {program : Program ε α} (confined : program.Over calls) {accepts : Nat → Bool}
    {answers : Nat → Except ε α}
    (undisturbed : program.Undisturbed ⟨.capture accepts, answers⟩ Run.start)
    (complete : (captured accepts answers program).2.Complete) (others : Nat → Except ε α) :
    Reproduces (captured accepts answers program).2.records
      (replayed (captured accepts answers program).2.records others program).2 := by
  have starts : Follows Run.start Run.start :=
    ⟨fun _ _ => rfl, rfl, rfl, rfl, rfl⟩
  have followed : Follows (captured accepts answers program).2
      (replayed (captured accepts answers program).2.records others program).2 :=
    starts.run program confined undisturbed complete.1 (List.prefix_refl _)
  refine ⟨followed.active, fun observationClass position => ?_⟩
  rw [followed.tidy observationClass position]
  unfold Run.requests
  rw [followed.sessions]

/-! ## Applications that are not reproduced -/

/-- What comes before a program in an application, up to a run of its capture. -/
structure Reaches (calls : HookedCall ε α → Program ε α → Prop) (accepts : Nat → Bool)
    (answers : Nat → Except ε α) (before : Program ε α → Program ε α) (run : Run) : Prop where
  confined : ∀ program, program.Over calls → (before program).Over calls
  captures : ∀ program, captured accepts answers (before program) =
    program.run ⟨.capture accepts, answers⟩ run
  replays : ∀ recording others, run.records <+: recording → ∃ replay, Follows run replay ∧
    ∀ program, replayed recording others (before program) =
      program.run ⟨.replay recording, others⟩ replay

section Converse

variable {calls : HookedCall ε α → Program ε α → Prop} {accepts : Nat → Bool}
  {answers : Nat → Except ε α} {before : Program ε α → Program ε α} {run : Run}

/-- Nothing comes before an application. -/
theorem reaches_start : Reaches calls accepts answers id Run.start where
  confined _ confined := confined
  captures _ := rfl
  replays _ _ _ := ⟨Run.start, ⟨fun _ _ => rfl, rfl, rfl, rfl, rfl⟩, fun _ => rfl⟩

open Classical in
/-- A program that goes on after one outcome and ends after any other. -/
noncomputable def expecting (outcome : Except ε α) (program : Program ε α)
    (returned : Except ε α) : Program ε α :=
  if returned = outcome then program else .finish returned

/-- After the outcome that is expected the program goes on. -/
theorem expecting_self (outcome : Except ε α) (program : Program ε α) :
    expecting outcome program outcome = program :=
  if_pos rfl

/-- A plain call that loses nothing comes before the rest of an application. -/
theorem Reaches.hooked (reaches : Reaches calls accepts answers before run)
    {call : HookedCall ε α} {live : Program ε α} (allowed : calls call live)
    (plain : Plain ⟨.capture accepts, answers⟩ call live run)
    (kept : (call.run (.capture accepts) (live.run ⟨.capture accepts, answers⟩)
      run).2.active = true) :
    Reaches calls accepts answers
      (fun program => before (.hooked call live (expecting
        (call.run (.capture accepts) (live.run ⟨.capture accepts, answers⟩) run).1 program)))
      (call.run (.capture accepts) (live.run ⟨.capture accepts, answers⟩) run).2 where
  confined program confined := by
    apply reaches.confined
    refine ⟨allowed, fun outcome => ?_⟩
    unfold expecting
    split
    · exact confined
    · trivial
  captures program := by
    rw [reaches.captures]
    show (expecting _ program _).run _ _ = _
    rw [expecting_self]
  replays recording others recorded := by
    have keeps := extends_hooked (.capture accepts) call
      (extends_run ⟨.capture accepts, answers⟩ live)
    rcases reaches.replays recording others ((keeps run).records.trans recorded) with
      ⟨replay, follows, replays⟩
    rcases follows.hooked (live.run ⟨.replay recording, others⟩) plain kept recorded with
      ⟨followed, same⟩
    refine ⟨_, followed, fun program => ?_⟩
    rw [replays]
    show (expecting _ program (call.run _ _ replay).1).run _ (call.run _ _ replay).2 = _
    rw [same, expecting_self]

/-- A replay of an application accepts a call that comes after what was reproduced. -/
theorem Reaches.accepted (reaches : Reaches calls accepts answers before run)
    (reproducible : ∀ program, program.Over calls → Reproducible program)
    {call : HookedCall ε α} {live : Program ε α} (allowed : calls call live)
    {next : Except ε α → Program ε α} (confined : ∀ outcome, (next outcome).Over calls)
    {final : Except ε α × Run}
    (captures : (Program.hooked call live next).run ⟨.capture accepts, answers⟩ run = final)
    (complete : final.2.Complete) :
    ∃ replay exchange, Follows run replay ∧
      let replays := call.run (.replay final.2.records)
        (live.run ⟨.replay final.2.records, answers⟩) replay
      recordedAt final.2.records call.observationClass
        (run.requests call.observationClass).length = some exchange ∧
      call.restored exchange.response exchange.outcome = some replays.1 ∧
      Replayed call exchange replay replays.1 replays ∧
      Reproduces final.2.records
        ((next replays.1).run ⟨.replay final.2.records, answers⟩ replays.2).2 := by
  have applied : captured accepts answers (before (.hooked call live next)) = final := by
    rw [reaches.captures, captures]
  have extended := extends_run ⟨.capture accepts, answers⟩ (.hooked call live next) run
  rw [captures] at extended
  rcases reaches.replays final.2.records answers extended.records with ⟨replay, follows, replays⟩
  have whole : (Program.hooked call live next).Over calls := ⟨allowed, confined⟩
  have reproduces := reproducible _ (reaches.confined _ whole) accepts answers
  rw [applied] at reproduces
  have reproduced := reproduces complete answers
  rw [replays] at reproduced
  have kept := (extends_run ⟨.replay final.2.records, answers⟩ (next _) _).active reproduced.active
  rcases accepted_hooked call (extends_run _ live) follows.active follows.reentrant kept with
    ⟨exchange, found, restores, replayed⟩
  have same : replay.requests call.observationClass = run.requests call.observationClass := by
    unfold Run.requests
    rw [follows.sessions]
  rw [same] at found
  exact ⟨replay, exchange, follows, found, restores, replayed, reproduced⟩

/-- A replay of a call opened as many sessions as its capture opened before the live function
began. -/
theorem Replayed.requests_length {call : HookedCall ε α} {exchange : Exchange}
    {replay original inside : Run} {outcome : Except ε α} {result : Except ε α × Run}
    {request : Bytes} (replays : Replayed call exchange replay outcome result)
    (same : replay.sessions = original.sessions)
    (opened : inside.sessions = original.sessions ++ [(call.observationClass, request)])
    (observationClass : AutomaticObservationClass) :
    (result.2.requests observationClass).length = (inside.requests observationClass).length := by
  have sessions := replays.sessions
  rw [same] at sessions
  rw [requests_append sessions, requests_append opened, List.length_append, List.length_append]
  split
  · rfl
  · rfl

/-- If every application is reproduced, the live function of a call asks for nothing. -/
theorem Reaches.quiet (reaches : Reaches calls accepts answers before run)
    (reproducible : ∀ program, program.Over calls → Reproducible program)
    {call : HookedCall ε α} {live : Program ε α} (allowed : calls call live)
    {lived result : Except ε α × Run} (captures : Captured call lived run result)
    (ran : call.run (.capture accepts) (live.run ⟨.capture accepts, answers⟩) run = result)
    (extended : Extends (call.inside run) lived.2) (complete : result.2.Complete) :
    lived.2.sessions = (call.inside run).sessions := by
  have ends : (Program.hooked call live .finish).run ⟨.capture accepts, answers⟩ run = result := by
    rw [← ran]
    rfl
  have confined (outcome : Except ε α) : (Program.finish outcome).Over calls := trivial
  rcases reaches.accepted reproducible allowed confined ends complete with
    ⟨replay, exchange, follows, _, _, replays, reproduces⟩
  have accounts := accounts_run accepts answers (before (.hooked call live .finish)) Run.start rfl
  have applied : captured accepts answers (before (.hooked call live .finish)) = result := by
    rw [reaches.captures, ends]
  change (captured _ _ _).2.active = true → Accounts _ (captured _ _ _).2 at accounts
  rw [applied] at accounts
  rcases captures.recorded with ⟨request, response, kind, requested, _, _⟩
  rcases extended.sessions with ⟨nested, sessions⟩
  cases nested with
  | nil => rw [← sessions, List.append_nil]
  | cons session rest =>
      rcases session with ⟨observationClass, asked⟩
      exfalso
      have longer : ((call.inside run).requests observationClass).length <
          (result.2.requests observationClass).length := by
        unfold Run.requests
        rw [captures.sessions, ← sessions]
        simp
      have recorded := (accounts complete.1).covered observationClass _ (Nat.zero_le _) longer
      rcases Option.isSome_iff_exists.mp recorded with ⟨unasked, found⟩
      have asks := reproduces.requests observationClass
        ((call.inside run).requests observationClass).length
      have opened := replays.requests_length follows.sessions
        (call.sessions_inside run requested) observationClass
      rw [found] at asks
      change (Run.requests (HookedCall.run _ call _ replay).2 _)[_]? = _ at asks
      rw [List.getElem?_eq_none (Nat.le_of_eq opened)] at asks
      cases asks

open Classical in
/-- A program that ends after one outcome and makes a call again after any other. -/
noncomputable def insisting (call : HookedCall ε α) (live : Program ε α)
    (outcome returned : Except ε α) : Program ε α :=
  if returned = outcome then .finish returned else .hooked call live .finish

/-- If every application is reproduced, every call that loses nothing is plain. -/
theorem Reaches.plain (reaches : Reaches calls accepts answers before run)
    (reproducible : ∀ program, program.Over calls → Reproducible program)
    {call : HookedCall ε α} {live : Program ε α} (allowed : calls call live)
    (complete : (call.run (.capture accepts) (live.run ⟨.capture accepts, answers⟩)
      run).2.Complete) :
    Plain ⟨.capture accepts, answers⟩ call live run := by
  rcases reaches.replays run.records answers (List.prefix_refl _) with ⟨_, begun, _⟩
  have keeps := extends_run ⟨.capture accepts, answers⟩ live
  have active := (extends_hooked (.capture accepts) call keeps run).active complete.1
  have captures := capture_hooked call keeps active begun.unguarded complete.1
  have quiet := reaches.quiet reproducible allowed captures rfl
    (keeps (call.inside run)) complete
  refine ⟨quiet, fun response kind recorded => ?_⟩
  generalize ran : call.run (.capture accepts) (live.run ⟨.capture accepts, answers⟩) run =
    result at captures complete
  have ends : (Program.hooked call live (insisting call live result.1)).run
      ⟨.capture accepts, answers⟩ run = result := by
    show (insisting call live result.1 (call.run _ _ run).1).run _ (call.run _ _ run).2 = _
    rw [ran]
    unfold insisting
    rw [if_pos rfl]
    rfl
  have confined (outcome : Except ε α) : (insisting call live result.1 outcome).Over calls := by
    unfold insisting
    split
    · trivial
    · exact ⟨allowed, fun _ => trivial⟩
  rcases reaches.accepted reproducible allowed confined ends complete with
    ⟨replay, exchange, follows, found, restores, replays, reproduces⟩
  rcases captures.recorded with ⟨request, known, kept, requested, unique, records⟩
  cases recorded.symm.trans unique
  have begins : (call.inside run).active = true := by
    rw [call.active_inside]
    exact active
  rw [quiet_records quiet begins captures.active, call.records_inside] at records
  have own : recordedAt result.2.records call.observationClass
      (run.requests call.observationClass).length =
        some (call.exchange run request response kind) := by
    rw [records, recordedAt_append, begun.tidy.next, Option.none_or, if_pos ⟨rfl, rfl⟩]
  cases own.symm.trans found
  by_cases same : (call.run (.replay result.2.records)
      (live.run ⟨.replay result.2.records, answers⟩) replay).1 = result.1
  · rw [same, captures.outcome] at restores
    exact restores
  · exfalso
    unfold insisting at reproduces
    rw [if_neg same] at reproduces
    rcases accepted_hooked call (extends_run _ live) replays.active replays.reentrant
        reproduces.active with ⟨further, again, _, _⟩
    have sessions : result.2.sessions =
        run.sessions ++ [((call.exchange run request response kind).observationClass, request)] := by
      rw [captures.sessions, quiet]
      exact call.sessions_inside run requested
    have tidy := begun.tidy.append rfl sessions records
    have more := replays.requests_length follows.sessions sessions call.observationClass
    rw [more, tidy.next] at again
    cases again

/-- If every application is reproduced, the rest of a capture that loses nothing is plain. -/
theorem Reaches.undisturbed
    (reproducible : ∀ program, program.Over calls → Reproducible program)
    (program : Program ε α) : ∀ {before run}, Reaches calls accepts answers before run →
      program.Over calls → (program.run ⟨.capture accepts, answers⟩ run).2.Complete →
      program.Undisturbed ⟨.capture accepts, answers⟩ run := by
  induction program with
  | finish outcome => exact fun _ _ _ => trivial
  | outside next _ => exact fun _ confined _ => confined.elim
  | hooked call live next _ continues =>
      intro before run reaches confined complete
      have extended := extends_run ⟨.capture accepts, answers⟩
        (next (call.run (.capture accepts) (live.run ⟨.capture accepts, answers⟩) run).1)
        (call.run (.capture accepts) (live.run ⟨.capture accepts, answers⟩) run).2
      have first := extended.complete complete
      have plain := reaches.plain reproducible confined.1 first
      exact ⟨plain, continues _ (reaches.hooked confined.1 plain first.1) (confined.2 _) complete⟩

end Converse

/-- Every application over some hooked calls is reproduced exactly when in every capture that loses
nothing their live functions open no sessions and their records restore what they returned. -/
theorem reproducible_iff_undisturbed (calls : HookedCall ε α → Program ε α → Prop) :
    (∀ program, program.Over calls → Reproducible program) ↔
      ∀ program, program.Over calls → ∀ accepts answers,
        (captured accepts answers program).2.Complete →
          program.Undisturbed ⟨.capture accepts, answers⟩ Run.start := by
  constructor
  · intro reproducible program confined accepts answers complete
    exact Reaches.undisturbed reproducible program reaches_start confined complete
  · intro undisturbed program confined accepts answers complete others
    exact reproduces_of_undisturbed confined (undisturbed program confined accepts answers complete)
      complete others

end Programs

/-! ## A converter that reads the clock -/

/-- The call {lit}`time.time_ns()`. -/
def wallTime : ObservationCall String Bytes where
  kind := fun _ => .exception
  missingKey := none
  encode := some
  response := fun
    | .value bytes => 1 :: bytes
    | .missing => [0]
    | .error _ => [2]
  parse := fun
    | 1 :: bytes => some (.value (some bytes))
    | _ => none
  recordedException := fun _ _ => "other"
  decode := id
  observationClass := .clock
  request := [0]
  invalidRecord := "invalid"

/-- The call {lit}`cursor.fetchone()`. -/
def fetchOne : DependencyCall String Bytes where
  encodeError := fun _ => none
  encode := fun value => some { outcome := "response", payload := some value }
  observationClass := .database
  request := some [1]
  record := fun response => response.payload.map fun payload => (payload, .response)
  responseFromRecord := fun record _ => some { outcome := "response", payload := some record }
  rebuild := fun response => response.payload.elim (.error "invalid") .ok
  invalidReplay := "invalid"

/-- An application that fetches a row, with a converter that reads the clock. -/
def stampedFetch : Program String Bytes :=
  .hooked (.dependency fetchOne)
    (.hooked (.observation wallTime) (.outside .finish) .finish)
    .finish

/-- The capture of the fetch loses nothing and each of its records restores what was returned, but
no replay asks for the time. -/
theorem stamped_fetch_not_reproduced :
    (captured (fun _ => true) (fun _ => .ok [7]) stampedFetch).2.Complete ∧
      (HookedCall.dependency fetchOne).restored [7] .response = some (.ok [7]) ∧
      (HookedCall.observation wallTime).restored [1, 7] .response = some (.ok [7]) ∧
      ¬ Reproducible stampedFetch := by
  have complete : (captured (fun _ => true) (fun _ => .ok [7]) stampedFetch).2.Complete :=
    ⟨rfl, rfl⟩
  refine ⟨complete, by decide, by decide, fun reproducible => ?_⟩
  have reproduces := reproducible _ _ complete fun _ => .ok [7]
  have asks := reproduces.requests .clock 0
  have recorded : recordedAt
      (captured (fun _ => true) (fun _ => .ok [7]) stampedFetch).2.records .clock 0 =
        some ⟨.clock, 0, [0], [1, 7], .response⟩ := by decide
  rw [recorded] at asks
  have unasked : ((replayed
      (captured (fun _ => true) (fun _ => .ok [7]) stampedFetch).2.records
      (fun _ => .ok [7]) stampedFetch).2.requests .clock)[0]? = none := by decide
  rw [unasked] at asks
  cases asks

end Replay
end ReproItSdk
