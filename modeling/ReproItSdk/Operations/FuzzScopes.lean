import Mathlib.Data.List.Basic
import Mathlib.Logic.Function.Basic
import ReproItSdk.Core.Model

/-! # Scopes of fuzz campaign contexts

Each thread keeps a stack of the campaign contexts that {lit}`scope_sync` and the polls of
{lit}`FuzzContextScope` installed on it.  The stack is bounded, and a scope whose context does not
fit runs its body without installing it.

A thread also lists the scopes that enclose what it runs, innermost first, each with what
{lit}`current` returned before it was entered.

Main results:

- Theorem {lit}`nested_reached`: the stack holds the contexts of the outermost scopes that found
  room, on every thread and after every run.
- Theorem {lit}`restored_reached`: the end of a body or of a poll restores what {lit}`current`
  returned before.
- Theorem {lit}`scoped_iff`: when {lit}`current` is the context of the innermost scope.
-/

namespace ReproItSdk
namespace FuzzScopes

variable {FuzzCampaignContext : Type*}

/-! ## One thread -/

/-- {lit}`MAX_CONTEXT_DEPTH`. -/
def maxContextDepth : Nat :=
  16

/-- A scope whose body runs: its context, whether its guard was installed, and what
{lit}`current` returned before. -/
structure Frame (FuzzCampaignContext : Type*) where
  context : FuzzCampaignContext
  guard : Bool
  before : Except Error FuzzCampaignContext

/-- {lit}`ACTIVE_FUZZ_CONTEXT` of a thread, last pushed first, whether it was destroyed, and the
scopes around what the thread runs. -/
structure Thread (FuzzCampaignContext : Type*) where
  contexts : List FuzzCampaignContext
  destroyed : Bool
  frames : List (Frame FuzzCampaignContext)

namespace Thread

/-- A thread that has run nothing. -/
def new : Thread FuzzCampaignContext where
  contexts := []
  destroyed := false
  frames := []

/-- {lit}`FuzzCampaignContext::current`, where {lit}`last` is the top of the stack. -/
def current (schemaInvalid : Error) (thread : Thread FuzzCampaignContext) :
    Except Error FuzzCampaignContext :=
  match thread.destroyed, thread.contexts with
  | false, context :: _ => .ok context
  | _, _ => .error schemaInvalid

/-- {lit}`FuzzContextGuard::install`, with whether it returns a guard. -/
def install (thread : Thread FuzzCampaignContext) (context : FuzzCampaignContext) :
    Bool × Thread FuzzCampaignContext :=
  if thread.destroyed then (false, thread)
  else if thread.contexts.length ≥ maxContextDepth then (false, thread)
  else (true, { thread with contexts := context :: thread.contexts })

/-- {lit}`drop` of a guard. -/
def drop (thread : Thread FuzzCampaignContext) : Thread FuzzCampaignContext :=
  if thread.destroyed then thread else { thread with contexts := thread.contexts.tail }

/-- Start of the body of {lit}`scope_sync`, or of the inner poll of a scope. -/
def enter (schemaInvalid : Error) (thread : Thread FuzzCampaignContext)
    (context : FuzzCampaignContext) : Thread FuzzCampaignContext :=
  { (thread.install context).2 with
    frames :=
      { context := context, guard := (thread.install context).1,
        before := thread.current schemaInvalid } :: thread.frames }

/-- End of the innermost body: its guard is dropped if there is one, whether the body returns or
unwinds. -/
def leave (thread : Thread FuzzCampaignContext) : Thread FuzzCampaignContext :=
  match thread.frames with
  | [] => thread
  | frame :: outer =>
      { (if frame.guard then thread.drop else thread) with frames := outer }

/-- Destruction of the thread's local values, once the thread has left every scope. -/
def exit (thread : Thread FuzzCampaignContext) : Thread FuzzCampaignContext :=
  match thread.frames with
  | [] => { contexts := [], destroyed := true, frames := [] }
  | _ :: _ => thread

end Thread

/-! ## Threads of a process -/

/-- Threads of a process, and the contexts of the scoped futures that it made. -/
structure Process (FuzzCampaignContext : Type*) where
  threads : Nat → Thread FuzzCampaignContext
  futures : List FuzzCampaignContext

/-- How a body ends. -/
inductive Ending where
  | returned
  | panicked
deriving DecidableEq, Repr

/-- What threads do: they enter {lit}`scope_sync`, make a scoped future, poll one, end the
innermost body, or exit. -/
inductive Event (FuzzCampaignContext : Type*) where
  | scopeSync (thread : Nat) (context : FuzzCampaignContext)
  | scope (context : FuzzCampaignContext)
  | poll (thread future : Nat)
  | leave (thread : Nat) (ending : Ending)
  | exit (thread : Nat)

namespace Process

/-- A process that has started nothing. -/
def new : Process FuzzCampaignContext where
  threads := fun _ => Thread.new
  futures := []

/-- Change of one thread. -/
def onThread (process : Process FuzzCampaignContext) (thread : Nat)
    (change : Thread FuzzCampaignContext → Thread FuzzCampaignContext) :
    Process FuzzCampaignContext :=
  { process with
    threads := Function.update process.threads thread (change (process.threads thread)) }

/-- One event. -/
def step (schemaInvalid : Error) (process : Process FuzzCampaignContext) :
    Event FuzzCampaignContext → Process FuzzCampaignContext
  | .scopeSync thread context =>
      process.onThread thread fun state => state.enter schemaInvalid context
  | .scope context => { process with futures := process.futures ++ [context] }
  | .poll thread future =>
      match process.futures[future]? with
      | some context => process.onThread thread fun state => state.enter schemaInvalid context
      | none => process
  | .leave thread _ => process.onThread thread Thread.leave
  | .exit thread => process.onThread thread Thread.exit

/-- State after a history. -/
def reached (schemaInvalid : Error) (history : List (Event FuzzCampaignContext)) :
    Process FuzzCampaignContext :=
  history.foldl (step schemaInvalid) new

end Process

/-! ## What the stack holds -/

/-- The stack of a thread and the scopes around what it runs: a scope that finds room has its
context on the stack, and one that does not leaves the stack as it was. -/
inductive Nested (schemaInvalid : Error) (destroyed : Bool) :
    List FuzzCampaignContext → List (Frame FuzzCampaignContext) → Prop where
  | nil : Nested schemaInvalid destroyed [] []
  | installed {contexts : List FuzzCampaignContext} {frames : List (Frame FuzzCampaignContext)}
      (context : FuzzCampaignContext) (nested : Nested schemaInvalid destroyed contexts frames)
      (alive : destroyed = false) (room : contexts.length < maxContextDepth) :
      Nested schemaInvalid destroyed (context :: contexts)
        ({ context := context, guard := true,
           before := Thread.current schemaInvalid ⟨contexts, destroyed, frames⟩ } :: frames)
  | refused {contexts : List FuzzCampaignContext} {frames : List (Frame FuzzCampaignContext)}
      (context : FuzzCampaignContext) (nested : Nested schemaInvalid destroyed contexts frames)
      (full : destroyed = true ∨ maxContextDepth ≤ contexts.length) :
      Nested schemaInvalid destroyed contexts
        ({ context := context, guard := false,
           before := Thread.current schemaInvalid ⟨contexts, destroyed, frames⟩ } :: frames)

variable {schemaInvalid : Error}

namespace Thread

/-- The stack of a thread follows its scopes. -/
def Sound (schemaInvalid : Error) (thread : Thread FuzzCampaignContext) : Prop :=
  Nested schemaInvalid thread.destroyed thread.contexts thread.frames

/-- Entering a scope keeps the stack in step with the scopes. -/
theorem sound_enter {thread : Thread FuzzCampaignContext} (sound : thread.Sound schemaInvalid)
    (context : FuzzCampaignContext) : (thread.enter schemaInvalid context).Sound schemaInvalid := by
  unfold Sound at sound ⊢
  unfold enter install
  split
  case isTrue destroyed =>
    apply Nested.refused context sound
    exact Or.inl destroyed
  case isFalse alive =>
    split
    case isTrue full =>
      apply Nested.refused context sound
      exact Or.inr full
    case isFalse room =>
      apply Nested.installed context sound
      · simpa using alive
      · omega

/-- Leaving a scope keeps the stack in step with the scopes, and restores what {lit}`current`
returned before the scope was entered. -/
theorem sound_leave {thread : Thread FuzzCampaignContext} (sound : thread.Sound schemaInvalid) :
    thread.leave.Sound schemaInvalid ∧
      ∀ frame ∈ thread.frames.head?, thread.leave.current schemaInvalid = frame.before := by
  rcases thread with ⟨contexts, destroyed, frames⟩
  unfold Sound at sound
  simp only at sound
  cases sound with
  | nil => exact ⟨Nested.nil, by simp⟩
  | installed context nested alive room =>
      subst alive
      constructor
      · exact nested
      · simp [leave, drop, current]
  | refused context nested full =>
      constructor
      · exact nested
      · simp [leave, current]

/-- The end of a thread keeps the stack in step with the scopes. -/
theorem sound_exit {thread : Thread FuzzCampaignContext} (sound : thread.Sound schemaInvalid) :
    thread.exit.Sound schemaInvalid := by
  unfold exit
  split
  · exact Nested.nil
  · exact sound

end Thread

namespace Process

/-- Every thread's stack follows its scopes. -/
def Sound (schemaInvalid : Error) (process : Process FuzzCampaignContext) : Prop :=
  ∀ thread, (process.threads thread).Sound schemaInvalid

/-- A change that keeps one thread's stack in step keeps all of them so. -/
theorem sound_onThread {process : Process FuzzCampaignContext} (sound : process.Sound schemaInvalid)
    (thread : Nat) {change : Thread FuzzCampaignContext → Thread FuzzCampaignContext}
    (keeps : ∀ state : Thread FuzzCampaignContext, state.Sound schemaInvalid →
      (change state).Sound schemaInvalid) :
    (process.onThread thread change).Sound schemaInvalid := by
  intro other
  unfold onThread
  by_cases same : other = thread
  · subst same
    simpa using keeps _ (sound other)
  · simpa [same] using sound other

/-- One event keeps every stack in step. -/
theorem sound_step {process : Process FuzzCampaignContext} (sound : process.Sound schemaInvalid)
    (event : Event FuzzCampaignContext) :
    (process.step schemaInvalid event).Sound schemaInvalid := by
  cases event with
  | scopeSync thread context =>
      exact sound_onThread sound thread fun state kept => Thread.sound_enter kept context
  | scope context => exact sound
  | poll thread future =>
      simp only [step]
      split
      · exact sound_onThread sound thread fun state kept => Thread.sound_enter kept _
      · exact sound
  | leave thread ending =>
      exact sound_onThread sound thread fun state kept => (Thread.sound_leave kept).1
  | exit thread => exact sound_onThread sound thread fun state kept => Thread.sound_exit kept

/-- Every stack follows its scopes after every history. -/
theorem nested_reached (history : List (Event FuzzCampaignContext)) :
    (reached schemaInvalid history).Sound schemaInvalid := by
  have kept : ∀ process : Process FuzzCampaignContext, process.Sound schemaInvalid →
      (history.foldl (step schemaInvalid) process).Sound schemaInvalid := by
    induction history with
    | nil => exact fun process sound => sound
    | cons event history ih => exact fun process sound => ih _ (sound_step sound event)
  exact kept new fun thread => Nested.nil

/-- The end of a body or of a poll restores what {lit}`current` returned before it, at every depth
and however it ends, and other threads see nothing of it. -/
theorem restored_reached (history : List (Event FuzzCampaignContext)) (thread : Nat)
    (ending : Ending) :
    (∀ frame ∈ ((reached schemaInvalid history).threads thread).frames.head?,
      ((reached schemaInvalid (history ++ [.leave thread ending])).threads thread).current
        schemaInvalid = frame.before) ∧
      ∀ other, other ≠ thread →
        (reached schemaInvalid (history ++ [.leave thread ending])).threads other =
          (reached schemaInvalid history).threads other := by
  have sound : (reached schemaInvalid history).Sound schemaInvalid := nested_reached history
  have restored := (Thread.sound_leave (sound thread)).2
  simp only [reached, step, onThread, List.foldl_append, List.foldl_cons, List.foldl_nil]
    at restored ⊢
  refine ⟨?_, fun other different => Function.update_of_ne different _ _⟩
  simpa using restored

end Process

/-! ## What the body of a scope sees -/

/-- The stack of a live thread holds the contexts of its outermost scopes. -/
theorem contexts_of_nested {destroyed : Bool} {contexts : List FuzzCampaignContext}
    {frames : List (Frame FuzzCampaignContext)}
    (nested : Nested schemaInvalid destroyed contexts frames) (alive : destroyed = false) :
    contexts = (frames.drop (frames.length - maxContextDepth)).map Frame.context := by
  induction nested with
  | nil => rfl
  | @installed contexts frames context nested live room held =>
      have length : contexts.length = frames.length - (frames.length - maxContextDepth) := by
        simpa using congrArg List.length held
      have short : frames.length - maxContextDepth = 0 := by omega
      have next : frames.length + 1 - maxContextDepth = 0 := by omega
      rw [short] at held
      simp [next, held]
  | @refused contexts frames context nested full held =>
      have length : contexts.length = frames.length - (frames.length - maxContextDepth) := by
        simpa using congrArg List.length held
      rcases full with destroyed | full
      · simp [alive] at destroyed
      · have next : frames.length + 1 - maxContextDepth = frames.length - maxContextDepth + 1 := by
          omega
        rw [List.length_cons, next, List.drop_succ_cons]
        exact held

namespace Thread

/-- Inside the innermost scope {lit}`current` is its context, and what it was before is what it
will be when the scope ends. -/
structure Scoped (schemaInvalid : Error) (thread : Thread FuzzCampaignContext) : Prop where
  inside : ∀ frame ∈ thread.frames.head?, thread.current schemaInvalid = .ok frame.context
  after : ∀ frame ∈ thread.frames.head?, thread.leave.current schemaInvalid = frame.before

/-- The scopes of a thread fit: none is entered while the thread's local values are destroyed, and
there are at most sixteen, or the innermost one has the context of the sixteenth. -/
def Fits (thread : Thread FuzzCampaignContext) : Prop :=
  ∀ frame outer, thread.frames = frame :: outer →
    thread.destroyed = false ∧
      (thread.frames.length ≤ maxContextDepth ∨
        (thread.frames[thread.frames.length - maxContextDepth]?).map Frame.context =
          some frame.context)

/-- The top of the stack of a live thread is its innermost scope's context, or that of its
sixteenth scope. -/
theorem current_of_sound {thread : Thread FuzzCampaignContext} (sound : thread.Sound schemaInvalid)
    (alive : thread.destroyed = false) (context : FuzzCampaignContext) :
    thread.current schemaInvalid = .ok context ↔
      (thread.frames[thread.frames.length - maxContextDepth]?).map Frame.context =
        some context := by
  have held := contexts_of_nested sound alive
  have top : (thread.frames[thread.frames.length - maxContextDepth]?).map Frame.context =
      thread.contexts.head? := by
    rw [held, List.head?_map, List.head?_drop]
  rw [top, current, alive]
  cases thread.contexts with
  | nil => simp
  | cons first rest => simp

/-- A thread whose stack follows its scopes is scoped exactly when its scopes fit. -/
theorem scoped_iff_of_sound {thread : Thread FuzzCampaignContext}
    (sound : thread.Sound schemaInvalid) : thread.Scoped schemaInvalid ↔ thread.Fits := by
  constructor
  · intro innermost frame outer split
    have seen : thread.current schemaInvalid = .ok frame.context :=
      innermost.inside frame (by simp [split])
    cases destroyed : thread.destroyed with
    | true => simp [current, destroyed] at seen
    | false =>
        refine ⟨rfl, Or.inr ?_⟩
        exact (current_of_sound sound destroyed frame.context).mp seen
  · intro fits
    refine ⟨?_, (sound_leave sound).2⟩
    intro frame innermost
    cases split : thread.frames with
    | nil => simp [split] at innermost
    | cons first outer =>
        obtain rfl : first = frame := by simpa [split] using innermost
        rcases fits first outer split with ⟨alive, few | same⟩
        · apply (current_of_sound sound alive first.context).mpr
          have shallow : thread.frames.length - maxContextDepth = 0 := by omega
          rw [shallow, split]
          rfl
        · exact (current_of_sound sound alive first.context).mpr same

end Thread

/-- Every body runs under the context of its innermost scope, on every thread and after every
history, and its end restores what {lit}`current` returned before. -/
def ContextScoping (FuzzCampaignContext : Type*) (schemaInvalid : Error) : Prop :=
  ∀ (history : List (Event FuzzCampaignContext)) (thread : Nat),
    ((Process.reached schemaInvalid history).threads thread).Scoped schemaInvalid

/-- Whatever the threads did, a thread is scoped exactly when its scopes fit. -/
theorem scoped_iff (schemaInvalid : Error) (history : List (Event FuzzCampaignContext))
    (thread : Nat) :
    ((Process.reached schemaInvalid history).threads thread).Scoped schemaInvalid ↔
      ((Process.reached schemaInvalid history).threads thread).Fits := by
  have sound : (Process.reached schemaInvalid history).Sound schemaInvalid :=
    Process.nested_reached history
  exact Thread.scoped_iff_of_sound (sound thread)

/-- Sixteen scopes of one campaign leave no room for a scope of another campaign inside them: its
body runs under the outer campaign. -/
theorem seventeenth_scope_misattributed :
    ¬ ContextScoping Nat { code := .schemaInvalid, message := "" } := by
  intro claim
  have inside := (claim (List.replicate 16 (.scopeSync 0 1) ++ [.scopeSync 0 2]) 0).inside
  have seen := inside _ rfl
  injection seen with same
  exact absurd same (by decide)

end FuzzScopes
end ReproItSdk
