import FakeBolt.AwaitProgram
import FakeBolt.GuardedRun
import Mathlib.Logic.Function.Basic

/-!
# Interleaving at the awaited calls

Any number of executions share a world.  A step lets one of them make the call
it awaits and run on to its next one; nothing happens in between.  To reason
about all orders, each execution is followed through the stages of its code:
`StageRule` is what a single call does to a stage and the world, and
`step_stages` carries it over to the interleaved system.
-/

namespace FakeBolt.Await

variable {Op : Type} {Reply : Op → Type} {ε α τ ι W σ : Type}

def Program.pending : Program Reply ε α → Option Op
  | .done _ => none
  | .fail _ => none
  | .await call _ => some call

def Program.resumeWith {R : Type} (next : R → Program Reply ε α)
    (handler : ε → Program Reply ε α) : Except ε R → Program Reply ε α
  | .ok value => next value
  | .error error => handler error

theorem Program.call_bind (op : Op) (next : Reply op → Program Reply ε α) :
    (call op >>= next) = .await op (resumeWith next throw) := by
  change Program.await op _ = _
  congr
  funext reply
  cases reply <;> rfl

theorem Program.tryCatch_call_bind (op : Op)
    (next : Reply op → Program Reply ε α) (handler : ε → Program Reply ε α) :
    tryCatch (call op >>= next) handler =
      .await op
        (resumeWith (fun value => tryCatch (next value) handler) handler) := by
  change Program.await op _ = _
  congr
  funext reply
  cases reply <;> rfl

theorem Program.await_bind {β : Type} (op : Op)
    (resume : Except ε (Reply op) → Program Reply ε β)
    (next : β → Program Reply ε α) :
    (Program.await op resume >>= next) =
      .await op fun reply => resume reply >>= next := rfl

structure Answered (τ : Type) {Op : Type} (Reply : Op → Type) (ε : Type) where
  thread : τ
  call : Op
  reply : Except ε (Reply call)

/-- Executions that share a world, and the calls they have made. -/
structure Interleaving (τ : Type) {Op : Type} (Reply : Op → Type)
    (ε α W : Type) where
  program : τ → Program Reply ε α
  world : W
  trace : List (Answered τ Reply ε)

namespace Interleaving

def start (program : τ → Program Reply ε α) (world : W) :
    Interleaving τ Reply ε α W :=
  ⟨program, world, []⟩

variable [DecidableEq τ]
  (answer : (op : Op) → ι → W → Except ε (Reply op) × W)

/-- One execution makes the call it awaits; `event.2` is what the environment
decides about it. -/
def step (system : Interleaving τ Reply ε α W) (event : τ × ι) :
    Option (Interleaving τ Reply ε α W) :=
  match system.program event.1 with
  | .done _ => none
  | .fail _ => none
  | .await call resume =>
      let outcome := answer call event.2 system.world
      some
        { program :=
            Function.update system.program event.1 (resume outcome.1)
          world := outcome.2
          trace := system.trace ++ [⟨event.1, call, outcome.1⟩] }

variable {answer}

theorem step_eq_some_iff {system next : Interleaving τ Reply ε α W}
    {event : τ × ι} :
    step answer system event = some next ↔
      ∃ call resume, system.program event.1 = .await call resume ∧
        next =
          { program := Function.update system.program event.1
              (resume (answer call event.2 system.world).1)
            world := (answer call event.2 system.world).2
            trace := system.trace ++
              [⟨event.1, call, (answer call event.2 system.world).1⟩] } := by
  unfold step
  cases hprogram : system.program event.1 with
  | done value => simp
  | fail error => simp
  | await call resume =>
      constructor
      · intro hstep
        cases hstep
        exact ⟨call, resume, rfl, rfl⟩
      · rintro ⟨call', resume', heq, hnext⟩
        cases heq
        rw [hnext]

/-- The stages of the code of one execution: what each denotes, and what the
next call from it can lead to. -/
structure StageRule (answer : (op : Op) → ι → W → Except ε (Reply op) × W)
    (denote : σ → Program Reply ε α)
    (Move : σ → W → (call : Op) → Except ε (Reply call) → ι → σ → W → Prop) :
    Prop where
  move : ∀ {stage call resume}, denote stage = .await call resume →
    ∀ input world, ∃ after,
      resume (answer call input world).1 = denote after ∧
        Move stage world call (answer call input world).1 input after
          (answer call input world).2

def AtStages (denote : τ → σ → Program Reply ε α) (stages : τ → σ)
    (system : Interleaving τ Reply ε α W) : Prop :=
  ∀ thread, system.program thread = denote thread (stages thread)

/-- One step moves one execution to its next stage and leaves the others at
theirs. -/
theorem step_stages {denote : τ → σ → Program Reply ε α}
    {Move : τ → σ → W → (call : Op) → Except ε (Reply call) → ι → σ → W → Prop}
    (hrule : ∀ thread, StageRule answer (denote thread) (Move thread))
    {stages : τ → σ} {system next : Interleaving τ Reply ε α W}
    {event : τ × ι} (hstages : AtStages denote stages system)
    (hstep : step answer system event = some next) :
    ∃ call reply after,
      (system.program event.1).pending = some call ∧
      next.trace = system.trace ++ [⟨event.1, call, reply⟩] ∧
      AtStages denote (Function.update stages event.1 after) next ∧
      Move event.1 (stages event.1) system.world call reply event.2 after
        next.world := by
  obtain ⟨call, resume, hprogram, hnext⟩ := step_eq_some_iff.mp hstep
  have hdenote : denote event.1 (stages event.1) = .await call resume := by
    rw [← hstages event.1]
    exact hprogram
  obtain ⟨after, hresume, hmove⟩ :=
    (hrule event.1).move hdenote event.2 system.world
  subst hnext
  refine ⟨call, _, after, by rw [hprogram]; rfl, rfl, ?_, hmove⟩
  intro thread
  by_cases hthread : thread = event.1
  · subst hthread
    simpa using hresume
  · simpa [hthread] using hstages thread

end Interleaving

end FakeBolt.Await
