import FakeBolt.GuardedRun

/-!
# Redelivery

A broker delivers a message again as long as its handler throws.  An attempt
runs the handler in the world that the attempts before it left, under
whatever the environment decides about this attempt.
-/

namespace FakeBolt.Transition

variable {W ι ε α : Type}

/-- An attempt that throws leaves its world to the next one. -/
def retryStep (attempt : W → ι → Except ε α × W) (world : W) (input : ι) :
    Option W :=
  match attempt world input with
  | (.error _, after) => some after
  | (.ok _, _) => none

/-- The attempts `failed` all throw, and after them the last one succeeds. -/
def Redelivered (attempt : W → ι → Except ε α × W) (failed : List ι)
    (last : ι) (world final : W) : Prop :=
  ∃ before value, run (retryStep attempt) world failed = some before ∧
    attempt before last = (.ok value, final)

variable {attempt : W → ι → Except ε α × W}

theorem retryStep_eq_some_iff {world after : W} {input : ι} :
    retryStep attempt world input = some after ↔
      ∃ error, attempt world input = (.error error, after) := by
  unfold retryStep
  split
  · rename_i error next hattempt
    simp [hattempt]
  · rename_i value next hattempt
    simp [hattempt]

/-- Attempts are made until one succeeds; the inputs of later ones are not
used. -/
def redeliver (attempt : W → ι → Except ε α × W) (world : W) :
    List ι → Option W
  | [] => none
  | input :: inputs =>
      match attempt world input with
      | (.ok _, after) => some after
      | (.error _, after) => redeliver attempt after inputs

/-- A handler that does not throw has its message delivered once. -/
theorem redeliver_of_ok {world after : W} {input : ι} {value : α}
    (hok : attempt world input = (.ok value, after)) (inputs : List ι) :
    redeliver attempt world (input :: inputs) = some after := by
  rw [redeliver, hok]

end FakeBolt.Transition
