import FakeBolt.GuardedRun
import Mathlib.Algebra.Order.Ring.Nat

/-!
# Remaining work

Some events of a system do work that others have brought.  The work that is
left bounds how often they can still happen, and when one of them is possible
as long as any work is left, choosing them in any way gets all of it done.
-/

namespace FakeBolt.Transition

variable {S E κ : Type}

/-- Each event that does work lowers what is left, by one at least and up to
what the event brings. -/
structure Working (step : S → E → Option S) (Inv : S → Prop)
    (remainingWork : S → ℕ) (brings : E → ℕ) (works : E → Bool) : Prop where
  keeps : ∀ state event next, Inv state → step state event = some next →
    Inv next
  pays : ∀ state event next, Inv state → step state event = some next →
    remainingWork next + (if works event then 1 else 0) ≤
      remainingWork state + brings event

/-- Events that are chosen one after the other, by the state each is taken in;
an event that is not enabled is skipped. -/
def follow (step : S → E → Option S) (choose : κ → S → E) : S → List κ → S
  | state, [] => state
  | state, choice :: choices =>
      follow step choose ((step state (choose choice state)).getD state) choices

variable {step : S → E → Option S} {Inv : S → Prop} {remainingWork : S → ℕ}
  {brings : E → ℕ} {works : E → Bool}

namespace Working

theorem run (hworking : Working step Inv remainingWork brings works)
    {state last : S} {events : List E} (hinit : Inv state)
    (hrun : run step state events = some last) :
    remainingWork last + events.countP works ≤
      remainingWork state + (events.map brings).sum := by
  induction events generalizing state with
  | nil =>
      cases hrun
      simp
  | cons event events ih =>
      obtain ⟨next, hnext, hrest⟩ := run_cons_eq_some.mp hrun
      have hone := hworking.pays state event next hinit hnext
      have hmore := ih (hworking.keeps state event next hinit hnext) hrest
      rw [List.countP_cons, List.map_cons, List.sum_cons]
      omega

/-- Whatever is chosen, as many choices as there is work get it done. -/
theorem done_of_follow (hworking : Working step Inv remainingWork brings works)
    {choose : κ → S → E}
    (hworks : ∀ choice state, works (choose choice state) = true ∧
      brings (choose choice state) = 0)
    (hready : ∀ choice state, Inv state → remainingWork state ≠ 0 →
      (step state (choose choice state)).isSome)
    {state : S} {choices : List κ} (hinit : Inv state)
    (hlong : remainingWork state ≤ choices.length) :
    remainingWork (follow step choose state choices) = 0 ∧
      ∃ events, (∀ event ∈ events, works event = true) ∧
        Transition.run step state events =
          some (follow step choose state choices) := by
  induction choices generalizing state with
  | nil => exact ⟨Nat.le_zero.mp hlong, [], by simp, rfl⟩
  | cons choice choices ih =>
      simp only [follow]
      cases hstep : step state (choose choice state) with
      | none =>
          have hdone : remainingWork state = 0 := by
            by_contra hleft
            have hsome := hready choice state hinit hleft
            rw [hstep] at hsome
            cases hsome
          exact ih hinit (by rw [Option.getD_none, hdone]; exact Nat.zero_le _)
      | some next =>
          have hnext := hworking.keeps state _ next hinit hstep
          have hpays := hworking.pays state _ next hinit hstep
          obtain ⟨hdoes, hnothing⟩ := hworks choice state
          rw [if_pos hdoes, hnothing] at hpays
          rw [List.length_cons] at hlong
          obtain ⟨hdone, events, hevents, hrun⟩ := ih hnext (by omega)
          refine ⟨hdone, choose choice state :: events, ?_, ?_⟩
          · intro event hevent
            rcases List.mem_cons.mp hevent with heq | hlater
            · rw [heq]
              exact hdoes
            · exact hevents event hlater
          · rw [run_cons_eq_some]
            exact ⟨next, hstep, hrun⟩

end Working

end FakeBolt.Transition
