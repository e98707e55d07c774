import Mathlib.Tactic.Common
import Mathlib.Data.List.Infix

/-!
# Runs of event systems and the invariants they keep

A system takes one event at a time; an event that is not enabled ends the
run.  `RunMeets guard` says that every event of a run met a condition on the
state it was taken in, which is how a property that holds only of some runs
is stated and proved.
-/

namespace FakeBolt.Transition

variable {S E : Type} (step : S → E → Option S)

def run : S → List E → Option S
  | state, [] => some state
  | state, event :: events =>
      match step state event with
      | none => none
      | some next => run next events

/-- Every event of the run was taken in a state that meets the guard. -/
def RunMeets (guard : S → E → Prop) : S → List E → Prop
  | _, [] => True
  | state, event :: events =>
      guard state event ∧
        ∀ next, step state event = some next → RunMeets guard next events

variable {step}

instance decidableRunMeets {guard : S → E → Prop}
    [∀ state event, Decidable (guard state event)] :
    ∀ (state : S) (events : List E),
      Decidable (RunMeets step guard state events)
  | _, [] => isTrue trivial
  | state, event :: events =>
      match hstep : step state event with
      | none => decidable_of_iff (guard state event)
          (by simp [RunMeets, hstep])
      | some next =>
          have : Decidable (RunMeets step guard next events) :=
            decidableRunMeets next events
          decidable_of_iff
            (guard state event ∧ RunMeets step guard next events)
            (by simp [RunMeets, hstep])

theorem exists_of_run_any {state : S} {events : List E} {check : S → Bool}
    (hcheck : (run step state events).any check = true) :
    ∃ last, run step state events = some last ∧ check last = true := by
  cases hrun : run step state events with
  | none => simp [hrun] at hcheck
  | some last => exact ⟨last, rfl, by simpa [hrun] using hcheck⟩

@[simp] theorem run_nil (state : S) : run step state [] = some state := rfl

theorem run_cons_eq_some {state last : S} {event : E} {events : List E} :
    run step state (event :: events) = some last ↔
      ∃ next, step state event = some next ∧
        run step next events = some last := by
  simp only [run]
  cases hstep : step state event with
  | none => simp
  | some next => simp

theorem run_append (state : S) (before after : List E) :
    run step state (before ++ after) =
      (run step state before).bind fun middle => run step middle after := by
  induction before generalizing state with
  | nil => rfl
  | cons event before ih =>
      simp only [List.cons_append, run]
      cases step state event with
      | none => rfl
      | some next => exact ih next

/-- A step that keeps an invariant whenever it meets the guard keeps it along
every run that meets the guard. -/
theorem invariant_of_guarded {guard : S → E → Prop} {Inv : S → Prop}
    (hstep : ∀ state event next, Inv state → guard state event →
      step state event = some next → Inv next)
    {state last : S} {events : List E}
    (hinit : Inv state) (hmeets : RunMeets step guard state events)
    (hrun : run step state events = some last) : Inv last := by
  induction events generalizing state with
  | nil =>
      cases hrun
      exact hinit
  | cons event events ih =>
      obtain ⟨next, hnext, hrest⟩ := run_cons_eq_some.mp hrun
      exact ih (hstep state event next hinit hmeets.1 hnext)
        (hmeets.2 next hnext) hrest

theorem RunMeets.of_prefix {guard : S → E → Prop} {state : S}
    {before events : List E} (hsegment : before <+: events)
    (hmeets : RunMeets step guard state events) :
    RunMeets step guard state before := by
  induction before generalizing state events with
  | nil => trivial
  | cons event before ih =>
      obtain ⟨after, hevents⟩ := hsegment
      subst events
      exact ⟨hmeets.1, fun next hnext =>
        ih ⟨after, rfl⟩ (hmeets.2 next hnext)⟩

theorem RunMeets.and {first second : S → E → Prop} {state : S}
    {events : List E} (hfirst : RunMeets step first state events)
    (hsecond : RunMeets step second state events) :
    RunMeets step (fun state event => first state event ∧ second state event)
      state events := by
  induction events generalizing state with
  | nil => trivial
  | cons event events ih =>
      exact ⟨⟨hfirst.1, hsecond.1⟩, fun next hnext =>
        ih (hfirst.2 next hnext) (hsecond.2 next hnext)⟩

theorem RunMeets.guard_of_run {guard : S → E → Prop} {state last : S}
    {before after : List E} {event : E}
    (hmeets : RunMeets step guard state (before ++ event :: after))
    (hrun : run step state before = some last) : guard last event := by
  induction before generalizing state with
  | nil =>
      cases hrun
      exact hmeets.1
  | cons first before ih =>
      obtain ⟨next, hnext, hrest⟩ := run_cons_eq_some.mp hrun
      exact ih (hmeets.2 next hnext) hrest

/-- A guard on the events alone. -/
theorem runMeets_of_forall {guard : E → Prop} {events : List E}
    (hall : ∀ event ∈ events, guard event) (state : S) :
    RunMeets step (fun _ event => guard event) state events := by
  induction events generalizing state with
  | nil => trivial
  | cons event events ih =>
      refine ⟨hall event (by simp), fun next _ => ?_⟩
      exact ih (fun other hother => hall other (by simp [hother])) next

theorem runMeets_iff_forall {guard : E → Prop} {state last : S}
    {events : List E} (hrun : run step state events = some last) :
    RunMeets step (fun _ event => guard event) state events ↔
      ∀ event ∈ events, guard event := by
  constructor
  · intro hmeets
    induction events generalizing state with
    | nil => simp
    | cons event events ih =>
        obtain ⟨next, hstep, hrest⟩ := run_cons_eq_some.mp hrun
        exact List.forall_mem_cons.mpr
          ⟨hmeets.1, ih hrest (hmeets.2 next hstep)⟩
  · intro hall
    exact runMeets_of_forall hall state

theorem runMeets_true (state : S) (events : List E) :
    RunMeets step (fun _ _ => True) state events :=
  runMeets_of_forall (fun _ _ => trivial) state

theorem invariant_of_step {Inv : S → Prop}
    (hstep : ∀ state event next, Inv state →
      step state event = some next → Inv next)
    {state last : S} {events : List E}
    (hinit : Inv state) (hrun : run step state events = some last) :
    Inv last :=
  invariant_of_guarded (fun s e n h _ => hstep s e n h) hinit
    (runMeets_true state events) hrun

/-- If steps that meet the guard keep a state good, any other step makes it bad
and bad states stay bad, then a run ends good exactly if it meets the guard. -/
theorem good_or_bad_of_run {guard : S → E → Prop} {Good Bad : S → Prop}
    (hkeep : ∀ state event next, Good state → guard state event →
      step state event = some next → Good next)
    (hspoil : ∀ state event next, Good state → ¬ guard state event →
      step state event = some next → Bad next)
    (hstay : ∀ state event next, Bad state →
      step state event = some next → Bad next)
    {state last : S} {events : List E} (hgood : Good state)
    (hrun : run step state events = some last) :
    (RunMeets step guard state events ∧ Good last) ∨
      (¬ RunMeets step guard state events ∧ Bad last) := by
  induction events generalizing state with
  | nil =>
      cases hrun
      exact Or.inl ⟨trivial, hgood⟩
  | cons event events ih =>
      obtain ⟨next, hstep, hrest⟩ := run_cons_eq_some.mp hrun
      by_cases hguard : guard state event
      · have hnext := hkeep state event next hgood hguard hstep
        rcases ih hnext hrest with ⟨hmeets, hlast⟩ | ⟨hnot, hlast⟩
        · left
          refine ⟨⟨hguard, ?_⟩, hlast⟩
          intro taken htaken
          rw [hstep] at htaken
          cases htaken
          exact hmeets
        · right
          exact ⟨fun hmeets => hnot (hmeets.2 next hstep), hlast⟩
      · right
        have hnext := hspoil state event next hgood hguard hstep
        exact ⟨fun hmeets => hguard hmeets.1,
          invariant_of_step hstay hnext hrest⟩

/-- Guards that agree wherever an invariant holds are met by the same runs. -/
theorem runMeets_congr {first second : S → E → Prop} {Inv : S → Prop}
    {state : S} {events : List E} (hinit : Inv state)
    (hstep : ∀ state event next, Inv state →
      step state event = some next → Inv next)
    (hiff : ∀ state event, Inv state → (first state event ↔ second state event)) :
    RunMeets step first state events ↔ RunMeets step second state events := by
  induction events generalizing state with
  | nil => exact Iff.rfl
  | cons event events ih =>
      apply and_congr (hiff state event hinit)
      apply forall_congr'
      intro next
      apply imp_congr_right
      intro hnext
      exact ih (hstep state event next hinit hnext)

/-- Where a step keeps a property exactly if it meets the guard, the property
holds in every state of a run exactly if the run meets the guard. -/
theorem throughout_iff_runMeets {guard : S → E → Prop} {Inv Good : S → Prop}
    (hstep : ∀ state event, Inv state → Good state →
      ∃ next, step state event = some next ∧ Inv next ∧
        (Good next ↔ guard state event))
    {state : S} (hinv : Inv state) (hgood : Good state) (events : List E) :
    (∀ before last, before <+: events →
        run step state before = some last → Good last) ↔
      RunMeets step guard state events := by
  induction events generalizing state with
  | nil =>
      simp only [RunMeets, iff_true]
      intro before last hsegment hrun
      rw [List.prefix_nil] at hsegment
      subst before
      cases hrun
      exact hgood
  | cons event events ih =>
      obtain ⟨next, hnext, hinvNext, hiff⟩ := hstep state event hinv hgood
      constructor
      · intro hall
        have hgoodNext : Good next := by
          apply hall [event] next
          · exact List.cons_prefix_cons.mpr ⟨rfl, List.nil_prefix⟩
          · exact run_cons_eq_some.mpr ⟨next, hnext, rfl⟩
        refine ⟨hiff.mp hgoodNext, ?_⟩
        intro taken htaken
        rw [hnext] at htaken
        cases htaken
        rw [← ih hinvNext hgoodNext]
        intro before last hsegment hrun
        apply hall (event :: before) last
        · exact List.cons_prefix_cons.mpr ⟨rfl, hsegment⟩
        · exact run_cons_eq_some.mpr ⟨next, hnext, hrun⟩
      · rintro ⟨hguard, hrest⟩ before last hsegment hrun
        have hgoodNext := hiff.mpr hguard
        cases before with
        | nil =>
            cases hrun
            exact hgood
        | cons first before =>
            obtain ⟨hfirst, hbefore⟩ := List.cons_prefix_cons.mp hsegment
            subst first
            obtain ⟨taken, htaken, htail⟩ := run_cons_eq_some.mp hrun
            rw [hnext] at htaken
            cases htaken
            exact (ih hinvNext hgoodNext).mpr (hrest next hnext) before last
              hbefore htail

end FakeBolt.Transition
