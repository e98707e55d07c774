import Mathlib.Data.List.Basic

/-!
# Unwinding

A system takes events one after the other and answers each.  Some of the
events are an observer's own.  If the events of others change nothing that the
observer can tell, and states that the observer cannot tell apart stay so and
answer alike under its own events, then the observer gets the answers that it
would get alone.
-/

namespace FakeBolt.Transition

variable {S E O : Type} (step : S → E → S) (answer : S → E → O)

/-- The answers to the events of the observer, in order. -/
def answersTo (own : E → Bool) : S → List E → List O
  | _, [] => []
  | state, event :: events =>
      if own event then
        answer state event :: answersTo own (step state event) events
      else answersTo own (step state event) events

/-- What has to be shown of single steps. -/
structure Unwinding (own : E → Bool) (Inv : S → Prop) (Same : S → S → Prop) :
    Prop where
  symm : ∀ {first second}, Same first second → Same second first
  trans : ∀ {first second third}, Same first second → Same second third →
    Same first third
  keeps : ∀ {state} event, Inv state → Inv (step state event)
  others : ∀ {state event}, Inv state → own event = false →
    Same state (step state event)
  consistent : ∀ {state state' event}, Inv state → Inv state' →
    own event = true → Same state state' →
      Same (step state event) (step state' event)
  answers : ∀ {state state' event}, Inv state → Inv state' →
    own event = true → Same state state' →
      answer state event = answer state' event

variable {step answer} {own : E → Bool} {Inv : S → Prop}
  {Same : S → S → Prop}

/-- Without the events of the others the observer gets the same answers, and
what it can tell of the last state is the same. -/
theorem Unwinding.alone (hunwinding : Unwinding step answer own Inv Same)
    {state state' : S} {events : List E} (hinv : Inv state)
    (hinv' : Inv state') (hsame : Same state state') :
    answersTo step answer own state events =
        answersTo step answer own state' (events.filter own) ∧
      Same (events.foldl step state)
        ((events.filter own).foldl step state') := by
  induction events generalizing state state' with
  | nil => exact ⟨rfl, hsame⟩
  | cons event events ih =>
      have hnext := hunwinding.keeps event hinv
      cases hown : own event with
      | true =>
          have hnext' := hunwinding.keeps event hinv'
          have hboth := hunwinding.consistent hinv hinv' hown hsame
          obtain ⟨hanswers, hlast⟩ := ih hnext hnext' hboth
          rw [List.filter_cons_of_pos hown]
          refine ⟨?_, hlast⟩
          simp only [answersTo, hown, if_true]
          rw [hunwinding.answers hinv hinv' hown hsame, hanswers]
      | false =>
          have hleft : Same (step state event) state' :=
            hunwinding.trans (hunwinding.symm (hunwinding.others hinv hown))
              hsame
          obtain ⟨hanswers, hlast⟩ := ih hnext hinv' hleft
          rw [List.filter_cons_of_neg (by simp [hown])]
          refine ⟨?_, hlast⟩
          simp only [answersTo, hown, Bool.false_eq_true, if_false]
          exact hanswers

end FakeBolt.Transition
