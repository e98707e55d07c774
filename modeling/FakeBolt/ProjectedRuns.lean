import Mathlib.Tactic.Common

/-!
# Runs seen from one component

Events that each act on one component of a state, by a function of that
component alone.  What a run leaves of a component then depends only on the
events for it, so two runs in which these are the same, up to what the action
does not look at, leave the same.
-/

namespace FakeBolt.Projection

variable {S E K L : Type*} [DecidableEq K]

/-- As long as the invariant holds, an event acts on the component it is for
and on no other. -/
structure ActsLocally (Inv : S → Prop) (step : S → E → S) (view : S → K → L)
    (target : E → Option K) (act : E → L → L) : Prop where
  keeps : ∀ state event, Inv state → Inv (step state event)
  view_step : ∀ state event key, Inv state → view (step state event) key =
    if target event = some key then act event (view state key)
    else view state key

/-- The events for one component, in order. -/
def eventsFor (target : E → Option K) (key : K) (events : List E) : List E :=
  events.filter fun event => decide (target event = some key)

variable {Inv : S → Prop} {step : S → E → S} {view : S → K → L}
  {target : E → Option K} {act : E → L → L}

theorem eventsFor_cons (target : E → Option K) (key : K) (event : E)
    (events : List E) :
    eventsFor target key (event :: events) =
      if target event = some key then event :: eventsFor target key events
      else eventsFor target key events := by
  simp [eventsFor, List.filter_cons]

theorem ActsLocally.inv_run (hlocal : ActsLocally Inv step view target act)
    {state : S} (hinv : Inv state) (events : List E) :
    Inv (events.foldl step state) := by
  induction events generalizing state with
  | nil => exact hinv
  | cons event events ih => exact ih (hlocal.keeps state event hinv)

/-- A run acts on a component as the events for it do, one after the other. -/
theorem ActsLocally.view_run (hlocal : ActsLocally Inv step view target act)
    {state : S} (hinv : Inv state) (key : K) (events : List E) :
    view (events.foldl step state) key =
      (eventsFor target key events).foldl (fun local_ event => act event local_)
        (view state key) := by
  induction events generalizing state with
  | nil => rfl
  | cons event events ih =>
      rw [List.foldl_cons, ih (hlocal.keeps state event hinv),
        hlocal.view_step state event key hinv, eventsFor_cons]
      split
      · rfl
      · rfl

theorem foldl_act_map {label : E → E}
    (hlabel : ∀ event, act (label event) = act event) (events : List E)
    (start : L) :
    (events.map label).foldl (fun local_ event => act event local_) start =
      events.foldl (fun local_ event => act event local_) start := by
  induction events generalizing start with
  | nil => rfl
  | cons event events ih => rw [List.map_cons, List.foldl_cons, hlabel, ih]; rfl

/-- Two runs with the same events for a component, up to a label that the
action ignores, leave it the same. -/
theorem ActsLocally.view_eq_of_same_events
    (hlocal : ActsLocally Inv step view target act) {label : E → E}
    (hlabel : ∀ event, act (label event) = act event) {state : S}
    (hinv : Inv state) {key : K} {first second : List E}
    (hsame : (eventsFor target key first).map label =
      (eventsFor target key second).map label) :
    view (first.foldl step state) key = view (second.foldl step state) key := by
  rw [hlocal.view_run hinv, hlocal.view_run hinv,
    ← foldl_act_map hlabel (eventsFor target key first), hsame,
    foldl_act_map hlabel]

/-- A component that no event is for is left as it is. -/
theorem ActsLocally.view_eq_of_no_events
    (hlocal : ActsLocally Inv step view target act) {state : S}
    (hinv : Inv state) {key : K}
    (hkey : ∀ event, act event (view state key) = view state key)
    (events : List E) :
    view (events.foldl step state) key = view state key := by
  rw [hlocal.view_run hinv]
  induction eventsFor target key events with
  | nil => rfl
  | cons event events ih => rw [List.foldl_cons, hkey, ih]

end FakeBolt.Projection
