import FakeBolt.AwaitInterleaving

/-!
# Linearization points

Executions that share a world through their awaited calls behave like accesses
to an atomic object if every execution has at most one call at which its access
takes effect.  A stage of the code says whether that call has been made and
which access it was; the object is a view of the world.  `linearized` gives the
accesses of a run in the order in which they took effect, each at a step of its
own execution.
-/

namespace FakeBolt.Await

variable {Op : Type} {Reply : Op → Type} {ε α τ ι W σ B E : Type}

/-- What an execution has come to, if it has ended. -/
def Program.outcome : Program Reply ε α → Option (Except ε α)
  | .done value => some (.ok value)
  | .fail error => some (.error error)
  | .await _ _ => none

namespace Interleaving

open Transition

/-- What one call of an execution does to the object: nothing, or the one
access of this execution. -/
inductive TakesEffect (apply : B → E → Option B) (view : W → B)
    (point : σ → Option E) (stage : σ) (world : W) (after : σ) (next : W) :
    Prop where
  | silent (hpoint : point after = point stage)
      (hview : view next = view world)
  | access (access : E) (hbefore : point stage = none)
      (hafter : point after = some access)
      (happly : apply (view world) access = some (view next))

/-- The accesses that took effect along the steps of a run; `marks` says which
one, if any, each step was. -/
def taken (events : List (τ × ι)) (marks : List (Option E)) : List (τ × E) :=
  (events.zip marks).filterMap fun entry =>
    entry.2.map fun access => (entry.1.1, access)

theorem taken_cons (event : τ × ι) (events : List (τ × ι)) (mark : Option E)
    (marks : List (Option E)) :
    taken (event :: events) (mark :: marks) =
      (mark.map fun access => (event.1, access)).toList ++
        taken events marks := by
  cases mark <;> simp [taken]

@[simp] theorem taken_nil (marks : List (Option E)) :
    taken ([] : List (τ × ι)) marks = [] := by
  simp [taken]

theorem taken_append (before after : List (τ × ι)) (marks : List (Option E)) :
    taken (before ++ after) marks =
      taken before marks ++ taken after (marks.drop before.length) := by
  induction before generalizing marks with
  | nil => simp
  | cons event before ih =>
      cases marks with
      | nil => simp [taken]
      | cons mark marks =>
          rw [List.cons_append, taken_cons, taken_cons, ih]
          simp

/-- An execution takes effect at steps of its own. -/
theorem exists_event_of_taken {events : List (τ × ι)}
    {marks : List (Option E)} {thread : τ} {access : E}
    (hmem : (thread, access) ∈ taken events marks) :
    ∃ event ∈ events, event.1 = thread := by
  simp only [taken, List.mem_filterMap, Option.map_eq_some_iff] at hmem
  obtain ⟨⟨event, mark⟩, hzip, found, -, heq⟩ := hmem
  cases heq
  exact ⟨event, (List.of_mem_zip hzip).1, rfl⟩

/-- The accesses of the object one after the other. -/
def replay (apply : B → E → Option B) (object : B) (history : List (τ × E)) :
    Option B :=
  run (fun object entry => apply object entry.2) object history

theorem replay_append (apply : B → E → Option B) (object : B)
    (before after : List (τ × E)) :
    replay apply object (before ++ after) =
      (replay apply object before).bind fun middle =>
        replay apply middle after :=
  run_append object before after

variable [DecidableEq τ]

def ownAccesses (thread : τ) (history : List (τ × E)) : List E :=
  history.filterMap fun entry =>
    if entry.1 = thread then some entry.2 else none

theorem ownAccesses_append (thread : τ) (before after : List (τ × E)) :
    ownAccesses thread (before ++ after) =
      ownAccesses thread before ++ ownAccesses thread after :=
  List.filterMap_append

theorem mem_ownAccesses {thread : τ} {history : List (τ × E)} {access : E} :
    access ∈ ownAccesses thread history ↔ (thread, access) ∈ history := by
  simp only [ownAccesses, List.mem_filterMap]
  constructor
  · rintro ⟨⟨other, found⟩, hmem, hsome⟩
    split at hsome
    · rename_i heq
      cases hsome
      subst heq
      exact hmem
    · cases hsome
  · intro hmem
    exact ⟨(thread, access), hmem, by simp⟩

/-- A history of a run of the object that agrees with the stages the
executions have reached. -/
structure Linearized (apply : B → E → Option B) (view : W → B)
    (point : τ → σ → Option E) (stages after : τ → σ)
    (system : Interleaving τ Reply ε α W)
    (answer : (op : Op) → ι → W → Except ε (Reply op) × W)
    (events : List (τ × ι)) (marks : List (Option E)) : Prop where
  length : marks.length = events.length
  /-- At every moment of the run the object is what the accesses so far have
  made of it. -/
  replays : ∀ before middle, before <+: events →
    run (step answer) system before = some middle →
    replay apply (view system.world) (taken before marks) =
      some (view middle.world)
  own : ∀ thread, (point thread (stages thread)).toList ++
      ownAccesses thread (taken events marks) =
    (point thread (after thread)).toList

section Run

variable {answer : (op : Op) → ι → W → Except ε (Reply op) × W}
  {denote : τ → σ → Program Reply ε α} {apply : B → E → Option B}
  {view : W → B} {point : τ → σ → Option E}

/-- One step: the access it is, if any, and what that leaves. -/
theorem exists_mark {stages : τ → σ} {thread : τ} {after : σ} {world next : W}
    (heffect : TakesEffect apply view (point thread) (stages thread) world
      after next) :
    ∃ mark : Option E,
      replay apply (view world)
          (mark.map fun access => (thread, access)).toList =
        some (view next) ∧
      ∀ other, (point other (stages other)).toList ++
          ownAccesses other (mark.map fun access => (thread, access)).toList =
        (point other (Function.update stages thread after other)).toList := by
  cases heffect with
  | silent hpoint hview =>
      refine ⟨none, by simp [replay, hview], ?_⟩
      intro other
      by_cases heq : other = thread
      · subst heq
        simp [ownAccesses, hpoint]
      · simp [ownAccesses, heq]
  | access access hbefore hafter happly =>
      refine ⟨some access, by simp [replay, run, happly], ?_⟩
      intro other
      by_cases heq : other = thread
      · subst heq
        simp [ownAccesses, hbefore, hafter]
      · have hne : ¬ thread = other := fun h => heq h.symm
        simp [ownAccesses, heq, hne]

/-- Every run is the run of an atomic object: each execution accesses it at
most once, at a call of its own.  Where the environment decides only what it is
allowed to, a stage keeps what its code maintains. -/
theorem linearized {allowed : τ → ι → Prop} {Sound : τ → σ → Prop}
    (hrule : ∀ thread, StageRule answer (denote thread)
      fun stage world _ _ input after next =>
        TakesEffect apply view (point thread) stage world after next ∧
          (allowed thread input → Sound thread stage → Sound thread after))
    {stages : τ → σ} {system last : Interleaving τ Reply ε α W}
    {events : List (τ × ι)} (hstages : AtStages denote stages system)
    (hsound : ∀ thread, Sound thread (stages thread))
    (hallowed : ∀ event ∈ events, allowed event.1 event.2)
    (hrun : run (step answer) system events = some last) :
    ∃ after marks, AtStages denote after last ∧
      (∀ thread, Sound thread (after thread)) ∧
      Linearized apply view point stages after system answer events marks := by
  induction events generalizing stages system with
  | nil =>
      cases hrun
      refine ⟨stages, [], hstages, hsound, rfl, ?_, ?_⟩
      · intro before middle hsegment hmiddle
        rw [List.prefix_nil] at hsegment
        subst hsegment
        cases hmiddle
        rfl
      · intro thread
        simp [ownAccesses]
  | cons event events ih =>
      obtain ⟨next, hstep, hrest⟩ := run_cons_eq_some.mp hrun
      obtain ⟨call, reply, reached, -, -, hnext, heffect, hkeeps⟩ :=
        step_stages hrule hstages hstep
      have hreached : ∀ thread,
          Sound thread (Function.update stages event.1 reached thread) := by
        intro thread
        by_cases heq : thread = event.1
        · subst heq
          rw [Function.update_self]
          exact hkeeps (hallowed event (by simp)) (hsound event.1)
        · rw [Function.update_of_ne heq]
          exact hsound thread
      obtain ⟨mark, hreplay, hown⟩ := exists_mark heffect
      obtain ⟨after, marks, hlast, hkept, hlinear⟩ := ih hnext hreached
        (fun other hother => hallowed other (by simp [hother])) hrest
      refine ⟨after, mark :: marks, hlast, hkept, ?_, ?_, ?_⟩
      · simp [hlinear.length]
      · intro before middle hsegment hmiddle
        cases before with
        | nil =>
            cases hmiddle
            rfl
        | cons first before =>
            obtain ⟨hfirst, hshorter⟩ := List.cons_prefix_cons.mp hsegment
            subst hfirst
            obtain ⟨second, hsecond, hmiddle⟩ := run_cons_eq_some.mp hmiddle
            rw [hstep] at hsecond
            cases hsecond
            rw [taken_cons, replay_append, hreplay]
            exact hlinear.replays before middle hshorter hmiddle
      · intro thread
        rw [taken_cons, ownAccesses_append, ← List.append_assoc, hown]
        exact hlinear.own thread

end Run

end Interleaving

end FakeBolt.Await
