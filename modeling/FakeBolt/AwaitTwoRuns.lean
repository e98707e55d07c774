import FakeBolt.AwaitEmbedding
import FakeBolt.AwaitInterleaving
import FakeBolt.Linearization

/-!
# Two runs of concurrent programs

Programs are alike when they make corresponding calls and go on alike after
answers that agree.  In worlds that answer corresponding calls so, the two runs
of a system of alike programs go the same way: whatever happens in one run
happens in the other, and each execution ends in the same.
-/

namespace FakeBolt.Await

variable {Op Op' : Type} {Reply : Op → Type} {Reply' : Op' → Type}
  {ε α α' β β' ι W τ : Type}

/-- Related values, or the same error. -/
inductive Agree (related : α → α' → Prop) :
    Except ε α → Except ε α' → Prop where
  | ok {value : α} {value' : α'} (hvalue : related value value') :
      Agree related (.ok value) (.ok value')
  | error (error : ε) : Agree related (.error error) (.error error)

namespace Program

/-- `pairs` says which calls correspond, and which of their answers do. -/
inductive Alike
    (pairs : (call call' : Op) → (Reply call → Reply call' → Prop) → Prop)
    (related : α → α' → Prop) :
    Program Reply ε α → Program Reply ε α' → Prop where
  | done {value : α} {value' : α'} (hvalue : related value value') :
      Alike pairs related (.done value) (.done value')
  | fail (error : ε) : Alike pairs related (.fail error) (.fail error)
  | await {call call' : Op} {answers : Reply call → Reply call' → Prop}
      {resume : Except ε (Reply call) → Program Reply ε α}
      {resume' : Except ε (Reply call') → Program Reply ε α'}
      (hpair : pairs call call' answers)
      (hresume : ∀ reply reply', Agree answers reply reply' →
        Alike pairs related (resume reply) (resume' reply')) :
      Alike pairs related (.await call resume) (.await call' resume')

namespace Alike

variable {pairs : (call call' : Op) → (Reply call → Reply call' → Prop) → Prop}
  {related : α → α' → Prop} {program : Program Reply ε α}
  {program' : Program Reply ε α'}

theorem pure {value : α} {value' : α'} (hvalue : related value value') :
    Alike pairs related (Pure.pure value : Program Reply ε α)
      (Pure.pure value') :=
  .done hvalue

theorem throw (error : ε) :
    Alike pairs related (MonadExcept.throw error : Program Reply ε α)
      (MonadExcept.throw error : Program Reply ε α') :=
  .fail error

theorem call {call call' : Op} {answers : Reply call → Reply call' → Prop}
    (hpair : pairs call call' answers) :
    Alike pairs answers (Program.call call : Program Reply ε (Reply call))
      (Program.call call') := by
  refine .await hpair ?_
  intro reply reply' hagree
  cases hagree with
  | ok hvalue => exact .done hvalue
  | error error => exact .fail error

theorem bind {next : α → Program Reply ε β} {next' : α' → Program Reply ε β'}
    {results : β → β' → Prop} (halike : Alike pairs related program program')
    (hnext : ∀ value value', related value value' →
      Alike pairs results (next value) (next' value')) :
    Alike pairs results (program >>= next) (program' >>= next') := by
  induction halike with
  | done hvalue => exact hnext _ _ hvalue
  | fail error => exact .fail error
  | await hpair hresume ih => exact .await hpair ih

theorem tryCatch {handler : ε → Program Reply ε α}
    {handler' : ε → Program Reply ε α'}
    (halike : Alike pairs related program program')
    (hhandler : ∀ error, Alike pairs related (handler error)
      (handler' error)) :
    Alike pairs related (MonadExcept.tryCatch program handler)
      (MonadExcept.tryCatch program' handler') := by
  induction halike with
  | done hvalue => exact .done hvalue
  | fail error => exact hhandler error
  | await hpair hresume ih => exact .await hpair ih

theorem embed
    {pairs' : (call call' : Op') → (Reply' call → Reply' call' → Prop) → Prop}
    {inject : Op → Op'}
    {reply : ∀ op, Except ε (Reply' (inject op)) → Except ε (Reply op)}
    (halike : Alike pairs related program program')
    (hpairs : ∀ call call' answers, pairs call call' answers →
      ∃ answers', pairs' (inject call) (inject call') answers' ∧
        ∀ given given', Agree answers' given given' →
          Agree answers (reply call given) (reply call' given')) :
    Alike pairs' related (program.embed inject reply)
      (program'.embed inject reply) := by
  induction halike with
  | done hvalue => exact .done hvalue
  | fail error => exact .fail error
  | await hpair hresume ih =>
      obtain ⟨answers', hpair', hagrees⟩ := hpairs _ _ _ hpair
      refine .await hpair' ?_
      intro given given' hgiven
      exact ih _ _ (hagrees _ _ hgiven)

theorem outcome {program' : Program Reply ε α}
    (halike : Alike pairs Eq program program') :
    program'.outcome = program.outcome := by
  cases halike with
  | done hvalue => rw [hvalue]
  | fail error => rfl
  | await hpair hresume => rfl

end Alike

end Program

/-! ## Runs -/

namespace Interleaving

variable [DecidableEq τ]
  {answer : (op : Op) → ι → W → Except ε (Reply op) × W}
  {pairs : (call call' : Op) → (Reply call → Reply call' → Prop) → Prop}
  {inputs : ι → ι → Prop} {worlds : W → W → Prop}

/-- Corresponding calls are answered alike, and leave worlds that are alike. -/
def AnsweredAlike (answer : (op : Op) → ι → W → Except ε (Reply op) × W)
    (pairs : (call call' : Op) → (Reply call → Reply call' → Prop) → Prop)
    (inputs : ι → ι → Prop) (worlds : W → W → Prop) : Prop :=
  ∀ call call' answers, pairs call call' answers →
    ∀ input input' world world', inputs input input' → worlds world world' →
      Agree answers (answer call input world).1
          (answer call' input' world').1 ∧
        worlds (answer call input world).2 (answer call' input' world').2

structure SystemsAlike
    (pairs : (call call' : Op) → (Reply call → Reply call' → Prop) → Prop)
    (worlds : W → W → Prop) (system system' : Interleaving τ Reply ε α W) :
    Prop where
  programs : ∀ thread, (system.program thread).Alike pairs Eq
    (system'.program thread)
  world : worlds system.world system'.world

theorem SystemsAlike.step
    (hanswer : AnsweredAlike answer pairs inputs worlds)
    {system system' next : Interleaving τ Reply ε α W} {event event' : τ × ι}
    (halike : SystemsAlike pairs worlds system system')
    (hthread : event'.1 = event.1) (hinput : inputs event.2 event'.2)
    (hstep : step answer system event = some next) :
    ∃ next', step answer system' event' = some next' ∧
      SystemsAlike pairs worlds next next' := by
  obtain ⟨call, resume, hprogram, heq⟩ := step_eq_some_iff.mp hstep
  have hthis := halike.programs event.1
  rw [hprogram] at hthis
  cases hthis' : system'.program event.1 with
  | done value =>
      rw [hthis'] at hthis
      cases hthis
  | fail error =>
      rw [hthis'] at hthis
      cases hthis
  | await call' resume' =>
      rw [hthis'] at hthis
      cases hthis with
      | await hpair hresume =>
          obtain ⟨hagree, hworld⟩ := hanswer _ _ _ hpair _ _ _ _ hinput halike.world
          rw [← hthread] at hthis'
          refine ⟨_, step_eq_some_iff.mpr ⟨call', resume', hthis', rfl⟩, ?_⟩
          subst heq
          refine ⟨?_, hworld⟩
          intro thread
          by_cases hsame : thread = event.1
          · rw [hsame, hthread]
            simp only [Function.update_self]
            exact hresume _ _ hagree
          · have hother : thread ≠ event'.1 := by
              rw [hthread]
              exact hsame
            simp only [Function.update_of_ne hsame,
              Function.update_of_ne hother]
            exact halike.programs thread

theorem SystemsAlike.run
    (hanswer : AnsweredAlike answer pairs inputs worlds)
    {system system' last : Interleaving τ Reply ε α W}
    {events events' : List (τ × ι)}
    (halike : SystemsAlike pairs worlds system system')
    (hevents : List.Forall₂ (fun event event' =>
      event'.1 = event.1 ∧ inputs event.2 event'.2) events events')
    (hrun : Transition.run (Interleaving.step answer) system events =
      some last) :
    ∃ last', Transition.run (Interleaving.step answer) system' events' =
        some last' ∧ SystemsAlike pairs worlds last last' := by
  induction hevents generalizing system system' with
  | nil =>
      cases hrun
      exact ⟨system', rfl, halike⟩
  | cons hevent hrest ih =>
      obtain ⟨next, hnext, hmore⟩ := Transition.run_cons_eq_some.mp hrun
      obtain ⟨next', hstep', halike'⟩ :=
        halike.step hanswer hevent.1 hevent.2 hnext
      obtain ⟨last', hrun', hlast⟩ := ih halike' hmore
      exact ⟨last', Transition.run_cons_eq_some.mpr ⟨next', hstep', hrun'⟩,
        hlast⟩

end Interleaving

end FakeBolt.Await
