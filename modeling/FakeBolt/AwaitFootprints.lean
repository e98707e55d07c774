import FakeBolt.AwaitProgram

/-!
# The calls a program makes

`calls` lists the awaited calls of one execution.  `Confined` computes from
the code which calls a program can make at all: every call is permitted as
long as the replies to the permitted calls are possible ones.  What permitted
calls leave alone, a confined program leaves alone, and two states that answer
them alike cannot be told apart by one.
-/

namespace FakeBolt.Await

variable {Op : Type} {Reply : Op → Type} {ε α β σ τ : Type}

namespace Program

def calls (answer : (op : Op) → σ → Except ε (Reply op) × σ) :
    Program Reply ε α → σ → List Op
  | .done _, _ => []
  | .fail _, _ => []
  | .await op resume, state =>
      op :: (resume (answer op state).1).calls answer (answer op state).2

section Calls

variable (answer : (op : Op) → σ → Except ε (Reply op) × σ)

@[simp] theorem calls_pure (value : α) (state : σ) :
    (pure value : Program Reply ε α).calls answer state = [] := rfl

@[simp] theorem calls_throw (error : ε) (state : σ) :
    (throw error : Program Reply ε α).calls answer state = [] := rfl

@[simp] theorem calls_call (op : Op) (state : σ) :
    (call op : Program Reply ε (Reply op)).calls answer state = [op] := by
  cases hreply : (answer op state).1 <;> simp [call, calls, hreply]

@[simp] theorem calls_bind (program : Program Reply ε α)
    (next : α → Program Reply ε β) (state : σ) :
    (program >>= next).calls answer state =
      program.calls answer state ++
        match program.exec answer state with
        | (.ok value, after) => (next value).calls answer after
        | (.error _, _) => [] := by
  change (program.bind next).calls answer state = _
  induction program generalizing state with
  | done value => rfl
  | fail error => rfl
  | await op resume ih => simp only [bind, calls, exec, ih, List.cons_append]

@[simp] theorem calls_tryCatch (program : Program Reply ε α)
    (handler : ε → Program Reply ε α) (state : σ) :
    (tryCatch program handler).calls answer state =
      program.calls answer state ++
        match program.exec answer state with
        | (.ok _, _) => []
        | (.error error, after) => (handler error).calls answer after := by
  change (program.handleError handler).calls answer state = _
  induction program generalizing state with
  | done value => rfl
  | fail error => rfl
  | await op resume ih =>
      simp only [handleError, calls, exec, ih, List.cons_append]

@[simp] theorem calls_ite (condition : Prop) [Decidable condition]
    (first second : Program Reply ε α) (state : σ) :
    (if condition then first else second).calls answer state =
      if condition then first.calls answer state
      else second.calls answer state := by
  split <;> rfl

/-- Two worlds that answer the calls of an execution alike execute the program
alike. -/
theorem exec_congr {answer other : (op : Op) → σ → Except ε (Reply op) × σ}
    {program : Program Reply ε α} {state : σ}
    (hcalls : ∀ op ∈ program.calls answer state, ∀ before,
      other op before = answer op before) :
    program.exec other state = program.exec answer state := by
  induction program generalizing state with
  | done value => rfl
  | fail error => rfl
  | await op resume ih =>
      rw [calls, List.forall_mem_cons] at hcalls
      rw [exec, exec, hcalls.1 state]
      exact ih _ hcalls.2

/-- What every call of an execution keeps, the execution keeps. -/
theorem exec_keeps (Inv : σ → Prop) {program : Program Reply ε α} {state : σ}
    (hcalls : ∀ op ∈ program.calls answer state, ∀ before, Inv before →
      Inv (answer op before).2)
    (hinv : Inv state) : Inv (program.exec answer state).2 := by
  induction program generalizing state with
  | done value => exact hinv
  | fail error => exact hinv
  | await op resume ih =>
      rw [calls, List.forall_mem_cons] at hcalls
      exact ih _ hcalls.2 (hcalls.1 state hinv)

end Calls

/-- Every call is permitted and the result meets `post`, whatever possible
reply each call gets. -/
def Confined (permitted : Op → Prop)
    (possible : (op : Op) → Except ε (Reply op) → Prop) :
    Program Reply ε α → (Except ε α → Prop) → Prop
  | .done value, post => post (.ok value)
  | .fail error, post => post (.error error)
  | .await op resume, post =>
      permitted op ∧ ∀ reply, possible op reply →
        (resume reply).Confined permitted possible post

section Rules

variable {permitted : Op → Prop}
  {possible : (op : Op) → Except ε (Reply op) → Prop}

@[simp] theorem confined_pure (value : α) (post : Except ε α → Prop) :
    (pure value : Program Reply ε α).Confined permitted possible post ↔
      post (.ok value) := Iff.rfl

@[simp] theorem confined_throw (error : ε) (post : Except ε α → Prop) :
    (throw error : Program Reply ε α).Confined permitted possible post ↔
      post (.error error) := Iff.rfl

@[simp] theorem confined_call (op : Op)
    (post : Except ε (Reply op) → Prop) :
    (call op : Program Reply ε (Reply op)).Confined permitted possible post ↔
      permitted op ∧ ∀ reply, possible op reply → post reply := by
  simp only [call, Confined]
  apply and_congr_right
  intro _
  apply forall_congr'
  intro reply
  cases reply <;> rfl

@[simp] theorem confined_bind (program : Program Reply ε α)
    (next : α → Program Reply ε β) (post : Except ε β → Prop) :
    (program >>= next).Confined permitted possible post ↔
      program.Confined permitted possible fun result =>
        match result with
        | .ok value => (next value).Confined permitted possible post
        | .error error => post (.error error) := by
  change (program.bind next).Confined permitted possible post ↔ _
  induction program with
  | done value => rfl
  | fail error => rfl
  | await op resume ih => simp only [bind, Confined, ih]

@[simp] theorem confined_tryCatch (program : Program Reply ε α)
    (handler : ε → Program Reply ε α) (post : Except ε α → Prop) :
    (tryCatch program handler).Confined permitted possible post ↔
      program.Confined permitted possible fun result =>
        match result with
        | .ok value => post (.ok value)
        | .error error => (handler error).Confined permitted possible post := by
  change (program.handleError handler).Confined permitted possible post ↔ _
  induction program with
  | done value => rfl
  | fail error => rfl
  | await op resume ih => simp only [handleError, Confined, ih]

end Rules

section Executions

variable {permitted : Op → Prop}
  {possible : (op : Op) → Except ε (Reply op) → Prop}
  {program : Program Reply ε α} {post : Except ε α → Prop}

theorem Confined.mono {weaker : Except ε α → Prop}
    (hconfined : program.Confined permitted possible post)
    (hweaker : ∀ result, post result → weaker result) :
    program.Confined permitted possible weaker := by
  induction program with
  | done value => exact hweaker _ hconfined
  | fail error => exact hweaker _ hconfined
  | await op resume ih =>
      exact ⟨hconfined.1, fun reply hreply => ih reply (hconfined.2 reply hreply)⟩

/-- An execution from a state that keeps answering permitted calls with
possible replies makes permitted calls only, and keeps what they keep. -/
theorem Confined.of_exec
    (hconfined : program.Confined permitted possible post)
    (answer : (op : Op) → σ → Except ε (Reply op) × σ) (Inv : σ → Prop)
    (hanswer : ∀ op state, permitted op → Inv state →
      possible op (answer op state).1 ∧ Inv (answer op state).2)
    {state : σ} (hinv : Inv state) :
    (∀ op ∈ program.calls answer state, permitted op) ∧
      post (program.exec answer state).1 ∧
      Inv (program.exec answer state).2 := by
  induction program generalizing state with
  | done value => exact ⟨by simp [calls], hconfined, hinv⟩
  | fail error => exact ⟨by simp [calls], hconfined, hinv⟩
  | await op resume ih =>
      obtain ⟨hpermitted, hresume⟩ := hconfined
      obtain ⟨hpossible, hnext⟩ := hanswer op state hpermitted hinv
      obtain ⟨hcalls, hpost, hlast⟩ :=
        ih (answer op state).1 (hresume _ hpossible) hnext
      refine ⟨?_, hpost, hlast⟩
      intro made hmade
      rcases List.mem_cons.mp hmade with hfirst | hrest
      · rw [hfirst]
        exact hpermitted
      · exact hcalls made hrest

/-- Two executions from related states that answer permitted calls alike have
the same result, make the same calls and end in related states. -/
theorem Confined.agree
    (hconfined : program.Confined permitted possible post)
    (first : (op : Op) → σ → Except ε (Reply op) × σ)
    (second : (op : Op) → τ → Except ε (Reply op) × τ) (Rel : σ → τ → Prop)
    (hanswer : ∀ op state state', permitted op → Rel state state' →
      possible op (first op state).1 ∧
        (first op state).1 = (second op state').1 ∧
        Rel (first op state).2 (second op state').2)
    {state : σ} {state' : τ} (hrel : Rel state state') :
    (program.exec first state).1 = (program.exec second state').1 ∧
      program.calls first state = program.calls second state' ∧
      Rel (program.exec first state).2 (program.exec second state').2 := by
  induction program generalizing state state' with
  | done value => exact ⟨rfl, rfl, hrel⟩
  | fail error => exact ⟨rfl, rfl, hrel⟩
  | await op resume ih =>
      obtain ⟨hpermitted, hresume⟩ := hconfined
      obtain ⟨hpossible, hreply, hnext⟩ :=
        hanswer op state state' hpermitted hrel
      obtain ⟨hresult, hcalls, hlast⟩ :=
        ih (first op state).1 (hresume _ hpossible) hnext
      simp only [exec, calls]
      rw [← hreply]
      exact ⟨hresult, by rw [hcalls], hlast⟩

end Executions

end Program

end FakeBolt.Await
