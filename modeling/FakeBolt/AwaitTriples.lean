import FakeBolt.AwaitProgram

/-!
# Postconditions of awaiting programs

`Ensures answer allowed program world post`: started in `world`, the program
ends in `post`, whatever the environment decides about each awaited call among
the decisions it is allowed.  The rules follow the structure of programs, so a
postcondition is computed from the code; `ensures_exec` says what it means for
scripted executions.
-/

namespace FakeBolt.Await

variable {Op : Type} {Reply : Op → Type} {ε α β ι W : Type}

namespace Program

section Rules

variable (answer : (op : Op) → ι → W → Except ε (Reply op) × W)
  (allowed : ι → Prop)

def Ensures :
    Program Reply ε α → W → (Except ε α → W → Prop) → Prop
  | .done value, world, post => post (.ok value) world
  | .fail error, world, post => post (.error error) world
  | .await op resume, world, post =>
      ∀ decision, allowed decision →
        (resume (answer op decision world).1).Ensures
          (answer op decision world).2 post

variable {answer allowed}

@[simp] theorem ensures_pure (value : α) (world : W)
    (post : Except ε α → W → Prop) :
    (pure value : Program Reply ε α).Ensures answer allowed world post ↔
      post (.ok value) world := Iff.rfl

@[simp] theorem ensures_throw (error : ε) (world : W)
    (post : Except ε α → W → Prop) :
    (throw error : Program Reply ε α).Ensures answer allowed world post ↔
      post (.error error) world := Iff.rfl

@[simp] theorem ensures_call (op : Op) (world : W)
    (post : Except ε (Reply op) → W → Prop) :
    (call op : Program Reply ε (Reply op)).Ensures answer allowed world post ↔
      ∀ decision, allowed decision →
        post (answer op decision world).1 (answer op decision world).2 := by
  simp only [call, Ensures]
  apply forall_congr'
  intro decision
  cases (answer op decision world).1 <;> rfl

@[simp] theorem ensures_bind (program : Program Reply ε α)
    (next : α → Program Reply ε β) (world : W)
    (post : Except ε β → W → Prop) :
    (program >>= next).Ensures answer allowed world post ↔
      program.Ensures answer allowed world fun result after =>
        match result with
        | .ok value => (next value).Ensures answer allowed after post
        | .error error => post (.error error) after := by
  change (program.bind next).Ensures answer allowed world post ↔ _
  induction program generalizing world with
  | done value => rfl
  | fail error => rfl
  | await op resume ih =>
      simp only [bind, Ensures]
      exact forall_congr' fun decision => imp_congr_right fun _ => ih _ _

@[simp] theorem ensures_tryCatch (program : Program Reply ε α)
    (handler : ε → Program Reply ε α) (world : W)
    (post : Except ε α → W → Prop) :
    (tryCatch program handler).Ensures answer allowed world post ↔
      program.Ensures answer allowed world fun result after =>
        match result with
        | .ok value => post (.ok value) after
        | .error error =>
            (handler error).Ensures answer allowed after post := by
  change (program.handleError handler).Ensures answer allowed world post ↔ _
  induction program generalizing world with
  | done value => rfl
  | fail error => rfl
  | await op resume ih =>
      simp only [handleError, Ensures]
      exact forall_congr' fun decision => imp_congr_right fun _ => ih _ _

theorem Ensures.mono {program : Program Reply ε α} {world : W}
    {post weaker : Except ε α → W → Prop}
    (hensures : program.Ensures answer allowed world post)
    (hweaker : ∀ result after, post result after → weaker result after) :
    program.Ensures answer allowed world weaker := by
  induction program generalizing world with
  | done value => exact hweaker _ _ hensures
  | fail error => exact hweaker _ _ hensures
  | await op resume ih =>
      intro decision hdecision
      exact ih _ (hensures decision hdecision)

/-- What a program ensures holds at the end of every execution whose script
is allowed. -/
theorem ensures_exec {program : Program Reply ε α} {world : W}
    {post : Except ε α → W → Prop}
    (hensures : program.Ensures answer allowed world post)
    {script : ℕ → ι} (hscript : ∀ n, allowed (script n)) :
    post (program.exec (scripted answer) (script, world)).1
      (program.exec (scripted answer) (script, world)).2.2 := by
  induction program generalizing script world with
  | done value => exact hensures
  | fail error => exact hensures
  | await op resume ih =>
      simp only [exec, scripted_apply]
      exact ih _ (hensures (script 0) (hscript 0)) fun n => hscript (n + 1)

end Rules

end Program

end FakeBolt.Await
