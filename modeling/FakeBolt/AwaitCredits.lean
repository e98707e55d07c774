import FakeBolt.AwaitGuarantees
import FakeBolt.GuardedRun

/-!
# Credits of concurrent programs

An amount that is read off the world grows only as far as programs were given
credit for it.  A call pays for what it adds to the amount, and what it takes
away it may keep as credit for a later call, however far away the other
programs put that call.
-/

namespace FakeBolt.Await

variable {Op : Type} {Reply : Op → Type} {ε α β ι W : Type}

namespace Program

section Rules

variable (answer : (op : Op) → ι → W → Except ε (Reply op) × W)
  (amount : W → ℕ)

/-- In whatever worlds the calls are made, the credit pays for them, and what
is left of it at the end is in `post`. -/
def Affords :
    Program Reply ε α → ℕ → (Except ε α → ℕ → Prop) → Prop
  | .done value, credit, post => post (.ok value) credit
  | .fail error, credit, post => post (.error error) credit
  | .await op resume, credit, post =>
      ∀ decision world, ∃ left,
        amount (answer op decision world).2 + left ≤ amount world + credit ∧
          (resume (answer op decision world).1).Affords left post

variable {answer amount}

@[simp] theorem affords_pure (value : α) (credit : ℕ)
    (post : Except ε α → ℕ → Prop) :
    (pure value : Program Reply ε α).Affords answer amount credit post ↔
      post (.ok value) credit := Iff.rfl

@[simp] theorem affords_throw (error : ε) (credit : ℕ)
    (post : Except ε α → ℕ → Prop) :
    (throw error : Program Reply ε α).Affords answer amount credit post ↔
      post (.error error) credit := Iff.rfl

theorem affords_call (op : Op) (credit : ℕ)
    (post : Except ε (Reply op) → ℕ → Prop) :
    (call op : Program Reply ε (Reply op)).Affords answer amount credit post ↔
      ∀ decision world, ∃ left,
        amount (answer op decision world).2 + left ≤ amount world + credit ∧
          post (answer op decision world).1 left := by
  simp only [call, Affords]
  apply forall_congr'
  intro decision
  apply forall_congr'
  intro world
  cases (answer op decision world).1 <;> rfl

@[simp] theorem affords_bind (program : Program Reply ε α)
    (next : α → Program Reply ε β) (credit : ℕ)
    (post : Except ε β → ℕ → Prop) :
    (program >>= next).Affords answer amount credit post ↔
      program.Affords answer amount credit fun result left =>
        match result with
        | .ok value => (next value).Affords answer amount left post
        | .error error => post (.error error) left := by
  change (program.bind next).Affords answer amount credit post ↔ _
  induction program generalizing credit with
  | done value => rfl
  | fail error => rfl
  | await op resume ih => simp only [bind, Affords, ih]

@[simp] theorem affords_tryCatch (program : Program Reply ε α)
    (handler : ε → Program Reply ε α) (credit : ℕ)
    (post : Except ε α → ℕ → Prop) :
    (tryCatch program handler).Affords answer amount credit post ↔
      program.Affords answer amount credit fun result left =>
        match result with
        | .ok value => post (.ok value) left
        | .error error =>
            (handler error).Affords answer amount left post := by
  change (program.handleError handler).Affords answer amount credit post ↔ _
  induction program generalizing credit with
  | done value => rfl
  | fail error => rfl
  | await op resume ih => simp only [handleError, Affords, ih]

theorem Affords.mono {program : Program Reply ε α} {credit : ℕ}
    {post weaker : Except ε α → ℕ → Prop}
    (haffords : program.Affords answer amount credit post)
    (hweaker : ∀ result left, post result left → weaker result left) :
    program.Affords answer amount credit weaker := by
  induction program generalizing credit with
  | done value => exact hweaker _ _ haffords
  | fail error => exact hweaker _ _ haffords
  | await op resume ih =>
      intro decision world
      obtain ⟨left, hpaid, hresume⟩ := haffords decision world
      exact ⟨left, hpaid, ih _ hresume⟩

theorem affords_tryCatch_all {program : Program Reply ε α}
    {handler : ε → Program Reply ε α} {credit : ℕ}
    (hprogram : program.Affords answer amount credit fun _ _ => True)
    (hhandler : ∀ error left,
      (handler error).Affords answer amount left fun _ _ => True) :
    (tryCatch program handler).Affords answer amount credit
      fun _ _ => True := by
  rw [affords_tryCatch]
  apply hprogram.mono
  intro result left _
  cases result with
  | ok value => trivial
  | error error => exact hhandler error left

end Rules

/-! ## Programs under way -/

section UnderWay

variable (answer : (op : Op) → ι → W → Except ε (Reply op) × W)
  (amount : W → ℕ)

/-- The credit lasts to the end of the program. -/
def Solvent (credit : ℕ) (program : Program Reply ε α) : Prop :=
  program.Affords answer amount credit fun _ _ => True

/-- The credit can be divided between the programs. -/
def AllSolvent : List (Program Reply ε α) → ℕ → Prop
  | [], _ => True
  | program :: programs, credit =>
      ∃ own rest, own + rest ≤ credit ∧ Solvent answer amount own program ∧
        AllSolvent programs rest

variable {answer amount}

theorem Solvent.advance {program next : Program Reply ε α} {credit : ℕ}
    {decision : ι} {world after : W}
    (hsolvent : Solvent answer amount credit program)
    (hadvance : program.advance answer decision world = some (next, after)) :
    ∃ left, amount after + left ≤ amount world + credit ∧
      Solvent answer amount left next := by
  cases program with
  | done value => cases hadvance
  | fail error => cases hadvance
  | await op resume =>
      cases hadvance
      exact hsolvent decision world

theorem AllSolvent.of_le {programs : List (Program Reply ε α)}
    {credit more : ℕ} (hsolvent : AllSolvent answer amount programs credit)
    (hle : credit ≤ more) : AllSolvent answer amount programs more := by
  cases programs with
  | nil => trivial
  | cons program programs =>
      obtain ⟨own, rest, hdivided, hown, hrest⟩ := hsolvent
      exact ⟨own, rest, Nat.le_trans hdivided hle, hown, hrest⟩

/-- A program is started with a credit of its own. -/
theorem AllSolvent.append {programs : List (Program Reply ε α)}
    {program : Program Reply ε α} {credit given : ℕ}
    (hsolvent : AllSolvent answer amount programs credit)
    (hstarted : Solvent answer amount given program) :
    AllSolvent answer amount (programs ++ [program]) (credit + given) := by
  induction programs generalizing credit with
  | nil => exact ⟨given, 0, Nat.le_add_left _ _, hstarted, trivial⟩
  | cons first programs ih =>
      obtain ⟨own, rest, hdivided, hown, hrest⟩ := hsolvent
      refine ⟨own, rest + given, ?_, hown, ih hrest⟩
      omega

/-- The share of one program, and what the others have. -/
theorem AllSolvent.share {programs : List (Program Reply ε α)}
    {program : Program Reply ε α} {credit index : ℕ}
    (hsolvent : AllSolvent answer amount programs credit)
    (hindex : programs[index]? = some program) :
    ∃ own rest, own + rest ≤ credit ∧ Solvent answer amount own program ∧
      ∀ moved left, Solvent answer amount left moved →
        AllSolvent answer amount (programs.set index moved) (left + rest) := by
  induction programs generalizing credit index with
  | nil => simp at hindex
  | cons first programs ih =>
      obtain ⟨own, rest, hdivided, hown, hrest⟩ := hsolvent
      cases index with
      | zero =>
          simp only [List.getElem?_cons_zero, Option.some.injEq] at hindex
          subst first
          exact ⟨own, rest, hdivided, hown, fun moved left hmoved =>
            ⟨left, rest, Nat.le_refl _, hmoved, hrest⟩⟩
      | succ index =>
          rw [List.getElem?_cons_succ] at hindex
          obtain ⟨share, others, hshared, hshare, hothers⟩ := ih hrest hindex
          refine ⟨share, own + others, by omega, hshare, ?_⟩
          intro moved left hmoved
          exact ⟨own, left + others, by omega, hown, hothers moved left hmoved⟩

/-- What one call of one program adds, the credit of all of them pays for. -/
theorem AllSolvent.advanceAt {programs next : List (Program Reply ε α)}
    {credit index : ℕ} {decision : ι} {world after : W}
    (hsolvent : AllSolvent answer amount programs credit)
    (hadvance : advanceAt answer programs index decision world =
      some (next, after)) :
    ∃ left, amount after + left ≤ amount world + credit ∧
      AllSolvent answer amount next left := by
  unfold Program.advanceAt at hadvance
  cases hindex : programs[index]? with
  | none => simp [hindex] at hadvance
  | some program =>
      simp only [hindex, Option.map_eq_some_iff, Prod.mk.injEq] at hadvance
      obtain ⟨⟨moved, world'⟩, hmoved, hnext, hafter⟩ := hadvance
      subst hnext hafter
      obtain ⟨own, rest, hdivided, hown, hset⟩ := hsolvent.share hindex
      obtain ⟨left, hpaid, hleft⟩ := hown.advance hmoved
      refine ⟨left + rest, ?_, hset moved left hleft⟩
      dsimp only
      omega

/-- A program that is never resumed needs no credit. -/
theorem AllSolvent.eraseIdx {programs : List (Program Reply ε α)}
    {credit : ℕ} (hsolvent : AllSolvent answer amount programs credit)
    (index : ℕ) :
    AllSolvent answer amount (programs.eraseIdx index) credit := by
  induction programs generalizing credit index with
  | nil => trivial
  | cons first programs ih =>
      obtain ⟨own, rest, hdivided, hown, hrest⟩ := hsolvent
      cases index with
      | zero => exact hrest.of_le (by omega)
      | succ index => exact ⟨own, rest, hdivided, hown, ih hrest index⟩

end UnderWay

end Program

end FakeBolt.Await

namespace FakeBolt.Transition

variable {S E : Type} {step : S → E → Option S}

end FakeBolt.Transition
