import FakeBolt.AwaitFootprints
import Mathlib.Data.List.Basic

/-!
# Guarantees between concurrent programs

Any number of programs are under way in one world, started one after the
other, and between two calls of one of them the others may do anything that
their guarantee allows.  `Maintains` computes from the code of one program
that it keeps the guarantee itself and what it ends in.
-/

namespace FakeBolt.Await

variable {Op : Type} {Reply : Op → Type} {ε α β ι W : Type}

/-- What the programs in a world promise one another: an invariant, and what
the world of a later moment still has of an earlier one. -/
structure Guarantee (W : Type) where
  Inv : W → Prop
  Keeps : W → W → Prop
  refl : ∀ world, Keeps world world
  trans : ∀ {first second third}, Keeps first second → Keeps second third →
    Keeps first third

/-- One call, made in the world `before`. -/
structure Guarantee.Kept (guarantee : Guarantee W) (before after : W) :
    Prop where
  inv : guarantee.Inv after
  keeps : guarantee.Keeps before after

theorem Guarantee.Kept.self {guarantee : Guarantee W} {world : W}
    (hinv : guarantee.Inv world) : guarantee.Kept world world :=
  ⟨hinv, guarantee.refl world⟩

namespace Program

section Rules

variable (answer : (op : Op) → ι → W → Except ε (Reply op) × W)
  (guarantee : Guarantee W)

/-- From `world` on, every call keeps the guarantee whatever the others have
done before it, and the world of the last call is in `post`. -/
def Maintains :
    Program Reply ε α → W → (Except ε α → W → Prop) → Prop
  | .done value, world, post => post (.ok value) world
  | .fail error, world, post => post (.error error) world
  | .await op resume, world, post =>
      ∀ decision later, guarantee.Keeps world later → guarantee.Inv later →
        guarantee.Kept later (answer op decision later).2 ∧
          (resume (answer op decision later).1).Maintains
            (answer op decision later).2 post

variable {answer guarantee}

@[simp] theorem maintains_pure (value : α) (world : W)
    (post : Except ε α → W → Prop) :
    (pure value : Program Reply ε α).Maintains answer guarantee world post ↔
      post (.ok value) world := Iff.rfl

@[simp] theorem maintains_throw (error : ε) (world : W)
    (post : Except ε α → W → Prop) :
    (throw error : Program Reply ε α).Maintains answer guarantee world post ↔
      post (.error error) world := Iff.rfl

theorem maintains_call (op : Op) (world : W)
    (post : Except ε (Reply op) → W → Prop) :
    (call op : Program Reply ε (Reply op)).Maintains answer guarantee world
        post ↔
      ∀ decision later, guarantee.Keeps world later → guarantee.Inv later →
        guarantee.Kept later (answer op decision later).2 ∧
          post (answer op decision later).1 (answer op decision later).2 := by
  simp only [call, Maintains]
  apply forall_congr'
  intro decision
  apply forall_congr'
  intro later
  cases (answer op decision later).1 <;> rfl

@[simp] theorem maintains_bind (program : Program Reply ε α)
    (next : α → Program Reply ε β) (world : W)
    (post : Except ε β → W → Prop) :
    (program >>= next).Maintains answer guarantee world post ↔
      program.Maintains answer guarantee world fun result after =>
        match result with
        | .ok value => (next value).Maintains answer guarantee after post
        | .error error => post (.error error) after := by
  change (program.bind next).Maintains answer guarantee world post ↔ _
  induction program generalizing world with
  | done value => rfl
  | fail error => rfl
  | await op resume ih => simp only [bind, Maintains, ih]

@[simp] theorem maintains_tryCatch (program : Program Reply ε α)
    (handler : ε → Program Reply ε α) (world : W)
    (post : Except ε α → W → Prop) :
    (tryCatch program handler).Maintains answer guarantee world post ↔
      program.Maintains answer guarantee world fun result after =>
        match result with
        | .ok value => post (.ok value) after
        | .error error =>
            (handler error).Maintains answer guarantee after post := by
  change (program.handleError handler).Maintains answer guarantee world post ↔ _
  induction program generalizing world with
  | done value => rfl
  | fail error => rfl
  | await op resume ih => simp only [handleError, Maintains, ih]

theorem Maintains.mono {program : Program Reply ε α} {world : W}
    {post weaker : Except ε α → W → Prop}
    (hmaintains : program.Maintains answer guarantee world post)
    (hweaker : ∀ result after, post result after → weaker result after) :
    program.Maintains answer guarantee world weaker := by
  induction program generalizing world with
  | done value => exact hweaker _ _ hmaintains
  | fail error => exact hweaker _ _ hmaintains
  | await op resume ih =>
      intro decision later hkeeps hinv
      obtain ⟨hkept, hresume⟩ := hmaintains decision later hkeeps hinv
      exact ⟨hkept, ih _ hresume⟩

end Rules

/-! ## Programs under way -/

section UnderWay

variable (answer : (op : Op) → ι → W → Except ε (Reply op) × W)
  (guarantee : Guarantee W)

/-- The program keeps the guarantee to its end. -/
def Safe (world : W) (program : Program Reply ε α) : Prop :=
  program.Maintains answer guarantee world fun _ _ => True

/-- The program makes the call it awaits and runs on to the next one. -/
def advance (decision : ι) (world : W) :
    Program Reply ε α → Option (Program Reply ε α × W)
  | .done _ => none
  | .fail _ => none
  | .await op resume =>
      some (resume (answer op decision world).1,
        (answer op decision world).2)

/-- One of the programs advances. -/
def advanceAt (programs : List (Program Reply ε α)) (index : ℕ)
    (decision : ι) (world : W) :
    Option (List (Program Reply ε α) × W) :=
  match programs[index]? with
  | none => none
  | some program =>
      (program.advance answer decision world).map fun outcome =>
        (programs.set index outcome.1, outcome.2)

variable {answer guarantee}

/-- What the others do meanwhile does not matter. -/
theorem Safe.of_keeps {program : Program Reply ε α} {world later : W}
    (hsafe : Safe answer guarantee world program)
    (hkeeps : guarantee.Keeps world later) :
    Safe answer guarantee later program := by
  cases program with
  | done value => trivial
  | fail error => trivial
  | await op resume =>
      intro decision last hlast hinv
      exact hsafe decision last (guarantee.trans hkeeps hlast) hinv

theorem Safe.advance {program next : Program Reply ε α} {world after : W}
    {decision : ι} (hsafe : Safe answer guarantee world program)
    (hinv : guarantee.Inv world)
    (hadvance : program.advance answer decision world = some (next, after)) :
    guarantee.Kept world after ∧ Safe answer guarantee after next := by
  cases program with
  | done value => cases hadvance
  | fail error => cases hadvance
  | await op resume =>
      cases hadvance
      exact hsafe decision world (guarantee.refl world) hinv

theorem forall_safe_of_keeps {programs : List (Program Reply ε α)}
    {world later : W}
    (hsafe : ∀ program ∈ programs, Safe answer guarantee world program)
    (hkeeps : guarantee.Keeps world later) :
    ∀ program ∈ programs, Safe answer guarantee later program :=
  fun program hprogram => (hsafe program hprogram).of_keeps hkeeps

theorem forall_safe_append {programs : List (Program Reply ε α)}
    {program : Program Reply ε α} {world : W}
    (hsafe : ∀ program ∈ programs, Safe answer guarantee world program)
    (hstarted : Safe answer guarantee world program) :
    ∀ other ∈ programs ++ [program], Safe answer guarantee world other := by
  intro other hother
  rcases List.mem_append.mp hother with hold | hnew
  · exact hsafe other hold
  · rw [List.mem_singleton.mp hnew]
    exact hstarted

/-- One call of one program keeps the guarantee, and all of them stay safe. -/
theorem forall_safe_advanceAt {programs next : List (Program Reply ε α)}
    {world after : W} {index : ℕ} {decision : ι}
    (hsafe : ∀ program ∈ programs, Safe answer guarantee world program)
    (hinv : guarantee.Inv world)
    (hadvance : advanceAt answer programs index decision world =
      some (next, after)) :
    guarantee.Kept world after ∧
      ∀ program ∈ next, Safe answer guarantee after program := by
  unfold advanceAt at hadvance
  cases hindex : programs[index]? with
  | none => simp [hindex] at hadvance
  | some program =>
      simp only [hindex, Option.map_eq_some_iff, Prod.mk.injEq] at hadvance
      obtain ⟨⟨moved, world'⟩, hmoved, hnext, hafter⟩ := hadvance
      subst hnext hafter
      have hprogram := hsafe program (List.mem_of_getElem? hindex)
      obtain ⟨hkept, hmovedSafe⟩ := hprogram.advance hinv hmoved
      refine ⟨hkept, ?_⟩
      intro other hother
      rcases List.mem_or_eq_of_mem_set hother with hold | heq
      · exact (hsafe other hold).of_keeps hkept.keeps
      · rw [heq]
        exact hmovedSafe

/-- Permitted calls keep `Inv` and get possible replies: one call of one
program keeps it, and the programs stay confined. -/
theorem forall_confined_advanceAt {permitted : Op → Prop}
    {possible : (op : Op) → Except ε (Reply op) → Prop}
    {post : Except ε α → Prop} (Inv : W → Prop)
    {programs next : List (Program Reply ε α)} {world after : W} {index : ℕ}
    {decision : ι}
    (hanswer : ∀ op, permitted op → possible op (answer op decision world).1 ∧
      Inv (answer op decision world).2)
    (hconfined : ∀ program ∈ programs,
      program.Confined permitted possible post)
    (hadvance : advanceAt answer programs index decision world =
      some (next, after)) :
    Inv after ∧
      ∀ program ∈ next, program.Confined permitted possible post := by
  unfold advanceAt at hadvance
  cases hindex : programs[index]? with
  | none => simp [hindex] at hadvance
  | some program =>
      simp only [hindex, Option.map_eq_some_iff, Prod.mk.injEq] at hadvance
      obtain ⟨⟨moved, world'⟩, hmoved, hnext, hafter⟩ := hadvance
      subst hnext hafter
      have hprogram := hconfined program (List.mem_of_getElem? hindex)
      cases program with
      | done value => cases hmoved
      | fail error => cases hmoved
      | await op resume =>
          cases hmoved
          obtain ⟨hpermitted, hresume⟩ := hprogram
          obtain ⟨hpossible, hinv⟩ := hanswer op hpermitted
          refine ⟨hinv, ?_⟩
          intro other hother
          rcases List.mem_or_eq_of_mem_set hother with hold | heq
          · exact hconfined other hold
          · rw [heq]
            exact hresume _ hpossible

/-- What every call does to the world, one call of one program does. -/
theorem rel_of_advanceAt (rel : W → W → Prop)
    {programs next : List (Program Reply ε α)} {world after : W} {index : ℕ}
    {decision : ι} (hanswer : ∀ op, rel world (answer op decision world).2)
    (hadvance : advanceAt answer programs index decision world =
      some (next, after)) : rel world after := by
  unfold advanceAt at hadvance
  cases hindex : programs[index]? with
  | none => simp [hindex] at hadvance
  | some program =>
      simp only [hindex, Option.map_eq_some_iff, Prod.mk.injEq] at hadvance
      obtain ⟨⟨moved, world'⟩, hmoved, -, hafter⟩ := hadvance
      subst hafter
      cases program with
      | done value => cases hmoved
      | fail error => cases hmoved
      | await op resume =>
          cases hmoved
          exact hanswer op

end UnderWay

end Program

end FakeBolt.Await
