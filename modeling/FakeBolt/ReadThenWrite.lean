import FakeBolt.AwaitFootprints
import FakeBolt.AwaitInterleaving

/-!
# Executions that read once and then write

An execution that makes one read and after it only writes, whose replies say
nothing about the world, has decided at its read which calls it will make.
Among other executions the calls that are ahead of it stay the same from then
on, whatever the others do in between.
-/

namespace FakeBolt.Await

variable {Op : Type} {Reply : Op → Type} {ε α β τ W : Type}
  {answer : (op : Op) → W → Except ε (Reply op) × W} {IsWrite : Op → Prop}

namespace Program

/-- The replies that a call gets in some world. -/
def Answers (answer : (op : Op) → W → Except ε (Reply op) × W) (op : Op)
    (reply : Except ε (Reply op)) : Prop :=
  ∃ world, reply = (answer op world).1

def Permits (answer : (op : Op) → W → Except ε (Reply op) × W)
    (permitted : Op → Prop) (program : Program Reply ε α) : Prop :=
  program.Confined permitted (Answers answer) fun _ => True

theorem permits_pure (permitted : Op → Prop) (value : α) :
    (pure value : Program Reply ε α).Permits answer permitted := trivial

theorem permits_throw (permitted : Op → Prop) (error : ε) :
    (throw error : Program Reply ε α).Permits answer permitted := trivial

theorem permits_call {permitted : Op → Prop} {op : Op}
    (hpermitted : permitted op) :
    (call op : Program Reply ε (Reply op)).Permits answer permitted :=
  (confined_call op _).mpr ⟨hpermitted, fun _ _ => trivial⟩

theorem Permits.bind {permitted : Op → Prop} {program : Program Reply ε α}
    {next : α → Program Reply ε β}
    (hprogram : program.Permits answer permitted)
    (hnext : ∀ value, (next value).Permits answer permitted) :
    (program >>= next).Permits answer permitted := by
  unfold Permits
  rw [confined_bind]
  apply Confined.mono hprogram
  intro result _
  cases result with
  | ok value => exact hnext value
  | error error => trivial

theorem Permits.tryCatch {permitted : Op → Prop} {program : Program Reply ε α}
    {handler : ε → Program Reply ε α}
    (hprogram : program.Permits answer permitted)
    (hhandler : ∀ error, (handler error).Permits answer permitted) :
    (tryCatch program handler).Permits answer permitted := by
  unfold Permits
  rw [confined_tryCatch]
  apply Confined.mono hprogram
  intro result _
  cases result with
  | ok value => trivial
  | error error => exact hhandler error

theorem Permits.resume {permitted : Op → Prop} {op : Op}
    {resume : Except ε (Reply op) → Program Reply ε α}
    (hpermits : (Program.await op resume).Permits answer permitted)
    (world : W) : (resume (answer op world).1).Permits answer permitted :=
  hpermits.2 _ ⟨world, rfl⟩

theorem Permits.of_pending {permitted : Op → Prop} {op : Op}
    {program : Program Reply ε α} (hpermits : program.Permits answer permitted)
    (hpending : program.pending = some op) : permitted op := by
  cases program with
  | done value => cases hpending
  | fail error => cases hpending
  | await call resume =>
      cases hpending
      exact hpermits.1

theorem Permits.of_mem_calls {permitted : Op → Prop} {op : Op}
    {program : Program Reply ε α} (hpermits : program.Permits answer permitted)
    {world : W} (hcall : op ∈ program.calls answer world) : permitted op := by
  have hexec : (∀ made ∈ program.calls answer world, permitted made) ∧
      True ∧ True :=
    hpermits.of_exec answer (fun _ => True)
      (fun op state _ _ => ⟨⟨state, rfl⟩, trivial⟩) trivial
  exact hexec.1 op hcall

/-- Replies to these calls are the same in every world. -/
def Blind (answer : (op : Op) → W → Except ε (Reply op) × W)
    (IsWrite : Op → Prop) : Prop :=
  ∀ op world world', IsWrite op → (answer op world).1 = (answer op world').1

theorem Permits.calls_eq (hblind : Blind answer IsWrite)
    {program : Program Reply ε α} (hwrites : program.Permits answer IsWrite)
    (world world' : W) :
    program.calls answer world = program.calls answer world' := by
  have hagree : (program.exec answer world).1 =
        (program.exec answer world').1 ∧
      program.calls answer world = program.calls answer world' ∧ True :=
    hwrites.agree answer answer (fun _ _ => True)
      (fun op state state' hwrite _ =>
        ⟨⟨state, rfl⟩, hblind op state state' hwrite, trivial⟩) trivial
  exact hagree.2.1

/-- The first call is not a write and every later one is; `hasRead` says which
of the two comes next. -/
def Phased (answer : (op : Op) → W → Except ε (Reply op) × W)
    (IsWrite : Op → Prop) :
    Program Reply ε α → Bool → (Bool → Except ε α → Prop) → Prop
  | .done value, hasRead, post => post hasRead (.ok value)
  | .fail error, hasRead, post => post hasRead (.error error)
  | .await op resume, hasRead, post =>
      (IsWrite op ↔ hasRead = true) ∧
        ∀ world, (resume (answer op world).1).Phased answer IsWrite true post

section Rules

variable {hasRead : Bool}

@[simp] theorem phased_pure (value : α) (post : Bool → Except ε α → Prop) :
    (pure value : Program Reply ε α).Phased answer IsWrite hasRead post ↔
      post hasRead (.ok value) := Iff.rfl

@[simp] theorem phased_throw (error : ε) (post : Bool → Except ε α → Prop) :
    (throw error : Program Reply ε α).Phased answer IsWrite hasRead post ↔
      post hasRead (.error error) := Iff.rfl

@[simp] theorem phased_call (op : Op)
    (post : Bool → Except ε (Reply op) → Prop) :
    (call op : Program Reply ε (Reply op)).Phased answer IsWrite hasRead
        post ↔
      (IsWrite op ↔ hasRead = true) ∧
        ∀ world, post true (answer op world).1 := by
  simp only [call, Phased]
  apply and_congr_right
  intro _
  apply forall_congr'
  intro world
  cases (answer op world).1 <;> rfl

@[simp] theorem phased_bind (program : Program Reply ε α)
    (next : α → Program Reply ε β) (post : Bool → Except ε β → Prop) :
    (program >>= next).Phased answer IsWrite hasRead post ↔
      program.Phased answer IsWrite hasRead fun after result =>
        match result with
        | .ok value => (next value).Phased answer IsWrite after post
        | .error error => post after (.error error) := by
  change (program.bind next).Phased answer IsWrite hasRead post ↔ _
  induction program generalizing hasRead with
  | done value => rfl
  | fail error => rfl
  | await op resume ih => simp only [bind, Phased, ih]

@[simp] theorem phased_tryCatch (program : Program Reply ε α)
    (handler : ε → Program Reply ε α) (post : Bool → Except ε α → Prop) :
    (tryCatch program handler).Phased answer IsWrite hasRead post ↔
      program.Phased answer IsWrite hasRead fun after result =>
        match result with
        | .ok value => post after (.ok value)
        | .error error =>
            (handler error).Phased answer IsWrite after post := by
  change (program.handleError handler).Phased answer IsWrite hasRead post ↔ _
  induction program generalizing hasRead with
  | done value => rfl
  | fail error => rfl
  | await op resume ih => simp only [handleError, Phased, ih]

@[simp] theorem phased_ite (condition : Prop) [Decidable condition]
    (first second : Program Reply ε α) (post : Bool → Except ε α → Prop) :
    (if condition then first else second).Phased answer IsWrite hasRead post ↔
      if condition then first.Phased answer IsWrite hasRead post
      else second.Phased answer IsWrite hasRead post := by
  split <;> rfl

theorem phased_true_iff {program : Program Reply ε α}
    {post : Except ε α → Prop} :
    program.Phased answer IsWrite true (fun _ => post) ↔
      program.Confined IsWrite (Answers answer) post := by
  induction program with
  | done value => rfl
  | fail error => rfl
  | await op resume ih =>
      simp only [Phased, Confined, iff_true, Answers, forall_exists_index,
        forall_eq_apply_imp_iff, ih]

end Rules

def ReadsThenWrites (answer : (op : Op) → W → Except ε (Reply op) × W)
    (IsWrite : Op → Prop) (program : Program Reply ε α) : Prop :=
  program.Phased answer IsWrite false fun _ _ => True

theorem ReadsThenWrites.resume {op : Op}
    {resume : Except ε (Reply op) → Program Reply ε α}
    (hreads : (Program.await op resume).ReadsThenWrites answer IsWrite)
    (world : W) : (resume (answer op world).1).Permits answer IsWrite :=
  phased_true_iff.mp (hreads.2 world)

theorem calls_eq_nil_iff {program : Program Reply ε α} {world : W} :
    program.calls answer world = [] ↔ program.pending = none := by
  cases program <;> simp [calls, pending]

end Program

namespace Interleaving

/-- The calls an execution would make if it ran on alone. -/
def ahead (answer : (op : Op) → W → Except ε (Reply op) × W)
    (system : Interleaving τ Reply ε α W) (thread : τ) : List Op :=
  (system.program thread).calls answer system.world

def Finished (system : Interleaving τ Reply ε α W) : Prop :=
  ∀ thread, (system.program thread).pending = none

theorem Finished.ahead_eq_nil {system : Interleaving τ Reply ε α W}
    (hfinished : system.Finished) (thread : τ) :
    system.ahead answer thread = [] :=
  Program.calls_eq_nil_iff.mpr (hfinished thread)

/-- An execution is still at its start, or it has only writes to make. -/
def ReadsOnce (answer : (op : Op) → W → Except ε (Reply op) × W)
    (IsWrite : Op → Prop) (programs : τ → Program Reply ε α)
    (system : Interleaving τ Reply ε α W) : Prop :=
  ∀ thread, system.program thread = programs thread ∨
    (system.program thread).Permits answer IsWrite

/-- What the others do does not change what is ahead of an execution that has
read. -/
theorem ahead_of_writes (hblind : Program.Blind answer IsWrite)
    {system next : Interleaving τ Reply ε α W} {thread : τ}
    (hprogram : next.program thread = system.program thread)
    (hwrites : (system.program thread).Permits answer IsWrite) :
    next.ahead answer thread = system.ahead answer thread := by
  unfold ahead
  rw [hprogram]
  exact hwrites.calls_eq hblind next.world system.world

variable [DecidableEq τ]

/-- One execution makes the call it awaits, in a world that leaves nothing to
choose. -/
def turn (answer : (op : Op) → W → Except ε (Reply op) × W)
    (system : Interleaving τ Reply ε α W) (thread : τ) :
    Option (Interleaving τ Reply ε α W) :=
  step (fun op (_ : Unit) world => answer op world) system (thread, ())

theorem turn_cases {system next : Interleaving τ Reply ε α W} {thread : τ}
    (hturn : turn answer system thread = some next) :
    ∃ op, (system.program thread).pending = some op ∧
      next.world = (answer op system.world).2 ∧
      next.trace =
        system.trace ++ [⟨thread, op, (answer op system.world).1⟩] ∧
      system.ahead answer thread = op :: next.ahead answer thread ∧
      ∀ other, other ≠ thread →
        next.program other = system.program other := by
  obtain ⟨op, resume, hprogram, hnext⟩ := step_eq_some_iff.mp hturn
  dsimp only at hprogram hnext
  subst next
  refine ⟨op, ?_, rfl, rfl, ?_, ?_⟩
  · rw [hprogram]
    rfl
  · simp [ahead, hprogram, Program.calls]
  · intro other hother
    simp [hother]

theorem permits_turn {permitted : τ → Op → Prop}
    {system next : Interleaving τ Reply ε α W} {thread : τ}
    (hpermits : ∀ t, (system.program t).Permits answer (permitted t))
    (hturn : turn answer system thread = some next) (t : τ) :
    (next.program t).Permits answer (permitted t) := by
  obtain ⟨op, resume, hprogram, hnext⟩ := step_eq_some_iff.mp hturn
  dsimp only at hprogram hnext
  subst next
  by_cases ht : t = thread
  · subst t
    have hawait := hpermits thread
    rw [hprogram] at hawait
    simpa using hawait.resume system.world
  · simpa [ht] using hpermits t

theorem ReadsOnce.writes_of_turn {programs : τ → Program Reply ε α}
    (hreads : ∀ t, (programs t).ReadsThenWrites answer IsWrite)
    {system next : Interleaving τ Reply ε α W} {thread : τ}
    (honce : system.ReadsOnce answer IsWrite programs)
    (hturn : turn answer system thread = some next) :
    (next.program thread).Permits answer IsWrite := by
  obtain ⟨op, resume, hprogram, hnext⟩ := step_eq_some_iff.mp hturn
  dsimp only at hprogram hnext
  subst next
  simp only [Function.update_self]
  rcases honce thread with hstart | hwrites
  · have hawait := hreads thread
    rw [← hstart, hprogram] at hawait
    exact hawait.resume system.world
  · rw [hprogram] at hwrites
    exact hwrites.resume system.world

theorem ReadsOnce.turn {programs : τ → Program Reply ε α}
    (hreads : ∀ t, (programs t).ReadsThenWrites answer IsWrite)
    {system next : Interleaving τ Reply ε α W} {thread : τ}
    (honce : system.ReadsOnce answer IsWrite programs)
    (hturn : turn answer system thread = some next) :
    next.ReadsOnce answer IsWrite programs := by
  intro t
  by_cases ht : t = thread
  · subst t
    exact Or.inr (honce.writes_of_turn hreads hturn)
  · obtain ⟨op, -, -, -, -, hothers⟩ := turn_cases hturn
    rw [hothers t ht]
    exact honce t

end Interleaving

end FakeBolt.Await
