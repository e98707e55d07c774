import Mathlib.Tactic.Common
import Mathlib.Data.Nat.Notation

/-!
# Asynchronous programs and their sequential execution

A handler of a service is a tree of awaited calls.  Each call resolves to a
reply or rejects with an error, and the continuation sees which of the two it
was, so `try`/`catch` and every failure path are part of the tree.  The same
tree is executed here in three ways: against a deterministic world, against a
world that consumes one script entry per call, and (in `AwaitInterleaving`)
one call at a time among other programs.
-/

namespace FakeBolt.Await

/-- A computation that awaits calls `op`, each resolving to a `Reply op` or
rejecting with an error. -/
inductive Program {Op : Type} (Reply : Op → Type) (ε α : Type) where
  | done (value : α)
  | fail (error : ε)
  | await (op : Op) (resume : Except ε (Reply op) → Program Reply ε α)

variable {Op : Type} {Reply : Op → Type} {ε α β σ ι W : Type}

namespace Program

def bind : Program Reply ε α → (α → Program Reply ε β) → Program Reply ε β
  | .done value, next => next value
  | .fail error, _ => .fail error
  | .await op resume, next => .await op fun reply => (resume reply).bind next

def handleError :
    Program Reply ε α → (ε → Program Reply ε α) → Program Reply ε α
  | .done value, _ => .done value
  | .fail error, handler => handler error
  | .await op resume, handler =>
      .await op fun reply => (resume reply).handleError handler

instance : Monad (Program Reply ε) where
  pure := .done
  bind := bind

instance : MonadExcept ε (Program Reply ε) where
  throw := .fail
  tryCatch := handleError

def call (op : Op) : Program Reply ε (Reply op) :=
  .await op fun
    | .ok reply => .done reply
    | .error error => .fail error

/-- Run a program to its end, answering every call from the state. -/
def exec (answer : (op : Op) → σ → Except ε (Reply op) × σ) :
    Program Reply ε α → σ → Except ε α × σ
  | .done value, state => (.ok value, state)
  | .fail error, state => (.error error, state)
  | .await op resume, state =>
      (resume (answer op state).1).exec answer (answer op state).2

section Exec

variable (answer : (op : Op) → σ → Except ε (Reply op) × σ)

@[simp] theorem exec_pure (value : α) (state : σ) :
    (pure value : Program Reply ε α).exec answer state =
      (.ok value, state) := rfl

@[simp] theorem exec_throw (error : ε) (state : σ) :
    (throw error : Program Reply ε α).exec answer state =
      (.error error, state) := rfl

@[simp] theorem exec_call (op : Op) (state : σ) :
    (call op : Program Reply ε (Reply op)).exec answer state =
      answer op state := by
  cases hreply : answer op state with
  | mk reply next =>
      cases reply <;> simp [call, exec, hreply]

@[simp] theorem exec_bind (program : Program Reply ε α)
    (next : α → Program Reply ε β) (state : σ) :
    (program >>= next).exec answer state =
      match program.exec answer state with
      | (.ok value, after) => (next value).exec answer after
      | (.error error, after) => (.error error, after) := by
  change (program.bind next).exec answer state = _
  induction program generalizing state with
  | done value => rfl
  | fail error => rfl
  | await op resume ih => simp only [bind, exec, ih]

@[simp] theorem exec_tryCatch (program : Program Reply ε α)
    (handler : ε → Program Reply ε α) (state : σ) :
    (tryCatch program handler).exec answer state =
      match program.exec answer state with
      | (.ok value, after) => (.ok value, after)
      | (.error error, after) => (handler error).exec answer after := by
  change (program.handleError handler).exec answer state = _
  induction program generalizing state with
  | done value => rfl
  | fail error => rfl
  | await op resume ih => simp only [handleError, exec, ih]

@[simp] theorem exec_ite (condition : Prop) [Decidable condition]
    (first second : Program Reply ε α) (state : σ) :
    (if condition then first else second).exec answer state =
      if condition then first.exec answer state
      else second.exec answer state := by
  split <;> rfl

/-- A handler that awaits nothing leaves the state as the body left it. -/
theorem exec_tryCatch_state (program : Program Reply ε α)
    {handler : ε → Program Reply ε α}
    (hquiet : ∀ error state,
      ((handler error).exec answer state).2 = state) (state : σ) :
    ((tryCatch program handler).exec answer state).2 =
      (program.exec answer state).2 := by
  rw [exec_tryCatch]
  cases hrun : program.exec answer state with
  | mk result after =>
      cases result with
      | ok value => rfl
      | error error => exact hquiet error after

end Exec

end Program

/-! ## Worlds with faults and scripts -/

/-- The world `answer`, except that a call given a fault rejects with it and
is not carried out. -/
def faultable (answer : (op : Op) → W → Except ε (Reply op) × W) :
    (op : Op) → Option ε → W → Except ε (Reply op) × W
  | op, none, world => answer op world
  | _, some fault, world => (.error fault, world)

/-- A world that reads what it may choose about each call (a fault, a tie, a
remote answer) from a script, one entry per call. -/
def scripted (answer : (op : Op) → ι → W → Except ε (Reply op) × W)
    (op : Op) (state : (ℕ → ι) × W) :
    Except ε (Reply op) × ((ℕ → ι) × W) :=
  let outcome := answer op (state.1 0) state.2
  (outcome.1, (fun n => state.1 (n + 1), outcome.2))

@[simp] theorem scripted_apply
    (answer : (op : Op) → ι → W → Except ε (Reply op) × W)
    (op : Op) (script : ℕ → ι) (world : W) :
    scripted answer op (script, world) =
      ((answer op (script 0) world).1,
        (fun n => script (n + 1), (answer op (script 0) world).2)) := rfl

/-- A script without faults lets the program run as it would. -/
theorem Program.exec_scripted_none
    (answer : (op : Op) → W → Except ε (Reply op) × W)
    (program : Program Reply ε α) (world : W) :
    program.exec (scripted (faultable answer)) (fun _ => none, world) =
      ((program.exec answer world).1,
        (fun _ => none, (program.exec answer world).2)) := by
  induction program generalizing world with
  | done value => rfl
  | fail error => rfl
  | await op resume ih => simp only [exec, scripted_apply, faultable, ih]

end FakeBolt.Await
