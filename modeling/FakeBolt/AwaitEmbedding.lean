import FakeBolt.AwaitProgram

/-!
# Programs inside larger ones

A program whose calls are among those of a larger system is a program of that
system.
-/

namespace FakeBolt.Await

variable {Op Op' : Type} {Reply : Op → Type} {Reply' : Op' → Type}
  {ε α β : Type}

namespace Program

/-- The program with each call made as a call of the larger system. -/
def embed (inject : Op → Op')
    (reply : ∀ op, Except ε (Reply' (inject op)) → Except ε (Reply op)) :
    Program Reply ε α → Program Reply' ε α
  | .done value => .done value
  | .fail error => .fail error
  | .await op resume =>
      .await (inject op) fun answer =>
        (resume (reply op answer)).embed inject reply

variable (inject : Op → Op')
  (reply : ∀ op, Except ε (Reply' (inject op)) → Except ε (Reply op))

@[simp] theorem embed_pure (value : α) :
    (pure value : Program Reply ε α).embed inject reply = pure value := rfl

@[simp] theorem embed_throw (error : ε) :
    (throw error : Program Reply ε α).embed inject reply = throw error := rfl

@[simp] theorem embed_bind (program : Program Reply ε α)
    (next : α → Program Reply ε β) :
    (program >>= next).embed inject reply =
      program.embed inject reply >>= fun value =>
        (next value).embed inject reply := by
  change (program.bind next).embed inject reply =
    (program.embed inject reply).bind _
  induction program with
  | done value => rfl
  | fail error => rfl
  | await op resume ih => simp only [bind, embed, ih]

@[simp] theorem embed_tryCatch (program : Program Reply ε α)
    (handler : ε → Program Reply ε α) :
    (tryCatch program handler).embed inject reply =
      tryCatch (program.embed inject reply) fun error =>
        (handler error).embed inject reply := by
  change (program.handleError handler).embed inject reply =
    (program.embed inject reply).handleError _
  induction program with
  | done value => rfl
  | fail error => rfl
  | await op resume ih => simp only [handleError, embed, ih]

end Program

end FakeBolt.Await
