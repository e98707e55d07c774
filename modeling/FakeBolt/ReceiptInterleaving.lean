import FakeBolt.ReceiptStages
import Mathlib.Data.Fintype.Sets

/-!
# Receipts, any number of executions at once

Overlapping and repeated deliveries of the `ride.completed` of one ride.  A
mail is never sent twice as long as what SES accepted is recorded before
anybody else can act on the row.
-/

namespace FakeBolt.Email

open Await Store EmailService Transition

variable {rideId : String}

/-! ## All executions together -/

abbrev ReceiptSystem (τ : Type) :=
  Interleaving τ EmailCall.Reply JsError Unit EmailWorld

section System

variable {τ : Type} [DecidableEq τ]

def Begun (system : ReceiptSystem τ) (thread : τ) : Prop :=
  ∃ entry ∈ system.trace, entry.thread = thread

def ToldNoUser (system : ReceiptSystem τ) (thread : τ) : Prop :=
  ∃ entry ∈ system.trace, entry.thread = thread ∧
    tellsNoUser entry.call entry.reply = true

/-- The execution has made its duplicate check and has not returned. -/
def Underway (system : ReceiptSystem τ) (thread : τ) : Prop :=
  Begun system thread ∧ (system.program thread).pending ≠ none

/-- When SES accepts a mail, every other execution has returned, has not made
its duplicate check, or knows that there is nobody to send to. -/
def SendsAlone (system : ReceiptSystem τ) (event : τ × EmailInput) : Prop :=
  sendsMail (system.program event.1).pending = true →
    event.2.ses.isOk = true → ∀ other, other ≠ event.1 →
      Underway system other → ToldNoUser system other

/-- The update that sets the row to SENT does not fail. -/
def RecordSucceeds (system : ReceiptSystem τ) (event : τ × EmailInput) : Prop :=
  recordsSent (system.program event.1).pending = true → event.2.db = none

/-- A duplicate check that finds the receipt open is not made between an
accepted mail and its record. -/
def ChecksRecorded (rideId : String) (system : ReceiptSystem τ)
    (event : τ × EmailInput) : Prop :=
  ¬ Begun system event.1 → event.2.db = none →
    (system.world.receipt rideId).any isSettled = false →
      ∀ other, recordsSent (system.program other).pending = false

/-- What SES accepted is recorded before another execution acts on the row. -/
structure RecordsFirst (rideId : String) (system : ReceiptSystem τ)
    (event : τ × EmailInput) : Prop where
  alone : SendsAlone system event
  recorded : RecordSucceeds system event
  checked : ChecksRecorded rideId system event

instance (system : ReceiptSystem τ) (thread : τ) :
    Decidable (Begun system thread) :=
  inferInstanceAs (Decidable (∃ entry ∈ system.trace, entry.thread = thread))

instance (system : ReceiptSystem τ) (thread : τ) :
    Decidable (ToldNoUser system thread) :=
  inferInstanceAs (Decidable (∃ entry ∈ system.trace, entry.thread = thread ∧
    tellsNoUser entry.call entry.reply = true))

instance (system : ReceiptSystem τ) (thread : τ) :
    Decidable (Underway system thread) :=
  inferInstanceAs (Decidable
    (Begun system thread ∧ (system.program thread).pending ≠ none))

instance [Fintype τ] (system : ReceiptSystem τ) (event : τ × EmailInput) :
    Decidable (SendsAlone system event) :=
  inferInstanceAs (Decidable
    (sendsMail (system.program event.1).pending = true →
      event.2.ses.isOk = true → ∀ other, other ≠ event.1 →
        Underway system other → ToldNoUser system other))

instance (system : ReceiptSystem τ) (event : τ × EmailInput) :
    Decidable (RecordSucceeds system event) :=
  inferInstanceAs (Decidable
    (recordsSent (system.program event.1).pending = true →
      event.2.db = none))

instance [Fintype τ] (system : ReceiptSystem τ) (event : τ × EmailInput) :
    Decidable (ChecksRecorded rideId system event) :=
  inferInstanceAs (Decidable
    (¬ Begun system event.1 → event.2.db = none →
      (system.world.receipt rideId).any isSettled = false →
        ∀ other, recordsSent (system.program other).pending = false))

instance [Fintype τ] (system : ReceiptSystem τ) (event : τ × EmailInput) :
    Decidable (RecordsFirst rideId system event) :=
  decidable_of_iff
    (SendsAlone system event ∧ RecordSucceeds system event ∧
      ChecksRecorded rideId system event)
    ⟨fun ⟨halone, hrecorded, hchecked⟩ => ⟨halone, hrecorded, hchecked⟩,
      fun ⟨halone, hrecorded, hchecked⟩ => ⟨halone, hrecorded, hchecked⟩⟩

/-- Nothing was accepted yet; or one mail was, and its sender is about to
record it; or one mail was, and the receipt is settled. -/
def Phase (rideId : String) (stages : τ → Stage) (world : EmailWorld) : Prop :=
  (world.accepted = [] ∧ ∀ thread, (stages thread).isRecording = false) ∨
  (world.accepted.length = 1 ∧ ∃ row, world.receipt rideId = some row ∧
    ((∃ sender, (stages sender).isRecording = true ∧
        ∀ other, other ≠ sender → (stages other).Idle) ∨
      (isSettled row = true ∧ ∀ thread, (stages thread).Idle)))

structure SendInvariant (runtime : JsRuntime)
    (completions : τ → Completion rideId) (stages : τ → Stage)
    (system : ReceiptSystem τ) : Prop where
  atStages : Interleaving.AtStages
    (fun thread => Stage.program runtime (completions thread)) stages system
  sound : ∀ thread, (stages thread).Sound (system.world.receipt rideId)
  begun : ∀ thread, stages thread = .checking ↔ ¬ Begun system thread
  told : ∀ thread, ToldNoUser system thread → (stages thread).NoUser
  phase : Phase rideId stages system.world

variable {runtime : JsRuntime} {completion : Completion rideId}

theorem accepted_length_of_sends {world next : EmailWorld}
    (hone : world.accepted.length = 1) (hsends : next.sends = world.sends) :
    next.accepted.length = 1 := by
  rw [← hone, EmailWorld.accepted, EmailWorld.accepted, hsends]

section PhaseStep

variable {stages : τ → Stage} {thread : τ} {after : Stage}
  {world next : EmailWorld} {call : EmailCall}
  {reply : Except JsError call.Reply} {input : EmailInput}

theorem phase_of_unsent
    (hnone : world.accepted = [])
    (hidle : ∀ other, (stages other).isRecording = false)
    (hsound : (stages thread).Sound (world.receipt rideId))
    (hmove : Stage.Move runtime completion (stages thread) world call reply
      input after next)
    (halone : (∃ row user email, stages thread = .sending row user email) →
      input.ses.isOk = true → ∀ other, other ≠ thread → (stages other).Idle) :
    Phase rideId (Function.update stages thread after) next := by
  rcases hmove.unrecording (hidle thread) hsound with
    ⟨hafter, haccepted⟩ |
    ⟨row, user, email, messageId, hstage, hses, hafter, haccepted, hsame⟩
  · have hquiet : ∀ other,
        (Function.update stages thread after other).isRecording = false := by
      rw [Function.forall_update_iff stages fun _ stage =>
        stage.isRecording = false]
      exact ⟨hafter, fun other _ => hidle other⟩
    exact Or.inl ⟨haccepted.trans hnone, hquiet⟩
  · have hone : next.accepted.length = 1 := by
      rw [haccepted, hnone]
      rfl
    rw [hstage] at hsound
    obtain ⟨held, current, -, hcurrent, -⟩ := hsound
    have hsender :
        (Function.update stages thread after thread).isRecording = true := by
      rw [Function.update_self, hafter]
      rfl
    have hothers : ∀ other, other ≠ thread →
        (Function.update stages thread after other).Idle := by
      intro other hother
      rw [Function.update_of_ne hother]
      exact halone ⟨_, _, _, hstage⟩ (by rw [hses]; rfl) other hother
    exact Or.inr ⟨hone, current, hsame.trans hcurrent,
      Or.inl ⟨thread, hsender, hothers⟩⟩

theorem phase_of_recording {sender : τ} {row : SentEmailEntity}
    (hone : world.accepted.length = 1)
    (hrow : world.receipt rideId = some row)
    (hsender : (stages sender).isRecording = true)
    (hothers : ∀ other, other ≠ sender → (stages other).Idle)
    (hsound : (stages thread).Sound (world.receipt rideId))
    (hmove : Stage.Move runtime completion (stages thread) world call reply
      input after next)
    (hrecorded : (stages thread).isRecording = true → input.db = none)
    (hchecked : stages thread = .checking → input.db = none →
      (world.receipt rideId).any isSettled = false →
        ∀ other, (stages other).isRecording = false) :
    Phase rideId (Function.update stages thread after) next := by
  by_cases hthread : thread = sender
  · subst hthread
    obtain ⟨hafter, hsends, recorded, hreceipt, hdone⟩ :=
      hmove.recording hsender (hrecorded hsender) hsound
    have hidle : ∀ other, (Function.update stages thread after other).Idle := by
      rw [Function.forall_update_iff stages fun _ stage => stage.Idle]
      exact ⟨hafter, hothers⟩
    exact Or.inr ⟨accepted_length_of_sends hone hsends, recorded, hreceipt,
      Or.inr ⟨hdone, hidle⟩⟩
  · -- a check made now would find an open receipt while its mail is recorded
    have hfound : stages thread = .checking → input.db = none →
        isSettled row = true := by
      intro hchecking hdb
      by_contra hopen
      have hany : (world.receipt rideId).any isSettled = false := by
        rw [hrow]
        simpa using hopen
      have hnot := hchecked hchecking hdb hany sender
      rw [hsender] at hnot
      cases hnot
    obtain ⟨hafter, hsends, -⟩ :=
      hmove.idle (hothers thread hthread) hrow hsound hfound
    obtain ⟨kept, hreceipt, -⟩ := hmove.persists hsound row hrow
    have hstill :
        (Function.update stages thread after sender).isRecording = true := by
      rw [Function.update_of_ne (Ne.symm hthread)]
      exact hsender
    have hidle : ∀ other, other ≠ sender →
        (Function.update stages thread after other).Idle := by
      intro other hother
      by_cases hsame : other = thread
      · subst hsame
        rw [Function.update_self]
        exact hafter
      · rw [Function.update_of_ne hsame]
        exact hothers other hother
    exact Or.inr ⟨accepted_length_of_sends hone hsends, kept, hreceipt,
      Or.inl ⟨sender, hstill, hidle⟩⟩

theorem phase_of_settled {row : SentEmailEntity}
    (hone : world.accepted.length = 1)
    (hrow : world.receipt rideId = some row) (hsettled : isSettled row = true)
    (hidle : ∀ other, (stages other).Idle)
    (hsound : (stages thread).Sound (world.receipt rideId))
    (hmove : Stage.Move runtime completion (stages thread) world call reply
      input after next) :
    Phase rideId (Function.update stages thread after) next := by
  obtain ⟨hafter, hsends, hkept⟩ :=
    hmove.idle (hidle thread) hrow hsound fun _ _ => hsettled
  obtain ⟨kept, hreceipt, hdone⟩ := hkept hsettled
  have hnext : ∀ other, (Function.update stages thread after other).Idle := by
    rw [Function.forall_update_iff stages fun _ stage => stage.Idle]
    exact ⟨hafter, fun other _ => hidle other⟩
  exact Or.inr ⟨accepted_length_of_sends hone hsends, kept, hreceipt,
    Or.inr ⟨hdone, hnext⟩⟩

theorem Phase.move (hphase : Phase rideId stages world)
    (hsound : (stages thread).Sound (world.receipt rideId))
    (hmove : Stage.Move runtime completion (stages thread) world call reply
      input after next)
    (halone : (∃ row user email, stages thread = .sending row user email) →
      input.ses.isOk = true → ∀ other, other ≠ thread → (stages other).Idle)
    (hrecorded : (stages thread).isRecording = true → input.db = none)
    (hchecked : stages thread = .checking → input.db = none →
      (world.receipt rideId).any isSettled = false →
        ∀ other, (stages other).isRecording = false) :
    Phase rideId (Function.update stages thread after) next := by
  rcases hphase with ⟨hnone, hidle⟩ | ⟨hone, row, hrow, hphase⟩
  · exact phase_of_unsent hnone hidle hsound hmove halone
  · rcases hphase with ⟨sender, hsender, hothers⟩ | ⟨hsettled, hidle⟩
    · exact phase_of_recording hone hrow hsender hothers hsound hmove
        hrecorded hchecked
    · exact phase_of_settled hone hrow hsettled hidle hsound hmove

end PhaseStep

omit [DecidableEq τ] in
theorem begun_append_iff {system next : ReceiptSystem τ}
    {entry : Answered τ EmailCall.Reply JsError}
    (htrace : next.trace = system.trace ++ [entry]) (thread : τ) :
    Begun next thread ↔ Begun system thread ∨ entry.thread = thread := by
  unfold Begun
  rw [htrace]
  simp [or_and_right, exists_or]

omit [DecidableEq τ] in
theorem toldNoUser_append_iff {system next : ReceiptSystem τ}
    {entry : Answered τ EmailCall.Reply JsError}
    (htrace : next.trace = system.trace ++ [entry]) (thread : τ) :
    ToldNoUser next thread ↔ ToldNoUser system thread ∨
      (entry.thread = thread ∧ tellsNoUser entry.call entry.reply = true) := by
  unfold ToldNoUser
  rw [htrace]
  simp [or_and_right, exists_or]

omit [DecidableEq τ] in
theorem SendInvariant.idle_of_not_underway {completions : τ → Completion rideId}
    {stages : τ → Stage} {system : ReceiptSystem τ}
    (hinv : SendInvariant runtime completions stages system) {thread : τ}
    (hfree : Underway system thread → ToldNoUser system thread) :
    (stages thread).Idle := by
  by_cases hbegun : Begun system thread
  · by_cases hpending : (system.program thread).pending = none
    · rw [hinv.atStages thread] at hpending
      exact Stage.idle_of_pending_eq_none hpending
    · exact Or.inr (hinv.told thread (hfree ⟨hbegun, hpending⟩))
  · exact Or.inl ((hinv.begun thread).mpr hbegun)

/-- What the guard says of stages. -/
theorem SendInvariant.phase_step {completions : τ → Completion rideId}
    {stages : τ → Stage} {system next : ReceiptSystem τ}
    {event : τ × EmailInput} {call : EmailCall}
    {reply : Except JsError call.Reply} {after : Stage}
    (hinv : SendInvariant runtime completions stages system)
    (hguard : RecordsFirst rideId system event)
    (hmove : Stage.Move runtime (completions event.1) (stages event.1)
      system.world call reply event.2 after next.world) :
    Phase rideId (Function.update stages event.1 after) next.world := by
  have hat := hinv.atStages event.1
  have halone : (∃ row user email,
      stages event.1 = .sending row user email) →
      event.2.ses.isOk = true → ∀ other, other ≠ event.1 →
        (stages other).Idle := by
    rintro ⟨row, user, email, hsending⟩ hses other hother
    have hsends : sendsMail (system.program event.1).pending = true := by
      rw [hat, hsending]
      rfl
    exact hinv.idle_of_not_underway (hguard.alone hsends hses other hother)
  have hrecorded : (stages event.1).isRecording = true →
      event.2.db = none := by
    intro hrecording
    apply hguard.recorded
    rw [hat]
    exact Stage.recordsSent_pending hrecording
  have hchecked : stages event.1 = .checking → event.2.db = none →
      (system.world.receipt rideId).any isSettled = false →
        ∀ other, (stages other).isRecording = false := by
    intro hchecking hdb hopen other
    have hfresh := (hinv.begun event.1).mp hchecking
    have hnot := hguard.checked hfresh hdb hopen other
    rw [hinv.atStages other] at hnot
    by_contra hrecording
    rw [Bool.not_eq_false] at hrecording
    rw [Stage.recordsSent_pending hrecording] at hnot
    cases hnot
  exact hinv.phase.move (hinv.sound event.1) hmove halone hrecorded hchecked

theorem SendInvariant.step {completions : τ → Completion rideId}
    {stages : τ → Stage} {system next : ReceiptSystem τ}
    {event : τ × EmailInput}
    (hinv : SendInvariant runtime completions stages system)
    (hguard : RecordsFirst rideId system event)
    (hstep : Interleaving.step EmailWorld.answer system event = some next) :
    ∃ stages', SendInvariant runtime completions stages' next := by
  obtain ⟨call, reply, after, -, htrace, hatStages, hmove⟩ :=
    Interleaving.step_stages
      (fun thread => Stage.rule runtime (completions thread)) hinv.atStages
      hstep
  have hsound := hinv.sound event.1
  have hkept : ∀ thread, (Function.update stages event.1 after thread).Sound
      (next.world.receipt rideId) := by
    rw [Function.forall_update_iff stages fun _ stage =>
      stage.Sound (next.world.receipt rideId)]
    exact ⟨hmove.sound hsound,
      fun other _ => (hinv.sound other).mono (hmove.persists hsound)⟩
  have hbegun : ∀ thread,
      Function.update stages event.1 after thread = .checking ↔
        ¬ Begun next thread := by
    intro thread
    rw [begun_append_iff htrace]
    by_cases hthread : thread = event.1
    · subst hthread
      rw [Function.update_self]
      simp [hmove.ne_checking]
    · rw [Function.update_of_ne hthread, hinv.begun thread]
      simp [Ne.symm hthread]
  have htold : ∀ thread, ToldNoUser next thread →
      (Function.update stages event.1 after thread).NoUser := by
    intro thread
    rw [toldNoUser_append_iff htrace]
    by_cases hthread : thread = event.1
    · subst hthread
      rw [Function.update_self]
      rintro (hold | ⟨-, htells⟩)
      · exact hmove.noUser (Or.inl (hinv.told event.1 hold))
      · exact hmove.noUser (Or.inr htells)
    · rw [Function.update_of_ne hthread]
      rintro (hold | ⟨hname, -⟩)
      · exact hinv.told thread hold
      · exact (hthread hname.symm).elim
  exact ⟨_, hatStages, hkept, hbegun, htold, hinv.phase_step hguard hmove⟩

/-- In every run in which a mail that SES accepted is recorded before another
execution acts on the row, SES accepts at most one mail for the ride. -/
theorem never_sent_twice (runtime : JsRuntime)
    (completions : τ → Completion rideId) {world : EmailWorld}
    (hunsent : world.sends = []) {events before : List (τ × EmailInput)}
    {last : ReceiptSystem τ}
    (hmeets : RunMeets (Interleaving.step EmailWorld.answer)
      (RecordsFirst rideId)
      (.start (fun thread => (completions thread).program runtime) world)
      events)
    (hsegment : before <+: events)
    (hrun : run (Interleaving.step EmailWorld.answer)
      (.start (fun thread => (completions thread).program runtime) world)
      before = some last) :
    last.world.accepted.length ≤ 1 := by
  have hstart : ∃ stages, SendInvariant runtime completions stages
      (.start (fun thread => (completions thread).program runtime) world) := by
    refine ⟨fun _ => .checking, fun _ => rfl, fun _ => trivial, ?_, ?_, ?_⟩
    · intro thread
      simp [Begun, Interleaving.start]
    · rintro thread ⟨entry, hentry, -⟩
      cases hentry
    · refine Or.inl ⟨?_, fun _ => rfl⟩
      simp [Interleaving.start, EmailWorld.accepted, hunsent]
  have hstep : ∀ (system : ReceiptSystem τ) event next,
      (∃ stages, SendInvariant runtime completions stages system) →
      RecordsFirst rideId system event →
      Interleaving.step EmailWorld.answer system event = some next →
      ∃ stages, SendInvariant runtime completions stages next := by
    rintro system event next ⟨stages, hinv⟩ hguard hstep
    exact hinv.step hguard hstep
  obtain ⟨stages, hinv⟩ := invariant_of_guarded hstep hstart
    (hmeets.of_prefix hsegment) hrun
  rcases hinv.phase with ⟨hnone, -⟩ | ⟨hone, -⟩
  · simp [hnone]
  · exact hone.le

end System

/-! ## Deliveries of one ride -/

def plainCompletion : Completion "ride" where
  now := 0
  event := plainRide
  ride := rfl

def twoDeliveries : ReceiptSystem Bool :=
  .start (fun _ => plainCompletion.program fixedRuntime) ⟨Table.empty, []⟩

def goesWell : EmailInput :=
  ⟨none, .ok ⟨"rider", "ann@example.com", "Ann", "rider"⟩, .ok "message"⟩

/-- The whole first delivery (check, user, row, mail, record), then the check
of the second. -/
def firstThenSecond : List (Bool × EmailInput) :=
  [(false, goesWell), (false, goesWell), (false, goesWell), (false, goesWell),
    (false, goesWell), (true, goesWell)]

/-- The mail is accepted, the database is gone when it is to be recorded, and
the event is delivered again. -/
def recordLost : List (Bool × EmailInput) :=
  let gone : EmailInput := { goesWell with db := some "connection lost" }
  [(false, goesWell), (false, goesWell), (false, goesWell), (false, goesWell),
    (false, gone), (false, gone),
    (true, goesWell), (true, goesWell), (true, goesWell)]

theorem redelivery_finds_receipt :
    ∃ last, run (Interleaving.step EmailWorld.answer) twoDeliveries
        firstThenSecond = some last ∧ last.world.accepted.length ≤ 1 := by
  have hmeets : RunMeets (Interleaving.step EmailWorld.answer)
      (RecordsFirst "ride") twoDeliveries firstThenSecond := by
    decide +kernel
  have hcheck : (run (Interleaving.step EmailWorld.answer) twoDeliveries
      firstThenSecond).any (fun last =>
        last.world.accepted == ["message"]) = true := by
    decide +kernel
  obtain ⟨last, hrun, -⟩ := exists_of_run_any hcheck
  exact ⟨last, hrun, never_sent_twice fixedRuntime (fun _ => plainCompletion)
    rfl hmeets (List.prefix_refl _) hrun⟩

theorem record_lost_sends_twice :
    ∃ last, run (Interleaving.step EmailWorld.answer) twoDeliveries
        recordLost = some last ∧ ¬ last.world.accepted.length ≤ 1 := by
  have hcheck : (run (Interleaving.step EmailWorld.answer) twoDeliveries
      recordLost).any (fun last =>
        decide (¬ last.world.accepted.length ≤ 1)) = true := by
    decide +kernel
  obtain ⟨last, hrun, htwice⟩ := exists_of_run_any hcheck
  exact ⟨last, hrun, of_decide_eq_true htwice⟩

end FakeBolt.Email
