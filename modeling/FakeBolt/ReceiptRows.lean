import FakeBolt.ReceiptInterleaving

/-!
# The row of a receipt, any number of executions at once

With a database that refuses only a second row for a ride, overlapping
executions of `sendRideReceipt` share one row, whichever of them created it.
-/

namespace FakeBolt.Email

open Await Store EmailService Transition

variable {rideId : String}

/-! ## Errors of an execution's own -/

section Errors

variable {τ : Type}

/-- The error that auth-service or SES answered with. -/
def remoteError :
    (call : EmailCall) → Except JsError call.Reply → Option JsError
  | .getUser _, .error error => some error
  | .send _, .error error => some error
  | _, _ => none

def RemoteError (system : ReceiptSystem τ) (thread : τ) (error : JsError) :
    Prop :=
  ∃ entry ∈ system.trace, entry.thread = thread ∧
    remoteError entry.call entry.reply = some error

/-- Auth-service or SES failed in this execution, or its event has a date that
can neither be stored nor be printed. -/
inductive OwnError (runtime : JsRuntime) (completion : Completion rideId)
    (system : ReceiptSystem τ) (thread : τ) : JsError → Prop
  | remote {error} (hremote : RemoteError system thread error) :
      OwnError runtime completion system thread error
  | date
      (hdates : (pendingRow runtime completion.event rideId completion.riderId
        "" none).storable = false) :
      OwnError runtime completion system thread
        (.queryFailed INVALID_DATETIME
          "invalid input syntax for type timestamp")
  | html {user error}
      (hhtml : rideReceiptHtml runtime
        (completion.receipt runtime (some user)) = .error error) :
      OwnError runtime completion system thread error
  | text {user error}
      (htext : rideReceiptText runtime
        (completion.receipt runtime (some user)) = .error error) :
      OwnError runtime completion system thread error

variable {runtime : JsRuntime} {completion : Completion rideId}

theorem owns_ownError (system : ReceiptSystem τ) (thread : τ) :
    Stage.Owns runtime completion
      (OwnError runtime completion system thread) where
  date hdates := .date hdates
  html _ _ hhtml := .html hhtml
  text _ _ htext := .text htext

theorem OwnError.mono {system next : ReceiptSystem τ}
    {entry : Answered τ EmailCall.Reply JsError}
    (htrace : next.trace = system.trace ++ [entry]) {thread : τ}
    {error : JsError} (hown : OwnError runtime completion system thread error) :
    OwnError runtime completion next thread error := by
  cases hown with
  | remote hremote =>
      obtain ⟨made, hmade, hthread, herror⟩ := hremote
      have hmem : made ∈ next.trace := by
        rw [htrace]
        exact List.mem_append_left _ hmade
      exact .remote ⟨made, hmem, hthread, herror⟩
  | date hdates => exact .date hdates
  | html hhtml => exact .html hhtml
  | text htext => exact .text htext

theorem ownReply_of_trace {system next : ReceiptSystem τ} {thread : τ}
    {call : EmailCall} {reply : Except JsError call.Reply}
    (htrace : next.trace = system.trace ++ [⟨thread, call, reply⟩]) :
    Stage.OwnReply (OwnError runtime completion next thread) call reply := by
  have hremote : ∀ error, remoteError call reply = some error →
      OwnError runtime completion next thread error := by
    intro error herror
    have hmem : ⟨thread, call, reply⟩ ∈ next.trace := by
      rw [htrace]
      exact List.mem_append_right _ (List.mem_singleton_self _)
    exact .remote ⟨_, hmem, rfl, herror⟩
  cases call with
  | getUser userId =>
      cases reply with
      | error error => exact hremote error rfl
      | ok user => trivial
  | send email =>
      cases reply with
      | error error => exact hremote error rfl
      | ok messageId => trivial
  | _ => trivial

end Errors

namespace Stage

theorem FailsOwn.mono {own wider : JsError → Prop} {stage : Stage}
    (hfails : stage.FailsOwn own) (hwider : ∀ error, own error → wider error) :
    stage.FailsOwn wider := by
  cases stage with
  | failing row error => exact hwider error hfails
  | ended result =>
      cases result with
      | ok value => trivial
      | error error => exact hwider error hfails
  | _ => trivial

/-! ## What a stage shows of itself -/

variable {runtime : JsRuntime} {completion : Completion rideId}

/-- An execution that has failed ends with its error, one that has not is
elsewhere. -/
theorem eq_ended_of_program {stage : Stage} {error : JsError}
    (hprogram : stage.program runtime completion = .fail error) :
    stage = .ended (.error error) := by
  cases stage with
  | checking =>
      simp only [program, Completion.program, sendRideReceipt] at hprogram
      split at hprogram <;> cases hprogram
  | ended result =>
      cases result with
      | ok value => cases hprogram
      | error thrown =>
          cases hprogram
          rfl
  | _ =>
      change Program.await _ _ = _ at hprogram
      cases hprogram

/-- The first call of an execution is its duplicate check. -/
theorem pending_checking {call : EmailCall}
    (hpending : (checking.program runtime completion).pending = some call) :
    call = .findOne rideId .rideReceipt := by
  simp only [program, Completion.program, sendRideReceipt] at hpending
  split at hpending
  · rename_i id riderId hride hrider
    have hevent := (truthy_eq_some_iff.mp hride).1
    rw [completion.ride] at hevent
    cases hevent
    cases hpending
    rfl
  · cases hpending

/-- Any row that an execution updates is the row of the receipt. -/
theorem Sound.of_update {stage : Stage} {receipt : Option SentEmailEntity}
    {id : ℕ} {patch : SentEmailPatch} (hsound : stage.Sound receipt)
    (hpending : (stage.program runtime completion).pending =
      some (.update id patch)) :
    ∃ row, receipt = some row ∧ row.id = id := by
  cases stage with
  | checking => cases pending_checking hpending
  | givingUp row =>
      cases hpending
      exact hsound
  | recording row user messageId =>
      cases hpending
      exact hsound
  | failing row error =>
      cases hpending
      exact hsound
  | ended result => cases result <;> cases hpending
  | _ => cases hpending

/-- Whatever SES answers, the sender updates the row of the receipt next. -/
theorem Sound.of_send {stage : Stage} {receipt : Option SentEmailEntity}
    {email : OutgoingEmail}
    {resume : Except JsError (EmailCall.send email).Reply → EmailM Unit}
    (hsound : stage.Sound receipt)
    (hprogram : stage.program runtime completion =
      .await (.send email) resume) :
    ∃ row, receipt = some row ∧ ∀ reply, ∃ patch,
      (resume reply).pending = some (.update row.id patch) := by
  cases stage with
  | checking =>
      have hpending : (checking.program runtime completion).pending =
          some (.send email) := by
        rw [hprogram]
        rfl
      cases pending_checking hpending
  | sending row user mail =>
      obtain ⟨held, current, hrow, hcurrent, hid⟩ := hsound
      subst hrow
      change Program.await _ _ = _ at hprogram
      cases hprogram
      refine ⟨current, hcurrent, fun reply => ?_⟩
      rw [hid]
      cases reply with
      | ok messageId => exact ⟨_, rfl⟩
      | error error => exact ⟨_, rfl⟩
  | ended result => cases result <;> cases hprogram
  | _ =>
      change Program.await _ _ = _ at hprogram
      cases hprogram

/-- What a call does to a stage, and whose the errors are. -/
theorem rowRule (runtime : JsRuntime) (completion : Completion rideId) :
    Interleaving.StageRule EmailWorld.answer (program runtime completion)
      fun stage world call reply input after next =>
        Move runtime completion stage world call reply input after next ∧
          Blames runtime completion stage world call reply input after where
  move := leadsTo_program

end Stage

/-! ## All executions together -/

section System

variable {τ : Type} [DecidableEq τ] {runtime : JsRuntime}
  {completions : τ → Completion rideId}

/-- The row that an execution is about to update, or will update once SES has
answered, is the receipt's. -/
structure SharesRow (rideId : String) (system : ReceiptSystem τ) (thread : τ) :
    Prop where
  updating : ∀ id patch,
    (system.program thread).pending = some (.update id patch) →
      ∃ row, system.world.receipt rideId = some row ∧ row.id = id
  sending : ∀ email resume,
    system.program thread = .await (.send email) resume →
      ∃ row, system.world.receipt rideId = some row ∧ ∀ reply, ∃ patch,
        (resume reply).pending = some (.update row.id patch)

/-- Every execution that holds a row holds the receipt's, and fails only for
reasons of its own. -/
structure RowInvariant (runtime : JsRuntime)
    (completions : τ → Completion rideId) (stages : τ → Stage)
    (system : ReceiptSystem τ) : Prop where
  atStages : Interleaving.AtStages
    (fun thread => Stage.program runtime (completions thread)) stages system
  sound : ∀ thread, (stages thread).Sound (system.world.receipt rideId)
  fails : ∀ thread, (stages thread).FailsOwn
    (OwnError runtime (completions thread) system thread)

theorem RowInvariant.step {stages : τ → Stage} {system next : ReceiptSystem τ}
    {event : τ × EmailInput}
    (hinv : RowInvariant runtime completions stages system)
    (hdb : event.2.db = none)
    (hstep : Interleaving.step EmailWorld.answer system event = some next) :
    (∃ stages', RowInvariant runtime completions stages' next) ∧
      Stage.Persists (system.world.receipt rideId)
        (next.world.receipt rideId) := by
  obtain ⟨call, reply, after, -, htrace, hatStages, hmove, hblames⟩ :=
    Interleaving.step_stages
      (fun thread => Stage.rowRule runtime (completions thread))
      hinv.atStages hstep
  have hsound := hinv.sound event.1
  have hpersists := hmove.persists hsound
  have hkept : ∀ thread, (Function.update stages event.1 after thread).Sound
      (next.world.receipt rideId) := by
    rw [Function.forall_update_iff stages fun _ stage =>
      stage.Sound (next.world.receipt rideId)]
    exact ⟨hmove.sound hsound,
      fun other _ => (hinv.sound other).mono hpersists⟩
  have hold : ∀ thread, (stages thread).FailsOwn
      (OwnError runtime (completions thread) next thread) := by
    intro thread
    exact (hinv.fails thread).mono fun error hown => hown.mono htrace
  have hfails : ∀ thread,
      (Function.update stages event.1 after thread).FailsOwn
        (OwnError runtime (completions thread) next thread) := by
    rw [Function.forall_update_iff stages fun thread stage =>
      stage.FailsOwn (OwnError runtime (completions thread) next thread)]
    exact ⟨hblames _ (owns_ownError next event.1) hdb hsound
      (ownReply_of_trace htrace) (hold event.1), fun other _ => hold other⟩
  exact ⟨⟨_, hatStages, hkept, hfails⟩, hpersists⟩

omit [DecidableEq τ] in
theorem rowInvariant_start (runtime : JsRuntime)
    (completions : τ → Completion rideId) (world : EmailWorld) :
    RowInvariant runtime completions (fun _ => .checking)
      (.start (fun thread => (completions thread).program runtime) world) :=
  ⟨fun _ => rfl, fun _ => trivial, fun _ => trivial⟩

theorem RowInvariant.run {stages : τ → Stage} {system last : ReceiptSystem τ}
    {events : List (τ × EmailInput)}
    (hinv : RowInvariant runtime completions stages system)
    (hdb : ∀ event ∈ events, event.2.db = none)
    (hrun : run (Interleaving.step EmailWorld.answer) system events =
      some last) :
    (∃ stages', RowInvariant runtime completions stages' last) ∧
      Stage.Persists (system.world.receipt rideId)
        (last.world.receipt rideId) := by
  have hmeets : RunMeets (Interleaving.step EmailWorld.answer)
      (fun _ event => event.2.db = none) system events :=
    runMeets_of_forall hdb system
  have hstep : ∀ (current : ReceiptSystem τ) (event : τ × EmailInput) next,
      ((∃ stages', RowInvariant runtime completions stages' current) ∧
        Stage.Persists (system.world.receipt rideId)
          (current.world.receipt rideId)) →
      event.2.db = none →
      Interleaving.step EmailWorld.answer current event = some next →
      (∃ stages', RowInvariant runtime completions stages' next) ∧
        Stage.Persists (system.world.receipt rideId)
          (next.world.receipt rideId) := by
    rintro current event next ⟨⟨stages', hcurrent⟩, hsince⟩ hnone hstep
    obtain ⟨hnext, hpersists⟩ := hcurrent.step hnone hstep
    exact ⟨hnext, hsince.trans hpersists⟩
  exact invariant_of_guarded hstep ⟨⟨stages, hinv⟩, .refl _⟩ hmeets hrun

omit [DecidableEq τ] in
/-- What the stages show of the executions themselves. -/
theorem RowInvariant.shares {stages : τ → Stage} {system : ReceiptSystem τ}
    (hinv : RowInvariant runtime completions stages system) (thread : τ) :
    SharesRow rideId system thread ∧
      ∀ error, system.program thread = .fail error →
        OwnError runtime (completions thread) system thread error := by
  have hsound := hinv.sound thread
  have hat := hinv.atStages thread
  refine ⟨⟨?_, ?_⟩, ?_⟩
  · intro id patch hpending
    rw [hat] at hpending
    exact hsound.of_update hpending
  · intro email resume hprogram
    rw [hat] at hprogram
    exact hsound.of_send hprogram
  · intro error hprogram
    rw [hat] at hprogram
    have hfails := hinv.fails thread
    rw [Stage.eq_ended_of_program hprogram] at hfails
    exact hfails

/-- However the executions for a ride overlap, it has at most one row, the
same one from then on; an execution that sends or updates works on that row,
and none fails because another created it. -/
theorem one_receipt_row (runtime : JsRuntime)
    (completions : τ → Completion rideId) (world : EmailWorld)
    {before after : List (τ × EmailInput)} {earlier last : ReceiptSystem τ}
    (hdb : ∀ event ∈ before ++ after, event.2.db = none)
    (hbefore : run (Interleaving.step EmailWorld.answer)
      (.start (fun thread => (completions thread).program runtime) world)
      before = some earlier)
    (hafter : run (Interleaving.step EmailWorld.answer) earlier after =
      some last) :
    (∀ first ∈ last.world.rows.rows, ∀ second ∈ last.world.rows.rows,
      first.rideId = rideId → second.rideId = rideId → first = second) ∧
    (∀ row, earlier.world.receipt rideId = some row →
      ∃ kept, last.world.receipt rideId = some kept ∧ kept.id = row.id) ∧
    (∀ thread, SharesRow rideId last thread) ∧
    ∀ thread error, last.program thread = .fail error →
      OwnError runtime (completions thread) last thread error := by
  obtain ⟨⟨stages, hearlier⟩, -⟩ :=
    (rowInvariant_start runtime completions world).run
      (fun event hevent => hdb event (List.mem_append_left _ hevent)) hbefore
  obtain ⟨⟨stages', hlast⟩, hpersists⟩ := hearlier.run
    (fun event hevent => hdb event (List.mem_append_right _ hevent)) hafter
  refine ⟨?_, hpersists, fun thread => (hlast.shares thread).1,
    fun thread => (hlast.shares thread).2⟩
  intro first hfirst second hsecond hride hride'
  exact unique_of_receipt last.world hfirst hsecond (hride.trans hride'.symm)

end System

/-- Both deliveries find no row and learn who the rider is; the first creates
the row. -/
def firstCreates : List (Bool × EmailInput) :=
  [(false, goesWell), (true, goesWell), (false, goesWell), (true, goesWell),
    (false, goesWell)]

/-- The insert of the second is refused; it finds the row of the first. -/
def secondRefetches : List (Bool × EmailInput) :=
  [(true, goesWell), (true, goesWell)]

theorem refused_insert_finds_row :
    ∃ earlier last, run (Interleaving.step EmailWorld.answer) twoDeliveries
        firstCreates = some earlier ∧
      run (Interleaving.step EmailWorld.answer) earlier secondRefetches =
        some last ∧
      ∃ row kept, earlier.world.receipt "ride" = some row ∧
        last.world.receipt "ride" = some kept ∧ kept.id = row.id ∧
        SharesRow "ride" last true := by
  have hcheck : (run (Interleaving.step EmailWorld.answer) twoDeliveries
      firstCreates).any (fun earlier =>
        (earlier.world.receipt "ride").isSome &&
          (run (Interleaving.step EmailWorld.answer) earlier
            secondRefetches).isSome) = true := by
    decide +kernel
  obtain ⟨earlier, hbefore, hnext⟩ := exists_of_run_any hcheck
  rw [Bool.and_eq_true] at hnext
  obtain ⟨row, hrow⟩ := Option.isSome_iff_exists.mp hnext.1
  obtain ⟨last, hafter⟩ := Option.isSome_iff_exists.mp hnext.2
  have hdb : ∀ event ∈ firstCreates ++ secondRefetches,
      event.2.db = none := by
    simp [firstCreates, secondRefetches, goesWell]
  obtain ⟨-, hkept, hshares, -⟩ := one_receipt_row fixedRuntime
    (fun _ => plainCompletion) ⟨Table.empty, []⟩ hdb hbefore hafter
  obtain ⟨kept, hlast, hid⟩ := hkept row hrow
  exact ⟨earlier, last, hbefore, hafter, row, kept, hrow, hlast, hid,
    hshares true⟩

end FakeBolt.Email
