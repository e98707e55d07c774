import FakeBolt.AwaitInterleaving
import FakeBolt.ReceiptBookkeeping

/-!
# The stages of a receipt

One execution of `sendRideReceipt` is followed by what it awaits next: what
each reply leads to, and what a stage may rely on while other executions act on
the row.
-/

namespace FakeBolt.Email

open Await Store EmailService

def EmailWorld.accepted (world : EmailWorld) : List String :=
  world.sends.filterMap Except.toOption

/-- A delivery of `ride.completed` for the ride, and when it is recorded. -/
structure Completion (rideId : String) where
  now : Instant
  event : RideCompletedEvent
  ride : event.rideId = some rideId

variable {rideId : String}

namespace Completion

variable (runtime : JsRuntime) (completion : Completion rideId)

def riderId : String := completion.event.riderId.getD ""

def receipt (user : Option UserContact) : RideReceipt :=
  toReceipt runtime completion.event rideId
    ((user.map UserContact.name).getD "there")

def subject (user : Option UserContact) : String :=
  rideReceiptSubject runtime (completion.receipt runtime user)

def program : EmailM Unit :=
  sendRideReceipt runtime completion.now completion.event

end Completion

/-! ## The stages of one execution -/

/-- Where an execution stands, by what it awaits next. -/
inductive Stage where
  | checking
  | asking (found : Option SentEmailEntity)
  | creating (user : Option UserContact)
  | refetching (user : Option UserContact)
  | givingUp (row : SentEmailEntity)
  | sending (row : Option SentEmailEntity) (user : UserContact)
      (email : OutgoingEmail)
  | recording (row : SentEmailEntity) (user : UserContact) (messageId : String)
  | failing (row : SentEmailEntity) (error : JsError)
  | ended (result : Except JsError Unit)

def sendsMail : Option EmailCall → Bool
  | some (.send _) => true
  | _ => false

def recordsSent : Option EmailCall → Bool
  | some (.update _ patch) => patch.status == some .sent
  | _ => false

/-- What `getUser` makes of the reply of auth-service; other errors it
rethrows. -/
def heard : Except JsError UserContact → Option (Option UserContact)
  | .ok user => some (some user)
  | .error (.axios (some 404) _) => some none
  | .error _ => none

/-- A reply of auth-service that makes `getUser` return null. -/
def tellsNoUser : (call : EmailCall) → Except JsError call.Reply → Bool
  | .getUser _, .error (.axios (some 404) _) => true
  | _, _ => false

namespace Stage

def isRecording : Stage → Bool
  | .recording _ _ _ => true
  | _ => false

/-- The row that a stage holds is the row of the receipt. -/
def Sound (receipt : Option SentEmailEntity) : Stage → Prop
  | .asking (some row) => ∃ current, receipt = some current ∧ current.id = row.id
  | .refetching _ => receipt.isSome
  | .givingUp row => ∃ current, receipt = some current ∧ current.id = row.id
  | .sending row _ _ =>
      ∃ held current, row = some held ∧ receipt = some current ∧
        current.id = held.id
  | .recording row _ _ =>
      ∃ current, receipt = some current ∧ current.id = row.id
  | .failing row _ => ∃ current, receipt = some current ∧ current.id = row.id
  | _ => True

variable (runtime : JsRuntime) (completion : Completion rideId)

/-- The code that is left to run. -/
def program : Stage → EmailM Unit
  | .checking => completion.program runtime
  | .asking found => do
      let user ← UsersClient.getUser completion.riderId
      afterUser runtime completion.now completion.event rideId
        completion.riderId found user
  | .creating user => do
      let row ← createRow runtime completion.event rideId completion.riderId
        (completion.subject runtime user) (user.map UserContact.email)
      finish runtime completion.now row user (completion.receipt runtime user)
        (completion.subject runtime user)
  | .refetching user => do
      let row ← EmailsRepository.findOne rideId .rideReceipt
      finish runtime completion.now row user (completion.receipt runtime user)
        (completion.subject runtime user)
  | .givingUp row => recordUserNotFound (some row)
  | .sending row user email =>
      tryCatch
        (SesService.send email >>= recordSent completion.now row user)
        (recordFailure row)
  | .recording row user messageId =>
      tryCatch (recordSent completion.now (some row) user messageId)
        (recordFailure (some row))
  | .failing row error => recordFailure (some row) error
  | .ended result => EmailService.ofExcept result

def NULL_ROW : JsError := .error "Cannot read properties of null (reading 'id')"

def afterFailure (row : Option SentEmailEntity) (error : JsError) : Stage :=
  match row with
  | some row => .failing row error
  | none => .ended (.error NULL_ROW)

def finishing (row : Option SentEmailEntity) (user : Option UserContact) :
    Stage :=
  match user with
  | none =>
      match row with
      | some row => .givingUp row
      | none => .ended (.error NULL_ROW)
  | some user =>
      match rideReceiptHtml runtime (completion.receipt runtime (some user)),
          rideReceiptText runtime (completion.receipt runtime (some user)) with
      | .ok html, .ok text =>
          .sending row user
            { toAddress := user.email
              subject := completion.subject runtime (some user)
              html := html
              text := text }
      | .ok _, .error error => afterFailure row error
      | .error error, _ => afterFailure row error

theorem program_finishing (row : Option SentEmailEntity)
    (user : Option UserContact) :
    (finishing runtime completion row user).program runtime completion =
      finish runtime completion.now row user (completion.receipt runtime user)
        (completion.subject runtime user) := by
  have hfailure : ∀ error, (afterFailure row error).program runtime completion =
      recordFailure row error := by
    intro error
    cases row <;> rfl
  cases user with
  | none => cases row <;> rfl
  | some user =>
      simp only [finishing, finish, deliver, sendAndRecord]
      cases rideReceiptHtml runtime (completion.receipt runtime (some user)) with
      | error error => exact hfailure error
      | ok html =>
          cases rideReceiptText runtime
              (completion.receipt runtime (some user)) with
          | error error => exact hfailure error
          | ok text => rfl

def answered (found : Option SentEmailEntity) (user : Option UserContact) :
    Stage :=
  match found with
  | some row => finishing runtime completion (some row) user
  | none => .creating user

theorem program_answered (found : Option SentEmailEntity)
    (user : Option UserContact) :
    (answered runtime completion found user).program runtime completion =
      afterUser runtime completion.now completion.event rideId
        completion.riderId found user := by
  cases found with
  | none => rfl
  | some row => exact program_finishing runtime completion (some row) user

/-- The errors that belong to one execution: its event's dates cannot be
stored or rendered. -/
structure Owns (own : JsError → Prop) : Prop where
  date : (pendingRow runtime completion.event rideId completion.riderId ""
      none).storable = false →
    own (.queryFailed INVALID_DATETIME
      "invalid input syntax for type timestamp")
  html : ∀ user error, rideReceiptHtml runtime
    (completion.receipt runtime (some user)) = .error error → own error
  text : ∀ user error, rideReceiptText runtime
    (completion.receipt runtime (some user)) = .error error → own error

/-- An error that auth-service or SES gives this execution is its own. -/
def OwnReply (own : JsError → Prop) :
    (call : EmailCall) → Except JsError call.Reply → Prop
  | .getUser _, .error error => own error
  | .send _, .error error => own error
  | _, _ => True

/-- If the execution fails from here, or is about to, the error is its own. -/
def FailsOwn (own : JsError → Prop) : Stage → Prop
  | .failing _ error => own error
  | .ended (.error error) => own error
  | _ => True

theorem failsOwn_finishing {own : JsError → Prop}
    (howns : Owns runtime completion own) (row : SentEmailEntity)
    (user : Option UserContact) :
    (finishing runtime completion (some row) user).FailsOwn own := by
  cases user with
  | none => trivial
  | some user =>
      cases hhtml : rideReceiptHtml runtime
          (completion.receipt runtime (some user)) with
      | error error =>
          simp only [finishing, hhtml]
          exact howns.html user error hhtml
      | ok html =>
          cases htext : rideReceiptText runtime
              (completion.receipt runtime (some user)) with
          | error error =>
              simp only [finishing, hhtml, htext]
              exact howns.text user error htext
          | ok text =>
              simp only [finishing, hhtml, htext]
              trivial

/-- With a database that fails for no reason of its own, a step keeps the
errors of an execution its own. -/
def Blames (stage : Stage) (world : EmailWorld) (call : EmailCall)
    (reply : Except JsError call.Reply) (input : EmailInput) (after : Stage) :
    Prop :=
  ∀ own, Owns runtime completion own → input.db = none →
    stage.Sound (world.receipt rideId) → OwnReply own call reply →
      stage.FailsOwn own → after.FailsOwn own

/-- What a call can lead to from each stage. -/
inductive Move : Stage → EmailWorld → (call : EmailCall) →
    Except JsError call.Reply → EmailInput → Stage → EmailWorld → Prop
  | stopped {stage world call reply input error}
      (hstage : stage.isRecording = false) :
      Move stage world call reply input (.ended (.error error)) world
  | settled {world reply input row}
      (hrow : world.receipt rideId = some row)
      (hsettled : isSettled row = true) :
      Move .checking world (.findOne rideId .rideReceipt) reply input
        (.ended (.ok ())) world
  | unsettled {world reply input} (hdb : input.db = none)
      (hopen : ¬ (world.receipt rideId).any isSettled = true) :
      Move .checking world (.findOne rideId .rideReceipt) reply input
        (.asking (world.receipt rideId)) world
  | answered {world input found reply user}
      (hheard : heard reply = some user) :
      Move (.asking found) world (.getUser completion.riderId) reply input
        (answered runtime completion found user) world
  | created {world row reply input user created rows}
      (hnone : world.receipt rideId = none)
      (hcreated : EmailWorld.receipt { world with rows := rows } rideId =
        some created) :
      Move (.creating user) world (.save row) reply input
        (finishing runtime completion (some created) user)
        { world with rows := rows }
  | clashed {world row reply input user}
      (hrow : (world.receipt rideId).isSome) :
      Move (.creating user) world (.save row) reply input (.refetching user)
        world
  | refetched {world reply input user} :
      Move (.refetching user) world (.findOne rideId .rideReceipt) reply input
        (finishing runtime completion (world.receipt rideId) user) world
  | gaveUp {world id patch input row}
      {reply : Except JsError (EmailCall.update id patch).Reply} :
      Move (.givingUp row) world (.update id patch) reply input (.ended (.ok ()))
        { world with
          rows := world.rows.update row.id
            { status := some .failed
              lastError := some (some USER_NOT_FOUND) } }
  | sent {world input row user email messageId}
      {reply : Except JsError (EmailCall.send email).Reply}
      (hses : input.ses = .ok messageId) :
      Move (.sending (some row) user email) world (.send email) reply input
        (.recording row user messageId)
        { world with sends := world.sends ++ [.ok messageId] }
  | sentWithoutRow {world input user email messageId}
      {reply : Except JsError (EmailCall.send email).Reply} :
      Move (.sending none user email) world (.send email) reply input
        (.ended (.error NULL_ROW))
        { world with sends := world.sends ++ [.ok messageId] }
  | refused {world input row user email error}
      {reply : Except JsError (EmailCall.send email).Reply} :
      Move (.sending row user email) world (.send email) reply input
        (afterFailure row error)
        { world with sends := world.sends ++ [.error error] }
  | recorded {world id input row user messageId patch}
      {reply : Except JsError (EmailCall.update id patch).Reply}
      (hpatch : patch.status = some .sent) :
      Move (.recording row user messageId) world (.update id patch) reply input
        (.ended (.ok ()))
        { world with rows := world.rows.update row.id patch }
  | unrecorded {world id patch input row user messageId error}
      {reply : Except JsError (EmailCall.update id patch).Reply}
      (hdb : input.db ≠ none) :
      Move (.recording row user messageId) world (.update id patch) reply input
        (.failing row error) world
  | recordedFailure {world id input row error patch}
      {reply : Except JsError (EmailCall.update id patch).Reply} :
      Move (.failing row error) world (.update id patch) reply input
        (.ended (.error error))
        { world with rows := world.rows.update row.id patch }

theorem insertRow_of_some {world : EmailWorld} {stored row : SentEmailEntity}
    (hstored : world.receipt rideId = some stored) (hride : row.rideId = rideId) :
    ∃ error, insertRow row world = (.error error, world) := by
  have hmem := Table.mem_of_find? hstored
  have hfound : stored.rideId = rideId ∧ stored.type = .rideReceipt := by
    simpa using List.find?_some hstored
  unfold insertRow
  split
  · have hclash : world.rows.insert? { row with id := freshId world.rows } =
        none := by
      refine Table.insert?_eq_none_iff.mpr ⟨stored, hmem, ?_⟩
      cases row.type
      simp [Indexed.clash, hfound, hride]
    rw [hclash]
    exact ⟨_, rfl⟩
  · exact ⟨_, rfl⟩

/-- An insert that fails for another reason than the unique index fails for
an invalid date. -/
theorem error_of_insertRow {row : SentEmailEntity} {world next : EmailWorld}
    {error : JsError} (hinsert : insertRow row world = (.error error, next))
    (hother : isUniqueViolation error = false) :
    row.storable = false ∧ error = .queryFailed INVALID_DATETIME
      "invalid input syntax for type timestamp" := by
  unfold insertRow at hinsert
  split at hinsert
  · split at hinsert
    · cases hinsert
    · cases hinsert
      simp [isUniqueViolation] at hother
  · rename_i hstorable
    cases hinsert
    exact ⟨by simpa using hstorable, rfl⟩

def Leads (stage : Stage) (call : EmailCall)
    (resume : Except JsError call.Reply → EmailM Unit) : Prop :=
  ∀ input world, ∃ after,
    resume (EmailWorld.answer call input world).1 =
        after.program runtime completion ∧
      Move runtime completion stage world call
        (EmailWorld.answer call input world).1 input after
        (EmailWorld.answer call input world).2

/-- `Leads`, and whose the errors are. -/
def LeadsTo (stage : Stage) (call : EmailCall)
    (resume : Except JsError call.Reply → EmailM Unit) : Prop :=
  ∀ input world, ∃ after,
    resume (EmailWorld.answer call input world).1 =
        after.program runtime completion ∧
      Move runtime completion stage world call
        (EmailWorld.answer call input world).1 input after
        (EmailWorld.answer call input world).2 ∧
      Blames runtime completion stage world call
        (EmailWorld.answer call input world).1 input after

variable {runtime completion}

theorem LeadsTo.leads {stage : Stage} {call : EmailCall}
    {resume : Except JsError call.Reply → EmailM Unit}
    (hleads : LeadsTo runtime completion stage call resume) :
    Leads runtime completion stage call resume := by
  intro input world
  obtain ⟨after, hresume, hmove, -⟩ := hleads input world
  exact ⟨after, hresume, hmove⟩

/-- A database call that fails for no reason of its own is ruled out. -/
theorem blames_fault {stage after : Stage} {world : EmailWorld}
    {call : EmailCall} {reply : Except JsError call.Reply} {input : EmailInput}
    {message : String} (hdb : input.db = some message) :
    Blames runtime completion stage world call reply input after := by
  intro own _ hnone
  rw [hdb] at hnone
  cases hnone

theorem answer_findOne_failed {input : EmailInput} {message : String}
    (hdb : input.db = some message) (world : EmailWorld) :
    EmailWorld.answer (.findOne rideId .rideReceipt) input world =
      (.error (.error message), world) := by
  simp only [EmailWorld.answer, hdb]

theorem leads_checking {call : EmailCall}
    {resume : Except JsError call.Reply → EmailM Unit}
    (hprogram : checking.program runtime completion = .await call resume) :
    LeadsTo runtime completion .checking call resume := by
  simp only [program, Completion.program, sendRideReceipt] at hprogram
  cases hride : truthy completion.event.rideId with
  | none =>
      rw [hride] at hprogram
      cases hprogram
  | some id =>
      have hid : id = rideId := by
        have hevent := (truthy_eq_some_iff.mp hride).1
        rw [completion.ride] at hevent
        cases hevent
        rfl
      subst hid
      cases hrider : truthy completion.event.riderId with
      | none =>
          rw [hride, hrider] at hprogram
          cases hprogram
      | some riderId =>
          have hriderId : completion.riderId = riderId := by
            unfold Completion.riderId
            rw [(truthy_eq_some_iff.mp hrider).1]
            rfl
          subst hriderId
          rw [hride, hrider] at hprogram
          simp only [EmailsRepository.findOne] at hprogram
          rw [Program.call_bind] at hprogram
          cases hprogram
          intro input world
          cases hdb : input.db with
          | some message =>
              rw [answer_findOne_failed hdb]
              exact ⟨.ended (.error (.error message)), rfl, .stopped rfl,
                blames_fault hdb⟩
          | none =>
              rw [answer_findOne hdb]
              by_cases hany : (world.receipt id).any isSettled = true
              · obtain ⟨row, hrow, hsettled⟩ :=
                  (Option.any_eq_true _ _).mp hany
                refine ⟨.ended (.ok ()), ?_, .settled hrow hsettled,
                  fun _ _ _ _ _ _ => trivial⟩
                simp only [Program.resumeWith, if_pos hany]
                rfl
              · refine ⟨.asking (world.receipt id), ?_, .unsettled hdb hany,
                  fun _ _ _ _ _ _ => trivial⟩
                simp only [Program.resumeWith, if_neg hany]
                rfl

theorem leads_asking {found : Option SentEmailEntity} {call : EmailCall}
    {resume : Except JsError call.Reply → EmailM Unit}
    (hprogram : (asking found).program runtime completion =
      .await call resume) :
    LeadsTo runtime completion (.asking found) call resume := by
  simp only [program, UsersClient.getUser] at hprogram
  rw [Program.tryCatch_call_bind, Program.await_bind] at hprogram
  cases hprogram
  intro input world
  simp only [EmailWorld.answer]
  have hnext : ∀ user, heard input.auth = some user → ∃ after : Stage,
      afterUser runtime completion.now completion.event rideId
          completion.riderId found user = after.program runtime completion ∧
        Move runtime completion (.asking found) world
          (.getUser completion.riderId) input.auth input after world ∧
        Blames runtime completion (.asking found) world
          (.getUser completion.riderId) input.auth input after := by
    intro user hheard
    refine ⟨answered runtime completion found user,
      (program_answered runtime completion found user).symm,
      .answered hheard, ?_⟩
    intro own howns _ _ _ _
    cases found with
    | none => trivial
    | some row => exact failsOwn_finishing runtime completion howns row user
  cases hauth : input.auth with
  | ok user =>
      rw [hauth] at hnext
      exact hnext (some user) rfl
  | error error =>
      rw [hauth] at hnext
      simp only [Program.resumeWith]
      split
      · exact hnext none rfl
      · exact ⟨.ended (.error error), rfl, .stopped rfl,
          fun _ _ _ _ hreply _ => hreply⟩

theorem leads_creating {user : Option UserContact} {call : EmailCall}
    {resume : Except JsError call.Reply → EmailM Unit}
    (hprogram : (creating user).program runtime completion =
      .await call resume) :
    LeadsTo runtime completion (.creating user) call resume := by
  simp only [program, createRow, EmailsRepository.save] at hprogram
  rw [Program.tryCatch_call_bind, Program.await_bind] at hprogram
  cases hprogram
  intro input world
  let row := pendingRow runtime completion.event rideId completion.riderId
    (completion.subject runtime user) (user.map UserContact.email)
  cases hdb : input.db with
  | some message =>
      have hreply : EmailWorld.answer (.save row) input world =
          (.error (.error message), world) := by
        simp only [EmailWorld.answer, hdb]
      rw [hreply]
      exact ⟨.ended (.error (.error message)), rfl, .stopped rfl,
        blames_fault hdb⟩
  | none =>
      have hreply : EmailWorld.answer (.save row) input world =
          insertRow row world := by
        simp only [EmailWorld.answer, hdb]
      rw [hreply]
      have hride : row.rideId = rideId := rfl
      cases hrow : world.receipt rideId with
      | none =>
          obtain ⟨error, hother, hinsert⟩ | ⟨rows, hinsert, hcreated⟩ :=
            insertRow_of_none hrow hride
          · rw [hinsert]
            refine ⟨.ended (.error error), ?_, .stopped rfl, ?_⟩
            · simp only [Program.resumeWith, hother]
              rfl
            · intro own howns _ _ _ _
              obtain ⟨hdates, herror⟩ := error_of_insertRow hinsert hother
              rw [herror]
              exact howns.date hdates
          · rw [hinsert]
            exact ⟨finishing runtime completion _ user,
              (program_finishing runtime completion _ user).symm,
              .created hrow hcreated, fun _ howns _ _ _ _ =>
                failsOwn_finishing runtime completion howns _ user⟩
      | some stored =>
          obtain ⟨error, hinsert⟩ := insertRow_of_some hrow hride
          rw [hinsert]
          cases hviolation : isUniqueViolation error with
          | false =>
              refine ⟨.ended (.error error), ?_, .stopped rfl, ?_⟩
              · simp only [Program.resumeWith, hviolation]
                rfl
              · intro own howns _ _ _ _
                obtain ⟨hdates, herror⟩ := error_of_insertRow hinsert hviolation
                rw [herror]
                exact howns.date hdates
          | true =>
              refine ⟨.refetching user, ?_, .clashed (by simp [hrow]),
                fun _ _ _ _ _ _ => trivial⟩
              simp only [Program.resumeWith, hviolation]
              rfl

theorem leads_refetching {user : Option UserContact} {call : EmailCall}
    {resume : Except JsError call.Reply → EmailM Unit}
    (hprogram : (refetching user).program runtime completion =
      .await call resume) :
    LeadsTo runtime completion (.refetching user) call resume := by
  simp only [program, EmailsRepository.findOne] at hprogram
  rw [Program.call_bind] at hprogram
  cases hprogram
  intro input world
  cases hdb : input.db with
  | some message =>
      rw [answer_findOne_failed hdb]
      exact ⟨.ended (.error (.error message)), rfl, .stopped rfl,
        blames_fault hdb⟩
  | none =>
      rw [answer_findOne hdb]
      refine ⟨finishing runtime completion (world.receipt rideId) user,
        (program_finishing runtime completion _ user).symm, .refetched, ?_⟩
      intro own howns _ hsound _ _
      obtain ⟨row, hrow⟩ := Option.isSome_iff_exists.mp hsound
      rw [hrow]
      exact failsOwn_finishing runtime completion howns row user

theorem answer_update (id : ℕ) (patch : SentEmailPatch) (input : EmailInput)
    (world : EmailWorld) :
    (∃ message, input.db = some message ∧
      EmailWorld.answer (.update id patch) input world =
        (.error (.error message), world)) ∨
    (input.db = none ∧
      EmailWorld.answer (.update id patch) input world =
        (.ok (), { world with rows := world.rows.update id patch })) := by
  cases hdb : input.db with
  | some message =>
      left
      exact ⟨message, rfl, by simp only [EmailWorld.answer, hdb]⟩
  | none =>
      right
      exact ⟨rfl, by simp only [EmailWorld.answer, hdb]⟩

theorem leads_givingUp {row : SentEmailEntity} {call : EmailCall}
    {resume : Except JsError call.Reply → EmailM Unit}
    (hprogram : (givingUp row).program runtime completion =
      .await call resume) :
    LeadsTo runtime completion (.givingUp row) call resume := by
  change Program.await _ _ = _ at hprogram
  cases hprogram
  intro input world
  obtain ⟨message, hdb, hreply⟩ | ⟨-, hreply⟩ := answer_update row.id
    { status := some .failed, lastError := some (some USER_NOT_FOUND) }
    input world
  · rw [hreply]
    exact ⟨.ended (.error (.error message)), rfl, .stopped rfl,
      blames_fault hdb⟩
  · rw [hreply]
    exact ⟨.ended (.ok ()), rfl, .gaveUp, fun _ _ _ _ _ _ => trivial⟩

theorem leads_sending {row : Option SentEmailEntity} {user : UserContact}
    {email : OutgoingEmail} {call : EmailCall}
    {resume : Except JsError call.Reply → EmailM Unit}
    (hprogram : (sending row user email).program runtime completion =
      .await call resume) :
    LeadsTo runtime completion (.sending row user email) call resume := by
  simp only [program, SesService.send] at hprogram
  rw [Program.tryCatch_call_bind] at hprogram
  cases hprogram
  intro input world
  simp only [EmailWorld.answer]
  cases hses : input.ses with
  | ok messageId =>
      cases row with
      | none =>
          refine ⟨.ended (.error NULL_ROW), rfl, .sentWithoutRow, ?_⟩
          rintro own - - ⟨held, -, hrow, -⟩
          cases hrow
      | some row =>
          exact ⟨.recording row user messageId, rfl, .sent hses,
            fun _ _ _ _ _ _ => trivial⟩
  | error error =>
      refine ⟨afterFailure row error, ?_, .refused, ?_⟩
      · cases row <;> rfl
      · rintro own - - ⟨held, -, hrow, -⟩ hreply -
        subst hrow
        exact hreply

theorem leads_recording {row : SentEmailEntity} {user : UserContact}
    {messageId : String} {call : EmailCall}
    {resume : Except JsError call.Reply → EmailM Unit}
    (hprogram : (recording row user messageId).program runtime completion =
      .await call resume) :
    LeadsTo runtime completion (.recording row user messageId) call resume := by
  change Program.await _ _ = _ at hprogram
  cases hprogram
  intro input world
  obtain ⟨message, hdb, hreply⟩ | ⟨-, hreply⟩ := answer_update row.id _
    input world
  · rw [hreply]
    exact ⟨.failing row (.error message), rfl, .unrecorded (by simp [hdb]),
      blames_fault hdb⟩
  · rw [hreply]
    exact ⟨.ended (.ok ()), rfl, .recorded rfl, fun _ _ _ _ _ _ => trivial⟩

theorem leads_failing {row : SentEmailEntity} {error : JsError}
    {call : EmailCall} {resume : Except JsError call.Reply → EmailM Unit}
    (hprogram : (failing row error).program runtime completion =
      .await call resume) :
    LeadsTo runtime completion (.failing row error) call resume := by
  change Program.await _ _ = _ at hprogram
  cases hprogram
  intro input world
  obtain ⟨message, hdb, hreply⟩ | ⟨-, hreply⟩ := answer_update row.id _
    input world
  · rw [hreply]
    exact ⟨.ended (.error (.error message)), rfl, .stopped rfl,
      blames_fault hdb⟩
  · rw [hreply]
    exact ⟨.ended (.error error), rfl, .recordedFailure,
      fun _ _ _ _ _ hfails => hfails⟩

theorem leadsTo_program {stage : Stage} {call : EmailCall}
    {resume : Except JsError call.Reply → EmailM Unit}
    (hprogram : stage.program runtime completion = .await call resume) :
    LeadsTo runtime completion stage call resume := by
  cases stage with
  | checking => exact leads_checking hprogram
  | asking found => exact leads_asking hprogram
  | creating user => exact leads_creating hprogram
  | refetching user => exact leads_refetching hprogram
  | givingUp row => exact leads_givingUp hprogram
  | sending row user email => exact leads_sending hprogram
  | recording row user messageId => exact leads_recording hprogram
  | failing row error => exact leads_failing hprogram
  | ended result => cases result <;> cases hprogram

theorem rule (runtime : JsRuntime) (completion : Completion rideId) :
    Interleaving.StageRule EmailWorld.answer (program runtime completion)
      (Move runtime completion) where
  move := fun hprogram => (leadsTo_program hprogram).leads

/-! ## What a stage may rely on -/

/-- A receipt that is there stays there, in the same row. -/
def Persists (before after : Option SentEmailEntity) : Prop :=
  ∀ row, before = some row → ∃ next, after = some next ∧ next.id = row.id

theorem Persists.refl (receipt : Option SentEmailEntity) :
    Persists receipt receipt :=
  fun row hrow => ⟨row, hrow, rfl⟩

theorem Persists.trans {first second third : Option SentEmailEntity}
    (hfirst : Persists first second) (hsecond : Persists second third) :
    Persists first third := by
  intro row hrow
  obtain ⟨next, hnext, hid⟩ := hfirst row hrow
  obtain ⟨last, hlast, hsame⟩ := hsecond next hnext
  exact ⟨last, hlast, hsame.trans hid⟩

theorem Persists.held {before after : Option SentEmailEntity}
    {row : SentEmailEntity} (hpersists : Persists before after)
    (hheld : ∃ current, before = some current ∧ current.id = row.id) :
    ∃ current, after = some current ∧ current.id = row.id := by
  obtain ⟨current, hcurrent, hid⟩ := hheld
  obtain ⟨next, hnext, hsame⟩ := hpersists current hcurrent
  exact ⟨next, hnext, hsame.trans hid⟩

theorem Sound.mono {before after : Option SentEmailEntity} {stage : Stage}
    (hsound : stage.Sound before) (hpersists : Persists before after) :
    stage.Sound after := by
  cases stage with
  | checking => trivial
  | asking found =>
      cases found with
      | none => trivial
      | some row => exact hpersists.held hsound
  | creating user => trivial
  | refetching user =>
      obtain ⟨row, hrow⟩ := Option.isSome_iff_exists.mp hsound
      obtain ⟨next, hnext, -⟩ := hpersists row hrow
      exact Option.isSome_iff_exists.mpr ⟨next, hnext⟩
  | givingUp row => exact hpersists.held hsound
  | sending row user email =>
      obtain ⟨held, current, hrow, hheld⟩ := hsound
      obtain ⟨next, hnext⟩ := hpersists.held ⟨current, hheld⟩
      exact ⟨held, next, hrow, hnext⟩
  | recording row user messageId => exact hpersists.held hsound
  | failing row error => exact hpersists.held hsound
  | ended result => trivial

theorem sound_finishing {receipt : Option SentEmailEntity}
    {row : SentEmailEntity} (user : Option UserContact)
    (hheld : ∃ current, receipt = some current ∧ current.id = row.id) :
    (finishing runtime completion (some row) user).Sound receipt := by
  obtain ⟨current, hcurrent⟩ := hheld
  cases user with
  | none => exact ⟨current, hcurrent⟩
  | some user =>
      unfold finishing
      simp only
      split
      · exact ⟨row, current, rfl, hcurrent⟩
      · exact ⟨current, hcurrent⟩
      · exact ⟨current, hcurrent⟩

theorem persists_update {world : EmailWorld} {row : SentEmailEntity}
    (patch : SentEmailPatch)
    (hheld : ∃ current, world.receipt rideId = some current ∧
      current.id = row.id) :
    Persists (world.receipt rideId)
      (EmailWorld.receipt
        { world with rows := world.rows.update row.id patch } rideId) := by
  obtain ⟨current, hcurrent, hid⟩ := hheld
  intro other hother
  rw [hcurrent] at hother
  cases hother
  rw [← hid]
  exact ⟨patch.apply current, receipt_update hcurrent patch, rfl⟩

theorem Move.persists {stage after : Stage} {world next : EmailWorld}
    {call : EmailCall} {reply : Except JsError call.Reply} {input : EmailInput}
    (hmove : Move runtime completion stage world call reply input after next)
    (hsound : stage.Sound (world.receipt rideId)) :
    Persists (world.receipt rideId) (next.receipt rideId) := by
  cases hmove with
  | created hnone hcreated =>
      intro row hrow
      rw [hnone] at hrow
      cases hrow
  | gaveUp => exact persists_update _ hsound
  | recorded hpatch => exact persists_update _ hsound
  | recordedFailure => exact persists_update _ hsound
  | _ => exact Persists.refl _

theorem Move.sound {stage after : Stage} {world next : EmailWorld}
    {call : EmailCall} {reply : Except JsError call.Reply} {input : EmailInput}
    (hmove : Move runtime completion stage world call reply input after next)
    (hsound : stage.Sound (world.receipt rideId)) :
    after.Sound (next.receipt rideId) := by
  cases hmove with
  | stopped hstage => trivial
  | settled hrow hsettled => trivial
  | unsettled hdb hopen =>
      cases hrow : world.receipt rideId with
      | none => trivial
      | some row => exact ⟨row, rfl, rfl⟩
  | @answered world input found reply user hheard =>
      cases found with
      | none => trivial
      | some row => exact sound_finishing user hsound
  | created hnone hcreated => exact sound_finishing _ ⟨_, hcreated, rfl⟩
  | clashed hrow => exact hrow
  | refetched =>
      obtain ⟨row, hrow⟩ := Option.isSome_iff_exists.mp hsound
      rw [hrow]
      exact sound_finishing _ ⟨row, rfl, rfl⟩
  | gaveUp => trivial
  | sent hses =>
      obtain ⟨held, current, hrow, hcurrent⟩ := hsound
      cases hrow
      exact ⟨current, hcurrent⟩
  | sentWithoutRow => trivial
  | refused =>
      obtain ⟨held, current, hrow, hcurrent⟩ := hsound
      subst hrow
      exact ⟨current, hcurrent⟩
  | recorded hpatch => trivial
  | unrecorded hdb => exact hsound
  | recordedFailure => trivial

def NoUser : Stage → Prop
  | .creating none => True
  | .refetching none => True
  | .givingUp _ => True
  | .ended _ => True
  | _ => False

/-- An execution that has not begun, or will send nothing. -/
def Idle (stage : Stage) : Prop :=
  stage = .checking ∨ stage.NoUser

theorem noUser_finishing (row : Option SentEmailEntity) :
    (finishing runtime completion row none).NoUser := by
  cases row <;> trivial

theorem isRecording_finishing (row : Option SentEmailEntity)
    (user : Option UserContact) :
    (finishing runtime completion row user).isRecording = false := by
  cases user with
  | none => cases row <;> rfl
  | some user =>
      unfold finishing
      simp only
      split
      · rfl
      · cases row <;> rfl
      · cases row <;> rfl

theorem finishing_ne_checking (row : Option SentEmailEntity)
    (user : Option UserContact) :
    finishing runtime completion row user ≠ .checking := by
  cases user with
  | none => cases row <;> simp [finishing]
  | some user =>
      unfold finishing
      simp only
      split
      · simp
      · cases row <;> simp [afterFailure]
      · cases row <;> simp [afterFailure]

theorem Move.noUser {stage after : Stage} {world next : EmailWorld}
    {call : EmailCall} {reply : Except JsError call.Reply} {input : EmailInput}
    (hmove : Move runtime completion stage world call reply input after next)
    (htold : stage.NoUser ∨ tellsNoUser call reply = true) : after.NoUser := by
  cases hmove with
  | stopped hstage => trivial
  | settled hrow hsettled => trivial
  | unsettled hdb hopen => simp [NoUser, tellsNoUser] at htold
  | @answered world input found reply user hheard =>
      have htells := htold.resolve_left id
      have huser : user = none := by
        unfold tellsNoUser at htells
        split at htells
        · simpa [heard] using hheard.symm
        · simp at htells
      subst huser
      cases found with
      | none => trivial
      | some row =>
          change (finishing runtime completion (some row) none).NoUser
          exact noUser_finishing _
  | @created world row reply input user created rows hnone hcreated =>
      cases user with
      | none => exact noUser_finishing _
      | some user => simp [NoUser, tellsNoUser] at htold
  | @clashed world row reply input user hrow =>
      cases user with
      | none => trivial
      | some user => simp [NoUser, tellsNoUser] at htold
  | @refetched world reply input user =>
      cases user with
      | none => exact noUser_finishing _
      | some user => simp [NoUser, tellsNoUser] at htold
  | gaveUp => trivial
  | sent hses => simp [NoUser, tellsNoUser] at htold
  | sentWithoutRow => trivial
  | refused => simp [NoUser, tellsNoUser] at htold
  | recorded hpatch => trivial
  | unrecorded hdb => simp [NoUser, tellsNoUser] at htold
  | recordedFailure => trivial

theorem Move.ne_checking {stage after : Stage} {world next : EmailWorld}
    {call : EmailCall} {reply : Except JsError call.Reply} {input : EmailInput}
    (hmove : Move runtime completion stage world call reply input after next) :
    after ≠ .checking := by
  cases hmove with
  | @answered world input found reply user hheard =>
      cases found with
      | none => exact nofun
      | some row =>
          change finishing runtime completion (some row) user ≠ .checking
          exact finishing_ne_checking _ _
  | created hnone hcreated => exact finishing_ne_checking _ _
  | refetched => exact finishing_ne_checking _ _
  | @refused world input row user email error reply =>
      cases row <;> simp [afterFailure]
  | _ => simp

/-- An idle execution sends nothing; it stays idle when the receipt it may
find is settled, and so does the receipt. -/
theorem Move.idle {stage after : Stage} {world next : EmailWorld}
    {call : EmailCall} {reply : Except JsError call.Reply} {input : EmailInput}
    (hmove : Move runtime completion stage world call reply input after next)
    (hidle : stage.Idle) {row : SentEmailEntity}
    (hrow : world.receipt rideId = some row)
    (hsound : stage.Sound (world.receipt rideId))
    (hchecked : stage = .checking → input.db = none → isSettled row = true) :
    after.Idle ∧ next.sends = world.sends ∧
      (isSettled row = true →
        ∃ kept, next.receipt rideId = some kept ∧ isSettled kept = true) := by
  have hsame : isSettled row = true →
      ∃ kept, world.receipt rideId = some kept ∧ isSettled kept = true :=
    fun hsettled => ⟨row, hrow, hsettled⟩
  have hafter : stage.NoUser → after.Idle :=
    fun hnoUser => Or.inr (hmove.noUser (Or.inl hnoUser))
  cases hmove with
  | stopped hstage => exact ⟨Or.inr trivial, rfl, hsame⟩
  | settled hrow' hsettled => exact ⟨Or.inr trivial, rfl, hsame⟩
  | unsettled hdb hopen =>
      rw [hrow] at hopen
      exact (hopen (hchecked rfl hdb)).elim
  | answered hheard => simp [Idle, NoUser] at hidle
  | created hnone hcreated =>
      rw [hrow] at hnone
      cases hnone
  | clashed hrow' =>
      exact ⟨hafter (hidle.resolve_left (by simp)), rfl, hsame⟩
  | refetched =>
      exact ⟨hafter (hidle.resolve_left (by simp)), rfl, hsame⟩
  | gaveUp =>
      refine ⟨Or.inr trivial, rfl, fun _ => ?_⟩
      obtain ⟨current, hcurrent, hid⟩ := hsound
      rw [← hid]
      exact ⟨_, receipt_update hcurrent _, rfl⟩
  | sent hses => simp [Idle, NoUser] at hidle
  | sentWithoutRow => simp [Idle, NoUser] at hidle
  | refused => simp [Idle, NoUser] at hidle
  | recorded hpatch => simp [Idle, NoUser] at hidle
  | unrecorded hdb => simp [Idle, NoUser] at hidle
  | recordedFailure => simp [Idle, NoUser] at hidle

/-- What a step does that does not come from recording a mail: SES accepts
one, or the accepted ones stay as they were. -/
theorem Move.unrecording {stage after : Stage} {world next : EmailWorld}
    {call : EmailCall} {reply : Except JsError call.Reply} {input : EmailInput}
    (hmove : Move runtime completion stage world call reply input after next)
    (hstage : stage.isRecording = false)
    (hsound : stage.Sound (world.receipt rideId)) :
    (after.isRecording = false ∧ next.accepted = world.accepted) ∨
    ∃ row user email messageId, stage = .sending (some row) user email ∧
      input.ses = .ok messageId ∧ after = .recording row user messageId ∧
      next.accepted = world.accepted ++ [messageId] ∧
      next.receipt rideId = world.receipt rideId := by
  cases hmove with
  | answered hheard =>
      refine Or.inl ⟨?_, rfl⟩
      unfold Stage.answered
      split
      · exact isRecording_finishing _ _
      · rfl
  | created hnone hcreated => exact Or.inl ⟨isRecording_finishing _ _, rfl⟩
  | refetched => exact Or.inl ⟨isRecording_finishing _ _, rfl⟩
  | @sent world input row user email messageId reply hses =>
      refine Or.inr ⟨row, user, email, messageId, rfl, hses, rfl, ?_, rfl⟩
      simp [EmailWorld.accepted, Except.toOption]
  | sentWithoutRow =>
      obtain ⟨held, current, hrow, -⟩ := hsound
      cases hrow
  | @refused world input row user email error reply =>
      refine Or.inl ⟨?_, ?_⟩
      · cases row <;> rfl
      · simp [EmailWorld.accepted, Except.toOption]
  | recorded hpatch => simp [isRecording] at hstage
  | unrecorded hdb => simp [isRecording] at hstage
  | _ => exact Or.inl ⟨rfl, rfl⟩

theorem Move.recording {stage after : Stage} {world next : EmailWorld}
    {call : EmailCall} {reply : Except JsError call.Reply} {input : EmailInput}
    (hmove : Move runtime completion stage world call reply input after next)
    (hstage : stage.isRecording = true) (hdb : input.db = none)
    (hsound : stage.Sound (world.receipt rideId)) :
    after.Idle ∧ next.sends = world.sends ∧
      ∃ row, next.receipt rideId = some row ∧ isSettled row = true := by
  cases hmove with
  | stopped hnot =>
      rw [hnot] at hstage
      cases hstage
  | recorded hpatch =>
      obtain ⟨current, hcurrent, hid⟩ := hsound
      refine ⟨Or.inr trivial, rfl, ?_⟩
      rw [← hid]
      refine ⟨_, receipt_update hcurrent _, ?_⟩
      simp [isSettled, SentEmailPatch.apply, hpatch]
  | unrecorded hfailed => exact (hfailed hdb).elim
  | _ => simp [isRecording] at hstage

theorem idle_of_pending_eq_none {stage : Stage}
    (hpending : (stage.program runtime completion).pending = none) :
    stage.Idle := by
  cases stage with
  | checking => exact Or.inl rfl
  | ended result => exact Or.inr trivial
  | _ =>
      change some _ = none at hpending
      cases hpending

theorem recordsSent_pending {stage : Stage}
    (hrecording : stage.isRecording = true) :
    recordsSent (stage.program runtime completion).pending = true := by
  cases stage with
  | recording row user messageId => rfl
  | _ => cases hrecording

end Stage

end FakeBolt.Email
