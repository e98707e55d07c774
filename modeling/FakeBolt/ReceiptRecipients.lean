import FakeBolt.AccountRuns
import FakeBolt.AssignmentOrigins

/-!
# Who gets a receipt

email-service consumes the `ride.completed` of the log, asks auth-service for
the rider and hands the receipt to SES; its deliveries are under way at the
same time as those of ride-service and matching-service and as registrations.
A receipt goes to the address that the rider of the ride has registered, and
lands in the history of this rider.
-/

namespace FakeBolt.Audience

open Await Json Kafka Ride Store Transition
open Auth (AuthRuntime AuthWorld)
open Dispatch (Deployment)
open Email (EmailCall EmailM EmailWorld OutgoingEmail RideCompletedEvent Renders
  UserContact rideOf)
open Email.EmailService (afterUser createRow deliver finish pendingRow
  recordFailure sendAndRecord sendRideReceipt toReceipt)
open Profile (UserEntity)

/-! ## auth-service, as email-service sees it -/

/-- What the environment decides about one call: whether the database of
email-service or that of auth-service fails, whether auth-service cannot be
reached, and what SES answers. -/
structure MailInput where
  db : Option String := none
  auth : Option JsError := none
  users : Option String := none
  ses : Except JsError String := .ok ""

/-- An answer of the internal route of auth-service, as axios gives it. -/
def ofAnswer : Except JsError Auth.UserContact → Except JsError UserContact
  | .ok contact =>
      .ok
        { id := contact.id
          email := contact.email
          name := contact.name
          role := contact.role.value }
  | .error (.http .notFound _) =>
      .error (.axios (some 404) "Request failed with status code 404")
  | .error (.http .badRequest _) =>
      .error (.axios (some 400) "Request failed with status code 400")
  | .error _ => .error (.axios (some 500) "Request failed with status code 500")

def askAuth (runtime : AuthRuntime) (users : Table UserEntity)
    (input : MailInput) (userId : String) : Except JsError UserContact :=
  match input.auth with
  | some error => .error error
  | none =>
      ofAnswer ((Auth.getUser userId).exec
        (fun call world =>
          AuthWorld.answer runtime call { fault := input.users } world)
        ⟨users, []⟩).1

/-! ## The mail side -/

structure MailWorld where
  users : Table UserEntity
  emails : EmailWorld
  /-- Everything that SES has been handed, accepted or not. -/
  outbox : List OutgoingEmail
  consumed : List RideCompletedEvent

def handed : EmailCall → List OutgoingEmail
  | .send email => [email]
  | _ => []

def answerMail (runtime : AuthRuntime) (call : EmailCall) (input : MailInput)
    (world : MailWorld) : Except JsError call.Reply × MailWorld :=
  let auth :=
    match call with
    | .getUser userId => askAuth runtime world.users input userId
    | _ => .error (.axios none "")
  let outcome := EmailWorld.answer call ⟨input.db, auth, input.ses⟩ world.emails
  (outcome.1,
    { world with
      emails := outcome.2
      outbox := world.outbox ++ handed call })

/-- The rider and the past ride that a row for the event shows. -/
def DueTo (runtime : JsRuntime) (event : RideCompletedEvent)
    (entry : String × Email.PastRide) : Prop :=
  ∃ rideId riderId, truthy event.rideId = some rideId ∧
    truthy event.riderId = some riderId ∧
    entry = (riderId, rideOf runtime event rideId)

/-- The receipt of the event, at the address that its rider has registered. -/
def AddressedBy (runtime : JsRuntime) (event : RideCompletedEvent)
    (users : Table UserEntity) (email : OutgoingEmail) : Prop :=
  ∃ rideId riderId, truthy event.rideId = some rideId ∧
    truthy event.riderId = some riderId ∧
    ∃ user ∈ users.rows, user.id = riderId ∧ email.toAddress = user.email ∧
      Renders runtime (toReceipt runtime event rideId user.name) email

structure MailInv (runtime : JsRuntime) (world : MailWorld) : Prop where
  rows : ∀ entry ∈ world.emails.history, ∃ event ∈ world.consumed,
    DueTo runtime event entry
  mails : ∀ email ∈ world.outbox, ∃ event ∈ world.consumed,
    AddressedBy runtime event world.users email

/-- Users keep their address and name. -/
def ContactsStay (before after : Table UserEntity) : Prop :=
  ∀ user ∈ before.rows, ∃ later ∈ after.rows, later.id = user.id ∧
    later.email = user.email ∧ later.name = user.name

instance (before after : Table UserEntity) :
    Decidable (ContactsStay before after) :=
  inferInstanceAs (Decidable (∀ user ∈ before.rows, ∃ later ∈ after.rows,
    later.id = user.id ∧ later.email = user.email ∧ later.name = user.name))

theorem ContactsStay.refl (users : Table UserEntity) : ContactsStay users users :=
  fun user huser => ⟨user, huser, rfl, rfl, rfl⟩

theorem ContactsStay.trans {first second third : Table UserEntity}
    (hfirst : ContactsStay first second) (hsecond : ContactsStay second third) :
    ContactsStay first third := by
  intro user huser
  obtain ⟨later, hlater, hid, hemail, hname⟩ := hfirst user huser
  obtain ⟨last, hlast, hid', hemail', hname'⟩ := hsecond later hlater
  exact ⟨last, hlast, hid'.trans hid, hemail'.trans hemail, hname'.trans hname⟩

def mailPromise (runtime : JsRuntime) : Guarantee MailWorld where
  Inv := MailInv runtime
  Keeps before after := before.consumed ⊆ after.consumed ∧
    ContactsStay before.users after.users
  refl world := ⟨List.Subset.refl _, .refl world.users⟩
  trans := by
    intro first second third hfirst hsecond
    exact ⟨List.Subset.trans hfirst.1 hsecond.1, hfirst.2.trans hsecond.2⟩

variable {runtime : JsRuntime} {auth : AuthRuntime}

theorem AddressedBy.of_stay {event : RideCompletedEvent}
    {before after : Table UserEntity} {email : OutgoingEmail}
    (haddressed : AddressedBy runtime event before email)
    (hstay : ContactsStay before after) :
    AddressedBy runtime event after email := by
  obtain ⟨rideId, riderId, hride, hrider, user, huser, hid, hemail, hrenders⟩ :=
    haddressed
  obtain ⟨later, hlater, hlaterId, hlaterEmail, hlaterName⟩ := hstay user huser
  refine ⟨rideId, riderId, hride, hrider, later, hlater, hlaterId.trans hid, ?_,
    ?_⟩
  · rw [hlaterEmail]
    exact hemail
  · rw [hlaterName]
    exact hrenders

theorem MailInv.of_keeps {world after : MailWorld}
    (hinv : MailInv runtime world)
    (hkeeps : (mailPromise runtime).Keeps world after)
    (hhistory : after.emails.history = world.emails.history)
    (houtbox : after.outbox = world.outbox) : MailInv runtime after := by
  constructor
  · rw [hhistory]
    intro entry hentry
    obtain ⟨event, hevent, hdue⟩ := hinv.rows entry hentry
    exact ⟨event, hkeeps.1 hevent, hdue⟩
  · rw [houtbox]
    intro email hemail
    obtain ⟨event, hevent, haddressed⟩ := hinv.mails email hemail
    exact ⟨event, hkeeps.1 hevent, haddressed.of_stay hkeeps.2⟩

/-- auth-service tells of a user what is in its table. -/
theorem user_of_askAuth {users : Table UserEntity} {input : MailInput}
    {userId : String} {contact : UserContact}
    (hasked : askAuth auth users input userId = .ok contact) :
    ∃ user ∈ users.rows, user.id = userId ∧ contact.email = user.email ∧
      contact.name = user.name := by
  unfold askAuth at hasked
  cases hauth : input.auth with
  | some error => simp [hauth] at hasked
  | none =>
      simp only [hauth, Auth.getUser, Program.exec_ite, Program.exec_throw,
        Program.exec_bind, Program.exec_call, AuthWorld.answer] at hasked
      cases hshape : Auth.isUUID userId with
      | false => simp [hshape, ofAnswer] at hasked
      | true =>
          cases hfault : input.users with
          | some message => simp [hshape, hfault, ofAnswer] at hasked
          | none =>
              cases hget : users.get? userId with
              | none => simp [hshape, hfault, hget, ofAnswer] at hasked
              | some user =>
                  simp only [hshape, hfault, hget, Bool.true_eq_false, if_false,
                    Program.exec_pure, ofAnswer, Except.ok.injEq] at hasked
                  obtain ⟨huser, hid⟩ := Table.get?_eq_some_iff.mp hget
                  rw [← hasked]
                  exact ⟨user, huser, hid, rfl, rfl⟩

/-! ## Rules for the calls -/

section Calls

variable {world : MailWorld}

/-- A row that is saved and an email that is sent are due to a consumed
event. -/
theorem maintains_mail {call : EmailCall}
    {post : Except JsError call.Reply → MailWorld → Prop}
    (hsave : ∀ row, call = .save row → ∃ event ∈ world.consumed,
      DueTo runtime event row.ridden)
    (hsend : ∀ email, call = .send email → ∃ event ∈ world.consumed,
      AddressedBy runtime event world.users email)
    (hpost : ∀ input later, (mailPromise runtime).Keeps world later →
      post (answerMail auth call input later).1
        (answerMail auth call input later).2) :
    (Program.call call : EmailM call.Reply).Maintains (answerMail auth)
      (mailPromise runtime) world post := by
  rw [Program.maintains_call]
  intro input later hkeeps hinv
  refine ⟨⟨⟨?_, ?_⟩, ⟨List.Subset.refl _, .refl _⟩⟩, hpost input later hkeeps⟩
  · intro entry hentry
    change entry ∈ (EmailWorld.answer call _ later.emails).2.history at hentry
    rcases Email.history_answer call _ later.emails with hsame |
      ⟨row, hcall, hmore⟩
    · rw [hsame] at hentry
      exact hinv.rows entry hentry
    · rw [hmore, List.mem_append, List.mem_singleton] at hentry
      rcases hentry with hold | heq
      · exact hinv.rows entry hold
      · obtain ⟨event, hevent, hdue⟩ := hsave row hcall
        rw [heq]
        exact ⟨event, hkeeps.1 hevent, hdue⟩
  · intro email hemail
    change email ∈ later.outbox ++ handed call at hemail
    rcases List.mem_append.mp hemail with hold | hnew
    · exact hinv.mails email hold
    · cases call with
      | send sent =>
          rw [List.mem_singleton.mp hnew]
          obtain ⟨event, hevent, haddressed⟩ := hsend sent rfl
          exact ⟨event, hkeeps.1 hevent, haddressed.of_stay hkeeps.2⟩
      | _ => cases hnew

/-- A call that saves no row and sends no email. -/
def isQuiet : EmailCall → Bool
  | .save _ => false
  | .send _ => false
  | _ => true

theorem maintains_quiet {call : EmailCall} (hquiet : isQuiet call = true)
    {post : Except JsError call.Reply → MailWorld → Prop}
    (hpost : ∀ reply after, (mailPromise runtime).Keeps world after →
      post reply after) :
    (Program.call call : EmailM call.Reply).Maintains (answerMail auth)
      (mailPromise runtime) world post := by
  apply maintains_mail
  · intro row hcall
    rw [hcall] at hquiet
    cases hquiet
  · intro email hcall
    rw [hcall] at hquiet
    cases hquiet
  · intro input later hkeeps
    exact hpost _ _ hkeeps

variable {event : RideCompletedEvent} {rideId riderId : String}

theorem maintains_getUser
    {post : Except JsError (Option UserContact) → MailWorld → Prop}
    (hknown : ∀ contact after, (mailPromise runtime).Keeps world after →
      (∃ user ∈ after.users.rows, user.id = riderId ∧
        contact.email = user.email ∧ contact.name = user.name) →
      post (.ok (some contact)) after)
    (hunknown : ∀ after, (mailPromise runtime).Keeps world after →
      post (.ok none) after)
    (hfailed : ∀ error after, post (.error error) after) :
    (Email.UsersClient.getUser riderId).Maintains (answerMail auth)
      (mailPromise runtime) world post := by
  simp only [Email.UsersClient.getUser, Program.maintains_tryCatch,
    Program.maintains_bind]
  apply maintains_mail
  · intro row hcall
    cases hcall
  · intro email hcall
    cases hcall
  · intro input later hkeeps
    have hkept : (mailPromise runtime).Keeps world
        (answerMail auth (.getUser riderId) input later).2 := hkeeps
    have hreply : (answerMail auth (.getUser riderId) input later).1 =
        askAuth auth later.users input riderId := rfl
    rw [hreply]
    cases hasked : askAuth auth later.users input riderId with
    | ok contact =>
        exact hknown contact _ hkept (user_of_askAuth hasked)
    | error error =>
        simp only
        split
        · exact hunknown _ hkept
        · exact hfailed _ _

theorem maintains_createRow (hride : truthy event.rideId = some rideId)
    (hrider : truthy event.riderId = some riderId)
    (hevent : event ∈ world.consumed) (subject : String)
    (toEmail : Option String)
    {post : Except JsError (Option Email.SentEmailEntity) → MailWorld → Prop}
    (hpost : ∀ result after, (mailPromise runtime).Keeps world after →
      post result after) :
    (createRow runtime event rideId riderId subject toEmail).Maintains
      (answerMail auth) (mailPromise runtime) world post := by
  simp only [createRow, Email.EmailsRepository.save,
    Email.EmailsRepository.findOne, Program.maintains_tryCatch,
    Program.maintains_bind]
  apply maintains_mail
  · intro row hcall
    cases hcall
    exact ⟨event, hevent, rideId, riderId, hride, hrider, rfl⟩
  · intro email hcall
    cases hcall
  · intro input later hkeeps
    have hkept : (mailPromise runtime).Keeps world
        (answerMail auth (.save (pendingRow runtime event rideId riderId subject
          toEmail)) input later).2 := hkeeps
    generalize answerMail auth (.save (pendingRow runtime event rideId riderId
      subject toEmail)) input later = answered at hkept ⊢
    obtain ⟨reply, after⟩ := answered
    cases reply with
    | ok row => exact hpost _ _ hkept
    | error error =>
        simp only
        split
        · apply maintains_quiet rfl
          intro found last hlast
          exact hpost _ _ ((mailPromise runtime).trans hkept hlast)
        · exact hpost _ _ hkept

theorem maintains_recordFailure (row : Option Email.SentEmailEntity)
    (error : JsError) :
    (recordFailure row error).Maintains (answerMail auth) (mailPromise runtime)
      world fun _ _ => True := by
  cases row with
  | none => trivial
  | some row =>
      simp only [recordFailure, Email.EmailService.deref,
        Email.EmailsRepository.update, Program.maintains_bind,
        Program.maintains_pure]
      apply maintains_quiet rfl
      intro reply after _
      cases reply <;> trivial

theorem maintains_recordUserNotFound (row : Option Email.SentEmailEntity) :
    (Email.EmailService.recordUserNotFound row).Maintains (answerMail auth)
      (mailPromise runtime) world fun _ _ => True := by
  cases row with
  | none => trivial
  | some row =>
      simp only [Email.EmailService.recordUserNotFound,
        Email.EmailService.deref, Email.EmailsRepository.update,
        Program.maintains_bind, Program.maintains_pure]
      apply maintains_quiet rfl
      intro reply after _
      trivial

theorem maintains_recordSent (now : Instant)
    (row : Option Email.SentEmailEntity) (user : UserContact)
    (messageId : String) :
    (Email.EmailService.recordSent now row user messageId).Maintains
      (answerMail auth) (mailPromise runtime) world fun _ _ => True := by
  cases row with
  | none => trivial
  | some row =>
      simp only [Email.EmailService.recordSent, Email.EmailService.deref,
        Email.EmailsRepository.update, Program.maintains_bind,
        Program.maintains_pure]
      apply maintains_quiet rfl
      intro reply after _
      trivial

theorem maintains_sendAndRecord (hride : truthy event.rideId = some rideId)
    (hrider : truthy event.riderId = some riderId)
    (hevent : event ∈ world.consumed) (now : Instant)
    (row : Option Email.SentEmailEntity) {contact : UserContact}
    (subject : String)
    (hcontact : ∃ known ∈ world.users.rows, known.id = riderId ∧
      contact.email = known.email ∧ contact.name = known.name) :
    (sendAndRecord runtime now row contact
      (toReceipt runtime event rideId contact.name) subject).Maintains
      (answerMail auth) (mailPromise runtime) world fun _ _ => True := by
  obtain ⟨known, hknown, hid, haddress, hname⟩ := hcontact
  simp only [sendAndRecord, Email.SesService.send, Program.maintains_bind]
  generalize hreceipt : toReceipt runtime event rideId contact.name = receipt
  cases hhtml : Email.rideReceiptHtml runtime receipt with
  | error error => trivial
  | ok html =>
      cases htext : Email.rideReceiptText runtime receipt with
      | error error => trivial
      | ok text =>
          simp only [Email.EmailService.ofExcept, Program.maintains_pure]
          apply maintains_mail
          · intro row hcall
            cases hcall
          · intro email hcall
            cases hcall
            refine ⟨event, hevent, rideId, riderId, hride, hrider, known, hknown,
              hid, haddress, ?_⟩
            rw [← hname, hreceipt]
            exact ⟨hhtml, htext⟩
          · intro input later _
            cases (answerMail auth _ input later).1 with
            | error error => trivial
            | ok messageId => exact maintains_recordSent now row contact _

/-- Once it has its row, a delivery updates it and sends the receipt. -/
theorem maintains_finish (hride : truthy event.rideId = some rideId)
    (hrider : truthy event.riderId = some riderId)
    (hevent : event ∈ world.consumed) (now : Instant)
    (row : Option Email.SentEmailEntity) (user : Option UserContact)
    (subject : String)
    (huser : ∀ contact, user = some contact →
      ∃ known ∈ world.users.rows, known.id = riderId ∧
        contact.email = known.email ∧ contact.name = known.name) :
    (finish runtime now row user
      (toReceipt runtime event rideId
        ((user.map UserContact.name).getD "there")) subject).Maintains
      (answerMail auth) (mailPromise runtime) world fun _ _ => True := by
  cases user with
  | none => exact maintains_recordUserNotFound row
  | some contact =>
      have hsend : (sendAndRecord runtime now row contact
          (toReceipt runtime event rideId contact.name) subject).Maintains
            (answerMail auth) (mailPromise runtime) world fun _ _ => True :=
        maintains_sendAndRecord hride hrider hevent now row subject
          (huser contact rfl)
      simp only [finish, deliver, Program.maintains_tryCatch]
      refine hsend.mono ?_
      intro result after _
      cases result with
      | ok value => trivial
      | error error => exact maintains_recordFailure row error

theorem maintains_afterUser (hride : truthy event.rideId = some rideId)
    (hrider : truthy event.riderId = some riderId)
    (hevent : event ∈ world.consumed) {now : Instant}
    {found : Option Email.SentEmailEntity} {user : Option UserContact}
    (huser : ∀ contact, user = some contact →
      ∃ known ∈ world.users.rows, known.id = riderId ∧
        contact.email = known.email ∧ contact.name = known.name) :
    (afterUser runtime now event rideId riderId found user).Maintains
      (answerMail auth) (mailPromise runtime) world fun _ _ => True := by
  unfold afterUser
  cases found with
  | some row =>
      simp only [Program.maintains_bind, Program.maintains_pure]
      exact maintains_finish hride hrider hevent now (some row) user _ huser
  | none =>
      simp only [Program.maintains_bind]
      apply maintains_createRow hride hrider hevent
      intro result after hkeeps
      cases result with
      | error error => trivial
      | ok row =>
          apply maintains_finish hride hrider (hkeeps.1 hevent) now row user
          intro contact hcontact
          obtain ⟨known, hknown, hid, haddress, hname⟩ := huser contact hcontact
          obtain ⟨later, hlater, hlaterId, hlaterEmail, hlaterName⟩ :=
            hkeeps.2 known hknown
          exact ⟨later, hlater, hlaterId.trans hid, haddress.trans hlaterEmail.symm,
            hname.trans hlaterName.symm⟩

theorem maintains_sendRideReceipt (hevent : event ∈ world.consumed)
    (now : Instant) :
    (sendRideReceipt runtime now event).Maintains (answerMail auth)
      (mailPromise runtime) world fun _ _ => True := by
  unfold sendRideReceipt
  cases hride : truthy event.rideId with
  | none => trivial
  | some rideId =>
      cases hrider : truthy event.riderId with
      | none => trivial
      | some riderId =>
          simp only [Email.EmailsRepository.findOne, Program.maintains_bind]
          apply maintains_quiet rfl
          intro found after hfound
          cases found with
          | error error => trivial
          | ok found =>
              simp only
              split
              · trivial
              · rw [Program.maintains_bind]
                apply maintains_getUser
                · intro contact asked hasked hknown
                  have hstill : event ∈ asked.consumed :=
                    hasked.1 (hfound.1 hevent)
                  apply maintains_afterUser hride hrider hstill
                  intro other hother
                  cases hother
                  exact hknown
                · intro asked hasked
                  have hstill : event ∈ asked.consumed :=
                    hasked.1 (hfound.1 hevent)
                  apply maintains_afterUser hride hrider hstill
                  intro other hother
                  cases hother
                · intro error asked
                  trivial

end Calls

/-! ## The system -/

structure Receipts where
  traffic : Traffic
  mail : MailWorld
  delivering : List (EmailM Unit)

/-- A delivery names a message by its position in the log.  Users register,
and change what is not their address or name. -/
inductive ReceiptEvent where
  | traffic (event : TrafficEvent)
  | usersChanged (users : Table UserEntity)
  | rideCompleted (position : ℕ) (now : Instant)
  | mailCall (index : ℕ) (input : MailInput)

/-- The event that arrives. -/
def received (event : RideUpdated) : Option RideCompletedEvent :=
  RideCompletedEvent.ofPayload (parse (stringify (updateObject event)))

namespace Receipts

def initial : Receipts where
  traffic := .initial
  mail := ⟨Table.empty, ⟨Table.empty, []⟩, [], []⟩
  delivering := []

def step (uuid : UuidType) (deployment : Deployment) (runtime : JsRuntime)
    (auth : AuthRuntime) (system : Receipts) : ReceiptEvent → Option Receipts
  | .traffic event =>
      (system.traffic.step uuid deployment event).map fun traffic =>
        { system with traffic := traffic }
  | .usersChanged users =>
      if ContactsStay system.mail.users users then
        some { system with mail := { system.mail with users := users } }
      else none
  | .rideCompleted position now =>
      match system.traffic.message position with
      | some (.rideCompleted event) =>
          (received event).map fun arrived =>
            { system with
              mail :=
                { system.mail with consumed := system.mail.consumed ++ [arrived] }
              delivering := system.delivering ++
                [Email.EmailService.eachMessage runtime now (some arrived)] }
      | _ => none
  | .mailCall index input =>
      (Program.advanceAt (answerMail auth) system.delivering index input
        system.mail).map fun outcome =>
          { system with delivering := outcome.1, mail := outcome.2 }

end Receipts

/-- What was consumed is in the log, and everything under way keeps its
promise. -/
structure ReceiptsSound (uuid : UuidType) (deployment : Deployment)
    (runtime : JsRuntime) (auth : AuthRuntime) (system : Receipts) : Prop where
  traffic : TrafficSound uuid deployment system.traffic
  mail : MailInv runtime system.mail
  consumed : ∀ arrived ∈ system.mail.consumed,
    ∃ record ∈ system.traffic.world.published, ∃ event,
      record.message = .rideCompleted event ∧ received event = some arrived
  delivering : ∀ program ∈ system.delivering,
    program.Safe (answerMail auth) (mailPromise runtime) system.mail

variable {uuid : UuidType} {deployment : Deployment}

theorem ReceiptsSound.initial :
    ReceiptsSound uuid deployment runtime auth Receipts.initial := by
  constructor
  · exact TrafficSound.initial
  · constructor
    · intro entry hentry
      cases hentry
    · intro email hemail
      cases hemail
  · intro arrived harrived
    cases harrived
  · intro program hprogram
    cases hprogram

theorem safe_eachMail {world : MailWorld} {event : RideCompletedEvent}
    (hevent : event ∈ world.consumed) (now : Instant) :
    (Email.EmailService.eachMessage runtime now (some event)).Safe
      (answerMail auth) (mailPromise runtime) world := by
  unfold Program.Safe
  simp only [Email.EmailService.eachMessage, Kafka.eachMessage,
    Program.maintains_tryCatch]
  have hhandler : (sendRideReceipt runtime now event).Maintains
      (answerMail auth) (mailPromise runtime) world fun _ _ => True :=
    maintains_sendRideReceipt hevent now
  refine hhandler.mono ?_
  intro result after _
  cases result <;> trivial

theorem ReceiptsSound.step {system next : Receipts} {event : ReceiptEvent}
    (hsound : ReceiptsSound uuid deployment runtime auth system)
    (hstep : system.step uuid deployment runtime auth event = some next) :
    ReceiptsSound uuid deployment runtime auth next := by
  cases event with
  | traffic event =>
      obtain ⟨traffic, htraffic, heq⟩ := Option.map_eq_some_iff.mp hstep
      subst heq
      refine ⟨hsound.traffic.step htraffic, hsound.mail, ?_, hsound.delivering⟩
      intro arrived harrived
      obtain ⟨record, hrecord, hevent⟩ := hsound.consumed arrived harrived
      exact ⟨record, (published_step htraffic).subset hrecord, hevent⟩
  | usersChanged users =>
      simp only [Receipts.step] at hstep
      split at hstep
      · rename_i hstay
        cases hstep
        have hkeeps : (mailPromise runtime).Keeps system.mail
            { system.mail with users := users } :=
          ⟨List.Subset.refl _, hstay⟩
        exact ⟨hsound.traffic, hsound.mail.of_keeps hkeeps rfl rfl,
          hsound.consumed,
          Program.forall_safe_of_keeps hsound.delivering hkeeps⟩
      · cases hstep
  | rideCompleted position now =>
      simp only [Receipts.step] at hstep
      split at hstep
      · rename_i event hmessage
        obtain ⟨arrived, harrived, heq⟩ := Option.map_eq_some_iff.mp hstep
        subst heq
        obtain ⟨record, hrecord, hevent⟩ := record_of_message hmessage
        have hkeeps : (mailPromise runtime).Keeps system.mail
            { system.mail with consumed := system.mail.consumed ++ [arrived] } :=
          ⟨List.subset_append_left _ _, .refl _⟩
        refine ⟨hsound.traffic, hsound.mail.of_keeps hkeeps rfl rfl, ?_, ?_⟩
        · intro other hother
          rcases List.mem_append.mp hother with hold | hnew
          · exact hsound.consumed other hold
          · rw [List.mem_singleton.mp hnew]
            exact ⟨record, hrecord, event, hevent, harrived⟩
        · apply Program.forall_safe_append
            (Program.forall_safe_of_keeps hsound.delivering hkeeps)
          apply safe_eachMail
          simp
      · cases hstep
  | mailCall index input =>
      obtain ⟨⟨delivering, mail⟩, hadvance, heq⟩ :=
        Option.map_eq_some_iff.mp hstep
      subst heq
      obtain ⟨hkept, hdelivering⟩ :=
        Program.forall_safe_advanceAt hsound.delivering hsound.mail hadvance
      refine ⟨hsound.traffic, hkept.inv, ?_, hdelivering⟩
      have hconsumed : mail.consumed = system.mail.consumed :=
        Program.rel_of_advanceAt
          (fun before after => after.consumed = before.consumed)
          (fun call => rfl) hadvance
      rw [hconsumed]
      exact hsound.consumed

/-! ## Recipients -/

/-- The receipt of a completed ride, to the address of its rider. -/
def IsReceiptOf (uuid : UuidType) (runtime : JsRuntime)
    (system : Receipts) (email : OutgoingEmail) (ride : RideEntity) : Prop :=
  system.traffic.world.rides.get? ride.id = some ride ∧
    ∃ record ∈ system.traffic.world.published, ∃ event arrived,
      record.message = .rideCompleted event ∧ received event = some arrived ∧
      uuid.input event.rideId = some ride.id ∧
      ∃ user ∈ system.mail.users.rows, uuid.input user.id = some ride.riderId ∧
        email.toAddress = user.email ∧
        Renders runtime (toReceipt runtime arrived event.rideId user.name) email

theorem names_of_consumed {system : Receipts} {arrived : RideCompletedEvent}
    {rideId riderId : String}
    (hsound : ReceiptsSound uuid deployment runtime auth system)
    (harrived : arrived ∈ system.mail.consumed)
    (hride : truthy arrived.rideId = some rideId)
    (hrider : truthy arrived.riderId = some riderId) :
    ∃ record ∈ system.traffic.world.published, ∃ event,
      record.message = .rideCompleted event ∧ received event = some arrived ∧
      event.rideId = rideId ∧ ∃ ride, uuid.input rideId = some ride.id ∧
        uuid.input riderId = some ride.riderId ∧
        system.traffic.world.rides.get? ride.id = some ride := by
  obtain ⟨record, hrecord, event, hevent, hreceived⟩ :=
    hsound.consumed arrived harrived
  have hgrounded := hsound.traffic.inv.messages record hrecord
  rw [hevent] at hgrounded
  obtain ⟨⟨ride, hrideId, hriderId, hrow⟩, -⟩ := hgrounded
  obtain ⟨read, hread, hreadRide, hreadRider⟩ := ofPayload_updated event
  have hsame : read = arrived := Option.some.inj (hread.symm.trans hreceived)
  subst hsame
  obtain ⟨hsomeRide, -⟩ := truthy_eq_some_iff.mp hride
  obtain ⟨hsomeRider, -⟩ := truthy_eq_some_iff.mp hrider
  have hrideEq : event.rideId = rideId :=
    Option.some.inj (hreadRide.symm.trans hsomeRide)
  have hriderEq : event.riderId = riderId :=
    Option.some.inj (hreadRider.symm.trans hsomeRider)
  subst hrideEq hriderEq
  exact ⟨record, hrecord, event, hevent, hreceived, rfl, ride, hrideId, hriderId,
    hrow⟩

/-- Whatever the schedule, the failures and the redeliveries: every receipt
that SES is handed is that of a completed ride in the table and goes to the
address of its rider, and the history of a user shows only rides of this
user. -/
theorem receipts_reach_their_rider (uuid : UuidType) (deployment : Deployment)
    (runtime : JsRuntime) (auth : AuthRuntime) {events : List ReceiptEvent}
    {last : Receipts}
    (hrun : run (Receipts.step uuid deployment runtime auth) Receipts.initial
      events = some last) :
    (∀ email ∈ last.mail.outbox, ∃ ride,
        IsReceiptOf uuid runtime last email ride) ∧
      ∀ userId, ∀ entry ∈ last.mail.emails.getMyReceipts userId,
        ∃ ride, last.traffic.world.rides.get? ride.id = some ride ∧
          uuid.input entry.rideId = some ride.id ∧
          uuid.input userId = some ride.riderId := by
  have hsound : ReceiptsSound uuid deployment runtime auth last :=
    invariant_of_step (fun _ _ _ hsound hstep => hsound.step hstep)
      ReceiptsSound.initial hrun
  constructor
  · intro email hemail
    obtain ⟨arrived, harrived, rideId, riderId, hride, hrider, user, huser, hid,
      haddress, hrenders⟩ := hsound.mail.mails email hemail
    obtain ⟨record, hrecord, event, hevent, hreceived, hrideEq, ride, hrideId,
      hriderId, hrow⟩ := names_of_consumed hsound harrived hride hrider
    subst hrideEq hid
    exact ⟨ride, hrow, record, hrecord, event, arrived, hevent, hreceived,
      hrideId, user, huser, hriderId, haddress, hrenders⟩
  · intro userId entry hentry
    obtain ⟨arrived, harrived, rideId, riderId, hride, hrider, heq⟩ :=
      hsound.mail.rows _ (Email.mem_history_of_mem_getMyReceipts hentry)
    obtain ⟨record, hrecord, event, hevent, hreceived, hrideEq, ride, hrideId,
      hriderId, hrow⟩ := names_of_consumed hsound harrived hride hrider
    obtain ⟨huserId, hentryRide⟩ := Prod.mk.inj heq
    refine ⟨ride, hrow, ?_, ?_⟩
    · rw [hentryRide]
      exact hrideId
    · rw [huserId]
      exact hriderId

/-! ## One receipt -/

def ann : UserEntity where
  id := "8b0c6f1e-2d3a-4b5c-8d7e-aabbccddeeff"
  email := "ann@example.org"
  password := ""
  name := "Ann"
  role := .rider
  photoKey := none

/-- A ride is requested and completed, and its event is delivered. -/
def annRides : List ReceiptEvent :=
  [.usersChanged ⟨[ann], List.pairwise_singleton _ _⟩,
    .traffic (.requestRide "4f9d1c02-77aa-4e5b-9c1d-0a1b2c3d4e5f" 0 0
      { riderId := "8b0c6f1e-2d3a-4b5c-8d7e-aabbccddeeff"
        pickupLat := 0, pickupLng := 0
        destinationLat := 1, destinationLng := 0 }),
    .traffic (.rideCall 0 none), .traffic (.rideCall 0 none),
    .traffic (.updateStatus 0 "4f9d1c02-77aa-4e5b-9c1d-0a1b2c3d4e5f"
      ⟨.completed, none⟩),
    .traffic (.rideCall 1 none), .traffic (.rideCall 1 none),
    .traffic (.rideCall 1 none),
    .rideCompleted 1 0,
    .mailCall 0 {}, .mailCall 0 {}, .mailCall 0 {}, .mailCall 0 {},
    .mailCall 0 {}]

theorem ann_gets_receipt :
    ∃ last, run (Receipts.step hyphenated Dispatch.flatDeployment isoRuntime
        Auth.plainRuntime) Receipts.initial annRides = some last ∧
      last.mail.outbox.map OutgoingEmail.toAddress = ["ann@example.org"] ∧
      (last.mail.emails.getMyReceipts ann.id).length = 1 ∧
      (∀ email ∈ last.mail.outbox, ∃ ride,
        IsReceiptOf hyphenated isoRuntime last email ride) ∧
      ∀ userId, ∀ entry ∈ last.mail.emails.getMyReceipts userId,
        ∃ ride, last.traffic.world.rides.get? ride.id = some ride ∧
          hyphenated.input entry.rideId = some ride.id ∧
          hyphenated.input userId = some ride.riderId := by
  have hcheck : (run (Receipts.step hyphenated Dispatch.flatDeployment
      isoRuntime Auth.plainRuntime) Receipts.initial annRides).any (fun last =>
        decide (last.mail.outbox.map OutgoingEmail.toAddress =
          ["ann@example.org"] ∧
          (last.mail.emails.getMyReceipts ann.id).length = 1)) = true := by
    decide +kernel
  obtain ⟨last, hrun, hdone⟩ := exists_of_run_any hcheck
  obtain ⟨houtbox, hhistory⟩ := of_decide_eq_true hdone
  exact ⟨last, hrun, houtbox, hhistory,
    receipts_reach_their_rider hyphenated Dispatch.flatDeployment isoRuntime
      Auth.plainRuntime hrun⟩

end FakeBolt.Audience
