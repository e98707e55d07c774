import FakeBolt.AwaitTriples
import FakeBolt.EmailService

/-!
# Receipts, one execution at a time

What executions of `sendRideReceipt` that do not overlap leave behind: how the
row of a ride keeps count of the calls of SES, and which failures let the
consumer commit the offset.
-/

namespace FakeBolt.Email

open Await Kafka Store EmailService

def EmailWorld.receipt (world : EmailWorld) (rideId : String) :
    Option SentEmailEntity :=
  world.rows.find? fun row => row.rideId = rideId ∧ row.type = .rideReceipt

theorem isSettled_iff {row : SentEmailEntity} :
    isSettled row = true ↔ row.status = .sent ∨
      (row.status = .failed ∧ row.lastError = some USER_NOT_FOUND) := by
  simp [isSettled]

theorem receipt_update {world : EmailWorld} {rideId : String}
    {row : SentEmailEntity} (hrow : world.receipt rideId = some row)
    (patch : SentEmailPatch) :
    EmailWorld.receipt
        { world with rows := world.rows.update row.id patch } rideId =
      some (patch.apply row) :=
  Table.find?_update_key patch (fun _ => rfl) hrow

theorem freshId_ne {rows : Table SentEmailEntity} {row : SentEmailEntity}
    (hrow : row ∈ rows.rows) : row.id ≠ freshId rows := by
  have hbound : ∀ ids : List ℕ, ∀ id ∈ ids, id ≤ ids.foldr max 0 := by
    intro ids
    induction ids with
    | nil => simp
    | cons first ids ih =>
        intro id hid
        rw [List.foldr_cons]
        rcases List.mem_cons.mp hid with heq | hrest
        · exact heq ▸ le_max_left _ _
        · exact (ih id hrest).trans (le_max_right _ _)
  have hle := hbound _ row.id (List.mem_map_of_mem hrow)
  unfold freshId
  omega

/-! ## What the parts of an execution ensure -/

variable {allowed : EmailInput → Prop} {world : EmailWorld} {rideId : String}

/-- Inserting the first row of a ride either stores it or fails for another
reason than the unique index. -/
theorem insertRow_of_none {row : SentEmailEntity}
    (hnone : world.receipt rideId = none) (hride : row.rideId = rideId) :
    (∃ error, isUniqueViolation error = false ∧
      insertRow row world = (.error error, world)) ∨
    ∃ rows, insertRow row world =
        (.ok { row with id := freshId world.rows }, { world with rows := rows }) ∧
      EmailWorld.receipt { world with rows := rows } rideId =
        some { row with id := freshId world.rows } := by
  unfold insertRow
  split
  · right
    have hfound : ∀ stored ∈ world.rows.rows, stored.rideId ≠ rideId := by
      intro stored hstored heq
      have hnot := List.find?_eq_none.mp hnone stored hstored
      apply hnot
      cases stored.type
      simpa using heq
    cases hinsert :
        world.rows.insert? { row with id := freshId world.rows } with
    | none =>
        obtain ⟨stored, hstored, hclash⟩ :=
          Table.insert?_eq_none_iff.mp hinsert
        simp only [Indexed.clash, Bool.or_eq_true, Bool.and_eq_true,
          beq_iff_eq] at hclash
        rcases hclash with hid | ⟨hsame, -⟩
        · exact (freshId_ne hstored hid).elim
        · rw [hride] at hsame
          exact (hfound stored hstored hsame).elim
    | some rows =>
        refine ⟨rows, rfl, Table.find?_insert? hinsert hnone ?_⟩
        cases row.type
        simpa using hride
  · left
    exact ⟨_, rfl, rfl⟩

theorem ensures_createRow (runtime : JsRuntime) (event : RideCompletedEvent)
    (riderId subject : String) (toEmail : Option String)
    (hnone : world.receipt rideId = none) :
    (createRow runtime event rideId riderId subject toEmail).Ensures
      EmailWorld.answer allowed world fun result after =>
        match result with
        | .ok row => ∃ created, row = some created ∧
            after.receipt rideId = some created ∧ created.status = .pending ∧
              created.attempts = 0 ∧ after.sends = world.sends
        | .error _ => after = world := by
  simp only [createRow, EmailsRepository.save, Program.ensures_tryCatch,
    Program.ensures_bind, Program.ensures_call, Program.ensures_pure]
  intro input _
  cases hdb : input.db with
  | some message => simp [EmailWorld.answer, hdb, isUniqueViolation]
  | none =>
      simp only [EmailWorld.answer, hdb]
      have hride : (pendingRow runtime event rideId riderId subject
          toEmail).rideId = rideId := rfl
      rcases insertRow_of_none hnone hride with ⟨error, hother, hinsert⟩ |
        ⟨rows, hinsert, hreceipt⟩
      · simp [hinsert, hother]
      · rw [hinsert]
        exact ⟨_, rfl, hreceipt, rfl, rfl, rfl⟩

theorem ensures_getUser {userId : String}
    {post : Except JsError (Option UserContact) → EmailWorld → Prop}
    (hok : ∀ user, post (.ok user) world)
    (herror : ∀ error, post (.error error) world) :
    (UsersClient.getUser userId).Ensures EmailWorld.answer allowed world
      post := by
  simp only [UsersClient.getUser, Program.ensures_tryCatch,
    Program.ensures_bind, Program.ensures_call, Program.ensures_pure,
    EmailWorld.answer]
  intro input _
  cases input.auth with
  | ok user => exact hok (some user)
  | error error =>
      simp only
      split
      · exact hok none
      · exact herror _

@[simp] theorem ensures_ofExcept {α : Type} (result : Except JsError α)
    (post : Except JsError α → EmailWorld → Prop) :
    (EmailService.ofExcept result).Ensures EmailWorld.answer allowed world
      post ↔ post result world := by
  cases result <;> rfl

def Recorded (send : Except JsError String) (next : SentEmailEntity) : Prop :=
  match send with
  | .ok messageId => next.status = .sent ∧
      next.sesMessageId = some messageId ∧ next.lastError = none
  | .error _ => next.status = .failed

/-- Without failures of the database, a delivery counts its call of SES and
records how it ended. -/
theorem ensures_deliver (runtime : JsRuntime) (now : Instant)
    {row : SentEmailEntity} (user : UserContact) {receipt : RideReceipt}
    (subject : String) (hdb : ∀ input, allowed input → input.db = none)
    (hrow : world.receipt rideId = some row)
    (hprintable : receipt.Printable) :
    (deliver runtime now (some row) user receipt subject).Ensures
      EmailWorld.answer allowed world fun _ after =>
        ∃ send next, after.sends = world.sends ++ [send] ∧
          after.receipt rideId = some next ∧
          next.attempts = row.attempts + 1 ∧ Recorded send next := by
  obtain ⟨⟨html, hhtml⟩, text, htext⟩ := hprintable.bodies runtime
  simp only [deliver, sendAndRecord, recordSent, recordFailure, hhtml, htext,
    ensures_ofExcept, SesService.send, deref, EmailsRepository.update, Program.ensures_tryCatch, Program.ensures_bind,
    Program.ensures_call, Program.ensures_pure, Program.ensures_throw,
    EmailWorld.answer]
  intro input _
  have hkept : EmailWorld.receipt
      { world with sends := world.sends ++ [input.ses] } rideId = some row :=
    hrow
  cases hses : input.ses with
  | ok messageId =>
      simp only
      intro recording hrecording
      rw [hdb recording hrecording]
      rw [hses] at hkept
      exact ⟨_, _, rfl, receipt_update hkept _, rfl, rfl, rfl, rfl⟩
  | error error =>
      simp only
      intro recording hrecording
      rw [hdb recording hrecording]
      rw [hses] at hkept
      exact ⟨_, _, rfl, receipt_update hkept _, rfl, rfl⟩

theorem ensures_recordFailure (row : Option SentEmailEntity)
    (error : JsError) {post : Except JsError Unit → EmailWorld → Prop}
    (hfailed : ∀ after thrown, post (.error thrown) after) :
    (recordFailure row error).Ensures EmailWorld.answer allowed world
      post := by
  cases row with
  | none => exact hfailed _ _
  | some row =>
      simp only [recordFailure, deref, EmailsRepository.update,
        Program.ensures_bind, Program.ensures_call, Program.ensures_pure,
        Program.ensures_throw]
      intro recording _
      cases (EmailWorld.answer _ recording world).1 <;> exact hfailed _ _

/-- Whatever fails, a delivery that returns normally has recorded the receipt
as sent. -/
theorem ensures_deliver_sent (runtime : JsRuntime) (now : Instant)
    {row : SentEmailEntity} (user : UserContact) (receipt : RideReceipt)
    (subject : String) (hrow : world.receipt rideId = some row) :
    (deliver runtime now (some row) user receipt subject).Ensures
      EmailWorld.answer allowed world fun result after =>
        result = .ok () → ∃ next, after.receipt rideId = some next ∧
          next.status = .sent := by
  have hbody : (sendAndRecord runtime now (some row) user receipt
      subject).Ensures EmailWorld.answer allowed world fun result after =>
        result = .ok () → ∃ next, after.receipt rideId = some next ∧
          next.status = .sent := by
    simp only [sendAndRecord, recordSent, ensures_ofExcept, SesService.send,
      deref,
      EmailsRepository.update, Program.ensures_bind, Program.ensures_call,
      Program.ensures_pure]
    cases rideReceiptHtml runtime receipt with
    | error error => simp
    | ok html =>
        cases rideReceiptText runtime receipt with
        | error error => simp
        | ok text =>
            simp only [EmailWorld.answer]
            intro input _
            cases input.ses with
            | error error => simp
            | ok messageId =>
                simp only
                intro recording _
                cases recording.db with
                | some message => simp
                | none =>
                    have hkept : EmailWorld.receipt
                        { world with
                          sends := world.sends ++ [.ok messageId] }
                        rideId = some row := hrow
                    intro _
                    exact ⟨_, receipt_update hkept _, rfl⟩
  unfold deliver
  rw [Program.ensures_tryCatch]
  apply hbody.mono
  intro result after hsent
  cases result with
  | ok value => exact hsent
  | error error => exact ensures_recordFailure _ _ (by simp)

/-! ## The invariant -/

/-- The row counts the calls of SES; it is sent exactly when the last of them,
and no other, succeeded. -/
def Bookkept (rideId : String) (world : EmailWorld) : Prop :=
  match world.receipt rideId with
  | none => world.sends = []
  | some row => row.attempts = world.sends.length ∧
      ((row.status = .failed ∧ ∀ id, .ok id ∉ world.sends) ∨
        (row.status = .sent ∧ row.lastError = none ∧
          ∃ earlier id, world.sends = earlier ++ [.ok id] ∧
            row.sesMessageId = some id ∧ ∀ other, .ok other ∉ earlier))

theorem bookkept_of_some {row : SentEmailEntity}
    (hrow : world.receipt rideId = some row) :
    Bookkept rideId world ↔ row.attempts = world.sends.length ∧
      ((row.status = .failed ∧ ∀ id, .ok id ∉ world.sends) ∨
        (row.status = .sent ∧ row.lastError = none ∧
          ∃ earlier id, world.sends = earlier ++ [.ok id] ∧
            row.sesMessageId = some id ∧ ∀ other, .ok other ∉ earlier)) := by
  unfold Bookkept
  rw [hrow]

theorem bookkept_of_send {before : List (Except JsError String)}
    {send : Except JsError String} {next : SentEmailEntity}
    (hunsent : ∀ id, .ok id ∉ before)
    (hsends : world.sends = before ++ [send])
    (hnext : world.receipt rideId = some next)
    (hattempts : next.attempts = before.length + 1)
    (hrecorded : Recorded send next) :
    Bookkept rideId world := by
  rw [bookkept_of_some hnext, hsends]
  refine ⟨by simp [hattempts], ?_⟩
  cases send with
  | error error =>
      refine Or.inl ⟨hrecorded, ?_⟩
      intro id hmem
      simp only [List.mem_append, List.mem_singleton, reduceCtorEq,
        or_false] at hmem
      exact hunsent id hmem
  | ok messageId =>
      obtain ⟨hstatus, hid, herror⟩ := hrecorded
      exact Or.inr ⟨hstatus, herror, before, messageId, rfl, hid, hunsent⟩

def RideCompletedEvent.Parseable (runtime : JsRuntime)
    (event : RideCompletedEvent) : Prop :=
  (toReceipt runtime event "" "").Printable

instance (runtime : JsRuntime) (event : RideCompletedEvent) :
    Decidable (event.Parseable runtime) :=
  inferInstanceAs (Decidable (toReceipt runtime event "" "").Printable)

theorem RideCompletedEvent.Parseable.printable {runtime : JsRuntime}
    {event : RideCompletedEvent} (hparse : event.Parseable runtime)
    (rideId name : String) : (toReceipt runtime event rideId name).Printable :=
  hparse

/-- With a row at hand, whether it was found or just created. -/
theorem ensures_finish (runtime : JsRuntime) (now : Instant)
    {row : SentEmailEntity} (user : Option UserContact) {receipt : RideReceipt}
    (subject : String) (hdb : ∀ input, allowed input → input.db = none)
    (hprintable : receipt.Printable) (hrow : world.receipt rideId = some row)
    (hattempts : row.attempts = world.sends.length)
    (hunsent : ∀ id, .ok id ∉ world.sends) :
    (finish runtime now (some row) user receipt subject).Ensures
      EmailWorld.answer allowed world fun _ after => Bookkept rideId after := by
  cases user with
  | none =>
      simp only [finish, recordUserNotFound, deref, EmailsRepository.update,
        Program.ensures_bind, Program.ensures_call, Program.ensures_pure,
        EmailWorld.answer]
      intro input hinput
      rw [hdb input hinput]
      rw [bookkept_of_some (receipt_update hrow _)]
      exact ⟨hattempts, Or.inl ⟨rfl, hunsent⟩⟩
  | some user =>
      have hdelivered := ensures_deliver runtime now user subject hdb hrow
        hprintable
      apply hdelivered.mono
      rintro _ after ⟨send, next, hsends, hnext, hcount, hrecorded⟩
      rw [hattempts] at hcount
      exact bookkept_of_send hunsent hsends hnext hcount hrecorded

/-- Without failures of the database, what follows the answer of auth-service
keeps the books of a receipt that is not settled. -/
theorem ensures_afterUser (runtime : JsRuntime) (now : Instant)
    {event : RideCompletedEvent} {riderId : String}
    {user : Option UserContact}
    (hdb : ∀ input, allowed input → input.db = none)
    (hparse : event.Parseable runtime) (hbook : Bookkept rideId world)
    (hopen : ∀ row, world.receipt rideId = some row → isSettled row ≠ true) :
    (afterUser runtime now event rideId riderId (world.receipt rideId)
      user).Ensures EmailWorld.answer allowed world
        fun _ after => Bookkept rideId after := by
  unfold afterUser
  cases hrow : world.receipt rideId with
  | some row =>
      rw [Program.ensures_bind, Program.ensures_pure]
      obtain ⟨hattempts, hstatus⟩ := (bookkept_of_some hrow).mp hbook
      have hunsent : ∀ id, .ok id ∉ world.sends := by
        rcases hstatus with ⟨-, hnone⟩ | ⟨hsent, -⟩
        · exact hnone
        · have hsettled : isSettled row = true := by
            simp [isSettled, hsent]
          exact (hopen row hrow hsettled).elim
      exact ensures_finish runtime now user _ hdb (hparse.printable _ _) hrow
        hattempts hunsent
  | none =>
      have hempty : world.sends = [] := by
        unfold Bookkept at hbook
        rw [hrow] at hbook
        exact hbook
      rw [Program.ensures_bind]
      apply (ensures_createRow runtime event riderId _ _ hrow).mono
      intro result after hcreated
      cases result with
      | error error =>
          simp only at hcreated ⊢
          rw [hcreated]
          exact hbook
      | ok row =>
          obtain ⟨created, heq, hreceipt, -, hattempts, hsends⟩ := hcreated
          subst heq
          rw [hempty] at hsends
          have hcount : created.attempts = after.sends.length := by
            rw [hattempts, hsends]
            rfl
          have hunsent : ∀ id, .ok id ∉ after.sends := by
            simp [hsends]
          exact ensures_finish runtime now user _ hdb (hparse.printable _ _)
            hreceipt hcount hunsent

/-! ## Whole executions -/

theorem answer_findOne {input : EmailInput} (hdb : input.db = none) :
    EmailWorld.answer (.findOne rideId .rideReceipt) input world =
      (.ok (world.receipt rideId), world) := by
  cases input with
  | mk db auth ses =>
      cases hdb
      rfl

/-- The ways an execution begins: it skips the event, fails, finds a settled
receipt, or goes on with the answer of auth-service. -/
theorem ensures_sendRideReceipt (runtime : JsRuntime) (now : Instant)
    {event : RideCompletedEvent} {post : Except JsError Unit → EmailWorld → Prop}
    (hskipped : truthy event.rideId = none ∨ truthy event.riderId = none →
      post (.ok ()) world)
    (hfailed : ∀ error, post (.error error) world)
    (hsettled : ∀ rideId row, truthy event.rideId = some rideId →
      world.receipt rideId = some row → isSettled row = true →
        post (.ok ()) world)
    (hrest : ∀ rideId riderId user, truthy event.rideId = some rideId →
      (∀ row, world.receipt rideId = some row → isSettled row ≠ true) →
        (afterUser runtime now event rideId riderId (world.receipt rideId)
          user).Ensures EmailWorld.answer allowed world post) :
    (sendRideReceipt runtime now event).Ensures EmailWorld.answer allowed
      world post := by
  unfold sendRideReceipt
  cases hride : truthy event.rideId with
  | none => exact hskipped (Or.inl hride)
  | some rideId =>
      cases hrider : truthy event.riderId with
      | none => exact hskipped (Or.inr hrider)
      | some riderId =>
          simp only [EmailsRepository.findOne, Program.ensures_bind,
            Program.ensures_call]
          intro input _
          cases hdb : input.db with
          | some message =>
              simp only [EmailWorld.answer, hdb]
              exact hfailed _
          | none =>
              rw [answer_findOne hdb]
              simp only
              split
              · rename_i hany
                cases hrow : world.receipt rideId with
                | none => simp [hrow] at hany
                | some row =>
                    exact hsettled rideId row hride hrow
                      (by simpa [hrow] using hany)
              · rename_i hany
                rw [Program.ensures_bind]
                apply ensures_getUser
                · intro user
                  apply hrest rideId riderId user hride
                  intro row hrow hdone
                  exact hany (by simp [hrow, hdone])
                · exact hfailed

theorem ensures_settled (runtime : JsRuntime) (now : Instant)
    {event : RideCompletedEvent} {row : SentEmailEntity}
    (hride : event.rideId = some rideId)
    (hrow : world.receipt rideId = some row) (hsettled : isSettled row = true) :
    (sendRideReceipt runtime now event).Ensures EmailWorld.answer allowed
      world fun _ after => after = world := by
  apply ensures_sendRideReceipt
  · exact fun _ => rfl
  · exact fun _ => rfl
  · exact fun _ _ _ _ _ => rfl
  · intro id riderId user htruthy hopen
    have hid := (truthy_eq_some_iff.mp htruthy).1
    rw [hride] at hid
    cases hid
    exact (hopen row hrow hsettled).elim

theorem ensures_bookkept (runtime : JsRuntime) (now : Instant)
    {event : RideCompletedEvent}
    (hdb : ∀ input, allowed input → input.db = none)
    (hparse : event.Parseable runtime) (hride : event.rideId = some rideId)
    (hbook : Bookkept rideId world) :
    (sendRideReceipt runtime now event).Ensures EmailWorld.answer allowed
      world fun _ after => Bookkept rideId after := by
  apply ensures_sendRideReceipt
  · exact fun _ => hbook
  · exact fun _ => hbook
  · exact fun _ _ _ _ _ => hbook
  · intro id riderId user htruthy hopen
    have hid := (truthy_eq_some_iff.mp htruthy).1
    rw [hride] at hid
    cases hid
    exact ensures_afterUser runtime now hdb hparse hbook hopen

/-! ## Runs of deliveries -/

/-- One delivery of `ride.completed`, with what the environment decides about
each call made in it. -/
structure ReceiptDelivery where
  now : Instant
  event : RideCompletedEvent
  script : ℕ → EmailInput

def ReceiptDelivery.run (runtime : JsRuntime) (world : EmailWorld)
    (delivery : ReceiptDelivery) : EmailWorld :=
  ((sendRideReceipt runtime delivery.now delivery.event).exec
    (scripted EmailWorld.answer) (delivery.script, world)).2.2

def deliverAll (runtime : JsRuntime) (deliveries : List ReceiptDelivery)
    (start : EmailWorld) : EmailWorld :=
  deliveries.foldl (ReceiptDelivery.run runtime) start

/-- A well-typed event of the ride, handled while the database works. -/
structure ReceiptDelivery.Regular (runtime : JsRuntime) (rideId : String)
    (delivery : ReceiptDelivery) : Prop where
  ride : delivery.event.rideId = some rideId
  parse : delivery.event.Parseable runtime
  database : ∀ n, (delivery.script n).db = none

theorem deliverAll_bookkept {runtime : JsRuntime}
    {deliveries : List ReceiptDelivery} {start : EmailWorld}
    (hregular : ∀ delivery ∈ deliveries, delivery.Regular runtime rideId)
    (hstart : Bookkept rideId start) :
    Bookkept rideId (deliverAll runtime deliveries start) := by
  induction deliveries generalizing start with
  | nil => exact hstart
  | cons delivery deliveries ih =>
      obtain ⟨hride, hparse, hdatabase⟩ := hregular delivery (by simp)
      have hensures : (sendRideReceipt runtime delivery.now
          delivery.event).Ensures EmailWorld.answer
            (fun input => input.db = none) start
            fun _ after => Bookkept rideId after :=
        ensures_bookkept runtime delivery.now (fun _ hdb => hdb) hparse hride
          hstart
      have hnext : Bookkept rideId (delivery.run runtime start) :=
        Program.ensures_exec hensures hdatabase
      exact ih (fun other hother => hregular other (by simp [hother])) hnext

theorem deliverAll_settled {runtime : JsRuntime}
    {deliveries : List ReceiptDelivery} {start : EmailWorld}
    {row : SentEmailEntity}
    (hride : ∀ delivery ∈ deliveries, delivery.event.rideId = some rideId)
    (hrow : start.receipt rideId = some row) (hsettled : isSettled row = true) :
    deliverAll runtime deliveries start = start := by
  induction deliveries with
  | nil => rfl
  | cons delivery deliveries ih =>
      have hensures : (sendRideReceipt runtime delivery.now
          delivery.event).Ensures EmailWorld.answer (fun _ => True) start
            fun _ after => after = start :=
        ensures_settled runtime delivery.now (hride delivery (by simp)) hrow
          hsettled
      have hsame : delivery.run runtime start = start :=
        Program.ensures_exec hensures fun _ => trivial
      unfold deliverAll at ih ⊢
      rw [List.foldl_cons, hsame]
      exact ih fun other hother => hride other (by simp [hother])

theorem unique_of_receipt (world : EmailWorld) {first second : SentEmailEntity}
    (hfirst : first ∈ world.rows.rows) (hsecond : second ∈ world.rows.rows)
    (hride : first.rideId = second.rideId) : first = second := by
  apply Table.eq_of_clash hfirst hsecond
  cases htype : first.type
  cases htype' : second.type
  simp [Indexed.clash, hride, htype, htype']

theorem bookkept_sent_iff {row : SentEmailEntity}
    (hrow : world.receipt rideId = some row) (hbook : Bookkept rideId world) :
    row.status = .sent ↔ ∃ id, .ok id ∈ world.sends := by
  obtain ⟨-, ⟨hfailed, hunsent⟩ | ⟨hsent, -, earlier, id, hsends, -⟩⟩ :=
    (bookkept_of_some hrow).mp hbook
  · constructor
    · intro hsent
      rw [hfailed] at hsent
      cases hsent
    · rintro ⟨id, hid⟩
      exact (hunsent id hid).elim
  · refine ⟨fun _ => ⟨id, ?_⟩, fun _ => hsent⟩
    rw [hsends]
    exact List.mem_append_right _ (List.mem_singleton_self _)

/-- The row of a ride accounts for all calls of SES, and once it is settled
nothing happens to it any more. -/
theorem receipt_accounts_for_sends (runtime : JsRuntime) {start : EmailWorld}
    {deliveries : List ReceiptDelivery}
    (hfresh : start.receipt rideId = none) (hunsent : start.sends = [])
    (hregular : ∀ delivery ∈ deliveries, delivery.Regular runtime rideId) :
    let world := deliverAll runtime deliveries start
    (∀ first ∈ world.rows.rows, ∀ second ∈ world.rows.rows,
      first.rideId = rideId → second.rideId = rideId → first = second) ∧
    (world.receipt rideId = none → world.sends = []) ∧
    ∀ row, world.receipt rideId = some row →
      row.status ≠ .pending ∧
      row.attempts = world.sends.length ∧
      (row.status = .sent ↔ ∃ id, .ok id ∈ world.sends) ∧
      (row.status = .sent → ∃ earlier id, world.sends = earlier ++ [.ok id] ∧
        (∀ other, .ok other ∉ earlier) ∧ row.sesMessageId = some id ∧
          row.lastError = none) ∧
      (row.status = .sent ∨
          (row.status = .failed ∧ row.lastError = some USER_NOT_FOUND) →
        ∀ later : List ReceiptDelivery,
          (∀ delivery ∈ later, delivery.event.rideId = some rideId) →
            deliverAll runtime later world = world) := by
  intro world
  have hstart : Bookkept rideId start := by
    unfold Bookkept
    rw [hfresh]
    exact hunsent
  have hbook : Bookkept rideId world := deliverAll_bookkept hregular hstart
  refine ⟨?_, ?_, ?_⟩
  · intro first hfirst second hsecond hride hride'
    exact unique_of_receipt world hfirst hsecond (hride.trans hride'.symm)
  · intro hnone
    unfold Bookkept at hbook
    rwa [hnone] at hbook
  · intro row hrow
    obtain ⟨hattempts, hstatus⟩ := (bookkept_of_some hrow).mp hbook
    refine ⟨?_, hattempts, bookkept_sent_iff hrow hbook, ?_, ?_⟩
    · rcases hstatus with ⟨hfailed, -⟩ | ⟨hsent, -⟩
      · simp [hfailed]
      · simp [hsent]
    · intro hsent
      rcases hstatus with ⟨hfailed, -⟩ | ⟨-, herror, earlier, id, hsends, hid, hearlier⟩
      · rw [hfailed] at hsent
        cases hsent
      · exact ⟨earlier, id, hsends, hearlier, hid, herror⟩
    · intro hsettled later hlater
      exact deliverAll_settled hlater hrow (isSettled_iff.mpr hsettled)

def fixedRuntime : JsRuntime where
  dateParse _ := some 0
  numberToString _ := ""

def plainRide : RideCompletedEvent :=
  ⟨some "ride", some "rider", none, some 5, none, none, none, none, none,
    some "2026-01-01T10:00:00Z", "2026-01-01T10:00:00Z"⟩

def attempts (answers : List (Except JsError String)) : List ReceiptDelivery :=
  answers.map fun ses =>
    { now := 0
      event := plainRide
      script := fun _ =>
        ⟨none, .ok ⟨"rider", "ann@example.com", "Ann", "rider"⟩, ses⟩ }

def throttledOnce : List ReceiptDelivery :=
  attempts [.error (.error "Throttling"), .ok "message-1"]

theorem second_attempt_sends :
    ∃ row, (deliverAll fixedRuntime throttledOnce ⟨Table.empty, []⟩).receipt
        "ride" = some row ∧ row.status = .sent ∧
      row.attempts =
        (deliverAll fixedRuntime throttledOnce ⟨Table.empty, []⟩).sends.length ∧
      deliverAll fixedRuntime throttledOnce
        (deliverAll fixedRuntime throttledOnce ⟨Table.empty, []⟩) =
          deliverAll fixedRuntime throttledOnce ⟨Table.empty, []⟩ := by
  have hparse : plainRide.Parseable fixedRuntime := by decide
  have hregular : ∀ delivery ∈ throttledOnce,
      delivery.Regular fixedRuntime "ride" := by
    intro delivery hdelivery
    obtain ⟨ses, -, heq⟩ := List.mem_map.mp hdelivery
    subst heq
    exact ⟨rfl, hparse, fun _ => rfl⟩
  have hsent : ((deliverAll fixedRuntime throttledOnce
      ⟨Table.empty, []⟩).receipt "ride").any (fun row =>
        row.status == .sent) = true := by decide +kernel
  have hempty : (⟨Table.empty, []⟩ : EmailWorld).receipt "ride" = none := rfl
  obtain ⟨-, -, hrows⟩ :=
    receipt_accounts_for_sends fixedRuntime hempty rfl hregular
  rw [Option.any_eq_true] at hsent
  obtain ⟨row, hrow, hstatus⟩ := hsent
  rw [beq_iff_eq] at hstatus
  obtain ⟨-, hattempts, -, -, hdone⟩ := hrows row hrow
  refine ⟨row, hrow, hstatus, hattempts, ?_⟩
  exact hdone (Or.inl hstatus) throttledOnce
    fun delivery hdelivery => (hregular delivery hdelivery).ride

/-! ## What a committed offset means -/

def ReceiptSettled (rideId : String) (world : EmailWorld) : Prop :=
  ∃ row, world.receipt rideId = some row ∧
    (row.status = .sent ∨
      (row.status = .failed ∧ row.lastError = some USER_NOT_FOUND))

theorem ensures_finish_settled (runtime : JsRuntime) (now : Instant)
    {row : SentEmailEntity} (user : Option UserContact) (receipt : RideReceipt)
    (subject : String) (hrow : world.receipt rideId = some row) :
    (finish runtime now (some row) user receipt subject).Ensures
      EmailWorld.answer allowed world fun result after =>
        result = .ok () → ReceiptSettled rideId after := by
  cases user with
  | none =>
      simp only [finish, recordUserNotFound, deref, EmailsRepository.update, Program.ensures_bind,
        Program.ensures_call, Program.ensures_pure, EmailWorld.answer]
      intro input _
      cases input.db with
      | some message => simp
      | none =>
          intro _
          exact ⟨_, receipt_update hrow _, Or.inr ⟨rfl, rfl⟩⟩
  | some user =>
      apply (ensures_deliver_sent runtime now user receipt subject hrow).mono
      intro result after hsent hok
      obtain ⟨next, hnext, hstatus⟩ := hsent hok
      exact ⟨next, hnext, Or.inl hstatus⟩

theorem ensures_afterUser_settled (runtime : JsRuntime) (now : Instant)
    (event : RideCompletedEvent) (riderId : String)
    (user : Option UserContact) :
    (afterUser runtime now event rideId riderId (world.receipt rideId)
      user).Ensures EmailWorld.answer allowed world fun result after =>
        result = .ok () → ReceiptSettled rideId after := by
  unfold afterUser
  cases hrow : world.receipt rideId with
  | some row =>
      rw [Program.ensures_bind, Program.ensures_pure]
      exact ensures_finish_settled runtime now user _ _ hrow
  | none =>
      rw [Program.ensures_bind]
      apply (ensures_createRow runtime event riderId _ _ hrow).mono
      intro result after hcreated
      cases result with
      | error error => simp
      | ok row =>
          obtain ⟨created, heq, hreceipt, -⟩ := hcreated
          subst heq
          exact ensures_finish_settled runtime now user _ _ hreceipt

/-- Whatever the row was before and whichever calls fail, the offset of a
`ride.completed` is committed only with the receipt settled, or without a
trace for an event that names no ride or no rider. -/
theorem committed_is_settled (runtime : JsRuntime) (now : Instant)
    (event : RideCompletedEvent) (script : ℕ → EmailInput)
    (world : EmailWorld) :
    let outcome := (eachMessage runtime now (some event)).exec
      (scripted EmailWorld.answer) (script, world)
    (∃ error, outcome.1 = .error error) ∨
    (outcome.1 = .ok () ∧ ∃ rideId, truthy event.rideId = some rideId ∧
      ReceiptSettled rideId outcome.2.2) ∨
    (outcome.1 = .ok () ∧ outcome.2.2 = world ∧
      (truthy event.rideId = none ∨ truthy event.riderId = none)) := by
  have hensures : (sendRideReceipt runtime now event).Ensures
      EmailWorld.answer (fun _ => True) world fun result after =>
        (∃ error, result = .error error) ∨
        (result = .ok () ∧ ∃ rideId, truthy event.rideId = some rideId ∧
          ReceiptSettled rideId after) ∨
        (result = .ok () ∧ after = world ∧
          (truthy event.rideId = none ∨ truthy event.riderId = none)) := by
    apply ensures_sendRideReceipt
    · exact fun hmissing => Or.inr (Or.inr ⟨rfl, rfl, hmissing⟩)
    · exact fun error => Or.inl ⟨error, rfl⟩
    · intro rideId row hride hrow hsettled
      exact Or.inr (Or.inl ⟨rfl, rideId, hride, row, hrow,
        isSettled_iff.mp hsettled⟩)
    · intro rideId riderId user hride _
      apply (ensures_afterUser_settled runtime now event riderId user).mono
      intro result after hsettled
      cases result with
      | error error => exact Or.inl ⟨error, rfl⟩
      | ok value => exact Or.inr (Or.inl ⟨rfl, rideId, hride, hsettled rfl⟩)
  intro outcome
  have hrun : outcome = (sendRideReceipt runtime now event).exec
      (scripted EmailWorld.answer) (script, world) :=
    Kafka.exec_eachMessage _ _ _ _
  rw [hrun]
  exact Program.ensures_exec hensures fun _ => trivial

end FakeBolt.Email
