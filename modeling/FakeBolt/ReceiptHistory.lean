import FakeBolt.JsonObjects
import FakeBolt.ReadThenWrite
import FakeBolt.ReceiptBookkeeping

/-!
# The rider's history

`getMyReceipts` reads a rider's past rides from the receipt rows.  The columns
of a past ride are written when the row is created and by no update, so the
history only ever grows by the rides of the rows that are saved.
-/

namespace FakeBolt.Email

open Await Json Kafka Store EmailService

/-! ## The payload of `ride.completed` -/

/-- A parsed payload seen as an event, if each field has its declared type. -/
def RideCompletedEvent.ofPayload (payload : JsObject) :
    Option RideCompletedEvent := do
  let rideId ← (payload.get "rideId").asString
  let riderId ← (payload.get "riderId").asString
  let driverId ← (payload.get "driverId").asString
  let fare ← (payload.get "fare").asNumber
  let pickupLat ← (payload.get "pickupLat").asNumber
  let pickupLng ← (payload.get "pickupLng").asNumber
  let destinationLat ← (payload.get "destinationLat").asNumber
  let destinationLng ← (payload.get "destinationLng").asNumber
  let requestedAt ← (payload.get "requestedAt").asString
  let completedAt ← (payload.get "completedAt").asString
  let timestamp ← (payload.get "timestamp").asString
  pure
    { rideId, riderId, driverId, fare, pickupLat, pickupLng, destinationLat,
      destinationLng, requestedAt, completedAt
      timestamp := ← timestamp }

theorem ofPayload_coordinates {payload : JsObject} {event : RideCompletedEvent}
    (hread : RideCompletedEvent.ofPayload payload = some event) :
    (payload.get "pickupLat").asNumber = some event.pickupLat ∧
      (payload.get "pickupLng").asNumber = some event.pickupLng ∧
      (payload.get "destinationLat").asNumber = some event.destinationLat ∧
      (payload.get "destinationLng").asNumber = some event.destinationLng := by
  unfold RideCompletedEvent.ofPayload at hread
  obtain ⟨rideId, -, hread⟩ := Option.bind_eq_some_iff.mp hread
  obtain ⟨riderId, -, hread⟩ := Option.bind_eq_some_iff.mp hread
  obtain ⟨driverId, -, hread⟩ := Option.bind_eq_some_iff.mp hread
  obtain ⟨fare, -, hread⟩ := Option.bind_eq_some_iff.mp hread
  obtain ⟨pickupLat, hpickupLat, hread⟩ := Option.bind_eq_some_iff.mp hread
  obtain ⟨pickupLng, hpickupLng, hread⟩ := Option.bind_eq_some_iff.mp hread
  obtain ⟨destinationLat, hdestinationLat, hread⟩ := Option.bind_eq_some_iff.mp hread
  obtain ⟨destinationLng, hdestinationLng, hread⟩ := Option.bind_eq_some_iff.mp hread
  obtain ⟨requestedAt, -, hread⟩ := Option.bind_eq_some_iff.mp hread
  obtain ⟨completedAt, -, hread⟩ := Option.bind_eq_some_iff.mp hread
  obtain ⟨timestamp, -, hread⟩ := Option.bind_eq_some_iff.mp hread
  obtain ⟨sent, -, heq⟩ := Option.bind_eq_some_iff.mp hread
  cases heq
  exact ⟨hpickupLat, hpickupLng, hdestinationLat, hdestinationLng⟩

/-! ## The history -/

/-- A point is there when its latitude is; the longitude comes from a column
of its own. -/
structure PastPoint where
  lat : Num
  lng : Option Num
  deriving DecidableEq, Repr

structure PastRide where
  rideId : String
  fare : Option Num
  pickup : Option PastPoint
  destination : Option PastPoint
  requestedAt : Option Date
  completedAt : Option Date
  deriving DecidableEq, Repr

structure ReceiptState where
  status : EmailStatus
  toAddress : Option String
  subject : String
  sentAt : Option Date
  attempts : ℕ
  deriving DecidableEq, Repr

structure MyReceipt extends PastRide where
  receipt : ReceiptState
  deriving DecidableEq, Repr

def pastPoint (lat lng : Option Num) : Option PastPoint :=
  lat.map fun lat => ⟨lat, lng⟩

namespace SentEmailEntity

def pastRide (row : SentEmailEntity) : PastRide where
  rideId := row.rideId
  fare := row.fare
  pickup := pastPoint row.pickupLat row.pickupLng
  destination := pastPoint row.destinationLat row.destinationLng
  requestedAt := row.rideRequestedAt
  completedAt := row.rideCompletedAt

def myReceipt (row : SentEmailEntity) : MyReceipt where
  toPastRide := row.pastRide
  receipt :=
    { status := row.status
      toAddress := row.toEmail
      subject := row.subject
      sentAt := row.sentAt
      attempts := row.attempts }

/-- The rider and the ride of a row. -/
def ridden (row : SentEmailEntity) : String × PastRide :=
  (row.userId, row.pastRide)

end SentEmailEntity

/-- Rows are stored in the order of their creation, so the newest come last. -/
def EmailWorld.getMyReceipts (world : EmailWorld) (userId : String) :
    List MyReceipt :=
  let rows := world.rows.rows.filter fun row =>
    row.userId = userId ∧ row.type = .rideReceipt
  (rows.reverse.take 50).map SentEmailEntity.myReceipt

def EmailWorld.history (world : EmailWorld) : List (String × PastRide) :=
  world.rows.rows.map SentEmailEntity.ridden

theorem mem_history_of_mem_getMyReceipts {world : EmailWorld} {userId : String}
    {entry : MyReceipt} (hentry : entry ∈ world.getMyReceipts userId) :
    (userId, entry.toPastRide) ∈ world.history := by
  obtain ⟨row, hrow, heq⟩ := List.mem_map.mp hentry
  have hfiltered := List.mem_reverse.mp (List.mem_of_mem_take hrow)
  rw [List.mem_filter] at hfiltered
  obtain ⟨hmem, howned⟩ := hfiltered
  rw [decide_eq_true_eq] at howned
  subst heq
  refine List.mem_map.mpr ⟨row, hmem, ?_⟩
  rw [← howned.1]
  rfl

/-- The ride of the row that was created last comes first. -/
theorem newest_mem_getMyReceipts {world : EmailWorld} {userId : String}
    {before : List (String × PastRide)} {ride : PastRide}
    (hhistory : world.history = before ++ [(userId, ride)]) :
    ∃ entry ∈ world.getMyReceipts userId, entry.toPastRide = ride := by
  obtain ⟨earlier, rest, hrows, -, hlast⟩ := List.map_eq_append_iff.mp hhistory
  obtain ⟨row, hrest, hridden⟩ := List.map_eq_singleton_iff.mp hlast
  rw [hrest] at hrows
  cases hridden
  have howned : decide (row.userId = row.userId ∧ row.type = .rideReceipt) =
      true := by
    cases row.type
    simp
  have hfilter : world.rows.rows.filter (fun stored =>
      stored.userId = row.userId ∧ stored.type = .rideReceipt) =
        earlier.filter (fun stored =>
          stored.userId = row.userId ∧ stored.type = .rideReceipt) ++ [row] := by
    rw [hrows, List.filter_append]
    exact congrArg _ (List.filter_cons_of_pos howned)
  refine ⟨row.myReceipt, List.mem_map_of_mem ?_, rfl⟩
  rw [hfilter, List.reverse_append]
  exact List.mem_cons_self

/-! ## What the calls do to the history -/

theorem ridden_apply (patch : SentEmailPatch) (row : SentEmailEntity) :
    (patch.apply row).ridden = row.ridden := rfl

theorem history_update (world : EmailWorld) (id : ℕ) (patch : SentEmailPatch) :
    EmailWorld.history { world with rows := world.rows.update id patch } =
      world.history := by
  unfold EmailWorld.history Table.update
  rw [List.map_map]
  apply List.map_congr_left
  intro row _
  rw [Function.comp_apply]
  split
  · exact ridden_apply patch row
  · rfl

theorem history_insertRow (row : SentEmailEntity) (world : EmailWorld) :
    (insertRow row world).2.history =
      match (insertRow row world).1 with
      | .ok _ => world.history ++ [row.ridden]
      | .error _ => world.history := by
  unfold insertRow
  split
  · cases hinsert :
        world.rows.insert? { row with id := freshId world.rows } with
    | none => rfl
    | some rows =>
        unfold EmailWorld.history
        simp only [(Table.rows_of_insert? hinsert).1, List.map_append,
          List.map_singleton]
        rfl
  · rfl

/-- A call leaves the history as it is, or adds the ride of the row it
saves. -/
theorem history_answer (call : EmailCall) (input : EmailInput)
    (world : EmailWorld) :
    (EmailWorld.answer call input world).2.history = world.history ∨
      ∃ row, call = .save row ∧
        (EmailWorld.answer call input world).2.history =
          world.history ++ [row.ridden] := by
  cases call with
  | findOne rideId type =>
      left
      cases hdb : input.db <;> simp only [EmailWorld.answer, hdb]
  | getUser userId => exact Or.inl rfl
  | send email => exact Or.inl rfl
  | update id patch =>
      left
      cases hdb : input.db with
      | some message => simp only [EmailWorld.answer, hdb]
      | none =>
          simp only [EmailWorld.answer, hdb]
          exact history_update world id patch
  | save row =>
      cases hdb : input.db with
      | some message =>
          left
          simp only [EmailWorld.answer, hdb]
      | none =>
          simp only [EmailWorld.answer, hdb, history_insertRow]
          cases (insertRow row world).1 with
          | ok stored => exact Or.inr ⟨row, rfl, rfl⟩
          | error error => exact Or.inl rfl

/-! ## The calls of a delivery -/

/-- An email whose bodies are those of the receipt. -/
structure Renders (runtime : JsRuntime) (receipt : RideReceipt)
    (email : OutgoingEmail) : Prop where
  html : rideReceiptHtml runtime receipt = .ok email.html
  text : rideReceiptText runtime receipt = .ok email.text

/-- The rows that a delivery saves and the emails that it sends come from its
event. -/
inductive OwnCall (runtime : JsRuntime) (event : RideCompletedEvent)
    (rideId riderId : String) : EmailCall → Prop where
  | findOne (type : EmailType) :
      OwnCall runtime event rideId riderId (.findOne rideId type)
  | getUser : OwnCall runtime event rideId riderId (.getUser riderId)
  | save (subject : String) (toEmail : Option String) :
      OwnCall runtime event rideId riderId
        (.save (pendingRow runtime event rideId riderId subject toEmail))
  | update (id : ℕ) (patch : SentEmailPatch) :
      OwnCall runtime event rideId riderId (.update id patch)
  | send (riderName : String) (email : OutgoingEmail)
      (renders : Renders runtime (toReceipt runtime event rideId riderName)
        email) :
      OwnCall runtime event rideId riderId (.send email)

section Calls

variable {W : Type}
  {answer : (call : EmailCall) → W → Except JsError call.Reply × W}
  {permitted : EmailCall → Prop} (runtime : JsRuntime) (now : Instant)

theorem permits_deref (row : Option SentEmailEntity) :
    (deref row).Permits answer permitted := by
  cases row with
  | none => exact Program.permits_throw permitted _
  | some row => exact Program.permits_pure permitted _

variable (hupdate : ∀ id patch, permitted (.update id patch))

include hupdate

theorem permits_sendAndRecord (row : Option SentEmailEntity)
    (user : UserContact) {receipt : RideReceipt} (subject : String)
    (hsend : ∀ email, Renders runtime receipt email →
      permitted (.send email)) :
    (sendAndRecord runtime now row user receipt subject).Permits answer
      permitted := by
  unfold sendAndRecord
  cases hhtml : rideReceiptHtml runtime receipt with
  | error error => exact Program.permits_throw permitted _
  | ok html =>
      cases htext : rideReceiptText runtime receipt with
      | error error => exact Program.permits_throw permitted _
      | ok text =>
          have hrenders : Renders runtime receipt
              { toAddress := user.email, subject, html, text } :=
            ⟨hhtml, htext⟩
          apply (Program.permits_call (hsend _ hrenders)).bind
          intro messageId
          apply (permits_deref row).bind
          intro row
          exact Program.permits_call (hupdate _ _)

theorem permits_recordFailure (row : Option SentEmailEntity)
    (error : JsError) :
    (recordFailure row error).Permits answer permitted := by
  apply (permits_deref row).bind
  intro row
  apply (Program.permits_call (hupdate _ _)).bind
  intro _
  exact Program.permits_throw permitted _

/-- Once it has its row, a delivery only updates and sends the receipt. -/
theorem permits_finish (row : Option SentEmailEntity)
    (user : Option UserContact) {receipt : RideReceipt} (subject : String)
    (hsend : ∀ email, Renders runtime receipt email →
      permitted (.send email)) :
    (finish runtime now row user receipt subject).Permits answer
      permitted := by
  cases user with
  | none =>
      apply (permits_deref row).bind
      intro row
      exact Program.permits_call (hupdate _ _)
  | some user =>
      apply (permits_sendAndRecord runtime now hupdate row user subject
        hsend).tryCatch
      intro error
      exact permits_recordFailure hupdate row error

end Calls

section Delivery

variable (runtime : JsRuntime) (now : Instant) {event : RideCompletedEvent}
  {rideId riderId : String}

theorem permits_createRow {W : Type}
    {answer : (call : EmailCall) → W → Except JsError call.Reply × W}
    (subject : String) (toEmail : Option String) :
    (createRow runtime event rideId riderId subject toEmail).Permits answer
      (OwnCall runtime event rideId riderId) := by
  have hsave : (do
      let row ← EmailsRepository.save
        (pendingRow runtime event rideId riderId subject toEmail)
      pure (some row) : EmailM (Option SentEmailEntity)).Permits answer
        (OwnCall runtime event rideId riderId) := by
    apply (Program.permits_call (.save subject toEmail)).bind
    intro row
    exact Program.permits_pure _ _
  apply hsave.tryCatch
  intro error
  split
  · exact Program.permits_call (.findOne _)
  · exact Program.permits_throw _ _

theorem permits_getUser {W : Type}
    {answer : (call : EmailCall) → W → Except JsError call.Reply × W} :
    (UsersClient.getUser riderId).Permits answer
      (OwnCall runtime event rideId riderId) := by
  have hget : (do
      let data ← Program.call (EmailCall.getUser riderId)
      pure (some data) : EmailM (Option UserContact)).Permits answer
        (OwnCall runtime event rideId riderId) := by
    apply (Program.permits_call .getUser).bind
    intro user
    exact Program.permits_pure _ _
  apply hget.tryCatch
  intro error
  split
  · exact Program.permits_pure _ _
  · exact Program.permits_throw _ _

/-- Every call of a delivery comes from its event. -/
theorem permits_sendRideReceipt {W : Type}
    {answer : (call : EmailCall) → W → Except JsError call.Reply × W}
    (hride : truthy event.rideId = some rideId)
    (hrider : truthy event.riderId = some riderId) :
    (sendRideReceipt runtime now event).Permits answer
      (OwnCall runtime event rideId riderId) := by
  simp only [sendRideReceipt, hride, hrider]
  apply (Program.permits_call (.findOne _)).bind
  intro found
  split
  · exact Program.permits_pure _ _
  · apply (permits_getUser runtime).bind
    intro user
    have hfinish : ∀ row : Option SentEmailEntity,
        (finish runtime now row user
          (toReceipt runtime event rideId
            ((user.map UserContact.name).getD "there"))
          (rideReceiptSubject runtime (toReceipt runtime event rideId
            ((user.map UserContact.name).getD "there")))).Permits answer
          (OwnCall runtime event rideId riderId) := by
      intro row
      apply permits_finish runtime now OwnCall.update
      intro email hrenders
      exact .send _ email hrenders
    unfold afterUser
    cases found with
    | some row => exact hfinish (some row)
    | none =>
        apply (permits_createRow runtime _ _).bind
        exact hfinish

/-- The past ride that a row created for the event shows. -/
def rideOf (event : RideCompletedEvent) (rideId : String) : PastRide :=
  (pendingRow runtime event rideId "" "" none).pastRide

theorem pointOf_eq_none {lat lng : Option Num} (hmissing : lat = none ∨ lng = none) :
    pointOf lat lng = none := by
  rcases hmissing with hlat | hlng
  · rw [hlat]
    rfl
  · rw [hlng]
    cases lat <;> rfl

/-- The two columns of a point are null together. -/
theorem pastPoint_map (point : Option GeoPoint) :
    pastPoint (point.map GeoPoint.lat) (point.map GeoPoint.lng) =
      point.map fun p => ⟨p.lat, some p.lng⟩ := by
  cases point <;> rfl

theorem rideOf_pickup (event : RideCompletedEvent) (rideId : String) :
    (rideOf runtime event rideId).pickup =
      (pointOf event.pickupLat event.pickupLng).map fun p =>
        ⟨p.lat, some p.lng⟩ := pastPoint_map _

theorem rideOf_destination (event : RideCompletedEvent) (rideId : String) :
    (rideOf runtime event rideId).destination =
      (pointOf event.destinationLat event.destinationLng).map fun p =>
        ⟨p.lat, some p.lng⟩ := pastPoint_map _

/-- A delivery adds nothing to the history but the ride of its event. -/
theorem history_of_delivery (hride : truthy event.rideId = some rideId)
    (hrider : truthy event.riderId = some riderId) (script : ℕ → EmailInput)
    (world : EmailWorld) :
    ∀ entry ∈ ((sendRideReceipt runtime now event).exec
        (scripted EmailWorld.answer) (script, world)).2.2.history,
      entry ∈ world.history ∨ entry = (riderId, rideOf runtime event rideId) := by
  have hpermits : (sendRideReceipt runtime now event).Permits
      (scripted EmailWorld.answer) (OwnCall runtime event rideId riderId) :=
    permits_sendRideReceipt runtime now hride hrider
  refine Program.exec_keeps (scripted EmailWorld.answer)
    (fun state => ∀ entry ∈ state.2.history,
      entry ∈ world.history ∨ entry = (riderId, rideOf runtime event rideId))
    ?_ (fun entry hentry => Or.inl hentry)
  rintro call hcall ⟨rest, before⟩ hbefore entry hentry
  have hown := hpermits.of_mem_calls hcall
  rw [scripted_apply] at hentry
  rcases history_answer call (rest 0) before with hsame | ⟨row, heq, hadded⟩
  · rw [hsame] at hentry
    exact hbefore entry hentry
  · subst heq
    rw [hadded, List.mem_append, List.mem_singleton] at hentry
    rcases hentry with hold | hnew
    · exact hbefore entry hold
    · cases hown
      exact Or.inr hnew

theorem storable_pendingRow (hparse : event.Parseable runtime)
    (subject : String) (toEmail : Option String) :
    (pendingRow runtime event rideId riderId subject toEmail).storable =
      true := by
  obtain ⟨hcompleted, hrequested⟩ := hparse
  have hrow : (pendingRow runtime event rideId riderId subject
      toEmail).storable = ((toReceipt runtime event "" "").requestedAt.all
        Option.isSome && (toReceipt runtime event "" "").completedAt.isSome) :=
    rfl
  rw [hrow, hcompleted, Bool.and_true, Option.all_eq_true]
  exact hrequested

/-- The first row of a ride is stored if its dates are valid. -/
theorem insertRow_of_storable {row : SentEmailEntity} {world : EmailWorld}
    (hstorable : row.storable = true) (hfirst : world.receipt row.rideId = none) :
    ∃ stored after, insertRow row world = (.ok stored, after) ∧
      after.history = world.history ++ [row.ridden] := by
  have hhistory := history_insertRow row world
  rcases insertRow_of_none hfirst rfl with ⟨error, hother, hinsert⟩ |
    ⟨rows, hinsert, -⟩
  · unfold insertRow at hinsert
    rw [if_pos hstorable] at hinsert
    split at hinsert
    · cases hinsert
    · cases hinsert
      cases hother
  · rw [hinsert] at hhistory
    exact ⟨_, _, hinsert, hhistory⟩

theorem exec_createRow_first (riderId : String)
    (hparse : event.Parseable runtime) (subject : String)
    (toEmail : Option String) (script : ℕ → EmailInput)
    (hdb : (script 0).db = none) {world : EmailWorld}
    (hfirst : world.receipt rideId = none) :
    ∃ row after, (createRow runtime event rideId riderId subject toEmail).exec
        (scripted EmailWorld.answer) (script, world) =
          (.ok (some row), (fun n => script (n + 1), after)) ∧
      after.history =
        world.history ++ [(riderId, rideOf runtime event rideId)] := by
  obtain ⟨stored, after, hinsert, hhistory⟩ := insertRow_of_storable
    (storable_pendingRow runtime hparse subject toEmail) hfirst
  refine ⟨stored, after, ?_, hhistory⟩
  simp only [createRow, EmailsRepository.save, Program.exec_tryCatch,
    Program.exec_bind, Program.exec_call, Program.exec_pure, scripted_apply,
    EmailWorld.answer, hdb, hinsert]

theorem exec_getUser_known (script : ℕ → EmailInput) {user : UserContact}
    (huser : (script 0).auth = .ok user) (world : EmailWorld) :
    (UsersClient.getUser riderId).exec (scripted EmailWorld.answer)
        (script, world) =
      (.ok (some user), (fun n => script (n + 1), world)) := by
  simp only [UsersClient.getUser, Program.exec_tryCatch, Program.exec_bind,
    Program.exec_call, Program.exec_pure, scripted_apply, EmailWorld.answer,
    huser]

theorem history_finish (row : Option SentEmailEntity)
    (user : Option UserContact) (receipt : RideReceipt) (subject : String)
    (script : ℕ → EmailInput) (world : EmailWorld) :
    ((finish runtime now row user receipt subject).exec
        (scripted EmailWorld.answer) (script, world)).2.2.history =
      world.history := by
  have hpermits : (finish runtime now row user receipt subject).Permits
      (scripted EmailWorld.answer) fun call => ∀ row, call ≠ .save row := by
    apply permits_finish runtime now
    · intro id patch row hsave
      cases hsave
    · intro email _ row hsave
      cases hsave
  refine Program.exec_keeps (scripted EmailWorld.answer)
    (fun state => state.2.history = world.history) ?_ rfl
  rintro call hcall ⟨rest, before⟩ hbefore
  rw [scripted_apply]
  rcases history_answer call (rest 0) before with hsame | ⟨row, hsave, -⟩
  · exact hsame.trans hbefore
  · exact (hpermits.of_mem_calls hcall row hsave).elim

/-- The first delivery of an event whose dates parse, with the database
working and the rider known, adds the ride of the event whatever SES does. -/
theorem history_of_first_delivery (hride : truthy event.rideId = some rideId)
    (hrider : truthy event.riderId = some riderId)
    (hparse : event.Parseable runtime) {script : ℕ → EmailInput}
    (hdb : ∀ n, (script n).db = none)
    (hknown : ∀ n, ∃ user, (script n).auth = .ok user) {world : EmailWorld}
    (hfirst : world.receipt rideId = none) :
    ((sendRideReceipt runtime now event).exec (scripted EmailWorld.answer)
        (script, world)).2.2.history =
      world.history ++ [(riderId, rideOf runtime event rideId)] := by
  obtain ⟨user, huser⟩ := hknown 1
  obtain ⟨row, after, hcreate, hhistory⟩ := exec_createRow_first runtime
    riderId hparse
    (rideReceiptSubject runtime (toReceipt runtime event rideId user.name))
    (some user.email) (fun n => script (n + 2)) (hdb 2) hfirst
  simp only [sendRideReceipt, hride, hrider, EmailsRepository.findOne,
    afterUser, Program.exec_bind, Program.exec_call, scripted_apply,
    answer_findOne (hdb 0), hfirst, Option.any_none, Bool.false_eq_true,
    if_false, exec_getUser_known (fun n => script (n + 1)) huser,
    Option.map_some, Option.getD_some, hcreate, history_finish]
  exact hhistory

end Delivery

/-! ## Deliveries -/

namespace ReceiptDelivery

variable (runtime : JsRuntime) (delivery : ReceiptDelivery)

/-- The emails that a delivery hands to SES. -/
def emails (world : EmailWorld) : List OutgoingEmail :=
  ((sendRideReceipt runtime delivery.now delivery.event).calls
    (scripted EmailWorld.answer) (delivery.script, world)).filterMap fun call =>
      match call with
      | .send email => some email
      | _ => none

/-- The database works and auth-service knows the rider. -/
structure Undisturbed : Prop where
  database : ∀ n, (delivery.script n).db = none
  known : ∀ n, ∃ user, (delivery.script n).auth = .ok user

end ReceiptDelivery

/-- An event without ids is skipped. -/
theorem skipped_or_named (runtime : JsRuntime) (now : Instant)
    {event : RideCompletedEvent} {rideId : String}
    (hride : event.rideId = some rideId) :
    sendRideReceipt runtime now event = pure () ∨
      truthy event.rideId = some rideId ∧
        ∃ riderId, truthy event.riderId = some riderId := by
  unfold sendRideReceipt
  cases hnamed : truthy event.rideId with
  | none => exact Or.inl rfl
  | some named =>
      have hsame : some rideId = some named := by
        rw [← hride]
        exact (truthy_eq_some_iff.mp hnamed).1
      cases hrider : truthy event.riderId with
      | none => exact Or.inl rfl
      | some riderId => exact Or.inr ⟨hsame.symm, riderId, rfl⟩

section Deliveries

variable {runtime : JsRuntime} {delivery : ReceiptDelivery}
  {world : EmailWorld} {rideId : String}

/-- Every email that a delivery sends renders the receipt of its event. -/
theorem renders_of_mem_emails (hride : delivery.event.rideId = some rideId)
    {email : OutgoingEmail} (hemail : email ∈ delivery.emails runtime world) :
    ∃ riderName, Renders runtime
      (toReceipt runtime delivery.event rideId riderName) email := by
  unfold ReceiptDelivery.emails at hemail
  rcases skipped_or_named runtime delivery.now hride with
    hskipped | ⟨hnamed, riderId, hrider⟩
  · rw [hskipped, Program.calls_pure] at hemail
    cases hemail
  · obtain ⟨call, hcall, hmatch⟩ := List.mem_filterMap.mp hemail
    have hown : OwnCall runtime delivery.event rideId riderId call :=
      (permits_sendRideReceipt runtime delivery.now hnamed hrider).of_mem_calls
        hcall
    cases hown with
    | send riderName sent hrenders =>
        cases hmatch
        exact ⟨riderName, hrenders⟩
    | _ => cases hmatch

theorem ne_rideId_of_mem_history (hfirst : world.receipt rideId = none)
    {userId : String} {ride : PastRide} (hmem : (userId, ride) ∈ world.history) :
    ride.rideId ≠ rideId := by
  intro hsame
  obtain ⟨row, hrow, hridden⟩ := List.mem_map.mp hmem
  cases hridden
  have hride : row.rideId = rideId := hsame
  have hnot := List.find?_eq_none.mp hfirst row hrow
  apply hnot
  cases row.type
  simpa using hride

/-- The first delivery for a ride adds no other entry for it than the ride of
its event. -/
theorem eq_rideOf_of_mem_getMyReceipts
    (hride : delivery.event.rideId = some rideId)
    (hfirst : world.receipt rideId = none) {userId : String}
    {entry : MyReceipt}
    (hentry : entry ∈ (delivery.run runtime world).getMyReceipts userId)
    (hsame : entry.rideId = rideId) :
    entry.toPastRide = rideOf runtime delivery.event rideId := by
  have hmem := mem_history_of_mem_getMyReceipts hentry
  unfold ReceiptDelivery.run at hmem
  rcases skipped_or_named runtime delivery.now hride with
    hskipped | ⟨hnamed, riderId, hrider⟩
  · rw [hskipped, Program.exec_pure] at hmem
    exact (ne_rideId_of_mem_history hfirst hmem hsame).elim
  · rcases history_of_delivery runtime delivery.now hnamed hrider
      delivery.script world _ hmem with hold | hnew
    · exact (ne_rideId_of_mem_history hfirst hold hsame).elim
    · exact congrArg Prod.snd hnew

/-- What the receipt and the past ride of an event show is what its first
delivery shows in the email and in the history. -/
theorem shown_by_first_delivery (P : RideReceipt → Prop) (Q : PastRide → Prop)
    (hride : delivery.event.rideId = some rideId)
    (hfirst : world.receipt rideId = none)
    (hemailed : ∀ riderName,
      P (toReceipt runtime delivery.event rideId riderName))
    (hkept : Q (rideOf runtime delivery.event rideId)) :
    (∀ email ∈ delivery.emails runtime world, ∃ receipt,
        Renders runtime receipt email ∧ P receipt) ∧
      ∀ userId, ∀ entry ∈ (delivery.run runtime world).getMyReceipts userId,
        entry.rideId = rideId → Q entry.toPastRide := by
  constructor
  · intro email hemail
    obtain ⟨riderName, hrenders⟩ := renders_of_mem_emails hride hemail
    exact ⟨_, hrenders, hemailed riderName⟩
  · intro userId entry hentry hsame
    rw [eq_rideOf_of_mem_getMyReceipts hride hfirst hentry hsame]
    exact hkept

/-- The first delivery of an event puts its ride into the history of the
rider. -/
theorem exists_mem_getMyReceipts {riderId : String}
    (hride : truthy delivery.event.rideId = some rideId)
    (hrider : truthy delivery.event.riderId = some riderId)
    (hparse : delivery.event.Parseable runtime)
    (hundisturbed : delivery.Undisturbed)
    (hfirst : world.receipt rideId = none) :
    ∃ entry ∈ (delivery.run runtime world).getMyReceipts riderId,
      entry.toPastRide = rideOf runtime delivery.event rideId := by
  apply newest_mem_getMyReceipts
  exact history_of_first_delivery runtime delivery.now hride hrider hparse
    hundisturbed.database hundisturbed.known hfirst

end Deliveries

end FakeBolt.Email
