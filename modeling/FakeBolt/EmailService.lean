import FakeBolt.AwaitProgram
import FakeBolt.KafkaMessages
import FakeBolt.ReceiptTemplate
import FakeBolt.UniqueTable

/-!
# email-service

The `sent_emails` table and the handler of `ride.completed`.  auth-service and
SES are remote: what they answer is decided by the environment, call by call,
and so is whether a database call fails.
-/

namespace FakeBolt.Email

open Await Kafka Store

inductive EmailType where
  | rideReceipt
  deriving DecidableEq, Repr

inductive EmailStatus where
  | pending
  | sent
  | failed
  deriving DecidableEq, Repr

/-- `id` stands for the generated uuid. -/
structure SentEmailEntity where
  id : ℕ
  rideId : String
  userId : String
  type : EmailType
  status : EmailStatus
  toEmail : Option String
  subject : String
  sesMessageId : Option String
  attempts : ℕ
  lastError : Option String
  fare : Option Num
  pickupLat : Option Num
  pickupLng : Option Num
  destinationLat : Option Num
  destinationLng : Option Num
  rideRequestedAt : Option Date
  rideCompletedAt : Option Date
  sentAt : Option Date
  deriving DecidableEq, Repr

/-- The argument of `emailsRepository.update`.  `lastError` can be set to
null, so its absence is a further level. -/
structure SentEmailPatch where
  status : Option EmailStatus := none
  toEmail : Option String := none
  sesMessageId : Option String := none
  sentAt : Option Date := none
  attempts : Option ℕ := none
  lastError : Option (Option String) := none
  deriving DecidableEq, Repr

def SentEmailPatch.apply (patch : SentEmailPatch) (row : SentEmailEntity) :
    SentEmailEntity :=
  { row with
    status := patch.status.getD row.status
    toEmail := patch.toEmail <|> row.toEmail
    sesMessageId := patch.sesMessageId <|> row.sesMessageId
    sentAt := patch.sentAt <|> row.sentAt
    attempts := patch.attempts.getD row.attempts
    lastError := patch.lastError.getD row.lastError }

/-- `id` is the primary key; `uq_sent_emails_ride_type` covers ride and
type. -/
instance : Indexed SentEmailEntity ℕ SentEmailPatch where
  key row := row.id
  clash r s := r.id == s.id || (r.rideId == s.rideId && r.type == s.type)
  clash_of_key_eq := by
    intro r s hkey
    simp [hkey]
  clash_symm := by
    intro r s hclash
    rw [Bool.or_eq_true, Bool.and_eq_true, beq_iff_eq, beq_iff_eq,
      beq_iff_eq] at hclash ⊢
    rcases hclash with hid | ⟨hride, htype⟩
    · exact Or.inl hid.symm
    · exact Or.inr ⟨hride.symm, htype.symm⟩
  patch := SentEmailPatch.apply
  key_patch _ _ := rfl
  clash_patch hclash := hclash

/-! ## Awaited calls -/

structure UserContact where
  id : String
  email : String
  name : String
  role : String
  deriving DecidableEq, Repr

structure OutgoingEmail where
  toAddress : String
  subject : String
  html : String
  text : String
  deriving DecidableEq, Repr

inductive EmailCall where
  | findOne (rideId : String) (type : EmailType)
  | save (row : SentEmailEntity)
  | update (id : ℕ) (patch : SentEmailPatch)
  | getUser (userId : String)
  | send (email : OutgoingEmail)

@[reducible] def EmailCall.Reply : EmailCall → Type
  | .findOne _ _ => Option SentEmailEntity
  | .save _ => SentEmailEntity
  | .update _ _ => Unit
  | .getUser _ => UserContact
  | .send _ => String

/-- The table, and what each call of SES came to, in order. -/
structure EmailWorld where
  rows : Table SentEmailEntity
  sends : List (Except JsError String)

/-- What the environment decides about one call: the message of a database
call that fails, the answer of auth-service, the message id or error of
SES. -/
structure EmailInput where
  db : Option String
  auth : Except JsError UserContact
  ses : Except JsError String

def UNIQUE_VIOLATION : String := "23505"
def INVALID_DATETIME : String := "22007"

/-- The id that Postgres generates is one that no row has. -/
def freshId (rows : Table SentEmailEntity) : ℕ :=
  (rows.rows.map SentEmailEntity.id).foldr max 0 + 1

/-- Postgres refuses an invalid date. -/
def SentEmailEntity.storable (row : SentEmailEntity) : Bool :=
  row.rideRequestedAt.all Option.isSome && row.rideCompletedAt.all Option.isSome

def insertRow (row : SentEmailEntity) (world : EmailWorld) :
    Except JsError SentEmailEntity × EmailWorld :=
  if row.storable then
    match world.rows.insert? { row with id := freshId world.rows } with
    | some rows =>
        (.ok { row with id := freshId world.rows }, { world with rows := rows })
    | none =>
        (.error (.queryFailed UNIQUE_VIOLATION
          "duplicate key value violates unique constraint"), world)
  else
    (.error (.queryFailed INVALID_DATETIME
      "invalid input syntax for type timestamp"), world)

def EmailWorld.answer :
    (call : EmailCall) → EmailInput → EmailWorld →
      Except JsError call.Reply × EmailWorld
  | .findOne rideId type, input, world =>
      match input.db with
      | some message => (.error (.error message), world)
      | none =>
          (.ok (world.rows.find? fun row =>
            row.rideId = rideId ∧ row.type = type), world)
  | .save row, input, world =>
      match input.db with
      | some message => (.error (.error message), world)
      | none => insertRow row world
  | .update id patch, input, world =>
      match input.db with
      | some message => (.error (.error message), world)
      | none => (.ok (), { world with rows := world.rows.update id patch })
  | .getUser _, input, world => (input.auth, world)
  | .send _, input, world =>
      (input.ses, { world with sends := world.sends ++ [input.ses] })

abbrev EmailM := Program EmailCall.Reply JsError

namespace EmailsRepository

def findOne (rideId : String) (type : EmailType) :
    EmailM (Option SentEmailEntity) :=
  Program.call (EmailCall.findOne rideId type)

def save (row : SentEmailEntity) : EmailM SentEmailEntity :=
  Program.call (EmailCall.save row)

def update (id : ℕ) (patch : SentEmailPatch) : EmailM Unit :=
  Program.call (EmailCall.update id patch)

end EmailsRepository

/-- Null when the user does not exist; any other failure is thrown. -/
def UsersClient.getUser (userId : String) : EmailM (Option UserContact) := do
  try
    let data ← Program.call (EmailCall.getUser userId)
    pure (some data)
  catch error =>
    match error with
    | .axios (some 404) _ => pure none
    | _ => throw error

def SesService.send (email : OutgoingEmail) : EmailM String :=
  Program.call (EmailCall.send email)

/-! ## EmailService -/

def USER_NOT_FOUND : String := "user_not_found"

/-- A missing field and `null` read alike, and so does a null payload, as one
without any field. -/
structure RideCompletedEvent where
  rideId : Option String
  riderId : Option String
  driverId : Option String
  fare : Option Num
  pickupLat : Option Num
  pickupLng : Option Num
  destinationLat : Option Num
  destinationLng : Option Num
  requestedAt : Option String
  completedAt : Option String
  timestamp : String
  deriving DecidableEq, Repr

namespace EmailService

variable (runtime : JsRuntime)

def pointOf : Option Num → Option Num → Option GeoPoint
  | some lat, some lng => some ⟨lat, lng⟩
  | _, _ => none

def toReceipt (event : RideCompletedEvent) (rideId riderName : String) :
    RideReceipt where
  riderName := riderName
  rideId := rideId
  fare := event.fare
  pickup := pointOf event.pickupLat event.pickupLng
  destination := pointOf event.destinationLat event.destinationLng
  requestedAt := (truthy event.requestedAt).map runtime.dateParse
  completedAt :=
    runtime.dateParse (event.completedAt.getD event.timestamp)

/-- What `emailsRepository.create` builds; the id and the number of attempts
are the database's. -/
def pendingRow (event : RideCompletedEvent) (rideId riderId subject : String)
    (toEmail : Option String) : SentEmailEntity :=
  let receipt := toReceipt runtime event rideId ""
  { id := 0
    rideId := rideId
    userId := riderId
    type := .rideReceipt
    status := .pending
    toEmail := toEmail
    subject := subject
    sesMessageId := none
    attempts := 0
    lastError := none
    fare := receipt.fare
    pickupLat := receipt.pickup.map GeoPoint.lat
    pickupLng := receipt.pickup.map GeoPoint.lng
    destinationLat := receipt.destination.map GeoPoint.lat
    destinationLng := receipt.destination.map GeoPoint.lng
    rideRequestedAt := receipt.requestedAt
    rideCompletedAt := some receipt.completedAt
    sentAt := none }

def isUniqueViolation : JsError → Bool
  | .queryFailed code _ => code == UNIQUE_VIOLATION
  | _ => false

def createRow (event : RideCompletedEvent) (rideId riderId subject : String)
    (toEmail : Option String) : EmailM (Option SentEmailEntity) := do
  try
    let row ← EmailsRepository.save
      (pendingRow runtime event rideId riderId subject toEmail)
    pure (some row)
  catch error =>
    -- another delivery created it first, use that row
    if isUniqueViolation error then
      EmailsRepository.findOne rideId .rideReceipt
    else throw error

def deref : Option SentEmailEntity → EmailM SentEmailEntity
  | some row => pure row
  | none => throw (.error "Cannot read properties of null (reading 'id')")

def ofExcept {α : Type} : Except JsError α → EmailM α
  | .ok value => pure value
  | .error error => throw error

def recordSent (now : Instant) (row : Option SentEmailEntity)
    (user : UserContact) (messageId : String) : EmailM Unit := do
  let row ← deref row
  EmailsRepository.update row.id
    { status := some .sent
      toEmail := user.email
      sesMessageId := messageId
      sentAt := some (some now)
      attempts := some (row.attempts + 1)
      lastError := some none }

/-- The `try` block of `sendRideReceipt`. -/
def sendAndRecord (now : Instant) (row : Option SentEmailEntity)
    (user : UserContact) (receipt : RideReceipt) (subject : String) :
    EmailM Unit := do
  let html ← ofExcept (rideReceiptHtml runtime receipt)
  let text ← ofExcept (rideReceiptText runtime receipt)
  let messageId ← SesService.send
    { toAddress := user.email
      subject := subject
      html := html
      text := text }
  recordSent now row user messageId

/-- Its `catch` block. -/
def recordFailure (row : Option SentEmailEntity) (error : JsError) :
    EmailM Unit := do
  let row ← deref row
  EmailsRepository.update row.id
    { status := some .failed
      attempts := some (row.attempts + 1)
      lastError := some (some (sliceTo 1000 error.message)) }
  throw error

def deliver (now : Instant) (row : Option SentEmailEntity)
    (user : UserContact) (receipt : RideReceipt) (subject : String) :
    EmailM Unit := do
  try
    sendAndRecord runtime now row user receipt subject
  catch error => recordFailure row error

def recordUserNotFound (row : Option SentEmailEntity) : EmailM Unit := do
  let row ← deref row
  EmailsRepository.update row.id
    { status := some .failed
      lastError := some (some USER_NOT_FOUND) }

def finish (now : Instant) (row : Option SentEmailEntity)
    (user : Option UserContact) (receipt : RideReceipt) (subject : String) :
    EmailM Unit :=
  match user with
  | none => recordUserNotFound row
  | some user => deliver runtime now row user receipt subject

/-- `sendRideReceipt` once auth-service has answered. -/
def afterUser (now : Instant) (event : RideCompletedEvent)
    (rideId riderId : String) (found : Option SentEmailEntity)
    (user : Option UserContact) : EmailM Unit := do
  let receipt := toReceipt runtime event rideId
    ((user.map UserContact.name).getD "there")
  let subject := rideReceiptSubject runtime receipt
  let row ← match found with
    | some row => pure (some row)
    | none =>
        createRow runtime event rideId riderId subject
          (user.map UserContact.email)
  finish runtime now row user receipt subject

def isSettled (row : SentEmailEntity) : Bool :=
  row.status == .sent ||
    (row.status == .failed && row.lastError == some USER_NOT_FOUND)

def sendRideReceipt (now : Instant) (event : RideCompletedEvent) :
    EmailM Unit :=
  match truthy event.rideId, truthy event.riderId with
  | some rideId, some riderId => do
      let found ← EmailsRepository.findOne rideId .rideReceipt
      if found.any isSettled then
        pure ()
      else
        let user ← UsersClient.getUser riderId
        afterUser runtime now event rideId riderId found user
  | _, _ => pure ()

def eachMessage (now : Instant) (value : Option RideCompletedEvent) :
    EmailM Unit :=
  Kafka.eachMessage (sendRideReceipt runtime now) value

end EmailService

end FakeBolt.Email
