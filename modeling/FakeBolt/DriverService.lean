import FakeBolt.KafkaMessages
import FakeBolt.UniqueTable
import FakeBolt.AvailablePool

/-!
# driver-service

The `drivers` table, the pool of available drivers in Redis, and the
operations of `DriverService` and `RedisService` as programs over them.  Ids
that Postgres generates and the clock are arguments of the operation that
reads them.
-/

namespace FakeBolt.Driver

open Await Kafka Store

structure DriverEntity where
  id : String
  userId : String
  name : String
  email : String
  status : DriverStatus
  hasPhoto : Bool
  lat : Option Num
  lng : Option Num
  deriving DecidableEq, Repr

structure DriverPatch where
  status : Option DriverStatus := none
  hasPhoto : Option Bool := none
  lat : Option Num := none
  lng : Option Num := none
  deriving DecidableEq, Repr

def DriverPatch.apply (patch : DriverPatch) (driver : DriverEntity) :
    DriverEntity :=
  { driver with
    status := patch.status.getD driver.status
    hasPhoto := patch.hasPhoto.getD driver.hasPhoto
    lat := patch.lat <|> driver.lat
    lng := patch.lng <|> driver.lng }

/-- `id` is the primary key; `user_id` and `email` have unique indexes. -/
instance : Indexed DriverEntity String DriverPatch where
  key driver := driver.id
  clash r s := r.id == s.id || r.userId == s.userId || r.email == s.email
  clash_of_key_eq := by
    intro r s hkey
    simp [hkey]
  clash_symm := by
    intro r s hclash
    simp only [Bool.or_eq_true, beq_iff_eq] at hclash ⊢
    rcases hclash with (h | h) | h <;> simp [h]
  patch := DriverPatch.apply
  key_patch _ _ := rfl
  clash_patch hclash := hclash

/-! ## Awaited calls -/

inductive DriverCall where
  | findOneByEmail (email : String)
  | findOneById (id : String)
  | findOneByUserId (userId : String)
  | save (driver : DriverEntity)
  | update (id : String) (patch : DriverPatch)
  | geoadd (longitude latitude : Num) (member : String)
  | zrem (member : String)
  | send (record : ProducerRecord)

@[reducible] def DriverCall.Reply : DriverCall → Type
  | .findOneByEmail _ => Option DriverEntity
  | .findOneById _ => Option DriverEntity
  | .findOneByUserId _ => Option DriverEntity
  | .save _ => DriverEntity
  | .update _ _ => Unit
  | .geoadd _ _ _ => Unit
  | .zrem _ => Unit
  | .send _ => Unit

/-- The table, the Redis pool `drivers:available`, and what the service has
published, in order. -/
structure DriverWorld where
  drivers : Table DriverEntity
  pool : AvailablePool
  published : List ProducerRecord

def UNIQUE_VIOLATION : String := "23505"

/-- Postgres, Redis and Kafka answering a call that does not fail.  Ids are
compared as texts, which is right for ids in the spelling of the rows. -/
def DriverWorld.answer :
    (call : DriverCall) → DriverWorld →
      Except JsError call.Reply × DriverWorld
  | .findOneByEmail email, world =>
      (.ok (world.drivers.find? fun driver => driver.email = email), world)
  | .findOneById id, world => (.ok (world.drivers.get? id), world)
  | .findOneByUserId userId, world =>
      (.ok (world.drivers.find? fun driver => driver.userId = userId), world)
  | .save driver, world =>
      match world.drivers.insert? driver with
      | some drivers => (.ok driver, { world with drivers := drivers })
      | none =>
          (.error (.queryFailed UNIQUE_VIOLATION
            "duplicate key value violates unique constraint"), world)
  | .update id patch, world =>
      (.ok (), { world with drivers := world.drivers.update id patch })
  | .geoadd longitude latitude member, world =>
      (.ok (), { world with
        pool := world.pool.geoadd longitude latitude member })
  | .zrem member, world =>
      (.ok (), { world with pool := world.pool.zrem member })
  | .send record, world =>
      (.ok (), { world with published := world.published ++ [record] })

abbrev DriverM := Program DriverCall.Reply JsError

namespace DriverRepository

def findOneByEmail (email : String) : DriverM (Option DriverEntity) :=
  Program.call (DriverCall.findOneByEmail email)

def findOneById (id : String) : DriverM (Option DriverEntity) :=
  Program.call (DriverCall.findOneById id)

def findOneByUserId (userId : String) : DriverM (Option DriverEntity) :=
  Program.call (DriverCall.findOneByUserId userId)

def save (driver : DriverEntity) : DriverM DriverEntity :=
  Program.call (DriverCall.save driver)

def update (id : String) (patch : DriverPatch) : DriverM Unit :=
  Program.call (DriverCall.update id patch)

end DriverRepository

/-! ## RedisService -/

namespace RedisService

def updateDriverLocation (driverId : String) (lat lng : Num) : DriverM Unit := do
  try
    -- GEOADD expects longitude first then latitude
    Program.call (DriverCall.geoadd lng lat driverId)
  catch error => throw error

def removeDriverFromGeo (driverId : String) : DriverM Unit := do
  try
    Program.call (DriverCall.zrem driverId)
  catch error => throw error

def handleDriverStatusChange (driverId : String) (status : DriverStatus)
    (lat lng : Option Num) : DriverM Unit :=
  match status, lat, lng with
  | .available, some lat, some lng => updateDriverLocation driverId lat lng
  | _, _, _ => removeDriverFromGeo driverId

end RedisService

/-! ## KafkaProducer -/

/-- `message["driverId"]?.toString()`. -/
def messageKey : Message → Option String
  | .driverStatusUpdated event => some event.driverId
  | .driverLocationUpdated event => some event.driverId
  | _ => none

def publish (message : Message) : DriverM Unit := do
  try
    Program.call (DriverCall.send { key := messageKey message, message := message })
  catch error => throw error

/-! ## DriverService -/

structure CreateDriverDto where
  userId : String
  name : String
  email : String
  lat : Option Num
  lng : Option Num
  deriving DecidableEq, Repr

structure UpdateStatusDto where
  status : DriverStatus
  deriving DecidableEq, Repr

structure UpdateLocationDto where
  lat : Num
  lng : Num
  deriving DecidableEq, Repr

structure UserPhotoUpdatedEvent where
  userId : String
  role : String
  hasPhoto : Bool
  deriving DecidableEq, Repr

structure DriverAssignedEvent where
  rideId : String
  driverId : String
  deriving DecidableEq, Repr

structure RideFinishedEvent where
  rideId : String
  driverId : Option String
  status : String
  deriving DecidableEq, Repr

namespace DriverService

def createDriver (newId : String) (dto : CreateDriverDto) :
    DriverM DriverEntity := do
  try
    let existing ← DriverRepository.findOneByEmail dto.email
    if existing.isSome then
      throw (.http .conflict "Driver with this email already exists")
    DriverRepository.save
      { id := newId
        userId := dto.userId
        name := dto.name
        email := dto.email
        lat := dto.lat
        lng := dto.lng
        status := .offline
        hasPhoto := false }
  catch error =>
    if error.isInstance .conflict then throw error
    else throw (.http .internalServerError "Failed to create driver")

def getDriver (id : String) : DriverM DriverEntity := do
  try
    match ← DriverRepository.findOneById id with
    | none => throw (.http .notFound ("Driver " ++ id ++ " not found"))
    | some driver => pure driver
  catch error =>
    if error.isInstance .notFound then throw error
    else throw (.http .internalServerError "Failed to find driver")

def updateStatus (now : Instant) (id : String) (dto : UpdateStatusDto) :
    DriverM DriverEntity := do
  try
    let driver ← getDriver id
    -- busy is owned by the ride lifecycle: set on driver.assigned, cleared on
    -- ride end
    if dto.status = .busy then
      throw (.http .unprocessableEntity
        "Busy is set automatically when a ride is assigned")
    if driver.status = .busy then
      throw (.http .conflict "Finish the current ride before changing status")
    if dto.status = .available ∧ driver.hasPhoto = false then
      throw (.http .unprocessableEntity
        "Upload a profile photo before going online")
    DriverRepository.update id { status := dto.status }
    RedisService.handleDriverStatusChange id dto.status driver.lat driver.lng
    publish (.driverStatusUpdated
      { driverId := id
        status := dto.status
        reason := none
        rideId := none
        timestamp := isoString now })
    pure { driver with status := dto.status }
  catch error =>
    if error.isHttpException then throw error
    else throw (.http .internalServerError "Failed to update driver status")

def updateLocation (now : Instant) (id : String) (dto : UpdateLocationDto) :
    DriverM DriverEntity := do
  try
    let driver ← getDriver id
    if driver.status = .available then
      RedisService.updateDriverLocation id dto.lat dto.lng
    DriverRepository.update id { lat := dto.lat, lng := dto.lng }
    publish (.driverLocationUpdated
      { driverId := id
        lat := dto.lat
        lng := dto.lng
        timestamp := isoString now })
    pure { driver with lat := dto.lat, lng := dto.lng }
  catch error =>
    if error.isInstance .notFound then throw error
    else throw (.http .internalServerError "Failed to update driver location")

/-- Status changes the system makes, not the driver: row, pool, event.  The
position comes from the row as the caller read it. -/
def setStatusFromSystem (now : Instant) (driver : DriverEntity)
    (status : DriverStatus) (reason : String) (rideId : Option String) :
    DriverM Unit := do
  DriverRepository.update driver.id { status := status }
  RedisService.handleDriverStatusChange driver.id status driver.lat driver.lng
  publish (.driverStatusUpdated
    { driverId := driver.id
      status := status
      reason := some reason
      rideId := truthy rideId
      timestamp := isoString now })

def handleUserPhotoUpdated (now : Instant) (event : UserPhotoUpdatedEvent) :
    DriverM Unit := do
  if event.role ≠ "driver" then
    pure ()
  else
    match ← DriverRepository.findOneByUserId event.userId with
    | none => pure ()
    | some driver =>
        DriverRepository.update driver.id { hasPhoto := event.hasPhoto }
        -- a busy driver keeps the current ride and goes offline when it ends
        if event.hasPhoto = false ∧ driver.status = .available then
          setStatusFromSystem now driver .offline "profile_photo_removed" none

def handleDriverAssigned (now : Instant) (event : DriverAssignedEvent) :
    DriverM Unit := do
  match ← DriverRepository.findOneById event.driverId with
  | none => pure ()
  | some driver =>
      -- a busy driver is taken to mean a redelivered event
      if driver.status = .busy then
        pure ()
      else
        setStatusFromSystem now driver .busy "ride_assigned" event.rideId

def handleRideFinished (now : Instant) (event : RideFinishedEvent) :
    DriverM Unit := do
  match truthy event.driverId with
  | none => pure ()
  | some driverId =>
      match ← DriverRepository.findOneById driverId with
      | none => pure ()
      | some driver =>
          if driver.status ≠ .busy then
            pure ()
          else
            let next : DriverStatus :=
              if driver.hasPhoto then .available else .offline
            let reason :=
              if event.status = "cancelled" then "ride_cancelled"
              else "ride_completed"
            setStatusFromSystem now driver next reason event.rideId

inductive Inbound where
  | userPhotoUpdated (event : UserPhotoUpdatedEvent)
  | driverAssigned (event : DriverAssignedEvent)
  | rideCompleted (event : RideFinishedEvent)
  | rideStatusUpdated (event : RideFinishedEvent)
  deriving DecidableEq, Repr

/-- The handlers that `onModuleInit` registers. -/
def onMessage (now : Instant) : Inbound → DriverM Unit
  | .userPhotoUpdated event => handleUserPhotoUpdated now event
  | .driverAssigned event => handleDriverAssigned now event
  | .rideCompleted event => handleRideFinished now event
  | .rideStatusUpdated event =>
      -- only cancellations free the driver
      if event.status ≠ "cancelled" then pure ()
      else handleRideFinished now event

def eachMessage (now : Instant) (value : Option Inbound) : DriverM Unit :=
  Kafka.eachMessage (onMessage now) value

end DriverService

end FakeBolt.Driver
