import FakeBolt.KafkaMessages
import FakeBolt.UniqueTable

/-!
# ride-service

The `rides` table and the operations of `RideService`.  The id and the
creation time that Postgres fills in are arguments of `requestRide`.
-/

namespace FakeBolt.Ride

open Await Kafka Store

structure RideEntity where
  id : String
  riderId : String
  driverId : Option String
  status : RideStatus
  pickupLat : Num
  pickupLng : Num
  destinationLat : Num
  destinationLng : Num
  fare : Option Num
  createdAt : Instant
  deriving DecidableEq, Repr

structure RidePatch where
  driverId : Option String := none
  status : Option RideStatus := none
  fare : Option Num := none
  deriving DecidableEq, Repr

def RidePatch.apply (patch : RidePatch) (ride : RideEntity) : RideEntity :=
  { ride with
    driverId := patch.driverId <|> ride.driverId
    status := patch.status.getD ride.status
    fare := patch.fare <|> ride.fare }

instance : Indexed RideEntity String RidePatch where
  key ride := ride.id
  clash r s := r.id == s.id
  clash_of_key_eq := by
    intro r s hkey
    simp [hkey]
  clash_symm := by
    intro r s hclash
    rw [beq_iff_eq] at hclash ⊢
    exact hclash.symm
  patch := RidePatch.apply
  key_patch _ _ := rfl
  clash_patch hclash := hclash

inductive RideCall where
  | save (ride : RideEntity)
  | findOneById (id : String)
  | update (id : String) (patch : RidePatch)
  | send (record : ProducerRecord)

@[reducible] def RideCall.Reply : RideCall → Type
  | .save _ => RideEntity
  | .findOneById _ => Option RideEntity
  | .update _ _ => Unit
  | .send _ => Unit

structure RideWorld where
  rides : Table RideEntity
  published : List ProducerRecord

/-- Postgres and Kafka answering a call that does not fail, for ids in the
spelling of the rows. -/
def RideWorld.answer :
    (call : RideCall) → RideWorld → Except JsError call.Reply × RideWorld
  | .save ride, world =>
      match world.rides.insert? ride with
      | some rides => (.ok ride, { world with rides := rides })
      | none =>
          (.error (.queryFailed "23505"
            "duplicate key value violates unique constraint"), world)
  | .findOneById id, world => (.ok (world.rides.get? id), world)
  | .update id patch, world =>
      (.ok (), { world with rides := world.rides.update id patch })
  | .send record, world =>
      (.ok (), { world with published := world.published ++ [record] })

abbrev RideM := Program RideCall.Reply JsError

namespace RideRepository

def save (ride : RideEntity) : RideM RideEntity :=
  Program.call (RideCall.save ride)

def findOneById (id : String) : RideM (Option RideEntity) :=
  Program.call (RideCall.findOneById id)

def update (id : String) (patch : RidePatch) : RideM Unit :=
  Program.call (RideCall.update id patch)

end RideRepository

/-- The producer sets no key. -/
def publish (message : Message) : RideM Unit := do
  try
    Program.call (RideCall.send { key := none, message := message })
  catch error => throw error

structure RequestRideDto where
  riderId : String
  pickupLat : Num
  pickupLng : Num
  destinationLat : Num
  destinationLng : Num
  deriving DecidableEq, Repr

structure UpdateStatusDto where
  status : RideStatus
  fare : Option Num
  deriving DecidableEq, Repr

structure DriverAssignedPayload where
  rideId : String
  driverId : String
  deriving DecidableEq, Repr

/-- A number seen through a truthiness test. -/
def truthyNum (value : Option Num) : Option Num :=
  value.filter fun x => x ≠ 0

namespace RideService

def requestRide (newId : String) (createdAt now : Instant)
    (dto : RequestRideDto) : RideM RideEntity := do
  try
    let saved ← RideRepository.save
      { id := newId
        riderId := dto.riderId
        status := .requested
        pickupLat := dto.pickupLat
        pickupLng := dto.pickupLng
        destinationLat := dto.destinationLat
        destinationLng := dto.destinationLng
        driverId := none
        fare := none
        createdAt := createdAt }
    publish (.rideRequested
      { rideId := saved.id
        riderId := saved.riderId
        pickupLat := saved.pickupLat
        pickupLng := saved.pickupLng
        destinationLat := saved.destinationLat
        destinationLng := saved.destinationLng
        timestamp := isoString now })
    pure saved
  catch _ => throw (.http .internalServerError "Failed to request ride")

def getRide (id : String) : RideM RideEntity := do
  try
    match ← RideRepository.findOneById id with
    | none => throw (.http .notFound ("Ride " ++ id ++ " not found"))
    | some ride => pure ride
  catch error =>
    if error.isInstance .notFound then throw error
    else throw (.http .internalServerError "Failed to find ride")

/-- The event of a status update: a completion carries the trip. -/
def rideUpdated (now : Instant) (id : String) (ride : RideEntity)
    (dto : UpdateStatusDto) : RideUpdated where
  rideId := id
  riderId := ride.riderId
  driverId := ride.driverId
  status := dto.status
  fare := dto.fare <|> ride.fare
  trip :=
    if dto.status = .completed then
      some
        { pickupLat := ride.pickupLat
          pickupLng := ride.pickupLng
          destinationLat := ride.destinationLat
          destinationLng := ride.destinationLng
          requestedAt := ride.createdAt
          completedAt := isoString now }
    else none
  timestamp := isoString now

def updateStatus (now : Instant) (id : String) (dto : UpdateStatusDto) :
    RideM RideEntity := do
  try
    let ride ← getRide id
    RideRepository.update id
      { status := dto.status, fare := truthyNum dto.fare }
    let event := rideUpdated now id ride dto
    publish (if dto.status = .completed then .rideCompleted event
      else .rideStatusUpdated event)
    pure { ride with status := dto.status, fare := dto.fare <|> ride.fare }
  catch error =>
    if error.isInstance .notFound then throw error
    else throw (.http .internalServerError "Failed to update ride status")

def handleDriverAssigned (now : Instant) (payload : DriverAssignedPayload) :
    RideM Unit := do
  try
    RideRepository.update payload.rideId
      { driverId := payload.driverId, status := some .matched }
    let ride ← getRide payload.rideId
    publish (.rideStatusUpdated
      { rideId := payload.rideId
        riderId := ride.riderId
        driverId := payload.driverId
        status := .matched
        fare := none
        trip := none
        timestamp := isoString now })
  catch error => throw error

def eachMessage (now : Instant) (value : Option DriverAssignedPayload) :
    RideM Unit :=
  Kafka.eachMessage (handleDriverAssigned now) value

end RideService

end FakeBolt.Ride
