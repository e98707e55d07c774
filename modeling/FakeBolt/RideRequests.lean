import FakeBolt.RideService

/-!
# ride-service requests, executed atomically

What an uninterrupted, failure-free execution of each operation does to the
table and to the published events.
-/

namespace FakeBolt.Ride

open Await Kafka Store

def recordOf (message : Message) : ProducerRecord :=
  { key := none, message := message }

@[simp] theorem exec_publish (message : Message) (world : RideWorld) :
    (publish message).exec RideWorld.answer world =
      (.ok (), { world with
        published := world.published ++ [recordOf message] }) := by
  simp [publish, recordOf, RideWorld.answer]

def requestedRide (newId : String) (createdAt : Instant)
    (dto : RequestRideDto) : RideEntity where
  id := newId
  riderId := dto.riderId
  driverId := none
  status := .requested
  pickupLat := dto.pickupLat
  pickupLng := dto.pickupLng
  destinationLat := dto.destinationLat
  destinationLng := dto.destinationLng
  fare := none
  createdAt := createdAt

def requestedEvent (now : Instant) (ride : RideEntity) : RideRequested where
  rideId := ride.id
  riderId := ride.riderId
  pickupLat := ride.pickupLat
  pickupLng := ride.pickupLng
  destinationLat := ride.destinationLat
  destinationLng := ride.destinationLng
  timestamp := isoString now

theorem exec_requestRide (newId : String) (createdAt now : Instant)
    (dto : RequestRideDto) (world : RideWorld) :
    (RideService.requestRide newId createdAt now dto).exec
        RideWorld.answer world =
      match world.rides.insert? (requestedRide newId createdAt dto) with
      | none =>
          (.error (.http .internalServerError "Failed to request ride"), world)
      | some rides =>
          (.ok (requestedRide newId createdAt dto),
            { rides := rides
              published := world.published ++
                [recordOf (.rideRequested (requestedEvent now
                  (requestedRide newId createdAt dto)))] }) := by
  simp only [RideService.requestRide, RideRepository.save,
    Program.exec_tryCatch, Program.exec_bind, Program.exec_call,
    RideWorld.answer]
  rw [← requestedRide]
  cases world.rides.insert? (requestedRide newId createdAt dto) with
  | none => simp
  | some rides => simp [requestedEvent]

theorem exec_getRide (id : String) (world : RideWorld) :
    (RideService.getRide id).exec RideWorld.answer world =
      match world.rides.get? id with
      | some ride => (.ok ride, world)
      | none =>
          (.error (.http .notFound ("Ride " ++ id ++ " not found")), world) := by
  simp only [RideService.getRide, RideRepository.findOneById,
    Program.exec_tryCatch, Program.exec_bind, Program.exec_call,
    RideWorld.answer]
  cases world.rides.get? id <;> simp [JsError.isInstance]

def statusPatch (dto : UpdateStatusDto) : RidePatch where
  status := dto.status
  fare := truthyNum dto.fare

/-- The message of a status update, on the topic the new status selects. -/
def updateMessage (now : Instant) (id : String) (ride : RideEntity)
    (dto : UpdateStatusDto) : Message :=
  if dto.status = .completed then
    .rideCompleted (RideService.rideUpdated now id ride dto)
  else .rideStatusUpdated (RideService.rideUpdated now id ride dto)

theorem exec_updateStatus (now : Instant) (id : String)
    (dto : UpdateStatusDto) (world : RideWorld) :
    (RideService.updateStatus now id dto).exec RideWorld.answer world =
      match world.rides.get? id with
      | none =>
          (.error (.http .notFound ("Ride " ++ id ++ " not found")), world)
      | some ride =>
          (.ok { ride with
              status := dto.status, fare := dto.fare <|> ride.fare },
            { rides := world.rides.update id (statusPatch dto)
              published := world.published ++
                [recordOf (updateMessage now id ride dto)] }) := by
  simp only [RideService.updateStatus, RideRepository.update,
    Program.exec_tryCatch, Program.exec_bind, exec_getRide]
  cases world.rides.get? id with
  | none => simp [JsError.isInstance]
  | some ride => simp [RideWorld.answer, statusPatch, updateMessage]

def matchedPatch (payload : DriverAssignedPayload) : RidePatch where
  driverId := payload.driverId
  status := some .matched

def matchedEvent (now : Instant) (payload : DriverAssignedPayload)
    (ride : RideEntity) : RideUpdated where
  rideId := payload.rideId
  riderId := ride.riderId
  driverId := payload.driverId
  status := .matched
  fare := none
  trip := none
  timestamp := isoString now

theorem exec_handleDriverAssigned (now : Instant)
    (payload : DriverAssignedPayload) (world : RideWorld) :
    (RideService.handleDriverAssigned now payload).exec
        RideWorld.answer world =
      match world.rides.get? payload.rideId with
      | none =>
          (.error (.http .notFound
            ("Ride " ++ payload.rideId ++ " not found")), world)
      | some ride =>
          (.ok (),
            { rides := world.rides.update payload.rideId (matchedPatch payload)
              published := world.published ++
                [recordOf (.rideStatusUpdated
                  (matchedEvent now payload ride))] }) := by
  simp only [RideService.handleDriverAssigned, RideRepository.update,
    Program.exec_tryCatch, Program.exec_bind, Program.exec_call,
    RideWorld.answer, exec_getRide, Table.get?_update_self]
  cases hget : world.rides.get? payload.rideId with
  | none =>
      have hsame := Table.update_of_get?_none world.rides
        (matchedPatch payload) hget
      simp only [matchedPatch] at hsame
      simp [hsame]
  | some ride =>
      simp [matchedPatch, matchedEvent, Indexed.patch, RidePatch.apply]

end FakeBolt.Ride
