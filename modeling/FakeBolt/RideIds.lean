import FakeBolt.RideRequests
import FakeBolt.RideTraffic

/-!
# Ride ids in any spelling

`rides.id` and the ids of the rider and the driver are of type `uuid` too.  A
request finds its row by any spelling; the text of the request goes into the
event.
-/

namespace FakeBolt.Ride

open Await Audience Kafka Store

variable {uuid : UuidType}

theorem exec_publish_uuid (message : Message) (world : RideWorld) :
    (publish message).exec (answerCall uuid) world =
      (.ok (), { world with
        published := world.published ++ [recordOf message] }) := by
  simp [publish, recordOf, answerCall, RideWorld.answer]

/-- The row is stored as Postgres prints it, and the event has the texts that
it was given. -/
theorem exec_requestRide_uuid (newId : String) (createdAt now : Instant)
    (dto : RequestRideDto) (world : RideWorld) :
    ((RideService.requestRide newId createdAt now dto).exec
        (answerCall uuid) world).2 =
      match (uuid.row (requestedRide newId createdAt dto)).bind
          world.rides.insert? with
      | none => world
      | some rides =>
          { rides := rides
            published := world.published ++
              [recordOf (.rideRequested (requestedEvent now
                (requestedRide newId createdAt dto)))] } := by
  simp only [RideService.requestRide, RideRepository.save,
    Program.exec_tryCatch, Program.exec_bind, Program.exec_call, answerCall]
  rw [← requestedRide]
  cases hrow : uuid.row (requestedRide newId createdAt dto) with
  | none => rfl
  | some stored =>
      simp only [Option.bind_some]
      cases world.rides.insert? stored with
      | none => rfl
      | some rides => simp [exec_publish_uuid, requestedEvent]

theorem exec_getRide_uuid {id : String} (world : RideWorld) {ride : RideEntity}
    (hnamed : (uuid.input id).bind world.rides.get? = some ride) :
    (RideService.getRide id).exec (answerCall uuid) world =
      (.ok ride, world) := by
  obtain ⟨key, hinput, hget⟩ := Option.bind_eq_some_iff.mp hnamed
  simp [RideService.getRide, RideRepository.findOneById, answerCall, hinput,
    hget]

theorem exec_getRide_uuid_failed {id : String} (world : RideWorld)
    (hnamed : (uuid.input id).bind world.rides.get? = none) :
    ∃ error, (RideService.getRide id).exec (answerCall uuid) world =
      (.error error, world) := by
  simp only [RideService.getRide, RideRepository.findOneById,
    Program.exec_tryCatch, Program.exec_bind, Program.exec_call, answerCall]
  cases hinput : uuid.input id with
  | none => simp [UuidType.invalidInput, JsError.isInstance]
  | some key =>
      rw [hinput, Option.bind_some] at hnamed
      simp [hnamed, JsError.isInstance]

theorem exec_updateStatus_uuid (now : Instant) (id : String)
    (dto : UpdateStatusDto) (world : RideWorld) :
    ((RideService.updateStatus now id dto).exec (answerCall uuid) world).2 =
      match (uuid.input id).bind world.rides.get? with
      | none => world
      | some ride =>
          { rides := world.rides.update ride.id (statusPatch dto)
            published := world.published ++
              [recordOf (updateMessage now id ride dto)] } := by
  simp only [RideService.updateStatus]
  rw [Program.exec_tryCatch_state]
  · cases hnamed : (uuid.input id).bind world.rides.get? with
    | none =>
        obtain ⟨error, hfailed⟩ := exec_getRide_uuid_failed world hnamed
        simp only [Program.exec_bind, hfailed]
    | some ride =>
        obtain ⟨key, hinput, hget⟩ := Option.bind_eq_some_iff.mp hnamed
        have hkey : ride.id = key := Table.key_of_get? hget
        have hpatch : uuid.patch
            { status := dto.status, fare := truthyNum dto.fare } =
              some (statusPatch dto) := rfl
        simp only [Program.exec_bind, exec_getRide_uuid world hnamed,
          RideRepository.update, Program.exec_call, answerCall, hpatch, hinput,
          hkey]
        simp [exec_publish_uuid, updateMessage]
  · intro error state
    split <;> rfl

/-- What a delivery of `driver.assigned` that succeeds has done. -/
theorem exec_handleDriverAssigned_uuid {now : Instant}
    {payload : DriverAssignedPayload} {world : RideWorld}
    (hok : ((RideService.handleDriverAssigned now payload).exec
      (answerCall uuid) world).1.isOk = true) :
    ∃ driverId ride, uuid.input payload.driverId = some driverId ∧
      uuid.input payload.rideId = some ride.id ∧
      world.rides.get? ride.id = some ride ∧
      ((RideService.handleDriverAssigned now payload).exec
          (answerCall uuid) world).2 =
        { rides := world.rides.update ride.id
            (matchedPatch ⟨ride.id, driverId⟩)
          published := world.published ++
            [recordOf (.rideStatusUpdated (matchedEvent now payload ride))] } := by
  simp only [RideService.handleDriverAssigned, RideRepository.update,
    Program.exec_tryCatch, Program.exec_bind, Program.exec_call,
    answerCall] at hok ⊢
  cases hdriver : uuid.input payload.driverId with
  | none =>
      simp [UuidType.patch, UuidType.inputNullable, hdriver, Except.isOk,
        Except.toBool] at hok
  | some driverId =>
      have hpatch : uuid.patch
          { driverId := payload.driverId, status := some .matched } =
            some (matchedPatch ⟨payload.rideId, driverId⟩) := by
        simp [UuidType.patch, UuidType.inputNullable, hdriver, matchedPatch]
      cases hinput : uuid.input payload.rideId with
      | none => simp [hpatch, hinput, Except.isOk, Except.toBool] at hok
      | some key =>
          simp only [hpatch, hinput] at hok ⊢
          cases hget : world.rides.get? key with
          | none =>
              have hmissing : (uuid.input payload.rideId).bind
                  (world.rides.update key
                    (matchedPatch ⟨payload.rideId, driverId⟩)).get? = none := by
                rw [hinput, Option.bind_some, Table.get?_update_self, hget]
                rfl
              obtain ⟨error, hfailed⟩ :=
                exec_getRide_uuid_failed
                  ⟨world.rides.update key
                    (matchedPatch ⟨payload.rideId, driverId⟩),
                      world.published⟩ hmissing
              simp [hfailed, Except.isOk, Except.toBool] at hok
          | some ride =>
              have hkey : ride.id = key := Table.key_of_get? hget
              refine ⟨driverId, ride, rfl, by rw [hkey], hkey ▸ hget, ?_⟩
              have hfound : (uuid.input payload.rideId).bind
                  (world.rides.update key
                    (matchedPatch ⟨payload.rideId, driverId⟩)).get? =
                  some (RidePatch.apply
                    (matchedPatch ⟨payload.rideId, driverId⟩) ride) := by
                rw [hinput, Option.bind_some, Table.get?_update_self, hget]
                rfl
              rw [exec_getRide_uuid
                ⟨world.rides.update key
                  (matchedPatch ⟨payload.rideId, driverId⟩),
                    world.published⟩ hfound]
              simp [exec_publish_uuid, matchedPatch, matchedEvent,
                RidePatch.apply, hkey]

end FakeBolt.Ride
