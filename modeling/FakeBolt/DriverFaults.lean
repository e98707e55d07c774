import FakeBolt.DriverRequests

/-!
# driver-service when calls fail

A call that fails is not carried out and its error reaches the operation, so
an operation stops at its first failing call and keeps what it has written
until then.  One equation per operation says which writes those are.
-/

namespace FakeBolt.Driver

open Await Kafka Store

/-- Which of the awaited calls of an execution fail, and with what. -/
abbrev Faults := ℕ → Option JsError

def underFaults {α : Type} (faults : Faults) (program : DriverM α)
    (world : DriverWorld) : Except JsError α × DriverWorld :=
  let outcome :=
    program.exec (scripted (faultable DriverWorld.answer)) (faults, world)
  (outcome.1, outcome.2.2)

/-! ## Status changes -/

def DriverWorld.writeStatus (world : DriverWorld) (driver : DriverEntity)
    (status : DriverStatus) : DriverWorld :=
  { world with
    drivers := world.drivers.update driver.id { status := status } }

def DriverWorld.writePool (world : DriverWorld) (driver : DriverEntity)
    (status : DriverStatus) : DriverWorld :=
  { world with
    pool := placeInPool world.pool driver.id status driver.lat driver.lng }

def DriverWorld.writePhoto (world : DriverWorld) (driver : DriverEntity)
    (hasPhoto : Bool) : DriverWorld :=
  { world with
    drivers := world.drivers.update driver.id { hasPhoto := hasPhoto } }

/-- A status change whose row update is call number `first`: row, pool and
event, up to the first call that fails. -/
def changeUnderFaults (faults : Faults) (first : ℕ) (world : DriverWorld)
    (driver : DriverEntity) (status : DriverStatus)
    (event : DriverStatusUpdated) : Except JsError Unit × DriverWorld :=
  match faults first, faults (first + 1), faults (first + 2) with
  | some error, _, _ => (.error error, world)
  | none, some error, _ => (.error error, world.writeStatus driver status)
  | none, none, some error =>
      (.error error, (world.writeStatus driver status).writePool driver status)
  | none, none, none => (.ok (), world.changeStatus driver status event)

theorem underFaults_eachMessage (faults : Faults) (now : Instant)
    (inbound : DriverService.Inbound) (world : DriverWorld) :
    underFaults faults (DriverService.eachMessage now (some inbound)) world =
      underFaults faults (DriverService.onMessage now inbound) world := by
  unfold underFaults
  rw [DriverService.eachMessage, exec_eachMessage]

/-- The Redis command of a status change is one call. -/
theorem exec_statusCommand {faults : Faults} (driverId : String)
    (status : DriverStatus) (lat lng : Option Num) (world : DriverWorld) :
    (RedisService.handleDriverStatusChange driverId status lat lng).exec
        (scripted (faultable DriverWorld.answer)) (faults, world) =
      match faults 0 with
      | some error => (.error error, (fun n => faults (n + 1), world))
      | none => (.ok (), (fun n => faults (n + 1), { world with
          pool := placeInPool world.pool driverId status lat lng })) := by
  cases hfault : faults 0 <;> cases status <;> cases lat <;> cases lng <;>
    simp [RedisService.handleDriverStatusChange,
      RedisService.updateDriverLocation, RedisService.removeDriverFromGeo,
      placeInPool, entryFor, faultable, DriverWorld.answer, hfault]

theorem exec_send {faults : Faults} (message : Message)
    (world : DriverWorld) :
    (publish message).exec (scripted (faultable DriverWorld.answer))
        (faults, world) =
      match faults 0 with
      | some error => (.error error, (fun n => faults (n + 1), world))
      | none => (.ok (), (fun n => faults (n + 1), { world with
          published := world.published ++ [recordOf message] })) := by
  cases hfault : faults 0 <;>
    simp [publish, recordOf, faultable, DriverWorld.answer, hfault]

theorem exec_rowUpdate {faults : Faults} (id : String) (patch : DriverPatch)
    (world : DriverWorld) :
    (DriverRepository.update id patch).exec
        (scripted (faultable DriverWorld.answer)) (faults, world) =
      match faults 0 with
      | some error => (.error error, (fun n => faults (n + 1), world))
      | none => (.ok (), (fun n => faults (n + 1), { world with
          drivers := world.drivers.update id patch })) := by
  cases hfault : faults 0 <;>
    simp [DriverRepository.update, faultable, DriverWorld.answer, hfault]

theorem exec_systemChange {faults : Faults} (first : ℕ) (now : Instant)
    (driver : DriverEntity) (status : DriverStatus) (reason : String)
    (rideId : Option String) (world : DriverWorld) :
    let outcome :=
      (DriverService.setStatusFromSystem now driver status reason rideId).exec
        (scripted (faultable DriverWorld.answer))
        (fun n => faults (n + first), world)
    (outcome.1, outcome.2.2) =
      changeUnderFaults faults first world driver status
        (systemEvent now driver status reason rideId) := by
  unfold changeUnderFaults
  have hsecond : faults (1 + first) = faults (first + 1) := by
    rw [Nat.add_comm]
  have hthird : faults (1 + 1 + first) = faults (first + 2) := by
    rw [Nat.add_comm]
  cases hrow : faults first with
  | some error =>
      simp [DriverService.setStatusFromSystem, exec_rowUpdate, hrow]
  | none =>
      cases hpool : faults (first + 1) with
      | some error =>
          simp [DriverService.setStatusFromSystem, exec_rowUpdate,
            exec_statusCommand, hrow, hsecond, hpool, DriverWorld.writeStatus]
      | none =>
          cases hsend : faults (first + 2) <;>
            simp [DriverService.setStatusFromSystem, exec_rowUpdate,
              exec_statusCommand, exec_send, hrow, hsecond, hthird, hpool, hsend,
              DriverWorld.writeStatus, DriverWorld.writePool,
              DriverWorld.changeStatus, systemEvent]

/-! ## One equation per operation -/

theorem underFaults_handleDriverAssigned (faults : Faults) (now : Instant)
    (event : DriverAssignedEvent) (world : DriverWorld) :
    underFaults faults (DriverService.handleDriverAssigned now event) world =
      match faults 0 with
      | some error => (.error error, world)
      | none =>
          match world.drivers.get? event.driverId with
          | none => (.ok (), world)
          | some driver =>
              if driver.status = .busy then (.ok (), world)
              else changeUnderFaults faults 1 world driver .busy
                (systemEvent now driver .busy "ride_assigned"
                  event.rideId) := by
  simp only [underFaults, DriverService.handleDriverAssigned,
    DriverRepository.findOneById, Program.exec_bind, Program.exec_call,
    scripted_apply]
  cases hlookup : faults 0 with
  | some error => simp [faultable]
  | none =>
      simp only [faultable, DriverWorld.answer]
      cases world.drivers.get? event.driverId with
      | none => simp
      | some driver =>
          simp only [Program.exec_ite, Program.exec_pure]
          split_ifs with hbusy
          · rfl
          · exact exec_systemChange 1 now driver .busy _ _ world

theorem underFaults_handleRideFinished (faults : Faults) (now : Instant)
    (event : RideFinishedEvent) (world : DriverWorld) :
    underFaults faults (DriverService.handleRideFinished now event) world =
      match truthy event.driverId with
      | none => (.ok (), world)
      | some driverId =>
          match faults 0 with
          | some error => (.error error, world)
          | none =>
              match world.drivers.get? driverId with
              | none => (.ok (), world)
              | some driver =>
                  if driver.status = .busy then
                    changeUnderFaults faults 1 world driver
                      (releasedStatus driver)
                      (systemEvent now driver (releasedStatus driver)
                        (finishReason event) event.rideId)
                  else (.ok (), world) := by
  simp only [underFaults, DriverService.handleRideFinished,
    DriverRepository.findOneById]
  cases truthy event.driverId with
  | none => simp
  | some driverId =>
      simp only [Program.exec_bind, Program.exec_call, scripted_apply]
      cases hlookup : faults 0 with
      | some error => simp [faultable]
      | none =>
          simp only [faultable, DriverWorld.answer]
          cases world.drivers.get? driverId with
          | none => simp
          | some driver =>
              by_cases hbusy : driver.status = .busy
              · simp only [hbusy, ne_eq, not_true_eq_false, if_false, if_true]
                exact exec_systemChange 1 now driver (releasedStatus driver)
                  (finishReason event) event.rideId world
              · simp [hbusy]

theorem underFaults_handleUserPhotoUpdated (faults : Faults) (now : Instant)
    (event : UserPhotoUpdatedEvent) (world : DriverWorld) :
    underFaults faults (DriverService.handleUserPhotoUpdated now event)
        world =
      if event.role ≠ "driver" then (.ok (), world)
      else
        match faults 0 with
        | some error => (.error error, world)
        | none =>
            match world.drivers.find? fun r => r.userId = event.userId with
            | none => (.ok (), world)
            | some driver =>
                match faults 1 with
                | some error => (.error error, world)
                | none =>
                    if event.hasPhoto = false ∧ driver.status = .available then
                      changeUnderFaults faults 2
                        (world.writePhoto driver event.hasPhoto) driver
                        .offline
                        (systemEvent now driver .offline
                          "profile_photo_removed" none)
                    else (.ok (), world.writePhoto driver event.hasPhoto) := by
  simp only [underFaults, DriverService.handleUserPhotoUpdated,
    DriverRepository.findOneByUserId, Program.exec_ite, Program.exec_bind,
    Program.exec_call, Program.exec_pure, scripted_apply]
  split_ifs with hrole
  · rfl
  · cases hlookup : faults 0 with
    | some error => simp [faultable]
    | none =>
        simp only [faultable, DriverWorld.answer]
        cases world.drivers.find? fun r => r.userId = event.userId with
        | none => simp
        | some driver =>
            simp only [Program.exec_bind, exec_rowUpdate]
            cases hrow : faults 1 with
            | some error => simp
            | none =>
                simp only [Program.exec_ite, Program.exec_pure]
                split_ifs with hoffline
                · exact exec_systemChange 2 now driver .offline _ _ _
                · rfl

end FakeBolt.Driver
