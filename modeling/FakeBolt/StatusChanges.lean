import FakeBolt.DriverRequests

/-!
# The status changes that events ask for

A handler of driver-service looks up one driver, may write their photo flag,
and may change their status.  Which change it makes is a function of the
rows, and its execution is that change.
-/

namespace FakeBolt.Driver

open Await Kafka Store

structure StatusChange where
  driver : DriverEntity
  status : DriverStatus
  reason : String
  rideId : Option String

def finishChange (event : RideFinishedEvent) (drivers : Table DriverEntity) :
    Option StatusChange :=
  (truthy event.driverId).bind fun driverId =>
    (drivers.get? driverId).bind fun driver =>
      if driver.status = .busy then
        some
          { driver := driver
            status := releasedStatus driver
            reason := finishReason event
            rideId := event.rideId }
      else none

/-- The status change a handler makes, if any, going by the rows. -/
def changeOf (inbound : DriverService.Inbound) (drivers : Table DriverEntity) :
    Option StatusChange :=
  match inbound with
  | .userPhotoUpdated event =>
      if event.role ≠ "driver" then none
      else (drivers.find? fun r => r.userId = event.userId).bind fun driver =>
        if event.hasPhoto = false ∧ driver.status = .available then
          some
            { driver := driver
              status := .offline
              reason := "profile_photo_removed"
              rideId := none }
        else none
  | .driverAssigned event =>
      (drivers.get? event.driverId).bind fun driver =>
        if driver.status = .busy then none
        else some
          { driver := driver
            status := .busy
            reason := "ride_assigned"
            rideId := event.rideId }
  | .rideCompleted event => finishChange event drivers
  | .rideStatusUpdated event =>
      if event.status ≠ "cancelled" then none else finishChange event drivers

/-- The rows once the photo flag is written. -/
def synced (inbound : DriverService.Inbound) (drivers : Table DriverEntity) :
    Table DriverEntity :=
  match inbound with
  | .userPhotoUpdated event =>
      if event.role ≠ "driver" then drivers
      else
        match drivers.find? fun r => r.userId = event.userId with
        | none => drivers
        | some driver =>
            drivers.update driver.id { hasPhoto := event.hasPhoto }
  | _ => drivers

def DriverWorld.sync (inbound : DriverService.Inbound) (world : DriverWorld) :
    DriverWorld :=
  { world with drivers := synced inbound world.drivers }

theorem run_finish (now : Instant) (event : RideFinishedEvent)
    (world : DriverWorld) :
    ((DriverService.handleRideFinished now event).exec
        DriverWorld.answer world).2 =
      match finishChange event world.drivers with
      | none => world
      | some change =>
          world.changeStatus change.driver change.status
            (systemEvent now change.driver change.status change.reason
              change.rideId) := by
  rw [exec_handleRideFinished]
  unfold finishChange
  cases truthy event.driverId with
  | none => rfl
  | some driverId =>
      simp only [Option.bind_some]
      cases world.drivers.get? driverId with
      | none => rfl
      | some driver =>
          by_cases hbusy : driver.status = .busy <;> simp [hbusy]

theorem run_message (now : Instant) (inbound : DriverService.Inbound)
    (world : DriverWorld) :
    (Request.message now inbound).run world =
      match changeOf inbound world.drivers with
      | none => world.sync inbound
      | some change =>
          (world.sync inbound).changeStatus change.driver change.status
            (systemEvent now change.driver change.status change.reason
              change.rideId) := by
  simp only [Request.run, DriverService.eachMessage, exec_eachMessage]
  cases inbound with
  | userPhotoUpdated event =>
      simp only [DriverService.onMessage, exec_handleUserPhotoUpdated,
        changeOf, DriverWorld.sync, synced]
      by_cases hrole : event.role = "driver"
      · simp only [hrole, ne_eq, not_true_eq_false, if_false]
        cases world.drivers.find? fun r => r.userId = event.userId with
        | none => rfl
        | some driver =>
            simp only [Option.bind_some]
            split_ifs <;> rfl
      · simp [hrole]
  | driverAssigned event =>
      simp only [DriverService.onMessage, exec_handleDriverAssigned, changeOf,
        DriverWorld.sync, synced]
      cases world.drivers.get? event.driverId with
      | none => rfl
      | some driver =>
          by_cases hbusy : driver.status = .busy <;> simp [hbusy]
  | rideCompleted event => exact run_finish now event world
  | rideStatusUpdated event =>
      simp only [DriverService.onMessage, changeOf, Program.exec_ite]
      split_ifs with hstatus
      · rfl
      · exact run_finish now event world

end FakeBolt.Driver
