import FakeBolt.DriverRequests
import FakeBolt.ReadThenWrite

/-!
# driver-service, call by call

A request reads the row of its driver in its first call, and the row as read
decides every later call.  What a single call does to a driver is said here
once, and for each request the calls it makes from a given row.
-/

namespace FakeBolt.Driver

open Await Kafka Store

def Request.program : Request → DriverM Unit
  | .createDriver newId dto => do
      let _ ← DriverService.createDriver newId dto
  | .updateStatus now id dto => do
      let _ ← DriverService.updateStatus now id dto
  | .updateLocation now id dto => do
      let _ ← DriverService.updateLocation now id dto
  | .message now inbound => DriverService.eachMessage now (some inbound)

theorem exec_program (request : Request) (world : DriverWorld) :
    (request.program.exec DriverWorld.answer world).2 = request.run world := by
  cases request with
  | createDriver newId dto =>
      simp only [Request.program, Request.run, Program.exec_bind]
      split <;> simp_all
  | updateStatus now id dto =>
      simp only [Request.program, Request.run, Program.exec_bind]
      split <;> simp_all
  | updateLocation now id dto =>
      simp only [Request.program, Request.run, Program.exec_bind]
      split <;> simp_all
  | message now inbound => rfl

/-! ## One call -/

def DriverCall.IsWrite : DriverCall → Prop
  | .update _ _ => True
  | .geoadd _ _ _ => True
  | .zrem _ => True
  | .send _ => True
  | _ => False

theorem blind_isWrite :
    Program.Blind DriverWorld.answer DriverCall.IsWrite := by
  intro call world world' hwrite
  cases call with
  | findOneByEmail email => exact hwrite.elim
  | findOneById id => exact hwrite.elim
  | findOneByUserId userId => exact hwrite.elim
  | save driver => exact hwrite.elim
  | update id patch => rfl
  | geoadd longitude latitude member => rfl
  | zrem member => rfl
  | send record => rfl

def DriverState.updateRow (state : DriverState) (patch : DriverPatch) :
    DriverState :=
  { state with row := state.row.map patch.apply }

/-- What one call does to the driver `d`. -/
def DriverCall.act (d : String) (call : DriverCall) (state : DriverState) :
    DriverState :=
  match call with
  | .update id patch => if id = d then state.updateRow patch else state
  | .geoadd longitude latitude member =>
      if member = d then { state with entry := some ⟨longitude, latitude⟩ }
      else state
  | .zrem member => if member = d then { state with entry := none } else state
  | _ => state

theorem state_answer {call : DriverCall} (hsave : ∀ driver, call ≠ .save driver)
    (world : DriverWorld) (d : String) :
    (DriverWorld.answer call world).2.state d = call.act d (world.state d) := by
  cases call with
  | findOneByEmail email => rfl
  | findOneById id => rfl
  | findOneByUserId userId => rfl
  | save driver => exact (hsave driver rfl).elim
  | update id patch =>
      by_cases hid : id = d
      · subst id
        simp [DriverWorld.answer, DriverWorld.state, DriverCall.act,
          DriverState.updateRow, Indexed.patch]
      · have hne : d ≠ id := fun h => hid h.symm
        simp [DriverWorld.answer, DriverWorld.state, DriverCall.act, hid,
          Table.get?_update_of_ne _ _ hne]
  | geoadd longitude latitude member =>
      by_cases hmember : member = d
      · subst member
        simp [DriverWorld.answer, DriverWorld.state, DriverCall.act]
      · have hne : d ≠ member := fun h => hmember h.symm
        simp [DriverWorld.answer, DriverWorld.state, DriverCall.act, hmember,
          AvailablePool.lookup_geoadd_of_ne hne]
  | zrem member =>
      by_cases hmember : member = d
      · subst member
        simp [DriverWorld.answer, DriverWorld.state, DriverCall.act]
      · have hne : d ≠ member := fun h => hmember h.symm
        simp [DriverWorld.answer, DriverWorld.state, DriverCall.act, hmember,
          AvailablePool.lookup_zrem_of_ne hne]
  | send record => rfl

/-! ## The calls of each request -/

def poolCall (id : String) (status : DriverStatus) (lat lng : Option Num) :
    DriverCall :=
  match entryFor status lat lng with
  | some position => .geoadd position.longitude position.latitude id
  | none => .zrem id

/-- Row, pool, event. -/
def statusCalls (id : String) (status : DriverStatus) (lat lng : Option Num)
    (event : DriverStatusUpdated) : List DriverCall :=
  [.update id { status := status }, poolCall id status lat lng,
    .send (recordOf (.driverStatusUpdated event))]

@[simp] theorem calls_handleDriverStatusChange (id : String)
    (status : DriverStatus) (lat lng : Option Num) (world : DriverWorld) :
    (RedisService.handleDriverStatusChange id status lat lng).calls
        DriverWorld.answer world = [poolCall id status lat lng] := by
  cases status <;> cases lat <;> cases lng <;>
    simp [RedisService.handleDriverStatusChange,
      RedisService.updateDriverLocation, RedisService.removeDriverFromGeo,
      poolCall, entryFor, DriverWorld.answer]

@[simp] theorem calls_publish (message : Message) (world : DriverWorld) :
    (publish message).calls DriverWorld.answer world =
      [.send (recordOf message)] := by
  simp [publish, recordOf, DriverWorld.answer]

theorem calls_getDriver (id : String) (world : DriverWorld) :
    (DriverService.getDriver id).calls DriverWorld.answer world =
      [.findOneById id] := by
  simp only [DriverService.getDriver, DriverRepository.findOneById,
    Program.calls_tryCatch, Program.calls_bind, Program.calls_call,
    Program.exec_bind, Program.exec_call, DriverWorld.answer]
  cases world.drivers.get? id <;> simp [JsError.isInstance]

/-- Dropping the result of a program makes no call. -/
theorem calls_discard {α : Type} (program : DriverM α) (world : DriverWorld) :
    (do
      let _ ← program
      pure () : DriverM Unit).calls DriverWorld.answer world =
      program.calls DriverWorld.answer world := by
  rw [Program.calls_bind]
  cases program.exec DriverWorld.answer world with
  | mk result after => cases result <;> simp

theorem calls_createDriver (newId : String) (dto : CreateDriverDto)
    (world : DriverWorld) :
    (DriverService.createDriver newId dto).calls DriverWorld.answer world =
      .findOneByEmail dto.email ::
        if (world.drivers.find? fun driver => driver.email = dto.email).isSome
        then [] else [.save (offlineDriver newId dto)] := by
  simp only [DriverService.createDriver, DriverRepository.findOneByEmail,
    DriverRepository.save, Program.calls_tryCatch, Program.calls_bind,
    Program.calls_call, Program.exec_bind, Program.exec_call,
    DriverWorld.answer]
  cases hfind : world.drivers.find? fun driver => driver.email = dto.email with
  | some existing => simp [JsError.isInstance]
  | none =>
      simp only [Option.isSome_none, Bool.false_eq_true, if_false,
        Program.calls_call, Program.exec_call, DriverWorld.answer]
      rw [← offlineDriver]
      cases world.drivers.insert? (offlineDriver newId dto) <;>
        simp [JsError.isInstance]

theorem calls_updateStatus (now : Instant) (id : String)
    (dto : UpdateStatusDto) (world : DriverWorld) :
    (DriverService.updateStatus now id dto).calls DriverWorld.answer world =
      .findOneById id ::
        match world.drivers.get? id with
        | none => []
        | some driver =>
            match statusRefusal driver dto.status with
            | some _ => []
            | none => statusCalls id dto.status driver.lat driver.lng
                (clientEvent now id dto.status) := by
  cases hget : world.drivers.get? id with
  | none =>
      simp [DriverService.updateStatus, exec_getDriver, calls_getDriver, hget,
        JsError.isHttpException]
  | some driver =>
      simp only [DriverService.updateStatus, DriverRepository.update,
        Program.calls_tryCatch, Program.calls_bind, calls_getDriver,
        exec_getDriver, hget, Program.calls_ite, Program.exec_bind,
        Program.exec_ite, statusRefusal]
      split_ifs <;>
        simp [JsError.isHttpException, DriverWorld.answer, statusCalls,
          clientEvent]

theorem calls_updateLocation (now : Instant) (id : String)
    (dto : UpdateLocationDto) (world : DriverWorld) :
    (DriverService.updateLocation now id dto).calls DriverWorld.answer world =
      .findOneById id ::
        match world.drivers.get? id with
        | none => []
        | some driver =>
            (if driver.status = .available then
              [.geoadd dto.lng dto.lat id] else []) ++
            [.update id { lat := dto.lat, lng := dto.lng },
              .send (recordOf (.driverLocationUpdated
                { driverId := id
                  lat := dto.lat
                  lng := dto.lng
                  timestamp := isoString now }))] := by
  cases hget : world.drivers.get? id with
  | none =>
      simp [DriverService.updateLocation, exec_getDriver, calls_getDriver,
        hget, JsError.isInstance]
  | some driver =>
      simp only [DriverService.updateLocation, DriverRepository.update,
        RedisService.updateDriverLocation, Program.calls_tryCatch,
        Program.calls_bind, calls_getDriver, exec_getDriver, hget,
        Program.calls_ite, Program.exec_bind, Program.exec_tryCatch,
        Program.exec_ite]
      split_ifs <;> simp [DriverWorld.answer]

@[simp] theorem calls_setStatusFromSystem (now : Instant)
    (driver : DriverEntity) (status : DriverStatus) (reason : String)
    (rideId : Option String) (world : DriverWorld) :
    (DriverService.setStatusFromSystem now driver status reason rideId).calls
        DriverWorld.answer world =
      statusCalls driver.id status driver.lat driver.lng
        (systemEvent now driver status reason rideId) := by
  simp [DriverService.setStatusFromSystem, DriverRepository.update,
    DriverWorld.answer, statusCalls, systemEvent]

theorem calls_handleUserPhotoUpdated (now : Instant)
    (event : UserPhotoUpdatedEvent) (world : DriverWorld) :
    (DriverService.handleUserPhotoUpdated now event).calls
        DriverWorld.answer world =
      if event.role ≠ "driver" then []
      else
        .findOneByUserId event.userId ::
          match world.drivers.find? fun r => r.userId = event.userId with
          | none => []
          | some driver =>
              .update driver.id { hasPhoto := event.hasPhoto } ::
                if event.hasPhoto = false ∧ driver.status = .available then
                  statusCalls driver.id .offline driver.lat driver.lng
                    (systemEvent now driver .offline
                      "profile_photo_removed" none)
                else [] := by
  simp only [DriverService.handleUserPhotoUpdated,
    DriverRepository.findOneByUserId, DriverRepository.update,
    Program.calls_ite, Program.calls_bind, Program.calls_call,
    Program.calls_pure, Program.exec_call, DriverWorld.answer]
  split_ifs with hrole
  · rfl
  · cases world.drivers.find? fun r => r.userId = event.userId with
    | none => rfl
    | some driver =>
        simp [DriverWorld.answer]

theorem calls_handleDriverAssigned (now : Instant)
    (event : DriverAssignedEvent) (world : DriverWorld) :
    (DriverService.handleDriverAssigned now event).calls
        DriverWorld.answer world =
      .findOneById event.driverId ::
        match world.drivers.get? event.driverId with
        | none => []
        | some driver =>
            if driver.status = .busy then []
            else statusCalls driver.id .busy driver.lat driver.lng
              (systemEvent now driver .busy "ride_assigned" event.rideId) := by
  simp only [DriverService.handleDriverAssigned, DriverRepository.findOneById,
    Program.calls_bind, Program.calls_call, Program.exec_call,
    DriverWorld.answer]
  cases world.drivers.get? event.driverId <;> simp

theorem calls_handleRideFinished (now : Instant)
    (event : RideFinishedEvent) (world : DriverWorld) :
    (DriverService.handleRideFinished now event).calls
        DriverWorld.answer world =
      match truthy event.driverId with
      | none => []
      | some driverId =>
          .findOneById driverId ::
            match world.drivers.get? driverId with
            | none => []
            | some driver =>
                if driver.status = .busy then
                  statusCalls driver.id (releasedStatus driver) driver.lat
                    driver.lng
                    (systemEvent now driver (releasedStatus driver)
                      (finishReason event) event.rideId)
                else [] := by
  simp only [DriverService.handleRideFinished, DriverRepository.findOneById]
  cases truthy event.driverId with
  | none => simp
  | some driverId =>
      simp only [Program.calls_bind, Program.calls_call, Program.exec_call,
        DriverWorld.answer]
      cases world.drivers.get? driverId with
      | none => simp
      | some driver =>
          by_cases hbusy : driver.status = .busy <;>
            simp [hbusy, releasedStatus, finishReason]

/-! ## Read once, then write -/

instance : Inhabited DriverWorld := ⟨⟨Table.empty, ∅, []⟩⟩

section Phases

variable {hasRead : Bool}

@[simp] theorem phased_handleDriverStatusChange (id : String)
    (status : DriverStatus) (lat lng : Option Num)
    (post : Bool → Except JsError Unit → Prop) :
    (RedisService.handleDriverStatusChange id status lat lng).Phased
        DriverWorld.answer DriverCall.IsWrite hasRead post ↔
      hasRead = true ∧ post true (.ok ()) := by
  cases status <;> cases lat <;> cases lng <;>
    simp [RedisService.handleDriverStatusChange,
      RedisService.updateDriverLocation, RedisService.removeDriverFromGeo,
      DriverCall.IsWrite, DriverWorld.answer]

@[simp] theorem phased_publish (message : Message)
    (post : Bool → Except JsError Unit → Prop) :
    (publish message).Phased DriverWorld.answer DriverCall.IsWrite hasRead
        post ↔
      hasRead = true ∧ post true (.ok ()) := by
  simp [publish, DriverCall.IsWrite, DriverWorld.answer]

@[simp] theorem phased_update (id : String) (patch : DriverPatch)
    (post : Bool → Except JsError Unit → Prop) :
    (DriverRepository.update id patch).Phased DriverWorld.answer
        DriverCall.IsWrite hasRead post ↔
      hasRead = true ∧ post true (.ok ()) := by
  simp [DriverRepository.update, DriverCall.IsWrite, DriverWorld.answer]

@[simp] theorem phased_setStatusFromSystem (now : Instant)
    (driver : DriverEntity) (status : DriverStatus) (reason : String)
    (rideId : Option String) (post : Bool → Except JsError Unit → Prop) :
    (DriverService.setStatusFromSystem now driver status reason rideId).Phased
        DriverWorld.answer DriverCall.IsWrite hasRead post ↔
      hasRead = true ∧ post true (.ok ()) := by
  simp [DriverService.setStatusFromSystem]

end Phases

theorem readsThenWrites_updateStatus (now : Instant) (id : String)
    (dto : UpdateStatusDto) :
    (Request.updateStatus now id dto).program.ReadsThenWrites
      DriverWorld.answer DriverCall.IsWrite := by
  simp only [Program.ReadsThenWrites, Request.program,
    DriverService.updateStatus, DriverService.getDriver,
    DriverRepository.findOneById, Program.phased_bind,
    Program.phased_tryCatch, Program.phased_call, DriverCall.IsWrite]
  refine ⟨by simp, ?_⟩
  intro world
  simp only [DriverWorld.answer]
  cases world.drivers.get? id with
  | none => simp [JsError.isInstance, JsError.isHttpException]
  | some driver =>
      simp only [Program.phased_pure, Program.phased_ite]
      split_ifs <;> simp [JsError.isHttpException]

theorem readsThenWrites_updateLocation (now : Instant) (id : String)
    (dto : UpdateLocationDto) :
    (Request.updateLocation now id dto).program.ReadsThenWrites
      DriverWorld.answer DriverCall.IsWrite := by
  simp only [Program.ReadsThenWrites, Request.program,
    DriverService.updateLocation, DriverService.getDriver,
    DriverRepository.findOneById, Program.phased_bind,
    Program.phased_tryCatch, Program.phased_call, DriverCall.IsWrite]
  refine ⟨by simp, ?_⟩
  intro world
  simp only [DriverWorld.answer]
  cases world.drivers.get? id with
  | none => simp [JsError.isInstance]
  | some driver =>
      simp only [Program.phased_pure, Program.phased_ite]
      split_ifs <;>
        simp [RedisService.updateDriverLocation, DriverCall.IsWrite,
          DriverWorld.answer]

theorem readsThenWrites_handleRideFinished (now : Instant)
    (event : RideFinishedEvent) :
    (DriverService.handleRideFinished now event).ReadsThenWrites
      DriverWorld.answer DriverCall.IsWrite := by
  simp only [Program.ReadsThenWrites, DriverService.handleRideFinished,
    DriverRepository.findOneById]
  cases truthy event.driverId with
  | none => simp
  | some driverId =>
      simp only [Program.phased_bind, Program.phased_call, DriverCall.IsWrite]
      refine ⟨by simp, ?_⟩
      intro world
      simp only [DriverWorld.answer]
      cases world.drivers.get? driverId with
      | none => simp
      | some driver => by_cases hbusy : driver.status = .busy <;> simp [hbusy]

theorem readsThenWrites_onMessage (now : Instant)
    (inbound : DriverService.Inbound) :
    (DriverService.onMessage now inbound).ReadsThenWrites DriverWorld.answer
      DriverCall.IsWrite := by
  cases inbound with
  | userPhotoUpdated event =>
      simp only [Program.ReadsThenWrites, DriverService.onMessage,
        DriverService.handleUserPhotoUpdated,
        DriverRepository.findOneByUserId, Program.phased_ite,
        Program.phased_bind, Program.phased_call, DriverCall.IsWrite]
      split_ifs with hrole
      · simp
      · refine ⟨by simp, ?_⟩
        intro world
        simp only [DriverWorld.answer]
        cases world.drivers.find? fun r => r.userId = event.userId with
        | none => simp
        | some driver => simp
  | driverAssigned event =>
      simp only [Program.ReadsThenWrites, DriverService.onMessage,
        DriverService.handleDriverAssigned, DriverRepository.findOneById,
        Program.phased_bind, Program.phased_call, DriverCall.IsWrite]
      refine ⟨by simp, ?_⟩
      intro world
      simp only [DriverWorld.answer]
      cases world.drivers.get? event.driverId with
      | none => simp
      | some driver => simp
  | rideCompleted event => exact readsThenWrites_handleRideFinished now event
  | rideStatusUpdated event =>
      simp only [DriverService.onMessage]
      split_ifs with hstatus
      · trivial
      · exact readsThenWrites_handleRideFinished now event

theorem readsThenWrites_program {request : Request}
    (hrequest : ∀ newId dto, request ≠ .createDriver newId dto) :
    request.program.ReadsThenWrites DriverWorld.answer DriverCall.IsWrite := by
  cases request with
  | createDriver newId dto => exact (hrequest newId dto rfl).elim
  | updateStatus now id dto => exact readsThenWrites_updateStatus now id dto
  | updateLocation now id dto => exact readsThenWrites_updateLocation now id dto
  | message now inbound =>
      have hhandler := readsThenWrites_onMessage now inbound
      simp only [Program.ReadsThenWrites, Request.program,
        DriverService.eachMessage, Kafka.eachMessage,
        Program.phased_tryCatch] at hhandler ⊢
      convert hhandler using 3
      rename_i result
      cases result <;> simp

end FakeBolt.Driver
