import FakeBolt.DriverMachine

/-!
# driver-service requests, executed atomically

One equation per operation says what an uninterrupted, failure-free execution
does to the table, the pool and the published events.  From these, every
operation is the action of `DriverState.apply` on the one driver it concerns
and leaves all other drivers alone.
-/

namespace FakeBolt.Driver

open Await Kafka Store

/-! ## Effects of the Redis and Kafka helpers -/

def placeInPool (pool : AvailablePool) (driverId : String)
    (status : DriverStatus) (lat lng : Option Num) : AvailablePool :=
  match entryFor status lat lng with
  | some position =>
      pool.geoadd position.longitude position.latitude driverId
  | none => pool.zrem driverId

theorem lookup_placeInPool (pool : AvailablePool) (driverId other : String)
    (status : DriverStatus) (lat lng : Option Num) :
    (placeInPool pool driverId status lat lng).lookup other =
      if other = driverId then entryFor status lat lng
      else pool.lookup other := by
  unfold placeInPool
  by_cases heq : other = driverId
  · subst other
    cases hentry : entryFor status lat lng <;> simp
  · cases hentry : entryFor status lat lng with
    | none => simp [heq, AvailablePool.lookup_zrem_of_ne heq]
    | some position => simp [heq, AvailablePool.lookup_geoadd_of_ne heq]

@[simp] theorem exec_handleDriverStatusChange (driverId : String)
    (status : DriverStatus) (lat lng : Option Num) (world : DriverWorld) :
    (RedisService.handleDriverStatusChange driverId status lat lng).exec
        DriverWorld.answer world =
      (.ok (), { world with
        pool := placeInPool world.pool driverId status lat lng }) := by
  cases status <;> cases lat <;> cases lng <;>
    simp [RedisService.handleDriverStatusChange,
      RedisService.updateDriverLocation, RedisService.removeDriverFromGeo,
      placeInPool, entryFor, DriverWorld.answer]

def recordOf (message : Message) : ProducerRecord :=
  { key := messageKey message, message := message }

@[simp] theorem exec_publish (message : Message) (world : DriverWorld) :
    (publish message).exec DriverWorld.answer world =
      (.ok (), { world with
        published := world.published ++ [recordOf message] }) := by
  simp [publish, recordOf, DriverWorld.answer]

/-! ## One equation per operation -/

/-- Row, pool and event of a status change, whoever makes it. -/
def DriverWorld.changeStatus (world : DriverWorld) (driver : DriverEntity)
    (status : DriverStatus) (event : DriverStatusUpdated) : DriverWorld where
  drivers := world.drivers.update driver.id { status := status }
  pool := placeInPool world.pool driver.id status driver.lat driver.lng
  published := world.published ++ [recordOf (.driverStatusUpdated event)]

def clientEvent (now : Instant) (id : String) (status : DriverStatus) :
    DriverStatusUpdated where
  driverId := id
  status := status
  reason := none
  rideId := none
  timestamp := isoString now

def systemEvent (now : Instant) (driver : DriverEntity)
    (status : DriverStatus) (reason : String) (rideId : Option String) :
    DriverStatusUpdated where
  driverId := driver.id
  status := status
  reason := some reason
  rideId := truthy rideId
  timestamp := isoString now

def offlineDriver (newId : String) (dto : CreateDriverDto) : DriverEntity where
  id := newId
  userId := dto.userId
  name := dto.name
  email := dto.email
  status := .offline
  hasPhoto := false
  lat := dto.lat
  lng := dto.lng

theorem exec_createDriver (newId : String) (dto : CreateDriverDto)
    (world : DriverWorld) :
    ((DriverService.createDriver newId dto).exec DriverWorld.answer world).2 =
      match world.drivers.insert? (offlineDriver newId dto) with
      | some drivers => { world with drivers := drivers }
      | none => world := by
  simp only [DriverService.createDriver, DriverRepository.findOneByEmail,
    DriverRepository.save, Program.exec_tryCatch, Program.exec_bind,
    Program.exec_call, DriverWorld.answer]
  cases hfind : world.drivers.find? fun driver => driver.email = dto.email with
  | some existing =>
      have hmem := Table.mem_of_find? hfind
      have hemail : existing.email = dto.email := by
        simpa using List.find?_some hfind
      have hrefused :
          world.drivers.insert? (offlineDriver newId dto) = none := by
        rw [Table.insert?_eq_none_iff]
        exact ⟨existing, hmem, by
          simp [Indexed.clash, offlineDriver, hemail]⟩
      simp [hrefused, JsError.isInstance]
  | none =>
      simp only [Option.isSome_none, Bool.false_eq_true, if_false,
        Program.exec_call, DriverWorld.answer]
      rw [← offlineDriver]
      cases world.drivers.insert? (offlineDriver newId dto) <;>
        simp [JsError.isInstance]

theorem exec_getDriver (id : String) (world : DriverWorld) :
    (DriverService.getDriver id).exec DriverWorld.answer world =
      match world.drivers.get? id with
      | some driver => (.ok driver, world)
      | none =>
          (.error (.http .notFound ("Driver " ++ id ++ " not found")),
            world) := by
  simp only [DriverService.getDriver, DriverRepository.findOneById,
    Program.exec_tryCatch, Program.exec_bind, Program.exec_call,
    DriverWorld.answer]
  cases world.drivers.get? id <;> simp [JsError.isInstance]

theorem exec_updateStatus (now : Instant) (id : String)
    (dto : UpdateStatusDto) (world : DriverWorld) :
    (DriverService.updateStatus now id dto).exec DriverWorld.answer world =
      match world.drivers.get? id with
      | none =>
          (.error (.http .notFound ("Driver " ++ id ++ " not found")), world)
      | some driver =>
          match statusRefusal driver dto.status with
          | some refusal => (.error refusal, world)
          | none =>
              (.ok { driver with status := dto.status },
                world.changeStatus driver dto.status
                  (clientEvent now id dto.status)) := by
  cases hget : world.drivers.get? id with
  | none =>
      simp [DriverService.updateStatus, exec_getDriver, hget,
        JsError.isHttpException]
  | some driver =>
      have hid : driver.id = id := Table.key_of_get? hget
      simp only [DriverService.updateStatus, DriverRepository.update,
        Program.exec_tryCatch, Program.exec_bind, exec_getDriver, hget,
        Program.exec_ite, statusRefusal]
      split_ifs <;>
        simp [JsError.isHttpException, DriverWorld.answer,
          DriverWorld.changeStatus, clientEvent, hid]

theorem exec_updateLocation (now : Instant) (id : String)
    (dto : UpdateLocationDto) (world : DriverWorld) :
    (DriverService.updateLocation now id dto).exec DriverWorld.answer world =
      match world.drivers.get? id with
      | none =>
          (.error (.http .notFound ("Driver " ++ id ++ " not found")), world)
      | some driver =>
          (.ok { driver with lat := dto.lat, lng := dto.lng },
            { drivers := world.drivers.update id
                { lat := dto.lat, lng := dto.lng }
              pool :=
                if driver.status = .available then
                  world.pool.geoadd dto.lng dto.lat id
                else world.pool
              published := world.published ++
                [recordOf (.driverLocationUpdated
                  { driverId := id
                    lat := dto.lat
                    lng := dto.lng
                    timestamp := isoString now })] }) := by
  cases hget : world.drivers.get? id with
  | none =>
      simp [DriverService.updateLocation, exec_getDriver, hget,
        JsError.isInstance]
  | some driver =>
      simp only [DriverService.updateLocation, DriverRepository.update,
        RedisService.updateDriverLocation, Program.exec_tryCatch,
        Program.exec_bind, exec_getDriver, hget, Program.exec_ite]
      split_ifs <;> simp [DriverWorld.answer]

@[simp] theorem exec_setStatusFromSystem (now : Instant)
    (driver : DriverEntity) (status : DriverStatus) (reason : String)
    (rideId : Option String) (world : DriverWorld) :
    (DriverService.setStatusFromSystem now driver status reason rideId).exec
        DriverWorld.answer world =
      (.ok (), world.changeStatus driver status
        (systemEvent now driver status reason rideId)) := by
  simp [DriverService.setStatusFromSystem, DriverRepository.update,
    DriverWorld.answer, DriverWorld.changeStatus, systemEvent]

theorem exec_handleUserPhotoUpdated (now : Instant)
    (event : UserPhotoUpdatedEvent) (world : DriverWorld) :
    (DriverService.handleUserPhotoUpdated now event).exec
        DriverWorld.answer world =
      if event.role ≠ "driver" then (.ok (), world)
      else
        match world.drivers.find? fun r => r.userId = event.userId with
        | none => (.ok (), world)
        | some driver =>
            let synced := { world with
              drivers := world.drivers.update driver.id
                { hasPhoto := event.hasPhoto } }
            if event.hasPhoto = false ∧ driver.status = .available then
              (.ok (), synced.changeStatus driver .offline
                (systemEvent now driver .offline
                  "profile_photo_removed" none))
            else (.ok (), synced) := by
  simp only [DriverService.handleUserPhotoUpdated,
    DriverRepository.findOneByUserId, DriverRepository.update,
    Program.exec_ite, Program.exec_bind, Program.exec_call,
    DriverWorld.answer, Program.exec_pure]
  split_ifs with hrole
  · rfl
  · cases world.drivers.find? fun r => r.userId = event.userId with
    | none => simp
    | some driver => simp [DriverWorld.answer]

theorem exec_handleDriverAssigned (now : Instant)
    (event : DriverAssignedEvent) (world : DriverWorld) :
    (DriverService.handleDriverAssigned now event).exec
        DriverWorld.answer world =
      match world.drivers.get? event.driverId with
      | none => (.ok (), world)
      | some driver =>
          if driver.status = .busy then (.ok (), world)
          else (.ok (), world.changeStatus driver .busy
            (systemEvent now driver .busy "ride_assigned" event.rideId)) := by
  simp only [DriverService.handleDriverAssigned, DriverRepository.findOneById,
    Program.exec_bind, Program.exec_call, DriverWorld.answer]
  cases world.drivers.get? event.driverId <;> simp

def finishReason (event : RideFinishedEvent) : String :=
  if event.status = "cancelled" then "ride_cancelled" else "ride_completed"

theorem exec_handleRideFinished (now : Instant)
    (event : RideFinishedEvent) (world : DriverWorld) :
    (DriverService.handleRideFinished now event).exec
        DriverWorld.answer world =
      match truthy event.driverId with
      | none => (.ok (), world)
      | some driverId =>
          match world.drivers.get? driverId with
          | none => (.ok (), world)
          | some driver =>
              if driver.status = .busy then
                (.ok (), world.changeStatus driver (releasedStatus driver)
                  (systemEvent now driver (releasedStatus driver)
                    (finishReason event) event.rideId))
              else (.ok (), world) := by
  simp only [DriverService.handleRideFinished, DriverRepository.findOneById]
  cases truthy event.driverId with
  | none => simp
  | some driverId =>
      simp only [Program.exec_bind, Program.exec_call, DriverWorld.answer]
      cases world.drivers.get? driverId with
      | none => simp
      | some driver =>
          by_cases hbusy : driver.status = .busy <;>
            simp [hbusy, releasedStatus, finishReason]

/-! ## Requests and the driver they concern -/

inductive Request where
  | createDriver (newId : String) (dto : CreateDriverDto)
  | updateStatus (now : Instant) (id : String) (dto : UpdateStatusDto)
  | updateLocation (now : Instant) (id : String) (dto : UpdateLocationDto)
  | message (now : Instant) (inbound : DriverService.Inbound)
  deriving DecidableEq, Repr

def Request.run (request : Request) (world : DriverWorld) : DriverWorld :=
  match request with
  | .createDriver newId dto =>
      ((DriverService.createDriver newId dto).exec
        DriverWorld.answer world).2
  | .updateStatus now id dto =>
      ((DriverService.updateStatus now id dto).exec
        DriverWorld.answer world).2
  | .updateLocation now id dto =>
      ((DriverService.updateLocation now id dto).exec
        DriverWorld.answer world).2
  | .message now inbound =>
      ((DriverService.eachMessage now (some inbound)).exec
        DriverWorld.answer world).2

/-- Rides end with `ride.completed` and with a cancelled
`ride.status.updated`. -/
def finishAction (event : RideFinishedEvent) :
    Option (String × DriverAction) :=
  (truthy event.driverId).map fun driverId => (driverId, .release)

/-- The driver a request concerns and what it does to them. -/
def Request.action (request : Request) (world : DriverWorld) :
    Option (String × DriverAction) :=
  match request with
  | .createDriver newId dto =>
      (world.drivers.insert? (offlineDriver newId dto)).map fun _ =>
        (newId, .create (offlineDriver newId dto))
  | .updateStatus _ id dto => some (id, .changeStatus dto.status)
  | .updateLocation _ id dto => some (id, .ping dto.lat dto.lng)
  | .message _ (.userPhotoUpdated event) =>
      if event.role ≠ "driver" then none
      else (world.drivers.find? fun r => r.userId = event.userId).map
        fun driver => (driver.id, .syncPhoto event.hasPhoto)
  | .message _ (.driverAssigned event) => some (event.driverId, .assign)
  | .message _ (.rideCompleted event) => finishAction event
  | .message _ (.rideStatusUpdated event) =>
      if event.status ≠ "cancelled" then none else finishAction event

def DriverWorld.state (world : DriverWorld) (id : String) : DriverState where
  row := world.drivers.get? id
  entry := world.pool.lookup id

/-- A state map changed at one driver id, or not at all. -/
def actOn (target : Option (String × DriverAction))
    (states : String → DriverState) (id : String) : DriverState :=
  match target with
  | none => states id
  | some (driverId, action) =>
      if id = driverId then (states id).apply action else states id

theorem actOn_named (named : Option String) (action : DriverAction)
    (states : String → DriverState) (id : String) :
    actOn (named.map fun driverId => (driverId, action)) states id =
      if named = some id then (states id).apply action else states id := by
  cases named with
  | none => simp [actOn]
  | some driverId =>
      by_cases heq : driverId = id
      · simp [actOn, heq]
      · have hne : ¬ id = driverId := fun h => heq h.symm
        simp [actOn, heq, hne]

@[simp] theorem state_row (world : DriverWorld) (id : String) :
    (world.state id).row = world.drivers.get? id := rfl

/-- The row keeps its other columns as stored; the pool entry is computed from
the row as the caller read it. -/
theorem state_changeStatus_stored {world : DriverWorld}
    {driver stored : DriverEntity} {status : DriverStatus}
    {event : DriverStatusUpdated}
    (hget : world.drivers.get? driver.id = some stored) (id : String) :
    (world.changeStatus driver status event).state id =
      if id = driver.id then
        { row := some { stored with status := status }
          entry := entryFor status driver.lat driver.lng }
      else world.state id := by
  unfold DriverWorld.state DriverWorld.changeStatus
  rw [lookup_placeInPool]
  by_cases heq : id = driver.id
  · subst id
    simp [hget, Indexed.patch, DriverPatch.apply]
  · simp [heq, Table.get?_update_of_ne _ _ heq]

theorem state_changeStatus {world : DriverWorld} {driver : DriverEntity}
    {status : DriverStatus} {event : DriverStatusUpdated}
    (hget : world.drivers.get? driver.id = some driver) (id : String) :
    (world.changeStatus driver status event).state id =
      if id = driver.id then DriverState.withStatus driver status
      else world.state id :=
  state_changeStatus_stored hget id

theorem state_createDriver (newId : String) (dto : CreateDriverDto)
    (world : DriverWorld) (id : String) :
    ((Request.createDriver newId dto).run world).state id =
      actOn ((Request.createDriver newId dto).action world) world.state id := by
  simp only [Request.run, Request.action, exec_createDriver]
  cases hinsert : world.drivers.insert? (offlineDriver newId dto) with
  | none => rfl
  | some drivers =>
      have hget := Table.get?_of_insert? hinsert id
      have hkey : Indexed.key (offlineDriver newId dto) = newId := rfl
      rw [hkey] at hget
      simp only [Option.map_some, actOn, DriverWorld.state, hget]
      by_cases heq : id = newId
      · subst id
        have hnone : world.drivers.get? newId = none :=
          Table.get?_eq_none_of_insert? hinsert
        simp [hnone, DriverState.apply]
      · simp [heq]

theorem state_updateStatus (now : Instant) (id : String)
    (dto : UpdateStatusDto) (world : DriverWorld) (other : String) :
    ((Request.updateStatus now id dto).run world).state other =
      actOn ((Request.updateStatus now id dto).action world)
        world.state other := by
  simp only [Request.run, Request.action, exec_updateStatus, actOn]
  cases hget : world.drivers.get? id with
  | none =>
      by_cases heq : other = id
      · subst other
        simp [DriverState.apply, hget]
      · simp [heq]
  | some driver =>
      have hid : driver.id = id := Table.key_of_get? hget
      subst id
      cases hrefused : statusRefusal driver dto.status with
      | some refusal =>
          by_cases heq : other = driver.id
          · subst other
            simp [DriverState.apply, hget, hrefused]
          · simp [heq, hrefused]
      | none =>
          by_cases heq : other = driver.id
          · subst other
            simp [DriverState.apply, hget, hrefused, state_changeStatus hget]
          · simp [heq, hrefused, state_changeStatus hget]

theorem state_updateLocation (now : Instant) (id : String)
    (dto : UpdateLocationDto) (world : DriverWorld) (other : String) :
    ((Request.updateLocation now id dto).run world).state other =
      actOn ((Request.updateLocation now id dto).action world)
        world.state other := by
  simp only [Request.run, Request.action, exec_updateLocation, actOn]
  cases hget : world.drivers.get? id with
  | none =>
      by_cases heq : other = id
      · subst other
        simp [DriverState.apply, hget]
      · simp [heq]
  | some driver =>
      by_cases heq : other = id
      · subst other
        by_cases havailable : driver.status = .available <;>
          simp [DriverState.apply, DriverWorld.state, hget, havailable,
            Indexed.patch, DriverPatch.apply]
      · by_cases havailable : driver.status = .available <;>
          simp [DriverWorld.state, havailable, heq,
            Table.get?_update_of_ne _ _ heq,
            AvailablePool.lookup_geoadd_of_ne heq]

theorem state_setHasPhoto {world : DriverWorld} {driver : DriverEntity}
    {hasPhoto : Bool} (hget : world.drivers.get? driver.id = some driver)
    (id : String) :
    ({ world with
        drivers := world.drivers.update driver.id
          { hasPhoto := hasPhoto } } : DriverWorld).state id =
      if id = driver.id then
        { world.state id with row := some { driver with hasPhoto := hasPhoto } }
      else world.state id := by
  unfold DriverWorld.state
  by_cases heq : id = driver.id
  · subst id
    simp [hget, Indexed.patch, DriverPatch.apply]
  · simp [heq, Table.get?_update_of_ne _ _ heq]

theorem state_userPhotoUpdated (now : Instant)
    (event : UserPhotoUpdatedEvent) (world : DriverWorld) (id : String) :
    ((Request.message now (.userPhotoUpdated event)).run world).state id =
      actOn ((Request.message now (.userPhotoUpdated event)).action world)
        world.state id := by
  simp only [Request.run, Request.action, DriverService.eachMessage,
    exec_eachMessage, DriverService.onMessage, exec_handleUserPhotoUpdated]
  split_ifs with hrole
  · rfl
  · cases hfind : world.drivers.find? fun r => r.userId = event.userId with
    | none => rfl
    | some driver =>
        have hget : world.drivers.get? driver.id = some driver :=
          Table.get?_key_of_mem (Table.mem_of_find? hfind)
        have hsynced : (world.drivers.update driver.id
            { hasPhoto := some event.hasPhoto }).get? driver.id =
              some { driver with hasPhoto := event.hasPhoto } := by
          simp [hget, Indexed.patch, DriverPatch.apply]
        simp only [Option.map_some, actOn]
        split_ifs with hoffline heq heq
        · subst id
          rw [state_changeStatus_stored hsynced, if_pos rfl]
          simp [DriverState.apply, hget, hoffline, DriverState.withStatus,
            entryFor]
        · rw [state_changeStatus_stored hsynced, if_neg heq,
            state_setHasPhoto hget, if_neg heq]
        · subst id
          rw [state_setHasPhoto hget, if_pos rfl]
          simp [DriverState.apply, hget, hoffline]
        · rw [state_setHasPhoto hget, if_neg heq]

theorem state_driverAssigned (now : Instant) (event : DriverAssignedEvent)
    (world : DriverWorld) (id : String) :
    ((Request.message now (.driverAssigned event)).run world).state id =
      actOn ((Request.message now (.driverAssigned event)).action world)
        world.state id := by
  simp only [Request.run, Request.action, DriverService.eachMessage,
    exec_eachMessage, DriverService.onMessage, exec_handleDriverAssigned,
    actOn]
  cases hget : world.drivers.get? event.driverId with
  | none =>
      by_cases heq : id = event.driverId
      · subst id
        simp [DriverState.apply, hget]
      · simp [heq]
  | some driver =>
      have hid : driver.id = event.driverId := Table.key_of_get? hget
      rw [← hid] at hget ⊢
      by_cases hbusy : driver.status = .busy <;> by_cases heq : id = driver.id
      · subst id
        simp [hbusy, DriverState.apply, hget]
      · simp [hbusy, heq]
      · subst id
        simp [hbusy, state_changeStatus hget, DriverState.apply, hget]
      · simp [hbusy, state_changeStatus hget, heq]

theorem state_rideFinished (now : Instant) (event : RideFinishedEvent)
    (world : DriverWorld) (id : String) :
    (((DriverService.handleRideFinished now event).exec
        DriverWorld.answer world).2).state id =
      actOn (finishAction event) world.state id := by
  rw [exec_handleRideFinished]
  unfold finishAction
  cases truthy event.driverId with
  | none => rfl
  | some driverId =>
      simp only [Option.map_some, actOn]
      cases hget : world.drivers.get? driverId with
      | none =>
          by_cases heq : id = driverId
          · subst id
            simp [DriverState.apply, hget]
          · simp [heq]
      | some driver =>
          have hid : driver.id = driverId := Table.key_of_get? hget
          subst driverId
          by_cases hbusy : driver.status = .busy <;>
            by_cases heq : id = driver.id
          · subst id
            simp [hbusy, state_changeStatus hget, DriverState.apply, hget]
          · simp [hbusy, state_changeStatus hget, heq]
          · subst id
            simp [hbusy, DriverState.apply, hget]
          · simp [hbusy, heq]

/-- An atomic request acts on the one driver it concerns as the driver machine
does, and on no other driver. -/
theorem Request.state_run (request : Request) (world : DriverWorld)
    (id : String) :
    (request.run world).state id =
      actOn (request.action world) world.state id := by
  cases request with
  | createDriver newId dto => exact state_createDriver newId dto world id
  | updateStatus now driverId dto =>
      exact state_updateStatus now driverId dto world id
  | updateLocation now driverId dto =>
      exact state_updateLocation now driverId dto world id
  | message now inbound =>
      cases inbound with
      | userPhotoUpdated event =>
          exact state_userPhotoUpdated now event world id
      | driverAssigned event => exact state_driverAssigned now event world id
      | rideCompleted event =>
          simp only [Request.run, DriverService.eachMessage,
            exec_eachMessage, DriverService.onMessage]
          exact state_rideFinished now event world id
      | rideStatusUpdated event =>
          simp only [Request.run, Request.action, DriverService.eachMessage,
            exec_eachMessage, DriverService.onMessage, Program.exec_ite]
          split_ifs with hstatus
          · rfl
          · exact state_rideFinished now event world id

theorem Request.created_offline {request : Request} {world : DriverWorld}
    {id : String} {driver : DriverEntity}
    (haction : request.action world = some (id, .create driver)) :
    driver.status = .offline := by
  cases request with
  | createDriver newId dto =>
      simp only [Request.action, Option.map_eq_some_iff, Prod.mk.injEq,
        DriverAction.create.injEq] at haction
      obtain ⟨_, _, _, hdriver⟩ := haction
      rw [← hdriver]
      rfl
  | updateStatus now driverId dto => simp [Request.action] at haction
  | updateLocation now driverId dto => simp [Request.action] at haction
  | message now inbound =>
      cases inbound <;> simp [Request.action, finishAction] at haction

/-! ## What is published -/

/-- Events about drivers, which no service of the ride lifecycle consumes. -/
def DriverEvent (record : ProducerRecord) : Prop :=
  (∃ event, record.message = .driverStatusUpdated event) ∨
    ∃ event, record.message = .driverLocationUpdated event

def Extends (before after : DriverWorld) : Prop :=
  ∃ records, after.published = before.published ++ records ∧
    ∀ record ∈ records, DriverEvent record

theorem Extends.refl (world : DriverWorld) : Extends world world :=
  ⟨[], by simp, by simp⟩

theorem extends_changeStatus (world : DriverWorld) (driver : DriverEntity)
    (status : DriverStatus) (event : DriverStatusUpdated) :
    Extends world (world.changeStatus driver status event) := by
  refine ⟨_, rfl, ?_⟩
  intro record hrecord
  rw [List.mem_singleton] at hrecord
  subst record
  exact Or.inl ⟨event, rfl⟩

theorem extends_handleRideFinished (now : Instant) (event : RideFinishedEvent)
    (world : DriverWorld) :
    Extends world ((DriverService.handleRideFinished now event).exec
      DriverWorld.answer world).2 := by
  rw [exec_handleRideFinished]
  cases truthy event.driverId with
  | none => exact Extends.refl world
  | some driverId =>
      simp only
      cases world.drivers.get? driverId with
      | none => exact Extends.refl world
      | some driver =>
          simp only
          split
          · exact extends_changeStatus _ _ _ _
          · exact Extends.refl world

theorem Request.extends_run (request : Request) (world : DriverWorld) :
    Extends world (request.run world) := by
  cases request with
  | createDriver newId dto =>
      simp only [Request.run, exec_createDriver]
      cases world.drivers.insert? (offlineDriver newId dto) with
      | none => exact Extends.refl world
      | some drivers => exact ⟨[], by simp, by simp⟩
  | updateStatus now id dto =>
      simp only [Request.run, exec_updateStatus]
      cases world.drivers.get? id with
      | none => exact Extends.refl world
      | some driver =>
          simp only
          cases statusRefusal driver dto.status with
          | some refusal => exact Extends.refl world
          | none => exact extends_changeStatus _ _ _ _
  | updateLocation now id dto =>
      simp only [Request.run, exec_updateLocation]
      cases world.drivers.get? id with
      | none => exact Extends.refl world
      | some driver =>
          refine ⟨_, rfl, ?_⟩
          intro record hrecord
          rw [List.mem_singleton] at hrecord
          subst record
          exact Or.inr ⟨_, rfl⟩
  | message now inbound =>
      simp only [Request.run, DriverService.eachMessage, exec_eachMessage]
      cases inbound with
      | userPhotoUpdated event =>
          simp only [DriverService.onMessage, exec_handleUserPhotoUpdated]
          split
          · exact Extends.refl world
          · cases world.drivers.find? fun r => r.userId = event.userId with
            | none => exact Extends.refl world
            | some driver =>
                simp only
                split
                · exact extends_changeStatus _ _ _ _
                · exact ⟨[], by simp, by simp⟩
      | driverAssigned event =>
          simp only [DriverService.onMessage, exec_handleDriverAssigned]
          cases world.drivers.get? event.driverId with
          | none => exact Extends.refl world
          | some driver =>
              simp only
              split
              · exact Extends.refl world
              · exact extends_changeStatus _ _ _ _
      | rideCompleted event => exact extends_handleRideFinished now event world
      | rideStatusUpdated event =>
          simp only [DriverService.onMessage, Program.exec_ite]
          split
          · exact Extends.refl world
          · exact extends_handleRideFinished now event world

/-! ## A driver to evaluate -/

def waitingDriver : DriverEntity where
  id := "d"
  userId := "u"
  name := "name"
  email := "d@example.org"
  status := .available
  hasPhoto := true
  lat := some 0
  lng := some 0

def waitingWorld : DriverWorld where
  drivers := ⟨[waitingDriver], List.pairwise_singleton _ _⟩
  pool := AvailablePool.geoadd ∅ 0 0 "d"
  published := []

end FakeBolt.Driver
