import FakeBolt.PoolRowInvariant

/-!
# What the events of driver-service tell

Along every sequence of atomic operations, the events that are published about
a driver are a history that the row bears out: each status event is a change
that the service permits after the one before it, the last one has the status
of the row, and the last location event its position.
-/

namespace FakeBolt.Driver

open Await Kafka Store

/-! ## Events about one driver -/

def statusEventOf (id : String) : Message → Option DriverStatusUpdated
  | .driverStatusUpdated event => if event.driverId = id then some event else none
  | _ => none

def locationEventOf (id : String) : Message → Option DriverLocationUpdated
  | .driverLocationUpdated event =>
      if event.driverId = id then some event else none
  | _ => none

def statusEvents (world : DriverWorld) (id : String) :
    List DriverStatusUpdated :=
  world.published.filterMap fun record => statusEventOf id record.message

def locationEvents (world : DriverWorld) (id : String) :
    List DriverLocationUpdated :=
  world.published.filterMap fun record => locationEventOf id record.message

/-- The changes that a status event may announce.  Only a ride makes a driver
busy, and only the end of a ride releases them. -/
inductive Permitted (before : DriverStatus) (event : DriverStatusUpdated) :
    Prop where
  | byDriver (reason : event.reason = none) (ride : event.rideId = none)
      (free : before ≠ .busy) (status : event.status ≠ .busy)
  | photoRemoved (reason : event.reason = some "profile_photo_removed")
      (ride : event.rideId = none) (online : before = .available)
      (status : event.status = .offline)
  | assigned (reason : event.reason = some "ride_assigned")
      (free : before ≠ .busy) (status : event.status = .busy)
  | released (reason : event.reason = some "ride_completed" ∨
        event.reason = some "ride_cancelled")
      (driving : before = .busy) (status : event.status ≠ .busy)

/-- Permitted changes from one status to another. -/
inductive History (first : DriverStatus) :
    List DriverStatusUpdated → DriverStatus → Prop where
  | start : History first [] first
  | change {events : List DriverStatusUpdated} {before : DriverStatus}
      {event : DriverStatusUpdated} (earlier : History first events before)
      (permitted : Permitted before event) :
      History first (events ++ [event]) event.status

theorem History.last_status {first status : DriverStatus}
    {events : List DriverStatusUpdated} (hhistory : History first events status)
    (hne : status ≠ first) :
    events.getLast?.map DriverStatusUpdated.status = some status := by
  cases hhistory with
  | start => exact (hne rfl).elim
  | change earlier permitted => simp

/-- The row bears the events out. -/
structure BornOut (world : DriverWorld) (id : String) : Prop where
  history : ∀ driver, world.drivers.get? id = some driver →
    History .offline (statusEvents world id) driver.status
  position : ∀ driver, world.drivers.get? id = some driver →
    ∀ event, (locationEvents world id).getLast? = some event →
      driver.lat = some event.lat ∧ driver.lng = some event.lng
  unknown : world.drivers.get? id = none →
    statusEvents world id = [] ∧ locationEvents world id = []

/-! ## Published events -/

section Published

variable {world : DriverWorld} {id : String}

theorem statusEvents_append {after : DriverWorld} {record : ProducerRecord}
    (hpublished : after.published = world.published ++ [record]) :
    statusEvents after id =
      statusEvents world id ++ (statusEventOf id record.message).toList := by
  unfold statusEvents
  rw [hpublished, List.filterMap_append]
  cases hevent : statusEventOf id record.message <;> simp [hevent]

theorem locationEvents_append {after : DriverWorld} {record : ProducerRecord}
    (hpublished : after.published = world.published ++ [record]) :
    locationEvents after id =
      locationEvents world id ++ (locationEventOf id record.message).toList := by
  unfold locationEvents
  rw [hpublished, List.filterMap_append]
  cases hevent : locationEventOf id record.message <;> simp [hevent]

/-- Nothing is published about the driver, and the row keeps its status and
position. -/
theorem BornOut.of_quiet {after : DriverWorld} (hborn : BornOut world id)
    (hstatus : statusEvents after id = statusEvents world id)
    (hlocation : locationEvents after id = locationEvents world id)
    (hrow : ∀ driver, after.drivers.get? id = some driver →
      ∃ before, world.drivers.get? id = some before ∧
        driver.status = before.status ∧ driver.lat = before.lat ∧
        driver.lng = before.lng)
    (hgone : after.drivers.get? id = none → world.drivers.get? id = none) :
    BornOut after id := by
  constructor
  · intro driver hdriver
    obtain ⟨before, hbefore, hsame, -⟩ := hrow driver hdriver
    rw [hstatus, hsame]
    exact hborn.history before hbefore
  · intro driver hdriver event hlast
    obtain ⟨before, hbefore, -, hlat, hlng⟩ := hrow driver hdriver
    rw [hlat, hlng]
    rw [hlocation] at hlast
    exact hborn.position before hbefore event hlast
  · intro hnone
    rw [hstatus, hlocation]
    exact hborn.unknown (hgone hnone)

theorem BornOut.of_same {after : DriverWorld} (hborn : BornOut world id)
    (hstatus : statusEvents after id = statusEvents world id)
    (hlocation : locationEvents after id = locationEvents world id)
    (hrow : after.drivers.get? id = world.drivers.get? id) : BornOut after id := by
  apply hborn.of_quiet hstatus hlocation
  · intro driver hdriver
    rw [hrow] at hdriver
    exact ⟨driver, hdriver, rfl, rfl, rfl⟩
  · intro hnone
    rw [← hrow]
    exact hnone

end Published

/-! ## Operations -/

section Operations

variable {world : DriverWorld}

theorem bornOut_createDriver (hborn : ∀ id, BornOut world id) (newId : String)
    (dto : CreateDriverDto) (id : String) :
    BornOut ((Request.createDriver newId dto).run world) id := by
  simp only [Request.run, exec_createDriver]
  cases hinsert : world.drivers.insert? (offlineDriver newId dto) with
  | none => exact hborn id
  | some drivers =>
      have hget := Table.get?_of_insert? hinsert id
      have hkey : Indexed.key (offlineDriver newId dto) = newId := rfl
      rw [hkey] at hget
      by_cases hid : id = newId
      · subst hid
        rw [if_pos rfl] at hget
        have hnew : world.drivers.get? id = none :=
          Table.get?_eq_none_of_insert? hinsert
        obtain ⟨hstatus, hlocation⟩ := (hborn id).unknown hnew
        constructor
        · intro driver hdriver
          rw [hget] at hdriver
          cases hdriver
          change History .offline (statusEvents world id) .offline
          rw [hstatus]
          exact .start
        · intro driver _ event hlast
          change (locationEvents world id).getLast? = some event at hlast
          rw [hlocation] at hlast
          cases hlast
        · intro hnone
          rw [hget] at hnone
          cases hnone
      · exact (hborn id).of_same rfl rfl (hget.trans (if_neg hid))

/-- A status change of a driver, as whoever makes it has read the row. -/
theorem bornOut_changeStatus (hborn : ∀ id, BornOut world id)
    {driver stored : DriverEntity} {status : DriverStatus}
    {event : DriverStatusUpdated}
    (hget : world.drivers.get? driver.id = some stored)
    (hdriverId : event.driverId = driver.id) (hstatus : event.status = status)
    (hpermitted : Permitted stored.status event) (id : String) :
    BornOut (world.changeStatus driver status event) id := by
  have hafter : (world.changeStatus driver status event).published =
      world.published ++ [recordOf (.driverStatusUpdated event)] := rfl
  by_cases hid : id = driver.id
  · subst hid
    have hevents : statusEvents (world.changeStatus driver status event)
        driver.id = statusEvents world driver.id ++ [event] := by
      rw [statusEvents_append hafter]
      simp [recordOf, statusEventOf, hdriverId]
    have hlocations : locationEvents (world.changeStatus driver status event)
        driver.id = locationEvents world driver.id := by
      rw [locationEvents_append hafter]
      simp [recordOf, locationEventOf]
    have hrow : (world.changeStatus driver status event).drivers.get?
        driver.id = some { stored with status := status } := by
      simp [DriverWorld.changeStatus, hget, Indexed.patch, DriverPatch.apply]
    constructor
    · intro changed hchanged
      rw [hrow] at hchanged
      cases hchanged
      rw [hevents]
      change History .offline _ status
      rw [← hstatus]
      exact .change ((hborn driver.id).history stored hget) hpermitted
    · intro changed hchanged
      rw [hrow] at hchanged
      cases hchanged
      rw [hlocations]
      exact (hborn driver.id).position stored hget
    · intro hnone
      rw [hrow] at hnone
      cases hnone
  · apply (hborn id).of_same
    · rw [statusEvents_append hafter]
      simp [recordOf, statusEventOf, hdriverId, Ne.symm hid]
    · rw [locationEvents_append hafter]
      simp [recordOf, locationEventOf]
    · exact Table.get?_update_of_ne _ _ hid

theorem bornOut_updateStatus (hborn : ∀ id, BornOut world id) (now : Instant)
    (driverId : String) (dto : UpdateStatusDto) (id : String) :
    BornOut ((Request.updateStatus now driverId dto).run world) id := by
  simp only [Request.run, exec_updateStatus]
  cases hget : world.drivers.get? driverId with
  | none => exact hborn id
  | some driver =>
      have hid : driver.id = driverId := Table.key_of_get? hget
      subst hid
      simp only
      cases hrefused : statusRefusal driver dto.status with
      | some refusal => exact hborn id
      | none =>
          obtain ⟨hstatus, hfree, -⟩ := statusRefusal_eq_none_iff.mp hrefused
          have hpermitted : Permitted driver.status
              (clientEvent now driver.id dto.status) :=
            .byDriver rfl rfl hfree hstatus
          exact bornOut_changeStatus hborn hget rfl rfl hpermitted id

theorem bornOut_moved (hborn : ∀ id, BornOut world id) {after : DriverWorld}
    {driver : DriverEntity} {event : DriverLocationUpdated}
    (hget : world.drivers.get? event.driverId = some driver)
    (hdrivers : after.drivers = world.drivers.update event.driverId
      { lat := event.lat, lng := event.lng })
    (hpublished : after.published =
      world.published ++ [recordOf (.driverLocationUpdated event)])
    (id : String) : BornOut after id := by
  have hstatus : statusEvents after id = statusEvents world id := by
    rw [statusEvents_append hpublished]
    simp [recordOf, statusEventOf]
  by_cases hid : id = event.driverId
  · subst hid
    have hrow : after.drivers.get? event.driverId =
        some { driver with lat := some event.lat, lng := some event.lng } := by
      rw [hdrivers]
      simp [hget, Indexed.patch, DriverPatch.apply]
    have hlocations : locationEvents after event.driverId =
        locationEvents world event.driverId ++ [event] := by
      rw [locationEvents_append hpublished]
      simp [recordOf, locationEventOf]
    constructor
    · intro moved hmoved
      rw [hrow] at hmoved
      cases hmoved
      rw [hstatus]
      exact (hborn event.driverId).history driver hget
    · intro moved hmoved last hlast
      rw [hrow] at hmoved
      cases hmoved
      rw [hlocations, List.getLast?_concat] at hlast
      cases hlast
      exact ⟨rfl, rfl⟩
    · intro hnone
      rw [hrow] at hnone
      cases hnone
  · apply (hborn id).of_same hstatus
    · rw [locationEvents_append hpublished]
      simp [recordOf, locationEventOf, Ne.symm hid]
    · rw [hdrivers]
      exact Table.get?_update_of_ne _ _ hid

theorem bornOut_updateLocation (hborn : ∀ id, BornOut world id) (now : Instant)
    (driverId : String) (dto : UpdateLocationDto) (id : String) :
    BornOut ((Request.updateLocation now driverId dto).run world) id := by
  simp only [Request.run, exec_updateLocation]
  cases hget : world.drivers.get? driverId with
  | none => exact hborn id
  | some driver => exact bornOut_moved hborn hget rfl rfl id

theorem bornOut_userPhotoUpdated (hborn : ∀ id, BornOut world id) (now : Instant)
    (event : UserPhotoUpdatedEvent) (id : String) :
    BornOut ((Request.message now (.userPhotoUpdated event)).run world) id := by
  simp only [Request.run, DriverService.eachMessage, exec_eachMessage,
    DriverService.onMessage, exec_handleUserPhotoUpdated]
  split_ifs with hrole
  · exact hborn id
  · cases hfind : world.drivers.find? fun r => r.userId = event.userId with
    | none => exact hborn id
    | some driver =>
        have hget : world.drivers.get? driver.id = some driver :=
          Table.get?_key_of_mem (Table.mem_of_find? hfind)
        have hsynced : ∀ id, BornOut { world with
            drivers := world.drivers.update driver.id
              { hasPhoto := event.hasPhoto } } id := by
          intro id
          refine (hborn id).of_quiet ?_ ?_ ?_ ?_
          · rfl
          · rfl
          · intro changed hchanged
            change (world.drivers.update _ _).get? id = _ at hchanged
            rw [Table.get?_update] at hchanged
            obtain ⟨before, hbefore, heq⟩ := Option.map_eq_some_iff.mp hchanged
            refine ⟨before, hbefore, ?_⟩
            rw [← heq]
            split <;> exact ⟨rfl, rfl, rfl⟩
          · intro hnone
            change (world.drivers.update _ _).get? id = _ at hnone
            rw [Table.get?_update, Option.map_eq_none_iff] at hnone
            exact hnone
        simp only
        split_ifs with hoffline
        · have hstored : (world.drivers.update driver.id
              { hasPhoto := event.hasPhoto }).get? driver.id =
                some { driver with hasPhoto := event.hasPhoto } := by
            simp [hget, Indexed.patch, DriverPatch.apply]
          have hpermitted : Permitted driver.status
              (systemEvent now driver .offline "profile_photo_removed" none) :=
            .photoRemoved rfl rfl hoffline.2 rfl
          exact bornOut_changeStatus hsynced hstored rfl rfl hpermitted id
        · exact hsynced id

theorem bornOut_driverAssigned (hborn : ∀ id, BornOut world id) (now : Instant)
    (event : DriverAssignedEvent) (id : String) :
    BornOut ((Request.message now (.driverAssigned event)).run world) id := by
  simp only [Request.run, DriverService.eachMessage, exec_eachMessage,
    DriverService.onMessage, exec_handleDriverAssigned]
  cases hget : world.drivers.get? event.driverId with
  | none => exact hborn id
  | some driver =>
      have hid : driver.id = event.driverId := Table.key_of_get? hget
      rw [← hid] at hget
      simp only
      split_ifs with hbusy
      · exact hborn id
      · have hpermitted : Permitted driver.status
            (systemEvent now driver .busy "ride_assigned" event.rideId) :=
          .assigned rfl hbusy rfl
        exact bornOut_changeStatus hborn hget rfl rfl hpermitted id

theorem bornOut_rideFinished (hborn : ∀ id, BornOut world id) (now : Instant)
    (event : RideFinishedEvent) (id : String) :
    BornOut ((DriverService.handleRideFinished now event).exec
      DriverWorld.answer world).2 id := by
  rw [exec_handleRideFinished]
  cases truthy event.driverId with
  | none => exact hborn id
  | some driverId =>
      simp only
      cases hget : world.drivers.get? driverId with
      | none => exact hborn id
      | some driver =>
          have hid : driver.id = driverId := Table.key_of_get? hget
          subst hid
          simp only
          split_ifs with hbusy
          · have hpermitted : Permitted driver.status
                (systemEvent now driver (releasedStatus driver)
                  (finishReason event) event.rideId) := by
              apply Permitted.released _ hbusy
              · change releasedStatus driver ≠ .busy
                unfold releasedStatus
                split <;> decide
              · change some (finishReason event) = _ ∨ some (finishReason event) = _
                unfold finishReason
                split
                · exact Or.inr rfl
                · exact Or.inl rfl
            exact bornOut_changeStatus hborn hget rfl rfl hpermitted id
          · exact hborn id

theorem Request.bornOut_run (request : Request) (hborn : ∀ id, BornOut world id)
    (id : String) : BornOut (request.run world) id := by
  cases request with
  | createDriver newId dto => exact bornOut_createDriver hborn newId dto id
  | updateStatus now driverId dto =>
      exact bornOut_updateStatus hborn now driverId dto id
  | updateLocation now driverId dto =>
      exact bornOut_updateLocation hborn now driverId dto id
  | message now inbound =>
      cases inbound with
      | userPhotoUpdated event => exact bornOut_userPhotoUpdated hborn now event id
      | driverAssigned event => exact bornOut_driverAssigned hborn now event id
      | rideCompleted event =>
          simp only [Request.run, DriverService.eachMessage, exec_eachMessage,
            DriverService.onMessage]
          exact bornOut_rideFinished hborn now event id
      | rideStatusUpdated event =>
          simp only [Request.run, DriverService.eachMessage, exec_eachMessage,
            DriverService.onMessage, Program.exec_ite]
          split_ifs with hstatus
          · exact hborn id
          · exact bornOut_rideFinished hborn now event id

end Operations

/-! ## Runs -/

theorem PoolEvent.bornOut_runUuid {uuid : UuidType} {dist : GeoDist}
    {world : DriverWorld} {event : PoolEvent} (hstored : world.Stored uuid)
    (hprinted : event.AsPrinted uuid) (hborn : ∀ id, BornOut world id)
    (id : String) : BornOut (event.runUuid uuid dist world) id := by
  cases event with
  | claim lat lng radiusKm hint => exact (hborn id).of_same rfl rfl rfl
  | driverRequest request =>
      rcases runUuid_of_asPrinted hstored hprinted with hsame | hrun
      · simp only [PoolEvent.runUuid, hsame]
        exact hborn id
      · simp only [PoolEvent.runUuid, hrun]
        exact Request.bornOut_run _ hborn id

theorem bornOut_reached {uuid : UuidType} {dist : GeoDist}
    {events : List PoolEvent}
    (hprinted : ∀ event ∈ events, event.AsPrinted uuid) (id : String) :
    BornOut (reached uuid dist events) id := by
  induction events using List.reverseRecOn generalizing id with
  | nil =>
      constructor
      · intro driver hdriver
        cases hdriver
      · intro driver hdriver
        cases hdriver
      · intro _
        exact ⟨rfl, rfl⟩
  | append_singleton events event ih =>
      rw [reached_append_singleton]
      apply PoolEvent.bornOut_runUuid (reached_stored events)
        (hprinted event (by simp))
      exact ih fun earlier hearlier =>
        hprinted earlier (List.mem_append_left _ hearlier)

/-- Along every run of requests, deliveries and claims, each an atomic step,
in which the ids in the requests of clients are as the rows print them: the
status events of a driver are permitted changes from offline to the status of
the row, the last location event has the position of the row, a driver in the
pool is one whose last status event says available, and nothing is published
about a driver that does not exist. -/
theorem events_tell_the_row (uuid : UuidType) (dist : GeoDist)
    (events : List PoolEvent)
    (hprinted : ∀ event ∈ events, event.AsPrinted uuid) (id : String) :
    BornOut (reached uuid dist events) id ∧
      (id ∈ (reached uuid dist events).pool →
        ((statusEvents (reached uuid dist events) id).getLast?.map
          DriverStatusUpdated.status) = some .available) := by
  have hborn : BornOut (reached uuid dist events) id :=
    bornOut_reached hprinted id
  refine ⟨hborn, ?_⟩
  intro hpooled
  obtain ⟨position, hentry⟩ := Finmap.mem_iff.mp hpooled
  obtain ⟨driver, hdriver, havailable, -⟩ :=
    (reached_consistent (rowsNamed_of_asPrinted hprinted) id).pooled position
      hentry
  have hhistory := hborn.history driver hdriver
  rw [havailable] at hhistory
  exact hhistory.last_status (by decide)

theorem lower_id_events_tell_the_row :
    ((onlineThenOffline lowerId).all fun event =>
      decide (event.AsPrinted hyphenated)) = true ∧
    BornOut (reached hyphenated (fun _ _ => 0) (onlineThenOffline lowerId))
      lowerId := by
  have hprinted : ((onlineThenOffline lowerId).all fun event =>
      decide (event.AsPrinted hyphenated)) = true := by decide +kernel
  refine ⟨hprinted, ?_⟩
  refine (events_tell_the_row hyphenated (fun _ _ => 0)
    (onlineThenOffline lowerId) ?_ lowerId).1
  simpa only [List.all_eq_true, decide_eq_true_eq] using hprinted

end FakeBolt.Driver
