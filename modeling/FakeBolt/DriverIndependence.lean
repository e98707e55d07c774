import FakeBolt.ProjectedRuns
import FakeBolt.StatusChanges

/-!
# Drivers do not interfere

Operations on existing drivers, some of which name the driver by id and some
by user id.  The rows keep both, so the driver of an operation is known
beforehand, and a driver's row, entry and events come from the operations on
that driver alone.
-/

namespace FakeBolt.Driver

open Await Kafka Store Projection

/-! ## Operations -/

inductive Operation where
  | updateStatus (now : Instant) (id : String) (dto : UpdateStatusDto)
  | updateLocation (now : Instant) (id : String) (dto : UpdateLocationDto)
  | message (now : Instant) (inbound : DriverService.Inbound)
  deriving DecidableEq, Repr

def Operation.request : Operation → Request
  | .updateStatus now id dto => .updateStatus now id dto
  | .updateLocation now id dto => .updateLocation now id dto
  | .message now inbound => .message now inbound

def Operation.run (world : DriverWorld) (operation : Operation) : DriverWorld :=
  operation.request.run world

/-- The same operation, whenever it is done. -/
def Operation.untimed : Operation → Operation
  | .updateStatus _ id dto => .updateStatus 0 id dto
  | .updateLocation _ id dto => .updateLocation 0 id dto
  | .message _ inbound => .message 0 inbound

/-- The ids and user ids of the rows. -/
def identities (drivers : Table DriverEntity) : List (String × String) :=
  drivers.rows.map fun driver => (driver.id, driver.userId)

def driverOfUser (known : List (String × String)) (userId : String) :
    Option String :=
  (known.find? fun identity => decide (identity.2 = userId)).map Prod.fst

/-- The driver that an operation is for. -/
def Operation.target (known : List (String × String)) :
    Operation → Option String
  | .updateStatus _ id _ => some id
  | .updateLocation _ id _ => some id
  | .message _ (.userPhotoUpdated event) =>
      if event.role ≠ "driver" then none else driverOfUser known event.userId
  | .message _ (.driverAssigned event) => some event.driverId
  | .message _ (.rideCompleted event) => truthy event.driverId
  | .message _ (.rideStatusUpdated event) =>
      if event.status ≠ "cancelled" then none else truthy event.driverId

def Operation.action : Operation → DriverAction
  | .updateStatus _ _ dto => .changeStatus dto.status
  | .updateLocation _ _ dto => .ping dto.lat dto.lng
  | .message _ (.userPhotoUpdated event) => .syncPhoto event.hasPhoto
  | .message _ (.driverAssigned _) => .assign
  | .message _ (.rideCompleted _) => .release
  | .message _ (.rideStatusUpdated _) => .release

theorem driverOfUser_identities (drivers : Table DriverEntity)
    (userId : String) :
    driverOfUser (identities drivers) userId =
      (drivers.find? fun r => r.userId = userId).map fun driver =>
        driver.id := by
  unfold driverOfUser identities Table.find?
  rw [List.find?_map, Option.map_map]
  rfl

theorem Operation.action_request (operation : Operation) (world : DriverWorld) :
    operation.request.action world =
      (operation.target (identities world.drivers)).map fun id =>
        (id, operation.action) := by
  cases operation with
  | updateStatus now id dto => rfl
  | updateLocation now id dto => rfl
  | message now inbound =>
      cases inbound with
      | userPhotoUpdated event =>
          simp only [Operation.request, Request.action, Operation.target,
            driverOfUser_identities, Operation.action]
          split
          · rfl
          · rw [Option.map_map]
            rfl
      | driverAssigned event => rfl
      | rideCompleted event => rfl
      | rideStatusUpdated event =>
          simp only [Operation.request, Request.action, Operation.target,
            Operation.action, finishAction]
          split
          · rfl
          · rfl

theorem Operation.state_run (operation : Operation) (world : DriverWorld)
    (id : String) :
    (operation.run world).state id =
      if operation.target (identities world.drivers) = some id then
        (world.state id).apply operation.action
      else world.state id := by
  unfold Operation.run
  rw [Request.state_run, Operation.action_request, actOn_named]

/-! ## Rows keep their ids -/

theorem identities_update (drivers : Table DriverEntity) (id : String)
    (patch : DriverPatch) :
    identities (drivers.update id patch) = identities drivers := by
  unfold identities Table.update
  rw [List.map_map]
  apply List.map_congr_left
  intro driver _
  rw [Function.comp_apply]
  split
  · rfl
  · rfl

theorem identities_synced (inbound : DriverService.Inbound)
    (drivers : Table DriverEntity) :
    identities (synced inbound drivers) = identities drivers := by
  cases inbound with
  | userPhotoUpdated event =>
      unfold synced
      simp only
      split
      · rfl
      · split
        · rfl
        · exact identities_update _ _ _
  | driverAssigned event => rfl
  | rideCompleted event => rfl
  | rideStatusUpdated event => rfl

theorem Operation.identities_run (operation : Operation) (world : DriverWorld) :
    identities (operation.run world).drivers = identities world.drivers := by
  unfold Operation.run Operation.request
  cases operation with
  | updateStatus now id dto =>
      simp only [Request.run, exec_updateStatus]
      cases world.drivers.get? id with
      | none => rfl
      | some driver =>
          simp only
          cases statusRefusal driver dto.status with
          | some refusal => rfl
          | none => exact identities_update _ _ _
  | updateLocation now id dto =>
      simp only [Request.run, exec_updateLocation]
      cases world.drivers.get? id with
      | none => rfl
      | some driver => exact identities_update _ _ _
  | message now inbound =>
      simp only [run_message]
      have hsynced := identities_synced inbound world.drivers
      cases changeOf inbound world.drivers with
      | none => exact hsynced
      | some change => exact (identities_update _ _ _).trans hsynced

/-! ## Events of one driver -/

def isAbout (id : String) : Message → Bool
  | .driverStatusUpdated event => event.driverId == id
  | .driverLocationUpdated event => event.driverId == id
  | _ => false

/-- An event without the time it was sent at. -/
def withoutTime : Message → Message
  | .driverStatusUpdated event =>
      .driverStatusUpdated { event with timestamp := "" }
  | .driverLocationUpdated event =>
      .driverLocationUpdated { event with timestamp := "" }
  | message => message

def eventsOf (id : String) (published : List ProducerRecord) : List Message :=
  ((published.map fun record => record.message).filter (isAbout id)).map
    withoutTime

theorem eventsOf_append (id : String) (published more : List ProducerRecord) :
    eventsOf id (published ++ more) =
      eventsOf id published ++ eventsOf id more := by
  simp [eventsOf]

def finishOf (event : RideFinishedEvent) (driver : DriverEntity) :
    Option StatusChange :=
  if driver.status = .busy then
    some
      { driver := driver
        status := releasedStatus driver
        reason := finishReason event
        rideId := event.rideId }
  else none

/-- The status change that an event asks for, going by the driver's own row. -/
def ownChange (inbound : DriverService.Inbound) (driver : DriverEntity) :
    Option StatusChange :=
  match inbound with
  | .userPhotoUpdated event =>
      if event.hasPhoto = false ∧ driver.status = .available then
        some
          { driver := driver
            status := .offline
            reason := "profile_photo_removed"
            rideId := none }
      else none
  | .driverAssigned event =>
      if driver.status = .busy then none
      else some
        { driver := driver
          status := .busy
          reason := "ride_assigned"
          rideId := event.rideId }
  | .rideCompleted event => finishOf event driver
  | .rideStatusUpdated event => finishOf event driver

/-- What an operation publishes, going by the driver's own row. -/
def Operation.emitted (operation : Operation) (driver : DriverEntity) :
    List Message :=
  match operation with
  | .updateStatus now _ dto =>
      match statusRefusal driver dto.status with
      | some _ => []
      | none => [.driverStatusUpdated (clientEvent now driver.id dto.status)]
  | .updateLocation now _ dto =>
      [.driverLocationUpdated
        { driverId := driver.id
          lat := dto.lat
          lng := dto.lng
          timestamp := isoString now }]
  | .message now inbound =>
      match ownChange inbound driver with
      | none => []
      | some change =>
          [.driverStatusUpdated (systemEvent now driver change.status
            change.reason change.rideId)]

/-- The row that an operation is for. -/
def Operation.row (operation : Operation) (drivers : Table DriverEntity) :
    Option DriverEntity :=
  (operation.target (identities drivers)).bind drivers.get?

theorem row_of_user (drivers : Table DriverEntity) (userId : String) :
    (driverOfUser (identities drivers) userId).bind drivers.get? =
      drivers.find? fun r => r.userId = userId := by
  rw [driverOfUser_identities]
  cases hfind : drivers.find? fun r => r.userId = userId with
  | none => rfl
  | some driver => exact Table.get?_key_of_mem (Table.mem_of_find? hfind)

theorem changeOf_eq_ownChange (now : Instant) (inbound : DriverService.Inbound)
    (drivers : Table DriverEntity) :
    changeOf inbound drivers =
      ((Operation.message now inbound).row drivers).bind
        (ownChange inbound) := by
  unfold Operation.row
  cases inbound with
  | userPhotoUpdated event =>
      simp only [changeOf, Operation.target]
      split
      · rfl
      · rw [row_of_user]
        rfl
  | driverAssigned event => rfl
  | rideCompleted event =>
      simp only [changeOf, Operation.target, finishChange, Option.bind_assoc]
      rfl
  | rideStatusUpdated event =>
      simp only [changeOf, Operation.target]
      split
      · rfl
      · simp only [finishChange, Option.bind_assoc]
        rfl

theorem ownChange_driver {inbound : DriverService.Inbound}
    {driver : DriverEntity} {change : StatusChange}
    (hchange : ownChange inbound driver = some change) :
    change.driver = driver := by
  cases inbound with
  | userPhotoUpdated event =>
      simp only [ownChange] at hchange
      split at hchange
      · cases hchange
        rfl
      · cases hchange
  | driverAssigned event =>
      simp only [ownChange] at hchange
      split at hchange
      · cases hchange
      · cases hchange
        rfl
  | rideCompleted event =>
      simp only [ownChange, finishOf] at hchange
      split at hchange
      · cases hchange
        rfl
      · cases hchange
  | rideStatusUpdated event =>
      simp only [ownChange, finishOf] at hchange
      split at hchange
      · cases hchange
        rfl
      · cases hchange

/-- What a run of an operation publishes. -/
theorem Operation.published_run (operation : Operation) (world : DriverWorld) :
    (operation.run world).published = world.published ++
      match operation.row world.drivers with
      | none => []
      | some driver => (operation.emitted driver).map recordOf := by
  unfold Operation.run Operation.request
  cases operation with
  | updateStatus now id dto =>
      simp only [Request.run, exec_updateStatus, Operation.row,
        Operation.target, Option.bind_some]
      cases hget : world.drivers.get? id with
      | none => simp
      | some driver =>
          have hid : driver.id = id := Table.key_of_get? hget
          simp only [Operation.emitted]
          cases statusRefusal driver dto.status with
          | some refusal => simp
          | none =>
              rw [hid]
              rfl
  | updateLocation now id dto =>
      simp only [Request.run, exec_updateLocation, Operation.row,
        Operation.target, Option.bind_some]
      cases hget : world.drivers.get? id with
      | none => simp
      | some driver =>
          have hid : driver.id = id := Table.key_of_get? hget
          simp only [Operation.emitted]
          rw [hid]
          rfl
  | message now inbound =>
      simp only [run_message, changeOf_eq_ownChange now]
      cases (Operation.message now inbound).row world.drivers with
      | none => simp [DriverWorld.sync]
      | some driver =>
          simp only [Option.bind_some, Operation.emitted]
          cases hchange : ownChange inbound driver with
          | none => simp [DriverWorld.sync]
          | some change =>
              simp only [ownChange_driver hchange]
              rfl

theorem isAbout_emitted {operation : Operation} {driver : DriverEntity}
    {message : Message} (hmessage : message ∈ operation.emitted driver)
    (id : String) : isAbout id message = (driver.id == id) := by
  cases operation with
  | updateStatus now driverId dto =>
      simp only [Operation.emitted] at hmessage
      split at hmessage
      · cases hmessage
      · rw [List.mem_singleton.mp hmessage]
        rfl
  | updateLocation now driverId dto =>
      rw [List.mem_singleton.mp hmessage]
      rfl
  | message now inbound =>
      simp only [Operation.emitted] at hmessage
      split at hmessage
      · cases hmessage
      · rw [List.mem_singleton.mp hmessage]
        rfl

theorem untimed_emitted (operation : Operation) (driver : DriverEntity) :
    (operation.untimed.emitted driver).map withoutTime =
      (operation.emitted driver).map withoutTime := by
  cases operation with
  | updateStatus now id dto =>
      simp only [Operation.untimed, Operation.emitted]
      split
      · rfl
      · simp only [List.map_cons, List.map_nil, withoutTime, clientEvent]
  | updateLocation now id dto =>
      simp only [Operation.untimed, Operation.emitted, List.map_cons,
        List.map_nil, withoutTime]
  | message now inbound =>
      simp only [Operation.untimed, Operation.emitted]
      split
      · rfl
      · simp only [List.map_cons, List.map_nil, withoutTime, systemEvent]

theorem action_untimed (operation : Operation) :
    operation.untimed.action = operation.action := by
  cases operation with
  | updateStatus now id dto => rfl
  | updateLocation now id dto => rfl
  | message now inbound => cases inbound <;> rfl

/-! ## One driver's view -/

structure DriverView where
  state : DriverState
  events : List Message

def DriverWorld.view (world : DriverWorld) (id : String) : DriverView where
  state := world.state id
  events := eventsOf id world.published

def Operation.act (operation : Operation) (view : DriverView) : DriverView where
  state := view.state.apply operation.action
  events := view.events ++
    match view.state.row with
    | none => []
    | some driver => (operation.emitted driver).map withoutTime

theorem act_untimed (operation : Operation) :
    operation.untimed.act = operation.act := by
  funext view
  unfold Operation.act
  rw [action_untimed]
  simp only [untimed_emitted]

theorem eventsOf_emitted {operation : Operation} {driver : DriverEntity}
    (id : String) :
    eventsOf id ((operation.emitted driver).map recordOf) =
      if driver.id = id then (operation.emitted driver).map withoutTime else [] := by
  unfold eventsOf
  rw [List.map_map]
  have hmessages : (operation.emitted driver).map
      ((fun record => record.message) ∘ recordOf) =
        operation.emitted driver := by
    simp [Function.comp_def, recordOf]
  rw [hmessages]
  split
  · rename_i hid
    rw [List.filter_eq_self.mpr]
    intro message hmessage
    rw [isAbout_emitted hmessage, hid, beq_self_eq_true]
  · rename_i hid
    rw [List.filter_eq_nil_iff.mpr]
    · rfl
    · intro message hmessage
      rw [isAbout_emitted hmessage]
      simpa using hid

theorem Operation.view_run (operation : Operation) (world : DriverWorld)
    (id : String) :
    (operation.run world).view id =
      if operation.target (identities world.drivers) = some id then
        operation.act (world.view id)
      else world.view id := by
  unfold DriverWorld.view
  rw [Operation.state_run, Operation.published_run, eventsOf_append]
  have hrow : ∀ driver, operation.row world.drivers = some driver →
      operation.target (identities world.drivers) = some driver.id := by
    intro driver hsome
    obtain ⟨target, htarget, hget⟩ := Option.bind_eq_some_iff.mp hsome
    rw [htarget, ← Table.key_of_get? hget]
    rfl
  split
  · rename_i htarget
    unfold Operation.act Operation.row
    rw [htarget, Option.bind_some, state_row]
    cases hget : world.drivers.get? id with
    | none => rfl
    | some driver =>
        have hid : driver.id = id := Table.key_of_get? hget
        simp only [eventsOf_emitted, hid, if_true]
  · rename_i htarget
    cases hsome : operation.row world.drivers with
    | none =>
        have hnone : eventsOf id [] = [] := rfl
        simp only [hnone, List.append_nil]
    | some driver =>
        have hid : ¬ driver.id = id := by
          intro heq
          apply htarget
          rw [hrow driver hsome, heq]
        simp only [eventsOf_emitted, hid, if_false, List.append_nil]

/-! ## Whole sequences -/

def runAll (operations : List Operation) (world : DriverWorld) : DriverWorld :=
  operations.foldl Operation.run world

theorem actsLocally (known : List (String × String)) :
    ActsLocally (fun world => identities world.drivers = known) Operation.run
      DriverWorld.view (Operation.target known) Operation.act := by
  constructor
  · intro world operation hknown
    have hkept := operation.identities_run world
    exact hkept.trans hknown
  · intro world operation id hknown
    have hview := operation.view_run world id
    rw [hknown] at hview
    exact hview

/-- The operations on one driver, without the times they are done at. -/
def operationsOn (world : DriverWorld) (id : String)
    (operations : List Operation) : List Operation :=
  (eventsFor (Operation.target (identities world.drivers)) id operations).map
    Operation.untimed

theorem act_of_no_row {view : DriverView} (hnone : view.state.row = none)
    (operation : Operation) : operation.act view = view := by
  obtain ⟨⟨row, entry⟩, events⟩ := view
  have hrow : row = none := hnone
  subst hrow
  unfold Operation.act
  simp only [List.append_nil]
  cases operation with
  | updateStatus now id dto => rfl
  | updateLocation now id dto => rfl
  | message now inbound => cases inbound <;> rfl

section TwoRuns

variable {world : DriverWorld} {first second : List Operation}

theorem view_runAll_eq (hsame : ∀ driver ∈ world.drivers.rows,
      operationsOn world driver.id first = operationsOn world driver.id second)
    (id : String) :
    (runAll first world).view id = (runAll second world).view id := by
  have hlocal := actsLocally (identities world.drivers)
  cases hget : world.drivers.get? id with
  | none =>
      have hquiet : ∀ operation : Operation,
          operation.act (world.view id) = world.view id :=
        act_of_no_row hget
      have hfirst := hlocal.view_eq_of_no_events rfl hquiet first
      have hsecond := hlocal.view_eq_of_no_events rfl hquiet second
      exact hfirst.trans hsecond.symm
  | some driver =>
      have hmem := (Table.get?_eq_some_iff.mp hget).1
      have hid : driver.id = id := Table.key_of_get? hget
      have hevents := hsame driver hmem
      rw [hid] at hevents
      exact hlocal.view_eq_of_same_events act_untimed rfl hevents

theorem identities_runAll (operations : List Operation) (world : DriverWorld) :
    identities (runAll operations world).drivers = identities world.drivers :=
  (actsLocally (identities world.drivers)).inv_run rfl operations

/-- Two sequences of operations that hold the same operations for each driver
in the same order leave the same rows and the same pool, and have published
the same events about each driver in the same order. -/
theorem drivers_do_not_interfere (hsame : ∀ driver ∈ world.drivers.rows,
      operationsOn world driver.id first =
        operationsOn world driver.id second) :
    (runAll first world).drivers = (runAll second world).drivers ∧
    (runAll first world).pool = (runAll second world).pool ∧
    ∀ driver ∈ world.drivers.rows,
      eventsOf driver.id (runAll first world).published =
        eventsOf driver.id (runAll second world).published := by
  have hviews := view_runAll_eq hsame
  refine ⟨?_, ?_, ?_⟩
  · apply Table.ext_of_get?
    · have hkeys : ∀ drivers : Table DriverEntity,
          drivers.rows.map (fun driver => Indexed.key driver) =
            (identities drivers).map Prod.fst := by
        intro drivers
        rw [identities, List.map_map]
        rfl
      rw [hkeys, hkeys, identities_runAll, identities_runAll]
    · intro id
      exact congrArg (fun view => view.state.row) (hviews id)
  · apply Finmap.ext_lookup
    intro id
    exact congrArg (fun view => view.state.entry) (hviews id)
  · intro driver _
    exact congrArg DriverView.events (hviews driver.id)

end TwoRuns

def secondDriver : DriverEntity where
  id := "e"
  userId := "v"
  name := "name"
  email := "e@example.org"
  status := .busy
  hasPhoto := true
  lat := some 1
  lng := some 1

def twoDrivers : DriverWorld where
  drivers := ⟨[waitingDriver, secondDriver], by decide⟩
  pool := AvailablePool.geoadd ∅ 0 0 "d"
  published := []

/-- The photo of the one driver is removed before or after the ride of the
other ends. -/
theorem photo_and_ride_end_in_either_order :
    (runAll [.message 0 (.userPhotoUpdated ⟨"u", "driver", false⟩),
        .message 1 (.rideCompleted ⟨"r", some "e", "completed"⟩)]
        twoDrivers).pool =
      (runAll [.message 2 (.rideCompleted ⟨"r", some "e", "completed"⟩),
        .message 3 (.userPhotoUpdated ⟨"u", "driver", false⟩)]
        twoDrivers).pool := by
  refine (drivers_do_not_interfere ?_).2.1
  intro driver hdriver
  simp only [twoDrivers, List.mem_cons, List.not_mem_nil, or_false] at hdriver
  rcases hdriver with rfl | rfl
  · decide
  · decide

end FakeBolt.Driver
