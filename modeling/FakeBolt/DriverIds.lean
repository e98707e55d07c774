import FakeBolt.AwaitFootprints
import FakeBolt.DriverCalls
import FakeBolt.DriverFaults
import FakeBolt.UuidType

/-!
# Driver ids in any spelling

`drivers.id` is of type `uuid`, so a request finds its row by any spelling of
the id.  The member of the Redis pool and the id in the event are the text of
the request.  The handlers of messages go by the id of the row that they find.
-/

namespace FakeBolt.Driver

open Await Kafka Store

variable (uuid : UuidType)

/-- `DriverWorld.answer` with ids that Postgres reads: `user_id` and `email`
are texts, and a generated id is stored as Postgres prints it. -/
def DriverWorld.answerUuid :
    (call : DriverCall) → DriverWorld → Except JsError call.Reply × DriverWorld
  | .findOneById id, world =>
      match uuid.input id with
      | none => (.error (UuidType.invalidInput id), world)
      | some key => DriverWorld.answer (.findOneById key) world
  | .save driver, world =>
      match uuid.input driver.id with
      | none => (.error (UuidType.invalidInput driver.id), world)
      | some key => DriverWorld.answer (.save { driver with id := key }) world
  | .update id patch, world =>
      match uuid.input id with
      | none => (.error (UuidType.invalidInput id), world)
      | some key => DriverWorld.answer (.update key patch) world
  | call, world => DriverWorld.answer call world

/-- The row that an id names. -/
def DriverWorld.named (world : DriverWorld) (id : String) :
    Option DriverEntity :=
  (uuid.input id).bind world.drivers.get?

/-- The ids of the rows are as Postgres prints them. -/
def DriverWorld.Stored (world : DriverWorld) : Prop :=
  ∀ driver ∈ world.drivers.rows, uuid.input driver.id = some driver.id

def Request.runUuid (request : Request) (world : DriverWorld) : DriverWorld :=
  (request.program.exec (DriverWorld.answerUuid uuid) world).2

/-- What a request leaves, whatever fails. -/
def Request.interrupted (faults : Faults) (request : Request)
    (world : DriverWorld) : DriverWorld :=
  (request.program.exec (scripted (faultable (DriverWorld.answerUuid uuid)))
    (faults, world)).2.2

def DriverService.Inbound.printed :
    DriverService.Inbound → DriverService.Inbound
  | .userPhotoUpdated event => .userPhotoUpdated event
  | .driverAssigned event =>
      .driverAssigned { event with driverId := uuid.printed event.driverId }
  | .rideCompleted event =>
      .rideCompleted { event with
        driverId := event.driverId.map uuid.printed }
  | .rideStatusUpdated event =>
      .rideStatusUpdated { event with
        driverId := event.driverId.map uuid.printed }

/-- The request with its driver's id as Postgres prints it. -/
def Request.printed : Request → Request
  | .createDriver newId dto => .createDriver (uuid.printed newId) dto
  | .updateStatus now id dto => .updateStatus now (uuid.printed id) dto
  | .updateLocation now id dto => .updateLocation now (uuid.printed id) dto
  | .message now inbound => .message now (inbound.printed uuid)

variable {uuid} {world : DriverWorld}

/-! ## Rows -/

theorem DriverWorld.Stored.of_get? (hstored : world.Stored uuid) {id : String}
    {driver : DriverEntity} (hget : world.drivers.get? id = some driver) :
    uuid.input id = some id := by
  obtain ⟨hmem, hkey⟩ := Table.get?_eq_some_iff.mp hget
  have hid : driver.id = id := hkey
  rw [← hid]
  exact hstored driver hmem

theorem DriverWorld.Stored.get?_eq_none (hstored : world.Stored uuid)
    {id : String} (hid : uuid.input id ≠ some id) :
    world.drivers.get? id = none := by
  cases hget : world.drivers.get? id with
  | none => rfl
  | some driver => exact absurd (hstored.of_get? hget) hid

theorem named_eq_some_iff {id : String} {driver : DriverEntity} :
    world.named uuid id = some driver ↔
      uuid.input id = some driver.id ∧
        world.drivers.get? driver.id = some driver := by
  unfold DriverWorld.named
  rw [Option.bind_eq_some_iff]
  constructor
  · rintro ⟨key, hinput, hget⟩
    have hkey : driver.id = key := Table.key_of_get? hget
    rw [hkey]
    exact ⟨hinput, hget⟩
  · rintro ⟨hinput, hget⟩
    exact ⟨driver.id, hinput, hget⟩

theorem named_of_input {id key : String} (hinput : uuid.input id = some key) :
    world.named uuid id = world.drivers.get? key := by
  rw [DriverWorld.named, hinput, Option.bind_some]

/-! ## Requests whose id is as Postgres prints it -/

/-- Postgres reads the ids in the call as they are. -/
def DriverCall.Printed (uuid : UuidType) : DriverCall → Prop
  | .findOneById id => uuid.input id = some id
  | .save driver => uuid.input driver.id = some driver.id
  | .update id _ => uuid.input id = some id
  | _ => True

/-- A row that is found has its id as Postgres prints it. -/
def DriverCall.Finds (uuid : UuidType) :
    (call : DriverCall) → Except JsError call.Reply → Prop
  | .findOneById _, reply => ∀ driver, reply = .ok (some driver) →
      uuid.input driver.id = some driver.id
  | .findOneByUserId _, reply => ∀ driver, reply = .ok (some driver) →
      uuid.input driver.id = some driver.id
  | _, _ => True

theorem answerUuid_of_printed {call : DriverCall} (hprinted : call.Printed uuid)
    (world : DriverWorld) :
    DriverWorld.answerUuid uuid call world = DriverWorld.answer call world := by
  cases call with
  | findOneById id =>
      have hid : uuid.input id = some id := hprinted
      simp only [DriverWorld.answerUuid, hid]
  | save driver =>
      have hid : uuid.input driver.id = some driver.id := hprinted
      simp only [DriverWorld.answerUuid, hid]
  | update id patch =>
      have hid : uuid.input id = some id := hprinted
      simp only [DriverWorld.answerUuid, hid]
  | _ => rfl

/-- A row keeps its id, and a new row has the id that is saved. -/
theorem DriverWorld.Stored.answer (hstored : world.Stored uuid)
    {call : DriverCall} (hprinted : call.Printed uuid) :
    (DriverWorld.answer call world).2.Stored uuid := by
  cases call with
  | save driver =>
      simp only [DriverWorld.answer]
      cases hinsert : world.drivers.insert? driver with
      | none => exact hstored
      | some drivers =>
          intro row hrow
          have hrows : row ∈ drivers.rows := hrow
          rw [(Table.rows_of_insert? hinsert).1, List.mem_append,
            List.mem_singleton] at hrows
          rcases hrows with hold | hnew
          · exact hstored row hold
          · rw [hnew]
            exact hprinted
  | update id patch =>
      intro row hrow
      obtain ⟨before, hbefore, hafter⟩ := List.mem_map.mp hrow
      have hid : row.id = before.id := by
        rw [← hafter]
        split <;> rfl
      rw [hid]
      exact hstored before hbefore
  | _ => exact hstored

theorem DriverWorld.Stored.answerUuid (hstored : world.Stored uuid)
    (call : DriverCall) :
    (DriverWorld.answerUuid uuid call world).2.Stored uuid := by
  cases call with
  | findOneById id =>
      simp only [DriverWorld.answerUuid]
      cases uuid.input id <;> exact hstored
  | save driver =>
      simp only [DriverWorld.answerUuid]
      cases hinput : uuid.input driver.id with
      | none => exact hstored
      | some key =>
          have hkey : DriverCall.Printed uuid
              (.save { driver with id := key }) := uuid.input_output hinput
          exact hstored.answer hkey
  | update id patch =>
      simp only [DriverWorld.answerUuid]
      cases hinput : uuid.input id with
      | none => exact hstored
      | some key =>
          have hkey : DriverCall.Printed uuid (.update key patch) :=
            uuid.input_output hinput
          exact hstored.answer hkey
  | _ => exact hstored

/-- One call in the spelling of Postgres, which the environment may let
fail. -/
theorem faultable_of_printed {call : DriverCall} (hprinted : call.Printed uuid)
    (hstored : world.Stored uuid) (fault : Option JsError) :
    faultable (DriverWorld.answerUuid uuid) call fault world =
        faultable DriverWorld.answer call fault world ∧
      call.Finds uuid (faultable DriverWorld.answer call fault world).1 ∧
      (faultable DriverWorld.answer call fault world).2.Stored uuid := by
  cases fault with
  | some error =>
      refine ⟨rfl, ?_, hstored⟩
      cases call <;> simp [DriverCall.Finds, faultable]
  | none =>
      refine ⟨answerUuid_of_printed hprinted world, ?_⟩
      cases call with
      | findOneById id =>
          refine ⟨?_, hstored⟩
          intro driver hfound
          have hget : world.drivers.get? id = some driver := by
            simpa [faultable, DriverWorld.answer] using hfound
          exact hstored driver (Table.get?_eq_some_iff.mp hget).1
      | findOneByUserId userId =>
          refine ⟨?_, hstored⟩
          intro driver hfound
          have hfind : world.drivers.find? (fun row => row.userId = userId) =
              some driver := by
            simpa [faultable, DriverWorld.answer] using hfound
          exact hstored driver (Table.mem_of_find? hfind)
      | save driver => exact ⟨trivial, hstored.answer hprinted⟩
      | update id patch => exact ⟨trivial, hstored.answer hprinted⟩
      | _ => exact ⟨trivial, hstored⟩

section Confined

variable {post : Except JsError Unit → Prop}

theorem confined_handleDriverStatusChange (id : String) (status : DriverStatus)
    (lat lng : Option Num) (hpost : ∀ result, post result) :
    (RedisService.handleDriverStatusChange id status lat lng).Confined
      (DriverCall.Printed uuid) (DriverCall.Finds uuid) post := by
  cases status <;> cases lat <;> cases lng <;>
    simp only [RedisService.handleDriverStatusChange,
      RedisService.updateDriverLocation, RedisService.removeDriverFromGeo,
      Program.confined_tryCatch, Program.confined_call,
      Program.confined_throw] <;>
    refine ⟨trivial, fun reply _ => ?_⟩ <;>
    cases reply <;>
    exact hpost _

theorem confined_publish (message : Message) (hpost : ∀ result, post result) :
    (publish message).Confined (DriverCall.Printed uuid)
      (DriverCall.Finds uuid) post := by
  simp only [publish, Program.confined_tryCatch, Program.confined_call,
    Program.confined_throw]
  refine ⟨trivial, fun reply _ => ?_⟩
  cases reply <;> exact hpost _

theorem confined_update {id : String} (hid : uuid.input id = some id)
    (patch : DriverPatch) (hpost : ∀ result, post result) :
    (DriverRepository.update id patch).Confined (DriverCall.Printed uuid)
      (DriverCall.Finds uuid) post := by
  rw [DriverRepository.update, Program.confined_call]
  exact ⟨hid, fun reply _ => hpost reply⟩

theorem confined_setStatusFromSystem {driver : DriverEntity}
    (hid : uuid.input driver.id = some driver.id) (now : Instant)
    (status : DriverStatus) (reason : String) (rideId : Option String)
    (hpost : ∀ result, post result) :
    (DriverService.setStatusFromSystem now driver status reason rideId).Confined
      (DriverCall.Printed uuid) (DriverCall.Finds uuid) post := by
  simp only [DriverService.setStatusFromSystem, Program.confined_bind]
  apply confined_update hid
  intro row
  cases row with
  | error error => exact hpost _
  | ok _ =>
      apply confined_handleDriverStatusChange
      intro placed
      cases placed with
      | error error => exact hpost _
      | ok _ => exact confined_publish _ hpost

theorem confined_findOneById {id : String} (hid : uuid.input id = some id)
    {post : Except JsError (Option DriverEntity) → Prop}
    (hnone : post (.ok none)) (hfailed : ∀ error, post (.error error))
    (hfound : ∀ driver, uuid.input driver.id = some driver.id →
      post (.ok (some driver))) :
    (DriverRepository.findOneById id).Confined (DriverCall.Printed uuid)
      (DriverCall.Finds uuid) post := by
  rw [DriverRepository.findOneById, Program.confined_call]
  refine ⟨hid, ?_⟩
  rintro (error | found) hreply
  · exact hfailed error
  · cases found with
    | none => exact hnone
    | some driver => exact hfound driver (hreply driver rfl)

theorem confined_handleUserPhotoUpdated (now : Instant)
    (event : UserPhotoUpdatedEvent) (hpost : ∀ result, post result) :
    (DriverService.handleUserPhotoUpdated now event).Confined
      (DriverCall.Printed uuid) (DriverCall.Finds uuid) post := by
  unfold DriverService.handleUserPhotoUpdated
  split
  · exact hpost _
  · simp only [DriverRepository.findOneByUserId, Program.confined_bind,
      Program.confined_call]
    refine ⟨trivial, ?_⟩
    rintro (error | found) hreply
    · exact hpost _
    · cases found with
      | none => exact hpost _
      | some driver =>
          have hid : uuid.input driver.id = some driver.id := hreply driver rfl
          simp only [Program.confined_bind]
          apply confined_update hid
          intro row
          cases row with
          | error error => exact hpost _
          | ok _ =>
              simp only
              split
              · exact confined_setStatusFromSystem hid now _ _ _ hpost
              · exact hpost _

theorem confined_handleDriverAssigned (now : Instant)
    {event : DriverAssignedEvent}
    (hid : uuid.input event.driverId = some event.driverId)
    (hpost : ∀ result, post result) :
    (DriverService.handleDriverAssigned now event).Confined
      (DriverCall.Printed uuid) (DriverCall.Finds uuid) post := by
  simp only [DriverService.handleDriverAssigned, Program.confined_bind]
  apply confined_findOneById hid
  · exact hpost _
  · intro error
    exact hpost _
  · intro driver hdriver
    simp only
    split
    · exact hpost _
    · exact confined_setStatusFromSystem hdriver now _ _ _ hpost

theorem confined_handleRideFinished (now : Instant) {event : RideFinishedEvent}
    (hid : ∀ driverId, truthy event.driverId = some driverId →
      uuid.input driverId = some driverId)
    (hpost : ∀ result, post result) :
    (DriverService.handleRideFinished now event).Confined
      (DriverCall.Printed uuid) (DriverCall.Finds uuid) post := by
  unfold DriverService.handleRideFinished
  cases hdriver : truthy event.driverId with
  | none => exact hpost _
  | some driverId =>
      simp only [Program.confined_bind]
      apply confined_findOneById (hid driverId hdriver)
      · exact hpost _
      · intro error
        exact hpost _
      · intro driver hdriver
        simp only
        split
        · exact hpost _
        · exact confined_setStatusFromSystem hdriver now _ _ _ hpost

end Confined

/-- Such a program does the same whether ids are compared as uuids or as
texts. -/
theorem exec_of_confined {program : DriverM Unit}
    (hconfined : program.Confined (DriverCall.Printed uuid)
      (DriverCall.Finds uuid) fun _ => True)
    (hstored : world.Stored uuid) (faults : Faults) :
    (program.exec (scripted (faultable (DriverWorld.answerUuid uuid)))
        (faults, world)).2.2 = (underFaults faults program world).2 := by
  have hstart : ((faults, world) : Faults × DriverWorld) = (faults, world) ∧
      world.Stored uuid := ⟨rfl, hstored⟩
  have hagree := hconfined.agree
    (scripted (faultable DriverWorld.answer))
    (scripted (faultable (DriverWorld.answerUuid uuid)))
    (fun first second => first = second ∧ first.2.Stored uuid)
    (by
      rintro call ⟨faults, before⟩ _ hprinted ⟨rfl, hbefore⟩
      obtain ⟨hsame, hfinds, hafter⟩ :=
        faultable_of_printed hprinted hbefore (faults 0)
      simp only [scripted_apply, hsame]
      exact ⟨hfinds, trivial, trivial, hafter⟩) hstart
  rw [← hagree.2.2.1]
  rfl

/-! ## Messages -/

/-- A lookup does not see how the id is spelled. -/
theorem exec_findOneById_printed (id : String) (state : Faults × DriverWorld) :
    (DriverRepository.findOneById (uuid.printed id)).exec
        (scripted (faultable (DriverWorld.answerUuid uuid))) state =
      (DriverRepository.findOneById id).exec
        (scripted (faultable (DriverWorld.answerUuid uuid))) state := by
  cases hinput : uuid.input id with
  | none => rw [UuidType.printed_of_unread hinput]
  | some key =>
      rw [UuidType.printed_of_input hinput]
      simp only [DriverRepository.findOneById, Program.exec_call, scripted]
      cases hfault : state.1 0 <;>
        simp [faultable, DriverWorld.answerUuid, hinput,
          uuid.input_output hinput]

/-- An id that is none is no row's, so the handlers change nothing either
way. -/
theorem exec_findOneById_unread {id : String} (hinput : uuid.input id = none)
    (faults : Faults) (world : DriverWorld) :
    ∃ error, (DriverRepository.findOneById id).exec
        (scripted (faultable (DriverWorld.answerUuid uuid))) (faults, world) =
      (.error error, (fun n => faults (n + 1), world)) := by
  rw [DriverRepository.findOneById, Program.exec_call, scripted_apply]
  cases hfault : faults 0 with
  | some error => exact ⟨error, rfl⟩
  | none =>
      simp only [faultable, DriverWorld.answerUuid, hinput]
      exact ⟨_, rfl⟩

theorem exec_handleDriverAssigned_printed (hstored : world.Stored uuid)
    (faults : Faults) (now : Instant) (event : DriverAssignedEvent) :
    ((DriverService.handleDriverAssigned now event).exec
        (scripted (faultable (DriverWorld.answerUuid uuid)))
        (faults, world)).2.2 =
      (underFaults faults (DriverService.handleDriverAssigned now
        { event with driverId := uuid.printed event.driverId }) world).2 := by
  cases hinput : uuid.input event.driverId with
  | none =>
      have hnone : world.drivers.get? event.driverId = none := by
        apply hstored.get?_eq_none
        rw [hinput]
        simp
      obtain ⟨error, hlookup⟩ := exec_findOneById_unread hinput faults world
      rw [UuidType.printed_of_unread hinput, underFaults_handleDriverAssigned,
        hnone, DriverService.handleDriverAssigned, Program.exec_bind, hlookup]
      cases faults 0 <;> rfl
  | some key =>
      have hprinted : uuid.input (uuid.printed event.driverId) =
          some (uuid.printed event.driverId) := by
        rw [UuidType.input_printed, UuidType.printed_of_input hinput, hinput]
      rw [← exec_of_confined (confined_handleDriverAssigned now hprinted
        fun _ => trivial) hstored faults, DriverService.handleDriverAssigned,
        DriverService.handleDriverAssigned, Program.exec_bind,
        Program.exec_bind, exec_findOneById_printed]

theorem exec_handleRideFinished_printed (hstored : world.Stored uuid)
    (faults : Faults) (now : Instant) (event : RideFinishedEvent) :
    ((DriverService.handleRideFinished now event).exec
        (scripted (faultable (DriverWorld.answerUuid uuid)))
        (faults, world)).2.2 =
      (underFaults faults (DriverService.handleRideFinished now
        { event with driverId := event.driverId.map uuid.printed })
          world).2 := by
  cases hnamed : truthy event.driverId with
  | none =>
      have hnone : truthy (event.driverId.map uuid.printed) = none := by
        rw [UuidType.truthy_map_printed, hnamed]
        rfl
      simp only [underFaults, DriverService.handleRideFinished, hnamed, hnone,
        Program.exec_pure]
  | some driverId =>
      have hsome : truthy (event.driverId.map uuid.printed) =
          some (uuid.printed driverId) := by
        rw [UuidType.truthy_map_printed, hnamed]
        rfl
      cases hinput : uuid.input driverId with
      | none =>
          have hnone : world.drivers.get? driverId = none := by
            apply hstored.get?_eq_none
            rw [hinput]
            simp
          obtain ⟨error, hlookup⟩ := exec_findOneById_unread hinput faults world
          rw [underFaults_handleRideFinished]
          simp only [hsome, UuidType.printed_of_unread hinput, hnone,
            DriverService.handleRideFinished, hnamed, Program.exec_bind,
            hlookup]
          cases faults 0 <;> rfl
      | some key =>
          have hprinted : ∀ other,
              truthy (event.driverId.map uuid.printed) = some other →
                uuid.input other = some other := by
            intro other hother
            rw [hsome, Option.some.injEq] at hother
            rw [← hother, UuidType.input_printed,
              UuidType.printed_of_input hinput, hinput]
          rw [← exec_of_confined (confined_handleRideFinished now hprinted
            fun _ => trivial) hstored faults]
          simp only [DriverService.handleRideFinished, hnamed, hsome,
            Program.exec_bind, exec_findOneById_printed]

/-- A message acts on the row that its id names, in whatever spelling. -/
theorem interrupted_message (hstored : world.Stored uuid) (faults : Faults)
    (now : Instant) (inbound : DriverService.Inbound) :
    (Request.message now inbound).interrupted uuid faults world =
      (underFaults faults
        (DriverService.onMessage now (inbound.printed uuid)) world).2 := by
  have hhandler : (Request.message now inbound).interrupted uuid faults world =
      ((DriverService.onMessage now inbound).exec
        (scripted (faultable (DriverWorld.answerUuid uuid)))
        (faults, world)).2.2 := by
    simp only [Request.interrupted, Request.program, DriverService.eachMessage,
      exec_eachMessage]
  rw [hhandler]
  cases inbound with
  | userPhotoUpdated event =>
      exact exec_of_confined
        (confined_handleUserPhotoUpdated now event fun _ => trivial) hstored
        faults
  | driverAssigned event =>
      exact exec_handleDriverAssigned_printed hstored faults now event
  | rideCompleted event =>
      exact exec_handleRideFinished_printed hstored faults now event
  | rideStatusUpdated event =>
      simp only [DriverService.onMessage, DriverService.Inbound.printed]
      split
      · rfl
      · exact exec_handleRideFinished_printed hstored faults now event

/-! ## Requests of clients -/

/-- What a status change leaves whose row update is call number `first` and
whose member in the pool is `member`. -/
def changeAs (faults : Faults) (first : ℕ) (world : DriverWorld)
    (driver : DriverEntity) (member : String) (status : DriverStatus)
    (event : DriverStatusUpdated) : DriverWorld where
  drivers :=
    if faults first = none then
      world.drivers.update driver.id { status := status }
    else world.drivers
  pool :=
    if faults first = none ∧ faults (first + 1) = none then
      placeInPool world.pool member status driver.lat driver.lng
    else world.pool
  published :=
    if faults first = none ∧ faults (first + 1) = none ∧
        faults (first + 2) = none then
      world.published ++ [recordOf (.driverStatusUpdated event)]
    else world.published

theorem changeUnderFaults_eq_changeAs (faults : Faults) (first : ℕ)
    (world : DriverWorld) (driver : DriverEntity) (status : DriverStatus)
    (event : DriverStatusUpdated) :
    (changeUnderFaults faults first world driver status event).2 =
      changeAs faults first world driver driver.id status event := by
  unfold changeUnderFaults changeAs
  cases hrow : faults first with
  | some error => simp
  | none =>
      cases hpool : faults (first + 1) with
      | some error => simp [DriverWorld.writeStatus]
      | none =>
          cases hsend : faults (first + 2) <;>
            simp [DriverWorld.writeStatus, DriverWorld.writePool,
              DriverWorld.changeStatus]

/-- What a position report leaves whose first call after the lookup and the
pool is `first`. -/
def reportAs (faults : Faults) (first : ℕ) (now : Instant) (driverId id : String)
    (dto : UpdateLocationDto) (world : DriverWorld) : DriverWorld where
  drivers :=
    if faults first = none then
      world.drivers.update driverId { lat := dto.lat, lng := dto.lng }
    else world.drivers
  pool := world.pool
  published :=
    if faults first = none ∧ faults (first + 1) = none then
      world.published ++
        [recordOf (.driverLocationUpdated
          { driverId := id
            lat := dto.lat
            lng := dto.lng
            timestamp := isoString now })]
    else world.published

theorem exec_discard {σ : Type} {α : Type} (program : DriverM α)
    (answer : (call : DriverCall) → σ → Except JsError call.Reply × σ)
    (state : σ) :
    ((do let _ ← program : DriverM Unit).exec answer state).2 =
      (program.exec answer state).2 := by
  rw [Program.exec_bind]
  split <;> simp_all

section Calls

variable {faults : Faults} {id : String} {driver : DriverEntity}

theorem exec_getDriver_named (hlookup : faults 0 = none)
    (hnamed : world.named uuid id = some driver) :
    (DriverService.getDriver id).exec
        (scripted (faultable (DriverWorld.answerUuid uuid))) (faults, world) =
      (.ok driver, (fun n => faults (n + 1), world)) := by
  obtain ⟨hinput, hget⟩ := named_eq_some_iff.mp hnamed
  simp [DriverService.getDriver, DriverRepository.findOneById, faultable,
    DriverWorld.answerUuid, DriverWorld.answer, hlookup, hinput, hget]

theorem exec_getDriver_failed
    (hfailed : ¬ (faults 0 = none ∧ (world.named uuid id).isSome)) :
    ∃ error, (DriverService.getDriver id).exec
        (scripted (faultable (DriverWorld.answerUuid uuid))) (faults, world) =
      (.error error, (fun n => faults (n + 1), world)) := by
  simp only [DriverService.getDriver, DriverRepository.findOneById,
    Program.exec_tryCatch, Program.exec_bind, Program.exec_call,
    scripted_apply]
  cases hlookup : faults 0 with
  | some error =>
      by_cases hnotFound : error.isInstance .notFound <;>
        simp [faultable, hnotFound]
  | none =>
      simp only [hlookup, true_and, Option.not_isSome_iff_eq_none,
        DriverWorld.named] at hfailed
      simp only [faultable, DriverWorld.answerUuid]
      cases hinput : uuid.input id with
      | none => simp [UuidType.invalidInput, JsError.isInstance]
      | some key =>
          rw [hinput, Option.bind_some] at hfailed
          simp [DriverWorld.answer, hfailed, JsError.isInstance]

theorem exec_rowUpdate_uuid (hinput : uuid.input id = some driver.id)
    (patch : DriverPatch) (world : DriverWorld) :
    (DriverRepository.update id patch).exec
        (scripted (faultable (DriverWorld.answerUuid uuid))) (faults, world) =
      match faults 0 with
      | some error => (.error error, (fun n => faults (n + 1), world))
      | none => (.ok (), (fun n => faults (n + 1), { world with
          drivers := world.drivers.update driver.id patch })) := by
  cases hfault : faults 0 <;>
    simp [DriverRepository.update, faultable, DriverWorld.answerUuid,
      DriverWorld.answer, hfault, hinput]

theorem exec_statusCommand_uuid (driverId : String) (status : DriverStatus)
    (lat lng : Option Num) (world : DriverWorld) :
    (RedisService.handleDriverStatusChange driverId status lat lng).exec
        (scripted (faultable (DriverWorld.answerUuid uuid))) (faults, world) =
      match faults 0 with
      | some error => (.error error, (fun n => faults (n + 1), world))
      | none => (.ok (), (fun n => faults (n + 1), { world with
          pool := placeInPool world.pool driverId status lat lng })) := by
  cases hfault : faults 0 <;> cases status <;> cases lat <;> cases lng <;>
    simp [RedisService.handleDriverStatusChange,
      RedisService.updateDriverLocation, RedisService.removeDriverFromGeo,
      placeInPool, entryFor, faultable, DriverWorld.answerUuid,
      DriverWorld.answer, hfault]

theorem exec_send_uuid (message : Message) (world : DriverWorld) :
    (publish message).exec
        (scripted (faultable (DriverWorld.answerUuid uuid))) (faults, world) =
      match faults 0 with
      | some error => (.error error, (fun n => faults (n + 1), world))
      | none => (.ok (), (fun n => faults (n + 1), { world with
          published := world.published ++ [recordOf message] })) := by
  cases hfault : faults 0 <;>
    simp [publish, recordOf, faultable, DriverWorld.answerUuid,
      DriverWorld.answer, hfault]

end Calls

theorem run_createDriver_of_taken (newId : String) {dto : CreateDriverDto}
    {existing : DriverEntity}
    (hfind : (world.drivers.find? fun driver => driver.email = dto.email) =
      some existing) :
    (Request.createDriver newId dto).run world = world := by
  have hemail : existing.email = dto.email := by
    simpa using List.find?_some hfind
  have hrefused : world.drivers.insert? (offlineDriver newId dto) = none := by
    rw [Table.insert?_eq_none_iff]
    exact ⟨existing, Table.mem_of_find? hfind, by
      simp [Indexed.clash, offlineDriver, hemail]⟩
  simp only [Request.run, exec_createDriver, hrefused]

theorem interrupted_createDriver (faults : Faults) (newId : String)
    (dto : CreateDriverDto) (world : DriverWorld) :
    (Request.createDriver newId dto).interrupted uuid faults world =
      match uuid.input newId, faults 0, faults 1 with
      | some key, none, none => (Request.createDriver key dto).run world
      | _, _, _ => world := by
  simp only [Request.interrupted, Request.program, exec_discard,
    DriverService.createDriver]
  rw [Program.exec_tryCatch_state]
  · simp only [Program.exec_bind, DriverRepository.findOneByEmail,
      DriverRepository.save, Program.exec_call, scripted_apply]
    cases hlookup : faults 0 with
    | some error => cases uuid.input newId <;> rfl
    | none =>
        simp only [faultable, DriverWorld.answerUuid, DriverWorld.answer]
        cases hfind : world.drivers.find? fun driver =>
            driver.email = dto.email with
        | some existing =>
            cases uuid.input newId with
            | none => rfl
            | some key =>
                cases faults 1 with
                | some error => rfl
                | none => exact (run_createDriver_of_taken key hfind).symm
        | none =>
            cases hinput : uuid.input newId <;> cases hsave : faults 1 <;>
              simp only [Option.isSome_none, Bool.false_eq_true, if_false,
                Program.exec_call, scripted_apply, hsave, faultable,
                DriverWorld.answerUuid, DriverWorld.answer, hinput]
            rename_i key
            simp only [Request.run, exec_createDriver, offlineDriver]
            generalize world.drivers.insert? _ = inserted
            cases inserted <;> rfl
  · intro error state
    split <;> rfl

theorem interrupted_updateStatus (faults : Faults) (now : Instant)
    (id : String) (dto : UpdateStatusDto) (world : DriverWorld) :
    (Request.updateStatus now id dto).interrupted uuid faults world =
      match faults 0, world.named uuid id with
      | none, some driver =>
          match statusRefusal driver dto.status with
          | some _ => world
          | none => changeAs faults 1 world driver id dto.status
              (clientEvent now id dto.status)
      | _, _ => world := by
  simp only [Request.interrupted, Request.program, exec_discard,
    DriverService.updateStatus]
  rw [Program.exec_tryCatch_state]
  · by_cases hfound : faults 0 = none ∧ (world.named uuid id).isSome
    · obtain ⟨hlookup, driver, hnamed⟩ := hfound.imp_right
        Option.isSome_iff_exists.mp
      obtain ⟨hinput, -⟩ := named_eq_some_iff.mp hnamed
      simp only [Program.exec_bind, exec_getDriver_named hlookup hnamed,
        hlookup, hnamed]
      by_cases hbusy : dto.status = .busy
      · simp [statusRefusal, hbusy]
      by_cases hriding : driver.status = .busy
      · simp [statusRefusal, hbusy, hriding]
      by_cases hphoto : dto.status = .available ∧ driver.hasPhoto = false
      · simp [statusRefusal, hriding, hphoto]
      have haccepted : statusRefusal driver dto.status = none := by
        simp only [statusRefusal, if_neg hbusy, if_neg hriding, if_neg hphoto]
      simp only [if_neg hbusy, if_neg hriding, if_neg hphoto, haccepted,
        Program.exec_bind, Program.exec_pure, exec_rowUpdate_uuid hinput,
        changeAs]
      cases hrow : faults 1 with
      | some error => simp
      | none =>
          cases hpool : faults 2 with
          | some error => simp [exec_statusCommand_uuid, hpool]
          | none =>
              cases hsend : faults 3 <;>
                simp [exec_statusCommand_uuid, exec_send_uuid, hpool, hsend,
                  clientEvent]
    · obtain ⟨error, hfailed⟩ := exec_getDriver_failed hfound
      simp only [Program.exec_bind, hfailed]
      split
      · rename_i hlookup hnamed
        exact absurd ⟨hlookup, by rw [hnamed]; rfl⟩ hfound
      · rfl
  · intro error state
    split <;> rfl

theorem interrupted_updateLocation (faults : Faults) (now : Instant)
    (id : String) (dto : UpdateLocationDto) (world : DriverWorld) :
    (Request.updateLocation now id dto).interrupted uuid faults world =
      match faults 0, world.named uuid id with
      | none, some driver =>
          if driver.status = .available then
            match faults 1 with
            | some _ => world
            | none => reportAs faults 2 now driver.id id dto
                { world with pool := world.pool.geoadd dto.lng dto.lat id }
          else reportAs faults 1 now driver.id id dto world
      | _, _ => world := by
  simp only [Request.interrupted, Request.program, exec_discard,
    DriverService.updateLocation]
  rw [Program.exec_tryCatch_state]
  · by_cases hfound : faults 0 = none ∧ (world.named uuid id).isSome
    · obtain ⟨hlookup, driver, hnamed⟩ := hfound.imp_right
        Option.isSome_iff_exists.mp
      obtain ⟨hinput, -⟩ := named_eq_some_iff.mp hnamed
      simp only [Program.exec_bind, exec_getDriver_named hlookup hnamed,
        hlookup, hnamed, RedisService.updateDriverLocation,
        Program.exec_tryCatch, Program.exec_ite, reportAs]
      by_cases havailable : driver.status = .available
      · simp only [if_pos havailable, Program.exec_call, scripted_apply]
        cases hpool : faults 1 with
        | some error => simp [faultable]
        | none =>
            simp only [faultable, DriverWorld.answerUuid, DriverWorld.answer,
              exec_rowUpdate_uuid hinput, Nat.zero_add, Nat.reduceAdd]
            cases hrow : faults 2 with
            | some error => simp
            | none =>
                cases hsend : faults 3 <;>
                  simp [exec_send_uuid, hsend]
      · simp only [if_neg havailable, Program.exec_pure,
          exec_rowUpdate_uuid hinput, Nat.zero_add]
        cases hrow : faults 1 with
        | some error => simp
        | none =>
            cases hsend : faults 2 <;> simp [exec_send_uuid, hsend]
    · obtain ⟨error, hfailed⟩ := exec_getDriver_failed hfound
      simp only [Program.exec_bind, hfailed]
      split
      · rename_i hlookup hnamed
        exact absurd ⟨hlookup, by rw [hnamed]; rfl⟩ hfound
      · rfl
  · intro error state
    split <;> rfl

end FakeBolt.Driver
