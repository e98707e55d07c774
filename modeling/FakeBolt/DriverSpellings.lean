import FakeBolt.DriverIds

/-!
# Requests in any spelling, executed atomically

A request that no failure interrupts acts on the row that its id names.  It
is the action of `DriverState.apply` on that driver if the requests that
write the pool give the id as the row prints it; in another spelling the row
changes and the driver's place in the pool does not.
-/

namespace FakeBolt.Driver

open Await Kafka Store

/-- A request that writes the pool gives the id of its driver as the row
prints it. -/
def Request.NamesRow (uuid : UuidType) (world : DriverWorld) : Request → Prop
  | .updateStatus _ id dto => ∀ driver ∈ world.named uuid id,
      statusRefusal driver dto.status = none → id = driver.id
  | .updateLocation _ id _ => ∀ driver ∈ world.named uuid id,
      driver.status = .available → id = driver.id
  | _ => True

instance (uuid : UuidType) (world : DriverWorld) (request : Request) :
    Decidable (request.NamesRow uuid world) := by
  cases request <;> simp only [Request.NamesRow] <;> infer_instance

/-- The id in a request of a client is as Postgres prints it, if it is one. -/
def Request.AsPrinted (uuid : UuidType) : Request → Prop
  | .updateStatus _ id _ => uuid.printed id = id
  | .updateLocation _ id _ => uuid.printed id = id
  | _ => True

instance (uuid : UuidType) (request : Request) :
    Decidable (request.AsPrinted uuid) := by
  cases request <;> simp only [Request.AsPrinted] <;> infer_instance

/-- `Request.action` with ids that Postgres reads. -/
def Request.actionUuid (uuid : UuidType) (request : Request)
    (world : DriverWorld) : Option (String × DriverAction) :=
  match request with
  | .createDriver newId dto =>
      (uuid.input newId).bind fun key =>
        (Request.createDriver key dto).action world
  | request => (request.printed uuid).action world

variable {uuid : UuidType} {world : DriverWorld}

theorem DriverWorld.Stored.named_eq (hstored : world.Stored uuid)
    (id : String) :
    world.named uuid id = world.drivers.get? (uuid.printed id) := by
  cases hinput : uuid.input id with
  | some key =>
      rw [DriverWorld.named, hinput, UuidType.printed_of_input hinput,
        Option.bind_some]
  | none =>
      rw [DriverWorld.named, hinput, UuidType.printed_of_unread hinput,
        Option.bind_none, hstored.get?_eq_none]
      rw [hinput]
      simp

theorem DriverWorld.Stored.runUuid (hstored : world.Stored uuid)
    (request : Request) : (request.runUuid uuid world).Stored uuid :=
  Program.exec_keeps _ (DriverWorld.Stored uuid)
    (fun call _ _ hbefore => hbefore.answerUuid call) hstored

/-! ## One equation for each request -/

theorem runUuid_eq_interrupted (request : Request) (world : DriverWorld) :
    request.runUuid uuid world =
      request.interrupted uuid (fun _ => none) world := by
  rw [Request.runUuid, Request.interrupted, Program.exec_scripted_none]

theorem runUuid_createDriver (newId : String) (dto : CreateDriverDto)
    (world : DriverWorld) :
    (Request.createDriver newId dto).runUuid uuid world =
      match uuid.input newId with
      | some key => (Request.createDriver key dto).run world
      | none => world := by
  rw [runUuid_eq_interrupted, interrupted_createDriver]
  cases uuid.input newId <;> rfl

theorem runUuid_updateStatus (now : Instant) (id : String)
    (dto : UpdateStatusDto) (world : DriverWorld) :
    (Request.updateStatus now id dto).runUuid uuid world =
      match world.named uuid id with
      | none => world
      | some driver =>
          match statusRefusal driver dto.status with
          | some _ => world
          | none =>
              { drivers :=
                  world.drivers.update driver.id { status := dto.status }
                pool := placeInPool world.pool id dto.status driver.lat
                  driver.lng
                published := world.published ++
                  [recordOf
                    (.driverStatusUpdated (clientEvent now id dto.status))] } := by
  rw [runUuid_eq_interrupted, interrupted_updateStatus]
  cases world.named uuid id with
  | none => rfl
  | some driver =>
      cases hrefused : statusRefusal driver dto.status with
      | some refusal => simp [hrefused]
      | none => simp [hrefused, changeAs]

theorem runUuid_updateLocation (now : Instant) (id : String)
    (dto : UpdateLocationDto) (world : DriverWorld) :
    (Request.updateLocation now id dto).runUuid uuid world =
      match world.named uuid id with
      | none => world
      | some driver =>
          { drivers := world.drivers.update driver.id
              { lat := dto.lat, lng := dto.lng }
            pool :=
              if driver.status = .available then
                world.pool.geoadd dto.lng dto.lat id
              else world.pool
            published := world.published ++
              [recordOf (.driverLocationUpdated
                { driverId := id
                  lat := dto.lat
                  lng := dto.lng
                  timestamp := isoString now })] } := by
  rw [runUuid_eq_interrupted, interrupted_updateLocation]
  cases world.named uuid id with
  | none => rfl
  | some driver =>
      simp only [reportAs]
      split_ifs <;> simp_all

/-- A message is handled as if it spelled the id as Postgres does. -/
theorem runUuid_message (hstored : world.Stored uuid) (now : Instant)
    (inbound : DriverService.Inbound) :
    (Request.message now inbound).runUuid uuid world =
      (Request.message now (inbound.printed uuid)).run world := by
  rw [runUuid_eq_interrupted, interrupted_message hstored, underFaults,
    Program.exec_scripted_none]
  simp only [Request.run, DriverService.eachMessage, exec_eachMessage]

/-! ## Requests that name the row as it prints its id -/

theorem run_updateStatus_of_named {now : Instant} {id : String}
    {dto : UpdateStatusDto} (hstored : world.Stored uuid)
    (hnames : (Request.updateStatus now id dto).NamesRow uuid world) :
    (Request.updateStatus now id dto).runUuid uuid world =
      (Request.updateStatus now (uuid.printed id) dto).run world := by
  rw [runUuid_updateStatus, hstored.named_eq]
  simp only [Request.run, exec_updateStatus]
  cases hget : world.drivers.get? (uuid.printed id) with
  | none => rfl
  | some driver =>
      cases hrefused : statusRefusal driver dto.status with
      | some refusal => simp [hrefused]
      | none =>
          have hkey : driver.id = uuid.printed id := Table.key_of_get? hget
          have hid : id = driver.id :=
            hnames driver ((hstored.named_eq id).trans hget) hrefused
          simp only [hrefused, DriverWorld.changeStatus, ← hkey, ← hid]

theorem state_updateLocation_of_named {now : Instant} {id : String}
    {dto : UpdateLocationDto} (hstored : world.Stored uuid)
    (hnames : (Request.updateLocation now id dto).NamesRow uuid world)
    (other : String) :
    ((Request.updateLocation now id dto).runUuid uuid world).state other =
      ((Request.updateLocation now (uuid.printed id) dto).run world).state
        other := by
  rw [runUuid_updateLocation, hstored.named_eq]
  simp only [Request.run, exec_updateLocation]
  cases hget : world.drivers.get? (uuid.printed id) with
  | none => rfl
  | some driver =>
      have hkey : driver.id = uuid.printed id := Table.key_of_get? hget
      simp only [DriverWorld.state, ← hkey]
      split_ifs with havailable
      · have hid : id = driver.id :=
          hnames driver ((hstored.named_eq id).trans hget) havailable
        rw [hid]
      · rfl

/-- Such a request does its action to the driver it names and leaves all
others alone. -/
theorem Request.state_runUuid (hstored : world.Stored uuid)
    {request : Request} (hnames : request.NamesRow uuid world)
    (id : String) :
    (request.runUuid uuid world).state id =
      actOn (request.actionUuid uuid world) world.state id := by
  cases request with
  | createDriver newId dto =>
      rw [runUuid_createDriver]
      simp only [Request.actionUuid]
      cases uuid.input newId with
      | none => rfl
      | some key => exact Request.state_run _ world id
  | updateStatus now driverId dto =>
      rw [run_updateStatus_of_named hstored hnames, Request.state_run]
      rfl
  | updateLocation now driverId dto =>
      rw [state_updateLocation_of_named hstored hnames, Request.state_run]
      rfl
  | message now inbound =>
      rw [runUuid_message hstored, Request.state_run]
      rfl

theorem Request.extends_runUuid (request : Request)
    (hstored : world.Stored uuid) :
    Extends world (request.runUuid uuid world) := by
  cases request with
  | createDriver newId dto =>
      rw [runUuid_createDriver]
      cases uuid.input newId with
      | none => exact Extends.refl world
      | some key => exact Request.extends_run _ world
  | updateStatus now id dto =>
      rw [runUuid_updateStatus]
      cases world.named uuid id with
      | none => exact Extends.refl world
      | some driver =>
          simp only
          cases statusRefusal driver dto.status with
          | some refusal => exact Extends.refl world
          | none =>
              refine ⟨_, rfl, ?_⟩
              intro record hrecord
              rw [List.mem_singleton] at hrecord
              subst record
              exact Or.inl ⟨_, rfl⟩
  | updateLocation now id dto =>
      rw [runUuid_updateLocation]
      cases world.named uuid id with
      | none => exact Extends.refl world
      | some driver =>
          refine ⟨_, rfl, ?_⟩
          intro record hrecord
          rw [List.mem_singleton] at hrecord
          subst record
          exact Or.inr ⟨_, rfl⟩
  | message now inbound =>
      rw [runUuid_message hstored]
      exact Request.extends_run _ world

/-- A member of the pool is the id of a row when it gets there. -/
theorem Request.pool_runUuid {request : Request} (hstored : world.Stored uuid)
    (hnames : request.NamesRow uuid world)
    (hpool : ∀ member ∈ world.pool, uuid.input member = some member) :
    ∀ member ∈ (request.runUuid uuid world).pool,
      uuid.input member = some member := by
  intro member hmem
  have hentry : ((request.runUuid uuid world).state member).entry.isSome :=
    Option.isSome_iff_ne_none.mpr (AvailablePool.mem_iff_lookup.mp hmem)
  rw [Request.state_runUuid hstored hnames] at hentry
  have hwas : (world.state member).entry.isSome →
      uuid.input member = some member := fun hsome => hpool member
    (AvailablePool.mem_iff_lookup.mpr (Option.isSome_iff_ne_none.mp hsome))
  unfold actOn at hentry
  split at hentry
  · exact hwas hentry
  · split at hentry
    · rcases DriverState.entry_of_apply hentry with hbefore | henters
      · exact hwas hbefore
      · obtain ⟨row, hrow⟩ := henters.row_exists
        exact hstored.of_get? hrow
    · exact hwas hentry

theorem Request.createdUuid_offline {request : Request} {id : String}
    {driver : DriverEntity}
    (haction : request.actionUuid uuid world = some (id, .create driver)) :
    driver.status = .offline := by
  cases request with
  | createDriver newId dto =>
      obtain ⟨key, -, hcreate⟩ := Option.bind_eq_some_iff.mp haction
      exact Request.created_offline hcreate
  | updateStatus now driverId dto =>
      simp [Request.actionUuid, Request.printed, Request.action] at haction
  | updateLocation now driverId dto =>
      simp [Request.actionUuid, Request.printed, Request.action] at haction
  | message now inbound =>
      have hcreate : ((Request.message now inbound).printed uuid).action world =
          some (id, .create driver) := haction
      exact Request.created_offline hcreate

theorem Request.AsPrinted.namesRow {request : Request}
    (hprinted : request.AsPrinted uuid) (hstored : world.Stored uuid) :
    request.NamesRow uuid world := by
  have hrow : ∀ id, uuid.printed id = id → ∀ driver ∈ world.named uuid id,
      id = driver.id := by
    intro id hid driver hnamed
    have hget : world.drivers.get? (uuid.printed id) = some driver :=
      (hstored.named_eq id).symm.trans hnamed
    rw [hid] at hget
    exact (Table.key_of_get? hget).symm
  cases request with
  | createDriver newId dto => trivial
  | updateStatus now id dto =>
      exact fun driver hnamed _ => hrow id hprinted driver hnamed
  | updateLocation now id dto =>
      exact fun driver hnamed _ => hrow id hprinted driver hnamed
  | message now inbound => trivial

/-- A request of which Postgres prints the ids as they are is executed as if
it compared ids as texts. -/
theorem runUuid_of_asPrinted (hstored : world.Stored uuid) {request : Request}
    (hprinted : request.AsPrinted uuid) :
    request.runUuid uuid world = world ∨
      request.runUuid uuid world = (request.printed uuid).run world := by
  have hnames := hprinted.namesRow hstored
  cases request with
  | createDriver newId dto =>
      rw [runUuid_createDriver]
      cases hinput : uuid.input newId with
      | none => exact Or.inl rfl
      | some key =>
          right
          simp only [Request.printed, UuidType.printed_of_input hinput]
  | updateStatus now id dto =>
      exact Or.inr (run_updateStatus_of_named hstored hnames)
  | updateLocation now id dto =>
      have hid : uuid.printed id = id := hprinted
      right
      rw [runUuid_updateLocation, hstored.named_eq]
      simp only [Request.printed, Request.run, exec_updateLocation, hid]
      cases hget : world.drivers.get? id with
      | none => rfl
      | some driver =>
          have hkey : driver.id = id := Table.key_of_get? hget
          simp only [hkey]
  | message now inbound => exact Or.inr (runUuid_message hstored now inbound)

/-! ## One id in two spellings -/

def lowerId : String := "0d2e4f60-1a3b-4c5d-8e7f-102030405060"

def capitalId : String := "0D2E4F60-1A3B-4C5D-8E7F-102030405060"

/-- `waitingWorld` with an id that Postgres prints. -/
def onlineWorld : DriverWorld where
  drivers := ⟨[{ waitingDriver with id := lowerId }],
    List.pairwise_singleton _ _⟩
  pool := AvailablePool.geoadd ∅ 0 0 lowerId
  published := []

theorem onlineWorld_stored : onlineWorld.Stored hyphenated := by
  intro driver hdriver
  rw [List.mem_singleton.mp hdriver]
  decide +kernel

end FakeBolt.Driver
