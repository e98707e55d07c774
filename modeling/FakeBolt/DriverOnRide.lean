import FakeBolt.PoolRowInvariant

/-!
# A driver on a ride

From the `driver.assigned` that makes a driver busy to the event that ends
their ride, whatever else the services do, the driver stays busy and out of
the pool.  Position reports and photo events in between are kept in the row,
and the release at the end goes by them.  Only a driver who went online under
another spelling of their id is not taken out of the pool to begin with.
-/

namespace FakeBolt.Driver

open Await Geo Store Matching

variable (uuid : UuidType)

/-- The event ends a ride of the driver. -/
def Finishes (driverId : String) : DriverService.Inbound → Prop
  | .rideCompleted event => truthy event.driverId = some driverId
  | .rideStatusUpdated event =>
      event.status = "cancelled" ∧ truthy event.driverId = some driverId
  | _ => False

def EndsRide (driverId : String) : PoolEvent → Prop
  | .driverRequest (.message _ inbound) =>
      Finishes driverId (inbound.printed uuid)
  | _ => False

/-- What the row of a driver on a ride has learnt so far: the last photo flag
that was synced and the last position reported. -/
structure RideNotes where
  hasPhoto : Bool
  lat : Option Num
  lng : Option Num
  deriving DecidableEq, Repr

def DriverEntity.notes (driver : DriverEntity) : RideNotes :=
  ⟨driver.hasPhoto, driver.lat, driver.lng⟩

def RideNotes.note (driver : DriverEntity) (notes : RideNotes) :
    PoolEvent → RideNotes
  | .driverRequest (.updateLocation _ id dto) =>
      if uuid.input id = some driver.id then
        { notes with lat := dto.lat, lng := dto.lng }
      else notes
  | .driverRequest (.message _ (.userPhotoUpdated event)) =>
      if event.role = "driver" ∧ event.userId = driver.userId then
        { notes with hasPhoto := event.hasPhoto }
      else notes
  | _ => notes

/-- The notes after a sequence of events that starts with the row as it is. -/
def notesAfter (driver : DriverEntity) (events : List PoolEvent) : RideNotes :=
  events.foldl (RideNotes.note uuid driver) driver.notes

def ranFrom (dist : GeoDist) (world : DriverWorld) (events : List PoolEvent) :
    DriverWorld :=
  events.foldl (fun world event => event.runUuid uuid dist world) world

/-- The driver during the ride: busy, not in the pool, the rest as noted. -/
def onRide (driver : DriverEntity) (notes : RideNotes) : DriverState where
  row := some { driver with
    status := .busy
    hasPhoto := notes.hasPhoto
    lat := notes.lat
    lng := notes.lng }
  entry := none

/-- What holds while the driver is on a ride, and what the end of the ride
then does. -/
structure KeptOut (driver : DriverEntity) (notes : RideNotes)
    (world : DriverWorld) : Prop where
  row : world.drivers.get? driver.id = some { driver with
    status := .busy
    hasPhoto := notes.hasPhoto
    lat := notes.lat
    lng := notes.lng }
  out : ∀ member ∈ world.pool, uuid.input member ≠ some driver.id
  refused : ∀ now id dto, uuid.input id = some driver.id → ∃ refusal,
    (DriverService.updateStatus now id dto).exec
      (DriverWorld.answerUuid uuid) world = (.error refusal, world)
  released : ∀ now inbound, Finishes driver.id (inbound.printed uuid) →
    let home := (Request.message now inbound).runUuid uuid world
    let status : DriverStatus :=
      if notes.hasPhoto then .available else .offline
    home.drivers.get? driver.id = some { driver with
      status := status
      hasPhoto := notes.hasPhoto
      lat := notes.lat
      lng := notes.lng } ∧
    ∀ member, uuid.input member = some driver.id →
      home.pool.lookup member =
        if member = driver.id then entryFor status notes.lat notes.lng
        else none

variable {uuid} {dist : GeoDist} {world : DriverWorld} {driver : DriverEntity}
  {notes : RideNotes}

theorem ranFrom_append_singleton (events : List PoolEvent)
    (event : PoolEvent) :
    ranFrom uuid dist world (events ++ [event]) =
      event.runUuid uuid dist (ranFrom uuid dist world events) := by
  simp [ranFrom]

theorem notesAfter_append_singleton (events : List PoolEvent)
    (event : PoolEvent) :
    notesAfter uuid driver (events ++ [event]) =
      (notesAfter uuid driver events).note uuid driver event := by
  simp [notesAfter]

/-! ## One event during the ride -/

/-- A photo event reaches the driver whose user it names. -/
theorem photo_reaches (event : UserPhotoUpdatedEvent)
    (hrow : (world.state driver.id).row = (onRide driver notes).row) :
    (∃ found, (world.drivers.find? fun r => r.userId = event.userId) =
        some found ∧ found.id = driver.id) ↔ event.userId = driver.userId := by
  obtain ⟨hmem, -⟩ := Table.get?_eq_some_iff.mp hrow
  constructor
  · rintro ⟨found, hfound, hid⟩
    have huser : found.userId = event.userId := by
      simpa using List.find?_some hfound
    have hsame := Table.eq_of_clash (Table.mem_of_find? hfound) hmem
      (Indexed.clash_of_key_eq hid)
    rw [← huser, hsame]
  · intro huser
    refine ⟨_, (Table.find?_eq_some_iff ?_).mpr ⟨hmem, ?_⟩, rfl⟩
    · intro r s hr hs
      rw [decide_eq_true_eq] at hr hs
      simp [Indexed.clash, hr, hs]
    · simp [huser]

theorem onRide_photo (now : Instant) (event : UserPhotoUpdatedEvent)
    (hstate : world.state driver.id = onRide driver notes) :
    ((Request.message now (.userPhotoUpdated event)).run world).state
        driver.id =
      onRide driver (notes.note uuid driver
        (.driverRequest (.message now (.userPhotoUpdated event)))) := by
  have hreaches := photo_reaches event (congrArg DriverState.row hstate)
  rw [Request.state_run]
  simp only [Request.action, RideNotes.note]
  by_cases hrole : event.role = "driver"
  · simp only [hrole, ne_eq, not_true_eq_false, if_false, true_and]
    cases hfind : world.drivers.find? fun r => r.userId = event.userId with
    | none =>
        have hother : ¬ event.userId = driver.userId := by
          rw [← hreaches, hfind]
          simp
        simp [actOn, hstate, hother]
    | some found =>
        rw [hfind] at hreaches
        by_cases hid : driver.id = found.id
        · have huser : event.userId = driver.userId :=
            hreaches.mp ⟨found, rfl, hid.symm⟩
          simp only [Option.map_some, actOn, if_pos hid, hstate]
          simp [DriverState.apply, onRide, huser]
        · have hother : ¬ event.userId = driver.userId := by
            rw [← hreaches]
            rintro ⟨same, hsame, heq⟩
            cases hsame
            exact hid heq.symm
          simp [actOn, hstate, hother, hid]
  · simp [hrole, actOn, hstate]

theorem onRide_message (now : Instant) {inbound : DriverService.Inbound}
    (hstate : world.state driver.id = onRide driver notes)
    (hopen : ¬ Finishes driver.id (inbound.printed uuid)) :
    ((Request.message now (inbound.printed uuid)).run world).state driver.id =
      onRide driver (notes.note uuid driver
        (.driverRequest (.message now inbound))) := by
  cases inbound with
  | userPhotoUpdated event => exact onRide_photo now event hstate
  | driverAssigned event =>
      rw [Request.state_run]
      simp only [DriverService.Inbound.printed, Request.action, actOn, hstate,
        RideNotes.note]
      split
      · simp [DriverState.apply, onRide]
      · rfl
  | rideCompleted event =>
      rw [Request.state_run]
      have hother : truthy (event.driverId.map uuid.printed) ≠
          some driver.id := hopen
      simp only [DriverService.Inbound.printed, Request.action, RideNotes.note]
      rw [finishAction, actOn_named, if_neg hother]
      exact hstate
  | rideStatusUpdated event =>
      rw [Request.state_run]
      simp only [DriverService.Inbound.printed, Request.action, RideNotes.note]
      by_cases hcancelled : event.status = "cancelled"
      · have hother : truthy (event.driverId.map uuid.printed) ≠
            some driver.id := fun hnamed => hopen ⟨hcancelled, hnamed⟩
        simp only [hcancelled, ne_eq, not_true_eq_false, if_false]
        rw [finishAction, actOn_named, if_neg hother]
        exact hstate
      · simp [hcancelled, actOn, hstate]

/-- Busy in the row, and no member of the pool is theirs. -/
structure OutOfPool (uuid : UuidType) (driver : DriverEntity)
    (notes : RideNotes) (world : DriverWorld) : Prop where
  stored : world.Stored uuid
  state : world.state driver.id = onRide driver notes
  unpooled : ∀ member ∈ world.pool, uuid.input member ≠ some driver.id

theorem OutOfPool.row (hout : OutOfPool uuid driver notes world) :
    ∃ row, world.drivers.get? driver.id = some row ∧ row.status = .busy :=
  ⟨_, congrArg DriverState.row hout.state, rfl⟩

theorem OutOfPool.id_stored (hout : OutOfPool uuid driver notes world) :
    uuid.input driver.id = some driver.id := by
  obtain ⟨row, hrow, -⟩ := hout.row
  exact hout.stored.of_get? hrow

/-- A driver whom Postgres does not find by a text is no member of the pool
under that text because of a message. -/
theorem mem_pool_of_message (now : Instant) {inbound : DriverService.Inbound}
    {member : String} (hrow : world.drivers.get? member = none)
    (hmem : member ∈ ((Request.message now inbound).run world).pool) :
    member ∈ world.pool := by
  have hstate := (Request.message now inbound).state_run world member
  have hrowless : (world.state member).row = none := hrow
  have hentry : ((((Request.message now inbound).run world).state
      member).entry) = (world.state member).entry := by
    rw [hstate]
    unfold actOn
    split
    · rfl
    · split
      · rename_i driverId action haction heq
        have hclaim : action ≠ .claim := by
          rintro rfl
          exact Request.not_claims _ world driverId haction
        cases action <;> simp_all [DriverState.apply]
      · rfl
  have hlookup : ((Request.message now inbound).run world).pool.lookup member =
      world.pool.lookup member := hentry
  rw [AvailablePool.mem_iff_lookup] at hmem ⊢
  rwa [hlookup] at hmem

theorem OutOfPool.rowless (hout : OutOfPool uuid driver notes world)
    {member : String} (hinput : uuid.input member = some driver.id)
    (hself : member ≠ driver.id) : world.drivers.get? member = none := by
  apply hout.stored.get?_eq_none
  rw [hinput]
  intro hsame
  exact hself (Option.some.inj hsame).symm

theorem OutOfPool.named_self (hout : OutOfPool uuid driver notes world)
    {id : String} (hinput : uuid.input id = some driver.id) :
    ∃ row, world.named uuid id = some row ∧ row.status = .busy := by
  rw [named_of_input hinput]
  exact hout.row

/-- A request of a client about another driver touches neither the row nor a
member of this one. -/
theorem OutOfPool.of_other (hout : OutOfPool uuid driver notes world)
    {id : String} {other : DriverEntity} {after : DriverWorld}
    {patch : DriverPatch} (hinput : uuid.input id = some other.id)
    (hne : driver.id ≠ other.id) (hstored : after.Stored uuid)
    (hdrivers : after.drivers = world.drivers.update other.id patch)
    (hpool : ∀ member, member ≠ id →
      after.pool.lookup member = world.pool.lookup member) :
    OutOfPool uuid driver notes after := by
  have hkept : ∀ member, uuid.input member = some driver.id →
      after.pool.lookup member = world.pool.lookup member := by
    intro member hmember
    apply hpool
    rintro rfl
    rw [hinput, Option.some.injEq] at hmember
    exact hne hmember.symm
  constructor
  · exact hstored
  · rw [← hout.state]
    simp only [DriverWorld.state, hdrivers, Table.get?_update_of_ne _ _ hne,
      hkept driver.id hout.id_stored]
  · intro member hmem hmember
    apply hout.unpooled member ?_ hmember
    rw [AvailablePool.mem_iff_lookup] at hmem ⊢
    rwa [hkept member hmember] at hmem

theorem OutOfPool.createDriver (hout : OutOfPool uuid driver notes world)
    (newId : String) (dto : CreateDriverDto) :
    OutOfPool uuid driver notes
      ((Request.createDriver newId dto).runUuid uuid world) := by
  have hstored := hout.stored.runUuid (.createDriver newId dto)
  rw [runUuid_createDriver] at hstored ⊢
  cases hinput : uuid.input newId with
  | none => exact hout
  | some key =>
      simp only [hinput, Request.run, exec_createDriver] at hstored ⊢
      cases hinsert : world.drivers.insert? (offlineDriver key dto) with
      | none => exact hout
      | some drivers =>
          rw [hinsert] at hstored
          refine ⟨hstored, ?_, hout.unpooled⟩
          obtain ⟨row, hrow, -⟩ := hout.row
          have hold : driver.id ≠ (offlineDriver key dto).id := by
            intro hsame
            have hfree := Table.get?_eq_none_of_insert? hinsert
            change world.drivers.get? (offlineDriver key dto).id = none at hfree
            rw [← hsame, hrow] at hfree
            cases hfree
          have hget : drivers.get? driver.id = world.drivers.get? driver.id := by
            rw [Table.get?_of_insert? hinsert]
            exact if_neg hold
          rw [← hout.state]
          simp only [DriverWorld.state, hget]

/-- The driver's own request is refused, in any spelling. -/
theorem OutOfPool.updateStatus (hout : OutOfPool uuid driver notes world)
    (now : Instant) (id : String) (dto : UpdateStatusDto) :
    OutOfPool uuid driver notes
      ((Request.updateStatus now id dto).runUuid uuid world) := by
  have hstored := hout.stored.runUuid (.updateStatus now id dto)
  rw [runUuid_updateStatus] at hstored ⊢
  cases hnamed : world.named uuid id with
  | none => exact hout
  | some other =>
      obtain ⟨hinput, hget⟩ := named_eq_some_iff.mp hnamed
      cases hrefused : statusRefusal other dto.status with
      | some refusal => simpa only [hrefused] using hout
      | none =>
          simp only [hnamed, hrefused] at hstored ⊢
          have hne : driver.id ≠ other.id := by
            intro hsame
            obtain ⟨row, hrow, hbusy⟩ := hout.row
            rw [hsame, hget] at hrow
            cases hrow
            exact (statusRefusal_eq_none_iff.mp hrefused).2.1 hbusy
          refine hout.of_other hinput hne hstored rfl ?_
          intro member hmember
          simp only [lookup_placeInPool, if_neg hmember]

theorem OutOfPool.updateLocation (hout : OutOfPool uuid driver notes world)
    (now : Instant) (id : String) (dto : UpdateLocationDto) :
    OutOfPool uuid driver
      (notes.note uuid driver (.driverRequest (.updateLocation now id dto)))
      ((Request.updateLocation now id dto).runUuid uuid world) := by
  have hstored := hout.stored.runUuid (.updateLocation now id dto)
  rw [runUuid_updateLocation] at hstored ⊢
  simp only [RideNotes.note]
  by_cases hself : uuid.input id = some driver.id
  · obtain ⟨row, hnamed, hbusy⟩ := hout.named_self hself
    have hstate := hout.state
    have hrow : world.drivers.get? driver.id = some row := by
      rw [← named_of_input hself, hnamed]
    have hkey : row.id = driver.id := Table.key_of_get? hrow
    have havailable : ¬ row.status = .available := by
      rw [hbusy]
      simp
    simp only [hnamed, if_neg havailable, hkey, if_pos hself] at hstored ⊢
    refine ⟨hstored, ?_, hout.unpooled⟩
    have hentry := congrArg DriverState.entry hstate
    have hbefore := congrArg DriverState.row hstate
    simp only [DriverWorld.state, onRide] at hentry hbefore ⊢
    rw [Table.get?_update_self, hbefore, hentry]
    rfl
  · rw [if_neg hself]
    cases hnamed : world.named uuid id with
    | none => exact hout
    | some other =>
        obtain ⟨hinput, hget⟩ := named_eq_some_iff.mp hnamed
        simp only [hnamed] at hstored ⊢
        have hne : driver.id ≠ other.id := by
          intro hsame
          rw [hsame] at hself
          exact hself hinput
        refine hout.of_other hinput hne hstored rfl ?_
        intro member hmember
        simp only
        split_ifs
        · exact AvailablePool.lookup_geoadd_of_ne hmember
        · rfl

theorem OutOfPool.message (hout : OutOfPool uuid driver notes world)
    (now : Instant) {inbound : DriverService.Inbound}
    (hopen : ¬ Finishes driver.id (inbound.printed uuid)) :
    OutOfPool uuid driver
      (notes.note uuid driver (.driverRequest (.message now inbound)))
      ((Request.message now inbound).runUuid uuid world) := by
  have hstored := hout.stored.runUuid (.message now inbound)
  rw [runUuid_message hout.stored] at hstored ⊢
  have hstate := onRide_message now hout.state hopen
  refine ⟨hstored, hstate, ?_⟩
  intro member hmem hinput
  by_cases hself : member = driver.id
  · subst member
    have hentry := congrArg DriverState.entry hstate
    exact AvailablePool.mem_iff_lookup.mp hmem hentry
  · apply hout.unpooled member ?_ hinput
    exact mem_pool_of_message now (hout.rowless hinput hself) hmem

theorem OutOfPool.claim (hout : OutOfPool uuid driver notes world)
    (lat lng radiusKm : Num) (hint : Option String) :
    OutOfPool uuid driver notes
      ((PoolEvent.claim lat lng radiusKm hint).run dist world) := by
  simp only [PoolEvent.run, exec_claimNearestDriver]
  cases hsearch : GeoSet.search dist world.pool ⟨lng, lat⟩ radiusKm hint with
  | none =>
      rw [GeoSet.claim_none hsearch]
      exact hout
  | some claimed =>
      rw [GeoSet.claim_some hsearch]
      refine ⟨hout.stored, ?_, ?_⟩
      · have hentry := congrArg DriverState.entry hout.state
        have hnone : (world.pool.erase claimed).lookup driver.id = none := by
          by_cases hself : driver.id = claimed
          · rw [hself]
            exact Finmap.lookup_erase claimed world.pool
          · rw [Finmap.lookup_erase_ne hself]
            exact hentry
        rw [← hout.state]
        simp only [DriverWorld.state] at hentry ⊢
        rw [hnone, hentry]
        rfl
      · intro member hmem
        exact hout.unpooled member (Finmap.mem_erase.mp hmem).2

theorem OutOfPool.runUuid (hout : OutOfPool uuid driver notes world)
    {event : PoolEvent} (hopen : ¬ EndsRide uuid driver.id event) :
    OutOfPool uuid driver (notes.note uuid driver event)
      (event.runUuid uuid dist world) := by
  cases event with
  | claim lat lng radiusKm hint => exact hout.claim lat lng radiusKm hint
  | driverRequest request =>
      cases request with
      | createDriver newId dto => exact hout.createDriver newId dto
      | updateStatus now id dto => exact hout.updateStatus now id dto
      | updateLocation now id dto => exact hout.updateLocation now id dto
      | message now inbound => exact hout.message now hopen

theorem OutOfPool.ranFrom {events : List PoolEvent}
    (hout : OutOfPool uuid driver driver.notes world)
    (hopen : ∀ event ∈ events, ¬ EndsRide uuid driver.id event) :
    OutOfPool uuid driver (notesAfter uuid driver events)
      (ranFrom uuid dist world events) := by
  induction events using List.reverseRecOn with
  | nil => exact hout
  | append_singleton events event ih =>
      rw [ranFrom_append_singleton, notesAfter_append_singleton]
      apply OutOfPool.runUuid
      · exact ih fun earlier hearlier =>
          hopen earlier (List.mem_append_left _ hearlier)
      · exact hopen event (by simp)

/-! ## The assignment and the release -/

theorem onRide_of_assigned {now : Instant} {assigned : DriverAssignedEvent}
    (hget : world.drivers.get? assigned.driverId = some driver)
    (hidle : driver.status ≠ .busy) :
    ((Request.message now (.driverAssigned assigned)).run world).state
      driver.id = onRide driver driver.notes := by
  have hid : driver.id = assigned.driverId := Table.key_of_get? hget
  have hrow : (world.state driver.id).row = some driver := by
    rw [state_row, hid, hget]
  rw [Request.state_run]
  simp only [Request.action, actOn, hid, if_true]
  rw [← hid]
  simp only [DriverState.apply, hrow, if_neg hidle]
  simp [DriverState.withStatus, onRide, DriverEntity.notes, entryFor]

theorem released_of_finishes (now : Instant)
    {inbound : DriverService.Inbound}
    (hstate : world.state driver.id = onRide driver notes)
    (hfinish : Finishes driver.id inbound) :
    ((Request.message now inbound).run world).state driver.id =
      (onRide driver notes).apply .release := by
  rw [Request.state_run]
  cases inbound with
  | userPhotoUpdated event => exact hfinish.elim
  | driverAssigned event => exact hfinish.elim
  | rideCompleted event =>
      have hnamed : truthy event.driverId = some driver.id := hfinish
      simp [Request.action, finishAction, hnamed, actOn, hstate]
  | rideStatusUpdated event =>
      have hcancelled : event.status = "cancelled" := hfinish.1
      have hnamed : truthy event.driverId = some driver.id := hfinish.2
      simp [Request.action, finishAction, hcancelled, hnamed, actOn, hstate]

/-- The row that a release at the end of the ride leaves. -/
def releasedRow (driver : DriverEntity) (notes : RideNotes) : DriverEntity :=
  { driver with
    status := if notes.hasPhoto then .available else .offline
    hasPhoto := notes.hasPhoto
    lat := notes.lat
    lng := notes.lng }

theorem apply_release_onRide :
    (onRide driver notes).apply .release =
      { row := some (releasedRow driver notes)
        entry := entryFor (releasedRow driver notes).status notes.lat
          notes.lng } := by
  simp [onRide, DriverState.apply, DriverState.withStatus, releasedRow,
    releasedStatus]

theorem refused_on_ride {now : Instant} {id : String} {dto : UpdateStatusDto}
    {row : DriverEntity} (hnamed : world.named uuid id = some row)
    (hbusy : row.status = .busy) :
    ∃ refusal,
      (DriverService.updateStatus now id dto).exec
        (DriverWorld.answerUuid uuid) world = (.error refusal, world) := by
  obtain ⟨hinput, hget⟩ := named_eq_some_iff.mp hnamed
  simp only [DriverService.updateStatus, DriverService.getDriver,
    DriverRepository.findOneById, Program.exec_tryCatch, Program.exec_bind,
    Program.exec_call, DriverWorld.answerUuid, DriverWorld.answer, hinput, hget]
  by_cases hown : dto.status = .busy <;>
    simp [hown, hbusy, JsError.isHttpException]

theorem OutOfPool.keptOut (hout : OutOfPool uuid driver notes world) :
    KeptOut uuid driver notes world := by
  constructor
  · exact congrArg DriverState.row hout.state
  · exact hout.unpooled
  · intro now id dto hinput
    obtain ⟨row, hnamed, hbusy⟩ := hout.named_self hinput
    exact refused_on_ride hnamed hbusy
  · intro now inbound hfinish
    have hhome := released_of_finishes now hout.state hfinish
    rw [apply_release_onRide] at hhome
    rw [runUuid_message hout.stored]
    refine ⟨congrArg DriverState.row hhome, ?_⟩
    intro member hinput
    by_cases hself : member = driver.id
    · rw [if_pos hself, hself]
      exact congrArg DriverState.entry hhome
    · rw [if_neg hself, Finmap.lookup_eq_none]
      intro hmem
      apply hout.unpooled member ?_ hinput
      exact mem_pool_of_message now (hout.rowless hinput hself) hmem

theorem outOfPool_of_assigned (hstored : world.Stored uuid) (now : Instant)
    {assigned : DriverAssignedEvent}
    (hnamed : world.named uuid assigned.driverId = some driver)
    (hidle : driver.status ≠ .busy)
    (hmembers : ∀ member ∈ world.pool, uuid.input member = some driver.id →
      member = driver.id) :
    OutOfPool uuid driver driver.notes
      ((Request.message now (.driverAssigned assigned)).runUuid uuid world) := by
  have hget : world.drivers.get? (uuid.printed assigned.driverId) =
      some driver := (hstored.named_eq _).symm.trans hnamed
  have hafter := hstored.runUuid (.message now (.driverAssigned assigned))
  rw [runUuid_message hstored] at hafter ⊢
  have hstate : ((Request.message now (.driverAssigned { assigned with
      driverId := uuid.printed assigned.driverId })).run world).state driver.id =
        onRide driver driver.notes := onRide_of_assigned hget hidle
  refine ⟨hafter, hstate, ?_⟩
  intro member hmem hinput
  by_cases hself : member = driver.id
  · subst member
    exact AvailablePool.mem_iff_lookup.mp hmem
      (congrArg DriverState.entry hstate)
  · have hrow : world.drivers.get? member = none := by
      apply hstored.get?_eq_none
      rw [hinput]
      intro hsame
      exact hself (Option.some.inj hsame).symm
    exact hself (hmembers member (mem_pool_of_message now hrow hmem) hinput)

/-- A member under another spelling stays when the driver is assigned. -/
theorem member_kept_of_assigned (hstored : world.Stored uuid) (now : Instant)
    {assigned : DriverAssignedEvent}
    (hnamed : world.named uuid assigned.driverId = some driver)
    {member : String} (hmem : member ∈ world.pool)
    (hother : member ≠ driver.id) :
    member ∈ ((Request.message now (.driverAssigned assigned)).runUuid uuid
      world).pool := by
  have hget : world.drivers.get? (uuid.printed assigned.driverId) =
      some driver := (hstored.named_eq _).symm.trans hnamed
  have hkey : driver.id = uuid.printed assigned.driverId :=
    Table.key_of_get? hget
  have hstate := (Request.message now (.driverAssigned
    { assigned with driverId := driver.id })).state_run world member
  simp only [Request.action, actOn, if_neg hother] at hstate
  rw [runUuid_message hstored]
  simp only [DriverService.Inbound.printed, ← hkey]
  rw [AvailablePool.mem_iff_lookup] at hmem ⊢
  have hlookup := congrArg DriverState.entry hstate
  simp only [DriverWorld.state] at hlookup
  rwa [hlookup]

/-- From the assignment that makes a driver busy until an event that ends
their ride they stay busy and out of the pool, their own status requests are
refused without effect, and the release puts them where the last photo flag
and the last position say: exactly if they were in the pool under no other
spelling of their id. -/
theorem ride_keeps_driver_out_iff (uuid : UuidType) (dist : GeoDist)
    (world : DriverWorld) (driver : DriverEntity) (assignedAt : Instant)
    (assigned : DriverAssignedEvent) (events : List PoolEvent)
    (hstored : world.Stored uuid)
    (hnamed : world.named uuid assigned.driverId = some driver)
    (hidle : driver.status ≠ .busy)
    (hopen : ∀ event ∈ events, ¬ EndsRide uuid driver.id event) :
    (∀ before, before <+: events →
      KeptOut uuid driver (notesAfter uuid driver before)
        (ranFrom uuid dist
          ((Request.message assignedAt (.driverAssigned assigned)).runUuid uuid
            world) before)) ↔
      ∀ member ∈ world.pool, uuid.input member = some driver.id →
        member = driver.id := by
  constructor
  · intro hkept member hmem hinput
    by_contra hother
    exact (hkept [] List.nil_prefix).out member
      (member_kept_of_assigned hstored assignedAt hnamed hmem hother) hinput
  · intro hmembers before hsegment
    apply OutOfPool.keptOut
    apply (outOfPool_of_assigned hstored assignedAt hnamed hidle
      hmembers).ranFrom
    intro event hevent
    exact hopen event (hsegment.subset hevent)

theorem photo_removed_on_ride :
    let onTheWay := ranFrom hyphenated (fun _ _ => 0)
      ((Request.message 0 (.driverAssigned ⟨"r", lowerId⟩)).runUuid hyphenated
        onlineWorld)
      [.driverRequest (.updateLocation 1 capitalId ⟨3, 4⟩),
        .driverRequest (.message 2 (.userPhotoUpdated ⟨"u", "driver", false⟩)),
        .driverRequest (.updateStatus 3 lowerId ⟨.offline⟩)]
    let home := (Request.message 4
      (.rideCompleted ⟨"r", some lowerId, "completed"⟩)).runUuid hyphenated
        onTheWay
    home.drivers.get? lowerId = some { waitingDriver with
      id := lowerId
      status := .offline
      hasPhoto := false
      lat := some 3
      lng := some 4 } ∧
    home.pool.lookup lowerId = none := by
  intro onTheWay home
  have hkept := (ride_keeps_driver_out_iff hyphenated (fun _ _ => 0)
    onlineWorld { waitingDriver with id := lowerId } 0 ⟨"r", lowerId⟩
    [.driverRequest (.updateLocation 1 capitalId ⟨3, 4⟩),
      .driverRequest (.message 2 (.userPhotoUpdated ⟨"u", "driver", false⟩)),
      .driverRequest (.updateStatus 3 lowerId ⟨.offline⟩)]
    onlineWorld_stored (by decide +kernel) (by decide)
    (by simp [EndsRide, Finishes, DriverService.Inbound.printed])).mpr ?_ _
      (List.prefix_refl _)
  · have hfinish : Finishes lowerId ((DriverService.Inbound.rideCompleted
        ⟨"r", some lowerId, "completed"⟩).printed hyphenated) := by
      simp only [Finishes, DriverService.Inbound.printed]
      decide +kernel
    have hnotes : notesAfter hyphenated { waitingDriver with id := lowerId }
        [.driverRequest (.updateLocation 1 capitalId ⟨3, 4⟩),
          .driverRequest (.message 2 (.userPhotoUpdated ⟨"u", "driver", false⟩)),
          .driverRequest (.updateStatus 3 lowerId ⟨.offline⟩)] =
        ⟨false, some 3, some 4⟩ := by decide +kernel
    rw [hnotes] at hkept
    obtain ⟨hrow, hpool⟩ := hkept.released 4 _ hfinish
    exact ⟨hrow, hpool lowerId (by decide +kernel)⟩
  · intro member hmem _
    rcases Finmap.mem_insert.mp hmem with hid | hnone
    · exact hid
    · exact absurd hnone Finmap.notMem_empty

/-- A driver who went online in capitals stays in the pool when assigned. -/
theorem busy_driver_in_pool_in_capitals :
    let assigned := (Request.message 3 (.driverAssigned ⟨"r", lowerId⟩)).runUuid
      hyphenated (reached hyphenated (fun _ _ => 0) (goesOnline capitalId))
    capitalId ∈ assigned.pool ∧
      (assigned.named hyphenated capitalId).map DriverEntity.status =
        some .busy := by
  decide +kernel

end FakeBolt.Driver
