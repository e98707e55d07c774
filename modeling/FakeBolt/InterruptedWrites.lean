import FakeBolt.DriverSpellings

/-!
# The pool after a failure

The row and the pool are two stores.  An operation that stops between its
write to one and its write to the other can leave a driver in the pool who is
not to be matched, and which operations can is a matter of their order of
writes.  So can one that goes through: it takes one member out, and a driver
is in the pool once for each spelling of their id that was put there.
-/

namespace FakeBolt.Driver

open Await Kafka Store

def MatchableOnly (uuid : UuidType) (world : DriverWorld) : Prop :=
  ∀ member ∈ world.pool, ∃ driver, world.named uuid member = some driver ∧
    driver.status = .available ∧ driver.hasPhoto = true

/-- The request takes the driver of a member of the pool out of matching in
the row, and the member stays; or it adds a driver without a photo. -/
def Strands (uuid : UuidType) (faults : Faults) (world : DriverWorld) :
    Request → Prop
  | .createDriver _ _ => False
  | .updateStatus _ id dto =>
      (∃ driver, world.named uuid id = some driver ∧
        statusRefusal driver dto.status = none) ∧
      dto.status ≠ .available ∧ faults 0 = none ∧ faults 1 = none ∧
      ∃ member ∈ world.pool, uuid.input member = uuid.input id ∧
        (faults 2 ≠ none ∨ member ≠ id)
  | .updateLocation _ id _ =>
      (∃ driver, world.named uuid id = some driver ∧
        driver.status = .available ∧ driver.hasPhoto = false) ∧
      faults 0 = none ∧ faults 1 = none
  | .message _ (.userPhotoUpdated event) =>
      event.role = "driver" ∧ event.hasPhoto = false ∧
      faults 0 = none ∧ faults 1 = none ∧
      ∃ driver,
        (world.drivers.find? fun r => r.userId = event.userId) = some driver ∧
        ∃ member ∈ world.pool, uuid.input member = some driver.id ∧
          (faults 2 ≠ none ∨ faults 3 ≠ none ∨ member ≠ driver.id)
  | .message _ (.driverAssigned event) =>
      faults 0 = none ∧ faults 1 = none ∧
      ∃ member ∈ world.pool, uuid.input member = uuid.input event.driverId ∧
        (faults 2 ≠ none ∨ member ≠ uuid.printed event.driverId)
  | .message _ (.rideCompleted _) => False
  | .message _ (.rideStatusUpdated _) => False

variable {uuid : UuidType} {world after : DriverWorld} {faults : Faults}
  {id key : String}

/-! ## One driver at a time -/

/-- The member's driver is online, by the row under the id that it names. -/
theorem MatchableOnly.row (hgood : MatchableOnly uuid world) {member : String}
    (hmem : member ∈ world.pool) (hinput : uuid.input member = some key) :
    ∃ driver, world.drivers.get? key = some driver ∧
      driver.status = .available ∧ driver.hasPhoto = true := by
  obtain ⟨driver, hnamed, honline⟩ := hgood member hmem
  rw [named_of_input hinput] at hnamed
  exact ⟨driver, hnamed, honline⟩

theorem MatchableOnly.not_named (hgood : MatchableOnly uuid world)
    {driver : DriverEntity} (hget : world.drivers.get? key = some driver)
    (hout : driver.status ≠ .available ∨ driver.hasPhoto = false)
    {member : String} (hmem : member ∈ world.pool) :
    uuid.input member ≠ some key := by
  intro hinput
  obtain ⟨same, hrow, havailable, hphoto⟩ := hgood.row hmem hinput
  rw [hget] at hrow
  cases hrow
  rcases hout with hstatus | hnone
  · exact hstatus havailable
  · rw [hphoto] at hnone
    cases hnone

/-- An operation that changes one driver is judged by that driver. -/
theorem matchableOnly_at (key : String) (hgood : MatchableOnly uuid world)
    (hothers : ∀ member, uuid.input member ≠ some key →
      (member ∈ after.pool → member ∈ world.pool) ∧
        after.named uuid member = world.named uuid member) :
    MatchableOnly uuid after ↔
      ∀ member ∈ after.pool, uuid.input member = some key →
        ∃ driver, after.drivers.get? key = some driver ∧
          driver.status = .available ∧ driver.hasPhoto = true := by
  constructor
  · intro hafter member hmem hinput
    exact hafter.row hmem hinput
  · intro hone member hmem
    by_cases hinput : uuid.input member = some key
    · rw [named_of_input hinput]
      exact hone member hmem hinput
    · obtain ⟨hkept, hsame⟩ := hothers member hinput
      rw [hsame]
      exact hgood member (hkept hmem)

theorem named_update (key : String) (patch : DriverPatch) {member : String}
    (hinput : uuid.input member ≠ some key) :
    ({ world with drivers := world.drivers.update key patch } :
        DriverWorld).named uuid member = world.named uuid member := by
  unfold DriverWorld.named
  cases hread : uuid.input member with
  | none => rfl
  | some other =>
      have hne : other ≠ key := by
        rintro rfl
        exact hinput hread
      exact Table.get?_update_of_ne _ _ hne

theorem get?_update_status {stored : DriverEntity} (status : DriverStatus)
    (hget : world.drivers.get? key = some stored) :
    (world.drivers.update key { status := status }).get? key =
      some { stored with status := status } := by
  simp [hget, Indexed.patch, DriverPatch.apply]

theorem mem_changeAs_pool {first : ℕ} {driver : DriverEntity}
    {member other : String} {status : DriverStatus}
    {event : DriverStatusUpdated} (hother : other ≠ member) :
    other ∈ (changeAs faults first world driver member status event).pool ↔
      other ∈ world.pool := by
  simp only [changeAs]
  split_ifs
  · rw [AvailablePool.mem_iff_lookup, lookup_placeInPool, if_neg hother, ← AvailablePool.mem_iff_lookup]
  · rfl

theorem named_changeAs {first : ℕ} {driver : DriverEntity}
    {member other : String} {status : DriverStatus}
    {event : DriverStatusUpdated} (hother : uuid.input other ≠ some driver.id) :
    (changeAs faults first world driver member status event).named uuid other =
      world.named uuid other := by
  by_cases hrow : faults first = none
  · have hupdated : ({ world with
        drivers := world.drivers.update driver.id { status := status } } :
          DriverWorld).named uuid other = world.named uuid other :=
      named_update driver.id _ hother
    simpa only [DriverWorld.named, changeAs, if_pos hrow] using hupdated
  · simp only [DriverWorld.named, changeAs, if_neg hrow]

theorem member_mem_changeAs_pool {first : ℕ} {driver : DriverEntity}
    {member : String} {status : DriverStatus} {event : DriverStatusUpdated}
    (hstatus : status ≠ .available) (hrow : faults first = none) :
    member ∈ (changeAs faults first world driver member status event).pool ↔
      member ∈ world.pool ∧ faults (first + 1) ≠ none := by
  have hnone : entryFor status driver.lat driver.lng = none := by
    unfold entryFor
    split
    · exact absurd rfl hstatus
    · rfl
  simp only [changeAs, hrow, true_and]
  split_ifs with hplaced
  · simp [AvailablePool.mem_iff_lookup, lookup_placeInPool, hnone, hplaced]
  · simp [hplaced]

/-- A status change under faults keeps the pool matchable unless it writes
another status than available while a member of the driver stays. -/
theorem matchableOnly_changeAs {first : ℕ} {driver stored : DriverEntity}
    {member : String} {status : DriverStatus} {event : DriverStatusUpdated}
    (hinput : uuid.input member = some driver.id)
    (hget : world.drivers.get? driver.id = some stored)
    (hphoto : status = .available → stored.hasPhoto = true)
    (hgood : MatchableOnly uuid world) :
    MatchableOnly uuid
        (changeAs faults first world driver member status event) ↔
      ¬ (status ≠ .available ∧ faults first = none ∧
        ∃ other ∈ world.pool, uuid.input other = some driver.id ∧
          (faults (first + 1) ≠ none ∨ other ≠ member)) := by
  rw [matchableOnly_at driver.id hgood]
  · by_cases hrow : faults first = none
    · have hafter : (changeAs faults first world driver member status
          event).drivers.get? driver.id =
            some { stored with status := status } := by
        simp only [changeAs, if_pos hrow]
        exact get?_update_status status hget
      by_cases hstatus : status = .available
      · refine iff_of_true ?_ fun hstrands => hstrands.1 hstatus
        intro other _ _
        exact ⟨_, hafter, hstatus, hphoto hstatus⟩
      · -- now no member may name the driver
        constructor
        · rintro hall ⟨-, -, other, hmem, hother, hstays⟩
          have hkept : other ∈ (changeAs faults first world driver member
              status event).pool := by
            by_cases hsame : other = member
            · subst other
              rw [member_mem_changeAs_pool hstatus hrow]
              exact ⟨hmem, hstays.resolve_right (not_not.mpr rfl)⟩
            · rw [mem_changeAs_pool hsame]
              exact hmem
          obtain ⟨changed, hchanged, havailable, -⟩ := hall other hkept hother
          rw [hafter] at hchanged
          cases hchanged
          exact hstatus havailable
        · intro hnot other hmem hother
          refine (hnot ⟨hstatus, hrow, other, ?_⟩).elim
          by_cases hsame : other = member
          · subst other
            rw [member_mem_changeAs_pool hstatus hrow] at hmem
            exact ⟨hmem.1, hother, Or.inl hmem.2⟩
          · rw [mem_changeAs_pool hsame] at hmem
            exact ⟨hmem, hother, Or.inr hsame⟩
    · refine iff_of_true ?_ fun hstrands => hrow hstrands.2.1
      intro other hmem hother
      have hsame : changeAs faults first world driver member status event =
          world := by
        simp only [changeAs, hrow, false_and, if_false]
      rw [hsame] at hmem ⊢
      exact hgood.row hmem hother
  · intro other hother
    have hne : other ≠ member := by
      rintro rfl
      exact hother hinput
    exact ⟨(mem_changeAs_pool hne).mp, named_changeAs hother⟩

/-! ## One operation at a time -/

theorem updateStatus_strands (now : Instant) (id : String)
    (dto : UpdateStatusDto) (hgood : MatchableOnly uuid world) :
    MatchableOnly uuid
        ((Request.updateStatus now id dto).interrupted uuid faults world) ↔
      ¬ Strands uuid faults world (.updateStatus now id dto) := by
  rw [interrupted_updateStatus]
  simp only [Strands]
  cases hlookup : faults 0 with
  | some error => simp [hgood]
  | none =>
      cases hnamed : world.named uuid id with
      | none => simp [hgood]
      | some driver =>
          obtain ⟨hinput, hget⟩ := named_eq_some_iff.mp hnamed
          cases hrefused : statusRefusal driver dto.status with
          | some refusal => simp [hgood, hrefused]
          | none =>
              have hphoto := (statusRefusal_eq_none_iff.mp hrefused).2.2
              simp only [hrefused]
              rw [matchableOnly_changeAs hinput hget hphoto hgood]
              simp [hrefused, hinput]

theorem driverAssigned_strands (hstored : world.Stored uuid) (now : Instant)
    (event : DriverAssignedEvent) (hgood : MatchableOnly uuid world) :
    MatchableOnly uuid
        ((Request.message now (.driverAssigned event)).interrupted uuid faults
          world) ↔
      ¬ Strands uuid faults world (.message now (.driverAssigned event)) := by
  rw [interrupted_message hstored]
  simp only [DriverService.Inbound.printed, DriverService.onMessage,
    underFaults_handleDriverAssigned, Strands]
  cases hlookup : faults 0 with
  | some error => simp [hgood]
  | none =>
      simp only
      cases hget : world.drivers.get? (uuid.printed event.driverId) with
      | none =>
          refine iff_of_true hgood ?_
          rintro ⟨-, -, member, hmem, hinput, -⟩
          obtain ⟨driver, hnamed, -⟩ := hgood member hmem
          rw [DriverWorld.named, hinput, ← DriverWorld.named,
            hstored.named_eq, hget] at hnamed
          cases hnamed
      | some driver =>
          have hkey : driver.id = uuid.printed event.driverId :=
            Table.key_of_get? hget
          have hinput : uuid.input event.driverId = some driver.id := by
            rw [← UuidType.input_printed, ← hkey]
            exact hstored.of_get? (hkey ▸ hget)
          rw [← hkey] at hget ⊢
          simp only [hinput]
          split_ifs with hbusy
          · refine iff_of_true hgood ?_
            rintro ⟨-, -, member, hmem, hmember, -⟩
            apply hgood.not_named hget (Or.inl ?_) hmem hmember
            simp [hbusy]
          · rw [changeUnderFaults_eq_changeAs, matchableOnly_changeAs
              (hstored.of_get? hget) hget (by simp) hgood]
            simp

theorem finish_never_strands (now : Instant) (event : RideFinishedEvent)
    (hstored : world.Stored uuid) (hgood : MatchableOnly uuid world) :
    MatchableOnly uuid (underFaults faults
      (DriverService.handleRideFinished now event) world).2 := by
  rw [underFaults_handleRideFinished]
  cases truthy event.driverId with
  | none => exact hgood
  | some driverId =>
      simp only
      cases hlookup : faults 0 with
      | some error => exact hgood
      | none =>
          cases hget : world.drivers.get? driverId with
          | none => exact hgood
          | some driver =>
              have hkey : driver.id = driverId := Table.key_of_get? hget
              subst driverId
              simp only
              split_ifs with hbusy
              · have hphoto : releasedStatus driver = .available →
                    driver.hasPhoto = true := by
                  unfold releasedStatus
                  split <;> simp_all
                rw [changeUnderFaults_eq_changeAs, matchableOnly_changeAs
                  (hstored.of_get? hget) hget hphoto hgood]
                rintro ⟨-, -, other, hmem, hother, -⟩
                apply hgood.not_named hget (Or.inl ?_) hmem hother
                simp [hbusy]
              · exact hgood

theorem createDriver_never_strands (newId : String) (dto : CreateDriverDto)
    (hgood : MatchableOnly uuid world) :
    MatchableOnly uuid
      ((Request.createDriver newId dto).interrupted uuid faults world) := by
  rw [interrupted_createDriver]
  split
  · rename_i key _ _ _
    simp only [Request.run, exec_createDriver]
    cases hinsert : world.drivers.insert? (offlineDriver key dto) with
    | none => exact hgood
    | some drivers =>
        intro member hmem
        obtain ⟨driver, hnamed, honline⟩ := hgood member hmem
        obtain ⟨hinput, hget⟩ := named_eq_some_iff.mp hnamed
        refine ⟨driver, named_eq_some_iff.mpr ⟨hinput, ?_⟩, honline⟩
        rw [Table.get?_of_insert? hinsert, if_neg]
        · exact hget
        · intro hnew
          rw [hnew, Table.get?_eq_none_of_insert? hinsert] at hget
          cases hget
  · exact hgood

/-- A position report leaves the status and the photo flag as they are. -/
theorem matchableOnly_reportAs {first : ℕ} {now : Instant}
    {dto : UpdateLocationDto} {driver : DriverEntity}
    (hget : world.drivers.get? driver.id = some driver) :
    MatchableOnly uuid (reportAs faults first now driver.id id dto world) ↔
      MatchableOnly uuid world := by
  by_cases hrow : faults first = none
  · have hafter : (world.drivers.update driver.id
        { lat := dto.lat, lng := dto.lng }).get? driver.id =
          some { driver with lat := some dto.lat, lng := some dto.lng } := by
      simp [hget, Indexed.patch, DriverPatch.apply]
    apply forall₂_congr
    intro member _
    by_cases hinput : uuid.input member = some driver.id
    · rw [named_of_input hinput, named_of_input hinput, hget]
      simp only [reportAs, if_pos hrow, hafter]
      simp
    · have hsame : ({ world with
          drivers := world.drivers.update driver.id
            { lat := dto.lat, lng := dto.lng } } :
              DriverWorld).named uuid member = world.named uuid member :=
        named_update driver.id _ hinput
      simp only [DriverWorld.named, reportAs, if_pos hrow] at hsame ⊢
      rw [hsame]
  · have hsame : ∀ member,
        (reportAs faults first now driver.id id dto world).named uuid member =
          world.named uuid member := by
      intro member
      simp only [DriverWorld.named, reportAs, if_neg hrow]
    simp only [MatchableOnly, hsame]
    rfl

theorem updateLocation_strands (now : Instant) (id : String)
    (dto : UpdateLocationDto) (hgood : MatchableOnly uuid world) :
    MatchableOnly uuid
        ((Request.updateLocation now id dto).interrupted uuid faults world) ↔
      ¬ Strands uuid faults world (.updateLocation now id dto) := by
  rw [interrupted_updateLocation]
  simp only [Strands]
  cases hlookup : faults 0 with
  | some error => simp [hgood]
  | none =>
      cases hnamed : world.named uuid id with
      | none => simp [hgood]
      | some driver =>
          obtain ⟨hinput, hget⟩ := named_eq_some_iff.mp hnamed
          simp only
          split_ifs with havailable
          · cases hpool : faults 1 with
            | some error => simp [hgood]
            | none =>
                -- the driver is in the pool now, with a photo or without
                have hplaced : ({ world with
                    pool := world.pool.geoadd dto.lng dto.lat id } :
                      DriverWorld).drivers.get? driver.id = some driver := hget
                simp only
                rw [matchableOnly_reportAs hplaced,
                  matchableOnly_at driver.id hgood]
                · simp only [and_true]
                  constructor
                  · rintro hall ⟨same, hsame, -, hnone⟩
                    cases hsame
                    obtain ⟨row, hrow, -, hphoto⟩ := hall id (by
                      rw [AvailablePool.mem_iff_lookup, AvailablePool.lookup_geoadd_self]
                      simp) hinput
                    rw [hget] at hrow
                    cases hrow
                    rw [hnone] at hphoto
                    cases hphoto
                  · intro hphoto member _ _
                    refine ⟨driver, hget, havailable, ?_⟩
                    by_contra hnone
                    exact hphoto ⟨driver, rfl, havailable, by simpa using hnone⟩
                · intro member hmember
                  refine ⟨?_, rfl⟩
                  have hne : member ≠ id := by
                    rintro rfl
                    exact hmember hinput
                  simp only [AvailablePool.mem_iff_lookup,
                    AvailablePool.lookup_geoadd_of_ne hne, imp_self]
          · rw [matchableOnly_reportAs hget]
            simp [hgood, havailable]

theorem get?_writePhoto {driver : DriverEntity} (hasPhoto : Bool)
    (hget : world.drivers.get? driver.id = some driver) :
    (world.writePhoto driver hasPhoto).drivers.get? driver.id =
      some { driver with hasPhoto := hasPhoto } := by
  simp [DriverWorld.writePhoto, hget, Indexed.patch, DriverPatch.apply]

/-- A flag that is true, or a driver who was not available, strands nobody. -/
theorem matchableOnly_writePhoto {driver : DriverEntity} {hasPhoto : Bool}
    (hget : world.drivers.get? driver.id = some driver)
    (hkeep : ¬ (hasPhoto = false ∧ driver.status = .available))
    (hgood : MatchableOnly uuid world) :
    MatchableOnly uuid (world.writePhoto driver hasPhoto) := by
  rw [matchableOnly_at driver.id hgood]
  · intro member hmem hinput
    obtain ⟨same, hrow, havailable, -⟩ := hgood.row hmem hinput
    rw [hget] at hrow
    cases hrow
    refine ⟨_, get?_writePhoto hasPhoto hget, havailable, ?_⟩
    by_contra hremoved
    exact hkeep ⟨by simpa using hremoved, havailable⟩
  · intro member hinput
    exact ⟨id, named_update driver.id _ hinput⟩

/-- A driver whose photo is gone must leave the pool in the same execution. -/
theorem matchableOnly_removePhoto {driver : DriverEntity} {first : ℕ}
    {event : DriverStatusUpdated} (hid : uuid.input driver.id = some driver.id)
    (hget : world.drivers.get? driver.id = some driver)
    (hgood : MatchableOnly uuid world) :
    MatchableOnly uuid
        (changeUnderFaults faults first (world.writePhoto driver false) driver
          .offline event).2 ↔
      ¬ ∃ member ∈ world.pool, uuid.input member = some driver.id ∧
        (faults first ≠ none ∨ faults (first + 1) ≠ none ∨
          member ≠ driver.id) := by
  have hwritten := get?_writePhoto false hget
  rw [changeUnderFaults_eq_changeAs]
  generalize hafter : changeAs faults first (world.writePhoto driver false)
    driver driver.id .offline event = after
  have hrow : ∃ row, after.drivers.get? driver.id = some row ∧
      row.hasPhoto = false := by
    rw [← hafter]
    simp only [changeAs]
    split_ifs
    · exact ⟨_, get?_update_status .offline hwritten, rfl⟩
    · exact ⟨_, hwritten, rfl⟩
  have hpool : ∀ member, uuid.input member = some driver.id →
      (member ∈ after.pool ↔ member ∈ world.pool ∧
        (faults first ≠ none ∨ faults (first + 1) ≠ none ∨
          member ≠ driver.id)) := by
    intro member _
    rw [← hafter]
    by_cases hsame : member = driver.id
    · subst member
      by_cases hfirst : faults first = none
      · rw [member_mem_changeAs_pool (by simp) hfirst]
        simp [hfirst, DriverWorld.writePhoto]
      · simp [changeAs, hfirst, DriverWorld.writePhoto]
    · rw [mem_changeAs_pool hsame]
      simp [hsame, DriverWorld.writePhoto]
  rw [matchableOnly_at driver.id hgood]
  · obtain ⟨row, hget', hnone⟩ := hrow
    constructor
    · rintro hall ⟨member, hmem, hinput, hstays⟩
      obtain ⟨same, hsame, -, hphoto⟩ :=
        hall member ((hpool member hinput).mpr ⟨hmem, hstays⟩) hinput
      rw [hget'] at hsame
      cases hsame
      rw [hnone] at hphoto
      cases hphoto
    · intro hnot member hmem hinput
      obtain ⟨hbefore, hstays⟩ := (hpool member hinput).mp hmem
      exact (hnot ⟨member, hbefore, hinput, hstays⟩).elim
  · intro member hinput
    have hne : member ≠ driver.id := by
      rintro rfl
      exact hinput hid
    rw [← hafter]
    refine ⟨(mem_changeAs_pool hne).mp, ?_⟩
    have hphoto : (world.writePhoto driver false).named uuid member =
        world.named uuid member := named_update driver.id _ hinput
    rw [← hphoto]
    exact named_changeAs hinput

theorem photoUpdated_strands (hstored : world.Stored uuid) (now : Instant)
    (event : UserPhotoUpdatedEvent) (hgood : MatchableOnly uuid world) :
    MatchableOnly uuid
        ((Request.message now (.userPhotoUpdated event)).interrupted uuid faults
          world) ↔
      ¬ Strands uuid faults world (.message now (.userPhotoUpdated event)) := by
  rw [interrupted_message hstored]
  simp only [DriverService.Inbound.printed, DriverService.onMessage,
    underFaults_handleUserPhotoUpdated, Strands]
  split_ifs with hrole
  · simp [hgood, hrole]
  cases hlookup : faults 0 with
  | some error => simp [hgood]
  | none =>
      cases hfind : world.drivers.find? fun r => r.userId = event.userId with
      | none => simp [hgood]
      | some driver =>
          have hget : world.drivers.get? driver.id = some driver :=
            Table.get?_key_of_mem (Table.mem_of_find? hfind)
          cases hphoto : faults 1 with
          | some error => simp [hgood]
          | none =>
              simp only
              split_ifs with hoffline
              · rw [hoffline.1,
                  matchableOnly_removePhoto (hstored.of_get? hget) hget hgood]
                simp [not_not.mp hrole]
              · have hkept := matchableOnly_writePhoto hget hoffline hgood
                refine iff_of_true hkept ?_
                rintro ⟨-, hremoved, -, -, same, hsame, member, hmem, hinput, -⟩
                cases hsame
                obtain ⟨stored, hrow, havailable, -⟩ := hgood.row hmem hinput
                rw [hget] at hrow
                cases hrow
                exact hoffline ⟨hremoved, havailable⟩

/-- Stopping a request anywhere keeps the pool to matchable drivers exactly if
it does not strand one. -/
theorem pool_matchable_after_failure_iff (uuid : UuidType) (faults : Faults)
    (request : Request) (world : DriverWorld) (hstored : world.Stored uuid)
    (hgood : MatchableOnly uuid world) :
    MatchableOnly uuid (request.interrupted uuid faults world) ↔
      ¬ Strands uuid faults world request := by
  cases request with
  | createDriver newId dto =>
      exact iff_of_true (createDriver_never_strands newId dto hgood) id
  | updateStatus now id dto => exact updateStatus_strands now id dto hgood
  | updateLocation now id dto => exact updateLocation_strands now id dto hgood
  | message now inbound =>
      cases inbound with
      | userPhotoUpdated event =>
          exact photoUpdated_strands hstored now event hgood
      | driverAssigned event =>
          exact driverAssigned_strands hstored now event hgood
      | rideCompleted event =>
          refine iff_of_true ?_ id
          rw [interrupted_message hstored]
          exact finish_never_strands now _ hstored hgood
      | rideStatusUpdated event =>
          refine iff_of_true ?_ id
          rw [interrupted_message hstored]
          simp only [DriverService.Inbound.printed, DriverService.onMessage]
          split_ifs
          · exact hgood
          · exact finish_never_strands now _ hstored hgood

theorem onlineWorld_matchable : MatchableOnly hyphenated onlineWorld := by
  intro member hmem
  rcases Finmap.mem_insert.mp hmem with hid | hnone
  · subst hid
    exact ⟨{ waitingDriver with id := lowerId }, by decide +kernel, rfl, rfl⟩
  · exact absurd hnone Finmap.notMem_empty

theorem matchable_after_failed_row_update :
    MatchableOnly hyphenated
      ((Request.updateStatus 0 lowerId ⟨.offline⟩).interrupted hyphenated
        (fun n => if n = 1 then some (.error "Connection lost") else none)
        onlineWorld) := by
  rw [pool_matchable_after_failure_iff _ _ _ _ onlineWorld_stored
    onlineWorld_matchable]
  rintro ⟨-, -, -, hrow, -⟩
  simp at hrow

/-- The row says busy, and Redis fails: the driver stays in the pool. -/
theorem busy_driver_left_in_pool :
    MatchableOnly hyphenated onlineWorld ∧
      ¬ MatchableOnly hyphenated
        ((Request.message 0 (.driverAssigned ⟨"r", lowerId⟩)).interrupted
          hyphenated (fun n => if n = 2 then
            some (.error "Connection is closed.") else none) onlineWorld) := by
  refine ⟨onlineWorld_matchable, ?_⟩
  intro hgood
  obtain ⟨driver, hnamed, havailable, -⟩ := hgood lowerId (by decide +kernel)
  have hbusy : ((Request.message 0 (.driverAssigned ⟨"r", lowerId⟩)).interrupted
      hyphenated (fun n => if n = 2 then
        some (.error "Connection is closed.") else none) onlineWorld).named
          hyphenated lowerId =
      some { waitingDriver with id := lowerId, status := .busy } := by
    decide +kernel
  rw [hbusy] at hnamed
  cases hnamed
  cases havailable

end FakeBolt.Driver
