import FakeBolt.StatusChanges

/-!
# What the published events say about a driver

Every status change of a driver is published, and nothing else is published
as one.  The status in the row is therefore the one of the last
`driver.status.updated` about the driver, or `offline` if there was none.
-/

namespace FakeBolt.Driver

open Await Kafka Store

def statusNews (id : String) : Message → Option DriverStatus
  | .driverStatusUpdated event =>
      if event.driverId = id then some event.status else none
  | _ => none

def lastNews (id : String) (log : List Message) : Option DriverStatus :=
  (log.filterMap (statusNews id)).getLast?

/-- The last status published about a driver, next to the status in the row
if there is one. -/
def Told (news status : Option DriverStatus) : Prop :=
  match status with
  | none => news = none
  | some status => news.getD .offline = status

def DriverWorld.statusOf (world : DriverWorld) (id : String) :
    Option DriverStatus :=
  (world.drivers.get? id).map DriverEntity.status

theorem lastNews_append (id : String) (log more : List Message) :
    lastNews id (log ++ more) = (lastNews id more).or (lastNews id log) := by
  simp [lastNews, List.getLast?_append]

theorem lastNews_append_quiet {id : String} {log more : List Message}
    (hquiet : ∀ message ∈ more, statusNews id message = none) :
    lastNews id (log ++ more) = lastNews id log := by
  have hnone : more.filterMap (statusNews id) = [] :=
    List.filterMap_eq_nil_iff.mpr hquiet
  simp [lastNews, hnone]

theorem lastNews_append_ne_none {id : String} {log : List Message}
    (more : List Message) (hnews : lastNews id log ≠ none) :
    lastNews id (log ++ more) ≠ none := by
  rw [lastNews_append]
  cases lastNews id more with
  | none => exact hnews
  | some status => simp

/-- A request publishes about each driver what it does to their row. -/
def Tells (before after : DriverWorld) : Prop :=
  ∃ records, after.published = before.published ++ records ∧
    ∀ id log, Told (lastNews id log) (before.statusOf id) →
      Told (lastNews id (log ++ records.map ProducerRecord.message))
        (after.statusOf id)

variable {world after : DriverWorld}

theorem Tells.refl (world : DriverWorld) : Tells world world :=
  ⟨[], by simp, by simp⟩

theorem Tells.trans {middle : DriverWorld} (hfirst : Tells world middle)
    (hsecond : Tells middle after) : Tells world after := by
  obtain ⟨first, hpublishedFirst, htoldFirst⟩ := hfirst
  obtain ⟨second, hpublishedSecond, htoldSecond⟩ := hsecond
  refine ⟨first ++ second, ?_, ?_⟩
  · rw [hpublishedSecond, hpublishedFirst, List.append_assoc]
  · intro id log htold
    rw [List.map_append, ← List.append_assoc]
    exact htoldSecond id _ (htoldFirst id log htold)

/-- Nothing about a status is published, and no status in a row changes. -/
theorem tells_of_quiet {records : List ProducerRecord}
    (hpublished : after.published = world.published ++ records)
    (hquiet : ∀ record ∈ records, ∀ id,
      statusNews id record.message = none)
    (hstatus : ∀ id, after.statusOf id = world.statusOf id) :
    Tells world after := by
  refine ⟨records, hpublished, ?_⟩
  intro id log htold
  rw [lastNews_append_quiet, hstatus]
  · exact htold
  · intro message hmessage
    obtain ⟨record, hrecord, heq⟩ := List.mem_map.mp hmessage
    rw [← heq]
    exact hquiet record hrecord id

theorem tells_changeStatus {driver stored : DriverEntity}
    {status : DriverStatus} {event : DriverStatusUpdated}
    (hget : world.drivers.get? driver.id = some stored)
    (hid : event.driverId = driver.id) (hstatus : event.status = status) :
    Tells world (world.changeStatus driver status event) := by
  refine ⟨_, rfl, ?_⟩
  intro id log htold
  have hrow : (world.changeStatus driver status event).statusOf id =
      if id = driver.id then some status else world.statusOf id := by
    unfold DriverWorld.statusOf
    rw [← state_row, state_changeStatus_stored hget]
    split <;> rfl
  rw [hrow, lastNews_append]
  by_cases heq : id = driver.id
  · rw [if_pos heq]
    simp [lastNews, statusNews, recordOf, hid, heq, hstatus, Told]
  · have hother : ¬ event.driverId = id := by
      rw [hid]
      exact fun h => heq h.symm
    rw [if_neg heq]
    simpa [lastNews, statusNews, recordOf, hother] using htold

theorem statusOf_update {drivers : Table DriverEntity} {key : String}
    {patch : DriverPatch} (hpatch : patch.status = none) (id : String) :
    ((drivers.update key patch).get? id).map DriverEntity.status =
      (drivers.get? id).map DriverEntity.status := by
  rw [Table.get?_update, Option.map_map]
  congr 1
  funext driver
  by_cases heq : id = key <;>
    simp [heq, Indexed.patch, DriverPatch.apply, hpatch]

theorem statusOf_synced (inbound : DriverService.Inbound)
    (drivers : Table DriverEntity) (id : String) :
    ((synced inbound drivers).get? id).map DriverEntity.status =
      (drivers.get? id).map DriverEntity.status := by
  cases inbound with
  | userPhotoUpdated event =>
      simp only [synced]
      split_ifs
      · rfl
      · cases drivers.find? fun r => r.userId = event.userId with
        | none => rfl
        | some driver => exact statusOf_update rfl id
  | driverAssigned event => rfl
  | rideCompleted event => rfl
  | rideStatusUpdated event => rfl

theorem tells_sync (inbound : DriverService.Inbound) (world : DriverWorld) :
    Tells world (world.sync inbound) := by
  have hpublished : (world.sync inbound).published = world.published ++ [] :=
    (List.append_nil _).symm
  apply tells_of_quiet hpublished
  · intro record hrecord
    cases hrecord
  · intro id
    exact statusOf_synced inbound world.drivers id

theorem finishChange_known {drivers : Table DriverEntity}
    {event : RideFinishedEvent} {change : StatusChange}
    (hchange : finishChange event drivers = some change) :
    drivers.get? change.driver.id = some change.driver := by
  unfold finishChange at hchange
  obtain ⟨driverId, -, hfound⟩ := Option.bind_eq_some_iff.mp hchange
  obtain ⟨driver, hget, hbusy⟩ := Option.bind_eq_some_iff.mp hfound
  have hid : driver.id = driverId := Table.key_of_get? hget
  split_ifs at hbusy
  cases hbusy
  rw [hid]
  exact hget

theorem changeOf_known {inbound : DriverService.Inbound}
    {drivers : Table DriverEntity} {change : StatusChange}
    (hchange : changeOf inbound drivers = some change) :
    drivers.get? change.driver.id = some change.driver := by
  cases inbound with
  | userPhotoUpdated event =>
      simp only [changeOf] at hchange
      split_ifs at hchange
      obtain ⟨driver, hfind, hoffline⟩ := Option.bind_eq_some_iff.mp hchange
      split_ifs at hoffline
      cases hoffline
      exact Table.get?_key_of_mem (Table.mem_of_find? hfind)
  | driverAssigned event =>
      obtain ⟨driver, hget, hidle⟩ := Option.bind_eq_some_iff.mp hchange
      have hid : driver.id = event.driverId := Table.key_of_get? hget
      split_ifs at hidle
      cases hidle
      rw [hid]
      exact hget
  | rideCompleted event => exact finishChange_known hchange
  | rideStatusUpdated event =>
      simp only [changeOf] at hchange
      split_ifs at hchange
      exact finishChange_known hchange

theorem tells_message (now : Instant) (inbound : DriverService.Inbound)
    (world : DriverWorld) :
    Tells world ((Request.message now inbound).run world) := by
  rw [run_message]
  have hsync := tells_sync inbound world
  cases hchange : changeOf inbound world.drivers with
  | none => exact hsync
  | some change =>
      have hkept := statusOf_synced inbound world.drivers change.driver.id
      rw [changeOf_known hchange, Option.map_some,
        Option.map_eq_some_iff] at hkept
      obtain ⟨stored, hget, -⟩ := hkept
      have hstored : (world.sync inbound).drivers.get? change.driver.id =
          some stored := hget
      exact hsync.trans (tells_changeStatus hstored rfl rfl)

/-- Every request publishes what it does to the status of a driver. -/
theorem Request.tells (request : Request) (world : DriverWorld) :
    Tells world (request.run world) := by
  cases request with
  | createDriver newId dto =>
      simp only [Request.run, exec_createDriver]
      cases hinsert : world.drivers.insert? (offlineDriver newId dto) with
      | none => exact Tells.refl world
      | some drivers =>
          refine ⟨[], by simp, ?_⟩
          intro id log htold
          have hget := Table.get?_of_insert? hinsert id
          have hkey : Indexed.key (offlineDriver newId dto) = newId := rfl
          rw [hkey] at hget
          rw [List.map_nil, List.append_nil, DriverWorld.statusOf, hget]
          split_ifs with heq
          · subst id
            have hfree : world.drivers.get? newId = none :=
              Table.get?_eq_none_of_insert? hinsert
            have hnews : lastNews newId log = none := by
              simpa [DriverWorld.statusOf, hfree, Told] using htold
            simp [hnews, Told, offlineDriver]
          · exact htold
  | updateStatus now id dto =>
      simp only [Request.run, exec_updateStatus]
      cases hget : world.drivers.get? id with
      | none => exact Tells.refl world
      | some driver =>
          have hid : driver.id = id := Table.key_of_get? hget
          subst id
          simp only
          cases statusRefusal driver dto.status with
          | some refusal => exact Tells.refl world
          | none => exact tells_changeStatus hget rfl rfl
  | updateLocation now id dto =>
      simp only [Request.run, exec_updateLocation]
      cases hget : world.drivers.get? id with
      | none => exact Tells.refl world
      | some driver =>
          apply tells_of_quiet rfl
          · intro record hrecord other
            rw [List.mem_singleton] at hrecord
            rw [hrecord]
            rfl
          · intro other
            exact statusOf_update rfl other
  | message now inbound => exact tells_message now inbound world

end FakeBolt.Driver
