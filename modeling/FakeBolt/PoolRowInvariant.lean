import FakeBolt.DriverSpellings
import FakeBolt.GuardedRun
import FakeBolt.MatchingService

/-!
# Pool and rows agree

Two services write the pool: driver-service with every status change and
position report, matching-service with its claims.  Along every sequence of
their atomic operations the pool holds only available drivers with a photo,
at the position of their row; an available driver whose position is known and
who is nevertheless absent was claimed, and nothing has put them back since.
That takes requests that give the ids as the rows print them: the pool tells
two spellings of one id apart, and the table does not.
-/

namespace FakeBolt.Driver

open Await Geo Store Matching Transition

inductive PoolEvent where
  | driverRequest (request : Request)
  | claim (lat lng radiusKm : Num) (hint : Option String)

variable (dist : GeoDist)

def PoolEvent.run (event : PoolEvent) (world : DriverWorld) : DriverWorld :=
  match event with
  | .driverRequest request => request.run world
  | .claim lat lng radiusKm hint =>
      { world with
        pool :=
          ((Matching.RedisService.claimNearestDriver lat lng radiusKm).exec
            (MatchingWorld.answerWith dist hint) ⟨world.pool, []⟩).2.pool }

def DriverWorld.initial : DriverWorld := ⟨Table.empty, ∅, []⟩

/-- The driver an operation concerns and what it does to them; for a claim
that is the driver found, if any. -/
def PoolEvent.action (event : PoolEvent) (world : DriverWorld) :
    Option (String × DriverAction) :=
  match event with
  | .driverRequest request => request.action world
  | .claim lat lng radiusKm hint =>
      (GeoSet.search dist world.pool ⟨lng, lat⟩ radiusKm hint).map
        fun driverId => (driverId, .claim)

variable {dist}

theorem PoolEvent.state_run (event : PoolEvent) (world : DriverWorld)
    (id : String) :
    (event.run dist world).state id =
      actOn (event.action dist world) world.state id := by
  cases event with
  | driverRequest request => exact request.state_run world id
  | claim lat lng radiusKm hint =>
      simp only [PoolEvent.run, PoolEvent.action, exec_claimNearestDriver]
      cases hsearch : GeoSet.search dist world.pool ⟨lng, lat⟩ radiusKm hint with
      | none =>
          rw [GeoSet.claim_none hsearch]
          rfl
      | some claimed =>
          rw [GeoSet.claim_some hsearch]
          simp only [Option.map_some, actOn, DriverWorld.state]
          by_cases heq : id = claimed
          · subst id
            simp [DriverState.apply]
          · simp [heq, Finmap.lookup_erase_ne heq]

theorem PoolEvent.created_offline {event : PoolEvent} {world : DriverWorld}
    {id : String} {driver : DriverEntity}
    (haction : event.action dist world = some (id, .create driver)) :
    driver.status = .offline := by
  cases event with
  | claim lat lng radiusKm hint =>
      simp [PoolEvent.action] at haction
  | driverRequest request => exact request.created_offline haction

theorem Request.not_claims (request : Request) (world : DriverWorld)
    (id : String) : request.action world ≠ some (id, .claim) := by
  cases request with
  | createDriver newId dto => simp [Request.action]
  | updateStatus now driverId dto => simp [Request.action]
  | updateLocation now driverId dto => simp [Request.action]
  | message now inbound =>
      cases inbound <;> simp [Request.action, finishAction]

theorem PoolEvent.claimed_pooled {event : PoolEvent} {world : DriverWorld}
    {id : String} (haction : event.action dist world = some (id, .claim)) :
    id ∈ world.pool ∧
      ∃ lat lng radiusKm hint, event = .claim lat lng radiusKm hint := by
  cases event with
  | claim lat lng radiusKm hint =>
      simp only [PoolEvent.action, Option.map_eq_some_iff, Prod.mk.injEq,
        and_true] at haction
      obtain ⟨claimed, hsearch, heq⟩ := haction
      subst claimed
      obtain ⟨position, hlookup, -⟩ := GeoSet.within_of_search hsearch
      exact ⟨Finmap.mem_of_lookup_eq_some hlookup, lat, lng, radiusKm, hint,
        rfl⟩
  | driverRequest request => exact absurd haction (request.not_claims world id)

theorem initial_state (id : String) :
    DriverWorld.initial.state id = ⟨none, none⟩ := by
  simp [DriverWorld.state, DriverWorld.initial]

/-! ## Ids that Postgres reads -/

/-- `PoolEvent.run` with ids that Postgres reads. -/
def PoolEvent.runUuid (uuid : UuidType) (dist : GeoDist) (event : PoolEvent)
    (world : DriverWorld) : DriverWorld :=
  match event with
  | .driverRequest request => request.runUuid uuid world
  | event => event.run dist world

def PoolEvent.actionUuid (uuid : UuidType) (dist : GeoDist)
    (event : PoolEvent) (world : DriverWorld) :
    Option (String × DriverAction) :=
  match event with
  | .driverRequest request => request.actionUuid uuid world
  | event => event.action dist world

def PoolEvent.step (uuid : UuidType) (dist : GeoDist) (world : DriverWorld)
    (event : PoolEvent) : Option DriverWorld :=
  some (event.runUuid uuid dist world)

def PoolEvent.NamesRow (uuid : UuidType) (world : DriverWorld) :
    PoolEvent → Prop
  | .driverRequest request => request.NamesRow uuid world
  | .claim _ _ _ _ => True

instance (uuid : UuidType) (world : DriverWorld) (event : PoolEvent) :
    Decidable (event.NamesRow uuid world) := by
  cases event <;> simp only [PoolEvent.NamesRow] <;> infer_instance

def reached (uuid : UuidType) (dist : GeoDist) (events : List PoolEvent) :
    DriverWorld :=
  events.foldl (fun world event => event.runUuid uuid dist world)
    DriverWorld.initial

/-- Every request of the run that writes the pool names its driver as the row
prints the id. -/
def RowsNamed (uuid : UuidType) (dist : GeoDist) (events : List PoolEvent) :
    Prop :=
  RunMeets (PoolEvent.step uuid dist)
    (fun world event => event.NamesRow uuid world) DriverWorld.initial events

instance (uuid : UuidType) (dist : GeoDist) (events : List PoolEvent) :
    Decidable (RowsNamed uuid dist events) := by
  unfold RowsNamed
  infer_instance

variable {uuid : UuidType}

theorem reached_append_singleton (events : List PoolEvent)
    (event : PoolEvent) :
    reached uuid dist (events ++ [event]) =
      event.runUuid uuid dist (reached uuid dist events) := by
  simp [reached]

theorem run_eq_reached (events : List PoolEvent) :
    run (PoolEvent.step uuid dist) DriverWorld.initial events =
      some (reached uuid dist events) := by
  induction events using List.reverseRecOn with
  | nil => rfl
  | append_singleton events event ih =>
      rw [run_append, ih, reached_append_singleton]
      rfl

theorem RowsNamed.init {events : List PoolEvent} {event : PoolEvent}
    (hnamed : RowsNamed uuid dist (events ++ [event])) :
    RowsNamed uuid dist events :=
  hnamed.of_prefix (List.prefix_append _ _)

theorem RowsNamed.last {events : List PoolEvent} {event : PoolEvent}
    (hnamed : RowsNamed uuid dist (events ++ [event])) :
    event.NamesRow uuid (reached uuid dist events) :=
  RunMeets.guard_of_run hnamed (run_eq_reached events)

theorem PoolEvent.stored_runUuid {world : DriverWorld}
    (hstored : world.Stored uuid) (event : PoolEvent) :
    (event.runUuid uuid dist world).Stored uuid := by
  cases event with
  | driverRequest request => exact hstored.runUuid request
  | claim lat lng radiusKm hint => exact hstored

theorem initial_stored : DriverWorld.initial.Stored uuid := by
  intro driver hdriver
  cases hdriver

theorem reached_stored (events : List PoolEvent) :
    (reached uuid dist events).Stored uuid := by
  induction events using List.reverseRecOn with
  | nil => exact initial_stored
  | append_singleton events event ih =>
      rw [reached_append_singleton]
      exact event.stored_runUuid ih

theorem PoolEvent.state_runUuid {event : PoolEvent} {world : DriverWorld}
    (hstored : world.Stored uuid) (hnames : event.NamesRow uuid world)
    (id : String) :
    (event.runUuid uuid dist world).state id =
      actOn (event.actionUuid uuid dist world) world.state id := by
  cases event with
  | driverRequest request => exact Request.state_runUuid hstored hnames id
  | claim lat lng radiusKm hint => exact PoolEvent.state_run _ world id

theorem PoolEvent.createdUuid_offline {event : PoolEvent}
    {world : DriverWorld} {id : String} {driver : DriverEntity}
    (haction : event.actionUuid uuid dist world = some (id, .create driver)) :
    driver.status = .offline := by
  cases event with
  | driverRequest request => exact Request.createdUuid_offline haction
  | claim lat lng radiusKm hint =>
      simp [PoolEvent.actionUuid, PoolEvent.action] at haction

theorem Request.not_claimsUuid (request : Request) {world : DriverWorld}
    {id : String} : request.actionUuid uuid world ≠ some (id, .claim) := by
  cases request with
  | createDriver newId dto =>
      intro haction
      obtain ⟨key, -, hclaim⟩ := Option.bind_eq_some_iff.mp haction
      exact Request.not_claims _ world id hclaim
  | updateStatus now driverId dto =>
      exact ((Request.updateStatus now driverId dto).printed uuid).not_claims
        world id
  | updateLocation now driverId dto =>
      exact ((Request.updateLocation now driverId dto).printed uuid).not_claims
        world id
  | message now inbound =>
      exact ((Request.message now inbound).printed uuid).not_claims world id

theorem PoolEvent.claimedUuid_pooled {event : PoolEvent}
    {world : DriverWorld} {id : String}
    (haction : event.actionUuid uuid dist world = some (id, .claim)) :
    id ∈ world.pool ∧
      ∃ lat lng radiusKm hint, event = .claim lat lng radiusKm hint := by
  cases event with
  | driverRequest request => exact absurd haction request.not_claimsUuid
  | claim lat lng radiusKm hint => exact PoolEvent.claimed_pooled haction

/-! ## Runs -/

theorem PoolEvent.run_consistent {event : PoolEvent} {world : DriverWorld}
    (hstored : world.Stored uuid) (hnames : event.NamesRow uuid world)
    (hgood : ∀ id, (world.state id).Consistent) (id : String) :
    ((event.runUuid uuid dist world).state id).Consistent := by
  rw [PoolEvent.state_runUuid hstored hnames]
  unfold actOn
  split
  · exact hgood id
  · rename_i driverId action haction
    split
    · apply (hgood id).apply
      intro driver hcreate
      subst action
      exact PoolEvent.createdUuid_offline haction
    · exact hgood id

theorem reached_consistent {events : List PoolEvent}
    (hnamed : RowsNamed uuid dist events) (id : String) :
    ((reached uuid dist events).state id).Consistent := by
  induction events using List.reverseRecOn generalizing id with
  | nil =>
      have hinitial : (reached uuid dist []).state id = ⟨none, none⟩ :=
        initial_state id
      rw [hinitial]
      constructor
      · intro position hentry
        cases hentry
      · intro driver hrow
        cases hrow
  | append_singleton events event ih =>
      rw [reached_append_singleton]
      exact PoolEvent.run_consistent (reached_stored events) hnamed.last
        (ih hnamed.init) id

def PoolEvent.AsPrinted (uuid : UuidType) : PoolEvent → Prop
  | .driverRequest request => request.AsPrinted uuid
  | .claim _ _ _ _ => True

instance (uuid : UuidType) (event : PoolEvent) :
    Decidable (event.AsPrinted uuid) := by
  cases event <;> simp only [PoolEvent.AsPrinted] <;> infer_instance

theorem rowsNamed_of_asPrinted {events : List PoolEvent}
    (hprinted : ∀ event ∈ events, event.AsPrinted uuid) :
    RowsNamed uuid dist events := by
  have hmeets : ∀ world : DriverWorld, world.Stored uuid →
      RunMeets (PoolEvent.step uuid dist)
        (fun world event => event.NamesRow uuid world) world events := by
    induction events with
    | nil => exact fun _ _ => trivial
    | cons event events ih =>
        rw [List.forall_mem_cons] at hprinted
        intro world hstored
        refine ⟨?_, ?_⟩
        · cases event with
          | driverRequest request => exact hprinted.1.namesRow hstored
          | claim lat lng radiusKm hint => trivial
        · intro next hnext
          cases hnext
          exact ih hprinted.2 _ (event.stored_runUuid hstored)
  exact hmeets _ initial_stored

/-- A claim removed the driver from the pool, and at no time since have they
been in it. -/
def ClaimedSince (uuid : UuidType) (dist : GeoDist) (events : List PoolEvent)
    (id : String) : Prop :=
  ∃ before lat lng radiusKm hint after,
    events = before ++ .claim lat lng radiusKm hint :: after ∧
      id ∈ (reached uuid dist before).pool ∧
      ∀ since, since <+: after →
        id ∉ (reached uuid dist
          (before ++ .claim lat lng radiusKm hint :: since)).pool

theorem ClaimedSince.append {events : List PoolEvent} {id : String}
    (hclaimed : ClaimedSince uuid dist events id) {event : PoolEvent}
    (habsent : id ∉ (reached uuid dist (events ++ [event])).pool) :
    ClaimedSince uuid dist (events ++ [event]) id := by
  obtain ⟨before, lat, lng, radiusKm, hint, after, hevents, hpooled, hsince⟩ :=
    hclaimed
  subst events
  refine ⟨before, lat, lng, radiusKm, hint, after ++ [event], by simp,
    hpooled, ?_⟩
  intro since hsegment
  rcases List.prefix_concat_iff.mp hsegment with hall | hpart
  · subst since
    simpa using habsent
  · exact hsince since hpart

theorem claimedSince_of_missing {events : List PoolEvent} {id : String}
    (hnamed : RowsNamed uuid dist events)
    (hmissing : ((reached uuid dist events).state id).Missing) :
    ClaimedSince uuid dist events id := by
  induction events using List.reverseRecOn with
  | nil =>
      have hinitial : (reached uuid dist []).state id = ⟨none, none⟩ :=
        initial_state id
      rw [hinitial] at hmissing
      obtain ⟨-, driver, hrow, -⟩ := hmissing
      cases hrow
  | append_singleton events event ih =>
      have habsent : id ∉ (reached uuid dist (events ++ [event])).pool :=
        Finmap.lookup_eq_none.mp hmissing.1
      rw [reached_append_singleton,
        PoolEvent.state_runUuid (reached_stored events) hnamed.last] at hmissing
      have hearlier : ((reached uuid dist events).state id).Missing →
          ClaimedSince uuid dist (events ++ [event]) id := fun hbefore =>
        (ih hnamed.init hbefore).append habsent
      cases haction : event.actionUuid uuid dist (reached uuid dist events) with
      | none =>
          rw [haction] at hmissing
          exact hearlier hmissing
      | some target =>
          obtain ⟨driverId, action⟩ := target
          simp only [haction, actOn] at hmissing
          split at hmissing
          · rename_i heq
            subst driverId
            by_cases hclaim : action = .claim
            · subst action
              obtain ⟨hpooled, lat, lng, radiusKm, hint, hevent⟩ :=
                PoolEvent.claimedUuid_pooled haction
              subst event
              refine ⟨events, lat, lng, radiusKm, hint, [], rfl, hpooled, ?_⟩
              intro since hsegment
              rw [List.prefix_nil.mp hsegment]
              exact habsent
            · apply hearlier
              apply hmissing.of_apply ?_ hclaim
              intro driver hcreate
              subst action
              exact PoolEvent.createdUuid_offline haction
          · exact hearlier hmissing

/-- Members of the pool are available drivers with a photo, at the position of
their row; an available driver at a known position is a member unless a claim
removed them and nothing has put them back. -/
theorem pool_agrees_with_rows (uuid : UuidType) (dist : GeoDist)
    (events : List PoolEvent) (hnamed : RowsNamed uuid dist events)
    (id : String) :
    (∀ position, (reached uuid dist events).pool.lookup id = some position →
      ∃ driver, (reached uuid dist events).drivers.get? id = some driver ∧
        driver.status = .available ∧ driver.hasPhoto = true ∧
          driver.lat = some position.latitude ∧
            driver.lng = some position.longitude) ∧
    (∀ driver, (reached uuid dist events).drivers.get? id = some driver →
      driver.status = .available → driver.lat.isSome → driver.lng.isSome →
        id ∈ (reached uuid dist events).pool ∨
          ClaimedSince uuid dist events id) := by
  constructor
  · exact (reached_consistent hnamed id).pooled
  · intro driver hrow hstatus hlat hlng
    by_cases hpooled : id ∈ (reached uuid dist events).pool
    · exact Or.inl hpooled
    · right
      apply claimedSince_of_missing hnamed
      exact ⟨Finmap.lookup_eq_none.mpr hpooled, driver, hrow, hstatus, hlat,
        hlng⟩

/-- A driver with a photo goes online under the id that is given. -/
def goesOnline (id : String) : List PoolEvent :=
  [.driverRequest (.createDriver lowerId
      { userId := "u", name := "name", email := "d@example.org"
        lat := some 0, lng := some 0 }),
    .driverRequest (.message 0 (.userPhotoUpdated ⟨"u", "driver", true⟩)),
    .driverRequest (.updateStatus 1 id ⟨.available⟩)]

/-- They go offline under the id that the row prints. -/
def onlineThenOffline (id : String) : List PoolEvent :=
  goesOnline id ++ [.driverRequest (.updateStatus 2 lowerId ⟨.offline⟩)]

theorem offline_driver_left_pool :
    lowerId ∉ (reached hyphenated (fun _ _ => 0)
      (onlineThenOffline lowerId)).pool := by
  have hagrees := pool_agrees_with_rows hyphenated (fun _ _ => 0)
    (onlineThenOffline lowerId) (by decide +kernel) lowerId
  intro hpooled
  obtain ⟨position, hentry⟩ := Finmap.mem_iff.mp hpooled
  obtain ⟨driver, hdriver, havailable, -⟩ := hagrees.1 position hentry
  have hoffline : ((reached hyphenated (fun _ _ => 0)
      (onlineThenOffline lowerId)).drivers.get? lowerId).all
        (fun row => row.status == .offline) = true := by decide +kernel
  rw [hdriver] at hoffline
  simp [havailable] at hoffline

/-- The member in capitals is of a driver whose row says offline. -/
theorem offline_driver_in_pool :
    ∃ position driver,
      (reached hyphenated (fun _ _ => 0)
        (onlineThenOffline capitalId)).pool.lookup capitalId = some position ∧
      (reached hyphenated (fun _ _ => 0)
        (onlineThenOffline capitalId)).named hyphenated capitalId =
          some driver ∧
      driver.status = .offline := by
  refine ⟨⟨0, 0⟩, { waitingDriver with id := lowerId, status := .offline }, ?_⟩
  decide +kernel

end FakeBolt.Driver
