import FakeBolt.AwaitCredits
import FakeBolt.ClaimedDrivers
import FakeBolt.DriverCalls

/-!
# Announcements and entries in the pool

driver-service and matching-service share the Redis pool, and their requests
and deliveries are under way at the same time.  An announcement of a driver
uses up an entry of this driver in the pool, and an entry is made by a request
about this driver, so the announcements can be counted against the requests.
-/

namespace FakeBolt.Entries

open Await Driver Geo Kafka Store Transition
open Matching (MatchingCall MatchingInput MatchingM MatchingWorld announcement)

/-! ## The shared world -/

/-- A call of driver-service, which the environment may let fail. -/
def answerDriver : (call : DriverCall) → Option JsError → DriverWorld →
    Except JsError call.Reply × DriverWorld :=
  faultable DriverWorld.answer

/-- A call of matching-service. -/
def answerMatching (dist : GeoDist) (call : MatchingCall)
    (input : MatchingInput) (world : DriverWorld) :
    Except JsError call.Reply × DriverWorld :=
  let outcome :=
    MatchingWorld.answerOrFail dist call input ⟨world.pool, world.published⟩
  (outcome.1,
    { world with pool := outcome.2.pool, published := outcome.2.published })

def namesDriver (id : String) (record : ProducerRecord) : Bool :=
  (announcement record).any fun claim => claim.2 = id

/-- How often the driver has been announced. -/
def announced (id : String) (published : List ProducerRecord) : ℕ :=
  published.countP (namesDriver id)

def entries (id : String) (pool : AvailablePool) : ℕ :=
  if id ∈ pool then 1 else 0

def spent (id : String) (world : DriverWorld) : ℕ :=
  announced id world.published + entries id world.pool

theorem announced_append (id : String) (published : List ProducerRecord)
    (record : ProducerRecord) :
    announced id (published ++ [record]) =
      announced id published + if namesDriver id record then 1 else 0 := by
  simp [announced, List.countP_append, List.countP_cons]

theorem entries_geoadd_le (id member : String) (pool : AvailablePool)
    (longitude latitude : Num) :
    entries id (pool.geoadd longitude latitude member) ≤
      entries id pool + if member = id then 1 else 0 := by
  unfold entries AvailablePool.geoadd
  by_cases hmember : member = id
  · simp [hmember]
  · have hne : id ≠ member := fun heq => hmember heq.symm
    simp [hmember, hne]

theorem entries_zrem_of_ne {id member : String} (hne : member ≠ id)
    (pool : AvailablePool) :
    entries id (pool.zrem member) = entries id pool := by
  have hother : id ≠ member := fun heq => hne heq.symm
  simp [entries, AvailablePool.zrem, Finmap.mem_erase, hother]

theorem entries_zrem_self (id : String) (pool : AvailablePool) :
    entries id (pool.zrem id) = 0 := by
  simp [entries, AvailablePool.zrem]

theorem entries_zrem_le (id member : String) (pool : AvailablePool) :
    entries id (pool.zrem member) ≤ entries id pool := by
  by_cases hmember : member = id
  · rw [hmember, entries_zrem_self]
    exact Nat.zero_le _
  · rw [entries_zrem_of_ne hmember]

/-! ## driver-service -/

section DriverService

variable (id : String)

/-- What a call of driver-service may add: an entry, or nothing. -/
def price : DriverCall → ℕ
  | .geoadd _ _ member => if member = id then 1 else 0
  | .send record => if namesDriver id record then 1 else 0
  | _ => 0

variable {id}

theorem spent_answerDriver (call : DriverCall) (fault : Option JsError)
    (world : DriverWorld) :
    spent id (answerDriver call fault world).2 ≤
      spent id world + price id call := by
  cases fault with
  | some error => exact Nat.le_add_right _ _
  | none =>
      simp only [answerDriver, faultable]
      cases call with
      | save driver =>
          simp only [DriverWorld.answer]
          split <;> exact Nat.le_add_right _ _
      | geoadd longitude latitude member =>
          have hentry := entries_geoadd_le id member world.pool longitude latitude
          simp only [DriverWorld.answer, spent, price]
          omega
      | zrem member =>
          have hentry := entries_zrem_le id member world.pool
          simp only [DriverWorld.answer, spent, price]
          omega
      | send record =>
          simp only [DriverWorld.answer, spent, price, announced_append]
          omega
      | _ => exact Nat.le_add_right _ _

theorem affords_driverCall {call : DriverCall} {credit : ℕ}
    {post : Except JsError call.Reply → ℕ → Prop}
    (hprice : price id call ≤ credit)
    (hpost : ∀ result, post result (credit - price id call)) :
    (Program.call call : DriverM call.Reply).Affords answerDriver (spent id)
      credit post := by
  rw [Program.affords_call]
  intro fault world
  refine ⟨credit - price id call, ?_, hpost _⟩
  have hspent : spent id (answerDriver call fault world).2 ≤
      spent id world + price id call := spent_answerDriver call fault world
  omega

/-- A call that neither enters the driver nor announces them. -/
theorem affords_free {call : DriverCall} {credit : ℕ}
    {post : Except JsError call.Reply → ℕ → Prop}
    (hfree : price id call = 0) (hpost : ∀ result, post result credit) :
    (Program.call call : DriverM call.Reply).Affords answerDriver (spent id)
      credit post := by
  apply affords_driverCall
  · rw [hfree]
    exact Nat.zero_le _
  · rw [hfree]
    exact hpost

theorem affords_publish {message : Message} {credit : ℕ}
    {post : Except JsError Unit → ℕ → Prop}
    (hmessage : namesDriver id (recordOf message) = false)
    (hpost : ∀ result, post result credit) :
    (publish message).Affords answerDriver (spent id) credit post := by
  rw [publish, Program.affords_tryCatch]
  apply affords_free
  · change (if namesDriver id (recordOf message) then 1 else 0) = 0
    simp [hmessage]
  · intro result
    cases result <;> exact hpost _

theorem affords_updateDriverLocation {driverId : String} {lat lng : Num}
    {credit : ℕ} {post : Except JsError Unit → ℕ → Prop}
    (hcredit : driverId = id → 1 ≤ credit)
    (hpost : ∀ result left, post result left) :
    (RedisService.updateDriverLocation driverId lat lng).Affords answerDriver
      (spent id) credit post := by
  rw [RedisService.updateDriverLocation, Program.affords_tryCatch]
  apply affords_driverCall
  · simp only [price]
    split_ifs with hid
    · exact hcredit hid
    · exact Nat.zero_le _
  · intro result
    cases result <;> exact hpost _ _

theorem affords_handleDriverStatusChange {driverId : String}
    {status : DriverStatus} {lat lng : Option Num} {credit : ℕ}
    {post : Except JsError Unit → ℕ → Prop}
    (hcredit : status = .available → driverId = id → 1 ≤ credit)
    (hpost : ∀ result left, post result left) :
    (RedisService.handleDriverStatusChange driverId status lat lng).Affords
      answerDriver (spent id) credit post := by
  unfold RedisService.handleDriverStatusChange
  split
  · exact affords_updateDriverLocation (hcredit rfl) hpost
  · rw [RedisService.removeDriverFromGeo, Program.affords_tryCatch]
    apply affords_free rfl
    intro result
    cases result <;> exact hpost _ _

theorem affords_getDriver {driverId : String} {credit : ℕ}
    {post : Except JsError DriverEntity → ℕ → Prop}
    (hpost : ∀ result, post result credit) :
    (DriverService.getDriver driverId).Affords answerDriver (spent id) credit
      post := by
  simp only [DriverService.getDriver, Program.affords_tryCatch,
    Program.affords_bind]
  apply affords_free rfl
  intro result
  cases result with
  | error error =>
      dsimp only
      split <;> exact hpost _
  | ok found =>
      cases found with
      | none => simpa [JsError.isInstance] using hpost _
      | some driver => exact hpost _

theorem solvent_createDriver (newId : String) (dto : CreateDriverDto) :
    (DriverService.createDriver newId dto).Affords answerDriver (spent id) 0
      fun _ _ => True := by
  apply Program.affords_tryCatch_all
  · rw [Program.affords_bind]
    apply affords_free rfl
    intro result
    cases result with
    | error error => trivial
    | ok existing =>
        dsimp only
        split
        · trivial
        · exact affords_free rfl fun _ => trivial
  · intro error left
    split <;> trivial

/-- Row and pool of a status change, and whatever follows. -/
theorem affords_change {α : Type} {driverId : String} {patch : DriverPatch}
    {status : DriverStatus} {lat lng : Option Num} {rest : DriverM α}
    {credit : ℕ} (hcredit : status = .available → driverId = id → 1 ≤ credit)
    (hrest : ∀ left, rest.Affords answerDriver (spent id) left
      fun _ _ => True) :
    (do
      DriverRepository.update driverId patch
      RedisService.handleDriverStatusChange driverId status lat lng
      rest).Affords answerDriver (spent id) credit fun _ _ => True := by
  simp only [Program.affords_bind]
  apply affords_free rfl
  intro written
  cases written with
  | error error => trivial
  | ok _ =>
      apply affords_handleDriverStatusChange hcredit
      intro placed left
      cases placed with
      | error error => trivial
      | ok _ => exact hrest left

theorem solvent_updateStatus {now : Instant} {driverId : String}
    {dto : UpdateStatusDto} {credit : ℕ}
    (hcredit : dto.status = .available → driverId = id → 1 ≤ credit) :
    (DriverService.updateStatus now driverId dto).Affords answerDriver
      (spent id) credit fun _ _ => True := by
  apply Program.affords_tryCatch_all
  · rw [Program.affords_bind]
    apply affords_getDriver
    intro result
    cases result with
    | error error => trivial
    | ok driver =>
        dsimp only
        -- the three refusals make no further call
        split
        · simp
        split
        · simp
        split
        · simp
        apply affords_change hcredit
        intro left
        rw [Program.affords_bind]
        apply affords_publish rfl
        intro sent
        cases sent <;> trivial
  · intro error left
    split <;> trivial

theorem solvent_updateLocation {now : Instant} {driverId : String}
    {dto : UpdateLocationDto} {credit : ℕ}
    (hcredit : driverId = id → 1 ≤ credit) :
    (DriverService.updateLocation now driverId dto).Affords answerDriver
      (spent id) credit fun _ _ => True := by
  apply Program.affords_tryCatch_all
  · have hrest : ∀ driver : DriverEntity, ∀ left,
        (do
          DriverRepository.update driverId { lat := dto.lat, lng := dto.lng }
          publish (.driverLocationUpdated
            { driverId := driverId
              lat := dto.lat
              lng := dto.lng
              timestamp := isoString now })
          pure { driver with lat := dto.lat, lng := dto.lng } :
            DriverM DriverEntity).Affords answerDriver (spent id) left
          fun _ _ => True := by
      intro driver left
      simp only [Program.affords_bind]
      apply affords_free rfl
      intro written
      cases written with
      | error error => trivial
      | ok _ =>
          apply affords_publish rfl
          intro sent
          cases sent <;> trivial
    rw [Program.affords_bind]
    apply affords_getDriver
    intro result
    cases result with
    | error error => trivial
    | ok driver =>
        dsimp only
        split
        · rw [Program.affords_bind]
          apply affords_updateDriverLocation hcredit
          intro placed left
          cases placed with
          | error error => trivial
          | ok _ => exact hrest driver left
        · exact hrest driver credit
  · intro error left
    split <;> trivial

/-! ### Messages -/

theorem solvent_setStatusFromSystem {now : Instant} {driver : DriverEntity}
    {status : DriverStatus} {reason : String} {rideId : Option String}
    {credit : ℕ} (hcredit : status = .available → driver.id = id → 1 ≤ credit) :
    (DriverService.setStatusFromSystem now driver status reason
      rideId).Affords answerDriver (spent id) credit fun _ _ => True := by
  apply affords_change hcredit
  intro left
  exact affords_publish rfl fun _ => trivial

theorem solvent_handleUserPhotoUpdated (now : Instant)
    (event : UserPhotoUpdatedEvent) (credit : ℕ) :
    (DriverService.handleUserPhotoUpdated now event).Affords answerDriver
      (spent id) credit fun _ _ => True := by
  unfold DriverService.handleUserPhotoUpdated
  split
  · trivial
  · rw [Program.affords_bind]
    apply affords_free rfl
    intro found
    cases found with
    | error error => trivial
    | ok found =>
        cases found with
        | none => trivial
        | some driver =>
            dsimp only
            rw [Program.affords_bind]
            apply affords_free rfl
            intro written
            cases written with
            | error error => trivial
            | ok _ =>
                dsimp only
                split
                · exact solvent_setStatusFromSystem fun hoffline => by
                    cases hoffline
                · trivial

theorem solvent_handleDriverAssigned (now : Instant)
    (event : DriverAssignedEvent) (credit : ℕ) :
    (DriverService.handleDriverAssigned now event).Affords answerDriver
      (spent id) credit fun _ _ => True := by
  rw [DriverService.handleDriverAssigned, Program.affords_bind]
  apply affords_free rfl
  intro found
  cases found with
  | error error => trivial
  | ok found =>
      cases found with
      | none => trivial
      | some driver =>
          dsimp only
          split
          · trivial
          · exact solvent_setStatusFromSystem fun hbusy => by cases hbusy

/-- The row that is read is the row of the driver that the event names. -/
theorem solvent_handleRideFinished {now : Instant} {event : RideFinishedEvent}
    {credit : ℕ} (hcredit : truthy event.driverId = some id → 1 ≤ credit) :
    (DriverService.handleRideFinished now event).Affords answerDriver
      (spent id) credit fun _ _ => True := by
  unfold DriverService.handleRideFinished
  cases hnamed : truthy event.driverId with
  | none => trivial
  | some driverId =>
      dsimp only
      rw [Program.affords_bind, DriverRepository.findOneById,
        Program.affords_call]
      intro fault world
      refine ⟨credit, Nat.add_le_add_right ?_ credit, ?_⟩
      · exact spent_answerDriver (.findOneById driverId) fault world
      cases fault with
      | some error => trivial
      | none =>
          simp only [answerDriver, faultable, DriverWorld.answer]
          cases hrow : world.drivers.get? driverId with
          | none => trivial
          | some driver =>
              have hid : driver.id = driverId := Table.key_of_get? hrow
              dsimp only
              split
              · trivial
              · apply solvent_setStatusFromSystem
                intro _ heq
                apply hcredit
                rw [hnamed, ← hid, heq]

theorem solvent_eachMessage {now : Instant} {inbound : DriverService.Inbound}
    {credit : ℕ}
    (hhandler : (DriverService.onMessage now inbound).Affords answerDriver
      (spent id) credit fun _ _ => True) :
    (DriverService.eachMessage now (some inbound)).Affords answerDriver
      (spent id) credit fun _ _ => True :=
  Program.affords_tryCatch_all hhandler fun _ _ => trivial

end DriverService

/-- Whether the request may enter the driver into the pool: going online, a
location update, and the end of a ride of theirs. -/
def mayEnter (id : String) : Driver.Request → Bool
  | .createDriver _ _ => false
  | .updateStatus _ driverId dto => dto.status = .available ∧ driverId = id
  | .updateLocation _ driverId _ => driverId = id
  | .message _ (.rideCompleted event) => truthy event.driverId = some id
  | .message _ (.rideStatusUpdated event) =>
      event.status = "cancelled" ∧ truthy event.driverId = some id
  | .message _ _ => false

theorem solvent_program (id : String) (request : Driver.Request) :
    Program.Solvent answerDriver (spent id)
      (if mayEnter id request then 1 else 0) request.program := by
  have hdiscard : ∀ {program : DriverM DriverEntity} {credit : ℕ},
      program.Affords answerDriver (spent id) credit (fun _ _ => True) →
      Program.Solvent answerDriver (spent id) credit (do
        let _ ← program
        pure ()) := by
    intro program credit hprogram
    rw [Program.Solvent, Program.affords_bind]
    apply hprogram.mono
    intro result left _
    cases result <;> trivial
  cases request with
  | createDriver newId dto => exact hdiscard (solvent_createDriver newId dto)
  | updateStatus now driverId dto =>
      apply hdiscard
      apply solvent_updateStatus
      intro hstatus hid
      simp [mayEnter, hstatus, hid]
  | updateLocation now driverId dto =>
      apply hdiscard
      apply solvent_updateLocation
      intro hid
      simp [mayEnter, hid]
  | message now inbound =>
      apply solvent_eachMessage
      cases inbound with
      | userPhotoUpdated event => exact solvent_handleUserPhotoUpdated now event _
      | driverAssigned event => exact solvent_handleDriverAssigned now event _
      | rideCompleted event =>
          apply solvent_handleRideFinished
          intro hnamed
          simp [mayEnter, hnamed]
      | rideStatusUpdated event =>
          simp only [DriverService.onMessage]
          split
          · trivial
          · rename_i hcancelled
            apply solvent_handleRideFinished
            intro hnamed
            rw [not_not] at hcancelled
            simp [mayEnter, hcancelled, hnamed]

/-! ## matching-service -/

section MatchingService

variable {dist : GeoDist} {id : String}

/-- What a claim leaves to spend: the entry it took out, if it was the
driver's. -/
def held (id : String) : Except JsError (Option String) → ℕ
  | .ok claimed => if claimed = some id then 1 else 0
  | .error _ => 0

theorem spent_claim (longitude latitude radiusKm : Num) (input : MatchingInput)
    (world : DriverWorld) :
    spent id (answerMatching dist
        (.claimNearestDriver longitude latitude radiusKm) input world).2 +
        held id (answerMatching dist
          (.claimNearestDriver longitude latitude radiusKm) input world).1 ≤
      spent id world := by
  unfold answerMatching MatchingWorld.answerOrFail faultable
  cases input.fault with
  | some error => exact le_refl _
  | none =>
      simp only [MatchingWorld.answer, AvailablePool.claimNearestDriver, held]
      cases hsearch : GeoSet.search dist world.pool ⟨longitude, latitude⟩
          radiusKm input.hint with
      | none => simp [GeoSet.claim_none hsearch, spent]
      | some claimed =>
          rw [GeoSet.claim_some hsearch]
          obtain ⟨position, hlookup, -⟩ := GeoSet.within_of_search hsearch
          have hmember : claimed ∈ world.pool :=
            Finmap.mem_of_lookup_eq_some hlookup
          by_cases hid : claimed = id
          · subst hid
            simp [spent, entries, hmember]
          · have hleft := entries_zrem_of_ne hid world.pool
            simp only [AvailablePool.zrem] at hleft
            simp [spent, hleft, hid]

theorem spent_send (record : ProducerRecord) (input : MatchingInput)
    (world : DriverWorld) :
    spent id (answerMatching dist (.send record) input world).2 ≤
      spent id world + if namesDriver id record then 1 else 0 := by
  unfold answerMatching MatchingWorld.answerOrFail faultable
  cases input.fault with
  | some error => exact Nat.le_add_right _ _
  | none =>
      simp only [MatchingWorld.answer, spent, announced_append]
      omega

theorem solvent_handleRideRequested (searchRadiusKm : Num) (now : Instant)
    (payload : Matching.RideRequestedPayload) :
    (Matching.MatchingService.handleRideRequested searchRadiusKm now
      payload).Affords (answerMatching dist) (spent id) 0 fun _ _ => True := by
  apply Program.affords_tryCatch_all
  · rw [Program.affords_bind, Matching.RedisService.claimNearestDriver,
      Program.affords_call]
    intro input world
    refine ⟨_, spent_claim _ _ _ input world, ?_⟩
    cases (answerMatching dist (.claimNearestDriver payload.pickupLng
        payload.pickupLat searchRadiusKm) input world).1 with
    | error error => trivial
    | ok claimed =>
        dsimp only
        cases hnamed : truthy claimed with
        | none => trivial
        | some driverId =>
            have hclaimed := (truthy_eq_some_iff.mp hnamed).1
            subst hclaimed
            dsimp only
            rw [Matching.publish, Program.affords_call]
            intro input world
            refine ⟨0, ?_, trivial⟩
            have hsent : spent id (answerMatching dist
                (.send (Matching.assignedRecord now payload driverId)) input
                  world).2 ≤ spent id world + if namesDriver id
                (Matching.assignedRecord now payload driverId) then 1 else 0 :=
              spent_send _ input world
            have hnames : namesDriver id
                (Matching.assignedRecord now payload driverId) =
                  decide (driverId = id) := rfl
            simp only [hnames, decide_eq_true_eq] at hsent
            simp only [held, Option.some.injEq]
            exact hsent
  · intro error left
    trivial

theorem solvent_onMessage (searchRadiusKm : Num) (now : Instant)
    (inbound : Matching.MatchingService.Inbound) :
    Program.Solvent (answerMatching dist) (spent id) 0
      (Matching.MatchingService.eachMessage searchRadiusKm now
        (some inbound)) := by
  apply Program.affords_tryCatch_all
  · cases inbound with
    | rideRequested payload => exact solvent_handleRideRequested _ now payload
    | driverDeclined payload => exact solvent_handleRideRequested _ now _
  · intro error left
    trivial

end MatchingService

/-! ## Both services -/

/-- The requests and deliveries under way, beside the world they share. -/
structure Services where
  world : DriverWorld
  serving : List (DriverM Unit)
  matching : List (MatchingM Unit)

/-- A process that goes down takes what it had under way with it. -/
inductive ServicesEvent where
  | request (request : Driver.Request)
  | inbound (now : Instant) (inbound : Matching.MatchingService.Inbound)
  | driverCall (index : ℕ) (fault : Option JsError)
  | matchingCall (index : ℕ) (input : MatchingInput)
  | driverLost (index : ℕ)
  | matchingLost (index : ℕ)

namespace Services

def start (world : DriverWorld) : Services := ⟨world, [], []⟩

def step (dist : GeoDist) (searchRadiusKm : Num) (services : Services) :
    ServicesEvent → Option Services
  | .request request =>
      some { services with serving := services.serving ++ [request.program] }
  | .inbound now inbound =>
      some { services with
        matching := services.matching ++
          [Matching.MatchingService.eachMessage searchRadiusKm now
            (some inbound)] }
  | .driverCall index fault =>
      (Program.advanceAt answerDriver services.serving index fault
        services.world).map fun outcome =>
          { services with serving := outcome.1, world := outcome.2 }
  | .matchingCall index input =>
      (Program.advanceAt (answerMatching dist) services.matching index input
        services.world).map fun outcome =>
          { services with matching := outcome.1, world := outcome.2 }
  | .driverLost index =>
      some { services with serving := services.serving.eraseIdx index }
  | .matchingLost index =>
      some { services with matching := services.matching.eraseIdx index }

end Services

def grants (id : String) : ServicesEvent → Bool
  | .request request => mayEnter id request
  | _ => false

/-- The budget covers what has been spent and what everything under way may
still spend. -/
def Covered (dist : GeoDist) (id : String) (services : Services)
    (budget : ℕ) : Prop :=
  ∃ serving matching,
    spent id services.world + serving + matching ≤ budget ∧
      Program.AllSolvent answerDriver (spent id) services.serving serving ∧
      Program.AllSolvent (answerMatching dist) (spent id) services.matching
        matching

variable {dist : GeoDist} {searchRadiusKm : Num} {id : String}

theorem Covered.step {services next : Services} {event : ServicesEvent}
    {budget : ℕ} (hcovered : Covered dist id services budget)
    (hstep : services.step dist searchRadiusKm event = some next) :
    Covered dist id next (budget + if grants id event then 1 else 0) := by
  obtain ⟨serving, matching, hbudget, hserving, hmatching⟩ := hcovered
  cases event with
  | request request =>
      cases hstep
      refine ⟨_, matching, ?_,
        hserving.append (solvent_program id request), hmatching⟩
      change spent id services.world +
        (serving + if mayEnter id request then 1 else 0) + matching ≤
          budget + if mayEnter id request then 1 else 0
      omega
  | inbound now inbound =>
      cases hstep
      exact ⟨serving, _, hbudget, hserving,
        hmatching.append (solvent_onMessage searchRadiusKm now inbound)⟩
  | driverCall index fault =>
      obtain ⟨⟨programs, world⟩, hadvance, heq⟩ :=
        Option.map_eq_some_iff.mp hstep
      subst heq
      obtain ⟨left, hpaid, hleft⟩ := hserving.advanceAt hadvance
      refine ⟨left, matching, ?_, hleft, hmatching⟩
      simp only [grants]
      omega
  | matchingCall index input =>
      obtain ⟨⟨programs, world⟩, hadvance, heq⟩ :=
        Option.map_eq_some_iff.mp hstep
      subst heq
      obtain ⟨left, hpaid, hleft⟩ := hmatching.advanceAt hadvance
      refine ⟨serving, left, ?_, hserving, hleft⟩
      simp only [grants]
      omega
  | driverLost index =>
      cases hstep
      exact ⟨serving, matching, hbudget, hserving.eraseIdx index, hmatching⟩
  | matchingLost index =>
      cases hstep
      exact ⟨serving, matching, hbudget, hserving, hmatching.eraseIdx index⟩

def dan : DriverEntity where
  id := "dan"
  userId := "u"
  name := "Dan"
  email := "dan@bolt.test"
  status := .available
  hasPhoto := true
  lat := none
  lng := none

end FakeBolt.Entries
