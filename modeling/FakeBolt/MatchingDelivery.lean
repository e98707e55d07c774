import FakeBolt.GuardedRun
import FakeBolt.MatchingService

/-!
# Delivering ride requests

Kafka retries a message whose handler fails and may deliver one again after
it was handled.  Two questions about `ride.requested` follow: whether a
failure reaches the consumer, and what a second delivery does.
-/

namespace FakeBolt.Matching

open Await Geo Kafka Transition

/-! ## Failures -/

/-- A delivery in which the environment decides about each awaited call. -/
def deliver (dist : GeoDist) (searchRadiusKm : Num) (now : Instant)
    (payload : RideRequestedPayload) (script : ℕ → MatchingInput)
    (world : MatchingWorld) : Except JsError Unit × MatchingWorld :=
  let outcome :=
    (MatchingService.eachMessage searchRadiusKm now
      (some (.rideRequested payload))).exec
        (scripted (MatchingWorld.answerOrFail dist)) (script, world)
  (outcome.1, outcome.2.2)

def Announced (rideId : String) (before after : MatchingWorld) : Prop :=
  ∃ record event, after.published = before.published ++ [record] ∧
    record.message = .driverAssigned event ∧ event.rideId = rideId

/-- The claim succeeded and found no driver within the radius. -/
def FoundNobody (dist : GeoDist) (searchRadiusKm : Num)
    (payload : RideRequestedPayload) (script : ℕ → MatchingInput)
    (world : MatchingWorld) : Prop :=
  (script 0).fault = none ∧
    ∀ id, ¬ GeoSet.Within dist world.pool payload.pickup searchRadiusKm id

/-- The offset of a ride request is committed only when there is nothing left
to do for it. -/
def CommitsOnlySettled (dist : GeoDist) (searchRadiusKm : Num) (now : Instant)
    (payload : RideRequestedPayload) (script : ℕ → MatchingInput)
    (world : MatchingWorld) : Prop :=
  (deliver dist searchRadiusKm now payload script world).1 = .ok () →
    Announced payload.rideId world
        (deliver dist searchRadiusKm now payload script world).2 ∨
      FoundNobody dist searchRadiusKm payload script world

/-- The claim does not fail, and if it finds a driver, then one with an id
and the publish does not fail. -/
def Undisturbed (dist : GeoDist) (searchRadiusKm : Num)
    (payload : RideRequestedPayload) (script : ℕ → MatchingInput)
    (world : MatchingWorld) : Prop :=
  (script 0).fault = none ∧
    ∀ id, GeoSet.search dist world.pool payload.pickup searchRadiusKm
        (script 0).hint = some id →
      id ≠ "" ∧ (script 1).fault = none

variable {dist : GeoDist} {searchRadiusKm : Num} {now : Instant}
  {payload : RideRequestedPayload} {script : ℕ → MatchingInput}
  {world : MatchingWorld}

/-- A delivery whatever fails: it returns normally in every case. -/
theorem deliver_eq (dist : GeoDist) (searchRadiusKm : Num) (now : Instant)
    (payload : RideRequestedPayload) (script : ℕ → MatchingInput)
    (world : MatchingWorld) :
    deliver dist searchRadiusKm now payload script world =
      (.ok (),
        if (script 0).fault.isSome then world
        else match GeoSet.search dist world.pool payload.pickup
            searchRadiusKm (script 0).hint with
          | none => world
          | some driverId =>
              { pool := world.pool.zrem driverId
                published :=
                  if driverId = "" ∨ (script 1).fault.isSome then
                    world.published
                  else world.published ++
                    [assignedRecord now payload driverId] }) := by
  have hpickup : (⟨payload.pickupLng, payload.pickupLat⟩ : Position) =
      payload.pickup := rfl
  simp only [deliver, MatchingService.eachMessage, exec_eachMessage,
    MatchingService.onMessage, MatchingService.handleRideRequested,
    RedisService.claimNearestDriver, Program.exec_tryCatch, Program.exec_bind,
    Program.exec_call, scripted_apply, MatchingWorld.answerOrFail]
  cases hclaim : (script 0).fault with
  | some fault => simp [faultable]
  | none =>
      simp only [faultable, MatchingWorld.answer,
        AvailablePool.claimNearestDriver, hpickup, Option.isSome_none,
        Bool.false_eq_true, if_false]
      cases hsearch : GeoSet.search dist world.pool payload.pickup
          searchRadiusKm (script 0).hint with
      | none => simp [GeoSet.claim_none hsearch]
      | some driverId =>
          rw [GeoSet.claim_some hsearch, truthy_some]
          by_cases hempty : driverId = ""
          · simp [hempty, AvailablePool.zrem]
          · cases hpublish : (script 1).fault <;>
              simp [hempty, publish, MatchingWorld.answerOrFail, faultable,
                hpublish, MatchingWorld.answer, AvailablePool.zrem,
                assignedRecord, messageKey]

/-- A ride request is settled when it is committed exactly if no call failed
that the delivery came to. -/
theorem commitsOnlySettled_iff (dist : GeoDist) (searchRadiusKm : Num)
    (now : Instant) (payload : RideRequestedPayload)
    (script : ℕ → MatchingInput) (world : MatchingWorld) :
    CommitsOnlySettled dist searchRadiusKm now payload script world ↔
      Undisturbed dist searchRadiusKm payload script world := by
  unfold CommitsOnlySettled Undisturbed FoundNobody
  rw [deliver_eq]
  simp only [true_imp_iff]
  cases hclaim : (script 0).fault with
  | some fault => simp [Announced]
  | none =>
      simp only [Option.isSome_none, Bool.false_eq_true, if_false, true_and]
      cases hsearch : GeoSet.search dist world.pool payload.pickup
          searchRadiusKm (script 0).hint with
      | none =>
          have hnobody := GeoSet.search_eq_none_iff.mp hsearch
          simp [hnobody]
      | some driverId =>
          have hwithin := GeoSet.within_of_search hsearch
          have hsomebody : ¬ ∀ id,
              ¬ GeoSet.Within dist world.pool payload.pickup
                searchRadiusKm id :=
            fun hnobody => hnobody driverId hwithin
          by_cases hempty : driverId = "" <;>
            cases hpublish : (script 1).fault <;>
              simp [Announced, hsomebody, hempty, assignedRecord]

/-- A Redis failure is swallowed: the delivery returns normally with a driver
within the radius and nothing published. -/
theorem redis_hiccup_drops_request :
    ¬ CommitsOnlySettled (fun p q => |p.longitude - q.longitude|) 5 0
      { rideId := "r", riderId := "u", pickupLat := 0, pickupLng := 0 }
      (fun _ => { fault := some (.error "Connection is closed.") })
      ⟨AvailablePool.geoadd ∅ 0 0 "d", []⟩ := by
  rw [commitsOnlySettled_iff]
  rintro ⟨hfault, -⟩
  cases hfault

/-! ## Repeated deliveries -/

/-- The service together with the record of which drivers left the pool in
deliveries for which ride. -/
structure DeliveryState where
  world : MatchingWorld
  removed : Finset (String × String)

inductive DeliveryEvent where
  | rideRequested (now : Instant) (payload : RideRequestedPayload)
      (hint : Option String)
  | poolChanged (pool : AvailablePool)

def removedDrivers (before after : AvailablePool) : Finset String :=
  before.keys \ after.keys

def deliveryStep (dist : GeoDist) (searchRadiusKm : Num)
    (state : DeliveryState) : DeliveryEvent → Option DeliveryState
  | .rideRequested now payload hint =>
      let after :=
        ((MatchingService.eachMessage searchRadiusKm now
          (some (.rideRequested payload))).exec
            (MatchingWorld.answerWith dist hint) state.world).2
      some
        { world := after
          removed := state.removed ∪
            (removedDrivers state.world.pool after.pool).image
              fun driverId => (payload.rideId, driverId) }
  | .poolChanged pool =>
      some { state with world := { state.world with pool := pool } }

def DeliveryState.start (pool : AvailablePool) : DeliveryState where
  world := ⟨pool, []⟩
  removed := ∅

/-- Each ride has taken at most one driver out of the pool, and all
announcements for it name the same driver. -/
def OneDriverPerRide (state : DeliveryState) : Prop :=
  (∀ rideId driverId other, (rideId, driverId) ∈ state.removed →
    (rideId, other) ∈ state.removed → driverId = other) ∧
  (∀ record ∈ state.world.published, ∀ other ∈ state.world.published,
    ∀ event otherEvent, record.message = .driverAssigned event →
      other.message = .driverAssigned otherEvent →
        event.rideId = otherEvent.rideId →
          event.driverId = otherEvent.driverId)

/-- A ride request delivered after its ride has taken a driver finds no other
driver nearest within the radius. -/
def NoOtherDriverNear (dist : GeoDist) (searchRadiusKm : Num)
    (state : DeliveryState) : DeliveryEvent → Prop
  | .rideRequested _ payload _ =>
      ∀ driverId, (payload.rideId, driverId) ∈ state.removed →
        ∀ near ∈ GeoSet.nearest dist state.world.pool payload.pickup
          searchRadiusKm, near = driverId
  | .poolChanged _ => True

theorem deliveryStep_rideRequested (dist : GeoDist) (searchRadiusKm : Num)
    (state : DeliveryState) (now : Instant) (payload : RideRequestedPayload)
    (hint : Option String) :
    deliveryStep dist searchRadiusKm state
        (.rideRequested now payload hint) =
      match GeoSet.search dist state.world.pool payload.pickup
          searchRadiusKm hint with
      | none => some state
      | some driverId =>
          some
            { world :=
                { pool := state.world.pool.zrem driverId
                  published :=
                    if driverId = "" then state.world.published
                    else state.world.published ++
                      [assignedRecord now payload driverId] }
              removed := insert (payload.rideId, driverId) state.removed } := by
  simp only [deliveryStep, MatchingService.eachMessage, exec_eachMessage,
    MatchingService.onMessage, exec_handleRideRequested]
  cases hsearch : GeoSet.search dist state.world.pool payload.pickup
      searchRadiusKm hint with
  | none => simp [removedDrivers]
  | some driverId =>
      obtain ⟨position, hlookup, -⟩ := GeoSet.within_of_search hsearch
      have hmember : driverId ∈ state.world.pool :=
        Finmap.mem_of_lookup_eq_some hlookup
      have hremoved : removedDrivers state.world.pool
          (state.world.pool.zrem driverId) = {driverId} := by
        ext id
        rw [removedDrivers, AvailablePool.zrem, Finset.mem_sdiff,
          Finmap.mem_keys, Finmap.mem_keys, Finmap.mem_erase,
          Finset.mem_singleton]
        constructor
        · rintro ⟨hid, hnot⟩
          by_contra hne
          exact hnot ⟨hne, hid⟩
        · intro heq
          subst id
          exact ⟨hmember, fun hkept => hkept.1 rfl⟩
      simp only [hremoved, Finset.image_singleton]
      rw [Finset.union_comm]
      rfl

structure DeliveryInvariant (state : DeliveryState) : Prop where
  oneRemoved : ∀ rideId driverId other,
    (rideId, driverId) ∈ state.removed →
      (rideId, other) ∈ state.removed → driverId = other
  announcedRemoved : ∀ record ∈ state.world.published, ∀ event,
    record.message = .driverAssigned event →
      (event.rideId, event.driverId) ∈ state.removed

theorem DeliveryInvariant.oneDriverPerRide {state : DeliveryState}
    (hinv : DeliveryInvariant state) : OneDriverPerRide state := by
  refine ⟨hinv.oneRemoved, ?_⟩
  intro record hrecord other hother event otherEvent hevent hotherEvent hride
  have hremoved := hinv.announcedRemoved record hrecord event hevent
  have hotherRemoved := hinv.announcedRemoved other hother otherEvent hotherEvent
  rw [← hride] at hotherRemoved
  exact hinv.oneRemoved _ _ _ hremoved hotherRemoved

theorem DeliveryInvariant.deliveryStep {state next : DeliveryState}
    {event : DeliveryEvent} (hinv : DeliveryInvariant state)
    (hguard : NoOtherDriverNear dist searchRadiusKm state event)
    (hstep : deliveryStep dist searchRadiusKm state event = some next) :
    DeliveryInvariant next := by
  cases event with
  | poolChanged pool =>
      cases hstep
      exact ⟨hinv.oneRemoved, hinv.announcedRemoved⟩
  | rideRequested now payload hint =>
      rw [deliveryStep_rideRequested] at hstep
      cases hsearch : GeoSet.search dist state.world.pool payload.pickup
          searchRadiusKm hint with
      | none =>
          rw [hsearch] at hstep
          cases hstep
          exact hinv
      | some found =>
          rw [hsearch] at hstep
          cases hstep
          have hnear := GeoSet.mem_nearest_of_search hsearch
          constructor
          · intro rideId driverId other hremoved hother
            rw [Finset.mem_insert, Prod.mk.injEq] at hremoved hother
            rcases hremoved with ⟨hride, hfound⟩ | hremoved <;>
              rcases hother with ⟨hotherRide, hotherFound⟩ | hother
            · rw [hfound, hotherFound]
            · subst rideId
              rw [hfound]
              exact hguard other hother found hnear
            · subst rideId
              rw [hotherFound]
              exact (hguard driverId hremoved found hnear).symm
            · exact hinv.oneRemoved rideId driverId other hremoved hother
          · intro record hrecord event hevent
            simp only at hrecord
            have hcases : record ∈ state.world.published ∨
                record = assignedRecord now payload found := by
              split at hrecord
              · exact Or.inl hrecord
              · simpa using hrecord
            rcases hcases with hold | hnew
            · exact Finset.mem_insert_of_mem
                (hinv.announcedRemoved record hold event hevent)
            · subst record
              cases hevent
              exact Finset.mem_insert_self _ _

/-- The condition is needed: some closest driver is then a second one. -/
theorem other_driver_near_breaks {state : DeliveryState}
    (hguard : ¬ NoOtherDriverNear dist searchRadiusKm state
      (.rideRequested now payload none)) :
    ∃ hint next, deliveryStep dist searchRadiusKm state
        (.rideRequested now payload hint) = some next ∧
      ¬ OneDriverPerRide next := by
  simp only [NoOtherDriverNear, not_forall] at hguard
  obtain ⟨driverId, hremoved, near, hnear, hne⟩ := hguard
  have hstep := deliveryStep_rideRequested dist searchRadiusKm state now
    payload (some near)
  rw [GeoSet.search_hint hnear] at hstep
  refine ⟨some near, _, hstep, ?_⟩
  rintro ⟨hone, -⟩
  apply hne
  apply hone payload.rideId
  · exact Finset.mem_insert_self _ _
  · exact Finset.mem_insert_of_mem hremoved

/-- As long as every repeated request finds no driver but the one its ride
already has, each ride takes one driver. -/
theorem one_driver_per_ride (dist : GeoDist) (searchRadiusKm : Num)
    (pool : AvailablePool) {events before : List DeliveryEvent}
    {last : DeliveryState}
    (hmeets : RunMeets (deliveryStep dist searchRadiusKm)
      (NoOtherDriverNear dist searchRadiusKm) (.start pool) events)
    (hsegment : before <+: events)
    (hrun : run (deliveryStep dist searchRadiusKm) (.start pool) before =
      some last) :
    OneDriverPerRide last := by
  have hstart : DeliveryInvariant (.start pool) := by
    constructor <;> simp [DeliveryState.start]
  have hinv := invariant_of_guarded
    (fun _ _ _ hinv hguard hstep => hinv.deliveryStep hguard hstep)
    hstart (hmeets.of_prefix hsegment) hrun
  exact hinv.oneDriverPerRide

/-! ## Two deliveries of one request -/

def flatKm : GeoDist := fun p q =>
  |p.longitude - q.longitude| + |p.latitude - q.latitude|

def rideRequest : RideRequestedPayload where
  rideId := "r"
  riderId := "u"
  pickupLat := 0
  pickupLng := 0

theorem redelivery_takes_second_driver :
    ∃ last, run (deliveryStep flatKm 5)
        (.start ((AvailablePool.geoadd ∅ 1 0 "near").geoadd 2 0 "far"))
        [.rideRequested 0 rideRequest none,
          .rideRequested 1 rideRequest none] = some last ∧
      ¬ OneDriverPerRide last := by
  refine ⟨_, rfl, ?_⟩
  rintro ⟨hremoved, -⟩
  have heq := hremoved "r" "near" "far" (by decide +kernel) (by decide +kernel)
  exact absurd heq (by decide)

theorem redelivery_to_empty_pool :
    ∃ last, run (deliveryStep flatKm 5)
        (.start (AvailablePool.geoadd ∅ 1 0 "near"))
        [.rideRequested 0 rideRequest none,
          .rideRequested 1 rideRequest none] = some last ∧
      OneDriverPerRide last := by
  let pool := AvailablePool.geoadd ∅ 1 0 "near"
  have hfound : GeoSet.search flatKm (DeliveryState.start pool).world.pool
      rideRequest.pickup 5 none = some "near" := by
    decide +kernel
  have hempty : GeoSet.nearest flatKm (pool.zrem "near")
      rideRequest.pickup 5 = ∅ := by
    decide +kernel
  have hmeets : RunMeets (deliveryStep flatKm 5) (NoOtherDriverNear flatKm 5)
      (.start pool)
      [.rideRequested 0 rideRequest none,
        .rideRequested 1 rideRequest none] := by
    refine ⟨fun _ hremoved => by simp [DeliveryState.start] at hremoved, ?_⟩
    intro next hnext
    rw [deliveryStep_rideRequested, hfound] at hnext
    cases hnext
    refine ⟨fun driverId _ near hnear => ?_, fun _ _ => trivial⟩
    change near ∈ GeoSet.nearest flatKm (pool.zrem "near")
      rideRequest.pickup 5 at hnear
    rw [hempty] at hnear
    exact absurd hnear (Finset.notMem_empty near)
  exact ⟨_, rfl,
    one_driver_per_ride flatKm 5 pool hmeets (List.prefix_refl _) rfl⟩

end FakeBolt.Matching
