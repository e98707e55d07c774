import FakeBolt.ClaimedDrivers

/-!
# Drivers who declined a ride

`handleDriverDeclined` matches the ride again.  Here drivers enter and leave
the pool between such events, and the run remembers who has declined which
ride and which of them was offered it once more.
-/

namespace FakeBolt.Matching

open Await Geo Kafka Transition

structure DeclineState where
  world : MatchingWorld
  declined : List Claim
  repeated : List Claim

def DeclineState.start (pool : AvailablePool) : DeclineState where
  world := ⟨pool, []⟩
  declined := []
  repeated := []

inductive DeclineEvent where
  | driverDeclined (payload : DriverDeclinedPayload) (now : Instant)
      (script : ℕ → MatchingInput)
  | added (longitude latitude : Num) (driverId : String)
  | removed (driverId : String)

def deliverDeclined (dist : GeoDist) (searchRadiusKm : Num) (now : Instant)
    (payload : DriverDeclinedPayload) (script : ℕ → MatchingInput)
    (world : MatchingWorld) : Except JsError Unit × MatchingWorld :=
  let outcome :=
    (MatchingService.eachMessage searchRadiusKm now
      (some (.driverDeclined payload))).exec
        (scripted (MatchingWorld.answerOrFail dist)) (script, world)
  (outcome.1, outcome.2.2)

/-- The drivers announced between two states, each with the ride. -/
def offersBetween (before after : MatchingWorld) : List Claim :=
  (after.published.drop before.published.length).filterMap announcement

def DriverDeclinedPayload.claim (payload : DriverDeclinedPayload) : Claim :=
  (payload.rideId, payload.declinedDriverId)

def declineStep (dist : GeoDist) (searchRadiusKm : Num)
    (state : DeclineState) : DeclineEvent → Option DeclineState
  | .driverDeclined payload now script =>
      let after :=
        (deliverDeclined dist searchRadiusKm now payload script state.world).2
      let declined := state.declined ++ [payload.claim]
      some
        { world := after
          declined := declined
          repeated := state.repeated ++
            (offersBetween state.world after).filter fun offer =>
              declined.contains offer }
  | .added longitude latitude driverId =>
      some { state with world := { state.world with
        pool := state.world.pool.geoadd longitude latitude driverId } }
  | .removed driverId =>
      some { state with world := { state.world with
        pool := state.world.pool.zrem driverId } }

/-- Nobody was offered a ride again that they had declined. -/
def NobodyAskedAgain (state : DeclineState) : Prop :=
  state.repeated = []

/-- The event comes when no driver who has declined the ride, in it or before,
is the one in the pool that a search from the pickup takes; where a call
fails or the id is empty nobody is announced. -/
def DeclinedOutOfReach (dist : GeoDist) (searchRadiusKm : Num)
    (state : DeclineState) : DeclineEvent → Prop
  | .driverDeclined payload _ script =>
      (script 0).fault = none → (script 1).fault = none →
        ∀ driverId, driverId ≠ "" →
          (payload.rideId, driverId) ∈ state.declined ++ [payload.claim] →
          ¬ GeoSet.Foremost dist state.world.pool
            ⟨payload.pickupLng, payload.pickupLat⟩ searchRadiusKm
            (script 0).hint driverId
  | .added _ _ _ => True
  | .removed _ => True

variable {dist : GeoDist} {searchRadiusKm : Num}

/-- The request that a decline makes again. -/
def DriverDeclinedPayload.request (payload : DriverDeclinedPayload) :
    RideRequestedPayload where
  rideId := payload.rideId
  riderId := payload.riderId
  pickupLat := payload.pickupLat
  pickupLng := payload.pickupLng

theorem deliverDeclined_eq (now : Instant) (payload : DriverDeclinedPayload)
    (script : ℕ → MatchingInput) (world : MatchingWorld) :
    deliverDeclined dist searchRadiusKm now payload script world =
      deliver dist searchRadiusKm now payload.request script world :=
  rfl

theorem offersBetween_self (world : MatchingWorld) :
    offersBetween world world = [] := by
  simp [offersBetween]

theorem offersBetween_same {before after : MatchingWorld}
    (hpublished : after.published = before.published) :
    offersBetween before after = [] := by
  simp [offersBetween, hpublished]

theorem offersBetween_assigned {before after : MatchingWorld} {now : Instant}
    {payload : RideRequestedPayload} {driverId : String}
    (hpublished : after.published =
      before.published ++ [assignedRecord now payload driverId]) :
    offersBetween before after = [(payload.rideId, driverId)] := by
  simp [offersBetween, hpublished, announcement, assignedRecord]

/-- Who a handled decline announces. -/
theorem mem_offersBetween_iff (now : Instant) (payload : RideRequestedPayload)
    (script : ℕ → MatchingInput) (world : MatchingWorld) {offer : Claim} :
    offer ∈ offersBetween world
        (deliver dist searchRadiusKm now payload script world).2 ↔
      (script 0).fault = none ∧ (script 1).fault = none ∧
        offer.1 = payload.rideId ∧ offer.2 ≠ "" ∧
        GeoSet.Foremost dist world.pool payload.pickup searchRadiusKm
          (script 0).hint offer.2 := by
  obtain ⟨rideId, driverId⟩ := offer
  rw [deliver_eq]
  cases hclaim : (script 0).fault with
  | some fault => simp [offersBetween_self]
  | none =>
      simp only [← GeoSet.search_eq_some_iff]
      cases hsearch : GeoSet.search dist world.pool payload.pickup
          searchRadiusKm (script 0).hint with
      | none => simp [offersBetween_self]
      | some found =>
          by_cases hquiet : found = "" ∨ (script 1).fault.isSome
          · have hsame : offersBetween world
                { pool := world.pool.zrem found
                  published := world.published } = [] :=
              offersBetween_same rfl
            simp only [hquiet, if_true, hsame, Option.isSome_none,
              Bool.false_eq_true, if_false, List.not_mem_nil, false_iff]
            rintro ⟨-, hpublish, -, hnonempty, heq⟩
            cases heq
            rcases hquiet with hempty | hfails
            · exact hnonempty hempty
            · rw [hpublish] at hfails
              cases hfails
          · have hone : offersBetween world
                { pool := world.pool.zrem found
                  published := world.published ++
                    [assignedRecord now payload found] } =
                [(payload.rideId, found)] := offersBetween_assigned rfl
            simp only [hquiet, if_false, hone, Option.isSome_none,
              Bool.false_eq_true, List.mem_singleton, Prod.mk.injEq]
            rw [not_or, Bool.not_eq_true, Option.isSome_eq_false_iff,
              Option.isNone_iff_eq_none] at hquiet
            constructor
            · rintro ⟨rfl, rfl⟩
              exact ⟨trivial, hquiet.2, rfl, hquiet.1, rfl⟩
            · rintro ⟨-, -, rfl, -, heq⟩
              cases heq
              exact ⟨rfl, rfl⟩

theorem declineStep_iff (state : DeclineState) (event : DeclineEvent)
    (hgood : NobodyAskedAgain state) :
    ∃ next, declineStep dist searchRadiusKm state event = some next ∧
      (NobodyAskedAgain next ↔
        DeclinedOutOfReach dist searchRadiusKm state event) := by
  unfold NobodyAskedAgain at hgood ⊢
  cases event with
  | driverDeclined payload now script =>
      refine ⟨_, rfl, ?_⟩
      rw [hgood, List.nil_append, List.filter_eq_nil_iff]
      simp only [List.contains_eq_mem, decide_eq_true_eq]
      constructor
      · intro hnone hclaim hpublish driverId hnonempty hdeclined hforemost
        have hoffer : (payload.rideId, driverId) ∈ offersBetween state.world
            (deliverDeclined dist searchRadiusKm now payload script
              state.world).2 := by
          rw [deliverDeclined_eq, mem_offersBetween_iff]
          exact ⟨hclaim, hpublish, rfl, hnonempty, hforemost⟩
        exact hnone _ hoffer hdeclined
      · rintro hreach ⟨rideId, driverId⟩ hoffer hdeclined
        rw [deliverDeclined_eq, mem_offersBetween_iff] at hoffer
        obtain ⟨hclaim, hpublish, hride, hnonempty, hforemost⟩ := hoffer
        have hsame : rideId = payload.rideId := hride
        subst hsame
        exact hreach hclaim hpublish driverId hnonempty hdeclined hforemost
  | added longitude latitude driverId =>
      exact ⟨_, rfl, iff_of_true hgood trivial⟩
  | removed driverId =>
      exact ⟨_, rfl, iff_of_true hgood trivial⟩

/-- In a run nobody is offered a ride again that they have declined exactly if
at no handled decline of the run one of those who have declined the ride is
the one in the pool that the search takes. -/
theorem declined_driver_not_asked_again_iff (dist : GeoDist)
    (searchRadiusKm : Num) (pool : AvailablePool)
    (events : List DeclineEvent) :
    (∀ before last, before <+: events →
        run (declineStep dist searchRadiusKm) (.start pool) before =
          some last → NobodyAskedAgain last) ↔
      RunMeets (declineStep dist searchRadiusKm)
        (DeclinedOutOfReach dist searchRadiusKm) (.start pool) events := by
  have hstep : ∀ state event, True → NobodyAskedAgain state →
      ∃ next, declineStep dist searchRadiusKm state event = some next ∧ True ∧
        (NobodyAskedAgain next ↔
          DeclinedOutOfReach dist searchRadiusKm state event) := by
    intro state event _ hgood
    obtain ⟨next, hnext, hiff⟩ := declineStep_iff state event hgood
    exact ⟨next, hnext, trivial, hiff⟩
  have hstart : NobodyAskedAgain (.start pool) := rfl
  exact throughout_iff_runMeets hstep trivial hstart events

/-- The driver is back in the pool when their own decline is handled. -/
theorem declined_driver_asked_again :
    ∃ last, run (declineStep flatKm 5) (.start ∅)
        [.added 0 0 "d",
          .driverDeclined
            { rideId := "r", riderId := "u", pickupLat := 0, pickupLng := 0,
              declinedDriverId := "d" } 0 fun _ => {}] = some last ∧
      ¬ NobodyAskedAgain last := by
  have hcheck : (run (declineStep flatKm 5) (.start ∅)
      [.added 0 0 "d",
        .driverDeclined
          { rideId := "r", riderId := "u", pickupLat := 0, pickupLng := 0,
            declinedDriverId := "d" } 0 fun _ => {}]).any (fun last =>
          decide (last.repeated ≠ [])) = true := by
    decide +kernel
  obtain ⟨last, hrun, hlast⟩ := exists_of_run_any hcheck
  rw [decide_eq_true_eq] at hlast
  exact ⟨last, hrun, hlast⟩

end FakeBolt.Matching
