import FakeBolt.MatchingDelivery
import FakeBolt.Redelivery
import Mathlib.Data.Multiset.AddSub

/-!
# An account of claimed drivers

A claim takes a driver out of the pool before anybody is told.  The account
kept here lists, for every handled request, the driver who is out of the pool
when Kafka is done with it, to be compared with the assignments published.
-/

namespace FakeBolt.Matching

open Await Geo Kafka Transition

/-- A ride and a driver. -/
abbrev Claim := String × String

structure ClaimState where
  world : MatchingWorld
  claims : Multiset Claim

def ClaimState.start (pool : AvailablePool) : ClaimState where
  world := ⟨pool, []⟩
  claims := 0

/-- When an attempt is made and what the environment decides about it. -/
structure ClaimAttempt where
  now : Instant
  script : ℕ → MatchingInput

/-- Either a request is handled, with further attempts as long as the handler
throws, or driver-service changes the pool. -/
inductive ClaimEvent where
  | rideRequested (payload : RideRequestedPayload) (first : ClaimAttempt)
      (again : List ClaimAttempt)
  | poolChanged (pool : AvailablePool)

def attempt (dist : GeoDist) (searchRadiusKm : Num)
    (payload : RideRequestedPayload) (world : MatchingWorld)
    (input : ClaimAttempt) : Except JsError Unit × MatchingWorld :=
  deliver dist searchRadiusKm input.now payload input.script world

/-- The drivers who are out of the pool afterwards, each with the ride. -/
def claimsOf (rideId : String) (before after : AvailablePool) :
    Multiset Claim :=
  (removedDrivers before after).val.map fun driverId => (rideId, driverId)

def claimStep (dist : GeoDist) (searchRadiusKm : Num) (state : ClaimState) :
    ClaimEvent → Option ClaimState
  | .rideRequested payload first again =>
      (redeliver (attempt dist searchRadiusKm payload) state.world
        (first :: again)).map fun after =>
          { world := after
            claims := state.claims +
              claimsOf payload.rideId state.world.pool after.pool }
  | .poolChanged pool =>
      some { state with world := { state.world with pool := pool } }

def announcement (record : ProducerRecord) : Option Claim :=
  match record.message with
  | .driverAssigned event => some (event.rideId, event.driverId)
  | _ => none

def announcements (records : List ProducerRecord) : Multiset Claim :=
  records.filterMap announcement

/-- Every claim has an announcement of its own. -/
def NobodyLeaked (state : ClaimState) : Prop :=
  state.claims ≤ announcements state.world.published

/-- If the claim does not fail and finds a driver, then they have an id and
the publish does not fail. -/
def ClaimAnnounced (dist : GeoDist) (searchRadiusKm : Num)
    (state : ClaimState) : ClaimEvent → Prop
  | .rideRequested payload first _ =>
      (first.script 0).fault = none →
        ∀ driverId, GeoSet.search dist state.world.pool payload.pickup
            searchRadiusKm (first.script 0).hint = some driverId →
          driverId ≠ "" ∧ (first.script 1).fault = none
  | .poolChanged _ => True

variable {dist : GeoDist} {searchRadiusKm : Num}

theorem announcements_append (records more : List ProducerRecord) :
    announcements (records ++ more) =
      announcements records + announcements more := by
  simp [announcements]

theorem announcements_assigned (now : Instant)
    (payload : RideRequestedPayload) (driverId : String) :
    announcements [assignedRecord now payload driverId] =
      {(payload.rideId, driverId)} := rfl

theorem claimsOf_self (rideId : String) (pool : AvailablePool) :
    claimsOf rideId pool pool = 0 := by
  simp [claimsOf, removedDrivers]

theorem claimsOf_zrem {pool : AvailablePool} {driverId : String}
    (rideId : String) (hmem : driverId ∈ pool) :
    claimsOf rideId pool (pool.zrem driverId) = {(rideId, driverId)} := by
  have hremoved : removedDrivers pool (pool.zrem driverId) = {driverId} := by
    ext other
    simp only [removedDrivers, Finset.mem_sdiff, Finmap.mem_keys,
      Finset.mem_singleton, AvailablePool.zrem, Finmap.mem_erase]
    constructor
    · rintro ⟨hother, hgone⟩
      by_contra hne
      exact hgone ⟨hne, hother⟩
    · intro heq
      subst other
      exact ⟨hmem, fun hkept => hkept.1 rfl⟩
  simp [claimsOf, hremoved]

/-- Kafka is done after one attempt, and nothing puts the driver back. -/
theorem claimStep_rideRequested (state : ClaimState)
    (payload : RideRequestedPayload) (first : ClaimAttempt)
    (again : List ClaimAttempt) :
    claimStep dist searchRadiusKm state
        (.rideRequested payload first again) =
      some
        (if (first.script 0).fault.isSome then state
        else match GeoSet.search dist state.world.pool payload.pickup
            searchRadiusKm (first.script 0).hint with
          | none => state
          | some driverId =>
              { world :=
                  { pool := state.world.pool.zrem driverId
                    published :=
                      if driverId = "" ∨ (first.script 1).fault.isSome then
                        state.world.published
                      else state.world.published ++
                        [assignedRecord first.now payload driverId] }
                claims := state.claims + {(payload.rideId, driverId)} }) := by
  have hattempt : attempt dist searchRadiusKm payload state.world first = _ :=
    deliver_eq dist searchRadiusKm first.now payload first.script state.world
  simp only [claimStep, redeliver_of_ok hattempt again, Option.map_some,
    Option.some.injEq]
  split_ifs with hfault
  · simp [claimsOf_self]
  · cases hsearch : GeoSet.search dist state.world.pool payload.pickup
        searchRadiusKm (first.script 0).hint with
    | none => simp [claimsOf_self]
    | some driverId =>
        obtain ⟨position, hlookup, -⟩ := GeoSet.within_of_search hsearch
        have hmem : driverId ∈ state.world.pool :=
          Finmap.mem_of_lookup_eq_some hlookup
        simp [claimsOf_zrem payload.rideId hmem]

/-- Every announcement has a claim of its own. -/
def NothingInvented (state : ClaimState) : Prop :=
  announcements state.world.published ≤ state.claims

/-- After a claim the account is short exactly if nothing is published. -/
theorem account_of_claim {state : ClaimState} {now : Instant}
    {payload : RideRequestedPayload} {driverId : String}
    {pool : AvailablePool} {fault : Option JsError}
    (hinvented : NothingInvented state) (hleaked : NobodyLeaked state) :
    let next : ClaimState :=
      { world :=
          { pool := pool
            published :=
              if driverId = "" ∨ fault.isSome then state.world.published
              else state.world.published ++
                [assignedRecord now payload driverId] }
        claims := state.claims + {(payload.rideId, driverId)} }
    NothingInvented next ∧
      (NobodyLeaked next ↔ driverId ≠ "" ∧ fault = none) := by
  intro next
  by_cases hlost : driverId = "" ∨ fault.isSome
  · have hpublished : next.world.published = state.world.published :=
      if_pos hlost
    have hkept : ¬ (driverId ≠ "" ∧ fault = none) := by
      rintro ⟨hnamed, hsent⟩
      rcases hlost with hempty | hfailed
      · exact hnamed hempty
      · simp [hsent] at hfailed
    constructor
    · have hmore : state.claims ≤ next.claims := Multiset.le_add_right _ _
      unfold NothingInvented
      rw [hpublished]
      exact hinvented.trans hmore
    · refine iff_of_false ?_ hkept
      intro hall
      unfold NobodyLeaked at hall
      rw [hpublished] at hall
      have hcount := Multiset.card_le_card (hall.trans hinvented)
      have hone : next.claims.card = state.claims.card + 1 := by
        simp [next]
      omega
  · have hpublished : announcements next.world.published =
        announcements state.world.published + {(payload.rideId, driverId)} := by
      have hsent : next.world.published = state.world.published ++
          [assignedRecord now payload driverId] := if_neg hlost
      rw [hsent, announcements_append, announcements_assigned]
    have hkept : driverId ≠ "" ∧ fault = none := by
      rw [not_or] at hlost
      exact ⟨hlost.1, by simpa using hlost.2⟩
    constructor
    · unfold NothingInvented
      rw [hpublished]
      exact add_le_add hinvented (le_refl _)
    · refine iff_of_true ?_ hkept
      unfold NobodyLeaked
      rw [hpublished]
      exact add_le_add hleaked (le_refl _)

theorem claimStep_account (state : ClaimState) (event : ClaimEvent)
    (hinvented : NothingInvented state) (hleaked : NobodyLeaked state) :
    ∃ next, claimStep dist searchRadiusKm state event = some next ∧
      NothingInvented next ∧
        (NobodyLeaked next ↔
          ClaimAnnounced dist searchRadiusKm state event) := by
  cases event with
  | poolChanged pool =>
      exact ⟨_, rfl, hinvented, iff_of_true hleaked trivial⟩
  | rideRequested payload first again =>
      refine ⟨_, claimStep_rideRequested state payload first again, ?_⟩
      simp only [ClaimAnnounced]
      cases hfault : (first.script 0).fault with
      | some fault =>
          exact ⟨hinvented, iff_of_true hleaked (by simp)⟩
      | none =>
          cases hsearch : GeoSet.search dist state.world.pool payload.pickup
              searchRadiusKm (first.script 0).hint with
          | none => exact ⟨hinvented, iff_of_true hleaked (by simp)⟩
          | some driverId =>
              simp only [Option.isSome_none, Bool.false_eq_true, if_false,
                true_imp_iff, Option.some.injEq, forall_eq']
              exact account_of_claim hinvented hleaked

/-- In a run every driver taken by a claim is announced as assigned, or is
back in the pool when the request is done with, exactly if no claim of the
run is followed by a failed publish or finds a driver without an id. -/
theorem claimed_drivers_announced_iff (dist : GeoDist) (searchRadiusKm : Num)
    (pool : AvailablePool) (events : List ClaimEvent) :
    (∀ before last, before <+: events →
        run (claimStep dist searchRadiusKm) (.start pool) before =
          some last → NobodyLeaked last) ↔
      RunMeets (claimStep dist searchRadiusKm)
        (ClaimAnnounced dist searchRadiusKm) (.start pool) events := by
  apply throughout_iff_runMeets
  · exact claimStep_account
  · exact le_refl _
  · exact le_refl _

/-- The publish fails, the handler returns, and the driver is nowhere. -/
theorem driver_lost_on_failed_publish :
    ∃ last, run (claimStep flatKm 5) (.start (AvailablePool.geoadd ∅ 1 0 "d"))
        [.rideRequested rideRequest
          ⟨0, fun n => { fault :=
            if n = 1 then some (.error "Broker not available") else none }⟩
          []] = some last ∧
      ¬ NobodyLeaked last := by
  have hcheck : (run (claimStep flatKm 5)
      (.start (AvailablePool.geoadd ∅ 1 0 "d"))
      [.rideRequested rideRequest
        ⟨0, fun n => { fault :=
          if n = 1 then some (.error "Broker not available") else none }⟩
        []]).any (fun last => decide
          ((announcements last.world.published).card < last.claims.card)) =
      true := by
    decide +kernel
  obtain ⟨last, hrun, hlast⟩ := exists_of_run_any hcheck
  rw [decide_eq_true_eq] at hlast
  refine ⟨last, hrun, ?_⟩
  intro hall
  have hcount := Multiset.card_le_card hall
  omega

end FakeBolt.Matching
