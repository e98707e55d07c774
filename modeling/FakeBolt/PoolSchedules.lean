import FakeBolt.DriverRequests
import FakeBolt.MatchingService

/-!
# Schedules over the pool

Every function of the two Redis services awaits a single command, so an
interleaving of their calls is the sequence of these commands, whichever
instance issues them.  What the pool stores is related here to what drivers
reported: drivers report `(lat, lng)`, riders ask at `(lat, lng)`, and both
services talk to Redis longitude first.
-/

namespace FakeBolt.Matching

open Await Geo Store Driver

structure LatLng where
  lat : Num
  lng : Num
  deriving DecidableEq, Repr

def LatLng.toRedis (point : LatLng) : Position := ⟨point.lng, point.lat⟩

def kmBetween (dist : GeoDist) (p q : LatLng) : Num :=
  dist p.toRedis q.toRedis

inductive PoolCommand where
  | claimNearestDriver (pickup : LatLng) (radiusKm : Num)
      (hint : Option String)
  | updateDriverLocation (driverId : String) (lat lng : Num)
  | removeDriverFromGeo (driverId : String)
  | handleDriverStatusChange (driverId : String) (status : DriverStatus)
      (lat lng : Option Num)

def poolWritten (program : DriverM Unit) (pool : AvailablePool) :
    AvailablePool :=
  (program.exec DriverWorld.answer ⟨Table.empty, pool, []⟩).2.pool

def claimRun (dist : GeoDist) (pickup : LatLng) (radiusKm : Num)
    (hint : Option String) (pool : AvailablePool) :
    Option String × AvailablePool :=
  let outcome :=
    (RedisService.claimNearestDriver pickup.lat pickup.lng radiusKm).exec
      (MatchingWorld.answerWith dist hint) ⟨pool, []⟩
  (outcome.1.toOption.join, outcome.2.pool)

/-- The driver a command obtains, if it is a successful claim, and the pool
after it. -/
def PoolCommand.run (dist : GeoDist) (command : PoolCommand)
    (pool : AvailablePool) : Option String × AvailablePool :=
  match command with
  | .claimNearestDriver pickup radiusKm hint =>
      claimRun dist pickup radiusKm hint pool
  | .updateDriverLocation driverId lat lng =>
      (none, poolWritten
        (Driver.RedisService.updateDriverLocation driverId lat lng) pool)
  | .removeDriverFromGeo driverId =>
      (none, poolWritten
        (Driver.RedisService.removeDriverFromGeo driverId) pool)
  | .handleDriverStatusChange driverId status lat lng =>
      (none, poolWritten
        (Driver.RedisService.handleDriverStatusChange driverId status lat lng)
        pool)

def poolAfter (dist : GeoDist) (history : List PoolCommand) : AvailablePool :=
  history.foldl (fun pool command => (command.run dist pool).2) ∅

def obtainedBy (dist : GeoDist) (history : List PoolCommand)
    (command : PoolCommand) : Option String :=
  (command.run dist (poolAfter dist history)).1

def obtained (dist : GeoDist) : List PoolCommand → AvailablePool → List String
  | [], _ => []
  | command :: commands, pool =>
      (command.run dist pool).1.toList ++
        obtained dist commands (command.run dist pool).2

/-! ## What drivers report -/

/-- The position a command adds a driver at, as the driver reported it. -/
def PoolCommand.added (command : PoolCommand) (id : String) : Option LatLng :=
  match command with
  | .updateDriverLocation driverId lat lng =>
      if driverId = id then some ⟨lat, lng⟩ else none
  | .handleDriverStatusChange driverId .available (some lat) (some lng) =>
      if driverId = id then some ⟨lat, lng⟩ else none
  | _ => none

/-- The position a driver was last added at. -/
def reported (history : List PoolCommand) (id : String) : Option LatLng :=
  history.reverse.findSome? fun command => command.added id

def membersInRange (dist : GeoDist) (history : List PoolCommand)
    (pickup : LatLng) (radiusKm : Num) : Finset String :=
  (poolAfter dist history).keys.filter fun id =>
    (reported history id).any fun point =>
      decide (kmBetween dist pickup point ≤ radiusKm)

variable {dist : GeoDist}

theorem poolAfter_append_singleton (history : List PoolCommand)
    (command : PoolCommand) :
    poolAfter dist (history ++ [command]) =
      (command.run dist (poolAfter dist history)).2 := by
  simp [poolAfter]

theorem reported_append_singleton (history : List PoolCommand)
    (command : PoolCommand) (id : String) :
    reported (history ++ [command]) id =
      (command.added id).or (reported history id) := by
  simp only [reported, List.reverse_append, List.reverse_singleton,
    List.singleton_append, List.findSome?_cons]
  cases command.added id <;> rfl

/-! ## One command -/

theorem claimRun_eq (pickup : LatLng) (radiusKm : Num) (hint : Option String)
    (pool : AvailablePool) :
    claimRun dist pickup radiusKm hint pool =
      GeoSet.claim dist pool pickup.toRedis radiusKm hint := by
  unfold claimRun
  rw [exec_claimNearestDriver, ← GeoSet.claim_fst]
  rfl

theorem PoolCommand.lookup_run (dist : GeoDist) (command : PoolCommand)
    (pool : AvailablePool) (id : String) :
    match command.added id with
    | some point => (command.run dist pool).2.lookup id = some point.toRedis
    | none => (command.run dist pool).2.lookup id = pool.lookup id ∨
        (command.run dist pool).2.lookup id = none := by
  cases command with
  | claimNearestDriver pickup radiusKm hint =>
      simp only [PoolCommand.added, PoolCommand.run, claimRun_eq]
      cases hsearch :
          GeoSet.search dist pool pickup.toRedis radiusKm hint with
      | none => simp [GeoSet.claim_none hsearch]
      | some claimed =>
          rw [GeoSet.claim_some hsearch]
          by_cases heq : id = claimed
          · subst id
            right
            exact Finmap.lookup_erase claimed pool
          · left
            exact Finmap.lookup_erase_ne heq
  | updateDriverLocation driverId lat lng =>
      simp only [PoolCommand.added, PoolCommand.run, poolWritten,
        Driver.RedisService.updateDriverLocation, Program.exec_tryCatch,
        Program.exec_call, DriverWorld.answer]
      by_cases heq : driverId = id
      · subst id
        simp [LatLng.toRedis]
      · have hne : id ≠ driverId := fun h => heq h.symm
        simp [heq, AvailablePool.lookup_geoadd_of_ne hne]
  | removeDriverFromGeo driverId =>
      simp only [PoolCommand.added, PoolCommand.run, poolWritten,
        Driver.RedisService.removeDriverFromGeo, Program.exec_tryCatch,
        Program.exec_call, DriverWorld.answer]
      by_cases heq : id = driverId
      · subst id
        simp
      · left
        exact AvailablePool.lookup_zrem_of_ne heq
  | handleDriverStatusChange driverId status lat lng =>
      simp only [PoolCommand.run, poolWritten, exec_handleDriverStatusChange,
        lookup_placeInPool]
      by_cases heq : id = driverId
      · subst id
        cases status <;> cases lat <;> cases lng <;>
          simp [PoolCommand.added, entryFor, LatLng.toRedis]
      · have hne : driverId ≠ id := fun h => heq h.symm
        cases status <;> cases lat <;> cases lng <;>
          simp [PoolCommand.added, heq, hne]

/-- The pool stores the position its members last reported. -/
theorem lookup_poolAfter (history : List PoolCommand) {id : String}
    {position : Position}
    (hlookup : (poolAfter dist history).lookup id = some position) :
    ∃ point, reported history id = some point ∧ position = point.toRedis := by
  induction history using List.reverseRecOn with
  | nil =>
      change (∅ : AvailablePool).lookup id = some position at hlookup
      simp at hlookup
  | append_singleton history command ih =>
      rw [poolAfter_append_singleton] at hlookup
      rw [reported_append_singleton]
      have hrun := command.lookup_run dist (poolAfter dist history) id
      cases hadded : command.added id with
      | some point =>
          rw [hadded] at hrun
          rw [hlookup] at hrun
          cases hrun
          exact ⟨point, rfl, rfl⟩
      | none =>
          rw [hadded] at hrun
          rcases hrun with hkept | hgone
          · rw [hkept] at hlookup
            exact ih hlookup
          · rw [hgone] at hlookup
            cases hlookup

theorem within_iff_reported {history : List PoolCommand} {pickup : LatLng}
    {radiusKm : Num} {id : String} :
    GeoSet.Within dist (poolAfter dist history) pickup.toRedis radiusKm id ↔
      id ∈ poolAfter dist history ∧
        ∃ point, reported history id = some point ∧
          kmBetween dist pickup point ≤ radiusKm := by
  constructor
  · rintro ⟨position, hlookup, hle⟩
    obtain ⟨point, hreported, hposition⟩ := lookup_poolAfter history hlookup
    subst position
    exact ⟨Finmap.mem_of_lookup_eq_some hlookup, point, hreported, hle⟩
  · rintro ⟨hmember, point, hreported, hle⟩
    obtain ⟨position, hlookup⟩ := Finmap.mem_iff.mp hmember
    obtain ⟨stored, hstored, hposition⟩ := lookup_poolAfter history hlookup
    rw [hreported] at hstored
    cases hstored
    subst position
    exact ⟨_, hlookup, hle⟩

theorem membersInRange_eq (history : List PoolCommand) (pickup : LatLng)
    (radiusKm : Num) :
    membersInRange dist history pickup radiusKm =
      GeoSet.inRange dist (poolAfter dist history) pickup.toRedis radiusKm := by
  ext id
  rw [GeoSet.mem_inRange, within_iff_reported, membersInRange,
    Finset.mem_filter, Finmap.mem_keys]
  cases reported history id <;> simp

/-! ## Claims in a schedule -/

/-- A claim finds nobody exactly when no member is within the radius, and then
the pool stays as it is. -/
theorem claim_finds_nobody_iff (history : List PoolCommand) (pickup : LatLng)
    (radiusKm : Num) (hint : Option String) :
    obtainedBy dist history (.claimNearestDriver pickup radiusKm hint) = none ↔
      membersInRange dist history pickup radiusKm = ∅ := by
  rw [obtainedBy, PoolCommand.run, claimRun_eq, GeoSet.claim_fst,
    GeoSet.search_eq_none_iff, membersInRange_eq,
    Finset.eq_empty_iff_forall_notMem]
  simp only [GeoSet.mem_inRange]

theorem claim_without_driver {history : List PoolCommand} {pickup : LatLng}
    {radiusKm : Num} {hint : Option String}
    (hnone : obtainedBy dist history
      (.claimNearestDriver pickup radiusKm hint) = none) :
    poolAfter dist (history ++ [.claimNearestDriver pickup radiusKm hint]) =
      poolAfter dist history := by
  rw [obtainedBy, PoolCommand.run, claimRun_eq, GeoSet.claim_fst] at hnone
  rw [poolAfter_append_singleton, PoolCommand.run, claimRun_eq,
    GeoSet.claim_none hnone]

/-- The driver a claim obtains is a member, no other member reported a closer
position, and exactly this member leaves the pool. -/
theorem claim_with_driver {history : List PoolCommand} {pickup : LatLng}
    {radiusKm : Num} {hint : Option String} {id : String}
    (hclaimed : obtainedBy dist history
      (.claimNearestDriver pickup radiusKm hint) = some id) :
    id ∈ poolAfter dist history ∧
      (∃ point, reported history id = some point ∧
        kmBetween dist pickup point ≤ radiusKm ∧
        ∀ other ∈ poolAfter dist history, ∃ otherPoint,
          reported history other = some otherPoint ∧
            kmBetween dist pickup point ≤ kmBetween dist pickup otherPoint) ∧
      poolAfter dist (history ++ [.claimNearestDriver pickup radiusKm hint]) =
        (poolAfter dist history).erase id := by
  rw [obtainedBy, PoolCommand.run, claimRun_eq, GeoSet.claim_fst] at hclaimed
  obtain ⟨hwithin, hnearest⟩ :=
    GeoSet.mem_nearest.mp (GeoSet.mem_nearest_of_search hclaimed)
  obtain ⟨position, hlookup, hle⟩ := hwithin
  obtain ⟨point, hreported, hposition⟩ := lookup_poolAfter history hlookup
  subst position
  refine ⟨Finmap.mem_of_lookup_eq_some hlookup, ⟨point, hreported, hle, ?_⟩,
    ?_⟩
  · intro other hother
    obtain ⟨otherPosition, hotherLookup⟩ := Finmap.mem_iff.mp hother
    obtain ⟨otherPoint, hotherReported, hotherPosition⟩ :=
      lookup_poolAfter history hotherLookup
    subst otherPosition
    refine ⟨otherPoint, hotherReported, ?_⟩
    -- a member out of range is farther than one in range
    by_cases hrange : kmBetween dist pickup otherPoint ≤ radiusKm
    · exact hnearest other ⟨_, hotherLookup, hrange⟩ _ _ hlookup hotherLookup
    · exact hle.trans (le_of_lt (not_le.mp hrange))
  · rw [poolAfter_append_singleton, PoolCommand.run, claimRun_eq,
      GeoSet.claim_some hclaimed]

theorem notMem_poolAfter_append (history : List PoolCommand) {id : String}
    (habsent : id ∉ poolAfter dist history) (middle : List PoolCommand)
    (hnotAdded : ∀ command ∈ middle, command.added id = none) :
    id ∉ poolAfter dist (history ++ middle) := by
  induction middle using List.reverseRecOn with
  | nil => simpa using habsent
  | append_singleton middle command ih =>
      have hbefore := ih fun other hother =>
        hnotAdded other (List.mem_append_left _ hother)
      have hcommand := hnotAdded command (by simp)
      have hrun := command.lookup_run dist
        (poolAfter dist (history ++ middle)) id
      rw [hcommand, Finmap.lookup_eq_none.mpr hbefore, or_self,
        ← poolAfter_append_singleton, List.append_assoc] at hrun
      exact Finmap.lookup_eq_none.mp hrun

/-- Between two claims that obtain the same driver, a command adds the driver
back. -/
theorem added_between_claims {history middle : List PoolCommand}
    {pickup₁ pickup₂ : LatLng} {radiusKm₁ radiusKm₂ : Num}
    {hint₁ hint₂ : Option String} {id : String}
    (hfirst : obtainedBy dist history
      (.claimNearestDriver pickup₁ radiusKm₁ hint₁) = some id)
    (hsecond : obtainedBy dist
      (history ++ [.claimNearestDriver pickup₁ radiusKm₁ hint₁] ++ middle)
      (.claimNearestDriver pickup₂ radiusKm₂ hint₂) = some id) :
    ∃ command ∈ middle, ∃ point, command.added id = some point := by
  by_contra hnever
  have hnotAdded : ∀ command ∈ middle, command.added id = none := by
    intro command hcommand
    cases hadded : command.added id with
    | none => rfl
    | some point => exact (hnever ⟨command, hcommand, point, hadded⟩).elim
  have hgone : id ∉ poolAfter dist
      (history ++ [.claimNearestDriver pickup₁ radiusKm₁ hint₁]) := by
    rw [(claim_with_driver hfirst).2.2]
    exact Finmap.notMem_erase_self
  exact notMem_poolAfter_append _ hgone middle hnotAdded
    (claim_with_driver hsecond).1

theorem obtained_claims (pickup : LatLng) (radiusKm : Num)
    (hints : List (Option String)) (pool : AvailablePool) :
    obtained dist (hints.map fun hint =>
        .claimNearestDriver pickup radiusKm hint) pool =
      (GeoSet.claims dist pickup.toRedis radiusKm hints pool).1 := by
  induction hints generalizing pool with
  | nil => rfl
  | cons hint hints ih =>
      simp only [List.map_cons, obtained, GeoSet.claims, PoolCommand.run,
        claimRun_eq, ih]

theorem consecutive_claims (history : List PoolCommand) (pickup : LatLng)
    (radiusKm : Num) (hints : List (Option String)) :
    let drivers := obtained dist (hints.map fun hint =>
      .claimNearestDriver pickup radiusKm hint) (poolAfter dist history)
    drivers.Nodup ∧
      (∀ id ∈ drivers, id ∈ membersInRange dist history pickup radiusKm) ∧
      drivers.length =
        min hints.length (membersInRange dist history pickup radiusKm).card ∧
      drivers.Pairwise fun near far =>
        ∀ p q, reported history near = some p → reported history far = some q →
          kmBetween dist pickup p ≤ kmBetween dist pickup q := by
  simp only [obtained_claims, membersInRange_eq]
  refine ⟨GeoSet.claims_nodup _ _ _ _, ?_, GeoSet.claims_length _ _ _ _, ?_⟩
  · intro id hid
    exact GeoSet.mem_inRange.mpr (GeoSet.within_of_mem_claims hid)
  · apply (GeoSet.claims_pairwise_noFarther _ _ _ _).imp_of_mem
    intro near far hnear hfar hle p q hp hq
    obtain ⟨_, hnearLookup, -⟩ := GeoSet.within_of_mem_claims hnear
    obtain ⟨_, hfarLookup, -⟩ := GeoSet.within_of_mem_claims hfar
    obtain ⟨_, hnearReported, hnearPosition⟩ :=
      lookup_poolAfter history hnearLookup
    obtain ⟨_, hfarReported, hfarPosition⟩ :=
      lookup_poolAfter history hfarLookup
    rw [hp] at hnearReported
    rw [hq] at hfarReported
    cases hnearReported
    cases hfarReported
    subst hnearPosition hfarPosition
    exact hle _ _ hnearLookup hfarLookup

/-- Claims over any schedule: nobody is found exactly when nobody is in range,
and then nothing changes; otherwise a nearest member is obtained and nothing
else removed; a driver is obtained again only after being added again; and
`n` claims in a row over `k` drivers in range obtain `min n k` of them, nearest
first. -/
theorem claims_nearest_first (dist : GeoDist) (history : List PoolCommand)
    (pickup : LatLng) (radiusKm : Num) :
    (∀ hint,
      let claim := PoolCommand.claimNearestDriver pickup radiusKm hint
      (obtainedBy dist history claim = none ↔
        membersInRange dist history pickup radiusKm = ∅) ∧
      (obtainedBy dist history claim = none →
        poolAfter dist (history ++ [claim]) = poolAfter dist history) ∧
      (∀ id, obtainedBy dist history claim = some id →
        id ∈ poolAfter dist history ∧
        (∃ point, reported history id = some point ∧
          kmBetween dist pickup point ≤ radiusKm ∧
          ∀ other ∈ poolAfter dist history, ∃ otherPoint,
            reported history other = some otherPoint ∧
              kmBetween dist pickup point ≤
                kmBetween dist pickup otherPoint) ∧
        poolAfter dist (history ++ [claim]) =
          (poolAfter dist history).erase id) ∧
      (∀ middle pickup₂ radiusKm₂ hint₂ id,
        obtainedBy dist history claim = some id →
        obtainedBy dist (history ++ [claim] ++ middle)
          (.claimNearestDriver pickup₂ radiusKm₂ hint₂) = some id →
        ∃ command ∈ middle, ∃ point, command.added id = some point)) ∧
    (∀ hints : List (Option String),
      let drivers := obtained dist (hints.map fun hint =>
        .claimNearestDriver pickup radiusKm hint) (poolAfter dist history)
      drivers.Nodup ∧
        (∀ id ∈ drivers, id ∈ membersInRange dist history pickup radiusKm) ∧
        drivers.length = min hints.length
          (membersInRange dist history pickup radiusKm).card ∧
        drivers.Pairwise fun near far =>
          ∀ p q, reported history near = some p →
            reported history far = some q →
              kmBetween dist pickup p ≤ kmBetween dist pickup q) := by
  constructor
  · intro hint claim
    refine ⟨claim_finds_nobody_iff history pickup radiusKm hint,
      claim_without_driver, fun id => claim_with_driver, ?_⟩
    intro middle pickup₂ radiusKm₂ hint₂ id hfirst hsecond
    exact added_between_claims hfirst hsecond
  · exact consecutive_claims history pickup radiusKm

end FakeBolt.Matching
