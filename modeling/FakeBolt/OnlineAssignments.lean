import FakeBolt.DispatchSystem
import FakeBolt.StatusNews

/-!
# Who is put on a ride

matching-service takes a driver from the pool, so at that moment they are
available.  driver-service puts them on the ride when it hears of it, whatever
has happened to them in between.
-/

namespace FakeBolt.Dispatch

open Await Geo Kafka Store Transition
open Driver (lastNews statusNews Told)

/-- If driver-service makes a driver busy in this step, they were available
and had a photo. -/
def AssignsOnlineDriver (system : System) (event : Event) : Prop :=
  ∀ announced driver, taken system event =
      some (.driver, .driverAssigned announced) →
    system.drivers.get? announced.driverId = some driver →
      driver.status ≠ .busy →
        driver.status = .available ∧ driver.hasPhoto = true

/-- The assignment that driver-service handles in this step is about a driver
whose last published status is not `offline`. -/
def AssignedBeforeOffline (system : System) (event : Event) : Prop :=
  ∀ announced, taken system event =
      some (.driver, .driverAssigned announced) →
    lastNews announced.driverId system.log ≠ some .offline

/-- The log tells the status of every driver, assigned drivers have been told
about, and the pool agrees with the rows. -/
structure WellInformed (system : System) : Prop where
  told : ∀ id, Told (lastNews id system.log) (system.driverWorld.statusOf id)
  awaited : ∀ announced,
    (Service.driver, Message.driverAssigned announced) ∈ system.inFlight →
      lastNews announced.driverId system.log ≠ none
  consistent : ∀ id, (system.driverState id).Consistent

variable {deployment : Deployment} {system next : System} {event : Event}

theorem WellInformed.status_eq (hinv : WellInformed system) {id : String}
    {driver : Driver.DriverEntity}
    (hget : system.drivers.get? id = some driver) :
    (lastNews id system.log).getD .offline = driver.status := by
  have htold := hinv.told id
  have hstatus : system.driverWorld.statusOf id = some driver.status := by
    change (system.drivers.get? id).map Driver.DriverEntity.status = _
    rw [hget, Option.map_some]
  rw [hstatus] at htold
  exact htold

theorem WellInformed.known (hinv : WellInformed system) {id : String}
    (hnews : lastNews id system.log ≠ none) :
    ∃ driver, system.drivers.get? id = some driver := by
  have htold := hinv.told id
  cases hget : system.drivers.get? id with
  | some driver => exact ⟨driver, rfl⟩
  | none =>
      have hstatus : system.driverWorld.statusOf id = none := by
        change (system.drivers.get? id).map Driver.DriverEntity.status = _
        rw [hget, Option.map_none]
      rw [hstatus] at htold
      exact (hnews htold).elim

/-- An assigned driver has been told about, so the row says what the last
published status says. -/
theorem WellInformed.assigns_iff (hinv : WellInformed system)
    (event : Event) :
    AssignsOnlineDriver system event ↔ AssignedBeforeOffline system event := by
  constructor
  · intro honline announced hmail hoffline
    have hnews : lastNews announced.driverId system.log ≠ none := by
      simp [hoffline]
    obtain ⟨driver, hget⟩ := hinv.known hnews
    have hstatus := hinv.status_eq hget
    rw [hoffline, Option.getD_some] at hstatus
    have hidle : driver.status ≠ .busy := by simp [← hstatus]
    have havailable := (honline announced driver hmail hget hidle).1
    rw [← hstatus] at havailable
    cases havailable
  · intro hbefore announced driver hmail hget hidle
    have hsent := (mem_inFlight_iff event).mpr (Or.inl hmail)
    obtain ⟨status, hnews⟩ :=
      Option.ne_none_iff_exists'.mp (hinv.awaited announced hsent)
    have hstatus := hinv.status_eq hget
    rw [hnews, Option.getD_some] at hstatus
    subst hstatus
    have havailable : driver.status = .available := by
      cases hcase : driver.status with
      | available => rfl
      | busy => exact (hidle hcase).elim
      | offline =>
          rw [hcase] at hnews
          exact (hbefore announced hmail hnews).elim
    exact ⟨havailable,
      (hinv.consistent announced.driverId).online driver hget havailable⟩

/-! ## The log tells every status -/

/-- No driver changes and nothing is published about a status. -/
def Quiet (system next : System) : Prop :=
  next.drivers = system.drivers ∧
    ∃ more, next.log = system.log ++ more ∧
      ∀ message ∈ more, ∀ id, statusNews id message = none

theorem quiet_rideRequested {now : Instant} {hint : Option String}
    {request : RideRequested}
    (hstep : handle deployment system now hint .matching
      (.rideRequested request) = some next) :
    Quiet system next := by
  simp only [handle, Matching.MatchingService.eachMessage, exec_eachMessage,
    Matching.MatchingService.onMessage,
    Matching.exec_handleRideRequested] at hstep
  cases hsearch : GeoSet.search deployment.dist system.pool
      (decodeForMatching request).pickup deployment.searchRadiusKm hint with
  | none =>
      simp only [System.matchingWorld, hsearch] at hstep
      cases hstep
      exact ⟨rfl, _, rfl, by simp⟩
  | some driverId =>
      simp only [System.matchingWorld, hsearch] at hstep
      cases hstep
      refine ⟨rfl, _, rfl, ?_⟩
      by_cases hempty : driverId = ""
      · simp [hempty]
      · simp [hempty, Matching.assignedRecord, statusNews]

theorem quiet_driverAssigned {now : Instant} {hint : Option String}
    {announced : DriverAssigned}
    (hstep : handle deployment system now hint .ride
      (.driverAssigned announced) = some next) :
    Quiet system next := by
  simp only [handle, Ride.RideService.eachMessage, exec_eachMessage,
    Ride.exec_handleDriverAssigned, System.rideWorld] at hstep
  cases hget : system.rides.get? announced.rideId with
  | none => simp [hget, Except.isOk, Except.toBool] at hstep
  | some ride =>
      rw [hget] at hstep
      cases hstep
      refine ⟨rfl, _, rfl, ?_⟩
      simp [Ride.recordOf, statusNews]

/-- Requests and deliveries that driver-service does not take part in. -/
theorem quiet_step (hnone : driverRequest system event = none)
    (hstep : system.step deployment event = some next) :
    Quiet system next := by
  cases event with
  | createDriver newId dto => cases hnone
  | updateDriverStatus now id dto => cases hnone
  | updateDriverLocation now id dto => cases hnone
  | photoUpdated now photo => cases hnone
  | requestRide newId createdAt now dto =>
      cases hstep
      refine ⟨rfl, _, rfl, ?_⟩
      rw [Ride.exec_requestRide]
      cases system.rideWorld.rides.insert?
          (Ride.requestedRide newId createdAt dto) with
      | none => simp [System.rideWorld]
      | some rides => simp [System.rideWorld, Ride.recordOf, statusNews]
  | updateRideStatus now id dto =>
      cases hstep
      refine ⟨rfl, _, rfl, ?_⟩
      rw [Ride.exec_updateStatus]
      cases system.rideWorld.rides.get? id with
      | none => simp [System.rideWorld]
      | some ride =>
          simp only [System.rideWorld, Ride.recordOf, Ride.updateMessage]
          split <;> simp [statusNews]
  | deliver position now hint =>
      cases hmail : system.inFlight[position]? with
      | none => simp [System.step, hmail] at hstep
      | some mail =>
          obtain ⟨service, message⟩ := mail
          simp only [System.step, hmail] at hstep
          cases service with
          | driver =>
              simp only [driverRequest, hmail] at hnone
              simp [handle, hnone] at hstep
          | matching =>
              cases message with
              | rideRequested request =>
                  -- the mail has left `inFlight`, which `Quiet` does not see
                  have hquiet := quiet_rideRequested hstep
                  exact hquiet
              | _ => cases hstep
          | ride =>
              cases message with
              | driverAssigned announced =>
                  have hquiet := quiet_driverAssigned hstep
                  exact hquiet
              | _ => cases hstep

theorem WellInformed.told_step (hinv : WellInformed system)
    (hstep : system.step deployment event = some next) (id : String) :
    Told (lastNews id next.log) (next.driverWorld.statusOf id) := by
  cases hrequest : driverRequest system event with
  | none =>
      obtain ⟨hdrivers, more, hlog, hquiet⟩ := quiet_step hrequest hstep
      have hstatus : next.driverWorld.statusOf id =
          system.driverWorld.statusOf id := by
        change (next.drivers.get? id).map _ = (system.drivers.get? id).map _
        rw [hdrivers]
      rw [hstatus, hlog, Driver.lastNews_append_quiet fun message hmessage =>
        hquiet message hmessage id]
      exact hinv.told id
  | some request =>
      rw [step_driverRequest deployment hrequest] at hstep
      cases hstep
      obtain ⟨records, hpublished, htells⟩ :=
        request.tells system.driverWorld
      have hrecords :
          (request.run system.driverWorld).published = records := by
        rw [hpublished]
        rfl
      have htold := htells id system.log (hinv.told id)
      rw [← hrecords] at htold
      exact htold

theorem log_extends (hstep : system.step deployment event = some next) :
    ∃ more, next.log = system.log ++ more := by
  cases step_effect hstep with
  | driver hdriver =>
      obtain ⟨records, -, hlog⟩ := hdriver.log
      exact ⟨_, hlog⟩
  | nothing => exact ⟨[], (List.append_nil _).symm⟩
  | discarded => exact ⟨[], (List.append_nil _).symm⟩
  | requested => exact ⟨_, rfl⟩
  | updated => exact ⟨_, rfl⟩
  | assigned => exact ⟨_, rfl⟩
  | matched => exact ⟨_, rfl⟩

/-! ## Assignments on their way -/

/-- A member of the pool has been told to be available. -/
theorem WellInformed.news_of_pooled (hinv : WellInformed system)
    {id : String} (hmember : (system.pool.lookup id).isSome) :
    lastNews id system.log ≠ none := by
  obtain ⟨position, hentry⟩ := Option.isSome_iff_exists.mp hmember
  obtain ⟨driver, hget, havailable, -⟩ :=
    (hinv.consistent id).pooled position hentry
  have hstatus := hinv.status_eq hget
  intro hnone
  rw [hnone, havailable] at hstatus
  cases hstatus

theorem WellInformed.awaited_step (hinv : WellInformed system)
    (hstep : system.step deployment event = some next)
    {announced : DriverAssigned}
    (hmail : (Service.driver, Message.driverAssigned announced) ∈
      next.inFlight) :
    lastNews announced.driverId next.log ≠ none := by
  obtain ⟨more, hlog⟩ := log_extends hstep
  rw [hlog]
  apply Driver.lastNews_append_ne_none
  have hold : (Service.driver, Message.driverAssigned announced) ∈
      remaining system event →
        lastNews announced.driverId system.log ≠ none := by
    intro hleft
    exact hinv.awaited announced (mem_of_mem_remaining hleft)
  cases step_effect hstep with
  | driver hdriver => exact hold (hdriver.inFlight ▸ hmail)
  | nothing => exact hold hmail
  | discarded => exact hold hmail
  | requested ride rides request =>
      rcases List.mem_append.mp hmail with hsent | hnew
      · exact hinv.awaited announced hsent
      · simp at hnew
  | updated now id dto ride =>
      rcases List.mem_append.mp hmail with hsent | hnew
      · exact hinv.awaited announced hsent
      · simp only [List.mem_singleton, Prod.mk.injEq, true_and] at hnew
        have hassigns : Assigns (.driverAssigned announced) announced.rideId
            announced.driverId := ⟨rfl, rfl⟩
        rw [hnew] at hassigns
        exact (updateMessage_not_assigns _ _ _ _ _ _ hassigns).elim
  | assigned request sent hmessage hride hdriver hmember =>
      rcases List.mem_append.mp hmail with hleft | hnew
      · exact hold hleft
      · have heq : announced = sent := by simpa using hnew
        rw [heq]
        exact hinv.news_of_pooled hmember
  | matched now sent ride =>
      rcases List.mem_append.mp hmail with hleft | hnew
      · exact hold hleft
      · simp at hnew

/-! ## The pool agrees with the rows -/

theorem consistent_zrem {drivers : Table Driver.DriverEntity}
    {pool : AvailablePool} {messages : List ProducerRecord} {id : String}
    (driverId : String)
    (hgood : (Driver.DriverWorld.state ⟨drivers, pool, messages⟩
      id).Consistent) :
    (Driver.DriverWorld.state ⟨drivers, pool.zrem driverId, messages⟩
      id).Consistent := by
  constructor
  · intro position hentry
    apply hgood.pooled position
    by_cases heq : id = driverId
    · subst id
      change (pool.zrem driverId).lookup driverId = some position at hentry
      rw [AvailablePool.lookup_zrem_self] at hentry
      cases hentry
    · change (pool.zrem driverId).lookup id = some position at hentry
      rw [AvailablePool.lookup_zrem_of_ne heq] at hentry
      exact hentry
  · exact hgood.online

theorem WellInformed.consistent_step (hinv : WellInformed system)
    (hstep : system.step deployment event = some next) (id : String) :
    (next.driverState id).Consistent := by
  have hgood := hinv.consistent id
  cases step_effect hstep with
  | driver hdriver =>
      rw [hdriver.state]
      unfold Driver.actOn
      split
      · exact hgood
      · rename_i driverId action haction
        split
        · apply hgood.apply
          intro driver hcreate
          subst action
          exact driverAction_created_offline haction
        · exact hgood
  | nothing => exact hgood
  | requested => exact hgood
  | updated => exact hgood
  | discarded => exact consistent_zrem "" hgood
  | assigned request sent => exact consistent_zrem sent.driverId hgood
  | matched => exact hgood

theorem WellInformed.step (hinv : WellInformed system)
    (hstep : system.step deployment event = some next) :
    WellInformed next := by
  constructor
  · exact hinv.told_step hstep
  · intro announced hmail
    exact hinv.awaited_step hstep hmail
  · exact hinv.consistent_step hstep

theorem WellInformed.initial : WellInformed System.initial := by
  constructor
  · intro id
    rfl
  · intro announced hmail
    cases hmail
  · intro id
    constructor
    · intro position hentry
      rw [System.driverState, Driver.DriverWorld.state] at hentry
      simp [System.driverWorld, System.initial] at hentry
    · intro driver hrow
      cases hrow

/-- In every run driver-service puts only available drivers with a photo on a
ride exactly if it always hears of an assignment before the driver goes
offline. -/
theorem assigns_online_drivers_iff (deployment : Deployment)
    (events : List Event) :
    RunMeets (System.step deployment) AssignsOnlineDriver System.initial
        events ↔
      RunMeets (System.step deployment) AssignedBeforeOffline System.initial
        events := by
  apply runMeets_congr WellInformed.initial
  · intro system event next hinv hstep
    exact hinv.step hstep
  · intro system event hinv
    exact hinv.assigns_iff event

/-- The driver goes offline while the assignment is on its way. -/
theorem offline_driver_put_on_ride :
    ¬ RunMeets (System.step flatDeployment) AssignsOnlineDriver
      System.initial
      (goesOnline "d" ++
        [requestsRide "r", deliverAt 0,
          .updateDriverStatus 0 "d" { status := .offline }] ++
        [deliverAt 0]) := by
  intro hmeets
  have hcheck : (run (System.step flatDeployment) System.initial
      (goesOnline "d" ++
        [requestsRide "r", deliverAt 0,
          .updateDriverStatus 0 "d" { status := .offline }])).any
      (fun last => decide
        (taken last (deliverAt 0) = some (.driver, .driverAssigned
            ⟨"r", "rider", "d", isoString 0⟩) ∧
          (last.drivers.get? "d").map Driver.DriverEntity.status =
            some .offline)) = true := by
    decide +kernel
  obtain ⟨last, hrun, hlast⟩ := exists_of_run_any hcheck
  rw [decide_eq_true_eq] at hlast
  obtain ⟨driver, hget, hoffline⟩ := Option.map_eq_some_iff.mp hlast.2
  have honline := hmeets.guard_of_run hrun
  have hidle : driver.status ≠ .busy := by simp [hoffline]
  have havailable := (honline _ driver hlast.1 hget hidle).1
  rw [hoffline] at havailable
  cases havailable

end FakeBolt.Dispatch
