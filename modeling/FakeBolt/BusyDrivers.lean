import FakeBolt.RideBookkeeping

/-!
# Busy drivers are on a ride

driver-service marks a driver busy on `driver.assigned` and releases them
when their ride ends; ride-service stores the driver with the ride on the same
`driver.assigned`.  The two tables agree once all messages are handled if the
end of a ride never overtakes its assignment on the way to driver-service,
and no ride under way is set back to requested.
-/

namespace FakeBolt.Dispatch

open Await Geo Kafka Store Transition

/-- The ride that ended and the driver whom the message releases. -/
def releasedBy : Message → Option (String × String)
  | .rideCompleted event =>
      (truthy event.driverId).map fun driverId => (event.rideId, driverId)
  | .rideStatusUpdated event =>
      if event.status = .cancelled then
        (truthy event.driverId).map fun driverId => (event.rideId, driverId)
      else none
  | _ => none

/-- A service has yet to hear of an assignment. -/
def Awaits (system : System) (service : Service) (rideId driverId : String) :
    Prop :=
  ∃ mail ∈ system.inFlight,
    mail.1 = service ∧ Assigns mail.2 rideId driverId

instance (system : System) (service : Service) (rideId driverId : String) :
    Decidable (Awaits system service rideId driverId) :=
  inferInstanceAs (Decidable (∃ mail ∈ system.inFlight, _))

def AwaitsRelease (system : System) (rideId driverId : String) : Prop :=
  ∃ mail ∈ system.inFlight,
    mail.1 = .driver ∧ releasedBy mail.2 = some (rideId, driverId)

def Underway (status : RideStatus) : Prop :=
  status = .matched ∨ status = .inProgress

instance (status : RideStatus) : Decidable (Underway status) :=
  inferInstanceAs (Decidable (_ ∨ _))

def OnRide (system : System) (rideId driverId : String) : Prop :=
  ∃ ride, system.rides.get? rideId = some ride ∧
    ride.driverId = some driverId ∧ Underway ride.status

instance (state : Driver.DriverState) : Decidable state.Busy :=
  match hrow : state.row with
  | none => isFalse (by simp [Driver.DriverState.Busy, hrow])
  | some driver => decidable_of_iff (driver.status = .busy)
      (by simp [Driver.DriverState.Busy, hrow])

/-- Every busy driver is on a ride, once no message is in flight. -/
def NobodyStuck (system : System) : Prop :=
  system.inFlight = [] → ∀ driverId driver,
    system.drivers.get? driverId = some driver → driver.status = .busy →
      ∃ rideId, OnRide system rideId driverId

/-! ## The order in which it works -/

/-- The ride and driver of an end of ride that driver-service handles. -/
def releasing (system : System) (event : Event) : Option (String × String) :=
  (taken system event).bind fun mail =>
    if mail.1 = .driver then releasedBy mail.2 else none

def reopening (system : System) : Event → Option (String × String)
  | .updateRideStatus _ id dto =>
      if dto.status = .requested then
        (system.rides.get? id).bind fun ride =>
          if Underway ride.status then
            ride.driverId.map fun driverId => (id, driverId)
          else none
      else none
  | _ => none

/-- driver-service handles the end of a ride after its assignment, and rides
under way are not set back to requested unless their driver is free. -/
def InOrder (system : System) (event : Event) : Prop :=
  (∀ target ∈ releasing system event,
    ¬ Awaits system .driver target.1 target.2) ∧
  (∀ target ∈ reopening system event,
    ¬ Awaits system .driver target.1 target.2 ∧
      ¬ (system.driverState target.2).Busy)

instance (system : System) (event : Event) :
    Decidable (InOrder system event) :=
  inferInstanceAs (Decidable (_ ∧ _))

/-! ## The invariant -/

/-- The driver's assignment to the ride is accounted for: ride-service is
about to store it, has stored it, or the release is on its way. -/
def Covered (system : System) (rideId driverId : String) : Prop :=
  Awaits system .ride rideId driverId ∨ OnRide system rideId driverId ∨
    AwaitsRelease system rideId driverId

structure BusyCovered (system : System) : Prop where
  awaiting : ∀ rideId driverId, Awaits system .driver rideId driverId →
    Covered system rideId driverId
  busy : ∀ driverId, (system.driverState driverId).Busy →
    ∃ rideId, Covered system rideId driverId

theorem Awaits.of_subset {system next : System} {service : Service}
    {rideId driverId : String}
    (hawaits : Awaits system service rideId driverId)
    (hmail : ∀ mail ∈ system.inFlight, mail.1 = service →
      Assigns mail.2 rideId driverId → mail ∈ next.inFlight) :
    Awaits next service rideId driverId := by
  obtain ⟨mail, hmem, hservice, hassigns⟩ := hawaits
  exact ⟨mail, hmail mail hmem hservice hassigns, hservice, hassigns⟩

/-- Coverage survives a step that touches no ride and delivers neither the
assignment to ride-service nor the release. -/
theorem Covered.of_remaining {system next : System} {event : Event}
    {rideId driverId : String} (hcovered : Covered system rideId driverId)
    (hmail : ∀ mail ∈ remaining system event, mail ∈ next.inFlight)
    (hrides : next.rides = system.rides)
    (hnotRide : ∀ mail, taken system event = some mail → mail.1 ≠ .ride)
    (hnotRelease : releasing system event ≠ some (rideId, driverId)) :
    Covered next rideId driverId := by
  rcases hcovered with hawaits | hride | ⟨mail, hmem, hdriver, hreleased⟩
  · left
    apply hawaits.of_subset
    intro mail hmem hservice _
    apply hmail
    apply mem_remaining hmem
    intro hdelivered
    exact hnotRide mail hdelivered hservice
  · right
    left
    unfold OnRide
    rw [hrides]
    exact hride
  · right
    right
    refine ⟨mail, hmail mail (mem_remaining hmem ?_), hdriver, hreleased⟩
    intro hdelivered
    apply hnotRelease
    simp [releasing, hdelivered, hdriver, hreleased]

/-! ## Steps of driver-service -/

theorem driverAction_of_releasing {system : System} {event : Event}
    {rideId driverId : String}
    (hreleasing : releasing system event = some (rideId, driverId)) :
    driverAction system event = some (driverId, .release) := by
  cases event with
  | deliver position now hint =>
      simp only [releasing, taken, Option.bind_eq_some_iff] at hreleasing
      obtain ⟨⟨service, message⟩, hmail, hreleased⟩ := hreleasing
      simp only at hreleased
      split at hreleased
      · rename_i hservice
        subst service
        cases message with
        | rideCompleted update =>
            simp only [releasedBy, Option.map_eq_some_iff,
              Prod.mk.injEq] at hreleased
            obtain ⟨_, htruthy, -, heq⟩ := hreleased
            subst heq
            simp [driverAction, driverRequest, hmail, decodeForDriver,
              Driver.Request.action, Driver.finishAction, htruthy]
        | rideStatusUpdated update =>
            simp only [releasedBy] at hreleased
            split at hreleased
            · rename_i hcancelled
              simp only [Option.map_eq_some_iff, Prod.mk.injEq] at hreleased
              obtain ⟨_, htruthy, -, heq⟩ := hreleased
              subst heq
              simp [driverAction, driverRequest, hmail, decodeForDriver,
                Driver.Request.action, Driver.finishAction, htruthy,
                hcancelled, RideStatus.value]
            · cases hreleased
        | _ => cases hreleased
      · cases hreleased
  | _ => cases hreleasing

theorem awaits_of_assign {system : System} {event : Event} {driverId : String}
    (haction : driverAction system event = some (driverId, .assign)) :
    ∃ rideId message, taken system event = some (.driver, message) ∧
      Assigns message rideId driverId := by
  obtain ⟨request, hrequest, hassign⟩ := Option.bind_eq_some_iff.mp haction
  cases event with
  | deliver position now hint =>
      simp only [driverRequest] at hrequest
      split at hrequest
      · rename_i message hmessage
        cases message with
        | driverAssigned announced =>
            cases hrequest
            simp only [Driver.Request.action, Option.some.injEq,
              Prod.mk.injEq, and_true] at hassign
            exact ⟨announced.rideId, _, hmessage, rfl, hassign⟩
        | rideCompleted update =>
            cases hrequest
            simp [Driver.Request.action, Driver.finishAction] at hassign
        | rideStatusUpdated update =>
            cases hrequest
            simp only [Driver.Request.action] at hassign
            split at hassign
            · cases hassign
            · simp [Driver.finishAction] at hassign
        | _ => cases hrequest
      · cases hrequest
  | createDriver newId dto =>
      cases hrequest
      simp [Driver.Request.action] at hassign
  | updateDriverStatus now id dto =>
      cases hrequest
      simp [Driver.Request.action] at hassign
  | updateDriverLocation now id dto =>
      cases hrequest
      simp [Driver.Request.action] at hassign
  | photoUpdated now photo =>
      cases hrequest
      simp [Driver.Request.action] at hassign
  | requestRide newId createdAt now dto => cases hrequest
  | updateRideStatus now id dto => cases hrequest

/-- A driver is busy after a step because they were assigned in it, or were
busy before and not released. -/
theorem DriverStep.busy {system next : System} {event : Event}
    (hstep : DriverStep system event next) {driverId : String}
    (hbusy : (next.driverState driverId).Busy) :
    driverAction system event = some (driverId, .assign) ∨
      ((system.driverState driverId).Busy ∧
        driverAction system event ≠ some (driverId, .release)) := by
  rw [hstep.state] at hbusy
  cases haction : driverAction system event with
  | none =>
      rw [haction] at hbusy
      exact Or.inr ⟨hbusy, by simp⟩
  | some target =>
      obtain ⟨changed, action⟩ := target
      simp only [haction, Driver.actOn] at hbusy
      split at hbusy
      · rename_i heq
        subst changed
        have hcases := Driver.DriverState.busy_of_apply hbusy (by
          intro driver hcreate
          subst action
          exact driverAction_created_offline haction)
        rcases hcases with hassign | ⟨hwas, hkept⟩
        · subst action
          exact Or.inl rfl
        · refine Or.inr ⟨hwas, ?_⟩
          intro hreleased
          simp only [Option.some.injEq, Prod.mk.injEq, true_and] at hreleased
          exact hkept hreleased
      · rename_i hne
        refine Or.inr ⟨hbusy, ?_⟩
        intro hreleased
        simp only [Option.some.injEq, Prod.mk.injEq] at hreleased
        exact hne hreleased.1.symm

theorem BusyCovered.driverStep {system next : System} {event : Event}
    (hinv : BusyCovered system) (hguard : InOrder system event)
    (hstep : DriverStep system event next) : BusyCovered next := by
  have hmail : ∀ mail ∈ remaining system event, mail ∈ next.inFlight := by
    intro mail hmem
    rw [hstep.inFlight]
    exact hmem
  have hnotRide : ∀ mail, taken system event = some mail → mail.1 ≠ .ride := by
    intro mail hdelivered hride
    have hdriver := hstep.consumed mail hdelivered
    rw [hride] at hdriver
    cases hdriver
  constructor
  · intro rideId driverId hawaits
    have hbefore : Awaits system .driver rideId driverId := by
      apply hawaits.of_subset
      intro mail hmem _ _
      rw [hstep.inFlight] at hmem
      exact mem_of_mem_remaining hmem
    apply (hinv.awaiting rideId driverId hbefore).of_remaining hmail
      hstep.rides hnotRide
    intro hreleasing
    exact hguard.1 _ hreleasing hbefore
  · intro driverId hbusy
    rcases hstep.busy hbusy with hassign | ⟨hwas, hkept⟩
    · obtain ⟨rideId, message, hdelivered, hassigns⟩ :=
        awaits_of_assign hassign
      have hawaited : Awaits system .driver rideId driverId :=
        ⟨_, (mem_inFlight_iff event).mpr (Or.inl hdelivered), rfl, hassigns⟩
      refine ⟨rideId, (hinv.awaiting rideId driverId hawaited).of_remaining
        hmail hstep.rides hnotRide ?_⟩
      intro hreleasing
      exact hguard.1 _ hreleasing hawaited
    · obtain ⟨rideId, hcovered⟩ := hinv.busy driverId hwas
      refine ⟨rideId, hcovered.of_remaining hmail hstep.rides hnotRide ?_⟩
      intro hreleasing
      exact hkept (driverAction_of_releasing hreleasing)

/-! ## Steps of the other services -/

theorem BusyCovered.of_covered {system next : System}
    (hinv : BusyCovered system) (hdrivers : next.drivers = system.drivers)
    (hawaits : ∀ rideId driverId, Awaits next .driver rideId driverId →
      Awaits system .driver rideId driverId)
    (hcovered : ∀ rideId driverId, Covered system rideId driverId →
      Awaits system .driver rideId driverId ∨
        (system.driverState driverId).Busy →
      Covered next rideId driverId) :
    BusyCovered next := by
  have hbusy : ∀ driverId, (next.driverState driverId).Busy →
      (system.driverState driverId).Busy := by
    rintro driverId ⟨driver, hrow, hstatus⟩
    refine ⟨driver, ?_, hstatus⟩
    change next.drivers.get? driverId = some driver at hrow
    rw [hdrivers] at hrow
    exact hrow
  constructor
  · intro rideId driverId h
    have hbefore := hawaits rideId driverId h
    exact hcovered rideId driverId (hinv.awaiting rideId driverId hbefore)
      (Or.inl hbefore)
  · intro driverId h
    obtain ⟨rideId, hold⟩ := hinv.busy driverId (hbusy driverId h)
    exact ⟨rideId, hcovered rideId driverId hold (Or.inr (hbusy driverId h))⟩

theorem releasing_eq_none_of_not_driver {system : System} {event : Event}
    (hconsumed : ∀ mail, taken system event = some mail →
      mail.1 ≠ .driver) : releasing system event = none := by
  unfold releasing
  cases htaken : taken system event with
  | none => rfl
  | some mail => simp [hconsumed mail htaken]

theorem BusyCovered.consume {system next : System} {event : Event}
    (hinv : BusyCovered system)
    (hconsumed : ∀ mail, taken system event = some mail →
      mail.1 = .matching)
    (hdrivers : next.drivers = system.drivers)
    (hrides : next.rides = system.rides)
    (hmail : next.inFlight = remaining system event) : BusyCovered next := by
  apply hinv.of_covered hdrivers
  · intro rideId driverId hawaits
    apply hawaits.of_subset
    intro mail hmem _ _
    rw [hmail] at hmem
    exact mem_of_mem_remaining hmem
  · intro rideId driverId hcovered _
    apply hcovered.of_remaining
    · intro mail hmem
      rw [hmail]
      exact hmem
    · exact hrides
    · intro mail hdelivered
      rw [hconsumed mail hdelivered]
      simp
    · rw [releasing_eq_none_of_not_driver]
      · simp
      · intro mail hdelivered
        rw [hconsumed mail hdelivered]
        simp

/-- A new message that assigns nobody leaves driver-service with the
assignments it awaited. -/
theorem Awaits.of_sent {system next : System} {sent : Service × Message}
    {rideId driverId : String} (hawaits : Awaits next .driver rideId driverId)
    (hmail : ∀ mail ∈ next.inFlight, mail ∈ system.inFlight ∨ mail = sent)
    (hquiet : sent.1 = .driver → ¬ Assigns sent.2 rideId driverId) :
    Awaits system .driver rideId driverId := by
  obtain ⟨mail, hmem, hservice, hassigns⟩ := hawaits
  rcases hmail mail hmem with hold | hnew
  · exact ⟨mail, hold, hservice, hassigns⟩
  · subst mail
    exact (hquiet hservice hassigns).elim

/-- Sending messages covers what was covered in flight. -/
theorem Covered.of_sent {system next : System} {sent : List (Service × Message)}
    {rideId driverId : String} (hcovered : Covered system rideId driverId)
    (hmail : next.inFlight = system.inFlight ++ sent)
    (honRide : OnRide system rideId driverId → Covered next rideId driverId) :
    Covered next rideId driverId := by
  have hkept : ∀ mail ∈ system.inFlight, mail ∈ next.inFlight := by
    intro mail hmem
    rw [hmail]
    exact List.mem_append_left _ hmem
  rcases hcovered with hawaits | hride | ⟨mail, hmem, hservice, hreleased⟩
  · left
    apply hawaits.of_subset
    exact fun mail hmem _ _ => hkept mail hmem
  · exact honRide hride
  · right
    right
    exact ⟨mail, hkept mail hmem, hservice, hreleased⟩

theorem releasedBy_updateMessage {now : Instant} {id driverId : String}
    {ride : Ride.RideEntity} {dto : Ride.UpdateStatusDto}
    (hdriver : ride.driverId = some driverId) (hnamed : driverId ≠ "")
    (hends : dto.status = .completed ∨ dto.status = .cancelled) :
    releasedBy (Ride.updateMessage now id ride dto) = some (id, driverId) := by
  have htruthy : truthy ride.driverId = some driverId :=
    truthy_eq_some_iff.mpr ⟨hdriver, hnamed⟩
  rcases hends with hcompleted | hcancelled
  · simp [Ride.updateMessage, hcompleted, releasedBy,
      Ride.RideService.rideUpdated, htruthy]
  · simp [Ride.updateMessage, hcancelled, releasedBy,
      Ride.RideService.rideUpdated, htruthy]

theorem BusyCovered.updated {system : System} (hinv : BusyCovered system)
    (hbooks : Accounted system) {now : Instant} {id : String}
    {dto : Ride.UpdateStatusDto} {ride : Ride.RideEntity}
    (hguard : InOrder system (.updateRideStatus now id dto))
    (hget : system.rides.get? id = some ride) :
    BusyCovered
      { system with
        rides := system.rides.update id (Ride.statusPatch dto)
        log := system.log ++ [Ride.updateMessage now id ride dto]
        inFlight := system.inFlight ++
          [(.driver, Ride.updateMessage now id ride dto)] } := by
  apply hinv.of_covered
  · rfl
  · intro rideId driverId hawaits
    apply hawaits.of_sent
    · exact fun mail hmem => by simpa using hmem
    · exact fun _ => updateMessage_not_assigns now id ride dto _ _
  · intro rideId driverId hcovered hneeded
    apply hcovered.of_sent rfl
    rintro ⟨found, hfound, hdriver, hunderway⟩
    by_cases heq : rideId = id
    · subst rideId
      rw [hget] at hfound
      cases hfound
      have hnamed : driverId ≠ "" := hbooks.assignedNamed id driverId
        (hbooks.stored id ride driverId hget hdriver)
      have hpatched :
          (system.rides.update id (Ride.statusPatch dto)).get? id =
            some (Indexed.patch (Ride.statusPatch dto) ride) := by
        simp [hget]
      by_cases hends : dto.status = .completed ∨ dto.status = .cancelled
      · -- the update that ends the ride sends the release
        right
        right
        exact ⟨_, List.mem_append_right _ (List.mem_singleton_self _), rfl,
          releasedBy_updateMessage hdriver hnamed hends⟩
      · have hstatus : dto.status = .requested ∨ Underway dto.status := by
          unfold Underway
          cases hdto : dto.status <;> simp_all
        rcases hstatus with hrequested | hkept
        · have hreopening : reopening system (.updateRideStatus now id dto) =
              some (id, driverId) := by
            simp [reopening, hrequested, hget, hunderway, hdriver]
          obtain ⟨hheard, hfree⟩ := hguard.2 _ hreopening
          rcases hneeded with hawaits | hbusy
          · exact (hheard hawaits).elim
          · exact (hfree hbusy).elim
        · right
          left
          exact ⟨_, hpatched, hdriver, hkept⟩
    · right
      left
      refine ⟨found, ?_, hdriver, hunderway⟩
      change (system.rides.update id (Ride.statusPatch dto)).get? rideId =
        some found
      rw [Table.get?_update_of_ne _ _ heq]
      exact hfound

theorem BusyCovered.matched {system : System} {event : Event}
    (hinv : BusyCovered system) (hbooks : Accounted system) {now : Instant}
    {announced : DriverAssigned} {ride : Ride.RideEntity}
    (hmessage : taken system event =
      some (.ride, .driverAssigned announced))
    (hget : system.rides.get? announced.rideId = some ride) :
    BusyCovered
      { system with
        rides := system.rides.update announced.rideId
          (Ride.matchedPatch ⟨announced.rideId, announced.driverId⟩)
        log := system.log ++ [.rideStatusUpdated
          (Ride.matchedEvent now
            ⟨announced.rideId, announced.driverId⟩ ride)]
        inFlight := remaining system event ++
          [(.driver, .rideStatusUpdated
            (Ride.matchedEvent now
              ⟨announced.rideId, announced.driverId⟩ ride))] } := by
  have hsent : (.ride, .driverAssigned announced) ∈ system.inFlight :=
    (mem_inFlight_iff event).mpr (Or.inl hmessage)
  have hannounced := hbooks.mailed _ hsent announced.rideId
    announced.driverId ⟨rfl, rfl⟩
  -- ride-service stores the driver it hears of
  have hstored : ∀ rideId, rideId = announced.rideId →
      ∃ found, (system.rides.update announced.rideId
        (Ride.matchedPatch ⟨announced.rideId, announced.driverId⟩)).get?
          rideId = some found ∧
        found.driverId = some announced.driverId ∧
          Underway found.status := by
    intro rideId heq
    subst rideId
    refine ⟨Indexed.patch
      (Ride.matchedPatch ⟨announced.rideId, announced.driverId⟩) ride, ?_,
      rfl, Or.inl rfl⟩
    simp [hget]
  apply hinv.of_covered
  · rfl
  · intro rideId driverId hawaits
    apply hawaits.of_sent
    · intro mail hmem
      rw [List.mem_append, List.mem_singleton] at hmem
      exact hmem.imp_left mem_of_mem_remaining
    · exact fun _ hassigns => hassigns
  · intro rideId driverId hcovered _
    rcases hcovered with ⟨mail, hmem, hservice, hassigns⟩ | honRide |
      ⟨mail, hmem, hservice, hreleased⟩
    · by_cases hdelivered : taken system event = some mail
      · rw [hmessage] at hdelivered
        cases hdelivered
        obtain ⟨hride, hdriver⟩ := hassigns
        subst driverId
        exact Or.inr (Or.inl (hstored rideId hride.symm))
      · left
        refine ⟨mail, List.mem_append_left _ ?_, hservice, hassigns⟩
        exact mem_remaining hmem hdelivered
    · obtain ⟨found, hfound, hdriver, hunderway⟩ := honRide
      right
      left
      by_cases heq : rideId = announced.rideId
      · have hsame : driverId = announced.driverId := by
          apply hbooks.assignedOnce rideId
          · exact hbooks.stored rideId found driverId hfound hdriver
          · rw [heq]
            exact hannounced
        subst driverId
        exact hstored rideId heq
      · refine ⟨found, ?_, hdriver, hunderway⟩
        change (system.rides.update announced.rideId _).get? rideId =
          some found
        rw [Table.get?_update_of_ne _ _ heq]
        exact hfound
    · right
      right
      refine ⟨mail, List.mem_append_left _ (mem_remaining hmem ?_), hservice,
        hreleased⟩
      intro hdelivered
      rw [hmessage] at hdelivered
      cases hdelivered
      cases hservice

theorem BusyCovered.requested {system : System} (hinv : BusyCovered system)
    {ride : Ride.RideEntity} {rides : Table Ride.RideEntity}
    {request : RideRequested}
    (hinsert : system.rides.insert? ride = some rides) :
    BusyCovered
      { system with
        rides := rides
        log := system.log ++ [.rideRequested request]
        inFlight := system.inFlight ++
          [(.matching, .rideRequested request)] } := by
  apply hinv.of_covered
  · rfl
  · intro rideId driverId hawaits
    apply hawaits.of_sent
    · exact fun mail hmem => by simpa using hmem
    · intro hdriver
      cases hdriver
  · intro rideId driverId hcovered _
    apply hcovered.of_sent rfl
    rintro ⟨found, hfound, hdriver, hunderway⟩
    right
    left
    refine ⟨found, ?_, hdriver, hunderway⟩
    change rides.get? rideId = some found
    rw [Table.get?_of_insert? hinsert, if_neg]
    · exact hfound
    · intro heq
      apply (Table.rows_of_insert? hinsert).2 found
        (Table.get?_eq_some_iff.mp hfound).1
      apply Indexed.clash_of_key_eq
      rw [Table.key_of_get? hfound, heq]

/-- Both services hear of a new assignment. -/
theorem BusyCovered.assigned {system : System} {event : Event}
    (hinv : BusyCovered system) {request : RideRequested}
    {announced : DriverAssigned} {pool : AvailablePool}
    (hmessage : taken system event =
      some (.matching, .rideRequested request)) :
    BusyCovered
      { system with
        pool := pool
        log := system.log ++ [.driverAssigned announced]
        inFlight := remaining system event ++
          [(.driver, .driverAssigned announced),
            (.ride, .driverAssigned announced)] } := by
  have hmatching : ∀ mail, taken system event = some mail →
      mail.1 = .matching := by
    intro mail hdelivered
    rw [hmessage] at hdelivered
    cases hdelivered
    rfl
  have hkept : ∀ rideId driverId, Covered system rideId driverId →
      Covered
        { system with
          pool := pool
          log := system.log ++ [.driverAssigned announced]
          inFlight := remaining system event ++
            [(.driver, .driverAssigned announced),
              (.ride, .driverAssigned announced)] } rideId driverId := by
    intro rideId driverId hcovered
    apply hcovered.of_remaining
    · exact fun _ hmem => List.mem_append_left _ hmem
    · rfl
    · intro mail hdelivered
      rw [hmatching mail hdelivered]
      simp
    · rw [releasing_eq_none_of_not_driver]
      · simp
      · intro mail hdelivered
        rw [hmatching mail hdelivered]
        simp
  constructor
  · rintro rideId driverId ⟨mail, hmem, hservice, hassigns⟩
    rw [List.mem_append] at hmem
    rcases hmem with hold | hnew
    · apply hkept
      apply hinv.awaiting
      exact ⟨mail, mem_of_mem_remaining hold, hservice, hassigns⟩
    · left
      refine ⟨(.ride, .driverAssigned announced), ?_, rfl, ?_⟩
      · simp
      · simp only [List.mem_cons, List.not_mem_nil, or_false] at hnew
        rcases hnew with heq | heq <;>
          · subst mail
            exact hassigns
  · intro driverId hbusy
    obtain ⟨rideId, hcovered⟩ := hinv.busy driverId hbusy
    exact ⟨rideId, hkept rideId driverId hcovered⟩

theorem BusyCovered.effect {system next : System} {event : Event}
    (hinv : BusyCovered system) (hbooks : Accounted system)
    (hguard : InOrder system event) (heffect : Effect system event next) :
    BusyCovered next := by
  cases heffect with
  | driver hstep => exact hinv.driverStep hguard hstep
  | nothing hconsumed => exact hinv.consume hconsumed rfl rfl rfl
  | discarded hmember hconsumed => exact hinv.consume hconsumed rfl rfl rfl
  | requested ride rides request hevent hmail hfresh hid hinsert =>
      exact hinv.requested hinsert
  | updated now id dto ride hevent hget =>
      subst event
      exact hinv.updated hbooks hguard hget
  | matched now announced ride hmessage hget =>
      exact hinv.matched hbooks hmessage hget
  | assigned request announced hmessage hride hdriver hmember =>
      exact hinv.assigned hmessage

theorem BusyCovered.initial : BusyCovered System.initial := by
  constructor
  · rintro rideId driverId ⟨mail, hmem, -⟩
    cases hmem
  · rintro driverId ⟨driver, hrow, -⟩
    cases hrow

/-- In runs that keep this order no driver is left busy without a ride. -/
theorem nobody_stuck (deployment : Deployment)
    {events before : List Event} {last : System}
    (hmeets : RunMeets (System.step deployment) InOrder
      System.initial events)
    (hsegment : before <+: events)
    (hrun : run (System.step deployment) System.initial before = some last) :
    NobodyStuck last := by
  have hkeeps : ∀ system event next,
      Accounted system ∧ BusyCovered system → InOrder system event →
        system.step deployment event = some next →
          Accounted next ∧ BusyCovered next := by
    rintro system event next ⟨hbooks, hcovered⟩ hguard hstep
    have heffect := step_effect hstep
    exact ⟨hbooks.effect heffect, hcovered.effect hbooks hguard heffect⟩
  have hinv := invariant_of_guarded hkeeps
    ⟨Accounted.initial, BusyCovered.initial⟩ (hmeets.of_prefix hsegment) hrun
  intro hquiet driverId driver hrow hbusy
  obtain ⟨rideId, hcovered⟩ := hinv.2.busy driverId ⟨driver, hrow, hbusy⟩
  refine ⟨rideId, ?_⟩
  rcases hcovered with ⟨mail, hmem, -⟩ | honRide | ⟨mail, hmem, -⟩
  · rw [hquiet] at hmem
    cases hmem
  · exact honRide
  · rw [hquiet] at hmem
    cases hmem

theorem ride_in_order :
    ∃ last, run (System.step flatDeployment) System.initial
        (goesOnline "d" ++
          [requestsRide "r", deliverAt 0, deliverAt 0, deliverAt 0,
            deliverAt 0]) = some last ∧ NobodyStuck last := by
  have hmeets : RunMeets (System.step flatDeployment) InOrder System.initial
      (goesOnline "d" ++
        [requestsRide "r", deliverAt 0, deliverAt 0, deliverAt 0,
          deliverAt 0]) := by
    decide +kernel
  have hcheck : (run (System.step flatDeployment) System.initial
      (goesOnline "d" ++
        [requestsRide "r", deliverAt 0, deliverAt 0, deliverAt 0,
          deliverAt 0])).any (fun last =>
        last.inFlight.isEmpty && decide (last.driverState "d").Busy) =
          true := by
    decide +kernel
  obtain ⟨last, hrun, -⟩ := exists_of_run_any hcheck
  exact ⟨last, hrun,
    nobody_stuck flatDeployment hmeets (List.prefix_refl _) hrun⟩

/-- driver-service hears of the end of the ride before it hears of the
assignment. -/
theorem completion_overtakes_assignment :
    ∃ last, run (System.step flatDeployment) System.initial
        (goesOnline "d" ++
          [requestsRide "r", deliverAt 0, deliverAt 1,
            .updateRideStatus 0 "r" ⟨.completed, none⟩,
            deliverAt 2, deliverAt 0, deliverAt 0]) = some last ∧
      ¬ NobodyStuck last := by
  have hcheck : (run (System.step flatDeployment) System.initial
      (goesOnline "d" ++
        [requestsRide "r", deliverAt 0, deliverAt 1,
          .updateRideStatus 0 "r" ⟨.completed, none⟩,
          deliverAt 2, deliverAt 0, deliverAt 0])).any (fun last =>
        last.inFlight.isEmpty && decide (last.driverState "d").Busy &&
          last.rides.rows.all fun ride => !decide (Underway ride.status)) =
            true := by
    decide +kernel
  obtain ⟨last, hrun, hlast⟩ := exists_of_run_any hcheck
  simp only [Bool.and_eq_true, List.isEmpty_iff, decide_eq_true_eq,
    List.all_eq_true, Bool.not_eq_true', decide_eq_false_iff_not] at hlast
  obtain ⟨⟨hquiet, driver, hrow, hbusy⟩, hended⟩ := hlast
  refine ⟨last, hrun, ?_⟩
  intro hnobody
  obtain ⟨rideId, ride, hget, -, hunderway⟩ :=
    hnobody hquiet "d" driver hrow hbusy
  exact hended ride (Table.get?_eq_some_iff.mp hget).1 hunderway

end FakeBolt.Dispatch
