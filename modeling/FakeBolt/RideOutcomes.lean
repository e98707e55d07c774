import FakeBolt.RideBookkeeping

/-!
# What becomes of a requested ride

A ride waits for its request to be handled.  The claim that is made then looks
for a driver around the pickup, and when all messages have been consumed, the
driver in the ride's row is the one that this claim found.
-/

namespace FakeBolt.Dispatch

open Await Geo Kafka Store Transition

def pickupOf (ride : Ride.RideEntity) : Position :=
  ⟨ride.pickupLng, ride.pickupLat⟩

section Claims

variable (deployment : Deployment)

/-- The driver that a claim at the pickup of a ride finds, with an id. -/
def claimed (pool : AvailablePool) (ride : Ride.RideEntity)
    (hint : Option String) : Option String :=
  truthy (GeoSet.search deployment.dist pool (pickupOf ride)
    deployment.searchRadiusKm hint)

/-- The request of the ride was handled at some moment of the run, and the
claim found this driver. -/
def ClaimFound (events : List Event) (ride : Ride.RideEntity)
    (found : Option String) : Prop :=
  ∃ before position now hint after middle request,
    events = before ++ .deliver position now hint :: after ∧
      run (System.step deployment) System.initial before = some middle ∧
      middle.inFlight[position]? =
        some (.matching, .rideRequested request) ∧
      request.rideId = ride.id ∧
      found = claimed deployment middle.pool ride hint

/-- Where a ride stands. -/
inductive Stage (events : List Event) (system : System)
    (ride : Ride.RideEntity) : Prop where
  | waiting (hrequest : ride.id ∈ system.requests)
      (hdriver : ride.driverId = none)
  | handled (found : Option String)
      (hfound : ClaimFound deployment events ride found)
      (hconsumed : ride.id ∉ system.requests)
      (hassigned : ∀ driverId,
        Assigned system.log ride.id driverId ↔ found = some driverId)
      (hdriver : ride.driverId = found ∨
        ride.driverId = none ∧ ∃ announced : DriverAssigned,
          announced.rideId = ride.id ∧ found = some announced.driverId ∧
            (.ride, .driverAssigned announced) ∈ system.inFlight)

structure Settling (events : List Event) (system : System) : Prop where
  accounted : Accounted system
  pickups : ∀ request, (.matching, .rideRequested request) ∈ system.inFlight →
    ∃ ride, system.rides.get? request.rideId = some ride ∧
      (decodeForMatching request).pickup = pickupOf ride
  stages : ∀ id ride, system.rides.get? id = some ride →
    Stage deployment events system ride

end Claims

variable {deployment : Deployment} {events : List Event}
  {system next : System} {event : Event}

theorem ClaimFound.later {ride : Ride.RideEntity} {found : Option String}
    (hfound : ClaimFound deployment events ride found) (event : Event) :
    ClaimFound deployment (events ++ [event]) ride found := by
  obtain ⟨before, position, now, hint, after, middle, request, hevents,
    hrest⟩ := hfound
  refine ⟨before, position, now, hint, after ++ [event], middle, request, ?_,
    hrest⟩
  rw [hevents, List.append_assoc, List.cons_append]

/-- Only the id and the pickup of a ride matter. -/
theorem ClaimFound.of_same {ride other : Ride.RideEntity}
    {found : Option String} (hfound : ClaimFound deployment events ride found)
    (hid : other.id = ride.id) (hpickup : pickupOf other = pickupOf ride) :
    ClaimFound deployment events other found := by
  obtain ⟨before, position, now, hint, after, middle, request, hevents, hrun,
    hmail, hrequest, hclaimed⟩ := hfound
  refine ⟨before, position, now, hint, after, middle, request, hevents, hrun,
    hmail, ?_, ?_⟩
  · rw [hrequest, hid]
  · unfold claimed at hclaimed ⊢
    rw [hpickup]
    exact hclaimed

/-- A step that handles no request, takes no message for ride-service and
assigns nobody leaves every ride at its stage. -/
theorem Stage.keep {ride : Ride.RideEntity}
    (hstage : Stage deployment events system ride)
    (hrequests : ride.id ∈ next.requests ↔ ride.id ∈ system.requests)
    (hassigned : ∀ driverId, Assigned next.log ride.id driverId ↔
      Assigned system.log ride.id driverId)
    (hmail : ∀ announced : DriverAssigned, announced.rideId = ride.id →
      (.ride, .driverAssigned announced) ∈ system.inFlight →
        (.ride, .driverAssigned announced) ∈ next.inFlight) :
    Stage deployment (events ++ [event]) next ride := by
  cases hstage with
  | waiting hrequest hdriver =>
      exact .waiting (hrequests.mpr hrequest) hdriver
  | handled found hfound hconsumed hfor hdriver =>
      refine .handled found (hfound.later event) ?_ ?_ ?_
      · rw [hrequests]
        exact hconsumed
      · intro driverId
        rw [hassigned]
        exact hfor driverId
      · rcases hdriver with hrow | ⟨hnone, announced, hid, hname, hsent⟩
        · exact .inl hrow
        · exact .inr ⟨hnone, announced, hid, hname,
            hmail announced hid hsent⟩

/-- An update of the row that leaves driver, id and pickup alone. -/
theorem Stage.of_same {ride other : Ride.RideEntity}
    (hstage : Stage deployment events system ride) (hid : other.id = ride.id)
    (hpickup : pickupOf other = pickupOf ride)
    (hdriver : other.driverId = ride.driverId) :
    Stage deployment events system other := by
  cases hstage with
  | waiting hrequest hnone =>
      refine .waiting ?_ ?_
      · rw [hid]
        exact hrequest
      · rw [hdriver]
        exact hnone
  | handled found hfound hconsumed hfor hrow =>
      refine .handled found (hfound.of_same hid hpickup) ?_ ?_ ?_
      · rw [hid]
        exact hconsumed
      · rw [hid]
        exact hfor
      · rw [hid, hdriver]
        exact hrow

/-- The announced driver reaches the row. -/
theorem Stage.matched {ride other : Ride.RideEntity} {driverId : String}
    (hstage : Stage deployment events system ride)
    (hassigned : Assigned system.log ride.id driverId)
    (hopen : ride.id ∉ system.requests) (hid : other.id = ride.id)
    (hpickup : pickupOf other = pickupOf ride)
    (hdriver : other.driverId = some driverId)
    (hrequests : ride.id ∈ next.requests ↔ ride.id ∈ system.requests)
    (hlog : ∀ driverId, Assigned next.log ride.id driverId ↔
      Assigned system.log ride.id driverId) :
    Stage deployment (events ++ [event]) next other := by
  cases hstage with
  | waiting hrequest _ => exact (hopen hrequest).elim
  | handled claim hclaim hconsumed hfor _ =>
      have hclaimed : claim = some driverId := (hfor driverId).mp hassigned
      refine .handled claim ((hclaim.of_same hid hpickup).later event) ?_ ?_
        (.inl ?_)
      · rw [hid, hrequests]
        exact hconsumed
      · intro other
        rw [hid, hlog]
        exact hfor other
      · rw [hdriver, hclaimed]

/-! ## Messages that wait -/

theorem requests_perm (system : System) (event : Event) :
    system.requests.Perm
      ((taken system event).toList.filterMap requestedRide ++
        (remaining system event).filterMap requestedRide) := by
  have hperm := (inFlight_perm system event).filterMap requestedRide
  rw [List.filterMap_append] at hperm
  exact hperm

theorem mem_requests_of_quiet {rideId : String}
    (hquiet : ∀ mail, taken system event = some mail →
      requestedRide mail = none) :
    rideId ∈ (remaining system event).filterMap requestedRide ↔
      rideId ∈ system.requests := by
  rw [(requests_perm system event).mem_iff, List.mem_append, iff_or_self]
  intro hmem
  obtain ⟨mail, hmail, hrequest⟩ := List.mem_filterMap.mp hmem
  rw [hquiet mail (Option.mem_toList.mp hmail)] at hrequest
  cases hrequest

/-- The requests that wait are the same, and a ride's row keeps what its
request says. -/
theorem Settling.keep (hsettling : Settling deployment events system)
    (haccounted : Accounted next)
    (hmails : ∀ mail ∈ next.inFlight, mail ∈ system.inFlight ∨
      mail.1 = .driver)
    (hrows : ∀ id ride, next.rides.get? id = some ride →
      ∃ old, system.rides.get? id = some old ∧ ride.id = old.id ∧
        pickupOf ride = pickupOf old)
    (hknown : ∀ id, (system.rides.get? id).isSome →
      (next.rides.get? id).isSome)
    (hstages : ∀ id ride, next.rides.get? id = some ride →
      Stage deployment (events ++ [event]) next ride) :
    Settling deployment (events ++ [event]) next := by
  refine ⟨haccounted, ?_, hstages⟩
  intro request hrequest
  rcases hmails _ hrequest with hold | hdriver
  · obtain ⟨old, hget, hpickup⟩ := hsettling.pickups request hold
    have hsome := hknown request.rideId (by rw [hget]; rfl)
    obtain ⟨ride, hride⟩ := Option.isSome_iff_exists.mp hsome
    obtain ⟨same, hsame, -, heq⟩ := hrows _ _ hride
    rw [hget, Option.some.injEq] at hsame
    subst hsame
    exact ⟨ride, hride, hpickup.trans heq.symm⟩
  · cases hdriver

/-! ## Steps -/

theorem Settling.driver (hsettling : Settling deployment events system)
    (hstep : DriverStep system event next) :
    Settling deployment (events ++ [event]) next := by
  have hquiet : ∀ mail, taken system event = some mail →
      requestedRide mail = none := by
    intro mail hmail
    have hservice := hstep.consumed mail hmail
    obtain ⟨service, message⟩ := mail
    simp only at hservice
    subst hservice
    rfl
  apply hsettling.keep (hsettling.accounted.effect (.driver hstep))
  · intro mail hmail
    rw [hstep.inFlight] at hmail
    exact .inl (mem_of_mem_remaining hmail)
  · intro id ride hride
    rw [hstep.rides] at hride
    exact ⟨ride, hride, rfl, rfl⟩
  · intro id hsome
    rw [hstep.rides]
    exact hsome
  · intro id ride hride
    rw [hstep.rides] at hride
    apply (hsettling.stages id ride hride).keep
    · unfold System.requests
      rw [hstep.inFlight]
      exact mem_requests_of_quiet hquiet
    · exact hstep.assigned_iff ride.id
    · intro announced _ hsent
      rw [hstep.inFlight]
      apply mem_remaining hsent
      intro htaken
      cases hstep.consumed _ htaken

theorem step_updateRideStatus {now : Instant} {id : String}
    {dto : Ride.UpdateStatusDto}
    (hstep : system.step deployment (.updateRideStatus now id dto) =
      some next) :
    next = system ∨ ∃ ride, system.rides.get? id = some ride ∧
      next =
        { system with
          rides := system.rides.update id (Ride.statusPatch dto)
          log := system.log ++ [Ride.updateMessage now id ride dto]
          inFlight := system.inFlight ++
            [(.driver, Ride.updateMessage now id ride dto)] } := by
  cases hstep
  unfold System.serveRide
  have hrides : system.rideWorld.rides = system.rides := rfl
  rw [Ride.exec_updateStatus, hrides]
  cases hget : system.rides.get? id with
  | none => exact .inl (publish_nil system)
  | some ride =>
      right
      refine ⟨ride, rfl, ?_⟩
      have hmail : mailOf (Ride.updateMessage now id ride dto) =
          [(.driver, Ride.updateMessage now id ride dto)] := by
        unfold Ride.updateMessage
        split <;> rfl
      simp [System.absorbRide, System.publish, System.rideWorld, Ride.recordOf,
        hmail]

theorem Settling.updateRideStatus (hsettling : Settling deployment events system)
    {now : Instant} {id : String} {dto : Ride.UpdateStatusDto}
    (hstep : system.step deployment (.updateRideStatus now id dto) =
      some next) :
    Settling deployment (events ++ [.updateRideStatus now id dto]) next := by
  have haccounted := hsettling.accounted.effect (step_effect hstep)
  rcases step_updateRideStatus hstep with heq | ⟨found, hfound, heq⟩
  · subst heq
    apply hsettling.keep haccounted
    · exact fun mail hmail => .inl hmail
    · exact fun id ride hride => ⟨ride, hride, rfl, rfl⟩
    · exact fun id hsome => hsome
    · intro id ride hride
      exact (hsettling.stages id ride hride).keep Iff.rfl
        (fun _ => Iff.rfl) (fun _ _ hsent => hsent)
  · have hrows : ∀ other ride, next.rides.get? other = some ride →
        ∃ old, system.rides.get? other = some old ∧ ride.id = old.id ∧
          pickupOf ride = pickupOf old ∧ ride.driverId = old.driverId := by
      intro other ride hride
      rw [heq] at hride
      simp only [Table.get?_update, Option.map_eq_some_iff] at hride
      obtain ⟨old, hold, hpatched⟩ := hride
      refine ⟨old, hold, ?_⟩
      subst hpatched
      split <;> exact ⟨rfl, rfl, rfl⟩
    apply hsettling.keep haccounted
    · intro mail hmail
      rw [heq, List.mem_append, List.mem_singleton] at hmail
      rcases hmail with hold | hnew
      · exact .inl hold
      · rw [hnew]
        exact .inr rfl
    · intro other ride hride
      obtain ⟨old, hold, hid, hpickup, -⟩ := hrows other ride hride
      exact ⟨old, hold, hid, hpickup⟩
    · intro other hsome
      rw [heq]
      simpa [Table.get?_update] using hsome
    · intro other ride hride
      obtain ⟨old, hold, hid, hpickup, hdriver⟩ := hrows other ride hride
      apply Stage.of_same _ hid hpickup hdriver
      apply (hsettling.stages other old hold).keep
      · unfold System.requests
        rw [heq, List.filterMap_append]
        simp [requestedRide]
      · intro driverId
        rw [heq]
        exact assigned_append_quiet
          (updateMessage_not_assigns now id found dto old.id driverId)
      · intro announced _ hsent
        rw [heq]
        exact List.mem_append_left _ hsent

theorem step_requestRide {newId : String} {createdAt now : Instant}
    {dto : Ride.RequestRideDto}
    (hstep : system.step deployment (.requestRide newId createdAt now dto) =
      some next) :
    next = system ∨ ∃ rides,
      system.rides.insert? (Ride.requestedRide newId createdAt dto) =
          some rides ∧
        next =
          { system with
            rides := rides
            log := system.log ++ [.rideRequested (Ride.requestedEvent now
              (Ride.requestedRide newId createdAt dto))]
            inFlight := system.inFlight ++
              [(.matching, .rideRequested (Ride.requestedEvent now
                (Ride.requestedRide newId createdAt dto)))] } := by
  cases hstep
  unfold System.serveRide
  have hrides : system.rideWorld.rides = system.rides := rfl
  rw [Ride.exec_requestRide, hrides]
  cases hinsert : system.rides.insert?
      (Ride.requestedRide newId createdAt dto) with
  | none => exact .inl (publish_nil system)
  | some rides => exact .inr ⟨rides, rfl, rfl⟩

theorem Settling.requestRide (hsettling : Settling deployment events system)
    {newId : String} {createdAt now : Instant} {dto : Ride.RequestRideDto}
    (hstep : system.step deployment (.requestRide newId createdAt now dto) =
      some next) :
    Settling deployment (events ++ [.requestRide newId createdAt now dto])
      next := by
  have haccounted := hsettling.accounted.effect (step_effect hstep)
  rcases step_requestRide hstep with heq | ⟨rides, hinsert, heq⟩
  · subst heq
    apply hsettling.keep haccounted
    · exact fun mail hmail => .inl hmail
    · exact fun id ride hride => ⟨ride, hride, rfl, rfl⟩
    · exact fun id hsome => hsome
    · intro id ride hride
      exact (hsettling.stages id ride hride).keep Iff.rfl
        (fun _ => Iff.rfl) (fun _ _ hsent => hsent)
  · have hget := Table.get?_of_insert? hinsert
    have hkey : Indexed.key (Ride.requestedRide newId createdAt dto) =
        newId := rfl
    rw [hkey] at hget
    have hrequests : next.requests = system.requests ++ [newId] := by
      unfold System.requests
      rw [heq, List.filterMap_append]
      rfl
    have hnew : system.rides.get? newId = none := by
      rw [Table.get?_eq_none_iff]
      intro row hrow hrowKey
      apply (Table.rows_of_insert? hinsert).2 row hrow
      apply Indexed.clash_of_key_eq
      rw [hrowKey, hkey]
    refine ⟨haccounted, ?_, ?_⟩
    · intro request hrequest
      rw [heq] at hrequest ⊢
      rw [List.mem_append, List.mem_singleton] at hrequest
      rcases hrequest with hold | hsent
      · obtain ⟨old, hold, hpickup⟩ := hsettling.pickups request hold
        refine ⟨old, ?_, hpickup⟩
        rw [hget, if_neg]
        · exact hold
        · intro hsame
          rw [hsame, hnew] at hold
          cases hold
      · cases hsent
        refine ⟨Ride.requestedRide newId createdAt dto, ?_, rfl⟩
        have hrequestId : (Ride.requestedEvent now
            (Ride.requestedRide newId createdAt dto)).rideId = newId := rfl
        rw [hget, if_pos hrequestId]
    · intro id ride hride
      have hrow := hride
      rw [heq] at hrow
      simp only [hget] at hrow
      split at hrow
      · cases hrow
        refine .waiting ?_ rfl
        rw [hrequests]
        exact List.mem_append_right _ (List.mem_singleton_self newId)
      · rename_i hother
        have hid : ride.id = id := Table.key_of_get? hrow
        apply (hsettling.stages id ride hrow).keep
        · rw [hrequests, List.mem_append, List.mem_singleton, or_iff_left]
          rw [hid]
          exact hother
        · intro driverId
          rw [heq]
          exact assigned_append_quiet (by simp [Assigns])
        · intro announced _ hsent
          rw [heq]
          exact List.mem_append_left _ hsent

theorem step_rideMatched {position : ℕ} {now : Instant} {hint : Option String}
    {announced : DriverAssigned}
    (hmessage : system.inFlight[position]? =
      some (.ride, .driverAssigned announced))
    (hstep : system.step deployment (.deliver position now hint) = some next) :
    ∃ ride event, system.rides.get? announced.rideId = some ride ∧
      next =
        { system with
          rides := system.rides.update announced.rideId
            (Ride.matchedPatch ⟨announced.rideId, announced.driverId⟩)
          log := system.log ++ [.rideStatusUpdated event]
          inFlight := system.inFlight.eraseIdx position ++
            [(.driver, .rideStatusUpdated event)] } := by
  simp only [System.step, hmessage, handle, Ride.RideService.eachMessage,
    exec_eachMessage, Ride.exec_handleDriverAssigned,
    System.rideWorld] at hstep
  cases hget : system.rides.get? announced.rideId with
  | none => simp [hget, Except.isOk, Except.toBool] at hstep
  | some ride =>
      rw [hget] at hstep
      cases hstep
      exact ⟨ride, _, rfl, rfl⟩

/-- The announced driver has been written into the row of the ride. -/
structure Matched (system : System) (event : Event) (announced : DriverAssigned)
    (next : System) : Prop where
  rows : ∀ id ride, next.rides.get? id = some ride →
    ∃ old, system.rides.get? id = some old ∧ ride.id = old.id ∧
      pickupOf ride = pickupOf old ∧
      (id = announced.rideId → ride.driverId = some announced.driverId) ∧
      (id ≠ announced.rideId → ride = old)
  known : ∀ id, (system.rides.get? id).isSome → (next.rides.get? id).isSome
  assigned : ∀ rideId driverId, Assigned next.log rideId driverId ↔
    Assigned system.log rideId driverId
  requests : ∀ rideId, rideId ∈ next.requests ↔ rideId ∈ system.requests
  kept : ∀ mail ∈ remaining system event, mail ∈ next.inFlight
  waiting : ∀ mail ∈ next.inFlight, mail ∈ system.inFlight ∨
    mail.1 = .driver

theorem matched_of_step {position : ℕ} {now : Instant} {hint : Option String}
    {announced : DriverAssigned}
    (hmessage : system.inFlight[position]? =
      some (.ride, .driverAssigned announced))
    (hstep : system.step deployment (.deliver position now hint) = some next) :
    Matched system (.deliver position now hint) announced next := by
  obtain ⟨found, event, hfound, heq⟩ := step_rideMatched hmessage hstep
  have hremaining : system.inFlight.eraseIdx position =
      remaining system (.deliver position now hint) := rfl
  rw [hremaining] at heq
  subst heq
  constructor
  case rows =>
    intro id ride hride
    simp only [Table.get?_update, Option.map_eq_some_iff] at hride
    obtain ⟨old, hold, hpatched⟩ := hride
    refine ⟨old, hold, ?_⟩
    subst hpatched
    split
    · rename_i hsame
      exact ⟨rfl, rfl, fun _ => rfl, fun hne => (hne hsame).elim⟩
    · rename_i hother
      exact ⟨rfl, rfl, fun hsame => (hother hsame).elim, fun _ => rfl⟩
  case known =>
    intro id hsome
    simpa [Table.get?_update] using hsome
  case assigned =>
    intro rideId driverId
    exact assigned_append_quiet (by simp [Assigns])
  case requests =>
    intro rideId
    unfold System.requests
    simp only [List.filterMap_append, List.filterMap_cons, requestedRide,
      List.filterMap_nil, List.append_nil]
    apply mem_requests_of_quiet
    intro mail hmail
    have htaken : taken system (.deliver position now hint) =
        some (.ride, .driverAssigned announced) := hmessage
    rw [htaken] at hmail
    cases hmail
    rfl
  case kept =>
    intro mail hmail
    exact List.mem_append_left _ hmail
  case waiting =>
    intro mail hmail
    rcases List.mem_append.mp hmail with hold | hnew
    · exact .inl (mem_of_mem_remaining hold)
    · rw [List.mem_singleton.mp hnew]
      exact .inr rfl

/-- The driver in the message is the one the claim found. -/
theorem Settling.rideMatched (hsettling : Settling deployment events system)
    {position : ℕ} {now : Instant} {hint : Option String}
    {announced : DriverAssigned}
    (hmessage : system.inFlight[position]? =
      some (.ride, .driverAssigned announced))
    (hstep : system.step deployment (.deliver position now hint) = some next) :
    Settling deployment (events ++ [.deliver position now hint]) next := by
  have hmatched := matched_of_step hmessage hstep
  have htaken : taken system (.deliver position now hint) =
      some (.ride, .driverAssigned announced) := hmessage
  have hassigned := hsettling.accounted.mailed _
    ((mem_inFlight_iff _).mpr (.inl htaken)) announced.rideId
    announced.driverId ⟨rfl, rfl⟩
  apply hsettling.keep (hsettling.accounted.effect (step_effect hstep))
    hmatched.waiting
  · intro id ride hride
    obtain ⟨old, hold, hid, hpickup, -⟩ := hmatched.rows id ride hride
    exact ⟨old, hold, hid, hpickup⟩
  · exact hmatched.known
  · intro id ride hride
    obtain ⟨old, hold, hid, hpickup, hhere, helsewhere⟩ :=
      hmatched.rows id ride hride
    have hkey : old.id = id := Table.key_of_get? hold
    by_cases hsame : id = announced.rideId
    · rw [← hsame, ← hkey] at hassigned
      exact (hsettling.stages id old hold).matched hassigned
        (fun hrequest =>
          hsettling.accounted.requestedOpen _ hrequest _ hassigned)
        hid hpickup (hhere hsame) (hmatched.requests old.id)
        (hmatched.assigned old.id)
    · have hunchanged := helsewhere hsame
      subst hunchanged
      apply (hsettling.stages id ride hold).keep (hmatched.requests ride.id)
        (hmatched.assigned ride.id)
      intro other hother hsent
      apply hmatched.kept
      apply mem_remaining hsent
      intro htakenOther
      rw [htaken] at htakenOther
      cases htakenOther
      apply hsame
      rw [← hkey, ← hother]

/-- A request has been handled, and the claim found a driver or nobody. -/
structure Answered (system : System) (event : Event) (request : RideRequested)
    (found : Option String) (next : System) : Prop where
  rides : next.rides = system.rides
  assigned : ∀ rideId driverId, Assigned next.log rideId driverId ↔
    Assigned system.log rideId driverId ∨
      request.rideId = rideId ∧ found = some driverId
  kept : ∀ mail ∈ remaining system event, mail ∈ next.inFlight
  requests : next.requests =
    (remaining system event).filterMap requestedRide
  waiting : ∀ other, (.matching, .rideRequested other) ∈ next.inFlight →
    (.matching, .rideRequested other) ∈ remaining system event
  told : ∀ driverId, found = some driverId →
    ∃ sent : DriverAssigned, sent.rideId = request.rideId ∧
      sent.driverId = driverId ∧ (.ride, .driverAssigned sent) ∈ next.inFlight

theorem Answered.nobody {request : RideRequested}
    (hrides : next.rides = system.rides) (hlog : next.log = system.log)
    (hmail : next.inFlight = remaining system event) :
    Answered system event request none next where
  rides := hrides
  assigned rideId driverId := by simp [hlog]
  kept mail hmem := by
    rw [hmail]
    exact hmem
  requests := by rw [System.requests, hmail]
  waiting other hmem := by
    rw [hmail] at hmem
    exact hmem
  told driverId hfound := by cases hfound

theorem Answered.somebody {request : RideRequested} {sent : DriverAssigned}
    (hrides : next.rides = system.rides)
    (hride : sent.rideId = request.rideId)
    (hlog : next.log = system.log ++ [.driverAssigned sent])
    (hmail : next.inFlight = remaining system event ++
      [(.driver, .driverAssigned sent), (.ride, .driverAssigned sent)]) :
    Answered system event request (some sent.driverId) next where
  rides := hrides
  assigned rideId driverId := by
    rw [hlog, assigned_append_iff]
    simp [Assigned, Assigns, hride]
  kept mail hmem := by
    rw [hmail]
    exact List.mem_append_left _ hmem
  requests := by
    rw [System.requests, hmail, List.filterMap_append]
    simp [requestedRide]
  waiting other hmem := by
    rw [hmail] at hmem
    simpa using hmem
  told driverId hfound := by
    rw [Option.some.injEq] at hfound
    refine ⟨sent, hride, hfound, ?_⟩
    rw [hmail]
    simp

theorem step_rideRequested {position : ℕ} {now : Instant}
    {hint : Option String} {request : RideRequested}
    (hmessage : system.inFlight[position]? =
      some (.matching, .rideRequested request))
    (hstep : system.step deployment (.deliver position now hint) = some next) :
    Answered system (.deliver position now hint) request
      (truthy (GeoSet.search deployment.dist system.pool
        (decodeForMatching request).pickup deployment.searchRadiusKm hint))
      next := by
  simp only [System.step, hmessage, handle,
    Matching.MatchingService.eachMessage, exec_eachMessage,
    Matching.MatchingService.onMessage,
    Matching.exec_handleRideRequested] at hstep
  cases hsearch : GeoSet.search deployment.dist system.pool
      (decodeForMatching request).pickup deployment.searchRadiusKm hint with
  | none =>
      simp only [System.matchingWorld, hsearch] at hstep
      cases hstep
      exact .nobody rfl (List.append_nil _) (List.append_nil _)
  | some driverId =>
      simp only [System.matchingWorld, hsearch] at hstep
      cases hstep
      rw [truthy_some]
      by_cases hempty : driverId = ""
      · rw [if_pos hempty]
        refine Answered.nobody ?_ ?_ ?_ <;>
          simp [hempty, System.absorbMatching, System.publish, remaining]
      · rw [if_neg hempty]
        let sent : DriverAssigned :=
          { rideId := request.rideId
            riderId := request.riderId
            driverId := driverId
            timestamp := isoString now }
        have hride : sent.rideId = request.rideId := rfl
        refine Answered.somebody ?_ hride ?_ ?_ <;>
          simp [sent, hempty, System.absorbMatching, System.publish, remaining,
            Matching.assignedRecord, decodeForMatching, mailOf, subscribers]

/-- The ride that waited for its request has what the claim found. -/
theorem Answered.handled {request : RideRequested} {found : Option String}
    {ride : Ride.RideEntity}
    (hanswered : Answered system event request found next)
    (hid : ride.id = request.rideId) (hdriver : ride.driverId = none)
    (hfound : ClaimFound deployment events ride found)
    (hconsumed : request.rideId ∉ next.requests)
    (hopen : ∀ driverId, ¬ Assigned system.log ride.id driverId) :
    Stage deployment events next ride := by
  refine .handled found hfound ?_ ?_ ?_
  · rw [hid]
    exact hconsumed
  · intro driverId
    rw [hanswered.assigned, or_iff_right (hopen driverId)]
    exact and_iff_right hid.symm
  · cases hclaim : found with
    | none => exact .inl hdriver
    | some driverId =>
        obtain ⟨sent, hsentRide, hsentDriver, hsent⟩ :=
          hanswered.told driverId hclaim
        refine .inr ⟨hdriver, sent, ?_, ?_, hsent⟩
        · rw [hsentRide, hid]
        · rw [hsentDriver]

/-- The ride whose request is handled has waited for it, and no other ride is
touched. -/
theorem Settling.rideRequested (hsettling : Settling deployment events system)
    (hrun : run (System.step deployment) System.initial events = some system)
    {position : ℕ} {now : Instant} {hint : Option String}
    {request : RideRequested}
    (hmessage : system.inFlight[position]? =
      some (.matching, .rideRequested request))
    (hstep : system.step deployment (.deliver position now hint) = some next) :
    Settling deployment (events ++ [.deliver position now hint]) next := by
  have haccounted := hsettling.accounted.effect (step_effect hstep)
  have hanswered := step_rideRequested hmessage hstep
  have htaken : taken system (.deliver position now hint) =
      some (.matching, .rideRequested request) := hmessage
  obtain ⟨ride, hride, hpickup⟩ := hsettling.pickups request
    ((mem_inFlight_iff _).mpr (.inl htaken))
  rw [hpickup] at hanswered
  have hrideId : ride.id = request.rideId := Table.key_of_get? hride
  have hperm := requests_perm system (.deliver position now hint)
  rw [htaken, ← hanswered.requests] at hperm
  have honce := hperm.nodup_iff.mp hsettling.accounted.requestedOnce
  have hmem : ∀ rideId, rideId ∈ system.requests ↔
      rideId = request.rideId ∨ rideId ∈ next.requests := by
    intro rideId
    rw [hperm.mem_iff]
    simp [requestedRide]
  refine ⟨haccounted, ?_, ?_⟩
  · intro other hother
    rw [hanswered.rides]
    exact hsettling.pickups other
      (mem_of_mem_remaining (hanswered.waiting other hother))
  · intro id row hrow
    rw [hanswered.rides] at hrow
    have hid : row.id = id := Table.key_of_get? hrow
    by_cases hsame : id = request.rideId
    · rw [hsame, hride, Option.some.injEq] at hrow
      subst hrow
      have hwaited : ride.id ∈ system.requests :=
        (hmem ride.id).mpr (.inl hrideId)
      cases hsettling.stages request.rideId ride hride with
      | handled found _ hconsumed _ _ => exact (hconsumed hwaited).elim
      | waiting _ hdriver =>
          have hfound : ClaimFound deployment
              (events ++ [.deliver position now hint]) ride
              (claimed deployment system.pool ride hint) :=
            ⟨events, position, now, hint, [], system, request, rfl, hrun,
              hmessage, hrideId.symm, rfl⟩
          exact hanswered.handled hrideId hdriver hfound
            (List.nodup_cons.mp honce).1
            (hsettling.accounted.requestedOpen ride.id hwaited)
    · apply (hsettling.stages id row hrow).keep
      · rw [hmem, or_iff_right]
        rw [hid]
        exact hsame
      · intro driverId
        rw [hanswered.assigned, or_iff_left]
        rintro ⟨heq, -⟩
        exact hsame (hid.symm.trans heq.symm)
      · intro announced _ hsent
        apply hanswered.kept
        apply mem_remaining hsent
        intro hother
        rw [htaken] at hother
        cases hother

theorem Settling.step (hsettling : Settling deployment events system)
    (hrun : run (System.step deployment) System.initial events = some system)
    (hstep : system.step deployment event = some next) :
    Settling deployment (events ++ [event]) next := by
  cases event with
  | createDriver newId dto =>
      cases hstep
      exact hsettling.driver (driverStep_serveDriver rfl)
  | updateDriverStatus now id dto =>
      cases hstep
      exact hsettling.driver (driverStep_serveDriver rfl)
  | updateDriverLocation now id dto =>
      cases hstep
      exact hsettling.driver (driverStep_serveDriver rfl)
  | photoUpdated now photo =>
      cases hstep
      exact hsettling.driver (driverStep_serveDriver rfl)
  | requestRide newId createdAt now dto => exact hsettling.requestRide hstep
  | updateRideStatus now id dto => exact hsettling.updateRideStatus hstep
  | deliver position now hint =>
      have hdelivery := hstep
      simp only [System.step] at hdelivery
      cases hmessage : system.inFlight[position]? with
      | none => simp [hmessage] at hdelivery
      | some mail =>
          obtain ⟨service, message⟩ := mail
          simp only [hmessage] at hdelivery
          cases service with
          | driver =>
              simp only [handle, Option.map_eq_some_iff] at hdelivery
              obtain ⟨request, hdecode, hnext⟩ := hdelivery
              subst hnext
              apply hsettling.driver
              apply driverStep_serveDriver
              simpa [driverRequest, hmessage] using hdecode
          | matching =>
              cases message with
              | rideRequested request =>
                  exact hsettling.rideRequested hrun hmessage hstep
              | _ => cases hdelivery
          | ride =>
              cases message with
              | driverAssigned announced =>
                  exact hsettling.rideMatched hmessage hstep
              | _ => cases hdelivery

theorem Settling.initial : Settling deployment [] System.initial := by
  refine ⟨.initial, ?_, ?_⟩
  · intro request hrequest
    cases hrequest
  · intro id ride hride
    cases hride

theorem settling_of_run
    (hrun : run (System.step deployment) System.initial events =
      some system) : Settling deployment events system := by
  induction events using List.reverseRecOn generalizing system with
  | nil =>
      cases hrun
      exact .initial
  | append_singleton events event ih =>
      rw [run_append] at hrun
      obtain ⟨middle, hbefore, hlast⟩ := Option.bind_eq_some_iff.mp hrun
      obtain ⟨next, hstep, hnext⟩ := run_cons_eq_some.mp hlast
      cases hnext
      exact (ih hbefore).step hbefore hstep

theorem Settling.settled (hsettling : Settling deployment events system)
    (hquiet : system.inFlight = []) {id : String} {ride : Ride.RideEntity}
    (hride : system.rides.get? id = some ride) :
    ClaimFound deployment events ride ride.driverId ∧
      ∀ driverId, Assigned system.log id driverId ↔
        ride.driverId = some driverId := by
  have hid : ride.id = id := Table.key_of_get? hride
  cases hsettling.stages id ride hride with
  | waiting hrequest hdriver =>
      rw [System.requests, hquiet] at hrequest
      cases hrequest
  | handled found hfound hconsumed hassigned hdriver =>
      have hrow : ride.driverId = found := by
        rcases hdriver with hrow | ⟨-, announced, -, -, hsent⟩
        · exact hrow
        · rw [hquiet] at hsent
          cases hsent
      rw [hrow, ← hid]
      exact ⟨hfound, hassigned⟩

/-- When everything has been consumed, the request of every ride has been
handled, and the ride has the driver that the claim at its pickup found then:
a nearest one of those in the pool and in range, or nobody. -/
theorem settled_rides_have_claimed_drivers (deployment : Deployment)
    {events : List Event} {last : System}
    (hrun : run (System.step deployment) System.initial events = some last)
    (hquiet : last.inFlight = []) {id : String} {ride : Ride.RideEntity}
    (hride : last.rides.get? id = some ride) :
    ClaimFound deployment events ride ride.driverId ∧
      ∀ driverId, Assigned last.log id driverId ↔
        ride.driverId = some driverId :=
  (settling_of_run hrun).settled hquiet hride

/-- Two rides, and one driver. -/
def twoRides : List Event :=
  goesOnline "d" ++ [requestsRide "r", deliverAt 0, deliverAt 0, deliverAt 0,
    deliverAt 0, requestsRide "s", deliverAt 0]

theorem first_ride_gets_driver :
    ∃ last first second,
      run (System.step flatDeployment) System.initial twoRides = some last ∧
      last.rides.get? "r" = some first ∧ first.driverId = some "d" ∧
      ClaimFound flatDeployment twoRides first first.driverId ∧
      last.rides.get? "s" = some second ∧ second.driverId = none ∧
      ClaimFound flatDeployment twoRides second second.driverId := by
  have hcheck : (run (System.step flatDeployment) System.initial twoRides).any
      (fun last => last.inFlight.isEmpty &&
        (last.rides.get? "r").any (fun ride => ride.driverId == some "d") &&
        (last.rides.get? "s").any (fun ride => ride.driverId == none)) =
      true := by
    decide +kernel
  obtain ⟨last, hrun, hlast⟩ := exists_of_run_any hcheck
  simp only [Bool.and_eq_true, List.isEmpty_iff, Option.any_eq_true,
    beq_iff_eq] at hlast
  obtain ⟨⟨hquiet, first, hfirst, hfound⟩, second, hsecond, hnobody⟩ := hlast
  exact ⟨last, first, second, hrun, hfirst, hfound,
    (settled_rides_have_claimed_drivers flatDeployment hrun hquiet hfirst).1,
    hsecond, hnobody,
    (settled_rides_have_claimed_drivers flatDeployment hrun hquiet hsecond).1⟩

end FakeBolt.Dispatch
