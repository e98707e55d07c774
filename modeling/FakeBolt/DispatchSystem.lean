import FakeBolt.DriverRequests
import FakeBolt.GuardedRun
import FakeBolt.MatchingService
import FakeBolt.RideRequests

/-!
# The three services of the ride lifecycle

driver-service, matching-service and ride-service with their stores, the log
of everything published, and the messages a consumer has not handled yet.  A
step is one HTTP request or one delivery, executed to its end without
failures; deliveries happen in any order, each message once per consumer.
-/

namespace FakeBolt.Dispatch

open Await Geo Kafka Store Transition

inductive Service where
  | driver
  | matching
  | ride
  deriving DecidableEq, Repr

/-- The services among the three that consume a message. -/
def subscribers : Message → List Service
  | .rideRequested _ => [.matching]
  | .driverAssigned _ => [.driver, .ride]
  | .rideStatusUpdated _ => [.driver]
  | .rideCompleted _ => [.driver]
  | .userPhotoUpdated _ => [.driver]
  | .driverStatusUpdated _ => []
  | .driverLocationUpdated _ => []

structure System where
  drivers : Table Driver.DriverEntity
  pool : AvailablePool
  rides : Table Ride.RideEntity
  log : List Message
  inFlight : List (Service × Message)

def System.initial : System := ⟨Table.empty, ∅, Table.empty, [], []⟩

/-- `user.photo.updated` comes from a service outside the system, with any
payload. -/
inductive Event where
  | createDriver (newId : String) (dto : Driver.CreateDriverDto)
  | updateDriverStatus (now : Instant) (id : String)
      (dto : Driver.UpdateStatusDto)
  | updateDriverLocation (now : Instant) (id : String)
      (dto : Driver.UpdateLocationDto)
  | photoUpdated (now : Instant) (event : Driver.UserPhotoUpdatedEvent)
  | requestRide (newId : String) (createdAt now : Instant)
      (dto : Ride.RequestRideDto)
  | updateRideStatus (now : Instant) (id : String) (dto : Ride.UpdateStatusDto)
  | deliver (position : ℕ) (now : Instant) (hint : Option String)

structure Deployment where
  dist : GeoDist
  searchRadiusKm : Num

def mailOf (message : Message) : List (Service × Message) :=
  (subscribers message).map fun service => (service, message)

namespace System

def publish (system : System) (records : List ProducerRecord) : System :=
  { system with
    log := system.log ++ records.map ProducerRecord.message
    inFlight := system.inFlight ++
      (records.map ProducerRecord.message).flatMap mailOf }

def driverWorld (system : System) : Driver.DriverWorld :=
  ⟨system.drivers, system.pool, []⟩

def rideWorld (system : System) : Ride.RideWorld := ⟨system.rides, []⟩

def matchingWorld (system : System) : Matching.MatchingWorld :=
  ⟨system.pool, []⟩

def absorbDriver (system : System) (world : Driver.DriverWorld) : System :=
  { system with drivers := world.drivers, pool := world.pool }.publish
    world.published

def absorbRide (system : System) (world : Ride.RideWorld) : System :=
  { system with rides := world.rides }.publish
    world.published

def absorbMatching (system : System) (world : Matching.MatchingWorld) :
    System :=
  { system with pool := world.pool }.publish
    world.published

def serveDriver (system : System) (request : Driver.Request) : System :=
  system.absorbDriver (request.run system.driverWorld)

def serveRide {α : Type} (system : System) (program : Ride.RideM α) : System :=
  system.absorbRide
    (program.exec Ride.RideWorld.answer system.rideWorld).2

end System

/-- The message as driver-service reads it. -/
def decodeForDriver (now : Instant) : Message → Option Driver.Request
  | .driverAssigned event =>
      some (.message now (.driverAssigned
        { rideId := event.rideId, driverId := event.driverId }))
  | .rideCompleted event =>
      some (.message now (.rideCompleted
        { rideId := event.rideId
          driverId := event.driverId
          status := event.status.value }))
  | .rideStatusUpdated event =>
      some (.message now (.rideStatusUpdated
        { rideId := event.rideId
          driverId := event.driverId
          status := event.status.value }))
  | _ => none

def decodeForMatching (event : RideRequested) :
    Matching.RideRequestedPayload where
  rideId := event.rideId
  riderId := event.riderId
  pickupLat := event.pickupLat
  pickupLng := event.pickupLng

variable (deployment : Deployment)

/-- One delivery; a handler that throws is a failure, and no step. -/
def handle (system : System) (now : Instant) (hint : Option String) :
    Service → Message → Option System
  | .driver, message =>
      (decodeForDriver now message).map system.serveDriver
  | .matching, .rideRequested event =>
      let outcome :=
        (Matching.MatchingService.eachMessage deployment.searchRadiusKm now
          (some (.rideRequested (decodeForMatching event)))).exec
          (Matching.MatchingWorld.answerWith deployment.dist hint)
          system.matchingWorld
      if outcome.1.isOk then some (system.absorbMatching outcome.2) else none
  | .ride, .driverAssigned event =>
      let outcome :=
        (Ride.RideService.eachMessage now
          (some { rideId := event.rideId, driverId := event.driverId })).exec
          Ride.RideWorld.answer system.rideWorld
      if outcome.1.isOk then some (system.absorbRide outcome.2) else none
  | _, _ => none

def System.step (system : System) : Event → Option System
  | .createDriver newId dto =>
      some (system.serveDriver (.createDriver newId dto))
  | .updateDriverStatus now id dto =>
      some (system.serveDriver (.updateStatus now id dto))
  | .updateDriverLocation now id dto =>
      some (system.serveDriver (.updateLocation now id dto))
  | .photoUpdated now event =>
      some (system.serveDriver (.message now (.userPhotoUpdated event)))
  | .requestRide newId createdAt now dto =>
      some (system.serveRide
        (Ride.RideService.requestRide newId createdAt now dto))
  | .updateRideStatus now id dto =>
      some (system.serveRide (Ride.RideService.updateStatus now id dto))
  | .deliver position now hint =>
      match system.inFlight[position]? with
      | none => none
      | some (service, message) =>
          handle deployment
            { system with inFlight := system.inFlight.eraseIdx position }
            now hint service message

/-! ## Driver steps -/

def driverRequest (system : System) : Event → Option Driver.Request
  | .createDriver newId dto => some (.createDriver newId dto)
  | .updateDriverStatus now id dto => some (.updateStatus now id dto)
  | .updateDriverLocation now id dto => some (.updateLocation now id dto)
  | .photoUpdated now event => some (.message now (.userPhotoUpdated event))
  | .deliver position now _ =>
      match system.inFlight[position]? with
      | some (.driver, message) => decodeForDriver now message
      | _ => none
  | _ => none

def System.driverState (system : System) (id : String) : Driver.DriverState :=
  system.driverWorld.state id

/-- The driver that an event changes in driver-service, and how. -/
def driverAction (system : System) (event : Event) :
    Option (String × Driver.DriverAction) :=
  (driverRequest system event).bind fun request =>
    request.action system.driverWorld

theorem mail_of_driverEvents {records : List ProducerRecord}
    (hevents : ∀ record ∈ records, Driver.DriverEvent record) :
    (records.map ProducerRecord.message).flatMap mailOf = [] := by
  rw [List.flatMap_eq_nil_iff]
  intro message hmessage
  obtain ⟨record, hrecord, heq⟩ := List.mem_map.mp hmessage
  subst heq
  rcases hevents record hrecord with ⟨event, heq⟩ | ⟨event, heq⟩ <;>
    simp [heq, mailOf, subscribers]

/-! ## What a step does -/

def taken (system : System) : Event → Option (Service × Message)
  | .deliver position _ _ => system.inFlight[position]?
  | _ => none

def remaining (system : System) : Event → List (Service × Message)
  | .deliver position _ _ => system.inFlight.eraseIdx position
  | _ => system.inFlight

theorem inFlight_perm (system : System) (event : Event) :
    system.inFlight.Perm
      ((taken system event).toList ++ remaining system event) := by
  cases event with
  | deliver position now hint =>
      simp only [taken, remaining]
      cases hmail : system.inFlight[position]? with
      | none =>
          have hlength := List.getElem?_eq_none_iff.mp hmail
          rw [List.eraseIdx_of_length_le hlength]
          simp
      | some mail =>
          obtain ⟨hposition, hget⟩ := List.getElem?_eq_some_iff.mp hmail
          rw [← hget]
          exact (List.getElem_cons_eraseIdx_perm hposition).symm
  | _ => exact List.Perm.refl _

theorem mem_inFlight_iff {system : System} (event : Event)
    {mail : Service × Message} :
    mail ∈ system.inFlight ↔
      taken system event = some mail ∨ mail ∈ remaining system event := by
  rw [(inFlight_perm system event).mem_iff, List.mem_append,
    Option.mem_toList]

theorem mem_remaining {system : System} {event : Event}
    {mail : Service × Message} (hmem : mail ∈ system.inFlight)
    (hother : taken system event ≠ some mail) :
    mail ∈ remaining system event := by
  rcases (mem_inFlight_iff event).mp hmem with hdelivered | hleft
  · exact (hother hdelivered).elim
  · exact hleft

theorem mem_of_mem_remaining {system : System} {event : Event}
    {mail : Service × Message} (hmem : mail ∈ remaining system event) :
    mail ∈ system.inFlight :=
  (mem_inFlight_iff event).mpr (Or.inr hmem)

theorem driverAction_created_offline {system : System} {event : Event}
    {id : String} {driver : Driver.DriverEntity}
    (haction : driverAction system event = some (id, .create driver)) :
    driver.status = .offline := by
  obtain ⟨request, -, hcreate⟩ := Option.bind_eq_some_iff.mp haction
  exact request.created_offline hcreate

/-- A step of driver-service changes the driver it concerns as the driver
machine does, and tells nobody else in the system. -/
structure DriverStep (system : System) (event : Event) (next : System) :
    Prop where
  log : ∃ records : List ProducerRecord,
    (∀ record ∈ records, Driver.DriverEvent record) ∧
      next.log = system.log ++ records.map ProducerRecord.message
  consumed : ∀ mail, taken system event = some mail → mail.1 = .driver
  inFlight : next.inFlight = remaining system event
  rides : next.rides = system.rides
  state : ∀ id, next.driverState id =
    Driver.actOn (driverAction system event) system.driverState id

theorem consumed_of_driverRequest {system : System} {event : Event}
    {request : Driver.Request}
    (hrequest : driverRequest system event = some request) :
    ∀ mail, taken system event = some mail → mail.1 = .driver := by
  intro mail hmail
  cases event with
  | deliver position now hint =>
      simp only [driverRequest] at hrequest
      split at hrequest
      · rename_i message hmessage
        simp only [taken, hmessage, Option.some.injEq] at hmail
        subst mail
        rfl
      · cases hrequest
  | _ => cases hmail

theorem driverStep_serveDriver {system : System} {event : Event}
    {request : Driver.Request}
    (hrequest : driverRequest system event = some request) :
    DriverStep system event
      ({ system with inFlight := remaining system event }.serveDriver
        request) := by
  obtain ⟨records, hpublished, hevents⟩ :=
    request.extends_run system.driverWorld
  have hrecords :
      (request.run system.driverWorld).published = records := by
    rw [hpublished]
    rfl
  have haction :
      driverAction system event = request.action system.driverWorld := by
    simp [driverAction, hrequest]
  constructor
  · refine ⟨records, hevents, ?_⟩
    rw [← hrecords]
    rfl
  · exact consumed_of_driverRequest hrequest
  · have hmail := mail_of_driverEvents hevents
    change remaining system event ++ ((request.run system.driverWorld).published.map
      ProducerRecord.message).flatMap mailOf = remaining system event
    rw [hrecords, hmail, List.append_nil]
  · rfl
  · intro id
    rw [haction]
    exact request.state_run system.driverWorld id

inductive Effect (system : System) (event : Event) : System → Prop where
  | driver {next : System} (hstep : DriverStep system event next) :
      Effect system event next
  /-- The ride is unknown or its id taken, or a claim finds nobody. -/
  | nothing
      (hconsumed : ∀ mail, taken system event = some mail →
        mail.1 = .matching) :
      Effect system event { system with inFlight := remaining system event }
  | requested (ride : Ride.RideEntity) (rides : Table Ride.RideEntity)
      (request : RideRequested) (hevent : taken system event = none)
      (hmail : remaining system event = system.inFlight)
      (hfresh : ride.driverId = none)
      (hid : request.rideId = ride.id)
      (hinsert : system.rides.insert? ride = some rides) :
      Effect system event
        { system with
          rides := rides
          log := system.log ++ [.rideRequested request]
          inFlight := system.inFlight ++
            [(.matching, .rideRequested request)] }
  | updated (now : Instant) (id : String) (dto : Ride.UpdateStatusDto)
      (ride : Ride.RideEntity) (hevent : event = .updateRideStatus now id dto)
      (hget : system.rides.get? id = some ride) :
      Effect system event
        { system with
          rides := system.rides.update id (Ride.statusPatch dto)
          log := system.log ++ [Ride.updateMessage now id ride dto]
          inFlight := system.inFlight ++
            [(.driver, Ride.updateMessage now id ride dto)] }
  /-- A member without an id is removed and not announced. -/
  | discarded (hmember : (system.pool.lookup "").isSome)
      (hconsumed : ∀ mail, taken system event = some mail →
        mail.1 = .matching) :
      Effect system event
        { system with
          pool := system.pool.zrem ""
          inFlight := remaining system event }
  | assigned (request : RideRequested) (announced : DriverAssigned)
      (hmessage : taken system event =
        some (.matching, .rideRequested request))
      (hride : announced.rideId = request.rideId)
      (hdriver : announced.driverId ≠ "")
      (hmember : (system.pool.lookup announced.driverId).isSome) :
      Effect system event
        { system with
          pool := system.pool.zrem announced.driverId
          log := system.log ++ [.driverAssigned announced]
          inFlight := remaining system event ++
            [(.driver, .driverAssigned announced),
              (.ride, .driverAssigned announced)] }
  | matched (now : Instant) (announced : DriverAssigned)
      (ride : Ride.RideEntity)
      (hmessage : taken system event =
        some (.ride, .driverAssigned announced))
      (hget : system.rides.get? announced.rideId = some ride) :
      Effect system event
        { system with
          rides := system.rides.update announced.rideId
            (Ride.matchedPatch ⟨announced.rideId, announced.driverId⟩)
          log := system.log ++ [.rideStatusUpdated
            (Ride.matchedEvent now
              ⟨announced.rideId, announced.driverId⟩ ride)]
          inFlight := remaining system event ++
            [(.driver, .rideStatusUpdated
              (Ride.matchedEvent now
                ⟨announced.rideId, announced.driverId⟩ ride))] }

theorem publish_nil (system : System) : system.publish [] = system := by
  simp [System.publish]

theorem effect_requestRide (system : System) (newId : String)
    (createdAt now : Instant) (dto : Ride.RequestRideDto) :
    Effect system (.requestRide newId createdAt now dto)
      (system.serveRide
        (Ride.RideService.requestRide newId createdAt now dto)) := by
  unfold System.serveRide
  have hrides : system.rideWorld.rides = system.rides := rfl
  rw [Ride.exec_requestRide, hrides]
  cases hinsert : system.rides.insert?
      (Ride.requestedRide newId createdAt dto) with
  | none =>
      have hsame : system.absorbRide system.rideWorld = system :=
        publish_nil system
      simp only [hsame]
      exact Effect.nothing (by simp [taken])
  | some rides => exact Effect.requested _ _ _ rfl rfl rfl rfl hinsert

theorem effect_updateRideStatus (system : System) (now : Instant)
    (id : String) (dto : Ride.UpdateStatusDto) :
    Effect system (.updateRideStatus now id dto)
      (system.serveRide (Ride.RideService.updateStatus now id dto)) := by
  unfold System.serveRide
  have hrides : system.rideWorld.rides = system.rides := rfl
  rw [Ride.exec_updateStatus, hrides]
  cases hget : system.rides.get? id with
  | none =>
      have hsame : system.absorbRide system.rideWorld = system :=
        publish_nil system
      simp only [hsame]
      exact Effect.nothing (by simp [taken])
  | some ride =>
      have hmail : mailOf (Ride.updateMessage now id ride dto) =
          [(.driver, Ride.updateMessage now id ride dto)] := by
        unfold Ride.updateMessage
        split <;> rfl
      have heffect : Effect system (.updateRideStatus now id dto) _ :=
        Effect.updated now id dto ride rfl hget
      rw [← hmail] at heffect
      simpa [System.absorbRide, System.publish, System.rideWorld, Ride.recordOf]
        using heffect

theorem effect_rideRequested {deployment : Deployment} {system next : System}
    {position : ℕ} {now : Instant} {hint : Option String}
    {request : RideRequested}
    (hmessage : system.inFlight[position]? =
      some (.matching, .rideRequested request))
    (hstep : handle deployment
      { system with inFlight := system.inFlight.eraseIdx position }
      now hint .matching (.rideRequested request) = some next) :
    Effect system (.deliver position now hint) next := by
  have hconsumed : ∀ mail,
      taken system (.deliver position now hint) = some mail →
        mail.1 = .matching := by
    intro mail hmail
    simp only [taken, hmessage, Option.some.injEq] at hmail
    subst mail
    rfl
  simp only [handle, Matching.MatchingService.eachMessage, exec_eachMessage,
    Matching.MatchingService.onMessage,
    Matching.exec_handleRideRequested] at hstep
  cases hsearch : GeoSet.search deployment.dist system.pool
      (decodeForMatching request).pickup deployment.searchRadiusKm hint with
  | none =>
      simp only [System.matchingWorld, hsearch] at hstep
      cases hstep
      change Effect _ _ (System.publish _ [])
      rw [publish_nil]
      exact Effect.nothing hconsumed
  | some driverId =>
      simp only [System.matchingWorld, hsearch] at hstep
      obtain ⟨location, hlookup, -⟩ := GeoSet.within_of_search hsearch
      have hmember : (system.pool.lookup driverId).isSome := by
        rw [Option.isSome_iff_exists]
        exact ⟨location, hlookup⟩
      cases hstep
      by_cases hempty : driverId = ""
      · subst driverId
        change Effect _ _ (System.publish _ [])
        rw [publish_nil]
        exact Effect.discarded hmember hconsumed
      · have heffect : Effect system (.deliver position now hint) _ :=
          Effect.assigned request
            { rideId := request.rideId
              riderId := request.riderId
              driverId := driverId
              timestamp := isoString now }
            hmessage rfl hempty hmember
        simpa [System.absorbMatching, System.publish, System.matchingWorld,
          hempty, Matching.assignedRecord, decodeForMatching, mailOf,
          subscribers, remaining]
          using heffect

theorem effect_rideMatched {deployment : Deployment} {system next : System}
    {position : ℕ} {now : Instant} {hint : Option String}
    {announced : DriverAssigned}
    (hmessage : system.inFlight[position]? =
      some (.ride, .driverAssigned announced))
    (hstep : handle deployment
      { system with inFlight := system.inFlight.eraseIdx position }
      now hint .ride (.driverAssigned announced) = some next) :
    Effect system (.deliver position now hint) next := by
  simp only [handle, Ride.RideService.eachMessage, exec_eachMessage,
    Ride.exec_handleDriverAssigned, System.rideWorld] at hstep
  cases hget : system.rides.get? announced.rideId with
  | none => simp [hget, Except.isOk, Except.toBool] at hstep
  | some ride =>
      rw [hget] at hstep
      cases hstep
      exact Effect.matched now announced ride hmessage hget

theorem step_driverRequest (deployment : Deployment) {system : System}
    {event : Event} {request : Driver.Request}
    (hrequest : driverRequest system event = some request) :
    system.step deployment event =
      some ({ system with inFlight := remaining system event }.serveDriver
        request) := by
  cases event with
  | createDriver newId dto =>
      cases hrequest
      rfl
  | updateDriverStatus now id dto =>
      cases hrequest
      rfl
  | updateDriverLocation now id dto =>
      cases hrequest
      rfl
  | photoUpdated now photo =>
      cases hrequest
      rfl
  | requestRide newId createdAt now dto => cases hrequest
  | updateRideStatus now id dto => cases hrequest
  | deliver position now hint =>
      simp only [driverRequest] at hrequest
      split at hrequest
      · rename_i message hmessage
        simp [System.step, hmessage, handle, hrequest, remaining]
      · cases hrequest

theorem step_effect {deployment : Deployment} {system next : System}
    {event : Event} (hstep : system.step deployment event = some next) :
    Effect system event next := by
  cases event with
  | createDriver newId dto =>
      cases hstep
      exact Effect.driver (driverStep_serveDriver rfl)
  | updateDriverStatus now id dto =>
      cases hstep
      exact Effect.driver (driverStep_serveDriver rfl)
  | updateDriverLocation now id dto =>
      cases hstep
      exact Effect.driver (driverStep_serveDriver rfl)
  | photoUpdated now photo =>
      cases hstep
      exact Effect.driver (driverStep_serveDriver rfl)
  | requestRide newId createdAt now dto =>
      cases hstep
      exact effect_requestRide system newId createdAt now dto
  | updateRideStatus now id dto =>
      cases hstep
      exact effect_updateRideStatus system now id dto
  | deliver position now hint =>
      simp only [System.step] at hstep
      cases hmessage : system.inFlight[position]? with
      | none => simp [hmessage] at hstep
      | some mail =>
          obtain ⟨service, message⟩ := mail
          simp only [hmessage] at hstep
          cases service with
          | driver =>
              simp only [handle, Option.map_eq_some_iff] at hstep
              obtain ⟨request, hdecode, hnext⟩ := hstep
              subst hnext
              apply Effect.driver
              apply driverStep_serveDriver
              simpa [driverRequest, hmessage] using hdecode
          | matching =>
              cases message with
              | rideRequested request =>
                  exact effect_rideRequested hmessage hstep
              | _ => cases hstep
          | ride =>
              cases message with
              | driverAssigned announced =>
                  exact effect_rideMatched hmessage hstep
              | _ => cases hstep

/-! ## What messages say -/

def Ends (message : Message) (rideId : String) : Prop :=
  match message with
  | .rideCompleted event => event.rideId = rideId
  | .rideStatusUpdated event =>
      event.rideId = rideId ∧ event.status = .cancelled
  | _ => False

def Assigns (message : Message) (rideId driverId : String) : Prop :=
  match message with
  | .driverAssigned event =>
      event.rideId = rideId ∧ event.driverId = driverId
  | _ => False

instance (message : Message) (rideId : String) :
    Decidable (Ends message rideId) := by
  unfold Ends
  split <;> infer_instance

instance (message : Message) (rideId driverId : String) :
    Decidable (Assigns message rideId driverId) := by
  unfold Assigns
  split <;> infer_instance

theorem driverEvent_not_assigns {record : ProducerRecord}
    (hevent : Driver.DriverEvent record) (rideId driverId : String) :
    ¬ Assigns record.message rideId driverId := by
  rcases hevent with ⟨event, heq⟩ | ⟨event, heq⟩ <;> simp [heq, Assigns]

theorem updateMessage_not_assigns (now : Instant) (id : String)
    (ride : Ride.RideEntity) (dto : Ride.UpdateStatusDto)
    (rideId driverId : String) :
    ¬ Assigns (Ride.updateMessage now id ride dto) rideId driverId := by
  unfold Ride.updateMessage
  split <;> simp [Assigns]

/-! ## Runs to evaluate -/

def flatDeployment : Deployment where
  dist := fun p q =>
    |p.longitude - q.longitude| + |p.latitude - q.latitude|
  searchRadiusKm := 5

def goesOnline (driverId : String) : List Event :=
  [.createDriver driverId
      { userId := driverId, name := "name", email := driverId
        lat := some 0, lng := some 0 },
    .photoUpdated 0 { userId := driverId, role := "driver", hasPhoto := true },
    .updateDriverStatus 0 driverId { status := .available }]

def requestsRide (rideId : String) : Event :=
  .requestRide rideId 0 0
    { riderId := "rider"
      pickupLat := 0, pickupLng := 0
      destinationLat := 1, destinationLng := 1 }

def deliverAt (position : ℕ) : Event := .deliver position 0 none

end FakeBolt.Dispatch
