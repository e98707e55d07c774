import FakeBolt.DispatchSystem
import FakeBolt.DriverSpellings
import FakeBolt.RideIds

/-!
# The ride lifecycle with ids in any spelling

A step of the system in which Postgres reads the ids is a step of the system
of `DispatchSystem` once every message is read with its ids as Postgres prints
them, as long as the requests that write the pool give the ids of drivers that
way.
-/

namespace FakeBolt.Dispatch

open Audience Await Geo Kafka Store Transition

variable (uuid : UuidType)

/-! ## Steps -/

namespace System

def serveDriverUuid (system : System) (request : Driver.Request) : System :=
  system.absorbDriver (request.runUuid uuid system.driverWorld)

def serveRideUuid {α : Type} (system : System) (program : Ride.RideM α) :
    System :=
  system.absorbRide (program.exec (answerCall uuid) system.rideWorld).2

end System

/-- `handle` with ids that Postgres reads. -/
def handleUuid (deployment : Deployment) (system : System) (now : Instant)
    (hint : Option String) : Service → Message → Option System
  | .driver, message =>
      (decodeForDriver now message).bind fun request =>
        let outcome := request.program.exec
          (Driver.DriverWorld.answerUuid uuid) system.driverWorld
        if outcome.1.isOk then some (system.absorbDriver outcome.2) else none
  | .ride, .driverAssigned event =>
      let outcome :=
        (Ride.RideService.eachMessage now
          (some { rideId := event.rideId, driverId := event.driverId })).exec
          (answerCall uuid) system.rideWorld
      if outcome.1.isOk then some (system.absorbRide outcome.2) else none
  | .ride, _ => none
  | .matching, message => handle deployment system now hint .matching message

/-- `System.step` with ids that Postgres reads. -/
def System.stepUuid (deployment : Deployment) (system : System) :
    Event → Option System
  | .createDriver newId dto =>
      some (system.serveDriverUuid uuid (.createDriver newId dto))
  | .updateDriverStatus now id dto =>
      some (system.serveDriverUuid uuid (.updateStatus now id dto))
  | .updateDriverLocation now id dto =>
      some (system.serveDriverUuid uuid (.updateLocation now id dto))
  | .photoUpdated now event =>
      some (system.serveDriverUuid uuid
        (.message now (.userPhotoUpdated event)))
  | .requestRide newId createdAt now dto =>
      some (system.serveRideUuid uuid
        (Ride.RideService.requestRide newId createdAt now dto))
  | .updateRideStatus now id dto =>
      some (system.serveRideUuid uuid
        (Ride.RideService.updateStatus now id dto))
  | .deliver position now hint =>
      match system.inFlight[position]? with
      | none => none
      | some (service, message) =>
          handleUuid uuid deployment
            { system with inFlight := system.inFlight.eraseIdx position }
            now hint service message

/-- The request of the step, if it writes the pool, names its driver as the
row prints the id. -/
def Event.NamesRow (system : System) (event : Event) : Prop :=
  ∀ request ∈ driverRequest system event,
    request.NamesRow uuid system.driverWorld

instance (system : System) (event : Event) :
    Decidable (event.NamesRow uuid system) := by
  unfold Event.NamesRow
  infer_instance

/-! ## Messages with their ids as Postgres prints them -/

def printedMessage : Message → Message
  | .rideRequested event =>
      .rideRequested { event with rideId := uuid.printed event.rideId }
  | .driverAssigned event =>
      .driverAssigned { event with
        rideId := uuid.printed event.rideId
        driverId := uuid.printed event.driverId }
  | .rideStatusUpdated event =>
      .rideStatusUpdated { event with
        rideId := uuid.printed event.rideId
        driverId := event.driverId.map uuid.printed }
  | .rideCompleted event =>
      .rideCompleted { event with
        rideId := uuid.printed event.rideId
        driverId := event.driverId.map uuid.printed }
  | message => message

def printedMail (mail : Service × Message) : Service × Message :=
  (mail.1, printedMessage uuid mail.2)

def System.printed (system : System) : System :=
  { system with
    log := system.log.map (printedMessage uuid)
    inFlight := system.inFlight.map (printedMail uuid) }

def Event.printed : Event → Event
  | .createDriver newId dto => .createDriver (uuid.printed newId) dto
  | .updateDriverStatus now id dto =>
      .updateDriverStatus now (uuid.printed id) dto
  | .updateDriverLocation now id dto =>
      .updateDriverLocation now (uuid.printed id) dto
  | .updateRideStatus now id dto => .updateRideStatus now (uuid.printed id) dto
  | event => event

/-- The tables hold what Postgres prints, and so does the pool. -/
structure Sound (system : System) : Prop where
  drivers : system.driverWorld.Stored uuid
  rides : ∀ key ride, system.rides.get? key = some ride → uuid.Stored ride
  pool : ∀ member ∈ system.pool, uuid.input member = some member

variable {uuid} {deployment : Deployment} {system next : System}
  {event : Event}

theorem taken_printed (system : System) (event : Event) :
    taken (system.printed uuid) (event.printed uuid) =
      (taken system event).map (printedMail uuid) := by
  cases event <;> simp [taken, Event.printed, System.printed]

theorem remaining_printed (system : System) (event : Event) :
    remaining (system.printed uuid) (event.printed uuid) =
      (remaining system event).map (printedMail uuid) := by
  cases event <;>
    simp [remaining, Event.printed, System.printed, List.eraseIdx_map]

theorem printedMessage_of_driverEvent {record : ProducerRecord}
    (hevent : Driver.DriverEvent record) :
    printedMessage uuid record.message = record.message := by
  rcases hevent with ⟨event, heq⟩ | ⟨event, heq⟩ <;> rw [heq] <;> rfl

theorem map_printed_of_driverEvents {records : List ProducerRecord}
    (hevents : ∀ record ∈ records, Driver.DriverEvent record) :
    (records.map ProducerRecord.message).map (printedMessage uuid) =
      records.map ProducerRecord.message := by
  rw [List.map_map]
  apply List.map_congr_left
  intro record hrecord
  exact printedMessage_of_driverEvent (hevents record hrecord)

theorem Sound.zrem (hsound : Sound uuid system) (member : String) :
    Sound uuid { system with pool := system.pool.zrem member } := by
  refine ⟨hsound.drivers, hsound.rides, ?_⟩
  intro other hother
  exact hsound.pool other (Finmap.mem_erase.mp hother).2

/-! ## Requests to driver-service -/

theorem action_decode_printed (now : Instant) (message : Message)
    (world : Driver.DriverWorld) {request : Driver.Request}
    (hdecode : decodeForDriver now message = some request) :
    (decodeForDriver now (printedMessage uuid message)).bind
        (fun decoded => decoded.action world) =
      request.actionUuid uuid world := by
  cases message with
  | driverAssigned event =>
      cases hdecode
      rfl
  | rideCompleted event =>
      cases hdecode
      rfl
  | rideStatusUpdated event =>
      cases hdecode
      rfl
  | _ => cases hdecode

theorem driverAction_printed {request : Driver.Request}
    (hrequest : driverRequest system event = some request)
    (hcreate : ∀ newId dto, request = .createDriver newId dto →
      (uuid.input newId).isSome) :
    driverAction (system.printed uuid) (event.printed uuid) =
      request.actionUuid uuid system.driverWorld := by
  cases event with
  | createDriver newId dto =>
      cases hrequest
      obtain ⟨key, hinput⟩ :=
        Option.isSome_iff_exists.mp (hcreate newId dto rfl)
      simp only [driverAction, Event.printed, driverRequest, Option.bind_some,
        Driver.Request.actionUuid, UuidType.printed_of_input hinput, hinput]
      rfl
  | updateDriverStatus now id dto =>
      cases hrequest
      rfl
  | updateDriverLocation now id dto =>
      cases hrequest
      rfl
  | photoUpdated now photo =>
      cases hrequest
      rfl
  | requestRide newId createdAt now dto => cases hrequest
  | updateRideStatus now id dto => cases hrequest
  | deliver position now hint =>
      simp only [driverRequest] at hrequest
      split at hrequest
      · rename_i message hmessage
        rw [← action_decode_printed now message system.driverWorld hrequest]
        simp only [driverAction, Event.printed, driverRequest, System.printed,
          List.getElem?_map, hmessage, Option.map_some, printedMail]
        rfl
      · cases hrequest

theorem delivery_creates_none {position : ℕ} {now : Instant}
    {hint : Option String} (newId : String) (dto : Driver.CreateDriverDto) :
    driverRequest system (.deliver position now hint) ≠
      some (.createDriver newId dto) := by
  simp only [driverRequest]
  split
  · rename_i message _
    cases message <;> simp [decodeForDriver]
  · simp

/-- The generated id is no uuid, and nothing is stored. -/
theorem createUnread_effect {newId : String} {dto : Driver.CreateDriverDto}
    (hrequest : driverRequest system event = some (.createDriver newId dto))
    (hunread : uuid.input newId = none) :
    Effect (system.printed uuid) (event.printed uuid)
      (({ system with
        inFlight := remaining system event }.serveDriverUuid uuid
          (.createDriver newId dto)).printed uuid) := by
  have hworld : (Driver.Request.createDriver newId dto).runUuid uuid
      system.driverWorld = system.driverWorld := by
    rw [Driver.runUuid_createDriver, hunread]
  have hserved : ({ system with
      inFlight := remaining system event }.serveDriverUuid uuid
        (.createDriver newId dto)).printed uuid = { system.printed uuid with
          inFlight := remaining (system.printed uuid) (event.printed uuid) } := by
    rw [remaining_printed]
    change System.printed uuid (System.absorbDriver { system with
      inFlight := remaining system event } ((Driver.Request.createDriver
        newId dto).runUuid uuid system.driverWorld)) = _
    rw [hworld]
    simp [System.absorbDriver, System.publish, System.driverWorld,
      System.printed]
  rw [hserved]
  apply Effect.nothing
  intro mail hmail
  cases event with
  | createDriver newId dto => cases hmail
  | deliver position now hint =>
      exact absurd hrequest (delivery_creates_none newId dto)
  | _ => cases hrequest

/-- A step of driver-service whose request names the row. -/
theorem serveDriverUuid_effect (hsound : Sound uuid system)
    {request : Driver.Request}
    (hrequest : driverRequest system event = some request)
    (hnames : request.NamesRow uuid system.driverWorld) :
    let served := { system with
      inFlight := remaining system event }.serveDriverUuid uuid request
    Effect (system.printed uuid) (event.printed uuid) (served.printed uuid) ∧
      Sound uuid served := by
  intro served
  have hsoundServed : Sound uuid served :=
    ⟨hsound.drivers.runUuid request, hsound.rides,
      Driver.Request.pool_runUuid hsound.drivers hnames hsound.pool⟩
  refine ⟨?_, hsoundServed⟩
  obtain ⟨records, hpublished, hevents⟩ :=
    Driver.Request.extends_runUuid request hsound.drivers
  have hrecords :
      (request.runUuid uuid system.driverWorld).published = records := hpublished
  by_cases hcreate : ∀ newId dto, request = .createDriver newId dto →
      (uuid.input newId).isSome
  · apply Effect.driver
    constructor
    · refine ⟨records, hevents, ?_⟩
      change (system.log ++ ((request.runUuid uuid
        system.driverWorld).published.map ProducerRecord.message)).map
          (printedMessage uuid) = _
      rw [hrecords, List.map_append, map_printed_of_driverEvents hevents]
      rfl
    · intro mail hmail
      rw [taken_printed] at hmail
      obtain ⟨before, hbefore, heq⟩ := Option.map_eq_some_iff.mp hmail
      rw [← heq]
      exact consumed_of_driverRequest hrequest before hbefore
    · rw [remaining_printed]
      have hmail := mail_of_driverEvents hevents
      change (remaining system event ++ ((request.runUuid uuid
        system.driverWorld).published.map ProducerRecord.message).flatMap
          mailOf).map (printedMail uuid) = _
      rw [hrecords, hmail, List.append_nil]
    · rfl
    · intro id
      rw [driverAction_printed hrequest hcreate]
      exact Driver.Request.state_runUuid hsound.drivers hnames id
  · simp only [not_forall] at hcreate
    obtain ⟨newId, dto, hsame, hunread⟩ := hcreate
    subst hsame
    exact createUnread_effect hrequest (Option.not_isSome_iff_eq_none.mp hunread)

/-! ## ride-service and matching-service -/

theorem absorbRide_self (system : System) :
    system.absorbRide system.rideWorld = system :=
  publish_nil system

theorem fresh_row {newId : String} {createdAt : Instant}
    {dto : Ride.RequestRideDto} {stored : Ride.RideEntity}
    (hrow : uuid.row (Ride.requestedRide newId createdAt dto) = some stored) :
    stored.driverId = none := by
  unfold UuidType.row at hrow
  obtain ⟨id, -, hrow⟩ := Option.bind_eq_some_iff.mp hrow
  obtain ⟨riderId, -, hrow⟩ := Option.bind_eq_some_iff.mp hrow
  obtain ⟨driverId, hdriverId, hrow⟩ := Option.bind_eq_some_iff.mp hrow
  cases hdriverId
  cases hrow
  rfl

theorem requestRideUuid_effect (hsound : Sound uuid system) (newId : String)
    (createdAt now : Instant) (dto : Ride.RequestRideDto) :
    let served := system.serveRideUuid uuid
      (Ride.RideService.requestRide newId createdAt now dto)
    Effect (system.printed uuid) (.requestRide newId createdAt now dto)
        (served.printed uuid) ∧
      Sound uuid served := by
  simp only [System.serveRideUuid, Ride.exec_requestRide_uuid]
  cases hinsert : (uuid.row (Ride.requestedRide newId createdAt dto)).bind
      system.rideWorld.rides.insert? with
  | none =>
      simp only [absorbRide_self]
      exact ⟨Effect.nothing (by simp [taken]), hsound⟩
  | some rides =>
      obtain ⟨stored, hrow, hinsert⟩ := Option.bind_eq_some_iff.mp hinsert
      obtain ⟨hstored, hid, -⟩ := UuidType.stored_row hrow
      constructor
      · have heffect : Effect (system.printed uuid)
            (.requestRide newId createdAt now dto) _ :=
          Effect.requested stored rides
            { Ride.requestedEvent now (Ride.requestedRide newId createdAt dto)
              with rideId := uuid.printed newId }
            rfl rfl (fresh_row hrow) (UuidType.printed_of_input hid) hinsert
        simpa [System.printed, System.absorbRide, System.publish,
          System.rideWorld, Ride.recordOf, printedMessage, printedMail, mailOf,
          subscribers, Ride.requestedEvent, Ride.requestedRide] using heffect
      · refine ⟨hsound.drivers, ?_, hsound.pool⟩
        intro key ride hride
        have hget : rides.get? key = some ride := hride
        rw [Table.get?_of_insert? hinsert] at hget
        split at hget
        · cases hget
          exact hstored
        · exact hsound.rides key ride hget

theorem sound_update (hsound : Sound uuid system) {key : String}
    {given stored : Ride.RidePatch} (hpatch : uuid.patch given = some stored)
    (hrides : next.rides = system.rides.update key stored)
    (hdrivers : next.drivers = system.drivers)
    (hpool : next.pool = system.pool) : Sound uuid next := by
  constructor
  · have hkept := hsound.drivers
    unfold System.driverWorld Driver.DriverWorld.Stored at hkept ⊢
    rw [hdrivers]
    exact hkept
  · intro other ride hride
    rw [hrides, Table.get?_update] at hride
    obtain ⟨before, hbefore, hafter⟩ := Option.map_eq_some_iff.mp hride
    have hstored := hsound.rides other before hbefore
    rw [← hafter]
    split
    · exact UuidType.stored_patch hstored hpatch
    · exact hstored
  · rw [hpool]
    exact hsound.pool

theorem map_printed_of_stored {ride : Ride.RideEntity}
    (hstored : uuid.Stored ride) :
    ride.driverId.map uuid.printed = ride.driverId := by
  cases hdriver : ride.driverId with
  | none => rfl
  | some driverId =>
      rw [Option.map_some,
        UuidType.printed_of_input (hstored.driverId driverId hdriver)]

theorem printed_updateMessage (now : Instant) (id : String)
    {ride : Ride.RideEntity} (hstored : uuid.Stored ride)
    (dto : Ride.UpdateStatusDto) :
    printedMessage uuid (Ride.updateMessage now id ride dto) =
      Ride.updateMessage now (uuid.printed id) ride dto := by
  unfold Ride.updateMessage
  split <;>
    simp [printedMessage, Ride.RideService.rideUpdated,
      map_printed_of_stored hstored]

theorem updateRideStatusUuid_effect (hsound : Sound uuid system)
    (now : Instant) (id : String) (dto : Ride.UpdateStatusDto) :
    let served := system.serveRideUuid uuid
      (Ride.RideService.updateStatus now id dto)
    Effect (system.printed uuid) (.updateRideStatus now (uuid.printed id) dto)
        (served.printed uuid) ∧
      Sound uuid served := by
  simp only [System.serveRideUuid, Ride.exec_updateStatus_uuid]
  cases hnamed : (uuid.input id).bind system.rideWorld.rides.get? with
  | none =>
      simp only [absorbRide_self]
      exact ⟨Effect.nothing (by simp [taken]), hsound⟩
  | some ride =>
      obtain ⟨key, hinput, hget⟩ := Option.bind_eq_some_iff.mp hnamed
      have hkey : ride.id = key := Table.key_of_get? hget
      have hid : uuid.printed id = ride.id := by
        rw [UuidType.printed_of_input hinput, hkey]
      have hstored : uuid.Stored ride := hsound.rides key ride hget
      constructor
      · have heffect : Effect (system.printed uuid)
            (.updateRideStatus now (uuid.printed id) dto) _ :=
          Effect.updated now (uuid.printed id) dto ride rfl
            (by rw [hid, hkey]; exact hget)
        have hmail : mailOf (Ride.updateMessage now id ride dto) =
            [(.driver, Ride.updateMessage now id ride dto)] := by
          unfold Ride.updateMessage
          split <;> rfl
        simpa [System.printed, System.absorbRide, System.publish,
          System.rideWorld, Ride.recordOf, hmail, printedMail,
          printed_updateMessage now id hstored dto, hid] using heffect
      · have hpatch : uuid.patch (Ride.statusPatch dto) =
            some (Ride.statusPatch dto) := rfl
        exact sound_update hsound hpatch rfl rfl rfl

theorem rideRequestedUuid_effect (hsound : Sound uuid system)
    {position : ℕ} {now : Instant} {hint : Option String}
    {request : RideRequested}
    (hmessage : system.inFlight[position]? =
      some (.matching, .rideRequested request))
    (hstep : handle deployment
      { system with inFlight := system.inFlight.eraseIdx position }
      now hint .matching (.rideRequested request) = some next) :
    Effect (system.printed uuid) (.deliver position now hint)
        (next.printed uuid) ∧
      Sound uuid next := by
  have htaken : taken (system.printed uuid) (.deliver position now hint) =
      some (.matching, printedMessage uuid (.rideRequested request)) := by
    simp [taken, System.printed, hmessage, printedMail]
  have hconsumed : ∀ mail,
      taken (system.printed uuid) (.deliver position now hint) = some mail →
        mail.1 = .matching := by
    intro mail hmail
    rw [htaken, Option.some.injEq] at hmail
    subst mail
    rfl
  simp only [handle, Matching.MatchingService.eachMessage, exec_eachMessage,
    Matching.MatchingService.onMessage,
    Matching.exec_handleRideRequested] at hstep
  cases hsearch : GeoSet.search deployment.dist system.pool
      (decodeForMatching request).pickup deployment.searchRadiusKm hint with
  | none =>
      simp only [System.matchingWorld, hsearch] at hstep
      cases hstep
      refine ⟨?_, hsound.drivers, hsound.rides, hsound.pool⟩
      have heffect : Effect (system.printed uuid) (.deliver position now hint)
          _ := Effect.nothing hconsumed
      simpa [System.absorbMatching, System.publish, System.printed, remaining,
        List.eraseIdx_map] using heffect
  | some driverId =>
      simp only [System.matchingWorld, hsearch] at hstep
      obtain ⟨location, hlookup, -⟩ := GeoSet.within_of_search hsearch
      have hmember : (system.pool.lookup driverId).isSome := by
        rw [Option.isSome_iff_exists]
        exact ⟨location, hlookup⟩
      have hinput : uuid.input driverId = some driverId :=
        hsound.pool driverId (Finmap.lookup_isSome.mp hmember)
      cases hstep
      refine ⟨?_, hsound.drivers, hsound.rides, (hsound.zrem driverId).pool⟩
      have heffect : Effect (system.printed uuid) (.deliver position now hint)
          _ := Effect.assigned
        { request with rideId := uuid.printed request.rideId }
        { rideId := uuid.printed request.rideId
          riderId := request.riderId
          driverId := driverId
          timestamp := isoString now }
        htaken rfl (UuidType.ne_empty hinput) hmember
      simpa [System.absorbMatching, System.publish, System.printed,
        UuidType.ne_empty hinput, Matching.assignedRecord, decodeForMatching,
        mailOf, subscribers, remaining, List.eraseIdx_map, printedMessage,
        printedMail, UuidType.printed_of_input hinput] using heffect

theorem rideMatchedUuid_effect (hsound : Sound uuid system) {position : ℕ}
    {now : Instant} {hint : Option String} {announced : DriverAssigned}
    (hmessage : system.inFlight[position]? =
      some (.ride, .driverAssigned announced))
    (hstep : handleUuid uuid deployment
      { system with inFlight := system.inFlight.eraseIdx position }
      now hint .ride (.driverAssigned announced) = some next) :
    Effect (system.printed uuid) (.deliver position now hint)
        (next.printed uuid) ∧
      Sound uuid next := by
  simp only [handleUuid, Ride.RideService.eachMessage, exec_eachMessage,
    Option.ite_none_right_eq_some] at hstep
  obtain ⟨hok, hnext⟩ := hstep
  obtain ⟨driverId, ride, hdriver, hride, hget, hworld⟩ :=
    Ride.exec_handleDriverAssigned_uuid hok
  rw [hworld] at hnext
  have hprintedRide : uuid.printed announced.rideId = ride.id :=
    UuidType.printed_of_input hride
  have hprintedDriver : uuid.printed announced.driverId = driverId :=
    UuidType.printed_of_input hdriver
  have htaken : taken (system.printed uuid) (.deliver position now hint) =
      some (.ride, .driverAssigned { announced with
        rideId := ride.id
        driverId := driverId }) := by
    simp [taken, System.printed, hmessage, printedMail, printedMessage,
      hprintedRide, hprintedDriver]
  cases hnext
  constructor
  · have heffect : Effect (system.printed uuid) (.deliver position now hint)
        _ := Effect.matched now _ ride htaken hget
    simpa [System.absorbRide, System.publish, System.rideWorld, System.printed,
      Ride.recordOf, Ride.matchedEvent, mailOf, subscribers, remaining,
      List.eraseIdx_map, printedMessage, printedMail, hprintedRide,
      hprintedDriver] using heffect
  · have hpatch : uuid.patch (Ride.matchedPatch ⟨ride.id,
        announced.driverId⟩) = some (Ride.matchedPatch ⟨ride.id, driverId⟩) := by
      simp [UuidType.patch, UuidType.inputNullable, hdriver, Ride.matchedPatch]
    exact sound_update hsound hpatch rfl rfl rfl

/-! ## Steps of the system -/

theorem stepUuid_effect (hsound : Sound uuid system)
    (hnames : event.NamesRow uuid system)
    (hstep : system.stepUuid uuid deployment event = some next) :
    Effect (system.printed uuid) (event.printed uuid) (next.printed uuid) ∧
      Sound uuid next := by
  cases event with
  | createDriver newId dto =>
      cases hstep
      exact serveDriverUuid_effect hsound rfl (hnames _ rfl)
  | updateDriverStatus now id dto =>
      cases hstep
      exact serveDriverUuid_effect hsound rfl (hnames _ rfl)
  | updateDriverLocation now id dto =>
      cases hstep
      exact serveDriverUuid_effect hsound rfl (hnames _ rfl)
  | photoUpdated now photo =>
      cases hstep
      exact serveDriverUuid_effect hsound rfl (hnames _ rfl)
  | requestRide newId createdAt now dto =>
      cases hstep
      exact requestRideUuid_effect hsound newId createdAt now dto
  | updateRideStatus now id dto =>
      cases hstep
      exact updateRideStatusUuid_effect hsound now id dto
  | deliver position now hint =>
      simp only [System.stepUuid] at hstep
      cases hmessage : system.inFlight[position]? with
      | none => simp [hmessage] at hstep
      | some mail =>
          obtain ⟨service, message⟩ := mail
          simp only [hmessage] at hstep
          cases service with
          | driver =>
              obtain ⟨request, hdecode, hserved⟩ :=
                Option.bind_eq_some_iff.mp hstep
              obtain ⟨-, hnext⟩ := Option.ite_none_right_eq_some.mp hserved
              cases hnext
              have hrequest : driverRequest system
                  (.deliver position now hint) = some request := by
                simpa [driverRequest, hmessage] using hdecode
              exact serveDriverUuid_effect hsound hrequest
                (hnames request hrequest)
          | matching =>
              cases message with
              | rideRequested request =>
                  exact rideRequestedUuid_effect hsound hmessage hstep
              | _ => cases hstep
          | ride =>
              cases message with
              | driverAssigned announced =>
                  exact rideMatchedUuid_effect hsound hmessage hstep
              | _ => cases hstep

theorem Sound.initial : Sound uuid System.initial := by
  constructor
  · intro driver hdriver
    cases hdriver
  · intro key ride hride
    cases hride
  · intro member hmem
    exact absurd hmem Finmap.notMem_empty

end FakeBolt.Dispatch
