import FakeBolt.RideTraffic

/-!
# Ride ids as they are sent

The services hand the ids of a ride on as text, in the spelling that they came
in.  If the requests of the clients give them as Postgres prints them, then so
does every event.
-/

namespace FakeBolt.Audience

open Await Kafka Matching Ride Store Transition
open Dispatch (Deployment decodeForMatching)

variable (uuid : UuidType)

/-! ## Ids as Postgres prints them -/

def PrintedIds (rideId riderId : String) : Prop :=
  uuid.printed rideId = rideId ∧ uuid.printed riderId = riderId

instance (rideId riderId : String) :
    Decidable (PrintedIds uuid rideId riderId) :=
  inferInstanceAs (Decidable (_ ∧ _))

def PrintedMessage : Message → Prop
  | .rideRequested event => PrintedIds uuid event.rideId event.riderId
  | .driverAssigned event => PrintedIds uuid event.rideId event.riderId
  | .rideStatusUpdated event => PrintedIds uuid event.rideId event.riderId
  | .rideCompleted event => PrintedIds uuid event.rideId event.riderId
  | _ => True

/-- The ids in a request of a client are as Postgres prints them.  The id of a
new ride is not the client's: Postgres generates it. -/
def TrafficEvent.AsPrinted : TrafficEvent → Prop
  | .requestRide newId _ _ dto => PrintedIds uuid newId dto.riderId
  | .updateStatus _ id _ => uuid.printed id = id
  | _ => True

instance (event : TrafficEvent) : Decidable (event.AsPrinted uuid) := by
  cases event <;> simp only [TrafficEvent.AsPrinted] <;> infer_instance

/-! ## What the code sends -/

def SendsPrinted : RideCall → Prop
  | .send record => PrintedMessage uuid record.message
  | _ => True

/-- Saving gives back the ride with the texts it was given, and a row is as
Postgres prints it. -/
def RideReply : (call : RideCall) → Except JsError call.Reply → Prop
  | .save ride, .ok saved => saved = ride
  | .findOneById _, .ok (some ride) => uuid.Stored ride
  | _, _ => True

def AnnouncesPrinted : MatchingCall → Prop
  | .send record => PrintedMessage uuid record.message
  | _ => True

/-- Every event that the program of ride-service sends is printed. -/
def Spells {α : Type} (program : RideM α) : Prop :=
  program.Confined (SendsPrinted uuid) (RideReply uuid) fun _ => True

def SpellsMatching (program : MatchingM Unit) : Prop :=
  program.Confined (AnnouncesPrinted uuid) (fun _ _ => True) fun _ => True

section Handlers

variable {uuid}

theorem confined_publish {message : Message} {post : Except JsError Unit → Prop}
    (hmessage : PrintedMessage uuid message) (hpost : ∀ result, post result) :
    (Ride.publish message).Confined (SendsPrinted uuid) (RideReply uuid)
      post := by
  simp only [Ride.publish, Program.confined_tryCatch, Program.confined_call,
    Program.confined_throw]
  refine ⟨hmessage, ?_⟩
  intro reply _
  cases reply <;> exact hpost _

theorem confined_getRide {id : String} {post : Except JsError RideEntity → Prop}
    (hfound : ∀ ride, uuid.Stored ride → post (.ok ride))
    (hfailed : ∀ error, post (.error error)) :
    (RideService.getRide id).Confined (SendsPrinted uuid) (RideReply uuid)
      post := by
  have hhandler : ∀ error : JsError,
      (if error.isInstance .notFound = true then throw error
        else throw (.http .internalServerError "Failed to find ride") :
          RideM RideEntity).Confined (SendsPrinted uuid) (RideReply uuid)
        post := by
    intro error
    split <;> exact hfailed _
  simp only [RideService.getRide, RideRepository.findOneById,
    Program.confined_tryCatch, Program.confined_bind, Program.confined_call]
  refine ⟨trivial, ?_⟩
  intro reply hreply
  cases reply with
  | error error => exact hhandler error
  | ok found =>
      cases found with
      | none => exact hhandler _
      | some ride => exact hfound ride hreply

theorem Spells.requestRide {newId : String} {createdAt now : Instant}
    {dto : RequestRideDto} (hids : PrintedIds uuid newId dto.riderId) :
    Spells uuid (RideService.requestRide newId createdAt now dto) := by
  simp only [Spells, RideService.requestRide, RideRepository.save,
    Program.confined_tryCatch, Program.confined_bind, Program.confined_call]
  refine ⟨trivial, ?_⟩
  intro reply hreply
  cases reply with
  | error error => trivial
  | ok saved =>
      have hsaved : PrintedIds uuid saved.id saved.riderId := by
        rw [hreply]
        exact hids
      apply confined_publish
      · exact hsaved
      · intro result
        cases result <;> trivial

/-- The id is the one of the request, and the rider's that of the row. -/
theorem Spells.updateStatus {now : Instant} {id : String}
    {dto : Ride.UpdateStatusDto} (hid : uuid.printed id = id) :
    Spells uuid (RideService.updateStatus now id dto) := by
  have hrethrow : ∀ error : JsError,
      (if error.isInstance .notFound = true then throw error
        else throw (.http .internalServerError "Failed to update ride status") :
          RideM RideEntity).Confined (SendsPrinted uuid) (RideReply uuid)
        fun _ => True := by
    intro error
    split <;> trivial
  simp only [Spells, RideService.updateStatus, RideRepository.update,
    Program.confined_tryCatch, Program.confined_bind]
  apply confined_getRide
  · intro ride hstored
    have hids : PrintedIds uuid id ride.riderId :=
      ⟨hid, UuidType.printed_of_input hstored.riderId⟩
    simp only [Program.confined_call]
    refine ⟨trivial, ?_⟩
    intro reply _
    cases reply with
    | error error => exact hrethrow error
    | ok updated =>
        apply confined_publish
        · split <;> exact hids
        · intro result
          cases result with
          | ok value => trivial
          | error error => exact hrethrow error
  · exact hrethrow

theorem Spells.handleDriverAssigned {now : Instant}
    {payload : DriverAssignedPayload}
    (hride : uuid.printed payload.rideId = payload.rideId) :
    Spells uuid (RideService.handleDriverAssigned now payload) := by
  simp only [Spells, RideService.handleDriverAssigned, RideRepository.update,
    Program.confined_tryCatch, Program.confined_bind, Program.confined_call]
  refine ⟨trivial, ?_⟩
  intro reply _
  cases reply with
  | error error => trivial
  | ok updated =>
      apply confined_getRide
      · intro ride hstored
        apply confined_publish
        · exact ⟨hride, UuidType.printed_of_input hstored.riderId⟩
        · intro result
          cases result <;> trivial
      · intro error
        trivial

/-- Both ids are handed on as they came. -/
theorem SpellsMatching.handleRideRequested {searchRadiusKm : Num}
    {now : Instant} {payload : RideRequestedPayload}
    (hids : PrintedIds uuid payload.rideId payload.riderId) :
    SpellsMatching uuid
      (MatchingService.handleRideRequested searchRadiusKm now payload) := by
  simp only [SpellsMatching, MatchingService.handleRideRequested,
    RedisService.claimNearestDriver, Program.confined_tryCatch,
    Program.confined_bind, Program.confined_call]
  refine ⟨trivial, ?_⟩
  intro reply _
  cases reply with
  | error error => trivial
  | ok found =>
      simp only
      cases truthy found with
      | none => trivial
      | some driverId =>
          simp only [Matching.publish, Program.confined_call]
          refine ⟨hids, ?_⟩
          intro result _
          cases result <;> trivial

/-- The consumer only rethrows. -/
theorem confined_eachMessage {Op P : Type} {Reply : Op → Type}
    {permitted : Op → Prop}
    {possible : (op : Op) → Except JsError (Reply op) → Prop}
    {handler : P → Program Reply JsError Unit} {payload : P}
    (hhandler : (handler payload).Confined permitted possible
      fun _ => True) :
    (Kafka.eachMessage handler (some payload)).Confined permitted possible
      fun _ => True := by
  simp only [Kafka.eachMessage, Program.confined_tryCatch]
  refine hhandler.mono ?_
  intro result _
  cases result <;> trivial

end Handlers

/-! ## Runs -/

def TrafficWorld.Spelled (world : TrafficWorld) : Prop :=
  ∀ record ∈ world.published, PrintedMessage uuid record.message

structure TrafficSpelled (deployment : Deployment) (traffic : Traffic) : Prop
    where
  sound : TrafficSound uuid deployment traffic
  messages : traffic.world.Spelled uuid
  serving : ∀ program ∈ traffic.serving, Spells uuid program
  matching : ∀ program ∈ traffic.matching, SpellsMatching uuid program

section Runs

variable {uuid} {deployment : Deployment} {traffic : Traffic}

theorem TrafficWorld.Spelled.send {world : TrafficWorld}
    {record : ProducerRecord} (hspelled : world.Spelled uuid)
    (hrecord : PrintedMessage uuid record.message) :
    ∀ other ∈ world.published ++ [record],
      PrintedMessage uuid other.message :=
  List.forall_mem_append.mpr ⟨hspelled, List.forall_mem_singleton.mpr hrecord⟩

theorem answerRide_spelled {world : TrafficWorld} {fault : Option JsError}
    (hrows : ∀ key ride, world.rides.get? key = some ride → uuid.Stored ride)
    (hspelled : world.Spelled uuid) (call : RideCall)
    (hcall : SendsPrinted uuid call) :
    RideReply uuid call (answerRide uuid call fault world).1 ∧
      (answerRide uuid call fault world).2.Spelled uuid := by
  cases fault with
  | some error => cases call <;> exact ⟨trivial, hspelled⟩
  | none =>
      simp only [answerRide, faultable]
      cases call with
      | save ride =>
          simp only [answerCall]
          cases uuid.row ride with
          | none => exact ⟨trivial, hspelled⟩
          | some stored =>
              simp only
              cases world.rides.insert? stored with
              | none => exact ⟨trivial, hspelled⟩
              | some rides => exact ⟨rfl, hspelled⟩
      | findOneById id =>
          simp only [answerCall]
          cases uuid.input id with
          | none => exact ⟨trivial, hspelled⟩
          | some key =>
              refine ⟨?_, hspelled⟩
              cases hride : world.rides.get? key with
              | none => simp only [hride, RideReply]
              | some ride => simpa only [hride, RideReply] using hrows key ride hride
      | update id given =>
          simp only [answerCall]
          cases uuid.patch given with
          | none => exact ⟨trivial, hspelled⟩
          | some patch =>
              cases uuid.input id with
              | none => exact ⟨trivial, hspelled⟩
              | some key => exact ⟨trivial, hspelled⟩
      | send record => exact ⟨trivial, hspelled.send hcall⟩

theorem answerMatching_spelled {dist : GeoDist} {world : TrafficWorld}
    {input : MatchingInput} (hspelled : world.Spelled uuid)
    (call : MatchingCall) (hcall : AnnouncesPrinted uuid call) :
    (answerMatching dist call input world).2.Spelled uuid := by
  simp only [answerMatching, MatchingWorld.answerOrFail]
  cases input.fault with
  | some error => exact hspelled
  | none =>
      cases call with
      | claimNearestDriver lat lng radiusKm => exact hspelled
      | send record => exact hspelled.send hcall

theorem TrafficSpelled.initial :
    TrafficSpelled uuid deployment Traffic.initial := by
  refine ⟨.initial, ?_, ?_, ?_⟩
  · intro record hrecord
    cases hrecord
  · intro program hprogram
    cases hprogram
  · intro program hprogram
    cases hprogram

theorem TrafficSpelled.message {position : ℕ} {message : Message}
    (hspelled : TrafficSpelled uuid deployment traffic)
    (hmessage : traffic.message position = some message) :
    PrintedMessage uuid message := by
  obtain ⟨record, hrecord, heq⟩ := Option.map_eq_some_iff.mp hmessage
  rw [← heq]
  exact hspelled.messages record (List.mem_of_getElem? hrecord)

theorem Spells.discard {α : Type} {program : RideM α}
    (hspells : Spells uuid program) :
    Spells uuid (do
      let _ ← program
      pure () : RideM Unit) := by
  rw [Spells, Program.confined_bind]
  refine hspells.mono ?_
  intro result _
  cases result <;> trivial

theorem TrafficSpelled.step {next : Traffic} {event : TrafficEvent}
    (hspelled : TrafficSpelled uuid deployment traffic)
    (hprinted : event.AsPrinted uuid)
    (hstep : traffic.step uuid deployment event = some next) :
    TrafficSpelled uuid deployment next := by
  have hsound := hspelled.sound.step hstep
  cases event with
  | requestRide newId createdAt now dto =>
      cases hstep
      exact ⟨hsound, hspelled.messages,
        List.forall_mem_append.mpr ⟨hspelled.serving,
          List.forall_mem_singleton.mpr (Spells.requestRide hprinted).discard⟩,
        hspelled.matching⟩
  | updateStatus now id dto =>
      cases hstep
      exact ⟨hsound, hspelled.messages,
        List.forall_mem_append.mpr ⟨hspelled.serving,
          List.forall_mem_singleton.mpr (Spells.updateStatus hprinted).discard⟩,
        hspelled.matching⟩
  | rideRequested position now =>
      simp only [Traffic.step] at hstep
      split at hstep
      · rename_i event hmessage
        cases hstep
        have hids : PrintedIds uuid event.rideId event.riderId :=
          hspelled.message hmessage
        have hhandler : SpellsMatching uuid
            (MatchingService.handleRideRequested deployment.searchRadiusKm now
              (decodeForMatching event)) := .handleRideRequested hids
        exact ⟨hsound, hspelled.messages, hspelled.serving,
          List.forall_mem_append.mpr ⟨hspelled.matching,
            List.forall_mem_singleton.mpr (confined_eachMessage hhandler)⟩⟩
      · cases hstep
  | driverAssigned position now =>
      simp only [Traffic.step] at hstep
      split at hstep
      · rename_i event hmessage
        cases hstep
        have hids : PrintedIds uuid event.rideId event.riderId :=
          hspelled.message hmessage
        have hhandler : Spells uuid (RideService.handleDriverAssigned now
            ⟨event.rideId, event.driverId⟩) := .handleDriverAssigned hids.1
        exact ⟨hsound, hspelled.messages,
          List.forall_mem_append.mpr ⟨hspelled.serving,
            List.forall_mem_singleton.mpr (confined_eachMessage hhandler)⟩,
          hspelled.matching⟩
      · cases hstep
  | rideCall index fault =>
      obtain ⟨⟨serving, world⟩, hadvance, heq⟩ :=
        Option.map_eq_some_iff.mp hstep
      subst heq
      obtain ⟨hmessages, hserving⟩ :=
        Program.forall_confined_advanceAt (TrafficWorld.Spelled uuid)
          (answerRide_spelled hspelled.sound.inv.rows hspelled.messages)
          hspelled.serving hadvance
      exact ⟨hsound, hmessages, hserving, hspelled.matching⟩
  | matchingCall index input =>
      obtain ⟨⟨matching, world⟩, hadvance, heq⟩ :=
        Option.map_eq_some_iff.mp hstep
      subst heq
      have hanswer : ∀ call, AnnouncesPrinted uuid call → True ∧
          (answerMatching deployment.dist call input traffic.world).2.Spelled
            uuid :=
        fun call hcall =>
          ⟨trivial, answerMatching_spelled hspelled.messages call hcall⟩
      obtain ⟨hmessages, hmatching⟩ :=
        Program.forall_confined_advanceAt (TrafficWorld.Spelled uuid) hanswer
          hspelled.matching hadvance
      exact ⟨hsound, hmessages, hspelled.serving, hmatching⟩
  | poolChanged pool =>
      cases hstep
      exact ⟨hsound, hspelled.messages, hspelled.serving, hspelled.matching⟩

theorem trafficSpelled_of_run {events : List TrafficEvent} {last : Traffic}
    (hprinted : ∀ event ∈ events, event.AsPrinted uuid)
    (hrun : run (Traffic.step uuid deployment) Traffic.initial events =
      some last) : TrafficSpelled uuid deployment last :=
  invariant_of_guarded
    (fun _ _ _ hspelled hevent hstep => hspelled.step hevent hstep)
    TrafficSpelled.initial (runMeets_of_forall hprinted _) hrun

end Runs

end FakeBolt.Audience
