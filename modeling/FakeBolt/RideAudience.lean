import FakeBolt.NotificationService
import FakeBolt.PhotoIsolation
import FakeBolt.RideSpellings
import FakeBolt.RideToHistory

/-!
# Who hears of a ride

matching-service and ride-service build their events from object literals of
their own; notification-service and email-service read the ids out of the
objects that arrive.
-/

namespace FakeBolt.Audience

open Await Json Kafka Matching Notification Ride Store Transition
open Dispatch (Deployment)

/-! ## What is sent and read -/

/-- The object literal of matching-service. -/
def assignedObject (event : DriverAssigned) : JsObject where
  entries :=
    [("rideId", .string event.rideId), ("riderId", .string event.riderId),
      ("driverId", .string event.driverId),
      ("timestamp", .string event.timestamp)]
  nodup := by simp

/-- The object literal of `handleDriverAssigned`, without a fare. -/
def matchedObject (event : RideUpdated) : JsObject where
  entries :=
    [("rideId", .string event.rideId), ("riderId", .string event.riderId),
      ("driverId", .ofString? event.driverId),
      ("status", .string event.status.value),
      ("timestamp", .string event.timestamp)]
  nodup := by simp

/-- The objects that a message can have been sent as. -/
def sentObjects : Message → List JsObject
  | .driverAssigned event => [assignedObject event]
  | .rideStatusUpdated event => [updateObject event, matchedObject event]
  | .rideCompleted event => [updateObject event]
  | _ => []

/-- A nullable string arrives as it was sent. -/
theorem get_received {object : JsObject} {name : String}
    {value : Option String} (hsent : object.get name = .ofString? value) :
    (parse (stringify object)).get name = .ofString? value := by
  rw [get_parse_stringify, hsent]
  cases value <;> rfl

theorem get_received_string {object : JsObject} {name text : String}
    (hsent : object.get name = .string text) :
    (parse (stringify object)).get name = .string text := by
  have hnullable : object.get name = .ofString? (some text) := hsent
  exact get_received hnullable

/-- The guard on the ids lets the event through: the handler goes on to look
for a receipt of the ride. -/
theorem pending_sendRideReceipt (runtime : JsRuntime) (now : Instant)
    {event : Email.RideCompletedEvent} {rideId riderId : String}
    (hride : event.rideId = some rideId) (hrideId : rideId ≠ "")
    (hrider : event.riderId = some riderId) (hriderId : riderId ≠ "") :
    (Email.EmailService.sendRideReceipt runtime now event).pending =
      some (.findOne rideId .rideReceipt) := by
  have hnamed : truthy event.rideId = some rideId :=
    truthy_eq_some_iff.mpr ⟨hride, hrideId⟩
  have hridden : truthy event.riderId = some riderId :=
    truthy_eq_some_iff.mpr ⟨hrider, hriderId⟩
  simp only [Email.EmailService.sendRideReceipt, hnamed, hridden]
  rfl

theorem ofPayload_updated (event : RideUpdated) :
    ∃ received, Email.RideCompletedEvent.ofPayload
        (parse (stringify (updateObject event))) = some received ∧
      received.rideId = some event.rideId ∧
      received.riderId = some event.riderId := by
  simp only [Email.RideCompletedEvent.ofPayload, get_parse_stringify]
  cases event with
  | mk rideId riderId driverId status fare trip timestamp =>
      cases driverId <;> cases fare <;> cases trip <;> exact ⟨_, rfl, rfl, rfl⟩

/-- An event that was sent as `object` concerns this ride: it names the ride
and its rider, and its consumers turn to the rider, to the driver it names and
to nobody else.  The ids are those of the row as values of type uuid: a client
may have spelt them in capitals. -/
structure Agreement (uuid : UuidType) (runtime : JsRuntime)
    (rides : Table RideEntity) (topic : Topic) (object : JsObject)
    (rideId riderId : String) (driverId : Option String) (ride : RideEntity) :
    Prop where
  sentRideId : object.get "rideId" = .string rideId
  sentRiderId : object.get "riderId" = .string riderId
  sentDriverId : object.get "driverId" = .ofString? driverId
  row : rides.get? ride.id = some ride
  ofRide : uuid.input rideId = some ride.id
  ofRider : uuid.input riderId = some ride.riderId
  assigned : topic = .driverAssigned → ∃ id, driverId = some id ∧ id ≠ ""
  notified : ReachExactly
    (NotificationService.eachMessage topic (parse (stringify object)))
    (riderId :: driverId.toList) (.string rideId)
  receipt : topic = .rideCompleted → ∃ event,
    Email.RideCompletedEvent.ofPayload (parse (stringify object)) =
      some event ∧
    ∀ now, (Email.EmailService.sendRideReceipt runtime now event).pending =
      some (.findOne rideId .rideReceipt)

section Agree

variable {uuid : UuidType} {runtime : JsRuntime} {rides : Table RideEntity}

theorem agreement_assigned {event : DriverAssigned}
    (hgrounded : Grounded uuid rides (.driverAssigned event)) :
    ∃ ride, Agreement uuid runtime rides .driverAssigned (assignedObject event)
      event.rideId event.riderId (some event.driverId) ride := by
  obtain ⟨⟨ride, hride, hrider, hrow⟩, hdriver⟩ := hgrounded
  have hrideId : (assignedObject event).get "rideId" = .string event.rideId :=
    rfl
  have hriderId : (assignedObject event).get "riderId" =
      .string event.riderId := rfl
  have hdriverId : (assignedObject event).get "driverId" =
      .string event.driverId := rfl
  refine ⟨ride, hrideId, hriderId, hdriverId, hrow, hride, hrider,
    fun _ => ⟨event.driverId, rfl, hdriver⟩, ?_, by simp⟩
  rw [← get_received_string hrideId]
  exact driverAssigned_reaches (get_received_string hriderId)
    (UuidType.ne_empty hrider) (get_received_string hdriverId) hdriver

/-- The two objects of `ride.status.updated`. -/
theorem agreement_updated {event : RideUpdated} {object : JsObject}
    (hgrounded : Grounded uuid rides (.rideStatusUpdated event))
    (hobject : object = updateObject event ∨ object = matchedObject event) :
    ∃ ride, Agreement uuid runtime rides .rideStatusUpdated object
      event.rideId event.riderId event.driverId ride := by
  obtain ⟨⟨ride, hride, hrider, hrow⟩, hdriver⟩ := hgrounded
  have hfields : object.get "rideId" = .string event.rideId ∧
      object.get "riderId" = .string event.riderId ∧
      object.get "driverId" = .ofString? event.driverId := by
    rcases hobject with hupdate | hmatched
    · rw [hupdate]
      exact ⟨rfl, rfl, rfl⟩
    · rw [hmatched]
      exact ⟨rfl, rfl, rfl⟩
  obtain ⟨hrideId, hriderId, hdriverId⟩ := hfields
  refine ⟨ride, hrideId, hriderId, hdriverId, hrow, hride, hrider, by simp,
    ?_, by simp⟩
  rw [← get_received_string hrideId]
  exact rideStatusUpdated_reaches (get_received_string hriderId)
    (UuidType.ne_empty hrider) (get_received hdriverId) hdriver

theorem agreement_completed {event : RideUpdated}
    (hgrounded : Grounded uuid rides (.rideCompleted event)) :
    ∃ ride, Agreement uuid runtime rides .rideCompleted (updateObject event)
      event.rideId event.riderId event.driverId ride := by
  obtain ⟨⟨ride, hride, hrider, hrow⟩, hdriver⟩ := hgrounded
  have hrideId : (updateObject event).get "rideId" = .string event.rideId := rfl
  have hriderId : (updateObject event).get "riderId" =
      .string event.riderId := rfl
  have hdriverId : (updateObject event).get "driverId" =
      .ofString? event.driverId := rfl
  refine ⟨ride, hrideId, hriderId, hdriverId, hrow, hride, hrider, by simp,
    ?_, ?_⟩
  · rw [← get_received_string hrideId]
    exact rideCompleted_reaches (get_received_string hriderId)
      (UuidType.ne_empty hrider) (get_received hdriverId) hdriver
  · intro _
    obtain ⟨received, hread, hreadRide, hreadRider⟩ := ofPayload_updated event
    refine ⟨received, hread, fun now => ?_⟩
    exact pending_sendRideReceipt runtime now hreadRide
      (UuidType.ne_empty hride) hreadRider (UuidType.ne_empty hrider)

theorem agreement_of_sound (runtime : JsRuntime) {deployment : Deployment}
    {traffic : Traffic} {record : ProducerRecord} {object : JsObject}
    (hsound : TrafficSound uuid deployment traffic)
    (hrecord : record ∈ traffic.world.published)
    (hobject : object ∈ sentObjects record.message) :
    ∃ rideId riderId driverId ride,
      Agreement uuid runtime traffic.world.rides record.message.topic object
        rideId riderId driverId ride := by
  have hgrounded := hsound.inv.messages record hrecord
  cases hmessage : record.message with
  | driverAssigned event =>
      rw [hmessage] at hgrounded hobject
      rw [List.mem_singleton.mp hobject]
      exact ⟨_, _, _, agreement_assigned hgrounded⟩
  | rideStatusUpdated event =>
      rw [hmessage] at hgrounded hobject
      refine ⟨_, _, _, agreement_updated hgrounded ?_⟩
      simpa [sentObjects] using hobject
  | rideCompleted event =>
      rw [hmessage] at hgrounded hobject
      rw [List.mem_singleton.mp hobject]
      exact ⟨_, _, _, agreement_completed hgrounded⟩
  | _ =>
      rw [hmessage] at hobject
      cases hobject

/-- Every object of a message has the ids of the message. -/
theorem printedIds_of_sent {message : Message} {object : JsObject}
    {rideId riderId : String} (hprinted : PrintedMessage uuid message)
    (hobject : object ∈ sentObjects message)
    (hride : object.get "rideId" = .string rideId)
    (hrider : object.get "riderId" = .string riderId) :
    PrintedIds uuid rideId riderId := by
  cases message with
  | driverAssigned event =>
      rw [List.mem_singleton.mp hobject] at hride hrider
      cases hride
      cases hrider
      exact hprinted
  | rideStatusUpdated event =>
      simp only [sentObjects, List.mem_cons, List.not_mem_nil, or_false]
        at hobject
      rcases hobject with hupdate | hmatched
      · rw [hupdate] at hride hrider
        cases hride
        cases hrider
        exact hprinted
      · rw [hmatched] at hride hrider
        cases hride
        cases hrider
        exact hprinted
  | rideCompleted event =>
      rw [List.mem_singleton.mp hobject] at hride hrider
      cases hride
      cases hrider
      exact hprinted
  | _ => cases hobject

/-- Ids as Postgres prints them are the texts in the row. -/
theorem Agreement.ids_eq {topic : Topic} {object : JsObject}
    {rideId riderId : String} {driverId : Option String} {ride : RideEntity}
    (hagree : Agreement uuid runtime rides topic object rideId riderId driverId
      ride)
    (hprinted : PrintedIds uuid rideId riderId) :
    rideId = ride.id ∧ riderId = ride.riderId := by
  constructor
  · rw [← hprinted.1]
    exact UuidType.printed_of_input hagree.ofRide
  · rw [← hprinted.2]
    exact UuidType.printed_of_input hagree.ofRider

end Agree

/-- Every event about a ride carries the id and the rider of its row, and
reaches those it concerns. -/
def Agreed (uuid : UuidType) (runtime : JsRuntime) (world : TrafficWorld) :
    Prop :=
  ∀ record ∈ world.published, ∀ object ∈ sentObjects record.message,
    ∃ driverId ride, Agreement uuid runtime world.rides record.message.topic
      object ride.id ride.riderId driverId ride

/-- Whatever the schedule, the failures and the redeliveries: the events are
those of the rows if the requests give the ids as Postgres prints them. -/
theorem producers_and_consumers_agree (uuid : UuidType)
    (deployment : Deployment) (runtime : JsRuntime)
    {events : List TrafficEvent} {last : Traffic}
    (hprinted : ∀ event ∈ events, event.AsPrinted uuid)
    (hrun : run (Traffic.step uuid deployment) Traffic.initial events =
      some last) :
    Agreed uuid runtime last.world := by
  have hspelled : TrafficSpelled uuid deployment last :=
    trafficSpelled_of_run hprinted hrun
  intro record hrecord object hobject
  obtain ⟨rideId, riderId, driverId, ride, hagree⟩ :=
    agreement_of_sound runtime hspelled.sound hrecord hobject
  have hids : PrintedIds uuid rideId riderId :=
    printedIds_of_sent (hspelled.messages record hrecord) hobject
      hagree.sentRideId hagree.sentRiderId
  obtain ⟨hrideId, hriderId⟩ := hagree.ids_eq hids
  subst hrideId hriderId
  exact ⟨driverId, ride, hagree⟩

/-! ## A ride, and the same ride with ids in capitals -/

/-- A ride from the request to its end.  The rider's id and, at the end, the
ride's are spelt as they are given. -/
def spelledRide (riderId rideId : String) : List TrafficEvent :=
  [.requestRide "4f9d1c02-77aa-4e5b-9c1d-0a1b2c3d4e5f" 0 0
      { riderId := riderId
        pickupLat := 0, pickupLng := 0
        destinationLat := 1, destinationLng := 0 },
    .rideCall 0 none, .rideCall 0 none,
    .rideRequested 0 0,
    .poolChanged (AvailablePool.geoadd ∅ 0 0
      "0d2e4f60-1a3b-4c5d-8e7f-102030405060"),
    .matchingCall 0 {}, .matchingCall 0 {},
    .driverAssigned 1 0,
    .rideCall 1 none, .rideCall 1 none, .rideCall 1 none,
    .updateStatus 0 rideId ⟨.completed, none⟩,
    .rideCall 2 none, .rideCall 2 none, .rideCall 2 none]

def lowerRide : List TrafficEvent :=
  spelledRide "8b0c6f1e-2d3a-4b5c-8d7e-aabbccddeeff"
    "4f9d1c02-77aa-4e5b-9c1d-0a1b2c3d4e5f"

def capitalRide : List TrafficEvent :=
  spelledRide "8B0C6F1E-2D3A-4B5C-8D7E-AABBCCDDEEFF"
    "4F9D1C02-77AA-4E5B-9C1D-0A1B2C3D4E5F"

theorem lower_ride_agrees :
    ∃ last, run (Traffic.step hyphenated Dispatch.flatDeployment)
        Traffic.initial lowerRide = some last ∧
      last.world.published.map (fun record => record.message.topic) =
        [.rideRequested, .driverAssigned, .rideStatusUpdated,
          .rideCompleted] ∧
      Agreed hyphenated isoRuntime last.world := by
  have hprinted : (lowerRide.all fun event =>
      decide (event.AsPrinted hyphenated)) = true := by
    decide +kernel
  have hcheck : (run (Traffic.step hyphenated Dispatch.flatDeployment)
      Traffic.initial lowerRide).any (fun last =>
        last.world.published.map (fun record => record.message.topic) ==
          [.rideRequested, .driverAssigned, .rideStatusUpdated,
            .rideCompleted]) = true := by
    decide +kernel
  obtain ⟨last, hrun, htopics⟩ := exists_of_run_any hcheck
  refine ⟨last, hrun, beq_iff_eq.mp htopics, ?_⟩
  refine producers_and_consumers_agree hyphenated Dispatch.flatDeployment
    isoRuntime ?_ hrun
  intro event hevent
  exact of_decide_eq_true (List.all_eq_true.mp hprinted event hevent)

/-- driver.assigned has the rider's id in capitals, which is in no row: the
rider listens under the id of the row. -/
theorem capital_ride_disagrees :
    ∃ last, run (Traffic.step hyphenated Dispatch.flatDeployment)
        Traffic.initial capitalRide = some last ∧
      ¬ Agreed hyphenated isoRuntime last.world := by
  have hcheck : (run (Traffic.step hyphenated Dispatch.flatDeployment)
      Traffic.initial capitalRide).any (fun last =>
        last.world.published.any fun record =>
          (sentObjects record.message).any fun object =>
            last.world.rides.rows.all fun ride =>
              object.get "riderId" != .string ride.riderId) = true := by
    decide +kernel
  obtain ⟨last, hrun, hfound⟩ := exists_of_run_any hcheck
  refine ⟨last, hrun, fun hagreed => ?_⟩
  obtain ⟨record, hrecord, hfound⟩ := List.any_eq_true.mp hfound
  obtain ⟨object, hobject, hother⟩ := List.any_eq_true.mp hfound
  obtain ⟨driverId, ride, hagree⟩ := hagreed record hrecord object hobject
  have hrow : ride ∈ last.world.rides.rows :=
    (Table.get?_eq_some_iff.mp hagree.row).1
  have hdiffers := List.all_eq_true.mp hother ride hrow
  rw [hagree.sentRiderId] at hdiffers
  simp at hdiffers

end FakeBolt.Audience
