import FakeBolt.AssignmentOrigins
import FakeBolt.NotificationSockets

/-!
# What a user's socket hears of rides

Requests and deliveries of ride-service and matching-service are under way,
clients of notification-service come and go, and Kafka hands it messages of the
log, any of them any number of times and in any order.  What a socket receives
is then decided by the log and by the messages that were handed over while it
was connected.
-/

namespace FakeBolt.Audience

open Json Kafka Matching Notification Ride Store Transition
open Dispatch (Deployment)

/-! ## The system -/

structure Broadcast where
  traffic : Traffic
  hub : Hub

/-- A delivery names a message by its position in the log, and one of the
objects that it can have been sent as. -/
inductive BroadcastEvent where
  | traffic (event : TrafficEvent)
  | connect (id : String) (userId : UserIdQuery)
  | disconnect (id : String)
  | deliver (position variant : ℕ)

/-- The object that arrived, with the handler that it is for. -/
def delivered (published : List ProducerRecord) (position variant : ℕ) :
    Option (Subscription × JsObject) := do
  let record ← published[position]?
  let object ← (sentObjects record.message)[variant]?
  let topic ← NotificationService.subscription record.message.topic
  pure (topic, object)

/-- What notification-service sees of an event, when the log is this. -/
def hubEvent (published : List ProducerRecord) :
    BroadcastEvent → Option HubEvent
  | .traffic _ => none
  | .connect id userId => some (.connect id userId)
  | .disconnect id => some (.disconnect id)
  | .deliver position variant =>
      (delivered published position variant).map fun arrived =>
        .message arrived.1 (some (parse (stringify arrived.2)))

namespace Broadcast

def initial : Broadcast := ⟨Traffic.initial, Hub.initial⟩

def step (uuid : UuidType) (deployment : Deployment) (system : Broadcast) :
    BroadcastEvent → Option Broadcast
  | .traffic event =>
      (system.traffic.step uuid deployment event).map fun traffic =>
        { system with traffic := traffic }
  | event =>
      (hubEvent system.traffic.world.published event).bind fun seen =>
        (system.hub.step seen).map fun hub => { system with hub := hub }

end Broadcast

variable {uuid : UuidType} {deployment : Deployment}

/-! ## Events seen through the log -/

/-- What was delivered is still in a longer log. -/
theorem hubEvent_of_prefix {before after : List ProducerRecord}
    (hgrown : before <+: after) {event : BroadcastEvent} {seen : HubEvent}
    (hseen : hubEvent before event = some seen) :
    hubEvent after event = some seen := by
  cases event with
  | traffic event => exact hseen
  | connect id userId => exact hseen
  | disconnect id => exact hseen
  | deliver position variant =>
      cases hrecord : before[position]? with
      | none => simp [hubEvent, delivered, hrecord] at hseen
      | some record =>
          obtain ⟨later, hlater⟩ := hgrown
          have hkept : after[position]? = some record := by
            obtain ⟨hlength, -⟩ := List.getElem?_eq_some_iff.mp hrecord
            rw [← hlater, List.getElem?_append_left hlength, hrecord]
          simpa [hubEvent, delivered, hrecord, hkept] using hseen

/-- An event changes the traffic or is one that notification-service sees. -/
theorem broadcast_step {system next : Broadcast} {event : BroadcastEvent}
    (hstep : system.step uuid deployment event = some next) :
    (∃ change, event = .traffic change ∧ next.hub = system.hub ∧
        system.traffic.step uuid deployment change = some next.traffic) ∨
      (∃ seen, hubEvent system.traffic.world.published event = some seen ∧
        next.traffic = system.traffic ∧
        system.hub.step seen = some next.hub) := by
  have hhub : ∀ seen?, (seen?.bind fun seen => (system.hub.step seen).map
      fun hub => { system with hub := hub }) = some next →
      ∃ seen, seen? = some seen ∧ next.traffic = system.traffic ∧
        system.hub.step seen = some next.hub := by
    intro seen? hnext
    obtain ⟨seen, hseen, hmap⟩ := Option.bind_eq_some_iff.mp hnext
    obtain ⟨hub, hhub, heq⟩ := Option.map_eq_some_iff.mp hmap
    subst heq
    exact ⟨seen, hseen, rfl, hhub⟩
  cases event with
  | traffic change =>
      obtain ⟨traffic, htraffic, heq⟩ := Option.map_eq_some_iff.mp hstep
      subst heq
      exact Or.inl ⟨change, rfl, rfl, htraffic⟩
  | connect id userId => exact Or.inr (hhub _ hstep)
  | disconnect id => exact Or.inr (hhub _ hstep)
  | deliver position variant => exact Or.inr (hhub _ hstep)

theorem published_run {system last : Broadcast} {events : List BroadcastEvent}
    (hrun : run (Broadcast.step uuid deployment) system events = some last) :
    system.traffic.world.published <+: last.traffic.world.published := by
  induction events generalizing system with
  | nil =>
      cases hrun
      exact List.prefix_rfl
  | cons event events ih =>
      obtain ⟨next, hstep, hrest⟩ := run_cons_eq_some.mp hrun
      rcases broadcast_step hstep with
        ⟨change, -, -, hchange⟩ | ⟨seen, -, hsame, -⟩
      · exact (published_step hchange).trans (ih hrest)
      · rw [← hsame]
        exact ih hrest

/-! ## The sockets' part of a run -/

theorem eq_connect_of_hubEvent {published : List ProducerRecord}
    {event : BroadcastEvent} {id : String} {userId : UserIdQuery}
    (hseen : hubEvent published event = some (.connect id userId)) :
    event = .connect id userId := by
  cases event with
  | traffic change => cases hseen
  | connect other query =>
      cases hseen
      rfl
  | disconnect other => cases hseen
  | deliver position variant => simp [hubEvent] at hseen

theorem eq_disconnect_of_hubEvent {published : List ProducerRecord}
    {event : BroadcastEvent} {id : String}
    (hseen : hubEvent published event = some (.disconnect id)) :
    event = .disconnect id := by
  cases event with
  | traffic change => cases hseen
  | connect other query => cases hseen
  | disconnect other =>
      cases hseen
      rfl
  | deliver position variant => simp [hubEvent] at hseen

theorem not_mem_connect {events : List BroadcastEvent} {id : String}
    (hnot : ∀ query : UserIdQuery, query.falsy = false →
      .connect id query ∉ events) (published : List ProducerRecord) :
    ∀ query : UserIdQuery, query.falsy = false →
      .connect id query ∉ events.filterMap (hubEvent published) := by
  intro query hquery hmem
  obtain ⟨event, hevent, hseen⟩ := List.mem_filterMap.mp hmem
  rw [eq_connect_of_hubEvent hseen] at hevent
  exact hnot query hquery hevent

/-- notification-service runs by itself on what it sees: what is delivered to
it can be read off the log at the end. -/
theorem hub_run {system last : Broadcast} {events : List BroadcastEvent}
    (hrun : run (Broadcast.step uuid deployment) system events = some last) :
    run Hub.step system.hub
      (events.filterMap (hubEvent last.traffic.world.published)) =
        some last.hub := by
  induction events generalizing system with
  | nil =>
      cases hrun
      rfl
  | cons event events ih =>
      obtain ⟨next, hstep, hrest⟩ := run_cons_eq_some.mp hrun
      have htail := ih hrest
      rcases broadcast_step hstep with
        ⟨change, hevent, hsame, -⟩ | ⟨seen, hseen, hsame, hhub⟩
      · subst hevent
        rw [hsame] at htail
        exact htail
      · have hlonger := published_run hrest
        rw [hsame] at hlonger
        have hlast := hubEvent_of_prefix hlonger hseen
        rw [List.filterMap_cons_some hlast]
        exact run_cons_eq_some.mpr ⟨next.hub, hhub, htail⟩

theorem sound_broadcast {system last : Broadcast}
    {events : List BroadcastEvent}
    (hsound : TrafficSound uuid deployment system.traffic)
    (htraced : TrafficTraced uuid deployment system.traffic)
    (hrun : run (Broadcast.step uuid deployment) system events = some last) :
    TrafficSound uuid deployment last.traffic ∧
      TrafficTraced uuid deployment last.traffic := by
  induction events generalizing system with
  | nil =>
      cases hrun
      exact ⟨hsound, htraced⟩
  | cons event events ih =>
      obtain ⟨next, hstep, hrest⟩ := run_cons_eq_some.mp hrun
      rcases broadcast_step hstep with
        ⟨change, -, -, hchange⟩ | ⟨seen, -, hsame, -⟩
      · exact ih (hsound.step hchange) (htraced.step hchange) hrest
      · rw [← hsame] at hsound htraced
        exact ih hsound htraced hrest

/-! ## What an event says -/

def textOf : JsValue → Option String
  | .string text => some text
  | _ => none

/-- The ids of the rider and, if there is one, of the driver. -/
def idsIn (object : JsObject) : List String :=
  [object.get "riderId", object.get "driverId"].filterMap textOf

/-- The rides that a socket in these rooms hears of at a delivery, once for
every id of its own that the event holds. -/
def heard (published : List ProducerRecord) (rooms : List String) :
    BroadcastEvent → List JsValue
  | .deliver position variant =>
      match delivered published position variant with
      | none => []
      | some arrived =>
          ((idsIn arrived.2).filter fun id => decide (id ∈ rooms)).map
            fun _ => arrived.2.get "rideId"
  | _ => []

/-- A notice about a ride in the table, for its rider or for a driver that
matching-service has announced for it. -/
def ConcernsOneOf (uuid : UuidType) (world : TrafficWorld)
    (rooms : List String) (notice : Notice) : Prop :=
  ∃ ride rideId, world.rides.get? ride.id = some ride ∧
    notice.payload.get "rideId" = .string rideId ∧
    uuid.input rideId = some ride.id ∧
    ∃ id ∈ rooms, uuid.input id = some ride.riderId ∨
      ∃ record ∈ world.published, ∃ event,
        record.message = .driverAssigned event ∧
        SameId uuid event.rideId rideId ∧
        (event.driverId = id ∨ SameId uuid event.driverId id)

theorem eq_some_of_ofString? {value : Option String} {text : String}
    (hvalue : JsValue.ofString? value = .string text) : value = some text := by
  cases value with
  | none => cases hvalue
  | some other =>
      cases hvalue
      rfl

/-- The driver that an event names has been announced. -/
theorem announced_of_sent {traffic : Traffic} {record : ProducerRecord}
    {object : JsObject} {rideId id : String}
    (htraced : TrafficTraced uuid deployment traffic)
    (hrecord : record ∈ traffic.world.published)
    (hobject : object ∈ sentObjects record.message)
    (hride : object.get "rideId" = .string rideId)
    (hread : SameId uuid rideId rideId)
    (hdriver : object.get "driverId" = .string id) :
    ∃ record ∈ traffic.world.published, ∃ event,
      record.message = .driverAssigned event ∧
      SameId uuid event.rideId rideId ∧
      (event.driverId = id ∨ SameId uuid event.driverId id) := by
  have hdescends := htraced.inv.messages record hrecord
  have hannounced : Announced uuid traffic.world.published rideId id →
      ∃ record ∈ traffic.world.published, ∃ event,
        record.message = .driverAssigned event ∧
        SameId uuid event.rideId rideId ∧
        (event.driverId = id ∨ SameId uuid event.driverId id) := by
    rintro ⟨record, hrecord, event, hevent, hsameRide, hsameDriver⟩
    exact ⟨record, hrecord, event, hevent, hsameRide, Or.inr hsameDriver⟩
  cases hmessage : record.message with
  | driverAssigned event =>
      rw [hmessage] at hobject
      rw [List.mem_singleton.mp hobject] at hride hdriver
      cases hride
      cases hdriver
      exact ⟨record, hrecord, event, hmessage, hread, Or.inl rfl⟩
  | rideStatusUpdated event =>
      rw [hmessage] at hobject hdescends
      obtain ⟨hrideId, hdriverId⟩ : object.get "rideId" =
          .string event.rideId ∧
          object.get "driverId" = .ofString? event.driverId := by
        rcases List.mem_pair.mp hobject with hupdate | hmatched
        · rw [hupdate]
          exact ⟨rfl, rfl⟩
        · rw [hmatched]
          exact ⟨rfl, rfl⟩
      rw [hrideId] at hride
      cases hride
      rw [hdriverId] at hdriver
      exact hannounced (hdescends id (eq_some_of_ofString? hdriver))
  | rideCompleted event =>
      rw [hmessage] at hobject hdescends
      rw [List.mem_singleton.mp hobject] at hride hdriver
      cases hride
      exact hannounced (hdescends id (eq_some_of_ofString? hdriver))
  | _ =>
      rw [hmessage] at hobject
      cases hobject

theorem delivered_eq_some {published : List ProducerRecord}
    {position variant : ℕ} {topic : Subscription} {object : JsObject}
    (hdelivered : delivered published position variant =
      some (topic, object)) :
    ∃ record ∈ published, object ∈ sentObjects record.message ∧
      NotificationService.subscription record.message.topic = some topic := by
  obtain ⟨record, hrecord, hrest⟩ := Option.bind_eq_some_iff.mp hdelivered
  obtain ⟨sent, hsent, hrest⟩ := Option.bind_eq_some_iff.mp hrest
  obtain ⟨registered, hregistered, heq⟩ := Option.bind_eq_some_iff.mp hrest
  cases heq
  exact ⟨record, List.mem_of_getElem? hrecord, List.mem_of_getElem? hsent,
    hregistered⟩

theorem idsIn_of_agreement {runtime : JsRuntime} {rides : Table RideEntity}
    {topic : Topic} {object : JsObject} {rideId riderId : String}
    {driverId : Option String} {ride : RideEntity}
    (hagree : Agreement uuid runtime rides topic object rideId riderId driverId
      ride) :
    idsIn object = riderId :: driverId.toList := by
  unfold idsIn
  rw [hagree.sentRiderId, hagree.sentDriverId]
  cases driverId <;> rfl

/-- One notice in each of the rooms, all of them about the ride. -/
theorem notices_of_reachExactly {effects : List GatewayEffect}
    {users : List String} {rideId : JsValue}
    (hreach : ReachExactly effects users rideId) (rooms : List String) :
    (effects.filterMap (noticeTo rooms)).map
        (fun notice => notice.payload.get "rideId") =
      (users.filter fun id => decide (id ∈ rooms)).map fun _ => rideId := by
  induction hreach with
  | nil => rfl
  | @cons effect user effects users hfirst hrest ih =>
      obtain ⟨event, payload, heffect, hride⟩ := hfirst
      subst heffect
      by_cases hroom : user ∈ rooms
      · simp [noticeTo, hroom, hride, ih]
      · simp [noticeTo, hroom, ih]

/-- What one event of the system is for sockets in these rooms. -/
theorem heard_eq {traffic : Traffic} {event : BroadcastEvent}
    (hsound : TrafficSound uuid deployment traffic) (rooms : List String) :
    ((hubEvent traffic.world.published event).toList.flatMap
        (noticesTo rooms)).map (fun notice => notice.payload.get "rideId") =
      heard traffic.world.published rooms event := by
  cases event with
  | traffic change => rfl
  | connect id userId => rfl
  | disconnect id => rfl
  | deliver position variant =>
      simp only [hubEvent, heard]
      cases hdelivered : delivered traffic.world.published position variant with
      | none => rfl
      | some arrived =>
          obtain ⟨topic, object⟩ := arrived
          obtain ⟨record, hrecord, hobject, htopic⟩ :=
            delivered_eq_some hdelivered
          obtain ⟨rideId, riderId, driverId, ride, hagree⟩ :=
            agreement_of_sound isoRuntime hsound hrecord hobject
          have hreach := hagree.notified
          simp only [NotificationService.eachMessage, htopic] at hreach
          have hnotices := notices_of_reachExactly hreach rooms
          simp only [Option.map_some, Option.toList_some, List.flatMap_cons,
            List.flatMap_nil, List.append_nil, noticesTo,
            idsIn_of_agreement hagree, hagree.sentRideId]
          exact hnotices

theorem heard_events {traffic : Traffic}
    (hsound : TrafficSound uuid deployment traffic) (rooms : List String)
    (events : List BroadcastEvent) :
    ((events.filterMap (hubEvent traffic.world.published)).flatMap
        (noticesTo rooms)).map (fun notice => notice.payload.get "rideId") =
      events.flatMap (heard traffic.world.published rooms) := by
  induction events with
  | nil => rfl
  | cons event events ih =>
      rw [List.flatMap_cons, ← ih, ← heard_eq hsound]
      cases hseen : hubEvent traffic.world.published event with
      | none =>
          rw [List.filterMap_cons_none hseen]
          rfl
      | some seen =>
          rw [List.filterMap_cons_some hseen, List.flatMap_cons,
            List.map_append]
          simp

/-- Every notice that an emission of a handler becomes is for one of the users
it reaches. -/
theorem user_of_notice {effects : List GatewayEffect} {users : List String}
    {rideId : JsValue} (hreach : ReachExactly effects users rideId)
    {rooms : List String} {notice : Notice}
    (hnotice : notice ∈ effects.filterMap (noticeTo rooms)) :
    notice.payload.get "rideId" = rideId ∧ ∃ id ∈ users, id ∈ rooms := by
  induction hreach with
  | nil => cases hnotice
  | @cons effect user effects users hfirst hrest ih =>
      obtain ⟨event, payload, heffect, hride⟩ := hfirst
      subst heffect
      have hlater : ∀ {notice : Notice}, (notice.payload.get "rideId" = rideId ∧
          ∃ id ∈ users, id ∈ rooms) → notice.payload.get "rideId" = rideId ∧
          ∃ id ∈ user :: users, id ∈ rooms := by
        rintro notice ⟨hsame, id, hid, hroom⟩
        exact ⟨hsame, id, List.mem_cons_of_mem _ hid, hroom⟩
      by_cases hroom : user ∈ rooms
      · have hnoticeTo : noticeTo rooms (.emitted (.string user) event payload) =
            some { event := event, payload := payload } := if_pos hroom
        rw [List.filterMap_cons_some hnoticeTo, List.mem_cons] at hnotice
        rcases hnotice with hthis | hother
        · rw [hthis]
          exact ⟨hride, user, by simp, hroom⟩
        · exact hlater (ih hother)
      · have hnoticeTo : noticeTo rooms (.emitted (.string user) event payload) =
            none := if_neg hroom
        rw [List.filterMap_cons_none hnoticeTo] at hnotice
        exact hlater (ih hnotice)

theorem concerns_of_delivered {traffic : Traffic} {event : BroadcastEvent}
    {seen : HubEvent} {rooms : List String} {notice : Notice}
    (hsound : TrafficSound uuid deployment traffic)
    (htraced : TrafficTraced uuid deployment traffic)
    (hseen : hubEvent traffic.world.published event = some seen)
    (hnotice : notice ∈ noticesTo rooms seen) :
    ConcernsOneOf uuid traffic.world rooms notice := by
  cases event with
  | traffic change => cases hseen
  | connect id userId =>
      cases hseen
      cases hnotice
  | disconnect id =>
      cases hseen
      cases hnotice
  | deliver position variant =>
      obtain ⟨⟨topic, object⟩, hdelivered, heq⟩ :=
        Option.map_eq_some_iff.mp hseen
      subst heq
      obtain ⟨record, hrecord, hobject, htopic⟩ := delivered_eq_some hdelivered
      obtain ⟨rideId, riderId, driverId, ride, hagree⟩ :=
        agreement_of_sound isoRuntime hsound hrecord hobject
      have hreach := hagree.notified
      simp only [NotificationService.eachMessage, htopic] at hreach
      obtain ⟨hride, id, hid, hroom⟩ := user_of_notice hreach hnotice
      refine ⟨ride, rideId, hagree.row, hride, hagree.ofRide, id, hroom, ?_⟩
      rcases List.mem_cons.mp hid with hrider | hdriver
      · left
        rw [hrider]
        exact hagree.ofRider
      · right
        apply announced_of_sent htraced hrecord hobject hagree.sentRideId
          ⟨ride.id, hagree.ofRide, hagree.ofRide⟩
        rw [hagree.sentDriverId, Option.mem_toList.mp hdriver]
        rfl

/-! ## What a socket receives -/

/-- Whatever the schedule, the failures and the redeliveries: a socket hears
of every delivered ride event that names its user, once for the rider and once
for the driver, as long as it is connected, and of no other; every notice is
about a ride in the table, for its rider or for a driver that matching-service
has announced for the ride. -/
theorem user_hears_own_rides (uuid : UuidType) (deployment : Deployment)
    (before during after : List BroadcastEvent) (id : String)
    (userId : UserIdQuery) {last : Broadcast} (hnamed : userId.falsy = false)
    (hbefore : ∀ query : UserIdQuery, query.falsy = false →
      .connect id query ∉ before)
    (hduring : .disconnect id ∉ during)
    (hafter : after = [] ∨ ∃ rest, after = .disconnect id :: rest ∧
      ∀ query : UserIdQuery, query.falsy = false → .connect id query ∉ rest)
    (hrun : run (Broadcast.step uuid deployment) Broadcast.initial
      (before ++ .connect id userId :: (during ++ after)) = some last) :
    (last.hub.received id).map (fun notice => notice.payload.get "rideId") =
        during.flatMap
          (heard last.traffic.world.published (id :: userId.rooms)) ∧
      ∀ notice ∈ last.hub.received id,
        ConcernsOneOf uuid last.traffic.world (id :: userId.rooms) notice := by
  obtain ⟨hsound, htraced⟩ :=
    sound_broadcast TrafficSound.initial TrafficTraced.initial hrun
  have hjoins : hubEvent last.traffic.world.published
      (.connect id userId) = some (.connect id userId) := rfl
  have hleaves : hubEvent last.traffic.world.published
      (.disconnect id) = some (.disconnect id) := rfl
  have hreceived : last.hub.received id =
      (during.filterMap (hubEvent last.traffic.world.published)).flatMap
        (noticesTo (id :: userId.rooms)) := by
    have hhub := hub_run hrun
    rw [List.filterMap_append, List.filterMap_cons_some hjoins,
      List.filterMap_append] at hhub
    have hinitial : Hub.initial.Distinct := ⟨List.nodup_nil⟩
    refine received_session hinitial rfl hnamed (not_mem_connect hbefore _) ?_
      ?_ hhub
    · intro hmem
      obtain ⟨event, hevent, hseen⟩ := List.mem_filterMap.mp hmem
      rw [eq_disconnect_of_hubEvent hseen] at hevent
      exact hduring hevent
    · rcases hafter with hnil | ⟨rest, hafter, hrest⟩
      · left
        rw [hnil]
        rfl
      · right
        refine ⟨_, ?_, not_mem_connect hrest last.traffic.world.published⟩
        rw [hafter, List.filterMap_cons_some hleaves]
  constructor
  · rw [hreceived]
    exact heard_events hsound _ during
  · intro notice hnotice
    rw [hreceived, List.mem_flatMap] at hnotice
    obtain ⟨seen, hmem, hfor⟩ := hnotice
    obtain ⟨event, hevent, hseen⟩ := List.mem_filterMap.mp hmem
    exact concerns_of_delivered hsound htraced hseen hfor

/-! ## A rider and a driver who listen -/

/-- A ride is requested and matched while its rider is connected; the event
is delivered twice, and then the driver connects. -/
def heardRide : List BroadcastEvent :=
  [.traffic (.requestRide "4f9d1c02-77aa-4e5b-9c1d-0a1b2c3d4e5f" 0 0
      { riderId := "8b0c6f1e-2d3a-4b5c-8d7e-aabbccddeeff"
        pickupLat := 0, pickupLng := 0
        destinationLat := 1, destinationLng := 0 }),
    .traffic (.rideCall 0 none), .traffic (.rideCall 0 none),
    .connect "s1" (.one "8b0c6f1e-2d3a-4b5c-8d7e-aabbccddeeff"),
    .traffic (.rideRequested 0 0),
    .traffic (.poolChanged (AvailablePool.geoadd ∅ 0 0
      "0d2e4f60-1a3b-4c5d-8e7f-102030405060")),
    .traffic (.matchingCall 0 {}), .traffic (.matchingCall 0 {}),
    .deliver 1 0, .deliver 1 0,
    .connect "s2" (.one "0d2e4f60-1a3b-4c5d-8e7f-102030405060")]

theorem rider_hears_own_ride :
    ∃ last, run (Broadcast.step hyphenated Dispatch.flatDeployment)
        Broadcast.initial heardRide = some last ∧
      (last.hub.received "s1").length = 2 ∧
      (last.hub.received "s1").map
          (fun notice => notice.payload.get "rideId") =
        (heardRide.drop 4).flatMap (heard last.traffic.world.published
          ["s1", "8b0c6f1e-2d3a-4b5c-8d7e-aabbccddeeff"]) ∧
      ∀ notice ∈ last.hub.received "s1",
        ConcernsOneOf hyphenated last.traffic.world
          ["s1", "8b0c6f1e-2d3a-4b5c-8d7e-aabbccddeeff"] notice := by
  have hcheck : (run (Broadcast.step hyphenated Dispatch.flatDeployment)
      Broadcast.initial heardRide).any (fun last =>
        decide ((last.hub.received "s1").length = 2)) = true := by
    decide +kernel
  obtain ⟨last, hrun, hlength⟩ := exists_of_run_any hcheck
  refine ⟨last, hrun, of_decide_eq_true hlength, ?_⟩
  apply user_hears_own_rides hyphenated Dispatch.flatDeployment
    (heardRide.take 3) (heardRide.drop 4) [] "s1"
    (.one "8b0c6f1e-2d3a-4b5c-8d7e-aabbccddeeff")
  · rfl
  · simp [heardRide]
  · simp [heardRide]
  · exact Or.inl rfl
  · exact hrun

end FakeBolt.Audience
