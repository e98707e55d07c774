import FakeBolt.IsoDates
import FakeBolt.ReceiptHistory
import FakeBolt.RideRequests

/-!
# From a ride to the rider's history

The object that `updateStatus` publishes is sent as JSON, read as an event by
email-service, stored in the columns of a receipt row and read back from them.
-/

namespace FakeBolt.Ride

open Await Json Kafka Store
open Email (EmailWorld ReceiptDelivery Renders RideCompletedEvent
  RideReceipt)

/-- The fields that only a completion carries. -/
def tripEntries : Option CompletedTrip → List (String × JsValue)
  | none => []
  | some trip =>
      [("pickupLat", .number trip.pickupLat),
        ("pickupLng", .number trip.pickupLng),
        ("destinationLat", .number trip.destinationLat),
        ("destinationLng", .number trip.destinationLng),
        ("requestedAt", .date (some trip.requestedAt)),
        ("completedAt", .string trip.completedAt)]

/-- The object literal of `updateStatus`. -/
def updateObject (event : RideUpdated) : JsObject where
  entries :=
    [("rideId", .string event.rideId),
      ("riderId", .string event.riderId),
      ("driverId", .ofString? event.driverId),
      ("status", .string event.status.value),
      ("fare", .ofNumber? event.fare)] ++
    tripEntries event.trip ++ [("timestamp", .string event.timestamp)]
  nodup := by
    cases event.trip with
    | none => simp [tripEntries]
    | some trip => simp [tripEntries]

/-- The event as email-service reads it. -/
def receivedEvent (event : RideUpdated) (trip : CompletedTrip) :
    RideCompletedEvent where
  rideId := some event.rideId
  riderId := some event.riderId
  driverId := event.driverId
  fare := event.fare
  pickupLat := some trip.pickupLat
  pickupLng := some trip.pickupLng
  destinationLat := some trip.destinationLat
  destinationLng := some trip.destinationLng
  requestedAt := some (isoString trip.requestedAt)
  completedAt := some trip.completedAt
  timestamp := event.timestamp

theorem ofPayload_updateObject {event : RideUpdated} {trip : CompletedTrip}
    (htrip : event.trip = some trip) :
    RideCompletedEvent.ofPayload (parse (stringify (updateObject event))) =
      some (receivedEvent event trip) := by
  simp only [RideCompletedEvent.ofPayload, get_parse_stringify]
  cases event with
  | mk rideId riderId driverId status fare trip timestamp =>
      cases htrip
      cases driverId <;> cases fare <;> rfl

/-! ## The whole way -/

def tripOf (now : Instant) (ride : RideEntity) : CompletedTrip where
  pickupLat := ride.pickupLat
  pickupLng := ride.pickupLng
  destinationLat := ride.destinationLat
  destinationLng := ride.destinationLng
  requestedAt := ride.createdAt
  completedAt := isoString now

theorem trip_rideUpdated {dto : UpdateStatusDto}
    (hcompleted : dto.status = .completed) (now : Instant) (id : String)
    (ride : RideEntity) :
    (RideService.rideUpdated now id ride dto).trip = some (tripOf now ride) :=
  if_pos hcompleted

section Receipt

variable {runtime : JsRuntime}

/-- The dates of a sent event are read back as they were. -/
theorem toReceipt_receivedEvent (hruntime : runtime.ParsesIso)
    (event : RideUpdated) {now : Instant} {ride : RideEntity}
    (hcreated : IsTimeValue ride.createdAt) (hnow : IsTimeValue now)
    (rideId riderName : String) :
    Email.EmailService.toReceipt runtime
        (receivedEvent event (tripOf now ride)) rideId riderName =
      { riderName := riderName
        rideId := rideId
        fare := event.fare
        pickup := some ⟨ride.pickupLat, ride.pickupLng⟩
        destination := some ⟨ride.destinationLat, ride.destinationLng⟩
        requestedAt := some (some ride.createdAt)
        completedAt := some now } := by
  have hrequested : truthy (some (isoString ride.createdAt)) =
      some (isoString ride.createdAt) := by
    rw [truthy_some, if_neg (isoString_ne_empty _)]
  simp only [Email.EmailService.toReceipt, receivedEvent, tripOf, hrequested,
    Option.map_some, Option.getD_some,
    hruntime.dateParse_isoString hcreated, hruntime.dateParse_isoString hnow]
  rfl

theorem pastRide_receivedEvent (hruntime : runtime.ParsesIso)
    (event : RideUpdated) {now : Instant} {ride : RideEntity}
    (hcreated : IsTimeValue ride.createdAt) (hnow : IsTimeValue now)
    (rideId : String) :
    Email.rideOf runtime (receivedEvent event (tripOf now ride)) rideId =
      { rideId := rideId
        fare := event.fare
        pickup := some ⟨ride.pickupLat, some ride.pickupLng⟩
        destination := some ⟨ride.destinationLat, some ride.destinationLng⟩
        requestedAt := some (some ride.createdAt)
        completedAt := some (some now) } := by
  simp only [Email.rideOf, Email.EmailService.pendingRow,
    toReceipt_receivedEvent hruntime event hcreated hnow]
  rfl

/-- The ride as the history shows it after the first delivery. -/
theorem exists_mem_getMyReceipts_of_sent (hruntime : runtime.ParsesIso)
    (event : RideUpdated) {now : Instant} {ride : RideEntity}
    (hid : event.rideId ≠ "") (hrider : event.riderId ≠ "")
    (hcreated : IsTimeValue ride.createdAt) (hnow : IsTimeValue now)
    {delivery : ReceiptDelivery} {mail : EmailWorld}
    (hevent : delivery.event = receivedEvent event (tripOf now ride))
    (hundisturbed : delivery.Undisturbed)
    (hfirst : mail.receipt event.rideId = none) :
    ∃ entry ∈ (delivery.run runtime mail).getMyReceipts event.riderId,
      entry.toPastRide =
        { rideId := event.rideId
          fare := event.fare
          pickup := some ⟨ride.pickupLat, some ride.pickupLng⟩
          destination := some ⟨ride.destinationLat, some ride.destinationLng⟩
          requestedAt := some (some ride.createdAt)
          completedAt := some (some now) } := by
  have hnamed : truthy delivery.event.rideId = some event.rideId := by
    rw [truthy_eq_some_iff, hevent]
    exact ⟨rfl, hid⟩
  have hridden : truthy delivery.event.riderId = some event.riderId := by
    rw [truthy_eq_some_iff, hevent]
    exact ⟨rfl, hrider⟩
  have hparse : delivery.event.Parseable runtime := by
    rw [hevent, RideCompletedEvent.Parseable,
      toReceipt_receivedEvent hruntime event hcreated hnow]
    simp [RideReceipt.Printable]
  rw [← pastRide_receivedEvent hruntime event hcreated hnow, ← hevent]
  exact Email.exists_mem_getMyReceipts hnamed hridden hparse hundisturbed hfirst

end Receipt

/-- The ride of a completion reaches the history of its rider unchanged, and
a point that an event carries only in part reaches neither the email nor the
history. -/
theorem ride_survives_to_history (runtime : JsRuntime)
    (hruntime : runtime.ParsesIso) :
    (∀ (world : RideWorld) (now : Instant) (id : String)
      (dto : UpdateStatusDto) (ride : RideEntity),
      world.rides.get? id = some ride → dto.status = .completed →
      id ≠ "" → ride.riderId ≠ "" →
      IsTimeValue ride.createdAt → IsTimeValue now →
      ∃ update event,
        ((RideService.updateStatus now id dto).exec RideWorld.answer
            world).2.published =
          world.published ++ [⟨none, .rideCompleted update⟩] ∧
        RideCompletedEvent.ofPayload
          (parse (stringify (updateObject update))) = some event ∧
        event.completedAt = some (isoString now) ∧
        ∀ (delivery : ReceiptDelivery) (mail : EmailWorld),
          delivery.event = event → delivery.Undisturbed →
          mail.receipt id = none →
          ∃ entry ∈ (delivery.run runtime mail).getMyReceipts ride.riderId,
            entry.rideId = id ∧
            entry.fare = update.fare ∧
            entry.pickup = some ⟨ride.pickupLat, some ride.pickupLng⟩ ∧
            entry.destination =
              some ⟨ride.destinationLat, some ride.destinationLng⟩ ∧
            entry.requestedAt = some (some ride.createdAt) ∧
            entry.completedAt = some (some now)) ∧
    ∀ (text : JsonObject) (delivery : ReceiptDelivery) (mail : EmailWorld)
      (rideId : String),
      RideCompletedEvent.ofPayload (parse text) = some delivery.event →
      delivery.event.rideId = some rideId → mail.receipt rideId = none →
      (((parse text).get "pickupLat").IsNullish ∨
          ((parse text).get "pickupLng").IsNullish →
        (∀ email ∈ delivery.emails runtime mail, ∃ receipt : RideReceipt,
          Renders runtime receipt email ∧ receipt.pickup = none) ∧
        ∀ userId, ∀ entry ∈ (delivery.run runtime mail).getMyReceipts userId,
          entry.rideId = rideId → entry.pickup = none) ∧
      (((parse text).get "destinationLat").IsNullish ∨
          ((parse text).get "destinationLng").IsNullish →
        (∀ email ∈ delivery.emails runtime mail, ∃ receipt : RideReceipt,
          Renders runtime receipt email ∧ receipt.destination = none) ∧
        ∀ userId, ∀ entry ∈ (delivery.run runtime mail).getMyReceipts userId,
          entry.rideId = rideId → entry.destination = none) ∧
      ∀ riderId, delivery.event.riderId = some riderId →
        rideId ≠ "" → riderId ≠ "" → delivery.event.Parseable runtime →
        delivery.Undisturbed →
        ∃ entry ∈ (delivery.run runtime mail).getMyReceipts riderId,
          entry.rideId = rideId := by
  constructor
  · intro world now id dto ride hride hcompleted hid hrider hcreated hnow
    have htrip := trip_rideUpdated hcompleted now id ride
    refine ⟨RideService.rideUpdated now id ride dto, _, ?_,
      ofPayload_updateObject htrip, rfl, ?_⟩
    · rw [exec_updateStatus, hride]
      simp only [updateMessage, hcompleted, if_true]
      rfl
    · intro delivery mail hevent hundisturbed hfirst
      obtain ⟨entry, hmem, hentry⟩ := exists_mem_getMyReceipts_of_sent hruntime
        (RideService.rideUpdated now id ride dto) hid hrider hcreated hnow
        hevent hundisturbed hfirst
      refine ⟨entry, hmem, ?_⟩
      rw [hentry]
      exact ⟨rfl, rfl, rfl, rfl, rfl, rfl⟩
  · intro text delivery mail rideId hread hride hfirst
    obtain ⟨hpickupLat, hpickupLng, hdestinationLat, hdestinationLng⟩ :=
      Email.ofPayload_coordinates hread
    refine ⟨?_, ?_, ?_⟩
    · intro hnullish
      have hpoint := Email.pointOf_eq_none
        (JsValue.asNumber_eq_none hpickupLat hpickupLng hnullish)
      have hpast : (Email.rideOf runtime delivery.event rideId).pickup =
          none := by
        rw [Email.rideOf_pickup, hpoint, Option.map_none]
      exact Email.shown_by_first_delivery (fun receipt => receipt.pickup = none)
        (fun ride => ride.pickup = none) hride hfirst (fun _ => hpoint) hpast
    · intro hnullish
      have hpoint := Email.pointOf_eq_none
        (JsValue.asNumber_eq_none hdestinationLat hdestinationLng hnullish)
      have hpast : (Email.rideOf runtime delivery.event rideId).destination =
          none := by
        rw [Email.rideOf_destination, hpoint, Option.map_none]
      exact Email.shown_by_first_delivery (fun receipt => receipt.destination = none)
        (fun ride => ride.destination = none) hride hfirst (fun _ => hpoint) hpast
    · intro riderId hrider hid hriderId hparse hundisturbed
      have hnamed := truthy_eq_some_iff.mpr ⟨hride, hid⟩
      have hridden := truthy_eq_some_iff.mpr ⟨hrider, hriderId⟩
      obtain ⟨entry, hmem, hentry⟩ := Email.exists_mem_getMyReceipts hnamed
        hridden hparse hundisturbed hfirst
      refine ⟨entry, hmem, ?_⟩
      rw [hentry]
      rfl

def isoRuntime : JsRuntime where
  dateParse := parseIso
  numberToString _ := ""

/-- A free ride from the point 0, 0. -/
def freeRide : RideEntity where
  id := "ride"
  riderId := "rider"
  driverId := none
  status := .inProgress
  pickupLat := 0
  pickupLng := 0
  destinationLat := 1
  destinationLng := 0
  fare := none
  createdAt := 1767261600000

/-- The latitude of the pickup is sent, its longitude is not. -/
def halfPickup : JsonObject where
  entries :=
    [("rideId", .string "ride"), ("riderId", .string "rider"),
      ("pickupLat", .number 0),
      ("timestamp", .string "2026-01-01T10:00:00.000Z")]
  nodup := by decide

def halfPickupEvent : RideCompletedEvent :=
  ⟨some "ride", some "rider", none, none, some 0, none, none, none, none, none,
    "2026-01-01T10:00:00.000Z"⟩

/-- SES is down. -/
def firstAttempt (event : RideCompletedEvent) : ReceiptDelivery where
  now := 1767261660000
  event := event
  script _ := ⟨none, .ok ⟨"rider", "ann@example.com", "Ann", "rider"⟩,
    .error (.error "Throttling")⟩

theorem zero_point_survives :
    (∃ event, ∃ entry ∈ ((firstAttempt event).run isoRuntime
        ⟨Table.empty, []⟩).getMyReceipts "rider",
      entry.pickup = some ⟨0, some 0⟩ ∧
        entry.requestedAt = some (some 1767261600000)) ∧
    ∃ entry ∈ ((firstAttempt halfPickupEvent).run isoRuntime
        ⟨Table.empty, []⟩).getMyReceipts "rider", entry.pickup = none := by
  have hundisturbed : ∀ event, (firstAttempt event).Undisturbed := by
    intro event
    exact ⟨fun _ => rfl, fun _ => ⟨_, rfl⟩⟩
  obtain ⟨hwhole, hpart⟩ := ride_survives_to_history isoRuntime fun _ _ h => h
  constructor
  · obtain ⟨update, event, -, -, -, hfirst⟩ := hwhole
      ⟨⟨[freeRide], List.pairwise_singleton _ _⟩, []⟩ 1767261660000 "ride"
      ⟨.completed, some 0⟩ freeRide rfl rfl (by decide) (by decide) (by decide)
      (by decide)
    obtain ⟨entry, hmem, -, -, hpickup, -, hrequested, -⟩ :=
      hfirst (firstAttempt event) ⟨Table.empty, []⟩ rfl (hundisturbed event) rfl
    exact ⟨event, entry, hmem, hpickup, hrequested⟩
  · have hparse : halfPickupEvent.Parseable isoRuntime := by decide +kernel
    obtain ⟨hpickup, -, hentry⟩ := hpart halfPickup
      (firstAttempt halfPickupEvent) ⟨Table.empty, []⟩ "ride" rfl rfl rfl
    obtain ⟨entry, hmem, hride⟩ := hentry "rider" rfl (by decide) (by decide)
      hparse (hundisturbed _)
    have hmissing := (hpickup (Or.inr (Or.inl rfl))).2
    exact ⟨entry, hmem, hmissing "rider" entry hmem hride⟩

end FakeBolt.Ride
