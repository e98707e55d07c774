import FakeBolt.AvailablePool
import FakeBolt.KafkaMessages

/-!
# matching-service

The claim of the nearest available driver and the two Kafka handlers of
`MatchingService`.  `searchRadiusKm` is the configured `SEARCH_RADIUS_KM`.
-/

namespace FakeBolt.Matching

open Await Geo Kafka

inductive MatchingCall where
  | claimNearestDriver (longitude latitude radiusKm : Num)
  | send (record : ProducerRecord)

@[reducible] def MatchingCall.Reply : MatchingCall → Type
  | .claimNearestDriver _ _ _ => Option String
  | .send _ => Unit

structure MatchingWorld where
  pool : AvailablePool
  published : List ProducerRecord

/-- What the environment decides about one call: whether it fails, and which
of several closest drivers a claim finds. -/
structure MatchingInput where
  fault : Option JsError := none
  hint : Option String := none

/-- Redis and Kafka answering a call that does not fail. -/
def MatchingWorld.answer (dist : GeoDist) :
    (call : MatchingCall) → Option String → MatchingWorld →
      Except JsError call.Reply × MatchingWorld
  | .claimNearestDriver longitude latitude radiusKm, hint, world =>
      let claimed :=
        world.pool.claimNearestDriver dist longitude latitude radiusKm hint
      (.ok claimed.1, { world with pool := claimed.2 })
  | .send record, _, world =>
      (.ok (), { world with published := world.published ++ [record] })

/-- The same, where the environment may let the call fail. -/
def MatchingWorld.answerOrFail (dist : GeoDist) (call : MatchingCall)
    (input : MatchingInput) (world : MatchingWorld) :
    Except JsError call.Reply × MatchingWorld :=
  faultable (fun call world => MatchingWorld.answer dist call input.hint world)
    call input.fault world

abbrev MatchingM := Program MatchingCall.Reply JsError

namespace RedisService

def claimNearestDriver (lat lng radiusKm : Num) : MatchingM (Option String) :=
  -- GEO commands take longitude first
  Program.call (MatchingCall.claimNearestDriver lng lat radiusKm)

end RedisService

/-- `message['rideId']?.toString()`. -/
def messageKey : Message → Option String
  | .driverAssigned event => some event.rideId
  | _ => none

def publish (message : Message) : MatchingM Unit :=
  Program.call
    (MatchingCall.send { key := messageKey message, message := message })

structure RideRequestedPayload where
  rideId : String
  riderId : String
  pickupLat : Num
  pickupLng : Num
  deriving DecidableEq, Repr

structure DriverDeclinedPayload where
  rideId : String
  riderId : String
  pickupLat : Num
  pickupLng : Num
  declinedDriverId : String
  deriving DecidableEq, Repr

namespace MatchingService

def handleRideRequested (searchRadiusKm : Num) (now : Instant)
    (payload : RideRequestedPayload) : MatchingM Unit := do
  try
    let driverId ← RedisService.claimNearestDriver
      payload.pickupLat payload.pickupLng searchRadiusKm
    match truthy driverId with
    | none => pure ()
    | some driverId =>
        publish (.driverAssigned
          { rideId := payload.rideId
            riderId := payload.riderId
            driverId := driverId
            timestamp := isoString now })
  catch _ =>
    -- the error is logged and goes no further
    pure ()

def handleDriverDeclined (searchRadiusKm : Num) (now : Instant)
    (payload : DriverDeclinedPayload) : MatchingM Unit :=
  handleRideRequested searchRadiusKm now
    { rideId := payload.rideId
      riderId := payload.riderId
      pickupLat := payload.pickupLat
      pickupLng := payload.pickupLng }

inductive Inbound where
  | rideRequested (payload : RideRequestedPayload)
  | driverDeclined (payload : DriverDeclinedPayload)

def onMessage (searchRadiusKm : Num) (now : Instant) :
    Inbound → MatchingM Unit
  | .rideRequested payload => handleRideRequested searchRadiusKm now payload
  | .driverDeclined payload => handleDriverDeclined searchRadiusKm now payload

def eachMessage (searchRadiusKm : Num) (now : Instant)
    (value : Option Inbound) : MatchingM Unit :=
  Kafka.eachMessage (onMessage searchRadiusKm now) value

end MatchingService

/-! ## What a failure-free delivery does -/

def RideRequestedPayload.pickup (payload : RideRequestedPayload) : Position :=
  ⟨payload.pickupLng, payload.pickupLat⟩

def assignedRecord (now : Instant) (payload : RideRequestedPayload)
    (driverId : String) : ProducerRecord where
  key := some payload.rideId
  message := .driverAssigned
    { rideId := payload.rideId
      riderId := payload.riderId
      driverId := driverId
      timestamp := isoString now }

def MatchingWorld.answerWith (dist : GeoDist) (hint : Option String)
    (call : MatchingCall) (world : MatchingWorld) :
    Except JsError call.Reply × MatchingWorld :=
  MatchingWorld.answer dist call hint world

theorem exec_claimNearestDriver (dist : GeoDist) (hint : Option String)
    (lat lng radiusKm : Num) (world : MatchingWorld) :
    (RedisService.claimNearestDriver lat lng radiusKm).exec
        (MatchingWorld.answerWith dist hint) world =
      (.ok (GeoSet.search dist world.pool ⟨lng, lat⟩ radiusKm hint),
        { world with
          pool := (GeoSet.claim dist world.pool ⟨lng, lat⟩ radiusKm hint).2 }) := by
  simp [RedisService.claimNearestDriver, MatchingWorld.answerWith,
    MatchingWorld.answer, AvailablePool.claimNearestDriver]

@[simp] theorem exec_publish (dist : GeoDist) (hint : Option String)
    (message : Message) (world : MatchingWorld) :
    (publish message).exec (MatchingWorld.answerWith dist hint) world =
      (.ok (), { world with published := world.published ++
        [{ key := messageKey message, message := message }] }) := by
  simp [publish, MatchingWorld.answerWith, MatchingWorld.answer]

/-- A delivery either finds nobody and changes nothing, or removes one closest
driver from the pool and announces them. -/
theorem exec_handleRideRequested (dist : GeoDist) (hint : Option String)
    (searchRadiusKm : Num) (now : Instant) (payload : RideRequestedPayload)
    (world : MatchingWorld) :
    (MatchingService.handleRideRequested searchRadiusKm now payload).exec
        (MatchingWorld.answerWith dist hint) world =
      match GeoSet.search dist world.pool payload.pickup searchRadiusKm hint with
      | none => (.ok (), world)
      | some driverId =>
          (.ok (),
            { pool := world.pool.zrem driverId
              published :=
                if driverId = "" then world.published
                else world.published ++
                  [assignedRecord now payload driverId] }) := by
  have hpickup : (⟨payload.pickupLng, payload.pickupLat⟩ : Position) =
      payload.pickup := rfl
  simp only [MatchingService.handleRideRequested, Program.exec_tryCatch,
    Program.exec_bind, exec_claimNearestDriver, hpickup]
  cases hsearch : GeoSet.search dist world.pool payload.pickup
      searchRadiusKm hint with
  | none => simp [GeoSet.claim_none hsearch]
  | some driverId =>
      rw [GeoSet.claim_some hsearch, truthy_some]
      by_cases hempty : driverId = "" <;>
        simp [hempty, AvailablePool.zrem, assignedRecord, messageKey]

end FakeBolt.Matching
