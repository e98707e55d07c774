import FakeBolt.JsonObjects
import FakeBolt.KafkaMessages

/-!
# notification-service

The handlers of `NotificationService` and `emitToUser` of the gateway.  A
handler awaits nothing, so what it does is a list of effects; every socket of
a user has joined the room named after the user's id.
-/

namespace FakeBolt.Notification

open Json Kafka

/-- `!value`. -/
def falsy : JsValue → Bool
  | .undefined => true
  | .null => true
  | .boolean value => !value
  | .number value => value == 0
  | .string value => value == ""
  | .date _ => false

inductive GatewayEffect where
  | skipped (event : String)
  | emitted (room : JsValue) (event : String) (payload : JsObject)

namespace NotificationGateway

def emitToUser (userId : JsValue) (event : String) (payload : JsObject) :
    GatewayEffect :=
  if falsy userId then .skipped event
  else .emitted userId event payload

end NotificationGateway

open NotificationGateway

/-- The topics that have a handler. -/
inductive Subscription where
  | driverAssigned
  | rideStatusUpdated
  | rideCompleted
  | paymentCompleted
  | paymentFailed
  deriving DecidableEq, Repr

namespace NotificationService

def assignedNotice (payload : JsObject) : JsObject where
  entries :=
    [("rideId", payload.get "rideId"), ("driverId", payload.get "driverId"),
      ("message", .string "A driver has been assigned to your ride")]
  nodup := by simp

def requestNotice (payload : JsObject) : JsObject where
  entries :=
    [("rideId", payload.get "rideId"), ("riderId", payload.get "riderId"),
      ("message", .string "New ride request")]
  nodup := by simp

def statusNotice (payload : JsObject) : JsObject where
  entries :=
    [("rideId", payload.get "rideId"), ("status", payload.get "status")]
  nodup := by simp

def completedNotice (payload : JsObject) (message : String) : JsObject where
  entries :=
    [("rideId", payload.get "rideId"), ("fare", payload.get "fare"),
      ("message", .string message)]
  nodup := by simp

def paidNotice (payload : JsObject) : JsObject where
  entries :=
    [("rideId", payload.get "rideId"), ("amount", payload.get "amount"),
      ("message", .string "Payment processed successfully")]
  nodup := by simp

def paymentFailedNotice (payload : JsObject) : JsObject where
  entries :=
    [("rideId", payload.get "rideId"),
      ("message", .string "Payment failed, please try again")]
  nodup := by simp

/-- `if (payload.driverId)`. -/
def ifDriver (payload : JsObject) (effect : GatewayEffect) :
    List GatewayEffect :=
  if falsy (payload.get "driverId") then [] else [effect]

def handler : Subscription → JsObject → List GatewayEffect
  | .driverAssigned, payload =>
      [emitToUser (payload.get "riderId") "driver_assigned"
          (assignedNotice payload),
        emitToUser (payload.get "driverId") "ride_request"
          (requestNotice payload)]
  | .rideStatusUpdated, payload =>
      emitToUser (payload.get "riderId") "ride_status_updated"
          (statusNotice payload) ::
        ifDriver payload
          (emitToUser (payload.get "driverId") "ride_status_updated"
            (statusNotice payload))
  | .rideCompleted, payload =>
      emitToUser (payload.get "riderId") "ride_completed"
          (completedNotice payload "Your ride has been completed") ::
        ifDriver payload
          (emitToUser (payload.get "driverId") "ride_completed"
            (completedNotice payload "Ride completed"))
  | .paymentCompleted, payload =>
      [emitToUser (payload.get "riderId") "payment_completed"
        (paidNotice payload)]
  | .paymentFailed, payload =>
      [emitToUser (payload.get "riderId") "payment_failed"
        (paymentFailedNotice payload)]

/-- The handler registered for a topic of the services modelled here; nothing
here publishes to the payment topics. -/
def subscription : Topic → Option Subscription
  | .driverAssigned => some .driverAssigned
  | .rideStatusUpdated => some .rideStatusUpdated
  | .rideCompleted => some .rideCompleted
  | _ => none

/-- The effects of a message; on a topic without a handler there are none. -/
def eachMessage (topic : Topic) (payload : JsObject) : List GatewayEffect :=
  match subscription topic with
  | none => []
  | some registered => handler registered payload

end NotificationService

/-! ## Whom a handler reaches -/

/-- An emission to the room of a user, about a ride. -/
def GatewayEffect.Reaches (effect : GatewayEffect) (userId : String)
    (rideId : JsValue) : Prop :=
  ∃ event payload, effect = .emitted (.string userId) event payload ∧
    payload.get "rideId" = rideId

open NotificationService

theorem emitToUser_reaches {userId : JsValue} {user : String}
    (huser : userId = .string user) (hne : user ≠ "") (event : String)
    (payload : JsObject) :
    (emitToUser userId event payload).Reaches user (payload.get "rideId") := by
  have htruthy : falsy userId = false := by
    rw [huser]
    simpa [falsy] using hne
  refine ⟨event, payload, ?_, rfl⟩
  rw [emitToUser, htruthy, huser]
  rfl

/-- One emission to each of the users, in this order, and nothing else. -/
def ReachExactly (effects : List GatewayEffect) (users : List String)
    (rideId : JsValue) : Prop :=
  List.Forall₂ (fun effect user => effect.Reaches user rideId) effects users

section Handlers

variable {payload : JsObject} {riderId : String}

theorem driverAssigned_reaches {driverId : String}
    (hrider : payload.get "riderId" = .string riderId) (hriderId : riderId ≠ "")
    (hdriver : payload.get "driverId" = .string driverId)
    (hdriverId : driverId ≠ "") :
    ReachExactly (handler .driverAssigned payload) [riderId, driverId]
      (payload.get "rideId") :=
  .cons (emitToUser_reaches hrider hriderId _ _)
    (.cons (emitToUser_reaches hdriver hdriverId _ _) .nil)

/-- The driver of a ride that may have none. -/
theorem ifDriver_reaches {driverId : Option String}
    (hdriver : payload.get "driverId" = .ofString? driverId)
    (hdriverId : driverId ≠ some "") (event : String) {notice : JsObject}
    {rideId : JsValue} (hnotice : notice.get "rideId" = rideId) :
    ReachExactly
      (ifDriver payload (emitToUser (payload.get "driverId") event notice))
      driverId.toList rideId := by
  subst hnotice
  cases driverId with
  | none =>
      have hfalsy : falsy (payload.get "driverId") = true := by
        rw [hdriver]
        rfl
      rw [ifDriver, if_pos hfalsy]
      exact .nil
  | some driverId =>
      have hne : driverId ≠ "" := fun hempty => hdriverId (by rw [hempty])
      have htruthy : ¬ falsy (payload.get "driverId") = true := by
        rw [hdriver]
        simpa [JsValue.ofString?, falsy] using hne
      rw [ifDriver, if_neg htruthy]
      exact .cons (emitToUser_reaches hdriver hne _ _) .nil

theorem rideStatusUpdated_reaches {driverId : Option String}
    (hrider : payload.get "riderId" = .string riderId) (hriderId : riderId ≠ "")
    (hdriver : payload.get "driverId" = .ofString? driverId)
    (hdriverId : driverId ≠ some "") :
    ReachExactly (handler .rideStatusUpdated payload)
      (riderId :: driverId.toList) (payload.get "rideId") :=
  .cons (emitToUser_reaches hrider hriderId _ _)
    (ifDriver_reaches hdriver hdriverId _ rfl)

theorem rideCompleted_reaches {driverId : Option String}
    (hrider : payload.get "riderId" = .string riderId) (hriderId : riderId ≠ "")
    (hdriver : payload.get "driverId" = .ofString? driverId)
    (hdriverId : driverId ≠ some "") :
    ReachExactly (handler .rideCompleted payload)
      (riderId :: driverId.toList) (payload.get "rideId") :=
  .cons (emitToUser_reaches hrider hriderId _ _)
    (ifDriver_reaches hdriver hdriverId _ rfl)

end Handlers

end FakeBolt.Notification
