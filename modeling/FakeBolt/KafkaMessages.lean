import FakeBolt.AwaitProgram
import FakeBolt.JsRuntime

/-!
# Topics, messages and consumers

What travels between the services, with the field names of the producers'
object literals.  A consumer sees `null` and a missing field the same way
(`??`, `!= null` and truthiness do not tell them apart), so `none` stands for
both.
-/

namespace FakeBolt

inductive RideStatus where
  | requested
  | matched
  | inProgress
  | completed
  | cancelled
  deriving DecidableEq, Repr

/-- The value of the enum, as it is stored and sent. -/
def RideStatus.value : RideStatus → String
  | .requested => "requested"
  | .matched => "matched"
  | .inProgress => "in_progress"
  | .completed => "completed"
  | .cancelled => "cancelled"

inductive DriverStatus where
  | available
  | busy
  | offline
  deriving DecidableEq, Repr

namespace Kafka

structure RideRequested where
  rideId : String
  riderId : String
  pickupLat : Num
  pickupLng : Num
  destinationLat : Num
  destinationLng : Num
  timestamp : String
  deriving DecidableEq

structure DriverAssigned where
  rideId : String
  riderId : String
  driverId : String
  timestamp : String
  deriving DecidableEq

/-- The part of a ride event that only `ride.completed` carries. -/
structure CompletedTrip where
  pickupLat : Num
  pickupLng : Num
  destinationLat : Num
  destinationLng : Num
  requestedAt : Instant
  completedAt : String
  deriving DecidableEq

/-- `ride.status.updated` and `ride.completed`. -/
structure RideUpdated where
  rideId : String
  riderId : String
  driverId : Option String
  status : RideStatus
  fare : Option Num
  trip : Option CompletedTrip
  timestamp : String
  deriving DecidableEq

structure UserPhotoUpdated where
  userId : String
  role : String
  hasPhoto : Bool
  timestamp : String
  deriving DecidableEq

/-- `reason` and `rideId` are present only when the system made the change. -/
structure DriverStatusUpdated where
  driverId : String
  status : DriverStatus
  reason : Option String
  rideId : Option String
  timestamp : String
  deriving DecidableEq

structure DriverLocationUpdated where
  driverId : String
  lat : Num
  lng : Num
  timestamp : String
  deriving DecidableEq

inductive Topic where
  | rideRequested
  | driverAssigned
  | rideStatusUpdated
  | rideCompleted
  | userPhotoUpdated
  | driverStatusUpdated
  | driverLocationUpdated
  deriving DecidableEq, Repr

inductive Message where
  | rideRequested (event : RideRequested)
  | driverAssigned (event : DriverAssigned)
  | rideStatusUpdated (event : RideUpdated)
  | rideCompleted (event : RideUpdated)
  | userPhotoUpdated (event : UserPhotoUpdated)
  | driverStatusUpdated (event : DriverStatusUpdated)
  | driverLocationUpdated (event : DriverLocationUpdated)
  deriving DecidableEq

def Message.topic : Message → Topic
  | .rideRequested _ => .rideRequested
  | .driverAssigned _ => .driverAssigned
  | .rideStatusUpdated _ => .rideStatusUpdated
  | .rideCompleted _ => .rideCompleted
  | .userPhotoUpdated _ => .userPhotoUpdated
  | .driverStatusUpdated _ => .driverStatusUpdated
  | .driverLocationUpdated _ => .driverLocationUpdated

/-- What a producer sends: the partitioning key, if it sets one, and the
message. -/
structure ProducerRecord where
  key : Option String
  message : Message
  deriving DecidableEq

open Await

/-- `eachMessage`, the same in every consumer: a value that does not parse is
skipped, and an error of the handler is rethrown so that the client does not
commit the offset. -/
def eachMessage {Op : Type} {Reply : Op → Type} {P : Type}
    (handler : P → Program Reply JsError Unit) (value : Option P) :
    Program Reply JsError Unit :=
  match value with
  | none => pure ()
  | some payload =>
      tryCatch (handler payload) fun error => throw error

theorem exec_eachMessage {Op σ P : Type} {Reply : Op → Type}
    (answer : (op : Op) → σ → Except JsError (Reply op) × σ)
    (handler : P → Program Reply JsError Unit) (payload : P) (state : σ) :
    (eachMessage handler (some payload)).exec answer state =
      (handler payload).exec answer state := by
  simp only [eachMessage, Program.exec_tryCatch, Program.exec_throw]
  cases hrun : (handler payload).exec answer state with
  | mk result after => cases result <;> rfl

end Kafka

end FakeBolt
