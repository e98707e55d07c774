import FakeBolt.DriverRequests

/-!
# Ride events delivered again

Assignments and ride endings come to driver-service on topics with offsets of
their own, and each may come again at any time.  The handlers tell a repeated
event only by the status of the driver, so what counts is which kind of event
about the driver came last.
-/

namespace FakeBolt.Driver

open Await Store

inductive RideDelivery where
  | assigned (event : DriverAssignedEvent)
  | completed (event : RideFinishedEvent)
  | cancelled (rideId : String) (driverId : Option String)
  deriving DecidableEq, Repr

namespace RideDelivery

def inbound : RideDelivery → DriverService.Inbound
  | .assigned event => .driverAssigned event
  | .completed event => .rideCompleted event
  | .cancelled rideId driverId =>
      .rideStatusUpdated ⟨rideId, driverId, "cancelled"⟩

/-- The driver that the delivery names, if any. -/
def driver : RideDelivery → Option String
  | .assigned event => some event.driverId
  | .completed event => truthy event.driverId
  | .cancelled _ driverId => truthy driverId

def action : RideDelivery → DriverAction
  | .assigned _ => .assign
  | .completed _ => .release
  | .cancelled _ _ => .release

def deliver (now : Instant) (delivery : RideDelivery) (world : DriverWorld) :
    DriverWorld :=
  (Request.message now delivery.inbound).run world

end RideDelivery

variable {world : DriverWorld} {deliveries : List (Instant × RideDelivery)}
  {delivery : RideDelivery}

end FakeBolt.Driver
