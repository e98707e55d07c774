import FakeBolt.RideRequests
import Mathlib.Data.List.Induction

/-!
# The status of a ride over time

A status update sets whatever status it carries, and a `driver.assigned` sets
`matched`; neither looks at the status it replaces.  The status of a ride is
therefore what the last event about it says.
-/

namespace FakeBolt.Ride

open Await Kafka Store

inductive RideEvent where
  | updateStatus (now : Instant) (id : String) (dto : UpdateStatusDto)
  | driverAssigned (now : Instant) (payload : DriverAssignedPayload)
  deriving DecidableEq, Repr

namespace RideEvent

def run (event : RideEvent) (world : RideWorld) : RideWorld :=
  match event with
  | .updateStatus now id dto =>
      ((RideService.updateStatus now id dto).exec RideWorld.answer world).2
  | .driverAssigned now payload =>
      ((RideService.eachMessage now (some payload)).exec
        RideWorld.answer world).2

def rideId : RideEvent → String
  | .updateStatus _ id _ => id
  | .driverAssigned _ payload => payload.rideId

end RideEvent

def RideWorld.after (world : RideWorld) (events : List RideEvent) :
    RideWorld :=
  events.foldl (fun world event => event.run world) world

def RideWorld.status (world : RideWorld) (id : String) : Option RideStatus :=
  (world.rides.get? id).map RideEntity.status

variable {world : RideWorld} {id : String} {events : List RideEvent}

def openRide : RideEntity where
  id := "r"
  riderId := "u"
  driverId := none
  status := .requested
  pickupLat := 0
  pickupLng := 0
  destinationLat := 1
  destinationLng := 1
  fare := none
  createdAt := 0

def openWorld : RideWorld where
  rides := ⟨[openRide], List.pairwise_singleton _ _⟩
  published := []

end FakeBolt.Ride
