import FakeBolt.RideHistory

/-!
# The fare of a ride over time

A status update stores its fare through a truthiness test, but announces and
returns it through `??`.  The three agree until an update charges nothing for
a ride that has another fare, or none.
-/

namespace FakeBolt.Ride

open Await Kafka Store

namespace RideEvent

end RideEvent

variable {world : RideWorld} {id : String}

end FakeBolt.Ride
