import FakeBolt.AwaitGuarantees
import FakeBolt.DispatchSystem
import FakeBolt.UuidType

/-!
# Rides under way

The ids of a ride travel from the HTTP request over `ride.requested` and
`driver.assigned` to the later ride events.  Requests and deliveries of
ride-service and matching-service are under way at the same time, one awaited
call after the other; any call may fail, and Kafka may deliver a message any
number of times and in any order.
-/

namespace FakeBolt.Store.UuidType

open Ride

variable (uuid : UuidType)

/-- The row that an INSERT stores. -/
def row (ride : RideEntity) : Option RideEntity := do
  let id ← uuid.input ride.id
  let riderId ← uuid.input ride.riderId
  let driverId ← uuid.inputNullable ride.driverId
  pure { ride with id := id, riderId := riderId, driverId := driverId }

def patch (patch : RidePatch) : Option RidePatch := do
  let driverId ← uuid.inputNullable patch.driverId
  pure { patch with driverId := driverId }

/-- What is in the table is as Postgres prints it. -/
structure Stored (ride : RideEntity) : Prop where
  id : uuid.input ride.id = some ride.id
  riderId : uuid.input ride.riderId = some ride.riderId
  driverId : ∀ driverId, ride.driverId = some driverId →
    uuid.input driverId = some driverId

variable {uuid}

theorem stored_row {ride stored : RideEntity}
    (hrow : uuid.row ride = some stored) :
    uuid.Stored stored ∧ uuid.input ride.id = some stored.id ∧
      uuid.input ride.riderId = some stored.riderId := by
  unfold row at hrow
  obtain ⟨id, hid, hrow⟩ := Option.bind_eq_some_iff.mp hrow
  obtain ⟨riderId, hriderId, hrow⟩ := Option.bind_eq_some_iff.mp hrow
  obtain ⟨driverId, hdriverId, hrow⟩ := Option.bind_eq_some_iff.mp hrow
  cases hrow
  refine ⟨⟨uuid.input_output hid, uuid.input_output hriderId, ?_⟩,
    hid, hriderId⟩
  intro text htext
  exact inputNullable_eq_some (hdriverId.trans (congrArg some htext))

theorem stored_patch {ride : RideEntity} {given stored : RidePatch}
    (hstored : uuid.Stored ride) (hpatch : uuid.patch given = some stored) :
    uuid.Stored (stored.apply ride) := by
  unfold patch at hpatch
  obtain ⟨driverId, hdriverId, hpatch⟩ := Option.bind_eq_some_iff.mp hpatch
  cases hpatch
  refine ⟨hstored.id, hstored.riderId, ?_⟩
  intro text htext
  cases driverId with
  | none => exact hstored.driverId text htext
  | some assigned =>
      cases htext
      exact inputNullable_eq_some hdriverId

end FakeBolt.Store.UuidType

namespace FakeBolt.Audience

open Await Kafka Matching Ride Store Transition
open Dispatch (Deployment decodeForMatching)

/-! ## The world and its calls -/

structure TrafficWorld where
  rides : Table RideEntity
  pool : AvailablePool
  published : List ProducerRecord

variable (uuid : UuidType)

/-- Postgres, its id columns of type uuid, and Kafka. -/
def answerCall : (call : RideCall) → RideWorld →
    Except JsError call.Reply × RideWorld
  | .save ride, world =>
      match uuid.row ride with
      | none => (.error (UuidType.invalidInput ride.riderId), world)
      | some stored =>
          match world.rides.insert? stored with
          | none =>
              (.error (.queryFailed "23505"
                "duplicate key value violates unique constraint"), world)
          -- the entity keeps the texts it was given
          | some rides => (.ok ride, { world with rides := rides })
  | .findOneById id, world =>
      match uuid.input id with
      | none => (.error (UuidType.invalidInput id), world)
      | some key => (.ok (world.rides.get? key), world)
  | .update id given, world =>
      match uuid.patch given with
      | none =>
          (.error (UuidType.invalidInput (given.driverId.getD "")), world)
      | some patch =>
          match uuid.input id with
          | none => (.error (UuidType.invalidInput id), world)
          | some key =>
              (.ok (), { world with rides := world.rides.update key patch })
  | .send record, world => RideWorld.answer (.send record) world

/-- A call of ride-service, which the environment may let fail. -/
def answerRide (call : RideCall) (fault : Option JsError)
    (world : TrafficWorld) : Except JsError call.Reply × TrafficWorld :=
  let outcome :=
    faultable (answerCall uuid) call fault ⟨world.rides, world.published⟩
  (outcome.1,
    { world with
      rides := outcome.2.rides, published := outcome.2.published })

/-- A call of matching-service. -/
def answerMatching (dist : GeoDist) (call : MatchingCall)
    (input : MatchingInput) (world : TrafficWorld) :
    Except JsError call.Reply × TrafficWorld :=
  let outcome :=
    MatchingWorld.answerOrFail dist call input ⟨world.pool, world.published⟩
  (outcome.1,
    { world with pool := outcome.2.pool, published := outcome.2.published })

/-! ## What the services promise one another -/

/-- The ids are those of a ride in the table. -/
def Names (rides : Table RideEntity) (rideId riderId : String) : Prop :=
  ∃ ride, uuid.input rideId = some ride.id ∧
    uuid.input riderId = some ride.riderId ∧ rides.get? ride.id = some ride

def Grounded (rides : Table RideEntity) : Message → Prop
  | .rideRequested event => Names uuid rides event.rideId event.riderId
  | .driverAssigned event =>
      Names uuid rides event.rideId event.riderId ∧ event.driverId ≠ ""
  | .rideStatusUpdated event =>
      Names uuid rides event.rideId event.riderId ∧ event.driverId ≠ some ""
  | .rideCompleted event =>
      Names uuid rides event.rideId event.riderId ∧ event.driverId ≠ some ""
  | _ => True

structure TrafficInv (world : TrafficWorld) : Prop where
  rows : ∀ key ride, world.rides.get? key = some ride → uuid.Stored ride
  messages : ∀ record ∈ world.published,
    Grounded uuid world.rides record.message

/-- Rides stay, and stay their rider's. -/
def RidesStay (before after : TrafficWorld) : Prop :=
  ∀ key ride, before.rides.get? key = some ride →
    ∃ later, after.rides.get? key = some later ∧ later.riderId = ride.riderId

def promise : Guarantee TrafficWorld where
  Inv := TrafficInv uuid
  Keeps := RidesStay
  refl _ _ ride hride := ⟨ride, hride, rfl⟩
  trans := by
    intro first second third hfirst hsecond key ride hride
    obtain ⟨later, hlater, hrider⟩ := hfirst key ride hride
    obtain ⟨last, hlast, hsame⟩ := hsecond key later hlater
    exact ⟨last, hlast, hsame.trans hrider⟩

variable {uuid}

theorem Names.of_keeps {before after : TrafficWorld} {rideId riderId : String}
    (hnames : Names uuid before.rides rideId riderId)
    (hkeeps : RidesStay before after) :
    Names uuid after.rides rideId riderId := by
  obtain ⟨ride, hrideId, hriderId, hride⟩ := hnames
  obtain ⟨later, hlater, hrider⟩ := hkeeps ride.id ride hride
  have hkey : later.id = ride.id := Table.key_of_get? hlater
  exact ⟨later, by rw [hkey]; exact hrideId, by rw [hrider]; exact hriderId,
    by rw [hkey]; exact hlater⟩

theorem Grounded.of_keeps {before after : TrafficWorld} {message : Message}
    (hgrounded : Grounded uuid before.rides message)
    (hkeeps : RidesStay before after) :
    Grounded uuid after.rides message := by
  cases message with
  | rideRequested event => exact Names.of_keeps hgrounded hkeeps
  | driverAssigned event => exact ⟨hgrounded.1.of_keeps hkeeps, hgrounded.2⟩
  | rideStatusUpdated event => exact ⟨hgrounded.1.of_keeps hkeeps, hgrounded.2⟩
  | rideCompleted event => exact ⟨hgrounded.1.of_keeps hkeeps, hgrounded.2⟩
  | _ => trivial

/-- The rows change, and nothing is published. -/
theorem kept_of_rows {before after : TrafficWorld}
    (hinv : TrafficInv uuid before) (hpublished : after.published = before.published)
    (hrows : ∀ key ride, after.rides.get? key = some ride → uuid.Stored ride)
    (hkeeps : RidesStay before after) : (promise uuid).Kept before after := by
  refine ⟨⟨hrows, ?_⟩, hkeeps⟩
  intro record hrecord
  rw [hpublished] at hrecord
  exact (hinv.messages record hrecord).of_keeps hkeeps

/-- A message is published, and the rows stay. -/
theorem kept_of_message {before after : TrafficWorld} {record : ProducerRecord}
    (hinv : TrafficInv uuid before) (hrides : after.rides = before.rides)
    (hpublished : after.published = before.published ++ [record])
    (hgrounded : Grounded uuid before.rides record.message) :
    (promise uuid).Kept before after := by
  constructor
  · constructor
    · rw [hrides]
      exact hinv.rows
    · intro other hother
      rw [hpublished, List.mem_append, List.mem_singleton] at hother
      rw [hrides]
      rcases hother with hold | heq
      · exact hinv.messages other hold
      · rw [heq]
        exact hgrounded
  · intro key ride hride
    rw [hrides]
    exact ⟨ride, hride, rfl⟩

/-! ## Rules for the calls -/

section Calls

variable {world : TrafficWorld}

theorem maintains_save {ride : RideEntity}
    {post : Except JsError RideEntity → TrafficWorld → Prop}
    (hsaved : ∀ after, Names uuid after.rides ride.id ride.riderId →
      post (.ok ride) after)
    (hfailed : ∀ error after, post (.error error) after) :
    (RideRepository.save ride).Maintains (answerRide uuid) (promise uuid)
      world post := by
  rw [RideRepository.save, Program.maintains_call]
  intro fault later _ hinv
  cases fault with
  | some error => exact ⟨.self hinv, hfailed _ _⟩
  | none =>
      simp only [answerRide, faultable, answerCall]
      cases hrow : uuid.row ride with
      | none => exact ⟨.self hinv, hfailed _ _⟩
      | some stored =>
          obtain ⟨hstored, hid, hriderId⟩ := UuidType.stored_row hrow
          cases hinsert : later.rides.insert? stored with
          | none =>
              simp only [hinsert]
              exact ⟨.self hinv, hfailed _ _⟩
          | some rides =>
              simp only [hinsert]
              refine ⟨kept_of_rows hinv rfl ?_ ?_, hsaved _ ?_⟩
              · intro key other hother
                rw [Table.get?_of_insert? hinsert] at hother
                split at hother
                · cases hother
                  exact hstored
                · exact hinv.rows key other hother
              · intro key other hother
                have hold : key ≠ stored.id := by
                  intro heq
                  rw [heq] at hother
                  cases hother.symm.trans (Table.get?_eq_none_of_insert? hinsert)
                refine ⟨other, ?_, rfl⟩
                rw [Table.get?_of_insert? hinsert]
                exact (if_neg hold).trans hother
              · refine ⟨stored, hid, hriderId, ?_⟩
                rw [Table.get?_of_insert? hinsert]
                exact if_pos rfl

theorem maintains_findOneById {id : String}
    {post : Except JsError (Option RideEntity) → TrafficWorld → Prop}
    (hnone : ∀ after, post (.ok none) after)
    (hfound : ∀ after ride, uuid.Stored ride → uuid.input id = some ride.id →
      after.rides.get? ride.id = some ride → post (.ok (some ride)) after)
    (hfailed : ∀ error after, post (.error error) after) :
    (RideRepository.findOneById id).Maintains (answerRide uuid) (promise uuid)
      world post := by
  rw [RideRepository.findOneById, Program.maintains_call]
  intro fault later _ hinv
  cases fault with
  | some error => exact ⟨.self hinv, hfailed _ _⟩
  | none =>
      simp only [answerRide, faultable, answerCall]
      cases hid : uuid.input id with
      | none => exact ⟨.self hinv, hfailed _ _⟩
      | some key =>
          refine ⟨.self hinv, ?_⟩
          cases hride : later.rides.get? key with
          | none => simpa only [hride] using hnone _
          | some ride =>
              have hkey : ride.id = key := Table.key_of_get? hride
              subst hkey
              simpa only [hride] using
                hfound later ride (hinv.rows _ ride hride) hid hride

theorem maintains_update {id : String} {given : RidePatch}
    {post : Except JsError Unit → TrafficWorld → Prop}
    (hupdated : ∀ after, RidesStay world after → post (.ok ()) after)
    (hfailed : ∀ error after, post (.error error) after) :
    (RideRepository.update id given).Maintains (answerRide uuid) (promise uuid)
      world post := by
  rw [RideRepository.update, Program.maintains_call]
  intro fault later hkeeps hinv
  cases fault with
  | some error => exact ⟨.self hinv, hfailed _ _⟩
  | none =>
      simp only [answerRide, faultable, answerCall]
      cases hpatch : uuid.patch given with
      | none => exact ⟨.self hinv, hfailed _ _⟩
      | some patch =>
          cases hid : uuid.input id with
          | none => exact ⟨.self hinv, hfailed _ _⟩
          | some key =>
              have hstay : RidesStay later
                  { later with rides := later.rides.update key patch } := by
                intro other ride hride
                refine ⟨if other = key then patch.apply ride else ride, ?_, ?_⟩
                · change (later.rides.update key patch).get? other = _
                  rw [Table.get?_update, hride]
                  rfl
                · split <;> rfl
              refine ⟨kept_of_rows hinv rfl ?_ hstay,
                hupdated _ ((promise uuid).trans hkeeps hstay)⟩
              intro other ride hride
              change (later.rides.update key patch).get? other = _ at hride
              rw [Table.get?_update] at hride
              obtain ⟨before, hbefore, hafter⟩ := Option.map_eq_some_iff.mp hride
              have hstored := hinv.rows other before hbefore
              rw [← hafter]
              split
              · exact UuidType.stored_patch hstored hpatch
              · exact hstored

theorem maintains_publish {message : Message}
    {post : Except JsError Unit → TrafficWorld → Prop}
    (hgrounded : Grounded uuid world.rides message)
    (hpost : ∀ result after, post result after) :
    (Ride.publish message).Maintains (answerRide uuid) (promise uuid)
      world post := by
  simp only [Ride.publish, Program.maintains_tryCatch,
    Program.maintains_throw, Program.maintains_call]
  intro fault later hkeeps hinv
  cases fault with
  | some error => exact ⟨.self hinv, hpost _ _⟩
  | none =>
      exact ⟨kept_of_message hinv rfl rfl (hgrounded.of_keeps hkeeps),
        hpost _ _⟩

theorem maintains_getRide {id : String}
    {post : Except JsError RideEntity → TrafficWorld → Prop}
    (hfound : ∀ after ride, uuid.Stored ride → uuid.input id = some ride.id →
      after.rides.get? ride.id = some ride → post (.ok ride) after)
    (hfailed : ∀ error after, post (.error error) after) :
    (RideService.getRide id).Maintains (answerRide uuid) (promise uuid)
      world post := by
  simp only [RideService.getRide, Program.maintains_tryCatch,
    Program.maintains_bind]
  apply maintains_findOneById
  · intro after
    by_cases hmissing : JsError.isInstance .notFound
        (.http .notFound ("Ride " ++ id ++ " not found")) = true
    · simpa [hmissing] using hfailed _ _
    · simpa [hmissing] using hfailed _ _
  · intro after ride hstored hid hride
    simpa using hfound after ride hstored hid hride
  · intro error after
    by_cases hmissing : error.isInstance .notFound = true
    · simpa [hmissing] using hfailed _ _
    · simpa [hmissing] using hfailed _ _

theorem maintains_claim {dist : GeoDist} {lat lng radiusKm : Num}
    {post : Except JsError (Option String) → TrafficWorld → Prop}
    (hpost : ∀ result after, RidesStay world after → post result after) :
    (RedisService.claimNearestDriver lat lng radiusKm).Maintains
      (answerMatching dist) (promise uuid) world post := by
  rw [RedisService.claimNearestDriver, Program.maintains_call]
  intro input later hkeeps hinv
  simp only [answerMatching, MatchingWorld.answerOrFail]
  cases hfault : input.fault with
  | some fault => exact ⟨.self hinv, hpost _ _ hkeeps⟩
  | none =>
      exact ⟨kept_of_rows hinv rfl hinv.rows ((promise uuid).refl later),
        hpost _ _ hkeeps⟩

theorem maintains_announce {dist : GeoDist} {message : Message}
    {post : Except JsError Unit → TrafficWorld → Prop}
    (hgrounded : Grounded uuid world.rides message)
    (hpost : ∀ result after, post result after) :
    (Matching.publish message).Maintains (answerMatching dist) (promise uuid)
      world post := by
  rw [Matching.publish, Program.maintains_call]
  intro input later hkeeps hinv
  simp only [answerMatching, MatchingWorld.answerOrFail]
  cases hfault : input.fault with
  | some fault => exact ⟨.self hinv, hpost _ _⟩
  | none =>
      exact ⟨kept_of_message hinv rfl rfl (hgrounded.of_keeps hkeeps),
        hpost _ _⟩

end Calls

/-! ## The handlers -/

section Handlers

variable (uuid) (world : TrafficWorld)

theorem maintains_requestRide (newId : String) (createdAt now : Instant)
    (dto : RequestRideDto) :
    (RideService.requestRide newId createdAt now dto).Maintains
      (answerRide uuid) (promise uuid) world fun _ _ => True := by
  simp only [RideService.requestRide, Program.maintains_tryCatch,
    Program.maintains_bind]
  apply maintains_save
  · intro after hnames
    apply maintains_publish
    · exact hnames
    · intro result last
      cases result <;> trivial
  · intro error after
    trivial

theorem maintains_updateStatus (now : Instant) (id : String)
    (dto : Ride.UpdateStatusDto) :
    (RideService.updateStatus now id dto).Maintains
      (answerRide uuid) (promise uuid) world fun _ _ => True := by
  have hrethrow : ∀ (error : JsError) (after : TrafficWorld),
      (if error.isInstance .notFound = true then throw error
        else throw (.http .internalServerError
          "Failed to update ride status") : RideM RideEntity).Maintains
        (answerRide uuid) (promise uuid) after fun _ _ => True := by
    intro error after
    split <;> trivial
  simp only [RideService.updateStatus, Program.maintains_tryCatch,
    Program.maintains_bind]
  apply maintains_getRide
  · intro after ride hstored hid hride
    have hnames : Names uuid after.rides id ride.riderId :=
      ⟨ride, hid, hstored.riderId, hride⟩
    have hdriver : ride.driverId ≠ some "" := by
      intro hempty
      exact UuidType.ne_empty (hstored.driverId "" hempty) rfl
    apply maintains_update
    · intro later hkeeps
      apply maintains_publish
      · split
        · exact ⟨hnames.of_keeps hkeeps, hdriver⟩
        · exact ⟨hnames.of_keeps hkeeps, hdriver⟩
      · intro result last
        cases result with
        | ok value => trivial
        | error error => exact hrethrow error last
    · exact hrethrow
  · exact hrethrow

theorem maintains_handleDriverAssigned (now : Instant)
    (payload : DriverAssignedPayload) (hdriver : payload.driverId ≠ "") :
    (RideService.handleDriverAssigned now payload).Maintains
      (answerRide uuid) (promise uuid) world fun _ _ => True := by
  simp only [RideService.handleDriverAssigned, Program.maintains_tryCatch,
    Program.maintains_bind]
  apply maintains_update
  · intro after _
    apply maintains_getRide
    · intro later ride hstored hid hride
      apply maintains_publish
      · refine ⟨⟨ride, hid, hstored.riderId, hride⟩, ?_⟩
        simpa using hdriver
      · intro result last
        cases result <;> trivial
    · intro error later
      trivial
  · intro error after
    trivial

/-- The riderId of the request is handed on as it came. -/
theorem maintains_handleRideRequested (deployment : Deployment)
    (now : Instant) (payload : RideRequestedPayload)
    (hnames : Names uuid world.rides payload.rideId payload.riderId) :
    (MatchingService.handleRideRequested deployment.searchRadiusKm now
      payload).Maintains (answerMatching deployment.dist) (promise uuid) world
        fun _ _ => True := by
  simp only [MatchingService.handleRideRequested, Program.maintains_tryCatch,
    Program.maintains_bind]
  apply maintains_claim
  intro result after hkeeps
  cases result with
  | error error => trivial
  | ok found =>
      simp only
      cases hdriver : truthy found with
      | none => trivial
      | some driverId =>
          apply maintains_announce
          · exact ⟨hnames.of_keeps hkeeps, (truthy_eq_some_iff.mp hdriver).2⟩
          · intro outcome last
            cases outcome <;> trivial

/-- The consumer only rethrows. -/
theorem safe_eachMessage {Op ι P : Type} {Reply : Op → Type}
    {answer : (op : Op) → ι → TrafficWorld →
      Except JsError (Reply op) × TrafficWorld}
    {handler : P → Program Reply JsError Unit} {payload : P}
    (hhandler : (handler payload).Maintains answer (promise uuid) world
      fun _ _ => True) :
    (Kafka.eachMessage handler (some payload)).Safe answer (promise uuid)
      world := by
  unfold Program.Safe
  simp only [Kafka.eachMessage, Program.maintains_tryCatch]
  refine hhandler.mono ?_
  intro result after _
  cases result <;> trivial

end Handlers

/-! ## The system -/

/-- The requests and deliveries under way, beside the world they share. -/
structure Traffic where
  world : TrafficWorld
  serving : List (RideM Unit)
  matching : List (MatchingM Unit)

/-- A delivery names a message by its position in the log.  driver-service,
which is not followed here, may change the pool in any way. -/
inductive TrafficEvent where
  | requestRide (newId : String) (createdAt now : Instant)
      (dto : RequestRideDto)
  | updateStatus (now : Instant) (id : String) (dto : Ride.UpdateStatusDto)
  | rideRequested (position : ℕ) (now : Instant)
  | driverAssigned (position : ℕ) (now : Instant)
  | rideCall (index : ℕ) (fault : Option JsError)
  | matchingCall (index : ℕ) (input : MatchingInput)
  | poolChanged (pool : AvailablePool)

namespace Traffic

def initial : Traffic := ⟨⟨Table.empty, ∅, []⟩, [], []⟩

def serve {α : Type} (traffic : Traffic) (program : RideM α) : Traffic :=
  { traffic with
    serving := traffic.serving ++ [do
      let _ ← program
      pure ()] }

def message (traffic : Traffic) (position : ℕ) : Option Message :=
  traffic.world.published[position]?.map ProducerRecord.message

def step (uuid : UuidType) (deployment : Deployment) (traffic : Traffic) :
    TrafficEvent → Option Traffic
  | .requestRide newId createdAt now dto =>
      some (traffic.serve (RideService.requestRide newId createdAt now dto))
  | .updateStatus now id dto =>
      some (traffic.serve (RideService.updateStatus now id dto))
  | .rideRequested position now =>
      match traffic.message position with
      | some (.rideRequested event) =>
          some { traffic with
            matching := traffic.matching ++
              [MatchingService.eachMessage deployment.searchRadiusKm now
                (some (.rideRequested (decodeForMatching event)))] }
      | _ => none
  | .driverAssigned position now =>
      match traffic.message position with
      | some (.driverAssigned event) =>
          some { traffic with
            serving := traffic.serving ++
              [RideService.eachMessage now (some
                { rideId := event.rideId, driverId := event.driverId })] }
      | _ => none
  | .rideCall index fault =>
      (Program.advanceAt (answerRide uuid) traffic.serving index fault
        traffic.world).map fun outcome =>
          { traffic with serving := outcome.1, world := outcome.2 }
  | .matchingCall index input =>
      (Program.advanceAt (answerMatching deployment.dist) traffic.matching
        index input traffic.world).map fun outcome =>
          { traffic with matching := outcome.1, world := outcome.2 }
  | .poolChanged pool =>
      some { traffic with world := { traffic.world with pool := pool } }

end Traffic

/-- Everything under way keeps the promise to its end. -/
structure TrafficSound (uuid : UuidType) (deployment : Deployment)
    (traffic : Traffic) : Prop where
  inv : TrafficInv uuid traffic.world
  serving : ∀ program ∈ traffic.serving,
    program.Safe (answerRide uuid) (promise uuid) traffic.world
  matching : ∀ program ∈ traffic.matching,
    program.Safe (answerMatching deployment.dist) (promise uuid) traffic.world

variable {deployment : Deployment}

theorem TrafficSound.initial :
    TrafficSound uuid deployment Traffic.initial := by
  constructor
  · constructor
    · intro key ride hride
      cases hride
    · intro record hrecord
      cases hrecord
  · intro program hprogram
    cases hprogram
  · intro program hprogram
    cases hprogram

theorem TrafficSound.grounded {traffic : Traffic} {position : ℕ}
    {message : Message} (hsound : TrafficSound uuid deployment traffic)
    (hmessage : traffic.message position = some message) :
    Grounded uuid traffic.world.rides message := by
  obtain ⟨record, hrecord, heq⟩ := Option.map_eq_some_iff.mp hmessage
  rw [← heq]
  exact hsound.inv.messages record (List.mem_of_getElem? hrecord)

theorem TrafficSound.serve {traffic : Traffic} {α : Type}
    {program : RideM α} (hsound : TrafficSound uuid deployment traffic)
    (hprogram : program.Maintains (answerRide uuid) (promise uuid)
      traffic.world fun _ _ => True) :
    TrafficSound uuid deployment (traffic.serve program) := by
  refine ⟨hsound.inv, Program.forall_safe_append hsound.serving ?_,
    hsound.matching⟩
  rw [Program.Safe, Program.maintains_bind]
  refine hprogram.mono ?_
  intro result after _
  cases result <;> trivial

theorem TrafficSound.step {traffic next : Traffic} {event : TrafficEvent}
    (hsound : TrafficSound uuid deployment traffic)
    (hstep : traffic.step uuid deployment event = some next) :
    TrafficSound uuid deployment next := by
  cases event with
  | requestRide newId createdAt now dto =>
      cases hstep
      exact hsound.serve (maintains_requestRide uuid _ newId createdAt now dto)
  | updateStatus now id dto =>
      cases hstep
      exact hsound.serve (maintains_updateStatus uuid _ now id dto)
  | rideRequested position now =>
      simp only [Traffic.step] at hstep
      split at hstep
      · rename_i event hmessage
        cases hstep
        have hnames : Names uuid traffic.world.rides event.rideId event.riderId :=
          hsound.grounded hmessage
        exact ⟨hsound.inv, hsound.serving,
          Program.forall_safe_append hsound.matching
            (safe_eachMessage uuid _ (maintains_handleRideRequested uuid _
              deployment now (decodeForMatching event) hnames))⟩
      · cases hstep
  | driverAssigned position now =>
      simp only [Traffic.step] at hstep
      split at hstep
      · rename_i event hmessage
        cases hstep
        have hgrounded : Grounded uuid traffic.world.rides
            (.driverAssigned event) := hsound.grounded hmessage
        exact ⟨hsound.inv,
          Program.forall_safe_append hsound.serving
            (safe_eachMessage uuid _ (maintains_handleDriverAssigned uuid _
              now ⟨event.rideId, event.driverId⟩ hgrounded.2)),
          hsound.matching⟩
      · cases hstep
  | rideCall index fault =>
      obtain ⟨⟨serving, world⟩, hadvance, heq⟩ :=
        Option.map_eq_some_iff.mp hstep
      subst heq
      obtain ⟨hkept, hserving⟩ :=
        Program.forall_safe_advanceAt hsound.serving hsound.inv hadvance
      exact ⟨hkept.inv, hserving,
        Program.forall_safe_of_keeps hsound.matching hkept.keeps⟩
  | matchingCall index input =>
      obtain ⟨⟨matching, world⟩, hadvance, heq⟩ :=
        Option.map_eq_some_iff.mp hstep
      subst heq
      obtain ⟨hkept, hmatching⟩ :=
        Program.forall_safe_advanceAt hsound.matching hsound.inv hadvance
      exact ⟨hkept.inv,
        Program.forall_safe_of_keeps hsound.serving hkept.keeps, hmatching⟩
  | poolChanged pool =>
      cases hstep
      have hkeeps : RidesStay traffic.world
          { traffic.world with pool := pool } := (promise uuid).refl _
      exact ⟨⟨hsound.inv.rows, hsound.inv.messages⟩,
        Program.forall_safe_of_keeps hsound.serving hkeeps,
        Program.forall_safe_of_keeps hsound.matching hkeeps⟩

end FakeBolt.Audience
