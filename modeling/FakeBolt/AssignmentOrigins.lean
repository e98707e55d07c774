import FakeBolt.RideAudience

/-!
# Where a ride's driver comes from

Requests and deliveries of ride-service and matching-service are under way at
the same time, any call may fail and any message may be delivered again.  A
driver on a ride, in its row or in an event about it, can be traced back to an
announcement of matching-service, and the announcement to the request of the
ride.
-/

namespace FakeBolt.Audience

open Await Kafka Matching Ride Store Transition
open Dispatch (Deployment decodeForMatching)

/-! ## The log only grows -/

section Log

variable (uuid : UuidType) (deployment : Deployment)

theorem published_answerRide (call : RideCall) (fault : Option JsError)
    (world : TrafficWorld) :
    world.published <+: (answerRide uuid call fault world).2.published := by
  cases fault with
  | some error => exact List.prefix_rfl
  | none =>
      simp only [answerRide, faultable]
      cases call with
      | save ride =>
          simp only [answerCall]
          split
          · exact List.prefix_rfl
          · split <;> exact List.prefix_rfl
      | findOneById id =>
          simp only [answerCall]
          split <;> exact List.prefix_rfl
      | update id given =>
          simp only [answerCall]
          split
          · exact List.prefix_rfl
          · split <;> exact List.prefix_rfl
      | send record => exact List.prefix_append _ _

theorem published_answerMatching (call : MatchingCall) (input : MatchingInput)
    (world : TrafficWorld) :
    world.published <+:
      (answerMatching deployment.dist call input world).2.published := by
  unfold answerMatching MatchingWorld.answerOrFail faultable
  cases input.fault with
  | some error => exact List.prefix_rfl
  | none =>
      cases call with
      | claimNearestDriver longitude latitude radiusKm => exact List.prefix_rfl
      | send record => exact List.prefix_append _ _

variable {uuid deployment}

theorem published_step {traffic next : Traffic} {event : TrafficEvent}
    (hstep : traffic.step uuid deployment event = some next) :
    traffic.world.published <+: next.world.published := by
  cases event with
  | requestRide newId createdAt now dto =>
      cases hstep
      exact List.prefix_rfl
  | updateStatus now id dto =>
      cases hstep
      exact List.prefix_rfl
  | rideRequested position now =>
      simp only [Traffic.step] at hstep
      split at hstep
      · cases hstep
        exact List.prefix_rfl
      · cases hstep
  | driverAssigned position now =>
      simp only [Traffic.step] at hstep
      split at hstep
      · cases hstep
        exact List.prefix_rfl
      · cases hstep
  | rideCall index fault =>
      obtain ⟨⟨serving, world⟩, hadvance, heq⟩ :=
        Option.map_eq_some_iff.mp hstep
      subst heq
      exact Program.rel_of_advanceAt
        (fun before after => before.published <+: after.published)
        (fun call => published_answerRide uuid call fault traffic.world) hadvance
  | matchingCall index input =>
      obtain ⟨⟨matching, world⟩, hadvance, heq⟩ :=
        Option.map_eq_some_iff.mp hstep
      subst heq
      exact Program.rel_of_advanceAt
        (fun before after => before.published <+: after.published)
        (fun call => published_answerMatching deployment call input traffic.world) hadvance
  | poolChanged pool =>
      cases hstep
      exact List.prefix_rfl

end Log

/-! ## Origins -/

/-- Texts that are the same uuid. -/
def SameId (uuid : UuidType) (first second : String) : Prop :=
  ∃ id, uuid.input first = some id ∧ uuid.input second = some id

/-- matching-service has announced the driver for the ride. -/
def Announced (uuid : UuidType) (published : List ProducerRecord)
    (rideId driverId : String) : Prop :=
  ∃ record ∈ published, ∃ event, record.message = .driverAssigned event ∧
    SameId uuid event.rideId rideId ∧ SameId uuid event.driverId driverId

/-- The ride of an announcement has been requested, by this rider, and the
driver that an event of a ride names has been announced. -/
def Descends (uuid : UuidType) (published : List ProducerRecord) :
    Message → Prop
  | .driverAssigned event =>
      ∃ record ∈ published, ∃ request, record.message = .rideRequested request ∧
        request.rideId = event.rideId ∧ request.riderId = event.riderId
  | .rideStatusUpdated event =>
      ∀ driverId, event.driverId = some driverId →
        Announced uuid published event.rideId driverId
  | .rideCompleted event =>
      ∀ driverId, event.driverId = some driverId →
        Announced uuid published event.rideId driverId
  | _ => True

structure Lineage (uuid : UuidType) (world : TrafficWorld) : Prop where
  stored : ∀ key ride, world.rides.get? key = some ride →
    uuid.input ride.id = some ride.id
  rows : ∀ key ride, world.rides.get? key = some ride →
    ∀ driverId, ride.driverId = some driverId →
      Announced uuid world.published ride.id driverId
  messages : ∀ record ∈ world.published,
    Descends uuid world.published record.message

def lineage (uuid : UuidType) : Guarantee TrafficWorld where
  Inv := Lineage uuid
  Keeps before after := before.published <+: after.published
  refl _ := List.prefix_rfl
  trans := List.IsPrefix.trans

variable {uuid : UuidType}

theorem Announced.later {before after : List ProducerRecord}
    {rideId driverId : String} (hannounced : Announced uuid before rideId driverId)
    (hgrown : before <+: after) : Announced uuid after rideId driverId := by
  obtain ⟨record, hrecord, hevent⟩ := hannounced
  exact ⟨record, hgrown.subset hrecord, hevent⟩

theorem Announced.of_sameId {published : List ProducerRecord}
    {rideId other driverId : String}
    (hannounced : Announced uuid published rideId driverId)
    (hsame : SameId uuid rideId other) :
    Announced uuid published other driverId := by
  obtain ⟨record, hrecord, event, hevent, ⟨id, hid, hrideId⟩, hdriver⟩ :=
    hannounced
  obtain ⟨id', hid', hother⟩ := hsame
  rw [hrideId, Option.some.injEq] at hid'
  subst hid'
  exact ⟨record, hrecord, event, hevent, ⟨id, hid, hother⟩, hdriver⟩

theorem Announced.of_driver {published : List ProducerRecord}
    {rideId driverId other : String}
    (hannounced : Announced uuid published rideId driverId)
    (hsame : SameId uuid driverId other) :
    Announced uuid published rideId other := by
  obtain ⟨record, hrecord, event, hevent, hride, ⟨id, hid, hdriverId⟩⟩ :=
    hannounced
  obtain ⟨id', hid', hother⟩ := hsame
  rw [hdriverId, Option.some.injEq] at hid'
  subst hid'
  exact ⟨record, hrecord, event, hevent, hride, ⟨id, hid, hother⟩⟩

theorem Descends.later {before after : List ProducerRecord}
    {message : Message} (hdescends : Descends uuid before message)
    (hgrown : before <+: after) : Descends uuid after message := by
  cases message with
  | driverAssigned event =>
      obtain ⟨record, hrecord, hrequest⟩ := hdescends
      exact ⟨record, hgrown.subset hrecord, hrequest⟩
  | rideStatusUpdated event =>
      exact fun driverId hdriver => (hdescends driverId hdriver).later hgrown
  | rideCompleted event =>
      exact fun driverId hdriver => (hdescends driverId hdriver).later hgrown
  | _ => trivial

/-- A message is published, and the rows stay. -/
theorem Lineage.publish {before after : TrafficWorld} {record : ProducerRecord}
    (hinv : Lineage uuid before) (hrides : after.rides = before.rides)
    (hpublished : after.published = before.published ++ [record])
    (hdescends : Descends uuid before.published record.message) :
    (lineage uuid).Kept before after := by
  have hgrown : before.published <+: after.published := by
    rw [hpublished]
    exact List.prefix_append _ _
  refine ⟨⟨?_, ?_, ?_⟩, hgrown⟩
  · rw [hrides]
    exact hinv.stored
  · rw [hrides]
    intro key ride hride driverId hdriver
    exact (hinv.rows key ride hride driverId hdriver).later hgrown
  · intro other hother
    rw [hpublished, List.mem_append, List.mem_singleton] at hother
    rcases hother with hold | heq
    · exact (hinv.messages other hold).later hgrown
    · rw [heq]
      exact hdescends.later hgrown

theorem given_of_patch {given patch : RidePatch} {driverId : String}
    (hpatch : uuid.patch given = some patch)
    (hdriver : patch.driverId = some driverId) :
    ∃ text, given.driverId = some text ∧ uuid.input text = some driverId := by
  obtain ⟨assigned, hassigned, heq⟩ := Option.bind_eq_some_iff.mp hpatch
  cases heq
  cases hgiven : given.driverId with
  | none =>
      rw [hgiven] at hassigned
      cases hassigned
      cases hdriver
  | some text =>
      rw [hgiven] at hassigned
      obtain ⟨stored, hstored, hsome⟩ := Option.map_eq_some_iff.mp hassigned
      cases hsome
      cases hdriver
      exact ⟨text, rfl, hstored⟩

theorem sameId_of_patch {given patch : RidePatch}
    (hpatch : uuid.patch given = some patch) :
    ∀ driverId, given.driverId = some driverId →
      SameId uuid driverId driverId := by
  intro driverId hgiven
  obtain ⟨assigned, hassigned, -⟩ := Option.bind_eq_some_iff.mp hpatch
  rw [hgiven] at hassigned
  obtain ⟨stored, hstored, -⟩ := Option.map_eq_some_iff.mp hassigned
  exact ⟨stored, hstored, hstored⟩

/-! ## Rules for the calls -/

section Calls

variable {world : TrafficWorld}

/-- A ride starts without a driver. -/
theorem descends_save {ride : RideEntity} (hdriver : ride.driverId = none)
    {post : Except JsError RideEntity → TrafficWorld → Prop}
    (hpost : ∀ result after, post result after) :
    (RideRepository.save ride).Maintains (answerRide uuid) (lineage uuid)
      world post := by
  rw [RideRepository.save, Program.maintains_call]
  intro fault later _ hinv
  refine ⟨⟨?_, published_answerRide uuid _ fault later⟩, hpost _ _⟩
  cases fault with
  | some error => exact hinv
  | none =>
      simp only [answerRide, faultable, answerCall]
      cases hrow : uuid.row ride with
      | none => exact hinv
      | some stored =>
          have hstored : stored.driverId = none := by
            simp only [UuidType.row, hdriver, UuidType.inputNullable,
              Option.bind_eq_bind, Option.bind_some, Option.bind_eq_some_iff]
              at hrow
            obtain ⟨id, -, riderId, -, heq⟩ := hrow
            cases heq
            rfl
          simp only
          cases hinsert : later.rides.insert? stored with
          | none => exact hinv
          | some rides =>
              have hget := Table.get?_of_insert? hinsert
              refine ⟨?_, ?_, hinv.messages⟩
              · intro key other hother
                change rides.get? key = some other at hother
                rw [hget] at hother
                split at hother
                · cases hother
                  exact (UuidType.stored_row hrow).1.id
                · exact hinv.stored key other hother
              · intro key other hother driverId hnamed
                change rides.get? key = some other at hother
                rw [hget] at hother
                split at hother
                · cases hother
                  rw [hstored] at hnamed
                  cases hnamed
                · exact hinv.rows key other hother driverId hnamed

theorem descends_findOneById {id : String}
    {post : Except JsError (Option RideEntity) → TrafficWorld → Prop}
    (hnone : ∀ after, post (.ok none) after)
    (hfound : ∀ after ride, world.published <+: after.published →
      SameId uuid ride.id id →
      (∀ driverId, ride.driverId = some driverId →
        Announced uuid after.published ride.id driverId) →
      post (.ok (some ride)) after)
    (hfailed : ∀ error after, post (.error error) after) :
    (RideRepository.findOneById id).Maintains (answerRide uuid) (lineage uuid)
      world post := by
  rw [RideRepository.findOneById, Program.maintains_call]
  intro fault later hkeeps hinv
  cases fault with
  | some error => exact ⟨.self hinv, hfailed _ _⟩
  | none =>
      simp only [answerRide, faultable, answerCall]
      cases hid : uuid.input id with
      | none => exact ⟨.self hinv, hfailed _ _⟩
      | some key =>
          refine ⟨.self hinv, ?_⟩
          cases hride : later.rides.get? key with
          | none => simpa only [hride] using hnone _
          | some ride =>
              have hkey : ride.id = key := Table.key_of_get? hride
              have hsame : SameId uuid ride.id id :=
                ⟨ride.id, hinv.stored key ride hride, by rw [hid, hkey]⟩
              simpa only [hride] using
                hfound later ride hkeeps hsame (hinv.rows key ride hride)

/-- A driver that the patch names has been announced for the ride. -/
theorem Lineage.update (hinv : Lineage uuid world) {key : String}
    {patch : RidePatch}
    (hnamed : ∀ driverId, patch.driverId = some driverId →
      ∀ ride, world.rides.get? key = some ride →
        Announced uuid world.published ride.id driverId) :
    Lineage uuid { world with rides := world.rides.update key patch } := by
  have hupdate : ∀ other ride,
      (world.rides.update key patch).get? other = some ride →
      ∃ before, world.rides.get? other = some before ∧
        (if other = key then patch.apply before else before) = ride := by
    intro other ride hride
    rw [Table.get?_update] at hride
    exact Option.map_eq_some_iff.mp hride
  refine ⟨?_, ?_, hinv.messages⟩
  · intro other ride hride
    obtain ⟨before, hbefore, heq⟩ := hupdate other ride hride
    have hid : ride.id = before.id := by
      rw [← heq]
      split <;> rfl
    rw [hid]
    exact hinv.stored other before hbefore
  · intro other ride hride driverId hdriver
    obtain ⟨before, hbefore, heq⟩ := hupdate other ride hride
    have hold := hinv.rows other before hbefore
    by_cases hkey : other = key
    · rw [if_pos hkey] at heq
      subst heq hkey
      cases hassigned : patch.driverId with
      | none =>
          apply hold driverId
          simpa [RidePatch.apply, hassigned] using hdriver
      | some assigned =>
          have hsame : assigned = driverId := by
            simpa [RidePatch.apply, hassigned] using hdriver
          subst hsame
          exact hnamed assigned hassigned before hbefore
    · rw [if_neg hkey] at heq
      subst heq
      exact hold driverId hdriver

/-- A patch that names a driver needs the announcement; it is applied only if
the ids can be read. -/
theorem descends_update {id : String} {given : RidePatch}
    {post : Except JsError Unit → TrafficWorld → Prop}
    (hgiven : SameId uuid id id → ∀ driverId, given.driverId = some driverId →
      SameId uuid driverId driverId → Announced uuid world.published id driverId)
    (hupdated : ∀ after, world.published <+: after.published →
      SameId uuid id id → (∀ driverId, given.driverId = some driverId →
        SameId uuid driverId driverId) → post (.ok ()) after)
    (hfailed : ∀ error after, post (.error error) after) :
    (RideRepository.update id given).Maintains (answerRide uuid) (lineage uuid)
      world post := by
  rw [RideRepository.update, Program.maintains_call]
  intro fault later hkeeps hinv
  cases fault with
  | some error => exact ⟨.self hinv, hfailed _ _⟩
  | none =>
      simp only [answerRide, faultable, answerCall]
      cases hpatch : uuid.patch given with
      | none => exact ⟨.self hinv, hfailed _ _⟩
      | some patch =>
          cases hid : uuid.input id with
          | none => exact ⟨.self hinv, hfailed _ _⟩
          | some key =>
              have hread : SameId uuid id id := ⟨key, hid, hid⟩
              refine ⟨⟨?_, List.prefix_rfl⟩,
                hupdated _ hkeeps hread (sameId_of_patch hpatch)⟩
              apply hinv.update
              intro driverId hassigned ride hride
              obtain ⟨text, htext, hinput⟩ := given_of_patch hpatch hassigned
              have hkey : ride.id = key := Table.key_of_get? hride
              have hrow : SameId uuid id ride.id := by
                refine ⟨key, hid, ?_⟩
                rw [hinv.stored key ride hride, hkey]
              have hannounced := (hgiven hread text htext
                ⟨driverId, hinput, hinput⟩).later hkeeps
              exact (hannounced.of_sameId hrow).of_driver
                ⟨driverId, hinput, uuid.input_output hinput⟩

theorem descends_publish {message : Message}
    {post : Except JsError Unit → TrafficWorld → Prop}
    (hdescends : Descends uuid world.published message)
    (hpost : ∀ result after, post result after) :
    (Ride.publish message).Maintains (answerRide uuid) (lineage uuid)
      world post := by
  simp only [Ride.publish, Program.maintains_tryCatch,
    Program.maintains_throw, Program.maintains_call]
  intro fault later hkeeps hinv
  cases fault with
  | some error => exact ⟨.self hinv, hpost _ _⟩
  | none =>
      exact ⟨hinv.publish rfl rfl (hdescends.later hkeeps), hpost _ _⟩

theorem descends_getRide {id : String}
    {post : Except JsError RideEntity → TrafficWorld → Prop}
    (hfound : ∀ after ride, world.published <+: after.published →
      SameId uuid ride.id id →
      (∀ driverId, ride.driverId = some driverId →
        Announced uuid after.published ride.id driverId) →
      post (.ok ride) after)
    (hfailed : ∀ error after, post (.error error) after) :
    (RideService.getRide id).Maintains (answerRide uuid) (lineage uuid)
      world post := by
  simp only [RideService.getRide, Program.maintains_tryCatch,
    Program.maintains_bind]
  apply descends_findOneById
  · intro after
    by_cases hmissing : JsError.isInstance .notFound
        (.http .notFound ("Ride " ++ id ++ " not found")) = true
    · simpa [hmissing] using hfailed _ _
    · simpa [hmissing] using hfailed _ _
  · intro after ride hkeeps hsame hdriver
    simpa using hfound after ride hkeeps hsame hdriver
  · intro error after
    by_cases hmissing : error.isInstance .notFound = true
    · simpa [hmissing] using hfailed _ _
    · simpa [hmissing] using hfailed _ _

theorem descends_claim {dist : GeoDist} {lat lng radiusKm : Num}
    {post : Except JsError (Option String) → TrafficWorld → Prop}
    (hpost : ∀ result after, world.published <+: after.published →
      post result after) :
    (RedisService.claimNearestDriver lat lng radiusKm).Maintains
      (answerMatching dist) (lineage uuid) world post := by
  rw [RedisService.claimNearestDriver, Program.maintains_call]
  intro input later hkeeps hinv
  simp only [answerMatching, MatchingWorld.answerOrFail]
  cases hfault : input.fault with
  | some fault => exact ⟨.self hinv, hpost _ _ hkeeps⟩
  | none =>
      exact ⟨⟨⟨hinv.stored, hinv.rows, hinv.messages⟩, List.prefix_rfl⟩,
        hpost _ _ hkeeps⟩

theorem descends_announce {dist : GeoDist} {message : Message}
    {post : Except JsError Unit → TrafficWorld → Prop}
    (hdescends : Descends uuid world.published message)
    (hpost : ∀ result after, post result after) :
    (Matching.publish message).Maintains (answerMatching dist) (lineage uuid)
      world post := by
  rw [Matching.publish, Program.maintains_call]
  intro input later hkeeps hinv
  simp only [answerMatching, MatchingWorld.answerOrFail]
  cases hfault : input.fault with
  | some fault => exact ⟨.self hinv, hpost _ _⟩
  | none =>
      exact ⟨hinv.publish rfl rfl (hdescends.later hkeeps), hpost _ _⟩

end Calls

/-! ## The handlers -/

section Handlers

variable (uuid) (world : TrafficWorld)

theorem descends_requestRide (newId : String) (createdAt now : Instant)
    (dto : RequestRideDto) :
    (RideService.requestRide newId createdAt now dto).Maintains
      (answerRide uuid) (lineage uuid) world fun _ _ => True := by
  simp only [RideService.requestRide, Program.maintains_tryCatch,
    Program.maintains_bind]
  apply descends_save rfl
  intro result after
  cases result with
  | error error => trivial
  | ok saved =>
      apply descends_publish
      · trivial
      · intro outcome last
        cases outcome <;> trivial

theorem descends_updateStatus (now : Instant) (id : String)
    (dto : Ride.UpdateStatusDto) :
    (RideService.updateStatus now id dto).Maintains
      (answerRide uuid) (lineage uuid) world fun _ _ => True := by
  have hrethrow : ∀ (error : JsError) (after : TrafficWorld),
      (if error.isInstance .notFound = true then throw error
        else throw (.http .internalServerError
          "Failed to update ride status") : RideM RideEntity).Maintains
        (answerRide uuid) (lineage uuid) after fun _ _ => True := by
    intro error after
    split <;> trivial
  simp only [RideService.updateStatus, Program.maintains_tryCatch,
    Program.maintains_bind]
  apply descends_getRide
  · intro after ride _ hsame hdriver
    apply descends_update
    · intro _ driverId hgiven
      cases hgiven
    · intro later hkeeps _ _
      have hevent : ∀ driverId, ride.driverId = some driverId →
          Announced uuid later.published id driverId := by
        intro driverId hnamed
        exact ((hdriver driverId hnamed).later hkeeps).of_sameId hsame
      apply descends_publish
      · split
        · exact hevent
        · exact hevent
      · intro result last
        cases result with
        | ok value => trivial
        | error error => exact hrethrow error last
    · exact hrethrow
  · exact hrethrow

/-- The announcement is the message that is handled. -/
theorem descends_handleDriverAssigned (now : Instant) {record : ProducerRecord}
    {event : DriverAssigned} (hrecord : record ∈ world.published)
    (hevent : record.message = .driverAssigned event) :
    (RideService.handleDriverAssigned now
      ⟨event.rideId, event.driverId⟩).Maintains
        (answerRide uuid) (lineage uuid) world fun _ _ => True := by
  have hannounced : SameId uuid event.rideId event.rideId →
      SameId uuid event.driverId event.driverId →
      Announced uuid world.published event.rideId event.driverId :=
    fun hride hdriver => ⟨record, hrecord, event, hevent, hride, hdriver⟩
  simp only [RideService.handleDriverAssigned, Program.maintains_tryCatch,
    Program.maintains_bind]
  apply descends_update
  · intro hride driverId hgiven hdriver
    cases hgiven
    exact hannounced hride hdriver
  · intro after hkeeps hride hdriver
    apply descends_getRide
    · intro later ride hmore _ _
      apply descends_publish
      · intro driverId hnamed
        cases hnamed
        exact (hannounced hride (hdriver _ rfl)).later
          (hkeeps.trans hmore)
      · intro result last
        cases result <;> trivial
    · intro error later
      trivial
  · intro error after
    trivial

theorem descends_handleRideRequested (deployment : Deployment)
    (now : Instant) {record : ProducerRecord} {event : RideRequested}
    (hrecord : record ∈ world.published)
    (hevent : record.message = .rideRequested event) :
    (MatchingService.handleRideRequested deployment.searchRadiusKm now
      (decodeForMatching event)).Maintains (answerMatching deployment.dist)
        (lineage uuid) world fun _ _ => True := by
  simp only [MatchingService.handleRideRequested, Program.maintains_tryCatch,
    Program.maintains_bind]
  apply descends_claim
  intro result after hkeeps
  cases result with
  | error error => trivial
  | ok found =>
      simp only
      cases hdriver : truthy found with
      | none => trivial
      | some driverId =>
          apply descends_announce
          · exact ⟨record, hkeeps.subset hrecord, event, hevent, rfl, rfl⟩
          · intro outcome last
            cases outcome <;> trivial

/-- The consumer only rethrows. -/
theorem traced_eachMessage {Op ι P : Type} {Reply : Op → Type}
    {answer : (op : Op) → ι → TrafficWorld →
      Except JsError (Reply op) × TrafficWorld}
    {handler : P → Program Reply JsError Unit} {payload : P}
    (hhandler : (handler payload).Maintains answer (lineage uuid) world
      fun _ _ => True) :
    (Kafka.eachMessage handler (some payload)).Safe answer (lineage uuid)
      world := by
  unfold Program.Safe
  simp only [Kafka.eachMessage, Program.maintains_tryCatch]
  refine hhandler.mono ?_
  intro result after _
  cases result <;> trivial

end Handlers

/-! ## The system -/

/-- Everything under way keeps the lineage to its end. -/
structure TrafficTraced (uuid : UuidType) (deployment : Deployment)
    (traffic : Traffic) : Prop where
  inv : Lineage uuid traffic.world
  serving : ∀ program ∈ traffic.serving,
    program.Safe (answerRide uuid) (lineage uuid) traffic.world
  matching : ∀ program ∈ traffic.matching,
    program.Safe (answerMatching deployment.dist) (lineage uuid) traffic.world

variable {deployment : Deployment}

theorem TrafficTraced.initial :
    TrafficTraced uuid deployment Traffic.initial := by
  constructor
  · constructor
    · intro key ride hride
      cases hride
    · intro key ride hride
      cases hride
    · intro record hrecord
      cases hrecord
  · intro program hprogram
    cases hprogram
  · intro program hprogram
    cases hprogram

theorem record_of_message {traffic : Traffic} {position : ℕ}
    {message : Message} (hmessage : traffic.message position = some message) :
    ∃ record ∈ traffic.world.published, record.message = message := by
  obtain ⟨record, hrecord, heq⟩ := Option.map_eq_some_iff.mp hmessage
  exact ⟨record, List.mem_of_getElem? hrecord, heq⟩

theorem TrafficTraced.serve {traffic : Traffic} {α : Type}
    {program : RideM α} (htraced : TrafficTraced uuid deployment traffic)
    (hprogram : program.Maintains (answerRide uuid) (lineage uuid)
      traffic.world fun _ _ => True) :
    TrafficTraced uuid deployment (traffic.serve program) := by
  refine ⟨htraced.inv, Program.forall_safe_append htraced.serving ?_,
    htraced.matching⟩
  rw [Program.Safe, Program.maintains_bind]
  refine hprogram.mono ?_
  intro result after _
  cases result <;> trivial

theorem TrafficTraced.step {traffic next : Traffic} {event : TrafficEvent}
    (htraced : TrafficTraced uuid deployment traffic)
    (hstep : traffic.step uuid deployment event = some next) :
    TrafficTraced uuid deployment next := by
  cases event with
  | requestRide newId createdAt now dto =>
      cases hstep
      exact htraced.serve (descends_requestRide uuid _ newId createdAt now dto)
  | updateStatus now id dto =>
      cases hstep
      exact htraced.serve (descends_updateStatus uuid _ now id dto)
  | rideRequested position now =>
      simp only [Traffic.step] at hstep
      split at hstep
      · rename_i event hmessage
        cases hstep
        obtain ⟨record, hrecord, hevent⟩ := record_of_message hmessage
        exact ⟨htraced.inv, htraced.serving,
          Program.forall_safe_append htraced.matching
            (traced_eachMessage uuid _
              (descends_handleRideRequested uuid _ deployment now hrecord
                hevent))⟩
      · cases hstep
  | driverAssigned position now =>
      simp only [Traffic.step] at hstep
      split at hstep
      · rename_i event hmessage
        cases hstep
        obtain ⟨record, hrecord, hevent⟩ := record_of_message hmessage
        exact ⟨htraced.inv,
          Program.forall_safe_append htraced.serving
            (traced_eachMessage uuid _
              (descends_handleDriverAssigned uuid _ now hrecord hevent)),
          htraced.matching⟩
      · cases hstep
  | rideCall index fault =>
      obtain ⟨⟨serving, world⟩, hadvance, heq⟩ :=
        Option.map_eq_some_iff.mp hstep
      subst heq
      obtain ⟨hkept, hserving⟩ :=
        Program.forall_safe_advanceAt htraced.serving htraced.inv hadvance
      exact ⟨hkept.inv, hserving,
        Program.forall_safe_of_keeps htraced.matching hkept.keeps⟩
  | matchingCall index input =>
      obtain ⟨⟨matching, world⟩, hadvance, heq⟩ :=
        Option.map_eq_some_iff.mp hstep
      subst heq
      obtain ⟨hkept, hmatching⟩ :=
        Program.forall_safe_advanceAt htraced.matching htraced.inv hadvance
      exact ⟨hkept.inv,
        Program.forall_safe_of_keeps htraced.serving hkept.keeps, hmatching⟩
  | poolChanged pool =>
      cases hstep
      have hkeeps : (lineage uuid).Keeps traffic.world
          { traffic.world with pool := pool } := (lineage uuid).refl _
      exact ⟨⟨htraced.inv.stored, htraced.inv.rows, htraced.inv.messages⟩,
        Program.forall_safe_of_keeps htraced.serving hkeeps,
        Program.forall_safe_of_keeps htraced.matching hkeeps⟩

/-- Whatever the schedule, the failures and the redeliveries: a driver in the
row of a ride, or in an event about it, was announced by matching-service for
this ride, and every announcement answers a request of the same ride by the
same rider. -/
theorem drivers_descend_from_requests (uuid : UuidType)
    (deployment : Deployment) {events : List TrafficEvent} {last : Traffic}
    (hrun : run (Traffic.step uuid deployment) Traffic.initial events =
      some last) :
    (∀ ride ∈ last.world.rides.rows, ∀ driverId,
        ride.driverId = some driverId →
          Announced uuid last.world.published ride.id driverId) ∧
      ∀ record ∈ last.world.published,
        Descends uuid last.world.published record.message := by
  have htraced : TrafficTraced uuid deployment last :=
    invariant_of_step (fun _ _ _ htraced hstep => htraced.step hstep)
      TrafficTraced.initial hrun
  refine ⟨?_, htraced.inv.messages⟩
  intro ride hride
  exact htraced.inv.rows ride.id ride (Table.get?_key_of_mem hride)

theorem capital_ride_descends :
    ∃ last, run (Traffic.step hyphenated Dispatch.flatDeployment)
        Traffic.initial capitalRide = some last ∧
      last.world.rides.rows.map RideEntity.driverId =
        [some "0d2e4f60-1a3b-4c5d-8e7f-102030405060"] ∧
      (∀ ride ∈ last.world.rides.rows, ∀ driverId,
        ride.driverId = some driverId →
          Announced hyphenated last.world.published ride.id driverId) ∧
      ∀ record ∈ last.world.published,
        Descends hyphenated last.world.published record.message := by
  have hcheck : (run (Traffic.step hyphenated Dispatch.flatDeployment)
      Traffic.initial capitalRide).any (fun last =>
        last.world.rides.rows.map RideEntity.driverId ==
          [some "0d2e4f60-1a3b-4c5d-8e7f-102030405060"]) = true := by
    decide +kernel
  obtain ⟨last, hrun, hdriver⟩ := exists_of_run_any hcheck
  exact ⟨last, hrun, beq_iff_eq.mp hdriver,
    drivers_descend_from_requests hyphenated Dispatch.flatDeployment hrun⟩

end FakeBolt.Audience
