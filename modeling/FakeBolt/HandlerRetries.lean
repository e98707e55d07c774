import FakeBolt.DriverFaults
import FakeBolt.Redelivery
import FakeBolt.StatusChanges

/-!
# Retried event handlers

A handler of driver-service that throws is called again with the same event.
It then decides by the row as the failed attempt left it.  Attempts that fail
before the new status is written are made up for; once the status is written
the next attempt takes the event for one already handled.
-/

namespace FakeBolt.Driver

open Await Kafka Store Transition

/-! ## One attempt -/

/-- The last call of a handler that writes the row: the photo handler writes
the flag before the status. -/
def lastRowUpdate : DriverService.Inbound → ℕ
  | .userPhotoUpdated _ => 2
  | _ => 1

variable {inbound : DriverService.Inbound} {world : DriverWorld}

/-- When an attempt is made and which of its calls fail. -/
structure Attempt where
  now : Instant
  faults : Faults

def attempt (inbound : DriverService.Inbound) (world : DriverWorld)
    (input : Attempt) : Except JsError Unit × DriverWorld :=
  underFaults input.faults
    (DriverService.eachMessage input.now (some inbound)) world

/-- The attempt fails before the new status is written. -/
def FailsEarly (inbound : DriverService.Inbound) (input : Attempt) : Prop :=
  ∃ n ≤ lastRowUpdate inbound, input.faults n ≠ none

inductive Attempted (inbound : DriverService.Inbound) (world : DriverWorld)
    (input : Attempt) : Except JsError Unit × DriverWorld → Prop
  | handled :
      Attempted inbound world input
        (.ok (), (Request.message input.now inbound).run world)
  | early (error : JsError) (hearly : FailsEarly inbound input) :
      Attempted inbound world input (.error error, world)
  | earlySynced (error : JsError) (hearly : FailsEarly inbound input) :
      Attempted inbound world input (.error error, world.sync inbound)
  | late (error : JsError) (change : StatusChange) (pool : AvailablePool)
      (hchange : changeOf inbound world.drivers = some change)
      (hlate : ¬ FailsEarly inbound input) :
      Attempted inbound world input
        (.error error,
          { (world.sync inbound).writeStatus change.driver change.status with
            pool := pool })

/-- A status change under faults as an attempt of its handler. -/
theorem attempted_change {input : Attempt} {change : StatusChange}
    (hchange : changeOf inbound world.drivers = some change)
    (hbefore : ∀ n < lastRowUpdate inbound, input.faults n = none) :
    Attempted inbound world input
      (changeUnderFaults input.faults (lastRowUpdate inbound)
        (world.sync inbound) change.driver change.status
        (systemEvent input.now change.driver change.status change.reason
          change.rideId)) := by
  unfold changeUnderFaults
  cases hrow : input.faults (lastRowUpdate inbound) with
  | some error =>
      exact Attempted.earlySynced error ⟨_, le_refl _, by simp [hrow]⟩
  | none =>
      have hlate : ¬ FailsEarly inbound input := by
        rintro ⟨n, hn, hfault⟩
        rcases Nat.lt_or_eq_of_le hn with hlt | heq
        · exact hfault (hbefore n hlt)
        · subst heq
          exact hfault hrow
      cases hpool : input.faults (lastRowUpdate inbound + 1) with
      | some error => exact Attempted.late error change _ hchange hlate
      | none =>
          cases hsend : input.faults (lastRowUpdate inbound + 2) with
          | some error => exact Attempted.late error change _ hchange hlate
          | none =>
              have hhandled : Attempted inbound world input _ :=
                Attempted.handled
              rw [run_message, hchange] at hhandled
              exact hhandled

/-- An attempt whose first call, the lookup, fails. -/
theorem attempted_lookup {input : Attempt} {error : JsError}
    (hlookup : input.faults 0 = some error) :
    Attempted inbound world input (.error error, world) :=
  Attempted.early error ⟨0, Nat.zero_le _, by simp [hlookup]⟩

theorem attempted_finish {input : Attempt} {event : RideFinishedEvent}
    (hchange : changeOf inbound world.drivers =
      finishChange event world.drivers)
    (hsynced : world.sync inbound = world)
    (hlast : lastRowUpdate inbound = 1) :
    Attempted inbound world input
      (underFaults input.faults
        (DriverService.handleRideFinished input.now event) world) := by
  have hhandled : Attempted inbound world input _ := Attempted.handled
  rw [run_message, hsynced, hchange] at hhandled
  rw [underFaults_handleRideFinished]
  unfold finishChange at hchange hhandled
  cases hnamed : truthy event.driverId with
  | none => simpa [hnamed] using hhandled
  | some driverId =>
      simp only [hnamed, Option.bind_some] at hchange hhandled ⊢
      cases hlookup : input.faults 0 with
      | some error => exact attempted_lookup hlookup
      | none =>
          cases hget : world.drivers.get? driverId with
          | none => simpa [hget] using hhandled
          | some driver =>
              simp only [hget, Option.bind_some] at hchange hhandled ⊢
              split_ifs with hbusy
              · rw [if_pos hbusy] at hchange
                have hbefore : ∀ n < lastRowUpdate inbound,
                    input.faults n = none := by
                  intro n hn
                  rw [hlast, Nat.lt_one_iff] at hn
                  exact hn ▸ hlookup
                have hcase := attempted_change hchange hbefore
                rwa [hsynced, hlast] at hcase
              · simpa [hbusy] using hhandled

theorem attempted_photo {input : Attempt} (event : UserPhotoUpdatedEvent) :
    Attempted (.userPhotoUpdated event) world input
      (underFaults input.faults
        (DriverService.handleUserPhotoUpdated input.now event) world) := by
  have hhandled : Attempted (.userPhotoUpdated event) world input _ :=
    Attempted.handled
  rw [run_message] at hhandled
  rw [underFaults_handleUserPhotoUpdated]
  simp only [changeOf] at hhandled
  split_ifs with hrole
  · simpa [hrole, DriverWorld.sync, synced] using hhandled
  · simp only [if_neg hrole] at hhandled
    cases hlookup : input.faults 0 with
    | some error => exact attempted_lookup hlookup
    | none =>
        cases hfind : world.drivers.find? fun r => r.userId = event.userId with
        | none =>
            simpa [hfind, hrole, DriverWorld.sync, synced] using hhandled
        | some driver =>
            have hsync : world.sync (.userPhotoUpdated event) =
                world.writePhoto driver event.hasPhoto := by
              simp only [DriverWorld.sync, synced, if_neg hrole, hfind,
                DriverWorld.writePhoto]
            rw [hsync] at hhandled
            simp only [hfind, Option.bind_some] at hhandled ⊢
            cases hphoto : input.faults 1 with
            | some error =>
                exact Attempted.early error
                  ⟨1, by simp [lastRowUpdate], by simp [hphoto]⟩
            | none =>
                simp only
                split_ifs with hoffline
                · have hchange :
                      changeOf (.userPhotoUpdated event) world.drivers =
                        some
                          { driver := driver
                            status := .offline
                            reason := "profile_photo_removed"
                            rideId := none } := by
                    simp only [changeOf, if_neg hrole, hfind,
                      Option.bind_some, if_pos hoffline]
                  have hbefore : ∀ n < 2, input.faults n = none := by
                    intro n hn
                    have hcases : n = 0 ∨ n = 1 := by omega
                    rcases hcases with hzero | hone
                    · exact hzero ▸ hlookup
                    · exact hone ▸ hphoto
                  have hcase := attempted_change hchange hbefore
                  rwa [hsync] at hcase
                · simpa [hoffline] using hhandled

theorem attempted_assigned {input : Attempt} (event : DriverAssignedEvent) :
    Attempted (.driverAssigned event) world input
      (underFaults input.faults
        (DriverService.handleDriverAssigned input.now event) world) := by
  have hhandled : Attempted (.driverAssigned event) world input _ :=
    Attempted.handled
  have hsync : world.sync (.driverAssigned event) = world := rfl
  rw [run_message, hsync] at hhandled
  rw [underFaults_handleDriverAssigned]
  cases hlookup : input.faults 0 with
  | some error => exact attempted_lookup hlookup
  | none =>
      cases hget : world.drivers.get? event.driverId with
      | none => simpa [changeOf, hget] using hhandled
      | some driver =>
          simp only
          split_ifs with hbusy
          · simpa [changeOf, hget, hbusy] using hhandled
          · have hchange : changeOf (.driverAssigned event) world.drivers =
                some
                  { driver := driver
                    status := .busy
                    reason := "ride_assigned"
                    rideId := event.rideId } := by
              simp [changeOf, hget, hbusy]
            have hbefore : ∀ n < 1, input.faults n = none := by
              intro n hn
              rw [Nat.lt_one_iff] at hn
              exact hn ▸ hlookup
            exact attempted_change hchange hbefore

theorem attempt_cases (inbound : DriverService.Inbound) (world : DriverWorld)
    (input : Attempt) :
    Attempted inbound world input (attempt inbound world input) := by
  rw [attempt, underFaults_eachMessage]
  cases inbound with
  | userPhotoUpdated event => exact attempted_photo event
  | driverAssigned event => exact attempted_assigned event
  | rideCompleted event => exact attempted_finish rfl rfl rfl
  | rideStatusUpdated event =>
      have hunfold : underFaults input.faults
          (DriverService.onMessage input.now (.rideStatusUpdated event))
            world =
          if event.status ≠ "cancelled" then (.ok (), world)
          else underFaults input.faults
            (DriverService.handleRideFinished input.now event) world := by
        simp only [DriverService.onMessage, underFaults, Program.exec_ite]
        split_ifs <;> rfl
      rw [hunfold]
      split_ifs with hstatus
      · have hhandled : Attempted (.rideStatusUpdated event) world input _ :=
          Attempted.handled
        rw [run_message] at hhandled
        simpa [changeOf, hstatus, DriverWorld.sync, synced] using hhandled
      · have hchange : changeOf (.rideStatusUpdated event) world.drivers =
            finishChange event world.drivers := by
          simp only [changeOf, if_neg hstatus]
        exact attempted_finish hchange rfl rfl

/-! ## What the next attempt finds -/

theorem find?_update_row {drivers : Table DriverEntity} {userId : String}
    {driver : DriverEntity} (patch : DriverPatch)
    (hfind : (drivers.find? fun r => r.userId = userId) = some driver) :
    ((drivers.update driver.id patch).find? fun r => r.userId = userId) =
      some (patch.apply driver) :=
  Table.find?_update_key patch (fun _ => rfl) hfind

theorem synced_synced (drivers : Table DriverEntity) :
    synced inbound (synced inbound drivers) = synced inbound drivers := by
  cases inbound with
  | userPhotoUpdated event =>
      simp only [synced]
      split_ifs with hrole
      · rfl
      · cases hfind : drivers.find? fun r => r.userId = event.userId with
        | none => simp [hfind]
        | some driver =>
            simp only [find?_update_row _ hfind]
            exact Table.update_update_self drivers driver.id fun _ => rfl
  | driverAssigned event => rfl
  | rideCompleted event => rfl
  | rideStatusUpdated event => rfl

/-- Writing the photo flag first does not change what is left to do. -/
theorem run_sync (now : Instant) (world : DriverWorld) :
    (Request.message now inbound).run (world.sync inbound) =
      (Request.message now inbound).run world := by
  rw [run_message, run_message]
  have hsync : (world.sync inbound).sync inbound = world.sync inbound := by
    simp only [DriverWorld.sync, synced_synced]
  rw [hsync]
  cases inbound with
  | userPhotoUpdated event =>
      by_cases hrole : event.role = "driver"
      · cases hfind : world.drivers.find? fun r =>
            r.userId = event.userId with
        | none => simp [changeOf, DriverWorld.sync, synced, hrole, hfind]
        | some driver =>
            have hnext := find?_update_row { hasPhoto := event.hasPhoto } hfind
            simp only [changeOf, DriverWorld.sync, synced, hrole, hfind, hnext,
              ne_eq, not_true_eq_false, if_false, Option.bind_some]
            by_cases hoffline :
                event.hasPhoto = false ∧ driver.status = .available
            · simp [hoffline, DriverPatch.apply, DriverWorld.changeStatus,
                systemEvent]
            · simp [hoffline, DriverPatch.apply]
      · simp [changeOf, hrole]
  | driverAssigned event => rfl
  | rideCompleted event => rfl
  | rideStatusUpdated event => rfl

theorem changeOf_synced_eq_none {drivers : Table DriverEntity}
    (hnone : changeOf inbound drivers = none) :
    changeOf inbound (synced inbound drivers) = none := by
  cases inbound with
  | userPhotoUpdated event =>
      by_cases hrole : event.role = "driver"
      · cases hfind : drivers.find? fun r => r.userId = event.userId with
        | none => simp [changeOf, synced, hrole, hfind]
        | some driver =>
            have hnext := find?_update_row { hasPhoto := event.hasPhoto } hfind
            have hkeep :
                ¬ (event.hasPhoto = false ∧ driver.status = .available) := by
              simpa [changeOf, hrole, hfind] using hnone
            simp [changeOf, synced, hrole, hfind, hnext, DriverPatch.apply,
              hkeep]
      · simp [changeOf, hrole]
  | driverAssigned event => exact hnone
  | rideCompleted event => exact hnone
  | rideStatusUpdated event => exact hnone

theorem finishChange_once {drivers : Table DriverEntity}
    {event : RideFinishedEvent} {change : StatusChange}
    (hchange : finishChange event drivers = some change) :
    finishChange event
      (drivers.update change.driver.id { status := change.status }) =
        none := by
  unfold finishChange at *
  obtain ⟨driverId, hnamed, hfound⟩ := Option.bind_eq_some_iff.mp hchange
  obtain ⟨driver, hget, hbusy⟩ := Option.bind_eq_some_iff.mp hfound
  have hid : driver.id = driverId := Table.key_of_get? hget
  subst driverId
  split_ifs at hbusy
  cases hbusy
  have hreleased : releasedStatus driver ≠ .busy := by
    unfold releasedStatus
    split <;> simp
  simp [hnamed, hget, Indexed.patch, DriverPatch.apply, hreleased]

/-- Once the new status is in the row, the event asks for nothing more. -/
theorem changeOf_once {drivers : Table DriverEntity} {change : StatusChange}
    (hchange : changeOf inbound drivers = some change) :
    changeOf inbound ((synced inbound drivers).update change.driver.id
      { status := change.status }) = none := by
  cases inbound with
  | userPhotoUpdated event =>
      by_cases hrole : event.role = "driver"
      · simp only [changeOf, hrole, ne_eq, not_true_eq_false, if_false]
          at hchange
        obtain ⟨driver, hfind, hoffline⟩ :=
          Option.bind_eq_some_iff.mp hchange
        split_ifs at hoffline
        cases hoffline
        have hphoto := find?_update_row { hasPhoto := event.hasPhoto } hfind
        have hstatus := find?_update_row { status := DriverStatus.offline }
          hphoto
        simp only [DriverPatch.apply] at hstatus
        simp [changeOf, synced, hrole, hfind, hstatus]
      · simp [changeOf, hrole] at hchange
  | driverAssigned event =>
      obtain ⟨driver, hget, hidle⟩ := Option.bind_eq_some_iff.mp hchange
      have hid : driver.id = event.driverId := Table.key_of_get? hget
      split_ifs at hidle
      cases hidle
      simp [changeOf, synced, hid, hget, Indexed.patch, DriverPatch.apply]
  | rideCompleted event => exact finishChange_once hchange
  | rideStatusUpdated event =>
      simp only [changeOf] at hchange ⊢
      split_ifs at hchange ⊢
      exact finishChange_once hchange

/-! ## Retries -/

def AnnouncesStatus (before after : DriverWorld) : Prop :=
  ∃ records, after.published = before.published ++ records ∧
    ∃ record ∈ records, record.message.topic = .driverStatusUpdated

/-- The world ends as after one execution in which nothing fails: the same
rows, the same pool, and a status event if that execution publishes one. -/
structure Converges (now : Instant) (inbound : DriverService.Inbound)
    (world final : DriverWorld) : Prop where
  drivers : final.drivers = ((Request.message now inbound).run world).drivers
  pool : final.pool = ((Request.message now inbound).run world).pool
  announced :
    AnnouncesStatus world ((Request.message now inbound).run world) →
      AnnouncesStatus world final

/-- Nothing but the photo flag has been written yet. -/
def BeforeStatus (inbound : DriverService.Inbound)
    (world state : DriverWorld) : Prop :=
  state = world ∨ state = world.sync inbound

/-- The new status is in the row, but nothing has been published. -/
structure HalfDone (inbound : DriverService.Inbound)
    (world state : DriverWorld) : Prop where
  started : ∃ change, changeOf inbound world.drivers = some change
  nothingLeft : changeOf inbound state.drivers = none
  published : state.published = world.published

variable {state next final : DriverWorld} {input : Attempt}

theorem BeforeStatus.sync (hbefore : BeforeStatus inbound world state) :
    state.sync inbound = world.sync inbound := by
  rcases hbefore with heq | heq
  · rw [heq]
  · subst heq
    simp only [DriverWorld.sync, synced_synced]

theorem BeforeStatus.run (hbefore : BeforeStatus inbound world state)
    (now : Instant) :
    (Request.message now inbound).run state =
      (Request.message now inbound).run world := by
  rw [← run_sync, hbefore.sync, run_sync]

theorem BeforeStatus.retry (hbefore : BeforeStatus inbound world state)
    (hearly : FailsEarly inbound input)
    (hstep : retryStep (attempt inbound) state input = some next) :
    BeforeStatus inbound world next := by
  obtain ⟨error, hthrows⟩ := retryStep_eq_some_iff.mp hstep
  have hcase := attempt_cases inbound state input
  rw [hthrows] at hcase
  cases hcase with
  | early => exact hbefore
  | earlySynced => exact Or.inr hbefore.sync
  | late _ change pool hchange hlate => exact (hlate hearly).elim

theorem BeforeStatus.halfDone (hbefore : BeforeStatus inbound world state)
    (hlate : ¬ FailsEarly inbound input)
    (hstep : retryStep (attempt inbound) state input = some next) :
    HalfDone inbound world next := by
  obtain ⟨error, hthrows⟩ := retryStep_eq_some_iff.mp hstep
  have hcase := attempt_cases inbound state input
  rw [hthrows] at hcase
  cases hcase with
  | early _ hearly => exact (hlate hearly).elim
  | earlySynced _ hearly => exact (hlate hearly).elim
  | late _ change pool hchange =>
      constructor
      · cases hfirst : changeOf inbound world.drivers with
        | some first => exact ⟨first, rfl⟩
        | none =>
            have hnone : changeOf inbound state.drivers = none := by
              rcases hbefore with heq | heq
              · rw [heq, hfirst]
              · rw [heq]
                exact changeOf_synced_eq_none hfirst
            rw [hnone] at hchange
            cases hchange
      · exact changeOf_once hchange
      · rcases hbefore with heq | heq <;> rw [heq] <;> rfl

theorem HalfDone.retry (hhalf : HalfDone inbound world state)
    (hstep : retryStep (attempt inbound) state input = some next) :
    HalfDone inbound world next := by
  obtain ⟨error, hthrows⟩ := retryStep_eq_some_iff.mp hstep
  have hcase := attempt_cases inbound state input
  rw [hthrows] at hcase
  cases hcase with
  | early => exact hhalf
  | earlySynced =>
      exact ⟨hhalf.started, changeOf_synced_eq_none hhalf.nothingLeft,
        hhalf.published⟩
  | late _ change pool hchange =>
      rw [hhalf.nothingLeft] at hchange
      cases hchange

theorem run_of_attempt_ok {value : Unit}
    (hok : attempt inbound state input = (.ok value, final)) :
    final = (Request.message input.now inbound).run state := by
  have hcase := attempt_cases inbound state input
  rw [hok] at hcase
  cases hcase
  rfl

theorem not_announces_of_published {before after : DriverWorld}
    (hsame : after.published = before.published) :
    ¬ AnnouncesStatus before after := by
  rintro ⟨records, hpublished, record, hrecord, -⟩
  rw [hsame, List.self_eq_append_right] at hpublished
  subst hpublished
  cases hrecord

theorem announces_of_change {change : StatusChange} (now : Instant)
    (hchange : changeOf inbound world.drivers = some change) :
    AnnouncesStatus world ((Request.message now inbound).run world) := by
  rw [run_message, hchange]
  refine ⟨_, rfl, _, List.mem_singleton_self _, rfl⟩

/-- The time of the execution shows only in the event. -/
theorem converges_run (now later : Instant) :
    Converges now inbound world
      ((Request.message later inbound).run world) := by
  cases hchange : changeOf inbound world.drivers with
  | none =>
      have hsame : (Request.message later inbound).run world =
          (Request.message now inbound).run world := by
        rw [run_message, run_message, hchange]
      rw [hsame]
      exact ⟨rfl, rfl, id⟩
  | some change =>
      constructor
      · rw [run_message, run_message, hchange]
        simp only [DriverWorld.changeStatus]
      · rw [run_message, run_message, hchange]
        simp only [DriverWorld.changeStatus]
      · intro _
        exact announces_of_change later hchange

/-- Redelivering an event until an attempt succeeds ends as one execution
without failures does exactly if no attempt failed after writing the new
status. -/
theorem retries_converge_iff (now : Instant)
    (inbound : DriverService.Inbound) (world final : DriverWorld)
    (failed : List Attempt) (last : Attempt)
    (hdelivered : Redelivered (attempt inbound) failed last world final) :
    Converges now inbound world final ↔
      ∀ input ∈ failed, FailsEarly inbound input := by
  obtain ⟨before, value, hrun, hlast⟩ := hdelivered
  have hfinal := run_of_attempt_ok hlast
  have hphases :
      ((∀ input ∈ failed, FailsEarly inbound input) ∧
        BeforeStatus inbound world before) ∨
      ((¬ ∀ input ∈ failed, FailsEarly inbound input) ∧
        HalfDone inbound world before) := by
    have hstart : BeforeStatus inbound world world := Or.inl rfl
    rw [← runMeets_iff_forall hrun]
    apply good_or_bad_of_run _ _ _ hstart hrun
    · intro state input next hbefore hearly hstep
      exact hbefore.retry hearly hstep
    · intro state input next hbefore hlate hstep
      exact hbefore.halfDone hlate hstep
    · intro state input next hhalf hstep
      exact hhalf.retry hstep
  rcases hphases with ⟨hearly, hbefore⟩ | ⟨hlate, hhalf⟩
  · rw [hbefore.run] at hfinal
    exact iff_of_true (hfinal ▸ converges_run now last.now) hearly
  · apply iff_of_false
    · intro hconverges
      obtain ⟨change, hchange⟩ := hhalf.started
      have hannounced := hconverges.announced (announces_of_change now hchange)
      refine not_announces_of_published ?_ hannounced
      rw [hfinal, run_message, hhalf.nothingLeft]
      exact hhalf.published
    · exact hlate

/-- A failed row update is made up for by the next attempt. -/
theorem row_update_retried :
    ∃ final,
      Redelivered (attempt (.driverAssigned ⟨"r", "d"⟩))
        [⟨0, fun n => if n = 1 then some (.error "Connection lost") else none⟩]
        ⟨1, fun _ => none⟩ waitingWorld final ∧
      Converges 0 (.driverAssigned ⟨"r", "d"⟩) waitingWorld final := by
  have hdelivered : Redelivered (attempt (.driverAssigned ⟨"r", "d"⟩))
      [⟨0, fun n => if n = 1 then some (.error "Connection lost") else none⟩]
      ⟨1, fun _ => none⟩ waitingWorld _ := ⟨_, (), rfl, rfl⟩
  refine ⟨_, hdelivered, ?_⟩
  rw [retries_converge_iff 0 _ _ _ _ _ hdelivered]
  intro input hinput
  rw [List.mem_singleton] at hinput
  subst input
  exact ⟨1, le_refl _, by simp⟩

/-- A failed publish is not: the retry finds the driver busy and returns. -/
theorem assignment_never_published :
    ∃ final,
      Redelivered (attempt (.driverAssigned ⟨"r", "d"⟩))
        [⟨0, fun n => if n = 3 then some (.error "Broker not available")
          else none⟩]
        ⟨1, fun _ => none⟩ waitingWorld final ∧
      ¬ Converges 0 (.driverAssigned ⟨"r", "d"⟩) waitingWorld final := by
  refine ⟨_, ⟨_, (), rfl, rfl⟩, ?_⟩
  intro hconverges
  have hchange : changeOf (.driverAssigned ⟨"r", "d"⟩) waitingWorld.drivers =
      some ⟨waitingDriver, .busy, "ride_assigned", some "r"⟩ := rfl
  exact not_announces_of_published rfl
    (hconverges.announced (announces_of_change 0 hchange))

end FakeBolt.Driver
