import FakeBolt.MatchingDelivery
import FakeBolt.PoolRefusals
import FakeBolt.PoolRowInvariant
import FakeBolt.Redelivery

/-!
# Positions near the poles

A position that Redis refuses is harmless while its driver is away from the
pool.  When the driver becomes available the row says so before the pool is
asked, and a redelivered ride finish takes the driver for one already
released.
-/

namespace FakeBolt.Driver

open Await Matching Store Transition

/-! ## Runs -/

/-- The bounds of `CreateDriverDto`; either coordinate may be left out. -/
def CreateDriverDto.admitted (dto : CreateDriverDto) : Bool :=
  dto.lat.all (fun lat => -90 ≤ lat && lat ≤ 90) &&
    dto.lng.all (fun lng => -180 ≤ lng && lng ≤ 180)

def UpdateLocationDto.admitted (dto : UpdateLocationDto) : Bool :=
  (-90 ≤ dto.lat && dto.lat ≤ 90) && (-180 ≤ dto.lng && dto.lng ≤ 180)

/-- The validation of the DTOs. -/
def PoolEvent.admitted : PoolEvent → Bool
  | .driverRequest (.createDriver _ dto) => dto.admitted
  | .driverRequest (.updateLocation _ _ dto) => dto.admitted
  | _ => true

variable (dist : GeoDist)

/-- One request of driver-service, one delivery attempt or one claim. -/
def stepInRange (world : DriverWorld) (event : PoolEvent) :
    Option DriverWorld :=
  if event.admitted then
    match event with
    | .driverRequest request => some (request.serve world).2
    | .claim _ _ _ _ => some (event.run dist world)
  else none

variable {dist}

theorem state_stepInRange {world next : DriverWorld} {event : PoolEvent}
    (hstep : stepInRange dist world event = some next) (id : String) :
    next.state id = serveOn (event.action dist world) world.state id := by
  unfold stepInRange at hstep
  split at hstep
  · cases event with
    | driverRequest request =>
        cases hstep
        exact state_serve request world id
    | claim lat lng radiusKm hint =>
        cases hstep
        rw [PoolEvent.state_run]
        have hclaim : ∀ driverId action,
            (PoolEvent.claim lat lng radiusKm hint).action dist world =
              some (driverId, action) → action = .claim := by
          intro driverId action haction
          simp only [PoolEvent.action, Option.map_eq_some_iff,
            Prod.mk.injEq] at haction
          obtain ⟨found, -, -, heq⟩ := haction
          exact heq.symm
        cases haction : (PoolEvent.claim lat lng radiusKm hint).action dist
            world with
        | none => rfl
        | some target =>
            obtain ⟨driverId, action⟩ := target
            rw [hclaim driverId action haction]
            rfl
  · cases hstep

theorem abs_le_of_admitted {lng : Num}
    (hadmitted : (-180 ≤ lng && lng ≤ 180) = true) : |lng| ≤ GEO_LONG_MAX := by
  rw [Bool.and_eq_true, decide_eq_true_eq, decide_eq_true_eq] at hadmitted
  exact abs_le.mpr hadmitted

/-- No message carries a position. -/
theorem Request.action_message_admitted {now : Instant}
    {inbound : DriverService.Inbound} {world : DriverWorld} {id : String}
    {action : DriverAction}
    (haction : (Request.message now inbound).action world =
      some (id, action)) : action.Admitted := by
  cases inbound with
  | userPhotoUpdated event =>
      simp only [Request.action] at haction
      split at haction
      · cases haction
      · obtain ⟨driver, -, htarget⟩ := Option.map_eq_some_iff.mp haction
        cases htarget
        trivial
  | driverAssigned event =>
      cases haction
      trivial
  | rideCompleted event =>
      obtain ⟨named, -, htarget⟩ := Option.map_eq_some_iff.mp haction
      cases htarget
      trivial
  | rideStatusUpdated event =>
      simp only [Request.action] at haction
      split at haction
      · cases haction
      · obtain ⟨named, -, htarget⟩ := Option.map_eq_some_iff.mp haction
        cases htarget
        trivial

theorem PoolEvent.action_admitted {event : PoolEvent} {world : DriverWorld}
    {id : String} {action : DriverAction} (hadmitted : event.admitted = true)
    (haction : event.action dist world = some (id, action)) :
    action.Admitted := by
  cases event with
  | claim lat lng radiusKm hint =>
      obtain ⟨found, -, htarget⟩ := Option.map_eq_some_iff.mp haction
      cases htarget
      trivial
  | driverRequest request =>
      cases request with
      | createDriver newId dto =>
          obtain ⟨drivers, -, htarget⟩ := Option.map_eq_some_iff.mp haction
          cases htarget
          intro lng hlng
          have hlng' : dto.lng = some lng := hlng
          simp only [PoolEvent.admitted, CreateDriverDto.admitted,
            Bool.and_eq_true, hlng', Option.all_some] at hadmitted
          apply abs_le_of_admitted
          rw [Bool.and_eq_true]
          exact hadmitted.2
      | updateStatus now driverId dto =>
          cases haction
          trivial
      | updateLocation now driverId dto =>
          cases haction
          simp only [PoolEvent.admitted, UpdateLocationDto.admitted,
            Bool.and_eq_true] at hadmitted
          apply abs_le_of_admitted
          rw [Bool.and_eq_true]
          exact hadmitted.2
      | message now inbound => exact Request.action_message_admitted haction

def DriverWorld.Sound (world : DriverWorld) : Prop :=
  ∀ id, (world.state id).Sound

theorem DriverWorld.Sound.step {world next : DriverWorld} {event : PoolEvent}
    (hsound : world.Sound) (hstep : stepInRange dist world event = some next) :
    next.Sound := by
  intro id
  rw [state_stepInRange hstep]
  have hadmitted : event.admitted = true := by
    by_contra hnot
    simp [stepInRange, hnot] at hstep
  unfold serveOn
  split
  · exact hsound id
  · rename_i driverId action haction
    split
    · refine (hsound id).serve (PoolEvent.action_admitted hadmitted haction) ?_
      intro driver hcreate
      rw [hcreate] at haction
      exact event.created_offline haction
    · exact hsound id

theorem DriverWorld.Sound.initial : DriverWorld.initial.Sound := by
  intro id
  rw [initial_state]
  constructor
  · constructor
    · intro position hposition
      cases hposition
    · intro driver hrow
      cases hrow
  · intro position hposition
    cases hposition
  · intro driver lng hrow
    cases hrow

/-! ## Releases -/

/-- The driver whose ride a message ends. -/
def finishedDriver : DriverService.Inbound → Option String
  | .rideCompleted event => truthy event.driverId
  | .rideStatusUpdated event =>
      if event.status = "cancelled" then truthy event.driverId else none
  | _ => none

/-- One attempt at a message. -/
def attemptInRange (inbound : DriverService.Inbound) (world : DriverWorld)
    (now : Instant) : Except JsError Unit × DriverWorld :=
  (Request.message now inbound).serve world

/-- After `updateStatus(available)`, and after a ride finish that finds the
driver busy and is delivered until it is handled, the row is available with a
known position only if the driver is in the pool. -/
def KeepsMatchable (world : DriverWorld) : PoolEvent → Prop
  | .driverRequest (.updateStatus now id dto) =>
      dto.status = .available →
        ¬ (((Request.updateStatus now id dto).serve world).2.state id).Missing
  | .driverRequest (.message _ inbound) =>
      ∀ id driver, finishedDriver inbound = some id →
        world.drivers.get? id = some driver → driver.status = .busy →
        ∀ failed last final,
          Redelivered (attemptInRange inbound) failed last world final →
          ¬ (final.state id).Missing
  | _ => True

def DriverEntity.BelowPoles (driver : DriverEntity) : Prop :=
  ∀ lat lng, driver.lat = some lat → driver.lng = some lng →
    |lat| ≤ GEO_LAT_MAX

/-- A driver with a photo who is made available is not near a pole, as far as
the row knows. -/
def ReleasesBelowPoles (world : DriverWorld) : PoolEvent → Prop
  | .driverRequest (.updateStatus _ id dto) =>
      dto.status = .available →
        ∀ driver, world.drivers.get? id = some driver →
          driver.status ≠ .busy → driver.hasPhoto = true → driver.BelowPoles
  | .driverRequest (.message _ inbound) =>
      ∀ id driver, finishedDriver inbound = some id →
        world.drivers.get? id = some driver → driver.status = .busy →
        driver.hasPhoto = true → driver.BelowPoles
  | _ => True

theorem DriverState.Sound.placeable_iff {state : DriverState}
    (hsound : state.Sound) {driver : DriverEntity}
    (hrow : state.row = some driver) :
    driver.Placeable .available ↔ driver.BelowPoles := by
  constructor
  · intro hplaceable lat lng hlat hlng
    apply (hplaceable ⟨lng, lat⟩ _).2
    exact DriverState.entryFor_eq_some_iff.mpr ⟨rfl, hlat, hlng⟩
  · intro hbelow position hposition
    obtain ⟨-, hlat, hlng⟩ := DriverState.entryFor_eq_some_iff.mp hposition
    exact ⟨hsound.longitude driver _ hrow hlng, hbelow _ _ hlat hlng⟩

/-- Left by a refusal, the driver is available and nowhere. -/
theorem DriverState.Sound.missing_left {state : DriverState}
    (hsound : state.Sound) {driver : DriverEntity} {status : DriverStatus}
    (hrow : state.row = some driver) (hrefused : ¬ driver.Placeable status) :
    DriverState.Missing
      { state with row := some { driver with status := status } } := by
  refine ⟨hsound.entry_eq_none hrow hrefused, _, rfl, ?_⟩
  unfold DriverEntity.Placeable at hrefused
  push Not at hrefused
  obtain ⟨position, hposition, -⟩ := hrefused
  obtain ⟨hstatus, hlat, hlng⟩ :=
    DriverState.entryFor_eq_some_iff.mp hposition
  exact ⟨hstatus, by simp [hlat], by simp [hlng]⟩

/-- A change of status the service rejects writes nothing. -/
theorem DriverState.serve_changeStatus_rejected {state : DriverState}
    {status : DriverStatus}
    (hrejected : ∀ driver, state.row = some driver →
      statusRefusal driver status ≠ none) :
    state.serve (.changeStatus status) = state := by
  cases hrow : state.row with
  | none =>
      simp [DriverState.serve, DriverAction.refused, DriverState.apply, hrow]
  | some driver =>
      obtain ⟨error, herror⟩ :=
        Option.ne_none_iff_exists'.mp (hrejected driver hrow)
      simp [DriverState.serve, DriverAction.refused, DriverState.apply, hrow,
        herror]

/-- One that is allowed leaves the driver out of the pool only by a refusal of
Redis. -/
theorem missing_changeStatus_allowed_iff {state : DriverState}
    (hsound : state.Sound) {driver : DriverEntity} {status : DriverStatus}
    (hrow : state.row = some driver)
    (hallowed : statusRefusal driver status = none) :
    ¬ (state.serve (.changeStatus status)).Missing ↔
      driver.Placeable status := by
  by_cases hplaceable : driver.Placeable status
  · have hplaced : state.serve (.changeStatus status) =
        DriverState.withStatus driver status := by
      simp [DriverState.serve, DriverAction.refused, DriverState.apply, hrow,
        hallowed, hplaceable]
    rw [hplaced]
    exact iff_of_true (DriverState.not_missing_withStatus _ _) hplaceable
  · have hleft : state.serve (.changeStatus status) =
        { state with row := some { driver with status := status } } := by
      simp [DriverState.serve, DriverAction.refused, hrow, hallowed,
        hplaceable]
    rw [hleft]
    exact iff_of_false (not_not.mpr (hsound.missing_left hrow hplaceable))
      hplaceable

/-- Going online, by the row. -/
theorem missing_changeStatus_iff {state : DriverState} (hsound : state.Sound) :
    ¬ (state.serve (.changeStatus .available)).Missing ↔
      ∀ driver, state.row = some driver → driver.status ≠ .busy →
        driver.hasPhoto = true → driver.BelowPoles := by
  by_cases hallowed : ∃ driver, state.row = some driver ∧
      statusRefusal driver .available = none
  · obtain ⟨driver, hrow, hnone⟩ := hallowed
    obtain ⟨-, hfree, hphoto⟩ := statusRefusal_eq_none_iff.mp hnone
    rw [missing_changeStatus_allowed_iff hsound hrow hnone,
      hsound.placeable_iff hrow]
    constructor
    · intro hbelow other hother _ _
      cases hrow.symm.trans hother
      exact hbelow
    · intro hall
      exact hall driver hrow hfree (hphoto rfl)
  · -- A driver who is free and has a photo is never rejected.
    have hrejected : ∀ driver, state.row = some driver →
        driver.status ≠ .busy → driver.hasPhoto = true → False := by
      intro driver hrow hfree hphoto
      exact hallowed ⟨driver, hrow, statusRefusal_eq_none_iff.mpr
        ⟨by decide, hfree, fun _ => hphoto⟩⟩
    rw [DriverState.serve_changeStatus_rejected fun driver hrow hnone =>
      hallowed ⟨driver, hrow, hnone⟩]
    refine iff_of_true ?_ ?_
    · rintro ⟨-, driver, hrow, hstatus, -⟩
      exact hrejected driver hrow (by simp [hstatus])
        (hsound.consistent.online driver hrow hstatus)
    · intro driver hrow hfree hphoto
      exact (hrejected driver hrow hfree hphoto).elim

/-- The release of a busy driver. -/
theorem placeable_released_iff {state : DriverState} {driver : DriverEntity}
    (hsound : state.Sound) (hrow : state.row = some driver) :
    driver.Placeable (releasedStatus driver) ↔
      (driver.hasPhoto = true → driver.BelowPoles) := by
  rw [← hsound.placeable_iff hrow]
  by_cases hphoto : driver.hasPhoto = true
  · simp [releasedStatus, hphoto]
  · have hoffline : driver.Placeable .offline := by
      intro position hposition
      cases hposition
    simp [releasedStatus, hphoto, hoffline]

/-! ## A ride finish, delivered until it is handled -/

section Finish

variable {inbound : DriverService.Inbound} {id : String}
  {world : DriverWorld} {driver : DriverEntity}

theorem onMessage_of_finished (hfinished : finishedDriver inbound = some id) :
    ∃ event, truthy event.driverId = some id ∧
      ∀ now, DriverService.onMessage now inbound =
        DriverService.handleRideFinished now event := by
  cases inbound with
  | userPhotoUpdated event => cases hfinished
  | driverAssigned event => cases hfinished
  | rideCompleted event => exact ⟨event, hfinished, fun _ => rfl⟩
  | rideStatusUpdated event =>
      simp only [finishedDriver] at hfinished
      split at hfinished
      · rename_i hcancelled
        refine ⟨event, hfinished, fun now => ?_⟩
        rw [DriverService.onMessage, if_neg (not_not.mpr hcancelled)]
      · cases hfinished

theorem attempt_placed (hfinished : finishedDriver inbound = some id)
    (hget : world.drivers.get? id = some driver) (hbusy : driver.status = .busy)
    (hplaceable : driver.Placeable (releasedStatus driver)) (now : Instant) :
    ∃ news, attemptInRange inbound world now =
      (.ok (), world.changeStatus driver (releasedStatus driver) news) := by
  obtain ⟨event, hnamed, hhandler⟩ := onMessage_of_finished hfinished
  refine ⟨systemEvent now driver (releasedStatus driver) (finishReason event)
    event.rideId, ?_⟩
  have hcalls : ∀ call ∈ (DriverService.handleRideFinished now event).calls
      DriverWorld.answer world, call.Accepted := by
    simp only [calls_handleRideFinished, hnamed, hget, hbusy, if_true,
      statusCalls, List.forall_mem_cons]
    exact ⟨trivial, trivial, accepted_poolCall hplaceable _, trivial, by simp⟩
  rw [attemptInRange, serve_message, hhandler,
    Program.exec_congr fun call hcall before =>
      answerInRange_of_accepted (hcalls call hcall) before,
    exec_handleRideFinished]
  simp only [hnamed, hget, hbusy, if_true]

theorem attempt_refused (hfinished : finishedDriver inbound = some id)
    (hget : world.drivers.get? id = some driver) (hbusy : driver.status = .busy)
    (hrefused : ¬ driver.Placeable (releasedStatus driver)) (now : Instant) :
    attemptInRange inbound world now =
      (.error geoError, world.writeStatus driver (releasedStatus driver)) := by
  obtain ⟨event, hnamed, hhandler⟩ := onMessage_of_finished hfinished
  rw [attemptInRange, serve_message, hhandler]
  exact exec_finish_refused now hnamed hget hbusy hrefused

/-- A driver who is not busy is taken for one already released. -/
theorem attempt_released (hfinished : finishedDriver inbound = some id)
    (hget : world.drivers.get? id = some driver)
    (hreleased : driver.status ≠ .busy) (now : Instant) :
    attemptInRange inbound world now = (.ok (), world) := by
  obtain ⟨event, hnamed, hhandler⟩ := onMessage_of_finished hfinished
  rw [attemptInRange, serve_message, hhandler]
  simp [DriverService.handleRideFinished, DriverRepository.findOneById, hnamed,
    DriverWorld.answerInRange, DriverWorld.answer, hget, hreleased]

/-- The refused attempt is the only one that fails: the next finds the new
status. -/
theorem finish_keepsMatchable_iff (hsound : world.Sound)
    (hfinished : finishedDriver inbound = some id)
    (hget : world.drivers.get? id = some driver)
    (hbusy : driver.status = .busy) :
    (∀ failed last final,
        Redelivered (attemptInRange inbound) failed last world final →
        ¬ (final.state id).Missing) ↔
      driver.Placeable (releasedStatus driver) := by
  have hkey : driver.id = id := Table.key_of_get? hget
  subst id
  constructor
  · intro hkeeps
    by_contra hrefused
    have hleft := state_writeStatus hget (releasedStatus driver) driver.id
    rw [if_pos rfl] at hleft
    have hreleased : releasedStatus driver ≠ .busy := by
      unfold releasedStatus
      split <;> decide
    have hrow : (world.writeStatus driver (releasedStatus driver)).drivers.get?
        driver.id = some { driver with status := releasedStatus driver } :=
      congrArg DriverState.row hleft
    have hsecond := attempt_released hfinished hrow hreleased 0
    have hfirst : run (retryStep (attemptInRange inbound)) world [0] =
        some (world.writeStatus driver (releasedStatus driver)) := by
      rw [run_cons_eq_some]
      exact ⟨_, retryStep_eq_some_iff.mpr
        ⟨geoError, attempt_refused hfinished hget hbusy hrefused 0⟩, rfl⟩
    apply hkeeps [0] 0 _ ⟨_, (), hfirst, hsecond⟩
    rw [hleft]
    exact (hsound driver.id).missing_left hget hrefused
  · rintro hplaceable failed last final ⟨before, value, hrun, hlast⟩
    have hbefore : before = world := by
      cases failed with
      | nil =>
          cases hrun
          rfl
      | cons first failed =>
          obtain ⟨next, hnext, -⟩ := run_cons_eq_some.mp hrun
          obtain ⟨error, hthrown⟩ := retryStep_eq_some_iff.mp hnext
          obtain ⟨news, hplaced⟩ :=
            attempt_placed hfinished hget hbusy hplaceable first
          cases hplaced.symm.trans hthrown
    obtain ⟨news, hplaced⟩ :=
      attempt_placed hfinished hget hbusy hplaceable last
    rw [hbefore, hplaced] at hlast
    cases hlast
    rw [state_changeStatus hget, if_pos rfl]
    exact DriverState.not_missing_withStatus _ _

end Finish

theorem keepsMatchable_iff {world : DriverWorld} (hsound : world.Sound)
    (event : PoolEvent) :
    KeepsMatchable world event ↔ ReleasesBelowPoles world event := by
  cases event with
  | claim lat lng radiusKm hint => exact Iff.rfl
  | driverRequest request =>
      cases request with
      | createDriver newId dto => exact Iff.rfl
      | updateLocation now id dto => exact Iff.rfl
      | updateStatus now id dto =>
          apply imp_congr_right
          intro havailable
          have hserved :
              ((Request.updateStatus now id dto).serve world).2.state id =
                (world.state id).serve (.changeStatus .available) := by
            rw [state_serve]
            simp [Request.action, serveOn, havailable]
          rw [hserved, missing_changeStatus_iff (hsound id)]
          rfl
      | message now inbound =>
          apply forall_congr'
          intro id
          apply forall_congr'
          intro driver
          apply imp_congr_right
          intro hfinished
          apply imp_congr_right
          intro hget
          apply imp_congr_right
          intro hbusy
          rw [finish_keepsMatchable_iff hsound hfinished hget hbusy]
          exact placeable_released_iff (hsound id) hget

/-- A run keeps every driver it releases matchable exactly if every driver it
releases is below the poles at that time. -/
theorem releases_matchable_iff (dist : GeoDist) (events : List PoolEvent) :
    RunMeets (stepInRange dist) KeepsMatchable DriverWorld.initial events ↔
      RunMeets (stepInRange dist) ReleasesBelowPoles DriverWorld.initial
        events :=
  runMeets_congr DriverWorld.Sound.initial
    (fun _ _ _ hsound hstep => hsound.step hstep)
    fun _ event hsound => keepsMatchable_iff hsound event

/-! ## Two drivers at 86 degrees north -/

def photographed (lat : Num) : List PoolEvent :=
  [.driverRequest (.createDriver "d"
      ⟨"u", "Ann", "ann@example.com", some lat, some 0⟩),
    .driverRequest (.message 0 (.userPhotoUpdated ⟨"u", "driver", true⟩))]

/-- The driver goes online at 50 degrees, and the position report comes during
the ride. -/
def ridingNorth : List PoolEvent :=
  photographed 50 ++
    [.driverRequest (.updateStatus 0 "d" ⟨.available⟩),
      .driverRequest (.message 0 (.driverAssigned ⟨"r", "d"⟩)),
      .driverRequest (.updateLocation 0 "d" ⟨86, 0⟩)]

def driverNorth (status : DriverStatus) : DriverEntity where
  id := "d"
  userId := "u"
  name := "Ann"
  email := "ann@example.com"
  status := status
  hasPhoto := true
  lat := some 86
  lng := some 0

theorem not_placeable_north : ¬ (driverNorth .busy).Placeable .available := by
  decide +kernel

/-- Online or released there, the driver is available and not in the pool. -/
theorem driver_near_pole_lost :
    ¬ RunMeets (stepInRange flatKm) KeepsMatchable DriverWorld.initial
        (photographed 86 ++
          [.driverRequest (.updateStatus 0 "d" ⟨.available⟩)]) ∧
      ¬ RunMeets (stepInRange flatKm) KeepsMatchable DriverWorld.initial
        (ridingNorth ++
          [.driverRequest (.message 0
            (.rideCompleted ⟨"r", some "d", "completed"⟩))]) := by
  constructor
  · intro hmeets
    have hcheck : (run (stepInRange flatKm) DriverWorld.initial
        (photographed 86)).any (fun last =>
          ((Request.updateStatus 0 "d" ⟨.available⟩).serve last).2.state "d" =
            ⟨some (driverNorth .available), none⟩) = true := by
      decide +kernel
    obtain ⟨last, hrun, hlast⟩ := exists_of_run_any hcheck
    apply hmeets.guard_of_run hrun rfl
    rw [of_decide_eq_true hlast]
    exact ⟨rfl, driverNorth .available, rfl, rfl, rfl, rfl⟩
  · intro hmeets
    have hcheck : (run (stepInRange flatKm) DriverWorld.initial
        ridingNorth).any (fun last =>
          last.drivers.get? "d" = some (driverNorth .busy)) = true := by
      decide +kernel
    obtain ⟨last, hrun, hlast⟩ := exists_of_run_any hcheck
    have hget := of_decide_eq_true hlast
    have hsound : last.Sound :=
      invariant_of_step (fun _ _ _ hsound hstep => hsound.step hstep)
        DriverWorld.Sound.initial hrun
    have hkeeps := hmeets.guard_of_run hrun "d" (driverNorth .busy) rfl hget rfl
    rw [finish_keepsMatchable_iff hsound rfl hget rfl] at hkeeps
    exact not_placeable_north hkeeps

end FakeBolt.Driver
