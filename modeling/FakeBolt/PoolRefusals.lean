import FakeBolt.AwaitFootprints
import FakeBolt.DriverFaults
import FakeBolt.DriverRace

/-!
# When the pool refuses a position

The DTOs admit every latitude, GEOADD only those of the Web Mercator square.
A refused GEOADD stops the operation that asked for it: a status change has
then written its row, a position report has written nothing.
-/

namespace FakeBolt.Driver

open Await Kafka Store

/-! ## What Redis refuses -/

/-- The bounds of Redis. -/
def GEO_LONG_MAX : Num := 180
def GEO_LAT_MAX : Num := 85.05112878

def InGeoRange (position : Position) : Prop :=
  |position.longitude| ≤ GEO_LONG_MAX ∧ |position.latitude| ≤ GEO_LAT_MAX

instance (position : Position) : Decidable (InGeoRange position) :=
  inferInstanceAs (Decidable (_ ∧ _))

/-- Redis appends the two numbers. -/
def geoError : JsError := .error "ERR invalid longitude,latitude pair"

/-- Nothing fails but a GEOADD outside the range. -/
def DriverWorld.answerInRange :
    (call : DriverCall) → DriverWorld → Except JsError call.Reply × DriverWorld
  | .geoadd longitude latitude member, world =>
      if InGeoRange ⟨longitude, latitude⟩ then
        DriverWorld.answer (.geoadd longitude latitude member) world
      else (.error geoError, world)
  | call, world => DriverWorld.answer call world

def Request.serve (request : Request) (world : DriverWorld) :
    Except JsError Unit × DriverWorld :=
  request.program.exec DriverWorld.answerInRange world

def DriverCall.Accepted : DriverCall → Prop
  | .geoadd longitude latitude _ => InGeoRange ⟨longitude, latitude⟩
  | _ => True

theorem answerInRange_of_accepted {call : DriverCall} (haccepted : call.Accepted)
    (world : DriverWorld) :
    DriverWorld.answerInRange call world = DriverWorld.answer call world := by
  cases call with
  | geoadd longitude latitude member => exact if_pos haccepted
  | _ => rfl

/-- A request all of whose calls are accepted is served as if nothing could
fail. -/
theorem serve_of_accepted {request : Request} {world : DriverWorld}
    (hcalls : ∀ call ∈ request.program.calls DriverWorld.answer world,
      call.Accepted) :
    (request.serve world).2 = request.run world := by
  rw [← exec_program, Request.serve]
  congr 1
  exact Program.exec_congr fun call hcall before =>
    answerInRange_of_accepted (hcalls call hcall) before

/-! ## What is refused -/

/-- The pool takes the driver at this status. -/
def DriverEntity.Placeable (driver : DriverEntity) (status : DriverStatus) :
    Prop :=
  ∀ position, entryFor status driver.lat driver.lng = some position →
    InGeoRange position

theorem accepted_poolCall {driver : DriverEntity} {status : DriverStatus}
    (hplaceable : driver.Placeable status) (d : String) :
    (poolCall d status driver.lat driver.lng).Accepted := by
  unfold poolCall
  cases hentry : entryFor status driver.lat driver.lng with
  | none => trivial
  | some position => exact hplaceable position hentry

theorem accepted_statusWrites {driver : DriverEntity} {status : DriverStatus}
    (hplaceable : driver.Placeable status) (d : String) :
    ∀ call ∈ statusWrites d status driver, call.Accepted := by
  unfold statusWrites
  simp only [List.forall_mem_cons]
  exact ⟨trivial, accepted_poolCall hplaceable d, by simp⟩

theorem accepted_of_changes_eq_false {call : DriverCall}
    (hchanges : call.changes = false) : call.Accepted := by
  cases call with
  | geoadd longitude latitude member => cases hchanges
  | _ => trivial

theorem accepted_createDriver (newId : String) (dto : CreateDriverDto)
    (world : DriverWorld) :
    ∀ call ∈ (Request.createDriver newId dto).program.calls DriverWorld.answer
      world, call.Accepted := by
  rw [Request.program, calls_discard, calls_createDriver]
  split <;> simp [DriverCall.Accepted]

/-- A request without an action changes nothing. -/
theorem accepted_of_action_eq_none {request : Request} {world : DriverWorld}
    (haction : request.action world = none) :
    ∀ call ∈ request.program.calls DriverWorld.answer world,
      call.Accepted := by
  have hfinish : ∀ now event, finishAction event = none →
      (DriverService.handleRideFinished now event).calls DriverWorld.answer
        world = [] := by
    intro now event hnone
    rw [calls_handleRideFinished]
    rw [finishAction, Option.map_eq_none_iff] at hnone
    rw [hnone]
  cases request with
  | createDriver newId dto => exact accepted_createDriver newId dto world
  | updateStatus now id dto => cases haction
  | updateLocation now id dto => cases haction
  | message now inbound =>
      simp only [Request.program, calls_eachMessage]
      cases inbound with
      | userPhotoUpdated event =>
          simp only [Request.action] at haction
          simp only [DriverService.onMessage, calls_handleUserPhotoUpdated]
          split_ifs at haction ⊢ with hrole
          · simp
          · rw [Option.map_eq_none_iff] at haction
            simp [haction, DriverCall.Accepted]
      | driverAssigned event => cases haction
      | rideCompleted event =>
          simp only [DriverService.onMessage, hfinish now event haction]
          simp
      | rideStatusUpdated event =>
          simp only [Request.action] at haction
          simp only [DriverService.onMessage]
          split_ifs at haction ⊢ with hstatus
          · simp
          · simp [hfinish now event haction]

/-- Only the writes of its action can be refused to a request. -/
theorem accepted_program {request : Request} {world : DriverWorld}
    (hwrites : ∀ d action, request.action world = some (d, action) →
      ∀ call ∈ action.writesFrom d (world.state d), call.Accepted) :
    ∀ call ∈ request.program.calls DriverWorld.answer world,
      call.Accepted := by
  cases haction : request.action world with
  | none => exact accepted_of_action_eq_none haction
  | some target =>
      obtain ⟨d, action⟩ := target
      by_cases hcreate : ∃ driver, action = .create driver
      · obtain ⟨driver, heq⟩ := hcreate
        cases request with
        | createDriver newId dto => exact accepted_createDriver newId dto world
        | updateStatus now id dto =>
            simp [Request.action, heq] at haction
        | updateLocation now id dto =>
            simp [Request.action, heq] at haction
        | message now inbound =>
            cases inbound <;>
              simp [Request.action, finishAction, heq] at haction
      · intro call hcall
        cases hchanges : call.changes with
        | false => exact accepted_of_changes_eq_false hchanges
        | true =>
            apply hwrites d action haction
            rw [← writes_program haction fun driver heq => hcreate ⟨driver, heq⟩]
            exact List.mem_filter.mpr ⟨hcall, hchanges⟩

/-! ## What a refusal leaves -/

theorem exec_statusCommand_refused {driver : DriverEntity}
    {status : DriverStatus} (hrefused : ¬ driver.Placeable status) (d : String)
    (world : DriverWorld) :
    (RedisService.handleDriverStatusChange d status driver.lat driver.lng).exec
        DriverWorld.answerInRange world = (.error geoError, world) := by
  unfold DriverEntity.Placeable at hrefused
  push Not at hrefused
  obtain ⟨position, hentry, houtside⟩ := hrefused
  obtain ⟨hstatus, hlat, hlng⟩ := DriverState.entryFor_eq_some_iff.mp hentry
  simp [hstatus, hlat, hlng, RedisService.handleDriverStatusChange,
    RedisService.updateDriverLocation, DriverWorld.answerInRange, houtside]

theorem exec_lookup_inRange (id : String) (world : DriverWorld) :
    (DriverService.getDriver id).exec DriverWorld.answerInRange world =
      (DriverService.getDriver id).exec DriverWorld.answer world := by
  apply Program.exec_congr
  rw [calls_getDriver]
  intro call hcall before
  rw [List.mem_singleton.mp hcall]
  rfl

theorem serve_updateStatus_refused (now : Instant) {id : String}
    {dto : UpdateStatusDto} {world : DriverWorld} {driver : DriverEntity}
    (hget : world.drivers.get? id = some driver)
    (hallowed : statusRefusal driver dto.status = none)
    (hrefused : ¬ driver.Placeable dto.status) :
    ((Request.updateStatus now id dto).serve world).2 =
      world.writeStatus driver dto.status := by
  have hid : driver.id = id := Table.key_of_get? hget
  obtain ⟨hbusy, hriding, hphoto⟩ := statusRefusal_eq_none_iff.mp hallowed
  subst id
  have hphoto' : ¬ (dto.status = .available ∧ driver.hasPhoto = false) := by
    rintro ⟨havailable, hnone⟩
    rw [hphoto havailable] at hnone
    cases hnone
  simp only [Request.serve, Request.program, DriverService.updateStatus,
    Program.exec_bind, Program.exec_tryCatch, exec_lookup_inRange,
    exec_getDriver, hget, if_neg hbusy, if_neg hriding, if_neg hphoto',
    Program.exec_pure, DriverRepository.update, Program.exec_call,
    DriverWorld.answerInRange, DriverWorld.answer,
    exec_statusCommand_refused hrefused]
  rfl

theorem exec_finish_refused (now : Instant) {event : RideFinishedEvent}
    {id : String} {world : DriverWorld} {driver : DriverEntity}
    (hid : truthy event.driverId = some id)
    (hget : world.drivers.get? id = some driver)
    (hbusy : driver.status = .busy)
    (hrefused : ¬ driver.Placeable (releasedStatus driver)) :
    (DriverService.handleRideFinished now event).exec
        DriverWorld.answerInRange world =
      (.error geoError, world.writeStatus driver (releasedStatus driver)) := by
  have hstay : ¬ driver.status ≠ .busy := not_not.mpr hbusy
  simp only [DriverService.handleRideFinished, hid,
    DriverRepository.findOneById, Program.exec_bind, Program.exec_call,
    DriverWorld.answerInRange, DriverWorld.answer, hget, if_neg hstay,
    DriverService.setStatusFromSystem, DriverRepository.update]
  rw [← releasedStatus, exec_statusCommand_refused hrefused]
  rfl

theorem serve_updateLocation_refused (now : Instant) {id : String}
    {dto : UpdateLocationDto} {world : DriverWorld} {driver : DriverEntity}
    (hget : world.drivers.get? id = some driver)
    (havailable : driver.status = .available)
    (houtside : ¬ InGeoRange ⟨dto.lng, dto.lat⟩) :
    ((Request.updateLocation now id dto).serve world).2 = world := by
  simp only [Request.serve, Request.program, DriverService.updateLocation,
    RedisService.updateDriverLocation, Program.exec_bind,
    Program.exec_tryCatch, exec_lookup_inRange, exec_getDriver, hget,
    havailable, if_true, Program.exec_call, DriverWorld.answerInRange,
    if_neg houtside, Program.exec_throw]
  rfl

/-! ## The driver machine with a pool that may refuse -/

instance (driver : DriverEntity) (status : DriverStatus) :
    Decidable (driver.Placeable status) :=
  match hentry : entryFor status driver.lat driver.lng with
  | none => isTrue fun position h => by rw [hentry] at h; cases h
  | some position =>
      decidable_of_iff (InGeoRange position)
        ⟨fun hin other h => by rw [hentry] at h; cases h; exact hin,
          fun hall => hall position hentry⟩

/-- What the action leaves if the pool refuses the driver. -/
def DriverAction.refused (action : DriverAction) (state : DriverState) :
    Option DriverState :=
  match action, state.row with
  | .changeStatus status, some driver =>
      if statusRefusal driver status = none ∧ ¬ driver.Placeable status then
        some { state with row := some { driver with status := status } }
      else none
  | .release, some driver =>
      if driver.status = .busy ∧
          ¬ driver.Placeable (releasedStatus driver) then
        some { state with
          row := some { driver with status := releasedStatus driver } }
      else none
  | .ping lat lng, some driver =>
      if driver.status = .available ∧ ¬ InGeoRange ⟨lng, lat⟩ then some state
      else none
  | _, _ => none

def DriverState.serve (state : DriverState) (action : DriverAction) :
    DriverState :=
  (action.refused state).getD (state.apply action)

def serveOn (target : Option (String × DriverAction))
    (states : String → DriverState) (id : String) : DriverState :=
  match target with
  | none => states id
  | some (driverId, action) =>
      if id = driverId then (states id).serve action else states id

/-- What a refusal finds and what it leaves. -/
inductive Refusal (state : DriverState) : DriverAction → DriverState → Prop
  | changeStatus {driver : DriverEntity} {status : DriverStatus}
      (hrow : state.row = some driver)
      (hallowed : statusRefusal driver status = none)
      (hunplaced : ¬ driver.Placeable status) :
      Refusal state (.changeStatus status)
        { state with row := some { driver with status := status } }
  | release {driver : DriverEntity} (hrow : state.row = some driver)
      (hbusy : driver.status = .busy)
      (hunplaced : ¬ driver.Placeable (releasedStatus driver)) :
      Refusal state .release
        { state with
          row := some { driver with status := releasedStatus driver } }
  | ping {driver : DriverEntity} {lat lng : Num}
      (hrow : state.row = some driver) (havailable : driver.status = .available)
      (houtside : ¬ InGeoRange ⟨lng, lat⟩) :
      Refusal state (.ping lat lng) state

theorem refusal_of_refused {action : DriverAction} {state left : DriverState}
    (hrefused : action.refused state = some left) :
    Refusal state action left := by
  cases hrow : state.row with
  | none => cases action <;> simp [DriverAction.refused, hrow] at hrefused
  | some driver =>
      cases action with
      | changeStatus status =>
          simp only [DriverAction.refused, hrow] at hrefused
          split at hrefused
          · rename_i hcase
            cases hrefused
            exact .changeStatus hrow hcase.1 hcase.2
          · cases hrefused
      | release =>
          simp only [DriverAction.refused, hrow] at hrefused
          split at hrefused
          · rename_i hcase
            cases hrefused
            exact .release hrow hcase.1 hcase.2
          · cases hrefused
      | ping lat lng =>
          simp only [DriverAction.refused, hrow] at hrefused
          split at hrefused
          · rename_i hcase
            cases hrefused
            exact .ping hrow hcase.1 hcase.2
          · cases hrefused
      | _ => simp [DriverAction.refused] at hrefused

theorem accepted_writes {action : DriverAction} {state : DriverState}
    (haccepted : action.refused state = none) (d : String) :
    ∀ call ∈ action.writesFrom d state, call.Accepted := by
  unfold DriverAction.writesFrom
  cases hrow : state.row with
  | none => simp
  | some driver =>
      cases action with
      | create created => simp [DriverAction.writes]
      | claim => simp [DriverAction.writes]
      | changeStatus status =>
          simp only [DriverAction.refused, hrow, DriverAction.writes]
            at haccepted ⊢
          cases hrefusal : statusRefusal driver status with
          | some error => simp
          | none =>
              apply accepted_statusWrites
              by_contra hnot
              rw [if_pos ⟨hrefusal, hnot⟩] at haccepted
              cases haccepted
      | ping lat lng =>
          simp only [DriverAction.refused, hrow, DriverAction.writes]
            at haccepted ⊢
          by_cases havailable : driver.status = .available
          · have hin : InGeoRange ⟨lng, lat⟩ := by
              by_contra hnot
              rw [if_pos ⟨havailable, hnot⟩] at haccepted
              cases haccepted
            simpa [havailable, DriverCall.Accepted] using hin
          · simp [havailable, DriverCall.Accepted]
      | syncPhoto hasPhoto =>
          have hoffline : driver.Placeable .offline := by
            intro position hentry
            cases hentry
          simp only [DriverAction.writes, List.forall_mem_cons]
          refine ⟨trivial, ?_⟩
          split
          · exact accepted_statusWrites hoffline d
          · simp
      | assign =>
          have hbusy : driver.Placeable .busy := by
            intro position hentry
            cases hentry
          simp only [DriverAction.writes]
          split
          · simp
          · exact accepted_statusWrites hbusy d
      | release =>
          simp only [DriverAction.refused, hrow, DriverAction.writes]
            at haccepted ⊢
          split
          · rename_i hbusy
            apply accepted_statusWrites
            by_contra hnot
            rw [if_pos ⟨hbusy, hnot⟩] at haccepted
            cases haccepted
          · simp

theorem state_writeStatus {world : DriverWorld} {driver : DriverEntity}
    (hget : world.drivers.get? driver.id = some driver)
    (status : DriverStatus) (id : String) :
    (world.writeStatus driver status).state id =
      if id = driver.id then
        { world.state driver.id with
          row := some { driver with status := status } }
      else world.state id := by
  split
  · rename_i heq
    subst id
    simp [DriverWorld.state, DriverWorld.writeStatus, hget, Indexed.patch,
      DriverPatch.apply]
  · rename_i hne
    simp [DriverWorld.state, DriverWorld.writeStatus,
      Table.get?_update_of_ne _ _ hne]

theorem serve_message (now : Instant) (inbound : DriverService.Inbound)
    (world : DriverWorld) :
    (Request.message now inbound).serve world =
      (DriverService.onMessage now inbound).exec DriverWorld.answerInRange
        world := by
  rw [Request.serve, Request.program, DriverService.eachMessage,
    exec_eachMessage]

theorem state_finish_refused {now : Instant} {event : RideFinishedEvent}
    {world : DriverWorld} {d : String} {action : DriverAction}
    {left : DriverState} (haction : finishAction event = some (d, action))
    (hrefusal : Refusal (world.state d) action left) (id : String) :
    ((DriverService.handleRideFinished now event).exec
        DriverWorld.answerInRange world).2.state id =
      if id = d then left else world.state id := by
  obtain ⟨named, hnamed, htarget⟩ := Option.map_eq_some_iff.mp haction
  cases htarget
  cases hrefusal with
  | @release driver hget hbusy hunplaced =>
      have hkey : driver.id = d := Table.key_of_get? hget
      rw [exec_finish_refused now hnamed hget hbusy hunplaced]
      subst d
      exact state_writeStatus hget _ id

theorem state_serve_refused {request : Request} {world : DriverWorld}
    {d : String} {action : DriverAction} {left : DriverState}
    (haction : request.action world = some (d, action))
    (hrefusal : Refusal (world.state d) action left) (id : String) :
    (request.serve world).2.state id =
      if id = d then left else world.state id := by
  cases request with
  | createDriver newId dto =>
      simp only [Request.action, Option.map_eq_some_iff, Prod.mk.injEq]
        at haction
      obtain ⟨drivers, -, -, haction⟩ := haction
      rw [← haction] at hrefusal
      cases hrefusal
  | updateStatus now driverId dto =>
      cases haction
      cases hrefusal with
      | @changeStatus driver _ hget hallowed hunplaced =>
          have hkey : driver.id = d := Table.key_of_get? hget
          rw [serve_updateStatus_refused now hget hallowed hunplaced]
          subst d
          exact state_writeStatus hget _ id
  | updateLocation now driverId dto =>
      cases haction
      cases hrefusal with
      | ping hget havailable houtside =>
          rw [serve_updateLocation_refused now hget havailable houtside]
          split
          · rename_i heq
            rw [heq]
          · rfl
  | message now inbound =>
      rw [serve_message]
      cases inbound with
      | userPhotoUpdated event =>
          simp only [Request.action] at haction
          split at haction
          · cases haction
          · obtain ⟨driver, -, htarget⟩ := Option.map_eq_some_iff.mp haction
            cases htarget
            cases hrefusal
      | driverAssigned event =>
          cases haction
          cases hrefusal
      | rideCompleted event => exact state_finish_refused haction hrefusal id
      | rideStatusUpdated event =>
          simp only [Request.action] at haction
          split at haction
          · cases haction
          · rename_i hcancelled
            rw [DriverService.onMessage, if_neg hcancelled]
            exact state_finish_refused haction hrefusal id

/-- A request acts on the driver it concerns as the machine does, and on
nobody else. -/
theorem state_serve (request : Request) (world : DriverWorld) (id : String) :
    (request.serve world).2.state id =
      serveOn (request.action world) world.state id := by
  cases haction : request.action world with
  | none =>
      rw [serve_of_accepted (accepted_of_action_eq_none haction),
        request.state_run, haction]
      rfl
  | some target =>
      obtain ⟨d, action⟩ := target
      cases hrefused : action.refused (world.state d) with
      | some left =>
          rw [state_serve_refused haction (refusal_of_refused hrefused)]
          simp only [serveOn, DriverState.serve]
          split
          · rename_i heq
            rw [heq, hrefused, Option.getD_some]
          · rfl
      | none =>
          have haccepted : ∀ other act, request.action world =
              some (other, act) → ∀ call ∈ act.writesFrom other
                (world.state other), call.Accepted := by
            intro other act hother
            rw [haction] at hother
            cases hother
            exact accepted_writes hrefused d
          rw [serve_of_accepted (accepted_program haccepted),
            request.state_run, haction]
          simp only [serveOn, actOn, DriverState.serve]
          split
          · rename_i heq
            rw [heq, hrefused, Option.getD_none]
          · rfl

/-! ## Drivers stay sound -/

/-- The longitude of an action is within the bounds of the DTOs. -/
def DriverAction.Admitted : DriverAction → Prop
  | .create driver => ∀ lng, driver.lng = some lng → |lng| ≤ GEO_LONG_MAX
  | .ping _ lng => |lng| ≤ GEO_LONG_MAX
  | _ => True

/-- Pool and row agree, and Redis accepted what is in the pool. -/
structure DriverState.Sound (state : DriverState) : Prop where
  consistent : state.Consistent
  accepted : ∀ position, state.entry = some position → InGeoRange position
  longitude : ∀ driver lng, state.row = some driver → driver.lng = some lng →
    |lng| ≤ GEO_LONG_MAX

/-- A driver whom the pool refuses is not in it. -/
theorem DriverState.Sound.entry_eq_none {state : DriverState}
    (hsound : state.Sound) {driver : DriverEntity} {status : DriverStatus}
    (hrow : state.row = some driver) (hrefused : ¬ driver.Placeable status) :
    state.entry = none := by
  cases hentry : state.entry with
  | none => rfl
  | some held =>
      obtain ⟨pooled, hpooled, -, -, hlat, hlng⟩ :=
        hsound.consistent.pooled held hentry
      rw [hrow] at hpooled
      cases hpooled
      exfalso
      apply hrefused
      intro position hposition
      obtain ⟨-, hlat', hlng'⟩ :=
        DriverState.entryFor_eq_some_iff.mp hposition
      have hsame : position = held := by
        rw [hlat] at hlat'
        rw [hlng] at hlng'
        exact Position.ext (Option.some.inj hlng').symm
          (Option.some.inj hlat').symm
      rw [hsame]
      exact hsound.accepted held hentry

theorem DriverState.Sound.left {state : DriverState} (hsound : state.Sound)
    {driver : DriverEntity} {status : DriverStatus}
    (hrow : state.row = some driver) (hrefused : ¬ driver.Placeable status)
    (hphoto : status = .available → driver.hasPhoto = true) :
    DriverState.Sound
      { state with row := some { driver with status := status } } := by
  have hentry := hsound.entry_eq_none hrow hrefused
  constructor
  · constructor
    · intro position hposition
      cases hposition.symm.trans hentry
    · intro changed hchanged hstatus
      cases hchanged
      exact hphoto hstatus
  · exact hsound.accepted
  · intro changed lng hchanged hlng
    cases hchanged
    exact hsound.longitude driver lng hrow hlng

theorem releasedStatus_photo (driver : DriverEntity)
    (hreleased : releasedStatus driver = .available) :
    driver.hasPhoto = true := by
  unfold releasedStatus at hreleased
  split at hreleased
  · assumption
  · cases hreleased

theorem DriverState.Sound.refused {state left : DriverState}
    (hsound : state.Sound) {action : DriverAction}
    (hrefusal : Refusal state action left) : left.Sound := by
  cases hrefusal with
  | changeStatus hrow hallowed hunplaced =>
      exact hsound.left hrow hunplaced
        (statusRefusal_eq_none_iff.mp hallowed).2.2
  | @release driver hrow hbusy hunplaced =>
      exact hsound.left hrow hunplaced (releasedStatus_photo driver)
  | ping hrow havailable houtside => exact hsound

theorem DriverEntity.Placeable.accepted {driver : DriverEntity}
    {status : DriverStatus} (hplaceable : driver.Placeable status) :
    ∀ position, (DriverState.withStatus driver status).entry = some position →
      InGeoRange position :=
  hplaceable

/-- What the pool takes is in range. -/
theorem DriverState.Sound.accepted_apply {state : DriverState}
    (hsound : state.Sound) {action : DriverAction}
    (htaken : action.refused state = none) :
    ∀ position, (state.apply action).entry = some position →
      InGeoRange position := by
  have hunplaced : ∀ (driver : DriverEntity) (status : DriverStatus),
      status ≠ .available → driver.Placeable status := by
    intro driver status hstatus position hposition
    exact (hstatus (DriverState.entryFor_eq_some_iff.mp hposition).1).elim
  obtain ⟨row, entry⟩ := state
  cases row with
  | none =>
      cases action with
      | claim =>
          intro position hposition
          cases hposition
      | _ => exact hsound.accepted
  | some driver =>
      cases action with
      | create created => exact hsound.accepted
      | claim =>
          intro position hposition
          cases hposition
      | changeStatus status =>
          simp only [DriverState.apply]
          cases hrefusal : statusRefusal driver status with
          | some error => exact hsound.accepted
          | none =>
              apply DriverEntity.Placeable.accepted
              by_contra hnot
              simp [DriverAction.refused, hrefusal, hnot] at htaken
      | ping lat lng =>
          intro position hposition
          simp only [DriverState.apply] at hposition
          split at hposition
          · rename_i havailable
            cases hposition
            by_contra hnot
            simp [DriverAction.refused, havailable, hnot] at htaken
          · exact hsound.accepted position hposition
      | syncPhoto hasPhoto =>
          simp only [DriverState.apply]
          split
          · exact DriverEntity.Placeable.accepted (hunplaced _ _ (by decide))
          · exact hsound.accepted
      | assign =>
          simp only [DriverState.apply]
          split
          · exact hsound.accepted
          · exact DriverEntity.Placeable.accepted (hunplaced _ _ (by decide))
      | release =>
          simp only [DriverState.apply]
          split
          · rename_i hbusy
            apply DriverEntity.Placeable.accepted
            by_contra hnot
            simp [DriverAction.refused, hbusy, hnot] at htaken
          · exact hsound.accepted

theorem DriverState.Sound.longitude_apply {state : DriverState}
    (hsound : state.Sound) {action : DriverAction}
    (hadmitted : action.Admitted) :
    ∀ driver lng, (state.apply action).row = some driver →
      driver.lng = some lng → |lng| ≤ GEO_LONG_MAX := by
  obtain ⟨row, entry⟩ := state
  cases row with
  | none =>
      cases action with
      | create created =>
          intro driver lng hrow
          cases hrow
          exact hadmitted lng
      | _ => exact hsound.longitude
  | some stored =>
      have hstored := hsound.longitude stored
      cases action with
      | create created => exact hsound.longitude
      | claim => exact hsound.longitude
      | ping lat lng =>
          intro driver found hrow hlng
          cases hrow
          cases hlng
          exact hadmitted
      | _ =>
          -- the others change the status or the photo flag, if anything
          intro driver lng hrow
          simp only [DriverState.apply] at hrow
          split at hrow
          · cases hrow
            exact hstored lng rfl
          · cases hrow
            exact hstored lng rfl

theorem DriverState.Sound.serve {state : DriverState} (hsound : state.Sound)
    {action : DriverAction} (hadmitted : action.Admitted)
    (hcreate : ∀ driver, action = .create driver →
      driver.status = .offline) : (state.serve action).Sound := by
  unfold DriverState.serve
  cases hrefused : action.refused state with
  | some left => exact hsound.refused (refusal_of_refused hrefused)
  | none =>
      exact ⟨hsound.consistent.apply hcreate, hsound.accepted_apply hrefused,
        hsound.longitude_apply hadmitted⟩

end FakeBolt.Driver
