import FakeBolt.DriverCalls
import FakeBolt.GuardedRun

/-!
# Requests for one driver at the same time

Requests for the same driver run interleaved at their calls.  `RaceView` keeps
of the system what concerns the driver: who has read, which writes each of the
requests still has to make, and the driver.  Every turn of the system is a
move of this view, in which a request that has read makes the next of its
writes or nothing happens to the driver.
-/

namespace FakeBolt.Driver

open Await Interleaving Kafka Store Transition

/-! ## The writes of an action -/

def statusWrites (d : String) (status : DriverStatus) (driver : DriverEntity) :
    List DriverCall :=
  [.update d { status := status }, poolCall d status driver.lat driver.lng]

/-- The calls that change the driver `d`, from the row as read. -/
def DriverAction.writes (d : String) (action : DriverAction)
    (driver : DriverEntity) : List DriverCall :=
  match action with
  | .changeStatus status =>
      match statusRefusal driver status with
      | some _ => []
      | none => statusWrites d status driver
  | .ping lat lng =>
      (if driver.status = .available then [.geoadd lng lat d] else []) ++
        [.update d { lat := lat, lng := lng }]
  | .syncPhoto hasPhoto =>
      .update d { hasPhoto := hasPhoto } ::
        if hasPhoto = false ∧ driver.status = .available then
          statusWrites d .offline driver
        else []
  | .assign =>
      if driver.status = .busy then [] else statusWrites d .busy driver
  | .release =>
      if driver.status = .busy then
        statusWrites d (releasedStatus driver) driver
      else []
  | .create _ => []
  | .claim => []

def DriverAction.writesFrom (d : String) (action : DriverAction)
    (state : DriverState) : List DriverCall :=
  match state.row with
  | none => []
  | some driver => action.writes d driver

/-- The calls that change the table or the pool. -/
def DriverCall.changes : DriverCall → Bool
  | .save _ => true
  | .update _ _ => true
  | .geoadd _ _ _ => true
  | .zrem _ => true
  | _ => false

theorem changes_poolCall (d : String) (status : DriverStatus)
    (lat lng : Option Num) : (poolCall d status lat lng).changes = true := by
  unfold poolCall
  cases entryFor status lat lng <;> rfl

theorem filter_statusCalls (d : String) (status : DriverStatus)
    (driver : DriverEntity) (event : DriverStatusUpdated) :
    (statusCalls d status driver.lat driver.lng event).filter
        DriverCall.changes = statusWrites d status driver := by
  simp only [statusCalls, statusWrites, List.filter_cons, List.filter_nil,
    changes_poolCall]
  rfl

theorem calls_eachMessage (now : Instant) (inbound : DriverService.Inbound)
    (world : DriverWorld) :
    (DriverService.eachMessage now (some inbound)).calls DriverWorld.answer
        world =
      (DriverService.onMessage now inbound).calls DriverWorld.answer world := by
  simp only [DriverService.eachMessage, Kafka.eachMessage,
    Program.calls_tryCatch]
  split <;> simp

theorem writes_rideFinished {now : Instant} {event : RideFinishedEvent}
    {world : DriverWorld} {d : String} {action : DriverAction}
    (haction : finishAction event = some (d, action)) :
    ((DriverService.handleRideFinished now event).calls DriverWorld.answer
        world).filter DriverCall.changes =
      action.writesFrom d (world.state d) := by
  unfold finishAction at haction
  rw [calls_handleRideFinished]
  cases hid : truthy event.driverId with
  | none => simp [hid] at haction
  | some driverId =>
      rw [hid] at haction
      cases haction
      simp only [DriverAction.writesFrom, state_row, DriverAction.writes]
      cases hget : world.drivers.get? d with
      | none => rfl
      | some driver =>
          have hkey : driver.id = d := Table.key_of_get? hget
          subst d
          simp only
          split_ifs <;> simp [DriverCall.changes, filter_statusCalls]

theorem not_createDriver {request : Request} {world : DriverWorld}
    {d : String} {action : DriverAction}
    (haction : request.action world = some (d, action))
    (hcreate : ∀ driver, action ≠ .create driver) (newId : String)
    (dto : CreateDriverDto) : request ≠ .createDriver newId dto := by
  intro hrequest
  simp only [hrequest, Request.action, Option.map_eq_some_iff,
    Prod.mk.injEq] at haction
  obtain ⟨_, _, _, hcreated⟩ := haction
  exact hcreate _ hcreated.symm

/-- A request makes the writes of its action. -/
theorem writes_program {request : Request} {world : DriverWorld} {d : String}
    {action : DriverAction} (haction : request.action world = some (d, action))
    (hcreate : ∀ driver, action ≠ .create driver) :
    (request.program.calls DriverWorld.answer world).filter
        DriverCall.changes = action.writesFrom d (world.state d) := by
  cases request with
  | createDriver newId dto =>
      exact (not_createDriver haction hcreate newId dto rfl).elim
  | updateStatus now id dto =>
      cases haction
      simp only [Request.program, Program.calls_bind, calls_updateStatus,
        exec_updateStatus, DriverAction.writesFrom, state_row,
        DriverAction.writes]
      cases world.drivers.get? d with
      | none => rfl
      | some driver =>
          cases hrefused : statusRefusal driver dto.status <;>
            simp [hrefused, DriverCall.changes, filter_statusCalls]
  | updateLocation now id dto =>
      cases haction
      simp only [Request.program, Program.calls_bind, calls_updateLocation,
        exec_updateLocation, DriverAction.writesFrom, state_row,
        DriverAction.writes]
      cases world.drivers.get? d with
      | none => rfl
      | some driver =>
          by_cases havailable : driver.status = .available <;>
            simp [havailable, List.filter_cons, DriverCall.changes]
  | message now inbound =>
      simp only [Request.program, calls_eachMessage]
      cases inbound with
      | userPhotoUpdated event =>
          simp only [Request.action] at haction
          simp only [DriverService.onMessage, calls_handleUserPhotoUpdated]
          split_ifs at haction ⊢ with hrole
          cases hfind : world.drivers.find? fun r =>
              r.userId = event.userId with
          | none => simp [hfind] at haction
          | some driver =>
              rw [hfind] at haction
              cases haction
              have hget : world.drivers.get? driver.id = some driver :=
                Table.get?_key_of_mem (Table.mem_of_find? hfind)
              simp only [DriverAction.writesFrom, state_row, hget,
                DriverAction.writes]
              split_ifs <;>
                simp [List.filter_cons, DriverCall.changes,
                  filter_statusCalls]
      | driverAssigned event =>
          cases haction
          simp only [DriverService.onMessage, calls_handleDriverAssigned,
            DriverAction.writesFrom, state_row, DriverAction.writes]
          cases hget : world.drivers.get? event.driverId with
          | none => rfl
          | some driver =>
              have hkey : driver.id = event.driverId := Table.key_of_get? hget
              simp only [← hkey]
              split_ifs <;> simp [DriverCall.changes, filter_statusCalls]
      | rideCompleted event => exact writes_rideFinished haction
      | rideStatusUpdated event =>
          simp only [Request.action] at haction
          simp only [DriverService.onMessage]
          split_ifs at haction ⊢ with hstatus
          exact writes_rideFinished haction

theorem action_answer {request : Request} {world : DriverWorld}
    {d : String} {action : DriverAction}
    (haction : request.action world = some (d, action))
    (hcreate : ∀ driver, action ≠ .create driver) {call : DriverCall}
    (hsave : ∀ driver, call ≠ .save driver) :
    request.action (DriverWorld.answer call world).2 = some (d, action) := by
  cases request with
  | createDriver newId dto =>
      exact (not_createDriver haction hcreate newId dto rfl).elim
  | updateStatus now id dto => exact haction
  | updateLocation now id dto => exact haction
  | message now inbound =>
      cases inbound with
      | driverAssigned event => exact haction
      | rideCompleted event => exact haction
      | rideStatusUpdated event => exact haction
      | userPhotoUpdated event =>
          cases call with
          | save driver => exact (hsave driver rfl).elim
          | update id patch =>
              simp only [Request.action, DriverWorld.answer] at haction ⊢
              split_ifs at haction ⊢ with hrole
              rw [Table.find?_update _ _ _ (fun _ => rfl), Option.map_map,
                ← haction]
              congr 1
              funext driver
              simp only [Function.comp_apply]
              split <;> rfl
          | findOneByEmail email => exact haction
          | findOneById id => exact haction
          | findOneByUserId userId => exact haction
          | geoadd longitude latitude member => exact haction
          | zrem member => exact haction
          | send record => exact haction

/-! ## The system and its view -/

abbrev DriverRace (τ : Type) :=
  Interleaving τ DriverCall.Reply JsError Unit DriverWorld

variable {τ : Type}

/-- The first call of an execution, the read of the row, is still to come. -/
def Unread (system : DriverRace τ) (thread : τ) : Prop :=
  ∃ call, (system.program thread).pending = some call ∧ ¬ call.IsWrite

structure RaceView (τ : Type) where
  unread : τ → Prop
  left : τ → List DriverCall
  state : DriverState

def raceView (d : String) (system : DriverRace τ) : RaceView τ where
  unread := Unread system
  left thread :=
    (system.ahead DriverWorld.answer thread).filter DriverCall.changes
  state := system.world.state d

theorem mem_left_iff (d : String) {system : DriverRace τ} {thread : τ}
    {call : DriverCall} (hchanges : call.changes = true) :
    call ∈ (raceView d system).left thread ↔
      call ∈ system.ahead DriverWorld.answer thread := by
  simp [raceView, hchanges]

/-- A write that some row makes the action do. -/
def DriverAction.Makes (d : String) (action : DriverAction)
    (call : DriverCall) : Prop :=
  ∃ driver, call ∈ action.writes d driver

theorem mem_statusWrites {d : String} {status : DriverStatus}
    {driver : DriverEntity} {call : DriverCall}
    (hcall : call ∈ statusWrites d status driver) :
    call = .update d { status := status } ∨ call = .zrem d ∨
      ∃ lng lat, status = .available ∧ driver.lng = some lng ∧
        driver.lat = some lat ∧ call = .geoadd lng lat d := by
  simp only [statusWrites, poolCall, List.mem_cons, List.not_mem_nil,
    or_false] at hcall
  rcases hcall with hupdate | hpool
  · exact Or.inl hupdate
  · cases hentry : entryFor status driver.lat driver.lng with
    | none =>
        rw [hentry] at hpool
        exact Or.inr (Or.inl hpool)
    | some position =>
        rw [hentry] at hpool
        obtain ⟨hstatus, hlat, hlng⟩ :=
          DriverState.entryFor_eq_some_iff.mp hentry
        exact Or.inr (Or.inr ⟨_, _, hstatus, hlng, hlat, hpool⟩)

theorem mem_writes_changeStatus {d : String} {status : DriverStatus}
    {driver : DriverEntity} {call : DriverCall}
    (hcall : call ∈ (DriverAction.changeStatus status).writes d driver) :
    statusRefusal driver status = none ∧
      call ∈ statusWrites d status driver := by
  simp only [DriverAction.writes] at hcall
  cases hrefused : statusRefusal driver status with
  | none =>
      rw [hrefused] at hcall
      exact ⟨rfl, hcall⟩
  | some refusal => simp [hrefused] at hcall

theorem makes_changeStatus {d : String} {status : DriverStatus}
    {call : DriverCall}
    (hmakes : (DriverAction.changeStatus status).Makes d call) :
    status ≠ .busy ∧
      (call = .update d { status := status } ∨ call = .zrem d ∨
        ∃ lng lat, status = .available ∧ call = .geoadd lng lat d) := by
  obtain ⟨driver, hcall⟩ := hmakes
  obtain ⟨haccepted, hmem⟩ := mem_writes_changeStatus hcall
  refine ⟨(statusRefusal_eq_none_iff.mp haccepted).1, ?_⟩
  rcases mem_statusWrites hmem with
    hupdate | hzrem | ⟨lng, lat, hstatus, -, -, hgeoadd⟩
  · exact Or.inl hupdate
  · exact Or.inr (Or.inl hzrem)
  · exact Or.inr (Or.inr ⟨lng, lat, hstatus, hgeoadd⟩)

theorem makes_ping {d : String} {lat lng : Num} {call : DriverCall}
    (hmakes : (DriverAction.ping lat lng).Makes d call) :
    call = .geoadd lng lat d ∨ call = .update d { lat := lat, lng := lng } := by
  obtain ⟨driver, hcall⟩ := hmakes
  by_cases havailable : driver.status = .available
  · simpa [DriverAction.writes, havailable] using hcall
  · right
    simpa [DriverAction.writes, havailable] using hcall

theorem makes_syncPhoto {d : String} {hasPhoto : Bool} {call : DriverCall}
    (hmakes : (DriverAction.syncPhoto hasPhoto).Makes d call) :
    call = .update d { hasPhoto := hasPhoto } ∨
      call = .update d { status := some .offline } ∨ call = .zrem d := by
  obtain ⟨driver, hcall⟩ := hmakes
  rcases List.mem_cons.mp hcall with hflag | hrest
  · exact Or.inl hflag
  · split_ifs at hrest with hoffline
    · rcases mem_statusWrites hrest with
        hupdate | hzrem | ⟨_, _, hstatus, -⟩
      · exact Or.inr (Or.inl hupdate)
      · exact Or.inr (Or.inr hzrem)
      · cases hstatus
    · cases hrest

theorem makes_assign {d : String} {call : DriverCall}
    (hmakes : DriverAction.assign.Makes d call) :
    call = .update d { status := some .busy } ∨ call = .zrem d := by
  obtain ⟨driver, hcall⟩ := hmakes
  simp only [DriverAction.writes] at hcall
  split_ifs at hcall with hbusy
  · cases hcall
  · rcases mem_statusWrites hcall with hupdate | hzrem | ⟨_, _, hstatus, -⟩
    · exact Or.inl hupdate
    · exact Or.inr hzrem
    · cases hstatus

theorem makes_release {d : String} {call : DriverCall}
    (hmakes : DriverAction.release.Makes d call) :
    (∃ status, status ≠ .busy ∧ call = .update d { status := some status }) ∨
      call = .zrem d ∨ ∃ lng lat, call = .geoadd lng lat d := by
  obtain ⟨driver, hcall⟩ := hmakes
  simp only [DriverAction.writes] at hcall
  split_ifs at hcall with hbusy
  · rcases mem_statusWrites hcall with
      hupdate | hzrem | ⟨lng, lat, -, -, -, hgeoadd⟩
    · refine Or.inl ⟨releasedStatus driver, ?_, hupdate⟩
      unfold releasedStatus
      split <;> simp
    · exact Or.inr (Or.inl hzrem)
    · exact Or.inr (Or.inr ⟨lng, lat, hgeoadd⟩)
  · cases hcall

/-- Every write of an action is to the row or the entry of its driver. -/
theorem makes_cases {d : String} {action : DriverAction} {call : DriverCall}
    (hmakes : action.Makes d call) :
    (∃ patch, call = .update d patch) ∨ call = .zrem d ∨
      ∃ lng lat, call = .geoadd lng lat d := by
  cases action with
  | changeStatus status =>
      rcases (makes_changeStatus hmakes).2 with
        hupdate | hzrem | ⟨lng, lat, -, hgeoadd⟩
      · exact Or.inl ⟨_, hupdate⟩
      · exact Or.inr (Or.inl hzrem)
      · exact Or.inr (Or.inr ⟨lng, lat, hgeoadd⟩)
  | ping lat lng =>
      rcases makes_ping hmakes with hgeoadd | hupdate
      · exact Or.inr (Or.inr ⟨lng, lat, hgeoadd⟩)
      · exact Or.inl ⟨_, hupdate⟩
  | syncPhoto hasPhoto =>
      rcases makes_syncPhoto hmakes with hflag | hoffline | hzrem
      · exact Or.inl ⟨_, hflag⟩
      · exact Or.inl ⟨_, hoffline⟩
      · exact Or.inr (Or.inl hzrem)
  | assign =>
      rcases makes_assign hmakes with hupdate | hzrem
      · exact Or.inl ⟨_, hupdate⟩
      · exact Or.inr (Or.inl hzrem)
  | release =>
      rcases makes_release hmakes with ⟨status, -, hupdate⟩ | hzrem | hgeoadd
      · exact Or.inl ⟨_, hupdate⟩
      · exact Or.inr (Or.inl hzrem)
      · exact Or.inr (Or.inr hgeoadd)
  | create created =>
      obtain ⟨row, hcall⟩ := hmakes
      cases hcall
  | claim =>
      obtain ⟨row, hcall⟩ := hmakes
      cases hcall

theorem not_makes_save {d : String} {action : DriverAction}
    {driver : DriverEntity} : ¬ action.Makes d (.save driver) := by
  intro hmakes
  simpa using makes_cases hmakes

/-- The row after a call that does not touch another driver. -/
def DriverCall.patched (call : DriverCall) (driver : DriverEntity) :
    DriverEntity :=
  match call with
  | .update _ patch => patch.apply driver
  | _ => driver

/-- Every request has its action on the driver, is unread or has only writes
to make, and these are writes of its action. -/
structure Racing (requests : τ → Request) (actions : τ → DriverAction)
    (d : String) (system : DriverRace τ) : Prop where
  once : system.ReadsOnce DriverWorld.answer DriverCall.IsWrite
    fun thread => (requests thread).program
  named : ∀ thread,
    (requests thread).action system.world = some (d, actions thread)
  makes : ∀ thread, ∀ call ∈ (raceView d system).left thread,
    (actions thread).Makes d call

structure RacingIn (requests : τ → Request) (actions : τ → DriverAction)
    (d : String) (P : RaceView τ → Prop) (system : DriverRace τ) : Prop where
  racing : Racing requests actions d system
  holds : P (raceView d system)

/-- A turn that does nothing to the driver. -/
structure Quiet (actions : τ → DriverAction) (d : String) (thread : τ)
    (before after : RaceView τ) : Prop where
  state : after.state = before.state
  left : ∀ t, after.left t = before.left t
  unread : ∀ t, after.unread t ↔ before.unread t ∧ t ≠ thread
  unread_left : ∀ t, before.unread t →
    before.left t = (actions t).writesFrom d before.state

/-- A turn that makes the next write of a request that has read. -/
structure Writing (actions : τ → DriverAction) (d : String) (thread : τ)
    (call : DriverCall) (before after : RaceView τ) : Prop where
  ready : ¬ before.unread thread
  state : after.state = call.act d before.state
  left : before.left thread = call :: after.left thread
  unread : ∀ t, after.unread t ↔ before.unread t
  read_left : ∀ t, t ≠ thread → ¬ before.unread t →
    after.left t = before.left t
  unread_left : ∀ t, before.unread t →
    before.left t = (actions t).writesFrom d before.state ∧
      after.left t = (actions t).writesFrom d after.state

namespace Writing

variable {actions : τ → DriverAction} {d : String} {thread t : τ}
  {call write : DriverCall} {before after : RaceView τ}

theorem mem_left (hwriting : Writing actions d thread call before after) :
    call ∈ before.left thread := by
  rw [hwriting.left]
  exact List.mem_cons_self

theorem row_after (hwriting : Writing actions d thread call before after)
    (hmakes : (actions thread).Makes d call) {driver : DriverEntity}
    (hrow : before.state.row = some driver) :
    after.state.row = some (call.patched driver) := by
  rw [hwriting.state]
  rcases makes_cases hmakes with ⟨patch, rfl⟩ | rfl | ⟨lng, lat, rfl⟩ <;>
    simp [DriverCall.act, DriverState.updateRow, hrow, DriverCall.patched]

theorem mem_after (hwriting : Writing actions d thread call before after)
    (hread : ¬ before.unread t) (hwrite : write ∈ before.left t)
    (hne : write ≠ call) : write ∈ after.left t := by
  by_cases ht : t = thread
  · subst t
    rw [hwriting.left] at hwrite
    rcases List.mem_cons.mp hwrite with heq | hrest
    · exact (hne heq).elim
    · exact hrest
  · rw [hwriting.read_left t ht hread]
    exact hwrite

theorem mem_before (hwriting : Writing actions d thread call before after)
    (hwrite : write ∈ after.left t) :
    (¬ before.unread t ∧ write ∈ before.left t) ∨
      (before.unread t ∧ write ∈ (actions t).writesFrom d after.state) := by
  by_cases hunread : before.unread t
  · right
    rw [(hwriting.unread_left t hunread).2] at hwrite
    exact ⟨hunread, hwrite⟩
  · left
    refine ⟨hunread, ?_⟩
    by_cases ht : t = thread
    · subst t
      rw [hwriting.left]
      exact List.mem_cons_of_mem _ hwrite
    · rw [hwriting.read_left t ht hunread] at hwrite
      exact hwrite

end Writing

theorem mem_writesFrom {d : String} {action : DriverAction}
    {state : DriverState} {call : DriverCall}
    (hcall : call ∈ action.writesFrom d state) : action.Makes d call := by
  unfold DriverAction.writesFrom at hcall
  cases hrow : state.row with
  | none => simp [hrow] at hcall
  | some driver =>
      rw [hrow] at hcall
      exact ⟨driver, hcall⟩

/-- What a request is about is not changed by another request. -/
theorem action_run {request other : Request} {world : DriverWorld}
    {d d' : String} {action action' : DriverAction}
    (hrequest : request.action world = some (d, action))
    (hcreate : ∀ driver, action ≠ .create driver)
    (hother : other.action world = some (d', action'))
    (hcreate' : ∀ driver, action' ≠ .create driver) :
    other.action (request.run world) = some (d', action') := by
  rw [← exec_program]
  apply Program.exec_keeps DriverWorld.answer
    (fun world => other.action world = some (d', action')) ?_ hother
  intro call hcall before hbefore
  apply action_answer hbefore hcreate'
  intro driver hsave
  have hmem : call ∈ (request.program.calls DriverWorld.answer world).filter
      DriverCall.changes := by
    rw [List.mem_filter]
    exact ⟨hcall, by rw [hsave]; rfl⟩
  rw [writes_program hrequest hcreate, hsave] at hmem
  exact not_makes_save (mem_writesFrom hmem)

section Turns

variable {requests : τ → Request} {actions : τ → DriverAction} {d : String}

/-- An unread request is still at its start. -/
theorem program_of_unread {programs : τ → DriverM Unit}
    {system : DriverRace τ}
    (honce : system.ReadsOnce DriverWorld.answer DriverCall.IsWrite programs)
    {thread : τ} (hunread : Unread system thread) :
    system.program thread = programs thread := by
  obtain ⟨call, hpending, hread⟩ := hunread
  rcases honce thread with hstart | hwrites
  · exact hstart
  · exact (hread (hwrites.of_pending hpending)).elim

theorem Racing.writes_of_read (hcreate : ∀ t driver, actions t ≠ .create driver)
    {system : DriverRace τ} (hracing : Racing requests actions d system)
    {thread : τ} (hread : ¬ Unread system thread) :
    (system.program thread).Permits DriverWorld.answer DriverCall.IsWrite := by
  rcases hracing.once thread with hstart | hwrites
  · have hphased := readsThenWrites_program
      (not_createDriver (hracing.named thread) (hcreate thread))
    dsimp only at hstart
    rw [← hstart] at hphased
    cases hprogram : system.program thread with
    | done value => trivial
    | fail error => trivial
    | await call resume =>
        rw [hprogram] at hphased
        refine (hread ⟨call, ?_, by simpa using hphased.1⟩).elim
        rw [hprogram]
        rfl
  · exact hwrites

theorem left_of_start {system : DriverRace τ} {thread : τ}
    (hstart : system.program thread = (requests thread).program)
    (hnamed : (requests thread).action system.world = some (d, actions thread))
    (hcreate : ∀ driver, actions thread ≠ .create driver) :
    (raceView d system).left thread =
      (actions thread).writesFrom d (system.world.state d) := by
  have hwrites := writes_program hnamed hcreate
  rw [← hstart] at hwrites
  exact hwrites

theorem racing_start (hcreate : ∀ t driver, actions t ≠ .create driver)
    {world : DriverWorld}
    (hnamed : ∀ t, (requests t).action world = some (d, actions t)) :
    Racing requests actions d
      (Interleaving.start (fun t => (requests t).program) world) where
  once _ := Or.inl rfl
  named := hnamed
  makes thread call hcall := by
    rw [left_of_start rfl (hnamed thread) (hcreate thread)] at hcall
    exact mem_writesFrom hcall

/-- A request that has something to write starts with its lookup. -/
theorem unread_start (hcreate : ∀ t driver, actions t ≠ .create driver)
    {world : DriverWorld}
    (hnamed : ∀ t, (requests t).action world = some (d, actions t)) {thread : τ}
    (hwrites : (actions thread).writesFrom d (world.state d) ≠ []) :
    Unread (Interleaving.start (fun t => (requests t).program) world)
      thread := by
  have hphased := readsThenWrites_program
    (not_createDriver (hnamed thread) (hcreate thread))
  have hfilter := writes_program (hnamed thread) (hcreate thread)
  simp only [Unread, Interleaving.start]
  cases hprogram : (requests thread).program with
  | done value =>
      rw [hprogram] at hfilter
      exact (hwrites hfilter.symm).elim
  | fail error =>
      rw [hprogram] at hfilter
      exact (hwrites hfilter.symm).elim
  | await call resume =>
      rw [hprogram] at hphased
      exact ⟨call, rfl, by simpa using hphased.1⟩

theorem not_unread_of_finished {system : DriverRace τ}
    (hfinished : system.Finished) (thread : τ) : ¬ Unread system thread := by
  rintro ⟨call, hpending, -⟩
  rw [hfinished thread] at hpending
  cases hpending

theorem left_of_finished {system : DriverRace τ} (hfinished : system.Finished)
    (thread : τ) : (raceView d system).left thread = [] := by
  simp [raceView, hfinished.ahead_eq_nil]

theorem row_of_syncPhoto {request : Request} {world : DriverWorld}
    {hasPhoto : Bool}
    (haction : request.action world = some (d, .syncPhoto hasPhoto)) :
    ∃ driver, world.drivers.get? d = some driver := by
  cases request with
  | createDriver newId dto => simp [Request.action] at haction
  | updateStatus now id dto => simp [Request.action] at haction
  | updateLocation now id dto => simp [Request.action] at haction
  | message now inbound =>
      cases inbound with
      | userPhotoUpdated event =>
          simp only [Request.action] at haction
          split_ifs at haction
          obtain ⟨driver, hfind, heq⟩ := Option.map_eq_some_iff.mp haction
          cases heq
          exact ⟨driver, Table.get?_key_of_mem (Table.mem_of_find? hfind)⟩
      | driverAssigned event => simp [Request.action] at haction
      | rideCompleted event => simp [Request.action, finishAction] at haction
      | rideStatusUpdated event =>
          simp [Request.action, finishAction] at haction

theorem Racing.makes_call {system : DriverRace τ} {after : RaceView τ}
    {thread : τ} {call : DriverCall}
    (hracing : Racing requests actions d system)
    (hwriting : Writing actions d thread call (raceView d system) after) :
    (actions thread).Makes d call := by
  exact hracing.makes thread call hwriting.mem_left

theorem act_of_changes {call : DriverCall} (hchanges : call.changes = false)
    (state : DriverState) : call.act d state = state := by
  cases call <;> first | rfl | cases hchanges

theorem isWrite_of_changes {call : DriverCall} (hchanges : call.changes = true)
    (hsave : ∀ driver, call ≠ .save driver) : call.IsWrite := by
  cases call with
  | findOneByEmail email => cases hchanges
  | findOneById id => cases hchanges
  | findOneByUserId userId => cases hchanges
  | save driver => exact hsave driver rfl
  | update id patch => trivial
  | geoadd longitude latitude member => trivial
  | zrem member => trivial
  | send record => cases hchanges

variable [DecidableEq τ]

/-- What a turn does: its call acts on the driver, the caller has read from
then on, and what the others have left follows from the driver or stays. -/
structure Turned (requests : τ → Request) (actions : τ → DriverAction)
    (d : String) (thread : τ) (call : DriverCall)
    (system next : DriverRace τ) : Prop where
  once : next.ReadsOnce DriverWorld.answer DriverCall.IsWrite
    fun thread => (requests thread).program
  named : ∀ t, (requests t).action next.world = some (d, actions t)
  pending : (system.program thread).pending = some call
  notSave : ∀ driver, call ≠ .save driver
  state : (raceView d next).state = call.act d (raceView d system).state
  left : (raceView d system).left thread =
    if call.changes then call :: (raceView d next).left thread
    else (raceView d next).left thread
  read : ¬ Unread next thread
  unread : ∀ t, t ≠ thread → (Unread next t ↔ Unread system t)
  left_read : ∀ t, t ≠ thread → ¬ Unread system t →
    (raceView d next).left t = (raceView d system).left t
  left_unread : ∀ t, Unread system t →
    (raceView d system).left t =
      (actions t).writesFrom d (raceView d system).state
  left_next : ∀ t, t ≠ thread → Unread system t →
    (raceView d next).left t = (actions t).writesFrom d (raceView d next).state

theorem Racing.turned (hcreate : ∀ t driver, actions t ≠ .create driver)
    {system next : DriverRace τ} {thread : τ}
    (hracing : Racing requests actions d system)
    (hturn : turn DriverWorld.answer system thread = some next) :
    ∃ call, Turned requests actions d thread call system next := by
  obtain ⟨call, hpending, hworld, -, hahead, hothers⟩ := turn_cases hturn
  have hleft : (raceView d system).left thread =
      if call.changes then call :: (raceView d next).left thread
      else (raceView d next).left thread := by
    simp only [raceView, hahead, List.filter_cons]
  have hsave : ∀ driver, call ≠ .save driver := by
    intro driver hcall
    subst call
    apply not_makes_save (hracing.makes thread (.save driver) ?_)
    rw [hleft]
    simp [DriverCall.changes]
  have hreads : ∀ t, ((requests t).program).ReadsThenWrites
      DriverWorld.answer DriverCall.IsWrite := fun t =>
    readsThenWrites_program
      (not_createDriver (hracing.named t) (hcreate t))
  have honce := hracing.once.turn hreads hturn
  have hnamed : ∀ t, (requests t).action next.world = some (d, actions t) := by
    intro t
    rw [hworld]
    exact action_answer (hracing.named t) (hcreate t) hsave
  have hunread : ∀ t, t ≠ thread → (Unread next t ↔ Unread system t) := by
    intro t ht
    unfold Unread
    rw [hothers t ht]
  refine ⟨call, honce, hnamed, hpending, hsave, ?_, hleft, ?_, hunread, ?_, ?_,
    ?_⟩
  · simp only [raceView, hworld]
    exact state_answer hsave system.world d
  · rintro ⟨later, hlater, hnot⟩
    exact hnot ((hracing.once.writes_of_turn hreads hturn).of_pending hlater)
  · intro t ht hnot
    have hahead := ahead_of_writes blind_isWrite (hothers t ht)
      (hracing.writes_of_read hcreate hnot)
    simp only [raceView, hahead]
  · intro t ht
    exact left_of_start (program_of_unread hracing.once ht)
      (hracing.named t) (hcreate t)
  · intro t ht hstill
    have hstart := program_of_unread honce ((hunread t ht).mpr hstill)
    exact left_of_start hstart (hnamed t) (hcreate t)

namespace Turned

variable {thread : τ} {call : DriverCall} {system next : DriverRace τ}

theorem racing (hturned : Turned requests actions d thread call system next)
    (hracing : Racing requests actions d system) :
    Racing requests actions d next where
  once := hturned.once
  named := hturned.named
  makes := by
    intro t write hwrite
    by_cases ht : t = thread
    · subst t
      apply hracing.makes thread write
      rw [hturned.left]
      split
      · exact List.mem_cons_of_mem _ hwrite
      · exact hwrite
    · by_cases hstill : Unread system t
      · rw [hturned.left_next t ht hstill] at hwrite
        exact mem_writesFrom hwrite
      · rw [hturned.left_read t ht hstill] at hwrite
        exact hracing.makes t write hwrite

theorem quiet (hturned : Turned requests actions d thread call system next)
    (hchanges : call.changes = false) :
    Quiet actions d thread (raceView d system) (raceView d next) := by
  have hstate : (raceView d next).state = (raceView d system).state := by
    rw [hturned.state, act_of_changes hchanges]
  refine ⟨hstate, ?_, ?_, hturned.left_unread⟩
  · intro t
    by_cases ht : t = thread
    · subst t
      rw [hturned.left, hchanges]
      rfl
    · by_cases hstill : Unread system t
      · rw [hturned.left_next t ht hstill, hturned.left_unread t hstill, hstate]
      · exact hturned.left_read t ht hstill
  · intro t
    by_cases ht : t = thread
    · subst t
      simpa [raceView] using hturned.read
    · simpa [raceView, ht] using hturned.unread t ht

theorem writing (hturned : Turned requests actions d thread call system next)
    (hchanges : call.changes = true) :
    Writing actions d thread call (raceView d system) (raceView d next) := by
  have hready : ¬ Unread system thread := by
    rintro ⟨first, hfirst, hnot⟩
    rw [hturned.pending] at hfirst
    cases hfirst
    exact hnot (isWrite_of_changes hchanges hturned.notSave)
  refine ⟨hready, hturned.state, ?_, ?_, hturned.left_read, ?_⟩
  · rw [hturned.left, hchanges]
    rfl
  · intro t
    by_cases ht : t = thread
    · subst t
      simp [raceView, hturned.read, hready]
    · exact hturned.unread t ht
  · intro t hstill
    have ht : t ≠ thread := by
      intro heq
      subst t
      exact hready hstill
    exact ⟨hturned.left_unread t hstill, hturned.left_next t ht hstill⟩

end Turned

/-- Every turn is a quiet one or the next write of a request that has read. -/
theorem Racing.turn (hcreate : ∀ t driver, actions t ≠ .create driver)
    {system next : DriverRace τ} {thread : τ}
    (hracing : Racing requests actions d system)
    (hturn : turn DriverWorld.answer system thread = some next) :
    Racing requests actions d next ∧
      ∃ call, (system.program thread).pending = some call ∧
        ((call.changes = false ∧
            Quiet actions d thread (raceView d system)
              (raceView d next)) ∨
          (call.changes = true ∧
            Writing actions d thread call (raceView d system)
              (raceView d next))) := by
  obtain ⟨call, hturned⟩ := hracing.turned hcreate hturn
  refine ⟨hturned.racing hracing, call, hturned.pending, ?_⟩
  cases hchanges : call.changes with
  | false => exact Or.inl ⟨rfl, hturned.quiet hchanges⟩
  | true => exact Or.inr ⟨rfl, hturned.writing hchanges⟩

/-- A run of a race ends in a good view exactly if it meets the guard, where
every turn that meets it keeps the view good and any other spoils it. -/
theorem good_or_bad_of_race (Good Bad : RaceView τ → Prop)
    (hcreate : ∀ t driver, actions t ≠ .create driver)
    {guard : DriverRace τ → τ → Prop}
    (hkeep : ∀ {system next thread}, Racing requests actions d system →
      Good (raceView d system) → guard system thread →
      turn DriverWorld.answer system thread = some next →
      Good (raceView d next))
    (hspoil : ∀ {system next thread}, Racing requests actions d system →
      Good (raceView d system) → ¬ guard system thread →
      turn DriverWorld.answer system thread = some next →
      Bad (raceView d next))
    (hstay : ∀ {system next thread}, Racing requests actions d system →
      Bad (raceView d system) →
      turn DriverWorld.answer system thread = some next →
      Bad (raceView d next))
    {system last : DriverRace τ} {schedule : List τ}
    (hracing : Racing requests actions d system)
    (hgood : Good (raceView d system))
    (hrun : run (turn DriverWorld.answer) system schedule = some last) :
    (RunMeets (turn DriverWorld.answer) guard system schedule ∧
        Good (raceView d last)) ∨
      (¬ RunMeets (turn DriverWorld.answer) guard system schedule ∧
        Bad (raceView d last)) := by
  have hends : (RunMeets (turn DriverWorld.answer) guard system schedule ∧
        RacingIn requests actions d Good last) ∨
      (¬ RunMeets (turn DriverWorld.answer) guard system schedule ∧
        RacingIn requests actions d Bad last) := by
    refine good_or_bad_of_run ?_ ?_ ?_ ⟨hracing, hgood⟩ hrun
    · intro system thread next hin hguard hturn
      exact ⟨(hin.racing.turn hcreate hturn).1,
        hkeep hin.racing hin.holds hguard hturn⟩
    · intro system thread next hin hguard hturn
      exact ⟨(hin.racing.turn hcreate hturn).1,
        hspoil hin.racing hin.holds hguard hturn⟩
    · intro system thread next hin hturn
      exact ⟨(hin.racing.turn hcreate hturn).1,
        hstay hin.racing hin.holds hturn⟩
  rcases hends with ⟨hmeets, hin⟩ | ⟨hnot, hin⟩
  · exact Or.inl ⟨hmeets, hin.holds⟩
  · exact Or.inr ⟨hnot, hin.holds⟩

end Turns

/-! ## Two executions -/

def raceFinished (system : DriverRace Bool) : Bool :=
  (system.program true).pending.isNone && (system.program false).pending.isNone

theorem finished_of_raceFinished {system : DriverRace Bool}
    (hfinished : raceFinished system = true) : system.Finished := by
  simp only [raceFinished, Bool.and_eq_true, Option.isNone_iff_eq_none]
    at hfinished
  intro t
  cases t with
  | true => exact hfinished.1
  | false => exact hfinished.2

theorem waitingWorld_consistent : (waitingWorld.state "d").Consistent := by
  have hstate : waitingWorld.state "d" =
      DriverState.withStatus waitingDriver .available := by
    decide +kernel
  rw [hstate]
  exact DriverState.withStatus_consistent fun _ => rfl

end FakeBolt.Driver
