import FakeBolt.DriverRace
import FakeBolt.GuardedRun

/-!
# An assignment among client requests

One assignment of a driver runs interleaved with that driver's own requests.
What can undo it is followed here: a status write that lands after the row is
BUSY, and a position that lands in the pool when no removal is left to come.
-/

namespace FakeBolt.Driver

open Await Interleaving Kafka Store Transition

variable {τ : Type} {d : String} {actions : τ → DriverAction} {assigned : τ}

def busyWrite (d : String) : DriverCall := .update d { status := some .busy }

def DriverState.BusyOut (state : DriverState) : Prop :=
  (∃ driver, state.row = some driver ∧ driver.status = .busy) ∧
    state.entry = none

/-- The assignment is still to be written, or it is in the row and whoever is
in the pool will be removed. -/
def Assigning (d : String) (assigned : τ) (view : RaceView τ) : Prop :=
  ∃ driver, view.state.row = some driver ∧
    ((driver.status ≠ .busy ∧
        view.left assigned = [busyWrite d, .zrem d]) ∨
      (driver.status = .busy ∧ ¬ view.unread assigned ∧
        (view.left assigned = [.zrem d] ∨ view.left assigned = []) ∧
        (view.state.entry ≠ none → ∃ t, .zrem d ∈ view.left t)))

/-- The assignment has been written, and the row is not BUSY any more or the
driver is in the pool with no removal to come. -/
def Undone (d : String) (assigned : τ) (view : RaceView τ) : Prop :=
  ∃ driver, view.state.row = some driver ∧ ¬ view.unread assigned ∧
    busyWrite d ∉ view.left assigned ∧
    (driver.status ≠ .busy ∨
      (view.state.entry ≠ none ∧ ∀ t, .zrem d ∉ view.left t))

def IsClient : DriverAction → Prop
  | .changeStatus _ => True
  | .ping _ _ => True
  | _ => False

/-- From a row that is BUSY, or from none, a client writes its position at
most, and an assignment nothing. -/
theorem writes_of_not_idle {action : DriverAction}
    (haction : IsClient action ∨ action = .assign) {state : DriverState}
    (hbusy : ∀ driver, state.row = some driver → driver.status = .busy)
    {call : DriverCall} (hcall : call ∈ action.writesFrom d state) :
    ∃ lat lng : Num, call = .update d { lat := lat, lng := lng } := by
  unfold DriverAction.writesFrom at hcall
  cases hrow : state.row with
  | none => simp [hrow] at hcall
  | some driver =>
      rw [hrow] at hcall
      have hstatus := hbusy driver hrow
      cases action with
      | changeStatus status =>
          have haccepted := (mem_writes_changeStatus hcall).1
          exact ((statusRefusal_eq_none_iff.mp haccepted).2.1 hstatus).elim
      | ping lat lng =>
          simp only [DriverAction.writes, hstatus, reduceCtorEq, if_false,
            List.nil_append, List.mem_singleton] at hcall
          exact ⟨lat, lng, hcall⟩
      | assign => simp [DriverAction.writes, hstatus] at hcall
      | create driver => simp [IsClient] at haction
      | syncPhoto hasPhoto => simp [IsClient] at haction
      | release => simp [IsClient] at haction
      | claim => simp [IsClient] at haction

theorem zrem_not_mem_of_busy {action : DriverAction}
    (hclient : IsClient action) {state : DriverState} {driver : DriverEntity}
    (hrow : state.row = some driver) (hbusy : driver.status = .busy) :
    .zrem d ∉ action.writesFrom d state := by
  intro hcall
  have hnot : ∀ other, state.row = some other → other.status = .busy := by
    intro other hother
    rw [hrow] at hother
    cases hother
    exact hbusy
  obtain ⟨lat, lng, heq⟩ := writes_of_not_idle (Or.inl hclient) hnot hcall
  cases heq

/-- What a client's write can be. -/
theorem client_write {action : DriverAction} (hclient : IsClient action)
    {call : DriverCall} (hmakes : action.Makes d call) :
    (∃ status, status ≠ DriverStatus.busy ∧
        call = .update d { status := some status }) ∨
      (∃ lat lng : Num, call = .update d { lat := lat, lng := lng }) ∨
      call = .zrem d ∨ ∃ lng lat, call = .geoadd lng lat d := by
  cases action with
  | changeStatus status =>
      obtain ⟨hstatus, hcall⟩ := makes_changeStatus hmakes
      rcases hcall with hupdate | hzrem | ⟨lng, lat, -, hgeoadd⟩
      · exact Or.inl ⟨status, hstatus, hupdate⟩
      · exact Or.inr (Or.inr (Or.inl hzrem))
      · exact Or.inr (Or.inr (Or.inr ⟨lng, lat, hgeoadd⟩))
  | ping lat lng =>
      rcases makes_ping hmakes with hgeoadd | hupdate
      · exact Or.inr (Or.inr (Or.inr ⟨lng, lat, hgeoadd⟩))
      · exact Or.inr (Or.inl ⟨lat, lng, hupdate⟩)
  | create driver => exact hclient.elim
  | syncPhoto hasPhoto => exact hclient.elim
  | assign => exact hclient.elim
  | release => exact hclient.elim
  | claim => exact hclient.elim

theorem writes_assign {driver : DriverEntity} (hidle : driver.status ≠ .busy) :
    DriverAction.assign.writes d driver = [busyWrite d, .zrem d] := by
  simp [DriverAction.writes, hidle, statusWrites, busyWrite, poolCall, entryFor]

section Steps

variable {thread : τ} {call : DriverCall} {before after : RaceView τ}

/-- While the assignment is unwritten, a client's write leaves a row that is
not BUSY. -/
theorem row_of_client (hclient : IsClient (actions thread))
    (hmakes : (actions thread).Makes d call)
    {driver : DriverEntity} (hrow : before.state.row = some driver)
    (hidle : driver.status ≠ .busy) :
    ∃ written, (call.act d before.state).row = some written ∧
      written.status ≠ .busy := by
  rcases client_write hclient hmakes with
    ⟨status, hstatus, rfl⟩ | ⟨lat, lng, rfl⟩ | rfl | ⟨lng, lat, rfl⟩
  · exact ⟨{ driver with status := status },
      by simp [DriverCall.act, DriverState.updateRow, hrow, DriverPatch.apply],
      hstatus⟩
  · exact ⟨{ driver with lat := lat, lng := lng },
      by simp [DriverCall.act, DriverState.updateRow, hrow, DriverPatch.apply],
      hidle⟩
  · exact ⟨driver, by simpa [DriverCall.act] using hrow, hidle⟩
  · exact ⟨driver, by simpa [DriverCall.act] using hrow, hidle⟩

theorem Assigning.quiet (hquiet : Quiet actions d thread before after)
    (hassigning : Assigning d assigned before) :
    Assigning d assigned after := by
  obtain ⟨driver, hrow, hcases⟩ := hassigning
  refine ⟨driver, by rw [hquiet.state, hrow], ?_⟩
  rw [hquiet.left, hquiet.state]
  rcases hcases with hunwritten | ⟨hbusy, hread, hleft, hremoved⟩
  · exact Or.inl hunwritten
  · right
    refine ⟨hbusy, fun h => hread ((hquiet.unread assigned).mp h).1, hleft, ?_⟩
    intro hentry
    obtain ⟨t, hzrem⟩ := hremoved hentry
    exact ⟨t, by rwa [hquiet.left]⟩

theorem Undone.quiet (hquiet : Quiet actions d thread before after)
    (hundone : Undone d assigned before) : Undone d assigned after := by
  obtain ⟨driver, hrow, hread, hwritten, hcases⟩ := hundone
  refine ⟨driver, by rw [hquiet.state, hrow],
    fun h => hread ((hquiet.unread assigned).mp h).1,
    by rwa [hquiet.left], ?_⟩
  rw [hquiet.state]
  rcases hcases with hidle | ⟨hentry, hzrem⟩
  · exact Or.inl hidle
  · exact Or.inr ⟨hentry, fun t => by rw [hquiet.left]; exact hzrem t⟩

/-- A removal that is ahead while the row is BUSY stays ahead until it is
made. -/
theorem zrem_stays (hclients : ∀ t, t ≠ assigned → IsClient (actions t))
    (hwriting : Writing actions d thread call before after)
    {driver : DriverEntity} (hrow : before.state.row = some driver)
    (hbusy : driver.status = .busy) (hread : ¬ before.unread assigned)
    (hcall : call ≠ .zrem d) {t : τ} (hzrem : .zrem d ∈ before.left t) :
    .zrem d ∈ after.left t := by
  by_cases hunread : before.unread t
  · have ht : t ≠ assigned := by
      intro heq
      subst t
      exact hread hunread
    rw [(hwriting.unread_left t hunread).1] at hzrem
    exact (zrem_not_mem_of_busy (hclients t ht) hrow hbusy hzrem).elim
  · exact hwriting.mem_after hunread hzrem hcall.symm

/-- No removal becomes due while the row is BUSY. -/
theorem zrem_stays_away (hclients : ∀ t, t ≠ assigned → IsClient (actions t))
    (hwriting : Writing actions d thread call before after)
    {driver : DriverEntity} (hrow : after.state.row = some driver)
    (hbusy : driver.status = .busy) (hread : ¬ before.unread assigned)
    (hzrem : ∀ t, .zrem d ∉ before.left t) (t : τ) :
    .zrem d ∉ after.left t := by
  intro hafter
  rcases hwriting.mem_before hafter with ⟨-, hbefore⟩ | ⟨hunread, hfrom⟩
  · exact hzrem t hbefore
  · have ht : t ≠ assigned := by
      intro heq
      subst t
      exact hread hunread
    exact zrem_not_mem_of_busy (hclients t ht) hrow hbusy hfrom

theorem assigning_of_unwritten (hassigned : actions assigned = .assign)
    (hclients : ∀ t, t ≠ assigned → IsClient (actions t))
    (hmakes : (actions thread).Makes d call)
    (hwriting : Writing actions d thread call before after)
    {driver : DriverEntity} (hrow : before.state.row = some driver)
    (hidle : driver.status ≠ .busy)
    (hleft : before.left assigned = [busyWrite d, .zrem d]) :
    Assigning d assigned after := by
  by_cases hthread : thread = assigned
  · subst thread
    have hnext := hwriting.left
    rw [hleft] at hnext
    obtain ⟨hcall, hrest⟩ := List.cons.inj hnext
    have hread := mt (hwriting.unread assigned).mp hwriting.ready
    refine ⟨{ driver with status := .busy }, ?_, Or.inr ⟨rfl, hread, ?_, ?_⟩⟩
    · rw [hwriting.state, ← hcall]
      simp [busyWrite, DriverCall.act, DriverState.updateRow, hrow,
        DriverPatch.apply]
    · exact Or.inl hrest.symm
    · intro _
      exact ⟨assigned, by simp [← hrest]⟩
  · obtain ⟨written, hwritten, hstill⟩ :=
      row_of_client (hclients thread hthread) hmakes hrow hidle
    refine ⟨written, by rw [hwriting.state, hwritten], Or.inl ⟨hstill, ?_⟩⟩
    by_cases hunread : before.unread assigned
    · rw [(hwriting.unread_left assigned hunread).2, hwriting.state, hassigned]
      simp only [DriverAction.writesFrom, hwritten]
      exact writes_assign hstill
    · rw [hwriting.read_left assigned (Ne.symm hthread) hunread, hleft]

/-- The assignment's own write after BUSY is the removal from the pool. -/
theorem assigning_of_removal {driver : DriverEntity}
    (hwriting : Writing actions d assigned call before after)
    (hrow : before.state.row = some driver) (hbusy : driver.status = .busy)
    (hleft : before.left assigned = [.zrem d] ∨ before.left assigned = []) :
    Assigning d assigned after := by
  have hnext := hwriting.left
  rcases hleft with hlast | hnone
  · rw [hlast] at hnext
    obtain ⟨hcall, hrest⟩ := List.cons.inj hnext
    have hread := mt (hwriting.unread assigned).mp hwriting.ready
    have hstate := hwriting.state
    simp only [← hcall, DriverCall.act, if_true] at hstate
    refine ⟨driver, by simp [hstate, hrow],
      Or.inr ⟨hbusy, hread, Or.inr hrest.symm, ?_⟩⟩
    intro hentry
    simp [hstate] at hentry
  · rw [hnone] at hnext
    cases hnext

theorem assigning_of_client (hclients : ∀ t, t ≠ assigned → IsClient (actions t))
    (hthread : thread ≠ assigned) (hmakes : (actions thread).Makes d call)
    (hwriting : Writing actions d thread call before after)
    {driver : DriverEntity} (hrow : before.state.row = some driver)
    (hbusy : driver.status = .busy) (hread : ¬ before.unread assigned)
    (hleft : before.left assigned = [.zrem d] ∨ before.left assigned = [])
    (hremoved : before.state.entry ≠ none → ∃ t, .zrem d ∈ before.left t)
    (hstatus : ∀ status, call ≠ .update d { status := some status })
    (hpool : ∀ lng lat, call = .geoadd lng lat d →
      ∃ t, .zrem d ∈ before.left t) :
    Assigning d assigned after := by
  have hread' := mt (hwriting.unread assigned).mp hread
  have hleft' : after.left assigned = [.zrem d] ∨ after.left assigned = [] := by
    rw [hwriting.read_left assigned (Ne.symm hthread) hread]
    exact hleft
  have hstate := hwriting.state
  rcases client_write (hclients thread hthread) hmakes with
    ⟨status, -, rfl⟩ | ⟨lat, lng, rfl⟩ | rfl | ⟨lng, lat, rfl⟩
  · exact (hstatus status rfl).elim
  · simp only [DriverCall.act, if_true, DriverState.updateRow] at hstate
    refine ⟨{ driver with lat := lat, lng := lng }, ?_,
      Or.inr ⟨hbusy, hread', hleft', ?_⟩⟩
    · simp [hstate, hrow, DriverPatch.apply]
    · intro hentry
      obtain ⟨t, hzrem⟩ := hremoved (by simpa [hstate] using hentry)
      exact ⟨t, zrem_stays hclients hwriting hrow hbusy hread (by simp) hzrem⟩
  · simp only [DriverCall.act, if_true] at hstate
    refine ⟨driver, by simp [hstate, hrow],
      Or.inr ⟨hbusy, hread', hleft', ?_⟩⟩
    intro hentry
    simp [hstate] at hentry
  · simp only [DriverCall.act, if_true] at hstate
    refine ⟨driver, by simp [hstate, hrow],
      Or.inr ⟨hbusy, hread', hleft', ?_⟩⟩
    intro _
    obtain ⟨t, hzrem⟩ := hpool lng lat rfl
    exact ⟨t, zrem_stays hclients hwriting hrow hbusy hread (by simp) hzrem⟩

theorem busyWrite_not_mem {rest : List DriverCall}
    (hleft : rest = [DriverCall.zrem d] ∨ rest = []) :
    busyWrite d ∉ rest := by
  rcases hleft with hlast | hnone
  · simp [hlast, busyWrite]
  · simp [hnone]

theorem undone_of_status (hthread : thread ≠ assigned)
    (hclients : ∀ t, t ≠ assigned → IsClient (actions t))
    (hmakes : (actions thread).Makes d call)
    (hwriting : Writing actions d thread call before after)
    {driver : DriverEntity} (hrow : before.state.row = some driver)
    (hread : ¬ before.unread assigned)
    (hleft : busyWrite d ∉ before.left assigned) {status : DriverStatus}
    (hcall : call = .update d { status := some status }) :
    Undone d assigned after := by
  have hstate := hwriting.state
  subst call
  simp only [DriverCall.act, if_true, DriverState.updateRow] at hstate
  refine ⟨{ driver with status := status }, ?_,
    mt (hwriting.unread assigned).mp hread, ?_, Or.inl ?_⟩
  · simp [hstate, hrow, DriverPatch.apply]
  · rw [hwriting.read_left assigned (Ne.symm hthread) hread]
    exact hleft
  · rcases client_write (hclients thread hthread) hmakes with
      ⟨written, hidle, heq⟩ | ⟨lat, lng, heq⟩ | heq | ⟨lng, lat, heq⟩
    · cases heq
      exact hidle
    · cases heq
    · cases heq
    · cases heq

theorem undone_of_geoadd (hclients : ∀ t, t ≠ assigned → IsClient (actions t))
    (hthread : thread ≠ assigned)
    (hwriting : Writing actions d thread call before after)
    {driver : DriverEntity} (hrow : before.state.row = some driver)
    (hbusy : driver.status = .busy) (hread : ¬ before.unread assigned)
    (hleft : busyWrite d ∉ before.left assigned) {lng lat : Num}
    (hcall : call = .geoadd lng lat d)
    (hzrem : ∀ t, .zrem d ∉ before.left t) : Undone d assigned after := by
  have hstate := hwriting.state
  subst call
  simp only [DriverCall.act, if_true] at hstate
  have hrow' : after.state.row = some driver := by simp [hstate, hrow]
  refine ⟨driver, hrow', mt (hwriting.unread assigned).mp hread, ?_,
    Or.inr ⟨by simp [hstate], ?_⟩⟩
  · rw [hwriting.read_left assigned (Ne.symm hthread) hread]
    exact hleft
  · exact zrem_stays_away hclients hwriting hrow' hbusy hread hzrem

theorem Undone.writing (hassigned : actions assigned = .assign)
    (hclients : ∀ t, t ≠ assigned → IsClient (actions t))
    (hmakes : (actions thread).Makes d call)
    (hwriting : Writing actions d thread call before after)
    (hundone : Undone d assigned before) : Undone d assigned after := by
  obtain ⟨driver, hrow, hread, hleft, hcases⟩ := hundone
  have hread' := mt (hwriting.unread assigned).mp hread
  have hstate := hwriting.state
  have hmem : call ∈ before.left thread := by
    rw [hwriting.left]
    exact List.mem_cons_self
  have hleft' : busyWrite d ∉ after.left assigned := by
    intro hafter
    rcases hwriting.mem_before hafter with ⟨-, hbefore⟩ | ⟨hunread, -⟩
    · exact hleft hbefore
    · exact hread hunread
  have hremoval : call = .zrem d → driver.status ≠ .busy ∧
      after.state.row = some driver := by
    intro hcall
    subst call
    refine ⟨?_, by simp [hstate, DriverCall.act, hrow]⟩
    rcases hcases with hidle | ⟨-, hzrem⟩
    · exact hidle
    · exact (hzrem thread hmem).elim
  by_cases hthread : thread = assigned
  · subst thread
    rw [hassigned] at hmakes
    rcases makes_assign hmakes with hbusy | hzrem
    · rw [hbusy] at hmem
      exact (hleft hmem).elim
    · obtain ⟨hidle, hrow'⟩ := hremoval hzrem
      exact ⟨driver, hrow', hread', hleft', Or.inl hidle⟩
  · rcases client_write (hclients thread hthread) hmakes with
      ⟨status, -, hcall⟩ | ⟨lat, lng, hcall⟩ | hcall | ⟨lng, lat, hcall⟩
    · exact undone_of_status hthread hclients hmakes hwriting hrow hread hleft
        hcall
    · subst call
      simp only [DriverCall.act, if_true, DriverState.updateRow] at hstate
      have hrow' : after.state.row =
          some { driver with lat := lat, lng := lng } := by
        simp [hstate, hrow, DriverPatch.apply]
      refine ⟨_, hrow', hread', hleft', ?_⟩
      by_cases hidle : driver.status = .busy
      · obtain hnot | ⟨hentry, hzrem⟩ := hcases
        · exact (hnot hidle).elim
        · right
          refine ⟨by simpa [hstate] using hentry, ?_⟩
          exact zrem_stays_away hclients hwriting hrow' hidle hread hzrem
      · exact Or.inl hidle
    · obtain ⟨hidle, hrow'⟩ := hremoval hcall
      exact ⟨driver, hrow', hread', hleft', Or.inl hidle⟩
    · by_cases hidle : driver.status = .busy
      · obtain hnot | ⟨-, hzrem⟩ := hcases
        · exact (hnot hidle).elim
        · exact undone_of_geoadd hclients hthread hwriting hrow hidle hread
            hleft hcall hzrem
      · subst call
        refine ⟨driver, ?_, hread', hleft', Or.inl hidle⟩
        simp [hstate, DriverCall.act, hrow]

theorem row_stays_busy
    (haction : IsClient (actions thread) ∨ actions thread = .assign)
    (hmakes : (actions thread).Makes d call)
    (hcall : ∀ status, call ≠ .update d { status := some status })
    (hwriting : Writing actions d thread call before after)
    (hbusy : ∀ driver, before.state.row = some driver → driver.status = .busy)
    (driver : DriverEntity) (hrow : after.state.row = some driver) :
    driver.status = .busy := by
  have hpool : (call = .zrem d ∨ ∃ lng lat, call = .geoadd lng lat d) →
      driver.status = .busy := by
    intro hpool
    apply hbusy driver
    rw [← hrow, hwriting.state]
    rcases hpool with rfl | ⟨lng, lat, rfl⟩ <;> simp [DriverCall.act]
  rcases haction with hclient | hassign
  · rcases client_write hclient hmakes with
      ⟨status, -, heq⟩ | ⟨lat, lng, heq⟩ | heq | ⟨lng, lat, heq⟩
    · exact (hcall status heq).elim
    · rw [hwriting.state, heq] at hrow
      simp only [DriverCall.act, if_true, DriverState.updateRow,
        Option.map_eq_some_iff] at hrow
      obtain ⟨stored, hstored, hpatched⟩ := hrow
      rw [← hpatched]
      exact hbusy stored hstored
    · exact hpool (Or.inl heq)
    · exact hpool (Or.inr ⟨lng, lat, heq⟩)
  · rw [hassign] at hmakes
    rcases makes_assign hmakes with heq | heq
    · exact (hcall .busy heq).elim
    · exact hpool (Or.inl heq)

end Steps

/-! ## Runs -/

/-- A client's status write finds the row not BUSY, and a position that lands
in the pool is followed by a removal. -/
structure LeavesAssignment (d : String) (assigned : τ)
    (system : DriverRace τ) (thread : τ) : Prop where
  status : thread ≠ assigned → ∀ status,
    (system.program thread).pending =
        some (.update d { status := some status }) →
      ∀ driver, system.world.drivers.get? d = some driver →
        driver.status ≠ .busy
  pool : ∀ lng lat,
    (system.program thread).pending = some (.geoadd lng lat d) →
      ∃ other, .zrem d ∈ system.ahead DriverWorld.answer other

theorem leavesAssignment_iff {system : DriverRace τ} {thread : τ}
    {call : DriverCall} (hpending : (system.program thread).pending = some call) :
    LeavesAssignment d assigned system thread ↔
      (thread ≠ assigned → ∀ status, call = .update d { status := some status } →
        ∀ driver, (raceView d system).state.row = some driver →
          driver.status ≠ .busy) ∧
      ∀ lng lat, call = .geoadd lng lat d →
        ∃ other, .zrem d ∈ (raceView d system).left other := by
  constructor
  · intro hguard
    constructor
    · intro hthread status hcall
      exact hguard.status hthread status (by rw [hpending, hcall])
    · intro lng lat hcall
      obtain ⟨other, hzrem⟩ := hguard.pool lng lat (by rw [hpending, hcall])
      exact ⟨other, (mem_left_iff d rfl).mpr hzrem⟩
  · rintro ⟨hstatus, hpool⟩
    constructor
    · intro hthread status hupdate
      rw [hpending, Option.some.injEq] at hupdate
      exact hstatus hthread status hupdate
    · intro lng lat hgeoadd
      rw [hpending, Option.some.injEq] at hgeoadd
      obtain ⟨other, hzrem⟩ := hpool lng lat hgeoadd
      exact ⟨other, (mem_left_iff d rfl).mp hzrem⟩

/-- A lookup of `d` that found a row that is not BUSY. -/
def answeredIdle (d : String)
    (answered : Answered τ DriverCall.Reply JsError) : Bool :=
  match answered with
  | ⟨_, .findOneById id, .ok (some driver)⟩ =>
      decide (id = d) && decide (driver.status ≠ .busy)
  | _ => false

/-- Once the row is BUSY, or if there is none, it stays so and every lookup
says so. -/
structure NeverIdle (requests : τ → Request) (actions : τ → DriverAction)
    (d : String) (system : DriverRace τ) : Prop where
  racing : Racing requests actions d system
  row : ∀ driver, system.world.drivers.get? d = some driver →
    driver.status = .busy
  left : ∀ t status, .update d { status := some status } ∉
    (raceView d system).left t
  trace : ∀ answered ∈ system.trace, answeredIdle d answered = false

theorem answeredIdle_answer {world : DriverWorld}
    (hrow : ∀ driver, world.drivers.get? d = some driver →
      driver.status = .busy) (thread : τ) (call : DriverCall) :
    answeredIdle d ⟨thread, call, (DriverWorld.answer call world).1⟩ =
      false := by
  cases call with
  | findOneById id =>
      simp only [answeredIdle, DriverWorld.answer]
      cases hget : world.drivers.get? id with
      | none => rfl
      | some driver =>
          by_cases hid : id = d
          · subst id
            simp [hrow driver hget]
          · simp [hid]
  | findOneByEmail email => rfl
  | findOneByUserId userId => rfl
  | save driver => rfl
  | update id patch => rfl
  | geoadd longitude latitude member => rfl
  | zrem member => rfl
  | send record => rfl

section Runs

variable [DecidableEq τ] {requests : τ → Request}

def findsIdle (d : String) (thread : τ) (system : DriverRace τ) : Bool :=
  system.trace.any fun answered =>
    decide (answered.thread = thread) && answeredIdle d answered

theorem assigning_of_turn (hassigned : actions assigned = .assign)
    (hclients : ∀ t, t ≠ assigned → IsClient (actions t))
    (hcreate : ∀ t driver, actions t ≠ .create driver)
    {system next : DriverRace τ} {thread : τ}
    (hracing : Racing requests actions d system)
    (hassigning : Assigning d assigned (raceView d system))
    (hguard : LeavesAssignment d assigned system thread)
    (hturn : turn DriverWorld.answer system thread = some next) :
    Assigning d assigned (raceView d next) := by
  obtain ⟨-, call, hpending, ⟨-, hquiet⟩ | ⟨-, hwriting⟩⟩ :=
    hracing.turn hcreate hturn
  · exact hassigning.quiet hquiet
  · have hmakes := hracing.makes_call hwriting
    obtain ⟨hstatus, hpool⟩ := (leavesAssignment_iff hpending).mp hguard
    obtain ⟨driver, hrow, ⟨hidle, hleft⟩ | ⟨hbusy, hread, hleft, hremoved⟩⟩ :=
      hassigning
    · exact assigning_of_unwritten hassigned hclients hmakes hwriting hrow
        hidle hleft
    · by_cases hthread : thread = assigned
      · subst thread
        exact assigning_of_removal hwriting hrow hbusy hleft
      · apply assigning_of_client hclients hthread hmakes hwriting hrow hbusy
          hread hleft hremoved
        · intro status hcall
          exact hstatus hthread status hcall driver hrow hbusy
        · exact hpool

theorem undone_of_turn (hassigned : actions assigned = .assign)
    (hclients : ∀ t, t ≠ assigned → IsClient (actions t))
    (hcreate : ∀ t driver, actions t ≠ .create driver)
    {system next : DriverRace τ} {thread : τ}
    (hracing : Racing requests actions d system)
    (hassigning : Assigning d assigned (raceView d system))
    (hguard : ¬ LeavesAssignment d assigned system thread)
    (hturn : turn DriverWorld.answer system thread = some next) :
    Undone d assigned (raceView d next) := by
  obtain ⟨-, call, hpending, hkind⟩ := hracing.turn hcreate hturn
  rw [leavesAssignment_iff hpending] at hguard
  rcases hkind with ⟨hchanges, -⟩ | ⟨-, hwriting⟩
  · exfalso
    apply hguard
    constructor
    · intro _ status hcall
      subst hcall
      cases hchanges
    · intro lng lat hcall
      subst hcall
      cases hchanges
  · have hmakes := hracing.makes_call hwriting
    obtain ⟨driver, hrow, ⟨hidle, hleft⟩ | ⟨hbusy, hread, hleft, -⟩⟩ :=
      hassigning
    · exfalso
      apply hguard
      constructor
      · intro _ status _ other hother
        have hsame : some driver = some other := hrow.symm.trans hother
        cases hsame
        exact hidle
      · intro lng lat _
        exact ⟨assigned, by simp [hleft]⟩
    · have hthread : thread ≠ assigned := by
        intro heq
        subst thread
        apply hguard
        refine ⟨fun hne => (hne rfl).elim, ?_⟩
        intro lng lat hcall
        subst hcall
        rw [hassigned] at hmakes
        simpa using makes_assign hmakes
      have hnot := busyWrite_not_mem hleft
      by_cases hstatus : ∃ status, call = .update d { status := some status }
      · obtain ⟨status, hcall⟩ := hstatus
        exact undone_of_status hthread hclients hmakes hwriting hrow hread
          hnot hcall
      · by_cases hpool : ∃ lng lat, call = .geoadd lng lat d ∧
            ∀ t, .zrem d ∉ (raceView d system).left t
        · obtain ⟨lng, lat, hcall, hzrem⟩ := hpool
          exact undone_of_geoadd hclients hthread hwriting hrow hbusy hread
            hnot hcall hzrem
        · exfalso
          apply hguard
          constructor
          · intro _ status hcall
            exact (hstatus ⟨status, hcall⟩).elim
          · intro lng lat hcall
            by_contra hnone
            exact hpool ⟨lng, lat, hcall, fun t hzrem => hnone ⟨t, hzrem⟩⟩

theorem Undone.turn (hassigned : actions assigned = .assign)
    (hclients : ∀ t, t ≠ assigned → IsClient (actions t))
    (hcreate : ∀ t driver, actions t ≠ .create driver)
    {system next : DriverRace τ} {thread : τ}
    (hracing : Racing requests actions d system)
    (hundone : Undone d assigned (raceView d system))
    (hturn : turn DriverWorld.answer system thread = some next) :
    Undone d assigned (raceView d next) := by
  obtain ⟨-, call, -, ⟨-, hquiet⟩ | ⟨-, hwriting⟩⟩ :=
    hracing.turn hcreate hturn
  · exact hundone.quiet hquiet
  · have hmakes := hracing.makes_call hwriting
    exact hundone.writing hassigned hclients hmakes hwriting

theorem NeverIdle.turn (hactions : ∀ t, IsClient (actions t) ∨ actions t = .assign)
    (hcreate : ∀ t driver, actions t ≠ .create driver)
    {system next : DriverRace τ} {thread : τ}
    (hnever : NeverIdle requests actions d system)
    (hturn : turn DriverWorld.answer system thread = some next) :
    NeverIdle requests actions d next := by
  have htrace : ∀ answered ∈ next.trace,
      answeredIdle d answered = false := by
    obtain ⟨call, -, -, htrace, -, -⟩ := turn_cases hturn
    intro answered hanswered
    rw [htrace, List.mem_append, List.mem_singleton] at hanswered
    rcases hanswered with hbefore | hnow
    · exact hnever.trace answered hbefore
    · rw [hnow]
      exact answeredIdle_answer hnever.row thread call
  obtain ⟨hracing, call, -, ⟨-, hquiet⟩ | ⟨-, hwriting⟩⟩ :=
    hnever.racing.turn hcreate hturn
  · refine ⟨hracing, ?_, ?_, htrace⟩
    · intro driver hdriver
      have hstate : next.world.state d = system.world.state d := hquiet.state
      apply hnever.row driver
      rw [← state_row, ← hstate]
      exact hdriver
    · intro t status
      rw [hquiet.left]
      exact hnever.left t status
  · have hmakes := hnever.racing.makes_call hwriting
    have hcall : ∀ status, call ≠ .update d { status := some status } := by
      intro status heq
      apply hnever.left thread status
      rw [hwriting.left, heq]
      exact List.mem_cons_self
    have hrow : ∀ driver, (raceView d next).state.row = some driver →
        driver.status = .busy :=
      row_stays_busy (hactions thread) hmakes hcall hwriting hnever.row
    refine ⟨hracing, hrow, ?_, htrace⟩
    intro t status hafter
    rcases hwriting.mem_before hafter with ⟨-, hbefore⟩ | ⟨-, hfrom⟩
    · exact hnever.left t status hbefore
    · obtain ⟨lat, lng, heq⟩ := writes_of_not_idle (hactions t) hrow hfrom
      cases heq

theorem idle_of_finds (hactions : ∀ t, IsClient (actions t) ∨ actions t = .assign)
    (hcreate : ∀ t driver, actions t ≠ .create driver) {world : DriverWorld}
    (hnamed : ∀ t, (requests t).action world = some (d, actions t))
    {schedule : List τ} {last : DriverRace τ}
    (hrun : run (turn DriverWorld.answer)
      (Interleaving.start (fun t => (requests t).program) world) schedule =
        some last)
    (hfinds : findsIdle d assigned last = true) :
    ∃ driver, world.drivers.get? d = some driver ∧
      driver.status ≠ .busy := by
  by_contra hnone
  have hracing := racing_start hcreate hnamed
  have hrow : ∀ driver, world.drivers.get? d = some driver →
      driver.status = .busy := by
    intro driver hget
    by_contra hidle
    exact hnone ⟨driver, hget, hidle⟩
  have hnever : NeverIdle requests actions d
      (Interleaving.start (fun t => (requests t).program) world) := by
    refine ⟨hracing, hrow, ?_, by simp [Interleaving.start]⟩
    intro t status hleft
    rw [left_of_start rfl (hnamed t) (hcreate t)] at hleft
    obtain ⟨lat, lng, heq⟩ := writes_of_not_idle (hactions t) hrow hleft
    cases heq
  have hlast : NeverIdle requests actions d last :=
    invariant_of_step
      (fun system thread next hinv hturn =>
        hinv.turn hactions hcreate hturn) hnever hrun
  obtain ⟨answered, hmem, hanswered⟩ := List.any_eq_true.mp hfinds
  rw [hlast.trace answered hmem] at hanswered
  simp at hanswered

variable (actions requests) in
/-- A driver assigned while requests of their own are under way ends BUSY and
out of the pool exactly if no status write of theirs lands on the BUSY row and
no position of theirs lands in the pool with no removal left to come. -/
theorem busy_survives_iff (hassigned : actions assigned = .assign)
    (hclients : ∀ t, t ≠ assigned → IsClient (actions t))
    {world : DriverWorld}
    (hnamed : ∀ t, (requests t).action world = some (d, actions t))
    {schedule : List τ} {last : DriverRace τ}
    (hrun : run (turn DriverWorld.answer)
      (Interleaving.start (fun t => (requests t).program) world) schedule =
        some last)
    (hfinished : last.Finished)
    (hfinds : findsIdle d assigned last = true) :
    (last.world.state d).BusyOut ↔
      RunMeets (turn DriverWorld.answer) (LeavesAssignment d assigned)
        (Interleaving.start (fun t => (requests t).program) world)
        schedule := by
  have hactions : ∀ t, IsClient (actions t) ∨ actions t = .assign := by
    intro t
    by_cases ht : t = assigned
    · rw [ht]
      exact Or.inr hassigned
    · exact Or.inl (hclients t ht)
  have hcreate : ∀ t driver, actions t ≠ .create driver := by
    intro t driver heq
    have haction := hactions t
    simp [heq, IsClient] at haction
  obtain ⟨driver, hget, hidle⟩ :=
    idle_of_finds hactions hcreate hnamed hrun hfinds
  have hracing := racing_start hcreate hnamed
  have hstart : Assigning d assigned (raceView d
      (Interleaving.start (fun t => (requests t).program) world)) := by
    refine ⟨driver, hget, Or.inl ⟨hidle, ?_⟩⟩
    rw [left_of_start rfl (hnamed assigned) (hcreate assigned), hassigned]
    simp only [DriverAction.writesFrom, Interleaving.start, state_row, hget]
    exact writes_assign hidle
  have hends := good_or_bad_of_race (Assigning d assigned)
    (Undone d assigned) hcreate
    (assigning_of_turn hassigned hclients hcreate)
    (undone_of_turn hassigned hclients hcreate)
    (Undone.turn hassigned hclients hcreate) hracing hstart hrun
  have hleft : ∀ t, (raceView d last).left t = [] :=
    left_of_finished hfinished
  rcases hends with
    ⟨hmeets, driver, hrow, ⟨-, hnext⟩ | ⟨hbusy, -, -, hremoved⟩⟩ |
    ⟨hnot, driver, hrow, -, -, hundone⟩
  · rw [hleft] at hnext
    cases hnext
  · refine iff_of_true ⟨⟨driver, hrow, hbusy⟩, ?_⟩ hmeets
    by_contra hentry
    obtain ⟨t, hzrem⟩ := hremoved hentry
    rw [hleft] at hzrem
    cases hzrem
  · refine iff_of_false ?_ hnot
    rintro ⟨⟨other, hother, hbusy⟩, hentry⟩
    have hsame : some driver = some other := hrow.symm.trans hother
    cases hsame
    rcases hundone with hidle | ⟨hpooled, -⟩
    · exact hidle hbusy
    · exact hpooled hentry

end Runs

/-! ## A client that read before the assignment -/

/-- The driver goes offline (`false`) while a ride is assigned (`true`). -/
def assignedGoingOffline : Bool → Request
  | true => .message 0 (.driverAssigned { rideId := "ride", driverId := "d" })
  | false => .updateStatus 0 "d" { status := .offline }

def assigningOffline : DriverRace Bool :=
  Interleaving.start (fun t => (assignedGoingOffline t).program) waitingWorld

def assignedFirst : List Bool := [true, true, true, true, false]

def offlineAcross : List Bool :=
  [false, true, true, true, true, false, false, false]

theorem assigned_first_stays_busy :
    ∃ last, run (turn DriverWorld.answer) assigningOffline assignedFirst =
        some last ∧
      ((last.world.state "d").BusyOut ↔
        RunMeets (turn DriverWorld.answer) (LeavesAssignment "d" true)
          assigningOffline assignedFirst) := by
  have hcheck : (run (turn DriverWorld.answer) assigningOffline
      assignedFirst).any (fun last =>
        raceFinished last && findsIdle "d" true last) = true := by
    decide +kernel
  obtain ⟨last, hrun, hlast⟩ := exists_of_run_any hcheck
  rw [Bool.and_eq_true] at hlast
  refine ⟨last, hrun, ?_⟩
  refine busy_survives_iff
    (fun t => if t then .assign else .changeStatus .offline)
    assignedGoingOffline rfl ?_ ?_ hrun (finished_of_raceFinished hlast.1) hlast.2
  · intro t ht
    cases t with
    | true => exact (ht rfl).elim
    | false => trivial
  · intro t
    cases t <;> rfl

theorem offline_across_assignment :
    ∃ last, run (turn DriverWorld.answer) assigningOffline offlineAcross =
        some last ∧
      last.Finished ∧ findsIdle "d" true last = true ∧
      ¬ (last.world.state "d").BusyOut := by
  have hcheck : (run (turn DriverWorld.answer) assigningOffline
      offlineAcross).any (fun last =>
        (raceFinished last && findsIdle "d" true last) &&
          decide ((last.world.state "d").row.map (fun driver =>
            driver.status) = some .offline)) = true := by
    decide +kernel
  obtain ⟨last, hrun, hlast⟩ := exists_of_run_any hcheck
  rw [Bool.and_eq_true, Bool.and_eq_true] at hlast
  obtain ⟨⟨hfinished, hfinds⟩, hoffline⟩ := hlast
  refine ⟨last, hrun, finished_of_raceFinished hfinished, hfinds, ?_⟩
  rintro ⟨⟨driver, hrow, hbusy⟩, -⟩
  have hstatus := of_decide_eq_true hoffline
  rw [hrow, Option.map_some, hbusy] at hstatus
  cases hstatus

end FakeBolt.Driver
