import FakeBolt.DriverRace

/-!
# A photo removal among status requests

The removal of a driver's photo runs interleaved with requests of the driver
for a status and with the end of at most one ride.  The driver ends offline
and out of the pool unless a write to AVAILABLE, a position in the pool or the
removal's own lookup comes at a moment when nobody is left to undo it.
-/

namespace FakeBolt.Driver

open Await Interleaving Kafka Store Transition

variable {τ : Type} {d : String} {actions : τ → DriverAction} {removal : τ}

/-- One removal of the photo, any number of status requests, and at most one
end of a ride. -/
structure PhotoRace (actions : τ → DriverAction) (removal : τ) : Prop where
  clears : actions removal = .syncPhoto false
  others : ∀ t, t ≠ removal →
    (∃ status, actions t = .changeStatus status) ∨ actions t = .release
  finish_once : ∀ t t', actions t = .release → actions t' = .release → t = t'

theorem PhotoRace.not_create (hrace : PhotoRace actions removal) (t : τ)
    (driver : DriverEntity) : actions t ≠ .create driver := by
  intro heq
  by_cases ht : t = removal
  · rw [ht, hrace.clears] at heq
    cases heq
  · rcases hrace.others t ht with ⟨status, hstatus⟩ | hrelease
    · rw [hstatus] at heq
      cases heq
    · rw [hrelease] at heq
      cases heq

def Known (driver : DriverEntity) : Prop :=
  driver.lat.isSome = true ∧ driver.lng.isSome = true

def offlineWrite (d : String) : DriverCall :=
  .update d { status := some .offline }

/-! ## Writes -/

/-- What a write of this race can be. -/
theorem PhotoRace.write (hrace : PhotoRace actions removal) {thread : τ}
    {call : DriverCall} (hmakes : (actions thread).Makes d call) :
    (∃ status, status ≠ DriverStatus.busy ∧
        call = .update d { status := some status }) ∨
      (thread = removal ∧ call = .update d { hasPhoto := some false }) ∨
      call = .zrem d ∨ ∃ lng lat, call = .geoadd lng lat d := by
  by_cases ht : thread = removal
  · subst thread
    rw [hrace.clears] at hmakes
    rcases makes_syncPhoto hmakes with hflag | hoffline | hzrem
    · exact Or.inr (Or.inl ⟨rfl, hflag⟩)
    · exact Or.inl ⟨.offline, by simp, hoffline⟩
    · exact Or.inr (Or.inr (Or.inl hzrem))
  · rcases hrace.others thread ht with ⟨status, hstatus⟩ | hrelease
    · rw [hstatus] at hmakes
      obtain ⟨hidle, hcall⟩ := makes_changeStatus hmakes
      rcases hcall with hupdate | hzrem | ⟨lng, lat, -, hgeoadd⟩
      · exact Or.inl ⟨status, hidle, hupdate⟩
      · exact Or.inr (Or.inr (Or.inl hzrem))
      · exact Or.inr (Or.inr (Or.inr ⟨lng, lat, hgeoadd⟩))
    · rw [hrelease] at hmakes
      rcases makes_release hmakes with
        ⟨status, hidle, hupdate⟩ | hzrem | hgeoadd
      · exact Or.inl ⟨status, hidle, hupdate⟩
      · exact Or.inr (Or.inr (Or.inl hzrem))
      · exact Or.inr (Or.inr (Or.inr hgeoadd))

section Unread

variable {state : DriverState} {driver : DriverEntity} {call : DriverCall}

/-- Only a request for OFFLINE still means to write OFFLINE when the row is not
BUSY; the end of a ride does nothing then. -/
theorem PhotoRace.offline_of_unread (hrace : PhotoRace actions removal)
    {t : τ} (ht : t ≠ removal) (hrow : state.row = some driver)
    (hidle : driver.status ≠ .busy)
    (hmem : offlineWrite d ∈ (actions t).writesFrom d state) :
    actions t = .changeStatus .offline := by
  simp only [DriverAction.writesFrom, hrow] at hmem
  rcases hrace.others t ht with ⟨status, hstatus⟩ | hrelease
  · rw [hstatus] at hmem ⊢
    rcases mem_statusWrites (mem_writes_changeStatus hmem).2 with
      hupdate | hzrem | ⟨_, _, _, _, _, hgeoadd⟩
    · simp only [offlineWrite, DriverCall.update.injEq, true_and,
        DriverPatch.mk.injEq, Option.some.injEq, and_true] at hupdate
      rw [hupdate]
    · cases hzrem
    · cases hgeoadd
  · rw [hrelease] at hmem
    simp [DriverAction.writes, hidle] at hmem

theorem PhotoRace.zrem_of_unread (hrace : PhotoRace actions removal)
    {t : τ} (ht : t ≠ removal) (hrow : state.row = some driver)
    (hidle : driver.status ≠ .busy) (hknown : Known driver)
    (hmem : .zrem d ∈ (actions t).writesFrom d state) :
    actions t = .changeStatus .offline := by
  simp only [DriverAction.writesFrom, hrow] at hmem
  rcases hrace.others t ht with ⟨status, hstatus⟩ | hrelease
  · rw [hstatus] at hmem ⊢
    obtain ⟨haccepted, hwrites⟩ := mem_writes_changeStatus hmem
    obtain ⟨lat, hlat⟩ := Option.isSome_iff_exists.mp hknown.1
    obtain ⟨lng, hlng⟩ := Option.isSome_iff_exists.mp hknown.2
    cases status with
    | offline => rfl
    | available => simp [statusWrites, poolCall, entryFor, hlat, hlng] at hwrites
    | busy => exact ((statusRefusal_eq_none_iff.mp haccepted).1 rfl).elim
  · rw [hrelease] at hmem
    simp [DriverAction.writes, hidle] at hmem

/-- A request for OFFLINE is accepted from any row that is not BUSY. -/
theorem writesFrom_offline (hrow : state.row = some driver)
    (hidle : driver.status ≠ .busy) :
    (DriverAction.changeStatus .offline).writesFrom d state =
      [offlineWrite d, .zrem d] := by
  have haccepted : statusRefusal driver .offline = none :=
    statusRefusal_eq_none_iff.mpr ⟨by simp, hidle, by simp⟩
  simp [DriverAction.writesFrom, hrow, DriverAction.writes, haccepted,
    statusWrites, offlineWrite, poolCall, entryFor]

theorem writesFrom_removal (hrow : state.row = some driver)
    (havailable : driver.status = .available) :
    (DriverAction.syncPhoto false).writesFrom d state =
      [.update d { hasPhoto := some false }, offlineWrite d, .zrem d] := by
  simp [DriverAction.writesFrom, hrow, DriverAction.writes, havailable,
    statusWrites, offlineWrite, poolCall, entryFor]

/-- A position that a request means to add to the pool is that of the row. -/
theorem PhotoRace.known_of_geoadd (hrace : PhotoRace actions removal) {t : τ}
    (hrow : state.row = some driver) {lng lat : Num}
    (hmem : .geoadd lng lat d ∈ (actions t).writesFrom d state) :
    Known driver := by
  simp only [DriverAction.writesFrom, hrow] at hmem
  have hstatus : ∀ status, .geoadd lng lat d ∈ statusWrites d status driver →
      Known driver := by
    intro status hcall
    rcases mem_statusWrites hcall with
      hupdate | hzrem | ⟨_, _, -, hlng, hlat, -⟩
    · cases hupdate
    · cases hzrem
    · exact ⟨by simp [hlat], by simp [hlng]⟩
  by_cases ht : t = removal
  · rw [ht, hrace.clears] at hmem
    rcases List.mem_cons.mp hmem with hflag | hrest
    · cases hflag
    · split_ifs at hrest
      · exact hstatus _ hrest
      · cases hrest
  · rcases hrace.others t ht with ⟨status, haction⟩ | hrelease
    · rw [haction] at hmem
      exact hstatus status (mem_writes_changeStatus hmem).2
    · rw [hrelease] at hmem
      simp only [DriverAction.writes] at hmem
      split_ifs at hmem
      · exact hstatus _ hmem
      · cases hmem

/-- The removal clears the flag only, a status request does nothing, and the
end of the ride writes the row before the pool. -/
def BusyWrites (d : String) (actions : τ → DriverAction) (removal t : τ)
    (calls : List DriverCall) : Prop :=
  (t = removal ∧ ∀ call ∈ calls, call = .update d { hasPhoto := some false }) ∨
    (t ≠ removal ∧ (calls = [] ∨ (actions t = .release ∧
      ∃ status pool, calls = [.update d { status := some status }, pool])))

theorem PhotoRace.writes_of_busy (hrace : PhotoRace actions removal) (t : τ)
    (hrow : state.row = some driver) (hbusy : driver.status = .busy) :
    BusyWrites d actions removal t ((actions t).writesFrom d state) := by
  by_cases ht : t = removal
  · left
    refine ⟨ht, ?_⟩
    rw [ht, hrace.clears]
    simp [DriverAction.writesFrom, hrow, DriverAction.writes, hbusy]
  · right
    refine ⟨ht, ?_⟩
    rcases hrace.others t ht with ⟨status, haction⟩ | hrelease
    · left
      rw [haction]
      simp only [DriverAction.writesFrom, hrow, DriverAction.writes]
      cases hrefused : statusRefusal driver status with
      | some refusal => rfl
      | none =>
          exact ((statusRefusal_eq_none_iff.mp hrefused).2.1 hbusy).elim
    · right
      rw [hrelease]
      refine ⟨rfl, releasedStatus driver, poolCall d (releasedStatus driver)
        driver.lat driver.lng, ?_⟩
      simp [DriverAction.writesFrom, hrow, DriverAction.writes, hbusy,
        statusWrites]

end Unread

/-! ## What holds in every view -/

/-- Nobody is in the pool, or on the way into it, without a known position,
and while the row is BUSY nobody is in the pool at all. -/
structure Placed (d : String) (actions : τ → DriverAction) (removal : τ)
    (view : RaceView τ) (driver : DriverEntity) : Prop where
  row : view.state.row = some driver
  known_of_entry : view.state.entry ≠ none → Known driver
  known_of_left : ∀ t lng lat, .geoadd lng lat d ∈ view.left t → Known driver
  entry_of_busy : driver.status = .busy → view.state.entry = none
  left_of_busy : driver.status = .busy → ∀ t,
    BusyWrites d actions removal t (view.left t)

section Steps

variable {thread : τ} {call : DriverCall} {before after : RaceView τ}
  {driver : DriverEntity}

/-- No write of this race touches the position or makes the row BUSY. -/
theorem PhotoRace.patched_row (hrace : PhotoRace actions removal)
    (hmakes : (actions thread).Makes d call) (driver : DriverEntity) :
    (Known driver ↔ Known (call.patched driver)) ∧
      ((call.patched driver).status = .busy → driver.status = .busy ∧
        ∀ status, call ≠ .update d { status := some status }) := by
  rcases hrace.write hmakes with
    ⟨status, hstatus, rfl⟩ | ⟨-, rfl⟩ | rfl | ⟨lng, lat, rfl⟩
  · refine ⟨Iff.rfl, ?_⟩
    intro hbusy
    exact (hstatus hbusy).elim
  · exact ⟨Iff.rfl, fun hbusy => ⟨hbusy, by simp⟩⟩
  · exact ⟨Iff.rfl, fun hbusy => ⟨hbusy, by simp⟩⟩
  · exact ⟨Iff.rfl, fun hbusy => ⟨hbusy, by simp⟩⟩

/-- A write that finds the row BUSY clears the flag, or it is that of the end
of the ride. -/
theorem Placed.write_of_busy (hplaced : Placed d actions removal before driver)
    (hwriting : Writing actions d thread call before after)
    (hbusy : driver.status = .busy) :
    (thread = removal ∧ call = .update d { hasPhoto := some false }) ∨
      (thread ≠ removal ∧ actions thread = .release ∧
        ∃ status, call = .update d { status := some status }) := by
  have hmem := hwriting.mem_left
  rcases hplaced.left_of_busy hbusy thread with
    ⟨ht, hflag⟩ | ⟨ht, hnone | ⟨hrelease, status, pool, hleft⟩⟩
  · exact Or.inl ⟨ht, hflag call hmem⟩
  · rw [hnone] at hmem
    cases hmem
  · right
    refine ⟨ht, hrelease, status, ?_⟩
    have hnext := hwriting.left
    rw [hleft] at hnext
    exact (List.cons.inj hnext).1.symm

theorem Placed.quiet (hquiet : Quiet actions d thread before after)
    (hplaced : Placed d actions removal before driver) :
    Placed d actions removal after driver where
  row := by rw [hquiet.state, hplaced.row]
  known_of_entry := by
    rw [hquiet.state]
    exact hplaced.known_of_entry
  known_of_left t lng lat hmem := by
    rw [hquiet.left] at hmem
    exact hplaced.known_of_left t lng lat hmem
  entry_of_busy := by
    rw [hquiet.state]
    exact hplaced.entry_of_busy
  left_of_busy hbusy t := by
    rw [hquiet.left]
    exact hplaced.left_of_busy hbusy t

theorem Placed.writing (hrace : PhotoRace actions removal)
    (hmakes : (actions thread).Makes d call)
    (hwriting : Writing actions d thread call before after)
    (hplaced : Placed d actions removal before driver) :
    Placed d actions removal after (call.patched driver) := by
  have hrow := hwriting.row_after hmakes hplaced.row
  obtain ⟨hknown, hidle⟩ := hrace.patched_row hmakes driver
  have hbusy : (call.patched driver).status = .busy →
      thread = removal ∧ call = .update d { hasPhoto := some false } ∧
        driver.status = .busy := by
    intro hbusy
    obtain ⟨hbefore, hnot⟩ := hidle hbusy
    rcases hplaced.write_of_busy hwriting hbefore with
      ⟨ht, hflag⟩ | ⟨-, -, status, hcall⟩
    · exact ⟨ht, hflag, hbefore⟩
    · exact (hnot status hcall).elim
  refine ⟨hrow, ?_, ?_, ?_, ?_⟩
  · intro hentry
    rw [← hknown]
    rcases hrace.write hmakes with
      ⟨status, -, hcall⟩ | ⟨-, hcall⟩ | hcall | ⟨lng, lat, hcall⟩
    · apply hplaced.known_of_entry
      simpa [hwriting.state, hcall, DriverCall.act, DriverState.updateRow]
        using hentry
    · apply hplaced.known_of_entry
      simpa [hwriting.state, hcall, DriverCall.act, DriverState.updateRow]
        using hentry
    · simp [hwriting.state, hcall, DriverCall.act] at hentry
    · apply hplaced.known_of_left thread lng lat
      rw [← hcall]
      exact hwriting.mem_left
  · intro t lng lat hmem
    rcases hwriting.mem_before hmem with ⟨-, hbefore⟩ | ⟨-, hfrom⟩
    · exact hknown.mp (hplaced.known_of_left t lng lat hbefore)
    · exact hrace.known_of_geoadd hrow hfrom
  · intro hafter
    obtain ⟨-, hcall, hbefore⟩ := hbusy hafter
    simp [hwriting.state, hcall, DriverCall.act, DriverState.updateRow,
      hplaced.entry_of_busy hbefore]
  · intro hafter t
    obtain ⟨hthread, -, hbefore⟩ := hbusy hafter
    by_cases hunread : before.unread t
    · rw [(hwriting.unread_left t hunread).2]
      exact hrace.writes_of_busy t hrow hafter
    · by_cases ht : t = thread
      · left
        refine ⟨ht.trans hthread, ?_⟩
        intro write hwrite
        have hmem : write ∈ before.left thread := by
          rw [hwriting.left, ← ht]
          exact List.mem_cons_of_mem _ hwrite
        rcases hplaced.left_of_busy hbefore thread with ⟨-, hflag⟩ | ⟨hne, -⟩
        · exact hflag write hmem
        · exact (hne hthread).elim
      · rw [hwriting.read_left t ht hunread]
        exact hplaced.left_of_busy hbefore t

/-! ## What is still to come -/

/-- Someone will write OFFLINE, provided the row is not BUSY. -/
def OfflineComing (d : String) (actions : τ → DriverAction)
    (view : RaceView τ) : Prop :=
  ∃ t, offlineWrite d ∈ view.left t ∨
    (view.unread t ∧ actions t = .changeStatus .offline)

def RemovalComing (d : String) (view : RaceView τ) : Prop :=
  ∃ t, .zrem d ∈ view.left t

theorem OfflineComing.writing (hrace : PhotoRace actions removal)
    (hwriting : Writing actions d thread call before after)
    (hplaced : Placed d actions removal before driver)
    (hread : ¬ before.unread removal) (hcall : call ≠ offlineWrite d)
    (hafter : (call.patched driver).status ≠ .busy)
    (hcoming : OfflineComing d actions before) :
    OfflineComing d actions after := by
  obtain ⟨t, hmem | ⟨hunread, haction⟩⟩ := hcoming
  · by_cases hunread : before.unread t
    · have ht : t ≠ removal := by
        intro heq
        subst t
        exact hread hunread
      refine ⟨t, Or.inr ⟨(hwriting.unread t).mpr hunread, ?_⟩⟩
      by_cases hbusy : driver.status = .busy
      · exfalso
        have hrelease : actions t = .release := by
          rcases hplaced.left_of_busy hbusy t with
            ⟨heq, -⟩ | ⟨-, hnone | ⟨hrelease, -⟩⟩
          · exact (ht heq).elim
          · rw [hnone] at hmem
            cases hmem
          · exact hrelease
        rcases hplaced.write_of_busy hwriting hbusy with
          ⟨-, hflag⟩ | ⟨-, hthread, -⟩
        · rw [hflag] at hafter
          exact hafter hbusy
        · have hsame := hrace.finish_once t thread hrelease hthread
          rw [hsame] at hunread
          exact hwriting.ready hunread
      · rw [(hwriting.unread_left t hunread).1] at hmem
        exact hrace.offline_of_unread ht hplaced.row hbusy hmem
    · exact ⟨t, Or.inl (hwriting.mem_after hunread hmem hcall.symm)⟩
  · exact ⟨t, Or.inr ⟨(hwriting.unread t).mpr hunread, haction⟩⟩

theorem not_offlineComing_writing (hrace : PhotoRace actions removal)
    (hmakes : (actions thread).Makes d call)
    (hwriting : Writing actions d thread call before after)
    (hplaced : Placed d actions removal before driver)
    (hread : ¬ before.unread removal)
    (hafter : (call.patched driver).status ≠ .busy)
    (hnot : ¬ OfflineComing d actions before) :
    ¬ OfflineComing d actions after := by
  rintro ⟨t, hmem | ⟨hunread, haction⟩⟩
  · rcases hwriting.mem_before hmem with ⟨-, hbefore⟩ | ⟨hunread, hfrom⟩
    · exact hnot ⟨t, Or.inl hbefore⟩
    · have ht : t ≠ removal := by
        intro heq
        subst t
        exact hread hunread
      have hrow := hwriting.row_after hmakes hplaced.row
      exact hnot ⟨t, Or.inr ⟨hunread,
        hrace.offline_of_unread ht hrow hafter hfrom⟩⟩
  · exact hnot ⟨t, Or.inr ⟨(hwriting.unread t).mp hunread, haction⟩⟩

/-- While the position is known and the row not BUSY, a removal that is ahead
stays ahead until it is made. -/
theorem RemovalComing.writing (hrace : PhotoRace actions removal)
    (hmakes : (actions thread).Makes d call)
    (hwriting : Writing actions d thread call before after)
    (hplaced : Placed d actions removal before driver)
    (hread : ¬ before.unread removal) (hcall : call ≠ .zrem d)
    (hidle : driver.status ≠ .busy) (hknown : Known driver)
    (hcoming : RemovalComing d before) : RemovalComing d after := by
  obtain ⟨t, hmem⟩ := hcoming
  refine ⟨t, ?_⟩
  by_cases hunread : before.unread t
  · have ht : t ≠ removal := by
      intro heq
      subst t
      exact hread hunread
    obtain ⟨hbefore, hafter⟩ := hwriting.unread_left t hunread
    rw [hbefore] at hmem
    have haction := hrace.zrem_of_unread ht hplaced.row hidle hknown hmem
    have hrow := hwriting.row_after hmakes hplaced.row
    have hstill : (call.patched driver).status ≠ .busy := fun hbusy =>
      hidle ((hrace.patched_row hmakes driver).2 hbusy).1
    rw [hafter, haction, writesFrom_offline hrow hstill]
    simp
  · exact hwriting.mem_after hunread hmem hcall.symm

theorem not_removalComing_writing (hrace : PhotoRace actions removal)
    (hmakes : (actions thread).Makes d call)
    (hwriting : Writing actions d thread call before after)
    (hplaced : Placed d actions removal before driver)
    (hread : ¬ before.unread removal) (hidle : driver.status ≠ .busy)
    (hknown : Known driver) (hnot : ¬ RemovalComing d before) :
    ¬ RemovalComing d after := by
  rintro ⟨t, hmem⟩
  rcases hwriting.mem_before hmem with ⟨-, hbefore⟩ | ⟨hunread, hfrom⟩
  · exact hnot ⟨t, hbefore⟩
  · have ht : t ≠ removal := by
      intro heq
      subst t
      exact hread hunread
    have hrow := hwriting.row_after hmakes hplaced.row
    obtain ⟨hpatched, hbusy⟩ := hrace.patched_row hmakes driver
    have haction := hrace.zrem_of_unread ht hrow
      (fun h => hidle (hbusy h).1) (hpatched.mp hknown) hfrom
    apply hnot
    refine ⟨t, ?_⟩
    rw [(hwriting.unread_left t hunread).1, haction,
      writesFrom_offline hplaced.row hidle]
    simp

/-! ## Good and bad views -/

/-- The removal is still to read, or whatever contradicts it is still to be
undone. -/
def Clearing (d : String) (actions : τ → DriverAction) (removal : τ)
    (view : RaceView τ) : Prop :=
  ∃ driver, Placed d actions removal view driver ∧
    (driver.status = .available →
      view.unread removal ∨ OfflineComing d actions view) ∧
    (view.state.entry ≠ none → view.unread removal ∨ RemovalComing d view)

/-- The removal has read, and the driver is AVAILABLE or in the pool with
nobody left to undo it. -/
def Stranded (d : String) (actions : τ → DriverAction) (removal : τ)
    (view : RaceView τ) : Prop :=
  ∃ driver, Placed d actions removal view driver ∧ ¬ view.unread removal ∧
    ((driver.status = .available ∧ ¬ OfflineComing d actions view) ∨
      (driver.status ≠ .busy ∧ view.state.entry ≠ none ∧
        ¬ RemovalComing d view))

theorem OfflineComing.quiet (hquiet : Quiet actions d thread before after)
    (hrow : before.state.row = some driver) (hidle : driver.status ≠ .busy)
    (hcoming : OfflineComing d actions before) :
    OfflineComing d actions after := by
  obtain ⟨t, hmem | ⟨hunread, haction⟩⟩ := hcoming
  · exact ⟨t, Or.inl (by rwa [hquiet.left])⟩
  · refine ⟨t, Or.inl ?_⟩
    rw [hquiet.left, hquiet.unread_left t hunread, haction,
      writesFrom_offline hrow hidle]
    simp

theorem Clearing.quiet (hrace : PhotoRace actions removal)
    (hquiet : Quiet actions d thread before after)
    (hread : thread = removal → before.unread removal →
      ∀ driver, before.state.row = some driver →
        driver.status = .available ∨ before.state.entry = none ∨
          RemovalComing d before)
    (hclearing : Clearing d actions removal before) :
    Clearing d actions removal after := by
  obtain ⟨driver, hplaced, hstatus, hentry⟩ := hclearing
  have hown : thread = removal → before.unread removal →
      driver.status = .available →
      offlineWrite d ∈ after.left removal ∧ .zrem d ∈ after.left removal := by
    intro ht hunread havailable
    rw [hquiet.left, hquiet.unread_left removal hunread, hrace.clears,
      writesFrom_removal hplaced.row havailable]
    simp
  refine ⟨driver, hplaced.quiet hquiet, ?_, ?_⟩
  · intro havailable
    by_cases hleave : thread = removal ∧ before.unread removal
    · exact Or.inr ⟨removal,
        Or.inl (hown hleave.1 hleave.2 havailable).1⟩
    · rcases hstatus havailable with hunread | hcoming
      · left
        rw [hquiet.unread]
        exact ⟨hunread, fun heq => hleave ⟨heq.symm, hunread⟩⟩
      · exact Or.inr (hcoming.quiet hquiet hplaced.row (by simp [havailable]))
  · intro hpooled
    rw [hquiet.state] at hpooled
    have hstays : RemovalComing d before → RemovalComing d after := by
      rintro ⟨t, hmem⟩
      exact ⟨t, by rwa [hquiet.left]⟩
    by_cases hleave : thread = removal ∧ before.unread removal
    · right
      rcases hread hleave.1 hleave.2 driver hplaced.row with
        havailable | hnone | hcoming
      · exact ⟨removal, (hown hleave.1 hleave.2 havailable).2⟩
      · exact (hpooled hnone).elim
      · exact hstays hcoming
    · rcases hentry hpooled with hunread | hcoming
      · left
        rw [hquiet.unread]
        exact ⟨hunread, fun heq => hleave ⟨heq.symm, hunread⟩⟩
      · exact Or.inr (hstays hcoming)

/-- A write that leaves the row AVAILABLE is a write of AVAILABLE, or the row
was AVAILABLE before. -/
theorem PhotoRace.available_after (hrace : PhotoRace actions removal)
    (hmakes : (actions thread).Makes d call)
    (hafter : (call.patched driver).status = .available) :
    call = .update d { status := some .available } ∨
      (driver.status = .available ∧ call ≠ offlineWrite d) := by
  rcases hrace.write hmakes with
    ⟨status, -, rfl⟩ | ⟨-, rfl⟩ | rfl | ⟨lng, lat, rfl⟩
  · left
    simp only [DriverCall.patched, DriverPatch.apply, Option.getD_some]
      at hafter
    rw [hafter]
  · exact Or.inr ⟨hafter, by simp [offlineWrite]⟩
  · exact Or.inr ⟨hafter, by simp [offlineWrite]⟩
  · exact Or.inr ⟨hafter, by simp [offlineWrite]⟩

/-- A write after which the driver is in the pool is an addition, or the
driver was in the pool before. -/
theorem PhotoRace.pooled_after (hrace : PhotoRace actions removal)
    (hmakes : (actions thread).Makes d call)
    (hwriting : Writing actions d thread call before after)
    (hafter : after.state.entry ≠ none) :
    call ≠ .zrem d ∧
      ((∃ lng lat, call = .geoadd lng lat d) ∨ before.state.entry ≠ none) := by
  rw [hwriting.state] at hafter
  rcases hrace.write hmakes with
    ⟨status, -, rfl⟩ | ⟨-, rfl⟩ | rfl | ⟨lng, lat, rfl⟩
  · refine ⟨by simp, Or.inr ?_⟩
    simpa [DriverCall.act, DriverState.updateRow] using hafter
  · refine ⟨by simp, Or.inr ?_⟩
    simpa [DriverCall.act, DriverState.updateRow] using hafter
  · simp [DriverCall.act] at hafter
  · exact ⟨by simp, Or.inl ⟨lng, lat, rfl⟩⟩

/-- Whoever is in the pool, or about to be, has a row that is not BUSY. -/
theorem Placed.idle_of_pool (hplaced : Placed d actions removal before driver)
    (hwriting : Writing actions d thread call before after)
    (hpool : (∃ lng lat, call = .geoadd lng lat d) ∨
      before.state.entry ≠ none) : driver.status ≠ .busy ∧ Known driver := by
  rcases hpool with ⟨lng, lat, hcall⟩ | hentry
  · constructor
    · intro hbusy
      rcases hplaced.write_of_busy hwriting hbusy with
        ⟨-, hflag⟩ | ⟨-, -, status, hupdate⟩
      · rw [hcall] at hflag
        cases hflag
      · rw [hcall] at hupdate
        cases hupdate
    · apply hplaced.known_of_left thread lng lat
      rw [← hcall]
      exact hwriting.mem_left
  · exact ⟨fun hbusy => hentry (hplaced.entry_of_busy hbusy),
      hplaced.known_of_entry hentry⟩

theorem Clearing.writing (hrace : PhotoRace actions removal)
    (hmakes : (actions thread).Makes d call)
    (hwriting : Writing actions d thread call before after)
    (hstatus : call = .update d { status := some .available } →
      before.unread removal ∨ OfflineComing d actions before)
    (hpool : ∀ lng lat, call = .geoadd lng lat d →
      before.unread removal ∨ RemovalComing d before)
    (hclearing : Clearing d actions removal before) :
    Clearing d actions removal after := by
  obtain ⟨driver, hplaced, havailable, hpooled⟩ := hclearing
  refine ⟨call.patched driver, hplaced.writing hrace hmakes hwriting, ?_, ?_⟩
  · intro hafter
    have hwritten := hrace.available_after hmakes hafter
    have hcoming : before.unread removal ∨ OfflineComing d actions before := by
      rcases hwritten with hcall | ⟨hbefore, -⟩
      · exact hstatus hcall
      · exact havailable hbefore
    have hne : call ≠ offlineWrite d := by
      rcases hwritten with hcall | ⟨-, hcall⟩
      · simp [hcall, offlineWrite]
      · exact hcall
    by_cases hunread : before.unread removal
    · exact Or.inl ((hwriting.unread removal).mpr hunread)
    · right
      exact (hcoming.resolve_left hunread).writing hrace hwriting hplaced
        hunread hne (by simp [hafter])
  · intro hafter
    obtain ⟨hne, hentered⟩ := hrace.pooled_after hmakes hwriting hafter
    obtain ⟨hidle, hknown⟩ := hplaced.idle_of_pool hwriting hentered
    have hcoming : before.unread removal ∨ RemovalComing d before := by
      rcases hentered with ⟨lng, lat, hcall⟩ | hentry
      · exact hpool lng lat hcall
      · exact hpooled hentry
    by_cases hunread : before.unread removal
    · exact Or.inl ((hwriting.unread removal).mpr hunread)
    · right
      exact (hcoming.resolve_left hunread).writing hrace hmakes hwriting
        hplaced hunread hne hidle hknown

theorem stranded_of_status (hrace : PhotoRace actions removal)
    (hmakes : (actions thread).Makes d call)
    (hwriting : Writing actions d thread call before after)
    (hplaced : Placed d actions removal before driver)
    (hread : ¬ before.unread removal)
    (hafter : (call.patched driver).status = .available)
    (hnot : ¬ OfflineComing d actions before) :
    Stranded d actions removal after :=
  ⟨call.patched driver, hplaced.writing hrace hmakes hwriting,
    mt (hwriting.unread removal).mp hread,
    Or.inl ⟨hafter, not_offlineComing_writing hrace hmakes hwriting hplaced
      hread (by simp [hafter]) hnot⟩⟩

theorem stranded_of_pool (hrace : PhotoRace actions removal)
    (hmakes : (actions thread).Makes d call)
    (hwriting : Writing actions d thread call before after)
    (hplaced : Placed d actions removal before driver)
    (hread : ¬ before.unread removal) (hidle : driver.status ≠ .busy)
    (hknown : Known driver) (hafter : after.state.entry ≠ none)
    (hnot : ¬ RemovalComing d before) : Stranded d actions removal after :=
  ⟨call.patched driver, hplaced.writing hrace hmakes hwriting,
    mt (hwriting.unread removal).mp hread,
    Or.inr ⟨fun hbusy => hidle ((hrace.patched_row hmakes driver).2 hbusy).1,
      hafter, not_removalComing_writing hrace hmakes hwriting hplaced hread
        hidle hknown hnot⟩⟩

theorem Stranded.writing (hrace : PhotoRace actions removal)
    (hmakes : (actions thread).Makes d call)
    (hwriting : Writing actions d thread call before after)
    (hstranded : Stranded d actions removal before) :
    Stranded d actions removal after := by
  obtain ⟨driver, hplaced, hread, ⟨havailable, hnot⟩ | ⟨hidle, hentry, hnot⟩⟩ :=
    hstranded
  · apply stranded_of_status hrace hmakes hwriting hplaced hread ?_ hnot
    rcases hrace.write hmakes with
      ⟨status, hbusy, rfl⟩ | ⟨-, rfl⟩ | rfl | ⟨lng, lat, rfl⟩
    · cases status with
      | offline =>
          exact (hnot ⟨thread, Or.inl (hwriting.mem_left)⟩).elim
      | available => rfl
      | busy => exact (hbusy rfl).elim
    · exact havailable
    · exact havailable
    · exact havailable
  · have hknown := hplaced.known_of_entry hentry
    apply stranded_of_pool hrace hmakes hwriting hplaced hread hidle hknown
      ?_ hnot
    rw [hwriting.state]
    rcases hrace.write hmakes with
      ⟨status, -, rfl⟩ | ⟨-, rfl⟩ | rfl | ⟨lng, lat, rfl⟩
    · simpa [DriverCall.act, DriverState.updateRow] using hentry
    · simpa [DriverCall.act, DriverState.updateRow] using hentry
    · exact (hnot ⟨thread, hwriting.mem_left⟩).elim
    · simp [DriverCall.act]

theorem Stranded.quiet (hquiet : Quiet actions d thread before after)
    (hstranded : Stranded d actions removal before) :
    Stranded d actions removal after := by
  obtain ⟨driver, hplaced, hread, hcases⟩ := hstranded
  refine ⟨driver, hplaced.quiet hquiet,
    fun h => hread ((hquiet.unread removal).mp h).1, ?_⟩
  rw [hquiet.state]
  rcases hcases with ⟨havailable, hnot⟩ | ⟨hidle, hentry, hnot⟩
  · refine Or.inl ⟨havailable, ?_⟩
    rintro ⟨t, hmem | ⟨hunread, haction⟩⟩
    · rw [hquiet.left] at hmem
      exact hnot ⟨t, Or.inl hmem⟩
    · exact hnot ⟨t, Or.inr ⟨((hquiet.unread t).mp hunread).1, haction⟩⟩
  · refine Or.inr ⟨hidle, hentry, ?_⟩
    rintro ⟨t, hmem⟩
    rw [hquiet.left] at hmem
    exact hnot ⟨t, hmem⟩

end Steps

/-! ## Runs -/

/-- What a write to AVAILABLE, a position that lands in the pool or the
removal's own lookup finds: the removal is still to read, or somebody is left
to undo it. -/
structure LeavesRemoval (d : String) (actions : τ → DriverAction)
    (removal : τ) (system : DriverRace τ) (thread : τ) : Prop where
  status : (system.program thread).pending =
      some (.update d { status := some .available }) →
    Unread system removal ∨
      ∃ other, offlineWrite d ∈ system.ahead DriverWorld.answer other ∨
        (Unread system other ∧ actions other = .changeStatus .offline)
  pool : ∀ lng lat,
    (system.program thread).pending = some (.geoadd lng lat d) →
      Unread system removal ∨
        ∃ other, .zrem d ∈ system.ahead DriverWorld.answer other
  lookup : thread = removal → Unread system removal →
    ∀ driver, system.world.drivers.get? d = some driver →
      driver.status = .available ∨ system.world.pool.lookup d = none ∨
        ∃ other, .zrem d ∈ system.ahead DriverWorld.answer other

theorem offlineComing_iff {system : DriverRace τ} :
    OfflineComing d actions (raceView d system) ↔
      ∃ other, offlineWrite d ∈ system.ahead DriverWorld.answer other ∨
        (Unread system other ∧ actions other = .changeStatus .offline) := by
  apply exists_congr
  intro t
  rw [mem_left_iff d (by rfl)]
  exact Iff.rfl

theorem removalComing_iff {system : DriverRace τ} :
    RemovalComing d (raceView d system) ↔
      ∃ other, .zrem d ∈ system.ahead DriverWorld.answer other := by
  apply exists_congr
  intro t
  exact mem_left_iff d rfl

section Runs

variable {requests : τ → Request}

theorem clearing_start (hrace : PhotoRace actions removal)
    {world : DriverWorld} (hconsistent : (world.state d).Consistent)
    (hnamed : ∀ t, (requests t).action world = some (d, actions t)) :
    Clearing d actions removal
      (raceView d (Interleaving.start (fun t => (requests t).program) world)) := by
  have hremoval := hnamed removal
  rw [hrace.clears] at hremoval
  obtain ⟨driver, hget⟩ := row_of_syncPhoto hremoval
  have hunread : Unread
      (Interleaving.start (fun t => (requests t).program) world) removal := by
    apply unread_start hrace.not_create hnamed
    simp [hrace.clears, DriverAction.writesFrom, hget, DriverAction.writes]
  have hleft : ∀ t, (raceView d
      (Interleaving.start (fun t => (requests t).program) world)).left t =
        (actions t).writesFrom d (world.state d) :=
    fun t => left_of_start rfl (hnamed t) (hrace.not_create t)
  refine ⟨driver, ⟨hget, ?_, ?_, ?_, ?_⟩, fun _ => Or.inl hunread,
    fun _ => Or.inl hunread⟩
  · intro hentry
    obtain ⟨position, hposition⟩ := Option.ne_none_iff_exists'.mp hentry
    obtain ⟨pooled, hrow, -, -, hlat, hlng⟩ :=
      hconsistent.pooled position hposition
    rw [state_row, hget] at hrow
    cases hrow
    exact ⟨by simp [hlat], by simp [hlng]⟩
  · intro t lng lat hmem
    rw [hleft] at hmem
    exact hrace.known_of_geoadd hget hmem
  · intro hbusy
    by_contra hentry
    obtain ⟨position, hposition⟩ := Option.ne_none_iff_exists'.mp hentry
    obtain ⟨pooled, hrow, havailable, -⟩ :=
      hconsistent.pooled position hposition
    rw [state_row, hget] at hrow
    cases hrow
    rw [hbusy] at havailable
    cases havailable
  · intro hbusy t
    rw [hleft]
    exact hrace.writes_of_busy t hget hbusy

variable [DecidableEq τ]
  {system next : DriverRace τ} {thread : τ}

theorem clearing_of_turn (hrace : PhotoRace actions removal)
    (hracing : Racing requests actions d system)
    (hclearing : Clearing d actions removal (raceView d system))
    (hguard : LeavesRemoval d actions removal system thread)
    (hturn : turn DriverWorld.answer system thread = some next) :
    Clearing d actions removal (raceView d next) := by
  obtain ⟨-, call, hpending, ⟨-, hquiet⟩ | ⟨-, hwriting⟩⟩ :=
    hracing.turn hrace.not_create hturn
  · apply hclearing.quiet hrace hquiet
    intro ht hunread driver hrow
    rw [removalComing_iff]
    exact hguard.lookup ht hunread driver hrow
  · apply hclearing.writing hrace (hracing.makes_call hwriting) hwriting
    · intro hcall
      rw [offlineComing_iff]
      apply hguard.status
      rw [hpending, hcall]
    · intro lng lat hcall
      rw [removalComing_iff]
      apply hguard.pool lng lat
      rw [hpending, hcall]

theorem stranded_of_turn (hrace : PhotoRace actions removal)
    (hracing : Racing requests actions d system)
    (hclearing : Clearing d actions removal (raceView d system))
    (hguard : ¬ LeavesRemoval d actions removal system thread)
    (hturn : turn DriverWorld.answer system thread = some next) :
    Stranded d actions removal (raceView d next) := by
  obtain ⟨driver, hplaced, -, -⟩ := hclearing
  obtain ⟨-, call, hpending, ⟨hchanges, hquiet⟩ | ⟨-, hwriting⟩⟩ :=
    hracing.turn hrace.not_create hturn
  · by_contra hnot
    apply hguard
    refine ⟨?_, ?_, ?_⟩
    · intro hstatus
      rw [hpending] at hstatus
      cases hstatus
      cases hchanges
    · intro lng lat hgeoadd
      rw [hpending] at hgeoadd
      cases hgeoadd
      cases hchanges
    · intro ht hunread other hother
      have hsame : some driver = some other := hplaced.row.symm.trans hother
      cases hsame
      rw [← removalComing_iff]
      by_contra hcases
      rw [not_or, not_or] at hcases
      obtain ⟨havailable, hentry, hcoming⟩ := hcases
      apply hnot
      refine ⟨driver, hplaced.quiet hquiet, ?_, Or.inr ⟨?_, ?_, ?_⟩⟩
      · rw [hquiet.unread]
        exact fun h => h.2 ht.symm
      · exact fun hbusy => hentry (hplaced.entry_of_busy hbusy)
      · rw [hquiet.state]
        exact hentry
      · rintro ⟨t, hmem⟩
        rw [hquiet.left] at hmem
        exact hcoming ⟨t, hmem⟩
  · have hmakes := hracing.makes_call hwriting
    by_contra hnot
    apply hguard
    refine ⟨?_, ?_, ?_⟩
    · intro hstatus
      rw [hpending] at hstatus
      cases hstatus
      rw [← offlineComing_iff]
      by_contra hcases
      rw [not_or] at hcases
      exact hnot (stranded_of_status hrace hmakes hwriting hplaced hcases.1
        rfl hcases.2)
    · intro lng lat hgeoadd
      rw [hpending] at hgeoadd
      cases hgeoadd
      rw [← removalComing_iff]
      by_contra hcases
      rw [not_or] at hcases
      obtain ⟨hidle, hknown⟩ :=
        hplaced.idle_of_pool hwriting (Or.inl ⟨lng, lat, rfl⟩)
      apply hnot
      apply stranded_of_pool hrace hmakes hwriting hplaced hcases.1 hidle
        hknown ?_ hcases.2
      simp [hwriting.state, DriverCall.act]
    · intro ht hunread
      rw [ht] at hwriting
      exact (hwriting.ready hunread).elim

theorem Stranded.turn (hrace : PhotoRace actions removal)
    (hracing : Racing requests actions d system)
    (hstranded : Stranded d actions removal (raceView d system))
    (hturn : turn DriverWorld.answer system thread = some next) :
    Stranded d actions removal (raceView d next) := by
  obtain ⟨-, call, -, ⟨-, hquiet⟩ | ⟨-, hwriting⟩⟩ :=
    hracing.turn hrace.not_create hturn
  · exact hstranded.quiet hquiet
  · exact hstranded.writing hrace (hracing.makes_call hwriting) hwriting

variable (actions requests) in
/-- From a consistent state, a photo removal among status requests and at most
one end of a ride leaves the driver not AVAILABLE and out of the pool exactly
if every write to AVAILABLE, every position that lands in the pool and the
removal's own lookup leave somebody to undo what contradicts it. -/
theorem photo_rule_survives_iff (hrace : PhotoRace actions removal)
    {world : DriverWorld} (hconsistent : (world.state d).Consistent)
    (hnamed : ∀ t, (requests t).action world = some (d, actions t))
    {schedule : List τ} {last : DriverRace τ}
    (hrun : run (turn DriverWorld.answer)
      (Interleaving.start (fun t => (requests t).program) world) schedule =
        some last)
    (hfinished : last.Finished) :
    ((∀ driver, last.world.drivers.get? d = some driver →
          driver.status ≠ .available) ∧
        last.world.pool.lookup d = none) ↔
      RunMeets (turn DriverWorld.answer) (LeavesRemoval d actions removal)
        (Interleaving.start (fun t => (requests t).program) world)
        schedule := by
  have hends := good_or_bad_of_race (Clearing d actions removal)
    (Stranded d actions removal) hrace.not_create
    (clearing_of_turn hrace) (stranded_of_turn hrace) (Stranded.turn hrace)
    (racing_start hrace.not_create hnamed)
    (clearing_start hrace hconsistent hnamed) hrun
  have hread := not_unread_of_finished hfinished
  have hoffline : ¬ OfflineComing d actions (raceView d last) := by
    rintro ⟨t, hmem | ⟨hunread, -⟩⟩
    · rw [left_of_finished hfinished] at hmem
      cases hmem
    · exact hread t hunread
  have hremoved : ¬ RemovalComing d (raceView d last) := by
    rintro ⟨t, hmem⟩
    rw [left_of_finished hfinished] at hmem
    cases hmem
  rcases hends with ⟨hmeets, driver, hplaced, hstatus, hentry⟩ |
    ⟨hnot, driver, hplaced, -, hstranded⟩
  · refine iff_of_true ⟨?_, ?_⟩ hmeets
    · intro other hother havailable
      have hsame : some driver = some other := hplaced.row.symm.trans hother
      cases hsame
      rcases hstatus havailable with hunread | hcoming
      · exact hread removal hunread
      · exact hoffline hcoming
    · by_contra hpooled
      rcases hentry hpooled with hunread | hcoming
      · exact hread removal hunread
      · exact hremoved hcoming
  · refine iff_of_false ?_ hnot
    rintro ⟨hidle, hout⟩
    rcases hstranded with ⟨havailable, -⟩ | ⟨-, hpooled, -⟩
    · exact hidle driver hplaced.row havailable
    · exact hpooled hout

end Runs

/-! ## A request that read before the removal -/

/-- The driver goes online (`false`) while the photo is removed (`true`). -/
def removedGoingOnline : Bool → Request
  | true => .message 0 (.userPhotoUpdated
      { userId := "u", role := "driver", hasPhoto := false })
  | false => .updateStatus 0 "d" { status := .available }

def removalActions : Bool → DriverAction
  | true => .syncPhoto false
  | false => .changeStatus .available

def removingOnline : DriverRace Bool :=
  Interleaving.start (fun t => (removedGoingOnline t).program) waitingWorld

def onlineBeforeRemoval : List Bool :=
  [false, false, false, false, true, true, true, true, true]

def onlineAcrossRemoval : List Bool :=
  [false, true, true, true, true, true, false, false, false]

theorem removal_after_request :
    ∃ last, run (turn DriverWorld.answer) removingOnline onlineBeforeRemoval =
        some last ∧
      (((∀ driver, last.world.drivers.get? "d" = some driver →
            driver.status ≠ .available) ∧
          last.world.pool.lookup "d" = none) ↔
        RunMeets (turn DriverWorld.answer)
          (LeavesRemoval "d" removalActions true)
          removingOnline onlineBeforeRemoval) := by
  have hcheck : (run (turn DriverWorld.answer) removingOnline
      onlineBeforeRemoval).any raceFinished = true := by
    decide +kernel
  obtain ⟨last, hrun, hlast⟩ := exists_of_run_any hcheck
  refine ⟨last, hrun, ?_⟩
  refine photo_rule_survives_iff removalActions removedGoingOnline
    ⟨rfl, ?_, ?_⟩ waitingWorld_consistent ?_ hrun
    (finished_of_raceFinished hlast)
  · intro t ht
    cases t with
    | true => exact (ht rfl).elim
    | false => exact Or.inl ⟨.available, rfl⟩
  · intro t t' hrelease
    cases t <;> cases hrelease
  · intro t
    cases t <;> rfl

theorem online_across_removal :
    ∃ last, run (turn DriverWorld.answer) removingOnline onlineAcrossRemoval =
        some last ∧ last.Finished ∧
      ¬ ((∀ driver, last.world.drivers.get? "d" = some driver →
            driver.status ≠ .available) ∧
          last.world.pool.lookup "d" = none) := by
  have hcheck : (run (turn DriverWorld.answer) removingOnline
      onlineAcrossRemoval).any (fun last =>
        raceFinished last && (last.world.pool.lookup "d").isSome) = true := by
    decide +kernel
  obtain ⟨last, hrun, hlast⟩ := exists_of_run_any hcheck
  rw [Bool.and_eq_true] at hlast
  refine ⟨last, hrun, finished_of_raceFinished hlast.1, ?_⟩
  rintro ⟨-, hout⟩
  rw [hout] at hlast
  simp at hlast

end FakeBolt.Driver
