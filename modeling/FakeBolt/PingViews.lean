import FakeBolt.DriverRace

/-!
# A ping and a status change, step by step

One location update of a driver among the calls of one operation that changes
the driver's status: what either still has to write and where that leaves the
row and the pool.  The ping writes Redis before the row and the status change
writes the row before Redis, each from its own earlier lookup.
-/

namespace FakeBolt.Driver

open Await Interleaving Kafka Store Transition

variable {d : String} {lat lng : Num} {action : DriverAction}

/-! ## What a status change comes to -/

def ChangesStatus : DriverAction → Prop
  | .changeStatus _ => True
  | .syncPhoto _ => True
  | .release => True
  | _ => False

/-- The status that the operation writes, from the row as read. -/
def outcome (action : DriverAction) (driver : DriverEntity) :
    Option DriverStatus :=
  match action with
  | .changeStatus status =>
      match statusRefusal driver status with
      | some _ => none
      | none => some status
  | .syncPhoto hasPhoto =>
      if hasPhoto = false ∧ driver.status = .available then some .offline
      else none
  | .release =>
      if driver.status = .busy then some (releasedStatus driver) else none
  | _ => none

def settledStatus (action : DriverAction) (driver : DriverEntity) :
    DriverStatus :=
  (outcome action driver).getD driver.status

def flagWrites (d : String) : DriverAction → List DriverCall
  | .syncPhoto hasPhoto => [.update d { hasPhoto := hasPhoto }]
  | _ => []

theorem writes_eq_outcome (haction : ChangesStatus action)
    (driver : DriverEntity) :
    action.writes d driver = flagWrites d action ++
      match outcome action driver with
      | some status => statusWrites d status driver
      | none => [] := by
  cases action with
  | changeStatus status =>
      simp only [DriverAction.writes, outcome, flagWrites, List.nil_append]
      cases statusRefusal driver status <;> rfl
  | syncPhoto hasPhoto =>
      simp only [DriverAction.writes, outcome, flagWrites]
      split_ifs <;> rfl
  | release =>
      simp only [DriverAction.writes, outcome, flagWrites, List.nil_append]
      split_ifs <;> rfl
  | create driver => exact haction.elim
  | ping lat lng => exact haction.elim
  | assign => exact haction.elim
  | claim => exact haction.elim

/-- The operation looks at the status and the photo flag of the row only. -/
theorem outcome_congr {driver other : DriverEntity}
    (hstatus : driver.status = other.status)
    (hphoto : driver.hasPhoto = other.hasPhoto) :
    outcome action driver = outcome action other := by
  cases action with
  | changeStatus status =>
      simp only [outcome, statusRefusal, hstatus, hphoto]
  | syncPhoto hasPhoto => simp only [outcome, hstatus]
  | release => simp only [outcome, releasedStatus, hstatus, hphoto]
  | create created => rfl
  | ping lat lng => rfl
  | assign => rfl
  | claim => rfl

/-! ## The serial result -/

/-- What riders and dispatchers can tell of a driver: status, position, and
the entry in the pool. -/
def DriverState.seen (state : DriverState) :
    Option (DriverStatus × Option Num × Option Num) × Option Position :=
  (state.row.map fun driver => (driver.status, driver.lat, driver.lng),
    state.entry)

def serialSeen (action : DriverAction) (lat lng : Num) (driver : DriverEntity) :
    Option (DriverStatus × Option Num × Option Num) × Option Position :=
  (some (settledStatus action driver, some lat, some lng),
    if settledStatus action driver = .available then some ⟨lng, lat⟩ else none)

theorem apply_eq_outcome (haction : ChangesStatus action)
    (driver : DriverEntity) (entry : Option Position) :
    ∃ hasPhoto, (DriverState.mk (some driver) entry).apply action =
      match outcome action driver with
      | some status =>
          DriverState.withStatus { driver with hasPhoto := hasPhoto } status
      | none =>
          { row := some { driver with hasPhoto := hasPhoto }, entry := entry } := by
  cases action with
  | changeStatus status =>
      refine ⟨driver.hasPhoto, ?_⟩
      simp only [DriverState.apply, outcome]
      cases statusRefusal driver status <;> rfl
  | syncPhoto hasPhoto =>
      refine ⟨hasPhoto, ?_⟩
      simp only [DriverState.apply, outcome]
      split_ifs <;> rfl
  | release =>
      refine ⟨driver.hasPhoto, ?_⟩
      simp only [DriverState.apply, outcome]
      split_ifs <;> rfl
  | create driver => exact haction.elim
  | ping lat lng => exact haction.elim
  | assign => exact haction.elim
  | claim => exact haction.elim

theorem entryFor_known (status : DriverStatus) (lat lng : Num) :
    entryFor status (some lat) (some lng) =
      if status = .available then some ⟨lng, lat⟩ else none := by
  cases status <;> rfl

theorem apply_ping (driver : DriverEntity) (entry : Option Position) :
    (DriverState.mk (some driver) entry).apply (.ping lat lng) =
      { row := some { driver with lat := some lat, lng := some lng }
        entry := if driver.status = .available then some ⟨lng, lat⟩
          else entry } := rfl

/-- Both serial orders leave the same to be seen. -/
theorem seen_serial (haction : ChangesStatus action) {state : DriverState}
    {driver : DriverEntity} (hrow : state.row = some driver)
    (hentry : driver.status ≠ .available → state.entry = none) :
    ((state.apply (.ping lat lng)).apply action).seen =
        serialSeen action lat lng driver ∧
      ((state.apply action).apply (.ping lat lng)).seen =
        serialSeen action lat lng driver := by
  obtain ⟨row, entry⟩ := state
  cases hrow
  constructor
  · obtain ⟨hasPhoto, happly⟩ := apply_eq_outcome haction
      { driver with lat := some lat, lng := some lng }
      (if driver.status = .available then some ⟨lng, lat⟩ else entry)
    have hsame : outcome action
        { driver with lat := some lat, lng := some lng } =
          outcome action driver := outcome_congr rfl rfl
    rw [apply_ping, happly, hsame]
    cases houtcome : outcome action driver with
    | none =>
        simp only [DriverState.seen, serialSeen, settledStatus, houtcome,
          Option.map_some, Option.getD_none, Prod.mk.injEq, true_and]
        split_ifs with havailable
        · rfl
        · exact hentry havailable
    | some status =>
        simp [DriverState.seen, serialSeen, settledStatus, houtcome,
          DriverState.withStatus, entryFor_known]
  · obtain ⟨hasPhoto, happly⟩ := apply_eq_outcome haction driver entry
    rw [happly]
    cases houtcome : outcome action driver with
    | none =>
        simp only [DriverState.apply, DriverState.seen, serialSeen,
          settledStatus, houtcome, Option.map_some, Option.getD_none,
          Prod.mk.injEq, true_and]
        split_ifs with havailable
        · rfl
        · exact hentry havailable
    | some status =>
        simp only [DriverState.apply, DriverState.withStatus, DriverState.seen,
          serialSeen, settledStatus, houtcome, Option.map_some,
          Option.getD_some, Prod.mk.injEq, true_and]
        split_ifs with havailable
        · rfl
        · cases status <;> simp_all [entryFor]

/-! ## Phases of the status change -/

def IsFlagWrite (d : String) (call : DriverCall) : Prop :=
  ∃ hasPhoto, call = .update d { hasPhoto := some hasPhoto }

def IsPoolWrite (d : String) (call : DriverCall) : Prop :=
  call = .zrem d ∨ ∃ lng lat, call = .geoadd lng lat d

theorem IsPoolWrite.ne_update {call : DriverCall} (hpool : IsPoolWrite d call)
    {id : String} {patch : DriverPatch} : call ≠ .update id patch := by
  rcases hpool with hzrem | ⟨lng, lat, hgeoadd⟩
  · simp [hzrem]
  · simp [hgeoadd]

theorem IsPoolWrite.patched {call : DriverCall} (hpool : IsPoolWrite d call)
    (driver : DriverEntity) : call.patched driver = driver := by
  rcases hpool with rfl | ⟨lng, lat, rfl⟩ <;> rfl

/-- What is left of the operation, and the status it has brought the row to. -/
inductive Phase (d : String) (action : DriverAction) (origin : DriverEntity) :
    List DriverCall → DriverStatus → Prop where
  | pending {flags : List DriverCall} {status : DriverStatus}
      {pool : DriverCall} (hflags : ∀ call ∈ flags, IsFlagWrite d call)
      (houtcome : outcome action origin = some status)
      (hpool : IsPoolWrite d pool)
      (hremoval : status ≠ .available → pool = .zrem d) :
      Phase d action origin
        (flags ++ [.update d { status := some status }, pool]) origin.status
  | half {status : DriverStatus} {pool : DriverCall}
      (houtcome : outcome action origin = some status)
      (hpool : IsPoolWrite d pool)
      (hremoval : status ≠ .available → pool = .zrem d) :
      Phase d action origin [pool] status
  | settled {flags : List DriverCall}
      (hflags : ∀ call ∈ flags, IsFlagWrite d call) :
      Phase d action origin flags (settledStatus action origin)

theorem flagWrites_isFlagWrite (d : String) (action : DriverAction) :
    ∀ call ∈ flagWrites d action, IsFlagWrite d call := by
  intro call hcall
  cases action with
  | syncPhoto hasPhoto =>
      simp only [flagWrites, List.mem_singleton] at hcall
      exact ⟨hasPhoto, hcall⟩
  | create driver => cases hcall
  | changeStatus status => cases hcall
  | ping lat lng => cases hcall
  | assign => cases hcall
  | release => cases hcall
  | claim => cases hcall

theorem poolCall_isPoolWrite (d : String) (status : DriverStatus) (lat lng : Option Num) :
    IsPoolWrite d (poolCall d status lat lng) ∧
      (status ≠ .available → poolCall d status lat lng = .zrem d) := by
  unfold poolCall
  cases hentry : entryFor status lat lng with
  | none => exact ⟨Or.inl rfl, fun _ => rfl⟩
  | some position =>
      refine ⟨Or.inr ⟨_, _, rfl⟩, ?_⟩
      intro hstatus
      exact (hstatus (DriverState.entryFor_eq_some_iff.mp hentry).1).elim

/-- Before it has read, all of the operation is ahead. -/
theorem phase_of_unread (haction : ChangesStatus action)
    {origin driver : DriverEntity} (hstatus : driver.status = origin.status)
    (hphoto : driver.hasPhoto = origin.hasPhoto) :
    Phase d action origin (action.writes d driver) driver.status := by
  have hflags := flagWrites_isFlagWrite d action
  have houtcome : outcome action driver = outcome action origin :=
    outcome_congr hstatus hphoto
  rw [writes_eq_outcome haction, houtcome]
  cases horigin : outcome action origin with
  | none =>
      have hsettled : driver.status = settledStatus action origin := by
        simp [settledStatus, horigin, hstatus]
      rw [hsettled, List.append_nil]
      exact .settled hflags
  | some status =>
      obtain ⟨hpool, hremoval⟩ :=
        poolCall_isPoolWrite d status driver.lat driver.lng
      rw [hstatus]
      exact .pending hflags horigin hpool hremoval

/-- The status is not written yet, or it never will be. -/
def Unwritten (d : String) (action : DriverAction) (origin : DriverEntity)
    (left : List DriverCall) : Prop :=
  (∃ status, .update d { status := some status } ∈ left) ∨
    outcome action origin = none

theorem Phase.status_of_unwritten {origin : DriverEntity}
    {left : List DriverCall} {status : DriverStatus}
    (hphase : Phase d action origin left status)
    (hunwritten : Unwritten d action origin left) :
    status = origin.status := by
  cases hphase with
  | pending hflags houtcome hpool hremoval => rfl
  | half houtcome hpool hremoval =>
      rcases hunwritten with ⟨written, hmem⟩ | hnone
      · rw [List.mem_singleton] at hmem
        exact (hpool.ne_update hmem.symm).elim
      · rw [houtcome] at hnone
        cases hnone
  | settled hflags =>
      rcases hunwritten with ⟨written, hmem⟩ | hnone
      · obtain ⟨hasPhoto, heq⟩ := hflags _ hmem
        cases heq
      · simp [settledStatus, hnone]

/-- The operation's next write is of the flag, of the status, or of the pool
with the status written. -/
theorem Phase.step {origin : DriverEntity} {call : DriverCall}
    {rest : List DriverCall} {status : DriverStatus}
    (hphase : Phase d action origin (call :: rest) status) :
    (IsFlagWrite d call ∧ Phase d action origin rest status) ∨
      (∃ written pool, call = .update d { status := some written } ∧
        rest = [pool] ∧ IsPoolWrite d pool ∧
        (written ≠ .available → pool = .zrem d) ∧
        Phase d action origin rest written) ∨
      (IsPoolWrite d call ∧ rest = [] ∧
        (status ≠ .available → call = .zrem d) ∧
        Phase d action origin rest status) := by
  generalize hleft : call :: rest = left at hphase
  cases hphase with
  | @pending flags written pool hflags houtcome hpool hremoval =>
      cases flags with
      | nil =>
          obtain ⟨hcall, hrest⟩ := List.cons.inj hleft
          subst hcall
          subst hrest
          exact Or.inr (Or.inl ⟨written, pool, rfl, rfl, hpool, hremoval,
            .half houtcome hpool hremoval⟩)
      | cons flag flags =>
          obtain ⟨hcall, hrest⟩ := List.cons.inj hleft
          subst hcall
          subst hrest
          rw [List.forall_mem_cons] at hflags
          exact Or.inl ⟨hflags.1, .pending hflags.2 houtcome hpool hremoval⟩
  | half houtcome hpool hremoval =>
      obtain ⟨hcall, hrest⟩ := List.cons.inj hleft
      subst hcall
      subst hrest
      have hsettled : status = settledStatus action origin := by
        simp [settledStatus, houtcome]
      refine Or.inr (Or.inr ⟨hpool, rfl, hremoval, ?_⟩)
      rw [hsettled]
      exact .settled (by simp)
  | settled hflags =>
      rw [← hleft, List.forall_mem_cons] at hflags
      exact Or.inl ⟨hflags.1, .settled hflags.2⟩

/-! ## Views -/

section Views

variable {origin : DriverEntity} {actions : Bool → DriverAction}

/-- How far the ping (`false`) and the status change (`true`) have got. -/
structure Pinging (d : String) (lat lng : Num) (action : DriverAction)
    (origin : DriverEntity) (view : RaceView Bool) (driver : DriverEntity) :
    Prop where
  row : view.state.row = some driver
  phase : Phase d action origin (view.left true) driver.status
  unchanged : view.unread true →
    driver.status = origin.status ∧ driver.hasPhoto = origin.hasPhoto
  pinged : .update d { lat := some lat, lng := some lng } ∈ view.left false ∨
    (driver.lat = some lat ∧ driver.lng = some lng)
  reported : .geoadd lng lat d ∈ view.left false →
    Unwritten d action origin (view.left true) → origin.status = .available

theorem mem_writes_ping {driver : DriverEntity} {call : DriverCall} :
    call ∈ (DriverAction.ping lat lng).writes d driver ↔
      (call = .geoadd lng lat d ∧ driver.status = .available) ∨
        call = .update d { lat := some lat, lng := some lng } := by
  by_cases havailable : driver.status = .available <;>
    simp [DriverAction.writes, havailable]

theorem Pinging.quiet {thread : Bool} {before after : RaceView Bool}
    {driver : DriverEntity} (hquiet : Quiet actions d thread before after)
    (hpinging : Pinging d lat lng action origin before driver) :
    Pinging d lat lng action origin after driver where
  row := by rw [hquiet.state, hpinging.row]
  phase := by
    rw [hquiet.left]
    exact hpinging.phase
  unchanged hunread := hpinging.unchanged ((hquiet.unread true).mp hunread).1
  pinged := by
    rw [hquiet.left]
    exact hpinging.pinged
  reported := by
    rw [hquiet.left, hquiet.left]
    exact hpinging.reported

section Writes

variable {call : DriverCall} {before after : RaceView Bool}
  {driver : DriverEntity}

/-- The status change's calls, as the ping's write leaves them. -/
theorem left_true_of_ping (hactions : actions true = action)
    (hwriting : Writing actions d false call before after)
    (hmakes : (actions false).Makes d call)
    (hpinging : Pinging d lat lng action origin before driver) :
    (¬ before.unread true ∧ after.left true = before.left true) ∨
      (before.unread true ∧
        before.left true = action.writes d driver ∧
        after.left true = action.writes d (call.patched driver)) := by
  by_cases hunread : before.unread true
  · right
    obtain ⟨hbefore, hafter⟩ := hwriting.unread_left true hunread
    have hrow := hwriting.row_after hmakes hpinging.row
    refine ⟨hunread, ?_, ?_⟩
    · simp [hbefore, DriverAction.writesFrom, hpinging.row, hactions]
    · simp [hafter, DriverAction.writesFrom, hrow, hactions]
  · exact Or.inl ⟨hunread, hwriting.read_left true (by simp) hunread⟩

theorem patched_of_ping (driver : DriverEntity)
    (hcall : call = .geoadd lng lat d ∨
      call = .update d { lat := some lat, lng := some lng }) :
    (call.patched driver).status = driver.status ∧
      (call.patched driver).hasPhoto = driver.hasPhoto := by
  rcases hcall with rfl | rfl <;> exact ⟨rfl, rfl⟩

/-- Whether the status is written yet does not change with the ping. -/
theorem unwritten_of_ping (haction : ChangesStatus action)
    (hactions : actions true = action)
    (hwriting : Writing actions d false call before after)
    (hmakes : (actions false).Makes d call)
    (hcall : call = .geoadd lng lat d ∨
      call = .update d { lat := some lat, lng := some lng })
    (hpinging : Pinging d lat lng action origin before driver)
    (hunwritten : Unwritten d action origin (after.left true)) :
    Unwritten d action origin (before.left true) := by
  rcases left_true_of_ping hactions hwriting hmakes hpinging with
    ⟨-, hsame⟩ | ⟨-, hbefore, hafter⟩
  · rwa [hsame] at hunwritten
  · rcases hunwritten with ⟨status, hmem⟩ | hnone
    · left
      obtain ⟨hstatus, hphoto⟩ := patched_of_ping driver hcall
      rw [hafter, writes_eq_outcome haction, outcome_congr hstatus hphoto]
        at hmem
      rw [hbefore, writes_eq_outcome haction]
      refine ⟨status, ?_⟩
      rcases List.mem_append.mp hmem with hflag | hstatus
      · exact List.mem_append_left _ hflag
      · apply List.mem_append_right
        cases houtcome : outcome action driver with
        | none => simp [houtcome] at hstatus
        | some written =>
            rw [houtcome] at hstatus
            simp only [statusWrites, List.mem_cons] at hstatus ⊢
            rcases hstatus with heq | hpool | hnil
            · exact Or.inl heq
            · have hkind := (poolCall_isPoolWrite d written
                (call.patched driver).lat (call.patched driver).lng).1
              exact (hkind.ne_update hpool.symm).elim
            · cases hnil
    · exact Or.inr hnone

theorem Pinging.ping_writes (haction : ChangesStatus action)
    (hactions : actions true = action)
    (hping : actions false = .ping lat lng)
    (hwriting : Writing actions d false call before after)
    (hmakes : (actions false).Makes d call)
    (hpinging : Pinging d lat lng action origin before driver) :
    Pinging d lat lng action origin after (call.patched driver) := by
  have hcall : call = .geoadd lng lat d ∨
      call = .update d { lat := some lat, lng := some lng } := by
    rw [hping] at hmakes
    exact makes_ping hmakes
  obtain ⟨hstatus, hphoto⟩ := patched_of_ping driver hcall
  have hleft := left_true_of_ping hactions hwriting hmakes hpinging
  have hunread := hwriting.unread true
  refine ⟨hwriting.row_after hmakes hpinging.row, ?_, ?_, ?_, ?_⟩
  · rw [hstatus]
    rcases hleft with ⟨-, hsame⟩ | ⟨hstill, -, hafter⟩
    · rw [hsame]
      exact hpinging.phase
    · obtain ⟨hsame, hflag⟩ := hpinging.unchanged hstill
      rw [hafter, ← hstatus]
      exact phase_of_unread haction (hstatus.trans hsame)
        (hphoto.trans hflag)
  · intro hafter
    rw [hstatus, hphoto]
    exact hpinging.unchanged (hunread.mp hafter)
  · rcases hcall with hgeoadd | hupdate
    · rw [hgeoadd]
      rcases hpinging.pinged with hmem | hdone
      · left
        exact hwriting.mem_after hwriting.ready hmem (by simp [hgeoadd])
      · exact Or.inr hdone
    · right
      simp [hupdate, DriverCall.patched, DriverPatch.apply]
  · intro hmem hunwritten
    apply hpinging.reported
    · rw [hwriting.left]
      exact List.mem_cons_of_mem _ hmem
    · exact unwritten_of_ping haction hactions hwriting hmakes hcall hpinging
        hunwritten

/-- The ping's calls, as a write of the status change leaves them. -/
theorem left_false_of_status (hping : actions false = .ping lat lng)
    (hwriting : Writing actions d true call before after)
    (hmakes : (actions true).Makes d call)
    (hpinging : Pinging d lat lng action origin before driver) :
    (¬ before.unread false ∧ after.left false = before.left false) ∨
      (before.unread false ∧
        before.left false = (DriverAction.ping lat lng).writes d driver ∧
        after.left false =
          (DriverAction.ping lat lng).writes d (call.patched driver)) := by
  by_cases hunread : before.unread false
  · right
    obtain ⟨hbefore, hafter⟩ := hwriting.unread_left false hunread
    have hrow := hwriting.row_after hmakes hpinging.row
    refine ⟨hunread, ?_, ?_⟩
    · simp [hbefore, DriverAction.writesFrom, hpinging.row, hping]
    · simp [hafter, DriverAction.writesFrom, hrow, hping]
  · exact Or.inl ⟨hunread, hwriting.read_left false (by simp) hunread⟩

/-- What a write of the status change does to the row. -/
theorem Pinging.patched_of_status
    (hwriting : Writing actions d true call before after)
    (hpinging : Pinging d lat lng action origin before driver) :
    ((call.patched driver).lat = driver.lat ∧
        (call.patched driver).lng = driver.lng) ∧
      Phase d action origin (after.left true) (call.patched driver).status := by
  have hphase := hpinging.phase
  rw [hwriting.left] at hphase
  rcases hphase.step with ⟨⟨hasPhoto, hcall⟩, hrest⟩ |
    ⟨written, pool, hcall, -, -, -, hrest⟩ | ⟨hpool, -, -, hrest⟩
  · subst hcall
    exact ⟨⟨rfl, rfl⟩, hrest⟩
  · subst hcall
    exact ⟨⟨rfl, rfl⟩, hrest⟩
  · rw [hpool.patched]
    exact ⟨⟨rfl, rfl⟩, hrest⟩

theorem Pinging.status_writes (hping : actions false = .ping lat lng)
    (hwriting : Writing actions d true call before after)
    (hmakes : (actions true).Makes d call)
    (hpinging : Pinging d lat lng action origin before driver) :
    Pinging d lat lng action origin after (call.patched driver) := by
  obtain ⟨hposition, hphase⟩ := hpinging.patched_of_status hwriting
  have hleft := left_false_of_status hping hwriting hmakes hpinging
  refine ⟨hwriting.row_after hmakes hpinging.row, hphase, ?_, ?_, ?_⟩
  · intro hafter
    exact (hwriting.ready ((hwriting.unread true).mp hafter)).elim
  · rw [hposition.1, hposition.2]
    rcases hleft with ⟨-, hsame⟩ | ⟨-, -, hafter⟩
    · rw [hsame]
      exact hpinging.pinged
    · left
      rw [hafter, mem_writes_ping]
      exact Or.inr rfl
  · intro hmem hunwritten
    rcases hleft with ⟨-, hsame⟩ | ⟨-, -, hafter⟩
    · rw [hsame] at hmem
      apply hpinging.reported hmem
      rcases hunwritten with ⟨status, hstatus⟩ | hnone
      · left
        refine ⟨status, ?_⟩
        rw [hwriting.left]
        exact List.mem_cons_of_mem _ hstatus
      · exact Or.inr hnone
    · have hstatus := hphase.status_of_unwritten hunwritten
      rw [hafter, mem_writes_ping] at hmem
      rcases hmem with ⟨-, havailable⟩ | hupdate
      · rw [← hstatus]
        exact havailable
      · cases hupdate

/-- Redis holds, or is still to get, what the row asks for. -/
def Serializing (d : String) (lat lng : Num) (action : DriverAction)
    (origin : DriverEntity) (view : RaceView Bool) : Prop :=
  ∃ driver, Pinging d lat lng action origin view driver ∧
    (driver.status ≠ .available → view.state.entry = none ∨
      (¬ view.unread true ∧ .zrem d ∈ view.left true)) ∧
    (driver.status = .available → view.state.entry = some ⟨lng, lat⟩ ∨
      .geoadd lng lat d ∈ view.left false ∨
        ∃ pool ∈ view.left true, IsPoolWrite d pool)

/-- Redis holds what the row does not ask for, and nobody will correct it. -/
def Skewed (d : String) (lat lng : Num) (action : DriverAction)
    (origin : DriverEntity) (view : RaceView Bool) : Prop :=
  ∃ driver, Pinging d lat lng action origin view driver ∧
    ¬ view.unread true ∧ (∀ call ∈ view.left true, IsFlagWrite d call) ∧
    ((driver.status ≠ .available ∧ view.state.entry ≠ none) ∨
      (driver.status = .available ∧ view.state.entry ≠ some ⟨lng, lat⟩ ∧
        ¬ view.unread false ∧ .geoadd lng lat d ∉ view.left false))

theorem unwritten_of_unread (haction : ChangesStatus action)
    (driver : DriverEntity) (horigin : outcome action driver =
      outcome action origin) :
    Unwritten d action origin (action.writes d driver) := by
  rw [writes_eq_outcome haction, horigin]
  cases houtcome : outcome action origin with
  | none => exact Or.inr houtcome
  | some status => exact Or.inl ⟨status, by simp [statusWrites]⟩

theorem pool_mem_writes_iff (haction : ChangesStatus action)
    (driver : DriverEntity) :
    (∃ pool ∈ action.writes d driver, IsPoolWrite d pool) ↔
      outcome action driver ≠ none := by
  rw [writes_eq_outcome haction]
  cases houtcome : outcome action driver with
  | none =>
      simp only [List.append_nil, ne_eq, not_true, iff_false]
      rintro ⟨pool, hmem, hpool⟩
      obtain ⟨hasPhoto, hflag⟩ := flagWrites_isFlagWrite d action pool hmem
      exact hpool.ne_update hflag
  | some status =>
      refine iff_of_true ⟨poolCall d status driver.lat driver.lng, ?_,
        (poolCall_isPoolWrite d status driver.lat driver.lng).1⟩ (by simp)
      simp [statusWrites]

/-- A position reported to a row that is not AVAILABLE was read before the
status was written. -/
theorem Pinging.read_of_report (haction : ChangesStatus action)
    (hactions : actions true = action)
    (hwriting : Writing actions d false (.geoadd lng lat d) before after)
    (hpinging : Pinging d lat lng action origin before driver)
    (hstatus : driver.status ≠ .available) :
    ¬ before.unread true ∧
      ¬ Unwritten d action origin (before.left true) := by
  have hnot : ¬ Unwritten d action origin (before.left true) := by
    intro hunwritten
    have hsame := hpinging.phase.status_of_unwritten hunwritten
    exact hstatus (hsame.trans
      (hpinging.reported hwriting.mem_left hunwritten))
  refine ⟨?_, hnot⟩
  intro hunread
  apply hnot
  obtain ⟨hbefore, -⟩ := hwriting.unread_left true hunread
  obtain ⟨hsame, hphoto⟩ := hpinging.unchanged hunread
  rw [hbefore, hactions]
  simp only [DriverAction.writesFrom, hpinging.row]
  exact unwritten_of_unread haction driver (outcome_congr hsame hphoto)

theorem Serializing.report (haction : ChangesStatus action)
    (hactions : actions true = action) (hping : actions false = .ping lat lng)
    (hwriting : Writing actions d false (.geoadd lng lat d) before after)
    (hpinging : Pinging d lat lng action origin before driver)
    (hguard : driver.status = .available ∨ .zrem d ∈ before.left true) :
    Serializing d lat lng action origin after := by
  have hmakes : (actions false).Makes d (.geoadd lng lat d) := by
    rw [hping]
    exact ⟨{ driver with status := .available },
      mem_writes_ping.mpr (Or.inl ⟨rfl, rfl⟩)⟩
  refine ⟨_, hpinging.ping_writes haction hactions hping hwriting hmakes,
    ?_, ?_⟩
  · intro hstatus
    obtain ⟨hread, -⟩ :=
      hpinging.read_of_report haction hactions hwriting hstatus
    right
    refine ⟨mt (hwriting.unread true).mp hread, ?_⟩
    rw [hwriting.read_left true (by simp) hread]
    exact hguard.resolve_left hstatus
  · intro _
    left
    simp [hwriting.state, DriverCall.act]

theorem Serializing.ping_row (haction : ChangesStatus action)
    (hactions : actions true = action) (hping : actions false = .ping lat lng)
    (hwriting : Writing actions d false
      (.update d { lat := some lat, lng := some lng }) before after)
    (hserial : Serializing d lat lng action origin before) :
    Serializing d lat lng action origin after := by
  obtain ⟨driver, hpinging, hother, havailable⟩ := hserial
  have hmakes : (actions false).Makes d
      (.update d { lat := some lat, lng := some lng }) := by
    rw [hping]
    exact ⟨driver, mem_writes_ping.mpr (Or.inr rfl)⟩
  have hentry : after.state.entry = before.state.entry := by
    simp [hwriting.state, DriverCall.act, DriverState.updateRow]
  have hleft := left_true_of_ping hactions hwriting hmakes hpinging
  refine ⟨_, hpinging.ping_writes haction hactions hping hwriting hmakes,
    ?_, ?_⟩
  · intro hstatus
    rw [hentry]
    rcases hother hstatus with hnone | ⟨hread, hzrem⟩
    · exact Or.inl hnone
    · right
      refine ⟨mt (hwriting.unread true).mp hread, ?_⟩
      rwa [hwriting.read_left true (by simp) hread]
  · intro hstatus
    rw [hentry]
    rcases havailable hstatus with hnew | hreport | hpool
    · exact Or.inl hnew
    · right
      left
      exact hwriting.mem_after hwriting.ready hreport (by simp)
    · right
      right
      rcases hleft with ⟨-, hsame⟩ | ⟨-, hbefore, hafter⟩
      · rwa [hsame]
      · rw [hbefore, pool_mem_writes_iff haction] at hpool
        rw [hafter, pool_mem_writes_iff haction]
        have hsame : outcome action (DriverCall.patched
            (.update d { lat := some lat, lng := some lng }) driver) =
              outcome action driver := outcome_congr rfl rfl
        rwa [hsame]

/-- Whether the ping is going to report is settled by its lookup, or by the
row as it is. -/
theorem report_stays (hping : actions false = .ping lat lng)
    (hwriting : Writing actions d true call before after)
    (hmakes : (actions true).Makes d call)
    (hpinging : Pinging d lat lng action origin before driver)
    (hstatus : (call.patched driver).status = driver.status) :
    .geoadd lng lat d ∈ after.left false ↔
      .geoadd lng lat d ∈ before.left false := by
  rcases left_false_of_status hping hwriting hmakes hpinging with
    ⟨-, hsame⟩ | ⟨-, hbefore, hafter⟩
  · rw [hsame]
  · rw [hbefore, hafter, mem_writes_ping, mem_writes_ping, hstatus]

theorem Serializing.status_writes (hping : actions false = .ping lat lng)
    (hwriting : Writing actions d true call before after)
    (hmakes : (actions true).Makes d call)
    (hguard : ∀ driver, before.state.row = some driver → IsPoolWrite d call →
      driver.status = .available →
      call = .geoadd lng lat d ∨ .geoadd lng lat d ∈ before.left false)
    (hserial : Serializing d lat lng action origin before) :
    Serializing d lat lng action origin after := by
  obtain ⟨driver, hpinging, hother, havailable⟩ := hserial
  have hpinging' := hpinging.status_writes hping hwriting hmakes
  have hread := mt (hwriting.unread true).mp hwriting.ready
  have hphase := hpinging.phase
  rw [hwriting.left] at hphase
  rcases hphase.step with ⟨⟨hasPhoto, hcall⟩, -⟩ |
    ⟨written, pool, hcall, hrest, hpool, hremoval, -⟩ |
    ⟨hpool, hrest, hremoval, -⟩
  · have hentry : after.state.entry = before.state.entry := by
      simp [hwriting.state, hcall, DriverCall.act, DriverState.updateRow]
    have hsame : (call.patched driver).status = driver.status := by
      rw [hcall]
      rfl
    refine ⟨_, hpinging', ?_, ?_⟩
    · intro hstatus
      rw [hentry]
      rw [hsame] at hstatus
      rcases hother hstatus with hnone | ⟨-, hzrem⟩
      · exact Or.inl hnone
      · exact Or.inr ⟨hread,
          hwriting.mem_after hwriting.ready hzrem (by simp [hcall])⟩
    · intro hstatus
      rw [hentry, report_stays hping hwriting hmakes hpinging hsame]
      rw [hsame] at hstatus
      rcases havailable hstatus with hnew | hreport | ⟨pool, hmem, hpool⟩
      · exact Or.inl hnew
      · exact Or.inr (Or.inl hreport)
      · right
        right
        refine ⟨pool, hwriting.mem_after hwriting.ready hmem ?_, hpool⟩
        rw [hcall]
        exact hpool.ne_update
  · refine ⟨_, hpinging', ?_, ?_⟩
    · intro hstatus
      right
      refine ⟨hread, ?_⟩
      rw [hcall] at hstatus
      rw [hrest, hremoval hstatus]
      exact List.mem_singleton.mpr rfl
    · intro _
      right
      right
      exact ⟨pool, by simp [hrest], hpool⟩
  · have hsame : (call.patched driver).status = driver.status := by
      rw [hpool.patched]
    refine ⟨_, hpinging', ?_, ?_⟩
    · intro hstatus
      rw [hsame] at hstatus
      left
      simp [hwriting.state, hremoval hstatus, DriverCall.act]
    · intro hstatus
      rw [hsame] at hstatus
      rcases hguard driver hpinging.row hpool hstatus with hnew | hreport
      · left
        simp [hwriting.state, hnew, DriverCall.act]
      · right
        left
        rwa [report_stays hping hwriting hmakes hpinging hsame]

theorem skewed_of_report (haction : ChangesStatus action)
    (hactions : actions true = action) (hping : actions false = .ping lat lng)
    (hwriting : Writing actions d false (.geoadd lng lat d) before after)
    (hpinging : Pinging d lat lng action origin before driver)
    (hstatus : driver.status ≠ .available)
    (hzrem : .zrem d ∉ before.left true) :
    Skewed d lat lng action origin after := by
  have hmakes : (actions false).Makes d (.geoadd lng lat d) := by
    rw [hping]
    exact ⟨{ driver with status := .available },
      mem_writes_ping.mpr (Or.inl ⟨rfl, rfl⟩)⟩
  obtain ⟨hread, hwritten⟩ :=
    hpinging.read_of_report haction hactions hwriting hstatus
  refine ⟨_, hpinging.ping_writes haction hactions hping hwriting hmakes,
    mt (hwriting.unread true).mp hread, ?_, Or.inl ⟨hstatus, ?_⟩⟩
  · rw [hwriting.read_left true (by simp) hread]
    have hphase := hpinging.phase
    generalize before.left true = left at hphase hzrem hwritten
    generalize hsame : driver.status = status at hphase
    cases hphase with
    | @pending flags written pool hflags houtcome hpool hremoval =>
        exact (hwritten (Or.inl ⟨written, by simp⟩)).elim
    | half houtcome hpool hremoval =>
        rw [← hsame] at hremoval
        rw [hremoval hstatus] at hzrem
        simp at hzrem
    | settled hflags => exact hflags
  · simp [hwriting.state, DriverCall.act]

theorem skewed_of_pool (hping : actions false = .ping lat lng)
    (hwriting : Writing actions d true call before after)
    (hmakes : (actions true).Makes d call)
    (hpinging : Pinging d lat lng action origin before driver)
    (hpool : IsPoolWrite d call) (hstatus : driver.status = .available)
    (hne : call ≠ .geoadd lng lat d)
    (hreport : .geoadd lng lat d ∉ before.left false) :
    Skewed d lat lng action origin after := by
  have hphase := hpinging.phase
  rw [hwriting.left] at hphase
  have hsame : (call.patched driver).status = driver.status := by
    rw [hpool.patched]
  have hrest : after.left true = [] := by
    rcases hphase.step with ⟨⟨_, hflag⟩, -⟩ | ⟨_, _, hupdate, -⟩ | ⟨-, hrest, -⟩
    · exact (hpool.ne_update hflag).elim
    · exact (hpool.ne_update hupdate).elim
    · exact hrest
  have hread : ¬ before.unread false := by
    intro hunread
    apply hreport
    rw [(hwriting.unread_left false hunread).1, hping]
    simp only [DriverAction.writesFrom, hpinging.row]
    exact mem_writes_ping.mpr (Or.inl ⟨rfl, hstatus⟩)
  refine ⟨_, hpinging.status_writes hping hwriting hmakes,
    mt (hwriting.unread true).mp hwriting.ready, by simp [hrest],
    Or.inr ⟨hsame.trans hstatus, ?_, mt (hwriting.unread false).mp hread,
      ?_⟩⟩
  · rw [hwriting.state]
    rcases hpool with hzrem | ⟨lng', lat', hgeoadd⟩
    · simp [hzrem, DriverCall.act]
    · simp only [hgeoadd, DriverCall.act, if_true, ne_eq, Option.some.injEq,
        Position.mk.injEq]
      rintro ⟨hlng, hlat⟩
      apply hne
      rw [hgeoadd, hlng, hlat]
  · rwa [report_stays hping hwriting hmakes hpinging hsame]

theorem Skewed.ping_writes (haction : ChangesStatus action)
    (hactions : actions true = action) (hping : actions false = .ping lat lng)
    (hwriting : Writing actions d false call before after)
    (hmakes : (actions false).Makes d call)
    (hskewed : Skewed d lat lng action origin before) :
    Skewed d lat lng action origin after := by
  obtain ⟨driver, hpinging, hread, hflags, hcases⟩ := hskewed
  refine ⟨_, hpinging.ping_writes haction hactions hping hwriting hmakes,
    mt (hwriting.unread true).mp hread, ?_, ?_⟩
  · rw [hwriting.read_left true (by simp) hread]
    exact hflags
  rw [hping] at hmakes
  rcases makes_ping hmakes with hgeoadd | hupdate
  · rcases hcases with ⟨hstatus, -⟩ | ⟨-, -, -, hreport⟩
    · left
      rw [hgeoadd, hwriting.state]
      exact ⟨hstatus, by simp [hgeoadd, DriverCall.act]⟩
    · rw [hgeoadd] at hwriting
      exact (hreport hwriting.mem_left).elim
  · have hentry : after.state.entry = before.state.entry := by
      simp [hwriting.state, hupdate, DriverCall.act, DriverState.updateRow]
    rw [hupdate, hentry]
    rcases hcases with hother | ⟨hstatus, hne, hdone, hreport⟩
    · exact Or.inl hother
    · refine Or.inr ⟨hstatus, hne, mt (hwriting.unread false).mp hdone, ?_⟩
      intro hafter
      apply hreport
      rw [hwriting.left]
      exact List.mem_cons_of_mem _ hafter

theorem Skewed.status_writes (hping : actions false = .ping lat lng)
    (hwriting : Writing actions d true call before after)
    (hmakes : (actions true).Makes d call)
    (hskewed : Skewed d lat lng action origin before) :
    Skewed d lat lng action origin after := by
  obtain ⟨driver, hpinging, hread, hflags, hcases⟩ := hskewed
  obtain ⟨hasPhoto, hcall⟩ := hflags call hwriting.mem_left
  have hsame : (call.patched driver).status = driver.status := by
    rw [hcall]
    rfl
  have hentry : after.state.entry = before.state.entry := by
    simp [hwriting.state, hcall, DriverCall.act, DriverState.updateRow]
  refine ⟨_, hpinging.status_writes hping hwriting hmakes,
    mt (hwriting.unread true).mp hread, ?_, ?_⟩
  · intro write hwrite
    apply hflags write
    rw [hwriting.left]
    exact List.mem_cons_of_mem _ hwrite
  · rw [hentry, hsame, report_stays hping hwriting hmakes hpinging hsame]
    rcases hcases with hother | ⟨hstatus, hne, hdone, hreport⟩
    · exact Or.inl hother
    · exact Or.inr ⟨hstatus, hne, mt (hwriting.unread false).mp hdone,
        hreport⟩

end Writes

theorem Serializing.quiet {thread : Bool} {before after : RaceView Bool}
    (hquiet : Quiet actions d thread before after)
    (hserial : Serializing d lat lng action origin before) :
    Serializing d lat lng action origin after := by
  obtain ⟨driver, hpinging, hother, havailable⟩ := hserial
  refine ⟨driver, hpinging.quiet hquiet, ?_, ?_⟩
  · rw [hquiet.state, hquiet.left]
    intro hstatus
    rcases hother hstatus with hnone | ⟨hread, hzrem⟩
    · exact Or.inl hnone
    · exact Or.inr ⟨fun h => hread ((hquiet.unread true).mp h).1, hzrem⟩
  · rw [hquiet.state, hquiet.left, hquiet.left]
    exact havailable

theorem Skewed.quiet {thread : Bool} {before after : RaceView Bool}
    (hquiet : Quiet actions d thread before after)
    (hskewed : Skewed d lat lng action origin before) :
    Skewed d lat lng action origin after := by
  obtain ⟨driver, hpinging, hread, hflags, hcases⟩ := hskewed
  refine ⟨driver, hpinging.quiet hquiet,
    fun h => hread ((hquiet.unread true).mp h).1, ?_, ?_⟩
  · rw [hquiet.left]
    exact hflags
  · rw [hquiet.state, hquiet.left]
    rcases hcases with hother | ⟨hstatus, hne, hdone, hreport⟩
    · exact Or.inl hother
    · exact Or.inr ⟨hstatus, hne,
        fun h => hdone ((hquiet.unread false).mp h).1, hreport⟩

end Views

end FakeBolt.Driver
