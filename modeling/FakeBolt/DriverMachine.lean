import FakeBolt.AvailablePool
import FakeBolt.KafkaMessages
import FakeBolt.DriverService

/-!
# One driver as a state machine

A driver is a row and an entry in the pool.  Every operation of the system
acts on at most one driver, and what it does to that driver depends on that
driver alone; `DriverRequests` proves this of the programs.  Here the machine
is studied by itself: which states are consistent, and how an available
driver can be missing from the pool.
-/

namespace FakeBolt.Driver

structure DriverState where
  row : Option DriverEntity
  entry : Option Position
  deriving DecidableEq, Repr

inductive DriverAction where
  | create (driver : DriverEntity)
  | changeStatus (status : DriverStatus)
  | ping (lat lng : Num)
  | syncPhoto (hasPhoto : Bool)
  | assign
  | release
  | claim
  deriving DecidableEq, Repr

/-- The entry a status change leaves: a position for an available driver
whose position is known. -/
def entryFor (status : DriverStatus) (lat lng : Option Num) :
    Option Position :=
  match status, lat, lng with
  | .available, some lat, some lng => some ⟨lng, lat⟩
  | _, _, _ => none

/-- Why a driver's own request for a status is refused, if it is. -/
def statusRefusal (driver : DriverEntity) (status : DriverStatus) :
    Option JsError :=
  if status = .busy then
    some (.http .unprocessableEntity
      "Busy is set automatically when a ride is assigned")
  else if driver.status = .busy then
    some (.http .conflict "Finish the current ride before changing status")
  else if status = .available ∧ driver.hasPhoto = false then
    some (.http .unprocessableEntity
      "Upload a profile photo before going online")
  else none

theorem statusRefusal_eq_none_iff {driver : DriverEntity}
    {status : DriverStatus} :
    statusRefusal driver status = none ↔
      status ≠ .busy ∧ driver.status ≠ .busy ∧
        (status = .available → driver.hasPhoto = true) := by
  unfold statusRefusal
  split_ifs with hbusy hrow hphoto
  · simp [hbusy]
  · simp [hrow]
  · simp [hphoto]
  · simp only [true_iff]
    exact ⟨hbusy, hrow, by simpa using hphoto⟩

def releasedStatus (driver : DriverEntity) : DriverStatus :=
  if driver.hasPhoto then .available else .offline

namespace DriverState

def withStatus (driver : DriverEntity) (status : DriverStatus) : DriverState where
  row := some { driver with status := status }
  entry := entryFor status driver.lat driver.lng

def apply (state : DriverState) : DriverAction → DriverState
  | .create driver =>
      match state.row with
      | none => { state with row := some driver }
      | some _ => state
  | .changeStatus status =>
      match state.row with
      | none => state
      | some driver =>
          match statusRefusal driver status with
          | none => withStatus driver status
          | some _ => state
  | .ping lat lng =>
      match state.row with
      | none => state
      | some driver =>
          { row := some { driver with lat := some lat, lng := some lng }
            entry :=
              if driver.status = .available then some ⟨lng, lat⟩
              else state.entry }
  | .syncPhoto hasPhoto =>
      match state.row with
      | none => state
      | some driver =>
          if hasPhoto = false ∧ driver.status = .available then
            withStatus { driver with hasPhoto := hasPhoto } .offline
          else { state with row := some { driver with hasPhoto := hasPhoto } }
  | .assign =>
      match state.row with
      | none => state
      | some driver =>
          if driver.status = .busy then state else withStatus driver .busy
  | .release =>
      match state.row with
      | none => state
      | some driver =>
          if driver.status = .busy then
            withStatus driver (releasedStatus driver)
          else state
  | .claim => { state with entry := none }

/-- A pool entry is that of an available driver with a photo, at the position
of the row; an available driver has a photo. -/
structure Consistent (state : DriverState) : Prop where
  pooled : ∀ position, state.entry = some position →
    ∃ driver, state.row = some driver ∧ driver.status = .available ∧
      driver.hasPhoto = true ∧ driver.lat = some position.latitude ∧
        driver.lng = some position.longitude
  online : ∀ driver, state.row = some driver →
    driver.status = .available → driver.hasPhoto = true

/-- An available driver with a known position who is not in the pool. -/
def Missing (state : DriverState) : Prop :=
  state.entry = none ∧ ∃ driver, state.row = some driver ∧
    driver.status = .available ∧ driver.lat.isSome ∧ driver.lng.isSome

theorem entryFor_eq_some_iff {status : DriverStatus} {lat lng : Option Num}
    {position : Position} :
    entryFor status lat lng = some position ↔
      status = .available ∧ lat = some position.latitude ∧
        lng = some position.longitude := by
  cases status <;> cases lat <;> cases lng <;>
    simp [entryFor, Position.ext_iff, and_comm]

theorem withStatus_consistent {driver : DriverEntity} {status : DriverStatus}
    (hphoto : status = .available → driver.hasPhoto = true) :
    Consistent (withStatus driver status) := by
  constructor
  · intro position hentry
    obtain ⟨hstatus, hlat, hlng⟩ := entryFor_eq_some_iff.mp hentry
    exact ⟨_, rfl, hstatus, hphoto hstatus, hlat, hlng⟩
  · intro changed hrow hstatus
    cases hrow
    exact hphoto hstatus

theorem Consistent.apply_create {state : DriverState}
    (hgood : state.Consistent) {created : DriverEntity}
    (hoffline : created.status = .offline) :
    (state.apply (.create created)).Consistent := by
  obtain ⟨row, entry⟩ := state
  cases row with
  | some driver => exact hgood
  | none =>
      have hentry : entry = none := by
        cases entry with
        | none => rfl
        | some position =>
            obtain ⟨driver, hrow, -⟩ := hgood.pooled position rfl
            cases hrow
      subst entry
      constructor
      · intro position hsome
        cases hsome
      · intro driver hrow hstatus
        cases hrow
        rw [hoffline] at hstatus
        cases hstatus

theorem Consistent.apply_ping {state : DriverState} (hgood : state.Consistent)
    (lat lng : Num) : (state.apply (.ping lat lng)).Consistent := by
  obtain ⟨row, entry⟩ := state
  cases row with
  | none => exact hgood
  | some driver =>
      constructor
      · intro position hentry
        simp only [DriverState.apply] at hentry ⊢
        split at hentry
        · rename_i hstatus
          cases hentry
          exact ⟨_, rfl, hstatus, hgood.online driver rfl hstatus, rfl, rfl⟩
        · rename_i hstatus
          obtain ⟨pooled, hrow, havailable, -⟩ := hgood.pooled position hentry
          cases hrow
          exact (hstatus havailable).elim
      · intro pinged hrow hstatus
        cases hrow
        exact hgood.online driver rfl hstatus

theorem Consistent.apply_syncPhoto {state : DriverState}
    (hgood : state.Consistent) (hasPhoto : Bool) :
    (state.apply (.syncPhoto hasPhoto)).Consistent := by
  obtain ⟨row, entry⟩ := state
  cases row with
  | none => exact hgood
  | some driver =>
      simp only [DriverState.apply]
      split
      · exact withStatus_consistent (by simp)
      · rename_i hkeep
        have hphoto : driver.status = .available → hasPhoto = true := by
          intro hstatus
          by_contra hfalse
          exact hkeep ⟨by simpa using hfalse, hstatus⟩
        constructor
        · intro position hentry
          obtain ⟨pooled, hrow, hstatus, -, hlat, hlng⟩ :=
            hgood.pooled position hentry
          cases hrow
          exact ⟨_, rfl, hstatus, hphoto hstatus, hlat, hlng⟩
        · intro synced hrow hstatus
          cases hrow
          exact hphoto hstatus

theorem Consistent.apply {state : DriverState} (hgood : state.Consistent)
    {action : DriverAction}
    (hcreate : ∀ driver, action = .create driver →
      driver.status = .offline) :
    (state.apply action).Consistent := by
  cases action with
  | create created => exact hgood.apply_create (hcreate created rfl)
  | ping lat lng => exact hgood.apply_ping lat lng
  | syncPhoto hasPhoto => exact hgood.apply_syncPhoto hasPhoto
  | claim =>
      constructor
      · intro position hentry
        cases hentry
      · exact hgood.online
  | changeStatus status =>
      simp only [DriverState.apply]
      split
      · exact hgood
      · split
        · rename_i haccepted
          exact withStatus_consistent
            (statusRefusal_eq_none_iff.mp haccepted).2.2
        · exact hgood
  | assign =>
      simp only [DriverState.apply]
      split
      · exact hgood
      · split
        · exact hgood
        · exact withStatus_consistent (by simp)
  | release =>
      simp only [DriverState.apply]
      split
      · exact hgood
      · rename_i driver hrow
        split
        · apply withStatus_consistent
          intro hstatus
          unfold releasedStatus at hstatus
          split at hstatus
          · assumption
          · cases hstatus
        · exact hgood

theorem not_missing_withStatus (driver : DriverEntity)
    (status : DriverStatus) : ¬ Missing (withStatus driver status) := by
  rintro ⟨hentry, changed, hrow, hstatus, hlat, hlng⟩
  cases hrow
  obtain ⟨lat, hlat⟩ := Option.isSome_iff_exists.mp hlat
  obtain ⟨lng, hlng⟩ := Option.isSome_iff_exists.mp hlng
  simp only at hstatus hlat hlng
  simp [withStatus, entryFor, hstatus, hlat, hlng] at hentry

/-- Apart from claims, nothing makes an available driver go missing from the
pool. -/
theorem Missing.of_apply {state : DriverState} {action : DriverAction}
    (hmissing : (state.apply action).Missing)
    (hcreate : ∀ driver, action = .create driver →
      driver.status = .offline)
    (hclaim : action ≠ .claim) : state.Missing := by
  obtain ⟨row, entry⟩ := state
  cases action with
  | create created =>
      cases row with
      | some driver => exact hmissing
      | none =>
          obtain ⟨-, driver, hrow, hstatus, -⟩ := hmissing
          cases hrow
          rw [hcreate created rfl] at hstatus
          cases hstatus
  | changeStatus status =>
      cases row with
      | none => exact hmissing
      | some driver =>
          simp only [DriverState.apply] at hmissing
          split at hmissing
          · exact (not_missing_withStatus _ _ hmissing).elim
          · exact hmissing
  | ping lat lng =>
      cases row with
      | none => exact hmissing
      | some driver =>
          obtain ⟨hentry, pinged, hrow, hstatus, -⟩ := hmissing
          cases hrow
          simp only at hstatus
          simp [DriverState.apply, hstatus] at hentry
  | syncPhoto hasPhoto =>
      cases row with
      | none => exact hmissing
      | some driver =>
          simp only [DriverState.apply] at hmissing
          split at hmissing
          · exact (not_missing_withStatus _ _ hmissing).elim
          · obtain ⟨hentry, synced, hrow, hknown⟩ := hmissing
            cases hrow
            exact ⟨hentry, driver, rfl, hknown⟩
  | assign =>
      cases row with
      | none => exact hmissing
      | some driver =>
          simp only [DriverState.apply] at hmissing
          split at hmissing
          · exact hmissing
          · exact (not_missing_withStatus _ _ hmissing).elim
  | release =>
      cases row with
      | none => exact hmissing
      | some driver =>
          simp only [DriverState.apply] at hmissing
          split at hmissing
          · exact (not_missing_withStatus _ _ hmissing).elim
          · exact hmissing
  | claim => exact (hclaim rfl).elim

/-! ## Entering the pool, becoming busy -/

def Enters (state : DriverState) : DriverAction → Prop
  | .changeStatus status =>
      ∃ driver, state.row = some driver ∧ statusRefusal driver status = none ∧
        (entryFor status driver.lat driver.lng).isSome
  | .ping _ _ =>
      ∃ driver, state.row = some driver ∧ driver.status = .available
  | .release =>
      ∃ driver, state.row = some driver ∧ driver.status = .busy ∧
        (entryFor (releasedStatus driver) driver.lat driver.lng).isSome
  | _ => False

instance (state : DriverState) (action : DriverAction) :
    Decidable (state.Enters action) :=
  match hrow : state.row, action with
  | none, .changeStatus _ => isFalse (by simp [Enters, hrow])
  | none, .ping _ _ => isFalse (by simp [Enters, hrow])
  | none, .release => isFalse (by simp [Enters, hrow])
  | some driver, .changeStatus status =>
      decidable_of_iff
        (statusRefusal driver status = none ∧
          (entryFor status driver.lat driver.lng).isSome)
        (by simp [Enters, hrow])
  | some driver, .ping _ _ =>
      decidable_of_iff (driver.status = .available) (by simp [Enters, hrow])
  | some driver, .release =>
      decidable_of_iff
        (driver.status = .busy ∧
          (entryFor (releasedStatus driver) driver.lat driver.lng).isSome)
        (by simp [Enters, hrow])
  | _, .create _ => isFalse id
  | _, .syncPhoto _ => isFalse id
  | _, .assign => isFalse id
  | _, .claim => isFalse id

theorem Enters.row_exists {state : DriverState} {action : DriverAction}
    (henters : state.Enters action) : ∃ driver, state.row = some driver := by
  cases action with
  | changeStatus status => exact henters.imp fun _ h => h.1
  | ping lat lng => exact henters.imp fun _ h => h.1
  | release => exact henters.imp fun _ h => h.1
  | create driver => exact henters.elim
  | syncPhoto hasPhoto => exact henters.elim
  | assign => exact henters.elim
  | claim => exact henters.elim

theorem entry_of_apply {state : DriverState} {action : DriverAction}
    (hentry : (state.apply action).entry.isSome) :
    state.entry.isSome ∨ state.Enters action := by
  obtain ⟨row, entry⟩ := state
  cases row with
  | none => cases action <;> simp_all [DriverState.apply]
  | some driver =>
      cases action with
      | create created => exact Or.inl hentry
      | changeStatus status =>
          simp only [DriverState.apply] at hentry
          split at hentry
          · rename_i haccepted
            exact Or.inr ⟨driver, rfl, haccepted, hentry⟩
          · exact Or.inl hentry
      | ping lat lng =>
          simp only [DriverState.apply] at hentry
          split at hentry
          · rename_i hstatus
            exact Or.inr ⟨driver, rfl, hstatus⟩
          · exact Or.inl hentry
      | syncPhoto hasPhoto =>
          simp only [DriverState.apply] at hentry
          split at hentry
          · simp [withStatus, entryFor] at hentry
          · exact Or.inl hentry
      | assign =>
          simp only [DriverState.apply] at hentry
          split at hentry
          · exact Or.inl hentry
          · simp [withStatus, entryFor] at hentry
      | release =>
          simp only [DriverState.apply] at hentry
          split at hentry
          · rename_i hbusy
            exact Or.inr ⟨driver, rfl, hbusy, hentry⟩
          · exact Or.inl hentry
      | claim => simp [DriverState.apply] at hentry

def Busy (state : DriverState) : Prop :=
  ∃ driver, state.row = some driver ∧ driver.status = .busy

theorem not_busy_withStatus {driver : DriverEntity} {status : DriverStatus}
    (hstatus : status ≠ .busy) : ¬ Busy (withStatus driver status) := by
  rintro ⟨changed, hrow, hbusy⟩
  cases hrow
  exact hstatus hbusy

/-- Only an assignment makes a driver busy, and a release ends it. -/
theorem busy_of_apply {state : DriverState} {action : DriverAction}
    (hbusy : (state.apply action).Busy)
    (hcreate : ∀ driver, action = .create driver →
      driver.status = .offline) :
    action = .assign ∨ (state.Busy ∧ action ≠ .release) := by
  obtain ⟨row, entry⟩ := state
  cases action with
  | assign => exact Or.inl rfl
  | create created =>
      right
      cases row with
      | some driver => exact ⟨hbusy, by simp⟩
      | none =>
          obtain ⟨driver, hrow, hstatus⟩ := hbusy
          cases hrow
          rw [hcreate created rfl] at hstatus
          cases hstatus
  | changeStatus status =>
      right
      cases row with
      | none => exact ⟨hbusy, by simp⟩
      | some driver =>
          simp only [DriverState.apply] at hbusy
          split at hbusy
          · rename_i haccepted
            have hstatus := (statusRefusal_eq_none_iff.mp haccepted).1
            exact (not_busy_withStatus hstatus hbusy).elim
          · exact ⟨hbusy, by simp⟩
  | ping lat lng =>
      right
      cases row with
      | none => exact ⟨hbusy, by simp⟩
      | some driver =>
          obtain ⟨pinged, hrow, hstatus⟩ := hbusy
          cases hrow
          exact ⟨⟨driver, rfl, hstatus⟩, by simp⟩
  | syncPhoto hasPhoto =>
      right
      cases row with
      | none => exact ⟨hbusy, by simp⟩
      | some driver =>
          simp only [DriverState.apply] at hbusy
          split at hbusy
          · exact (not_busy_withStatus (by simp) hbusy).elim
          · obtain ⟨synced, hrow, hstatus⟩ := hbusy
            cases hrow
            exact ⟨⟨driver, rfl, hstatus⟩, by simp⟩
  | release =>
      cases row with
      | none =>
          obtain ⟨driver, hrow, -⟩ := hbusy
          cases hrow
      | some driver =>
          simp only [DriverState.apply] at hbusy
          split at hbusy
          · have hreleased : releasedStatus driver ≠ .busy := by
              unfold releasedStatus
              split <;> simp
            exact (not_busy_withStatus hreleased hbusy).elim
          · rename_i hidle
            obtain ⟨same, hrow, hstatus⟩ := hbusy
            cases hrow
            exact (hidle hstatus).elim
  | claim => exact Or.inr ⟨hbusy, by simp⟩

end DriverState

end FakeBolt.Driver
