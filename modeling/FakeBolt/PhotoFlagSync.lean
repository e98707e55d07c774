import FakeBolt.DriverRequests
import FakeBolt.GuardedRun
import FakeBolt.PhotoAttempts

/-!
# The photo flag of a driver

auth-service owns the photo, driver-service keeps a flag per driver, and
`user.photo.updated` carries the one to the other.  The system below is one
user of role driver with a client, both services, and the topic between them.
Where the client repeats a failed call before it makes another, the flag
follows the photo from the first event that is handled after the driver
profile exists.
-/

namespace FakeBolt.Profile

open Await Kafka Store Transition
open Driver (DriverAction DriverEntity DriverState DriverWorld Request)

/-! ## The flag of a driver row -/

def flagAfter (action : DriverAction) (flag : Bool) : Bool :=
  match action with
  | .syncPhoto hasPhoto => hasPhoto
  | _ => flag

theorem row_of_apply {state : DriverState} {driver : DriverEntity}
    (action : DriverAction) (hrow : state.row = some driver) :
    ∃ next, (state.apply action).row = some next ∧
      next.userId = driver.userId ∧
      next.hasPhoto = flagAfter action driver.hasPhoto := by
  cases action with
  | create created =>
      exact ⟨driver, by simp [DriverState.apply, hrow], rfl, rfl⟩
  | changeStatus status =>
      simp only [DriverState.apply, hrow]
      split
      · exact ⟨_, rfl, rfl, rfl⟩
      · exact ⟨driver, hrow, rfl, rfl⟩
  | ping lat lng =>
      simp only [DriverState.apply, hrow]
      exact ⟨_, rfl, rfl, rfl⟩
  | syncPhoto hasPhoto =>
      simp only [DriverState.apply, hrow]
      split
      · exact ⟨_, rfl, rfl, rfl⟩
      · exact ⟨_, rfl, rfl, rfl⟩
  | assign =>
      simp only [DriverState.apply, hrow]
      split
      · exact ⟨driver, hrow, rfl, rfl⟩
      · exact ⟨_, rfl, rfl, rfl⟩
  | release =>
      simp only [DriverState.apply, hrow]
      split
      · exact ⟨_, rfl, rfl, rfl⟩
      · exact ⟨driver, hrow, rfl, rfl⟩
  | claim => exact ⟨driver, hrow, rfl, rfl⟩

theorem create_of_apply {state : DriverState} {driver : DriverEntity}
    {action : DriverAction} (hnone : state.row = none)
    (hrow : (state.apply action).row = some driver) :
    action = .create driver := by
  cases action with
  | create created =>
      simp only [DriverState.apply, hnone, Option.some.injEq] at hrow
      rw [hrow]
  | _ => simp [DriverState.apply, hnone] at hrow

theorem createDriver_of_action {request : Request} {world : DriverWorld}
    {id : String} {driver : DriverEntity}
    (haction : request.action world = some (id, .create driver)) :
    ∃ newId dto, request = .createDriver newId dto ∧
      driver = Driver.offlineDriver newId dto := by
  cases request with
  | createDriver newId dto =>
      simp only [Request.action, Option.map_eq_some_iff, Prod.mk.injEq,
        DriverAction.create.injEq] at haction
      obtain ⟨_, _, _, hdriver⟩ := haction
      exact ⟨newId, dto, rfl, hdriver.symm⟩
  | updateStatus now driverId dto => simp [Request.action] at haction
  | updateLocation now driverId dto => simp [Request.action] at haction
  | message now inbound =>
      cases inbound <;> simp [Request.action, Driver.finishAction] at haction

def NoProfile (userId : String) (world : DriverWorld) : Prop :=
  ∀ driver ∈ world.drivers.rows, driver.userId ≠ userId

def HasFlag (userId : String) (world : DriverWorld) (flag : Bool) : Prop :=
  ∃ driver ∈ world.drivers.rows, driver.userId = userId ∧
    driver.hasPhoto = flag

variable {userId : String} {world : DriverWorld}

/-- A row is still there after any request, with the flag that the request's
action leaves. -/
theorem row_of_run {driver : DriverEntity} (request : Request)
    (hdriver : driver ∈ world.drivers.rows) :
    ∃ next ∈ (request.run world).drivers.rows, next.userId = driver.userId ∧
      next.hasPhoto =
        match request.action world with
        | some (id, action) =>
            if driver.id = id then flagAfter action driver.hasPhoto
            else driver.hasPhoto
        | none => driver.hasPhoto := by
  have hget : world.drivers.get? driver.id = some driver :=
    Table.get?_key_of_mem hdriver
  have hstate := request.state_run world driver.id
  have hmem : ∀ next : DriverEntity,
      ((request.run world).state driver.id).row = some next →
        next ∈ (request.run world).drivers.rows :=
    fun next hnext => (Table.get?_eq_some_iff.mp hnext).1
  unfold Driver.actOn at hstate
  split at hstate
  · rename_i hnone
    rw [hnone]
    refine ⟨driver, hmem driver ?_, rfl, rfl⟩
    rw [hstate]
    exact hget
  · rename_i id action haction
    rw [haction]
    simp only
    split at hstate
    · rename_i heq
      rw [if_pos heq]
      obtain ⟨next, hnext, huser, hflag⟩ := row_of_apply action
        (show (world.state driver.id).row = some driver from hget)
      rw [← hstate] at hnext
      exact ⟨next, hmem next hnext, huser, hflag⟩
    · rename_i hne
      rw [if_neg hne]
      refine ⟨driver, hmem driver ?_, rfl, rfl⟩
      rw [hstate]
      exact hget

theorem noProfile_of_run {request : Request} (hnone : NoProfile userId world)
    (hrequest : ∀ newId dto, request = .createDriver newId dto →
      dto.userId ≠ userId) :
    NoProfile userId (request.run world) := by
  intro driver hdriver huser
  have hget : ((request.run world).state driver.id).row = some driver :=
    Table.get?_key_of_mem hdriver
  rw [request.state_run world driver.id] at hget
  cases hbefore : world.drivers.get? driver.id with
  | some before =>
      have hmem := (Table.get?_eq_some_iff.mp hbefore).1
      have hsame : driver.userId = before.userId := by
        unfold Driver.actOn at hget
        split at hget
        · rw [Driver.state_row, hbefore] at hget
          cases hget
          rfl
        · rename_i id action haction
          split at hget
          · obtain ⟨next, hnext, hsame, -⟩ := row_of_apply action
              (show (world.state driver.id).row = some before from hbefore)
            rw [hget] at hnext
            cases hnext
            exact hsame
          · rw [Driver.state_row, hbefore] at hget
            cases hget
            rfl
      exact hnone before hmem (hsame.symm.trans huser)
  | none =>
      unfold Driver.actOn at hget
      split at hget
      · rw [Driver.state_row, hbefore] at hget
        cases hget
      · rename_i id action haction
        split at hget
        · have hcreate := create_of_apply
            (show (world.state driver.id).row = none from hbefore) hget
          rw [hcreate] at haction
          obtain ⟨newId, dto, hcreated, hoffline⟩ :=
            createDriver_of_action haction
          apply hrequest newId dto hcreated
          rw [← huser, hoffline]
          rfl
        · rw [Driver.state_row, hbefore] at hget
          cases hget

/-- The request neither creates the user's profile nor carries an event about
their photo. -/
def unrelated (userId : String) : Request → Bool
  | .createDriver _ dto => dto.userId != userId
  | .message _ (.userPhotoUpdated event) => event.userId != userId
  | _ => true

/-- Only an event about the photo of its user changes a driver's flag. -/
theorem photoEvent_of_syncPhoto {request : Request} {id : String}
    {hasPhoto : Bool}
    (haction : request.action world = some (id, .syncPhoto hasPhoto)) :
    ∃ now event found, request = .message now (.userPhotoUpdated event) ∧
      found ∈ world.drivers.rows ∧ found.userId = event.userId ∧
        found.id = id := by
  cases request with
  | createDriver newId dto => simp [Request.action] at haction
  | updateStatus now driverId dto => simp [Request.action] at haction
  | updateLocation now driverId dto => simp [Request.action] at haction
  | message now inbound =>
      cases inbound with
      | userPhotoUpdated event =>
          simp only [Request.action] at haction
          split at haction
          · cases haction
          · rw [Option.map_eq_some_iff] at haction
            obtain ⟨found, hfound, heq⟩ := haction
            have hmem := Table.mem_of_find? hfound
            have huser : found.userId = event.userId := by
              simpa using List.find?_some hfound
            have hid : found.id = id := congrArg Prod.fst heq
            exact ⟨now, event, found, rfl, hmem, huser, hid⟩
      | _ => simp [Request.action, Driver.finishAction] at haction

theorem hasFlag_of_unrelated {request : Request} {flag : Bool}
    (hrequest : unrelated userId request = true)
    (hflag : HasFlag userId world flag) :
    HasFlag userId (request.run world) flag := by
  obtain ⟨driver, hdriver, huser, hphoto⟩ := hflag
  obtain ⟨next, hnext, hsame, hafter⟩ := row_of_run request hdriver
  refine ⟨next, hnext, hsame.trans huser, ?_⟩
  rw [hafter, ← hphoto]
  cases haction : request.action world with
  | none => rfl
  | some target =>
      obtain ⟨id, action⟩ := target
      simp only
      split
      · rename_i hid
        cases action with
        | syncPhoto hasPhoto =>
            exfalso
            obtain ⟨now, event, found, hmessage, hmem, hother, hfoundId⟩ :=
              photoEvent_of_syncPhoto haction
            have heq : driver = found := by
              apply Table.eq_of_clash hdriver hmem
              apply Indexed.clash_of_key_eq
              exact hid.trans hfoundId.symm
            have hevent : event.userId = userId := by
              rw [← hother, ← heq]
              exact huser
            subst hmessage
            simp [unrelated, hevent] at hrequest
        | _ => rfl
      · rfl

theorem noProfile_of_unrelated {request : Request}
    (hrequest : unrelated userId request = true)
    (hnone : NoProfile userId world) :
    NoProfile userId (request.run world) := by
  apply noProfile_of_run hnone
  intro newId dto hcreate
  subst hcreate
  simpa [unrelated] using hrequest

def photoMessage (now : Instant) (event : UserPhotoUpdated) : Request :=
  .message now (.userPhotoUpdated
    { userId := event.userId
      role := event.role
      hasPhoto := event.hasPhoto })

theorem hasFlag_of_photoMessage (now : Instant) {event : UserPhotoUpdated}
    {flag : Bool} (huser : event.userId = userId)
    (hrole : event.role = "driver") (hflag : HasFlag userId world flag) :
    HasFlag userId ((photoMessage now event).run world) event.hasPhoto := by
  obtain ⟨driver, hdriver, hsame, -⟩ := hflag
  have hfind : world.drivers.find? (fun row => row.userId = event.userId) =
      some driver := by
    rw [Table.find?_eq_some_iff]
    · exact ⟨hdriver, by simp [hsame, huser]⟩
    · intro r s hr hs
      have huserId : r.userId = s.userId := by
        rw [of_decide_eq_true hr, of_decide_eq_true hs]
      simp [Indexed.clash, huserId]
  obtain ⟨next, hnext, hnextUser, hafter⟩ :=
    row_of_run (photoMessage now event) hdriver
  refine ⟨next, hnext, hnextUser.trans hsame, ?_⟩
  rw [hafter]
  simp [photoMessage, Request.action, hrole, hfind, flagAfter]

theorem noProfile_of_photoMessage (now : Instant) {event : UserPhotoUpdated}
    (hnone : NoProfile userId world) :
    NoProfile userId ((photoMessage now event).run world) :=
  noProfile_of_run hnone (fun _ _ hcreate => by cases hcreate)

theorem hasFlag_of_createDriver (newId : String) (dto : Driver.CreateDriverDto)
    {flag : Bool} (hflag : HasFlag userId world flag) :
    HasFlag userId ((Request.createDriver newId dto).run world) flag := by
  obtain ⟨driver, hdriver, huser, hphoto⟩ := hflag
  obtain ⟨next, hnext, hsame, hafter⟩ :=
    row_of_run (.createDriver newId dto) hdriver
  refine ⟨next, hnext, hsame.trans huser, ?_⟩
  rw [hafter, ← hphoto]
  simp only [Request.action]
  cases world.drivers.insert? (Driver.offlineDriver newId dto) with
  | none => rfl
  | some drivers =>
      simp only [Option.map_some]
      split <;> rfl

theorem createDriver_of_noProfile (newId : String)
    {dto : Driver.CreateDriverDto} (hnone : NoProfile userId world) :
    NoProfile userId ((Request.createDriver newId dto).run world) ∨
      HasFlag userId ((Request.createDriver newId dto).run world) false := by
  simp only [Request.run, Driver.exec_createDriver]
  cases hinsert : world.drivers.insert? (Driver.offlineDriver newId dto) with
  | none => exact Or.inl hnone
  | some drivers =>
      obtain ⟨hrows, -⟩ := Table.rows_of_insert? hinsert
      by_cases huser : dto.userId = userId
      · right
        refine ⟨Driver.offlineDriver newId dto, ?_, huser, rfl⟩
        rw [hrows]
        exact List.mem_append_right _ (List.mem_singleton_self _)
      · left
        intro driver hdriver
        rw [hrows, List.mem_append, List.mem_singleton] at hdriver
        rcases hdriver with hold | hnew
        · exact hnone driver hold
        · rw [hnew]
          exact huser

/-! ## The system -/

inductive PhotoCall where
  | confirm (key : String)
  | delete
  deriving DecidableEq, Repr

/-- `handled` counts the events driver-service has handled, `createdAt` is
that count when the user's driver profile was created, and `retrying` is the
call the client has to repeat. -/
structure PhotoSystem where
  profiles : ProfileWorld
  drivers : DriverWorld
  handled : ℕ
  createdAt : Option ℕ
  retrying : Option PhotoCall

inductive PhotoEvent where
  | upload (key : String) (object : S3Object)
  | call (now : Instant) (call : PhotoCall)
      (faults : ℕ → ProfileCall → Option String)
  | handle (now : Instant)
  | createDriver (newId : String) (dto : Driver.CreateDriverDto)
  | other (request : Request)

def PhotoCall.run (config : S3Config) (userId : String) (now : Instant)
    (faults : ℕ → ProfileCall → Option String) (world : ProfileWorld) :
    PhotoCall → Except JsError UserProfile × ProfileWorld
  | .confirm key =>
      let outcome := (ProfileService.confirmPhoto config now userId key).exec
        (scripted ProfileWorld.faulty) (faults, world)
      (outcome.1, outcome.2.2)
  | .delete =>
      let outcome := (ProfileService.deletePhoto config now userId).exec
        (scripted ProfileWorld.faulty) (faults, world)
      (outcome.1, outcome.2.2)

/-- A client repeats a call until it succeeds or gets a 4xx. -/
def mustRetry : Except JsError UserProfile → Bool
  | .ok _ => false
  | .error error => !isClientError error

def handleRecord (now : Instant) (record : ProducerRecord)
    (world : DriverWorld) : DriverWorld :=
  match record.message with
  | .userPhotoUpdated event => (photoMessage now event).run world
  | _ => world

def hasProfile (userId : String) (world : DriverWorld) : Bool :=
  (world.drivers.find? fun driver => driver.userId = userId).isSome

namespace PhotoSystem

variable (config : S3Config) (userId : String)

def start (profiles : ProfileWorld) (drivers : DriverWorld) : PhotoSystem where
  profiles := profiles
  drivers := drivers
  handled := 0
  createdAt := none
  retrying := none

def step (system : PhotoSystem) : PhotoEvent → Option PhotoSystem
  | .upload key object =>
      some { system with
        profiles := { system.profiles with
          objects := system.profiles.objects.insert key object } }
  | .call now call faults =>
      let outcome := call.run config userId now faults system.profiles
      some { system with
        profiles := outcome.2
        retrying := if mustRetry outcome.1 then some call else none }
  | .handle now =>
      match system.profiles.published[system.handled]? with
      | none => none
      | some record =>
          some { system with
            drivers := handleRecord now record system.drivers
            handled := system.handled + 1 }
  | .createDriver newId dto =>
      if dto.userId = userId then
        let drivers := (Request.createDriver newId dto).run system.drivers
        some { system with
          drivers := drivers
          createdAt := system.createdAt <|>
            if hasProfile userId drivers then some system.handled else none }
      else none
  | .other request =>
      if unrelated userId request then
        some { system with drivers := request.run system.drivers }
      else none

/-- The client repeats a call that has to be repeated before it makes another
one. -/
def RetriesFirst (system : PhotoSystem) : PhotoEvent → Prop
  | .call _ call _ => system.retrying = none ∨ system.retrying = some call
  | _ => True

/-- The publish of a `deletePhoto` does not fail. -/
def DeletesPublish (_system : PhotoSystem) : PhotoEvent → Prop
  | .call _ .delete faults => ∀ n record, faults n (.send record) = none
  | _ => True

/-- While a confirmation has to be repeated, its object is replaced only by one
that passes the checks as well. -/
def KeepsPhoto (system : PhotoSystem) : PhotoEvent → Prop
  | .upload key object =>
      system.retrying = some (.confirm key) →
        ValidPhoto (system.profiles.objects.insert key object) key
  | _ => True

instance (system : PhotoSystem) : DecidablePred system.RetriesFirst
  | .call _ call _ => inferInstanceAs
      (Decidable (system.retrying = none ∨ system.retrying = some call))
  | .upload _ _ => isTrue trivial
  | .handle _ => isTrue trivial
  | .createDriver _ _ => isTrue trivial
  | .other _ => isTrue trivial

instance (system : PhotoSystem) : DecidablePred system.KeepsPhoto
  | .upload key object => inferInstanceAs (Decidable
      (system.retrying = some (.confirm key) →
        ValidPhoto (system.profiles.objects.insert key object) key))
  | .call _ _ _ => isTrue trivial
  | .handle _ => isTrue trivial
  | .createDriver _ _ => isTrue trivial
  | .other _ => isTrue trivial

def hasPhoto (system : PhotoSystem) : Bool :=
  ((system.profiles.users.get? userId).bind UserEntity.photoKey).isSome

end PhotoSystem

/-! ## The invariant -/

/-- What the last of some records says about the photo. -/
def lastFlag (records : List ProducerRecord) : Bool :=
  match records.getLast?.map ProducerRecord.message with
  | some (.userPhotoUpdated event) => event.hasPhoto
  | _ => false

def AboutPhoto (userId : String) (record : ProducerRecord) : Prop :=
  ∃ event, record.message = .userPhotoUpdated event ∧
    event.userId = userId ∧ event.role = "driver"

/-- The last event says whether there is a photo, or the client is about to
repeat the confirmation of a photo that has been stored. -/
def Announced (user : UserEntity) (system : PhotoSystem) : Prop :=
  lastFlag system.profiles.published = user.photoKey.isSome ∨
  ∃ key, system.retrying = some (.confirm key) ∧ user.photoKey = some key ∧
    ValidPhoto system.profiles.objects key

/-- The flag is that of the last event handled since the profile exists. -/
def Synced (userId : String) (system : PhotoSystem) : Prop :=
  match system.createdAt with
  | none => NoProfile userId system.drivers
  | some created => created ≤ system.handled ∧
      HasFlag userId system.drivers
        (if created < system.handled then
          lastFlag (system.profiles.published.take system.handled)
        else false)

structure FlagInvariant (userId : String) (system : PhotoSystem) : Prop where
  user : ∃ user, system.profiles.users.get? userId = some user ∧
    user.role = .driver ∧
    (∀ key, user.photoKey = some key → Owned userId key) ∧
    Announced user system
  events : ∀ record ∈ system.profiles.published, AboutPhoto userId record
  handled : system.handled ≤ system.profiles.published.length
  synced : Synced userId system

theorem lastFlag_append_photoRecord (records : List ProducerRecord)
    (now : Instant) (user : UserEntity) (hasPhoto : Bool) :
    lastFlag (records ++ [photoRecord now user hasPhoto]) = hasPhoto := by
  simp [lastFlag, photoRecord]

theorem aboutPhoto_photoRecord {profiles : ProfileWorld} {user : UserEntity}
    (now : Instant) (hasPhoto : Bool)
    (hget : profiles.users.get? userId = some user) (hrole : user.role = .driver) :
    AboutPhoto userId (photoRecord now user hasPhoto) := by
  refine ⟨_, rfl, Table.key_of_get? hget, ?_⟩
  simp [hrole, UserRole.value]

structure CallEffect (userId : String) (system next : PhotoSystem) : Prop where
  user : ∃ user, next.profiles.users.get? userId = some user ∧
    user.role = .driver ∧
    (∀ key, user.photoKey = some key → Owned userId key) ∧
    Announced user next
  published : ∃ records, next.profiles.published =
    system.profiles.published ++ records ∧
      ∀ record ∈ records, AboutPhoto userId record

variable {system : PhotoSystem} {config : S3Config}

theorem confirm_effect {key : String} {now : Instant}
    {result : Except JsError UserProfile} {after : ProfileWorld}
    {user : UserEntity}
    (henabled : system.retrying = none ∨ system.retrying = some (.confirm key))
    (hget : system.profiles.users.get? userId = some user)
    (hrole : user.role = .driver)
    (howned : ∀ held, user.photoKey = some held → Owned userId held)
    (hannounced : Announced user system)
    (houtcome : ConfirmOutcome userId key now user system.profiles result after) :
    CallEffect userId system
      { system with
        profiles := after
        retrying := if mustRetry result then some (.confirm key) else none } := by
  cases houtcome with
  | @refused error objects hkept =>
      refine ⟨⟨user, hget, hrole, howned, ?_⟩, [], by simp, by simp⟩
      rcases hannounced with hflag | ⟨held, hretrying, hheld, hvalid⟩
      · exact Or.inl hflag
      · have hkey : held = key := by
          rcases henabled with hnone | hsame
          · rw [hretrying] at hnone
            cases hnone
          · rw [hretrying] at hsame
            cases hsame
            rfl
        subst hkey
        obtain ⟨herror, hobjects⟩ := hkept hheld hvalid
        refine Or.inr ⟨held, ?_, hheld, ?_⟩
        · simp [mustRetry, herror]
        · rw [hobjects]
          exact hvalid
  | stored hprefix herror huser hpublished hvalid =>
      refine ⟨⟨_, huser, hrole, ?_, Or.inr ⟨key, ?_, rfl, hvalid⟩⟩, [],
        by simp [hpublished], by simp⟩
      · intro held hheld
        cases hheld
        exact hprefix
      · simp [mustRetry, herror]
  | announced hprefix hresult huser hpublished =>
      refine ⟨⟨_, huser, hrole, ?_, Or.inl ?_⟩, [photoRecord now user true],
        hpublished, ?_⟩
      · intro held hheld
        cases hheld
        exact hprefix
      · simp only [hpublished, lastFlag_append_photoRecord]
        rfl
      · intro record hrecord
        rw [List.mem_singleton] at hrecord
        subst hrecord
        exact aboutPhoto_photoRecord now true hget hrole

theorem delete_effect {now : Instant} {result : Except JsError UserProfile}
    {after : ProfileWorld} {user : UserEntity}
    (henabled : system.retrying = none ∨ system.retrying = some .delete)
    (hget : system.profiles.users.get? userId = some user)
    (hrole : user.role = .driver)
    (howned : ∀ held, user.photoKey = some held → Owned userId held)
    (hannounced : Announced user system)
    (houtcome : DeleteOutcome userId now user system.profiles result after) :
    CallEffect userId system
      { system with
        profiles := after
        retrying := if mustRetry result then some .delete else none } := by
  cases houtcome with
  | refused =>
      refine ⟨⟨user, hget, hrole, howned, ?_⟩, [], by simp, by simp⟩
      rcases hannounced with hflag | ⟨held, hretrying, -⟩
      · exact Or.inl hflag
      · rw [hretrying] at henabled
        simp at henabled
  | announced hresult huser hpublished =>
      refine ⟨⟨_, huser, hrole, ?_, Or.inl ?_⟩, [photoRecord now user false],
        hpublished, ?_⟩
      · intro held hheld
        cases hheld
      · simp only [hpublished, lastFlag_append_photoRecord]
        rfl
      · intro record hrecord
        rw [List.mem_singleton] at hrecord
        subst hrecord
        exact aboutPhoto_photoRecord now false hget hrole

theorem call_effect {now : Instant} {call : PhotoCall}
    {faults : ℕ → ProfileCall → Option String}
    (hinv : FlagInvariant userId system)
    (hretries : PhotoSystem.RetriesFirst system (.call now call faults))
    (hpublish : PhotoSystem.DeletesPublish system (.call now call faults)) :
    CallEffect userId system
      { system with
        profiles :=
          (call.run config userId now faults system.profiles).2
        retrying :=
          if mustRetry (call.run config userId now faults system.profiles).1
          then some call else none } := by
  obtain ⟨user, hget, hrole, howned, hannounced⟩ := hinv.user
  cases call with
  | confirm key =>
      apply confirm_effect hretries hget hrole howned hannounced
      have hensures : (ProfileService.confirmPhoto config now userId
          key).Ensures ProfileWorld.faulty (fun _ => True) system.profiles
            (ConfirmOutcome userId key now user system.profiles) :=
        ensures_confirmPhoto config now hget (howned key)
      exact Program.ensures_exec hensures fun _ => trivial
  | delete =>
      apply delete_effect hretries hget hrole howned hannounced
      have hensures : (ProfileService.deletePhoto config now userId).Ensures
          ProfileWorld.faulty
          (fun fault => ∀ record, fault (.send record) = none)
          system.profiles (DeleteOutcome userId now user system.profiles) :=
        ensures_deletePhoto config now (fun _ hfault => hfault) hget
      exact Program.ensures_exec hensures hpublish

/-- A photo that is about to be confirmed again stays one. -/
theorem Announced.upload {user : UserEntity} {key : String} {object : S3Object}
    (hannounced : Announced user system)
    (hkeeps : PhotoSystem.KeepsPhoto system (.upload key object)) :
    Announced user { system with
      profiles := { system.profiles with
        objects := system.profiles.objects.insert key object } } := by
  rcases hannounced with hflag | ⟨held, hretrying, hheld, hvalid⟩
  · exact Or.inl hflag
  · refine Or.inr ⟨held, hretrying, hheld, ?_⟩
    by_cases heq : held = key
    · subst held
      exact hkeeps hretrying
    · obtain ⟨stored, hstored, hgood⟩ := hvalid
      refine ⟨stored, ?_, hgood⟩
      change (system.profiles.objects.insert key object).lookup held = _
      rw [Finmap.lookup_insert_of_ne _ heq]
      exact hstored

theorem Synced.of_published {next : PhotoSystem} {records : List ProducerRecord}
    (hsynced : Synced userId system)
    (hhandled : system.handled ≤ system.profiles.published.length)
    (hpublished : next.profiles.published =
      system.profiles.published ++ records)
    (hdrivers : next.drivers = system.drivers)
    (hcount : next.handled = system.handled)
    (hcreated : next.createdAt = system.createdAt) :
    Synced userId next := by
  unfold Synced at hsynced ⊢
  rw [hpublished, hdrivers, hcount, hcreated,
    List.take_append_of_le_length hhandled]
  exact hsynced

theorem hasProfile_iff {world : DriverWorld} :
    hasProfile userId world = true ↔
      ∃ driver ∈ world.drivers.rows, driver.userId = userId := by
  simp [hasProfile, Table.find?]

theorem Synced.createDriver {newId : String} {dto : Driver.CreateDriverDto}
    (hsynced : Synced userId system) :
    Synced userId { system with
      drivers := (Request.createDriver newId dto).run system.drivers
      createdAt := system.createdAt <|>
        if hasProfile userId
          ((Request.createDriver newId dto).run system.drivers)
        then some system.handled else none } := by
  unfold Synced at hsynced ⊢
  cases hcreated : system.createdAt with
  | some created =>
      rw [hcreated] at hsynced
      obtain ⟨hle, hflag⟩ := hsynced
      exact ⟨hle, hasFlag_of_createDriver newId dto hflag⟩
  | none =>
      rw [hcreated] at hsynced
      simp only
      split
      · rename_i hnone
        split at hnone
        · cases hnone
        · rename_i hno
          rw [hasProfile_iff] at hno
          intro driver hdriver huser
          exact hno ⟨driver, hdriver, huser⟩
      · rename_i created hsome
        split at hsome
        · rename_i hyes
          cases hsome
          refine ⟨le_rfl, ?_⟩
          rw [if_neg (lt_irrefl _)]
          rcases createDriver_of_noProfile newId hsynced with hnone | hflag
          · obtain ⟨driver, hdriver, huser⟩ := hasProfile_iff.mp hyes
            exact (hnone driver hdriver huser).elim
          · exact hflag
        · cases hsome

theorem Synced.other {request : Request} (hsynced : Synced userId system)
    (hrequest : unrelated userId request = true) :
    Synced userId { system with drivers := request.run system.drivers } := by
  unfold Synced at hsynced ⊢
  simp only
  split at hsynced
  · exact noProfile_of_unrelated hrequest hsynced
  · exact ⟨hsynced.1, hasFlag_of_unrelated hrequest hsynced.2⟩

theorem Synced.handle {now : Instant} {record : ProducerRecord}
    (hsynced : Synced userId system) (habout : AboutPhoto userId record)
    (hnext : system.profiles.published[system.handled]? = some record) :
    Synced userId { system with
      drivers := handleRecord now record system.drivers
      handled := system.handled + 1 } := by
  obtain ⟨event, hmessage, huser, hrole⟩ := habout
  have hlast : lastFlag
      (system.profiles.published.take (system.handled + 1)) =
        event.hasPhoto := by
    rw [List.take_add_one, hnext]
    simp [lastFlag, hmessage]
  unfold Synced at hsynced ⊢
  simp only [handleRecord, hmessage]
  split at hsynced
  · exact noProfile_of_photoMessage now hsynced
  · obtain ⟨hle, hflag⟩ := hsynced
    refine ⟨by omega, ?_⟩
    rw [if_pos (by omega), hlast]
    exact hasFlag_of_photoMessage now huser hrole hflag

theorem FlagInvariant.step {next : PhotoSystem} {event : PhotoEvent}
    (hinv : FlagInvariant userId system)
    (hretries : PhotoSystem.RetriesFirst system event)
    (hpublish : PhotoSystem.DeletesPublish system event)
    (hkeeps : PhotoSystem.KeepsPhoto system event)
    (hstep : system.step config userId event = some next) :
    FlagInvariant userId next := by
  cases event with
  | upload key object =>
      cases hstep
      obtain ⟨user, hget, hrole, howned, hannounced⟩ := hinv.user
      exact ⟨⟨user, hget, hrole, howned, hannounced.upload hkeeps⟩,
        hinv.events, hinv.handled, hinv.synced⟩
  | call now call faults =>
      cases hstep
      obtain ⟨huser, records, hpublished, habout⟩ := call_effect hinv hretries hpublish
      refine ⟨huser, ?_, ?_, ?_⟩
      · intro record hrecord
        rw [hpublished, List.mem_append] at hrecord
        exact hrecord.elim (hinv.events record) (habout record)
      · rw [hpublished, List.length_append]
        exact le_add_right hinv.handled
      · exact hinv.synced.of_published hinv.handled hpublished rfl rfl rfl
  | handle now =>
      simp only [PhotoSystem.step] at hstep
      split at hstep
      · cases hstep
      · rename_i record hrecord
        cases hstep
        obtain ⟨hlt, hget⟩ := List.getElem?_eq_some_iff.mp hrecord
        have hmem : record ∈ system.profiles.published := by
          rw [← hget]
          exact List.getElem_mem hlt
        exact ⟨hinv.user, hinv.events, hlt,
          hinv.synced.handle (hinv.events record hmem) hrecord⟩
  | createDriver newId dto =>
      simp only [PhotoSystem.step] at hstep
      split at hstep
      · cases hstep
        exact ⟨hinv.user, hinv.events, hinv.handled, hinv.synced.createDriver⟩
      · cases hstep
  | other request =>
      simp only [PhotoSystem.step] at hstep
      split at hstep
      · rename_i hrequest
        cases hstep
        exact ⟨hinv.user, hinv.events, hinv.handled,
          hinv.synced.other hrequest⟩
      · cases hstep

/-- Once the client is done and all events are handled, the flag says whether
there is a photo, if an event was handled since the profile was created, and
is unset otherwise. -/
theorem flag_follows_photo (config : S3Config) {user : UserEntity}
    {profiles : ProfileWorld} {drivers : DriverWorld}
    {events : List PhotoEvent} {last : PhotoSystem}
    (huser : profiles.users.get? userId = some user)
    (hrole : user.role = .driver) (hnew : user.photoKey = none)
    (hquiet : profiles.published = []) (hprofile : NoProfile userId drivers)
    (hretries : RunMeets (PhotoSystem.step config userId)
      PhotoSystem.RetriesFirst (.start profiles drivers) events)
    (hpublish : RunMeets (PhotoSystem.step config userId)
      PhotoSystem.DeletesPublish (.start profiles drivers) events)
    (hkeeps : RunMeets (PhotoSystem.step config userId)
      PhotoSystem.KeepsPhoto (.start profiles drivers) events)
    (hrun : run (PhotoSystem.step config userId) (.start profiles drivers)
      events = some last)
    (hdone : last.retrying = none)
    (hall : last.handled = last.profiles.published.length) :
    ∀ driver ∈ last.drivers.drivers.rows, driver.userId = userId →
      ∃ created, last.createdAt = some created ∧
        (created < last.handled →
          (driver.hasPhoto = true ↔ last.hasPhoto userId = true)) ∧
        (last.handled ≤ created → driver.hasPhoto = false) := by
  have hstart : FlagInvariant userId (.start profiles drivers) := by
    refine ⟨⟨user, huser, hrole, ?_, Or.inl ?_⟩, ?_, Nat.zero_le _, hprofile⟩
    · intro key hkey
      rw [hnew] at hkey
      cases hkey
    · simp [PhotoSystem.start, hquiet, hnew, lastFlag]
    · intro record hrecord
      simp [PhotoSystem.start, hquiet] at hrecord
  have hinv : FlagInvariant userId last :=
    invariant_of_guarded
      (fun _ _ _ hinv hguard hstep =>
        hinv.step hguard.1 hguard.2.1 hguard.2.2 hstep)
      hstart (hretries.and (hpublish.and hkeeps)) hrun
  obtain ⟨owner, hget, -, -, hannounced⟩ := hinv.user
  have hflag : lastFlag last.profiles.published = last.hasPhoto userId := by
    rcases hannounced with hflag | ⟨key, hretrying, -⟩
    · simp [hflag, PhotoSystem.hasPhoto, hget]
    · rw [hdone] at hretrying
      cases hretrying
  intro driver hdriver hdriverUser
  have hsynced := hinv.synced
  unfold Synced at hsynced
  split at hsynced
  · exact (hsynced driver hdriver hdriverUser).elim
  · rename_i created hcreated
    obtain ⟨-, other, hother, hotherUser, hphoto⟩ := hsynced
    have hsame : other = driver := by
      apply Table.eq_of_clash hother hdriver
      simp [Indexed.clash, hotherUser, hdriverUser]
    subst hsame
    refine ⟨created, hcreated, ?_, ?_⟩
    · intro hlater
      rw [if_pos hlater, hall, List.take_length, hflag] at hphoto
      rw [hphoto]
    · intro hearlier
      rw [if_neg (by omega)] at hphoto
      exact hphoto

/-! ## One driver signing up -/

def newDriver : UserEntity where
  id := "u"
  email := "dan@example.com"
  password := "hash"
  name := "Dan"
  role := .driver
  photoKey := none

def signedUp : PhotoSystem :=
  .start
    { users := ⟨[newDriver], List.pairwise_singleton _ _⟩
      objects := ∅
      published := [] }
    { drivers := Table.empty
      pool := ∅
      published := [] }

def localS3 : S3Config := ⟨"http://localhost:4566", "photos"⟩

def createProfile : PhotoEvent :=
  .createDriver "d" ⟨"u", "Dan", "dan@example.com", none, none⟩

def uploadPhoto : PhotoEvent :=
  .upload "users/u/photo.jpg" ⟨"image/jpeg", [0xff, 0xd8, 0xff]⟩

def confirmUpload (faults : ℕ → ProfileCall → Option String) : PhotoEvent :=
  .call 0 (.confirm "users/u/photo.jpg") faults

def brokerDown : ℕ → ProfileCall → Option String
  | _, .send _ => some "broker down"
  | _, _ => none

/-- The publish of the confirmation fails once; the client uploads the photo
again and repeats it. -/
def retriedConfirmation : List PhotoEvent :=
  [createProfile, uploadPhoto, confirmUpload brokerDown, uploadPhoto,
    confirmUpload fun _ _ => none, .handle 0]

theorem retried_confirmation_arrives :
    ∃ last, run (PhotoSystem.step localS3 "u") signedUp retriedConfirmation =
        some last ∧
      ∃ driver ∈ last.drivers.drivers.rows, driver.userId = "u" ∧
        (driver.hasPhoto = true ↔ last.hasPhoto "u" = true) := by
  have hcheck : (run (PhotoSystem.step localS3 "u") signedUp
      retriedConfirmation).any (fun last =>
        last.retrying == none &&
        last.handled == last.profiles.published.length &&
        last.createdAt == some 0 && last.handled == 1 &&
        last.drivers.drivers.rows.any fun driver => driver.userId == "u") =
        true := by
    decide +kernel
  obtain ⟨last, hrun, hlast⟩ := exists_of_run_any hcheck
  simp only [Bool.and_eq_true, beq_iff_eq, List.any_eq_true] at hlast
  obtain ⟨⟨⟨⟨hdone, hall⟩, hcreatedAt⟩, hone⟩, driver, hdriver, huser⟩ := hlast
  have hretries : RunMeets (PhotoSystem.step localS3 "u")
      PhotoSystem.RetriesFirst signedUp retriedConfirmation := by
    decide +kernel
  have hpublish : RunMeets (PhotoSystem.step localS3 "u")
      PhotoSystem.DeletesPublish signedUp retriedConfirmation :=
    ⟨trivial, fun _ _ => ⟨trivial, fun _ _ => ⟨trivial, fun _ _ =>
      ⟨trivial, fun _ _ => ⟨trivial, fun _ _ => ⟨trivial, fun _ _ =>
        trivial⟩⟩⟩⟩⟩⟩
  have hkeeps : RunMeets (PhotoSystem.step localS3 "u")
      PhotoSystem.KeepsPhoto signedUp retriedConfirmation := by
    decide +kernel
  have huserRow : signedUp.profiles.users.get? "u" = some newDriver := rfl
  have hnoProfile : NoProfile "u" signedUp.drivers :=
    fun driver hdriver => by cases hdriver
  obtain ⟨created, hcreated, hlater, -⟩ :=
    flag_follows_photo localS3 huserRow rfl rfl rfl hnoProfile hretries
      hpublish hkeeps hrun hdone hall driver hdriver huser
  rw [hcreatedAt] at hcreated
  cases hcreated
  exact ⟨last, hrun, driver, hdriver, huser, hlater (by omega)⟩

def photoBeforeProfile : List PhotoEvent :=
  [uploadPhoto, confirmUpload fun _ _ => none, .handle 0, createProfile]

/-- The photo is confirmed, and its event handled, before the profile is
created. -/
theorem photo_before_profile_is_lost :
    RunMeets (PhotoSystem.step localS3 "u") PhotoSystem.RetriesFirst signedUp
      photoBeforeProfile ∧
    ∃ last, run (PhotoSystem.step localS3 "u") signedUp photoBeforeProfile =
        some last ∧
      last.retrying = none ∧
      last.handled = last.profiles.published.length ∧
      ∃ driver ∈ last.drivers.drivers.rows, driver.userId = "u" ∧
        ¬ (driver.hasPhoto = true ↔ last.hasPhoto "u" = true) := by
  have hretries : RunMeets (PhotoSystem.step localS3 "u")
      PhotoSystem.RetriesFirst signedUp photoBeforeProfile := by
    decide +kernel
  have hcheck : (run (PhotoSystem.step localS3 "u") signedUp
      photoBeforeProfile).any (fun last =>
        last.retrying == none &&
        last.handled == last.profiles.published.length &&
        last.drivers.drivers.rows.any fun driver =>
          driver.userId == "u" &&
            decide (¬ (driver.hasPhoto = true ↔
              last.hasPhoto "u" = true))) = true := by
    decide +kernel
  obtain ⟨last, hrun, hlast⟩ := exists_of_run_any hcheck
  simp only [Bool.and_eq_true, beq_iff_eq, List.any_eq_true,
    decide_eq_true_eq] at hlast
  obtain ⟨⟨hdone, hall⟩, driver, hdriver, huser, hdiffers⟩ := hlast
  exact ⟨hretries, last, hrun, hdone, hall, driver, hdriver, huser, hdiffers⟩

end FakeBolt.Profile
