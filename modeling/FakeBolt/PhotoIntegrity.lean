import FakeBolt.GuardedRun
import FakeBolt.PhotoIsolation

/-!
# What a photo key points at

`confirmPhoto` checks an object once, and the upload URL of the object stays
good for its whole lifetime.  The two sections at the end say of which runs it
is true that a user's photo key has an object, and that the object is an
image.
-/

namespace FakeBolt.Profile

open Await Kafka Store ProfileService Transition

/-- The object passes all checks of `confirmPhoto`. -/
def ValidObject (object : S3Object) : Prop :=
  object.contentType ∈ ALLOWED_PHOTO_TYPES ∧
    object.bytes.length ≤ MAX_PHOTO_BYTES ∧
    matchesImageSignature object.contentType
      (object.bytes.take SIGNATURE_BYTES) = true

/-- The object fails a check after which `confirmPhoto` deletes it.  The first
bytes of an empty object cannot be read at all. -/
def RejectedObject (object : S3Object) : Prop :=
  object.contentType ∉ ALLOWED_PHOTO_TYPES ∨
    MAX_PHOTO_BYTES < object.bytes.length ∨
    (object.bytes ≠ [] ∧
      matchesImageSignature object.contentType
        (object.bytes.take SIGNATURE_BYTES) = false)

instance : DecidablePred ValidObject :=
  fun _ => inferInstanceAs (Decidable (_ ∧ _ ∧ _))

instance : DecidablePred RejectedObject :=
  fun _ => inferInstanceAs (Decidable (_ ∨ _ ∨ _))

theorem RejectedObject.not_valid {object : S3Object}
    (hrejected : RejectedObject object) : ¬ ValidObject object := by
  rintro ⟨htype, hlength, hsignature⟩
  rcases hrejected with hother | hlong | ⟨-, hfake⟩
  · exact hother htype
  · omega
  · rw [hfake] at hsignature
    cases hsignature

/-! ## One operation -/

/-- The bucket after `deleteFromS3`. -/
def PhotoRequest.erased (request : PhotoRequest) (key : String)
    (objects : Bucket) : Bucket :=
  match request.deleteFault with
  | none => objects.erase key
  | some _ => objects

section Operations

variable (request : PhotoRequest) (userId key : String) (world : ProfileWorld)

theorem exec_findUser :
    (findUser userId).exec request.answer world =
      (match world.users.get? userId with
        | none => .error (.http .notFound "User not found")
        | some user => .ok user, world) := by
  simp only [findUser, UsersRepository.findOne, Program.exec_bind,
    Program.exec_call, PhotoRequest.answer, ProfileWorld.faulty,
    PhotoRequest.fault, Option.map_none, faultable, ProfileWorld.answer]
  cases world.users.get? userId with
  | none => rfl
  | some user => rfl

theorem exec_deleteFromS3 :
    (deleteFromS3 key).exec request.answer world =
      (.ok (), { world with objects := request.erased key world.objects }) := by
  simp only [deleteFromS3, S3Service.deleteObject, Program.exec_tryCatch,
    Program.exec_call, PhotoRequest.answer, ProfileWorld.faulty,
    PhotoRequest.fault, PhotoRequest.erased]
  cases request.deleteFault with
  | none => rfl
  | some message => rfl

theorem exec_update (patch : UserPatch) :
    (UsersRepository.update userId patch).exec request.answer world =
      (.ok (), { world with users := world.users.update userId patch }) := by
  rw [UsersRepository.update, Program.exec_call]
  rfl

theorem exec_headObject :
    (S3Service.headObject key).exec request.answer world =
      (.ok ((world.objects.lookup key).map fun object =>
        ⟨object.contentType, some object.bytes.length⟩), world) := by
  simp only [S3Service.headObject, Program.exec_tryCatch, Program.exec_bind,
    Program.exec_call, PhotoRequest.answer, ProfileWorld.faulty,
    PhotoRequest.fault, Option.map_none, faultable, ProfileWorld.answer]
  cases world.objects.lookup key with
  | none => rfl
  | some object => rfl

/-- A range of an empty object cannot be read. -/
theorem exec_readFirstBytes {object : S3Object}
    (hobject : world.objects.lookup key = some object) :
    (S3Service.readFirstBytes key SIGNATURE_BYTES).exec request.answer world =
      (if object.bytes = [] then .error (.s3 (some 416) "InvalidRange")
        else .ok (object.bytes.take SIGNATURE_BYTES), world) := by
  simp only [S3Service.readFirstBytes, Program.exec_call, PhotoRequest.answer,
    ProfileWorld.faulty, PhotoRequest.fault, Option.map_none, faultable,
    ProfileWorld.answer, hobject]
  split <;> rfl

/-- How the checks of an uploaded object end. -/
inductive CheckOutcome : Except JsError Unit → ProfileWorld → Prop
  | passed {object} (hobject : world.objects.lookup key = some object)
      (hvalid : ValidObject object) : CheckOutcome (.ok ()) world
  | removed {object error} (hobject : world.objects.lookup key = some object)
      (hrejected : RejectedObject object) :
      CheckOutcome (.error error)
        { world with objects := request.erased key world.objects }
  | refused {error}
      (hkept : ∀ object, world.objects.lookup key = some object →
        ¬ RejectedObject object) :
      CheckOutcome (.error error) world

theorem checkObject_outcome :
    CheckOutcome request key world
      ((checkObject key).exec request.answer world).1
      ((checkObject key).exec request.answer world).2 := by
  unfold checkObject
  rw [Program.exec_bind, exec_headObject]
  cases hobject : world.objects.lookup key with
  | none =>
      apply CheckOutcome.refused
      intro object hsome
      rw [hobject] at hsome
      cases hsome
  | some object =>
      simp only [Option.map_some]
      split
      · rename_i hbad
        rw [Program.exec_bind, exec_deleteFromS3]
        apply CheckOutcome.removed hobject
        rcases hbad with hnot | hlong
        · left
          simpa using hnot
        · right
          left
          simpa using hlong
      · rename_i hgood
        simp only [not_or, Bool.not_eq_false, List.contains_eq_mem,
          decide_eq_true_eq, Option.getD_some, gt_iff_lt, not_lt] at hgood
        rw [Program.exec_bind, exec_readFirstBytes request key world hobject]
        by_cases hempty : object.bytes = []
        · rw [if_pos hempty]
          apply CheckOutcome.refused
          intro found hfound hrejected
          rw [hobject] at hfound
          cases hfound
          rcases hrejected with hother | hlong | ⟨hbytes, -⟩
          · exact hother hgood.1
          · omega
          · exact hbytes hempty
        · rw [if_neg hempty]
          simp only
          split
          · rename_i hfake
            rw [Program.exec_bind, exec_deleteFromS3]
            exact .removed hobject (.inr (.inr ⟨hempty, hfake⟩))
          · rename_i hreal
            rw [Bool.not_eq_false] at hreal
            exact .passed hobject ⟨hgood.1, hgood.2, hreal⟩

variable {request userId key world}

theorem exec_storeKey {user : UserEntity} (request : PhotoRequest)
    (key : String) (hget : world.users.get? userId = some user) :
    ∃ after, (storeKey user userId key).exec request.answer world =
        (.ok (), after) ∧
      after.users.get? userId = some { user with photoKey := some key } ∧
      after.objects.lookup key = world.objects.lookup key := by
  unfold storeKey
  by_cases hsame : user.photoKey = some key
  · refine ⟨world, by simp [hsame], ?_, rfl⟩
    rw [hget, ← hsame]
  · have hrow := get?_update_photoKey (some key) hget
    rw [if_pos hsame, Program.exec_bind, exec_update]
    cases hprevious : truthy user.photoKey with
    | none => exact ⟨_, rfl, hrow, rfl⟩
    | some previousKey =>
        simp only [exec_deleteFromS3]
        refine ⟨_, rfl, hrow, ?_⟩
        have hother : key ≠ previousKey := by
          intro heq
          rw [heq] at hsame
          exact hsame (truthy_eq_some_iff.mp hprevious).1
        unfold PhotoRequest.erased
        cases request.deleteFault with
        | none => exact Finmap.lookup_erase_ne hother
        | some message => rfl

/-- The publish and the reply leave the table and the bucket alone. -/
theorem exec_announce (config : S3Config) (request : PhotoRequest)
    (userId : String) (now : Instant) (user : UserEntity) (hasPhoto : Bool)
    (world : ProfileWorld) :
    ∃ published,
      ((do publishPhotoUpdated now user hasPhoto
           getProfile config userId : ProfileM UserProfile).exec
        request.answer world).2 = { world with published := published } := by
  have hprofile : ∀ after : ProfileWorld,
      ((getProfile config userId).exec request.answer after).2 = after := by
    intro after
    simp only [getProfile, Program.exec_bind, exec_findUser]
    cases after.users.get? userId with
    | none => rfl
    | some found => rfl
  simp only [publishPhotoUpdated, KafkaProducer.publish, Program.exec_bind,
    Program.exec_call]
  rcases answer_cases request (.send (photoRecord now user hasPhoto)) world
    with ⟨message, -, hreply⟩ | ⟨-, hreply⟩
  · exact ⟨world.published, by rw [photoRecord] at hreply; rw [hreply]⟩
  · refine ⟨world.published ++ [photoRecord now user hasPhoto], ?_⟩
    rw [photoRecord] at hreply
    rw [hreply]
    exact hprofile _

variable (request userId key world)

/-- What a call of `confirmPhoto` leaves in the table and the bucket. -/
inductive ConfirmStep : ProfileWorld → Prop
  | refused
      (hkept : ∀ user object, world.users.get? userId = some user →
        Owned userId key → world.objects.lookup key = some object →
          ¬ RejectedObject object) :
      ConfirmStep world
  | removed {object} (hobject : world.objects.lookup key = some object)
      (hrejected : RejectedObject object) :
      ConfirmStep
        { world with objects := request.erased key world.objects }
  | confirmed {user : UserEntity} {object after}
      (hrow : after.users.get? userId =
        some { user with photoKey := some key })
      (hobject : world.objects.lookup key = some object)
      (hkept : after.objects.lookup key = some object)
      (hvalid : ValidObject object) : ConfirmStep after

inductive DeleteStep : ProfileWorld → Prop
  | refused : DeleteStep world
  | deleted {user : UserEntity} {after}
      (hrow : after.users.get? userId = some { user with photoKey := none }) :
      DeleteStep after

theorem confirmPhoto_step (config : S3Config) :
    ConfirmStep request userId key world
      ((confirmPhoto config request.now userId key).exec request.answer
        world).2 := by
  unfold confirmPhoto
  rw [Program.exec_bind, exec_findUser]
  cases hget : world.users.get? userId with
  | none =>
      apply ConfirmStep.refused
      intro user object huser
      rw [hget] at huser
      cases huser
  | some user =>
      simp only
      split
      · rename_i hprefix
        apply ConfirmStep.refused
        intro user object _ howned
        rw [Owned, hprefix] at howned
        cases howned
      · have hcheck := checkObject_outcome request key world
        rw [Program.exec_bind]
        generalize (checkObject key).exec request.answer world = outcome
          at hcheck ⊢
        obtain ⟨result, after⟩ := outcome
        simp only at hcheck
        cases hcheck with
        | passed hobject hvalid =>
            obtain ⟨stored, hstore, hrow, hlookup⟩ := exec_storeKey
              request key hget
            simp only
            rw [Program.exec_bind, hstore]
            simp only
            obtain ⟨published, hannounce⟩ := exec_announce config
              request userId request.now user true stored
            rw [hannounce]
            exact .confirmed hrow hobject (hlookup.trans hobject) hvalid
        | removed hobject hrejected => exact .removed hobject hrejected
        | refused hkept =>
            apply ConfirmStep.refused
            intro user object _ _ hobject
            exact hkept object hobject

theorem deletePhoto_step (config : S3Config) :
    DeleteStep userId world
      ((deletePhoto config request.now userId).exec request.answer
        world).2 := by
  unfold deletePhoto
  rw [Program.exec_bind, exec_findUser]
  cases hget : world.users.get? userId with
  | none => exact .refused
  | some user =>
      simp only
      cases truthy user.photoKey with
      | none => exact .refused
      | some photoKey =>
          have hrow := get?_update_photoKey none hget
          simp only
          rw [Program.exec_bind, exec_update]
          simp only
          rw [Program.exec_bind, exec_deleteFromS3]
          simp only
          obtain ⟨published, hannounce⟩ := exec_announce config
            request userId request.now user false _
          rw [hannounce]
          exact .deleted hrow

theorem createUploadUrl_state (newId : String)
    (dto : CreatePhotoUploadUrlDto) :
    ((createUploadUrl request.now newId userId dto).exec request.answer
      world).2 = world := by
  simp only [createUploadUrl, Program.exec_bind, exec_findUser]
  cases world.users.get? userId with
  | none => rfl
  | some user => rfl

end Operations

section Steps

variable (store : PhotoStore) (userId : String) {key : String}
  {request : PhotoRequest} (config : S3Config)

theorem world_of_confirmPhoto
    (hoperation : request.operation = .confirmPhoto key) :
    ConfirmStep request userId key store.world
      (store.step config userId request).world := by
  simp only [PhotoStore.step, hoperation]
  exact confirmPhoto_step request userId key store.world config

theorem world_of_deletePhoto
    (hoperation : request.operation = .deletePhoto) :
    DeleteStep userId store.world (store.step config userId request).world := by
  simp only [PhotoStore.step, hoperation]
  exact deletePhoto_step request userId store.world config

theorem world_of_createUploadUrl {newId : String}
    {dto : CreatePhotoUploadUrlDto}
    (hoperation : request.operation = .createUploadUrl newId dto) :
    (store.step config userId request).world = store.world := by
  simp only [PhotoStore.step, hoperation, createUploadUrl_state]

end Steps

/-! ## The photo in use -/

/-- The `photo_key` of the user. -/
def ProfileWorld.photoKey (world : ProfileWorld) (userId : String) :
    Option String :=
  (world.users.get? userId).bind UserEntity.photoKey

theorem photoKey_of_row {world : ProfileWorld} {userId : String}
    {user : UserEntity} (hrow : world.users.get? userId = some user) :
    world.photoKey userId = user.photoKey := by
  simp [ProfileWorld.photoKey, hrow]

def PhotoStore.operate (config : S3Config) (userId : String)
    (store : PhotoStore) (request : PhotoRequest) : Option PhotoStore :=
  some (store.step config userId request)

/-! ## A photo key has an object -/

def PointsAtObject (userId : String) (world : ProfileWorld) : Prop :=
  ∀ key, world.photoKey userId = some key →
    ∃ object, world.objects.lookup key = some object

/-- The photo in use is confirmed again after something that is not a photo
was uploaded over it, and its deletion goes through. -/
def RemovesPhotoInUse (userId : String) (store : PhotoStore)
    (request : PhotoRequest) : Prop :=
  ∃ key object, request.operation = .confirmPhoto key ∧
    store.world.photoKey userId = some key ∧
    store.world.objects.lookup key = some object ∧
    RejectedObject object ∧ request.deleteFault = none

section Integrity

variable {store : PhotoStore} {userId key : String} {request : PhotoRequest}

theorem owned_of_photoKey (hsound : store.Sound)
    (hkey : store.world.photoKey userId = some key) :
    ∃ user, store.world.users.get? userId = some user ∧ Owned userId key := by
  simp only [ProfileWorld.photoKey, Option.bind_eq_some_iff] at hkey
  obtain ⟨user, hget, hphoto⟩ := hkey
  exact ⟨user, hget, hsound.keys userId user key hget hphoto⟩

theorem pointsAtObject_confirm (config : S3Config)
    (hoperation : request.operation = .confirmPhoto key)
    (hsound : store.Sound) (hpoints : PointsAtObject userId store.world) :
    PointsAtObject userId (store.step config userId request).world ↔
      ¬ RemovesPhotoInUse userId store request := by
  have hstep := world_of_confirmPhoto store userId config hoperation
  generalize (store.step config userId request).world = after at hstep ⊢
  cases hstep with
  | refused hkept =>
      apply iff_of_true hpoints
      rintro ⟨used, object, hused, hkey, hobject, hrejected, -⟩
      rw [hoperation] at hused
      cases hused
      obtain ⟨user, hget, howned⟩ := owned_of_photoKey hsound hkey
      exact hkept user object hget howned hobject hrejected
  | removed hobject hrejected =>
      by_cases hdelete : request.deleteFault = none
      · by_cases hkey : store.world.photoKey userId = some key
        · apply iff_of_false
          · intro hafter
            obtain ⟨object, hlookup⟩ := hafter key hkey
            simp [PhotoRequest.erased, hdelete] at hlookup
          · intro hkept
            exact hkept
              ⟨key, _, hoperation, hkey, hobject, hrejected, hdelete⟩
        · apply iff_of_true
          · intro used hused
            have hother : used ≠ key := by
              intro heq
              subst heq
              exact hkey hused
            simp only [PhotoRequest.erased, hdelete]
            rw [Finmap.lookup_erase_ne hother]
            exact hpoints used hused
          · rintro ⟨used, _, hused, hphoto, -⟩
            rw [hoperation] at hused
            cases hused
            exact hkey hphoto
      · apply iff_of_true
        · intro used hused
          obtain ⟨message, hmessage⟩ := Option.ne_none_iff_exists'.mp hdelete
          simp only [PhotoRequest.erased, hmessage]
          exact hpoints used hused
        · rintro ⟨_, _, -, -, -, -, hnone⟩
          exact hdelete hnone
  | confirmed hrow hobject hkept hvalid =>
      apply iff_of_true
      · intro used hused
        rw [photoKey_of_row hrow] at hused
        cases hused
        exact ⟨_, hkept⟩
      · rintro ⟨used, found, hused, -, hfound, hrejected, -⟩
        rw [hoperation] at hused
        cases hused
        rw [hobject] at hfound
        cases hfound
        exact hrejected.not_valid hvalid

theorem pointsAtObject_step (config : S3Config) (hsound : store.Sound)
    (hpoints : PointsAtObject userId store.world) :
    PointsAtObject userId (store.step config userId request).world ↔
      ¬ RemovesPhotoInUse userId store request := by
  cases hoperation : request.operation with
  | confirmPhoto key =>
      exact pointsAtObject_confirm config hoperation hsound hpoints
  | createUploadUrl newId dto =>
      apply iff_of_true
      · rw [world_of_createUploadUrl store userId config hoperation]
        exact hpoints
      · rintro ⟨key, object, hconfirm, -⟩
        rw [hoperation] at hconfirm
        cases hconfirm
  | upload key object =>
      apply iff_of_true
      · simp only [PhotoStore.step, hoperation]
        split
        · intro used hused
          by_cases heq : used = key
          · subst heq
            exact ⟨object, Finmap.lookup_insert _⟩
          · obtain ⟨kept, hkept⟩ := hpoints used hused
            exact ⟨kept, (Finmap.lookup_insert_of_ne _ heq).trans hkept⟩
        · exact hpoints
      · rintro ⟨used, found, hconfirm, -⟩
        rw [hoperation] at hconfirm
        cases hconfirm
  | deletePhoto =>
      apply iff_of_true
      · have hstep := world_of_deletePhoto store userId config hoperation
        generalize (store.step config userId request).world = after at hstep ⊢
        cases hstep with
        | refused => exact hpoints
        | deleted hrow =>
            intro used hused
            rw [photoKey_of_row hrow] at hused
            cases hused
      · rintro ⟨key, object, hconfirm, -⟩
        rw [hoperation] at hconfirm
        cases hconfirm

/-- Without a photo there is nothing to point at. -/
theorem photoKey_of_fresh (hfresh : store.Fresh) :
    store.world.photoKey userId = none := by
  unfold ProfileWorld.photoKey
  cases hget : store.world.users.get? userId with
  | none => rfl
  | some user =>
      exact hfresh.noPhoto user (Table.get?_eq_some_iff.mp hget).1

end Integrity

/-- In every state of a run the photo key of the user has an object, if and
only if no operation of the run removes the photo in use. -/
theorem photo_key_has_object_iff (config : S3Config) (userId : String)
    {start : PhotoStore} (hfresh : start.Fresh)
    (requests : List PhotoRequest) :
    (∀ before last, before <+: requests →
        run (PhotoStore.operate config userId) start before = some last →
          PointsAtObject userId last.world) ↔
      RunMeets (PhotoStore.operate config userId)
        (fun store request => ¬ RemovesPhotoInUse userId store request) start
        requests := by
  have hstep : ∀ (store : PhotoStore) (request : PhotoRequest),
      store.Sound → PointsAtObject userId store.world →
        ∃ next, store.operate config userId request = some next ∧
          next.Sound ∧ (PointsAtObject userId next.world ↔
            ¬ RemovesPhotoInUse userId store request) := by
    intro store request hsound hpoints
    exact ⟨store.step config userId request, rfl,
      PhotoStore.sound_step config userId request hsound,
      pointsAtObject_step config hsound hpoints⟩
  have hstart : PointsAtObject userId start.world := by
    intro key hkey
    rw [photoKey_of_fresh hfresh] at hkey
    cases hkey
  exact throughout_iff_runMeets hstep hfresh.sound hstart requests

theorem uploaded_photo_has_object :
    ∃ last, run (PhotoStore.operate floci dan.id) signedUpUsers danUploads =
        some last ∧ PointsAtObject dan.id last.world := by
  have hall := (photo_key_has_object_iff floci dan.id signedUpUsers_fresh
    danUploads).mpr
  refine ⟨_, rfl, hall ?_ danUploads _ List.prefix_rfl rfl⟩
  refine ⟨?_, fun issued hissued => ⟨?_, fun uploaded huploaded =>
    ⟨?_, fun _ _ => trivial⟩⟩⟩
  · rintro ⟨key, object, hconfirm, -⟩
    cases hconfirm
  · rintro ⟨key, object, hconfirm, -⟩
    cases hconfirm
  · rintro ⟨key, object, -, hkey, -⟩
    cases hissued
    cases huploaded
    have hnone : ((signedUpUsers.step floci dan.id
        (PhotoOperation.at danUploadUrl 0)).step floci dan.id
          (PhotoOperation.at (.upload danKey jpeg) 1000)).world.photoKey
            dan.id = none := by
      decide +kernel
    rw [hnone] at hkey
    cases hkey

def textFile : S3Object := ⟨"image/jpeg", [0x68, 0x69]⟩

/-- Dan uploads a text file through the same URL, over the photo in use. -/
def danOverwrites : List PhotoRequest :=
  danUploads ++ [PhotoOperation.at (.upload danKey textFile) 3000]

theorem photo_key_without_object :
    ¬ ∀ (config : S3Config) (userId : String) (start : PhotoStore),
      start.Fresh → ∀ requests : List PhotoRequest,
        (∀ request ∈ requests, request.sendFault = none) → ∀ last,
          run (PhotoStore.operate config userId) start requests = some last →
            PointsAtObject userId last.world := by
  intro hall
  have hsent : ∀ request ∈ danOverwrites ++
      [PhotoOperation.at (.confirmPhoto danKey) 4000],
        request.sendFault = none := by
    decide +kernel
  have hcheck : (run (PhotoStore.operate floci dan.id) signedUpUsers
      (danOverwrites ++
        [PhotoOperation.at (.confirmPhoto danKey) 4000])).any (fun last =>
      last.world.photoKey dan.id == some danKey &&
        (last.world.objects.lookup danKey).isNone) = true := by
    decide +kernel
  obtain ⟨last, hrun, hlast⟩ := exists_of_run_any hcheck
  simp only [Bool.and_eq_true, beq_iff_eq, Option.isNone_iff_eq_none] at hlast
  obtain ⟨object, hobject⟩ :=
    hall floci dan.id signedUpUsers signedUpUsers_fresh _ hsent last hrun
      danKey hlast.1
  rw [hlast.2] at hobject
  cases hobject

/-! ## A photo is an image -/

def PhotoIsReal (userId : String) (world : ProfileWorld) : Prop :=
  ∀ key object, world.photoKey userId = some key →
    world.objects.lookup key = some object → ValidObject object

/-- Something that is not a photo is uploaded over the photo in use. -/
def OverwritesPhotoInUse (userId : String) (store : PhotoStore)
    (request : PhotoRequest) : Prop :=
  ∃ key object, request.operation = .upload key object ∧
    store.world.photoKey userId = some key ∧
    store.acceptsUpload userId key request.now = true ∧ ¬ ValidObject object

section Reality

variable {store : PhotoStore} {userId key : String} {request : PhotoRequest}

theorem photoIsReal_upload {object : S3Object} (config : S3Config)
    (hoperation : request.operation = .upload key object)
    (hreal : PhotoIsReal userId store.world) :
    PhotoIsReal userId (store.step config userId request).world ↔
      ¬ OverwritesPhotoInUse userId store request := by
  simp only [PhotoStore.step, hoperation]
  by_cases haccepted : store.acceptsUpload userId key request.now = true
  · rw [if_pos haccepted]
    by_cases hkey : store.world.photoKey userId = some key
    · constructor
      · rintro hafter ⟨used, uploaded, hused, -, -, hinvalid⟩
        rw [hoperation] at hused
        cases hused
        exact hinvalid (hafter key object hkey (Finmap.lookup_insert _))
      · intro hkept used found hused hfound
        have hsame : some used = some key := hused.symm.trans hkey
        cases hsame
        rw [Finmap.lookup_insert] at hfound
        cases hfound
        by_contra hinvalid
        exact hkept ⟨key, object, hoperation, hkey, haccepted, hinvalid⟩
    · apply iff_of_true
      · intro used found hused hfound
        have hother : used ≠ key := by
          intro heq
          subst heq
          exact hkey hused
        rw [Finmap.lookup_insert_of_ne _ hother] at hfound
        exact hreal used found hused hfound
      · rintro ⟨used, uploaded, hused, hphoto, -⟩
        rw [hoperation] at hused
        cases hused
        exact hkey hphoto
  · rw [if_neg haccepted]
    apply iff_of_true hreal
    rintro ⟨used, uploaded, hused, -, hopen, -⟩
    rw [hoperation] at hused
    cases hused
    exact haccepted hopen

theorem photoIsReal_confirm (config : S3Config)
    (hoperation : request.operation = .confirmPhoto key)
    (hreal : PhotoIsReal userId store.world) :
    PhotoIsReal userId (store.step config userId request).world := by
  have hstep := world_of_confirmPhoto store userId config hoperation
  generalize (store.step config userId request).world = after at hstep ⊢
  cases hstep with
  | refused hkept => exact hreal
  | removed hobject hrejected =>
      intro used found hused hfound
      apply hreal used found hused
      unfold PhotoRequest.erased at hfound
      cases hdelete : request.deleteFault with
      | none =>
          simp only [hdelete] at hfound
          by_cases heq : used = key
          · rw [heq, Finmap.lookup_erase] at hfound
            cases hfound
          · rw [Finmap.lookup_erase_ne heq] at hfound
            exact hfound
      | some message =>
          simp only [hdelete] at hfound
          exact hfound
  | confirmed hrow hobject hkept hvalid =>
      intro used found hused hfound
      rw [photoKey_of_row hrow] at hused
      cases hused
      rw [hkept] at hfound
      cases hfound
      exact hvalid

theorem photoIsReal_step (config : S3Config)
    (hreal : PhotoIsReal userId store.world) :
    PhotoIsReal userId (store.step config userId request).world ↔
      ¬ OverwritesPhotoInUse userId store request := by
  have hupload : (∀ key object, request.operation ≠ .upload key object) →
      ¬ OverwritesPhotoInUse userId store request := by
    rintro hother ⟨key, object, hoperation, -⟩
    exact hother key object hoperation
  cases hoperation : request.operation with
  | upload key object => exact photoIsReal_upload config hoperation hreal
  | confirmPhoto key =>
      apply iff_of_true (photoIsReal_confirm config hoperation hreal)
      apply hupload
      simp [hoperation]
  | createUploadUrl newId dto =>
      apply iff_of_true
      · rw [world_of_createUploadUrl store userId config hoperation]
        exact hreal
      · apply hupload
        simp [hoperation]
  | deletePhoto =>
      apply iff_of_true
      · have hstep := world_of_deletePhoto store userId config hoperation
        generalize (store.step config userId request).world = after at hstep ⊢
        cases hstep with
        | refused => exact hreal
        | deleted hrow =>
            intro used found hused hfound
            rw [photoKey_of_row hrow] at hused
            cases hused
      · apply hupload
        simp [hoperation]

end Reality

/-- In every state of a run the photo of the user is an image, if and only if
no upload of the run replaces the photo in use by something else. -/
theorem photo_is_real_iff (config : S3Config) (userId : String)
    {start : PhotoStore} (hfresh : start.Fresh)
    (requests : List PhotoRequest) :
    (∀ before last, before <+: requests →
        run (PhotoStore.operate config userId) start before = some last →
          PhotoIsReal userId last.world) ↔
      RunMeets (PhotoStore.operate config userId)
        (fun store request => ¬ OverwritesPhotoInUse userId store request)
        start requests := by
  have hstep : ∀ (store : PhotoStore) (request : PhotoRequest),
      True → PhotoIsReal userId store.world →
        ∃ next, store.operate config userId request = some next ∧
          True ∧ (PhotoIsReal userId next.world ↔
            ¬ OverwritesPhotoInUse userId store request) := by
    intro store request _ hreal
    exact ⟨store.step config userId request, rfl, trivial,
      photoIsReal_step config hreal⟩
  have hstart : PhotoIsReal userId start.world := by
    intro key object hkey _
    rw [photoKey_of_fresh hfresh] at hkey
    cases hkey
  exact throughout_iff_runMeets hstep trivial hstart requests

theorem uploaded_photo_is_real :
    ∃ last, run (PhotoStore.operate floci dan.id) signedUpUsers danUploads =
        some last ∧ PhotoIsReal dan.id last.world := by
  have hall :=
    (photo_is_real_iff floci dan.id signedUpUsers_fresh danUploads).mpr
  refine ⟨_, rfl, hall ?_ danUploads _ List.prefix_rfl rfl⟩
  refine ⟨?_, fun issued hissued => ⟨?_, fun uploaded huploaded =>
    ⟨?_, fun _ _ => trivial⟩⟩⟩
  · rintro ⟨key, object, hupload, -⟩
    cases hupload
  · rintro ⟨key, object, hupload, -, -, hinvalid⟩
    cases hupload
    apply hinvalid
    decide +kernel
  · rintro ⟨key, object, hupload, -⟩
    cases hupload

theorem confirmed_photo_becomes_text :
    ¬ ∀ (config : S3Config) (userId : String) (start : PhotoStore),
      start.Fresh → ∀ requests : List PhotoRequest,
        (∀ request ∈ requests,
          request.deleteFault = none ∧ request.sendFault = none) →
        ∀ last,
          run (PhotoStore.operate config userId) start requests = some last →
            PhotoIsReal userId last.world := by
  intro hall
  have hcheck : (run (PhotoStore.operate floci dan.id) signedUpUsers
      danOverwrites).any (fun last =>
      last.world.photoKey dan.id == some danKey &&
        last.world.objects.lookup danKey == some textFile) = true := by
    decide +kernel
  obtain ⟨last, hrun, hlast⟩ := exists_of_run_any hcheck
  simp only [Bool.and_eq_true, beq_iff_eq] at hlast
  have hfaults : ∀ request ∈ danOverwrites,
      request.deleteFault = none ∧ request.sendFault = none := by
    decide +kernel
  have hvalid := hall floci dan.id signedUpUsers signedUpUsers_fresh
    danOverwrites hfaults last hrun danKey textFile hlast.1 hlast.2
  have hinvalid : ¬ ValidObject textFile := by
    decide +kernel
  exact hinvalid hvalid

end FakeBolt.Profile
