import FakeBolt.AwaitTriples
import FakeBolt.ProfileService

/-!
# Photo calls that may fail anywhere

What one execution of `confirmPhoto` or `deletePhoto` can leave behind when
any call in it may fail: nothing new, a key that was stored but not
announced, or a key that was stored (or cleared) and announced.
-/

namespace FakeBolt.Profile

open Await Kafka Store ProfileService

/-- A response after which a client does not repeat its call. -/
def isClientError : JsError → Bool
  | .http exception _ => decide (400 ≤ exception.status ∧ exception.status < 500)
  | _ => false

def Owned (userId key : String) : Prop :=
  (photoPrefix userId).toList.isPrefixOf key.toList = true

theorem Owned.truthy {userId key : String} (howned : Owned userId key) :
    truthy (some key) = some key := by
  rw [truthy_eq_some_iff]
  refine ⟨rfl, ?_⟩
  intro hempty
  subst hempty
  simp [Owned, photoPrefix] at howned

/-- The object passes all checks of `confirmPhoto`. -/
def ValidPhoto (objects : Bucket) (key : String) : Prop :=
  ∃ object, objects.lookup key = some object ∧
    object.contentType ∈ ALLOWED_PHOTO_TYPES ∧
    object.bytes.length ≤ MAX_PHOTO_BYTES ∧
    matchesImageSignature object.contentType
      (object.bytes.take SIGNATURE_BYTES) = true

instance (objects : Bucket) (key : String) :
    Decidable (ValidPhoto objects key) :=
  match hobject : objects.lookup key with
  | none => isFalse fun ⟨object, hsome, _⟩ => by
      rw [hobject] at hsome
      cases hsome
  | some object => decidable_of_iff
      (object.contentType ∈ ALLOWED_PHOTO_TYPES ∧
        object.bytes.length ≤ MAX_PHOTO_BYTES ∧
        matchesImageSignature object.contentType
          (object.bytes.take SIGNATURE_BYTES) = true)
      (by simp [ValidPhoto, hobject])

theorem matchesImageSignature_nil (contentType : String) :
    matchesImageSignature contentType [] = false := by
  simp [matchesImageSignature, startsWith]

def photoRecord (now : Instant) (user : UserEntity) (hasPhoto : Bool) :
    ProducerRecord where
  key := some user.id
  message := .userPhotoUpdated
    { userId := user.id
      role := user.role.value
      hasPhoto := hasPhoto
      timestamp := isoString now }

theorem get?_update_photoKey {users : Table UserEntity} {userId : String}
    {user : UserEntity} (photoKey : Option String)
    (hget : users.get? userId = some user) :
    (users.update userId { photoKey := photoKey }).get? userId =
      some { user with photoKey := photoKey } := by
  simp [hget, Indexed.patch, UserPatch.apply]

theorem faulty_cases (call : ProfileCall) (fault : ProfileCall → Option String)
    (world : ProfileWorld) :
    (∃ message, fault call = some message ∧
      ProfileWorld.faulty call fault world =
        (.error (.error message), world)) ∨
    (fault call = none ∧
      ProfileWorld.faulty call fault world = world.answer call) := by
  unfold ProfileWorld.faulty
  cases hfault : fault call with
  | some message =>
      left
      exact ⟨message, rfl, rfl⟩
  | none =>
      right
      exact ⟨rfl, rfl⟩

section Specs

variable {allowed : (ProfileCall → Option String) → Prop}
  {world : ProfileWorld} {userId key : String}

theorem ensures_findUser
    {post : Except JsError UserEntity → ProfileWorld → Prop}
    (hfound : ∀ user, world.users.get? userId = some user →
      post (.ok user) world)
    (hmissing : world.users.get? userId = none →
      post (.error (.http .notFound "User not found")) world)
    (hfault : ∀ message, post (.error (.error message)) world) :
    (findUser userId).Ensures ProfileWorld.faulty allowed world post := by
  simp only [findUser, UsersRepository.findOne, Program.ensures_bind,
    Program.ensures_call]
  intro fault _
  rcases faulty_cases (.findOne userId) fault world with
    ⟨message, -, hreply⟩ | ⟨-, hreply⟩
  · rw [hreply]
    exact hfault message
  · rw [hreply]
    simp only [ProfileWorld.answer]
    cases hget : world.users.get? userId with
    | none => exact hmissing hget
    | some user => exact hfound user hget

theorem ensures_deleteFromS3
    {post : Except JsError Unit → ProfileWorld → Prop}
    (hkept : post (.ok ()) world)
    (herased : post (.ok ()) { world with objects := world.objects.erase key }) :
    (deleteFromS3 key).Ensures ProfileWorld.faulty allowed world post := by
  simp only [deleteFromS3, S3Service.deleteObject, Program.ensures_tryCatch,
    Program.ensures_call, Program.ensures_pure]
  intro fault _
  rcases faulty_cases (.deleteObject key) fault world with
    ⟨message, -, hreply⟩ | ⟨-, hreply⟩
  · rw [hreply]
    exact hkept
  · rw [hreply]
    exact herased

theorem ensures_publish {now : Instant} {user : UserEntity} {hasPhoto : Bool}
    {post : Except JsError Unit → ProfileWorld → Prop}
    (hsent : post (.ok ()) { world with
      published := world.published ++ [photoRecord now user hasPhoto] })
    (hfault : ∀ fault message, allowed fault →
      fault (.send (photoRecord now user hasPhoto)) = some message →
        post (.error (.error message)) world) :
    (publishPhotoUpdated now user hasPhoto).Ensures ProfileWorld.faulty allowed
      world post := by
  simp only [publishPhotoUpdated, KafkaProducer.publish, Program.ensures_call]
  intro fault hallowed
  rcases faulty_cases (.send (photoRecord now user hasPhoto)) fault world with
    ⟨message, hfailed, hreply⟩ | ⟨-, hreply⟩
  · exact hreply ▸ hfault fault message hallowed hfailed
  · exact hreply ▸ hsent

theorem ensures_getProfile {config : S3Config} {user : UserEntity}
    {post : Except JsError UserProfile → ProfileWorld → Prop}
    (huser : world.users.get? userId = some user)
    (hread : ∀ result, (∀ error, result = .error error →
      isClientError error = false) → post result world) :
    (getProfile config userId).Ensures ProfileWorld.faulty allowed world
      post := by
  simp only [getProfile, Program.ensures_bind, Program.ensures_pure]
  apply ensures_findUser
  · intro found _
    exact hread _ (by simp)
  · intro hmissing
    rw [huser] at hmissing
    cases hmissing
  · intro message
    apply hread
    intro error herror
    cases herror
    rfl

theorem ensures_headObject
    {post : Except JsError (Option HeadObjectOutput) → ProfileWorld → Prop}
    (hfound : ∀ object, world.objects.lookup key = some object →
      post (.ok (some ⟨object.contentType, some object.bytes.length⟩)) world)
    (hmissing : world.objects.lookup key = none → post (.ok none) world)
    (hfault : ∀ message, post (.error (.error message)) world) :
    (S3Service.headObject key).Ensures ProfileWorld.faulty allowed world
      post := by
  simp only [S3Service.headObject, Program.ensures_tryCatch,
    Program.ensures_bind, Program.ensures_call, Program.ensures_pure]
  intro fault _
  rcases faulty_cases (.headObject key) fault world with
    ⟨message, -, hreply⟩ | ⟨-, hreply⟩
  · rw [hreply]
    exact hfault message
  · rw [hreply]
    simp only [ProfileWorld.answer]
    cases hlookup : world.objects.lookup key with
    | none => exact hmissing hlookup
    | some object => exact hfound object hlookup

theorem ensures_readFirstBytes {object : S3Object}
    {post : Except JsError (List UInt8) → ProfileWorld → Prop}
    (hobject : world.objects.lookup key = some object)
    (hempty : object.bytes = [] → ∀ error, post (.error error) world)
    (hread : object.bytes ≠ [] →
      post (.ok (object.bytes.take SIGNATURE_BYTES)) world)
    (hfault : ∀ message, post (.error (.error message)) world) :
    (S3Service.readFirstBytes key SIGNATURE_BYTES).Ensures ProfileWorld.faulty
      allowed world post := by
  simp only [S3Service.readFirstBytes, Program.ensures_call]
  intro fault _
  rcases faulty_cases (.getObject key SIGNATURE_BYTES) fault world with
    ⟨message, -, hreply⟩ | ⟨-, hreply⟩
  · rw [hreply]
    exact hfault message
  · rw [hreply]
    simp only [ProfileWorld.answer, hobject]
    split
    · rename_i hnone
      exact hempty hnone _
    · rename_i hsome
      exact hread hsome

theorem validPhoto_iff {objects : Bucket} {object : S3Object}
    (hobject : objects.lookup key = some object) :
    ValidPhoto objects key ↔ object.contentType ∈ ALLOWED_PHOTO_TYPES ∧
      object.bytes.length ≤ MAX_PHOTO_BYTES ∧
      matchesImageSignature object.contentType
        (object.bytes.take SIGNATURE_BYTES) = true := by
  simp [ValidPhoto, hobject]

/-- An object that passes stays; only one that does not is removed. -/
theorem ensures_checkObject
    {post : Except JsError Unit → ProfileWorld → Prop}
    (hvalid : ValidPhoto world.objects key → post (.ok ()) world)
    (hrefused : ¬ ValidPhoto world.objects key → ∀ error objects,
      post (.error error) { world with objects := objects })
    (hfault : ∀ message, post (.error (.error message)) world) :
    (checkObject key).Ensures ProfileWorld.faulty allowed world post := by
  unfold checkObject
  rw [Program.ensures_bind]
  apply ensures_headObject
  · intro object hlookup
    simp only
    split
    · rename_i hbad
      rw [Program.ensures_bind]
      have hinvalid : ¬ ValidPhoto world.objects key := by
        rw [validPhoto_iff hlookup]
        rintro ⟨htype, hlength, -⟩
        rcases hbad with hnot | hlong
        · simp only [List.contains_eq_mem, decide_eq_false_iff_not] at hnot
          exact hnot htype
        · simp only [Option.getD_some] at hlong
          omega
      apply ensures_deleteFromS3
      · exact hrefused hinvalid _ world.objects
      · exact hrefused hinvalid _ _
    · rename_i hgood
      simp only [not_or, Bool.not_eq_false, List.contains_eq_mem,
        decide_eq_true_eq, Option.getD_some, gt_iff_lt, not_lt] at hgood
      have hvalidity := validPhoto_iff hlookup
      rw [Program.ensures_bind]
      apply ensures_readFirstBytes hlookup
      · intro hempty error
        apply hrefused _ _ world.objects
        rw [hvalidity, hempty, List.take_nil, matchesImageSignature_nil]
        rintro ⟨-, -, hfake⟩
        cases hfake
      · intro _
        simp only
        split
        · rename_i hfake
          have hinvalid : ¬ ValidPhoto world.objects key := by
            rw [hvalidity, hfake]
            rintro ⟨-, -, hreal⟩
            cases hreal
          rw [Program.ensures_bind]
          apply ensures_deleteFromS3
          · exact hrefused hinvalid _ world.objects
          · exact hrefused hinvalid _ _
        · rename_i hreal
          rw [Bool.not_eq_false] at hreal
          exact hvalid (hvalidity.mpr ⟨hgood.1, hgood.2, hreal⟩)
      · exact hfault
  · intro hmissing
    have hinvalid : ¬ ValidPhoto world.objects key := by
      rintro ⟨stored, hstored, -⟩
      rw [hmissing] at hstored
      cases hstored
    exact hrefused hinvalid _ world.objects
  · exact hfault

theorem ensures_storeKey {user : UserEntity}
    {post : Except JsError Unit → ProfileWorld → Prop}
    (hsame : user.photoKey = some key → post (.ok ()) world)
    (hfault : user.photoKey ≠ some key → ∀ message,
      post (.error (.error message)) world)
    (hstored : user.photoKey ≠ some key → ∀ objects,
      objects.lookup key = world.objects.lookup key →
        post (.ok ()) { world with
          users := world.users.update userId { photoKey := some key }
          objects := objects }) :
    (storeKey user userId key).Ensures ProfileWorld.faulty allowed world
      post := by
  unfold storeKey
  split
  · rename_i hnew
    simp only [UsersRepository.update, Program.ensures_bind,
      Program.ensures_call]
    intro fault _
    rcases faulty_cases (.update userId { photoKey := some key }) fault world
      with ⟨message, -, hreply⟩ | ⟨-, hreply⟩
    · rw [hreply]
      exact hfault hnew message
    · rw [hreply]
      simp only [ProfileWorld.answer]
      cases hprevious : truthy user.photoKey with
      | none => exact hstored hnew world.objects rfl
      | some previousKey =>
          have hne : key ≠ previousKey := by
            intro heq
            subst heq
            exact hnew (truthy_eq_some_iff.mp hprevious).1
          apply ensures_deleteFromS3
          · exact hstored hnew world.objects rfl
          · exact hstored hnew _ (Finmap.lookup_erase_ne hne)
  · rename_i hsame'
    exact hsame (not_not.mp hsame')

end Specs

/-! ## Whole calls -/

/-- How a call of `confirmPhoto` can end. -/
inductive ConfirmOutcome (userId key : String) (now : Instant)
    (user : UserEntity) (world : ProfileWorld) :
    Except JsError UserProfile → ProfileWorld → Prop
  | refused {error objects}
      (hkept : user.photoKey = some key → ValidPhoto world.objects key →
        isClientError error = false ∧ objects = world.objects) :
      ConfirmOutcome userId key now user world (.error error)
        { world with objects := objects }
  | stored {error after} (howned : Owned userId key)
      (herror : isClientError error = false)
      (huser : after.users.get? userId = some { user with photoKey := some key })
      (hpublished : after.published = world.published)
      (hvalid : ValidPhoto after.objects key) :
      ConfirmOutcome userId key now user world (.error error) after
  | announced {result after} (howned : Owned userId key)
      (hresult : ∀ error, result = .error error → isClientError error = false)
      (huser : after.users.get? userId = some { user with photoKey := some key })
      (hpublished : after.published =
        world.published ++ [photoRecord now user true]) :
      ConfirmOutcome userId key now user world result after

/-- How a call of `deletePhoto` can end whose publish does not fail. -/
inductive DeleteOutcome (userId : String) (now : Instant) (user : UserEntity)
    (world : ProfileWorld) : Except JsError UserProfile → ProfileWorld → Prop
  | refused {error} :
      DeleteOutcome userId now user world (.error error) world
  | announced {result after}
      (hresult : ∀ error, result = .error error → isClientError error = false)
      (huser : after.users.get? userId = some { user with photoKey := none })
      (hpublished : after.published =
        world.published ++ [photoRecord now user false]) :
      DeleteOutcome userId now user world result after

variable {allowed : (ProfileCall → Option String) → Prop}
  {world : ProfileWorld} {userId key : String} {user : UserEntity}

/-- The end of both calls: the publish, then the reply. -/
theorem ensures_announce (config : S3Config) (now : Instant)
    {after : ProfileWorld} {hasPhoto : Bool} {photoKey : Option String}
    {post : Except JsError UserProfile → ProfileWorld → Prop}
    (huser : after.users.get? userId = some { user with photoKey := photoKey })
    (hsent : ∀ result, (∀ error, result = .error error →
      isClientError error = false) → post result
        { after with
          published := after.published ++ [photoRecord now user hasPhoto] })
    (hfault : ∀ fault message, allowed fault →
      fault (.send (photoRecord now user hasPhoto)) = some message →
        post (.error (.error message)) after) :
    (do publishPhotoUpdated now user hasPhoto
        getProfile config userId : ProfileM UserProfile).Ensures
      ProfileWorld.faulty allowed after post := by
  rw [Program.ensures_bind]
  apply ensures_publish
  · simp only
    apply ensures_getProfile
    · exact huser
    · exact hsent
  · exact hfault

theorem ensures_confirmPhoto (config : S3Config) (now : Instant)
    (hget : world.users.get? userId = some user)
    (howned : user.photoKey = some key → Owned userId key) :
    (confirmPhoto config now userId key).Ensures ProfileWorld.faulty allowed
      world (ConfirmOutcome userId key now user world) := by
  have hfault : ∀ message, ConfirmOutcome userId key now user world
      (.error (.error message)) world :=
    fun message => .refused fun _ _ => ⟨rfl, rfl⟩
  have hannounce : ∀ after : ProfileWorld, Owned userId key →
      ValidPhoto after.objects key → after.published = world.published →
      after.users.get? userId = some { user with photoKey := some key } →
      (do publishPhotoUpdated now user true
          getProfile config userId : ProfileM UserProfile).Ensures
        ProfileWorld.faulty allowed after
        (ConfirmOutcome userId key now user world) := by
    intro after hprefix hvalid hpublished huser
    apply ensures_announce config now huser
    · intro result hresult
      exact .announced hprefix hresult huser (by rw [hpublished])
    · intro fault message _ _
      exact .stored hprefix rfl huser hpublished hvalid
  unfold confirmPhoto
  rw [Program.ensures_bind]
  apply ensures_findUser
  · intro found hfound
    rw [hget] at hfound
    cases hfound
    simp only
    split
    · rename_i hforeign
      refine .refused fun hsame _ => ?_
      have hprefix := howned hsame
      unfold Owned at hprefix
      rw [hforeign] at hprefix
      cases hprefix
    · rename_i hprefix
      rw [Bool.not_eq_false] at hprefix
      rw [Program.ensures_bind]
      apply ensures_checkObject
      · intro hvalid
        rw [Program.ensures_bind]
        apply ensures_storeKey
        · intro hsame
          have huser : world.users.get? userId =
              some { user with photoKey := some key } := by
            rw [hget, ← hsame]
          exact hannounce world hprefix hvalid rfl huser
        · intro _ message
          exact hfault message
        · intro _ objects hlookup
          have hkept : ValidPhoto objects key := by
            obtain ⟨object, hobject, hgood⟩ := hvalid
            exact ⟨object, hlookup.trans hobject, hgood⟩
          have huser := get?_update_photoKey (some key) hget
          exact hannounce
            { world with
              users := world.users.update userId { photoKey := some key }
              objects := objects } hprefix hkept rfl huser
      · intro hinvalid error objects
        exact .refused fun _ hvalid => (hinvalid hvalid).elim
      · exact hfault
  · intro hmissing
    rw [hget] at hmissing
    cases hmissing
  · exact hfault

theorem ensures_deletePhoto (config : S3Config) (now : Instant)
    (hpublish : ∀ fault, allowed fault → ∀ record, fault (.send record) = none)
    (hget : world.users.get? userId = some user) :
    (deletePhoto config now userId).Ensures ProfileWorld.faulty allowed
      world (DeleteOutcome userId now user world) := by
  have huser := get?_update_photoKey none hget
  have hannounce : ∀ objects,
      (do publishPhotoUpdated now user false
          getProfile config userId : ProfileM UserProfile).Ensures
        ProfileWorld.faulty allowed
        { world with
          users := world.users.update userId { photoKey := none }
          objects := objects }
        (DeleteOutcome userId now user world) := by
    intro objects
    apply ensures_announce config now huser
    · intro result hresult
      exact .announced hresult huser rfl
    · intro fault message hallowed hfailed
      rw [hpublish fault hallowed] at hfailed
      cases hfailed
  unfold deletePhoto
  rw [Program.ensures_bind]
  apply ensures_findUser
  · intro found hfound
    rw [hget] at hfound
    cases hfound
    simp only
    cases truthy user.photoKey with
    | none => exact .refused
    | some photoKey =>
        simp only [UsersRepository.update]
        rw [Program.ensures_bind, Program.ensures_call]
        intro fault _
        rcases faulty_cases (.update userId { photoKey := none }) fault world
          with ⟨message, -, hreply⟩ | ⟨-, hreply⟩
        · rw [hreply]
          exact .refused
        · rw [hreply]
          simp only [ProfileWorld.answer]
          rw [Program.ensures_bind]
          apply ensures_deleteFromS3
          · exact hannounce world.objects
          · exact hannounce _
  · intro hmissing
    rw [hget] at hmissing
    cases hmissing
  · intro message
    exact .refused

end FakeBolt.Profile
