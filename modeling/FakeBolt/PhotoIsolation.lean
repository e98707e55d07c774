import FakeBolt.PhotoUploads
import FakeBolt.UuidType

/-!
# One user's photos are no other user's

Every user works on the same table, bucket and topic.  What keeps them apart
is the prefix of the keys: a key is stored for a user only under the user's
own prefix, and the prefixes of two users have no key in common.
-/

namespace FakeBolt.Profile

open Await Kafka Store ProfileService

/-! ## Prefixes -/

theorem owned_iff {userId key : String} :
    Owned userId key ↔ (photoPrefix userId).toList <+: key.toList := by
  unfold Owned
  exact List.isPrefixOf_iff_prefix

/-- A key under the prefixes of two users with ids of one length is the same
user's. -/
theorem eq_of_owned {first second key : String}
    (hfirst : isUuid first = true) (hsecond : isUuid second = true)
    (hownedFirst : Owned first key) (hownedSecond : Owned second key) :
    first = second := by
  rw [owned_iff] at hownedFirst hownedSecond
  have hlength : first.toList.length = second.toList.length := by
    rw [length_of_isUuid hfirst, length_of_isUuid hsecond]
  have hprefix : (photoPrefix first).toList = (photoPrefix second).toList := by
    apply List.IsPrefix.eq_of_length
    · apply List.prefix_of_prefix_length_le hownedFirst hownedSecond
      simp only [photoPrefix, String.toList_append, List.length_append]
      omega
    · simp only [photoPrefix, String.toList_append, List.length_append]
      omega
  simp only [photoPrefix, String.toList_append] at hprefix
  have hids := List.append_cancel_left (List.append_cancel_right hprefix)
  exact String.toList_injective hids

theorem owned_uploadKey (userId newId : String) (dto : CreatePhotoUploadUrlDto) :
    Owned userId
      (photoPrefix userId ++ newId ++ "." ++ EXTENSIONS dto.content_type) := by
  rw [owned_iff]
  simp only [String.toList_append, List.append_assoc]
  exact List.prefix_append _ _

/-! ## The calls of one user -/

/-- The calls that serve only this user. -/
def Serves (userId : String) : ProfileCall → Prop
  | .findOne id => id = userId
  | .update id patch =>
      id = userId ∧ ∀ key, patch.photoKey = some key → Owned userId key
  | .headObject key => Owned userId key
  | .getObject key _ => Owned userId key
  | .deleteObject key => Owned userId key
  | .send record => record.key = some userId ∧
      ∃ event, record.message = .userPhotoUpdated event ∧
        event.userId = userId

/-- A row that is found has the id that was asked for, and its photo key is
under the user's prefix. -/
def OwnKeys (call : ProfileCall) (reply : Except JsError call.Reply) : Prop :=
  match call, reply with
  | .findOne id, .ok (some user) =>
      user.id = id ∧ ∀ key, user.photoKey = some key → Owned id key
  | _, _ => True

section Confined

variable {userId key : String} {user : UserEntity}

theorem confined_findUser {post : Except JsError UserEntity → Prop}
    (hfound : ∀ user : UserEntity, user.id = userId →
      (∀ key, user.photoKey = some key → Owned userId key) →
        post (.ok user))
    (herror : ∀ error, post (.error error)) :
    (findUser userId).Confined (Serves userId) OwnKeys post := by
  simp only [findUser, UsersRepository.findOne, Program.confined_bind,
    Program.confined_call]
  refine ⟨rfl, ?_⟩
  intro reply hreply
  cases reply with
  | error error => exact herror error
  | ok row =>
      cases row with
      | none => exact herror _
      | some user => exact hfound user hreply.1 hreply.2

theorem confined_deleteFromS3 {post : Except JsError Unit → Prop}
    (howned : Owned userId key) (hdone : post (.ok ())) :
    (deleteFromS3 key).Confined (Serves userId) OwnKeys post := by
  simp only [deleteFromS3, S3Service.deleteObject, Program.confined_tryCatch,
    Program.confined_call]
  refine ⟨howned, ?_⟩
  intro reply _
  cases reply with
  | error error => exact hdone
  | ok value => exact hdone

theorem confined_getProfile (config : S3Config) :
    (getProfile config userId).Confined (Serves userId) OwnKeys
      fun _ => True := by
  unfold getProfile
  rw [Program.confined_bind]
  apply confined_findUser
  · intro user _ _
    trivial
  · intro error
    trivial

theorem confined_announce (config : S3Config) (now : Instant)
    (hasPhoto : Bool) (hid : user.id = userId) :
    (do publishPhotoUpdated now user hasPhoto
        getProfile config userId : ProfileM UserProfile).Confined
      (Serves userId) OwnKeys fun _ => True := by
  simp only [publishPhotoUpdated, KafkaProducer.publish,
    Program.confined_bind, Program.confined_call]
  have hserves : Serves userId (.send (photoRecord now user hasPhoto)) :=
    ⟨by rw [← hid]; rfl, _, rfl, hid⟩
  refine ⟨hserves, ?_⟩
  intro reply _
  cases reply with
  | error error => trivial
  | ok value => exact confined_getProfile config

theorem confined_checkObject {post : Except JsError Unit → Prop}
    (howned : Owned userId key) (hpassed : post (.ok ()))
    (herror : ∀ error, post (.error error)) :
    (checkObject key).Confined (Serves userId) OwnKeys post := by
  simp only [checkObject, S3Service.headObject, Program.confined_bind,
    Program.confined_tryCatch, Program.confined_call]
  refine ⟨howned, ?_⟩
  intro reply _
  cases reply with
  | error error =>
      simp only
      split
      · exact herror _
      · exact herror error
  | ok object =>
      simp only [Program.confined_pure]
      split
      · rw [Program.confined_bind]
        exact confined_deleteFromS3 howned (herror _)
      · simp only [S3Service.readFirstBytes, Program.confined_bind,
          Program.confined_call]
        refine ⟨howned, ?_⟩
        intro firstBytes _
        cases firstBytes with
        | error error => exact herror error
        | ok bytes =>
            simp only
            split
            · rw [Program.confined_bind]
              exact confined_deleteFromS3 howned (herror _)
            · exact hpassed

theorem confined_storeKey {post : Except JsError Unit → Prop}
    (howned : Owned userId key)
    (hkeys : ∀ key, user.photoKey = some key → Owned userId key)
    (hdone : post (.ok ())) (herror : ∀ error, post (.error error)) :
    (storeKey user userId key).Confined (Serves userId) OwnKeys post := by
  unfold storeKey
  split
  · simp only [UsersRepository.update, Program.confined_bind,
      Program.confined_call]
    have hserves : Serves userId (.update userId { photoKey := some key }) := by
      refine ⟨rfl, ?_⟩
      intro stored hstored
      cases hstored
      exact howned
    refine ⟨hserves, ?_⟩
    intro reply _
    cases reply with
    | error error => exact herror error
    | ok value =>
        cases hprevious : truthy user.photoKey with
        | none => exact hdone
        | some previousKey =>
            have hstored := (truthy_eq_some_iff.mp hprevious).1
            exact confined_deleteFromS3 (hkeys previousKey hstored) hdone
  · exact hdone

theorem confined_createUploadUrl (now : Instant) (newId userId : String)
    (dto : CreatePhotoUploadUrlDto) :
    (createUploadUrl now newId userId dto).Confined (Serves userId) OwnKeys
      fun result => ∀ reply, result = .ok reply →
        Owned userId reply.upload_url.key := by
  unfold createUploadUrl
  rw [Program.confined_bind]
  apply confined_findUser
  · intro user _ _ reply hreply
    cases hreply
    exact owned_uploadKey userId newId dto
  · intro error reply hreply
    cases hreply

theorem confined_confirmPhoto (config : S3Config) (now : Instant)
    (userId key : String) :
    (confirmPhoto config now userId key).Confined (Serves userId) OwnKeys
      fun _ => True := by
  unfold confirmPhoto
  rw [Program.confined_bind]
  apply confined_findUser
  · intro user hid hkeys
    simp only
    split
    · trivial
    · rename_i hprefix
      have howned : Owned userId key := by
        rw [Bool.not_eq_false] at hprefix
        exact hprefix
      rw [Program.confined_bind]
      apply confined_checkObject howned
      · simp only
        rw [Program.confined_bind]
        apply confined_storeKey howned hkeys
        · exact confined_announce config now true hid
        · intro error
          trivial
      · intro error
        trivial
  · intro error
    trivial

theorem confined_deletePhoto (config : S3Config) (now : Instant)
    (userId : String) :
    (deletePhoto config now userId).Confined (Serves userId) OwnKeys
      fun _ => True := by
  unfold deletePhoto
  rw [Program.confined_bind]
  apply confined_findUser
  · intro user hid hkeys
    simp only
    cases hphoto : truthy user.photoKey with
    | none => trivial
    | some photoKey =>
        have hstored := (truthy_eq_some_iff.mp hphoto).1
        simp only [UsersRepository.update, Program.confined_bind,
          Program.confined_call]
        have hserves : Serves userId (.update userId { photoKey := none }) := by
          refine ⟨rfl, ?_⟩
          intro key hkey
          cases hkey
        refine ⟨hserves, ?_⟩
        intro reply _
        cases reply with
        | error error => trivial
        | ok value =>
            apply confined_deleteFromS3 (hkeys photoKey hstored)
            have hannounce := confined_announce config now false hid
            rw [Program.confined_bind] at hannounce
            exact hannounce
  · intro error
    trivial

end Confined

/-! ## Worlds and calls -/

/-- Every photo key is under the prefix of its user. -/
def KeysOwned (world : ProfileWorld) : Prop :=
  ∀ id user key, world.users.get? id = some user →
    user.photoKey = some key → Owned id key

section Calls

variable {userId : String} (request : PhotoRequest) {world : ProfileWorld}

theorem answer_cases (request : PhotoRequest) (call : ProfileCall)
    (world : ProfileWorld) :
    (∃ message, request.fault call = some message ∧
      request.answer call world = (.error (.error message), world)) ∨
    (request.fault call = none ∧
      request.answer call world = world.answer call) :=
  faulty_cases call request.fault world

theorem keysOwned_answer {call : ProfileCall} (hserves : Serves userId call)
    (hkeys : KeysOwned world) :
    OwnKeys call (request.answer call world).1 ∧
      KeysOwned (request.answer call world).2 := by
  rcases answer_cases request call world with
    ⟨message, -, hreply⟩ | ⟨-, hreply⟩
  · rw [hreply]
    refine ⟨?_, hkeys⟩
    cases call <;> trivial
  · rw [hreply]
    cases call with
    | findOne id =>
        refine ⟨?_, hkeys⟩
        simp only [ProfileWorld.answer]
        cases hget : world.users.get? id with
        | none => trivial
        | some user =>
            exact ⟨Table.key_of_get? hget, fun key => hkeys id user key hget⟩
    | update id patch =>
        refine ⟨trivial, ?_⟩
        intro other user key hget hkey
        obtain ⟨hid, hpatch⟩ := hserves
        subst hid
        simp only [ProfileWorld.answer, Table.get?_update,
          Option.map_eq_some_iff] at hget
        obtain ⟨row, hrow, hpatched⟩ := hget
        by_cases hother : other = id
        · rw [if_pos hother] at hpatched
          subst hpatched
          rw [hother]
          exact hpatch key hkey
        · rw [if_neg hother] at hpatched
          subst hpatched
          exact hkeys other row key hrow hkey
    | headObject key => exact ⟨trivial, by
        simp only [ProfileWorld.answer]
        split <;> exact hkeys⟩
    | getObject key count => exact ⟨trivial, by
        simp only [ProfileWorld.answer]
        split
        · split <;> exact hkeys
        · exact hkeys⟩
    | deleteObject key => exact ⟨trivial, hkeys⟩
    | send record => exact ⟨trivial, hkeys⟩

theorem isAbout_of_serves {record : ProducerRecord} {other : String}
    (hserves : Serves userId (.send record)) :
    isAbout other record = (userId == other) := by
  obtain ⟨hkey, event, hmessage, huser⟩ := hserves
  simp [isAbout, hkey, hmessage, huser]

theorem not_concerns_of_serves {other : String} {call : ProfileCall}
    (huser : isUuid userId = true) (hother : isUuid other = true)
    (hne : userId ≠ other) (hserves : Serves userId call) :
    ¬ (Access.call call).Concerns other := by
  intro hconcerns
  apply hne
  cases call with
  | findOne id => exact hserves.symm.trans hconcerns
  | update id patch => exact hserves.1.symm.trans hconcerns
  | headObject key => exact eq_of_owned huser hother hserves hconcerns
  | getObject key count => exact eq_of_owned huser hother hserves hconcerns
  | deleteObject key => exact eq_of_owned huser hother hserves hconcerns
  | send record =>
      simp only [Access.Concerns, isAbout_of_serves hserves] at hconcerns
      exact beq_iff_eq.mp hconcerns

/-- A call that does not concern a user leaves everything of the user's as it
was. -/
theorem sameWorld_of_answer {other : String} {call : ProfileCall}
    (hfree : ¬ (Access.call call).Concerns other) :
    SameWorld other world (request.answer call world).2 := by
  rcases answer_cases request call world with
    ⟨message, -, hreply⟩ | ⟨-, hreply⟩
  · rw [hreply]
    exact ⟨rfl, fun _ _ => rfl, rfl⟩
  · rw [hreply]
    cases call with
    | findOne id => exact ⟨rfl, fun _ _ => rfl, rfl⟩
    | update id patch =>
        refine ⟨?_, fun _ _ => rfl, rfl⟩
        exact (Table.get?_update_of_ne _ _ (Ne.symm hfree)).symm
    | headObject key =>
        simp only [ProfileWorld.answer]
        split <;> exact ⟨rfl, fun _ _ => rfl, rfl⟩
    | getObject key count =>
        simp only [ProfileWorld.answer]
        split
        · split <;> exact ⟨rfl, fun _ _ => rfl, rfl⟩
        · exact ⟨rfl, fun _ _ => rfl, rfl⟩
    | deleteObject key =>
        refine ⟨rfl, ?_, rfl⟩
        intro kept howned
        have hne : kept ≠ key := by
          intro heq
          subst heq
          exact hfree howned
        exact (Finmap.lookup_erase_ne hne).symm
    | send record =>
        refine ⟨rfl, fun _ _ => rfl, ?_⟩
        have hnot : isAbout other record = false := by
          simpa [Access.Concerns] using hfree
        simp [ProfileWorld.answer, hnot]

/-- A call that serves the user is answered alike in worlds that agree on
what is the user's. -/
theorem answer_agrees {world' : ProfileWorld} {call : ProfileCall}
    (hserves : Serves userId call) (hsame : SameWorld userId world world') :
    (request.answer call world).1 = (request.answer call world').1 ∧
      SameWorld userId (request.answer call world).2
        (request.answer call world').2 := by
  rcases answer_cases request call world with
    ⟨message, hfault, hreply⟩ | ⟨hfault, hreply⟩
  · have hreply' : request.answer call world' =
        (.error (.error message), world') := by
      simp [PhotoRequest.answer, ProfileWorld.faulty, hfault, faultable]
    rw [hreply, hreply']
    exact ⟨rfl, hsame⟩
  · have hreply' : request.answer call world' = world'.answer call := by
      simp [PhotoRequest.answer, ProfileWorld.faulty, hfault, faultable]
    rw [hreply, hreply']
    cases call with
    | findOne id =>
        cases hserves
        simp only [ProfileWorld.answer, hsame.row]
        exact ⟨trivial, hsame⟩
    | update id patch =>
        refine ⟨rfl, ?_, hsame.objects, hsame.events⟩
        simp only [ProfileWorld.answer, Table.get?_update, hsame.row]
    | headObject key =>
        simp only [ProfileWorld.answer, hsame.objects key hserves]
        split
        · exact ⟨rfl, hsame⟩
        · exact ⟨rfl, hsame⟩
    | getObject key count =>
        simp only [ProfileWorld.answer, hsame.objects key hserves]
        split
        · split
          · exact ⟨rfl, hsame⟩
          · exact ⟨rfl, hsame⟩
        · exact ⟨rfl, hsame⟩
    | deleteObject key =>
        refine ⟨rfl, hsame.row, ?_, hsame.events⟩
        intro kept howned
        simp only [ProfileWorld.answer]
        by_cases heq : kept = key
        · rw [heq, Finmap.lookup_erase, Finmap.lookup_erase]
        · rw [Finmap.lookup_erase_ne heq, Finmap.lookup_erase_ne heq]
          exact hsame.objects kept howned
    | send record =>
        refine ⟨rfl, hsame.row, hsame.objects, ?_⟩
        simp only [ProfileWorld.answer, List.filter_append, hsame.events]

end Calls

/-! ## Operations -/

theorem SameWorld.refl (userId : String) (world : ProfileWorld) :
    SameWorld userId world world :=
  ⟨rfl, fun _ _ => rfl, rfl⟩

theorem SameWorld.trans {userId : String} {first second third : ProfileWorld}
    (hfirst : SameWorld userId first second)
    (hsecond : SameWorld userId second third) :
    SameWorld userId first third where
  row := hfirst.row.trans hsecond.row
  objects key howned :=
    (hfirst.objects key howned).trans (hsecond.objects key howned)
  events := hfirst.events.trans hsecond.events

theorem SameWorld.symm {userId : String} {first second : ProfileWorld}
    (hsame : SameWorld userId first second) :
    SameWorld userId second first where
  row := hsame.row.symm
  objects key howned := (hsame.objects key howned).symm
  events := hsame.events.symm

theorem SameFor.refl (userId : String) (store : PhotoStore) :
    SameFor userId store store :=
  ⟨.refl userId store.world, rfl⟩

theorem SameFor.trans {userId : String} {first second third : PhotoStore}
    (hfirst : SameFor userId first second)
    (hsecond : SameFor userId second third) : SameFor userId first third :=
  ⟨hfirst.world.trans hsecond.world, hfirst.issued.trans hsecond.issued⟩

theorem SameFor.symm {userId : String} {first second : PhotoStore}
    (hsame : SameFor userId first second) : SameFor userId second first :=
  ⟨hsame.world.symm, hsame.issued.symm⟩

section Programs

variable {α : Type} {program : ProfileM α} {post : Except JsError α → Prop}
  {userId : String} {world : ProfileWorld}

theorem keeps_of_confined
    (hconfined : program.Confined (Serves userId) OwnKeys post)
    (request : PhotoRequest) (hkeys : KeysOwned world) :
    (∀ call ∈ program.calls request.answer world, Serves userId call) ∧
      post (program.exec request.answer world).1 ∧
      KeysOwned (program.exec request.answer world).2 :=
  hconfined.of_exec request.answer KeysOwned
    (fun _ _ hserves hkept => keysOwned_answer request hserves hkept) hkeys

theorem sameWorld_of_confined {other : String}
    (hconfined : program.Confined (Serves userId) OwnKeys post)
    (request : PhotoRequest) (huser : isUuid userId = true)
    (hother : isUuid other = true) (hne : userId ≠ other)
    (hkeys : KeysOwned world) :
    SameWorld other world (program.exec request.answer world).2 := by
  have hrun := hconfined.of_exec request.answer
    (fun after => KeysOwned after ∧ SameWorld other world after)
    (by
      intro call after hserves hkept
      obtain ⟨hpossible, hnext⟩ := keysOwned_answer request hserves hkept.1
      have hfree := not_concerns_of_serves huser hother hne hserves
      exact ⟨hpossible, hnext,
        hkept.2.trans (sameWorld_of_answer request hfree)⟩)
    ⟨hkeys, .refl other world⟩
  exact hrun.2.2.2

theorem agree_of_confined {world' : ProfileWorld}
    (hconfined : program.Confined (Serves userId) OwnKeys post)
    (request : PhotoRequest) (hkeys : KeysOwned world)
    (hsame : SameWorld userId world world') :
    (program.exec request.answer world).1 =
        (program.exec request.answer world').1 ∧
      SameWorld userId (program.exec request.answer world).2
        (program.exec request.answer world').2 := by
  obtain ⟨hresult, -, hafter⟩ := hconfined.agree request.answer request.answer
    (fun first second => KeysOwned first ∧ SameWorld userId first second)
    (by
      intro call first second hserves hrel
      obtain ⟨hpossible, hnext⟩ := keysOwned_answer request hserves hrel.1
      obtain ⟨hreply, hagree⟩ := answer_agrees request hserves hrel.2
      exact ⟨hpossible, hreply, hnext, hagree⟩)
    ⟨hkeys, hsame⟩
  exact ⟨hresult, hafter.2⟩

end Programs

/-- Every stored key and every URL that is out is under the prefix of its
user. -/
structure PhotoStore.Sound (store : PhotoStore) : Prop where
  keys : KeysOwned store.world
  urls : ∀ given ∈ store.issued, Owned given.userId given.url.key

namespace PhotoStore

variable {store : PhotoStore} {userId : String}

theorem Fresh.sound (hfresh : store.Fresh) : store.Sound where
  keys := by
    intro id user key hget hkey
    have hmem := (Table.get?_eq_some_iff.mp hget).1
    rw [hfresh.noPhoto user hmem] at hkey
    cases hkey
  urls := by
    rw [hfresh.noUrl]
    intro given hgiven
    cases hgiven

theorem owned_of_acceptsUpload {key : String} {now : Instant}
    (hsound : store.Sound)
    (haccepted : store.acceptsUpload userId key now = true) :
    Owned userId key := by
  simp only [acceptsUpload, List.any_eq_true, Bool.and_eq_true,
    beq_iff_eq] at haccepted
  obtain ⟨given, hgiven, ⟨huser, hkey⟩, -⟩ := haccepted
  rw [← huser, ← hkey]
  exact hsound.urls given hgiven

theorem sound_step (config : S3Config) (userId : String)
    (request : PhotoRequest) (hsound : store.Sound) :
    (store.step config userId request).Sound := by
  unfold step
  cases request.operation with
  | createUploadUrl newId dto =>
      have hkeep := keeps_of_confined
        (confined_createUploadUrl request.now newId userId dto) request
        hsound.keys
      refine ⟨hkeep.2.2, ?_⟩
      intro given hgiven
      rcases List.mem_append.mp hgiven with hold | hnew
      · exact hsound.urls given hold
      · unfold returnedUrls at hnew
        split at hnew
        · rename_i reply hreply
          rw [List.mem_singleton] at hnew
          subst hnew
          exact hkeep.2.1 reply hreply
        · cases hnew
  | upload key object =>
      simp only
      split
      · exact ⟨hsound.keys, hsound.urls⟩
      · exact hsound
  | confirmPhoto key =>
      have hkeep := keeps_of_confined
        (confined_confirmPhoto config request.now userId key) request
        hsound.keys
      exact ⟨hkeep.2.2, hsound.urls⟩
  | deletePhoto =>
      have hkeep := keeps_of_confined
        (confined_deletePhoto config request.now userId) request hsound.keys
      exact ⟨hkeep.2.2, hsound.urls⟩

/-- An operation makes only accesses that serve its user. -/
theorem not_concerns_of_access {other : String} (config : S3Config)
    (request : PhotoRequest) (huser : isUuid userId = true)
    (hother : isUuid other = true) (hne : userId ≠ other)
    (hsound : store.Sound) {access : Access}
    (haccess : access ∈ store.accesses config userId request) :
    ¬ access.Concerns other := by
  have hcalls : ∀ {α : Type} {program : ProfileM α}
      {post : Except JsError α → Prop},
      program.Confined (Serves userId) OwnKeys post →
        access ∈ (program.calls request.answer store.world).map .call →
          ¬ access.Concerns other := by
    intro α program post hconfined hmem
    obtain ⟨call, hcall, heq⟩ := List.mem_map.mp hmem
    have hkeep := keeps_of_confined hconfined request hsound.keys
    rw [← heq]
    exact not_concerns_of_serves huser hother hne (hkeep.1 call hcall)
  unfold accesses at haccess
  cases hoperation : request.operation with
  | createUploadUrl newId dto =>
      rw [hoperation] at haccess
      exact hcalls (confined_createUploadUrl _ newId userId dto) haccess
  | upload key object =>
      rw [hoperation] at haccess
      simp only at haccess
      split at haccess
      · rename_i haccepted
        rw [List.mem_singleton] at haccess
        subst haccess
        intro hconcerns
        have howned := owned_of_acceptsUpload hsound haccepted
        exact hne (eq_of_owned huser hother howned hconcerns)
      · cases haccess
  | confirmPhoto key =>
      rw [hoperation] at haccess
      exact hcalls (confined_confirmPhoto config _ userId key) haccess
  | deletePhoto =>
      rw [hoperation] at haccess
      exact hcalls (confined_deletePhoto config _ userId) haccess

theorem sameFor_step {other : String} (config : S3Config)
    (request : PhotoRequest) (huser : isUuid userId = true)
    (hother : isUuid other = true) (hne : userId ≠ other)
    (hsound : store.Sound) :
    SameFor other store (store.step config userId request) := by
  unfold step
  cases request.operation with
  | createUploadUrl newId dto =>
      refine ⟨sameWorld_of_confined
        (confined_createUploadUrl request.now newId userId dto) request huser
        hother hne hsound.keys, ?_⟩
      have hnone : ∀ result, (returnedUrls userId result).filter
          (fun given => given.userId == other) = [] := by
        intro result
        cases result with
        | error error => rfl
        | ok reply => simp [returnedUrls, hne]
      simp only [List.filter_append, hnone, List.append_nil]
  | upload key object =>
      simp only
      split
      · rename_i haccepted
        refine ⟨⟨rfl, ?_, rfl⟩, rfl⟩
        intro kept howned
        have hkept : kept ≠ key := by
          intro heq
          subst heq
          have hkey := owned_of_acceptsUpload hsound haccepted
          exact hne (eq_of_owned huser hother hkey howned)
        exact (Finmap.lookup_insert_of_ne _ hkept).symm
      · exact .refl other store
  | confirmPhoto key =>
      exact ⟨sameWorld_of_confined
        (confined_confirmPhoto config request.now userId key) request huser
        hother hne hsound.keys, rfl⟩
  | deletePhoto =>
      exact ⟨sameWorld_of_confined
        (confined_deletePhoto config request.now userId) request huser
        hother hne hsound.keys, rfl⟩

theorem acceptsUpload_eq_of_sameFor {store' : PhotoStore}
    (hsame : SameFor userId store store') (key : String) (now : Instant) :
    store.acceptsUpload userId key now =
      store'.acceptsUpload userId key now := by
  have hfilter : ∀ other : PhotoStore,
      other.acceptsUpload userId key now =
        (other.issued.filter (fun given => given.userId == userId)).any
          fun given => given.url.key == key && given.url.valid now := by
    intro other
    simp only [acceptsUpload, List.any_filter, Bool.and_assoc]
  rw [hfilter store, hfilter store', hsame.issued]

theorem step_agrees {store' : PhotoStore} (config : S3Config)
    (request : PhotoRequest) (hsound : store.Sound)
    (hsame : SameFor userId store store') :
    SameFor userId (store.step config userId request)
      (store'.step config userId request) := by
  unfold step
  cases request.operation with
  | createUploadUrl newId dto =>
      have hagree := agree_of_confined
        (confined_createUploadUrl request.now newId userId dto) request
        hsound.keys hsame.world
      refine ⟨hagree.2, ?_⟩
      simp only [List.filter_append, hsame.issued, hagree.1]
  | upload key object =>
      simp only [acceptsUpload_eq_of_sameFor hsame]
      split
      · refine ⟨⟨hsame.world.row, ?_, hsame.world.events⟩, hsame.issued⟩
        intro kept howned
        simp only
        by_cases heq : kept = key
        · rw [heq, Finmap.lookup_insert, Finmap.lookup_insert]
        · rw [Finmap.lookup_insert_of_ne _ heq,
            Finmap.lookup_insert_of_ne _ heq]
          exact hsame.world.objects kept howned
      · exact hsame
  | confirmPhoto key =>
      have hagree := agree_of_confined
        (confined_confirmPhoto config request.now userId key) request
        hsound.keys hsame.world
      exact ⟨hagree.2, hsame.issued⟩
  | deletePhoto =>
      have hagree := agree_of_confined
        (confined_deletePhoto config request.now userId) request hsound.keys
        hsame.world
      exact ⟨hagree.2, hsame.issued⟩

/-! ## Runs -/

theorem sound_after (config : S3Config) (hsound : store.Sound)
    (requests : List UserRequest) : (store.after config requests).Sound := by
  induction requests generalizing store with
  | nil => exact hsound
  | cons made requests ih =>
      exact ih (sound_step config made.userId made.request hsound)

/-- What a user sees after a run is what it sees after its own part of the
run. -/
theorem sameFor_own {store' : PhotoStore} (config : S3Config)
    {requests : List UserRequest}
    (hids : ∀ made ∈ requests, isUuid made.userId = true)
    (huser : isUuid userId = true) (hsound : store.Sound)
    (hsound' : store'.Sound) (hsame : SameFor userId store store') :
    SameFor userId (store.after config requests)
      (store'.after config
        (requests.filter fun made => made.userId == userId)) := by
  induction requests generalizing store store' with
  | nil => exact hsame
  | cons made requests ih =>
      have hrest : ∀ later ∈ requests, isUuid later.userId = true :=
        fun later hlater => hids later (List.mem_cons_of_mem made hlater)
      have hnext : (store.step config made.userId made.request).Sound :=
        sound_step config made.userId made.request hsound
      by_cases hown : made.userId = userId
      · rw [List.filter_cons_of_pos (by simpa using hown)]
        apply ih hrest hnext
        · exact sound_step config made.userId made.request hsound'
        · subst hown
          exact step_agrees config made.request hsound hsame
      · rw [List.filter_cons_of_neg (by simpa using hown)]
        apply ih hrest hnext hsound'
        have hapart := sameFor_step config made.request
          (hids made List.mem_cons_self) huser hown hsound
        exact hapart.symm.trans hsame

end PhotoStore

/-- No operation of a user reads, writes or announces anything of another
user's, and what is another user's after a run is what its own operations
made of it. -/
theorem photos_isolated (config : S3Config) {start : PhotoStore}
    (hfresh : start.Fresh) {requests : List UserRequest}
    (hids : ∀ made ∈ requests, isUuid made.userId = true) {userId : String}
    (huser : isUuid userId = true) :
    (∀ before made later, requests = before ++ made :: later →
      made.userId ≠ userId →
        (∀ access ∈ (start.after config before).accesses config made.userId
            made.request, ¬ access.Concerns userId) ∧
        SameFor userId (start.after config before)
          (start.after config (before ++ [made]))) ∧
    SameFor userId (start.after config requests)
      (start.after config
        (requests.filter fun made => made.userId == userId)) := by
  have hsound := hfresh.sound
  constructor
  · intro before made later hrequests hne
    have hmade : isUuid made.userId = true := by
      apply hids
      rw [hrequests]
      exact List.mem_append_right before List.mem_cons_self
    have hreached := PhotoStore.sound_after config hsound before
    constructor
    · intro access haccess
      exact PhotoStore.not_concerns_of_access config made.request hmade huser
        hne hreached haccess
    · unfold PhotoStore.after
      rw [List.foldl_append]
      exact PhotoStore.sameFor_step config made.request hmade huser hne
        hreached
  · exact PhotoStore.sameFor_own config hids huser hsound hsound
      (.refl userId start)

/-- Eva's attempt to confirm Dan's photo as her own. -/
theorem foreign_confirmation_isolated :
    (∀ access ∈ (signedUpUsers.after floci
        (danUploads.map fun request => ⟨dan.id, request⟩)).accesses floci
          eva.id (PhotoOperation.at (.confirmPhoto danKey) 3000),
      ¬ access.Concerns dan.id) ∧
    SameFor dan.id
      (signedUpUsers.after floci
        (danUploads.map (fun request => ⟨dan.id, request⟩) ++
          [⟨eva.id, PhotoOperation.at (.confirmPhoto danKey) 3000⟩]))
      (signedUpUsers.after floci
        (danUploads.map fun request => ⟨dan.id, request⟩)) := by
  have hids : ∀ made ∈ (danUploads.map (fun request => ⟨dan.id, request⟩) ++
      [⟨eva.id, PhotoOperation.at (.confirmPhoto danKey) 3000⟩] :
        List UserRequest), isUuid made.userId = true := by
    decide +kernel
  have hdan : isUuid dan.id = true := by decide +kernel
  obtain ⟨hstep, hown⟩ :=
    photos_isolated floci signedUpUsers_fresh hids hdan
  constructor
  · exact (hstep _ _ [] rfl (by decide +kernel)).1
  · have hfilter : (danUploads.map (fun request => ⟨dan.id, request⟩) ++
        [⟨eva.id, PhotoOperation.at (.confirmPhoto danKey) 3000⟩] :
          List UserRequest).filter (fun made => made.userId == dan.id) =
        danUploads.map fun request => ⟨dan.id, request⟩ := by
      decide +kernel
    rw [hfilter] at hown
    exact hown

end FakeBolt.Profile
