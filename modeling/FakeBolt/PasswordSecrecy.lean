import FakeBolt.AccountRuns
import FakeBolt.AuthEndpoints
import FakeBolt.AwaitTwoRuns
import Mathlib.Data.List.Forall2

/-!
# What auth-service tells about passwords

Passwords may be exchanged for others, the same for the same, and salted
differently: no answer, no token, no event, no counter and no other column of
the users table is any different.  All that can be learned from them is which
passwords are the same.
-/

namespace FakeBolt.Auth

open Await Interleaving Profile Store Transition UsersService AuthService

section Exchange

variable (bcrypt : Bcrypt) (exchange : String → String)

/-- Hashes of a password and of the one it was exchanged for. -/
def AlikeDigest (digest digest' : String) : Prop :=
  ∃ password salt salt', digest = bcrypt.hash salt password ∧
    digest' = bcrypt.hash salt' (exchange password)

structure AlikeUser (user user' : UserEntity) : Prop where
  digest : AlikeDigest bcrypt exchange user.password user'.password
  rest : user' = { user with password := user'.password }

structure AlikeWorld (world world' : EndpointsWorld) : Prop where
  users : List.Forall₂ (AlikeUser bcrypt exchange) world.users.rows
    world'.users.rows
  httpRequestsTotal : world'.httpRequestsTotal = world.httpRequestsTotal
  objects : world'.objects = world.objects
  published : world'.published = world.published

inductive AlikeAccountCall :
    (call call' : AuthCall) → (call.Reply → call'.Reply → Prop) → Prop where
  | findOneByEmail (email : String) :
      AlikeAccountCall (.findOneByEmail email) (.findOneByEmail email)
        (Option.Rel (AlikeUser bcrypt exchange))
  | findOneById (id : String) :
      AlikeAccountCall (.findOneById id) (.findOneById id)
        (Option.Rel (AlikeUser bcrypt exchange))
  | save {user user' : UserEntity} (huser : AlikeUser bcrypt exchange user user') :
      AlikeAccountCall (.save user) (.save user') (AlikeUser bcrypt exchange)
  | hash (password : String) :
      AlikeAccountCall (.hash password) (.hash (exchange password))
        (AlikeDigest bcrypt exchange)
  | compare (password : String) {digest digest' : String}
      (hdigest : AlikeDigest bcrypt exchange digest digest') :
      AlikeAccountCall (.compare password digest)
        (.compare (exchange password) digest') Eq
  | signAsync (payload : TokenPayload) :
      AlikeAccountCall (.signAsync payload) (.signAsync payload) Eq
  | inc (labels : RequestLabels) :
      AlikeAccountCall (.inc labels) (.inc labels) Eq

/-- A call that is not answered with a user. -/
def ProfileCall.LooksUpNobody : ProfileCall → Prop
  | .findOne _ => False
  | _ => True

inductive AlikeProfileCall :
    (call call' : ProfileCall) → (call.Reply → call'.Reply → Prop) → Prop where
  | findOne (id : String) :
      AlikeProfileCall (.findOne id) (.findOne id)
        (Option.Rel (AlikeUser bcrypt exchange))
  | other (call : ProfileCall) (hcall : ProfileCall.LooksUpNobody call) :
      AlikeProfileCall call call Eq

inductive AlikeCall :
    (call call' : EndpointsCall) → (call.Reply → call'.Reply → Prop) →
      Prop where
  | account {call call' : AuthCall} {answers : call.Reply → call'.Reply → Prop}
      (hcall : AlikeAccountCall bcrypt exchange call call' answers) :
      AlikeCall (.account call) (.account call') answers
  | profile {call call' : ProfileCall}
      {answers : call.Reply → call'.Reply → Prop}
      (hcall : AlikeProfileCall bcrypt exchange call call' answers) :
      AlikeCall (.profile call) (.profile call') answers
  | put (key : String) (object : S3Object) :
      AlikeCall (.put key object) (.put key object) Eq

end Exchange

/-- Another salt may be drawn. -/
structure AlikeInput (input input' : AuthInput) : Prop where
  fault : input'.fault = input.fault
  now : input'.now = input.now

/-! ## Tables -/

section Tables

variable {R : UserEntity → UserEntity → Prop}

theorem find?_alike {check : UserEntity → Bool}
    (hcheck : ∀ user user', R user user' → check user' = check user)
    {rows rows' : List UserEntity} (hrows : List.Forall₂ R rows rows') :
    Option.Rel R (rows.find? check) (rows'.find? check) := by
  induction hrows with
  | nil => exact .none
  | @cons user user' rows rows' huser hrest ih =>
      rw [List.find?_cons, List.find?_cons, hcheck user user' huser]
      cases check user with
      | true => exact .some huser
      | false => exact ih

theorem forall_alike {check check' : UserEntity → Prop}
    (hcheck : ∀ user user', R user user' → (check user ↔ check' user'))
    {rows rows' : List UserEntity} (hrows : List.Forall₂ R rows rows') :
    (∀ user ∈ rows, check user) ↔ ∀ user' ∈ rows', check' user' := by
  induction hrows with
  | nil => simp
  | cons huser hrest ih => simp [hcheck _ _ huser, ih]

end Tables

variable {bcrypt : Bcrypt} {exchange : String → String}
  {user user' : UserEntity} {users users' : Table UserEntity}

theorem AlikeUser.key (huser : AlikeUser bcrypt exchange user user') :
    Indexed.key user' = Indexed.key user := by
  rw [huser.rest]
  rfl

theorem insert?_alike
    (hrows : List.Forall₂ (AlikeUser bcrypt exchange) users.rows users'.rows)
    (huser : AlikeUser bcrypt exchange user user') :
    Option.Rel (fun after after' =>
        List.Forall₂ (AlikeUser bcrypt exchange) after.rows after'.rows)
      (users.insert? user) (users'.insert? user') := by
  have hclash : ∀ row row', AlikeUser bcrypt exchange row row' →
      (¬ Indexed.clash row user ↔ ¬ Indexed.clash row' user') := by
    intro row row' hrow
    rw [hrow.rest, huser.rest]
    exact Iff.rfl
  have hfree := forall_alike hclash hrows
  unfold Table.insert?
  by_cases hnone : ∀ row ∈ users.rows, ¬ Indexed.clash row user
  · rw [dif_pos hnone, dif_pos (hfree.mp hnone)]
    exact .some (List.rel_append hrows (.cons huser .nil))
  · rw [dif_neg hnone, dif_neg (fun hnone' => hnone (hfree.mpr hnone'))]
    exact .none

theorem update_alike (id : String) (patch : UserPatch)
    (hrows : List.Forall₂ (AlikeUser bcrypt exchange) users.rows users'.rows) :
    List.Forall₂ (AlikeUser bcrypt exchange) (users.update id patch).rows
      (users'.update id patch).rows := by
  unfold Table.update
  rw [List.forall₂_map_left_iff, List.forall₂_map_right_iff]
  apply hrows.imp
  intro row row' hrow
  rw [hrow.key]
  split
  · refine ⟨hrow.digest, ?_⟩
    rw [hrow.rest]
    rfl
  · exact hrow

theorem get?_alike (id : String)
    (hrows : List.Forall₂ (AlikeUser bcrypt exchange) users.rows users'.rows) :
    Option.Rel (AlikeUser bcrypt exchange) (users.get? id)
      (users'.get? id) := by
  apply find?_alike _ hrows
  intro row row' hrow
  rw [hrow.key]

/-! ## Calls -/

variable {runtime : AuthRuntime} {world world' : EndpointsWorld}
  {input input' : AuthInput}

theorem compare_alike
    (hexchange : ∀ password other,
      bcrypt.secret (exchange password) = bcrypt.secret (exchange other) ↔
        bcrypt.secret password = bcrypt.secret other)
    (password : String) {digest digest' : String}
    (hdigest : AlikeDigest bcrypt exchange digest digest') :
    bcrypt.compare (exchange password) digest' =
      bcrypt.compare password digest := by
  obtain ⟨hashed, salt, salt', heq, heq'⟩ := hdigest
  rw [heq, heq', bcrypt.compare_hash, bcrypt.compare_hash]
  exact decide_eq_decide.mpr (hexchange password hashed)

theorem account_alike
    (hexchange : ∀ password other,
      runtime.bcrypt.secret (exchange password) =
          runtime.bcrypt.secret (exchange other) ↔
        runtime.bcrypt.secret password = runtime.bcrypt.secret other)
    {call call' : AuthCall} {answers : call.Reply → call'.Reply → Prop}
    (hcall : AlikeAccountCall runtime.bcrypt exchange call call' answers)
    (hinput : AlikeInput input input')
    (hworld : AlikeWorld runtime.bcrypt exchange world world') :
    Agree answers
        (EndpointsWorld.answer runtime (.account call) input world).1
        (EndpointsWorld.answer runtime (.account call') input' world').1 ∧
      AlikeWorld runtime.bcrypt exchange
        (EndpointsWorld.answer runtime (.account call) input world).2
        (EndpointsWorld.answer runtime (.account call') input' world').2 := by
  have hfault' := hinput.fault
  have hcounted : ∀ labels, AlikeWorld runtime.bcrypt exchange
      { world with
        httpRequestsTotal := world.httpRequestsTotal ++ [labels] }
      { world' with
        httpRequestsTotal := world'.httpRequestsTotal ++ [labels] } := by
    intro labels
    refine ⟨hworld.users, ?_, hworld.objects, hworld.published⟩
    simp only
    rw [hworld.httpRequestsTotal]
  cases hfault : input.fault with
  | some message =>
      rw [hfault] at hfault'
      cases hcall with
      | inc labels => exact ⟨.ok rfl, hcounted labels⟩
      | _ =>
          simp only [EndpointsWorld.answer, AuthWorld.answer, hfault, hfault']
          exact ⟨.error _, hworld⟩
  | none =>
      rw [hfault] at hfault'
      cases hcall with
      | inc labels => exact ⟨.ok rfl, hcounted labels⟩
      | findOneByEmail email =>
          simp only [EndpointsWorld.answer, AuthWorld.answer, hfault, hfault']
          refine ⟨.ok (find?_alike ?_ hworld.users), hworld⟩
          intro row row' hrow
          rw [hrow.rest]
          rfl
      | findOneById id =>
          simp only [EndpointsWorld.answer, AuthWorld.answer, hfault, hfault']
          exact ⟨.ok (get?_alike id hworld.users), hworld⟩
      | @save user user' huser =>
          simp only [EndpointsWorld.answer, AuthWorld.answer, hfault, hfault',
            insertUser, EndpointsWorld.accounts]
          have hinsert := insert?_alike hworld.users huser
          generalize world.users.insert? user = inserted,
            world'.users.insert? user' = inserted' at hinsert
          cases hinsert with
          | none => exact ⟨.error _, hworld⟩
          | some hrows =>
              exact ⟨.ok huser, hrows, hworld.httpRequestsTotal, hworld.objects,
                hworld.published⟩
      | hash password =>
          simp only [EndpointsWorld.answer, AuthWorld.answer, hfault, hfault']
          exact ⟨.ok ⟨password, input.salt, input'.salt, rfl, rfl⟩, hworld⟩
      | compare password hdigest =>
          simp only [EndpointsWorld.answer, AuthWorld.answer, hfault, hfault']
          exact ⟨.ok (compare_alike hexchange password hdigest).symm, hworld⟩
      | signAsync payload =>
          simp only [EndpointsWorld.answer, AuthWorld.answer, hfault, hfault',
            hinput.now]
          exact ⟨.ok rfl, hworld⟩

theorem profile_alike {call call' : ProfileCall}
    {answers : call.Reply → call'.Reply → Prop}
    (hcall : AlikeProfileCall bcrypt exchange call call' answers)
    (hinput : AlikeInput input input')
    (hworld : AlikeWorld bcrypt exchange world world') :
    Agree answers
        (EndpointsWorld.answer runtime (.profile call) input world).1
        (EndpointsWorld.answer runtime (.profile call') input' world').1 ∧
      AlikeWorld bcrypt exchange
        (EndpointsWorld.answer runtime (.profile call) input world).2
        (EndpointsWorld.answer runtime (.profile call') input' world').2 := by
  have hfault' := hinput.fault
  have hobjects := hworld.objects
  have hread : AlikeWorld bcrypt exchange world
      { world' with objects := world.objects } :=
    ⟨hworld.users, hworld.httpRequestsTotal, rfl, hworld.published⟩
  cases hfault : input.fault with
  | some message =>
      rw [hfault] at hfault'
      cases hcall with
      | _ =>
          simp only [EndpointsWorld.answer, hfault, hfault']
          exact ⟨.error _, hworld⟩
  | none =>
      rw [hfault] at hfault'
      cases hcall with
      | findOne id =>
          simp only [EndpointsWorld.answer, ProfileWorld.answer, hfault,
            hfault']
          exact ⟨.ok (get?_alike id hworld.users), hworld⟩
      | other _ hnobody =>
          cases call with
          | findOne id => exact hnobody.elim
          | update id patch =>
              simp only [EndpointsWorld.answer, ProfileWorld.answer, hfault,
                hfault']
              exact ⟨.ok rfl, update_alike id patch hworld.users,
                hworld.httpRequestsTotal, hobjects, hworld.published⟩
          | headObject key =>
              simp only [EndpointsWorld.answer, ProfileWorld.answer, hfault,
                hfault', EndpointsWorld.profiles, hobjects]
              cases world.objects.lookup key with
              | none => exact ⟨.error _, hread⟩
              | some object => exact ⟨.ok rfl, hread⟩
          | getObject key count =>
              simp only [EndpointsWorld.answer, ProfileWorld.answer, hfault,
                hfault', EndpointsWorld.profiles, hobjects]
              cases world.objects.lookup key with
              | none => exact ⟨.error _, hread⟩
              | some object =>
                  simp only
                  split
                  · exact ⟨.error _, hread⟩
                  · exact ⟨.ok rfl, hread⟩
          | deleteObject key =>
              simp only [EndpointsWorld.answer, ProfileWorld.answer, hfault,
                hfault']
              refine ⟨.ok rfl, hworld.users, hworld.httpRequestsTotal, ?_,
                hworld.published⟩
              simp only [EndpointsWorld.profiles]
              rw [hobjects]
          | send record =>
              simp only [EndpointsWorld.answer, ProfileWorld.answer, hfault,
                hfault']
              refine ⟨.ok rfl, hworld.users, hworld.httpRequestsTotal, hobjects,
                ?_⟩
              simp only [EndpointsWorld.profiles]
              rw [hworld.published]

theorem answeredAlike
    (hexchange : ∀ password other,
      runtime.bcrypt.secret (exchange password) =
          runtime.bcrypt.secret (exchange other) ↔
        runtime.bcrypt.secret password = runtime.bcrypt.secret other) :
    AnsweredAlike (EndpointsWorld.answer runtime)
      (AlikeCall runtime.bcrypt exchange) AlikeInput
      (AlikeWorld runtime.bcrypt exchange) := by
  intro call call' answers hcall input input' world world' hinput hworld
  cases hcall with
  | account hcall => exact account_alike hexchange hcall hinput hworld
  | profile hcall => exact profile_alike hcall hinput hworld
  | put key object =>
      have hfault' := hinput.fault
      cases hfault : input.fault with
      | some message =>
          rw [hfault] at hfault'
          simp only [EndpointsWorld.answer, hfault, hfault']
          exact ⟨.error _, hworld⟩
      | none =>
          rw [hfault] at hfault'
          simp only [EndpointsWorld.answer, hfault, hfault']
          refine ⟨.ok rfl, hworld.users, hworld.httpRequestsTotal, ?_,
            hworld.published⟩
          simp only
          rw [hworld.objects]

/-! ## Accounts -/

def RegisterDto.exchanged (exchange : String → String) (dto : RegisterDto) :
    RegisterDto :=
  { dto with password := exchange dto.password }

def LoginDto.exchanged (exchange : String → String) (dto : LoginDto) :
    LoginDto :=
  { dto with password := exchange dto.password }

abbrev AccountsAlike (bcrypt : Bcrypt) (exchange : String → String)
    {α α' : Type} (related : α → α' → Prop)
    (program : AuthM α) (program' : AuthM α') : Prop :=
  program.Alike (AlikeAccountCall bcrypt exchange) related program'

theorem inc_alike (method route status_code : String) :
    AccountsAlike bcrypt exchange Eq (inc method route status_code)
      (inc method route status_code) :=
  .call (AlikeAccountCall.inc _)

theorem counted_throw_alike {α : Type} (method route status_code : String)
    (error : JsError) :
    AccountsAlike bcrypt exchange Eq
      (inc method route status_code >>= fun _ => (throw error : AuthM α))
      (inc method route status_code >>= fun _ => (throw error : AuthM α)) :=
  .bind (inc_alike _ _ _) fun _ _ _ => .throw error

theorem counted_token_alike (route status_code : String)
    (huser : AlikeUser bcrypt exchange user user') :
    AccountsAlike bcrypt exchange Eq
      (inc "POST" route status_code >>= fun _ => signAsync user)
      (inc "POST" route status_code >>= fun _ => signAsync user') := by
  rw [huser.rest]
  exact .bind (inc_alike _ _ _) fun _ _ _ =>
    .call (AlikeAccountCall.signAsync _)

theorem register_alike (newId : String) (dto : RegisterDto) :
    AccountsAlike bcrypt exchange Eq (register newId dto)
      (register newId (dto.exchanged exchange)) := by
  apply Program.Alike.tryCatch
  · apply Program.Alike.bind (.call (.findOneByEmail dto.email))
    intro found found' hfound
    cases hfound with
    | some huser => exact counted_throw_alike _ _ _ _
    | none =>
        apply Program.Alike.bind (.call (.hash dto.password))
        intro digest digest' hdigest
        apply Program.Alike.bind (.call (.save ⟨hdigest, rfl⟩))
        intro saved saved' hsaved
        exact counted_token_alike _ _ hsaved
  · intro error
    unfold registerFailed
    split
    · exact .throw error
    · exact .throw _

theorem login_alike (dto : LoginDto) :
    AccountsAlike bcrypt exchange Eq (login dto)
      (login (dto.exchanged exchange)) := by
  apply Program.Alike.tryCatch
  · apply Program.Alike.bind (.call (.findOneByEmail dto.email))
    intro found found' hfound
    cases hfound with
    | none => exact counted_throw_alike _ _ _ _
    | some huser =>
        apply Program.Alike.bind (.call (.compare dto.password huser.digest))
        intro valid valid' hvalid
        rw [← hvalid]
        split
        · exact counted_throw_alike _ _ _ _
        · exact counted_token_alike _ _ huser
  · intro error
    unfold loginFailed
    split
    · exact .throw _
    · exact counted_throw_alike _ _ _ _

theorem getUser_alike (id : String) :
    AccountsAlike bcrypt exchange Eq (getUser id) (getUser id) := by
  unfold getUser
  split
  · exact .throw _
  · apply Program.Alike.bind (.call (.findOneById id))
    intro found found' hfound
    cases hfound with
    | none => exact .throw _
    | some huser =>
        rw [huser.rest]
        exact .pure rfl

/-! ## Profiles -/

abbrev ProfilesAlike (bcrypt : Bcrypt) (exchange : String → String)
    {α α' : Type} (related : α → α' → Prop)
    (program : ProfileM α) (program' : ProfileM α') : Prop :=
  program.Alike (AlikeProfileCall bcrypt exchange) related program'

theorem other_alike (call : ProfileCall)
    (hcall : ProfileCall.LooksUpNobody call) :
    ProfilesAlike bcrypt exchange Eq (Program.call call)
      (Program.call call) :=
  .call (AlikeProfileCall.other call hcall)

theorem deleteFromS3_alike (key : String) :
    ProfilesAlike bcrypt exchange Eq (ProfileService.deleteFromS3 key)
      (ProfileService.deleteFromS3 key) :=
  .tryCatch (other_alike (.deleteObject key) trivial) fun _ => .pure rfl

theorem publishPhotoUpdated_alike (now : Instant) (user : UserEntity)
    (hasPhoto : Bool) :
    ProfilesAlike bcrypt exchange Eq
      (ProfileService.publishPhotoUpdated now user hasPhoto)
      (ProfileService.publishPhotoUpdated now user hasPhoto) :=
  other_alike (.send _) trivial

theorem refused_alike (key : String) (error : JsError) :
    ProfilesAlike bcrypt exchange Eq
      (ProfileService.deleteFromS3 key >>= fun _ => (throw error : ProfileM Unit))
      (ProfileService.deleteFromS3 key >>= fun _ => throw error) :=
  .bind (deleteFromS3_alike key) fun _ _ _ => .throw error

theorem headObject_alike (key : String) :
    ProfilesAlike bcrypt exchange Eq (S3Service.headObject key)
      (S3Service.headObject key) := by
  apply Program.Alike.tryCatch
  · apply (other_alike (.headObject key) trivial).bind
    intro output output' hsame
    exact .pure (congrArg some hsame)
  · intro error
    split
    · exact .pure rfl
    · exact .throw error

theorem checkObject_alike (key : String) :
    ProfilesAlike bcrypt exchange Eq (ProfileService.checkObject key)
      (ProfileService.checkObject key) := by
  apply (headObject_alike key).bind
  intro found found' hfound
  subst hfound
  cases found with
  | none => exact .throw _
  | some object =>
      simp only
      split
      · exact refused_alike key _
      · apply (other_alike (.getObject key SIGNATURE_BYTES) trivial).bind
        intro firstBytes firstBytes' hbytes
        subst hbytes
        split
        · exact refused_alike key _
        · exact .pure rfl

theorem storeKey_alike (user : UserEntity) (userId key : String) :
    ProfilesAlike bcrypt exchange Eq (ProfileService.storeKey user userId key)
      (ProfileService.storeKey user userId key) := by
  unfold ProfileService.storeKey
  split
  · apply (other_alike (.update userId { photoKey := some key }) trivial).bind
    intro _ _ _
    split
    · exact deleteFromS3_alike _
    · exact .pure rfl
  · exact .pure rfl

theorem findUser_alike (userId : String) :
    ProfilesAlike bcrypt exchange (AlikeUser bcrypt exchange)
      (ProfileService.findUser userId) (ProfileService.findUser userId) := by
  apply Program.Alike.bind (.call (.findOne userId))
  intro found found' hfound
  cases hfound with
  | none => exact .throw _
  | some huser => exact .pure huser

theorem getProfile_alike (config : S3Config) (userId : String) :
    ProfilesAlike bcrypt exchange Eq (ProfileService.getProfile config userId)
      (ProfileService.getProfile config userId) := by
  apply (findUser_alike userId).bind
  intro user user' huser
  rw [huser.rest]
  exact .pure rfl

theorem createUploadUrl_alike (now : Instant) (newId userId : String)
    (dto : CreatePhotoUploadUrlDto) :
    ProfilesAlike bcrypt exchange Eq
      (ProfileService.createUploadUrl now newId userId dto)
      (ProfileService.createUploadUrl now newId userId dto) := by
  apply (findUser_alike userId).bind
  intro user user' huser
  exact .pure rfl

theorem confirmPhoto_alike (config : S3Config) (now : Instant)
    (userId key : String) :
    ProfilesAlike bcrypt exchange Eq
      (ProfileService.confirmPhoto config now userId key)
      (ProfileService.confirmPhoto config now userId key) := by
  apply (findUser_alike userId).bind
  intro user user' huser
  rw [huser.rest]
  split
  · exact .throw _
  · apply (checkObject_alike key).bind
    intro _ _ _
    apply (storeKey_alike user userId key).bind
    intro _ _ _
    apply (publishPhotoUpdated_alike now user true).bind
    intro _ _ _
    exact getProfile_alike config userId

theorem deletePhoto_alike (config : S3Config) (now : Instant)
    (userId : String) :
    ProfilesAlike bcrypt exchange Eq
      (ProfileService.deletePhoto config now userId)
      (ProfileService.deletePhoto config now userId) := by
  apply (findUser_alike userId).bind
  intro user user' huser
  rw [huser.rest]
  simp only
  split
  · exact .throw _
  · apply (other_alike (.update userId { photoKey := none }) trivial).bind
    intro _ _ _
    apply (deleteFromS3_alike _).bind
    intro _ _ _
    apply (publishPhotoUpdated_alike now user false).bind
    intro _ _ _
    exact getProfile_alike config userId

/-! ## Requests -/

def EndpointRequest.exchanged (exchange : String → String) :
    EndpointRequest → EndpointRequest
  | .register newId dto => .register newId (dto.exchanged exchange)
  | .login dto => .login (dto.exchanged exchange)
  | request => request

theorem ofAccounts_alike {α α' : Type} {related : α → α' → Prop}
    {program : AuthM α} {program' : AuthM α'}
    (halike : AccountsAlike bcrypt exchange related program program') :
    (ofAccounts program).Alike (AlikeCall bcrypt exchange) related
      (ofAccounts program') :=
  halike.embed fun _ _ answers hcall =>
    ⟨answers, .account hcall, fun _ _ hagree => hagree⟩

theorem ofProfiles_alike {α α' : Type} {related : α → α' → Prop}
    {program : ProfileM α} {program' : ProfileM α'}
    (halike : ProfilesAlike bcrypt exchange related program program') :
    (ofProfiles program).Alike (AlikeCall bcrypt exchange) related
      (ofProfiles program') :=
  halike.embed fun _ _ answers hcall =>
    ⟨answers, .profile hcall, fun _ _ hagree => hagree⟩

theorem answered_alike {α : Type} {program program' : EndpointsM α}
    (reply : α → EndpointReply)
    (halike : program.Alike (AlikeCall bcrypt exchange) Eq program') :
    Program.Alike (AlikeCall bcrypt exchange) Eq
      (program >>= fun value => pure (reply value))
      (program' >>= fun value => pure (reply value)) := by
  apply halike.bind
  intro value value' hsame
  rw [hsame]
  exact .pure rfl

theorem request_alike (config : S3Config) (request : EndpointRequest) :
    (request.program config).Alike (AlikeCall bcrypt exchange) Eq
      ((request.exchanged exchange).program config) := by
  cases request with
  | register newId dto =>
      exact answered_alike _ (ofAccounts_alike (register_alike newId dto))
  | login dto => exact answered_alike _ (ofAccounts_alike (login_alike dto))
  | getUser id => exact answered_alike _ (ofAccounts_alike (getUser_alike id))
  | getProfile userId =>
      exact answered_alike _ (ofProfiles_alike (getProfile_alike config userId))
  | createUploadUrl now newId userId dto =>
      exact answered_alike _
        (ofProfiles_alike (createUploadUrl_alike now newId userId dto))
  | confirmPhoto now userId key =>
      exact answered_alike _
        (ofProfiles_alike (confirmPhoto_alike config now userId key))
  | deletePhoto now userId =>
      exact answered_alike _
        (ofProfiles_alike (deletePhoto_alike config now userId))
  | put key object =>
      apply Program.Alike.bind (.call (AlikeCall.put key object))
      intro _ _ _
      exact .pure rfl

/-! ## Runs -/

/-- The same request makes its next call. -/
def AlikeEvent {τ : Type} (event event' : τ × AuthInput) : Prop :=
  event'.1 = event.1 ∧ AlikeInput event.2 event'.2

/-- Whatever requests are under way and whichever of their calls fail, with
other passwords and salts they go the same way and answer the same. -/
theorem passwords_stay_secret {τ : Type} [DecidableEq τ] (config : S3Config)
    {runtime : AuthRuntime} {exchange : String → String}
    (hexchange : ∀ password other,
      runtime.bcrypt.secret (exchange password) =
          runtime.bcrypt.secret (exchange other) ↔
        runtime.bcrypt.secret password = runtime.bcrypt.secret other)
    {requests : τ → EndpointRequest} {world world' : EndpointsWorld}
    (hworld : AlikeWorld runtime.bcrypt exchange world world')
    {events events' : List (τ × AuthInput)}
    (hevents : List.Forall₂ AlikeEvent events events')
    {last : Interleaving τ EndpointsCall.Reply JsError EndpointReply
      EndpointsWorld}
    (hrun : run (step (EndpointsWorld.answer runtime))
      (start (fun thread => (requests thread).program config) world) events =
        some last) :
    ∃ last', run (step (EndpointsWorld.answer runtime))
        (start (fun thread =>
          ((requests thread).exchanged exchange).program config) world')
        events' = some last' ∧
      AlikeWorld runtime.bcrypt exchange last.world last'.world ∧
      ∀ thread, (last'.program thread).outcome =
        (last.program thread).outcome := by
  have hstart : SystemsAlike (AlikeCall runtime.bcrypt exchange)
      (AlikeWorld runtime.bcrypt exchange)
      (start (fun thread => (requests thread).program config) world)
      (start (fun thread =>
        ((requests thread).exchanged exchange).program config) world') :=
    ⟨fun thread => request_alike config (requests thread), hworld⟩
  obtain ⟨last', hrun', halike⟩ :=
    hstart.run (answeredAlike hexchange) hevents hrun
  exact ⟨last', hrun', halike.world, fun thread =>
    (halike.programs thread).outcome⟩

/-- Exchanges two passwords. -/
def swapped (password : String) : String :=
  if plainBcrypt.secret password = plainBcrypt.secret "secret" then "guess"
  else if plainBcrypt.secret password = plainBcrypt.secret "guess" then
    "secret"
  else password

theorem secret_swapped (password : String) :
    plainBcrypt.secret (swapped password) =
      Equiv.swap (plainBcrypt.secret "secret") (plainBcrypt.secret "guess")
        (plainBcrypt.secret password) := by
  unfold swapped
  rw [Equiv.swap_apply_def]
  split
  · rfl
  · split <;> rfl

def nobodyYet : EndpointsWorld where
  users := Table.empty
  httpRequestsTotal := []
  objects := ∅
  published := []

/-- Registers, is guessed at, looks at the profile, and logs in. -/
def annIsGuessed : Fin 4 → EndpointRequest
  | 0 => .register "u1" (annRegisters "Ann")
  | 1 => .login { email := "ann@x", password := "guess" }
  | 2 => .getProfile "u1"
  | 3 => .login { email := "ann@x", password := "secret" }

def guessing : List (Fin 4 × AuthInput) :=
  [(0, {}), (0, {}), (0, {}), (0, {}), (0, {}), (1, {}), (3, {}), (2, {}),
    (1, {}), (3, {}), (3, {}), (1, {}), (3, {})]

def peppered (event : Fin 4 × AuthInput) : Fin 4 × AuthInput :=
  (event.1, { event.2 with salt := "pepper" })

def photosConfig : S3Config := ⟨"http://localhost:4566", "photos"⟩

theorem guess_is_denied_either_way :
    ∃ last last',
      run (step (EndpointsWorld.answer plainRuntime))
        (start (fun thread => (annIsGuessed thread).program photosConfig)
          nobodyYet) guessing = some last ∧
      run (step (EndpointsWorld.answer plainRuntime))
        (start (fun thread =>
          ((annIsGuessed thread).exchanged swapped).program photosConfig)
          nobodyYet) (guessing.map peppered) = some last' ∧
      AlikeWorld plainBcrypt swapped last.world last'.world ∧
      (last.program 1).outcome = some (.error DENIED) ∧
      (last'.program 1).outcome = some (.error DENIED) ∧
      (last.program 3).outcome.map Except.isOk = some true ∧
      (last'.program 3).outcome.map Except.isOk = some true := by
  have hcheck : (run (step (EndpointsWorld.answer plainRuntime))
      (start (fun thread => (annIsGuessed thread).program photosConfig)
        nobodyYet) guessing).any (fun last =>
          decide ((last.program 1).outcome = some (.error DENIED) ∧
            (last.program 3).outcome.map Except.isOk = some true)) = true := by
    decide +kernel
  obtain ⟨last, hrun, hends⟩ := exists_of_run_any hcheck
  have hexchange : ∀ password other,
      plainBcrypt.secret (swapped password) =
          plainBcrypt.secret (swapped other) ↔
        plainBcrypt.secret password = plainBcrypt.secret other := by
    intro password other
    rw [secret_swapped, secret_swapped]
    exact (Equiv.injective _).eq_iff
  have hevents : List.Forall₂ AlikeEvent guessing (guessing.map peppered) := by
    rw [List.forall₂_map_right_iff, List.forall₂_same]
    exact fun _ _ => ⟨rfl, rfl, rfl⟩
  obtain ⟨last', hrun', halike, hsame⟩ := passwords_stay_secret photosConfig
    (show ∀ password other, plainRuntime.bcrypt.secret (swapped password) =
        plainRuntime.bcrypt.secret (swapped other) ↔
      plainRuntime.bcrypt.secret password =
        plainRuntime.bcrypt.secret other from hexchange)
    (show AlikeWorld plainRuntime.bcrypt swapped nobodyYet nobodyYet from
      ⟨.nil, rfl, rfl, rfl⟩) hevents hrun
  obtain ⟨hdenied, haccepted⟩ := of_decide_eq_true hends
  refine ⟨last, last', hrun, hrun', halike, hdenied, ?_, haccepted, ?_⟩
  · rw [hsame 1]
    exact hdenied
  · rw [hsame 3]
    exact haccepted

end FakeBolt.Auth
