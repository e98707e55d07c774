import FakeBolt.BearerTokens
import FakeBolt.PhotoIsolation
import FakeBolt.Unwinding

/-!
# What users learn of one another through the gateway

auth-service is reached through the gateway alone, and the bucket through
presigned URLs.  Whatever anybody sends to the gateway, a user is answered as
if nobody else were there: the answers follow from the user's own requests.
-/

namespace FakeBolt.Auth

open Await Profile Store Transition
open Gateway (GatewayConfig HttpRequest JwtService)

/-! ## ProfileController -/

/-- A method of the controller with its parameter `@CurrentUserId()`. -/
def withUser {α : Type} (headers : List (String × Option String))
    (method : String → ProfileM α) : ProfileM α :=
  match currentUserId headers with
  | .ok userId => method userId
  | .error error => throw error

namespace ProfileController

def createUploadUrl (now : Instant) (newId : String)
    (headers : List (String × Option String))
    (dto : CreatePhotoUploadUrlDto) : ProfileM PhotoUploadUrl :=
  withUser headers fun userId =>
    ProfileService.createUploadUrl now newId userId dto

def confirmPhoto (config : S3Config) (now : Instant)
    (headers : List (String × Option String)) (key : String) :
    ProfileM UserProfile :=
  withUser headers fun userId =>
    ProfileService.confirmPhoto config now userId key

def deletePhoto (config : S3Config) (now : Instant)
    (headers : List (String × Option String)) : ProfileM UserProfile :=
  withUser headers fun userId => ProfileService.deletePhoto config now userId

end ProfileController

/-! ## The two services -/

/-- The gateway and auth-service as they are deployed.  The last two fields are
what `ValidationPipe` makes of a body. -/
structure Backend (β : Type) where
  gateway : GatewayConfig
  jwt : JwtService
  pathname : String → String
  s3 : S3Config
  createPhotoUploadUrlDto : Option β → Except JsError CreatePhotoUploadUrlDto
  confirmPhotoDto : Option β → Except JsError String

/-- A request to the gateway, the UUID that is generated while it is handled,
and the calls that fail. -/
structure WebRequest (β : Type) where
  now : Instant
  request : Gateway.Request β
  newId : String
  fault : ProfileCall → Option String

/-- `put` is a `PUT` to the bucket through a URL the user was given. -/
inductive WebEvent (β : Type) where
  | http (web : WebRequest β)
  | put (now : Instant) (userId key : String) (object : S3Object)

inductive ProfileReply where
  | profile (profile : UserProfile)
  | uploadUrl (reply : PhotoUploadUrl)
  deriving DecidableEq, Repr

/-- `none` stands for an answer that the photo store has no part in. -/
inductive WebAnswer where
  | http (result : Except JsError (Option ProfileReply))
  | put (stored : Bool)

/-- What Nest throws where no route matches. -/
def cannot (method url : String) : JsError :=
  .http .notFound ("Cannot " ++ method.toUpper ++ " " ++ url)

namespace Backend

variable {β : Type} (backend : Backend β)

/-- The route that auth-service has for what the gateway sends. -/
def route (web : WebRequest β) (sent : HttpRequest β) :
    ProfileM ProfileReply :=
  let url := backend.gateway.AUTH_SERVICE_URL ++ "/users/me"
  if sent.method = "get" ∧ sent.url = url then do
    let profile ← ProfileController.getProfile backend.s3 sent.headers
    pure (.profile profile)
  else if sent.method = "post" ∧ sent.url = url ++ "/photo/upload-url" then
    match backend.createPhotoUploadUrlDto sent.data with
    | .error error => throw error
    | .ok dto => do
        let reply ← ProfileController.createUploadUrl web.now web.newId
          sent.headers dto
        pure (.uploadUrl reply)
  else if sent.method = "post" ∧ sent.url = url ++ "/photo/confirm" then
    match backend.confirmPhotoDto sent.data with
    | .error error => throw error
    | .ok key => do
        let profile ← ProfileController.confirmPhoto backend.s3 web.now
          sent.headers key
        pure (.profile profile)
  else if sent.method = "delete" ∧ sent.url = url ++ "/photo" then do
    let profile ← ProfileController.deletePhoto backend.s3 web.now sent.headers
    pure (.profile profile)
  else throw (cannot sent.method sent.url)

def serve (web : WebRequest β) : Gateway.Response β :=
  Gateway.serve backend.gateway backend.jwt backend.pathname web.now
    web.request

/-- The user whom the gateway takes the sender of a request to be. -/
def bearer (web : WebRequest β) : Option String :=
  match Gateway.AuthMiddleware.use backend.jwt web.now web.request with
  | .ok (some user) => user.id
  | _ => none

end Backend

/-- `forwardError` for an error that auth-service answers with. -/
def forwardError : JsError → JsError
  | .http exception message => .http exception message
  | _ => .http .internalServerError "Internal server error"

/-- URLs belong to the user they are returned to. -/
def given (bearer : Option String) :
    Except JsError ProfileReply → List IssuedUrl
  | .ok (.uploadUrl reply) =>
      bearer.toList.map fun userId => ⟨userId, reply.upload_url⟩
  | _ => []

namespace Backend

variable {β : Type} (backend : Backend β)

/-- auth-service handles what the gateway has sent on. -/
def execute (web : WebRequest β) (sent : HttpRequest β)
    (world : ProfileWorld) : Except JsError ProfileReply × ProfileWorld :=
  (backend.route web sent).exec
    (fun call world => ProfileWorld.faulty call web.fault world) world

def respond (store : PhotoStore) (web : WebRequest β) :
    Except JsError (Option ProfileReply) × PhotoStore :=
  match backend.serve web with
  | .refused error => (.error error, store)
  | .notFound =>
      (.error (cannot web.request.method web.request.originalUrl), store)
  | .handled _ (.error error) => (.error (forwardError error), store)
  | .handled _ (.ok none) => (.ok none, store)
  | .handled _ (.ok (some sent)) =>
      let outcome := backend.execute web sent store.world
      ((outcome.1.map some).mapError forwardError,
        { world := outcome.2
          issued := store.issued ++ given (backend.bearer web) outcome.1 })

def putRequest (now : Instant) (key : String) (object : S3Object) :
    PhotoRequest :=
  PhotoOperation.at (.upload key object) now

def step (store : PhotoStore) : WebEvent β → PhotoStore
  | .http web => (backend.respond store web).2
  | .put now userId key object =>
      store.step backend.s3 userId (putRequest now key object)

def answer (store : PhotoStore) : WebEvent β → WebAnswer
  | .http web => .http (backend.respond store web).1
  | .put now userId key _ => .put (store.acceptsUpload userId key now)

/-- The events of a user: requests with a token of theirs, and uploads. -/
def own (userId : String) : WebEvent β → Bool
  | .http web => backend.bearer web = some userId
  | .put _ uploader _ _ => uploader = userId

end Backend

/-! ## Calls that fail -/

section Calls

variable (fault : ProfileCall → Option String) {userId : String}
  {world : ProfileWorld} {call : ProfileCall}

def undisturbed : PhotoRequest := PhotoOperation.at .deletePhoto 0

theorem answer_undisturbed (call : ProfileCall) (world : ProfileWorld) :
    undisturbed.answer call world = world.answer call := by
  cases call <;> rfl

theorem keysOwned_faulty (hserves : Serves userId call)
    (hkeys : KeysOwned world) :
    OwnKeys call (ProfileWorld.faulty call fault world).1 ∧
      KeysOwned (ProfileWorld.faulty call fault world).2 := by
  rcases faulty_cases call fault world with ⟨message, -, hreply⟩ | ⟨-, hreply⟩
  · rw [hreply]
    refine ⟨?_, hkeys⟩
    cases call <;> trivial
  · rw [hreply, ← answer_undisturbed]
    exact keysOwned_answer undisturbed hserves hkeys

theorem sameWorld_of_faulty {other : String}
    (hfree : ¬ (Access.call call).Concerns other) :
    SameWorld other world (ProfileWorld.faulty call fault world).2 := by
  rcases faulty_cases call fault world with ⟨message, -, hreply⟩ | ⟨-, hreply⟩
  · rw [hreply]
    exact .refl other world
  · rw [hreply, ← answer_undisturbed]
    exact sameWorld_of_answer undisturbed hfree

theorem faulty_agrees {world' : ProfileWorld} (hserves : Serves userId call)
    (hsame : SameWorld userId world world') :
    (ProfileWorld.faulty call fault world).1 =
        (ProfileWorld.faulty call fault world').1 ∧
      SameWorld userId (ProfileWorld.faulty call fault world).2
        (ProfileWorld.faulty call fault world').2 := by
  cases hfault : fault call with
  | some message =>
      simp only [ProfileWorld.faulty, hfault, Option.map_some, faultable]
      exact ⟨trivial, hsame⟩
  | none =>
      have hagree := answer_agrees undisturbed hserves hsame
      simp only [answer_undisturbed] at hagree
      simp only [ProfileWorld.faulty, hfault, Option.map_none, faultable]
      exact hagree

end Calls

/-! ## One request -/

section Requests

variable {β : Type} {backend : Backend β} {userId : String}

theorem confined_withUser {α : Type} {headers : List (String × Option String)}
    {method : String → ProfileM α} {post : Except JsError α → Prop}
    (hid : ∀ id, currentUserId headers = .ok id → id = userId)
    (herror : ∀ error, post (.error error))
    (hmethod : (method userId).Confined (Serves userId) OwnKeys post) :
    (withUser headers method).Confined (Serves userId) OwnKeys post := by
  unfold withUser
  cases huser : currentUserId headers with
  | error error => exact herror error
  | ok id =>
      rw [hid id huser]
      exact hmethod

/-- A URL in the reply is for a key of the user's. -/
def OwnUrl (userId : String) (result : Except JsError ProfileReply) : Prop :=
  ∀ reply, result = .ok (.uploadUrl reply) → Owned userId reply.upload_url.key

theorem confined_profile {program : ProfileM UserProfile}
    (hprogram : program.Confined (Serves userId) OwnKeys fun _ => True) :
    (do
      let profile ← program
      pure (ProfileReply.profile profile) : ProfileM ProfileReply).Confined
        (Serves userId) OwnKeys (OwnUrl userId) := by
  rw [Program.confined_bind]
  apply hprogram.mono
  intro result _
  cases result with
  | error error =>
      intro reply hreply
      cases hreply
  | ok profile =>
      intro reply hreply
      cases hreply

theorem confined_refusal (error : JsError) :
    (throw error : ProfileM ProfileReply).Confined (Serves userId) OwnKeys
      (OwnUrl userId) := by
  intro reply hreply
  cases hreply

/-- Whatever is sent for a user, auth-service makes only calls that serve the
user. -/
theorem confined_route (web : WebRequest β) {sent : HttpRequest β}
    (hid : ∀ id, currentUserId sent.headers = .ok id → id = userId) :
    (backend.route web sent).Confined (Serves userId) OwnKeys
      (OwnUrl userId) := by
  unfold Backend.route
  dsimp only
  split
  · apply confined_profile
    exact confined_withUser hid (fun _ => trivial) (confined_getProfile _)
  · split
    · split
      · exact confined_refusal _
      · rw [Program.confined_bind]
        apply confined_withUser hid
        · intro error reply hreply
          cases hreply
        · apply (confined_createUploadUrl _ _ _ _).mono
          intro result howned
          cases result with
          | error error =>
              intro reply hreply
              cases hreply
          | ok url =>
              intro reply hreply
              cases hreply
              exact howned url rfl
    · split
      · split
        · exact confined_refusal _
        · apply confined_profile
          exact confined_withUser hid (fun _ => trivial)
            (confined_confirmPhoto _ _ _ _)
      · split
        · apply confined_profile
          exact confined_withUser hid (fun _ => trivial)
            (confined_deletePhoto _ _ _)
        · exact confined_refusal _

theorem headers_of_handle {config : GatewayConfig} {handler : Gateway.Handler}
    {found : Option Gateway.RequestUser} {body : β} {sent : HttpRequest β}
    (hhandle : Gateway.handle config handler found body = .ok (some sent)) :
    ∃ user, found = some user ∧ sent.headers = [("x-user-id", user.id)] := by
  cases hofUser : handler.isOfUser with
  | false => cases handler <;> simp_all [Gateway.handle, Gateway.Handler.isOfUser]
  | true =>
      cases found with
      | none =>
          cases handler <;>
            simp [Gateway.handle, Gateway.userIdOf, Except.map] at hhandle
      | some user =>
          obtain ⟨named, hnamed, hheaders⟩ :=
            Gateway.handle_ofUser config hofUser user body
          rw [hnamed, Except.ok.injEq, Option.some.injEq] at hhandle
          subst hhandle
          exact ⟨user, rfl, hheaders⟩

theorem currentUserId_eq_ok {header : Option String} {id : String}
    (hid : currentUserId [("x-user-id", header)] = .ok id) :
    header = some id := by
  unfold currentUserId at hid
  rw [List.lookup_cons_self, Option.join_some] at hid
  cases htruthy : truthy header with
  | none => simp [htruthy] at hid
  | some named =>
      rw [htruthy] at hid
      cases hid
      exact (truthy_eq_some_iff.mp htruthy).1

/-- What the gateway sends on names the user of the verified token, if it
names one. -/
theorem bearer_of_sent {web : WebRequest β} {handler : Gateway.Handler}
    {sent : HttpRequest β}
    (hserve : backend.serve web = .handled handler (.ok (some sent)))
    {id : String} (hid : currentUserId sent.headers = .ok id) :
    backend.bearer web = some id := by
  unfold Backend.serve Gateway.serve at hserve
  unfold Backend.bearer
  cases huse : Gateway.AuthMiddleware.use backend.jwt web.now web.request with
  | error error => simp [huse] at hserve
  | ok found =>
      simp only [huse] at hserve
      cases hdispatch : Gateway.dispatch backend.pathname web.request with
      | none => simp [hdispatch] at hserve
      | some route =>
          simp only [hdispatch, Gateway.Response.handled.injEq] at hserve
          obtain ⟨user, hfound, hheaders⟩ := headers_of_handle hserve.2
          subst hfound
          rw [hheaders] at hid
          exact currentUserId_eq_ok hid

theorem exec_withUser_of_error {α : Type}
    {headers : List (String × Option String)} {error : JsError}
    (hid : currentUserId headers = .error error) (method : String → ProfileM α)
    (answer : (call : ProfileCall) → ProfileWorld →
      Except JsError call.Reply × ProfileWorld) (world : ProfileWorld) :
    (withUser headers method).exec answer world = (.error error, world) := by
  unfold withUser
  rw [hid]
  rfl

variable (backend) in
/-- Nobody is named, so nothing is looked at. -/
theorem execute_of_error (web : WebRequest β) {sent : HttpRequest β}
    {error : JsError} (hid : currentUserId sent.headers = .error error) :
    ∃ thrown, ∀ world,
      backend.execute web sent world = (.error thrown, world) := by
  unfold Backend.execute Backend.route
  dsimp only
  split
  · exact ⟨error, fun world => by simp [ProfileController.getProfile, hid]⟩
  · split
    · split
      · exact ⟨_, fun _ => rfl⟩
      · exact ⟨error, fun world => by
          simp [ProfileController.createUploadUrl, exec_withUser_of_error hid]⟩
    · split
      · split
        · exact ⟨_, fun _ => rfl⟩
        · exact ⟨error, fun world => by
            simp [ProfileController.confirmPhoto, exec_withUser_of_error hid]⟩
      · split
        · exact ⟨error, fun world => by
            simp [ProfileController.deletePhoto, exec_withUser_of_error hid]⟩
        · exact ⟨_, fun _ => rfl⟩

variable (backend) in
/-- A request either gets an answer that no store has a part in, or is handled
for the user of its verified token. -/
theorem respond_cases (web : WebRequest β) :
    (∃ result, ∀ store, backend.respond store web = (result, store)) ∨
      ∃ handler sent userId,
        backend.serve web = .handled handler (.ok (some sent)) ∧
          currentUserId sent.headers = .ok userId ∧
          backend.bearer web = some userId := by
  unfold Backend.respond
  cases hserve : backend.serve web with
  | refused error => exact .inl ⟨_, fun _ => rfl⟩
  | notFound => exact .inl ⟨_, fun _ => rfl⟩
  | handled handler outcome =>
      cases outcome with
      | error error => exact .inl ⟨_, fun _ => rfl⟩
      | ok passed =>
          cases passed with
          | none => exact .inl ⟨_, fun _ => rfl⟩
          | some sent =>
              cases hid : currentUserId sent.headers with
              | ok userId =>
                  exact .inr ⟨handler, sent, userId, rfl, hid,
                    bearer_of_sent hserve hid⟩
              | error error =>
                  left
                  obtain ⟨thrown, hthrown⟩ := execute_of_error backend web hid
                  refine ⟨.error (forwardError thrown), ?_⟩
                  intro store
                  simp [hthrown, Except.map, Except.mapError, given]

end Requests

/-! ## The store -/

/-- Besides what the photo operations keep, URLs are out to users only. -/
structure Kept (store : PhotoStore) : Prop where
  sound : store.Sound
  users : ∀ issued ∈ store.issued, isUuid issued.userId = true

/-- The tokens that the gateway accepts are about users. -/
def NamesUsers (jwt : JwtService) : Prop :=
  ∀ now token payload id, jwt.verify now token = .ok payload →
    payload.sub = some id → isUuid id = true

section Store

variable {β : Type} {backend : Backend β} {userId : String}
  {store store' : PhotoStore}

theorem isUuid_of_bearer (hjwt : NamesUsers backend.jwt) {web : WebRequest β}
    (hbearer : backend.bearer web = some userId) : isUuid userId = true := by
  unfold Backend.bearer at hbearer
  split at hbearer
  · rename_i user huse
    obtain ⟨token, -, hverify, hid⟩ := Gateway.token_of_use huse
    rw [hid] at hbearer
    exact hjwt web.now token _ userId hverify hbearer
  · cases hbearer

theorem respond_of_serve {web : WebRequest β} {handler : Gateway.Handler}
    {sent : HttpRequest β}
    (hserve : backend.serve web = .handled handler (.ok (some sent)))
    (store : PhotoStore) :
    backend.respond store web =
      ((((backend.execute web sent store.world).1).map some).mapError
          forwardError,
        { world := (backend.execute web sent store.world).2
          issued := store.issued ++ given (backend.bearer web)
            (backend.execute web sent store.world).1 }) := by
  unfold Backend.respond
  rw [hserve]

theorem confined_for (web : WebRequest β) {sent : HttpRequest β}
    (hid : currentUserId sent.headers = .ok userId) :
    (backend.route web sent).Confined (Serves userId) OwnKeys
      (OwnUrl userId) := by
  apply confined_route
  intro id hother
  rw [hid] at hother
  cases hother
  rfl

theorem mem_given {result : Except JsError ProfileReply} {issued : IssuedUrl}
    (hissued : issued ∈ given (some userId) result) :
    issued.userId = userId ∧
      ∃ reply, result = .ok (.uploadUrl reply) ∧
        issued.url = reply.upload_url := by
  unfold given at hissued
  split at hissued
  · rename_i reply
    rw [Option.toList_some, List.map_singleton, List.mem_singleton] at hissued
    subst hissued
    exact ⟨rfl, reply, rfl, rfl⟩
  · cases hissued

theorem filter_given_of_ne {result : Except JsError ProfileReply}
    {other : String} (hne : userId ≠ other) :
    (given (some userId) result).filter
      (fun issued => issued.userId == other) = [] := by
  rw [List.filter_eq_nil_iff]
  intro issued hissued
  rw [(mem_given hissued).1]
  simpa using hne

theorem Kept.respond (hjwt : NamesUsers backend.jwt) (hkept : Kept store)
    (web : WebRequest β) : Kept (backend.respond store web).2 := by
  rcases respond_cases backend web with
    ⟨result, hanswer⟩ | ⟨handler, sent, userId, hserve, hid, hbearer⟩
  · rw [hanswer]
    exact hkept
  · obtain ⟨-, hurl, hkeys⟩ := (confined_for web hid).of_exec _ KeysOwned
      (fun _ _ hserves hkeys => keysOwned_faulty web.fault hserves hkeys)
      hkept.sound.keys
    rw [respond_of_serve hserve, hbearer]
    refine ⟨⟨hkeys, ?_⟩, ?_⟩
    · intro issued hissued
      rcases List.mem_append.mp hissued with hold | hnew
      · exact hkept.sound.urls issued hold
      · obtain ⟨hissuedUser, reply, hreply, hissuedUrl⟩ := mem_given hnew
        rw [hissuedUser, hissuedUrl]
        exact hurl reply hreply
    · intro issued hissued
      rcases List.mem_append.mp hissued with hold | hnew
      · exact hkept.users issued hold
      · rw [(mem_given hnew).1]
        exact isUuid_of_bearer hjwt hbearer

/-- What is handled for a user does not show for another. -/
theorem sameFor_respond (hjwt : NamesUsers backend.jwt) (hkept : Kept store)
    (huser : isUuid userId = true) {web : WebRequest β}
    (hother : backend.bearer web ≠ some userId) :
    SameFor userId store (backend.respond store web).2 := by
  rcases respond_cases backend web with
    ⟨result, hanswer⟩ | ⟨handler, sent, bearer, hserve, hid, hbearer⟩
  · rw [hanswer]
    exact .refl userId store
  · have hne : bearer ≠ userId := by
      intro heq
      rw [hbearer, heq] at hother
      exact hother rfl
    have hbearerUuid := isUuid_of_bearer hjwt hbearer
    obtain ⟨-, -, -, hsame⟩ := (confined_for web hid).of_exec
      (fun call world => ProfileWorld.faulty call web.fault world)
      (fun world => KeysOwned world ∧ SameWorld userId store.world world)
      (by
        intro call world hserves hworld
        obtain ⟨hpossible, hkeys⟩ :=
          keysOwned_faulty web.fault hserves hworld.1
        have hfree := not_concerns_of_serves hbearerUuid huser hne hserves
        exact ⟨hpossible, hkeys,
          hworld.2.trans (sameWorld_of_faulty web.fault hfree)⟩)
      ⟨hkept.sound.keys, .refl userId store.world⟩
    rw [respond_of_serve hserve, hbearer]
    refine ⟨hsame, ?_⟩
    simp only [List.filter_append, filter_given_of_ne hne, List.append_nil]

/-- What is handled for a user is handled alike in stores that the user cannot
tell apart. -/
theorem respond_agrees (hkept : Kept store) {web : WebRequest β}
    (hown : backend.bearer web = some userId)
    (hsame : SameFor userId store store') :
    (backend.respond store web).1 = (backend.respond store' web).1 ∧
      SameFor userId (backend.respond store web).2
        (backend.respond store' web).2 := by
  rcases respond_cases backend web with
    ⟨result, hanswer⟩ | ⟨handler, sent, bearer, hserve, hid, hbearer⟩
  · rw [hanswer, hanswer]
    exact ⟨rfl, hsame⟩
  · rw [hown, Option.some.injEq] at hbearer
    subst hbearer
    obtain ⟨hresult, -, -, hworld⟩ := (confined_for web hid).agree
      (fun call world => ProfileWorld.faulty call web.fault world)
      (fun call world => ProfileWorld.faulty call web.fault world)
      (fun first second => KeysOwned first ∧ SameWorld userId first second)
      (by
        intro call first second hserves hrel
        obtain ⟨hpossible, hkeys⟩ :=
          keysOwned_faulty web.fault hserves hrel.1
        obtain ⟨hreply, hagree⟩ :=
          faulty_agrees web.fault hserves hrel.2
        exact ⟨hpossible, hreply, hkeys, hagree⟩)
      ⟨hkept.sound.keys, hsame.world⟩
    have hsameResult : (backend.execute web sent store.world).1 =
        (backend.execute web sent store'.world).1 := hresult
    rw [respond_of_serve hserve, respond_of_serve hserve]
    refine ⟨by rw [hsameResult], hworld, ?_⟩
    simp only [List.filter_append, hsame.issued, hsameResult]

/-! ## Uploads -/

theorem step_put (now : Instant) (uploader key : String) (object : S3Object)
    (store : PhotoStore) :
    backend.step store (.put now uploader key object) =
      if store.acceptsUpload uploader key now then
        { store with world :=
          { store.world with
            objects := store.world.objects.insert key object } }
      else store := rfl

theorem Kept.put (hkept : Kept store) (now : Instant) (uploader key : String)
    (object : S3Object) :
    Kept (backend.step store (.put now uploader key object)) := by
  refine ⟨PhotoStore.sound_step backend.s3 uploader
    (Backend.putRequest now key object) hkept.sound, ?_⟩
  rw [step_put]
  split <;> exact hkept.users

theorem isUuid_of_accepted (hkept : Kept store) {uploader key : String}
    {now : Instant} (haccepted : store.acceptsUpload uploader key now = true) :
    isUuid uploader = true := by
  obtain ⟨issued, hissued, hmatches⟩ := List.any_eq_true.mp haccepted
  simp only [Bool.and_eq_true, beq_iff_eq] at hmatches
  rw [← hmatches.1.1]
  exact hkept.users issued hissued

theorem sameFor_put (hkept : Kept store) (huser : isUuid userId = true)
    (now : Instant) {uploader : String} (key : String) (object : S3Object)
    (hne : uploader ≠ userId) :
    SameFor userId store
      (backend.step store (.put now uploader key object)) := by
  cases haccepted : store.acceptsUpload uploader key now with
  | true =>
      exact PhotoStore.sameFor_step backend.s3
        (Backend.putRequest now key object)
        (isUuid_of_accepted hkept haccepted) huser hne hkept.sound
  | false =>
      rw [step_put, haccepted]
      exact .refl userId store

end Store

/-! ## Main result -/

variable {β : Type} {backend : Backend β} {userId : String}

theorem unwinding_of_user (hjwt : NamesUsers backend.jwt)
    (huser : isUuid userId = true) :
    Unwinding backend.step backend.answer (backend.own userId) Kept
      (SameFor userId) where
  symm hsame := hsame.symm
  trans hfirst hsecond := hfirst.trans hsecond
  keeps := by
    intro store event hkept
    cases event with
    | http web => exact hkept.respond hjwt web
    | put now uploader key object => exact hkept.put now uploader key object
  others := by
    intro store event hkept hother
    cases event with
    | http web =>
        exact sameFor_respond hjwt hkept huser (of_decide_eq_false hother)
    | put now uploader key object =>
        exact sameFor_put hkept huser now key object
          (of_decide_eq_false hother)
  consistent := by
    intro store store' event hkept _ hown hsame
    cases event with
    | http web =>
        exact (respond_agrees hkept (of_decide_eq_true hown) hsame).2
    | put now uploader key object =>
        have huploader : uploader = userId := of_decide_eq_true hown
        subst huploader
        exact PhotoStore.step_agrees backend.s3
          (Backend.putRequest now key object) hkept.sound hsame
  answers := by
    intro store store' event hkept _ hown hsame
    cases event with
    | http web =>
        have hagree :=
          (respond_agrees hkept (of_decide_eq_true hown) hsame).1
        simp only [Backend.answer, hagree]
    | put now uploader key object =>
        have huploader : uploader = userId := of_decide_eq_true hown
        subst huploader
        simp only [Backend.answer,
          PhotoStore.acceptsUpload_eq_of_sameFor hsame]

/-- Whatever anybody sends to the gateway, without a token or with a token of
somebody else's, and uploads through URLs of their own, and whichever calls
fail meanwhile: a user gets the answers, and has the photo, that the user's
own requests and uploads alone would have led to. -/
theorem users_do_not_interfere (backend : Backend β)
    (hjwt : NamesUsers backend.jwt) {start : PhotoStore} (hstart : Kept start)
    (huser : isUuid userId = true) (events : List (WebEvent β)) :
    answersTo backend.step backend.answer (backend.own userId) start events =
        answersTo backend.step backend.answer (backend.own userId) start
          (events.filter (backend.own userId)) ∧
      SameFor userId (events.foldl backend.step start)
        ((events.filter (backend.own userId)).foldl backend.step start) :=
  (unwinding_of_user hjwt huser).alone hstart hstart (.refl userId start)

/-- Tokens are ids, and bodies are keys. -/
def idTokens : JwtService where
  payload token := ⟨some token, none, none⟩
  refuses _ token :=
    if isUuid token then none else some (.error "invalid token")

theorem namesUsers_idTokens : NamesUsers idTokens := by
  intro now token payload id hverify hsub
  unfold JwtService.verify idTokens at hverify
  cases huuid : isUuid token with
  | false => simp [huuid] at hverify
  | true =>
      simp only [huuid, if_true] at hverify
      cases hverify
      cases hsub
      exact huuid

def smallBackend : Backend String where
  gateway := ⟨"http://auth", "http://email"⟩
  jwt := idTokens
  pathname := Gateway.beforeMarks
  s3 := floci
  createPhotoUploadUrlDto _ := .ok ⟨"image/jpeg", 4⟩
  confirmPhotoDto body :=
    match body with
    | some key => .ok key
    | none => .error (.http .badRequest "key must be a string")

def asks (user : UserEntity) (method path body : String) :
    WebEvent String :=
  .http
    { now := 1000
      request := ⟨method, path,
        [("x-user-id", dan.id), ("authorization", "Bearer " ++ user.id)], body⟩
      newId := "6f1c1f0e-2c9a-4f3b-8a55-0d5b8e1f2a77"
      fault := fun _ => none }

/-- Eva calls herself Dan, and goes for his photo. -/
def evaInterferes : List (WebEvent String) :=
  [asks eva "POST" "/users/me/photo/upload-url" "",
    asks dan "POST" "/users/me/photo/upload-url" "",
    asks eva "POST" "/users/me/photo/confirm" danKey,
    .put 1000 dan.id danKey jpeg,
    .put 1000 eva.id danKey ⟨"image/jpeg", [0x3c]⟩,
    asks dan "POST" "/users/me/photo/confirm/" danKey,
    asks eva "DELETE" "/Users/me/photo?x-user-id=dan" "",
    asks dan "GET" "/users/me" ""]

theorem kept_signedUpUsers : Kept signedUpUsers where
  sound := signedUpUsers_fresh.sound
  users := by
    rw [signedUpUsers_fresh.noUrl]
    intro issued hissued
    cases hissued

theorem dan_undisturbed :
    answersTo smallBackend.step smallBackend.answer
        (smallBackend.own dan.id) signedUpUsers evaInterferes =
      answersTo smallBackend.step smallBackend.answer
        (smallBackend.own dan.id) signedUpUsers
          (evaInterferes.filter (smallBackend.own dan.id)) ∧
    SameFor dan.id (evaInterferes.foldl smallBackend.step signedUpUsers)
      ((evaInterferes.filter (smallBackend.own dan.id)).foldl
        smallBackend.step signedUpUsers) ∧
    (evaInterferes.filter (smallBackend.own dan.id)).length = 4 := by
  obtain ⟨hanswers, hsame⟩ := users_do_not_interfere smallBackend
    namesUsers_idTokens kept_signedUpUsers
    (show isUuid dan.id = true by decide +kernel) evaInterferes
  exact ⟨hanswers, hsame, by decide +kernel⟩

end FakeBolt.Auth
