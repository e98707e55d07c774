import FakeBolt.AccountRuns
import FakeBolt.GatewayIdentity
import FakeBolt.PhotoUploads
import FakeBolt.WebTokens

/-!
# From a token to the profile of its user

The token that auth-service answers with goes through the client to the
gateway, which sends its subject to auth-service in a header, where
`CurrentUserId` reads it for `ProfileController`.  What comes back is the
profile of the account the token was given out for, whatever has been done to
photos meanwhile.
-/

namespace FakeBolt.Auth

open Await Interleaving Profile Store Transition
open Gateway (JwtService GatewayConfig HttpRequest ParsesUrls)

/-! ## The header -/

theorem not_isJsSpace {c : Char} (hc : isTokenChar c = true) :
    Gateway.isJsSpace c = false := by
  have hrange : 45 ≤ c.toNat ∧ c.toNat ≤ 122 := by
    unfold isTokenChar Char.isAlphanum Char.isAlpha Char.isUpper Char.isLower
      Char.isDigit at hc
    simp only [Bool.or_eq_true, Bool.and_eq_true, decide_eq_true_eq,
      beq_iff_eq] at hc
    rcases hc with ((((hc | hc) | hc) | hc) | hc) | hc
    · exact ⟨Nat.le_trans (by decide) hc.1, Nat.le_trans hc.2 (by decide)⟩
    · exact ⟨Nat.le_trans (by decide) hc.1, Nat.le_trans hc.2 (by decide)⟩
    · exact ⟨Nat.le_trans (by decide) hc.1, Nat.le_trans hc.2 (by decide)⟩
    · subst hc
      decide
    · subst hc
      decide
    · subst hc
      decide
  simp only [Gateway.isJsSpace, List.contains_eq_mem, List.mem_cons,
    List.not_mem_nil, or_false, Bool.or_eq_false_iff, decide_eq_false_iff_not]
  constructor <;> omega

theorem trim_of_token {token : List Char}
    (hchars : ∀ c ∈ token, isTokenChar c = true) : Gateway.trim token = token := by
  have hdrop : token.dropWhile Gateway.isJsSpace = token := by
    cases token with
    | nil => rfl
    | cons c rest =>
        rw [List.dropWhile_cons, not_isJsSpace (hchars c (by simp))]
        rfl
  unfold Gateway.trim
  rw [hdrop, List.rdropWhile_eq_self_iff]
  intro hne
  rw [not_isJsSpace (hchars _ (List.getLast_mem hne))]
  exact Bool.false_ne_true

theorem removeFirst_bearer (token : List Char) :
    Gateway.removeFirst "Bearer ".toList ("Bearer ".toList ++ token) = token := by
  have hcons : "Bearer ".toList ++ token = 'B' :: ("earer ".toList ++ token) :=
    rfl
  rw [hcons, Gateway.removeFirst, ← hcons, if_pos]
  · exact List.drop_left
  · exact List.isPrefixOf_iff_prefix.mpr (List.prefix_append _ _)

/-- The middleware takes the token out of the header again. -/
theorem tokenOf_bearer {token : String} {headers : List (String × String)}
    (hheader : headers.lookup "authorization" = some ("Bearer " ++ token))
    (hchars : ∀ c ∈ token.toList, isTokenChar c = true) (hne : token ≠ "") :
    Gateway.AuthMiddleware.tokenOf headers = .ok token := by
  have htruthy : truthy (some ("Bearer " ++ token)) =
      some ("Bearer " ++ token) := by
    rw [truthy_some, if_neg]
    intro hempty
    have hlength := congrArg String.length hempty
    rw [String.length_append] at hlength
    have hbearer : "Bearer ".length = 7 := rfl
    have hzero : "".length = 0 := rfl
    omega
  have htoken : String.ofList (Gateway.trim (Gateway.removeFirst
      "Bearer ".toList ("Bearer " ++ token).toList)) = token := by
    rw [String.toList_append, removeFirst_bearer, trim_of_token hchars,
      String.ofList_toList]
  unfold Gateway.AuthMiddleware.tokenOf
  rw [hheader, htruthy]
  simp only [htoken]
  rw [if_neg hne]

/-! ## ProfileController -/

/-- `CurrentUserId`. -/
def currentUserId (headers : List (String × Option String)) :
    Except JsError String :=
  match truthy (headers.lookup "x-user-id").join with
  | some userId => .ok userId
  | none => .error (.http .unauthorized "Missing user identity")

namespace ProfileController

def getProfile (config : S3Config) (headers : List (String × Option String)) :
    ProfileM UserProfile :=
  match currentUserId headers with
  | .ok userId => ProfileService.getProfile config userId
  | .error error => throw error

end ProfileController

/-! ## Photos do not change who a user is -/

/-- The row, but for its photo. -/
def SameUser (user row : UserEntity) : Prop :=
  { row with photoKey := user.photoKey } = user

/-- The user is in the table, with whatever photo. -/
def Keeps (user : UserEntity) (world : ProfileWorld) : Prop :=
  ∃ row, world.users.get? user.id = some row ∧ SameUser user row

theorem Keeps.answer {user : UserEntity} {world : ProfileWorld}
    (hkeeps : Keeps user world) (request : PhotoRequest) (call : ProfileCall) :
    Keeps user (request.answer call world).2 := by
  obtain ⟨row, hrow, hsame⟩ := hkeeps
  unfold PhotoRequest.answer ProfileWorld.faulty
  cases hfault : request.fault call with
  | some message => exact ⟨row, hrow, hsame⟩
  | none =>
    cases call with
    | findOne id => exact ⟨row, hrow, hsame⟩
    | update id patch =>
        unfold Keeps
        simp only [Option.map_none, faultable, ProfileWorld.answer]
        rw [Table.get?_update, hrow]
        refine ⟨_, rfl, ?_⟩
        split
        · exact hsame
        · exact hsame
    | headObject key =>
        simp only [Option.map_none, faultable, ProfileWorld.answer]
        split <;> exact ⟨row, hrow, hsame⟩
    | getObject key count =>
        simp only [Option.map_none, faultable, ProfileWorld.answer]
        split
        · split <;> exact ⟨row, hrow, hsame⟩
        · exact ⟨row, hrow, hsame⟩
    | deleteObject key => exact ⟨row, hrow, hsame⟩
    | send record => exact ⟨row, hrow, hsame⟩

theorem Keeps.step {user : UserEntity} {store : PhotoStore}
    (hkeeps : Keeps user store.world) (config : S3Config) (made : UserRequest) :
    Keeps user (store.step config made.userId made.request).world := by
  have hanswer : ∀ call world, Keeps user world →
      Keeps user (made.request.answer call world).2 :=
    fun call world hworld => hworld.answer made.request call
  unfold PhotoStore.step
  cases made.request.operation with
  | createUploadUrl newId dto =>
      exact Program.exec_keeps made.request.answer (Keeps user)
        (fun call _ => hanswer call) hkeeps
  | upload key object =>
      simp only
      split
      · exact hkeeps
      · exact hkeeps
  | confirmPhoto key =>
      exact Program.exec_keeps made.request.answer (Keeps user)
        (fun call _ => hanswer call) hkeeps
  | deletePhoto =>
      exact Program.exec_keeps made.request.answer (Keeps user)
        (fun call _ => hanswer call) hkeeps

theorem Keeps.after {user : UserEntity} {store : PhotoStore}
    (hkeeps : Keeps user store.world) (config : S3Config)
    (requests : List UserRequest) :
    Keeps user (store.after config requests).world := by
  induction requests generalizing store with
  | nil => exact hkeeps
  | cons made requests ih => exact ih (hkeeps.step config made)

theorem keeps_of_mem {user : UserEntity} {world : ProfileWorld}
    (hmem : user ∈ world.users.rows) : Keeps user world :=
  ⟨user, Table.get?_key_of_mem hmem, rfl⟩

/-- The profile that `getProfile` returns for the id of a user who is there. -/
theorem getProfile_of_keeps {user : UserEntity} {world : ProfileWorld}
    (hkeeps : Keeps user world) (config : S3Config) :
    ∃ photo_url, (ProfileService.getProfile config user.id).exec
        ProfileWorld.answer world =
      (.ok { id := user.id
             email := user.email
             name := user.name
             role := user.role
             photo_url := photo_url
             photo_required := user.role == .driver }, world) := by
  obtain ⟨row, hrow, hsame⟩ := hkeeps
  refine ⟨ProfileService.photoUrl config row, ?_⟩
  have hfields : row.id = user.id ∧ row.email = user.email ∧
      row.name = user.name ∧ row.role = user.role := by
    rw [← hsame]
    exact ⟨rfl, rfl, rfl, rfl⟩
  simp only [ProfileService.getProfile, ProfileService.findUser,
    UsersRepository.findOne, Program.exec_bind, Program.exec_call,
    ProfileWorld.answer, hrow, Program.exec_pure, hfields]

/-! ## Main result -/

variable {τ : Type} [DecidableEq τ] {runtime : AuthRuntime}
  {requests : τ → AuthRequest} {world : AuthWorld}
  {events : List (τ × AuthInput)}
  {last : Interleaving τ AuthCall.Reply JsError String AuthWorld}

/-- What the seed reads out of the token of a registration is the id of the
row that the registration has saved, whatever characters the email holds. -/
theorem seed_reads_registered_id {signer : TokenSigner}
    (hsign : runtime.sign = signer.sign)
    (hrun : run (step (AuthWorld.answer runtime)) (requested requests world)
      events = some last)
    {thread : τ} {newId : String} {dto : RegisterDto}
    (hregister : requests thread = .register newId dto) {token : String}
    (htoken : (last.program thread).outcome = some (.ok token)) :
    userIdFromToken token = some (some (.string newId)) ∧
      ∃ user, last.world.users.get? newId = some user ∧
        IsNewUser runtime newId dto user := by
  obtain ⟨user, issued, hmem, -, hnew, hsigned⟩ := user_of_token hrun htoken
  have huser := hnew newId dto hregister
  constructor
  · rw [hsigned, hsign, userIdFromToken_sign]
    simp only [payloadOf, huser.id_eq]
  · refine ⟨user, ?_, huser⟩
    rw [← huser.id_eq]
    exact Table.get?_key_of_mem hmem

/-! ## A registration and what its token is good for -/

/-- For a week. -/
def weekSigner : TokenSigner where
  hmac text := [UInt8.ofNat text.length]
  expiresIn := 604800

def signingRuntime : AuthRuntime where
  bcrypt := plainBcrypt
  sign := weekSigner.sign

def annRegistersOnly (_ : Unit) : AuthRequest :=
  .register "u1" (annRegisters "Ann")

def annRegistering : List (Unit × AuthInput) :=
  [((), {}), ((), {}), ((), {}), ((), {}), ((), {})]

theorem ann_registered :
    ∃ last token, run (step (AuthWorld.answer signingRuntime))
        (requested annRegistersOnly emptyAuth) annRegistering = some last ∧
      (last.program ()).outcome = some (.ok token) ∧
      ∀ user ∈ last.world.users.rows, user.id ≠ "" := by
  have hcheck : (run (step (AuthWorld.answer signingRuntime))
      (requested annRegistersOnly emptyAuth) annRegistering).any (fun last =>
        (last.program ()).outcome.any Except.isOk &&
          last.world.users.rows.all fun user => decide (user.id ≠ "")) =
        true := by
    decide +kernel
  obtain ⟨last, hrun, hlast⟩ := exists_of_run_any hcheck
  rw [Bool.and_eq_true] at hlast
  have hids : ∀ user ∈ last.world.users.rows, user.id ≠ "" := by
    intro user huser
    exact of_decide_eq_true (List.all_eq_true.mp hlast.2 user huser)
  cases houtcome : (last.program ()).outcome with
  | none => simp [houtcome] at hlast
  | some result =>
      cases result with
      | error error => simp [houtcome, Except.isOk, Except.toBool] at hlast
      | ok token => exact ⟨last, token, hrun, houtcome, hids⟩

theorem seed_reads_ann :
    ∃ last token, run (step (AuthWorld.answer signingRuntime))
        (requested annRegistersOnly emptyAuth) annRegistering = some last ∧
      userIdFromToken token = some (some (.string "u1")) ∧
      ∃ user, last.world.users.get? "u1" = some user ∧
        IsNewUser signingRuntime "u1" (annRegisters "Ann") user := by
  obtain ⟨last, token, hrun, htoken, -⟩ := ann_registered
  have hsign : signingRuntime.sign = weekSigner.sign := rfl
  exact ⟨last, token, hrun, seed_reads_registered_id hsign hrun rfl htoken⟩

section Sessions

variable (β : Type) (gateway : GatewayConfig) {jwt : JwtService}
  {expiresIn : ℤ} {pathname : String → String}

/-- Behind the middleware a bearer of a fresh token is its subject. -/
theorem serve_getProfile (hjwt : SharesSecret runtime.sign jwt expiresIn)
    (hparse : ParsesUrls pathname) {issued now : Instant}
    (hfresh : now / 1000 < issued / 1000 + expiresIn) {user : UserEntity}
    {request : Gateway.Request β}
    (hheader : request.headers.lookup "authorization" =
      some ("Bearer " ++ runtime.sign issued (payloadOf user)))
    (hroute : Gateway.dispatch pathname request = some .getProfile) :
    Gateway.serve gateway jwt pathname now request =
      .handled .getProfile (.ok (some
        (Gateway.UsersService.getProfile gateway (some user.id)))) := by
  have htoken := tokenOf_bearer hheader (hjwt.chars issued (payloadOf user))
    (hjwt.nonempty issued (payloadOf user))
  have hverify : jwt.verify now (runtime.sign issued (payloadOf user)) =
      .ok { sub := some user.id
            email := some user.email
            role := some user.role.value } := by
    unfold JwtService.verify
    rw [hjwt.accepted issued (payloadOf user) now hfresh, hjwt.payload]
    rfl
  have hprivate : Gateway.AuthMiddleware.isPublic request = false := by
    by_contra hpublic
    rw [Bool.not_eq_false] at hpublic
    have huse : Gateway.AuthMiddleware.use jwt now request = .ok none := by
      unfold Gateway.AuthMiddleware.use
      rw [if_pos hpublic]
    cases Gateway.public_of_use hparse huse hroute
  have huse : Gateway.AuthMiddleware.use jwt now request =
      .ok (some { id := some user.id
                  email := some user.email
                  role := some user.role.value }) := by
    unfold Gateway.AuthMiddleware.use
    rw [hprivate, htoken]
    simp only [hverify, Bool.false_eq_true, if_false]
  unfold Gateway.serve
  rw [huse, hroute]
  rfl

/-- The bearer of a token sees the profile of the account the token was given
out for, as long as the token is good: the gateway names its user, and
auth-service finds the user's row, whatever any user has done to photos since
and whichever of those calls failed. -/
theorem bearer_sees_own_profile
    (hrun : run (step (AuthWorld.answer runtime)) (requested requests world)
      events = some last)
    {thread : τ} {token : String}
    (htoken : (last.program thread).outcome = some (.ok token))
    (hids : ∀ user ∈ last.world.users.rows, user.id ≠ "")
    (hjwt : SharesSecret runtime.sign jwt expiresIn)
    (hparse : ParsesUrls pathname) (config : S3Config) (store : PhotoStore)
    (husers : store.world.users = last.world.users)
    (photos : List UserRequest) :
    ∃ user issued, user ∈ last.world.users.rows ∧
      user.email = (requests thread).email ∧
      (∀ newId dto, requests thread = .register newId dto →
        IsNewUser runtime newId dto user) ∧
      ∀ now (request : Gateway.Request β),
        now / 1000 < issued / 1000 + expiresIn →
        request.headers.lookup "authorization" = some ("Bearer " ++ token) →
        Gateway.dispatch pathname request = some .getProfile →
        ∃ sent photo_url,
          Gateway.serve gateway jwt pathname now request =
            .handled .getProfile (.ok (some sent)) ∧
          ((ProfileController.getProfile config sent.headers).exec
            ProfileWorld.answer (store.after config photos).world).1 =
            .ok { id := user.id
                  email := user.email
                  name := user.name
                  role := user.role
                  photo_url := photo_url
                  photo_required := user.role == .driver } := by
  obtain ⟨user, issued, hmem, hemail, hnew, hsigned⟩ :=
    user_of_token hrun htoken
  refine ⟨user, issued, hmem, hemail, hnew, ?_⟩
  intro now request hfresh hheader hroute
  rw [hsigned] at hheader
  have hserve := serve_getProfile β gateway hjwt hparse hfresh hheader
    hroute
  have hkeeps : Keeps user (store.after config photos).world := by
    apply Keeps.after
    apply keeps_of_mem
    rw [husers]
    exact hmem
  obtain ⟨photo_url, hprofile⟩ := getProfile_of_keeps hkeeps config
  refine ⟨_, photo_url, hserve, ?_⟩
  have hid : currentUserId
      (Gateway.UsersService.getProfile gateway (some user.id) :
        HttpRequest β).headers = .ok user.id := by
    have htruthy : truthy (some user.id) = some user.id := by
      rw [truthy_some, if_neg (hids user hmem)]
    simp only [currentUserId, Gateway.UsersService.getProfile,
      Gateway.UsersService.call, List.lookup_cons_self, Option.join_some,
      htruthy]
  unfold ProfileController.getProfile
  rw [hid, hprofile]

end Sessions

def annAsks (token : String) : Gateway.Request Unit :=
  ⟨"GET", "/users/me", [("authorization", "Bearer " ++ token)], ()⟩

theorem dispatch_annAsks (token : String) :
    Gateway.dispatch Gateway.beforeMarks (annAsks token) =
      some .getProfile := by
  have hroute : Gateway.dispatch Gateway.beforeMarks (annAsks "") =
      some .getProfile := by
    decide +kernel
  exact hroute

/-- Another user asks for an upload URL and deletes a photo meanwhile. -/
def danUploadsOnly : List UserRequest :=
  [⟨"dan", PhotoOperation.at danUploadUrl 0⟩,
    ⟨"u1", PhotoOperation.at .deletePhoto 1⟩]

/-- Nobody has done anything to photos yet. -/
def photosOf (users : Table UserEntity) : PhotoStore where
  world := { users := users, objects := ∅, published := [] }
  issued := []

theorem ann_sees_own_profile :
    ∃ last token user issued, user ∈ last.world.users.rows ∧
      user.email = "ann@x" ∧
      (∀ newId dto, annRegistersOnly () = .register newId dto →
        IsNewUser signingRuntime newId dto user) ∧
      run (step (AuthWorld.answer signingRuntime))
        (requested annRegistersOnly emptyAuth) annRegistering = some last ∧
      ∃ sent photo_url,
        Gateway.serve ⟨"auth", "email"⟩
            weekSigner.jwtService Gateway.beforeMarks issued
            (annAsks token) =
          .handled .getProfile (.ok (some sent)) ∧
        ((ProfileController.getProfile floci sent.headers).exec
          ProfileWorld.answer
            ((photosOf last.world.users).after floci danUploadsOnly).world).1 =
          .ok { id := user.id
                email := user.email
                name := user.name
                role := user.role
                photo_url := photo_url
                photo_required := user.role == .driver } := by
  obtain ⟨last, token, hrun, htoken, hids⟩ := ann_registered
  obtain ⟨user, issued, hmem, hemail, hnew, hprofile⟩ :=
    bearer_sees_own_profile Unit ⟨"auth", "email"⟩ hrun htoken hids
      (sharesSecret weekSigner) Gateway.parsesUrls_beforeMarks floci
      (photosOf last.world.users) rfl danUploadsOnly
  have hfresh : issued / 1000 < issued / 1000 + (weekSigner.expiresIn : ℤ) := by
    have hweek : (0 : ℤ) < (weekSigner.expiresIn : ℤ) := by decide
    omega
  obtain ⟨sent, photo_url, hserve, hrow⟩ :=
    hprofile issued (annAsks token) hfresh rfl (dispatch_annAsks token)
  exact ⟨last, token, user, issued, hmem, hemail, hnew, hrun, sent, photo_url,
    hserve, hrow⟩

end FakeBolt.Auth
