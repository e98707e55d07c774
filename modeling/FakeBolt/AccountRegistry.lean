import FakeBolt.AtomicRegistry
import FakeBolt.AuthService

/-!
# Accounts under concurrent requests

Any number of `register` and `login` requests interleaved at their awaited
calls behave like accesses to an atomic registry of users: a registration takes
effect when its row is inserted, refused or found to be taken, a login when the
user is looked up.  What a request answers follows from its access.
-/

namespace FakeBolt.Auth

open Await Interleaving Profile Store Transition UsersService AuthService

inductive AuthRequest where
  | register (newId : String) (dto : RegisterDto)
  | login (dto : LoginDto)

/-! ## Stages -/

/-- Where a request stands, by what it awaits next. -/
inductive Stage where
  | looking
  | hashing
  | saving (hashedPassword : String)
  | refusing (taken : UserEntity)
  | comparing (user : UserEntity)
  | denying (found : Option UserEntity)
  | accepting (user : UserEntity)
  | signing (user : UserEntity)
  | failing (access : Option (Access String UserEntity))
  | ended (access : Option (Access String UserEntity))
      (result : Except JsError String)

def finished : Except JsError String → AuthM String
  | .ok token => pure token
  | .error error => throw error

def EMAIL_TAKEN : JsError := .http .conflict "Email already in use"
def NOT_REGISTERED : JsError :=
  .http .internalServerError "Failed to register user"
def DENIED : JsError := .http .unauthorized "Invalid credentials"
def LOGIN_FAILED : JsError := .http .internalServerError "Failed to login"

/-- Stages that a request does not have await nothing. -/
def unreached : AuthM String := throw (.error "unreached")

namespace AuthRequest

def program : AuthRequest → AuthM String
  | .register newId dto => UsersService.register newId dto
  | .login dto => AuthService.login dto

def email : AuthRequest → String
  | .register _ dto => dto.email
  | .login dto => dto.email

def denote : AuthRequest → Stage → AuthM String
  | request, .looking => request.program
  | .register newId dto, .hashing => tryCatch (create newId dto) registerFailed
  | .register newId dto, .saving hashedPassword =>
      tryCatch (do
        let user ← Program.call
          (AuthCall.save (newUser newId dto hashedPassword))
        issue user) registerFailed
  | .register _ _, .refusing _ => tryCatch refuse registerFailed
  | .register _ _, .accepting user => tryCatch (issue user) registerFailed
  | .register _ _, .signing user => tryCatch (signAsync user) registerFailed
  | .login dto, .comparing user =>
      tryCatch (checkPassword dto.password user) loginFailed
  | .login _, .denying _ => tryCatch deny loginFailed
  | .login _, .accepting user => tryCatch (accept user) loginFailed
  | .login _, .signing user => tryCatch (signAsync user) loginFailed
  | .login _, .failing _ => do
      countLogin "500"
      throw LOGIN_FAILED
  | _, .ended _ result => finished result
  | _, _ => unreached

/-- The access of a request that has the user. -/
def having : AuthRequest → UserEntity → Access String UserEntity
  | .register _ _, user => .inserted user
  | .login dto, user => .read dto.email (some user)

/-- The access of a request, once it has taken effect. -/
def point (request : AuthRequest) : Stage → Option (Access String UserEntity)
  | .looking => none
  | .hashing => none
  | .saving _ => none
  | .refusing taken => some (.read request.email (some taken))
  | .comparing user => some (.read request.email (some user))
  | .denying found => some (.read request.email found)
  | .accepting user => some (request.having user)
  | .signing user => some (request.having user)
  | .failing access => access
  | .ended access _ => access

end AuthRequest

/-! ## Answers -/

/-- A row that the request may save: its data, and a hash of its password. -/
def IsNewUser (runtime : AuthRuntime) (newId : String) (dto : RegisterDto)
    (user : UserEntity) : Prop :=
  ∃ salt, user = newUser newId dto (runtime.bcrypt.hash salt dto.password)

/-- What a request answers after its access; a request in which no call fails
answers nothing else. -/
inductive Explained (runtime : AuthRuntime) (healthy : Prop) :
    AuthRequest → Option (Access String UserEntity) →
      Except JsError String → Prop where
  | registered {newId dto user} (now : Instant)
      (huser : IsNewUser runtime newId dto user) :
      Explained runtime healthy (.register newId dto) (some (.inserted user))
        (.ok (runtime.sign now (payloadOf user)))
  | taken {newId dto user} :
      Explained runtime healthy (.register newId dto)
        (some (.read dto.email (some user))) (.error EMAIL_TAKEN)
  | clashed {newId dto user} (huser : IsNewUser runtime newId dto user) :
      Explained runtime healthy (.register newId dto) (some (.refused user))
        (.error NOT_REGISTERED)
  | loggedIn {dto user} (now : Instant)
      (hvalid : runtime.bcrypt.compare dto.password user.password = true) :
      Explained runtime healthy (.login dto)
        (some (.read dto.email (some user)))
        (.ok (runtime.sign now (payloadOf user)))
  | denied {dto found}
      (hinvalid : ∀ user, found = some user →
        runtime.bcrypt.compare dto.password user.password = false) :
      Explained runtime healthy (.login dto) (some (.read dto.email found))
        (.error DENIED)
  /-- A registration whose token could not be signed is registered. -/
  | notRegistered {newId dto access} (hfault : ¬ healthy)
      (haccess : ∀ user, access = some (.inserted user) →
        IsNewUser runtime newId dto user) :
      Explained runtime healthy (.register newId dto) access
        (.error NOT_REGISTERED)
  | loginFailed {dto access} (hfault : ¬ healthy)
      (haccess : ∀ user, access ≠ some (.inserted user)) :
      Explained runtime healthy (.login dto) access (.error LOGIN_FAILED)

/-- What the code has made sure of at a stage. -/
def Stage.Sound (runtime : AuthRuntime) (healthy : Prop) :
    AuthRequest → Stage → Prop
  | _, .looking => True
  | .register _ _, .hashing => True
  | .register newId dto, .saving hashedPassword =>
      IsNewUser runtime newId dto (newUser newId dto hashedPassword)
  | .register _ _, .refusing _ => True
  | .register newId dto, .accepting user => IsNewUser runtime newId dto user
  | .register newId dto, .signing user => IsNewUser runtime newId dto user
  | .login _, .comparing _ => True
  | .login dto, .denying found => ∀ user, found = some user →
      runtime.bcrypt.compare dto.password user.password = false
  | .login dto, .accepting user =>
      runtime.bcrypt.compare dto.password user.password = true
  | .login dto, .signing user =>
      runtime.bcrypt.compare dto.password user.password = true
  | .login _, .failing access =>
      ¬ healthy ∧ ∀ user, access ≠ some (.inserted user)
  | request, .ended access result =>
      Explained runtime healthy request access result
  | _, _ => False

theorem apply_read {email : String} {users : Table UserEntity}
    {found : Option UserEntity} (hfind : users.find? (hasEmail email) = found) :
    (Access.read email found).apply hasEmail users = some users := by
  simp [Access.apply, hfind]

theorem not_healthy_of_fault {healthy : Prop} {input : AuthInput}
    {message : String} (hfault : input.fault = some message)
    (hallowed : healthy → input.fault = none) : ¬ healthy := by
  intro hhealthy
  rw [hallowed hhealthy] at hfault
  cases hfault

/-- What a call of a request leads to. -/
def Moves (runtime : AuthRuntime) (healthy : Prop) (request : AuthRequest)
    (stage : Stage) (call : AuthCall)
    (resume : Except JsError call.Reply → AuthM String)
    (input : AuthInput) (world : AuthWorld) : Prop :=
  ∃ after,
    resume (AuthWorld.answer runtime call input world).1 =
        request.denote after ∧
      TakesEffect (Access.apply hasEmail) AuthWorld.users request.point stage
        world after (AuthWorld.answer runtime call input world).2 ∧
      ((healthy → input.fault = none) →
        Stage.Sound runtime healthy request stage →
          Stage.Sound runtime healthy request after)

section Register

variable (runtime : AuthRuntime) (healthy : Prop) (newId : String)
  (dto : RegisterDto) (input : AuthInput) (world : AuthWorld)

/-- A registration that fails has not been inserted, unless its access says
so. -/
theorem notRegistered_of_fault {message : String}
    (hfault : input.fault = some message)
    (hallowed : healthy → input.fault = none) :
    Stage.Sound runtime healthy (.register newId dto)
      (.ended none (.error NOT_REGISTERED)) :=
  .notRegistered (not_healthy_of_fault hfault hallowed) fun _ hnone => by
    cases hnone

theorem register_looking {call : AuthCall}
    {resume : Except JsError call.Reply → AuthM String}
    (hstage : (AuthRequest.register newId dto).denote .looking =
      .await call resume) :
    Moves runtime healthy (.register newId dto) .looking call resume input
      world := by
  cases hstage
  unfold Moves
  simp only [AuthWorld.answer]
  cases hfault : input.fault with
  | some message =>
      refine ⟨.ended none (.error NOT_REGISTERED), rfl, .silent rfl rfl, ?_⟩
      intro hallowed _
      rw [← hfault] at hallowed
      exact notRegistered_of_fault runtime healthy newId dto input hfault
        hallowed
  | none =>
      cases hfind : world.users.find? (hasEmail dto.email) with
      | none => exact ⟨.hashing, rfl, .silent rfl rfl, fun _ _ => trivial⟩
      | some taken =>
          exact ⟨.refusing taken, rfl, .access _ rfl rfl (apply_read hfind),
            fun _ _ => trivial⟩

theorem register_hashing {call : AuthCall}
    {resume : Except JsError call.Reply → AuthM String}
    (hstage : (AuthRequest.register newId dto).denote .hashing =
      .await call resume) :
    Moves runtime healthy (.register newId dto) .hashing call resume input
      world := by
  cases hstage
  unfold Moves
  simp only [AuthWorld.answer]
  cases hfault : input.fault with
  | some message =>
      refine ⟨.ended none (.error NOT_REGISTERED), rfl, .silent rfl rfl, ?_⟩
      intro hallowed _
      rw [← hfault] at hallowed
      exact notRegistered_of_fault runtime healthy newId dto input hfault
        hallowed
  | none =>
      exact ⟨.saving _, rfl, .silent rfl rfl, fun _ _ => ⟨input.salt, rfl⟩⟩

theorem register_saving {hashedPassword : String} {call : AuthCall}
    {resume : Except JsError call.Reply → AuthM String}
    (hstage : (AuthRequest.register newId dto).denote (.saving hashedPassword) =
      .await call resume) :
    Moves runtime healthy (.register newId dto) (.saving hashedPassword) call
      resume input world := by
  cases hstage
  unfold Moves
  simp only [AuthWorld.answer]
  cases hfault : input.fault with
  | some message =>
      refine ⟨.ended none (.error NOT_REGISTERED), rfl, .silent rfl rfl, ?_⟩
      intro hallowed _
      rw [← hfault] at hallowed
      exact notRegistered_of_fault runtime healthy newId dto input hfault
        hallowed
  | none =>
      simp only [insertUser]
      cases hinsert : world.users.insert? (newUser newId dto hashedPassword) with
      | some users =>
          exact ⟨.accepting (newUser newId dto hashedPassword), rfl,
            .access _ rfl rfl hinsert, fun _ hnew => hnew⟩
      | none =>
          refine ⟨.ended (some (.refused (newUser newId dto hashedPassword)))
            (.error NOT_REGISTERED), rfl, .access _ rfl rfl ?_,
            fun _ hnew => .clashed hnew⟩
          simp [Access.apply, hinsert]

/-- What follows the access of a registration leaves the registry alone. -/
theorem register_moves {stage : Stage} {call : AuthCall}
    {resume : Except JsError call.Reply → AuthM String}
    (hstage : (AuthRequest.register newId dto).denote stage =
      .await call resume) :
    Moves runtime healthy (.register newId dto) stage call resume input
      world := by
  cases stage with
  | looking => exact register_looking runtime healthy newId dto input world hstage
  | hashing => exact register_hashing runtime healthy newId dto input world hstage
  | saving hashedPassword =>
      exact register_saving runtime healthy newId dto input world hstage
  | refusing taken =>
      cases hstage
      exact ⟨.ended (some (.read dto.email (some taken))) (.error EMAIL_TAKEN),
        rfl, .silent rfl rfl, fun _ _ => .taken⟩
  | accepting user =>
      cases hstage
      exact ⟨.signing user, rfl, .silent rfl rfl, fun _ hnew => hnew⟩
  | signing user =>
      cases hstage
      unfold Moves
      simp only [AuthWorld.answer]
      cases hfault : input.fault with
      | some message =>
          refine ⟨.ended (some (.inserted user)) (.error NOT_REGISTERED), rfl,
            .silent rfl rfl, ?_⟩
          intro hallowed hnew
          rw [← hfault] at hallowed
          apply Explained.notRegistered (not_healthy_of_fault hfault hallowed)
          intro other hother
          cases hother
          exact hnew
      | none =>
          exact ⟨.ended (some (.inserted user)) (.ok _), rfl, .silent rfl rfl,
            fun _ hnew => .registered _ hnew⟩
  | comparing user => cases hstage
  | denying found => cases hstage
  | failing access => cases hstage
  | ended access result => cases result <;> cases hstage

end Register

section Login

variable (runtime : AuthRuntime) (healthy : Prop) (dto : LoginDto)
  (input : AuthInput) (world : AuthWorld)

theorem login_looking {call : AuthCall}
    {resume : Except JsError call.Reply → AuthM String}
    (hstage : (AuthRequest.login dto).denote .looking = .await call resume) :
    Moves runtime healthy (.login dto) .looking call resume input world := by
  cases hstage
  unfold Moves
  simp only [AuthWorld.answer]
  cases hfault : input.fault with
  | some message =>
      refine ⟨.failing none, rfl, .silent rfl rfl, ?_⟩
      intro hallowed _
      rw [← hfault] at hallowed
      exact ⟨not_healthy_of_fault hfault hallowed, by simp⟩
  | none =>
      cases hfind : world.users.find? (hasEmail dto.email) with
      | none =>
          refine ⟨.denying none, rfl, .access _ rfl rfl (apply_read hfind), ?_⟩
          intro _ _ user hsome
          cases hsome
      | some user =>
          exact ⟨.comparing user, rfl, .access _ rfl rfl (apply_read hfind),
            fun _ _ => trivial⟩

theorem login_comparing {user : UserEntity} {call : AuthCall}
    {resume : Except JsError call.Reply → AuthM String}
    (hstage : (AuthRequest.login dto).denote (.comparing user) =
      .await call resume) :
    Moves runtime healthy (.login dto) (.comparing user) call resume input
      world := by
  cases hstage
  unfold Moves
  simp only [AuthWorld.answer]
  cases hfault : input.fault with
  | some message =>
      refine ⟨.failing _, rfl, .silent rfl rfl, ?_⟩
      intro hallowed _
      rw [← hfault] at hallowed
      exact ⟨not_healthy_of_fault hfault hallowed, by
        simp⟩
  | none =>
      cases hvalid : runtime.bcrypt.compare dto.password user.password with
      | false =>
          refine ⟨.denying (some user), rfl, .silent rfl rfl, ?_⟩
          intro _ _ found hfound
          cases hfound
          exact hvalid
      | true =>
          exact ⟨.accepting user, rfl, .silent rfl rfl, fun _ _ => hvalid⟩

/-- What follows the lookup of a login leaves the registry alone. -/
theorem login_moves {stage : Stage} {call : AuthCall}
    {resume : Except JsError call.Reply → AuthM String}
    (hstage : (AuthRequest.login dto).denote stage = .await call resume) :
    Moves runtime healthy (.login dto) stage call resume input world := by
  cases stage with
  | looking => exact login_looking runtime healthy dto input world hstage
  | comparing user => exact login_comparing runtime healthy dto input world hstage
  | denying found =>
      cases hstage
      exact ⟨.ended (some (.read dto.email found)) (.error DENIED), rfl,
        .silent rfl rfl, fun _ hinvalid => .denied hinvalid⟩
  | accepting user =>
      cases hstage
      exact ⟨.signing user, rfl, .silent rfl rfl, fun _ hvalid => hvalid⟩
  | signing user =>
      cases hstage
      unfold Moves
      simp only [AuthWorld.answer]
      cases hfault : input.fault with
      | some message =>
          refine ⟨.failing _, rfl, .silent rfl rfl, ?_⟩
          intro hallowed _
          rw [← hfault] at hallowed
          exact ⟨not_healthy_of_fault hfault hallowed, by
            simp [AuthRequest.having]⟩
      | none =>
          exact ⟨.ended (some (.read dto.email (some user))) (.ok _), rfl,
            .silent rfl rfl, fun _ hvalid => .loggedIn _ hvalid⟩
  | failing access =>
      cases hstage
      exact ⟨.ended access (.error LOGIN_FAILED), rfl, .silent rfl rfl,
        fun _ hfailed => .loginFailed hfailed.1 hfailed.2⟩
  | hashing => cases hstage
  | saving hashedPassword => cases hstage
  | refusing taken => cases hstage
  | ended access result => cases result <;> cases hstage

end Login

/-- Each call moves a request to its next stage and is its access, or nothing
to the registry. -/
theorem stageRule (runtime : AuthRuntime) (healthy : Prop)
    (request : AuthRequest) :
    StageRule (AuthWorld.answer runtime) request.denote
      fun stage world _ _ input after next =>
        TakesEffect (Access.apply hasEmail) AuthWorld.users request.point stage
            world after next ∧
          ((healthy → input.fault = none) →
            Stage.Sound runtime healthy request stage →
              Stage.Sound runtime healthy request after) where
  move := by
    intro stage call resume hstage input world
    cases request with
    | register newId dto =>
        exact register_moves runtime healthy newId dto input world hstage
    | login dto => exact login_moves runtime healthy dto input world hstage

/-! ## Runs -/

theorem ended_of_outcome {runtime : AuthRuntime} {healthy : Prop}
    {request : AuthRequest} {stage : Stage} {result : Except JsError String}
    (hsound : Stage.Sound runtime healthy request stage)
    (houtcome : (request.denote stage).outcome = some result) :
    Explained runtime healthy request (request.point stage) result := by
  cases request with
  | register newId dto =>
      cases stage with
      | ended access ending =>
          have hending : ending = result := by
            cases ending <;> cases houtcome <;> rfl
          subst hending
          exact hsound
      | comparing user => exact hsound.elim
      | denying found => exact hsound.elim
      | failing access => exact hsound.elim
      | looking => cases houtcome
      | hashing => cases houtcome
      | saving hashedPassword => cases houtcome
      | refusing taken => cases houtcome
      | accepting user => cases houtcome
      | signing user => cases houtcome
  | login dto =>
      cases stage with
      | ended access ending =>
          have hending : ending = result := by
            cases ending <;> cases houtcome <;> rfl
          subst hending
          exact hsound
      | hashing => exact hsound.elim
      | saving hashedPassword => exact hsound.elim
      | refusing taken => exact hsound.elim
      | looking => cases houtcome
      | comparing user => cases houtcome
      | denying found => cases houtcome
      | accepting user => cases houtcome
      | signing user => cases houtcome
      | failing access => cases houtcome

theorem isNewUser_of_point {runtime : AuthRuntime} {healthy : Prop}
    {request : AuthRequest} {stage : Stage} {user : UserEntity}
    (hsound : Stage.Sound runtime healthy request stage)
    (hpoint : request.point stage = some (.inserted user)) :
    ∃ newId dto, request = .register newId dto ∧
      IsNewUser runtime newId dto user := by
  cases request with
  | register newId dto =>
      refine ⟨newId, dto, rfl, ?_⟩
      cases stage with
      | accepting saved =>
          cases hpoint
          exact hsound
      | signing saved =>
          cases hpoint
          exact hsound
      | ended access result =>
          cases hpoint
          cases hsound with
          | registered now huser => exact huser
          | notRegistered hfault haccess => exact haccess user rfl
      | failing access => exact hsound.elim
      | looking => cases hpoint
      | hashing => cases hpoint
      | saving hashedPassword => cases hpoint
      | refusing taken => cases hpoint
      | comparing found => cases hpoint
      | denying found => cases hpoint
  | login dto =>
      cases stage with
      | failing access => exact (hsound.2 user hpoint).elim
      | ended access result =>
          cases hpoint
          cases hsound with
          | loginFailed hfault haccess => exact (haccess user rfl).elim
      | looking => cases hpoint
      | hashing => cases hpoint
      | saving hashedPassword => cases hpoint
      | refusing taken => cases hpoint
      | comparing found => cases hpoint
      | denying found => cases hpoint
      | accepting saved => cases hpoint
      | signing saved => cases hpoint

section Runs

variable {τ : Type} [DecidableEq τ]

/-- None of the calls of the request fails. -/
def Healthy (events : List (τ × AuthInput)) (thread : τ) : Prop :=
  ∀ event ∈ events, event.1 = thread → event.2.fault = none

/-- The requests before any of them has made a call. -/
def requested (requests : τ → AuthRequest) (world : AuthWorld) :
    Interleaving τ AuthCall.Reply JsError String AuthWorld :=
  Interleaving.start (fun thread => (requests thread).program) world

/-- A history of a run at the registry: what its accesses make of the users,
and the access that each request has made. -/
structure Served (runtime : AuthRuntime) (requests : τ → AuthRequest)
    (world : AuthWorld) (events : List (τ × AuthInput))
    (last : Interleaving τ AuthCall.Reply JsError String AuthWorld)
    (marks : List (Option (Access String UserEntity))) : Prop where
  length : marks.length = events.length
  replays : ∀ before middle, before <+: events →
    run (step (AuthWorld.answer runtime)) (requested requests world) before =
      some middle →
    replay (Access.apply hasEmail) world.users (taken before marks) =
      some middle.world.users
  once : ∀ thread, (ownAccesses thread (taken events marks)).length ≤ 1
  inserts : ∀ thread user,
    (thread, Access.inserted user) ∈ taken events marks →
    ∃ newId dto, requests thread = .register newId dto ∧
      IsNewUser runtime newId dto user
  answers : ∀ thread result,
    (last.program thread).outcome = some result →
    Explained runtime (Healthy events thread) (requests thread)
      (ownAccesses thread (taken events marks)).head? result

theorem exists_served {runtime : AuthRuntime} {requests : τ → AuthRequest}
    {world : AuthWorld} {events : List (τ × AuthInput)}
    {last : Interleaving τ AuthCall.Reply JsError String AuthWorld}
    (hrun : run (step (AuthWorld.answer runtime)) (requested requests world)
      events = some last) :
    ∃ marks, Served runtime requests world events last marks := by
  have hrule : ∀ thread, StageRule (AuthWorld.answer runtime)
      (requests thread).denote fun stage world _ _ input after next =>
        TakesEffect (Access.apply hasEmail) AuthWorld.users
            (requests thread).point stage world after next ∧
          ((Healthy events thread → input.fault = none) →
            Stage.Sound runtime (Healthy events thread) (requests thread) stage →
              Stage.Sound runtime (Healthy events thread) (requests thread)
                after) :=
    fun thread => stageRule runtime (Healthy events thread) (requests thread)
  have hstages : AtStages (fun thread => (requests thread).denote)
      (fun _ => .looking) (requested requests world) := by
    intro thread
    cases hrequest : requests thread <;>
      simp [requested, Interleaving.start, hrequest, AuthRequest.denote]
  have hsound : ∀ thread, Stage.Sound runtime (Healthy events thread)
      (requests thread) .looking := by
    intro thread
    cases requests thread <;> trivial
  obtain ⟨after, marks, hlast, hkept, hlinear⟩ := linearized hrule hstages
    hsound (fun event hevent hhealthy => hhealthy event hevent rfl) hrun
  have hown : ∀ thread, ownAccesses thread (taken events marks) =
      ((requests thread).point (after thread)).toList := by
    intro thread
    rw [← hlinear.own thread]
    cases requests thread <;> rfl
  refine ⟨marks, hlinear.length, hlinear.replays, ?_, ?_, ?_⟩
  · intro thread
    rw [hown]
    cases (requests thread).point (after thread) <;> simp
  · intro thread user hmem
    rw [← mem_ownAccesses, hown, Option.mem_toList] at hmem
    exact isNewUser_of_point (hkept thread) hmem
  · intro thread result houtcome
    rw [hlast thread] at houtcome
    rw [hown]
    have hended := ended_of_outcome (hkept thread) houtcome
    rwa [Option.head?_toList]

end Runs

end FakeBolt.Auth
