import FakeBolt.AccountRuns
import FakeBolt.Seeding

/-!
# Profiles of seeded users

Whatever fails and however seeds overlap, a profile belongs to the user who has
its email.  A user who is left without one when all seeds have ended stays
without: seeding again finds the email taken.
-/

namespace FakeBolt.Seed

open Auth Await Driver JsonText Profile Rider Store Transition

/-! ## What the seeds keep -/

def HasUser (users : Table UserEntity) (userId email name : String)
    (role : UserRole) : Prop :=
  ∃ user ∈ users.rows, user.id = userId ∧ user.email = email ∧
    user.name = name ∧ user.role = role

theorem HasUser.grow {users later : Table UserEntity}
    {userId email name : String} {role : UserRole}
    (hgrow : ∀ user ∈ users.rows, user ∈ later.rows)
    (huser : HasUser users userId email name role) :
    HasUser later userId email name role := by
  obtain ⟨user, hmem, hfields⟩ := huser
  exact ⟨user, hgrow user hmem, hfields⟩

/-- Every profile is that of the user with its email. -/
structure Linked (world : SeedWorld) : Prop where
  drivers : ∀ driver ∈ world.driver.drivers.rows,
    HasUser world.auth.users driver.userId driver.email driver.name .driver
  riders : ∀ rider ∈ world.riders.rows,
    HasUser world.auth.users rider.userId rider.email rider.name .rider

/-- The user is there and has no profile. -/
structure Without (world : SeedWorld) (user : UserEntity) : Prop where
  present : user ∈ world.auth.users.rows
  driver : ∀ driver ∈ world.driver.drivers.rows, driver.userId ≠ user.id
  rider : ∀ rider ∈ world.riders.rows, rider.userId ≠ user.id

structure SeedInv (left : List UserEntity) (world : SeedWorld) : Prop where
  linked : Linked world
  without : ∀ user ∈ left, Without world user

/-- Users are never removed. -/
def seedPromise (left : List UserEntity) : Guarantee SeedWorld where
  Inv := SeedInv left
  Keeps world later :=
    ∀ user ∈ world.auth.users.rows, user ∈ later.auth.users.rows
  refl _ _ huser := huser
  trans hfirst hsecond user huser := hsecond user (hfirst user huser)

variable {left : List UserEntity} {runtime : AuthRuntime}

theorem SeedInv.grow {world later : SeedWorld} (hinv : SeedInv left world)
    (hgrow : ∀ user ∈ world.auth.users.rows, user ∈ later.auth.users.rows)
    (hdriver : later.driver = world.driver)
    (hriders : later.riders = world.riders) : SeedInv left later := by
  constructor
  · constructor
    · rw [hdriver]
      intro driver hmem
      exact (hinv.linked.drivers driver hmem).grow hgrow
    · rw [hriders]
      intro rider hmem
      exact (hinv.linked.riders rider hmem).grow hgrow
  · intro user huser
    have hwithout := hinv.without user huser
    constructor
    · exact hgrow user hwithout.present
    · rw [hdriver]
      exact hwithout.driver
    · rw [hriders]
      exact hwithout.rider

/-! ## auth-service -/

/-- A call of auth-service adds a user at most. -/
theorem users_grow (call : AuthCall) (input : AuthInput) (world : AuthWorld) :
    ∀ user ∈ world.users.rows,
      user ∈ (AuthWorld.answer runtime call input world).2.users.rows := by
  intro user huser
  cases call with
  | inc labels => exact huser
  | save added =>
      cases hfault : input.fault with
      | some message => simpa [AuthWorld.answer, hfault] using huser
      | none =>
          simp only [AuthWorld.answer, hfault, insertUser]
          cases hinsert : world.users.insert? added with
          | none => exact huser
          | some users =>
              simp only [(Table.rows_of_insert? hinsert).1, List.mem_append]
              exact Or.inl huser
  | findOneByEmail email =>
      cases hfault : input.fault <;>
        simpa [AuthWorld.answer, hfault] using huser
  | findOneById id =>
      cases hfault : input.fault <;>
        simpa [AuthWorld.answer, hfault] using huser
  | hash password =>
      cases hfault : input.fault <;>
        simpa [AuthWorld.answer, hfault] using huser
  | compare password digest =>
      cases hfault : input.fault <;>
        simpa [AuthWorld.answer, hfault] using huser
  | signAsync payload =>
      cases hfault : input.fault <;>
        simpa [AuthWorld.answer, hfault] using huser

theorem kept_auth (call : AuthCall) (input : AuthInput) {world : SeedWorld}
    (hinv : SeedInv left world) :
    (seedPromise left).Kept world
      (SeedWorld.answer runtime (.auth call) input world).2 :=
  ⟨hinv.grow (users_grow call input world.auth) rfl rfl,
    users_grow call input world.auth⟩

theorem atAuth_call (call : AuthCall) :
    atAuth (Program.call call) = Program.call (SeedCall.auth call) := by
  change Program.await _ _ = Program.await _ _
  congr
  funext reply
  cases reply <;> rfl

/-- A call of auth-service keeps the promise, so only its answer matters. -/
theorem maintains_auth (call : AuthCall) (world : SeedWorld)
    (post : Except JsError call.Reply → SeedWorld → Prop)
    (hpost : ∀ input later,
      (seedPromise left).Keeps world later → SeedInv left later →
      post (AuthWorld.answer runtime call input later.auth).1
        { later with
          auth := (AuthWorld.answer runtime call input later.auth).2 }) :
    (atAuth (Program.call call)).Maintains (SeedWorld.answer runtime)
      (seedPromise left) world post := by
  rw [atAuth_call, Program.maintains_call]
  intro input later hkeeps hinv
  exact ⟨kept_auth call input hinv, hpost input later hkeeps hinv⟩

/-- The user is in the table under the id, and is none of those left. -/
structure Registered (left : List UserEntity) (newId : String)
    (dto : RegisterDto) (world : SeedWorld) : Prop where
  user : HasUser world.auth.users newId dto.email dto.name dto.role
  fresh : ∀ user ∈ left, user.id ≠ newId

/-- What a registration ends in, if it answers with a token. -/
def RegisterPost (left : List UserEntity) (signer : TokenSigner)
    (newId : String) (dto : RegisterDto) :
    Except JsError String → SeedWorld → Prop
  | .ok token, world =>
      Registered left newId dto world ∧ ∃ issued, token = signer.sign issued
        { sub := newId, email := dto.email, role := dto.role }
  | .error _, _ => True

/-- A row that is inserted clashes with none of the users left. -/
theorem registered_of_insert {world : SeedWorld} {users : Table UserEntity}
    {newId hashedPassword : String} {dto : RegisterDto}
    (hinv : SeedInv left world)
    (hinsert : world.auth.users.insert? (UsersService.newUser newId dto
      hashedPassword) = some users) :
    Registered left newId dto
      { world with auth := { world.auth with users := users } } := by
  obtain ⟨hrows, hfree⟩ := Table.rows_of_insert? hinsert
  constructor
  · refine ⟨UsersService.newUser newId dto hashedPassword, ?_, rfl, rfl, rfl,
      rfl⟩
    rw [hrows]
    simp
  · intro user huser hid
    apply hfree user (hinv.without user huser).present
    rw [clash_iff]
    exact Or.inl hid

theorem Registered.keeps {newId : String} {dto : RegisterDto}
    {world later : SeedWorld} (hregistered : Registered left newId dto world)
    (hkeeps : (seedPromise left).Keeps world later) :
    Registered left newId dto later :=
  ⟨hregistered.user.grow hkeeps, hregistered.fresh⟩

section Register

variable {signer : TokenSigner} (hsign : runtime.sign = signer.sign)
  (newId : String) (dto : RegisterDto)

include hsign in
theorem maintains_issue {world : SeedWorld} {hashedPassword : String}
    (hregistered : Registered left newId dto world) :
    (atAuth (UsersService.issue (UsersService.newUser newId dto
      hashedPassword))).Maintains (SeedWorld.answer runtime) (seedPromise left)
        world (RegisterPost left signer newId dto) := by
  unfold UsersService.issue atAuth
  rw [Program.embed_bind, Program.maintains_bind]
  apply maintains_auth
  intro input later hkeeps _
  have hlater := hregistered.keeps hkeeps
  apply maintains_auth
  intro input last hkeeps _
  cases hfault : input.fault with
  | some message =>
      simp only [AuthWorld.answer, hfault]
      trivial
  | none =>
      simp only [AuthWorld.answer, hfault]
      refine ⟨hlater.keeps hkeeps, input.now, ?_⟩
      rw [hsign]
      rfl

include hsign in
theorem maintains_create (world : SeedWorld) :
    (atAuth (UsersService.create newId dto)).Maintains
      (SeedWorld.answer runtime) (seedPromise left) world
        (RegisterPost left signer newId dto) := by
  unfold UsersService.create atAuth
  rw [Program.embed_bind, Program.maintains_bind]
  apply maintains_auth
  intro input later _ _
  cases hfault : input.fault with
  | some message =>
      simp only [AuthWorld.answer, hfault]
      trivial
  | none =>
      simp only [AuthWorld.answer, hfault]
      rw [Program.embed_bind, Program.maintains_bind]
      apply maintains_auth
      intro input last _ hinv
      cases hfault : input.fault with
      | some message =>
          simp only [AuthWorld.answer, hfault]
          trivial
      | none =>
          simp only [AuthWorld.answer, hfault, insertUser]
          cases hinsert : last.auth.users.insert? (UsersService.newUser newId
              dto _) with
          | none => trivial
          | some users =>
              exact maintains_issue hsign newId dto
                (registered_of_insert hinv hinsert)

include hsign in
theorem maintains_register (world : SeedWorld) :
    (atAuth (UsersService.register newId dto)).Maintains
      (SeedWorld.answer runtime) (seedPromise left) world
        (RegisterPost left signer newId dto) := by
  have hfailed : ∀ (error : JsError) (after : SeedWorld),
      (atAuth (UsersService.registerFailed error)).Maintains
        (SeedWorld.answer runtime) (seedPromise left) after
          (RegisterPost left signer newId dto) := by
    intro error after
    unfold UsersService.registerFailed
    split <;> trivial
  unfold UsersService.register atAuth
  rw [Program.embed_tryCatch, Program.maintains_tryCatch]
  refine Program.Maintains.mono
    (show Program.Maintains (SeedWorld.answer runtime) (seedPromise left) _
      world (RegisterPost left signer newId dto) from ?_) ?_
  · rw [Program.embed_bind, Program.maintains_bind]
    apply maintains_auth
    intro input later _ _
    cases hfault : input.fault with
    | some message =>
        simp only [AuthWorld.answer, hfault]
        trivial
    | none =>
        simp only [AuthWorld.answer, hfault]
        cases later.auth.users.find? (hasEmail dto.email) with
        | none => exact maintains_create hsign newId dto _
        | some taken =>
            simp only [UsersService.refuse]
            rw [Program.embed_bind, Program.maintains_bind]
            apply maintains_auth
            intro input last _ _
            trivial
  · intro result after hpost
    cases result with
    | ok token => exact hpost
    | error error => exact hfailed error after

end Register

/-! ## Profiles -/

theorem forall_of_insert {ρ κ π : Type} [Indexed ρ κ π] {table later : Table ρ} {row : ρ}
    {property : ρ → Prop} (hinsert : table.insert? row = some later)
    (hrows : ∀ other ∈ table.rows, property other) (hrow : property row) :
    ∀ other ∈ later.rows, property other := by
  rw [(Table.rows_of_insert? hinsert).1]
  simpa [or_imp, forall_and] using ⟨hrows, hrow⟩

theorem kept_driver {world : SeedWorld} {driver : DriverEntity}
    {drivers : Table DriverEntity} (hinv : SeedInv left world)
    (huser : HasUser world.auth.users driver.userId driver.email driver.name
      .driver)
    (hfresh : ∀ user ∈ left, user.id ≠ driver.userId)
    (hinsert : world.driver.drivers.insert? driver = some drivers) :
    (seedPromise left).Kept world
      { world with driver := { world.driver with drivers := drivers } } := by
  refine ⟨⟨⟨?_, hinv.linked.riders⟩, ?_⟩, fun _ hmem => hmem⟩
  · exact forall_of_insert hinsert hinv.linked.drivers huser
  · intro user hleft
    have hwithout := hinv.without user hleft
    refine ⟨hwithout.present, ?_, hwithout.rider⟩
    exact forall_of_insert hinsert hwithout.driver (hfresh user hleft).symm

theorem kept_rider {world : SeedWorld} {rider : RiderEntity}
    {riders : Table RiderEntity} (hinv : SeedInv left world)
    (huser : HasUser world.auth.users rider.userId rider.email rider.name
      .rider)
    (hfresh : ∀ user ∈ left, user.id ≠ rider.userId)
    (hinsert : world.riders.insert? rider = some riders) :
    (seedPromise left).Kept world { world with riders := riders } := by
  refine ⟨⟨⟨hinv.linked.drivers, ?_⟩, ?_⟩, fun _ hmem => hmem⟩
  · exact forall_of_insert hinsert hinv.linked.riders huser
  · intro user hleft
    have hwithout := hinv.without user hleft
    refine ⟨hwithout.present, hwithout.driver, ?_⟩
    exact forall_of_insert hinsert hwithout.rider (hfresh user hleft).symm

theorem atDriver_call (call : DriverCall) :
    atDriver (Program.call call) = Program.call (SeedCall.driver call) := by
  change Program.await _ _ = Program.await _ _
  congr
  funext reply
  cases reply <;> rfl

theorem atRider_call (call : RiderCall) :
    atRider (Program.call call) = Program.call (SeedCall.rider call) := by
  change Program.await _ _ = Program.await _ _
  congr
  funext reply
  cases reply <;> rfl

/-- Whatever a program ends in. -/
def Whatever {α : Type} : Except JsError α → SeedWorld → Prop :=
  fun _ _ => True

theorem maintains_createDriver (newId : String) (dto : CreateDriverDto)
    {world : SeedWorld}
    (huser : HasUser world.auth.users dto.userId dto.email dto.name .driver)
    (hfresh : ∀ user ∈ left, user.id ≠ dto.userId) :
    (atDriver (DriverService.createDriver newId dto)).Maintains
      (SeedWorld.answer runtime) (seedPromise left) world Whatever := by
  have hfailed : ∀ (error : JsError) (after : SeedWorld),
      (atDriver (if error.isInstance .conflict then throw error
        else throw (.http .internalServerError "Failed to create driver") :
          DriverM DriverEntity)).Maintains (SeedWorld.answer runtime)
        (seedPromise left) after Whatever := by
    intro error after
    split <;> trivial
  unfold DriverService.createDriver atDriver
  rw [Program.embed_tryCatch, Program.maintains_tryCatch, Program.embed_bind,
    Program.maintains_bind]
  change (atDriver (Program.call (DriverCall.findOneByEmail dto.email))).Maintains
    _ _ _ _
  rw [atDriver_call, Program.maintains_call]
  intro input later hkeeps hinv
  have hlater := huser.grow hkeeps
  cases hfault : input.fault with
  | some message =>
      simp only [SeedWorld.answer, hfault]
      exact ⟨.self hinv, hfailed _ _⟩
  | none =>
      simp only [SeedWorld.answer, hfault, DriverWorld.answer]
      refine ⟨.self hinv, ?_⟩
      cases later.driver.drivers.find? fun driver =>
          decide (driver.email = dto.email) with
      | some existing => exact hfailed _ _
      | none =>
          change (atDriver (Program.call (DriverCall.save _))).Maintains _ _ _ _
          rw [atDriver_call, Program.maintains_call]
          intro input last hkeeps hinv
          cases hfault : input.fault with
          | some message =>
              simp only [SeedWorld.answer, hfault]
              exact ⟨.self hinv, hfailed _ _⟩
          | none =>
              simp only [SeedWorld.answer, hfault, DriverWorld.answer]
              cases hinsert : last.driver.drivers.insert? _ with
              | none => exact ⟨.self hinv, hfailed _ _⟩
              | some drivers =>
                  exact ⟨kept_driver hinv (hlater.grow hkeeps) hfresh hinsert,
                    trivial⟩

theorem maintains_createRider (newId : String) (dto : CreateRiderDto)
    {world : SeedWorld}
    (huser : HasUser world.auth.users dto.userId dto.email dto.name .rider)
    (hfresh : ∀ user ∈ left, user.id ≠ dto.userId) :
    (atRider (RiderService.createRider newId dto)).Maintains
      (SeedWorld.answer runtime) (seedPromise left) world Whatever := by
  unfold RiderService.createRider atRider
  rw [Program.embed_tryCatch, Program.maintains_tryCatch]
  change (atRider (Program.call (RiderCall.save _))).Maintains _ _ _ _
  rw [atRider_call, Program.maintains_call]
  intro input later hkeeps hinv
  cases hfault : input.fault with
  | some message =>
      simp only [SeedWorld.answer, hfault]
      exact ⟨.self hinv, trivial⟩
  | none =>
      simp only [SeedWorld.answer, hfault, RidersTable.answer]
      cases hinsert : later.riders.insert? _ with
      | none => exact ⟨.self hinv, trivial⟩
      | some riders =>
          exact ⟨kept_rider hinv (huser.grow hkeeps) hfresh hinsert, trivial⟩

/-! ## seed.js -/

theorem maintains_request {α : Type} {handler : SeedM α} {world : SeedWorld}
    {post : Except JsError α → SeedWorld → Prop}
    (hhandler : ∀ later, (seedPromise left).Keeps world later →
      handler.Maintains (SeedWorld.answer runtime) (seedPromise left) later post)
    (herror : ∀ error after, post (.error error) after)
    (hstable : ∀ value after later, post (.ok value) after →
      (seedPromise left).Keeps after later → post (.ok value) later) :
    (request handler).Maintains (SeedWorld.answer runtime) (seedPromise left)
      world post := by
  unfold request
  rw [Program.maintains_bind, Program.maintains_call]
  intro input later hkeeps hinv
  cases hfault : input.fault with
  | some message =>
      simp only [SeedWorld.answer, hfault]
      exact ⟨.self hinv, herror _ _⟩
  | none =>
      simp only [SeedWorld.answer, hfault]
      refine ⟨.self hinv, ?_⟩
      rw [Program.maintains_bind]
      refine (hhandler later hkeeps).mono ?_
      intro result after hpost
      cases result with
      | error error => exact hpost
      | ok value =>
          simp only
          rw [Program.maintains_bind, Program.maintains_call]
          intro input last hkeeps hinv
          cases hfault : input.fault with
          | some message =>
              simp only [SeedWorld.answer, hfault]
              exact ⟨.self hinv, herror _ _⟩
          | none =>
              simp only [SeedWorld.answer, hfault]
              exact ⟨.self hinv, hstable value after last hpost hkeeps⟩

section Loops

variable {signer : TokenSigner} (hsign : runtime.sign = signer.sign)

include hsign in
/-- The id that comes out of the token is that of the registered user. -/
theorem maintains_registerUser (newId : String) (dto : RegisterDto)
    (world : SeedWorld) :
    (registerUser newId dto).Maintains (SeedWorld.answer runtime)
      (seedPromise left) world fun result after =>
        ∀ token userId, result = .ok (token, userId) →
          Registered left userId dto after := by
  unfold registerUser
  rw [Program.maintains_bind]
  have hregister : (request (atAuth (UsersService.register newId dto))).Maintains
      (SeedWorld.answer runtime) (seedPromise left) world
        (RegisterPost left signer newId dto) := by
    apply maintains_request
    · intro later _
      exact maintains_register hsign newId dto later
    · intro error after
      trivial
    · intro token after later hpost hkeeps
      exact ⟨hpost.1.keeps hkeeps, hpost.2⟩
  refine hregister.mono ?_
  intro result after hpost
  cases result with
  | error error =>
      intro token userId herror
      cases herror
  | ok token =>
      obtain ⟨hregistered, issued, htoken⟩ := hpost
      simp only [htoken, userIdFromToken_sign]
      intro other userId heq
      have hid := (Prod.mk.inj (Except.ok.inj heq)).2
      rw [← hid]
      exact hregistered

include hsign in
theorem maintains_seeded (newId : String) (dto : RegisterDto)
    {next : String × String → SeedM SeedResult}
    (hnext : ∀ token userId after, Registered left userId dto after →
      (next (token, userId)).Maintains (SeedWorld.answer runtime)
        (seedPromise left) after Whatever)
    (world : SeedWorld) :
    (registerUser newId dto >>= next).Maintains (SeedWorld.answer runtime)
      (seedPromise left) world Whatever := by
  rw [Program.maintains_bind]
  refine (maintains_registerUser hsign newId dto world).mono ?_
  intro result after hpost
  cases result with
  | error error => trivial
  | ok registered =>
      obtain ⟨token, userId⟩ := registered
      exact hnext token userId after (hpost token userId rfl)

theorem maintains_profile {α : Type} {handler : SeedM α} {world : SeedWorld}
    {seeded : SeedResult}
    (hhandler : ∀ later, (seedPromise left).Keeps world later →
      handler.Maintains (SeedWorld.answer runtime) (seedPromise left) later
        Whatever) :
    (request handler >>= fun _ => pure seeded).Maintains
      (SeedWorld.answer runtime) (seedPromise left) world Whatever := by
  rw [Program.maintains_bind]
  have hrequest : (request handler).Maintains (SeedWorld.answer runtime)
      (seedPromise left) world Whatever := by
    apply maintains_request hhandler
    · intro error after
      trivial
    · intro value after later _ _
      trivial
  refine hrequest.mono ?_
  intro result after _
  cases result <;> trivial

include hsign in
theorem maintains_seedDriver (draws : Draws) (i : ℕ) (world : SeedWorld) :
    (seedDriver draws i).Maintains (SeedWorld.answer runtime)
      (seedPromise left) world Whatever := by
  unfold seedDriver
  apply maintains_seeded hsign
  intro token userId after hregistered
  apply maintains_profile
  intro later hkeeps
  apply maintains_createDriver
  · exact hregistered.user.grow hkeeps
  · exact hregistered.fresh

include hsign in
theorem maintains_seedRider (draws : Draws) (i : ℕ) (world : SeedWorld) :
    (seedRider draws i).Maintains (SeedWorld.answer runtime)
      (seedPromise left) world Whatever := by
  unfold seedRider
  apply maintains_seeded hsign
  intro token userId after hregistered
  apply maintains_profile
  intro later hkeeps
  apply maintains_createRider
  · exact hregistered.user.grow hkeeps
  · exact hregistered.fresh

theorem maintains_seedEach {one : ℕ → SeedM SeedResult}
    (hone : ∀ i world, (one i).Maintains (SeedWorld.answer runtime)
      (seedPromise left) world Whatever)
    (indices : List ℕ) (world : SeedWorld) :
    (seedEach one indices).Maintains (SeedWorld.answer runtime)
      (seedPromise left) world Whatever := by
  induction indices generalizing world with
  | nil => trivial
  | cons i indices ih =>
      have hrest : ∀ (created : List SeedResult) (after : SeedWorld),
          (do
            let others ← seedEach one indices
            pure (created ++ others) : SeedM (List SeedResult)).Maintains
            (SeedWorld.answer runtime) (seedPromise left) after Whatever := by
        intro created after
        rw [Program.maintains_bind]
        refine (ih after).mono ?_
        intro result last _
        cases result <;> trivial
      rw [seedEach, Program.maintains_bind, Program.maintains_tryCatch,
        Program.maintains_bind]
      refine (hone i world).mono ?_
      intro result after _
      cases result with
      | error error => exact hrest [] after
      | ok value =>
          simp only
          rw [Program.maintains_bind, Program.maintains_call]
          intro input later _ hinv
          exact ⟨.self hinv, hrest [value] later⟩

end Loops

/-! ## Runs -/

/-- Other clients of auth-service do no harm either. -/
theorem maintains_atAuth {α : Type} (program : AuthM α) (world : SeedWorld) :
    (atAuth program).Maintains (SeedWorld.answer runtime) (seedPromise left)
      world Whatever := by
  induction program generalizing world with
  | done value => trivial
  | fail error => trivial
  | await call resume ih =>
      intro input later _ hinv
      exact ⟨kept_auth call input hinv, ih _ _⟩

structure SeedsSound (left : List UserEntity) (runtime : AuthRuntime)
    (seeds : Seeds) : Prop where
  inv : SeedInv left seeds.world
  underWay : ∀ program ∈ seeds.underWay,
    program.Safe (SeedWorld.answer runtime) (seedPromise left) seeds.world

theorem SeedsSound.start {seeds : Seeds} (hsound : SeedsSound left runtime seeds)
    {α : Type} {program : SeedM α}
    (hprogram : program.Maintains (SeedWorld.answer runtime) (seedPromise left)
      seeds.world Whatever) :
    SeedsSound left runtime (seeds.start program) := by
  refine ⟨hsound.inv, Program.forall_safe_append hsound.underWay ?_⟩
  rw [Program.Safe, Program.maintains_bind]
  refine hprogram.mono ?_
  intro result after _
  cases result <;> trivial

theorem SeedsSound.step {signer : TokenSigner} (hsign : runtime.sign = signer.sign)
    {seeds next : Seeds} {event : SeedEvent}
    (hsound : SeedsSound left runtime seeds)
    (hstep : seeds.step runtime event = some next) :
    SeedsSound left runtime next := by
  cases event with
  | seedDrivers draws count =>
      cases hstep
      exact hsound.start
        (maintains_seedEach (maintains_seedDriver hsign draws) _ _)
  | seedRiders draws count =>
      cases hstep
      exact hsound.start
        (maintains_seedEach (maintains_seedRider hsign draws) _ _)
  | register newId dto =>
      cases hstep
      exact hsound.start (maintains_atAuth _ _)
  | login dto =>
      cases hstep
      exact hsound.start (maintains_atAuth _ _)
  | call index input =>
      obtain ⟨⟨underWay, world⟩, hadvance, heq⟩ :=
        Option.map_eq_some_iff.mp hstep
      subst heq
      obtain ⟨hkept, hsafe⟩ :=
        Program.forall_safe_advanceAt hsound.underWay hsound.inv hadvance
      exact ⟨hkept.inv, hsafe⟩

theorem SeedsSound.run {signer : TokenSigner} (hsign : runtime.sign = signer.sign)
    {world : SeedWorld} (hinv : SeedInv left world) {events : List SeedEvent}
    {last : Seeds}
    (hrun : run (Seeds.step runtime) ⟨[], world⟩ events = some last) :
    SeedInv left last.world := by
  have hinit : SeedsSound left runtime ⟨[], world⟩ :=
    ⟨hinv, by simp⟩
  exact (invariant_of_step
    (fun seeds event next hsound hstep => hsound.step hsign hstep) hinit
    hrun).inv

/-! ## One driver -/

def seedingRuntime : AuthRuntime where
  bcrypt := plainBcrypt
  sign := TokenSigner.sign
    { hmac := fun text => [UInt8.ofNat text.length]
      expiresIn := 604800 }

def seedingDraws : Draws where
  userId i := "user-" ++ toString i
  profileId i := "driver-" ++ toString i
  lat _ := 59
  lng _ := 24

def nothingSeeded : SeedWorld where
  auth := emptyAuth
  driver := { drivers := Table.empty, pool := ∅, published := [] }
  riders := Table.empty

theorem nothingSeeded_linked : Linked nothingSeeded := by
  constructor
  · intro driver hdriver
    cases hdriver
  · intro rider hrider
    cases hrider

/-- The first of those under way makes its next calls. -/
def firstCalls (count : ℕ) : List SeedEvent := List.replicate count (.call 0 {})

def seedsOneDriver : List SeedEvent :=
  .seedDrivers seedingDraws 1 :: firstCalls 12

/-- The request to driver-service does not arrive. -/
def losesProfile : List SeedEvent :=
  .seedDrivers seedingDraws 1 ::
    (firstCalls 7 ++ [.call 0 { fault := some "ECONNREFUSED" }])

/-! ## Main results -/

/-- However many seeds overlap, together with other registrations and logins,
and whatever fails or gets lost: every profile is that of the user who has its
email, name and role, and nobody is both a driver and a rider. -/
theorem seeded_profiles_linked {signer : TokenSigner}
    (hsign : runtime.sign = signer.sign) {world : SeedWorld}
    (hlinked : Linked world) {events : List SeedEvent} {last : Seeds}
    (hrun : Transition.run (Seeds.step runtime) ⟨[], world⟩ events =
      some last) :
    Linked last.world ∧
      ∀ driver ∈ last.world.driver.drivers.rows,
        ∀ rider ∈ last.world.riders.rows, driver.userId ≠ rider.userId := by
  have hinv : SeedInv [] last.world :=
    SeedsSound.run hsign ⟨hlinked, by simp⟩ hrun
  refine ⟨hinv.linked, ?_⟩
  intro driver hdriver rider hrider hsame
  obtain ⟨user, huser, hid, -, -, hrole⟩ := hinv.linked.drivers driver hdriver
  obtain ⟨other, hother, hotherId, -, -, hotherRole⟩ :=
    hinv.linked.riders rider hrider
  have hclash : Indexed.clash user other := by
    rw [clash_iff]
    left
    rw [hid, hotherId, hsame]
  have hequal := Table.eq_of_clash huser hother hclash
  rw [hequal, hotherRole] at hrole
  cases hrole

theorem one_driver_linked :
    ∃ last, Transition.run (Seeds.step seedingRuntime) ⟨[], nothingSeeded⟩
        seedsOneDriver = some last ∧ last.world.driver.drivers.rows ≠ [] ∧
      Linked last.world ∧
      ∀ driver ∈ last.world.driver.drivers.rows,
        ∀ rider ∈ last.world.riders.rows, driver.userId ≠ rider.userId := by
  have hcheck : (Transition.run (Seeds.step seedingRuntime)
      ⟨[], nothingSeeded⟩ seedsOneDriver).any (fun last =>
        decide (last.world.driver.drivers.rows ≠ [])) = true := by
    decide +kernel
  obtain ⟨last, hrun, hlast⟩ := exists_of_run_any hcheck
  have hsign : seedingRuntime.sign = TokenSigner.sign
      { hmac := fun text => [UInt8.ofNat text.length]
        expiresIn := 604800 } := rfl
  exact ⟨last, hrun, of_decide_eq_true hlast,
    seeded_profiles_linked hsign nothingSeeded_linked hrun⟩

/-- A user who is left without a profile when no seed is under way stays
without, however often the seed is run again. -/
theorem seeding_again_repairs_nothing {signer : TokenSigner}
    (hsign : runtime.sign = signer.sign) {world : SeedWorld}
    (hlinked : Linked world) {user : UserEntity} (hwithout : Without world user)
    {events : List SeedEvent} {last : Seeds}
    (hrun : Transition.run (Seeds.step runtime) ⟨[], world⟩ events =
      some last) :
    Without last.world user := by
  have hinv : SeedInv [user] last.world := by
    apply SeedsSound.run hsign _ hrun
    refine ⟨hlinked, ?_⟩
    intro other hother
    rw [List.mem_singleton] at hother
    rw [hother]
    exact hwithout
  exact hinv.without user (by simp)

/-- A user with the id is there and has no profile. -/
def leavesWithout (id : String) (world : SeedWorld) : Bool :=
  (world.auth.users.get? id).isSome &&
    world.driver.drivers.rows.all (fun driver => driver.userId != id) &&
    world.riders.rows.all fun rider => rider.userId != id

theorem without_of_leavesWithout {id : String} {world : SeedWorld}
    (hleaves : leavesWithout id world = true) :
    ∃ user, user.id = id ∧ Without world user := by
  simp only [leavesWithout, Bool.and_eq_true, List.all_eq_true,
    bne_iff_ne] at hleaves
  obtain ⟨⟨huser, hdrivers⟩, hriders⟩ := hleaves
  obtain ⟨user, hget⟩ := Option.isSome_iff_exists.mp huser
  obtain ⟨hmem, hid⟩ := Table.get?_eq_some_iff.mp hget
  have hid : user.id = id := hid
  refine ⟨user, hid, hmem, ?_, ?_⟩
  · rw [hid]
    exact hdrivers
  · rw [hid]
    exact hriders

theorem lost_profile_not_repaired :
    ∃ left last user, Transition.run (Seeds.step seedingRuntime)
        ⟨[], nothingSeeded⟩ losesProfile = some left ∧
      Transition.run (Seeds.step seedingRuntime) ⟨[], left.world⟩
        (.seedDrivers seedingDraws 1 :: firstCalls 3) = some last ∧
      user.id = "user-1" ∧ Without left.world user ∧
      Without last.world user := by
  have hcheck : (Transition.run (Seeds.step seedingRuntime)
      ⟨[], nothingSeeded⟩ losesProfile).any (fun left =>
        leavesWithout "user-1" left.world &&
          (Transition.run (Seeds.step seedingRuntime) ⟨[], left.world⟩
            (.seedDrivers seedingDraws 1 :: firstCalls 3)).any
              fun _ => true) = true := by
    decide +kernel
  obtain ⟨left, hrun, hleft⟩ := exists_of_run_any hcheck
  rw [Bool.and_eq_true] at hleft
  obtain ⟨last, hagain, -⟩ := exists_of_run_any hleft.2
  obtain ⟨user, hid, hwithout⟩ := without_of_leavesWithout hleft.1
  have hsign : seedingRuntime.sign = TokenSigner.sign
      { hmac := fun text => [UInt8.ofNat text.length]
        expiresIn := 604800 } := rfl
  have hinv : SeedInv [] left.world :=
    SeedsSound.run hsign ⟨nothingSeeded_linked, by simp⟩ hrun
  exact ⟨left, last, user, hrun, hagain, hid, hwithout,
    seeding_again_repairs_nothing hsign hinv.linked hwithout hagain⟩

end FakeBolt.Seed
