import FakeBolt.AwaitEmbedding
import FakeBolt.AwaitGuarantees
import FakeBolt.DriverService
import FakeBolt.GuardedRun
import FakeBolt.RiderService
import FakeBolt.WebTokens

/-!
# The seed

`seed.js` registers users at auth-service and gives each of them a profile at
driver-service or rider-service.  The handlers it calls are run call by call,
so any number of seeds may run at the same time, together with registrations
of other clients; every call of a handler may fail, and a request or its
answer may get lost on the way.  An answer is lost only after the handler has
ended.  Random positions and generated ids are drawn beforehand.
-/

namespace FakeBolt.Seed

open Auth Await Driver JsonText Profile Rider Store Transition

/-! ## The services -/

structure SeedWorld where
  auth : AuthWorld
  driver : DriverWorld
  riders : Table RiderEntity

inductive SeedCall where
  | auth (call : AuthCall)
  | driver (call : DriverCall)
  | rider (call : RiderCall)
  | transmit
  | sleep (milliseconds : ℕ)

@[reducible] def SeedCall.Reply : SeedCall → Type
  | .auth call => call.Reply
  | .driver call => call.Reply
  | .rider call => call.Reply
  | .transmit => Unit
  | .sleep _ => Unit

def SeedWorld.answer (runtime : AuthRuntime) :
    (call : SeedCall) → AuthInput → SeedWorld →
      Except JsError call.Reply × SeedWorld
  | .auth call, input, world =>
      let outcome := AuthWorld.answer runtime call input world.auth
      (outcome.1, { world with auth := outcome.2 })
  | .driver call, input, world =>
      match input.fault with
      | some message => (.error (.error message), world)
      | none =>
          let outcome := DriverWorld.answer call world.driver
          (outcome.1, { world with driver := outcome.2 })
  | .rider call, input, world =>
      match input.fault with
      | some message => (.error (.error message), world)
      | none =>
          let outcome := RidersTable.answer call world.riders
          (outcome.1, { world with riders := outcome.2 })
  | .transmit, input, world =>
      match input.fault with
      | some message => (.error (.axios none message), world)
      | none => (.ok (), world)
  | .sleep _, _, world => (.ok (), world)

abbrev SeedM := Program SeedCall.Reply JsError

def atAuth {α : Type} (program : AuthM α) : SeedM α :=
  program.embed SeedCall.auth fun _ reply => reply

def atDriver {α : Type} (program : DriverM α) : SeedM α :=
  program.embed SeedCall.driver fun _ reply => reply

def atRider {α : Type} (program : RiderM α) : SeedM α :=
  program.embed SeedCall.rider fun _ reply => reply

/-- An HTTP request and its answer. -/
def request {α : Type} (handler : SeedM α) : SeedM α := do
  Program.call SeedCall.transmit
  let answer ← handler
  Program.call SeedCall.transmit
  pure answer

/-! ## seed.js -/

structure Draws where
  userId : ℕ → String
  profileId : ℕ → String
  lat : ℕ → Num
  lng : ℕ → Num

structure SeedResult where
  email : String
  password : String
  token : String
  userId : String
  deriving DecidableEq, Repr

/-- A `sub` that is no text is not a UUID, so the profile would be refused. -/
def registerUser (newId : String) (dto : RegisterDto) :
    SeedM (String × String) := do
  let token ← request (atAuth (UsersService.register newId dto))
  match userIdFromToken token with
  | some (some (.string userId)) => pure (token, userId)
  | _ => throw (.axios (some 400) "userId must be a UUID")

def createDriver (newId : String) (dto : CreateDriverDto) :
    SeedM DriverEntity :=
  request (atDriver (DriverService.createDriver newId dto))

def createRider (newId : String) (dto : CreateRiderDto) : SeedM RiderEntity :=
  request (atRider (RiderService.createRider newId dto))

def PASSWORD : String := "Password123!"

/-- The body of the loop of `seedDrivers`. -/
def seedDriver (draws : Draws) (i : ℕ) : SeedM SeedResult := do
  let email := "driver" ++ toString i ++ "@fakebolt.com"
  let name := "Driver-" ++ toString i
  let (token, userId) ← registerUser (draws.userId i)
    { email := email, password := PASSWORD, name := name, role := .driver }
  let _ ← createDriver (draws.profileId i)
    { userId := userId
      name := name
      email := email
      lat := some (draws.lat i)
      lng := some (draws.lng i) }
  pure { email := email, password := PASSWORD, token := token, userId := userId }

/-- The body of the loop of `seedRiders`. -/
def seedRider (draws : Draws) (i : ℕ) : SeedM SeedResult := do
  let email := "rider" ++ toString i ++ "@fakebolt.com"
  let name := "Rider-" ++ toString i
  let (token, userId) ← registerUser (draws.userId i)
    { email := email, password := PASSWORD, name := name, role := .rider }
  let _ ← createRider (draws.profileId i)
    { userId := userId, name := name, email := email }
  pure { email := email, password := PASSWORD, token := token, userId := userId }

/-- The loop: what fails is logged and left out of the results. -/
def seedEach (one : ℕ → SeedM SeedResult) : List ℕ → SeedM (List SeedResult)
  | [] => pure []
  | i :: rest => do
      let created ← tryCatch (do
        let result ← one i
        Program.call (SeedCall.sleep 50)
        pure [result]) fun _ => pure []
      let others ← seedEach one rest
      pure (created ++ others)

def seedDrivers (draws : Draws) (SEED_DRIVERS : ℕ) : SeedM (List SeedResult) :=
  seedEach (seedDriver draws) (List.range' 1 SEED_DRIVERS)

def seedRiders (draws : Draws) (SEED_RIDERS : ℕ) : SeedM (List SeedResult) :=
  seedEach (seedRider draws) (List.range' 1 SEED_RIDERS)

/-! ## Seeds under way -/

structure Seeds where
  underWay : List (SeedM Unit)
  world : SeedWorld

inductive SeedEvent where
  | seedDrivers (draws : Draws) (count : ℕ)
  | seedRiders (draws : Draws) (count : ℕ)
  /-- Another client registers a user. -/
  | register (newId : String) (dto : RegisterDto)
  | login (dto : LoginDto)
  /-- The next call of one of them. -/
  | call (index : ℕ) (input : AuthInput)

namespace Seeds

def start {α : Type} (seeds : Seeds) (program : SeedM α) : Seeds :=
  { seeds with underWay := seeds.underWay ++ [program >>= fun _ => pure ()] }

def step (runtime : AuthRuntime) (seeds : Seeds) : SeedEvent → Option Seeds
  | .seedDrivers draws count => some (seeds.start (Seed.seedDrivers draws count))
  | .seedRiders draws count => some (seeds.start (Seed.seedRiders draws count))
  | .register newId dto =>
      some (seeds.start (atAuth (UsersService.register newId dto)))
  | .login dto => some (seeds.start (atAuth (AuthService.login dto)))
  | .call index input =>
      (Program.advanceAt (SeedWorld.answer runtime) seeds.underWay index input
        seeds.world).map fun outcome =>
          { underWay := outcome.1, world := outcome.2 }

end Seeds

end FakeBolt.Seed
