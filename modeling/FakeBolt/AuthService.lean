import FakeBolt.ProfileService

/-!
# auth-service accounts

`UsersService.register`, `AuthService.login` and the internal lookup of a user.
bcrypt and the signing of tokens are left to the caller.  The generated id is
an argument of `register`; the salt of a hash and the time of a signature are
decided call by call, and so is which call fails.  `inc` awaits nothing, but is
a call of its own so that the count is part of the state.
-/

namespace FakeBolt.Auth

open Await Profile Store

structure RegisterDto where
  email : String
  password : String
  name : String
  role : UserRole
  deriving DecidableEq, Repr

structure LoginDto where
  email : String
  password : String
  deriving DecidableEq, Repr

/-- What a token is signed with. -/
structure TokenPayload where
  sub : String
  email : String
  role : UserRole
  deriving DecidableEq, Repr

structure RequestLabels where
  method : String
  route : String
  status_code : String
  deriving DecidableEq, Repr

/-- `compare` tells whether a password agrees with the one that was hashed in
the bytes that bcrypt reads. -/
structure Bcrypt where
  hash : (salt password : String) → String
  compare : (password digest : String) → Bool
  secret : String → List UInt8
  compare_hash : ∀ salt password given,
    compare given (hash salt password) =
      decide (secret given = secret password)

structure AuthRuntime where
  bcrypt : Bcrypt
  sign : Instant → TokenPayload → String

/-! ## Awaited calls -/

inductive AuthCall where
  | findOneByEmail (email : String)
  | findOneById (id : String)
  | save (user : UserEntity)
  | hash (password : String)
  | compare (password digest : String)
  | signAsync (payload : TokenPayload)
  | inc (labels : RequestLabels)

@[reducible] def AuthCall.Reply : AuthCall → Type
  | .findOneByEmail _ => Option UserEntity
  | .findOneById _ => Option UserEntity
  | .save _ => UserEntity
  | .hash _ => String
  | .compare _ _ => Bool
  | .signAsync _ => String
  | .inc _ => Unit

structure AuthWorld where
  users : Table UserEntity
  httpRequestsTotal : List RequestLabels

/-- What the environment decides about one call. -/
structure AuthInput where
  fault : Option String := none
  salt : String := ""
  now : Instant := 0

def hasEmail (email : String) (user : UserEntity) : Bool :=
  user.email == email

def insertUser (user : UserEntity) (world : AuthWorld) :
    Except JsError UserEntity × AuthWorld :=
  match world.users.insert? user with
  | some users => (.ok user, { world with users := users })
  | none =>
      (.error (.queryFailed "23505"
        "duplicate key value violates unique constraint"), world)

/-- Counting cannot fail. -/
def AuthWorld.answer (runtime : AuthRuntime) :
    (call : AuthCall) → AuthInput → AuthWorld →
      Except JsError call.Reply × AuthWorld
  | .inc labels, _, world =>
      (.ok (), { world with
        httpRequestsTotal := world.httpRequestsTotal ++ [labels] })
  | .findOneByEmail email, input, world =>
      match input.fault with
      | some message => (.error (.error message), world)
      | none => (.ok (world.users.find? (hasEmail email)), world)
  | .findOneById id, input, world =>
      match input.fault with
      | some message => (.error (.error message), world)
      | none => (.ok (world.users.get? id), world)
  | .save user, input, world =>
      match input.fault with
      | some message => (.error (.error message), world)
      | none => insertUser user world
  | .hash password, input, world =>
      match input.fault with
      | some message => (.error (.error message), world)
      | none => (.ok (runtime.bcrypt.hash input.salt password), world)
  | .compare password digest, input, world =>
      match input.fault with
      | some message => (.error (.error message), world)
      | none => (.ok (runtime.bcrypt.compare password digest), world)
  | .signAsync payload, input, world =>
      match input.fault with
      | some message => (.error (.error message), world)
      | none => (.ok (runtime.sign input.now payload), world)

abbrev AuthM := Program AuthCall.Reply JsError

def inc (method route status_code : String) : AuthM Unit :=
  Program.call (AuthCall.inc { method, route, status_code })

def payloadOf (user : UserEntity) : TokenPayload where
  sub := user.id
  email := user.email
  role := user.role

def signAsync (user : UserEntity) : AuthM String :=
  Program.call (AuthCall.signAsync (payloadOf user))

/-! ## UsersService -/

namespace UsersService

/-- The promise is returned before it settles, so the `catch` around it never
runs. -/
def findByEmail (email : String) : AuthM (Option UserEntity) :=
  Program.call (AuthCall.findOneByEmail email)

def newUser (newId : String) (dto : RegisterDto) (hashedPassword : String) :
    UserEntity where
  id := newId
  email := dto.email
  password := hashedPassword
  name := dto.name
  role := dto.role
  photoKey := none

/-- The rest of `register` once the user is saved. -/
def issue (user : UserEntity) : AuthM String := do
  inc "POST" "/auth/register" "201"
  signAsync user

/-- The part of `register` for an email that is free. -/
def create (newId : String) (dto : RegisterDto) : AuthM String := do
  let hashedPassword ← Program.call (AuthCall.hash dto.password)
  let user ← Program.call (AuthCall.save (newUser newId dto hashedPassword))
  issue user

/-- The part for one that is taken. -/
def refuse : AuthM String := do
  inc "POST" "/auth/register" "409"
  throw (.http .conflict "Email already in use")

/-- The `catch` of `register`. -/
def registerFailed (error : JsError) : AuthM String :=
  if error.isInstance .conflict then throw error
  else throw (.http .internalServerError "Failed to register user")

def register (newId : String) (dto : RegisterDto) : AuthM String := do
  try
    match ← findByEmail dto.email with
    | some _ => refuse
    | none => create newId dto
  catch error => registerFailed error

end UsersService

/-! ## AuthService -/

namespace AuthService

def countLogin (status_code : String) : AuthM Unit :=
  inc "POST" "/auth/login" status_code

def deny : AuthM String := do
  countLogin "401"
  throw (.http .unauthorized "Invalid credentials")

def accept (user : UserEntity) : AuthM String := do
  countLogin "200"
  signAsync user

/-- The part of `login` that looks at the password. -/
def checkPassword (password : String) (user : UserEntity) : AuthM String := do
  let passwordValid ← Program.call (AuthCall.compare password user.password)
  if passwordValid = false then deny else accept user

/-- The `catch` of `login`. -/
def loginFailed (error : JsError) : AuthM String := do
  if error.isInstance .unauthorized then
    throw (.http .unauthorized "Invalid credentials")
  else
    countLogin "500"
    throw (.http .internalServerError "Failed to login")

def login (dto : LoginDto) : AuthM String := do
  try
    match ← UsersService.findByEmail dto.email with
    | none => deny
    | some user => checkPassword dto.password user
  catch error => loginFailed error

end AuthService

/-! ## InternalUsersController -/

structure UserContact where
  id : String
  email : String
  name : String
  role : UserRole
  deriving DecidableEq, Repr

def isHexDigit (c : Char) : Bool :=
  ('0' ≤ c && c ≤ '9') || ('a' ≤ c && c ≤ 'f') || ('A' ≤ c && c ≤ 'F')

/-- Groups of 8, 4, 4, 4 and 12 hexadecimal digits. -/
def isUUID (value : String) : Bool :=
  value.toList.length == 36 && value.toList.zipIdx.all fun (c, i) =>
    if i = 8 ∨ i = 13 ∨ i = 18 ∨ i = 23 then c == '-' else isHexDigit c

def getUser (id : String) : AuthM UserContact := do
  if isUUID id = false then
    throw (.http .badRequest "Validation failed (uuid is expected)")
  else
    match ← Program.call (AuthCall.findOneById id) with
    | none => throw (.http .notFound "User not found")
    | some user =>
        pure
          { id := user.id
            email := user.email
            name := user.name
            role := user.role }

end FakeBolt.Auth
