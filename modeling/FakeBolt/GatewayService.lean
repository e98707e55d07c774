import FakeBolt.JsRuntime
import Mathlib.Data.List.DropRight

/-!
# The gateway

`AuthMiddleware`, the routes behind it and what `UsersService` and
`ReceiptsService` send on.  Two things are left to the caller: how a token is
verified, and how Express takes the pathname from a raw URL.  What
`AuthService` and `DriverService` send carries no identity and is not
followed here.
-/

namespace FakeBolt.Gateway

/-! ## Strings -/

/-- `split('?')[0]`. -/
def beforeQuery (url : List Char) : List Char :=
  url.takeWhile fun c => c != '?'

/-- `replace(/\/+$/, '')`. -/
def dropTrailingSlashes (path : List Char) : List Char :=
  path.rdropWhile fun c => c == '/'

/-- `replace(pattern, '')`: the first occurrence only. -/
def removeFirst (pattern : List Char) : List Char → List Char
  | [] => []
  | c :: cs =>
      if pattern.isPrefixOf (c :: cs) then (c :: cs).drop pattern.length
      else c :: removeFirst pattern cs

/-- White space and line terminators, as `trim` sees them. -/
def isJsSpace (c : Char) : Bool :=
  [0x9, 0xA, 0xB, 0xC, 0xD, 0x20, 0xA0, 0x1680, 0x2028, 0x2029, 0x202F, 0x205F,
    0x3000, 0xFEFF].contains c.toNat ||
    decide (0x2000 ≤ c.toNat ∧ c.toNat ≤ 0x200A)

def trim (value : List Char) : List Char :=
  (value.dropWhile isJsSpace).rdropWhile isJsSpace

/-! ## Requests -/

/-- Header names are lower case; of several `authorization` headers the first
counts.  The body is any value. -/
structure Request (β : Type) where
  method : String
  originalUrl : String
  headers : List (String × String)
  body : β

structure JwtPayload where
  sub : Option String
  email : Option String
  role : Option String
  deriving DecidableEq, Repr

/-- What a token says, and why it is refused at a time, if it is: a wrong
signature, or it has expired. -/
structure JwtService where
  payload : String → JwtPayload
  refuses : Instant → String → Option JsError

def JwtService.verify (jwt : JwtService) (now : Instant) (token : String) :
    Except JsError JwtPayload :=
  match jwt.refuses now token with
  | some error => .error error
  | none => .ok (jwt.payload token)

/-- `req.user`. -/
structure RequestUser where
  id : Option String
  email : Option String
  role : Option String
  deriving DecidableEq, Repr

/-! ## AuthMiddleware -/

structure PublicRoute where
  path : String
  method : String
  deriving DecidableEq, Repr

def PUBLIC_ROUTES : List PublicRoute :=
  [⟨"/auth/register", "POST"⟩,
    ⟨"/auth/login", "POST"⟩,
    ⟨"/health", "GET"⟩,
    ⟨"/metrics", "GET"⟩,
    ⟨"/payments/webhook", "POST"⟩]

namespace AuthMiddleware

variable {β : Type}

def requestPath (originalUrl : String) : String :=
  let path :=
    String.ofList (dropTrailingSlashes (beforeQuery originalUrl.toList))
  if path = "" then "/" else path

def isPublic (request : Request β) : Bool :=
  PUBLIC_ROUTES.any fun route =>
    route.path == requestPath request.originalUrl &&
      route.method == request.method

def tokenOf (headers : List (String × String)) : Except JsError String :=
  match truthy (headers.lookup "authorization") with
  | none => .error (.http .unauthorized "Missing authorization header")
  | some authorization =>
      let token := String.ofList
        (trim (removeFirst "Bearer ".toList authorization.toList))
      if token = "" then .error (.http .unauthorized "Missing token")
      else .ok token

/-- The user of the request when `next` is called: none for a public route. -/
def use (jwt : JwtService) (now : Instant) (request : Request β) :
    Except JsError (Option RequestUser) :=
  if isPublic request then .ok none
  else
    match tokenOf request.headers with
    | .error error => .error error
    | .ok token =>
        match jwt.verify now token with
        | .error _ =>
            .error (.http .unauthorized "Invalid or expired token")
        | .ok payload =>
            .ok (some
              { id := payload.sub
                email := payload.email
                role := payload.role })

end AuthMiddleware

/-! ## Routes -/

inductive Segment where
  | literal (text : String)
  | param
  deriving DecidableEq, Repr

/-- The methods of the controllers. -/
inductive Handler where
  | check
  | register
  | login
  | getMetrics
  | getDriver
  | updateStatus
  | updateLocation
  | getProfile
  | createPhotoUploadUrl
  | confirmPhoto
  | deletePhoto
  | getMyReceipts
  deriving DecidableEq, Repr

structure Route where
  method : String
  path : List Segment
  handler : Handler
  deriving DecidableEq, Repr

def ROUTES : List Route :=
  [⟨"GET", [.literal "health"], .check⟩,
    ⟨"POST", [.literal "auth", .literal "register"], .register⟩,
    ⟨"POST", [.literal "auth", .literal "login"], .login⟩,
    ⟨"GET", [.literal "metrics"], .getMetrics⟩,
    ⟨"GET", [.literal "drivers", .param], .getDriver⟩,
    ⟨"PATCH", [.literal "drivers", .param, .literal "status"], .updateStatus⟩,
    ⟨"PATCH", [.literal "drivers", .param, .literal "location"],
      .updateLocation⟩,
    ⟨"GET", [.literal "users", .literal "me"], .getProfile⟩,
    ⟨"POST", [.literal "users", .literal "me", .literal "photo",
      .literal "upload-url"], .createPhotoUploadUrl⟩,
    ⟨"POST", [.literal "users", .literal "me", .literal "photo",
      .literal "confirm"], .confirmPhoto⟩,
    ⟨"DELETE", [.literal "users", .literal "me", .literal "photo"],
      .deletePhoto⟩,
    ⟨"GET", [.literal "users", .literal "me", .literal "receipts"],
      .getMyReceipts⟩]

def sameLetter (c d : Char) : Bool :=
  c.toLower == d.toLower

/-- What follows the text at the front of a path. -/
def dropLiteral : List Char → List Char → Option (List Char)
  | [], rest => some rest
  | c :: text, d :: rest => if sameLetter c d then dropLiteral text rest else none
  | _ :: _, [] => none

/-- Express compares without case and allows one trailing slash. -/
def matchesPath : List Segment → List Char → Bool
  | [], rest => rest == [] || rest == ['/']
  | .literal text :: segments, rest =>
      match dropLiteral ('/' :: text.toList) rest with
      | some rest => matchesPath segments rest
      | none => false
  | .param :: segments, '/' :: rest =>
      rest.takeWhile (fun c => c != '/') != [] &&
        matchesPath segments (rest.dropWhile fun c => c != '/')
  | .param :: _, _ => false

/-- No route has a handler for HEAD, so Express takes that of GET. -/
def handlesMethod (route : Route) (method : String) : Bool :=
  let name := if method.toLower = "head" then "get" else method.toLower
  name == route.method.toLower

def dispatch {β : Type} (pathname : String → String) (request : Request β) :
    Option Handler :=
  (ROUTES.find? fun route =>
    handlesMethod route request.method &&
      matchesPath route.path (pathname request.originalUrl).toList).map
    Route.handler

/-! ## What is sent on -/

structure GatewayConfig where
  AUTH_SERVICE_URL : String
  EMAIL_SERVICE_URL : String
  deriving DecidableEq, Repr

/-- A header without a value is not sent. -/
structure HttpRequest (β : Type) where
  method : String
  url : String
  data : Option β
  headers : List (String × Option String)
  deriving DecidableEq, Repr

variable {β : Type} (config : GatewayConfig)

namespace UsersService

def call (method path : String) (userId : Option String) (body : Option β) :
    HttpRequest β where
  method := method
  url := config.AUTH_SERVICE_URL ++ path
  data := body
  headers := [("x-user-id", userId)]

def getProfile (userId : Option String) : HttpRequest β :=
  call config "get" "/users/me" userId none

def createPhotoUploadUrl (userId : Option String) (body : β) : HttpRequest β :=
  call config "post" "/users/me/photo/upload-url" userId (some body)

def confirmPhoto (userId : Option String) (body : β) : HttpRequest β :=
  call config "post" "/users/me/photo/confirm" userId (some body)

def deletePhoto (userId : Option String) : HttpRequest β :=
  call config "delete" "/users/me/photo" userId none

end UsersService

namespace ReceiptsService

def call (method path : String) (userId : Option String) : HttpRequest β where
  method := method
  url := config.EMAIL_SERVICE_URL ++ path
  data := none
  headers := [("x-user-id", userId)]

def getMyReceipts (userId : Option String) : HttpRequest β :=
  call config "get" "/receipts/me" userId

end ReceiptsService

/-- `req.user.id`. -/
def userIdOf : Option RequestUser → Except JsError (Option String)
  | some user => .ok user.id
  | none =>
      .error (.error "Cannot read properties of undefined (reading 'id')")

/-- What a handler sends downstream for the user, if it is one of those. -/
def handle (handler : Handler) (user : Option RequestUser) (body : β) :
    Except JsError (Option (HttpRequest β)) :=
  match handler with
  | .getProfile =>
      (userIdOf user).map fun id => some (UsersService.getProfile config id)
  | .createPhotoUploadUrl =>
      (userIdOf user).map fun id =>
        some (UsersService.createPhotoUploadUrl config id body)
  | .confirmPhoto =>
      (userIdOf user).map fun id =>
        some (UsersService.confirmPhoto config id body)
  | .deletePhoto =>
      (userIdOf user).map fun id => some (UsersService.deletePhoto config id)
  | .getMyReceipts =>
      (userIdOf user).map fun id =>
        some (ReceiptsService.getMyReceipts config id)
  | _ => .ok none

inductive Response (β : Type) where
  | refused (error : JsError)
  | notFound
  | handled (handler : Handler)
      (sent : Except JsError (Option (HttpRequest β)))
  deriving DecidableEq

/-- The middleware is bound to every path, so it runs before any handler. -/
def serve (jwt : JwtService) (pathname : String → String) (now : Instant)
    (request : Request β) : Response β :=
  match AuthMiddleware.use jwt now request with
  | .error error => .refused error
  | .ok user =>
      match dispatch pathname request with
      | none => .notFound
      | some handler =>
          .handled handler (handle config handler user request.body)

end FakeBolt.Gateway
