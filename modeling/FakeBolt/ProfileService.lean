import FakeBolt.AwaitProgram
import FakeBolt.KafkaMessages
import FakeBolt.UniqueTable
import Mathlib.Data.Finmap

/-!
# auth-service profiles

The `users` table, the photo bucket in S3, and the photo operations of
`ProfileService`.  The clock is an argument, and so is where S3 is reachable
from outside.
-/

namespace FakeBolt.Profile

open Await Kafka Store

inductive UserRole where
  | rider
  | driver
  deriving DecidableEq, Repr

def UserRole.value : UserRole → String
  | .rider => "rider"
  | .driver => "driver"

structure UserEntity where
  id : String
  email : String
  password : String
  name : String
  role : UserRole
  photoKey : Option String
  deriving DecidableEq, Repr

structure UserPatch where
  photoKey : Option String
  deriving DecidableEq, Repr

def UserPatch.apply (patch : UserPatch) (user : UserEntity) : UserEntity :=
  { user with photoKey := patch.photoKey }

/-- `id` is the primary key; `email` has a unique index. -/
instance : Indexed UserEntity String UserPatch where
  key user := user.id
  clash r s := r.id == s.id || r.email == s.email
  clash_of_key_eq := by
    intro r s hkey
    simp [hkey]
  clash_symm := by
    intro r s hclash
    simp only [Bool.or_eq_true, beq_iff_eq] at hclash ⊢
    rcases hclash with h | h <;> simp [h]
  patch := UserPatch.apply
  key_patch _ _ := rfl
  clash_patch hclash := hclash

structure S3Object where
  contentType : String
  bytes : List UInt8
  deriving DecidableEq, Repr

abbrev Bucket := Finmap fun _ : String => S3Object

/-! ## Awaited calls -/

structure HeadObjectOutput where
  contentType : String
  contentLength : Option ℕ
  deriving DecidableEq, Repr

inductive ProfileCall where
  | findOne (id : String)
  | update (id : String) (patch : UserPatch)
  | headObject (key : String)
  /-- With the range `bytes=0-{count - 1}`, which no byte of an empty object
  is in. -/
  | getObject (key : String) (count : ℕ)
  | deleteObject (key : String)
  | send (record : ProducerRecord)

@[reducible] def ProfileCall.Reply : ProfileCall → Type
  | .findOne _ => Option UserEntity
  | .update _ _ => Unit
  | .headObject _ => HeadObjectOutput
  | .getObject _ _ => List UInt8
  | .deleteObject _ => Unit
  | .send _ => Unit

structure ProfileWorld where
  users : Table UserEntity
  objects : Bucket
  published : List ProducerRecord

def ProfileWorld.answer :
    (call : ProfileCall) → ProfileWorld →
      Except JsError call.Reply × ProfileWorld
  | .findOne id, world => (.ok (world.users.get? id), world)
  | .update id patch, world =>
      (.ok (), { world with users := world.users.update id patch })
  | .headObject key, world =>
      match world.objects.lookup key with
      | some object =>
          (.ok { contentType := object.contentType
                 contentLength := some object.bytes.length }, world)
      | none => (.error (.s3 (some 404) "NotFound"), world)
  | .getObject key count, world =>
      match world.objects.lookup key with
      | some object =>
          if object.bytes = [] then
            (.error (.s3 (some 416) "InvalidRange"), world)
          else (.ok (object.bytes.take count), world)
      | none => (.error (.s3 (some 404) "NoSuchKey"), world)
  | .deleteObject key, world =>
      (.ok (), { world with objects := world.objects.erase key })
  | .send record, world =>
      (.ok (), { world with published := world.published ++ [record] })

/-- The same world when any call may fail: the environment says which, by the
call made. -/
def ProfileWorld.faulty (call : ProfileCall)
    (fault : ProfileCall → Option String) (world : ProfileWorld) :
    Except JsError call.Reply × ProfileWorld :=
  faultable ProfileWorld.answer call ((fault call).map JsError.error) world

abbrev ProfileM := Program ProfileCall.Reply JsError

namespace UsersRepository

def findOne (id : String) : ProfileM (Option UserEntity) :=
  Program.call (ProfileCall.findOne id)

def update (id : String) (patch : UserPatch) : ProfileM Unit :=
  Program.call (ProfileCall.update id patch)

end UsersRepository

namespace S3Service

def headObject (key : String) : ProfileM (Option HeadObjectOutput) := do
  try
    let output ← Program.call (ProfileCall.headObject key)
    pure (some output)
  catch error =>
    match error with
    | .s3 (some 404) _ => pure none
    | _ => throw error

def readFirstBytes (key : String) (count : ℕ) : ProfileM (List UInt8) :=
  Program.call (ProfileCall.getObject key count)

def deleteObject (key : String) : ProfileM Unit :=
  Program.call (ProfileCall.deleteObject key)

end S3Service

/-! ## Uploads -/

/-- What an upload URL is signed for. -/
structure PresignedUrl where
  key : String
  contentType : String
  signedAt : Instant
  /-- In seconds. -/
  expiresIn : ℕ
  deriving DecidableEq, Repr

namespace PresignedUrl

def valid (url : PresignedUrl) (now : Instant) : Bool :=
  decide (now ≤ url.signedAt + url.expiresIn * 1000)

end PresignedUrl

/-- Signing is a computation; it does not reach S3. -/
def S3Service.createUploadUrl (now : Instant) (key contentType : String)
    (expiresIn : ℕ) : PresignedUrl where
  key := key
  contentType := contentType
  signedAt := now
  expiresIn := expiresIn

def KafkaProducer.publish (key : String) (message : Message) : ProfileM Unit :=
  Program.call (ProfileCall.send { key := some key, message := message })

/-! ## Image signatures -/

def ALLOWED_PHOTO_TYPES : List String :=
  ["image/jpeg", "image/png", "image/webp"]

def MAX_PHOTO_BYTES : ℕ := 5 * 1024 * 1024

def SIGNATURE_BYTES : ℕ := 12

def startsWith (bytes signature : List UInt8) (offset : ℕ) : Bool :=
  signature.zipIdx.all fun (value, i) => bytes[offset + i]? == some value

def UPLOAD_URL_EXPIRES_IN : ℕ := 300

/-- `EXTENSIONS[contentType]`, as it prints in a template string. -/
def EXTENSIONS (contentType : String) : String :=
  if contentType = "image/jpeg" then "jpg"
  else if contentType = "image/png" then "png"
  else if contentType = "image/webp" then "webp"
  else "undefined"

/-- The checks that `SIGNATURES` holds for the allowed types. -/
def matchesImageSignature (contentType : String) (bytes : List UInt8) : Bool :=
  if contentType = "image/png" then
    startsWith bytes [0x89, 0x50, 0x4e, 0x47, 0x0d, 0x0a, 0x1a, 0x0a] 0
  else if contentType = "image/jpeg" then
    startsWith bytes [0xff, 0xd8, 0xff] 0
  else if contentType = "image/webp" then
    startsWith bytes [0x52, 0x49, 0x46, 0x46] 0 &&
      startsWith bytes [0x57, 0x45, 0x42, 0x50] 8
  else false

/-! ## ProfileService -/

structure S3Config where
  publicEndpoint : String
  bucket : String
  deriving DecidableEq, Repr

structure CreatePhotoUploadUrlDto where
  content_type : String
  size_bytes : ℕ
  deriving DecidableEq, Repr

structure PhotoUploadUrl where
  upload_url : PresignedUrl
  key : String
  expires_in : ℕ
  method : String
  headers : List (String × String)
  deriving DecidableEq, Repr

structure UserProfile where
  id : String
  email : String
  name : String
  role : UserRole
  photo_url : Option String
  photo_required : Bool
  deriving DecidableEq, Repr

namespace ProfileService

variable (config : S3Config)

/-- `buildPhotoUrl`, which runs when a user is loaded. -/
def photoUrl (user : UserEntity) : Option String :=
  (truthy user.photoKey).map fun key =>
    config.publicEndpoint ++ "/" ++ config.bucket ++ "/" ++ key

def findUser (userId : String) : ProfileM UserEntity := do
  match ← UsersRepository.findOne userId with
  | none => throw (.http .notFound "User not found")
  | some user => pure user

def getProfile (userId : String) : ProfileM UserProfile := do
  let user ← findUser userId
  pure
    { id := user.id
      email := user.email
      name := user.name
      role := user.role
      photo_url := photoUrl config user
      photo_required := user.role == .driver }

def publishPhotoUpdated (now : Instant) (user : UserEntity)
    (hasPhoto : Bool) : ProfileM Unit :=
  KafkaProducer.publish user.id
    (.userPhotoUpdated
      { userId := user.id
        role := user.role.value
        hasPhoto := hasPhoto
        timestamp := isoString now })

def deleteFromS3 (key : String) : ProfileM Unit := do
  try
    S3Service.deleteObject key
  catch _ => pure ()

def photoPrefix (userId : String) : String := "users/" ++ userId ++ "/"

/-- `newId` is the `randomUUID()` of the call. -/
def createUploadUrl (now : Instant) (newId userId : String)
    (dto : CreatePhotoUploadUrlDto) : ProfileM PhotoUploadUrl := do
  let _ ← findUser userId
  -- the server picks the key, so a user can only write under their own prefix
  let key :=
    photoPrefix userId ++ newId ++ "." ++ EXTENSIONS dto.content_type
  pure
    { upload_url :=
        S3Service.createUploadUrl now key dto.content_type
          UPLOAD_URL_EXPIRES_IN
      key := key
      expires_in := UPLOAD_URL_EXPIRES_IN
      method := "PUT"
      headers := [("Content-Type", dto.content_type)] }

/-- The part of `confirmPhoto` that looks at the uploaded object. -/
def checkObject (key : String) : ProfileM Unit := do
  match ← S3Service.headObject key with
  | none =>
      throw (.http .badRequest
        "Photo not uploaded yet, PUT it to the upload_url first")
  | some object =>
      let isAllowedType := ALLOWED_PHOTO_TYPES.contains object.contentType
      if isAllowedType = false ∨
          object.contentLength.getD 0 > MAX_PHOTO_BYTES then
        deleteFromS3 key
        throw (.http .badRequest
          "Photo must be jpeg, png or webp and 5 MB or smaller")
      else
        let firstBytes ← S3Service.readFirstBytes key SIGNATURE_BYTES
        if matchesImageSignature object.contentType firstBytes = false then
          deleteFromS3 key
          throw (.http .badRequest
            "File is not a real jpeg, png or webp image")

/-- The part that makes the key the user's; confirming the same key again is
allowed. -/
def storeKey (user : UserEntity) (userId key : String) : ProfileM Unit := do
  if user.photoKey ≠ some key then
    UsersRepository.update userId { photoKey := some key }
    match truthy user.photoKey with
    | some previousKey => deleteFromS3 previousKey
    | none => pure ()

def confirmPhoto (now : Instant) (userId key : String) :
    ProfileM UserProfile := do
  let user ← findUser userId
  if (photoPrefix userId).toList.isPrefixOf key.toList = false then
    throw (.http .badRequest "This key does not belong to you")
  else
    checkObject key
    storeKey user userId key
    publishPhotoUpdated now user true
    getProfile config userId

def deletePhoto (now : Instant) (userId : String) : ProfileM UserProfile := do
  let user ← findUser userId
  match truthy user.photoKey with
  | none => throw (.http .notFound "You have no profile photo")
  | some photoKey =>
      -- DB first, then S3
      UsersRepository.update userId { photoKey := none }
      deleteFromS3 photoKey
      publishPhotoUpdated now user false
      getProfile config userId

end ProfileService

end FakeBolt.Profile
