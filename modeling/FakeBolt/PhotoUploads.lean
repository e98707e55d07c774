import FakeBolt.AwaitFootprints
import FakeBolt.PhotoAttempts

/-!
# The photo store

The `users` table, the bucket, the published events and the upload URLs given
out so far, taken through every order of the photo operations.  A `PUT`
through a URL that has not expired stores whatever the client sends; a
deletion in S3 and a publish may fail.
-/

namespace FakeBolt.Profile

open Await Kafka Store ProfileService

/-- A URL together with the user it was returned to, the only one who knows
it. -/
structure IssuedUrl where
  userId : String
  url : PresignedUrl
  deriving DecidableEq, Repr

structure PhotoStore where
  world : ProfileWorld
  issued : List IssuedUrl

/-- No user has a photo and no URL is out. -/
structure PhotoStore.Fresh (store : PhotoStore) : Prop where
  noPhoto : ∀ user ∈ store.world.users.rows, user.photoKey = none
  noUrl : store.issued = []

inductive PhotoOperation where
  | createUploadUrl (newId : String) (dto : CreatePhotoUploadUrlDto)
  /-- A `PUT` through a URL for the key. -/
  | upload (key : String) (object : S3Object)
  | confirmPhoto (key : String)
  | deletePhoto
  deriving DecidableEq, Repr

/-- An operation of a user, and what goes wrong while it runs: no operation
makes more than one deletion and one publish. -/
structure PhotoRequest where
  now : Instant
  operation : PhotoOperation
  deleteFault : Option String
  sendFault : Option String
  deriving DecidableEq, Repr

namespace PhotoRequest

def fault (request : PhotoRequest) : ProfileCall → Option String
  | .deleteObject _ => request.deleteFault
  | .send _ => request.sendFault
  | _ => none

def answer (request : PhotoRequest) (call : ProfileCall) (world : ProfileWorld) :
    Except JsError call.Reply × ProfileWorld :=
  ProfileWorld.faulty call request.fault world

end PhotoRequest

def returnedUrls (userId : String) :
    Except JsError PhotoUploadUrl → List IssuedUrl
  | .ok reply => [⟨userId, reply.upload_url⟩]
  | .error _ => []

namespace PhotoStore

/-- The user was given a URL for the key that is still good.  The content type
that the URL is signed for is not looked at: any type is accepted. -/
def acceptsUpload (store : PhotoStore) (userId key : String)
    (now : Instant) : Bool :=
  store.issued.any fun given =>
    given.userId == userId && given.url.key == key && given.url.valid now

variable (config : S3Config) (userId : String)

/-- An operation of `userId`, run to its end. -/
def step (store : PhotoStore) (request : PhotoRequest) : PhotoStore :=
  match request.operation with
  | .createUploadUrl newId dto =>
      let outcome :=
        (createUploadUrl request.now newId userId dto).exec request.answer
          store.world
      { world := outcome.2
        issued := store.issued ++ returnedUrls userId outcome.1 }
  | .upload key object =>
      if store.acceptsUpload userId key request.now then
        { store with world :=
          { store.world with
            objects := store.world.objects.insert key object } }
      else store
  | .confirmPhoto key =>
      { store with world :=
        ((confirmPhoto config request.now userId key).exec request.answer
          store.world).2 }
  | .deletePhoto =>
      { store with world :=
        ((deletePhoto config request.now userId).exec request.answer
          store.world).2 }

end PhotoStore

/-! ## What an operation touches -/

/-- A call to the table, the bucket or the broker, or a `PUT` of a client. -/
inductive Access where
  | call (made : ProfileCall)
  | put (key : String)

/-- Everything that `step` reads and writes outside the process. -/
def PhotoStore.accesses (config : S3Config) (userId : String)
    (store : PhotoStore) (request : PhotoRequest) : List Access :=
  match request.operation with
  | .createUploadUrl newId dto =>
      ((createUploadUrl request.now newId userId dto).calls request.answer
        store.world).map .call
  | .upload key _ =>
      if store.acceptsUpload userId key request.now then [.put key] else []
  | .confirmPhoto key =>
      ((confirmPhoto config request.now userId key).calls request.answer
        store.world).map .call
  | .deletePhoto =>
      ((deletePhoto config request.now userId).calls request.answer
        store.world).map .call

def isAbout (userId : String) (record : ProducerRecord) : Bool :=
  record.key == some userId ||
    match record.message with
    | .userPhotoUpdated event => event.userId == userId
    | _ => false

/-- The access reads or writes the row, an object or an event of the user. -/
def Access.Concerns (userId : String) : Access → Prop
  | .call (.findOne id) => id = userId
  | .call (.update id _) => id = userId
  | .call (.headObject key) => Owned userId key
  | .call (.getObject key _) => Owned userId key
  | .call (.deleteObject key) => Owned userId key
  | .call (.send record) => isAbout userId record = true
  | .put key => Owned userId key

/-- The worlds agree on the row, the objects and the events of the user. -/
structure SameWorld (userId : String) (world world' : ProfileWorld) : Prop where
  row : world.users.get? userId = world'.users.get? userId
  objects : ∀ key, Owned userId key →
    world.objects.lookup key = world'.objects.lookup key
  events : world.published.filter (isAbout userId) =
    world'.published.filter (isAbout userId)

/-- The stores agree on all that is the user's, upload URLs included. -/
structure SameFor (userId : String) (store store' : PhotoStore) : Prop where
  world : SameWorld userId store.world store'.world
  issued : store.issued.filter (fun given => given.userId == userId) =
    store'.issued.filter (fun given => given.userId == userId)

/-! ## Operations of several users -/

structure UserRequest where
  userId : String
  request : PhotoRequest
  deriving DecidableEq, Repr

def PhotoStore.after (config : S3Config) (store : PhotoStore)
    (requests : List UserRequest) : PhotoStore :=
  requests.foldl
    (fun store made => store.step config made.userId made.request) store

/-! ## Two users signing up -/

def dan : UserEntity where
  id := "8c5e2b7a-41d6-4f0e-9b1f-2f6f0c1d7a01"
  email := "dan@example.com"
  password := "hash"
  name := "Dan"
  role := .driver
  photoKey := none

def eva : UserEntity where
  id := "3d9f60c4-7be2-4a58-8c43-90b7e5d2c602"
  email := "eva@example.com"
  password := "hash"
  name := "Eva"
  role := .driver
  photoKey := none

def signedUpUsers : PhotoStore where
  world :=
    { users := ⟨[dan, eva], by
        rw [List.pairwise_pair]
        decide +kernel⟩
      objects := ∅
      published := [] }
  issued := []

theorem signedUpUsers_fresh : signedUpUsers.Fresh where
  noPhoto := by
    intro user huser
    have hmem : user = dan ∨ user = eva := by
      simpa [signedUpUsers] using huser
    rcases hmem with hdan | heva
    · rw [hdan]
      rfl
    · rw [heva]
      rfl
  noUrl := rfl

def floci : S3Config := ⟨"http://localhost:4566", "photos"⟩

def PhotoOperation.at (operation : PhotoOperation) (now : Instant) :
    PhotoRequest :=
  ⟨now, operation, none, none⟩

def danUploadUrl : PhotoOperation :=
  .createUploadUrl "6f1c1f0e-2c9a-4f3b-8a55-0d5b8e1f2a77" ⟨"image/jpeg", 4⟩

def danKey : String :=
  photoPrefix dan.id ++ "6f1c1f0e-2c9a-4f3b-8a55-0d5b8e1f2a77" ++ ".jpg"

def jpeg : S3Object := ⟨"image/jpeg", [0xff, 0xd8, 0xff, 0xe0]⟩

/-- Dan uploads a photo and confirms it. -/
def danUploads : List PhotoRequest :=
  [PhotoOperation.at danUploadUrl 0,
    PhotoOperation.at (.upload danKey jpeg) 1000,
    PhotoOperation.at (.confirmPhoto danKey) 2000]

end FakeBolt.Profile
