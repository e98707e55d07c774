import FakeBolt.AuthService
import FakeBolt.AwaitEmbedding

/-!
# All of auth-service

Registrations, logins, lookups by other services and the photo operations over
one database, S3 and Kafka.  What a client puts into the bucket comes in
between as well.  Any call may fail.
-/

namespace FakeBolt.Auth

open Await Kafka Profile Store

structure EndpointsWorld where
  users : Table UserEntity
  httpRequestsTotal : List RequestLabels
  objects : Bucket
  published : List ProducerRecord

inductive EndpointsCall where
  | account (call : AuthCall)
  | profile (call : ProfileCall)
  /-- A client's upload. -/
  | put (key : String) (object : S3Object)

@[reducible] def EndpointsCall.Reply : EndpointsCall → Type
  | .account call => call.Reply
  | .profile call => call.Reply
  | .put _ _ => Unit

namespace EndpointsWorld

def accounts (world : EndpointsWorld) : AuthWorld where
  users := world.users
  httpRequestsTotal := world.httpRequestsTotal

def profiles (world : EndpointsWorld) : ProfileWorld where
  users := world.users
  objects := world.objects
  published := world.published

def answer (runtime : AuthRuntime) :
    (call : EndpointsCall) → AuthInput → EndpointsWorld →
      Except JsError call.Reply × EndpointsWorld
  | .account call, input, world =>
      let outcome := AuthWorld.answer runtime call input world.accounts
      (outcome.1, { world with
        users := outcome.2.users
        httpRequestsTotal := outcome.2.httpRequestsTotal })
  | .profile call, input, world =>
      match input.fault with
      | some message => (.error (.error message), world)
      | none =>
          let outcome := ProfileWorld.answer call world.profiles
          (outcome.1, { world with
            users := outcome.2.users
            objects := outcome.2.objects
            published := outcome.2.published })
  | .put key object, input, world =>
      match input.fault with
      | some message => (.error (.error message), world)
      | none =>
          (.ok (), { world with objects := world.objects.insert key object })

end EndpointsWorld

abbrev EndpointsM := Program EndpointsCall.Reply JsError

def ofAccounts {α : Type} (program : AuthM α) : EndpointsM α :=
  program.embed EndpointsCall.account fun _ reply => reply

def ofProfiles {α : Type} (program : ProfileM α) : EndpointsM α :=
  program.embed EndpointsCall.profile fun _ reply => reply

inductive EndpointRequest where
  | register (newId : String) (dto : RegisterDto)
  | login (dto : LoginDto)
  | getUser (id : String)
  | getProfile (userId : String)
  | createUploadUrl (now : Instant) (newId userId : String)
      (dto : CreatePhotoUploadUrlDto)
  | confirmPhoto (now : Instant) (userId key : String)
  | deletePhoto (now : Instant) (userId : String)
  | put (key : String) (object : S3Object)

inductive EndpointReply where
  | token (token : String)
  | contact (contact : UserContact)
  | profile (profile : UserProfile)
  | uploadUrl (url : PhotoUploadUrl)
  | stored
  deriving DecidableEq, Repr

def EndpointRequest.program (config : S3Config) :
    EndpointRequest → EndpointsM EndpointReply
  | .register newId dto =>
      ofAccounts (UsersService.register newId dto) >>= fun token =>
        pure (.token token)
  | .login dto =>
      ofAccounts (AuthService.login dto) >>= fun token => pure (.token token)
  | .getUser id =>
      ofAccounts (Auth.getUser id) >>= fun contact => pure (.contact contact)
  | .getProfile userId =>
      ofProfiles (ProfileService.getProfile config userId) >>= fun profile =>
        pure (.profile profile)
  | .createUploadUrl now newId userId dto =>
      ofProfiles (ProfileService.createUploadUrl now newId userId dto) >>=
        fun url => pure (.uploadUrl url)
  | .confirmPhoto now userId key =>
      ofProfiles (ProfileService.confirmPhoto config now userId key) >>=
        fun profile => pure (.profile profile)
  | .deletePhoto now userId =>
      ofProfiles (ProfileService.deletePhoto config now userId) >>=
        fun profile => pure (.profile profile)
  | .put key object =>
      Program.call (EndpointsCall.put key object) >>= fun _ => pure .stored

end FakeBolt.Auth
