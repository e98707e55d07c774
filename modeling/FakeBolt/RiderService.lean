import FakeBolt.AwaitProgram
import FakeBolt.JsRuntime
import FakeBolt.UniqueTable

/-!
# rider-service

The `riders` table and how `RiderService` adds to it; the generated id is an
argument.
-/

namespace FakeBolt.Rider

open Await Store

structure RiderEntity where
  id : String
  userId : String
  name : String
  email : String
  deriving DecidableEq, Repr

/-- `id` is the primary key; `user_id` and `email` have unique indexes.  No
row is ever changed. -/
instance : Indexed RiderEntity String Unit where
  key rider := rider.id
  clash r s := r.id == s.id || r.userId == s.userId || r.email == s.email
  clash_of_key_eq := by
    intro r s hkey
    simp [hkey]
  clash_symm := by
    intro r s hclash
    simp only [Bool.or_eq_true, beq_iff_eq] at hclash ⊢
    rcases hclash with (h | h) | h <;> simp [h]
  patch _ rider := rider
  key_patch _ _ := rfl
  clash_patch hclash := hclash

inductive RiderCall where
  | save (rider : RiderEntity)

@[reducible] def RiderCall.Reply : RiderCall → Type
  | .save _ => RiderEntity

def RidersTable.answer : (call : RiderCall) → Table RiderEntity →
    Except JsError call.Reply × Table RiderEntity
  | .save rider, riders =>
      match riders.insert? rider with
      | some next => (.ok rider, next)
      | none =>
          (.error (.queryFailed "23505"
            "duplicate key value violates unique constraint"), riders)

abbrev RiderM := Program RiderCall.Reply JsError

structure CreateRiderDto where
  userId : String
  name : String
  email : String
  deriving DecidableEq, Repr

namespace RiderService

/-- A duplicate is not told from any other failure. -/
def createRider (newId : String) (data : CreateRiderDto) :
    RiderM RiderEntity := do
  try
    Program.call (RiderCall.save
      { id := newId
        userId := data.userId
        name := data.name
        email := data.email })
  catch _ => throw (.http .internalServerError "Failed to create rider")

end RiderService

end FakeBolt.Rider
