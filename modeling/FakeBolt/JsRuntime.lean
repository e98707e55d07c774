import Mathlib.Data.Rat.Floor
import Mathlib.Tactic.Common

/-!
# The values the services compute with

Numbers are the exact values of finite doubles, strings are sequences of
Unicode scalar values, and a date is a count of milliseconds or invalid.
Two parts of the runtime are left to the caller: how a string that is not
necessarily an ISO timestamp parses as a date, and how a number too large for
`toFixed` prints.
-/

namespace FakeBolt

/-- The value of a finite double. -/
abbrev Num := ℚ

inductive HttpException where
  | badRequest
  | unauthorized
  | notFound
  | conflict
  | unprocessableEntity
  | internalServerError
  deriving DecidableEq, Repr

def HttpException.status : HttpException → ℕ
  | .badRequest => 400
  | .unauthorized => 401
  | .notFound => 404
  | .conflict => 409
  | .unprocessableEntity => 422
  | .internalServerError => 500

/-- Whatever an awaited call rejects with or a handler throws. -/
inductive JsError where
  | http (exception : HttpException) (message : String)
  | queryFailed (code : String) (message : String)
  | axios (status : Option ℕ) (message : String)
  | s3 (status : Option ℕ) (message : String)
  | error (message : String)
  deriving DecidableEq, Repr

namespace JsError

def message : JsError → String
  | .http _ message => message
  | .queryFailed _ message => message
  | .axios _ message => message
  | .s3 _ message => message
  | .error message => message

def isHttpException : JsError → Bool
  | .http _ _ => true
  | _ => false

def isInstance (exception : HttpException) : JsError → Bool
  | .http raised _ => raised == exception
  | _ => false

end JsError

/-- A nullable string seen through a truthiness test: null, undefined and the
empty string are all falsy. -/
def truthy (value : Option String) : Option String :=
  value.filter fun s => s ≠ ""

@[simp] theorem truthy_none : truthy none = none := rfl

theorem truthy_some (s : String) :
    truthy (some s) = if s = "" then none else some s := by
  by_cases hempty : s = "" <;> simp [truthy, hempty]

theorem truthy_eq_some_iff {value : Option String} {s : String} :
    truthy value = some s ↔ value = some s ∧ s ≠ "" := by
  simp [truthy, Option.filter_eq_some_iff]

/-! ## Dates -/

abbrev Instant := ℤ

/-- A date object; `none` is the invalid date. -/
abbrev Date := Option Instant

/-- The parts of the runtime that are not spelled out here. -/
structure JsRuntime where
  dateParse : String → Date
  numberToString : Num → String

def padStart (width : ℕ) (s : String) : String :=
  String.ofList (List.replicate (width - s.length) '0') ++ s

/-- Year, month and day of a day count since the epoch, in the proleptic
Gregorian calendar. -/
def civilFromDays (days : ℤ) : ℤ × ℕ × ℕ :=
  let z := days + 719468
  let era := z / 146097
  let dayOfEra := (z % 146097).toNat
  let yearOfEra :=
    (dayOfEra - dayOfEra / 1460 + dayOfEra / 36524 - dayOfEra / 146096) / 365
  let dayOfYear := dayOfEra - (365 * yearOfEra + yearOfEra / 4 - yearOfEra / 100)
  let shifted := (5 * dayOfYear + 2) / 153
  let day := dayOfYear - (153 * shifted + 2) / 5 + 1
  let month := if shifted < 10 then shifted + 3 else shifted - 9
  let year := (yearOfEra : ℤ) + era * 400
  (if month ≤ 2 then year + 1 else year, month, day)

/-- Years outside 0..9999 print with a sign and six digits. -/
def isoYear (year : ℤ) : String :=
  if 0 ≤ year ∧ year ≤ 9999 then padStart 4 (toString year.toNat)
  else if year < 0 then "-" ++ padStart 6 (toString year.natAbs)
  else "+" ++ padStart 6 (toString year.natAbs)

def isoString (instant : Instant) : String :=
  let (year, month, day) := civilFromDays (instant / 86400000)
  let ms := (instant % 86400000).toNat
  isoYear year ++ "-" ++ padStart 2 (toString month) ++ "-" ++
    padStart 2 (toString day) ++ "T" ++
    padStart 2 (toString (ms / 3600000)) ++ ":" ++
    padStart 2 (toString (ms / 60000 % 60)) ++ ":" ++
    padStart 2 (toString (ms / 1000 % 60)) ++ "." ++
    padStart 3 (toString (ms % 1000)) ++ "Z"

/-- `Date.prototype.toISOString`: an invalid date is a `RangeError`. -/
def toISOString : Date → Except JsError String
  | some instant => .ok (isoString instant)
  | none => .error (.error "Invalid time value")

/-! ## Numbers -/

/-- `Number.prototype.toFixed`: the nearest multiple of `10^(-digits)`, the
larger of two. -/
def toFixed (runtime : JsRuntime) (x : Num) (digits : ℕ) : String :=
  if 10 ^ 21 ≤ |x| then runtime.numberToString x
  else
    let n := ⌊|x| * 10 ^ digits + 1 / 2⌋.toNat
    let padded := padStart (digits + 1) (toString n)
    let whole := padded.length - digits
    (if x < 0 then "-" else "") ++ (padded.take whole).toString ++
      (if digits = 0 then "" else "." ++ (padded.drop whole).toString)

/-! ## Strings -/

/-- UTF-16 code units of a character. -/
def utf16Width (c : Char) : ℕ := if c.toNat < 0x10000 then 1 else 2

/-- The first `units` UTF-16 code units; half of a surrogate pair is stored as
the replacement character. -/
def takeUnits : ℕ → List Char → List Char
  | _, [] => []
  | units, c :: cs =>
      if utf16Width c ≤ units then c :: takeUnits (units - utf16Width c) cs
      else if units = 0 then []
      else ['\uFFFD']

/-- `message.slice(0, units)`. -/
def sliceTo (units : ℕ) (s : String) : String :=
  String.ofList (takeUnits units s.toList)

end FakeBolt
