import FakeBolt.JsRuntime
import Mathlib.Data.Rat.Floor

/-!
# The ride receipt

Subject, text and HTML of the receipt of a completed ride.  Printing a date
that is invalid throws, so the two bodies may fail.
-/

namespace FakeBolt.Email

structure GeoPoint where
  lat : Num
  lng : Num
  deriving DecidableEq, Repr

/-- The data of a receipt.  A missing request time prints as a dash; an
invalid one is still a date object. -/
structure RideReceipt where
  riderName : String
  rideId : String
  fare : Option Num
  pickup : Option GeoPoint
  destination : Option GeoPoint
  requestedAt : Option Date
  completedAt : Date
  deriving DecidableEq, Repr

def escapeChar : Char → String
  | '&' => "&amp;"
  | '<' => "&lt;"
  | '>' => "&gt;"
  | '"' => "&quot;"
  | '\'' => "&#39;"
  | c => String.singleton c

def escape (value : String) : String :=
  String.join (value.toList.map escapeChar)

variable (runtime : JsRuntime)

def money : Option Num → String
  | none => "-"
  | some fare => "€" ++ toFixed runtime fare 2

def point : Option GeoPoint → String
  | none => "-"
  | some p => toFixed runtime p.lat 5 ++ ", " ++ toFixed runtime p.lng 5

/-- `replace('T', ' ')`: the first occurrence only. -/
def replaceT : List Char → List Char
  | [] => []
  | 'T' :: cs => ' ' :: cs
  | c :: cs => c :: replaceT cs

def time : Option Date → Except JsError String
  | none => .ok "-"
  | some date => do
      let iso ← toISOString date
      let spaced := String.ofList (replaceT iso.toList)
      pure (sliceTo 16 spaced ++ " UTC")

/-- `Math.round` rounds halves up. -/
def round (x : ℚ) : ℤ := ⌊x + 1 / 2⌋

/-- An invalid date makes the difference, and with it the text, `NaN`. -/
def minutes : Option Date → Date → String
  | none, _ => "-"
  | some (some start), some stop =>
      toString (max 1 (round ((stop - start : ℤ) / 60000))) ++ " min"
  | some _, _ => "NaN min"

def rideReceiptSubject (r : RideReceipt) : String :=
  "Your fake-bolt ride receipt: " ++ money runtime r.fare

def rideReceiptText (r : RideReceipt) : Except JsError String := do
  let requested ← time r.requestedAt
  let completed ← time (some r.completedAt)
  pure (String.intercalate "\n"
    ["Hi " ++ r.riderName ++ ",",
      "",
      "Thanks for riding with fake-bolt. Here is your receipt.",
      "",
      "Total:       " ++ money runtime r.fare,
      "From:        " ++ point runtime r.pickup,
      "To:          " ++ point runtime r.destination,
      "Requested:   " ++ requested,
      "Completed:   " ++ completed,
      "Duration:    " ++ minutes r.requestedAt r.completedAt,
      "Ride id:     " ++ r.rideId])

def htmlRow (label value : String) : String :=
  "<tr><td style=\"padding:6px 12px;color:#666\">" ++ label ++
    "</td><td style=\"padding:6px 12px\">" ++ escape value ++ "</td></tr>"

def rideReceiptHtml (r : RideReceipt) : Except JsError String := do
  let requested ← time r.requestedAt
  let completed ← time (some r.completedAt)
  pure (String.intercalate "\n"
    ["<!doctype html>",
      "<html><body style=\"font-family:Arial,sans-serif;background:#f6f6f6;padding:24px\">",
      "  <div style=\"max-width:480px;margin:auto;background:#fff;border-radius:8px;padding:24px\">",
      "    <h2 style=\"margin:0 0 4px\">Thanks for riding, " ++
        escape r.riderName ++ "</h2>",
      "    <p style=\"color:#666;margin:0 0 16px\">Here is your fake-bolt receipt.</p>",
      "    <p style=\"font-size:28px;font-weight:bold;margin:0 0 16px\">" ++
        escape (money runtime r.fare) ++ "</p>",
      "    <table style=\"border-collapse:collapse;width:100%\">",
      "      " ++ htmlRow "From" (point runtime r.pickup),
      "      " ++ htmlRow "To" (point runtime r.destination),
      "      " ++ htmlRow "Requested" requested,
      "      " ++ htmlRow "Completed" completed,
      "      " ++ htmlRow "Duration" (minutes r.requestedAt r.completedAt),
      "      " ++ htmlRow "Ride id" r.rideId,
      "    </table>",
      "  </div>",
      "</body></html>"])

def RideReceipt.Printable (r : RideReceipt) : Prop :=
  r.completedAt.isSome ∧ ∀ date, r.requestedAt = some date → date.isSome

instance (r : RideReceipt) : Decidable r.Printable :=
  match h : r.requestedAt with
  | none => decidable_of_iff (r.completedAt.isSome = true)
      (by simp [RideReceipt.Printable, h])
  | some date =>
      decidable_of_iff (r.completedAt.isSome = true ∧ date.isSome = true)
        (by simp [RideReceipt.Printable, h])

theorem time_of_isSome {date : Date} (hdate : date.isSome) :
    ∃ text, time (some date) = .ok text := by
  obtain ⟨instant, heq⟩ := Option.isSome_iff_exists.mp hdate
  subst date
  exact ⟨_, rfl⟩

theorem RideReceipt.Printable.bodies {r : RideReceipt}
    (hprintable : r.Printable) :
    (∃ html, rideReceiptHtml runtime r = .ok html) ∧
      ∃ text, rideReceiptText runtime r = .ok text := by
  obtain ⟨hcompleted, hrequested⟩ := hprintable
  have hrequestedTime : ∃ text, time r.requestedAt = .ok text := by
    cases hdate : r.requestedAt with
    | none => exact ⟨_, rfl⟩
    | some date => exact time_of_isSome (hrequested date hdate)
  obtain ⟨requested, hrequestedText⟩ := hrequestedTime
  obtain ⟨completed, hcompletedText⟩ := time_of_isSome hcompleted
  constructor
  · simp only [rideReceiptHtml, hrequestedText, hcompletedText]
    exact ⟨_, rfl⟩
  · simp only [rideReceiptText, hrequestedText, hcompletedText]
    exact ⟨_, rfl⟩

end FakeBolt.Email
