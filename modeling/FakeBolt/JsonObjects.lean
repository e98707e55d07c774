import FakeBolt.JsRuntime
import Mathlib.Data.List.Nodup

/-!
# Flat objects as JSON

The objects that the services send have no nested objects.  `stringify` leaves
an undefined field out and turns a date into its timestamp; `parse` gives the
receiver plain values.  Numbers and strings are read back as they were written,
so the text is represented by what it denotes.
-/

namespace FakeBolt.Json

/-- The fields of an object, each set once. -/
structure Fields (V : Type) where
  entries : List (String × V)
  nodup : (entries.map Prod.fst).Nodup

namespace Fields

variable {V W : Type}

def lookup (fields : Fields V) (name : String) : Option V :=
  fields.entries.lookup name

/-- The entries whose value the function keeps, with its result. -/
def mapEntries (f : V → Option W) (entries : List (String × V)) :
    List (String × W) :=
  entries.filterMap fun entry => (f entry.2).map fun value => (entry.1, value)

theorem mapEntries_cons (f : V → Option W) (name : String) (value : V)
    (entries : List (String × V)) :
    mapEntries f ((name, value) :: entries) =
      match f value with
      | none => mapEntries f entries
      | some result => (name, result) :: mapEntries f entries := by
  unfold mapEntries
  rw [List.filterMap_cons]
  cases f value <;> rfl

theorem names_mapEntries (f : V → Option W) (entries : List (String × V)) :
    List.Sublist ((mapEntries f entries).map Prod.fst)
      (entries.map Prod.fst) := by
  induction entries with
  | nil => exact List.Sublist.refl _
  | cons entry entries ih =>
      rw [mapEntries_cons]
      cases f entry.2 with
      | none => exact ih.cons _
      | some result => exact ih.cons_cons _

theorem lookup_mapEntries (f : V → Option W) {entries : List (String × V)}
    (hnodup : (entries.map Prod.fst).Nodup) (name : String) :
    (mapEntries f entries).lookup name =
      (entries.lookup name).bind f := by
  induction entries with
  | nil => rfl
  | cons entry entries ih =>
      rw [List.map_cons, List.nodup_cons] at hnodup
      obtain ⟨hfirst, hrest⟩ := hnodup
      have hnext := ih hrest
      rw [mapEntries_cons, List.lookup_cons]
      cases heq : name == entry.1 with
      | false =>
          cases f entry.2 with
          | none => exact hnext
          | some result =>
              rw [List.lookup_cons, heq]
              exact hnext
      | true =>
          have hmissing : entries.lookup name = none := by
            rw [List.lookup_eq_none_iff]
            intro other hother
            rw [beq_iff_eq] at heq
            rw [heq, bne_iff_ne]
            intro hsame
            exact hfirst (List.mem_map.mpr ⟨other, hother, hsame.symm⟩)
          cases hvalue : f entry.2 with
          | none =>
              rw [hmissing] at hnext
              simp only [hnext, Option.bind_none, Option.bind_some, hvalue]
          | some result =>
              simp only [List.lookup_cons, heq, Option.bind_some, hvalue]

def filterMap (f : V → Option W) (fields : Fields V) : Fields W where
  entries := mapEntries f fields.entries
  nodup := (names_mapEntries f fields.entries).nodup fields.nodup

@[simp] theorem lookup_filterMap (f : V → Option W) (fields : Fields V)
    (name : String) :
    (fields.filterMap f).lookup name = (fields.lookup name).bind f :=
  lookup_mapEntries f fields.nodup name

end Fields

/-! ## Values -/

inductive JsValue where
  | undefined
  | null
  | boolean (value : Bool)
  | number (value : Num)
  | string (value : String)
  | date (value : Date)
  deriving DecidableEq, Repr

inductive JsonValue where
  | null
  | boolean (value : Bool)
  | number (value : Num)
  | string (value : String)
  deriving DecidableEq, Repr

namespace JsValue

def ofNumber? : Option Num → JsValue
  | none => .null
  | some value => .number value

def ofString? : Option String → JsValue
  | none => .null
  | some value => .string value

/-- An invalid date prints as null. -/
def toJson : JsValue → Option JsonValue
  | .undefined => none
  | .null => some .null
  | .boolean value => some (.boolean value)
  | .number value => some (.number value)
  | .string value => some (.string value)
  | .date (some instant) => some (.string (isoString instant))
  | .date none => some .null

/-- The value of a field declared as a number, if it is well-typed; null and
a missing field read alike. -/
def asNumber : JsValue → Option (Option Num)
  | .undefined => some none
  | .null => some none
  | .number value => some (some value)
  | _ => none

def asString : JsValue → Option (Option String)
  | .undefined => some none
  | .null => some none
  | .string value => some (some value)
  | _ => none

/-- `value == null`. -/
def IsNullish (value : JsValue) : Prop := value = .undefined ∨ value = .null

theorem IsNullish.asNumber {value : JsValue} (hnullish : value.IsNullish) :
    value.asNumber = some none := by
  rcases hnullish with hundefined | hnull
  · rw [hundefined]
    rfl
  · rw [hnull]
    rfl

theorem asNumber_eq_none {first second : JsValue} {lat lng : Option Num}
    (hlat : first.asNumber = some lat) (hlng : second.asNumber = some lng)
    (hnullish : first.IsNullish ∨ second.IsNullish) :
    lat = none ∨ lng = none := by
  rcases hnullish with hfirst | hsecond
  · left
    rw [hfirst.asNumber] at hlat
    exact (Option.some.inj hlat).symm
  · right
    rw [hsecond.asNumber] at hlng
    exact (Option.some.inj hlng).symm

end JsValue

def JsonValue.toJs : JsonValue → JsValue
  | .null => .null
  | .boolean value => .boolean value
  | .number value => .number value
  | .string value => .string value

/-! ## Objects -/

abbrev JsObject := Fields JsValue

/-- What the text of an object says. -/
abbrev JsonObject := Fields JsonValue

def stringify (object : JsObject) : JsonObject :=
  object.filterMap JsValue.toJson

def parse (text : JsonObject) : JsObject :=
  text.filterMap fun value => some value.toJs

/-- A field that is not there is undefined. -/
def Fields.get (object : JsObject) (name : String) : JsValue :=
  (object.lookup name).getD .undefined

/-- What the receiver reads in a field of an object that was sent. -/
theorem get_parse_stringify (object : JsObject) (name : String) :
    (parse (stringify object)).get name =
      ((object.get name).toJson.map JsonValue.toJs).getD .undefined := by
  simp only [Fields.get, parse, stringify, Fields.lookup_filterMap]
  cases object.lookup name with
  | none => rfl
  | some value =>
      simp only [Option.bind_some, Option.getD_some]
      cases value.toJson <;> rfl

end FakeBolt.Json
