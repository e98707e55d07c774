import FakeBolt.JsRuntime

/-!
# Columns of type uuid

A column of type `uuid` holds a number.  Postgres reads it from several
spellings and prints it in one, so a text that a client sends may name a row
whose id is another text.
-/

namespace FakeBolt.Store

/-- The Postgres type `uuid`: what it stores and prints for the texts that it
reads. -/
structure UuidType where
  input : String → Option String
  input_empty : input "" = none
  input_output : ∀ {text uuid}, input text = some uuid →
    input uuid = some uuid

namespace UuidType

variable (uuid : UuidType)

def inputNullable : Option String → Option (Option String)
  | none => some none
  | some text => (uuid.input text).map some

/-- The text in the spelling of Postgres, if it is one of a uuid. -/
def printed (text : String) : String :=
  (uuid.input text).getD text

def invalidInput (text : String) : JsError :=
  .queryFailed "22P02"
    ("invalid input syntax for type uuid: \"" ++ text ++ "\"")

variable {uuid} {text stored : String}

theorem ne_empty (hinput : uuid.input text = some stored) : text ≠ "" := by
  intro hempty
  rw [hempty, uuid.input_empty] at hinput
  cases hinput

theorem inputNullable_eq_some {value : Option String}
    (hinput : uuid.inputNullable value = some (some text)) :
    uuid.input text = some text := by
  cases value with
  | none => cases hinput
  | some given =>
      simp only [inputNullable, Option.map_eq_some_iff, Option.some.injEq]
        at hinput
      obtain ⟨stored, hstored, heq⟩ := hinput
      rw [← heq]
      exact uuid.input_output hstored

theorem printed_of_input (hinput : uuid.input text = some stored) :
    uuid.printed text = stored := by
  rw [printed, hinput, Option.getD_some]

theorem printed_of_unread (hinput : uuid.input text = none) :
    uuid.printed text = text := by
  rw [printed, hinput, Option.getD_none]

@[simp] theorem input_printed (text : String) :
    uuid.input (uuid.printed text) = uuid.input text := by
  cases hinput : uuid.input text with
  | none => rw [printed_of_unread hinput, hinput]
  | some stored => rw [printed_of_input hinput, uuid.input_output hinput]

@[simp] theorem printed_printed (text : String) :
    uuid.printed (uuid.printed text) = uuid.printed text := by
  cases hinput : uuid.input text with
  | none => rw [printed_of_unread hinput, printed_of_unread hinput]
  | some stored =>
      rw [printed_of_input hinput, printed_of_input (uuid.input_output hinput)]

theorem printed_eq_empty_iff : uuid.printed text = "" ↔ text = "" := by
  constructor
  · intro hempty
    cases hinput : uuid.input text with
    | none => rwa [printed_of_unread hinput] at hempty
    | some stored =>
        rw [printed_of_input hinput] at hempty
        exact absurd hempty (ne_empty (uuid.input_output hinput))
  · rintro rfl
    exact printed_of_unread uuid.input_empty

theorem truthy_map_printed (value : Option String) :
    truthy (value.map uuid.printed) = (truthy value).map uuid.printed := by
  cases value with
  | none => rfl
  | some text =>
      rw [Option.map_some, truthy_some, truthy_some]
      by_cases hempty : text = ""
      · rw [if_pos hempty, if_pos (printed_eq_empty_iff.mpr hempty)]
        rfl
      · rw [if_neg hempty, if_neg (mt printed_eq_empty_iff.mp hempty)]
        rfl

end UuidType

/-! ## The notation with hyphens -/

/-- Eight, four, four, four and twelve hexadecimal digits, in the lower case
that the database prints. -/
def isUuidText (text : List Char) : Bool :=
  text.length == 36 && text.zipIdx.all fun (c, i) =>
    if i = 8 ∨ i = 13 ∨ i = 18 ∨ i = 23 then c == '-'
    else c.isDigit || ('a' ≤ c && c ≤ 'f')

def isUuid (id : String) : Bool :=
  isUuidText id.toList

theorem length_of_isUuid {id : String} (hid : isUuid id = true) :
    id.toList.length = 36 := by
  simp only [isUuid, isUuidText, Bool.and_eq_true, beq_iff_eq] at hid
  exact hid.1

theorem map_toLower_of_isUuidText {text : List Char}
    (htext : isUuidText text = true) : text.map Char.toLower = text := by
  nth_rewrite 2 [← List.map_id text]
  apply List.map_congr_left
  intro c hc
  obtain ⟨i, hi⟩ := List.mem_iff_getElem?.mp hc
  have hmem : (c, i) ∈ text.zipIdx := List.mem_zipIdx_iff_getElem?.mpr hi
  simp only [isUuidText, Bool.and_eq_true, List.all_eq_true] at htext
  have hdigit := htext.2 (c, i) hmem
  have hlower : ¬ (c.val ≥ 'A'.val ∧ c.val ≤ 'Z'.val) := by
    rintro ⟨hlow, hhigh⟩
    have hlow' : 65 ≤ c.toNat := hlow
    have hhigh' : c.toNat ≤ 90 := hhigh
    split at hdigit
    · have hhyphen : c = '-' := beq_iff_eq.mp hdigit
      rw [hhyphen] at hlow'
      revert hlow'
      decide
    · rw [Bool.or_eq_true] at hdigit
      rcases hdigit with hnumeral | hletter
      · simp only [Char.isDigit, Bool.and_eq_true, decide_eq_true_eq] at hnumeral
        have hnine : c.toNat ≤ 57 := hnumeral.2
        omega
      · simp only [Bool.and_eq_true, decide_eq_true_eq] at hletter
        have ha : 97 ≤ c.toNat := hletter.1
        omega
  unfold Char.toLower
  exact dif_neg hlower

/-- The notation with hyphens, in letters of either case. -/
def hyphenated : UuidType where
  input text :=
    let lower := text.toList.map Char.toLower
    if isUuidText lower then some (String.ofList lower) else none
  input_empty := by decide
  input_output := by
    intro text stored hinput
    simp only [Option.ite_none_right_eq_some, Option.some.injEq] at hinput
    obtain ⟨hlower, hstored⟩ := hinput
    rw [← hstored]
    simp only [String.toList_ofList, map_toLower_of_isUuidText hlower, hlower,
      if_true]

end FakeBolt.Store
