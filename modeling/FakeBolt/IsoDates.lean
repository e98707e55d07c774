import FakeBolt.JsRuntime

/-!
# Reading ISO timestamps

`parseIso` reads the form of the date time string format that `toISOString`
prints.  Every instant that a date object can hold is read back from its
timestamp.
-/

namespace FakeBolt

/-- The instants that a date object can hold. -/
def IsTimeValue (instant : Instant) : Prop := |instant| ≤ 8640000000000000

instance (instant : Instant) : Decidable (IsTimeValue instant) :=
  inferInstanceAs (Decidable (_ ≤ _))

/-! ## Fields -/

/-- A number of exactly `width` digits, and what follows it. -/
def readDigits (width : ℕ) (cs : List Char) : Option (ℕ × List Char) :=
  if (cs.take width).length = width ∧ (cs.take width).all Char.isDigit then
    some (Nat.ofDigitChars 10 (cs.take width) 0, cs.drop width)
  else none

/-- The digits after a separator. -/
def readField (separator : Char) (width : ℕ) :
    List Char → Option (ℕ × List Char)
  | [] => none
  | c :: cs => if c = separator then readDigits width cs else none

/-- Four digits, or a sign and six; the year 0 has no negative form. -/
def readYear (cs : List Char) : Option (ℤ × List Char) :=
  match readDigits 4 cs, cs with
  | some (year, rest), _ => some (year, rest)
  | none, '-' :: signed =>
      (readDigits 6 signed).bind fun (year, rest) =>
        if year = 0 then none else some (-year, rest)
  | none, '+' :: signed =>
      (readDigits 6 signed).map fun (year, rest) => (year, rest)
  | none, _ => none

/-- The day count of a date in the proleptic Gregorian calendar. -/
def daysFromCivil (year : ℤ) (month day : ℕ) : ℤ :=
  let shiftedYear := if month ≤ 2 then year - 1 else year
  let yearOfEra := (shiftedYear % 400).toNat
  let shifted := if 2 < month then month - 3 else month + 9
  let dayOfYear := (153 * shifted + 2) / 5 + day - 1
  let dayOfEra := 365 * yearOfEra + yearOfEra / 4 - yearOfEra / 100 + dayOfYear
  shiftedYear / 400 * 146097 + dayOfEra - 719468

/-- The fields of a timestamp must name a date of the calendar, a time of the
day and an instant in range. -/
def parseIso (text : String) : Date := do
  let (year, cs) ← readYear text.toList
  let (month, cs) ← readField '-' 2 cs
  let (day, cs) ← readField '-' 2 cs
  let (hour, cs) ← readField 'T' 2 cs
  let (minute, cs) ← readField ':' 2 cs
  let (second, cs) ← readField ':' 2 cs
  let (ms, cs) ← readField '.' 3 cs
  let days := daysFromCivil year month day
  let instant :=
    days * 86400000 + (hour * 3600000 + minute * 60000 + second * 1000 + ms : ℕ)
  if cs = ['Z'] ∧ civilFromDays days = (year, month, day) ∧
      hour < 24 ∧ minute < 60 ∧ second < 60 ∧ IsTimeValue instant then
    some instant
  else none

theorem toList_padStart_toString (width n : ℕ) :
    (padStart width (toString n)).toList =
      List.replicate (width - (Nat.toDigits 10 n).length) '0' ++
        Nat.toDigits 10 n := by
  simp only [padStart, Nat.toString_eq_ofList_toDigits, String.toList_append,
    String.toList_ofList, String.length_ofList]

theorem length_padStart_toString {width n : ℕ} (hwidth : 0 < width)
    (hn : n < 10 ^ width) :
    (padStart width (toString n)).toList.length = width := by
  have hle : (Nat.toDigits 10 n).length ≤ width :=
    (Nat.length_toDigits_le_iff (by decide) hwidth).mpr hn
  rw [toList_padStart_toString, List.length_append, List.length_replicate]
  omega

theorem isDigit_padStart_toString (width n : ℕ) :
    (padStart width (toString n)).toList.all Char.isDigit = true := by
  rw [toList_padStart_toString, List.all_append, Bool.and_eq_true,
    List.all_eq_true, List.all_eq_true]
  constructor
  · intro c hc
    rw [List.eq_of_mem_replicate hc]
    rfl
  · intro c hc
    exact Nat.isDigit_of_mem_toDigits (by decide) (by decide) hc

theorem readDigits_padStart {width n : ℕ} (hwidth : 0 < width)
    (hn : n < 10 ^ width) (rest : List Char) :
    readDigits width ((padStart width (toString n)).toList ++ rest) =
      some (n, rest) := by
  have hlength := length_padStart_toString hwidth hn
  have hvalue : Nat.ofDigitChars 10 (padStart width (toString n)).toList 0 =
      n := by
    rw [toList_padStart_toString, Nat.ofDigitChars_append,
      Nat.ofDigitChars_replicate_zero, Nat.mul_zero,
      Nat.ofDigitChars_ten_toDigits]
  unfold readDigits
  rw [List.take_left' hlength, List.drop_left' hlength, if_pos, hvalue]
  exact ⟨hlength, isDigit_padStart_toString width n⟩

theorem readField_padStart {separator : Char} {width n : ℕ}
    (hwidth : 0 < width) (hn : n < 10 ^ width) (rest : List Char) :
    readField separator width
        (separator :: ((padStart width (toString n)).toList ++ rest)) =
      some (n, rest) := by
  simp only [readField, if_true]
  exact readDigits_padStart hwidth hn rest

theorem readDigits_of_not_isDigit {width : ℕ} {c : Char}
    (hc : c.isDigit = false) (cs : List Char) :
    readDigits (width + 1) (c :: cs) = none := by
  simp [readDigits, hc]

theorem readYear_isoYear {year : ℤ} (hyear : year.natAbs < 10 ^ 6)
    (rest : List Char) :
    readYear ((isoYear year).toList ++ rest) = some (year, rest) := by
  unfold isoYear
  split
  · rename_i hfour
    have hn : year.toNat < 10 ^ 4 := by omega
    simp only [readYear, readDigits_padStart (by decide) hn]
    rw [Int.toNat_of_nonneg hfour.1]
  · rename_i hfour
    have hread := readDigits_padStart (by decide : 0 < 6) hyear rest
    split
    · rename_i hneg
      have hminus : '-'.isDigit = false := by decide
      have hzero : year.natAbs ≠ 0 := by omega
      have hback : -(year.natAbs : ℤ) = year := by omega
      have hsign : "-".toList = ['-'] := rfl
      simp only [String.toList_append, hsign, List.cons_append,
        List.nil_append]
      simp only [readYear, readDigits_of_not_isDigit hminus, hread,
        Option.bind_some, hzero, if_false, hback]
    · rename_i hneg
      have hplus : '+'.isDigit = false := by decide
      have hback : (year.natAbs : ℤ) = year := by omega
      have hsign : "+".toList = ['+'] := rfl
      simp only [String.toList_append, hsign, List.cons_append,
        List.nil_append]
      simp only [readYear, readDigits_of_not_isDigit hplus, hread,
        Option.map_some, hback]

/-! ## The calendar -/

/-- Every day of an era lies in one of the 366 days from the start of its
year. -/
theorem dayOfEra_bounds {dayOfEra : ℕ} (hday : dayOfEra < 146097) :
    let year := (dayOfEra - dayOfEra / 1460 + dayOfEra / 36524 -
      dayOfEra / 146096) / 365
    year ≤ 399 ∧ 365 * year + year / 4 - year / 100 ≤ dayOfEra ∧
      dayOfEra ≤ 365 * year + year / 4 - year / 100 + 365 := by
  intro year
  have hyear : year ≤ 399 := by omega
  have hdef : year = (dayOfEra - dayOfEra / 1460 + dayOfEra / 36524 -
      dayOfEra / 146096) / 365 := rfl
  clear_value year
  refine ⟨hyear, ?_⟩
  by_cases hlast : dayOfEra = 146096
  · omega
  · have hfirst : dayOfEra / 146096 = 0 := by omega
    have hcentury : dayOfEra / 36524 = 0 ∨ dayOfEra / 36524 = 1 ∨
        dayOfEra / 36524 = 2 ∨ dayOfEra / 36524 = 3 := by omega
    -- within one century the leap days come every four years
    rw [hfirst] at hdef
    rcases hcentury with hcentury | hcentury | hcentury | hcentury
    · rw [hcentury] at hdef
      have hcommon : year / 100 = 0 := by omega
      omega
    · rw [hcentury] at hdef
      have hcommon : year / 100 = 1 := by omega
      omega
    · rw [hcentury] at hdef
      have hcommon : year / 100 = 2 := by omega
      omega
    · rw [hcentury] at hdef
      have hcommon : year / 100 = 3 := by omega
      omega

/-- Where a day lies in its era of 400 years and in its year, which starts in
March. -/
theorem civilFromDays_fields {days year : ℤ} {month day : ℕ}
    (hcivil : civilFromDays days = (year, month, day)) :
    ∃ (era : ℤ) (yearOfEra dayOfYear shifted : ℕ),
      yearOfEra ≤ 399 ∧ dayOfYear ≤ 365 ∧
      shifted = (5 * dayOfYear + 2) / 153 ∧
      days + 719468 = era * 146097 +
        (365 * yearOfEra + yearOfEra / 4 - yearOfEra / 100 + dayOfYear : ℕ) ∧
      year = (yearOfEra : ℤ) + era * 400 + (if month ≤ 2 then 1 else 0) ∧
      month = (if shifted < 10 then shifted + 3 else shifted - 9) ∧
      day = dayOfYear - (153 * shifted + 2) / 5 + 1 := by
  have hera : ((days + 719468) % 146097).toNat < 146097 := by omega
  obtain ⟨hyear, hle, hlt⟩ := dayOfEra_bounds hera
  have hdays : days + 719468 = (days + 719468) / 146097 * 146097 +
      ((days + 719468) % 146097).toNat := by omega
  simp only [civilFromDays, Prod.mk.injEq] at hcivil
  obtain ⟨hy, hm, hd⟩ := hcivil
  refine ⟨(days + 719468) / 146097, _, _, _, hyear,
    Nat.sub_le_iff_le_add'.mpr hlt, rfl, ?_, ?_, hm.symm, hd.symm⟩
  · rw [Nat.add_sub_cancel' hle]
    exact hdays
  · rw [← hy, hm]
    split <;> omega

theorem daysFromCivil_civilFromDays {days year : ℤ} {month day : ℕ}
    (hcivil : civilFromDays days = (year, month, day)) :
    daysFromCivil year month day = days := by
  obtain ⟨era, yearOfEra, dayOfYear, shifted, hyoe, hdoy, hshifted, hdays,
    hyear, hmonth, hday⟩ := civilFromDays_fields hcivil
  have hstart : (if month ≤ 2 then year - 1 else year) =
      yearOfEra + era * 400 := by
    split at hyear <;> omega
  have hmod : ((yearOfEra + era * 400 : ℤ) % 400).toNat = yearOfEra := by omega
  have hdiv : (yearOfEra + era * 400 : ℤ) / 400 = era := by omega
  have hback : (if 2 < month then month - 3 else month + 9) = shifted := by
    split at hmonth <;> split <;> omega
  have hnumber : (153 * shifted + 2) / 5 + day - 1 = dayOfYear := by omega
  simp only [daysFromCivil, hstart, hmod, hdiv, hback, hnumber]
  omega

theorem month_day_lt {days year : ℤ} {month day : ℕ}
    (hcivil : civilFromDays days = (year, month, day)) :
    month < 10 ^ 2 ∧ day < 10 ^ 2 := by
  obtain ⟨era, yearOfEra, dayOfYear, shifted, hyoe, hdoy, hshifted, hdays,
    hyear, hmonth, hday⟩ := civilFromDays_fields hcivil
  split at hmonth <;> omega

/-- The years of a date object have six digits at most. -/
theorem natAbs_year_lt {days year : ℤ} {month day : ℕ}
    (hcivil : civilFromDays days = (year, month, day))
    (hdays : |days| ≤ 100000001) : year.natAbs < 10 ^ 6 := by
  obtain ⟨era, yearOfEra, dayOfYear, shifted, hyoe, hdoy, hshifted, hsum,
    hyear, hmonth, hday⟩ := civilFromDays_fields hcivil
  rw [abs_le] at hdays
  have hdoe : 365 * yearOfEra + yearOfEra / 4 - yearOfEra / 100 + dayOfYear ≤
      146464 := by omega
  split at hyear <;> omega

/-! ## Timestamps -/

theorem toList_isoString {instant year : ℤ} {month day : ℕ}
    (hcivil : civilFromDays (instant / 86400000) = (year, month, day)) :
    let ms := (instant % 86400000).toNat
    (isoString instant).toList =
      (isoYear year).toList ++ ('-' :: ((padStart 2 (toString month)).toList ++
      ('-' :: ((padStart 2 (toString day)).toList ++
      ('T' :: ((padStart 2 (toString (ms / 3600000))).toList ++
      (':' :: ((padStart 2 (toString (ms / 60000 % 60))).toList ++
      (':' :: ((padStart 2 (toString (ms / 1000 % 60))).toList ++
      ('.' :: ((padStart 3 (toString (ms % 1000))).toList ++
      ['Z'])))))))))))) := by
  have hminus : "-".toList = ['-'] := rfl
  have htime : "T".toList = ['T'] := rfl
  have hcolon : ":".toList = [':'] := rfl
  have hdot : ".".toList = ['.'] := rfl
  have hzone : "Z".toList = ['Z'] := rfl
  simp only [isoString, hcivil, String.toList_append, hminus, htime, hcolon,
    hdot, hzone, List.append_assoc, List.cons_append, List.nil_append]

theorem isoString_ne_empty (instant : Instant) : isoString instant ≠ "" := by
  intro hempty
  have hlist := congrArg String.toList hempty
  obtain ⟨⟨year, month, day⟩, hcivil⟩ :
      ∃ civil, civilFromDays (instant / 86400000) = civil := ⟨_, rfl⟩
  rw [toList_isoString hcivil] at hlist
  simp at hlist

/-- What a date object prints with `toISOString` parses to its instant. -/
theorem parseIso_isoString {instant : ℤ} (hvalue : IsTimeValue instant) :
    parseIso (isoString instant) = some instant := by
  obtain ⟨⟨year, month, day⟩, hcivil⟩ :
      ∃ civil, civilFromDays (instant / 86400000) = civil := ⟨_, rfl⟩
  have hbounds : -8640000000000000 ≤ instant ∧ instant ≤ 8640000000000000 :=
    abs_le.mp hvalue
  have hrange : |instant / 86400000| ≤ 100000001 := by
    apply abs_le.mpr
    constructor <;> omega
  have hyear := natAbs_year_lt hcivil hrange
  obtain ⟨hmonth, hday⟩ := month_day_lt hcivil
  obtain ⟨ms, hms⟩ : ∃ ms : ℕ, (instant % 86400000).toNat = ms := ⟨_, rfl⟩
  have hhour : ms / 3600000 < 24 := by omega
  have hminute : ms / 60000 % 60 < 60 := by omega
  have hsecond : ms / 1000 % 60 < 60 := by omega
  have hmilli : ms % 1000 < 10 ^ 3 := by omega
  have hsum : instant / 86400000 * 86400000 +
      (ms / 3600000 * 3600000 + ms / 60000 % 60 * 60000 +
        ms / 1000 % 60 * 1000 + ms % 1000 : ℕ) = instant := by omega
  have htwo : ∀ {separator : Char} {n : ℕ}, n < 10 ^ 2 → ∀ rest : List Char,
      readField separator 2
          (separator :: ((padStart 2 (toString n)).toList ++ rest)) =
        some (n, rest) := by
    intro separator n hn rest
    exact readField_padStart (by decide) hn rest
  have hsixty : ∀ n < 60, n < 10 ^ 2 := by
    intro n hn
    omega
  have hprinted := toList_isoString hcivil
  simp only [hms] at hprinted
  unfold parseIso
  simp only [hprinted, readYear_isoYear hyear, htwo hmonth, htwo hday,
    htwo (hhour.trans (by decide)), htwo (hsixty _ hminute),
    htwo (hsixty _ hsecond), readField_padStart (by decide : 0 < 3) hmilli,
    Option.bind_eq_bind, Option.bind_some,
    daysFromCivil_civilFromDays hcivil, hsum]
  exact if_pos ⟨trivial, hcivil, hhour, hminute, hsecond, hvalue⟩

example : parseIso "2024-02-29T12:00:00.000Z" = some 1709208000000 := by
  decide +kernel

example : parseIso "2026-02-29T12:00:00.000Z" = none := by decide +kernel

/-- The runtime's date parser accepts the date time string format. -/
def JsRuntime.ParsesIso (runtime : JsRuntime) : Prop :=
  ∀ text instant, parseIso text = some instant →
    runtime.dateParse text = some instant

theorem JsRuntime.ParsesIso.dateParse_isoString {runtime : JsRuntime}
    (hruntime : runtime.ParsesIso) {instant : Instant}
    (hvalue : IsTimeValue instant) :
    runtime.dateParse (isoString instant) = some instant :=
  hruntime _ _ (parseIso_isoString hvalue)

end FakeBolt
