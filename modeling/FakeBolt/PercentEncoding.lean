import Mathlib.Data.List.Basic
import Mathlib.Tactic

/-!
# Percent encoding

A text in which some characters stand as `%XX` escapes of their UTF-8 bytes,
and what reading it back gives.  A text that was never escaped may hold `%` of
its own, which then reads as an escape or not at all; the count of bytes tells
the two apart.
-/

namespace FakeBolt.Url

/-! ## UTF-8 -/

def utf8 (text : List Char) : List UInt8 :=
  text.flatMap String.utf8EncodeChar

@[simp] theorem utf8_nil : utf8 [] = [] := rfl

@[simp] theorem utf8_cons (c : Char) (text : List Char) :
    utf8 (c :: text) = String.utf8EncodeChar c ++ utf8 text := by
  simp [utf8]

@[simp] theorem length_utf8_cons (c : Char) (text : List Char) :
    (utf8 (c :: text)).length = c.utf8Size + (utf8 text).length := by
  simp

/-- The characters of a byte string, if it is UTF-8. -/
def fromUtf8? (octets : List UInt8) : Option (List Char) :=
  octets.toByteArray.utf8Decode?.map Array.toList

theorem utf8Encode_eq (text : List Char) :
    text.utf8Encode = (utf8 text).toByteArray :=
  rfl

theorem fromUtf8?_utf8 (text : List Char) :
    fromUtf8? (utf8 text) = some text := by
  unfold fromUtf8?
  rw [← utf8Encode_eq, List.utf8Decode?_utf8Encode]
  rfl

theorem fromUtf8?_eq_some {octets : List UInt8} {text : List Char}
    (htext : fromUtf8? octets = some text) : octets = utf8 text := by
  unfold fromUtf8? at htext
  have hvalid : octets.toByteArray.utf8Decode?.isSome := by
    cases hdecode : octets.toByteArray.utf8Decode? with
    | none =>
        rw [hdecode] at htext
        cases htext
    | some chars => rfl
  obtain ⟨chars, hchars⟩ := ByteArray.isSome_utf8Decode?_iff.mp hvalid
  rw [hchars, List.utf8Decode?_utf8Encode] at htext
  have hsame : chars = text := by simpa using htext
  subst hsame
  rw [utf8Encode_eq] at hchars
  exact List.toByteArray_inj.mp hchars

/-- A text inside another with as many bytes is the other. -/
theorem eq_of_sublist_of_utf8 {part whole : List Char}
    (hpart : List.Sublist part whole)
    (hlength : (utf8 whole).length ≤ (utf8 part).length) : part = whole := by
  have hshort : ∀ {part whole : List Char}, List.Sublist part whole →
      (utf8 part).length ≤ (utf8 whole).length := by
    intro part whole hsublist
    induction hsublist with
    | slnil => exact le_rfl
    | cons c _ ih =>
        rw [length_utf8_cons]
        omega
    | cons_cons c _ ih =>
        rw [length_utf8_cons, length_utf8_cons]
        omega
  induction hpart with
  | slnil => rfl
  | cons c hrest ih =>
      have hle := hshort hrest
      have hpositive := c.utf8Size_pos
      rw [length_utf8_cons] at hlength
      omega
  | cons_cons c hrest ih =>
      rw [length_utf8_cons, length_utf8_cons] at hlength
      rw [ih (by omega)]

/-! ## Escapes -/

def hexValue? (c : Char) : Option ℕ :=
  if '0' ≤ c ∧ c ≤ '9' then some (c.toNat - '0'.toNat)
  else if 'a' ≤ c ∧ c ≤ 'f' then some (c.toNat - 'a'.toNat + 10)
  else if 'A' ≤ c ∧ c ≤ 'F' then some (c.toNat - 'A'.toNat + 10)
  else none

def hexDigit (value : ℕ) : Char :=
  if value < 10 then Char.ofNat ('0'.toNat + value)
  else Char.ofNat ('A'.toNat + (value - 10))

def escapeByte (octet : UInt8) : List Char :=
  ['%', hexDigit (octet.toNat / 16), hexDigit (octet.toNat % 16)]

def escapeChar (c : Char) : List Char :=
  (String.utf8EncodeChar c).flatMap escapeByte

/-- The text with the characters of a set escaped. -/
def escape (escaped : Char → Bool) (text : List Char) : List Char :=
  text.flatMap fun c => if escaped c then escapeChar c else [c]

/-- The bytes of a text, with its escapes read; a `%` that begins none is an
error. -/
def unescape : List Char → Option (List UInt8)
  | [] => some []
  | '%' :: high :: low :: rest =>
      match hexValue? high, hexValue? low with
      | some h, some l =>
          (unescape rest).map fun octets => UInt8.ofNat (16 * h + l) :: octets
      | _, _ => none
  | c :: rest =>
      if c = '%' then none
      else (unescape rest).map fun octets => String.utf8EncodeChar c ++ octets

/-- The escapes between two other characters have to be whole characters: no
character begins with a continuation byte, so reading all bytes at once asks
the same. -/
def decodeURIComponent (text : List Char) : Option (List Char) :=
  (unescape text).bind fromUtf8?

theorem decodeURIComponent_eq_some_iff {text chars : List Char} :
    decodeURIComponent text = some chars ↔
      unescape text = some (utf8 chars) := by
  unfold decodeURIComponent
  rw [Option.bind_eq_some_iff]
  constructor
  · rintro ⟨octets, hoctets, hchars⟩
    rw [hoctets, fromUtf8?_eq_some hchars]
  · intro hoctets
    exact ⟨_, hoctets, fromUtf8?_utf8 chars⟩

theorem unescape_cons_of_ne {c : Char} (hc : c ≠ '%') (rest : List Char) :
    unescape (c :: rest) =
      (unescape rest).map fun octets => String.utf8EncodeChar c ++ octets := by
  rw [unescape, if_neg hc]
  intro high low others heq
  exact absurd heq hc

/-- What follows a `%` that is read. -/
theorem unescape_percent_eq_some {text : List Char} {octets : List UInt8}
    (hread : unescape ('%' :: text) = some octets) :
    ∃ high low rest octet others, text = high :: low :: rest ∧
      (hexValue? high).isSome ∧ (hexValue? low).isSome ∧
      unescape rest = some others ∧ octets = octet :: others := by
  cases text with
  | nil => cases hread
  | cons high text =>
      cases text with
      | nil => cases hread
      | cons low rest =>
          rw [unescape] at hread
          split at hread
          · rename_i h l hhigh hlow
            rw [Option.map_eq_some_iff] at hread
            obtain ⟨others, hothers, rfl⟩ := hread
            exact ⟨high, low, rest, _, others, rfl, by rw [hhigh]; rfl,
              by rw [hlow]; rfl, hothers, rfl⟩
          · cases hread

theorem hexValue?_hexDigit {value : ℕ} (hvalue : value < 16) :
    hexValue? (hexDigit value) = some value := by
  interval_cases value <;> decide

theorem unescape_escapeByte (octet : UInt8) (rest : List Char) :
    unescape (escapeByte octet ++ rest) =
      (unescape rest).map fun octets => octet :: octets := by
  have hlt := octet.toNat_lt
  have hhigh : hexValue? (hexDigit (octet.toNat / 16)) =
      some (octet.toNat / 16) := hexValue?_hexDigit (by omega)
  have hlow : hexValue? (hexDigit (octet.toNat % 16)) =
      some (octet.toNat % 16) := hexValue?_hexDigit (by omega)
  have hoctet : UInt8.ofNat (16 * (octet.toNat / 16) + octet.toNat % 16) =
      octet := by
    rw [Nat.div_add_mod, UInt8.ofNat_toNat]
  simp only [escapeByte, List.cons_append, List.nil_append]
  rw [unescape]
  simp only [hhigh, hlow, hoctet]

theorem unescape_flatMap_escapeByte (octets : List UInt8) (rest : List Char) :
    unescape (octets.flatMap escapeByte ++ rest) =
      (unescape rest).map fun others => octets ++ others := by
  induction octets with
  | nil => simp
  | cons octet octets ih =>
      rw [List.flatMap_cons, List.append_assoc, unescape_escapeByte, ih,
        Option.map_map]
      rfl

theorem unescape_escapeChar (c : Char) (rest : List Char) :
    unescape (escapeChar c ++ rest) =
      (unescape rest).map fun octets => String.utf8EncodeChar c ++ octets :=
  unescape_flatMap_escapeByte (String.utf8EncodeChar c) rest

theorem escapeChar_eq_cons (c : Char) :
    ∃ digits, escapeChar c = '%' :: digits := by
  unfold escapeChar
  cases hoctets : String.utf8EncodeChar c with
  | nil => exact absurd hoctets String.utf8EncodeChar_ne_nil
  | cons octet octets => exact ⟨_, rfl⟩

theorem hexValue?_isSome_of_mem_escapeByte {octet : UInt8} {c : Char}
    (hc : c ∈ escapeByte octet) : c = '%' ∨ (hexValue? c).isSome := by
  have hlt := octet.toNat_lt
  simp only [escapeByte, List.mem_cons, List.not_mem_nil, or_false] at hc
  rcases hc with rfl | rfl | rfl
  · exact Or.inl rfl
  · right
    rw [hexValue?_hexDigit (by omega)]
    rfl
  · right
    rw [hexValue?_hexDigit (by omega)]
    rfl

/-- Escapes consist of `%` and hexadecimal digits. -/
theorem of_mem_escape {escaped : Char → Bool} {text : List Char} {c : Char}
    (hc : c ∈ escape escaped text) :
    c ∈ text ∨ c = '%' ∨ (hexValue? c).isSome := by
  unfold escape at hc
  obtain ⟨d, hd, hmem⟩ := List.mem_flatMap.mp hc
  split at hmem
  · obtain ⟨octet, -, hoctet⟩ := List.mem_flatMap.mp hmem
    exact Or.inr (hexValue?_isSome_of_mem_escapeByte hoctet)
  · rw [List.mem_singleton.mp hmem]
    exact Or.inl hd

/-! ## Reading back -/

section Reading

variable {escaped : Char → Bool}

theorem escape_cons (c : Char) (text : List Char) :
    escape escaped (c :: text) =
      (if escaped c then escapeChar c else [c]) ++ escape escaped text := by
  simp [escape]

theorem escape_append (first second : List Char) :
    escape escaped (first ++ second) =
      escape escaped first ++ escape escaped second := by
  simp [escape]

theorem unescape_escape_cons {c : Char} (hc : c ≠ '%') (text : List Char) :
    unescape (escape escaped (c :: text)) =
      (unescape (escape escaped text)).map fun octets =>
        String.utf8EncodeChar c ++ octets := by
  rw [escape_cons]
  split
  · exact unescape_escapeChar c _
  · exact unescape_cons_of_ne hc _

theorem unescape_escape {text : List Char} (htext : '%' ∉ text) :
    unescape (escape escaped text) = some (utf8 text) := by
  induction text with
  | nil => rfl
  | cons c text ih =>
      rw [List.mem_cons, not_or] at htext
      rw [unescape_escape_cons (Ne.symm htext.1), ih htext.2, utf8_cons]
      rfl

/-- What is read as a hexadecimal digit was one before. -/
theorem escape_eq_cons_hex {text rest : List Char} {c : Char}
    (hhex : (hexValue? c).isSome)
    (hescape : escape escaped text = c :: rest) :
    ∃ others, text = c :: others ∧ rest = escape escaped others := by
  cases text with
  | nil => cases hescape
  | cons d others =>
      rw [escape_cons] at hescape
      split at hescape
      · obtain ⟨digits, hdigits⟩ := escapeChar_eq_cons d
        rw [hdigits, List.cons_append, List.cons.injEq] at hescape
        rw [← hescape.1] at hhex
        exact absurd hhex (by decide)
      · rw [List.cons_append, List.cons.injEq] at hescape
        exact ⟨others, by rw [hescape.1], hescape.2.symm⟩

theorem utf8Size_of_hexValue? {c : Char} (hhex : (hexValue? c).isSome) :
    c.utf8Size = 1 := by
  rw [Char.utf8Size_eq_one_iff]
  have hle : c ≤ 'f' := by
    unfold hexValue? at hhex
    split at hhex
    · rename_i hdigit
      exact Char.le_trans hdigit.2 (by decide)
    · split at hhex
      · rename_i hsmall
        exact hsmall.2
      · split at hhex
        · rename_i hlarge
          exact Char.le_trans hlarge.2 (by decide)
        · cases hhex
  have hle' : c.val ≤ 'f'.val := hle
  exact UInt32.le_trans hle' (by decide)

theorem ne_percent_of_hexValue? {c : Char} (hhex : (hexValue? c).isSome) :
    c ≠ '%' := by
  rintro rfl
  exact absurd hhex (by decide)

/-- Each `%` of the text costs two bytes when its escape is read. -/
theorem length_of_unescape_escape (hpercent : escaped '%' = false) :
    ∀ (size : ℕ) {text : List Char} {octets : List UInt8}, text.length ≤ size →
      unescape (escape escaped text) = some octets →
      octets.length + 2 * text.count '%' = (utf8 text).length := by
  intro size
  induction size with
  | zero =>
      intro text octets hsize hread
      rw [List.length_eq_zero_iff.mp (Nat.le_zero.mp hsize)] at hread ⊢
      cases hread
      rfl
  | succ size ih =>
      intro text octets hsize hread
      cases text with
      | nil =>
          cases hread
          rfl
      | cons c rest =>
          rw [List.length_cons] at hsize
          by_cases hc : c = '%'
          · subst hc
            rw [escape_cons, hpercent] at hread
            obtain ⟨high, low, tail, octet, others, hshape, hhigh, hlow,
              hothers, rfl⟩ := unescape_percent_eq_some hread
            obtain ⟨rest, rfl, hrest⟩ := escape_eq_cons_hex hhigh hshape
            obtain ⟨rest, rfl, rfl⟩ := escape_eq_cons_hex hlow hrest.symm
            simp only [List.length_cons] at hsize
            have hcount := ih (by omega) hothers
            have hsizePercent : '%'.utf8Size = 1 := by decide
            rw [List.count_cons_self,
              List.count_cons_of_ne (ne_percent_of_hexValue? hhigh),
              List.count_cons_of_ne (ne_percent_of_hexValue? hlow),
              length_utf8_cons, length_utf8_cons, length_utf8_cons,
              utf8Size_of_hexValue? hhigh, utf8Size_of_hexValue? hlow,
              List.length_cons]
            omega
          · rw [unescape_escape_cons hc, Option.map_eq_some_iff] at hread
            obtain ⟨read, hread, rfl⟩ := hread
            have hcount := ih (by omega) hread
            rw [List.count_cons_of_ne hc, length_utf8_cons,
              List.length_append, String.length_utf8EncodeChar]
            omega

/-- A part of a text, escaped and decoded, gives the whole text only if it is
the whole and holds no `%`. -/
theorem decode_escape_eq_some_iff (hpercent : escaped '%' = false)
    {part whole : List Char} (hpart : List.Sublist part whole) :
    decodeURIComponent (escape escaped part) = some whole ↔
      part = whole ∧ '%' ∉ whole := by
  rw [decodeURIComponent_eq_some_iff]
  constructor
  · intro hread
    have hlength := length_of_unescape_escape hpercent _ le_rfl hread
    have hsame := eq_of_sublist_of_utf8 hpart (by omega)
    subst hsame
    refine ⟨rfl, ?_⟩
    intro hmem
    have hpositive := List.count_pos_iff.mpr hmem
    omega
  · rintro ⟨rfl, hmem⟩
    exact unescape_escape hmem

end Reading

end FakeBolt.Url
