import Mathlib.Algebra.Order.Ring.Rat
import Mathlib.Data.Nat.Digits.Defs
import Mathlib.Tactic

/-!
# JSON as text

A reader for the whole grammar and a writer for flat objects of strings and
natural numbers, which the reader inverts.  Numbers have the exact value of
their decimal text, and strings hold Unicode scalar values, so the escape of a
surrogate that has no partner is refused.
-/

namespace FakeBolt.JsonText

inductive Json where
  | null
  | boolean (value : Bool)
  | number (value : ℚ)
  | string (value : String)
  | array (items : List Json)
  | object (members : List (String × Json))

/-! ## Reading -/

def isSpace (c : Char) : Bool := [' ', '\t', '\n', '\r'].contains c

def skipSpace (text : List Char) : List Char := text.dropWhile isSpace

def hexDigits : List Char := "0123456789abcdef".toList

def hexValue? (c : Char) : Option ℕ := hexDigits.idxOf? c.toLower

/-- Four hexadecimal digits. -/
def readUnit : List Char → Option (ℕ × List Char)
  | a :: b :: c :: d :: rest => do
      let a ← hexValue? a
      let b ← hexValue? b
      let c ← hexValue? c
      let d ← hexValue? d
      pure (a * 4096 + b * 256 + c * 16 + d, rest)
  | _ => none

/-- What follows `\u`; two surrogates are one character. -/
def readUnicode (text : List Char) : Option (Char × List Char) := do
  let (first, rest) ← readUnit text
  if first < 0xD800 ∨ 0xDFFF < first then pure (Char.ofNat first, rest)
  else
    match rest with
    | '\\' :: 'u' :: rest => do
        let (second, rest) ← readUnit rest
        if first ≤ 0xDBFF ∧ 0xDC00 ≤ second ∧ second ≤ 0xDFFF then
          pure (Char.ofNat
            (0x10000 + (first - 0xD800) * 0x400 + (second - 0xDC00)), rest)
        else none
    | _ => none

def simpleEscapes : List (Char × Char) :=
  [('"', '"'), ('\\', '\\'), ('/', '/'), ('b', '\x08'), ('f', '\x0c'),
    ('n', '\n'), ('r', '\r'), ('t', '\t')]

/-- One character of a string, escaped or not. -/
def readChar : List Char → Option (Char × List Char)
  | '\\' :: mark :: rest =>
      if mark = 'u' then readUnicode rest
      else (simpleEscapes.lookup mark).map fun c => (c, rest)
  | c :: rest => if c.toNat < 0x20 then none else some (c, rest)
  | [] => none

/-- The characters up to the closing quote. -/
def readChars : ℕ → List Char → Option (List Char × List Char)
  | 0, _ => none
  | fuel + 1, text =>
      match text with
      | '"' :: rest => some ([], rest)
      | _ => do
          let (c, rest) ← readChar text
          let (chars, rest) ← readChars fuel rest
          pure (c :: chars, rest)

def digitValue (c : Char) : ℕ := c.toNat - '0'.toNat

def decimal (digits : List Char) : ℕ :=
  digits.foldl (fun value c => 10 * value + digitValue c) 0

/-- One digit or more. -/
def readDigits (text : List Char) : Option (List Char × List Char) :=
  match text.takeWhile Char.isDigit with
  | [] => none
  | digits => some (digits, text.dropWhile Char.isDigit)

/-- The digits before a point have no leading zero. -/
def readWhole (text : List Char) : Option (ℕ × List Char) := do
  let (digits, rest) ← readDigits text
  match digits with
  | '0' :: _ :: _ => none
  | _ => pure (decimal digits, rest)

def readFraction (text : List Char) : Option (ℚ × List Char) :=
  match text with
  | '.' :: rest => do
      let (digits, rest) ← readDigits rest
      pure ((decimal digits : ℚ) / 10 ^ digits.length, rest)
  | _ => some (0, text)

def readSign : List Char → ℤ × List Char
  | '+' :: rest => (1, rest)
  | '-' :: rest => (-1, rest)
  | text => (1, text)

def readExponent (text : List Char) : Option (ℤ × List Char) :=
  match text with
  | mark :: rest =>
      if mark = 'e' ∨ mark = 'E' then do
        let (sign, rest) := readSign rest
        let (digits, rest) ← readDigits rest
        pure (sign * decimal digits, rest)
      else some (0, text)
  | [] => some (0, [])

def readNumber (text : List Char) : Option (ℚ × List Char) := do
  let (sign, rest) :=
    match text with
    | '-' :: rest => ((-1 : ℚ), rest)
    | _ => (1, text)
  let (whole, rest) ← readWhole rest
  let (fraction, rest) ← readFraction rest
  let (exponent, rest) ← readExponent rest
  pure (sign * (whole + fraction) * (10 : ℚ) ^ exponent, rest)

def dropWord (word text : List Char) : Option (List Char) :=
  if word.isPrefixOf text then some (text.drop word.length) else none

/-- A value that is neither a string nor an array nor an object. -/
def readScalar (text : List Char) : Option (Json × List Char) :=
  match dropWord "null".toList text with
  | some rest => some (.null, rest)
  | none =>
      match dropWord "true".toList text with
      | some rest => some (.boolean true, rest)
      | none =>
          match dropWord "false".toList text with
          | some rest => some (.boolean false, rest)
          | none =>
              (readNumber text).map fun read => (.number read.1, read.2)

mutual

def readValue : ℕ → List Char → Option (Json × List Char)
  | 0, _ => none
  | fuel + 1, text =>
      match skipSpace text with
      | '"' :: rest => do
          let (chars, rest) ← readChars (rest.length + 1) rest
          pure (.string (String.ofList chars), rest)
      | '[' :: rest =>
          match skipSpace rest with
          | ']' :: rest => some (.array [], rest)
          | _ => (readItems fuel rest).map fun read => (.array read.1, read.2)
      | '{' :: rest =>
          match skipSpace rest with
          | '}' :: rest => some (.object [], rest)
          | _ =>
              (readMembers fuel rest).map fun read => (.object read.1, read.2)
      | scalar => readScalar scalar

/-- The items of an array and its closing bracket. -/
def readItems : ℕ → List Char → Option (List Json × List Char)
  | 0, _ => none
  | fuel + 1, text => do
      let (item, rest) ← readValue fuel text
      match skipSpace rest with
      | ']' :: rest => pure ([item], rest)
      | ',' :: rest => do
          let (items, rest) ← readItems fuel rest
          pure (item :: items, rest)
      | _ => none

/-- The members of an object and its closing brace. -/
def readMembers : ℕ → List Char → Option (List (String × Json) × List Char)
  | 0, _ => none
  | fuel + 1, text =>
      match skipSpace text with
      | '"' :: rest => do
          let (name, rest) ← readChars (rest.length + 1) rest
          match skipSpace rest with
          | ':' :: rest => do
              let (value, rest) ← readValue fuel rest
              let member := (String.ofList name, value)
              match skipSpace rest with
              | '}' :: rest => pure ([member], rest)
              | ',' :: rest => do
                  let (members, rest) ← readMembers fuel rest
                  pure (member :: members, rest)
              | _ => none
          | _ => none
      | _ => none

end

/-- Every value and every separator takes a character, so the length of the
text is enough. -/
def parse (text : List Char) : Option Json := do
  let (value, rest) ← readValue (text.length + 1) text
  if skipSpace rest = [] then pure value else none

/-- Of members with the same name the last counts. -/
def Json.member? (name : String) : Json → Option Json
  | .object members => members.reverse.lookup name
  | _ => none

/-! ## Writing -/

inductive Scalar where
  | string (value : String)
  | natural (value : ℕ)
  deriving DecidableEq, Repr

def Scalar.toJson : Scalar → Json
  | .string value => .string value
  | .natural value => .number value

def hexDigit (n : ℕ) : Char := hexDigits.getD n '0'

def escape (c : Char) : List Char :=
  if c = '"' then ['\\', '"']
  else if c = '\\' then ['\\', '\\']
  else if c = '\x08' then ['\\', 'b']
  else if c = '\x0c' then ['\\', 'f']
  else if c = '\n' then ['\\', 'n']
  else if c = '\r' then ['\\', 'r']
  else if c = '\t' then ['\\', 't']
  else if c.toNat < 0x20 then
    ['\\', 'u', '0', '0', hexDigit (c.toNat / 16), hexDigit (c.toNat % 16)]
  else [c]

def writeString (value : String) : List Char :=
  '"' :: value.toList.flatMap escape ++ ['"']

def digitChar (n : ℕ) : Char := Char.ofNat ('0'.toNat + n)

def writeNatural (n : ℕ) : List Char :=
  if n = 0 then ['0'] else (Nat.digits 10 n).reverse.map digitChar

def writeScalar : Scalar → List Char
  | .string value => writeString value
  | .natural value => writeNatural value

def writeMember (member : String × Scalar) : List Char :=
  writeString member.1 ++ ':' :: writeScalar member.2

/-- The members and the closing brace. -/
def writeMembers : List (String × Scalar) → List Char
  | [] => ['}']
  | [member] => writeMember member ++ ['}']
  | member :: members => writeMember member ++ ',' :: writeMembers members

def writeObject (members : List (String × Scalar)) : List Char :=
  '{' :: writeMembers members

/-! ## What is written is read back -/

theorem hexValue?_hexDigit {n : ℕ} (hn : n < 16) :
    hexValue? (hexDigit n) = some n := by
  have hall : ∀ n < 16, hexValue? (hexDigit n) = some n := by decide
  exact hall n hn

theorem readUnicode_control {n : ℕ} (hn : n < 0x20) (rest : List Char) :
    readUnicode ('0' :: '0' :: hexDigit (n / 16) :: hexDigit (n % 16) :: rest) =
      some (Char.ofNat n, rest) := by
  have hzero : hexValue? '0' = some 0 := by decide
  have hvalue : 0 * 4096 + 0 * 256 + n / 16 * 16 + n % 16 = n := by omega
  have hunit : readUnit
      ('0' :: '0' :: hexDigit (n / 16) :: hexDigit (n % 16) :: rest) =
        some (n, rest) := by
    simp only [readUnit, hzero, hexValue?_hexDigit (show n / 16 < 16 by omega),
      hexValue?_hexDigit (show n % 16 < 16 by omega), Option.bind_eq_bind,
      Option.bind_some, hvalue, pure]
  have hplain : n < 0xD800 ∨ 0xDFFF < n := by omega
  simp only [readUnicode, hunit, Option.bind_eq_bind, Option.bind_some, pure]
  rw [if_pos hplain]

theorem readChar_escape (c : Char) (rest : List Char) :
    readChar (escape c ++ rest) = some (c, rest) := by
  unfold escape
  split
  · rename_i hc
    subst hc
    rfl
  split
  · rename_i hc
    subst hc
    rfl
  split
  · rename_i hc
    subst hc
    rfl
  split
  · rename_i hc
    subst hc
    rfl
  split
  · rename_i hc
    subst hc
    rfl
  split
  · rename_i hc
    subst hc
    rfl
  split
  · rename_i hc
    subst hc
    rfl
  split
  · rename_i hc
    have hread := readUnicode_control hc rest
    rw [Char.ofNat_toNat] at hread
    exact hread
  · rename_i hquote hbackslash _ _ _ _ _ hplain
    cases rest with
    | nil =>
        rw [List.append_nil, readChar, if_neg hplain]
        intro mark rest hc
        exact absurd hc hbackslash
    | cons d rest =>
        rw [List.singleton_append, readChar, if_neg hplain]
        intro mark rest' hc
        exact absurd hc hbackslash

/-- The first character of an escaped one does not end the string. -/
theorem exists_escape_eq_cons (c : Char) :
    ∃ first others, escape c = first :: others ∧ first ≠ '"' := by
  unfold escape
  split
  · exact ⟨_, _, rfl, by decide⟩
  · rename_i hquote
    repeat' split
    all_goals first
      | exact ⟨_, _, rfl, by decide⟩
      | exact ⟨_, _, rfl, hquote⟩

theorem readChars_escape {chars rest : List Char} {fuel : ℕ}
    (hfuel : chars.length < fuel) :
    readChars fuel (chars.flatMap escape ++ '"' :: rest) =
      some (chars, rest) := by
  induction chars generalizing fuel with
  | nil =>
      cases fuel with
      | zero => cases hfuel
      | succ fuel => rfl
  | cons c chars ih =>
      cases fuel with
      | zero => cases hfuel
      | succ fuel =>
          have hshorter : chars.length < fuel := by
            simpa using hfuel
          obtain ⟨first, others, hescape, hfirst⟩ := exists_escape_eq_cons c
          have hread := readChar_escape c
            (chars.flatMap escape ++ '"' :: rest)
          rw [List.flatMap_cons, List.append_assoc]
          rw [hescape, List.cons_append] at hread ⊢
          rw [readChars]
          · simp only [hread, Option.bind_eq_bind, Option.bind_some,
              ih hshorter, pure]
          · intro rest' heq
            exact absurd (List.cons.inj heq).1 hfirst

theorem length_le_escape (chars : List Char) :
    chars.length ≤ (chars.flatMap escape).length := by
  induction chars with
  | nil => exact Nat.zero_le _
  | cons c chars ih =>
      obtain ⟨first, others, hescape, -⟩ := exists_escape_eq_cons c
      rw [List.flatMap_cons, hescape]
      simp only [List.length_cons, List.length_append]
      omega

/-- What stands behind the opening quote of a written string. -/
theorem readChars_writeString (value : String) (rest : List Char) :
    ∃ body, writeString value ++ rest = '"' :: body ∧
      readChars (body.length + 1) body = some (value.toList, rest) := by
  refine ⟨value.toList.flatMap escape ++ '"' :: rest, ?_, ?_⟩
  · simp [writeString]
  · apply readChars_escape
    have hlength := length_le_escape value.toList
    simp only [List.length_append, List.length_cons]
    omega

theorem isDigit_digitChar {n : ℕ} (hn : n < 10) :
    (digitChar n).isDigit = true ∧ digitValue (digitChar n) = n ∧
      (n ≠ 0 → digitChar n ≠ '0') := by
  have hall : ∀ n < 10, (digitChar n).isDigit = true ∧
      digitValue (digitChar n) = n ∧ (n ≠ 0 → digitChar n ≠ '0') := by
    decide
  exact hall n hn

theorem decimal_digits {digits : List ℕ} (hdigits : ∀ d ∈ digits, d < 10) :
    decimal (digits.reverse.map digitChar) = Nat.ofDigits 10 digits := by
  unfold decimal
  rw [List.foldl_map, List.foldl_reverse]
  induction digits with
  | nil => rfl
  | cons d digits ih =>
      rw [List.foldr_cons, ih fun e he => hdigits e (by simp [he]),
        (isDigit_digitChar (hdigits d (by simp))).2.1, Nat.ofDigits_cons]
      omega

/-- What may follow a number: nothing that would go on with it. -/
def EndsNumber (rest : List Char) : Prop :=
  ∀ c ∈ rest.head?, c = ',' ∨ c = '}'

theorem readDigits_append {digits rest : List Char} (hne : digits ≠ [])
    (hdigits : ∀ c ∈ digits, c.isDigit = true) (hrest : EndsNumber rest) :
    readDigits (digits ++ rest) = some (digits, rest) := by
  have hstop : rest.takeWhile Char.isDigit = [] ∧
      rest.dropWhile Char.isDigit = rest := by
    cases rest with
    | nil => exact ⟨rfl, rfl⟩
    | cons c rest =>
        have hc : c.isDigit = false := by
          rcases hrest c rfl with h | h <;> rw [h] <;> rfl
        exact ⟨by simp [hc], by simp [hc]⟩
  unfold readDigits
  rw [List.takeWhile_append_of_pos hdigits, List.dropWhile_append_of_pos hdigits,
    hstop.1, hstop.2, List.append_nil]
  cases digits with
  | nil => exact (hne rfl).elim
  | cons d digits => rfl

theorem writeNatural_digits (n : ℕ) :
    ∃ first others, writeNatural n = first :: others ∧
      (∀ c ∈ writeNatural n, c.isDigit = true) ∧
      decimal (writeNatural n) = n ∧ (first = '0' → others = []) := by
  unfold writeNatural
  split
  · rename_i hn
    subst hn
    refine ⟨'0', [], rfl, ?_, rfl, fun _ => rfl⟩
    intro c hc
    rw [List.mem_singleton] at hc
    rw [hc]
    rfl
  · rename_i hn
    have hne : Nat.digits 10 n ≠ [] := Nat.digits_ne_nil_iff_ne_zero.mpr hn
    have hlast := Nat.getLast_digit_ne_zero 10 hn
    have hsmall : ∀ d ∈ Nat.digits 10 n, d < 10 := fun d hd =>
      Nat.digits_lt_base (by decide) hd
    have hfirst := (isDigit_digitChar (hsmall _ (List.getLast_mem hne))).2.2 hlast
    have hreverse : (Nat.digits 10 n).reverse =
        (Nat.digits 10 n).getLast hne :: (Nat.digits 10 n).dropLast.reverse := by
      conv_lhs => rw [← List.dropLast_append_getLast hne]
      rw [List.reverse_append]
      rfl
    refine ⟨digitChar ((Nat.digits 10 n).getLast hne),
      (Nat.digits 10 n).dropLast.reverse.map digitChar, ?_, ?_, ?_, ?_⟩
    · rw [hreverse]
      rfl
    · intro c hc
      rw [List.mem_map] at hc
      obtain ⟨d, hd, hdc⟩ := hc
      rw [← hdc]
      exact (isDigit_digitChar (hsmall d (List.mem_reverse.mp hd))).1
    · rw [decimal_digits hsmall, Nat.ofDigits_digits]
    · intro hzero
      exact absurd hzero hfirst

theorem readNumber_writeNatural (n : ℕ) {rest : List Char}
    (hrest : EndsNumber rest) :
    readNumber (writeNatural n ++ rest) = some ((n : ℚ), rest) := by
  obtain ⟨first, others, hwritten, hdigits, hvalue, hzero⟩ :=
    writeNatural_digits n
  have hread : readDigits (writeNatural n ++ rest) =
      some (writeNatural n, rest) := by
    apply readDigits_append _ hdigits hrest
    rw [hwritten]
    exact List.cons_ne_nil _ _
  have hwhole : readWhole (writeNatural n ++ rest) = some (n, rest) := by
    unfold readWhole
    rw [hread]
    simp only [Option.bind_eq_bind, Option.bind_some, hvalue, pure]
    split
    · rename_i heq
      rw [hwritten, List.cons.injEq] at heq
      have hothers := hzero heq.1
      rw [hothers] at heq
      cases heq.2
    · rfl
  have hfirst : first ≠ '-' := by
    intro heq
    have hdigit := hdigits first (by rw [hwritten]; simp)
    rw [heq] at hdigit
    exact absurd hdigit (by decide)
  have hsign : (match writeNatural n ++ rest with
      | '-' :: rest => ((-1 : ℚ), rest)
      | _ => (1, writeNatural n ++ rest)) = (1, writeNatural n ++ rest) := by
    rw [hwritten, List.cons_append]
    split
    · rename_i heq
      exact absurd (List.cons.inj heq).1 hfirst
    · rfl
  have htail : readFraction rest = some (0, rest) ∧
      readExponent rest = some (0, rest) := by
    cases rest with
    | nil => exact ⟨rfl, rfl⟩
    | cons c rest =>
        rcases hrest c rfl with h | h <;> subst h <;> exact ⟨rfl, rfl⟩
  unfold readNumber
  rw [hsign]
  simp only [Option.bind_eq_bind, Option.bind_some, hwhole, htail, pure]
  simp

/-- No white space is skipped in front of a character that is none. -/
theorem skipSpace_cons {c : Char} (hc : isSpace c = false) (rest : List Char) :
    skipSpace (c :: rest) = c :: rest := by
  unfold skipSpace
  rw [List.dropWhile_cons, hc]
  rfl

theorem not_isSpace_of_isDigit {c : Char} (hc : c.isDigit = true) :
    isSpace c = false := by
  by_contra hspace
  rw [Bool.not_eq_false, isSpace, List.contains_iff_mem] at hspace
  simp only [List.mem_cons, List.not_mem_nil, or_false] at hspace
  rcases hspace with h | h | h | h <;> subst h <;> exact absurd hc (by decide)

theorem readScalar_writeNatural (n : ℕ) {rest : List Char}
    (hrest : EndsNumber rest) :
    readScalar (writeNatural n ++ rest) = some (.number n, rest) := by
  obtain ⟨first, others, hwritten, hdigits, -, -⟩ := writeNatural_digits n
  have hdigit := hdigits first (by rw [hwritten]; simp)
  have hword : ∀ letter word, letter.isDigit = false →
      dropWord (letter :: word) (writeNatural n ++ rest) = none := by
    intro letter word hletter
    have hne : (letter == first) = false := by
      rw [beq_eq_false_iff_ne]
      intro heq
      rw [heq, hdigit] at hletter
      cases hletter
    unfold dropWord
    rw [hwritten, List.cons_append, List.isPrefixOf, hne]
    rfl
  have hnull := hword 'n' "ull".toList rfl
  have htrue := hword 't' "rue".toList rfl
  have hfalse := hword 'f' "alse".toList rfl
  unfold readScalar
  rw [show "null".toList = 'n' :: "ull".toList from rfl, hnull,
    show "true".toList = 't' :: "rue".toList from rfl, htrue,
    show "false".toList = 'f' :: "alse".toList from rfl, hfalse,
    readNumber_writeNatural n hrest]
  rfl

theorem readValue_writeScalar (value : Scalar) {rest : List Char}
    (hrest : EndsNumber rest) (fuel : ℕ) :
    readValue (fuel + 1) (writeScalar value ++ rest) =
      some (value.toJson, rest) := by
  cases value with
  | string text =>
      obtain ⟨body, hwritten, hread⟩ := readChars_writeString text rest
      rw [writeScalar, hwritten, readValue, skipSpace_cons (by decide)]
      simp only [hread, Option.bind_eq_bind, Option.bind_some,
        String.ofList_toList, pure, Scalar.toJson]
  | natural n =>
      obtain ⟨first, others, hwritten, hdigits, -, -⟩ := writeNatural_digits n
      have hdigit := hdigits first (by rw [hwritten]; simp)
      have hread := readScalar_writeNatural n hrest
      have hskip : skipSpace (writeNatural n ++ rest) =
          writeNatural n ++ rest := by
        rw [hwritten, List.cons_append]
        exact skipSpace_cons (not_isSpace_of_isDigit hdigit) _
      rw [writeScalar, readValue, hskip]
      rw [hwritten, List.cons_append] at hread ⊢
      split
      · rename_i heq
        rw [(List.cons.inj heq).1] at hdigit
        exact absurd hdigit (by decide)
      · rename_i heq
        rw [(List.cons.inj heq).1] at hdigit
        exact absurd hdigit (by decide)
      · rename_i heq
        rw [(List.cons.inj heq).1] at hdigit
        exact absurd hdigit (by decide)
      · exact hread

def memberJson (member : String × Scalar) : String × Json :=
  (member.1, member.2.toJson)

/-- One member, up to what separates it from the next or closes the object. -/
theorem readMembers_writeMember (member : String × Scalar) (mark : Char)
    (hmark : mark = ',' ∨ mark = '}') (rest : List Char) (fuel : ℕ) :
    readMembers (fuel + 2) (writeMember member ++ mark :: rest) =
      if mark = '}' then some ([memberJson member], rest)
      else (readMembers (fuel + 1) rest).map fun read =>
        (memberJson member :: read.1, read.2) := by
  have hends : EndsNumber (mark :: rest) := by
    intro c hc
    cases hc
    exact hmark
  have hspace : isSpace mark = false := by
    rcases hmark with h | h <;> rw [h] <;> decide
  have htext : writeMember member ++ mark :: rest =
      writeString member.1 ++
        ':' :: (writeScalar member.2 ++ mark :: rest) := by
    simp [writeMember]
  obtain ⟨body, hwritten, hname⟩ := readChars_writeString member.1
    (':' :: (writeScalar member.2 ++ mark :: rest))
  rw [htext, hwritten, readMembers, skipSpace_cons (by decide)]
  simp only [hname, Option.bind_eq_bind, Option.bind_some,
    skipSpace_cons (show isSpace ':' = false by decide),
    readValue_writeScalar member.2 hends fuel, skipSpace_cons hspace,
    String.ofList_toList]
  rcases hmark with h | h
  · subst h
    rw [if_neg (by decide)]
    change ((readMembers (fuel + 1) rest).bind fun read =>
      some (memberJson member :: read.1, read.2)) = _
    cases readMembers (fuel + 1) rest <;> rfl
  · subst h
    rfl

theorem readMembers_writeMembers {members : List (String × Scalar)}
    (hne : members ≠ []) (rest : List Char) {fuel : ℕ}
    (hfuel : members.length < fuel) :
    readMembers fuel (writeMembers members ++ rest) =
      some (members.map memberJson, rest) := by
  induction members generalizing fuel with
  | nil => exact (hne rfl).elim
  | cons member members ih =>
      obtain ⟨fuel, rfl⟩ : ∃ more, fuel = more + 2 := by
        rw [List.length_cons] at hfuel
        exact ⟨fuel - 2, by omega⟩
      cases members with
      | nil =>
          have hread := readMembers_writeMember member '}' (Or.inr rfl) rest fuel
          rw [if_pos rfl] at hread
          simpa [writeMembers] using hread
      | cons second members =>
          have hread := readMembers_writeMember member ',' (Or.inl rfl)
            (writeMembers (second :: members) ++ rest) fuel
          rw [if_neg (by decide), ih (by simp) (by simpa using hfuel)] at hread
          simpa [writeMembers] using hread

theorem length_lt_writeMembers (members : List (String × Scalar)) :
    members.length < (writeMembers members).length + 1 := by
  induction members with
  | nil => simp [writeMembers]
  | cons member members ih =>
      cases members with
      | nil => simp [writeMembers]
      | cons second members =>
          simp only [writeMembers, List.length_append, List.length_cons]
            at ih ⊢
          omega

/-- A written object is read back with all its members in order. -/
theorem parse_writeObject (members : List (String × Scalar)) :
    parse (writeObject members) = some (.object (members.map memberJson)) := by
  cases members with
  | nil => rfl
  | cons member others =>
      have hread := readMembers_writeMembers (List.cons_ne_nil member others) []
        (length_lt_writeMembers (member :: others))
      rw [List.append_nil] at hread
      obtain ⟨body, hquote⟩ : ∃ body,
          writeMembers (member :: others) = '"' :: body := by
        cases others with
        | nil => exact ⟨_, rfl⟩
        | cons second others => exact ⟨_, rfl⟩
      have hvalue : readValue ((writeObject (member :: others)).length + 1)
          (writeObject (member :: others)) =
            some (.object ((member :: others).map memberJson), []) := by
        rw [writeObject, List.length_cons, readValue,
          skipSpace_cons (by decide)]
        rw [hquote] at hread ⊢
        simp only [skipSpace_cons (show isSpace '"' = false by decide), hread]
        rfl
      unfold parse
      rw [hvalue]
      rfl

end FakeBolt.JsonText
