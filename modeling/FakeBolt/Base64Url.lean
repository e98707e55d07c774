import Mathlib.Data.UInt
import Mathlib.Tactic

/-!
# Base64 for URLs

Three bytes are four letters; one or two bytes at the end are two or three
letters, without padding.  The decoder also takes the letters of plain Base64,
skips every other character and drops a last letter that stands alone.
-/

namespace FakeBolt.Base64Url

def alphabet : List Char :=
  "ABCDEFGHIJKLMNOPQRSTUVWXYZabcdefghijklmnopqrstuvwxyz0123456789-_".toList

def letter (sextet : ℕ) : Char := alphabet.getD sextet 'A'

def sextet? (c : Char) : Option ℕ :=
  if c = '+' then some 62
  else if c = '/' then some 63
  else alphabet.idxOf? c

def encode : List UInt8 → List Char
  | [] => []
  | [a] => [letter (a.toNat / 4), letter (a.toNat % 4 * 16)]
  | [a, b] =>
      [letter (a.toNat / 4), letter (a.toNat % 4 * 16 + b.toNat / 16),
        letter (b.toNat % 16 * 4)]
  | a :: b :: c :: rest =>
      letter (a.toNat / 4) :: letter (a.toNat % 4 * 16 + b.toNat / 16) ::
        letter (b.toNat % 16 * 4 + c.toNat / 64) :: letter (c.toNat % 64) ::
        encode rest

/-- The bytes that sextets stand for. -/
def octets : List ℕ → List UInt8
  | a :: b :: c :: d :: rest =>
      .ofNat (a * 4 + b / 16) :: .ofNat (b % 16 * 16 + c / 4) ::
        .ofNat (c % 4 * 64 + d) :: octets rest
  | [a, b, c] => [.ofNat (a * 4 + b / 16), .ofNat (b % 16 * 16 + c / 4)]
  | [a, b] => [.ofNat (a * 4 + b / 16)]
  | _ => []

def decode (text : List Char) : List UInt8 := octets (text.filterMap sextet?)

theorem sextet?_letter {n : ℕ} (hn : n < 64) : sextet? (letter n) = some n := by
  have hall : ∀ n < 64, sextet? (letter n) = some n := by
    decide +kernel
  exact hall n hn

theorem letter_mem (n : ℕ) : letter n ∈ alphabet := by
  unfold letter
  rw [List.getD_eq_getElem?_getD]
  cases hn : alphabet[n]? with
  | none => decide
  | some c => exact List.mem_of_getElem? hn

theorem mem_alphabet_of_encode {octets : List UInt8} :
    ∀ c ∈ encode octets, c ∈ alphabet := by
  induction octets using encode.induct with
  | case1 => simp [encode]
  | case2 a => simp [encode, letter_mem]
  | case3 a b => simp [encode, letter_mem]
  | case4 a b c rest ih =>
      simp only [encode, List.mem_cons, forall_eq_or_imp]
      exact ⟨letter_mem _, letter_mem _, letter_mem _, letter_mem _, ih⟩

/-- What is encoded is decoded again. -/
theorem decode_encode (bytes : List UInt8) : decode (encode bytes) = bytes := by
  unfold decode
  induction bytes using encode.induct with
  | case1 => rfl
  | case2 a =>
      have ha := a.toNat_lt
      have hfirst : a.toNat / 4 * 4 + a.toNat % 4 * 16 / 16 = a.toNat := by
        omega
      simp only [encode, List.filterMap_cons, List.filterMap_nil]
      rw [sextet?_letter (by omega), sextet?_letter (by omega)]
      simp only [octets, hfirst, UInt8.ofNat_toNat]
  | case3 a b =>
      have ha := a.toNat_lt
      have hb := b.toNat_lt
      have hfirst : a.toNat / 4 * 4 + (a.toNat % 4 * 16 + b.toNat / 16) / 16 =
          a.toNat := by
        omega
      have hsecond : (a.toNat % 4 * 16 + b.toNat / 16) % 16 * 16 +
          b.toNat % 16 * 4 / 4 = b.toNat := by
        omega
      simp only [encode, List.filterMap_cons, List.filterMap_nil]
      rw [sextet?_letter (by omega), sextet?_letter (by omega),
        sextet?_letter (by omega)]
      simp only [octets, hfirst, hsecond, UInt8.ofNat_toNat]
  | case4 a b c rest ih =>
      have ha := a.toNat_lt
      have hb := b.toNat_lt
      have hc := c.toNat_lt
      have hfirst : a.toNat / 4 * 4 + (a.toNat % 4 * 16 + b.toNat / 16) / 16 =
          a.toNat := by
        omega
      have hsecond : (a.toNat % 4 * 16 + b.toNat / 16) % 16 * 16 +
          (b.toNat % 16 * 4 + c.toNat / 64) / 4 = b.toNat := by
        omega
      have hthird : (b.toNat % 16 * 4 + c.toNat / 64) % 4 * 64 +
          c.toNat % 64 = c.toNat := by
        omega
      simp only [encode, List.filterMap_cons]
      rw [sextet?_letter (by omega), sextet?_letter (by omega),
        sextet?_letter (by omega), sextet?_letter (by omega)]
      simp only [octets, hfirst, hsecond, hthird, UInt8.ofNat_toNat, ih]

end FakeBolt.Base64Url
