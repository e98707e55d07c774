import FakeBolt.MarkupTags
import FakeBolt.ReceiptTemplate

/-!
# User text in the receipt

The texts of a receipt reach its HTML through `escape` only.  They cannot add
or change a tag, and what a mail client decodes is the text itself.
-/

namespace FakeBolt.Email

open Markup

/-- Decoding the five entities, in one pass. -/
def unescapeChars : List Char → List Char
  | '&' :: 'a' :: 'm' :: 'p' :: ';' :: cs => '&' :: unescapeChars cs
  | '&' :: 'l' :: 't' :: ';' :: cs => '<' :: unescapeChars cs
  | '&' :: 'g' :: 't' :: ';' :: cs => '>' :: unescapeChars cs
  | '&' :: 'q' :: 'u' :: 'o' :: 't' :: ';' :: cs => '"' :: unescapeChars cs
  | '&' :: '#' :: '3' :: '9' :: ';' :: cs => '\'' :: unescapeChars cs
  | c :: cs => c :: unescapeChars cs
  | [] => []

def unescape (value : String) : String :=
  String.ofList (unescapeChars value.toList)

theorem toList_escape (value : String) :
    (escape value).toList =
      value.toList.flatMap fun c => (escapeChar c).toList := by
  simp [escape, List.flatMap_map]

/-- The characters that `escape` replaces. -/
def isSpecial (c : Char) : Bool :=
  c == '&' || c == '<' || c == '>' || c == '"' || c == '\''

theorem escapeChar_of_not_special {c : Char} (hplain : isSpecial c = false) :
    escapeChar c = String.singleton c := by
  simp only [isSpecial, Bool.or_eq_false_iff, beq_eq_false_iff_ne] at hplain
  obtain ⟨⟨⟨⟨hamp, hlt⟩, hgt⟩, hquot⟩, hapos⟩ := hplain
  unfold escapeChar
  split <;> simp_all

theorem unescapeChars_escapeChar (c : Char) (rest : List Char) :
    unescapeChars ((escapeChar c).toList ++ rest) = c :: unescapeChars rest := by
  by_cases hspecial : isSpecial c = true
  · simp only [isSpecial, Bool.or_eq_true, beq_iff_eq] at hspecial
    rcases hspecial with (((hc | hc) | hc) | hc) | hc <;> subst hc <;> rfl
  · rw [Bool.not_eq_true] at hspecial
    have hamp : c ≠ '&' := by
      intro heq
      subst heq
      cases hspecial
    rw [escapeChar_of_not_special hspecial, String.toList_singleton,
      List.singleton_append]
    -- an entity starts with `&`, so the last equation applies
    rw [unescapeChars] <;> intro _ heq <;> exact (hamp heq).elim

theorem unescape_escape (value : String) : unescape (escape value) = value := by
  have hchars : ∀ cs : List Char,
      unescapeChars (cs.flatMap fun c => (escapeChar c).toList) = cs := by
    intro cs
    induction cs with
    | nil => rfl
    | cons c cs ih =>
        rw [List.flatMap_cons, unescapeChars_escapeChar, ih]
  unfold unescape
  rw [toList_escape, hchars, String.ofList_toList]

end FakeBolt.Email
