import Mathlib.Data.List.Forall2
import Mathlib.Tactic.Common

/-!
# The tags of a document

A document split at its angle brackets.  What stands between `<` and the next
bracket is markup, what follows `>` is text.  Documents put together from
pieces that each close the tags they open have the tags of the pieces.  A text
between two such pieces stands in no tag.
-/

namespace FakeBolt.Markup

def isBracket (c : Char) : Bool :=
  c == '<' || c == '>'

/-- What stands before the first bracket. -/
def lead (cs : List Char) : List Char :=
  cs.takeWhile fun c => !isBracket c

/-- The brackets in order, an opening one with what stands between it and the
next. -/
def tags : List Char → List (Char × List Char)
  | [] => []
  | c :: cs =>
      if c = '<' then (c, lead cs) :: tags cs
      else if c = '>' then (c, []) :: tags cs
      else tags cs

/-- Every `<` is followed by a `>`. -/
def closed : List Char → Bool
  | [] => true
  | c :: cs => (c != '<' || cs.contains '>') && closed cs

theorem lead_append {xs : List Char} (hclose : '>' ∈ xs) (ys : List Char) :
    lead (xs ++ ys) = lead xs := by
  induction xs with
  | nil => cases hclose
  | cons c cs ih =>
      unfold lead at ih ⊢
      rw [List.cons_append, List.takeWhile_cons, List.takeWhile_cons]
      by_cases hbracket : isBracket c = true
      · simp [hbracket]
      · have hne : '>' ≠ c := by
          intro heq
          subst heq
          exact hbracket rfl
        have hrest := List.mem_of_ne_of_mem hne hclose
        simp [hbracket, ih hrest]

theorem tags_append {xs : List Char} (hclosed : closed xs = true)
    (ys : List Char) : tags (xs ++ ys) = tags xs ++ tags ys := by
  induction xs with
  | nil => rfl
  | cons c cs ih =>
      simp only [closed, Bool.and_eq_true, Bool.or_eq_true, bne_iff_ne,
        List.contains_eq_mem, decide_eq_true_eq] at hclosed
      obtain ⟨hfollowed, hrest⟩ := hclosed
      rw [List.cons_append, tags, tags, ih hrest]
      by_cases hopen : c = '<'
      · have hclose := hfollowed.resolve_left fun hne => hne hopen
        simp [hopen, lead_append hclose]
      · by_cases hclose : c = '>' <;> simp [hopen, hclose]

theorem closed_append {xs ys : List Char} (hxs : closed xs = true)
    (hys : closed ys = true) : closed (xs ++ ys) = true := by
  induction xs with
  | nil => exact hys
  | cons c cs ih =>
      simp only [closed, List.cons_append, Bool.and_eq_true, Bool.or_eq_true,
        bne_iff_ne, List.contains_eq_mem, decide_eq_true_eq,
        List.mem_append] at hxs ⊢
      obtain ⟨hfollowed, hrest⟩ := hxs
      refine ⟨?_, ih hrest⟩
      rcases hfollowed with hopen | hclose
      · exact Or.inl hopen
      · exact Or.inr (Or.inl hclose)

/-- Fixed pieces with texts in the gaps between them. -/
def weave : List String → List String → String
  | piece :: pieces, text :: texts => piece ++ text ++ weave pieces texts
  | piece :: _, [] => piece
  | [], _ => ""

/-- Two pieces that close their tags and have the same ones. -/
structure SameTags (first second : String) : Prop where
  closed_first : closed first.toList = true
  closed_second : closed second.toList = true
  tags_eq : tags first.toList = tags second.toList

namespace SameTags

variable {first second first' second' separator : String}

theorem refl (hclosed : closed first.toList = true) : SameTags first first :=
  ⟨hclosed, hclosed, rfl⟩

theorem append (hleft : SameTags first second)
    (hright : SameTags first' second') :
    SameTags (first ++ first') (second ++ second') where
  closed_first := by
    rw [String.toList_append]
    exact closed_append hleft.closed_first hright.closed_first
  closed_second := by
    rw [String.toList_append]
    exact closed_append hleft.closed_second hright.closed_second
  tags_eq := by
    rw [String.toList_append, String.toList_append,
      tags_append hleft.closed_first, tags_append hleft.closed_second,
      hleft.tags_eq, hright.tags_eq]

theorem weave {pieces : List String}
    (hpieces : ∀ piece ∈ pieces, closed piece.toList = true)
    {firsts seconds : List String}
    (htexts : List.Forall₂ SameTags firsts seconds) :
    SameTags (weave pieces firsts) (weave pieces seconds) := by
  induction pieces generalizing firsts seconds with
  | nil => exact refl rfl
  | cons piece pieces ih =>
      rw [List.forall_mem_cons] at hpieces
      cases htexts with
      | nil => exact refl hpieces.1
      | cons htext hrest =>
          exact ((refl hpieces.1).append htext).append (ih hpieces.2 hrest)

end SameTags

end FakeBolt.Markup
