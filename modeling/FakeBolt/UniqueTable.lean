import Mathlib.Data.List.Pairwise
import Mathlib.Tactic.Common

/-!
# Tables with unique indexes

A table is a list of rows in which no two rows clash on an index.  The row
type says which columns form its primary key, which pairs of rows some unique
index refuses to hold together, and which partial updates it admits; partial
updates never write an indexed column, so an update keeps a table a table.
-/

namespace FakeBolt.Store

/-- A row type with primary key `κ`, unique indexes and partial updates `π`. -/
class Indexed (ρ : Type) (κ π : outParam Type) where
  key : ρ → κ
  clash : ρ → ρ → Bool
  clash_of_key_eq : ∀ {r s}, key r = key s → clash r s
  clash_symm : ∀ {r s}, clash r s → clash s r
  patch : π → ρ → ρ
  key_patch : ∀ p r, key (patch p r) = key r
  clash_patch : ∀ {p r s}, clash (patch p r) s → clash r s

attribute [simp] Indexed.key_patch

open Indexed

/-- Rows of which no two clash. -/
structure Table (ρ : Type) {κ π : Type} [Indexed ρ κ π] where
  rows : List ρ
  unique : rows.Pairwise fun r s => ¬ clash r s

namespace Table

variable {ρ κ π : Type} [Indexed ρ κ π]

@[ext] theorem ext {t u : Table ρ} (hrows : t.rows = u.rows) : t = u := by
  cases t
  cases u
  cases hrows
  rfl

def empty : Table ρ := ⟨[], List.Pairwise.nil⟩

def find? (t : Table ρ) (p : ρ → Bool) : Option ρ := t.rows.find? p

def get? [DecidableEq κ] (t : Table ρ) (k : κ) : Option ρ :=
  t.find? fun r => decide (key r = k)

/-- `INSERT`: refused when a unique index already holds the row's columns. -/
def insert? (t : Table ρ) (r : ρ) : Option (Table ρ) :=
  if hfree : ∀ s ∈ t.rows, ¬ clash s r then
    some ⟨t.rows ++ [r], List.pairwise_append.mpr
      ⟨t.unique, List.pairwise_singleton _ _, by
        intro s hs r' hr'
        rw [List.mem_singleton] at hr'
        subst r'
        exact hfree s hs⟩⟩
  else none

theorem pairwise_patched [DecidableEq κ] (t : Table ρ) (k : κ) (p : π) :
    (t.rows.map fun r => if key r = k then patch p r else r).Pairwise
      fun r s => ¬ clash r s := by
  rw [List.pairwise_map]
  apply t.unique.imp
  intro r s hclash hpatched
  apply hclash
  split at hpatched <;> split at hpatched
  · exact clash_symm (clash_patch (clash_symm (clash_patch hpatched)))
  · exact clash_patch hpatched
  · exact clash_symm (clash_patch (clash_symm hpatched))
  · exact hpatched

/-- `UPDATE ... WHERE key = k`. -/
def update [DecidableEq κ] (t : Table ρ) (k : κ) (p : π) : Table ρ :=
  ⟨t.rows.map fun r => if key r = k then patch p r else r,
    t.pairwise_patched k p⟩

theorem eq_of_clash {t : Table ρ} {r s : ρ}
    (hr : r ∈ t.rows) (hs : s ∈ t.rows) (hclash : clash r s) : r = s := by
  by_contra hne
  have hsymm : Std.Symm fun r s : ρ => ¬ clash r s :=
    ⟨fun _ _ hfree h => hfree (clash_symm h)⟩
  exact t.unique.forall hr hs hne hclash

theorem mem_of_find? {t : Table ρ} {p : ρ → Bool} {r : ρ}
    (hfind : t.find? p = some r) : r ∈ t.rows :=
  List.mem_of_find?_eq_some hfind

/-- A lookup by a column that a unique index covers finds the one row that
has the value. -/
theorem find?_eq_some_iff {t : Table ρ} {p : ρ → Bool} {r : ρ}
    (hunique : ∀ r s, p r = true → p s = true → clash r s) :
    t.find? p = some r ↔ r ∈ t.rows ∧ p r = true := by
  constructor
  · intro hfind
    exact ⟨mem_of_find? hfind, by simpa using List.find?_some hfind⟩
  · rintro ⟨hmem, hp⟩
    cases hfind : t.find? p with
    | none =>
        have hall := List.find?_eq_none.mp hfind r hmem
        exact (hall hp).elim
    | some s =>
        have hs : p s = true := by simpa using List.find?_some hfind
        rw [eq_of_clash hmem (mem_of_find? hfind) (hunique r s hp hs)]

theorem insert?_eq_none_iff {t : Table ρ} {r : ρ} :
    t.insert? r = none ↔ ∃ s ∈ t.rows, clash s r := by
  unfold insert?
  split
  · rename_i hfree
    simp only [reduceCtorEq, false_iff, not_exists, not_and]
    exact hfree
  · rename_i hclash
    simp only [true_iff]
    simpa using hclash

theorem rows_of_insert? {t u : Table ρ} {r : ρ}
    (hinsert : t.insert? r = some u) :
    u.rows = t.rows ++ [r] ∧ ∀ s ∈ t.rows, ¬ clash s r := by
  unfold insert? at hinsert
  split at hinsert
  · rename_i hfree
    cases hinsert
    exact ⟨rfl, hfree⟩
  · cases hinsert

theorem find?_insert? {t u : Table ρ} {p : ρ → Bool} {r : ρ}
    (hinsert : t.insert? r = some u) (hnone : t.find? p = none)
    (hr : p r = true) : u.find? p = some r := by
  unfold find? at *
  rw [(rows_of_insert? hinsert).1, List.find?_append, hnone]
  simp [hr]

variable [DecidableEq κ]

theorem get?_eq_some_iff {t : Table ρ} {k : κ} {r : ρ} :
    t.get? k = some r ↔ r ∈ t.rows ∧ key r = k := by
  unfold get?
  rw [find?_eq_some_iff]
  · simp
  · intro r s hr hs
    apply clash_of_key_eq
    rw [decide_eq_true_eq] at hr hs
    rw [hr, hs]

theorem key_of_get? {t : Table ρ} {k : κ} {r : ρ}
    (hget : t.get? k = some r) : key r = k :=
  (get?_eq_some_iff.mp hget).2

theorem get?_key_of_mem {t : Table ρ} {r : ρ} (hr : r ∈ t.rows) :
    t.get? (key r) = some r :=
  get?_eq_some_iff.mpr ⟨hr, rfl⟩

theorem get?_eq_none_iff {t : Table ρ} {k : κ} :
    t.get? k = none ↔ ∀ r ∈ t.rows, key r ≠ k := by
  unfold get? find?
  rw [List.find?_eq_none]
  simp

@[simp] theorem get?_empty (k : κ) : (empty : Table ρ).get? k = none := rfl

theorem get?_update (t : Table ρ) (k k' : κ) (p : π) :
    (t.update k p).get? k' =
      (t.get? k').map fun r => if k' = k then patch p r else r := by
  unfold get? find? update
  rw [List.find?_map]
  have hpred :
      ((fun r => decide (key r = k')) ∘
          fun r => if key r = k then patch p r else r) =
        fun r : ρ => decide (key r = k') := by
    funext r
    by_cases hkey : key r = k <;> simp [hkey]
  rw [hpred]
  cases hfind : t.rows.find? fun r => decide (key r = k') with
  | none => rfl
  | some r =>
      have hkey : key r = k' := by simpa using List.find?_some hfind
      simp [hkey]

@[simp] theorem get?_update_self (t : Table ρ) (k : κ) (p : π) :
    (t.update k p).get? k = (t.get? k).map (patch p) := by
  simp [get?_update]

theorem get?_update_of_ne (t : Table ρ) {k k' : κ} (p : π) (hne : k' ≠ k) :
    (t.update k p).get? k' = t.get? k' := by
  simp [get?_update, hne]

/-- Tables with the same keys in the same places and the same row for every
key are the same. -/
theorem ext_of_get? {t u : Table ρ}
    (hkeys : t.rows.map (fun r => key r) = u.rows.map fun r => key r)
    (hget : ∀ k, t.get? k = u.get? k) : t = u := by
  ext1
  have hlength : t.rows.length = u.rows.length := by
    simpa using congrArg List.length hkeys
  apply List.ext_getElem hlength
  intro i hleft hright
  have hkey : key t.rows[i] = key u.rows[i] := by
    have hmaps := List.getElem_of_eq hkeys
      (show i < (t.rows.map fun r => key r).length by simpa using hleft)
    simpa using hmaps
  have hrow := get?_key_of_mem (List.getElem_mem hleft)
  rw [hget, hkey, get?_key_of_mem (List.getElem_mem hright)] at hrow
  exact (Option.some.inj hrow).symm

theorem update_of_get?_none (t : Table ρ) {k : κ} (p : π)
    (hnone : t.get? k = none) : t.update k p = t := by
  ext1
  change t.rows.map _ = _
  conv_rhs => rw [← List.map_id t.rows]
  apply List.map_congr_left
  intro r hr
  simp [get?_eq_none_iff.mp hnone r hr]

theorem update_update_self (t : Table ρ) (k : κ) {p : π}
    (hidem : ∀ r : ρ, patch p (patch p r) = patch p r) :
    (t.update k p).update k p = t.update k p := by
  ext1
  change (t.rows.map _).map _ = _
  rw [List.map_map]
  apply List.map_congr_left
  intro r _
  by_cases hkey : key r = k <;> simp [hkey, hidem]

theorem find?_update (t : Table ρ) (k : κ) {p : ρ → Bool} (q : π)
    (hstable : ∀ s, p (patch q s) = p s) :
    (t.update k q).find? p =
      (t.find? p).map fun r => if key r = k then patch q r else r := by
  unfold find? update
  rw [List.find?_map]
  have hpred : (p ∘ fun s => if key s = k then patch q s else s) = p := by
    funext s
    by_cases hkey : key s = k <;> simp [hkey, hstable]
  rw [hpred]

/-- An update of a row that a lookup finds is what the lookup finds next, if
the update does not change what is looked up. -/
theorem find?_update_key {t : Table ρ} {p : ρ → Bool} {r : ρ} (q : π)
    (hstable : ∀ s, p (patch q s) = p s) (hfind : t.find? p = some r) :
    (t.update (key r) q).find? p = some (patch q r) := by
  rw [find?_update t (key r) q hstable, hfind]
  simp

theorem get?_eq_none_of_insert? {t u : Table ρ} {r : ρ}
    (hinsert : t.insert? r = some u) : t.get? (key r) = none := by
  rw [get?_eq_none_iff]
  intro s hs hkey
  exact (rows_of_insert? hinsert).2 s hs (clash_of_key_eq hkey)

theorem get?_of_insert? {t u : Table ρ} {r : ρ}
    (hinsert : t.insert? r = some u) (k : κ) :
    u.get? k = if k = key r then some r else t.get? k := by
  obtain ⟨hrows, hfree⟩ := rows_of_insert? hinsert
  split
  · rename_i hkey
    rw [get?_eq_some_iff, hrows]
    exact ⟨by simp, hkey.symm⟩
  · rename_i hkey
    unfold get? find?
    rw [hrows, List.find?_append]
    have hnot : ¬ key r = k := fun h => hkey h.symm
    simp [hnot]

end Table

end FakeBolt.Store
