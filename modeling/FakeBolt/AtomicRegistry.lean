import FakeBolt.Linearization
import FakeBolt.UniqueTable

/-!
# A table as an atomic registry

Rows are looked up and inserted one access at a time; an insert that clashes
with a unique index is refused.  Along a history rows are only added, so what
an access has seen is still there at the end, and of the inserts that clash
with each other at most one is accepted.
-/

namespace FakeBolt.Store

open Await.Interleaving Transition

inductive Access (Q ρ : Type) where
  | inserted (row : ρ)
  | refused (row : ρ)
  | read (query : Q) (found : Option ρ)
  deriving DecidableEq

variable {ρ κ π Q τ : Type} [Indexed ρ κ π] [DecidableEq ρ]

/-- An access says what came of it, so it is possible only where that is what
comes of it. -/
def Access.apply (select : Q → ρ → Bool) (table : Table ρ) :
    Access Q ρ → Option (Table ρ)
  | .inserted row => table.insert? row
  | .refused row => if (table.insert? row).isNone then some table else none
  | .read query found =>
      if table.find? (select query) = found then some table else none

/-- The accepted inserts of a history, with whose they are. -/
def winners (history : List (τ × Access Q ρ)) : List (τ × ρ) :=
  history.filterMap fun entry =>
    match entry.2 with
    | .inserted row => some (entry.1, row)
    | _ => none

omit [DecidableEq ρ] in
theorem mem_winners {history : List (τ × Access Q ρ)} {thread : τ} {row : ρ} :
    (thread, row) ∈ winners history ↔
      (thread, Access.inserted row) ∈ history := by
  simp only [winners, List.mem_filterMap]
  constructor
  · rintro ⟨⟨other, access⟩, hmem, hsome⟩
    cases access with
    | inserted found =>
        cases hsome
        exact hmem
    | refused found => cases hsome
    | read query found => cases hsome
  · intro hmem
    exact ⟨(thread, .inserted row), hmem, rfl⟩

section Histories

variable {select : Q → ρ → Bool} {table final : Table ρ}
  {history : List (τ × Access Q ρ)}

theorem apply_eq_some {access : Access Q ρ} {next : Table ρ}
    (happly : access.apply select table = some next) :
    (∃ row, access = .inserted row ∧ table.insert? row = some next) ∨
      (next = table ∧ ∀ row, access ≠ .inserted row) := by
  cases access with
  | inserted row => exact Or.inl ⟨row, rfl, happly⟩
  | refused row =>
      right
      simp only [Access.apply, Option.ite_none_right_eq_some,
        Option.some.injEq] at happly
      exact ⟨happly.2.symm, by simp⟩
  | read query found =>
      right
      simp only [Access.apply, Option.ite_none_right_eq_some,
        Option.some.injEq] at happly
      exact ⟨happly.2.symm, by simp⟩

/-- The rows at the end are those of the start and the accepted ones. -/
theorem rows_of_replay
    (hreplay : replay (Access.apply select) table history = some final) :
    final.rows = table.rows ++ (winners history).map Prod.snd := by
  induction history generalizing table with
  | nil =>
      cases hreplay
      simp [winners]
  | cons entry history ih =>
      obtain ⟨next, happly, hrest⟩ := run_cons_eq_some.mp hreplay
      have hnext := ih hrest
      obtain ⟨thread, access⟩ := entry
      rcases apply_eq_some happly with ⟨row, hrow, hinsert⟩ | ⟨hsame, hother⟩
      · simp only at hrow
        subst hrow
        rw [hnext, (Table.rows_of_insert? hinsert).1]
        simp [winners]
      · rw [hnext, hsame]
        congr 2
        cases access with
        | inserted row => exact (hother row rfl).elim
        | refused row => rfl
        | read query found => rfl

theorem mem_rows_of_replay {row : ρ}
    (hreplay : replay (Access.apply select) table history = some final)
    (hmem : row ∈ table.rows) : row ∈ final.rows := by
  rw [rows_of_replay hreplay]
  exact List.mem_append_left _ hmem

theorem mem_rows_of_inserted {thread : τ} {row : ρ}
    (hreplay : replay (Access.apply select) table history = some final)
    (hinserted : (thread, Access.inserted row) ∈ history) :
    row ∈ final.rows := by
  rw [rows_of_replay hreplay]
  apply List.mem_append_right
  exact List.mem_map.mpr ⟨(thread, row), mem_winners.mpr hinserted, rfl⟩

/-- A row of the end was there before or is somebody's accepted insert. -/
theorem mem_or_inserted {row : ρ}
    (hreplay : replay (Access.apply select) table history = some final)
    (hmem : row ∈ final.rows) :
    row ∈ table.rows ∨ ∃ thread, (thread, Access.inserted row) ∈ history := by
  rw [rows_of_replay hreplay, List.mem_append] at hmem
  rcases hmem with hold | hnew
  · exact Or.inl hold
  · obtain ⟨⟨thread, found⟩, hwon, heq⟩ := List.mem_map.mp hnew
    simp only at heq
    subst heq
    exact Or.inr ⟨thread, mem_winners.mp hwon⟩

/-- What one access has seen is still so at the end. -/
theorem seen_of_mem {thread : τ} {access : Access Q ρ}
    (hreplay : replay (Access.apply select) table history = some final)
    (hmem : (thread, access) ∈ history) :
    ∃ middle next, access.apply select middle = some next ∧
      ∀ row ∈ middle.rows, row ∈ final.rows := by
  obtain ⟨before, after, hsplit⟩ := List.append_of_mem hmem
  subst hsplit
  rw [replay_append] at hreplay
  obtain ⟨middle, -, hrest⟩ := Option.bind_eq_some_iff.mp hreplay
  obtain ⟨next, happly, hlater⟩ := run_cons_eq_some.mp hrest
  refine ⟨middle, next, happly, ?_⟩
  intro row hrow
  have hlast : replay (Access.apply select) middle ((thread, access) :: after) =
      some final := hrest
  exact mem_rows_of_replay hlast hrow

theorem exists_clash_of_refused {thread : τ} {row : ρ}
    (hreplay : replay (Access.apply select) table history = some final)
    (hrefused : (thread, Access.refused row) ∈ history) :
    ∃ other ∈ final.rows, Indexed.clash other row := by
  obtain ⟨middle, next, happly, hkept⟩ := seen_of_mem hreplay hrefused
  simp only [Access.apply, Option.ite_none_right_eq_some,
    Option.isNone_iff_eq_none] at happly
  obtain ⟨other, hother, hclash⟩ := Table.insert?_eq_none_iff.mp happly.1
  exact ⟨other, hkept other hother, hclash⟩

theorem mem_rows_of_read {thread : τ} {query : Q} {row : ρ}
    (hreplay : replay (Access.apply select) table history = some final)
    (hread : (thread, Access.read query (some row)) ∈ history) :
    row ∈ final.rows ∧ select query row = true := by
  obtain ⟨middle, next, happly, hkept⟩ := seen_of_mem hreplay hread
  simp only [Access.apply, Option.ite_none_right_eq_some] at happly
  have hrow := Table.mem_of_find? happly.1
  have hselected := List.find?_some happly.1
  exact ⟨hkept row hrow, hselected⟩

/-- A lookup by a unique column finds what was there before the history. -/
theorem found_of_read {thread : τ} {query : Q} {found : Option ρ} {row : ρ}
    (hunique : ∀ r s, select query r = true → select query s = true →
      Indexed.clash r s)
    (hreplay : replay (Access.apply select) table history = some final)
    (hread : (thread, Access.read query found) ∈ history)
    (hrow : row ∈ table.rows) (hselect : select query row = true) :
    found = some row := by
  obtain ⟨before, after, hsplit⟩ := List.append_of_mem hread
  subst hsplit
  rw [replay_append] at hreplay
  obtain ⟨middle, hbefore, hrest⟩ := Option.bind_eq_some_iff.mp hreplay
  obtain ⟨next, happly, -⟩ := run_cons_eq_some.mp hrest
  simp only [Access.apply, Option.ite_none_right_eq_some] at happly
  rw [← happly.1, Table.find?_eq_some_iff hunique]
  exact ⟨mem_rows_of_replay hbefore hrow, hselect⟩

theorem pairwise_winners
    (hreplay : replay (Access.apply select) table history = some final) :
    (winners history).Pairwise fun first second =>
      ¬ Indexed.clash first.2 second.2 := by
  have hunique := final.unique
  rw [rows_of_replay hreplay] at hunique
  have hrows := (List.pairwise_append.mp hunique).2.1
  rwa [List.pairwise_map] at hrows

/-- Of the inserts that clash with each other only one is accepted. -/
theorem winner_unique {thread other : τ} {row row' : ρ}
    (hreplay : replay (Access.apply select) table history = some final)
    (hrow : (thread, Access.inserted row) ∈ history)
    (hrow' : (other, Access.inserted row') ∈ history)
    (hclash : Indexed.clash row row') : thread = other ∧ row = row' := by
  by_contra hne
  have hsymm : Std.Symm fun first second : τ × ρ =>
      ¬ Indexed.clash first.2 second.2 :=
    ⟨fun _ _ hfree h => hfree (Indexed.clash_symm h)⟩
  have hdifferent : (thread, row) ≠ (other, row') := by
    intro heq
    exact hne (Prod.mk.injEq .. ▸ heq)
  exact (pairwise_winners hreplay).forall (mem_winners.mpr hrow)
    (mem_winners.mpr hrow') hdifferent hclash

end Histories

end FakeBolt.Store
