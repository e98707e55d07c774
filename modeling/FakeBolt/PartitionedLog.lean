import FakeBolt.GuardedRun
import Mathlib.Data.List.Range
import Mathlib.Logic.Function.Basic
import Mathlib.Tactic.Common

/-!
# Logs with lanes

A log whose entries are spread over lanes.  Every group of consumers takes the
entries of a lane in the order they were appended, and the lanes in any order.
Related entries are therefore taken in order, whatever the schedule, exactly
if they share a lane.
-/

namespace FakeBolt.Lanes

open Transition

variable {M L G : Type}

/-- What was appended, to which lane, and what each group has taken so far, by
position. -/
structure PartitionedLog (M L G : Type) where
  entries : List (M × L)
  consumed : G → List ℕ

namespace PartitionedLog

def empty : PartitionedLog M L G :=
  ⟨[], fun _ => []⟩

def message? (log : PartitionedLog M L G) (i : ℕ) : Option M :=
  log.entries[i]?.map Prod.fst

def lane? (log : PartitionedLog M L G) (i : ℕ) : Option L :=
  log.entries[i]?.map Prod.snd

def publish (log : PartitionedLog M L G) (sent : List (M × L)) :
    PartitionedLog M L G :=
  { log with entries := log.entries ++ sent }

/-- The next entry of its lane, for the group. -/
def Ready (log : PartitionedLog M L G) (group : G) (i : ℕ) : Prop :=
  i < log.entries.length ∧ i ∉ log.consumed group ∧
    ∀ earlier < i, log.lane? earlier = log.lane? i →
      earlier ∈ log.consumed group

instance [DecidableEq L] (log : PartitionedLog M L G) (group : G) (i : ℕ) :
    Decidable (log.Ready group i) :=
  inferInstanceAs (Decidable (_ ∧ _ ∧ _))

def consume [DecidableEq L] [DecidableEq G] (log : PartitionedLog M L G)
    (event : G × ℕ) : Option (PartitionedLog M L G) :=
  if log.Ready event.1 event.2 then
    some { log with
      consumed := Function.update log.consumed event.1
        (log.consumed event.1 ++ [event.2]) }
  else none

/-- The groups take the lanes front to back. -/
structure Lanewise (log : PartitionedLog M L G) : Prop where
  valid : ∀ group, ∀ i ∈ log.consumed group, i < log.entries.length
  closed : ∀ group, ∀ i ∈ log.consumed group, ∀ earlier < i,
    log.lane? earlier = log.lane? i → earlier ∈ log.consumed group
  ordered : ∀ group, (log.consumed group).Pairwise fun i j =>
    log.lane? i = log.lane? j → i < j

def Related (same : M → M → Prop) (log : PartitionedLog M L G) (i j : ℕ) :
    Prop :=
  ∃ first second, log.message? i = some first ∧
    log.message? j = some second ∧ same first second

/-- Related entries are taken in the order they were appended. -/
def Ordered (same : M → M → Prop) (log : PartitionedLog M L G) : Prop :=
  ∀ group, (log.consumed group).Pairwise fun i j =>
    log.Related same i j → i < j

def OneLane (same : M → M → Prop) (log : PartitionedLog M L G) : Prop :=
  ∀ i j, log.Related same i j → log.lane? i = log.lane? j

/-! ## What the steps keep -/

theorem lanewise_empty : (empty : PartitionedLog M L G).Lanewise := by
  constructor
  · intro group i hi
    cases hi
  · intro group i hi
    cases hi
  · exact fun group => List.Pairwise.nil

theorem lane?_publish {log : PartitionedLog M L G} {i : ℕ}
    (hi : i < log.entries.length) (sent : List (M × L)) :
    (log.publish sent).lane? i = log.lane? i := by
  simp [lane?, publish, List.getElem?_append_left hi]

theorem Lanewise.publish {log : PartitionedLog M L G} (hlog : log.Lanewise)
    (sent : List (M × L)) : (log.publish sent).Lanewise := by
  constructor
  · intro group i hi
    have hvalid := hlog.valid group i hi
    simp only [PartitionedLog.publish, List.length_append]
    omega
  · intro group i hi earlier hearlier hlane
    have hvalid := hlog.valid group i hi
    rw [lane?_publish hvalid, lane?_publish (hearlier.trans hvalid)] at hlane
    exact hlog.closed group i hi earlier hearlier hlane
  · intro group
    apply (hlog.ordered group).imp_of_mem
    intro i j hi hj hordered hlane
    rw [lane?_publish (hlog.valid group i hi),
      lane?_publish (hlog.valid group j hj)] at hlane
    exact hordered hlane

variable [DecidableEq L] [DecidableEq G]

theorem consume_eq_some_iff {log next : PartitionedLog M L G} {event : G × ℕ} :
    log.consume event = some next ↔ log.Ready event.1 event.2 ∧
      next = { log with
        consumed := Function.update log.consumed event.1
          (log.consumed event.1 ++ [event.2]) } := by
  unfold consume
  split
  · rename_i hready
    simp [hready, eq_comm]
  · rename_i hready
    simp [hready]

/-- What a step of a group changes. -/
theorem consume_cases {log next : PartitionedLog M L G} {event : G × ℕ}
    (hnext : log.consume event = some next) :
    log.Ready event.1 event.2 ∧ next.entries = log.entries ∧
      next.consumed event.1 = log.consumed event.1 ++ [event.2] ∧
      ∀ group, group ≠ event.1 →
        next.consumed group = log.consumed group := by
  obtain ⟨hready, heq⟩ := consume_eq_some_iff.mp hnext
  subst heq
  refine ⟨hready, rfl, Function.update_self _ _ _, ?_⟩
  exact fun group hgroup => Function.update_of_ne hgroup _ _

omit [DecidableEq L] [DecidableEq G] in
theorem lane?_congr {log next : PartitionedLog M L G}
    (hentries : next.entries = log.entries) (i : ℕ) :
    next.lane? i = log.lane? i := by
  rw [lane?, lane?, hentries]

theorem Lanewise.consume {log next : PartitionedLog M L G} {event : G × ℕ}
    (hlog : log.Lanewise) (hnext : log.consume event = some next) :
    next.Lanewise := by
  obtain ⟨⟨hlength, hfresh, hearlier⟩, hentries, htaken, hothers⟩ :=
    consume_cases hnext
  have hlane := lane?_congr hentries
  constructor
  · intro group i hi
    rw [hentries]
    by_cases hgroup : group = event.1
    · subst hgroup
      rw [htaken, List.mem_append, List.mem_singleton] at hi
      rcases hi with hold | hnew
      · exact hlog.valid _ i hold
      · exact hnew ▸ hlength
    · rw [hothers group hgroup] at hi
      exact hlog.valid group i hi
  · intro group i hi earlier hlt hsame
    rw [hlane, hlane] at hsame
    by_cases hgroup : group = event.1
    · subst hgroup
      rw [htaken, List.mem_append, List.mem_singleton] at hi ⊢
      rcases hi with hold | hnew
      · exact Or.inl (hlog.closed _ i hold earlier hlt hsame)
      · subst hnew
        exact Or.inl (hearlier earlier hlt hsame)
    · rw [hothers group hgroup] at hi ⊢
      exact hlog.closed group i hi earlier hlt hsame
  · intro group
    simp only [hlane]
    by_cases hgroup : group = event.1
    · subst hgroup
      rw [htaken, List.pairwise_append]
      refine ⟨hlog.ordered _, List.pairwise_singleton _ _, ?_⟩
      intro i hi j hj hsame
      rw [List.mem_singleton] at hj
      subst hj
      -- a later entry of the lane cannot have been taken before this one
      rcases lt_trichotomy i event.2 with hlt | heq | hgt
      · exact hlt
      · exact (hfresh (heq ▸ hi)).elim
      · exact (hfresh (hlog.closed _ i hi event.2 hgt hsame.symm)).elim
    · rw [hothers group hgroup]
      exact hlog.ordered group

omit [DecidableEq L] [DecidableEq G] in
theorem Lanewise.ordered_of_oneLane {same : M → M → Prop}
    {log : PartitionedLog M L G} (hlog : log.Lanewise)
    (hone : log.OneLane same) : log.Ordered same := by
  intro group
  apply (hlog.ordered group).imp
  intro i j hlane hrelated
  exact hlane (hone i j hrelated)

/-! ## A schedule that breaks the order -/

/-- The positions of a lane below a bound. -/
def upTo (log : PartitionedLog M L G) (lane : L) (bound : ℕ) : List ℕ :=
  (List.range bound).filter fun i => log.lane? i = some lane

omit [DecidableEq G] in
theorem mem_upTo {log : PartitionedLog M L G} {lane : L} {bound i : ℕ} :
    i ∈ log.upTo lane bound ↔ i < bound ∧ log.lane? i = some lane := by
  simp [upTo]

omit [DecidableEq G] in
theorem upTo_succ (log : PartitionedLog M L G) (lane : L) (bound : ℕ) :
    log.upTo lane (bound + 1) = log.upTo lane bound ++
      if log.lane? bound = some lane then [bound] else [] := by
  unfold upTo
  rw [List.range_succ, List.filter_append]
  congr 1
  by_cases hlane : log.lane? bound = some lane <;> simp [hlane]

/-- A group that has taken nothing of a lane can take it up to any bound. -/
theorem drain (log : PartitionedLog M L G) (lane : L) (group : G) (bound : ℕ)
    (hfree : ∀ i ∈ log.consumed group, log.lane? i ≠ some lane)
    (hbound : bound ≤ log.entries.length) :
    ∃ last, run consume log
        ((log.upTo lane bound).map fun i => (group, i)) = some last ∧
      last.entries = log.entries ∧
      last.consumed group = log.consumed group ++ log.upTo lane bound := by
  induction bound with
  | zero => exact ⟨log, rfl, rfl, by simp [upTo]⟩
  | succ bound ih =>
      obtain ⟨last, hrun, hentries, hconsumed⟩ := ih (by omega)
      rw [upTo_succ]
      by_cases hlane : log.lane? bound = some lane
      · rw [if_pos hlane, List.map_append, run_append, hrun]
        have hlanes := lane?_congr hentries
        have hready : last.Ready group bound := by
          refine ⟨by rw [hentries]; omega, ?_, ?_⟩
          · rw [hconsumed, List.mem_append]
            rintro (hold | hnew)
            · exact hfree bound hold hlane
            · exact absurd (mem_upTo.mp hnew).1 (lt_irrefl bound)
          · intro earlier hlt hsame
            rw [hlanes, hlanes, hlane] at hsame
            rw [hconsumed, List.mem_append]
            exact Or.inr (mem_upTo.mpr ⟨hlt, hsame⟩)
        obtain ⟨next, hnext⟩ : ∃ next,
            last.consume (group, bound) = some next :=
          ⟨_, consume_eq_some_iff.mpr ⟨hready, rfl⟩⟩
        obtain ⟨-, hkept, htaken, -⟩ := consume_cases hnext
        refine ⟨next, run_cons_eq_some.mpr ⟨next, hnext, rfl⟩,
          hkept.trans hentries, ?_⟩
        rw [htaken, hconsumed, List.append_assoc]
      · rw [if_neg hlane, List.append_nil]
        exact ⟨last, hrun, hentries, hconsumed⟩

/-- If two related entries are in different lanes, a group that has taken
nothing can take the later one first. -/
theorem exists_disorder {same : M → M → Prop}
    (hsymm : ∀ first second, same first second → same second first)
    {log : PartitionedLog M L G} {group : G}
    (hfresh : log.consumed group = []) (hmany : ¬ log.OneLane same) :
    ∃ schedule last, run consume log schedule = some last ∧
      last.entries = log.entries ∧ ¬ last.Ordered same := by
  unfold OneLane at hmany
  push Not at hmany
  obtain ⟨i, j, hrelated, hlanes⟩ := hmany
  obtain ⟨first, second, hfirst, hsecond, hsame⟩ := hrelated
  wlog hlt : i < j generalizing i j first second
  · have hne : i ≠ j := fun heq => hlanes (heq ▸ rfl)
    exact this j i hlanes.symm second first hsecond hfirst
      (hsymm first second hsame) (by omega)
  obtain ⟨⟨_, lane⟩, hentry, -⟩ := Option.map_eq_some_iff.mp hfirst
  obtain ⟨⟨_, lane'⟩, hentry', -⟩ := Option.map_eq_some_iff.mp hsecond
  have hlane : log.lane? i = some lane := by simp [lane?, hentry]
  have hlane' : log.lane? j = some lane' := by simp [lane?, hentry']
  rw [hlane, hlane', ne_eq, Option.some.injEq] at hlanes
  have hj : j < log.entries.length := (List.getElem?_eq_some_iff.mp hentry').1
  obtain ⟨middle, hrun, hentries, hconsumed⟩ :=
    log.drain lane' group (j + 1) (by simp [hfresh]) (by omega)
  rw [hfresh, List.nil_append] at hconsumed
  have hfree : ∀ k ∈ middle.consumed group, middle.lane? k ≠ some lane := by
    intro k hk hkLane
    rw [hconsumed] at hk
    rw [lane?_congr hentries, (mem_upTo.mp hk).2, Option.some.injEq] at hkLane
    exact hlanes hkLane.symm
  obtain ⟨last, hrun', hentries', hconsumed'⟩ :=
    middle.drain lane group (i + 1) hfree (by rw [hentries]; omega)
  let schedule := (log.upTo lane' (j + 1)).map (fun k => (group, k)) ++
    (middle.upTo lane (i + 1)).map fun k => (group, k)
  refine ⟨schedule, last, ?_, hentries'.trans hentries, ?_⟩
  · rw [run_append, hrun]
    exact hrun'
  · intro hordered
    have hpairs := hordered group
    rw [hconsumed', hconsumed, List.pairwise_append] at hpairs
    have hjMem : j ∈ log.upTo lane' (j + 1) := mem_upTo.mpr ⟨by omega, hlane'⟩
    have hiMem : i ∈ middle.upTo lane (i + 1) :=
      mem_upTo.mpr ⟨by omega, (lane?_congr hentries i).trans hlane⟩
    have hall : last.entries = log.entries := hentries'.trans hentries
    have hback : last.Related same j i := by
      refine ⟨second, first, ?_, ?_, hsymm first second hsame⟩
      · rw [message?, hall]
        exact hsecond
      · rw [message?, hall]
        exact hfirst
    have hbefore := hpairs.2.2 j hjMem i hiMem hback
    omega

end PartitionedLog

end FakeBolt.Lanes
