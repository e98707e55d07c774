import Mathlib.Data.Finmap
import Mathlib.Data.Finset.Sort
import Mathlib.Data.Finset.Max
import Mathlib.Data.List.Sort

/-!
# Geo sets and nearest-first claims

A geo set maps members to the position they were last added at.  A radius
search returns a closest member in range; which of several equally close
members it returns is left to a hint, so that quantifying over hints covers
every answer a real index may give.  A claim is a search followed by the
removal of the member found.
-/

namespace FakeBolt.Geo

/-- Members of a sorted set with the position they were last added at. -/
abbrev GeoSet (M P : Type) := Finmap fun _ : M => P

variable {M P D : Type} [LinearOrder M] [LinearOrder D]

namespace GeoSet

variable (dist : P → P → D)

def Within (set : GeoSet M P) (center : P) (radius : D) (member : M) : Prop :=
  ∃ position, set.lookup member = some position ∧
    dist center position ≤ radius

/-- `near` is no farther from the center than `far`. -/
def NoFarther (set : GeoSet M P) (center : P) (near far : M) : Prop :=
  ∀ p q, set.lookup near = some p → set.lookup far = some q →
    dist center p ≤ dist center q

instance (set : GeoSet M P) (center : P) (radius : D) (member : M) :
    Decidable (Within dist set center radius member) :=
  match h : set.lookup member with
  | none => isFalse fun ⟨p, hp, _⟩ => by simp [h] at hp
  | some p =>
      decidable_of_iff (dist center p ≤ radius) (by simp [Within, h])

instance (set : GeoSet M P) (center : P) (near far : M) :
    Decidable (NoFarther dist set center near far) :=
  match hnear : set.lookup near, hfar : set.lookup far with
  | none, _ => isTrue fun p q hp _ => by simp [hnear] at hp
  | some _, none => isTrue fun p q _ hq => by simp [hfar] at hq
  | some p, some q =>
      decidable_of_iff (dist center p ≤ dist center q)
        (by simp [NoFarther, hnear, hfar])

def inRange (set : GeoSet M P) (center : P) (radius : D) : Finset M :=
  set.keys.filter fun member => Within dist set center radius member

def nearest (set : GeoSet M P) (center : P) (radius : D) : Finset M :=
  (inRange dist set center radius).filter fun member =>
    ∀ other ∈ inRange dist set center radius,
      NoFarther dist set center member other

def leastNearest (set : GeoSet M P) (center : P) (radius : D) : Option M :=
  (nearest dist set center radius).min

/-- A radius search for one member, nearest first. -/
def search (set : GeoSet M P) (center : P) (radius : D) (hint : Option M) :
    Option M :=
  match hint with
  | some member =>
      if member ∈ nearest dist set center radius then some member
      else leastNearest dist set center radius
  | none => leastNearest dist set center radius

def claim (set : GeoSet M P) (center : P) (radius : D) (hint : Option M) :
    Option M × GeoSet M P :=
  match search dist set center radius hint with
  | none => (none, set)
  | some member => (some member, set.erase member)

variable {dist}

@[simp] theorem mem_inRange {set : GeoSet M P} {center : P} {radius : D}
    {member : M} :
    member ∈ inRange dist set center radius ↔
      Within dist set center radius member := by
  unfold inRange
  rw [Finset.mem_filter, Finmap.mem_keys, and_iff_right_iff_imp]
  rintro ⟨p, hp, _⟩
  exact Finmap.mem_of_lookup_eq_some hp

theorem mem_nearest {set : GeoSet M P} {center : P} {radius : D}
    {member : M} :
    member ∈ nearest dist set center radius ↔
      Within dist set center radius member ∧
        ∀ other, Within dist set center radius other →
          NoFarther dist set center member other := by
  simp [nearest]

theorem exists_mem_nearest {set : GeoSet M P} {center : P} {radius : D}
    {member : M} (hmember : Within dist set center radius member) :
    ∃ closest, closest ∈ nearest dist set center radius := by
  have hnonempty : (inRange dist set center radius).Nonempty :=
    ⟨member, mem_inRange.mpr hmember⟩
  obtain ⟨p₀, -, -⟩ := hmember
  let key : M → D := fun m =>
    dist center ((set.lookup m).getD p₀)
  obtain ⟨closest, hmem, hmin⟩ :=
    Finset.exists_min_image _ key hnonempty
  refine ⟨closest, mem_nearest.mpr ⟨mem_inRange.mp hmem, ?_⟩⟩
  intro other hother p q hp hq
  have hle := hmin other (mem_inRange.mpr hother)
  simpa [key, hp, hq] using hle

theorem leastNearest_eq_none_iff {set : GeoSet M P} {center : P}
    {radius : D} :
    leastNearest dist set center radius = none ↔
      ∀ member, ¬ Within dist set center radius member := by
  change (nearest dist set center radius).min = ⊤ ↔ _
  rw [Finset.min_eq_top]
  constructor
  · intro hempty member hmember
    obtain ⟨closest, hclosest⟩ := exists_mem_nearest hmember
    rw [hempty] at hclosest
    exact Finset.notMem_empty _ hclosest
  · intro hnone
    apply Finset.eq_empty_of_forall_notMem
    intro member hmember
    exact hnone member (mem_nearest.mp hmember).1

theorem search_eq_none_iff {set : GeoSet M P} {center : P} {radius : D}
    {hint : Option M} :
    search dist set center radius hint = none ↔
      ∀ member, ¬ Within dist set center radius member := by
  unfold search
  cases hint with
  | none => exact leastNearest_eq_none_iff
  | some member =>
      simp only
      split
      · rename_i hmem
        simp only [reduceCtorEq, false_iff, not_forall, not_not]
        exact ⟨member, (mem_nearest.mp hmem).1⟩
      · exact leastNearest_eq_none_iff

theorem mem_nearest_of_search {set : GeoSet M P} {center : P} {radius : D}
    {hint : Option M} {member : M}
    (hsearch : search dist set center radius hint = some member) :
    member ∈ nearest dist set center radius := by
  unfold search at hsearch
  cases hint with
  | none => exact Finset.mem_of_min hsearch
  | some hinted =>
      simp only at hsearch
      split at hsearch
      · rename_i hmem
        cases hsearch
        exact hmem
      · exact Finset.mem_of_min hsearch

/-- Every closest member is a possible answer. -/
theorem search_hint {set : GeoSet M P} {center : P} {radius : D} {member : M}
    (hmem : member ∈ nearest dist set center radius) :
    search dist set center radius (some member) = some member := by
  simp [search, hmem]

variable (dist) in
/-- Nobody in range is closer, and of those as close it is the one a search
with the hint takes. -/
def Foremost (set : GeoSet M P) (center : P) (radius : D) (hint : Option M)
    (member : M) : Prop :=
  member ∈ nearest dist set center radius ∧
    (hint = some member ∨
      (∀ hinted ∈ nearest dist set center radius, hint ≠ some hinted) ∧
        ∀ other ∈ nearest dist set center radius, member ≤ other)

theorem leastNearest_eq_some_iff {set : GeoSet M P} {center : P} {radius : D}
    {member : M} :
    leastNearest dist set center radius = some member ↔
      member ∈ nearest dist set center radius ∧
        ∀ other ∈ nearest dist set center radius, member ≤ other := by
  constructor
  · intro hleast
    exact ⟨Finset.mem_of_min hleast,
      fun other hother => Finset.min_le_of_eq hother hleast⟩
  · rintro ⟨hmem, hle⟩
    obtain ⟨least, hleast⟩ := Finset.min_of_mem hmem
    have hsame : least = member :=
      le_antisymm (Finset.min_le_of_eq hmem hleast)
        (hle least (Finset.mem_of_min hleast))
    rw [← hsame]
    exact hleast

theorem search_eq_some_iff {set : GeoSet M P} {center : P} {radius : D}
    {hint : Option M} {member : M} :
    search dist set center radius hint = some member ↔
      Foremost dist set center radius hint member := by
  unfold search Foremost
  cases hint with
  | none =>
      simp only [leastNearest_eq_some_iff, reduceCtorEq, false_or, ne_eq,
        not_false_eq_true, implies_true, true_and]
  | some hinted =>
      simp only [Option.some.injEq]
      split
      · rename_i hmem
        rw [Option.some.injEq]
        constructor
        · rintro rfl
          exact ⟨hmem, Or.inl rfl⟩
        · rintro ⟨-, heq | ⟨hnone, -⟩⟩
          · exact heq
          · exact absurd rfl (hnone hinted hmem)
      · rename_i hmem
        rw [leastNearest_eq_some_iff]
        constructor
        · rintro ⟨hmember, hle⟩
          refine ⟨hmember, Or.inr ⟨?_, hle⟩⟩
          intro other hother heq
          cases heq
          exact hmem hother
        · rintro ⟨hmember, heq | ⟨-, hle⟩⟩
          · subst heq
            exact absurd hmember hmem
          · exact ⟨hmember, hle⟩

theorem within_of_search {set : GeoSet M P} {center : P} {radius : D}
    {hint : Option M} {member : M}
    (hsearch : search dist set center radius hint = some member) :
    Within dist set center radius member :=
  (mem_nearest.mp (mem_nearest_of_search hsearch)).1

theorem claim_none {set : GeoSet M P} {center : P} {radius : D}
    {hint : Option M}
    (hsearch : search dist set center radius hint = none) :
    claim dist set center radius hint = (none, set) := by
  simp [claim, hsearch]

theorem claim_some {set : GeoSet M P} {center : P} {radius : D}
    {hint : Option M} {member : M}
    (hsearch : search dist set center radius hint = some member) :
    claim dist set center radius hint = (some member, set.erase member) := by
  simp [claim, hsearch]

@[simp] theorem claim_fst (set : GeoSet M P) (center : P) (radius : D)
    (hint : Option M) :
    (claim dist set center radius hint).1 =
      search dist set center radius hint := by
  cases hsearch : search dist set center radius hint with
  | none => rw [claim_none hsearch]
  | some member => rw [claim_some hsearch]

/-! ## Consecutive claims -/

/-- Claims made one after the other at one center and radius: the members
they obtained, in order, and the set they leave. -/
def claims (dist : P → P → D) (center : P) (radius : D) :
    List (Option M) → GeoSet M P → List M × GeoSet M P
  | [], set => ([], set)
  | hint :: hints, set =>
      let first := claim dist set center radius hint
      let rest := claims dist center radius hints first.2
      (first.1.toList ++ rest.1, rest.2)

theorem within_erase_iff {set : GeoSet M P} {center : P} {radius : D}
    {claimed member : M} :
    Within dist (set.erase claimed) center radius member ↔
      member ≠ claimed ∧ Within dist set center radius member := by
  unfold Within
  by_cases heq : member = claimed
  · subst member
    simp
  · simp [heq, Finmap.lookup_erase_ne heq]

theorem inRange_erase (set : GeoSet M P) (center : P) (radius : D)
    (claimed : M) :
    inRange dist (set.erase claimed) center radius =
      (inRange dist set center radius).erase claimed := by
  ext member
  rw [mem_inRange, within_erase_iff, Finset.mem_erase, mem_inRange]

theorem within_of_mem_claims {center : P} {radius : D} {hints : List (Option M)}
    {set : GeoSet M P} {member : M}
    (hmem : member ∈ (claims dist center radius hints set).1) :
    Within dist set center radius member := by
  induction hints generalizing set with
  | nil => simp [claims] at hmem
  | cons hint hints ih =>
      simp only [claims, List.mem_append] at hmem
      cases hsearch : search dist set center radius hint with
      | none =>
          rw [claim_none hsearch] at hmem
          simp only [Option.toList_none, List.not_mem_nil, false_or] at hmem
          exact ih hmem
      | some claimed =>
          rw [claim_some hsearch] at hmem
          simp only [Option.toList_some, List.mem_singleton] at hmem
          rcases hmem with heq | hrest
          · subst member
            exact within_of_search hsearch
          · exact (within_erase_iff.mp (ih hrest)).2

theorem claims_nodup (center : P) (radius : D) (hints : List (Option M))
    (set : GeoSet M P) :
    (claims dist center radius hints set).1.Nodup := by
  induction hints generalizing set with
  | nil => simp [claims]
  | cons hint hints ih =>
      simp only [claims]
      cases hsearch : search dist set center radius hint with
      | none =>
          rw [claim_none hsearch]
          simpa using ih set
      | some claimed =>
          rw [claim_some hsearch]
          simp only [Option.toList_some, List.singleton_append,
            List.nodup_cons]
          refine ⟨?_, ih _⟩
          intro hmem
          exact (within_erase_iff.mp (within_of_mem_claims hmem)).1 rfl

/-- Consecutive claims obtain members in order of distance, measured in the
set the claims started from. -/
theorem claims_pairwise_noFarther (center : P) (radius : D)
    (hints : List (Option M)) (set : GeoSet M P) :
    (claims dist center radius hints set).1.Pairwise
      (NoFarther dist set center) := by
  induction hints generalizing set with
  | nil => simp [claims]
  | cons hint hints ih =>
      simp only [claims]
      cases hsearch : search dist set center radius hint with
      | none =>
          rw [claim_none hsearch]
          simpa using ih set
      | some claimed =>
          rw [claim_some hsearch]
          simp only [Option.toList_some, List.singleton_append,
            List.pairwise_cons]
          have hnearest := mem_nearest.mp (mem_nearest_of_search hsearch)
          constructor
          · intro member hmem
            exact hnearest.2 member
              (within_erase_iff.mp (within_of_mem_claims hmem)).2
          · apply (ih (set.erase claimed)).imp_of_mem
            intro near far hnear hfar hle p q hp hq
            have hnearNe := (within_erase_iff.mp (within_of_mem_claims hnear)).1
            have hfarNe := (within_erase_iff.mp (within_of_mem_claims hfar)).1
            apply hle p q
            · rwa [Finmap.lookup_erase_ne hnearNe]
            · rwa [Finmap.lookup_erase_ne hfarNe]

/-- `n` consecutive claims over `k` members in range obtain `min n k`. -/
theorem claims_length (center : P) (radius : D) (hints : List (Option M))
    (set : GeoSet M P) :
    (claims dist center radius hints set).1.length =
      min hints.length (inRange dist set center radius).card := by
  induction hints generalizing set with
  | nil => simp [claims]
  | cons hint hints ih =>
      simp only [claims, List.length_append, List.length_cons]
      cases hsearch : search dist set center radius hint with
      | none =>
          have hempty : inRange dist set center radius = ∅ := by
            apply Finset.eq_empty_of_forall_notMem
            intro member hmem
            exact search_eq_none_iff.mp hsearch member (mem_inRange.mp hmem)
          rw [claim_none hsearch]
          simp [ih, hempty]
      | some claimed =>
          have hmem : claimed ∈ inRange dist set center radius :=
            mem_inRange.mpr (within_of_search hsearch)
          have hpos : 0 < (inRange dist set center radius).card :=
            Finset.card_pos.mpr ⟨claimed, hmem⟩
          rw [claim_some hsearch]
          simp only [Option.toList_some, List.length_singleton]
          rw [ih, inRange_erase, Finset.card_erase_of_mem hmem]
          omega

end GeoSet

end FakeBolt.Geo
