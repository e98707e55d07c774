import FakeBolt.GeoSet
import FakeBolt.JsRuntime
import Mathlib.Data.String.Basic

/-!
# The Redis pool `drivers:available`

driver-service adds and removes members, matching-service claims them.  Redis
commands take the longitude first; the great-circle distance Redis measures
is a parameter.
-/

namespace FakeBolt

open Geo

@[ext] structure Position where
  longitude : Num
  latitude : Num
  deriving DecidableEq, Repr

/-- The distance in km that Redis computes between two positions. -/
abbrev GeoDist := Position → Position → Num

abbrev AvailablePool := GeoSet String Position

namespace AvailablePool

/-- `GEOADD drivers:available longitude latitude member`. -/
def geoadd (pool : AvailablePool) (longitude latitude : Num)
    (member : String) : AvailablePool :=
  pool.insert member ⟨longitude, latitude⟩

def zrem (pool : AvailablePool) (member : String) : AvailablePool :=
  pool.erase member

/-- The script `CLAIM_NEAREST_DRIVER`: `GEOSEARCH FROMLONLAT longitude
latitude BYRADIUS radiusKm km ASC COUNT 1`, then `ZREM` of the id found. -/
def claimNearestDriver (dist : GeoDist) (pool : AvailablePool)
    (longitude latitude radiusKm : Num) (hint : Option String) :
    Option String × AvailablePool :=
  GeoSet.claim dist pool ⟨longitude, latitude⟩ radiusKm hint

variable {pool : AvailablePool} {longitude latitude : Num}
  {member other : String}

theorem mem_iff_lookup : member ∈ pool ↔ pool.lookup member ≠ none := by
  rw [ne_eq, Finmap.lookup_eq_none, not_not]

@[simp] theorem lookup_geoadd_self :
    (pool.geoadd longitude latitude member).lookup member =
      some ⟨longitude, latitude⟩ :=
  Finmap.lookup_insert _

theorem lookup_geoadd_of_ne (hne : other ≠ member) :
    (pool.geoadd longitude latitude member).lookup other =
      pool.lookup other :=
  Finmap.lookup_insert_of_ne _ hne

@[simp] theorem lookup_zrem_self : (pool.zrem member).lookup member = none :=
  Finmap.lookup_erase member pool

theorem lookup_zrem_of_ne (hne : other ≠ member) :
    (pool.zrem member).lookup other = pool.lookup other :=
  Finmap.lookup_erase_ne hne

end AvailablePool

end FakeBolt
