import Mathlib.Tactic.SplitIfs
import Storefront.Listing.Cache

/-!
# A cache seen through a function

A cache stores its values and hands them out again, and never looks into them. So whoever sees every
value through a function (`BoundedCache.map`) sees a cache, and what is done with the one is done
with the other: a look-up (`BoundedCache.get_map`) and a write (`BoundedCache.set_map`) keep the
same keys, count the same, and let the same keys make room.
-/

namespace Storefront

/-! ### Maps -/

namespace SortedMap

variable {κ ν μ : Type} [Ord κ]

/-- The map with each value seen through a function. -/
def map (f : ν → μ) (m : SortedMap κ ν) : SortedMap κ μ :=
  ⟨m.entries.map fun e => (e.1, f e.2), List.pairwise_map.2 m.ascending⟩

theorem size_map (f : ν → μ) (m : SortedMap κ ν) : (m.map f).size = m.size :=
  List.length_map _

theorem get?_map (f : ν → μ) (m : SortedMap κ ν) (k : κ) :
    (m.map f).get? k = (m.get? k).map f := by
  rw [get?, get?, map, List.find?_map, Option.map_map, Option.map_map]
  rfl

theorem erase_map (f : ν → μ) (m : SortedMap κ ν) (k : κ) :
    (m.map f).erase k = (m.erase k).map f := by
  ext1
  change (m.entries.map _).filter _ = (m.entries.filter _).map _
  rw [List.filter_map]
  rfl

theorem insert_map [Std.TransOrd κ] [Std.LawfulEqOrd κ] (f : ν → μ) (m : SortedMap κ ν) (k : κ)
    (v : ν) : (m.map f).insert k (f v) = (m.insert k v).map f := by
  have hentries (es : List (κ × ν)) :
      insertEntry k (f v) (es.map fun e => (e.1, f e.2)) =
        (insertEntry k v es).map fun e => (e.1, f e.2) := by
    induction es with
    | nil => rfl
    | cons e rest ih =>
      simp only [List.map_cons, insertEntry]
      cases compare k e.1 with
      | lt => rfl
      | eq => rfl
      | gt => exact congrArg (_ :: ·) ih
  exact ext (hentries m.entries)

end SortedMap

/-! ### Caches -/

variable {β γ : Type}

/-- The entry with its value seen through a function. -/
def CacheEntry.map (f : β → γ) (entry : CacheEntry β) : CacheEntry γ :=
  ⟨f entry.value, entry.expires, entry.number⟩

namespace BoundedCache

/-- **The cache with each value seen through a function.** -/
def map (f : β → γ) (cache : BoundedCache β) : BoundedCache γ :=
  { cache with entries := cache.entries.map (CacheEntry.map f) }

theorem isLive_map (f : β → γ) (entries : SortedMap String (CacheEntry β)) :
    isLive (entries.map (CacheEntry.map f)) = isLive entries := by
  funext slot
  rw [isLive, isLive, SortedMap.get?_map]
  cases entries.get? slot.key <;> rfl

/-- The same keys make room. -/
theorem makeRoom_map (f : β → γ) (capacity : Nat) (entries : SortedMap String (CacheEntry β))
    (queue : List CacheSlot) :
    makeRoom capacity (entries.map (CacheEntry.map f)) queue =
      ((makeRoom capacity entries queue).1.map (CacheEntry.map f),
        (makeRoom capacity entries queue).2) := by
  induction queue generalizing entries with
  | nil => rfl
  | cons slot rest ih =>
    rw [makeRoom, makeRoom, SortedMap.size_map, isLive_map, SortedMap.erase_map]
    split_ifs
    · rfl
    · exact ih _
    · exact ih _

theorem tidy_map (f : β → γ) (capacity : Nat) (entries : SortedMap String (CacheEntry β))
    (queue : List CacheSlot) :
    tidy capacity (entries.map (CacheEntry.map f)) queue = tidy capacity entries queue := by
  rw [tidy, tidy, liveSlots, liveSlots, isLive_map]

/-- **A look-up finds what the look-up in the other cache finds**, and leaves what it leaves. -/
theorem get_map (f : β → γ) (cache : BoundedCache β) (now : Nat) (key : String) :
    (cache.map f).get now key = ((cache.get now key).1.map f, (cache.get now key).2.map f) := by
  have hentry : (cache.map f).entries.get? key = (cache.entries.get? key).map (CacheEntry.map f) :=
    SortedMap.get?_map _ _ _
  rw [get, get, hentry]
  rcases cache.entries.get? key with _ | entry
  · rfl
  · by_cases hlive : now < entry.expires
    · simp only [Option.map_some, CacheEntry.map, hlive, if_true]
      rfl
    · simp only [Option.map_some, CacheEntry.map, hlive, if_false]
      simp only [map, SortedMap.erase_map, Option.map_none]

/-- **A write of what is seen** leaves what is seen of the write. -/
theorem set_map (f : β → γ) (cache : BoundedCache β) (now ttl : Nat) (key : String) (value : β) :
    (cache.map f).set now ttl key (f value) = (cache.set now ttl key value).map f := by
  have hentry : (cache.map f).entries.get? key = (cache.entries.get? key).map (CacheEntry.map f) :=
    SortedMap.get?_map _ _ _
  have hinsert (entries : SortedMap String (CacheEntry β)) (expires number : Nat) :
      (entries.map (CacheEntry.map f)).insert key ⟨f value, expires, number⟩ =
        (entries.insert key ⟨value, expires, number⟩).map (CacheEntry.map f) :=
    SortedMap.insert_map (CacheEntry.map f) entries key ⟨value, expires, number⟩
  rw [set, set, hentry]
  rcases cache.entries.get? key with _ | old
  · simp only [map, Option.map_none, makeRoom_map, hinsert, tidy_map]
  · simp only [map, Option.map_some, CacheEntry.map, hinsert, tidy_map]

theorem size_map (f : β → γ) (cache : BoundedCache β) : (cache.map f).size = cache.size :=
  SortedMap.size_map _ _

end BoundedCache

end Storefront
