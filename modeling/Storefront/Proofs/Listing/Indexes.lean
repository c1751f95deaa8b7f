import Mathlib.Data.Set.Insert
import Mathlib.Tactic.IntervalCases
import Storefront.Proofs.Listing.Kept
import Storefront.Proofs.Planner.Names
import Storefront.Proofs.Search.Steps

/-!
# Indexes that share a cache

Shops of several indexes may keep their listings in one cache, each under the name of its index, and
a write to the catalog of an index drops what begins with the stem of its keys. The name is any text,
and it is not marked where it ends in any other way than by a colon:

```text
catalog_search:shop:5f0c…         a key of shop
catalog_search:shop:eu:91d4…      a key of shop:eu
catalog_search:shop:              what a write to shop drops
```

A digest has no colon, so a key begins with the stem of another index only if that index is nested in
its own name (`keyMatches_key`). Where no name is nested in another a write drops the listings of its
index and no others, and nowhere else: `invalidatesExactly_iff`.
-/

namespace Storefront

open Digest

/-! ### Digests -/

namespace Digest

theorem digitChar_ne_colon {n : Nat} (h : n < 16) : Nat.digitChar n ≠ ':' := by
  interval_cases n <;> decide

theorem colon_notMem_toDigits (n : Nat) : ':' ∉ Nat.toDigits 16 n := by
  -- digit by digit from the end, as the numeral is made
  induction n using Nat.strongRecOn with
  | ind n ih =>
    rw [Nat.toDigits_eq_if (by decide)]
    split
    · rename_i hlt
      exact fun h => digitChar_ne_colon hlt (List.mem_singleton.1 h).symm
    · rename_i hge
      rw [List.mem_append, List.mem_singleton, not_or]
      exact ⟨ih (n / 16) (by omega), (digitChar_ne_colon (Nat.mod_lt n (by decide))).symm⟩

/-- A digest is written without a colon. -/
theorem colon_notMem_sha256 (s : String) : ':' ∉ (sha256 s).toList := by
  rw [sha256, String.toList_ofList, List.mem_flatMap]
  rintro ⟨word, -, hcolon⟩
  rcases List.mem_append.1 hcolon with hzero | hdigit
  · exact absurd (List.eq_of_mem_replicate hzero) (by decide)
  · exact colon_notMem_toDigits _ hdigit

end Digest

/-! ### Names in front of keys -/

/-- A name with a mark after it begins a marked name and what follows it just if the names are the
same, or the one with its mark begins the other. -/
theorem begins_marked_iff {α : Type} {mark : α} {name other rest : List α}
    (h : mark ∉ rest) :
    name ++ [mark] <+: other ++ mark :: rest ↔ name = other ∨ name ++ [mark] <+: other := by
  induction name generalizing other with
  | nil => cases other <;> simp [List.cons_prefix_cons]
  | cons a name ih =>
    cases other with
    | nil =>
      -- the mark would have to be in the rest
      simp only [List.nil_append, List.cons_append, List.cons_prefix_cons, List.prefix_nil,
        reduceCtorEq, or_self, iff_false, not_and]
      intro _ hbegins
      exact h (List.IsPrefix.subset hbegins (by simp))
    | cons b other =>
      simp only [List.cons_append, List.cons_prefix_cons, List.cons.injEq, ih]
      tauto

/-- An index is nested in the name of another if the other goes on after it with a colon. -/
def IsNested (index other : String) : Prop :=
  (index ++ ":").toList <+: other.toList

instance (index other : String) : Decidable (IsNested index other) :=
  inferInstanceAs (Decidable ((index ++ ":").toList <+: other.toList))

/-- A key that is made for an index, of whatever page. -/
def IsKeyOf (index key : String) : Prop :=
  ∃ (plan : Plan) (inStockFirst : Bool), key = plan.key index inStockFirst

theorem BoundedCache.keyMatches_pattern (event : WriteEvent) (index key : String) :
    keyMatches (event.pattern index) key = true ↔ (keyStem index).toList <+: key.toList := by
  have hstem : patternStem? (event.pattern index) = some (keyStem index).toList := by
    simp [patternStem?, WriteEvent.pattern]
  rw [keyMatches, hstem]
  exact List.isPrefixOf_iff_prefix

/-- **A write drops the keys of its index**, and those of all indexes that it is nested in. -/
theorem keyMatches_key {event : WriteEvent} {index other key : String} (h : IsKeyOf other key) :
    BoundedCache.keyMatches (event.pattern index) key = true ↔
      index = other ∨ IsNested index other := by
  obtain ⟨plan, inStockFirst, rfl⟩ := h
  have hcolon := colon_notMem_sha256 (keyText plan.select.render plan.count.render inStockFirst)
  rw [BoundedCache.keyMatches_pattern, Plan.key, IsNested, ← String.toList_inj]
  simpa [keyStem, List.prefix_append_right_inj] using begins_marked_iff hcolon

/-! ### Writes to a shared cache -/

/-- Every listing of the cache is kept for one of the indexes. -/
def BoundedCache.KeptFor (names : Set String) (cache : BoundedCache Listing) : Prop :=
  ∀ key entry, cache.entries.get? key = some entry → ∃ index ∈ names, IsKeyOf index key

/-- Of two states of a cache, and an answer: the second lacks the keys of the index, has every entry
of the first that is of another index, and lacks as many entries as the answer says. -/
structure DropsExactly (names : Set String) (index : String) (before after : BoundedCache Listing)
    (answer : Nat) : Prop where
  dropped : ∀ key, IsKeyOf index key → after.entries.get? key = none
  kept : ∀ other ∈ names, other ≠ index → ∀ key, IsKeyOf other key →
    after.entries.get? key = before.entries.get? key
  count : answer = (before.entries.filter fun key _ => (after.entries.get? key).isNone).size

/-- **Writes are exact** for a set of indexes: whatever listings are kept for them, a write to the
catalog of one drops those of this index and no others, and tells how many they are. -/
def InvalidatesExactly (names : Set String) : Prop :=
  ∀ {σ : Type} (session : Session σ) (cache : BoundedCache Listing),
    session.cache = some cache → cache.KeptFor names →
    ∀ index ∈ names, ∀ event : WriteEvent, ∃ after,
      (Session.invalidate index event session).2.cache = some after ∧
        DropsExactly names index cache after (Session.invalidate index event session).1

variable {names : Set String}

/-- Dropping a pattern counts the entries that are dropped. -/
theorem BoundedCache.fst_invalidate {β : Type} (cache : BoundedCache β) (pattern : String) :
    (cache.invalidate pattern).1 = (cache.entries.filter fun key _ =>
      ((cache.invalidate pattern).2.entries.get? key).isNone).size := by
  have hgone : (cache.entries.filter fun key _ =>
        ((cache.invalidate pattern).2.entries.get? key).isNone) =
      cache.entries.filter fun key _ => keyMatches pattern key := by
    refine SortedMap.ext (List.filter_congr fun (key, entry) hentry => ?_)
    change ((cache.invalidate pattern).2.entries.get? key).isNone = keyMatches pattern key
    rw [get?_invalidate, SortedMap.mem_entries_iff.1 hentry]
    cases keyMatches pattern key <;> rfl
  have hall := cache.entries.entries.length_eq_length_filter_add fun e => keyMatches pattern e.1
  rw [hgone]
  simp only [invalidate, SortedMap.size, SortedMap.filter]
  omega

/-- **A write on the keys of one index**: they are dropped if it is the index that is written to, or
one that this is nested in, and left alone otherwise. -/
theorem get?_invalidate_key (cache : BoundedCache Listing) (event : WriteEvent) {index other : String}
    {key : String} (h : IsKeyOf other key) :
    (cache.invalidate (event.pattern index)).2.entries.get? key =
      if index = other ∨ IsNested index other then none else cache.entries.get? key := by
  rw [BoundedCache.get?_invalidate]
  exact if_congr (keyMatches_key h) rfl rfl

theorem Session.invalidate_of_some {σ : Type} {session : Session σ} {cache : BoundedCache Listing}
    (h : session.cache = some cache) (index : String) (event : WriteEvent) :
    (invalidate index event session).1 = (cache.invalidate (event.pattern index)).1 ∧
      (invalidate index event session).2.cache =
        some (cache.invalidate (event.pattern index)).2 := by
  rw [invalidate_eq, h]
  exact ⟨rfl, rfl⟩

/-- The key of the first page of all products in an index. -/
def productsKey (index : String) : String :=
  (Planner.products.plan .products).key index false

theorem isKeyOf_productsKey (index : String) : IsKeyOf index (productsKey index) :=
  ⟨_, _, rfl⟩

/-- A cache that keeps that page and nothing else. -/
def cacheOfProducts (index : String) : BoundedCache Listing :=
  (BoundedCache.ofCapacity 1).set 0 1 (productsKey index) (.none 1 1 .engine)

theorem keptFor_cacheOfProducts {index : String} (h : index ∈ names) :
    (cacheOfProducts index).KeptFor names := by
  intro key entry hentry
  have hkept : (cacheOfProducts index).kept? key = some entry.value :=
    Option.map_eq_some_iff.2 ⟨entry, hentry, rfl⟩
  rcases BoundedCache.kept?_set hkept with ⟨rfl, -⟩ | hbefore
  · exact ⟨index, h, isKeyOf_productsKey index⟩
  · cases hbefore

theorem get?_cacheOfProducts (index : String) :
    (cacheOfProducts index).entries.get? (productsKey index) ≠ none := by
  intro hnone
  have hfound := BoundedCache.get_set (.ofCapacity 1) (productsKey index)
    (Listing.none 1 1 .engine) (show 0 < 0 + 1 by decide)
  have hkept : (cacheOfProducts index).kept? (productsKey index) = some _ :=
    BoundedCache.kept?_of_get hfound
  rw [BoundedCache.kept?, hnone] at hkept
  cases hkept

/-- Where writes are exact, no name is nested in another. -/
theorem InvalidatesExactly.not_isNested (h : InvalidatesExactly names) {index other : String}
    (hindex : index ∈ names) (hother : other ∈ names) (hne : other ≠ index) :
    ¬ IsNested index other := by
  intro hnested
  -- a listing of the one index, and a write to the other
  have hcache : ({ Session.start .standard 0 () with
      cache := some (cacheOfProducts other) } : Session Unit).cache =
        some (cacheOfProducts other) := rfl
  obtain ⟨after, hafter, hexact⟩ :=
    h _ _ hcache (keptFor_cacheOfProducts hother) index hindex .settingsChanged
  rw [(Session.invalidate_of_some hcache index .settingsChanged).2] at hafter
  obtain rfl := Option.some.inj hafter
  have hkept := hexact.kept other hother hne _ (isKeyOf_productsKey other)
  rw [get?_invalidate_key _ _ (isKeyOf_productsKey other), if_pos (.inr hnested)] at hkept
  exact get?_cacheOfProducts other hkept.symm

/-- **Writes are exact for a set of indexes just if no name of the set is nested in another.** -/
theorem invalidatesExactly_iff :
    InvalidatesExactly names ↔
      ∀ index ∈ names, ∀ other ∈ names, other ≠ index → ¬ IsNested index other := by
  constructor
  · exact fun h index hindex other hother hne => h.not_isNested hindex hother hne
  · intro h σ session cache hcache _ index hindex event
    obtain ⟨hanswer, hafter⟩ := Session.invalidate_of_some hcache index event
    refine ⟨_, hafter, ?_, ?_, ?_⟩
    · intro key hkey
      rw [get?_invalidate_key cache event hkey, if_pos (.inl rfl)]
    · intro other hother hne key hkey
      rw [get?_invalidate_key cache event hkey, if_neg]
      exact not_or.2 ⟨hne.symm, h index hindex other hother hne⟩
    · rw [hanswer]
      exact cache.fst_invalidate _

/-- A shop and its branch abroad: the listings of the branch are dropped with those of the shop. -/
theorem not_forall_invalidatesExactly : ¬ ∀ names : Set String, InvalidatesExactly names :=
  fun h => InvalidatesExactly.not_isNested (h {"shop", "shop:eu"}) (Set.mem_insert _ _)
    (Set.mem_insert_of_mem _ rfl) (by decide) (by decide)

end Storefront
