import Mathlib.Tactic.SplitIfs
import Storefront.Listing.Cache
import Storefront.Proofs.Map.Entries

/-!
# What a cache keeps

A cache may forget a value at any time, but it never makes one up. What it keeps for a key
(`BoundedCache.kept?`) after a look-up, after room has been made or after a write it has kept
before, unless it is the value that was written (`BoundedCache.kept?_get`,
`BoundedCache.kept?_set`). And a value that was written is there as long as it lives
(`BoundedCache.get_set`), however small the cache is.
-/

namespace Storefront.BoundedCache

variable {β : Type}

/-- The value that is kept for a key, whether it is still alive or not. -/
def kept? (key : String) (cache : BoundedCache β) : Option β :=
  (cache.entries.get? key).map CacheEntry.value

@[simp] theorem kept?_ofCapacity (capacity : Nat) (key : String) :
    (ofCapacity capacity : BoundedCache β).kept? key = none := rfl

/-- What is found is kept. -/
theorem kept?_of_get {cache : BoundedCache β} {now : Nat} {key : String} {value : β}
    (h : (cache.get now key).1 = some value) : cache.kept? key = some value := by
  unfold get at h
  rw [kept?]
  cases hentry : cache.entries.get? key with
  | none => simp [hentry] at h
  | some entry =>
    simp only [hentry] at h
    split_ifs at h
    simpa using h

/-- **A look-up** may drop a value, and leaves all others as they are. -/
theorem kept?_get {cache : BoundedCache β} {now : Nat} {key other : String} {value : β}
    (h : (cache.get now key).2.kept? other = some value) : cache.kept? other = some value := by
  unfold get at h
  cases hentry : cache.entries.get? key with
  | none => simpa only [hentry, kept?] using h
  | some entry =>
    simp only [hentry] at h
    split_ifs at h
    · exact h
    · simp only [kept?, SortedMap.get?_erase] at h
      split_ifs at h
      · cases h
      · exact h

/-- Making room drops entries and adds none. -/
theorem get?_makeRoom {capacity : Nat} {entries : SortedMap String (CacheEntry β)}
    {queue : List CacheSlot} {key : String} {entry : CacheEntry β}
    (h : (makeRoom capacity entries queue).1.get? key = some entry) :
    entries.get? key = some entry := by
  -- along the queue: a slot is passed over, or the entry that it stands for is dropped
  induction queue generalizing entries with
  | nil => exact h
  | cons slot rest ih =>
    rw [makeRoom] at h
    split_ifs at h with hroom hlive
    · exact h
    · have herased := ih h
      rw [SortedMap.get?_erase] at herased
      split_ifs at herased
      exact herased
    · exact ih h

/-- **A write** adds the value that is written, and no other. -/
theorem kept?_set {cache : BoundedCache β} {now ttl : Nat} {key other : String} {value found : β}
    (h : (cache.set now ttl key value).kept? other = some found) :
    (other = key ∧ found = value) ∨ cache.kept? other = some found := by
  unfold set at h
  cases hold : cache.entries.get? key with
  | some old =>
    simp only [hold, kept?, SortedMap.get?_insert] at h
    split_ifs at h with hkey
    · exact .inl ⟨hkey, (Option.some.inj h).symm⟩
    · exact .inr h
  | none =>
    simp only [hold, kept?, SortedMap.get?_insert] at h
    split_ifs at h with hkey
    · exact .inl ⟨hkey, (Option.some.inj h).symm⟩
    · -- the entry was there before the oldest made room for the new one
      obtain ⟨entry, hentry, hvalue⟩ := Option.map_eq_some_iff.1 h
      exact .inr (Option.map_eq_some_iff.2 ⟨entry, get?_makeRoom hentry, hvalue⟩)

/-- **Dropping a pattern** leaves the entries of all keys that do not match it. -/
theorem get?_invalidate (cache : BoundedCache β) (pattern key : String) :
    (cache.invalidate pattern).2.entries.get? key =
      if keyMatches pattern key then none else cache.entries.get? key := by
  change (cache.entries.filter fun key _ => !keyMatches pattern key).get? key = _
  rw [SortedMap.get?_filter]
  cases keyMatches pattern key <;> cases cache.entries.get? key <;> rfl

theorem kept?_invalidate (cache : BoundedCache β) (pattern key : String) :
    (cache.invalidate pattern).2.kept? key =
      if keyMatches pattern key then none else cache.kept? key := by
  rw [kept?, get?_invalidate, kept?]
  split_ifs <;> rfl

/-- **A value that was written is found** as long as it lives. -/
theorem get_set (cache : BoundedCache β) {now later ttl : Nat} (key : String) (value : β)
    (h : later < now + ttl) :
    ((cache.set now ttl key value).get later key).1 = some value := by
  obtain ⟨number, hentry⟩ : ∃ number, (cache.set now ttl key value).entries.get? key =
      some ⟨value, now + ttl, number⟩ := by
    unfold set
    cases hold : cache.entries.get? key with
    | some old => exact ⟨old.number, by simp only [SortedMap.get?_insert, if_true]⟩
    | none => exact ⟨cache.next, by simp only [SortedMap.get?_insert, if_true]⟩
  simp only [get, hentry, h, if_true]

end Storefront.BoundedCache
