import Mathlib.Tactic.SplitIfs
import Storefront.Listing.Cache
import Storefront.Proofs.Map.Entries

/-!
# A cache as a list in the order of insertion

A bounded cache is two structures that have to agree: a map from keys to entries, and a queue of
slots that says which entry came first. Five operations touch them, each in its own way. Whoever
uses the cache sees neither, and need not know more than this: a cache is a list of keys with their
values, the oldest in front (`InsertionQueue`).

| call | what becomes of the list |
|---|---|
| look up a key | nothing, unless its value has expired; then it is taken out |
| write a key that is there | its value is replaced at its place |
| write a new key | keys leave the front until there is room, and it goes to the end |
| drop a pattern | the keys that fit are taken out |
| clear | all are taken out |

`BoundedCache.replay_eq` says that no sequence of calls tells the one from the other. What carries
the proof is that map and queue stay *in step* (`BoundedCache.InStep`): the queue has one slot for
each entry and none beside, in ascending order of their numbers. So no slot is ever stale, and the
first slot is always that of the oldest entry.
-/

namespace Storefront

/-! ### The list -/

/-- A key with its value, and whether the value has expired. -/
structure QueueItem (β : Type) where
  key : String
  value : β
  expired : Bool
deriving DecidableEq

/-- **A cache as a list**: keys in the order in which they came, with the counts of look-ups. -/
structure InsertionQueue (β : Type) where
  capacity : Nat
  items : List (QueueItem β)
  hits : Nat
  misses : Nat
  expired : Nat
deriving DecidableEq

namespace InsertionQueue

variable {β : Type}

/-- The empty list; a capacity of zero counts as one. -/
def ofCapacity (capacity : Nat) : InsertionQueue β :=
  ⟨max capacity 1, [], 0, 0, 0⟩

/-- The value of a key, unless it has expired; then the key is taken out. -/
def get (key : String) (queue : InsertionQueue β) : Option β × InsertionQueue β :=
  match queue.items.find? (·.key = key) with
  | none => (none, { queue with misses := queue.misses + 1 })
  | some item =>
    if item.expired then
      (none, { queue with
        items := queue.items.filter (·.key ≠ key)
        misses := queue.misses + 1
        expired := queue.expired + 1 })
    else (some item.value, { queue with hits := queue.hits + 1 })

/-- The list with a value at a key: at the key's place if it has one, and at the end otherwise, once
the oldest keys have left so that there are fewer than the capacity. -/
def set (item : QueueItem β) (queue : InsertionQueue β) : InsertionQueue β :=
  if (queue.items.find? (·.key = item.key)).isSome then
    { queue with items := queue.items.map fun old => if old.key = item.key then item else old }
  else
    { queue with
      items := queue.items.drop (queue.items.length + 1 - queue.capacity) ++ [item] }

/-- Whether a key fits a pattern: a star at the end stands for whatever follows, and without one the
pattern is the key. -/
def fits (pattern key : String) : Bool :=
  if pattern.toList.getLast? = some '*' then pattern.toList.dropLast.isPrefixOf key.toList
  else key = pattern

/-- The list without the keys that fit a pattern, and their number. -/
def invalidate (pattern : String) (queue : InsertionQueue β) : Nat × InsertionQueue β :=
  (queue.items.countP fun item => fits pattern item.key,
    { queue with items := queue.items.filter fun item => !fits pattern item.key })

/-- The list without its keys. -/
def clear (queue : InsertionQueue β) : InsertionQueue β :=
  { queue with items := [] }

end InsertionQueue

/-! ### Calls -/

/-- What can be asked of a cache. -/
inductive CacheCall (β : Type) where
  | get (key : String)
  | set (key : String) (value : β) (ttl : Nat)
  | invalidate (pattern : String)
  | clear

/-- A call with the instant at which it is made. -/
structure TimedCall (β : Type) where
  instant : Nat
  call : CacheCall β

/-- **A call is settled at a later instant**: time does not run backwards, and what is written has
either expired from the start or is still alive then. -/
def TimedCall.Settled {β : Type} (timed : TimedCall β) (later : Nat) : Prop :=
  timed.instant ≤ later ∧
    match timed.call with
    | .set _ _ ttl => ttl = 0 ∨ later < timed.instant + ttl
    | _ => True

instance {β : Type} (timed : TimedCall β) (later : Nat) : Decidable (timed.Settled later) :=
  match timed with
  | ⟨_, .set _ _ _⟩ => inferInstanceAs (Decidable (_ ∧ (_ ∨ _)))
  | ⟨_, .get _⟩ | ⟨_, .invalidate _⟩ | ⟨_, .clear⟩ => inferInstanceAs (Decidable (_ ∧ True))

/-- What is seen of a call: the value that was found or the number of keys that were dropped, the
counts of look-ups behind it, and the number of entries. -/
structure CacheView (β : Type) where
  found : Option β
  dropped : Nat
  hits : Nat
  misses : Nat
  expired : Nat
  size : Nat
deriving DecidableEq

namespace BoundedCache

variable {β : Type}

/-- What is seen of a cache behind a call. -/
def view (found : Option β) (dropped : Nat) (cache : BoundedCache β) : CacheView β :=
  ⟨found, dropped, cache.hits, cache.misses, cache.expired, cache.size⟩

/-- One call at its instant. -/
def serve (timed : TimedCall β) (cache : BoundedCache β) : CacheView β × BoundedCache β :=
  match timed.call with
  | .get key => ((cache.get timed.instant key).2.view (cache.get timed.instant key).1 0,
      (cache.get timed.instant key).2)
  | .set key value ttl => ((cache.set timed.instant ttl key value).view none 0,
      cache.set timed.instant ttl key value)
  | .invalidate pattern => ((cache.invalidate pattern).2.view none (cache.invalidate pattern).1,
      (cache.invalidate pattern).2)
  | .clear => (cache.clear.view none 0, cache.clear)

/-- Calls one after another, and what is seen of them. -/
def replay : List (TimedCall β) → BoundedCache β → List (CacheView β) × BoundedCache β
  | [], cache => ([], cache)
  | first :: rest, cache =>
    ((cache.serve first).1 :: ((cache.serve first).2.replay rest).1,
      ((cache.serve first).2.replay rest).2)

end BoundedCache

namespace InsertionQueue

variable {β : Type}

/-- What is seen of a list behind a call. -/
def view (found : Option β) (dropped : Nat) (queue : InsertionQueue β) : CacheView β :=
  ⟨found, dropped, queue.hits, queue.misses, queue.expired, queue.items.length⟩

/-- One call. What is written to live for no time has expired, and nothing else ever does. -/
def serve (call : CacheCall β) (queue : InsertionQueue β) : CacheView β × InsertionQueue β :=
  match call with
  | .get key => ((queue.get key).2.view (queue.get key).1 0, (queue.get key).2)
  | .set key value ttl => ((queue.set ⟨key, value, ttl = 0⟩).view none 0,
      queue.set ⟨key, value, ttl = 0⟩)
  | .invalidate pattern => ((queue.invalidate pattern).2.view none (queue.invalidate pattern).1,
      (queue.invalidate pattern).2)
  | .clear => (queue.clear.view none 0, queue.clear)

/-- Calls one after another, and what is seen of them. -/
def replay : List (CacheCall β) → InsertionQueue β → List (CacheView β)
  | [], _ => []
  | first :: rest, queue => (queue.serve first).1 :: (queue.serve first).2.replay rest

end InsertionQueue

/-! ### Map and queue in step -/

namespace BoundedCache

variable {β : Type}

/-- The slot of an entry under its key. -/
def slotOf (pair : String × CacheEntry β) : CacheSlot :=
  ⟨pair.1, pair.2.number⟩

/-- **The entries of a cache in the order of its queue**: one slot for each of them and none beside,
in ascending order of their numbers, and no more of them than the capacity. -/
structure InStep (cache : BoundedCache β) (pairs : List (String × CacheEntry β)) : Prop where
  perm : pairs.Perm cache.entries.entries
  queue : cache.queue = pairs.map slotOf
  ascending : pairs.Pairwise fun a b => a.2.number < b.2.number
  below : ∀ pair ∈ pairs, pair.2.number < cache.next
  length_le : pairs.length ≤ cache.capacity
  pos : 1 ≤ cache.capacity

section Perm

variable {entries : SortedMap String (CacheEntry β)} {pairs : List (String × CacheEntry β)}
  (hperm : pairs.Perm entries.entries)

include hperm

theorem mem_iff_get?_of_perm {key : String} {entry : CacheEntry β} :
    (key, entry) ∈ pairs ↔ entries.get? key = some entry := by
  rw [hperm.mem_iff, SortedMap.mem_entries_iff]

theorem nodup_keys_of_perm : (pairs.map Prod.fst).Nodup :=
  (hperm.map Prod.fst).nodup_iff.2 entries.nodup_keys

theorem nodup_of_perm : pairs.Nodup :=
  (nodup_keys_of_perm hperm).of_map

theorem size_eq_of_perm : entries.size = pairs.length :=
  hperm.length_eq.symm

/-- Looking up a key is finding its pair. -/
theorem find?_of_perm (key : String) :
    pairs.find? (fun pair => pair.1 = key) = (entries.get? key).map (Prod.mk key) := by
  cases hentry : entries.get? key with
  | none =>
    refine List.find?_eq_none.2 fun pair hpair => ?_
    have hnot : pair.1 ≠ key := by
      rintro rfl
      rw [(mem_iff_get?_of_perm hperm).1 hpair] at hentry
      exact absurd hentry (by simp)
    simpa using hnot
  | some entry =>
    have hmem := (mem_iff_get?_of_perm hperm).2 hentry
    cases hfind : pairs.find? (fun pair => pair.1 = key) with
    | none => exact absurd (List.find?_eq_none.1 hfind _ hmem) (by simp)
    | some pair =>
      have hkey : pair.1 = key := by simpa using List.find?_some hfind
      obtain rfl : pair = (key, entry) := by
        have hother := (mem_iff_get?_of_perm hperm).1 (List.mem_of_find?_eq_some hfind)
        rw [hkey, hentry] at hother
        rw [← hkey, Option.some.inj hother]
      rfl

/-- Taking a key out. -/
theorem erase_perm (key : String) :
    (pairs.filter fun pair => pair.1 ≠ key).Perm (entries.erase key).entries := by
  rw [SortedMap.entries_erase]
  exact hperm.filter _

end Perm

/-- What a slot stands for: exactly the entry of its pair. -/
theorem isLive_slotOf {entries : SortedMap String (CacheEntry β)} {key : String}
    {entry : CacheEntry β} (h : entries.get? key = some entry) :
    isLive entries (slotOf (key, entry)) = true := by
  simp [isLive, slotOf, h]

/-- **Making room** drops pairs from the front until there are fewer than the capacity. -/
theorem makeRoom_eq (capacity : Nat) {entries : SortedMap String (CacheEntry β)}
    {pairs : List (String × CacheEntry β)} (hperm : pairs.Perm entries.entries) :
    ∃ kept, makeRoom capacity entries (pairs.map slotOf) =
        (kept, (pairs.drop (pairs.length + 1 - capacity)).map slotOf) ∧
      (pairs.drop (pairs.length + 1 - capacity)).Perm kept.entries := by
  induction pairs generalizing entries with
  | nil => exact ⟨entries, by simp [makeRoom], by simpa using hperm⟩
  | cons pair rest ih =>
    have hsize : entries.size = rest.length + 1 := size_eq_of_perm hperm
    rw [List.map_cons, makeRoom, List.length_cons]
    split_ifs with hroom hlive
    · have hnone : rest.length + 1 + 1 - capacity = 0 := by omega
      rw [hnone]
      exact ⟨entries, rfl, hperm⟩
    · -- the oldest slot is that of an entry, which leaves with it
      have hrest : rest.Perm (entries.erase pair.1).entries := by
        have hnodup := nodup_keys_of_perm hperm
        have hkeep : (pair :: rest).filter (fun other => other.1 ≠ pair.1) = rest := by
          rw [List.filter_cons_of_neg (by simp)]
          refine List.filter_eq_self.2 fun other hother => ?_
          have hne : other.1 ≠ pair.1 := fun he =>
            (List.nodup_cons.1 hnodup).1 (he ▸ List.mem_map_of_mem hother)
          simpa using hne
        rw [← hkeep]
        exact erase_perm hperm pair.1
      have hdrop : rest.length + 1 + 1 - capacity = (rest.length + 1 - capacity) + 1 := by omega
      rw [hdrop, List.drop_succ_cons]
      exact ih hrest
    · have hentry := (mem_iff_get?_of_perm hperm).1 List.mem_cons_self
      exact absurd (isLive_slotOf hentry) hlive

namespace InStep

variable {cache : BoundedCache β} {pairs : List (String × CacheEntry β)}

theorem of_capacity (capacity : Nat) : (ofCapacity capacity : BoundedCache β).InStep [] where
  perm := .nil
  queue := rfl
  ascending := .nil
  below := by simp
  length_le := Nat.zero_le _
  pos := Nat.le_max_right capacity 1

/-- A queue in step is never long enough to be tidied. -/
theorem tidy_eq {capacity : Nat} (entries : SortedMap String (CacheEntry β))
    (hle : pairs.length ≤ capacity) :
    tidy capacity entries (pairs.map slotOf) = pairs.map slotOf := by
  rw [tidy, List.length_map, if_neg (by omega)]

/-- Pairs that are taken out with their entries and their slots leave the rest in step. -/
theorem filter (h : cache.InStep pairs) (keeps : String × CacheEntry β → Bool)
    {entries : SortedMap String (CacheEntry β)} {queue : List CacheSlot} {hits misses expired : Nat}
    (hentries : (pairs.filter keeps).Perm entries.entries)
    (hqueue : queue = (pairs.filter keeps).map slotOf) :
    InStep ⟨cache.capacity, entries, queue, cache.next, hits, misses, expired⟩
      (pairs.filter keeps) where
  perm := hentries
  queue := hqueue
  ascending := h.ascending.filter _
  below pair hpair := h.below pair (List.mem_of_mem_filter hpair)
  length_le := Nat.le_trans (List.length_filter_le _ _) h.length_le
  pos := h.pos

/-- Counting a look-up changes neither the entries nor the queue. -/
theorem recount (h : cache.InStep pairs) (hits misses expired : Nat) :
    InStep { cache with hits := hits, misses := misses, expired := expired } pairs :=
  ⟨h.perm, h.queue, h.ascending, h.below, h.length_le, h.pos⟩

/-- **A look-up** that finds nothing alive takes the key out, any other leaves the pairs alone. -/
theorem get (h : cache.InStep pairs) (now : Nat) (key : String) :
    (cache.get now key).2.InStep
      (match pairs.find? (fun pair => pair.1 = key) with
        | some (_, entry) =>
          if now < entry.expires then pairs else pairs.filter fun pair => pair.1 ≠ key
        | none => pairs) := by
  rw [find?_of_perm h.perm, BoundedCache.get]
  cases hentry : cache.entries.get? key with
  | none => exact h.recount _ _ _
  | some entry =>
    simp only [Option.map_some]
    split_ifs
    · exact h.recount _ _ _
    · refine h.filter _ (erase_perm h.perm key) ?_
      -- a key has one entry, so the slots of the key are those of its number
      rw [h.queue, List.filter_map]
      refine congrArg (List.map slotOf) (List.filter_congr fun pair hpair => ?_)
      obtain ⟨other, found⟩ := pair
      by_cases hkey : other = key
      · subst hkey
        have hfound := (mem_iff_get?_of_perm h.perm).1 hpair
        obtain rfl : entry = found := Option.some.inj (hentry.symm.trans hfound)
        simp [slotOf]
      · simp [slotOf, hkey]

/-- **A write of a key that is there** keeps the key's place and its number. -/
theorem set_of_some (h : cache.InStep pairs) {now ttl : Nat} {key : String} {value : β}
    {old : CacheEntry β} (hold : cache.entries.get? key = some old) :
    (cache.set now ttl key value).InStep (pairs.map fun pair =>
      if pair.1 = key then (key, ⟨value, now + ttl, old.number⟩) else pair) := by
  have hmem := (mem_iff_get?_of_perm h.perm).2 hold
  -- the pair of the key is the only one that changes, and not in its slot
  have hslot : ∀ pair ∈ pairs,
      slotOf (if pair.1 = key then (key, ⟨value, now + ttl, old.number⟩) else pair) =
        slotOf pair := by
    intro pair hpair
    obtain ⟨other, found⟩ := pair
    by_cases hkey : other = key
    · subst hkey
      have hfound := (mem_iff_get?_of_perm h.perm).1 hpair
      obtain rfl : old = found := Option.some.inj (hold.symm.trans hfound)
      simp [slotOf]
    · simp [hkey]
  have hslots := List.map_congr_left hslot
  have hnumber : ∀ pair ∈ pairs,
      (if pair.1 = key then (key, (⟨value, now + ttl, old.number⟩ : CacheEntry β)) else pair).2.number =
        pair.2.number := fun pair hpair => congrArg CacheSlot.number (hslot pair hpair)
  simp only [BoundedCache.set, hold, h.queue, tidy_eq _ h.length_le]
  refine ⟨?_, ?_, ?_, ?_, ?_, h.pos⟩
  · refine List.Perm.trans ?_ (SortedMap.entries_insert_perm _ _ _).symm
    refine (SortedMap.map_update_perm (nodup_keys_of_perm h.perm) (List.mem_map_of_mem hmem) _).trans ?_
    exact (h.perm.filter _).cons _
  · rw [List.map_map]
    exact hslots.symm
  · refine List.pairwise_map.2 (h.ascending.imp_of_mem fun {a b} ha hb hlt => ?_)
    rwa [hnumber a ha, hnumber b hb]
  · intro pair hpair
    obtain ⟨before, hbefore, rfl⟩ := List.mem_map.1 hpair
    rw [hnumber before hbefore]
    exact h.below before hbefore
  · rw [List.length_map]
    exact h.length_le

/-- **A write of a new key** puts it at the end, once there is room. -/
theorem set_of_none (h : cache.InStep pairs) {now ttl : Nat} {key : String} {value : β}
    (hold : cache.entries.get? key = none) :
    (cache.set now ttl key value).InStep (pairs.drop (pairs.length + 1 - cache.capacity) ++
      [(key, ⟨value, now + ttl, cache.next⟩)]) := by
  obtain ⟨kept, hkept, hperm⟩ := makeRoom_eq cache.capacity h.perm
  have hsub := List.drop_sublist (pairs.length + 1 - cache.capacity) pairs
  have hlength : (pairs.drop (pairs.length + 1 - cache.capacity) ++
      [(key, (⟨value, now + ttl, cache.next⟩ : CacheEntry β))]).length ≤ cache.capacity := by
    have hpos := h.pos
    simp only [List.length_append, List.length_drop, List.length_singleton]
    omega
  have hslots : (pairs.drop (pairs.length + 1 - cache.capacity)).map slotOf ++
      [⟨key, cache.next⟩] = (pairs.drop (pairs.length + 1 - cache.capacity) ++
        [(key, (⟨value, now + ttl, cache.next⟩ : CacheEntry β))]).map slotOf := by
    simp [slotOf]
  simp only [BoundedCache.set, hold, h.queue, hkept, hslots, tidy_eq _ hlength]
  refine ⟨?_, rfl, ?_, ?_, hlength, h.pos⟩
  · refine List.Perm.trans ?_ (SortedMap.entries_insert_perm _ _ _).symm
    -- the key is not among those that are kept, because it was not there before
    have hnot : ∀ pair ∈ kept.entries, pair.1 ≠ key := by
      rintro ⟨other, found⟩ hpair rfl
      have hbefore := hsub.subset (hperm.mem_iff.2 hpair)
      rw [(mem_iff_get?_of_perm h.perm).1 hbefore] at hold
      exact absurd hold (by simp)
    have hfilter : (kept.entries.filter fun pair => pair.1 ≠ key) = kept.entries :=
      List.filter_eq_self.2 fun pair hpair => by simpa using hnot pair hpair
    rw [hfilter]
    exact (List.perm_append_singleton _ _).trans (hperm.cons _)
  · refine List.pairwise_append.2 ⟨h.ascending.sublist hsub, List.pairwise_singleton _ _, ?_⟩
    intro pair hpair other hother
    rw [List.mem_singleton.1 hother]
    exact h.below pair (hsub.subset hpair)
  · intro pair hpair
    rcases List.mem_append.1 hpair with hpair | hpair
    · exact Nat.lt_succ_of_lt (h.below pair (hsub.subset hpair))
    · rw [List.mem_singleton.1 hpair]
      exact Nat.lt_succ_self _

/-- **Dropping a pattern** takes out the keys that match it. -/
theorem invalidate (h : cache.InStep pairs) (pattern : String) :
    (cache.invalidate pattern).2.InStep (pairs.filter fun pair => !keyMatches pattern pair.1) := by
  refine h.filter _ (h.perm.filter _) ?_
  rw [h.queue, liveSlots, List.filter_map]
  refine congrArg (List.map slotOf) (List.filter_congr fun pair hpair => ?_)
  obtain ⟨key, entry⟩ := pair
  have hmem (found : CacheEntry β) :
      (cache.entries.filter fun key _ => !keyMatches pattern key).get? key = some found ↔
        cache.entries.get? key = some found ∧ keyMatches pattern key = false := by
    rw [← SortedMap.mem_entries_iff, ← SortedMap.mem_entries_iff, SortedMap.filter,
      List.mem_filter, Bool.not_eq_true']
  have hentry := (mem_iff_get?_of_perm h.perm).1 hpair
  cases hmatches : keyMatches pattern key with
  | false =>
    have hlive := isLive_slotOf ((hmem entry).2 ⟨hentry, hmatches⟩)
    rw [Function.comp_apply, hlive]
    rfl
  | true =>
    have hnone : (cache.entries.filter fun key _ => !keyMatches pattern key).get? key = none := by
      refine Option.eq_none_iff_forall_ne_some.2 fun found hfound => ?_
      rw [((hmem found).1 hfound).2] at hmatches
      exact absurd hmatches (by decide)
    have hlive : isLive (cache.entries.filter fun key _ => !keyMatches pattern key)
        (slotOf (key, entry)) = false := by
      rw [isLive, slotOf, hnone]
    rw [Function.comp_apply, hlive]
    rfl

/-- The empty cache. -/
theorem clear (h : cache.InStep pairs) : cache.clear.InStep [] where
  perm := .nil
  queue := rfl
  ascending := .nil
  below := by simp
  length_le := Nat.zero_le _
  pos := h.pos

end InStep

/-! ### The cache is the list -/

/-- A pair as an item of the list, at an instant. -/
def aged (now : Nat) (pair : String × CacheEntry β) : QueueItem β :=
  ⟨pair.1, pair.2.value, pair.2.expires ≤ now⟩

/-- **A cache is told by a list** at certain instants: its pairs are the items of the list, and
whether they have expired is the same at each of the instants. -/
def ToldBy (cache : BoundedCache β) (queue : InsertionQueue β) (instants : Nat → Prop) : Prop :=
  ∃ pairs, cache.InStep pairs ∧ (∀ now, instants now → queue.items = pairs.map (aged now)) ∧
    queue.capacity = cache.capacity ∧ queue.hits = cache.hits ∧ queue.misses = cache.misses ∧
    queue.expired = cache.expired

end BoundedCache

/-- A star at the end of a pattern is where its stem ends. -/
theorem InsertionQueue.fits_eq (pattern key : String) :
    fits pattern key = BoundedCache.keyMatches pattern key := by
  rw [fits, BoundedCache.keyMatches, BoundedCache.patternStem?]
  cases hreverse : pattern.toList.reverse with
  | nil =>
    rw [List.reverse_eq_nil_iff] at hreverse
    simp [hreverse]
  | cons c stem =>
    have hchars : pattern.toList = stem.reverse ++ [c] := by
      rw [← List.reverse_reverse pattern.toList, hreverse, List.reverse_cons]
    by_cases hstar : c = '*'
    · simp [hchars, hstar]
    · simp [hchars, hstar]

namespace BoundedCache

variable {β : Type}

namespace ToldBy

variable {cache : BoundedCache β} {queue : InsertionQueue β} {instants : Nat → Prop}
  {now : Nat}

/-- What is seen of a cache is what is seen of the list that tells it. -/
theorem view_eq (h : cache.ToldBy queue instants) (hnow : instants now) (found : Option β)
    (dropped : Nat) : cache.view found dropped = queue.view found dropped := by
  obtain ⟨pairs, hstep, hitems, -, hhits, hmisses, hexpired⟩ := h
  have hsize : cache.size = queue.items.length := by
    rw [hitems now hnow, List.length_map]
    exact size_eq_of_perm hstep.perm
  rw [view, InsertionQueue.view, hhits, hmisses, hexpired, hsize]

/-- Looking up a key is finding its item. -/
theorem find?_items {pairs : List (String × CacheEntry β)} (hstep : cache.InStep pairs)
    (hitems : queue.items = pairs.map (aged now)) (key : String) :
    queue.items.find? (fun item => item.key = key) =
      (cache.entries.get? key).map fun entry => aged now (key, entry) := by
  rw [hitems, List.find?_map]
  refine (congrArg (Option.map (aged now)) (find?_of_perm hstep.perm key)).trans ?_
  rw [Option.map_map]
  rfl

/-- **A look-up** finds the same. -/
theorem get (h : cache.ToldBy queue instants) (hnow : instants now) (key : String) :
    (cache.get now key).1 = (queue.get key).1 ∧
      (cache.get now key).2.ToldBy (queue.get key).2 instants := by
  obtain ⟨pairs, hstep, hitems, hcapacity, hhits, hmisses, hexpired⟩ := h
  have hget := hstep.get now key
  rw [find?_of_perm hstep.perm] at hget
  unfold BoundedCache.get at hget ⊢
  unfold InsertionQueue.get
  rw [find?_items hstep (hitems now hnow)]
  cases hentry : cache.entries.get? key with
  | none =>
    simp only [hentry, Option.map_none] at hget ⊢
    exact ⟨trivial, pairs, hget, hitems, hcapacity, hhits, congrArg (· + 1) hmisses, hexpired⟩
  | some entry =>
    simp only [hentry, Option.map_some, aged, decide_eq_true_eq] at hget ⊢
    by_cases halive : now < entry.expires
    · simp only [if_pos halive, if_neg (Nat.not_le.2 halive)] at hget ⊢
      exact ⟨trivial, pairs, hget, hitems, hcapacity, congrArg (· + 1) hhits, hmisses, hexpired⟩
    · simp only [if_neg halive, if_pos (Nat.not_lt.1 halive)] at hget ⊢
      refine ⟨trivial, _, hget, fun later hlater => ?_, hcapacity, hhits, congrArg (· + 1) hmisses,
        congrArg (· + 1) hexpired⟩
      rw [hitems later hlater, List.filter_map]
      rfl

/-- A write counts no look-up. -/
theorem counts_set (cache : BoundedCache β) (now ttl : Nat) (key : String) (value : β) :
    (cache.set now ttl key value).capacity = cache.capacity ∧
      (cache.set now ttl key value).hits = cache.hits ∧
      (cache.set now ttl key value).misses = cache.misses ∧
      (cache.set now ttl key value).expired = cache.expired := by
  unfold BoundedCache.set
  cases cache.entries.get? key <;> exact ⟨rfl, rfl, rfl, rfl⟩

/-- **A write** leaves what the list has at the instants at which what is written has settled. -/
theorem set (h : cache.ToldBy queue instants) (hnow : instants now) (ttl : Nat) (key : String)
    (value : β) : (cache.set now ttl key value).ToldBy (queue.set ⟨key, value, ttl = 0⟩)
      fun later => instants later ∧ now ≤ later ∧ (ttl = 0 ∨ later < now + ttl) := by
  obtain ⟨pairs, hstep, hitems, hcapacity, hhits, hmisses, hexpired⟩ := h
  obtain ⟨hcapacity', hhits', hmisses', hexpired'⟩ := counts_set cache now ttl key value
  have hitem {later : Nat} (number : Nat) (hlater : now ≤ later)
      (hlives : ttl = 0 ∨ later < now + ttl) :
      aged later (key, ⟨value, now + ttl, number⟩) = ⟨key, value, ttl = 0⟩ := by
    have hexpires : now + ttl ≤ later ↔ ttl = 0 := by omega
    simp only [aged, hexpires]
  rw [InsertionQueue.set, find?_items hstep (hitems now hnow), Option.isSome_map]
  cases hentry : cache.entries.get? key with
  | some old =>
    refine ⟨_, hstep.set_of_some hentry, ?_, hcapacity.trans hcapacity'.symm,
      hhits.trans hhits'.symm, hmisses.trans hmisses'.symm, hexpired.trans hexpired'.symm⟩
    rintro later ⟨hlater, hle, hlives⟩
    simp only [Option.isSome_some, if_true, hitems later hlater, List.map_map]
    refine List.map_congr_left fun pair _ => ?_
    by_cases hkey : pair.1 = key
    · simp only [Function.comp_apply, if_pos hkey, hitem old.number hle hlives]
      exact if_pos hkey
    · simp only [Function.comp_apply, if_neg hkey]
      exact if_neg hkey
  | none =>
    refine ⟨_, hstep.set_of_none hentry, ?_, hcapacity.trans hcapacity'.symm,
      hhits.trans hhits'.symm, hmisses.trans hmisses'.symm, hexpired.trans hexpired'.symm⟩
    rintro later ⟨hlater, hle, hlives⟩
    simp only [Option.isSome_none, Bool.false_eq_true, if_false, hitems later hlater, hcapacity,
      List.length_map, List.map_append, List.map_drop, List.map_singleton,
      hitem cache.next hle hlives]

/-- **Dropping a pattern** drops as many keys. -/
theorem invalidate (h : cache.ToldBy queue instants) (hnow : instants now) (pattern : String) :
    (cache.invalidate pattern).1 = (queue.invalidate pattern).1 ∧
      (cache.invalidate pattern).2.ToldBy (queue.invalidate pattern).2 instants := by
  obtain ⟨pairs, hstep, hitems, hcapacity, hhits, hmisses, hexpired⟩ := h
  have hnext := hstep.invalidate pattern
  constructor
  · -- the keys that fit and the keys that stay are all keys
    have hbefore : cache.entries.size = pairs.length := size_eq_of_perm hstep.perm
    have hafter : (cache.entries.filter fun key _ => !keyMatches pattern key).size =
        (pairs.filter fun pair => !keyMatches pattern pair.1).length := size_eq_of_perm hnext.perm
    have hfits : queue.items.countP (fun item => InsertionQueue.fits pattern item.key) =
        (pairs.filter fun pair => keyMatches pattern pair.1).length := by
      rw [hitems now hnow, List.countP_map, List.countP_eq_length_filter]
      simp only [InsertionQueue.fits_eq]
      rfl
    have hall := pairs.length_eq_length_filter_add fun pair => keyMatches pattern pair.1
    change cache.entries.size - SortedMap.size _ = queue.items.countP _
    omega
  · refine ⟨_, hnext, fun later hlater => ?_, hcapacity, hhits, hmisses, hexpired⟩
    simp only [InsertionQueue.invalidate, hitems later hlater, List.filter_map,
      InsertionQueue.fits_eq]
    rfl

theorem clear (h : cache.ToldBy queue instants) : cache.clear.ToldBy queue.clear instants := by
  obtain ⟨pairs, hstep, -, hcapacity, hhits, hmisses, hexpired⟩ := h
  exact ⟨[], hstep.clear, fun _ _ => rfl, hcapacity, hhits, hmisses, hexpired⟩

/-- At fewer instants there is less to tell. -/
theorem mono {fewer : Nat → Prop} (h : cache.ToldBy queue instants)
    (hfewer : ∀ now, fewer now → instants now) : cache.ToldBy queue fewer := by
  obtain ⟨pairs, hstep, hitems, hcounts⟩ := h
  exact ⟨pairs, hstep, fun now hnow => hitems now (hfewer now hnow), hcounts⟩

/-- **One call**: the same is seen of the cache and of the list, and the list goes on telling the
cache at the instants at which the call is settled. -/
theorem serve (h : cache.ToldBy queue instants) (timed : TimedCall β)
    (hnow : instants timed.instant) :
    (cache.serve timed).1 = (queue.serve timed.call).1 ∧
      (cache.serve timed).2.ToldBy (queue.serve timed.call).2
        fun later => instants later ∧ timed.Settled later := by
  obtain ⟨now, call⟩ := timed
  cases call with
  | get key =>
    obtain ⟨hfound, hnext⟩ := h.get hnow key
    refine ⟨?_, hnext.mono fun later hlater => hlater.1⟩
    exact (congrArg (fun found => view found 0 _) hfound).trans (hnext.view_eq hnow _ _)
  | set key value ttl =>
    have hnext := h.set hnow ttl key value
    have hlive : ttl = 0 ∨ now < now + ttl := by omega
    exact ⟨hnext.view_eq ⟨hnow, Nat.le_refl now, hlive⟩ _ _, hnext⟩
  | invalidate pattern =>
    obtain ⟨hdropped, hnext⟩ := h.invalidate hnow pattern
    refine ⟨?_, hnext.mono fun later hlater => hlater.1⟩
    exact (congrArg (fun dropped => view none dropped _) hdropped).trans (hnext.view_eq hnow _ _)
  | clear => exact ⟨h.clear.view_eq hnow _ _, h.clear.mono fun later hlater => hlater.1⟩

/-- **Call after call**, the same is seen of the cache and of the list. -/
theorem replay {history : List (TimedCall β)} (h : cache.ToldBy queue instants)
    (hinstants : ∀ timed ∈ history, instants timed.instant)
    (hsettled : history.Pairwise fun first later => first.Settled later.instant) :
    (cache.replay history).1 = queue.replay (history.map TimedCall.call) ∧
      ∃ pairs, (cache.replay history).2.InStep pairs := by
  induction history generalizing cache queue instants with
  | nil =>
    obtain ⟨pairs, hstep, -⟩ := h
    exact ⟨rfl, pairs, hstep⟩
  | cons first rest ih =>
    obtain ⟨hfirst, hrest⟩ := List.pairwise_cons.1 hsettled
    obtain ⟨hseen, hnext⟩ := h.serve first (hinstants first List.mem_cons_self)
    obtain ⟨hviews, hlast⟩ := ih hnext (fun timed htimed =>
      ⟨hinstants timed (List.mem_cons_of_mem _ htimed), hfirst timed htimed⟩) hrest
    rw [BoundedCache.replay, List.map_cons, InsertionQueue.replay, hseen, hviews]
    exact ⟨rfl, hlast⟩

end ToldBy

/-- **An orderly cache**: its queue holds exactly one slot for each entry, with the entry's number,
and none beside, in ascending order of the numbers. -/
structure Orderly (cache : BoundedCache β) : Prop where
  slots_of_entry : ∀ key entry, cache.entries.get? key = some entry →
    cache.queue.filter (fun slot => slot.key = key) = [⟨key, entry.number⟩]
  entry_of_slot : ∀ slot ∈ cache.queue, ∃ entry, cache.entries.get? slot.key = some entry ∧
    entry.number = slot.number
  ascending : cache.queue.Pairwise fun a b => a.number < b.number

theorem InStep.orderly {cache : BoundedCache β} {pairs : List (String × CacheEntry β)}
    (h : cache.InStep pairs) : cache.Orderly where
  slots_of_entry key entry hentry := by
    have hfilter : pairs.filter (fun pair => pair.1 = key) = [(key, entry)] := by
      refine List.perm_singleton.1 ((List.perm_ext_iff_of_nodup
        ((nodup_of_perm h.perm).filter _) (List.nodup_singleton _)).2 fun (other, found) => ?_)
      rw [List.mem_filter, mem_iff_get?_of_perm h.perm, List.mem_singleton, Prod.mk.injEq,
        decide_eq_true_eq]
      constructor
      · rintro ⟨hfound, rfl⟩
        exact ⟨rfl, Option.some.inj (hfound.symm.trans hentry)⟩
      · rintro ⟨rfl, rfl⟩
        exact ⟨hentry, rfl⟩
    rw [h.queue, List.filter_map]
    exact congrArg (List.map slotOf) hfilter
  entry_of_slot slot hslot := by
    rw [h.queue] at hslot
    obtain ⟨⟨key, entry⟩, hpair, rfl⟩ := List.mem_map.1 hslot
    exact ⟨entry, (mem_iff_get?_of_perm h.perm).1 hpair, rfl⟩
  ascending := by
    rw [h.queue]
    exact List.pairwise_map.2 h.ascending

theorem capacity_serve (cache : BoundedCache β) (timed : TimedCall β) :
    (cache.serve timed).2.capacity = cache.capacity := by
  obtain ⟨now, call⟩ := timed
  cases call with
  | get key =>
    change (cache.get now key).2.capacity = _
    unfold BoundedCache.get
    split
    · split_ifs <;> rfl
    · rfl
  | set key value ttl => exact (ToldBy.counts_set cache now ttl key value).1
  | invalidate pattern => rfl
  | clear => rfl

theorem capacity_replay (cache : BoundedCache β) (history : List (TimedCall β)) :
    (cache.replay history).2.capacity = cache.capacity := by
  induction history generalizing cache with
  | nil => rfl
  | cons first rest ih => exact (ih _).trans (cache.capacity_serve first)

/-- **A bounded cache is a list in the order of insertion**: whatever its capacity, and whatever is
looked up, written to live for no time or longer than it is used, dropped or cleared, in whatever
order, all that is seen of it is what is seen of the list. It never has more entries than its
capacity, and its queue is in order. -/
theorem replay_eq (capacity : Nat) (history : List (TimedCall β))
    (hsettled : history.Pairwise fun first later => first.Settled later.instant) :
    ((ofCapacity capacity).replay history).1 =
        (InsertionQueue.ofCapacity capacity).replay (history.map TimedCall.call) ∧
      ((ofCapacity capacity).replay history).2.size ≤ max capacity 1 ∧
      ((ofCapacity capacity).replay history).2.Orderly := by
  have hstart : (ofCapacity capacity : BoundedCache β).ToldBy (.ofCapacity capacity) fun _ => True :=
    ⟨[], .of_capacity capacity, fun _ _ => rfl, rfl, rfl, rfl, rfl⟩
  obtain ⟨hviews, pairs, hstep⟩ := hstart.replay (fun _ _ => trivial) hsettled
  refine ⟨hviews, ?_, hstep.orderly⟩
  have hle := hstep.length_le
  rw [capacity_replay] at hle
  rwa [← size_eq_of_perm hstep.perm] at hle

/-- A day in which keys expire, are written again, make room and are dropped. -/
def busyDay : List (TimedCall Nat) :=
  [⟨0, .set "hats:1" 1 0⟩, ⟨1, .get "hats:1"⟩, ⟨2, .set "hats:1" 2 90⟩, ⟨3, .set "shoes:1" 3 90⟩,
    ⟨4, .set "hats:1" 4 90⟩, ⟨5, .set "shoes:2" 5 0⟩, ⟨5, .get "hats:1"⟩, ⟨5, .get "shoes:1"⟩,
    ⟨6, .set "shoes:3" 6 90⟩, ⟨7, .get "shoes:1"⟩, ⟨8, .invalidate "shoes:*"⟩,
    ⟨9, .invalidate "hats:1"⟩, ⟨10, .clear⟩]

theorem replay_busyDay :
    (busyDay.Pairwise fun first later => first.Settled later.instant) ∧
      ((ofCapacity 2).replay busyDay).1 =
        (InsertionQueue.ofCapacity 2).replay (busyDay.map TimedCall.call) ∧
      ((ofCapacity 2).replay busyDay).2.size ≤ 2 ∧ ((ofCapacity 2).replay busyDay).2.Orderly := by
  have hsettled : busyDay.Pairwise fun first later => first.Settled later.instant := by decide
  exact ⟨hsettled, replay_eq 2 busyDay hsettled⟩

/-- The first key makes room for the fourth although it was written again in between; its slot kept
its place. -/
example : ((ofCapacity 2).replay busyDay).1.map (fun seen => (seen.found, seen.dropped, seen.size)) =
    [(none, 0, 1), (none, 0, 0), (none, 0, 1), (none, 0, 2), (none, 0, 2), (none, 0, 2),
      (none, 0, 2), (some 3, 0, 2), (none, 0, 2), (none, 0, 2), (none, 2, 0), (none, 0, 0),
      (none, 0, 0)] := by
  decide +kernel

end BoundedCache

end Storefront
