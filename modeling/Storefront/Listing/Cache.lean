import Storefront.Number.Binary64
import Storefront.SortedMap

/-!
# A bounded cache

A cache of values by key, in which every value has a time to live and which never holds more than
its capacity: when a new key finds it full, the oldest keys make room. The oldest keys are found
through a queue with a slot for each key, in the order in which the keys came; writing a key again
replaces the value and leaves its slot where it is. A slot and its entry share a number, and a
slot whose number is no longer that of an entry is passed over.

The operations take the present instant, and an entry is alive strictly before it expires.
-/

namespace Storefront

open Number

/-- A value with the instant at which it expires and the number of its slot. -/
structure CacheEntry (β : Type) where
  value : β
  expires : Nat
  number : Nat
deriving DecidableEq

/-- The place of a key in the queue. -/
structure CacheSlot where
  key : String
  number : Nat
deriving DecidableEq

/-- A bounded cache and the count of its look-ups. -/
structure BoundedCache (β : Type) where
  /-- The greatest number of entries, at least one. -/
  capacity : Nat
  entries : SortedMap String (CacheEntry β)
  /-- The slots of the entries, the oldest first. -/
  queue : List CacheSlot
  /-- The number of the next slot. -/
  next : Nat
  hits : Nat
  misses : Nat
  /-- Of the misses those that found a value which had expired. -/
  expired : Nat

namespace BoundedCache

variable {β : Type}

/-- The empty cache; a capacity of zero counts as one. -/
def ofCapacity (capacity : Nat) : BoundedCache β where
  capacity := max capacity 1
  entries := ∅
  queue := []
  next := 0
  hits := 0
  misses := 0
  expired := 0

/-- The number of entries. -/
def size (cache : BoundedCache β) : Nat :=
  cache.entries.size

/-- The hits among all look-ups. -/
def hitRate (cache : BoundedCache β) : Binary64 :=
  .share cache.hits (cache.hits + cache.misses)

/-! ### Slots -/

/-- Whether the slot is that of an entry. -/
def isLive (entries : SortedMap String (CacheEntry β)) (slot : CacheSlot) : Bool :=
  match entries.get? slot.key with
  | some entry => entry.number == slot.number
  | none => false

/-- The queue without the slots that are of no entry. -/
def liveSlots (entries : SortedMap String (CacheEntry β)) (queue : List CacheSlot) :
    List CacheSlot :=
  queue.filter (isLive entries)

/-! ### Looking up -/

/-- **The value of a key**, if it has one that is alive. A value found expired is dropped. -/
def get (now : Nat) (key : String) (cache : BoundedCache β) : Option β × BoundedCache β :=
  match cache.entries.get? key with
  | some entry =>
    if now < entry.expires then (some entry.value, { cache with hits := cache.hits + 1 })
    else
      (none, { cache with
        entries := cache.entries.erase key
        queue := cache.queue.filter (· ≠ ⟨key, entry.number⟩)
        expired := cache.expired + 1
        misses := cache.misses + 1 })
  | none => (none, { cache with misses := cache.misses + 1 })

/-! ### Writing -/

/-- The entries and the queue once the oldest have made room: slots leave the front of the queue,
with their entries, until there are fewer entries than the capacity. -/
def makeRoom (capacity : Nat) (entries : SortedMap String (CacheEntry β)) :
    List CacheSlot → SortedMap String (CacheEntry β) × List CacheSlot
  | [] => (entries, [])
  | slot :: rest =>
    if entries.size < capacity then (entries, slot :: rest)
    else makeRoom capacity (if isLive entries slot then entries.erase slot.key else entries) rest

/-- The queue, rid of slots without an entry once it is far longer than the entries can be. -/
def tidy (capacity : Nat) (entries : SortedMap String (CacheEntry β)) (queue : List CacheSlot) :
    List CacheSlot :=
  if 2 * capacity < queue.length then liveSlots entries queue else queue

/-- **The cache with a value at a key**, to live for `ttl`.

The clock is taken to reach as far as `now + ttl`. A clock that counts seconds in 63 bits does so
only below `2 ^ 63` seconds, and has no instant for the end of a longer life; what becomes of a value
that is set for longer is not described here. A value that is to live for ever is set for longer than
the run. -/
def set (now ttl : Nat) (key : String) (value : β) (cache : BoundedCache β) : BoundedCache β :=
  match cache.entries.get? key with
  | some old =>
    let entries := cache.entries.insert key ⟨value, now + ttl, old.number⟩
    { cache with entries := entries, queue := tidy cache.capacity entries cache.queue }
  | none =>
    let (kept, queue) := makeRoom cache.capacity cache.entries cache.queue
    let entries := kept.insert key ⟨value, now + ttl, cache.next⟩
    { cache with
      entries := entries
      queue := tidy cache.capacity entries (queue ++ [⟨key, cache.next⟩])
      next := cache.next + 1 }

/-! ### Dropping -/

/-- What a pattern begins with, if it ends in a star. -/
def patternStem? (pattern : String) : Option (List Char) :=
  match pattern.toList.reverse with
  | '*' :: stem => some stem.reverse
  | _ => none

/-- Whether a key matches a pattern: begins with its stem, or is the pattern itself. -/
def keyMatches (pattern key : String) : Bool :=
  match patternStem? pattern with
  | some stem => stem.isPrefixOf key.toList
  | none => key = pattern

/-- **The cache without the keys that match a pattern**, and how many those were. -/
def invalidate (pattern : String) (cache : BoundedCache β) : Nat × BoundedCache β :=
  let entries := cache.entries.filter fun key _ => !keyMatches pattern key
  (cache.entries.size - entries.size,
    { cache with entries := entries, queue := liveSlots entries cache.queue })

/-- The cache without any key; the counts stay. -/
def clear (cache : BoundedCache β) : BoundedCache β :=
  { cache with entries := ∅, queue := [] }

end BoundedCache

end Storefront
