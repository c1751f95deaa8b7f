import Storefront.Fault
import Storefront.Span
import Storefront.Wording.Synonyms

/-!
# The thesaurus

Synonyms are kept where the catalog is kept, and reading them for every search would be slow. The
thesaurus keeps the map of the last load for a time to live and loads again when it is too old. A
load that fails is remembered for a shorter time, during which the old map, however old, goes on
being used.

Synonyms may be changed while a load is under way. The thesaurus is then invalidated in the middle
of it (`SynonymLoad.interrupted`), and what the load delivers is handed out but not kept: it may be
older than the change.
-/

namespace Storefront

/-- What a load delivers. -/
structure SynonymLoad where
  groups : Except OriginFault (List SynonymGroup)
  /-- Whether the thesaurus was invalidated while the load was under way. -/
  interrupted : Bool

/-- Where synonyms are loaded from, with its state. -/
structure SynonymSource (σ : Type) where
  load : StateM σ SynonymLoad

/-- A map with the time for which it may be used. -/
structure SynonymSnapshot where
  map : SynonymMap
  built : Nat
  lifetime : Nat
deriving DecidableEq

/-- A cached map of synonyms. -/
structure Thesaurus where
  ttl : Nat
  snapshot : Option SynonymSnapshot
  /-- How many loads have succeeded. -/
  rebuilds : Nat
deriving DecidableEq

namespace Thesaurus

/-- A thesaurus that has not been loaded. -/
def ofTtl (ttl : Nat) : Thesaurus :=
  ⟨ttl, none, 0⟩

/-- A time to live that nothing outlives. -/
def forever : Nat :=
  Span.seconds 18446744073709551615 + 999999999

/-- How long a failed load is remembered at most. -/
def retryAfter : Nat :=
  Span.seconds 30

/-- The source that always delivers the same groups. -/
def fixed {σ : Type} (groups : List SynonymGroup) : SynonymSource σ where
  load := pure ⟨.ok groups, false⟩

/-- The source without any synonyms. -/
def noSource {σ : Type} : SynonymSource σ :=
  fixed []

/-- The map that may still be used. -/
def fresh? (now : Nat) (thesaurus : Thesaurus) : Option SynonymMap :=
  match thesaurus.snapshot with
  | some snapshot => if now - snapshot.built < snapshot.lifetime then some snapshot.map else none
  | none => none

/-- The thesaurus without a map: the next look-up loads. -/
def invalidate (thesaurus : Thesaurus) : Thesaurus :=
  { thesaurus with snapshot := none }

/-- The thesaurus with a map that may be used for a time. -/
def install (now : Nat) (map : SynonymMap) (lifetime : Nat) (thesaurus : Thesaurus) : Thesaurus :=
  { thesaurus with snapshot := some ⟨map, now, lifetime⟩ }

/-- The map that a failed load leaves in use: the last one, whatever its age. -/
def lastMap (thesaurus : Thesaurus) : SynonymMap :=
  match thesaurus.snapshot with
  | some snapshot => snapshot.map
  | none => ∅

/-- **The map after a load**, and the thesaurus that keeps it. -/
def settle (now : Nat) (load : SynonymLoad) (thesaurus : Thesaurus) : SynonymMap × Thesaurus :=
  let current := if load.interrupted then thesaurus.invalidate else thesaurus
  match load.groups with
  | .ok groups =>
    let map := SynonymMap.ofGroups groups
    let rebuilt := { current with rebuilds := current.rebuilds + 1 }
    (map, if load.interrupted then rebuilt else rebuilt.install now map thesaurus.ttl)
  | .error _ =>
    let map := current.lastMap
    (map, if load.interrupted then current
      else current.install now map (min thesaurus.ttl retryAfter))

/-- What a look-up found. -/
structure Found where
  map : SynonymMap
  /-- Whether a load was needed for it, and if so whether that succeeded. -/
  load : Option Bool

/-- Whether a load succeeded. -/
def succeeded (load : SynonymLoad) : Bool :=
  match load.groups with
  | .ok _ => true
  | .error _ => false

/-- **The current map**, loaded first if there is none or it is too old. -/
def get {σ : Type} (now : Nat) (source : SynonymSource σ) : StateM (Thesaurus × σ) Found :=
  fun (thesaurus, s) =>
    match thesaurus.fresh? now with
    | some map => (⟨map, none⟩, thesaurus, s)
    | none =>
      let (load, s) := source.load s
      let (map, thesaurus) := thesaurus.settle now load
      (⟨map, some (succeeded load)⟩, thesaurus, s)

end Thesaurus

end Storefront
