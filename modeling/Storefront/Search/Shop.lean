import Storefront.Engine.Guard
import Storefront.Listing.Cache
import Storefront.Meter
import Storefront.Origin.Query
import Storefront.Placement
import Storefront.Wording.Thesaurus

/-!
# Shops and their sessions

A `Shop` is what searches are made with: the settings, the planner of its index, and the engine,
synonyms and origin store that it reaches. It does not change. A `Session` is what searches leave
behind: the guard's record of the engine, the synonyms and the listings that are kept, the journal
of measurements, and the state of the world outside, which the shop's collaborators share.

A `Desk` is a shop with its session. It is opened over an engine alone, and synonyms, an origin
store, a result cache and pins are added to it, in any order.
-/

namespace Storefront

/-- What searches are made with. -/
structure Shop (σ : Type) where
  settings : Settings
  planner : Planner
  engine : Engine σ
  synonyms : SynonymSource σ
  origin : Option (Origin σ)
  pins : Option PinBoard

/-- What searches leave behind. -/
structure Session (σ : Type) where
  /-- The guard in front of the engine, the world behind it and the clock. -/
  guarded : Guarded σ
  thesaurus : Thesaurus
  /-- The listings that are kept, if any are. -/
  cache : Option (BoundedCache Listing)
  /-- What has been measured so far, the oldest first. -/
  journal : Journal

namespace Session

variable {σ : Type}

/-- A session in which nothing has happened, without a result cache. -/
def start (policy : CircuitPolicy) (interval : Nat) (world : σ) : Session σ where
  guarded := ⟨.start policy interval, world, 0⟩
  thesaurus := .ofTtl Thesaurus.forever
  cache := none
  journal := []

/-- The session with an empty result cache. -/
def withCache (capacity : Nat) (session : Session σ) : Session σ :=
  { session with cache := some (.ofCapacity capacity) }

end Session

/-- A shop with its session. -/
structure Desk (σ : Type) where
  shop : Shop σ
  session : Session σ

namespace Desk

variable {σ : Type}

/-- **A desk over an engine**, without synonyms, origin store, result cache and pins. The settings
have to fit the schema. -/
def start (settings : Settings) (schema : Schema) (engine : Engine σ) (world : σ) :
    Except SearchFault (Desk σ) :=
  (Planner.ofSettings schema settings).map fun planner =>
    { shop :=
        { settings, planner, engine
          synonyms := Thesaurus.noSource
          origin := none
          pins := none }
      session := .start settings.circuit settings.healthInterval world }

/-- The desk with synonyms from a source, none of them loaded yet. -/
def withSynonyms (source : SynonymSource σ) (desk : Desk σ) : Desk σ :=
  { shop := { desk.shop with synonyms := source }
    session := { desk.session with thesaurus := .ofTtl desk.shop.settings.synonymTtl } }

/-- The desk with an origin store. -/
def withOrigin (origin : Origin σ) (desk : Desk σ) : Desk σ :=
  { desk with shop := { desk.shop with origin := some origin } }

/-- The desk with an empty result cache. -/
def withCache (capacity : Nat) (desk : Desk σ) : Desk σ :=
  { desk with session := desk.session.withCache capacity }

/-- The desk with pinned documents. -/
def withPins (pins : PinBoard) (desk : Desk σ) : Desk σ :=
  { desk with shop := { desk.shop with pins := some pins } }

end Desk

/-! ### Steps of a session -/

namespace Session

variable {σ : Type}

/-- One more entry in the journal. -/
def note (measurement : Measurement) : StateM (Session σ) Unit :=
  modify fun s => { s with journal := s.journal ++ [measurement] }

/-- The present instant. -/
def now : StateM (Session σ) Nat := do
  return (← get).guarded.clock

/-- A step of the guard and the world behind it. -/
def onGuarded {α : Type} (step : StateM (Guarded σ) α) : StateM (Session σ) α := fun s =>
  let (result, guarded) := step s.guarded
  (result, { s with guarded := guarded })

/-- A step of the world, past the guard. -/
def onWorld {α : Type} (step : StateM σ α) : StateM (Session σ) α :=
  onGuarded fun guarded =>
    let (result, world) := step guarded.world
    (result, { guarded with world := world })

/-- The clock moves on. -/
def tick : StateM (Session σ) Unit :=
  onGuarded fun guarded => ((), { guarded with clock := guarded.clock + 1 })

/-- The current synonyms, loaded from the source if what is kept is too old. -/
def synonyms (source : SynonymSource σ) : StateM (Session σ) SynonymMap := do
  tick
  let now ← now
  let s ← get
  let (found, thesaurus, world) := Thesaurus.get now source (s.thesaurus, s.guarded.world)
  set { s with thesaurus := thesaurus, guarded := { s.guarded with world := world } }
  match found.load with
  | some loaded => note (.synonymRebuild loaded)
  | none => pure ()
  return found.map

/-- **A write to the catalog of an index**: the listings of the index are dropped, and the synonyms
too if the write changed them. The answer is the number of listings dropped. -/
def invalidate (index : String) (event : WriteEvent) : StateM (Session σ) Nat := do
  if event = .synonymsChanged then
    modify fun s => { s with thesaurus := s.thesaurus.invalidate }
  let s ← get
  match s.cache with
  | none => return 0
  | some cache =>
    let (removed, cache) := cache.invalidate (event.pattern index)
    set { s with cache := some cache }
    note (.cacheInvalidated event removed)
    return removed

end Session

end Storefront
