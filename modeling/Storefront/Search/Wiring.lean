import Storefront.Search.Run

/-!
# How a desk is wired

The synonyms and the listings of a desk are kept in parts that are shared: searches look into them,
and writes to the catalog are passed on to them. Everyone concerned holds a part by its number.

| who | holds |
| --- | --- |
| the expander of texts | a lexicon |
| the desk | a lexicon, and a cache if listings are kept |
| the hooks, if there are any | a cache, a lexicon and the name of the index |

To fit a part to the desk is to lay wires anew (`WiredDesk.fit`). Searches and counts go along the
wires of the expander and the desk (`WiredDesk.through`), a write goes along those of the hooks, and
only where there are none along those of the desk (`WiredDesk.write`). A write is therefore heard
where searches look only as long as the wires lead to the same parts.

A `Desk` is what searches see of a wired desk: `WiredDesk.shop` and `WiredDesk.session`.
-/

namespace Storefront

/-- A thesaurus with the source that it is loaded from. -/
structure Lexicon (σ : Type) where
  source : SynonymSource σ
  thesaurus : Thesaurus

/-- Where writes to the catalog are passed on to. -/
structure Hooks where
  index : String
  cache : Nat
  lexicon : Nat
deriving DecidableEq

/-- A desk with its parts and its wires. -/
structure WiredDesk (σ : Type) where
  settings : Settings
  planner : Planner
  engine : Engine σ
  origin : Option (Origin σ)
  pins : Option PinBoard
  /-- The guard in front of the engine, the world behind it and the clock. -/
  guarded : Guarded σ
  journal : Journal
  /-- The lexicons that there are, by number. -/
  lexicons : Nat → Lexicon σ
  /-- The caches that there are, by number. -/
  caches : Nat → BoundedCache Listing
  /-- The lexicon that texts are expanded with. -/
  expander : Nat
  /-- The lexicon of the desk. -/
  lexicon : Nat
  /-- The cache of the desk, if listings are kept. -/
  cache : Option Nat
  hooks : Option Hooks

namespace WiredDesk

variable {σ α : Type}

/-- The parts with another one in the place of a number. -/
def replace (parts : Nat → α) (number : Nat) (part : α) : Nat → α :=
  fun n => if n = number then part else parts n

/-! ### Setting up -/

/-- The desk over an engine, with a lexicon that has no synonyms, and nothing else. The parts that can
be fitted to it are lexicons, in any state, and caches, which are new. -/
def bare (settings : Settings) (planner : Planner) (engine : Engine σ) (world : σ)
    (lexicons : Nat → Lexicon σ) (capacities : Nat → Nat) : WiredDesk σ where
  settings := settings
  planner := planner
  engine := engine
  origin := none
  pins := none
  guarded := ⟨.start settings.circuit settings.healthInterval, world, 0⟩
  journal := []
  lexicons := fun
    | 0 => ⟨Thesaurus.noSource, .ofTtl Thesaurus.forever⟩
    | number + 1 => lexicons number
  caches := fun number => .ofCapacity (capacities number)
  expander := 0
  lexicon := 0
  cache := none
  hooks := none

/-- **A wired desk over an engine**, to which nothing has been fitted. The settings have to fit the
schema. -/
def start (settings : Settings) (schema : Schema) (engine : Engine σ) (world : σ)
    (lexicons : Nat → Lexicon σ) (capacities : Nat → Nat) : Except SearchFault (WiredDesk σ) :=
  (Planner.ofSettings schema settings).map fun planner =>
    bare settings planner engine world lexicons capacities

end WiredDesk

/-- What can be fitted to a desk. -/
inductive Fitting (σ : Type) where
  | synonyms (lexicon : Nat)
  | cache (number : Nat)
  | origin (origin : Origin σ)
  | pins (pins : PinBoard)

namespace WiredDesk

variable {σ α : Type}

/-- **The desk with one more part.** New synonyms are made known to the hooks if listings are kept,
and a new cache comes with new hooks. -/
def fit (desk : WiredDesk σ) : Fitting σ → WiredDesk σ
  | .synonyms lexicon =>
    { desk with
      expander := lexicon
      lexicon := lexicon
      hooks :=
        match desk.cache with
        | some cache => some ⟨desk.settings.index, cache, lexicon⟩
        | none => desk.hooks }
  | .cache cache =>
    { desk with
      hooks := some ⟨desk.settings.index, cache, desk.lexicon⟩
      cache := some cache }
  | .origin origin => { desk with origin := some origin }
  | .pins pins => { desk with pins := some pins }

/-! ### What searches see -/

/-- What searches are made with. -/
def shop (desk : WiredDesk σ) : Shop σ where
  settings := desk.settings
  planner := desk.planner
  engine := desk.engine
  synonyms := (desk.lexicons desk.expander).source
  origin := desk.origin
  pins := desk.pins

/-- What searches find. -/
def session (desk : WiredDesk σ) : Session σ where
  guarded := desk.guarded
  thesaurus := (desk.lexicons desk.expander).thesaurus
  cache := desk.cache.map desk.caches
  journal := desk.journal

/-- The desk with what searches leave behind in its parts. -/
def keep (desk : WiredDesk σ) (session : Session σ) : WiredDesk σ :=
  { desk with
    guarded := session.guarded
    journal := session.journal
    lexicons := replace desk.lexicons desk.expander
      { desk.lexicons desk.expander with thesaurus := session.thesaurus }
    caches :=
      match desk.cache, session.cache with
      | some number, some cache => replace desk.caches number cache
      | _, _ => desk.caches }

/-- What a shop does in a session, done at the desk. -/
def through (step : Shop σ → StateM (Session σ) α) : StateM (WiredDesk σ) α := fun desk =>
  let (result, session) := step desk.shop desk.session
  (result, desk.keep session)

/-- **The listing of a filter.** -/
def search (filter : Filter) : StateM (WiredDesk σ) Listing :=
  through fun shop => shop.run filter

/-- **The counts of several taxonomies.** -/
def facets (filter : Filter) (taxonomies : List String) :
    StateM (WiredDesk σ) (SortedMap String (SortedMap Int Nat)) :=
  through fun shop => shop.facets filter taxonomies

/-! ### Writes to the catalog -/

/-- The desk once a lexicon has heard of a write: it drops its map if the write is to synonyms. -/
def hear (event : WriteEvent) (lexicon : Nat) (desk : WiredDesk σ) : WiredDesk σ :=
  if event = .synonymsChanged then
    { desk with
      lexicons := replace desk.lexicons lexicon
        { desk.lexicons lexicon with thesaurus := (desk.lexicons lexicon).thesaurus.invalidate } }
  else desk

/-- A write that is passed on along hooks. -/
def pass (hooks : Hooks) (event : WriteEvent) : StateM (WiredDesk σ) Nat := fun desk =>
  let heard := desk.hear event hooks.lexicon
  let (removed, cache) := (heard.caches hooks.cache).invalidate (event.pattern hooks.index)
  (removed, { heard with
    caches := replace heard.caches hooks.cache cache
    journal := heard.journal ++ [.cacheInvalidated event removed] })

/-- **A write to the catalog.** The answer is the number of listings dropped. -/
def write (event : WriteEvent) : StateM (WiredDesk σ) Nat := fun desk =>
  match desk.hooks with
  | some hooks => pass hooks event desk
  | none => (0, desk.hear event desk.lexicon)

end WiredDesk

end Storefront
