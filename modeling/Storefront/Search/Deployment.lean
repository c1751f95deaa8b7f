import Storefront.Address.Database
import Storefront.Origin.SynonymTable
import Storefront.Search.Run

/-!
# Deployments

A shop in production is set up from its settings alone. The address of the engine has to be one,
though nothing need listen there yet; the origin store, if the settings name one, is connected at
once, and serves both the search that stands in for the engine's and the synonyms. A result cache
is always kept.

What the addresses lead to is a parameter: the engine with its state, and the database that is found
where the origin's address opens one.
-/

namespace Storefront

/-! ### Addresses -/

/-- What is wrong with the address of an engine, which is asked like a server. -/
def engineAddressFault? (address : String) : Option AddressFault :=
  match Url.read address with
  | .error fault => some (.url fault)
  | .ok url => url.serverFault?

/-- What is said of an engine whose address leads nowhere. -/
def engineAddressFault (fault : AddressFault) : EngineFault :=
  .unreachable ("invalid engine url: " ++ fault.message)

/-- What is said when the origin store at an address is connected. -/
def originFault? (address : String) : Option DatabaseFault :=
  match Url.read address with
  | .error fault => some (.address (.url fault))
  | .ok url => url.connectFault?

/-! ### Setting up -/

/-- The tables of the database that the origin's address leads to. -/
structure OriginDatabase where
  posts : PostTable
  synonyms : SynonymTable

/-- An engine that nobody listens for. -/
def absentEngine {σ : Type} : Engine σ where
  execute _ := pure (.error (.unreachable "connection refused"))
  probe := pure false

namespace Desk

variable {σ : Type}

/-- The desk with the origin store and the synonyms of a database. -/
def withDatabase (database : OriginDatabase) (desk : Desk σ) : Desk σ :=
  (desk.withSynonyms database.synonyms.source).withOrigin database.posts.origin

/-- **The desk of a deployment.** The faults are looked for in order: the engine's address, the
settings, the origin's address. -/
def deploy (settings : Settings) (schema : Schema) (engine : Engine σ) (world : σ)
    (database : OriginDatabase) : Except SearchFault (Desk σ) :=
  match engineAddressFault? settings.engineUrl with
  | some fault => .error (.ofEngine (engineAddressFault fault))
  | none =>
    match start settings schema engine world with
    | .error fault => .error fault
    | .ok desk =>
      let desk := desk.withCache settings.resultCapacity
      match settings.originUrl with
      | none => .ok desk
      | some address =>
        match originFault? address with
        | some fault => .error (.origin (.database fault))
        | none => .ok (desk.withDatabase database)

end Desk

end Storefront
