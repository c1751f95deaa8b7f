import Storefront.Engine.Script
import Storefront.Origin.Query
import Storefront.Wording.Thesaurus

/-!
# A world for rehearsals

A shop can be tried out without an engine, a database or a catalog: the scripted engine takes the
place of the engine, and fixed answers take those of the origin store and of the synonyms. The
rehearsal keeps account of what it was asked – the statements and probes, the questions to the
origin store, the loads of synonyms – and its answers may be changed between two searches.
-/

namespace Storefront

/-- A question to the origin store. -/
inductive OriginCall where
  | search (query : OriginQuery)
  | fetch (ids : List Int)
deriving DecidableEq

/-- The fixed answers of an origin store. -/
structure OriginScript where
  page : OriginPage
  documents : List Document
  /-- What every question fails with, if they fail. -/
  failure : Option String

/-- The fixed synonyms of a source. -/
structure SynonymScript where
  groups : Except String (List SynonymGroup)
  /-- Whether the next load is interrupted by a change. -/
  interrupted : Bool
  loads : Nat

/-- The state of a rehearsal. -/
structure Rehearsal where
  engine : Witnessed Script
  origin : OriginScript
  /-- The questions to the origin store, the oldest first. -/
  calls : List OriginCall
  synonyms : SynonymScript

namespace OriginScript

/-- The answer to a search. -/
def search (script : OriginScript) : Except OriginFault OriginPage :=
  match script.failure with
  | some message => .error (.database (.other message))
  | none => .ok script.page

/-- The documents asked for, in the order of the script. -/
def fetch (script : OriginScript) (ids : List Int) : Except OriginFault (List Document) :=
  match script.failure with
  | some message => .error (.database (.other message))
  | none => .ok (script.documents.filter fun document => ids.contains document.id)

end OriginScript

namespace SynonymScript

/-- A load of the synonyms. -/
def load : StateM SynonymScript SynonymLoad := fun script =>
  let groups := script.groups.mapError fun message => .database (.other message)
  (⟨groups, script.interrupted⟩,
    { script with interrupted := false, loads := script.loads + 1 })

end SynonymScript

namespace Rehearsal

/-- The scripted engine within the rehearsal. -/
def engineOf : Engine Rehearsal where
  execute statement := fun r =>
    let (reply, engine) := Script.engine.witnessed.execute statement r.engine
    (reply, { r with engine := engine })
  probe := fun r =>
    let (well, engine) := Script.engine.witnessed.probe r.engine
    (well, { r with engine := engine })

/-- The fixed origin store within the rehearsal. -/
def originOf : Origin Rehearsal where
  search query := fun r => (r.origin.search, { r with calls := r.calls ++ [.search query] })
  fetch ids := fun r => (r.origin.fetch ids, { r with calls := r.calls ++ [.fetch ids] })

/-- The fixed synonyms within the rehearsal. -/
def synonymsOf : SynonymSource Rehearsal where
  load := fun r =>
    let (load, synonyms) := SynonymScript.load r.synonyms
    (load, { r with synonyms := synonyms })

end Rehearsal

end Storefront
