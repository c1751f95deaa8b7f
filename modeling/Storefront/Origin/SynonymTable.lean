import Storefront.Origin.Posts
import Storefront.Wording.Thesaurus

/-!
# The table of synonyms

The origin's database may hold a table of synonyms: a term in one column and, in another, its
synonyms with commas between them. The rows are read in the order of their terms, and a row
without a readable term is left out.
-/

namespace Storefront

open Text

/-- A row of the table. -/
structure SynonymRow where
  term : Stored
  synonyms : Stored
deriving DecidableEq

/-- A database with, perhaps, a table of synonyms: its name and its rows. -/
structure SynonymTable where
  name : String
  /-- The rows in the order of their writing; `none` if the table does not exist. -/
  rows : Option (List SynonymRow)

namespace SynonymTable

/-- The group of a row. -/
def group? (row : SynonymRow) : Option SynonymGroup :=
  row.term.text?.map fun term =>
    ⟨term, (commaFields (row.synonyms.text?.getD "")).filter fun s => !s.isEmpty⟩

/-- **The groups of the table.** -/
def groups (table : SynonymTable) : Except OriginFault (List SynonymGroup) :=
  (rowsOf table.name (nameFault? table.name) table.rows).map fun rows =>
    (rows.mergeSort fun a b => a.term.le b.term).filterMap group?

/-- The table as a source of synonyms; it has no state. -/
def source {σ : Type} (table : SynonymTable) : SynonymSource σ where
  load := pure ⟨table.groups, false⟩

end SynonymTable

end Storefront
