import Storefront.Origin.Limits

/-!
# The table of posts

The origin store over a table of posts, whose rows are kept by identifier. A search counts the
rows for which the clauses of the query hold and takes a page of them, the latest first and of one
date the greatest identifier first; the table compares nothing but what the clauses say.

A table may be missing, and then every question that reaches it fails. What is wrong with a query
is found in the order in which the database reads it: the table's name, the condition, whether there
is such a table, and then what the rows meet.
-/

namespace Storefront

open Number

/-- A database with, perhaps, a table of posts: its name and its rows. -/
structure PostTable where
  name : String
  /-- The rows, no two with one identifier; `none` if the table does not exist. -/
  rows : Option (List Post)

namespace PostTable

/-- The rows of the table for a query in whose condition a fault may have been found. -/
def rowsUnless (table : PostTable) (limits : DatabaseLimits) (fault? : Option DatabaseFault) :
    Except OriginFault (List Post) :=
  rowsOf table.name ((limits.nameFault? table.name).or fault?) table.rows

/-- Whether one row comes before another: the later date, or of one date the greater
identifier. -/
def latestFirst (a b : Post) : Bool :=
  if a.date = b.date then decide (b.id ≤ a.id) else b.date.le a.date

/-- The greatest number of rows that a database passes over or takes. -/
def cap (n : Nat) : Nat :=
  min n maxId.toNat

/-- **The page of a query**, from a database of some collation and some limits. The matches are
counted first; to take a page of them, two more values are left open. -/
def searchWithin (table : PostTable) (collation : Collation) (limits : DatabaseLimits)
    (query : OriginQuery) : Except OriginFault OriginPage := do
  let prepared := Prepared.ofQuery query
  let rows ← table.rowsUnless limits (prepared.refusal? limits)
  if rows.any (prepared.meetsLongPattern collation limits) then throw (.database .patternTooLong)
  if DatabaseLimits.exceeds (prepared.values.length + 2) limits.openings then
    throw (.database .tooManyValues)
  let found := rows.filter (prepared.holds collation)
  let page := ((found.mergeSort latestFirst).drop (cap query.offset)).take (cap query.limit)
  pure ⟨page.map (·.id), found.length⟩

/-- The page of a query, from the database that the shop is kept in. -/
def search (table : PostTable) (query : OriginQuery) : Except OriginFault OriginPage :=
  table.searchWithin .standard .standard query

/-- What is shown of a row; what does not read as text is shown as nothing. -/
def document (post : Post) : Document where
  id := post.id
  postType := post.postType.text?.getD ""
  title := post.title.text?.getD ""

/-- **The documents with the given identifiers**, by identifier. Without any the table is not
asked. -/
def fetch (table : PostTable) (ids : List Int) : Except OriginFault (List Document) :=
  if ids.isEmpty then .ok []
  else
    (table.rowsUnless .standard none).map fun rows =>
      ((rows.filter fun post => ids.contains post.id).mergeSort fun a b => decide (a.id ≤ b.id)).map
        document

/-- The table as an origin store; it has no state. -/
def origin {σ : Type} (table : PostTable) : Origin σ where
  search query := pure (table.search query)
  fetch ids := pure (table.fetch ids)

end PostTable

end Storefront
