import Storefront.Engine.Basic
import Storefront.Planner

/-!
# Fetching a page

A page of a search takes two statements: the page itself, and the number of matches.

Where everything in stock has to come first, *across all pages*, the matches are treated as one
sequence – those in stock, then all others – of which the page is a slice, without the sequence
ever being fetched. One statement counts both halves. With `k` matches in stock and `m` others,
the page of `size` matches from `offset` on is

| where the page begins | what is fetched |
| --- | --- |
| `offset < k` | `size` from `offset` on in stock, and if those run short the rest from the others |
| `k ≤ offset < k + m` | `size` from `offset - k` on among the others |
| `k + m ≤ offset` | nothing |

Both halves are sorted alike and ties are broken by identifier, so neighbouring pages neither
overlap nor leave a gap. It takes three statements at most.

The pages are fetched through a function that asks the engine, in any monad: a guarded engine in a
search, a plain one elsewhere.
-/

namespace Storefront

open Number

/-- The rows of a page, with the number of all matches and of the statements it took. -/
structure PageRows where
  ids : List Int
  scores : SortedMap Int Binary64
  total : Nat
  roundTrips : Nat
deriving DecidableEq

namespace PageRows

/-- The page before any row. -/
def empty : PageRows := ⟨[], ∅, 0, 0⟩

/-- The page with one more document. -/
def addRow (page : PageRows) (row : Int × Option Binary64) : PageRows :=
  { page with
    ids := page.ids ++ [row.1]
    scores := match row.2 with
      | some score => page.scores.insert row.1 score
      | none => page.scores }

/-- The page with the rows of one more answer. -/
def addRows (page : PageRows) (rows : List (Int × Option Binary64)) : PageRows :=
  rows.foldl addRow page

end PageRows

namespace Planner

variable {m : Type → Type} [Monad m]

/-- Ask for rows and read them. -/
def askRows (ask : String → ExceptT EngineFault m Answer) (statement : Sql.Statement) :
    ExceptT EngineFault m (List (Int × Option Binary64)) := do
  let answer ← ask statement.render
  MonadExcept.ofExcept answer.scoredIds

/-- **The page of a filter in the engine's order.** -/
def rankedPage (planner : Planner) (ask : String → ExceptT EngineFault m Answer)
    (filter : Filter) : ExceptT EngineFault m PageRows := do
  let plan := planner.plan filter
  let rows ← askRows ask plan.select
  let answer ← ask plan.count.render
  let total ← MonadExcept.ofExcept answer.total
  return { PageRows.empty.addRows rows with total := total, roundTrips := 2 }

/-- The number of matches in stock and of all others, from the counts by status. -/
def stockHalves (counts : SortedMap String Nat) : Nat × Nat :=
  let inStock := StockStatus.inStock.text
  ((counts.get? inStock).getD 0,
    counts.entries.foldl (fun sum (status, n) =>
      if status = inStock then sum else addCounts sum n) 0)

/-- The number of matches in stock and of all others. Documents without a status count among the
others. -/
def askStockHalves (planner : Planner) (ask : String → ExceptT EngineFault m Answer)
    (filter : Filter) : ExceptT EngineFault m (Nat × Nat) := do
  let answer ← ask (planner.countByStock filter).render
  let set := answer.primary
  if set.rows.isEmpty then return (0, 0)
  let counts ← MonadExcept.ofExcept (set.countsBy 0 fun cell => some (cell.text?.getD ""))
  return stockHalves counts

/-- **The page of a filter with everything in stock first.** -/
def inStockFirstPage (planner : Planner) (ask : String → ExceptT EngineFault m Answer)
    (filter : Filter) : ExceptT EngineFault m PageRows := do
  let (inStock, others) ← planner.askStockHalves ask filter
  let offset := filter.offset
  let size := max filter.pageSize 1
  let page : PageRows :=
    { PageRows.empty with total := addCounts inStock others, roundTrips := 1 }
  if offset < inStock then
    let rows ← askRows ask (planner.page filter (some .inStock) offset size)
    let page := { page.addRows rows with roundTrips := 2 }
    if rows.length < size && 0 < others then
      let rest ← askRows ask (planner.page filter (some .otherwise) 0 (size - rows.length))
      return { page.addRows rest with roundTrips := 3 }
    else return page
  else if offset - inStock < others then
    let rows ← askRows ask (planner.page filter (some .otherwise) (offset - inStock) size)
    return { page.addRows rows with roundTrips := 2 }
  else return page

/-- The page of a filter, in whichever of the two ways it asks for. -/
def fetchPage (planner : Planner) (ask : String → ExceptT EngineFault m Answer)
    (filter : Filter) : ExceptT EngineFault m PageRows :=
  if filter.inStockFirst then planner.inStockFirstPage ask filter
  else planner.rankedPage ask filter

end Planner

end Storefront
