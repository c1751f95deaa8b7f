import Storefront.Filter.Order
import Storefront.Sql.Condition

/-!
# Statements

The four statements that a search sends to the engine: a page of identifiers, the number of
matches, the number of matches by stock status, and the number of matches by term of a taxonomy.
All four carry the conditions of the search; only the page is sorted and ranked.

`Statement.render` is what the engine reads.
-/

namespace Storefront.Sql

open Text

/-- How the matches of a text are ranked: the weight of each field, and the ranking formula. -/
structure Ranking where
  weights : List (String × Nat)
  ranker : String
deriving DecidableEq

/-- A statement to the engine. -/
inductive Statement where
  /-- `rows` identifiers from `offset` on, in order, of which the engine ranks `window`; with the
  relevance of each if `scored`. -/
  | page (index : String) (conditions : List Condition) (scored : Bool) (order : SortOrder)
      (offset rows window : Nat) (ranking : Option Ranking)
  /-- The number of matches. -/
  | count (index : String) (conditions : List Condition)
  /-- The number of matches for each stock status. -/
  | countByStock (index : String) (conditions : List Condition)
  /-- One identifier and, as a second set, the number of matches for each value of a field. -/
  | facet (index : String) (conditions : List Condition) (field : String) (window limit : Nat)
deriving DecidableEq

/-- The column that a key sorts by. -/
def sortColumn : SortKey → String
  | .relevance => "relevance"
  | .price => "price"
  | .popularity => "total_sales"
  | .rating => "average_rating"
  | .date => "post_date"
  | .id => "id"
  | .menuOrder => "menu_order"

/-- The text of a sort order; identifiers break ties, so that pages never overlap. -/
def renderOrder (order : SortOrder) : String :=
  let column := sortColumn order.key ++ " " ++ order.direction.keyword
  if order.key = .id then column else column ++ ", id ASC"

/-- The text of a ranking, after the options before it. -/
def renderRanking : Option Ranking → String
  | none => ""
  | some ranking =>
    let weights := ranking.weights.map fun (field, weight) => field ++ "=" ++ toString weight
    ", field_weights=(" ++ joinWith ", " weights ++ "), ranker=" ++ ranking.ranker

namespace Statement

/-- **The text of a statement.** -/
def render : Statement → String
  | .page index conditions scored order offset rows window ranking =>
    "SELECT " ++ (if scored then "id, WEIGHT() AS relevance" else "id") ++ " FROM " ++ index ++
      renderWhere conditions ++ " ORDER BY " ++ renderOrder order ++
      " LIMIT " ++ toString offset ++ "," ++ toString rows ++
      " OPTION max_matches=" ++ toString window ++ renderRanking ranking
  | .count index conditions =>
    "SELECT COUNT(*) FROM " ++ index ++ renderWhere conditions
  | .countByStock index conditions =>
    "SELECT stock_status, COUNT(*) AS cnt FROM " ++ index ++ renderWhere conditions ++
      " GROUP BY stock_status"
  | .facet index conditions field window limit =>
    "SELECT id FROM " ++ index ++ renderWhere conditions ++
      " LIMIT 0,1 OPTION max_matches=" ++ toString window ++
      " FACET " ++ field ++ " ORDER BY COUNT(*) DESC LIMIT " ++ toString limit

end Statement

end Storefront.Sql
