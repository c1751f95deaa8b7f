import Storefront.Engine.Basic
import Storefront.Planner

/-!
# Scripted engines

An engine for rehearsals, which needs no index. It answers from a script of rules, each a text to
look for in the statement and a reply that may be used up; a statement that no rule answers goes
to a small catalog, whose documents match every search and differ in relevance and stock only.

The catalog understands a statement as far as paging goes: which half of the stock it asks for,
whether it counts, and which rows it wants.
-/

namespace Storefront

open Number Text

/-! ### The catalog -/

/-- A document of the catalog. -/
structure CatalogItem where
  id : Int
  relevance : Int
  /-- The stock status, if the document has one. -/
  stock : Option String
deriving DecidableEq

namespace Catalog

/-- The documents by relevance, the greatest first, those of one relevance by identifier. -/
def ranked (items : List CatalogItem) : List CatalogItem :=
  items.mergeSort fun a b =>
    decide (b.relevance < a.relevance) || (a.relevance == b.relevance && decide (a.id ≤ b.id))

/-- Whether a text occurs in a statement. -/
def mentions (statement text : String) : Bool :=
  containsRun text.toList statement.toList

/-- The documents of the half of the stock that a statement asks for. -/
def half (items : List CatalogItem) (statement : String) : List CatalogItem :=
  if mentions statement "stock_status = 'instock'" then
    items.filter fun item => item.stock == some StockStatus.inStock.text
  else if mentions statement "stock_status != 'instock'" then
    items.filter fun item => item.stock != some StockStatus.inStock.text
  else items

/-- How many documents have each status, the statuses in the order of their first document. -/
def stockCounts (items : List CatalogItem) : List (Option String × Nat) :=
  (items.map (·.stock)).eraseDups.map fun status =>
    (status, items.countP fun item => item.stock == status)

/-- The rows that a statement wants: how many to pass over, and how many to take. -/
def window (statement : String) : Nat × Nat :=
  let limit := ((after? " LIMIT ".toList statement.toList).getD []).takeWhile (!isBlank ·)
  let fields := fieldsBy ',' limit
  let read (i default : Nat) := ((fields[i]?).bind (readUpTo? maxCount)).getD default
  (read 0 0, read 1 20)

/-- The status of a document as a cell. -/
def stockCell : Option String → Cell
  | some status => .text status
  | none => .null

/-- **The catalog's answer to a statement.** -/
def answer (items : List CatalogItem) (statement : String) : Answer :=
  let items := half (ranked items) statement
  if mentions statement "GROUP BY stock_status" then
    .single ⟨["stock_status", "cnt"],
      (stockCounts items).map fun (status, n) => [stockCell status, .whole n]⟩
  else if "SELECT COUNT(*)".toList.isPrefixOf statement.toList then
    .single ⟨["count(*)"], [[.whole items.length]]⟩
  else
    let (offset, count) := window statement
    .single ⟨["id", "relevance"],
      ((items.drop offset).take count).map fun item => [.whole item.id, .whole item.relevance]⟩

end Catalog

/-! ### The script -/

/-- A reply to the statements that hold a text, as often as it is not used up. -/
structure ScriptRule where
  contains : String
  /-- How often the rule may still be used; `none` without limit. -/
  times : Option Nat
  reply : Reply

/-- A script: the rules, the first that applies wins, and what answers if none does. -/
structure Script where
  rules : List ScriptRule
  catalog : Option (List CatalogItem)
  healthy : Bool

namespace Script

/-- Whether a rule answers the statement. -/
def applies (statement : String) (rule : ScriptRule) : Bool :=
  rule.times != some 0 && containsRun rule.contains.toList statement.toList

/-- The reply of the first rule that answers the statement, with the rules left after its use. -/
def useRule? (statement : String) : List ScriptRule → Option (Reply × List ScriptRule)
  | [] => none
  | rule :: rest =>
    if applies statement rule then
      some (rule.reply, { rule with times := rule.times.map (· - 1) } :: rest)
    else (useRule? statement rest).map fun (reply, rest) => (reply, rule :: rest)

/-- The reply to a statement, with the script after it. -/
def reply (statement : String) (script : Script) : Reply × Script :=
  match useRule? statement script.rules with
  | some (reply, rules) => (reply, { script with rules := rules })
  | none =>
    match script.catalog with
    | some items => (.ok (Catalog.answer items statement), script)
    | none => (.ok .empty, script)

/-- **The engine that plays a script.** -/
def engine : Engine Script where
  execute statement := fun script => reply statement script
  probe := fun script => (script.healthy, script)

end Script

end Storefront
