import Storefront.Digest
import Storefront.Planner

/-!
# Keys of cached listings

A listing is cached under a key made from its statements, not from the request: parameters that
change nothing do not split the cache. The key begins with the name of the index, so that a write
to the catalog can drop all listings of an index at once; the rest is a digest, and nothing finer
than an index can be told from it.
-/

namespace Storefront

open Digest Sql

/-- What the keys of an index begin with. -/
def keyStem (index : String) : String :=
  "catalog_search:" ++ index ++ ":"

/-- The text that a key is the digest of: both statements and whether stock comes first, each on
a line of its own. -/
def keyText (select count : String) (inStockFirst : Bool) : String :=
  select ++ "\n" ++ count ++ "\n" ++ (if inStockFirst then "stock:1" else "stock:0")

/-- **The key of a planned page.** -/
def Plan.key (plan : Plan) (index : String) (inStockFirst : Bool) : String :=
  keyStem index ++ sha256 (keyText plan.select.render plan.count.render inStockFirst)

/-- A write that makes cached listings stale. -/
inductive WriteEvent where
  | documentChanged (id : Int)
  | stockChanged (id : Int)
  | synonymsChanged
  | settingsChanged
deriving DecidableEq

namespace WriteEvent

/-- The event's name in measurements. -/
def name : WriteEvent → String
  | .documentChanged _ => "document_changed"
  | .stockChanged _ => "stock_changed"
  | .synonymsChanged => "synonyms_changed"
  | .settingsChanged => "settings_changed"

/-- The event of a name, about a document if it is about one. -/
def ofName? (id : Int) : String → Option WriteEvent
  | "document_changed" => some (.documentChanged id)
  | "stock_changed" => some (.stockChanged id)
  | "synonyms_changed" => some .synonymsChanged
  | "settings_changed" => some .settingsChanged
  | _ => none

/-- The keys that the event makes stale: all of the index, whatever the event. -/
def pattern (_ : WriteEvent) (index : String) : String :=
  keyStem index ++ "*"

end WriteEvent

end Storefront
