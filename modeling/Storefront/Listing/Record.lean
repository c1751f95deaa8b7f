import Storefront.Json.Reader
import Storefront.Json.Writer
import Storefront.Listing.Basic
import Storefront.Span

/-!
# Listings as JSON records

An external result cache keeps listings as records. Every field has to be there; members of other
names are passed over, except in the latency, which consists of whole seconds and nanoseconds and
nothing else. The scores are an object whose names are identifiers in decimal. A score that is not
finite is written as `null` and does not read back.
-/

namespace Storefront

open Number

/-! ### Scores and latency -/

/-- The identifier that a member of the scores is named by. -/
def scoreId? (name : String) : Option Int :=
  match Json.leadingNumber? name.toList with
  | some (json, []) => json.id?
  | _ => none

/-- The record of scores. -/
def scoresToJson (scores : SortedMap Int Binary64) : Json :=
  .object (scores.entries.map fun (id, score) => (toString id, .ofNumber score))

/-- The scores of a record. -/
def scoresOfJson? : Json → Option (SortedMap Int Binary64)
  | .object members => do
    let entries ← members.mapM fun (name, json) => do
      let id ← scoreId? name
      let score ← json.number?
      pure (id, score)
    pure (SortedMap.ofList entries)
  | _ => none

/-- The record of a span of time. -/
def spanToJson (span : Nat) : Json :=
  .object [("secs", .ofNat (Span.wholeSeconds span)), ("nanos", .ofNat (Span.restNanos span))]

/-- Whether a record has members of these names only. -/
def hasOnly (names : List String) : Json → Bool
  | .object members => members.all fun (name, _) => names.contains name
  | _ => true

/-- The span of a record; a thousand million nanoseconds carry into the seconds, which have to
stay within their word. -/
def spanOfJson? (json : Json) : Option Nat := do
  let field ← json.record? ["secs", "nanos"]
  let secs ← (← field "secs").upTo? maxCount
  let nanos ← (← field "nanos").upTo? maxPage
  let span := Span.seconds secs + nanos
  if hasOnly ["secs", "nanos"] json && Span.wholeSeconds span ≤ maxCount then pure span else none

/-! ### Listings -/

namespace Listing

/-- The fields of a listing's record, in order. -/
def fieldNames : List String :=
  ["total", "ids", "scores", "latency", "fallback", "source", "page", "page_size", "max_pages"]

/-- **The record of a listing.** -/
def toJson (listing : Listing) : Json :=
  .object
    [("total", .ofNat listing.total),
     ("ids", .ofIds listing.ids),
     ("scores", scoresToJson listing.scores),
     ("latency", spanToJson listing.latency),
     ("fallback", .bool listing.fallback),
     ("source", .text listing.source.name),
     ("page", .ofNat listing.page),
     ("page_size", .ofNat listing.pageSize),
     ("max_pages", .ofNat listing.maxPages)]

/-- **The listing of a record.** -/
def ofJson? (json : Json) : Option Listing := do
  let field ← json.record? fieldNames
  let total ← (← field "total").upTo? maxCount
  let ids ← (← field "ids").list? Json.id?
  let scores ← scoresOfJson? (← field "scores")
  let latency ← spanOfJson? (← field "latency")
  let fallback ← (← field "fallback").bool?
  let source ← (← field "source").named? Source.ofName?
  let page ← (← field "page").upTo? maxPage
  let pageSize ← (← field "page_size").upTo? maxPage
  let maxPages ← (← field "max_pages").upTo? maxCount
  pure { total, ids, scores, latency, fallback, source, page, pageSize, maxPages }

/-- **A listing as an external cache keeps it**: the text of its record. -/
def toText (listing : Listing) : String :=
  listing.toJson.render

/-- The listing that a text is the record of. -/
def ofText? (s : String) : Option Listing :=
  (Json.ofText? s).bind ofJson?

end Listing

end Storefront
