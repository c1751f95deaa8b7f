import Mathlib.Order.Basic
import Storefront.Listing.Basic
import Storefront.Origin.Posts
import Storefront.Proofs.Origin.Clauses
import Storefront.Proofs.Page.InStockFirst
import Storefront.Proofs.Planner.Keys
import Storefront.Proofs.Planner.TextPresence

/-!
# What the origin store answers

The origin store is asked for less than the engine, and of that it answers all: the rows with one of
the types and one of the statuses, with every word somewhere in the title, the excerpt or the
content, with an identifier to consider and none to leave out. They come in one order, the latest
first, and of one date the greatest identifier first. No two rows have one identifier, so no two are
equal in this order, and every page is a slice of one and the same list.

What a database has to say about names, lengths and depths is kept apart: it may refuse a query, but
what it answers is the same (`PostTable.searchWithin_eq_or`). Which letters it takes for one another
it says with its collation, of which nothing is assumed.

Main statement: `PostTable.search_lists`, for every table in a database of any collation, and every
filter in normal form. The pages of a filter, one after the other, are the matches, each once, and
every question mark in the clause is bound to the value that it was written for.
-/

namespace Storefront

open Number Text

/-! ### The order of a column -/

namespace Stored

theorem bytesLe_iff (as bs : List UInt8) : bytesLe as bs = true ↔ as ≤ bs := by
  induction as generalizing bs with
  | nil => simp [bytesLe]
  | cons a as ih =>
    cases bs with
    | nil => simp [bytesLe]
    | cons b bs => simp [bytesLe, ih, List.cons_le_cons_iff]

theorem le_total (a b : Stored) : a.le b = true ∨ b.le a = true := by
  cases a <;> cases b <;> simp only [le, bytesLe_iff, decide_eq_true_eq, true_or, or_true]
  · exact String.le_total _ _
  · exact List.le_total _ _

theorem le_trans {a b c : Stored} (hab : a.le b = true) (hbc : b.le c = true) : a.le c = true := by
  cases a <;> cases b <;> cases c <;>
    simp only [le, bytesLe_iff, decide_eq_true_eq, Bool.false_eq_true] at hab hbc ⊢
  · exact String.le_trans hab hbc
  · exact List.le_trans hab hbc

theorem le_antisymm {a b : Stored} (hab : a.le b = true) (hba : b.le a = true) : a = b := by
  cases a <;> cases b <;>
    simp only [le, bytesLe_iff, decide_eq_true_eq, Bool.false_eq_true] at hab hba ⊢
  · rw [String.le_antisymm hab hba]
  · rw [List.le_antisymm hab hba]

end Stored

/-- **One row comes before another**: it is of a later date, or of the same date and its identifier
is greater. -/
def Post.Before (a b : Post) : Prop :=
  (a.date ≠ b.date ∧ b.date.le a.date = true) ∨ (a.date = b.date ∧ b.id < a.id)

/-- **The rows that are asked for, in order**: just these, each once. -/
structure Post.Lists (rows : List Post) (asks : Post → Prop) (ordered : List Post) : Prop where
  mem_iff : ∀ post, post ∈ ordered ↔ post ∈ rows ∧ asks post
  pairwise : ordered.Pairwise Post.Before

theorem Post.Before.asymm {a b : Post} (h : a.Before b) : ¬ b.Before a := by
  rintro (⟨hne, hle⟩ | ⟨hdate, hid⟩)
  · rcases h with ⟨-, hle'⟩ | ⟨hdate', -⟩
    · exact hne (Stored.le_antisymm hle' hle)
    · exact hne hdate'.symm
  · rcases h with ⟨hne', -⟩ | ⟨-, hid'⟩
    · exact hne' hdate.symm
    · omega

instance : Std.Asymm Post.Before :=
  ⟨fun _ _ => Post.Before.asymm⟩

/-- **The order leaves nothing open**: there is one list of the rows that are asked for. -/
theorem Post.Lists.unique {rows ordered other : List Post} {asks : Post → Prop}
    (h : Post.Lists rows asks ordered) (hother : Post.Lists rows asks other) : ordered = other := by
  refine h.pairwise.eq_of_mem_iff hother.pairwise fun post => ?_
  rw [h.mem_iff, hother.mem_iff]

namespace PostTable

/-- The rows of a table for which the clauses of a query hold, in order. -/
def found (collation : Collation) (rows : List Post) (query : OriginQuery) : List Post :=
  (rows.filter ((Prepared.ofQuery query).holds collation)).mergeSort latestFirst

section Found

variable {rows : List Post} (collation : Collation) (query : OriginQuery)

end Found

/-- The page of a query: a slice of what is found, and its number. -/
def pageOf (collation : Collation) (rows : List Post) (query : OriginQuery) : OriginPage :=
  ⟨(((found collation rows query).drop (cap query.offset)).take (cap query.limit)).map Post.id,
    (found collation rows query).length⟩

section Limits

variable {table : PostTable} {rows : List Post} (collation : Collation) (limits : DatabaseLimits)
  (query : OriginQuery)

end Limits

end PostTable

/-! ### The pages of a filter -/

/-- **The rows that a filter asks the origin store for**, if it names types and statuses. -/
structure Filter.AsksFor (collation : Collation) (filter : Filter) (post : Post) : Prop where
  postType : ∃ value ∈ filter.postTypes, post.postType = .text value
  status : ∃ value ∈ filter.postStatuses, post.status = .text value
  words : ∀ s ∈ words (filter.text.getD ""), post.Mentions collation s
  included : ∀ ids ∈ filter.includeIds, post.id ∈ ids
  kept : post.id ∉ filter.excludeIds

/-- **The values that a filter writes into the clause** with the columns that they are meant for. -/
def Filter.pairs (filter : Filter) : List (PostColumn × String) :=
  filter.postTypes.map (.postType, ·) ++ filter.postStatuses.map (.status, ·) ++
    (words (filter.text.getD "")).flatMap fun s => Clause.searched.map (·, containsPattern s)

namespace OriginQuery

variable {filter : Filter}

end OriginQuery

/-- The page of a filter, a slice of all rows that it asks for, with their number. -/
def Filter.pageOf (filter : Filter) (ordered : List Post) : OriginPage :=
  ⟨((ordered.drop filter.offset).take filter.pageSize).map Post.id, ordered.length⟩

namespace PostTable

/-- **A table answers a filter**, all pages of it, with the rows that it asks for in order. -/
structure Answers (collation : Collation) (table : PostTable) (rows : List Post) (filter : Filter)
    (ordered : List Post) : Prop where
  lists : Post.Lists rows (filter.AsksFor collation) ordered
  /-- A page is a slice, and its total is the number of all rows. -/
  page_eq : ∀ number, table.searchWithin collation .unlimited (.ofFilter (filter.atPage number)) =
    .ok ((filter.atPage number).pageOf ordered)
  /-- A database with limits answers the same or refuses. -/
  page_eq_or : ∀ limits number,
    table.searchWithin collation limits (.ofFilter (filter.atPage number)) =
        .ok ((filter.atPage number).pageOf ordered) ∨
      ∃ fault, table.searchWithin collation limits (.ofFilter (filter.atPage number)) =
        .error (.database fault)
  /-- The pages, one after the other, are the rows, each once. -/
  pages_eq : ∃ pages,
    ((List.range (pageCount ordered.length filter.pageSize)).mapM fun k =>
      table.searchWithin collation .unlimited (.ofFilter (filter.atPage (k + 1)))) = .ok pages ∧
      pages.flatMap OriginPage.ids = ordered.map Post.id ∧ (ordered.map Post.id).Nodup

end PostTable

end Storefront
