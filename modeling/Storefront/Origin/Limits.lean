import Storefront.Origin.Clause

/-!
# What a database accepts

A database bounds what it is asked. Not every name can be that of a table. Two bounds are on the
text of a query, and whether it keeps to them is known before a table is looked at: how many values
are left open, and how deep its condition is nested. A conjunction is nested to the left, so it is
as deep as it has clauses and a little more. The third bound is on the length of a pattern, and a
pattern is measured when a row comes to it: a row that an earlier clause rules out does not.

Which bounds there are is a matter of the database (`DatabaseLimits`), not of the queries.

* `Prepared.refusal?` – which bound a conjunction exceeds first;
* `Prepared.meetsLongPattern` – whether a row comes to a pattern that is too long.
-/

namespace Storefront

/-- **What a database accepts**; everything, where there is no bound. -/
structure DatabaseLimits where
  /-- The complaint about a name that no table of it can have. -/
  nameFault? : String → Option DatabaseFault
  /-- The greatest number of open values of a query. -/
  openings : Option Nat
  /-- The greatest depth of a condition. -/
  depth : Option Nat
  /-- The greatest number of bytes of a pattern. -/
  patternBytes : Option Nat

namespace DatabaseLimits

/-- The limits of the database that the shop is kept in. -/
def standard : DatabaseLimits where
  nameFault? := Storefront.nameFault?
  openings := some 32766
  depth := some 1000
  patternBytes := some 50000

/-- A database that accepts everything. -/
def unlimited : DatabaseLimits where
  nameFault? := fun _ => none
  openings := none
  depth := none
  patternBytes := none

/-- Whether a number is beyond a bound. -/
def exceeds (n : Nat) (bound : Option Nat) : Bool :=
  bound.any (· < n)

end DatabaseLimits

namespace Clause

/-- The depth of a list of identifiers: a sign is applied to the number behind it. -/
def idsDepth (ids : List Int) : Nat :=
  if ids.any (· < 0) then 2 else 1

/-- **How deep a clause is nested**: a column and a value are one deep, a comparison one more than
what it compares, and of three comparisons joined by `OR` the first two lie below both joints. -/
def depth : Clause → Nat
  | .likeAnywhere => 4
  | .idAmong ids => idsDepth ids + 1
  | .idNotAmong ids => idsDepth ids + 1
  | _ => 2

end Clause

namespace Prepared

open DatabaseLimits (exceeds)

/-- The first bound that clauses exceed, read one after another: so many values have been left
open before them, and the conjunction is so deep already. -/
def refusalFrom? (limits : DatabaseLimits) (openings depth : Nat) :
    List Clause → Option DatabaseFault
  | [] => none
  | clause :: rest =>
    let openings := openings + clause.openings
    let depth := if depth = 0 then clause.depth else max depth clause.depth + 1
    if exceeds openings limits.openings then some .tooManyValues
    else if exceeds depth limits.depth then some .tooDeep
    else refusalFrom? limits openings depth rest

/-- **The bound that the text of the conjunction exceeds**, if any. -/
def refusal? (limits : DatabaseLimits) (prepared : Prepared) : Option DatabaseFault :=
  refusalFrom? limits 0 0 prepared.clauses

/-- Whether a row, going through the clauses up to one that rules it out, comes to a pattern that is
too long. -/
def meetsLong (collation : Collation) (limits : DatabaseLimits) (post : Post) :
    List Clause → List String → Bool
  | [], _ => false
  | clause :: rest, values =>
    let bound := values.take clause.openings
    (clause = .likeAnywhere &&
        bound.any fun pattern => exceeds pattern.utf8ByteSize limits.patternBytes) ||
      (clause.holds collation post bound &&
        meetsLong collation limits post rest (values.drop clause.openings))

/-- **Whether a row comes to a pattern that is too long.** Only the rows with the identifiers to
consider are looked at. -/
def meetsLongPattern (collation : Collation) (limits : DatabaseLimits) (prepared : Prepared)
    (post : Post) : Bool :=
  let considered : Clause → Bool
    | .idAmong ids => ids.contains post.id
    | .never => false
    | _ => true
  prepared.clauses.all considered &&
    meetsLong collation limits post prepared.clauses prepared.values

end Prepared

end Storefront
