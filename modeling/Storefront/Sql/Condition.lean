import Storefront.Number.Decimal
import Storefront.Sql.Literal

/-!
# Conditions

A statement restricts the documents by a conjunction of conditions, each on one field. They are
kept as data until a statement is written: what a filter asks for can then be compared with what
the conditions say, and the text of each condition is decided in one place, `Condition.render`.
-/

namespace Storefront.Sql

open Text

/-- A condition on the documents of an index. -/
inductive Condition where
  /-- The text fields match a full-text expression, which is already escaped. -/
  | fullText (expression : String)
  /-- The field has one of the values. -/
  | textAmong (field : String) (values : List String)
  /-- The field does not have the value. -/
  | textDiffers (field value : String)
  /-- The field has, or holds among its values, the identifier. -/
  | idIs (field : String) (id : Int)
  /-- The field has, or holds among its values, one of the identifiers. -/
  | idAmong (field : String) (ids : List Int)
  /-- The field has none of the identifiers. -/
  | idNotAmong (field : String) (ids : List Int)
  /-- The field is not below the bound. -/
  | atLeast (field : String) (bound : Binary64)
  /-- The field is not above the bound. -/
  | atMost (field : String) (bound : Binary64)
deriving DecidableEq

/-- Identifiers with commas between them. -/
def renderIds (ids : List Int) : String :=
  joinWith "," (ids.map toString)

namespace Condition

/-- **The text of a condition.** A set of one is written as an equation. -/
def render : Condition → String
  | .fullText expression => "MATCH('" ++ expression ++ "')"
  | .textAmong field [value] => field ++ " = " ++ literal value
  | .textAmong field values => field ++ " IN (" ++ joinWith "," (values.map literal) ++ ")"
  | .textDiffers field value => field ++ " != " ++ literal value
  | .idIs field id => field ++ " = " ++ toString id
  | .idAmong field [id] => field ++ " = " ++ toString id
  | .idAmong field ids => field ++ " IN (" ++ renderIds ids ++ ")"
  | .idNotAmong field ids => field ++ " NOT IN (" ++ renderIds ids ++ ")"
  | .atLeast field bound => field ++ " >= " ++ bound.toText
  | .atMost field bound => field ++ " <= " ++ bound.toText

end Condition

/-- The text of a conjunction, as a clause of a statement. -/
def renderWhere (conditions : List Condition) : String :=
  " WHERE " ++ joinWith " AND " (conditions.map Condition.render)

end Storefront.Sql
