import Storefront.Number.Decimal

/-!
# JSON documents

Settings, filters and cached listings are exchanged as JSON documents. A document keeps apart
whole numbers and fractional ones, because a field that asks for a count takes `2` and refuses
`2.0`. The readers below say which documents a field of each kind accepts; a record reads its
fields through `Json.record?`, an enumeration through `Json.variant?`.
-/

namespace Storefront

/-- A JSON document. The members of an object have distinct names. -/
inductive Json where
  | null
  | bool (value : Bool)
  | whole (value : Int)
  | fraction (value : Binary64)
  | text (value : String)
  | list (items : List Json)
  | object (members : List (String × Json))
deriving Inhabited

namespace Json

open Number

/-! ### Fields of one value -/

/-- A truth value. -/
def bool? : Json → Option Bool
  | .bool value => some value
  | _ => none

/-- A text. -/
def text? : Json → Option String
  | .text value => some value
  | _ => none

/-- A whole number between two bounds. -/
def between? (low high : Int) : Json → Option Int
  | .whole value => if low ≤ value ∧ value ≤ high then some value else none
  | _ => none

/-- A signed number of 64 bits. -/
def id? : Json → Option Int :=
  between? minId maxId

/-- A natural number up to `greatest`. -/
def upTo? (greatest : Nat) (json : Json) : Option Nat :=
  (json.between? 0 greatest).map Int.toNat

/-- A number, whole or fractional. -/
def number? : Json → Option Binary64
  | .whole value => some (.ofInt value)
  | .fraction value => some value
  | _ => none

/-- A list whose items all read. -/
def list? {α : Type} (item? : Json → Option α) : Json → Option (List α)
  | .list items => items.mapM item?
  | _ => none

/-- A field that may be `null`. -/
def nullable? {α : Type} (value? : Json → Option α) : Json → Option (Option α)
  | .null => some none
  | json => (value? json).map some

/-! ### Records and enumerations -/

/-- The member of an object with the given name. -/
def member? (name : String) : Json → Option Json
  | .object members => (members.find? (·.1 = name)).map (·.2)
  | _ => none

/-- **How a record with optional fields is laid out**: as an object with the fields by name, or as
a list of the first fields in order. The answer looks a field up by its name. -/
def leadingFields? (names : List String) : Json → Option (String → Option Json)
  | .object members => some fun name => (members.find? (·.1 = name)).map (·.2)
  | .list items =>
    if items.length ≤ names.length then
      some fun name => ((names.zip items).find? (·.1 = name)).map (·.2)
    else none
  | _ => none

/-- **How a record is laid out**: as an object with the fields by name, or as a list with exactly
the fields in order. -/
def record? (names : List String) (json : Json) : Option (String → Option Json) :=
  match json with
  | .list items => if items.length = names.length then json.leadingFields? names else none
  | _ => json.leadingFields? names

/-- The value of a field that may be absent or `null`. -/
def absentOr? {α : Type} (value? : Json → Option α) : Option Json → Option (Option α)
  | none => some none
  | some json => nullable? value? json

/-- A value of an enumeration: its name, alone or as the one member of an object that holds what
the name is applied to. -/
def variant? : Json → Option (String × Json)
  | .text name => some (name, .null)
  | .object [(name, argument)] => some (name, argument)
  | _ => none

/-- A value of an enumeration of plain names. -/
def named? {α : Type} (ofName? : String → Option α) (json : Json) : Option α :=
  match json.variant? with
  | some (name, .null) => ofName? name
  | _ => none

/-! ### Building -/

/-- A list of identifiers. -/
def ofIds (ids : List Int) : Json :=
  .list (ids.map .whole)

/-- A list of texts. -/
def ofTexts (texts : List String) : Json :=
  .list (texts.map .text)

/-- A natural number. -/
def ofNat (n : Nat) : Json :=
  .whole n

/-- A value that may be absent, written as `null`. -/
def ofOption {α : Type} (encode : α → Json) : Option α → Json
  | none => .null
  | some value => encode value

/-- A fractional number; `null` if it is not finite. -/
def ofNumber (x : Binary64) : Json :=
  if x.isFinite then .fraction x else .null

end Json

end Storefront
