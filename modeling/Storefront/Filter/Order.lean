import Storefront.Text.Words

/-!
# Sort orders

What a listing may be sorted by, and in which direction. Each key has a natural direction –
cheapest first, but newest first – that counts when none is asked for. A request names the key
with one parameter and, if it likes, the direction with another; `price-desc` is one name for both
and then the direction's own parameter is not looked at.
-/

namespace Storefront

open Text

/-- What a listing may be sorted by. -/
inductive SortKey where
  | relevance
  | price
  | popularity
  | rating
  | date
  | id
  | menuOrder
deriving DecidableEq

/-- The direction of a sort. -/
inductive Direction where
  | ascending
  | descending
deriving DecidableEq

namespace Direction

/-- The direction in a statement. -/
def keyword : Direction → String
  | .ascending => "ASC"
  | .descending => "DESC"

/-- The direction that a parameter names, in any case of letters. -/
def ofText? (s : String) : Option Direction :=
  match lowerAscii (trim s) with
  | "asc" => some .ascending
  | "desc" => some .descending
  | _ => none

end Direction

/-- The direction that a key is sorted in when none is asked for. -/
def SortKey.naturalDirection : SortKey → Direction
  | .price | .id | .menuOrder => .ascending
  | .relevance | .popularity | .rating | .date => .descending

/-- A sort key and its direction. -/
structure SortOrder where
  key : SortKey
  direction : Direction
deriving DecidableEq

namespace SortOrder

/-- The key in its natural direction. -/
def natural (key : SortKey) : SortOrder :=
  ⟨key, key.naturalDirection⟩

/-- The key that a parameter names, with the direction if the name implies one. -/
def keyOfText? (s : String) : Option (SortKey × Option Direction) :=
  match lowerAscii (trim s) with
  | "relevance" => some (.relevance, none)
  | "price" => some (.price, none)
  | "price-desc" => some (.price, some .descending)
  | "popularity" => some (.popularity, none)
  | "rating" => some (.rating, none)
  | "date" => some (.date, none)
  | "id" => some (.id, none)
  | "menu_order" => some (.menuOrder, none)
  | "menu_order title" => some (.menuOrder, none)
  | _ => none

/-- **The order of two parameters**, the key's and, if present, the direction's. The direction is
the one that the key's name implies, else the one asked for, else the natural one. -/
def ofTexts? (key : String) (direction : Option String) : Option SortOrder :=
  (keyOfText? key).map fun (k, implied) =>
    let asked := implied.or (direction.bind Direction.ofText?)
    ⟨k, asked.getD k.naturalDirection⟩

end SortOrder

end Storefront
