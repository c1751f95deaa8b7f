import Storefront.SortedMap

/-!
# Placing documents

Two ways in which identifiers get their place.

* A store that is asked for documents by identifier returns them in any order; `orderByIds` puts
  them back into the order of the listing.
* Merchandisers pin documents to positions within a category: pinned documents lead the page by
  ascending position, and everything else keeps the order it came in (`PinBoard.apply`).
-/

namespace Storefront

/-! ### The order of a listing -/

/-- The items taken out of a stock, one for each identifier at which the stock still has one. -/
def takeInOrder {α : Type} (stock : SortedMap Int α) : List Int → List α
  | [] => []
  | id :: rest =>
    match stock.get? id with
    | some item => item :: takeInOrder (stock.erase id) rest
    | none => takeInOrder stock rest

/-- **The items in the order of the identifiers**: one for each identifier that has any, at its
first occurrence. Of several items with one identifier the last counts. -/
def orderByIds {α : Type} (idOf : α → Int) (items : List α) (ids : List Int) : List α :=
  takeInOrder (SortedMap.ofList (items.map fun item => (idOf item, item))) ids

/-! ### Pins -/

/-- A pin: a document of a category at a position. -/
structure Pin where
  category : Int
  document : Int
  position : Int
deriving DecidableEq

/-- The pins of all categories; of several for one document of a category the last counts. -/
structure PinBoard where
  pins : List Pin
deriving DecidableEq

namespace PinBoard

/-- The board without pins. -/
def empty : PinBoard := ⟨[]⟩

/-- The board with one more pin. -/
def add (board : PinBoard) (pin : Pin) : PinBoard :=
  ⟨board.pins ++ [pin]⟩

/-- Whether nothing is pinned. -/
def isEmpty (board : PinBoard) : Bool :=
  board.pins.isEmpty

/-- The position that a document is pinned to within a category. -/
def position? (board : PinBoard) (category document : Int) : Option Int :=
  (board.pins.reverse.find? fun pin => pin.category == category && pin.document == document).map
    (·.position)

/-- Whether a document may stand before another: by position, pinned before unpinned. -/
def precedes (board : PinBoard) (category a b : Int) : Bool :=
  match board.position? category a, board.position? category b with
  | some p, some q => p ≤ q
  | some _, none => true
  | none, some _ => false
  | none, none => true

/-- **The identifiers of a page with the pinned ones in front**, by ascending position; ties and
all others keep their order. -/
def apply (board : PinBoard) (category : Int) (ids : List Int) : List Int :=
  ids.mergeSort (board.precedes category)

end PinBoard

end Storefront
