import Storefront.Fault
import Storefront.Number.Decimal
import Storefront.SortedMap
import Storefront.Text.Words

/-!
# Answers of the engine

An answer is a list of result sets – one for a plain statement, a further one for a facet – and a
result set is a table of cells under named columns. Cells come in the types that the engine sends
and are read leniently: a count may arrive as text. Names of columns are compared without regard
to the case of ASCII letters.

* `Answer.scoredIds` – a page: identifiers with their relevance;
* `Answer.total` – a number of matches;
* `ResultSet.countsBy` – numbers of matches by value.
-/

namespace Storefront

open Number Text

/-! ### Cells -/

/-- One value of a table. -/
inductive Cell where
  | whole (value : Int)
  | number (value : Binary64)
  | text (value : String)
  | null
deriving DecidableEq

namespace Cell

/-- The cell as a signed number: fractions are cut off, and text has to spell one. -/
def id? : Cell → Option Int
  | .whole value => some value
  | .number value => some value.toId
  | .text value => readId? (trimChars value.toList)
  | .null => none

/-- The cell as a fractional number. -/
def number? : Cell → Option Binary64
  | .whole value => some (.ofInt value)
  | .number value => some value
  | .text value => Binary64.read? (trimChars value.toList)
  | .null => none

/-- The cell's text, if it is one. -/
def text? : Cell → Option String
  | .text value => some value
  | _ => none

end Cell

/-! ### Result sets -/

/-- A table; its rows may be shorter or longer than its columns. -/
structure ResultSet where
  columns : List String
  rows : List (List Cell)
deriving DecidableEq

namespace ResultSet

/-- The table without columns and rows. -/
def empty : ResultSet := ⟨[], []⟩

instance : Inhabited ResultSet := ⟨empty⟩

/-- The place of the first column of a name. -/
def columnIndex? (set : ResultSet) (name : String) : Option Nat :=
  set.columns.findIdx? (sameLetters · name)

/-- The signed numbers of a column; rows without one are passed over. -/
def idColumn (set : ResultSet) (name : String) : Except EngineFault (List Int) :=
  match set.columnIndex? name with
  | none => .error (.unreadable (.noColumn name))
  | some i => .ok (set.rows.filterMap fun row => row[i]?.bind Cell.id?)

/-- The place of the column of counts, under either of its names. -/
def countIndex? (set : ResultSet) : Option Nat :=
  (set.columnIndex? "count(*)").or (set.columnIndex? "cnt")

/-- The counts with those of one more row, if it has a key and a count. -/
def addRow {κ : Type} [Ord κ] [Std.TransOrd κ] [Std.LawfulEqOrd κ] (keyColumn countColumn : Nat)
    (key? : Cell → Option κ) (counts : SortedMap κ Nat) (row : List Cell) : SortedMap κ Nat :=
  match row[keyColumn]?.bind key?, row[countColumn]?.bind Cell.id? with
  | some k, some n =>
    counts.insert k (addCounts ((counts.get? k).getD 0) (countOfId n))
  | _, _ => counts

/-- **The counts by key**, those of one key added up. -/
def countsBy {κ : Type} [Ord κ] [Std.TransOrd κ] [Std.LawfulEqOrd κ] (set : ResultSet)
    (keyColumn : Nat) (key? : Cell → Option κ) : Except EngineFault (SortedMap κ Nat) :=
  match set.countIndex? with
  | none => .error (.unreadable .noCounts)
  | some countColumn => .ok (set.rows.foldl (addRow keyColumn countColumn key?) ∅)

end ResultSet

/-! ### Answers -/

/-- All that a statement returned. -/
structure Answer where
  sets : List ResultSet
deriving DecidableEq

namespace Answer

/-- The answer without result sets. -/
def empty : Answer := ⟨[]⟩

/-- The answer of one result set. -/
def single (set : ResultSet) : Answer := ⟨[set]⟩

/-- The first result set, empty if there is none. -/
def primary (answer : Answer) : ResultSet :=
  answer.sets.headD .empty

/-- The last result set. -/
def last? (answer : Answer) : Option ResultSet :=
  answer.sets.getLast?

/-- The identifiers of the first set; a set without rows need not name its columns. -/
def ids (answer : Answer) : Except EngineFault (List Int) :=
  if answer.primary.rows.isEmpty then .ok [] else answer.primary.idColumn "id"

/-- A row's identifier with its relevance, if it has one. -/
def scoredId? (idColumn : Nat) (scoreColumn : Option Nat) (row : List Cell) :
    Option (Int × Option Binary64) :=
  (row[idColumn]?.bind Cell.id?).map fun id =>
    (id, scoreColumn.bind fun i => row[i]?.bind Cell.number?)

/-- **The identifiers of the first set with their relevance**, in the engine's order. -/
def scoredIds (answer : Answer) : Except EngineFault (List (Int × Option Binary64)) :=
  let set := answer.primary
  if set.rows.isEmpty then .ok []
  else
    match set.columnIndex? "id" with
    | none => .error (.unreadable (.noColumn "id"))
    | some idColumn =>
      .ok (set.rows.filterMap (scoredId? idColumn (set.columnIndex? "relevance")))

/-- **The number in the first cell**, which is what a count returns. -/
def total (answer : Answer) : Except EngineFault Nat :=
  match (answer.primary.rows.head?.bind List.head?).bind Cell.id? with
  | some n => .ok (countOfId n)
  | none => .error (.unreadable .noCount)

end Answer

end Storefront
