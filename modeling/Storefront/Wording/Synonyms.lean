import Storefront.SortedMap
import Storefront.Text.Lowercase
import Storefront.Wording.Basic

/-!
# Synonyms

A synonym group is a term with its synonyms; all its members stand for one another. The map made
of a list of groups (`SynonymMap.ofGroups`) answers for each term the members of its groups other
than itself, in the order in which they were first met, all in lower case. A word of a query is
widened (`Wording.widened`) to itself, its synonyms and, if it is short, the words that begin
with it.
-/

namespace Storefront

open Text

/-- A term and the terms that may stand for it. -/
structure SynonymGroup where
  term : String
  synonyms : List String
deriving DecidableEq, Inhabited

namespace SynonymGroup

/-- The members of the group: trimmed, in lower case, none of them empty. -/
def members (group : SynonymGroup) : List String :=
  ((group.term :: group.synonyms).map fun s => lowercase (trim s)).filter fun s => !s.isEmpty

end SynonymGroup

/-- For each term in lower case its synonyms; no term without any. -/
structure SynonymMap where
  entries : SortedMap String (List String)
deriving DecidableEq

namespace SynonymMap

instance : EmptyCollection SynonymMap := ⟨⟨∅⟩⟩
instance : Inhabited SynonymMap := ⟨∅⟩

/-- The known synonyms of `member` followed by those of `others` that are new to it. -/
def addOthers (member : String) (known others : List String) : List String :=
  others.foldl (fun acc other =>
    if other ≠ member ∧ other ∉ acc then acc ++ [other] else acc) known

/-- The synonyms with those that one member owes to its group. -/
def addMember (members : List String) (entries : SortedMap String (List String))
    (member : String) : SortedMap String (List String) :=
  entries.insert member (addOthers member ((entries.get? member).getD []) members)

/-- The synonyms with those of one more group. -/
def addGroup (entries : SortedMap String (List String)) (group : SynonymGroup) :
    SortedMap String (List String) :=
  group.members.foldl (addMember group.members) entries

/-- **The map of a list of groups.** -/
def ofGroups (groups : List SynonymGroup) : SynonymMap :=
  ⟨(groups.foldl addGroup ∅).filter fun _ synonyms => !synonyms.isEmpty⟩

/-- The synonyms of a term, in whatever case it is written; never the term itself. -/
def lookup (map : SynonymMap) (term : String) : List String :=
  (map.entries.get? (lowercase term)).getD []

/-- The number of terms that have synonyms. -/
def size (map : SynonymMap) : Nat :=
  map.entries.size

/-- Whether no term has synonyms. -/
def isEmpty (map : SynonymMap) : Bool :=
  map.entries.entries.isEmpty

end SynonymMap

/-! ### Widening a query -/

/-- Whether a variant is the synonym as it stands, up to the case of ASCII letters. -/
def Variant.covers (synonym : String) : Variant → Bool
  | .exact term => sameLetters term synonym
  | .start _ => false

/-- The variants with one more synonym, unless one of them covers it. -/
def addSynonym (variants : List Variant) (synonym : String) : List Variant :=
  if variants.any (Variant.covers synonym) then variants else variants ++ [.exact synonym]

/-- How long a word may be to stand for the words that begin with it. -/
structure StartLengths where
  least : Nat
  greatest : Nat
deriving DecidableEq

/-- The ways to match a word: itself, its synonyms, and as a beginning if its length allows. -/
def Alternatives.ofWord (map : SynonymMap) (lengths : StartLengths) (word : String) :
    Alternatives :=
  let variants := (map.lookup word).foldl addSynonym [.exact word]
  let length := word.toList.length
  ⟨if lengths.least ≤ length ∧ length ≤ lengths.greatest then variants ++ [.start word]
    else variants⟩

/-- **The wording of a text with every word widened.** -/
def Wording.widened (map : SynonymMap) (lengths : StartLengths) (text : String) : Wording :=
  ⟨(words text).map (Alternatives.ofWord map lengths)⟩

end Storefront
