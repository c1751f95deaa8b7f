import Storefront.Number.Whole
import Storefront.Origin.Query
import Storefront.Origin.Stored

/-!
# The clauses of a query to the origin store

The store is a database, and what a query asks for is sent to it as a conjunction of clauses in
which values are left open, to be bound in order. A clause is data here: `Clause.text` is how it
is written, with a question mark for each open value, and `Clause.holds` is what it means for a
row once its values are bound.

A word is looked for with a pattern: any text, the word, any text. The signs that patterns give a
meaning to are written after an exclamation mark (`escapeLike`), so a word is looked for letter by
letter. Which letters are taken for one another is a matter of the database, its `Collation`; that
of the database that the shop is kept in does not tell the cases of ASCII letters apart.
-/

namespace Storefront

open Number Text

/-! ### Rows -/

/-- A row of the table of posts. -/
structure Post where
  id : Int
  postType : Stored
  status : Stored
  title : Stored
  excerpt : Stored
  content : Stored
  date : Stored
deriving DecidableEq

/-- The columns of posts that clauses are about. -/
inductive PostColumn where
  | postType
  | status
  | title
  | excerpt
  | content
deriving DecidableEq

namespace PostColumn

/-- The name of the column. -/
def name : PostColumn → String
  | .postType => "post_type"
  | .status => "post_status"
  | .title => "post_title"
  | .excerpt => "post_excerpt"
  | .content => "post_content"

/-- The value of the column in a row. -/
def value (post : Post) : PostColumn → Stored
  | .postType => post.postType
  | .status => post.status
  | .title => post.title
  | .excerpt => post.excerpt
  | .content => post.content

end PostColumn

/-! ### Patterns -/

/-- A sign of a pattern. -/
inductive PatternSign where
  /-- This character, or one that the database does not tell apart from it. -/
  | one (c : Char)
  /-- Any one character. -/
  | anyOne
  /-- Any run of characters. -/
  | anyRun
deriving DecidableEq

/-- The signs of a pattern; an exclamation mark makes the next character an ordinary one. -/
def patternSigns : List Char → List PatternSign
  | [] => []
  | '!' :: c :: rest => .one c :: patternSigns rest
  | '%' :: rest => .anyRun :: patternSigns rest
  | '_' :: rest => .anyOne :: patternSigns rest
  | c :: rest => .one c :: patternSigns rest

/-- **A collation**: whether patterns take one code for another, that of the pattern first. -/
abbrev Collation := UInt32 → UInt32 → Bool

/-- A code as the patterns of the shop's own database compare it: ASCII letters in lower case, and
the two codes at the end of the basic plane that are no characters replaced. -/
def likeKey (code : UInt32) : UInt32 :=
  if 0x41 ≤ code && code ≤ 0x5A then code + 0x20
  else if code = 0xFFFE || code = 0xFFFF then 0xFFFD
  else code

/-- The collation of the database that the shop is kept in. -/
def Collation.standard : Collation := fun code other => likeKey code == likeKey other

section Matching

variable (collation : Collation)

/-- Whether the signs describe the codes from the first to the last. -/
def signsMatch : List PatternSign → List UInt32 → Bool
  | [], codes => codes.isEmpty
  | .one c :: signs, codes =>
    match codes with
    | [] => false
    | d :: codes => collation c.val d && signsMatch signs codes
  | .anyOne :: signs, codes =>
    match codes with
    | [] => false
    | _ :: codes => signsMatch signs codes
  | .anyRun :: signs, codes =>
    signsMatch signs codes ||
      match codes with
      | [] => false
      | _ :: codes => signsMatch (.anyRun :: signs) codes
termination_by signs codes => (signs.length, codes.length)

/-- Whether a stored value matches a pattern; null matches none. -/
def likeMatches (pattern : String) (value : Stored) : Bool :=
  match value.searched? with
  | some codes => signsMatch collation (patternSigns pattern.toList) codes
  | none => false

end Matching

/-- A character of a word as it is written in a pattern. -/
def escapeLikeChar (c : Char) : List Char :=
  if c = '!' || c = '%' || c = '_' then ['!', c] else [c]

/-- The word as it is written in a pattern. -/
def escapeLike (word : String) : List Char :=
  word.toList.flatMap escapeLikeChar

/-- **The pattern of the texts that contain a word.** -/
def containsPattern (word : String) : String :=
  String.ofList ('%' :: (escapeLike word ++ ['%']))

/-! ### Clauses -/

/-- A condition on a row, with the values that it compares text with left open. -/
inductive Clause where
  /-- The column has the open value. -/
  | equals (column : PostColumn)
  /-- The column has one of so many open values. -/
  | among (column : PostColumn) (count : Nat)
  /-- The title, the excerpt or the content matches; the pattern is left open for each. -/
  | likeAnywhere
  /-- No row at all. -/
  | never
  | idAmong (ids : List Int)
  | idNotAmong (ids : List Int)
deriving DecidableEq

namespace Clause

/-- The columns that words are looked for in. -/
def searched : List PostColumn :=
  [.title, .excerpt, .content]

/-- How many values the clause leaves open. -/
def openings : Clause → Nat
  | .equals _ => 1
  | .among _ count => count
  | .likeAnywhere => searched.length
  | _ => 0

/-- **The text of a clause**, a question mark for each open value. -/
def text : Clause → String
  | .equals column => column.name ++ " = ?"
  | .among column count => column.name ++ " IN (" ++ joinWith "," (List.replicate count "?") ++ ")"
  | .likeAnywhere =>
    "(" ++ joinWith " OR " (searched.map fun column => column.name ++ " LIKE ? ESCAPE '!'") ++ ")"
  | .never => "1 = 0"
  | .idAmong ids => "ID IN (" ++ joinWith "," (ids.map toString) ++ ")"
  | .idNotAmong ids => "ID NOT IN (" ++ joinWith "," (ids.map toString) ++ ")"

/-- **What a clause means for a row** once its open values are bound. -/
def holds (collation : Collation) (post : Post) (bound : List String) : Clause → Bool
  | .equals column => bound.any fun value => column.value post == .text value
  | .among column _ => bound.any fun value => column.value post == .text value
  | .likeAnywhere =>
    (searched.zip bound).any fun (column, pattern) =>
      likeMatches collation pattern (column.value post)
  | .never => false
  | .idAmong ids => ids.contains post.id
  | .idNotAmong ids => !ids.contains post.id

end Clause

/-- A conjunction of clauses with the values to bind, in order. -/
structure Prepared where
  clauses : List Clause
  values : List String
deriving DecidableEq

namespace Prepared

/-- The text of the conjunction. -/
def text (prepared : Prepared) : String :=
  joinWith " AND " (prepared.clauses.map Clause.text)

/-- Whether the clauses hold for a row, each with its share of the values. -/
def holdsWith (collation : Collation) (post : Post) : List Clause → List String → Bool
  | [], _ => true
  | clause :: rest, values =>
    clause.holds collation post (values.take clause.openings) &&
      holdsWith collation post rest (values.drop clause.openings)

/-- **Whether the conjunction holds for a row.** -/
def holds (collation : Collation) (prepared : Prepared) (post : Post) : Bool :=
  holdsWith collation post prepared.clauses prepared.values

/-- One conjunction after another. -/
def append (p q : Prepared) : Prepared :=
  ⟨p.clauses ++ q.clauses, p.values ++ q.values⟩

instance : Append Prepared := ⟨append⟩

/-- The values of a column, or the default if there are none. -/
def among (column : PostColumn) (default : String) (values : List String) : Prepared :=
  match values with
  | [] => ⟨[.equals column], [default]⟩
  | values => ⟨[.among column values.length], values⟩

/-- A word, in any of the columns that are searched. -/
def word (word : String) : Prepared :=
  ⟨[.likeAnywhere], List.replicate Clause.searched.length (containsPattern word)⟩

/-- The only identifiers to consider. -/
def including : Option (List Int) → Prepared
  | none => ⟨[], []⟩
  | some [] => ⟨[.never], []⟩
  | some ids => ⟨[.idAmong ids], []⟩

/-- The identifiers to leave out. -/
def excluding (ids : List Int) : Prepared :=
  if ids.isEmpty then ⟨[], []⟩ else ⟨[.idNotAmong ids], []⟩

/-- **The clauses of a query.** -/
def ofQuery (query : OriginQuery) : Prepared :=
  among .postType "product" query.postTypes ++
    among .status "publish" query.postStatuses ++
    query.words.foldr (fun w rest => word w ++ rest) ⟨[], []⟩ ++
    including query.includeIds ++
    excluding query.excludeIds

end Prepared

end Storefront
