import Storefront.Fault
import Storefront.Text.Words

/-!
# Stored values

The origin's tables hold text, but a column may be null, and what was written as raw bytes comes
back as raw bytes. A stored value is read as text if it is one or if its bytes are its UTF-8 form.
In the order of a column, null comes first, then text by code points, then bytes.

The database itself is less strict when it searches: it takes bytes for text whether or not they
are well formed, and looks no further than the first null character (`Stored.searched?`).
-/

namespace Storefront

/-- A value of a column. -/
inductive Stored where
  | null
  | text (value : String)
  | bytes (value : List UInt8)
deriving DecidableEq

namespace Stored

/-- The value read as text. -/
def text? : Stored → Option String
  | .null => none
  | .text value => some value
  | .bytes value => String.fromUTF8? (ByteArray.mk value.toArray)

/-! ### As the database searches it -/

/-- Whether a byte belongs to the character of the bytes before it. -/
def isContinuation (b : UInt8) : Bool :=
  0x80 ≤ b && b < 0xC0

/-- The bits that the first byte of a character contributes to its code. -/
def leadBits (b : UInt8) : UInt32 :=
  let n := b.toUInt32
  if n < 0xE0 then n % 32
  else if n < 0xF0 then n % 16
  else if n < 0xF8 then n % 8
  else if n < 0xFC then n % 4
  else if n < 0xFE then n % 2
  else 0

/-- The code of a character that takes several bytes; a code that should take one, and one of a
surrogate, is replaced. -/
def longCode (code : UInt32) : UInt32 :=
  if code < 0x80 || (0xD800 ≤ code && code < 0xE000) then 0xFFFD else code

/-- The codes of raw bytes. A byte that continues nothing is a code by itself, and a character goes
on for as long as bytes continue it, however many it announced; of its bits the last 32 count. -/
def looseCodes : List UInt8 → List UInt32
  | [] => []
  | b :: rest =>
    if b < 0xC0 then b.toUInt32 :: looseCodes rest
    else
      let more := rest.takeWhile isContinuation
      longCode (more.foldl (fun code c => 64 * code + c.toUInt32 % 64) (leadBits b)) ::
        looseCodes (rest.dropWhile isContinuation)
termination_by bytes => bytes.length
decreasing_by
  · simp
  · have := (List.dropWhile_sublist isContinuation (l := rest)).length_le
    simp only [List.length_cons]
    omega

/-- **The codes that a search looks at**: those before the first null character. They need not be
codes of characters. -/
def searched? : Stored → Option (List UInt32)
  | .null => none
  | .text value => some ((value.toList.map Char.val).takeWhile (· ≠ 0))
  | .bytes value => some ((looseCodes value).takeWhile (· ≠ 0))

/-! ### Order -/

/-- Whether one list of bytes comes before or is equal to another. -/
def bytesLe : List UInt8 → List UInt8 → Bool
  | [], _ => true
  | _ :: _, [] => false
  | a :: as, b :: bs => a < b || (a == b && bytesLe as bs)

/-- Whether one value comes before or is equal to another in the order of a column. -/
def le : Stored → Stored → Bool
  | .null, _ => true
  | .text _, .null => false
  | .text a, .text b => decide (a ≤ b)
  | .text _, .bytes _ => true
  | .bytes a, .bytes b => bytesLe a b
  | .bytes _, _ => false

end Stored

/-- The name of a table: the characters of the shop's own mark that may stand in a name, followed
by the table's common name. -/
def tableName (mark name : String) : String :=
  String.ofList (mark.toList.filter fun c => c.isAlphanum || c = '_') ++ name

/-- The complaint about a name that no table can have, because it begins with a digit. -/
def nameFault? (name : String) : Option DatabaseFault :=
  match name.toList with
  | c :: _ => if c.isDigit then some (.noName name) else none
  | [] => none

/-- **The rows of a table** for a query in whose name or condition a fault may have been found;
whether there is such a table is known last. -/
def rowsOf {α : Type} (name : String) (fault? : Option DatabaseFault) (rows : Option (List α)) :
    Except OriginFault (List α) :=
  match fault?, rows with
  | some fault, _ => .error (.database fault)
  | none, none => .error (.database (.noTable name))
  | none, some rows => .ok rows

/-- The rows that a database finds under one name when it keeps them under another: the names of
tables are the same up to the case of ASCII letters. -/
def rowsNamed? {α : Type} (kept asked : String) (rows : Option (List α)) : Option (List α) :=
  if Text.sameLetters kept asked then rows else none

end Storefront
