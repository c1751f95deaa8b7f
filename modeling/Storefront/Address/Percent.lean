import Storefront.Text.Utf8
import Storefront.Text.Words

/-!
# Escapes of a URL

A percent sign and two hexadecimal digits stand for a byte; a percent sign without them stands for
itself. The query of a URL is a list of named values: an ampersand ends one, the first equals sign
divides the name from the value, and a plus sign is a blank.
-/

namespace Storefront

open Text

namespace Percent

/-- **The bytes that characters stand for.** -/
def decode : List Char → List UInt8
  | [] => []
  | '%' :: a :: b :: rest =>
    match hexValue? a, hexValue? b with
    | some high, some low => UInt8.ofNat (16 * high + low) :: decode rest
    | _, _ => 0x25 :: decode (a :: b :: rest)
  | c :: rest => String.utf8EncodeChar c ++ decode rest

/-- The text that characters stand for. -/
def text? (cs : List Char) : Except Utf8Fault (List Char) :=
  decodeUtf8 (decode cs)

/-- The text that characters of a query stand for. -/
def queryText (cs : List Char) : List Char :=
  decodeUtf8Lossy (decode (cs.map fun c => if c = '+' then ' ' else c))

/-- **The named values of a query**, in order. -/
def pairs (query : List Char) : List (List Char × List Char) :=
  (wordsBy (· = '&') query).map fun field =>
    let name := field.takeWhile (· ≠ '=')
    (queryText name, queryText (field.drop (name.length + 1)))

end Percent

end Storefront
