import Storefront.Json.Numeral
import Storefront.Text.Classes

/-!
# Reading JSON documents

A reader by recursive descent on lists of characters. Each reader takes what it needs from the
front and hands back the rest; the steps are bounded by fuel, of which a document needs at most
two for each of its characters. Of several members of one name the last counts.
-/

namespace Storefront.Json

/-- The rest after the blanks of a document. -/
def skipBlanks (cs : List Char) : List Char :=
  cs.dropWhile fun c => c = ' ' || c = '\t' || c = '\n' || c = '\r'

/-! ### Texts -/

/-- The value of four hexadecimal digits and the rest. -/
def fourHex? : List Char → Option (Nat × List Char)
  | a :: b :: c :: d :: rest => do
    let a ← Text.hexValue? a
    let b ← Text.hexValue? b
    let c ← Text.hexValue? c
    let d ← Text.hexValue? d
    pure (((a * 16 + b) * 16 + c) * 16 + d, rest)
  | _ => none

/-- The character of an escape by code and the rest; two escapes make up one character beyond the
first 65536, and half a pair is none. -/
def codeEscape? (cs : List Char) : Option (Char × List Char) := do
  let (unit, rest) ← fourHex? cs
  if unit < 0xD800 || 0xE000 ≤ unit then pure (Char.ofNat unit, rest)
  else if unit < 0xDC00 then
    match rest with
    | '\\' :: 'u' :: rest =>
      let (low, rest) ← fourHex? rest
      if 0xDC00 ≤ low && low < 0xE000 then
        pure (Char.ofNat (0x10000 + (unit - 0xD800) * 0x400 + (low - 0xDC00)), rest)
      else none
    | _ => none
  else none

/-- The character of an escape, read after its backslash, and the rest. -/
def escape? : List Char → Option (Char × List Char)
  | '"' :: rest => some ('"', rest)
  | '\\' :: rest => some ('\\', rest)
  | '/' :: rest => some ('/', rest)
  | 'b' :: rest => some ('\x08', rest)
  | 'f' :: rest => some ('\x0c', rest)
  | 'n' :: rest => some ('\n', rest)
  | 'r' :: rest => some ('\r', rest)
  | 't' :: rest => some ('\t', rest)
  | 'u' :: rest => codeEscape? rest
  | _ => none

/-- The characters up to the closing quote, after those already `read` (last first). -/
def textFrom? : Nat → List Char → List Char → Option (String × List Char)
  | 0, _, _ => none
  | fuel + 1, read, cs =>
    match cs with
    | [] => none
    | '"' :: rest => some (String.ofList read.reverse, rest)
    | '\\' :: rest =>
      match escape? rest with
      | some (c, rest) => textFrom? fuel (c :: read) rest
      | none => none
    | c :: rest => if c.toNat < 0x20 then none else textFrom? fuel (c :: read) rest

/-! ### Documents -/

/-- The members with those of the given name replaced by one at the end. -/
def putMember (members : List (String × Json)) (name : String) (value : Json) :
    List (String × Json) :=
  members.filter (·.1 ≠ name) ++ [(name, value)]

mutual

/-- A document and the rest. -/
def document? : Nat → List Char → Option (Json × List Char)
  | 0, _ => none
  | fuel + 1, cs =>
    match skipBlanks cs with
    | 'n' :: 'u' :: 'l' :: 'l' :: rest => some (.null, rest)
    | 't' :: 'r' :: 'u' :: 'e' :: rest => some (.bool true, rest)
    | 'f' :: 'a' :: 'l' :: 's' :: 'e' :: rest => some (.bool false, rest)
    | '"' :: rest => (textFrom? fuel [] rest).map fun (s, rest) => (.text s, rest)
    | '[' :: rest =>
      match skipBlanks rest with
      | ']' :: rest => some (.list [], rest)
      | rest => items? fuel [] rest
    | '\x7b' :: rest =>
      match skipBlanks rest with
      | '\x7d' :: rest => some (.object [], rest)
      | rest => members? fuel [] rest
    | rest => leadingNumber? rest

/-- The items of a list up to its closing bracket, after those already `read` (last first). -/
def items? : Nat → List Json → List Char → Option (Json × List Char)
  | 0, _, _ => none
  | fuel + 1, read, cs =>
    match document? fuel cs with
    | none => none
    | some (item, rest) =>
      match skipBlanks rest with
      | ',' :: rest => items? fuel (item :: read) rest
      | ']' :: rest => some (.list (item :: read).reverse, rest)
      | _ => none

/-- The members of an object up to its closing brace, after those already `read`. -/
def members? : Nat → List (String × Json) → List Char → Option (Json × List Char)
  | 0, _, _ => none
  | fuel + 1, read, cs =>
    match skipBlanks cs with
    | '"' :: rest =>
      match textFrom? fuel [] rest with
      | none => none
      | some (name, rest) =>
        match skipBlanks rest with
        | ':' :: rest =>
          match document? fuel rest with
          | none => none
          | some (value, rest) =>
            match skipBlanks rest with
            | ',' :: rest => members? fuel (putMember read name value) rest
            | '\x7d' :: rest => some (.object (putMember read name value), rest)
            | _ => none
        | _ => none
    | _ => none

end

/-- The document that a text spells, with nothing but blanks around it. -/
def ofText? (s : String) : Option Json :=
  let cs := s.toList
  match document? (2 * cs.length + 2) cs with
  | some (json, rest) => if (skipBlanks rest).isEmpty then some json else none
  | none => none

end Storefront.Json
