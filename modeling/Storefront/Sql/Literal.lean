import Storefront.Text.Words

/-!
# Text inside statements

A statement holds shoppers' text in two places, and each has its own escaping.

* **Literals.** A value compared with a column stands between quotes. The reader of literals takes
  the character after a backslash verbatim and ends at the first quote that no backslash precedes,
  so `Sql.literal` puts a backslash before both and leaves control characters out.
* **Full-text expressions.** The text of a `MATCH` is read twice: first as a literal, then by the
  full-text reader, for which a backslash makes the next character an ordinary one. A character
  that the full-text reader would take for an operator is therefore written after *two*
  backslashes – the first reading leaves one – and a quote after one (`Sql.escapeMatch`). Control
  characters become blanks, because all they ever do is separate words.

Both work character by character, so each character of the text can be followed into the statement.
-/

namespace Storefront.Sql

open Text

/-! ### Full-text expressions -/

/-- The characters with a meaning of their own in full-text expressions. -/
def matchOperators : List Char :=
  ['\\', '(', ')', '|', '-', '!', '@', '~', '"', '&', '/', '^', '$', '=', '<', '*', '?']

/-- A character of a text as it is written into a full-text expression. -/
def escapeMatchChar (c : Char) : List Char :=
  if c ∈ matchOperators then ['\\', '\\', c]
  else if c = '\x27' then ['\\', '\x27']
  else if isControl c then [' ']
  else [c]

/-- The text as it is written into a full-text expression. -/
def escapeMatchChars (cs : List Char) : List Char :=
  cs.flatMap escapeMatchChar

/-- **The text as words of a full-text expression**, none of its characters an operator. -/
def escapeMatch (s : String) : String :=
  String.ofList (escapeMatchChars s.toList)

/-! ### Literals -/

/-- A character of a value as it is written between quotes. -/
def literalChar (c : Char) : List Char :=
  if c = '\\' then ['\\', '\\']
  else if c = '\x27' then ['\\', '\x27']
  else if isControl c then []
  else [c]

/-- A value between quotes. -/
def literalChars (cs : List Char) : List Char :=
  '\x27' :: (cs.flatMap literalChar ++ ['\x27'])

/-- **The value as a literal**, closed by the quote that ends it and by no other. -/
def literal (s : String) : String :=
  String.ofList (literalChars s.toList)

end Storefront.Sql
