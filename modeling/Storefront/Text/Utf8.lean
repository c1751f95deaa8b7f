/-!
# Text from bytes

UTF-8 gives a character one to four bytes. The first says how many there are, and the second may be
confined further, so that no character has two forms and none is a surrogate. Bytes that are not
well formed are a fault that says where it is and how many bytes belong to it – or, to a lenient
reader, one character `U+FFFD` for each such run.

* `Text.Utf8Lead.ofByte?` – what the first byte of a character announces;
* `Text.utf8Head` – the first character of a list of bytes;
* `Text.decodeUtf8` and `Text.decodeUtf8Lossy` – the strict reader and the lenient one.
-/

namespace Storefront.Text

/-- What the first byte of a character announces: how many bytes follow, the bounds of the first of
them, and the byte's own bits of the code. -/
structure Utf8Lead where
  extra : Nat
  low : UInt8
  high : UInt8
  bits : Nat

/-- What a byte announces; bytes that begin no character announce nothing. -/
def Utf8Lead.ofByte? (b : UInt8) : Option Utf8Lead :=
  let n := b.toNat
  if n < 0x80 then some ⟨0, 0x80, 0xBF, n⟩
  else if n < 0xC2 then none
  else if n < 0xE0 then some ⟨1, 0x80, 0xBF, n % 0x20⟩
  else if n = 0xE0 then some ⟨2, 0xA0, 0xBF, 0⟩
  else if n = 0xED then some ⟨2, 0x80, 0x9F, 0xD⟩
  else if n < 0xF0 then some ⟨2, 0x80, 0xBF, n % 0x10⟩
  else if n = 0xF0 then some ⟨3, 0x90, 0xBF, 0⟩
  else if n < 0xF4 then some ⟨3, 0x80, 0xBF, n % 8⟩
  else if n = 0xF4 then some ⟨3, 0x80, 0x8F, 4⟩
  else none

/-- The bytes at the front that continue a character, at most the given number: the first between
the bounds, the others any continuation bytes. -/
def continuationBytes (low high : UInt8) : Nat → List UInt8 → List UInt8
  | 0, _ => []
  | _, [] => []
  | n + 1, b :: rest =>
    if low ≤ b && b ≤ high then b :: continuationBytes 0x80 0xBF n rest else []

/-- What stands at the front of bytes. -/
inductive Utf8Head where
  /-- A character of so many bytes. -/
  | char (c : Char) (length : Nat)
  /-- So many bytes that no byte could complete. -/
  | invalid (length : Nat)
  /-- So many bytes that end before the character does. -/
  | incomplete (length : Nat)

/-- The number of bytes that the head takes. -/
def Utf8Head.length : Utf8Head → Nat
  | .char _ length => length
  | .invalid length => length
  | .incomplete length => length

/-- **What stands at the front of bytes**, given the first and the others. -/
def utf8Head (b : UInt8) (rest : List UInt8) : Utf8Head :=
  match Utf8Lead.ofByte? b with
  | none => .invalid 1
  | some lead =>
    let more := continuationBytes lead.low lead.high lead.extra rest
    if more.length = lead.extra then
      .char (Char.ofNat (more.foldl (fun code c => 64 * code + c.toNat % 64) lead.bits))
        (1 + more.length)
    else if more.length = rest.length then .incomplete (1 + more.length)
    else .invalid (1 + more.length)

theorem utf8Head_length_pos (b : UInt8) (rest : List UInt8) : 0 < (utf8Head b rest).length := by
  unfold utf8Head
  split
  · simp [Utf8Head.length]
  · simp only
    split
    · simp only [Utf8Head.length]
      omega
    · split <;> simp only [Utf8Head.length] <;> omega

/-- Where bytes are not well formed. -/
inductive Utf8Fault where
  /-- So many bytes from an index on that no byte could complete. -/
  | invalid (length index : Nat)
  /-- From an index on, a character that does not end. -/
  | incomplete (index : Nat)
deriving DecidableEq

/-- The fault in words. -/
def Utf8Fault.message : Utf8Fault → String
  | .invalid length index =>
    "invalid utf-8 sequence of " ++ toString length ++ " bytes from index " ++ toString index
  | .incomplete index => "incomplete utf-8 byte sequence from index " ++ toString index

/-- The characters of bytes, of which the first has the given index. -/
def decodeUtf8From (index : Nat) : List UInt8 → Except Utf8Fault (List Char)
  | [] => .ok []
  | b :: rest =>
    let length := (utf8Head b rest).length
    match utf8Head b rest with
    | .char c _ => (decodeUtf8From (index + length) ((b :: rest).drop length)).map (c :: ·)
    | .invalid length => .error (.invalid length index)
    | .incomplete _ => .error (.incomplete index)
termination_by bytes => bytes.length
decreasing_by
  have := utf8Head_length_pos b rest
  simp only [List.length_drop, List.length_cons]
  omega

/-- **The characters of well-formed bytes**, or the first fault. -/
def decodeUtf8 (bytes : List UInt8) : Except Utf8Fault (List Char) :=
  decodeUtf8From 0 bytes

/-- **The characters of bytes**, with a replacement for each run of bytes that is not well
formed. -/
def decodeUtf8Lossy : List UInt8 → List Char
  | [] => []
  | b :: rest =>
    let c := match utf8Head b rest with
      | .char c _ => c
      | _ => '\uFFFD'
    c :: decodeUtf8Lossy ((b :: rest).drop (utf8Head b rest).length)
termination_by bytes => bytes.length
decreasing_by
  have := utf8Head_length_pos b rest
  simp only [List.length_drop, List.length_cons]
  omega

end Storefront.Text
