/-!
# SHA-256

The digest of FIPS 180-4, written out on lists of words: a message is padded to whole blocks of
sixteen words, each block is spread to sixty-four words, and sixty-four rounds mix them into a
state of eight. Keys of the result cache are such digests, in hexadecimal.
-/

namespace Storefront.Digest

/-! ### Constants -/

/-- The state before the first block. -/
def initialState : List UInt32 :=
  [0x6a09e667, 0xbb67ae85, 0x3c6ef372, 0xa54ff53a, 0x510e527f, 0x9b05688c, 0x1f83d9ab, 0x5be0cd19]

/-- One constant for each round. -/
def roundConstants : List UInt32 :=
  [0x428a2f98, 0x71374491, 0xb5c0fbcf, 0xe9b5dba5, 0x3956c25b, 0x59f111f1, 0x923f82a4, 0xab1c5ed5,
   0xd807aa98, 0x12835b01, 0x243185be, 0x550c7dc3, 0x72be5d74, 0x80deb1fe, 0x9bdc06a7, 0xc19bf174,
   0xe49b69c1, 0xefbe4786, 0x0fc19dc6, 0x240ca1cc, 0x2de92c6f, 0x4a7484aa, 0x5cb0a9dc, 0x76f988da,
   0x983e5152, 0xa831c66d, 0xb00327c8, 0xbf597fc7, 0xc6e00bf3, 0xd5a79147, 0x06ca6351, 0x14292967,
   0x27b70a85, 0x2e1b2138, 0x4d2c6dfc, 0x53380d13, 0x650a7354, 0x766a0abb, 0x81c2c92e, 0x92722c85,
   0xa2bfe8a1, 0xa81a664b, 0xc24b8b70, 0xc76c51a3, 0xd192e819, 0xd6990624, 0xf40e3585, 0x106aa070,
   0x19a4c116, 0x1e376c08, 0x2748774c, 0x34b0bcb5, 0x391c0cb3, 0x4ed8aa4a, 0x5b9cca4f, 0x682e6ff3,
   0x748f82ee, 0x78a5636f, 0x84c87814, 0x8cc70208, 0x90befffa, 0xa4506ceb, 0xbef9a3f7, 0xc67178f2]

/-! ### Words -/

/-- The word turned right by `n` places. -/
def rotate (n : UInt32) (x : UInt32) : UInt32 :=
  (x >>> n) ||| (x <<< (32 - n))

/-- The word of four bytes, the first the most significant. -/
def wordOfBytes (a b c d : UInt8) : UInt32 :=
  (a.toUInt32 <<< 24) ||| (b.toUInt32 <<< 16) ||| (c.toUInt32 <<< 8) ||| d.toUInt32

/-- The words of a list of bytes; fewer than four bytes at the end make none. -/
def wordsOfBytes : List UInt8 → List UInt32
  | a :: b :: c :: d :: rest => wordOfBytes a b c d :: wordsOfBytes rest
  | _ => []

/-- The `count` low bytes of a number, the most significant first. -/
def bytesOfNat : Nat → Nat → List UInt8
  | 0, _ => []
  | count + 1, n => UInt8.ofNat (n >>> (8 * count)) :: bytesOfNat count n

/-! ### Blocks -/

/-- The message followed by a one bit, zeros up to the end of a block, and its length in bits. -/
def padded (message : List UInt8) : List UInt8 :=
  let length := message.length
  message ++ 0x80 :: (List.replicate ((119 - length % 64) % 64) 0 ++ bytesOfNat 8 (8 * length))

/-- The next `count` words of a block spread out, after the words so far (last first). -/
def spread : Nat → List UInt32 → List UInt32
  | 0, back => back.reverse
  | count + 1, back =>
    let far := back.getD 14 0
    let near := back.getD 1 0
    let low := rotate 7 far ^^^ rotate 18 far ^^^ (far >>> 3)
    let high := rotate 17 near ^^^ rotate 19 near ^^^ (near >>> 10)
    spread count ((back.getD 15 0 + low + back.getD 6 0 + high) :: back)

/-- One round: the state mixed with a constant and a word of the block. -/
def mix (state : List UInt32) (constant word : UInt32) : List UInt32 :=
  match state with
  | [a, b, c, d, e, f, g, h] =>
    let choice := (e &&& f) ^^^ ((~~~e) &&& g)
    let majority := (a &&& b) ^^^ (a &&& c) ^^^ (b &&& c)
    let first := h + (rotate 6 e ^^^ rotate 11 e ^^^ rotate 25 e) + choice + constant + word
    let second := (rotate 2 a ^^^ rotate 13 a ^^^ rotate 22 a) + majority
    [first + second, a, b, c, d + first, e, f, g]
  | other => other

/-- The state after one more block of sixteen words. -/
def absorb (state block : List UInt32) : List UInt32 :=
  let rounds := roundConstants.zip (spread 48 block.reverse)
  let mixed := rounds.foldl (fun s (constant, word) => mix s constant word) state
  state.zipWith (· + ·) mixed

/-- The state after all blocks of a list of words. -/
def absorbAll (state words : List UInt32) : List UInt32 :=
  if words.length < 16 then state
  else absorbAll (absorb state (words.take 16)) (words.drop 16)
termination_by words.length
decreasing_by simp only [List.length_drop]; omega

/-! ### Text -/

/-- A word in eight hexadecimal digits. -/
def hexOfWord (x : UInt32) : List Char :=
  let digits := Nat.toDigits 16 x.toNat
  List.replicate (8 - digits.length) '0' ++ digits

/-- The digest of the UTF-8 form of a text, in sixty-four hexadecimal digits. -/
def sha256 (s : String) : String :=
  let final := absorbAll initialState (wordsOfBytes (padded s.toUTF8.toList))
  String.ofList (final.flatMap hexOfWord)

end Storefront.Digest
