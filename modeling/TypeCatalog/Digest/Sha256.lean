import TypeCatalog.Text.Utf8

namespace TypeCatalog.Digest

/-!
# SHA-256

The digest of a text is taken over its UTF-8 bytes and written in hexadecimal.
-/

/-- The sixty-four round constants. -/
def roundConstants : List UInt32 :=
  [0x428a2f98, 0x71374491, 0xb5c0fbcf, 0xe9b5dba5, 0x3956c25b, 0x59f111f1, 0x923f82a4, 0xab1c5ed5,
    0xd807aa98, 0x12835b01, 0x243185be, 0x550c7dc3, 0x72be5d74, 0x80deb1fe, 0x9bdc06a7, 0xc19bf174,
    0xe49b69c1, 0xefbe4786, 0x0fc19dc6, 0x240ca1cc, 0x2de92c6f, 0x4a7484aa, 0x5cb0a9dc, 0x76f988da,
    0x983e5152, 0xa831c66d, 0xb00327c8, 0xbf597fc7, 0xc6e00bf3, 0xd5a79147, 0x06ca6351, 0x14292967,
    0x27b70a85, 0x2e1b2138, 0x4d2c6dfc, 0x53380d13, 0x650a7354, 0x766a0abb, 0x81c2c92e, 0x92722c85,
    0xa2bfe8a1, 0xa81a664b, 0xc24b8b70, 0xc76c51a3, 0xd192e819, 0xd6990624, 0xf40e3585, 0x106aa070,
    0x19a4c116, 0x1e376c08, 0x2748774c, 0x34b0bcb5, 0x391c0cb3, 0x4ed8aa4a, 0x5b9cca4f, 0x682e6ff3,
    0x748f82ee, 0x78a5636f, 0x84c87814, 0x8cc70208, 0x90befffa, 0xa4506ceb, 0xbef9a3f7, 0xc67178f2]

/-- The eight words that the digest is computed on. -/
structure HashState where
  a : UInt32
  b : UInt32
  c : UInt32
  d : UInt32
  e : UInt32
  f : UInt32
  g : UInt32
  h : UInt32
deriving Repr, DecidableEq

/-- The words before the first block. -/
def HashState.initial : HashState :=
  ⟨0x6a09e667, 0xbb67ae85, 0x3c6ef372, 0xa54ff53a, 0x510e527f, 0x9b05688c, 0x1f83d9ab, 0x5be0cd19⟩

/-- A word turned to the right. -/
def rotate
    (word amount : UInt32) : UInt32 :=
  (word >>> amount) ||| (word <<< (32 - amount))

/-- One round. -/
def HashState.round
    (state : HashState)
    (constant word : UInt32) : HashState :=
  let turned := rotate state.e 6 ^^^ rotate state.e 11 ^^^ rotate state.e 25
  let choice := (state.e &&& state.f) ^^^ ((~~~ state.e) &&& state.g)
  let first := state.h + turned + choice + constant + word
  let spread := rotate state.a 2 ^^^ rotate state.a 13 ^^^ rotate state.a 22
  let majority := (state.a &&& state.b) ^^^ (state.a &&& state.c) ^^^ (state.b &&& state.c)
  ⟨first + (spread + majority), state.a, state.b, state.c, state.d + first, state.e, state.f,
    state.g⟩

/-- Adds two states word by word. -/
def HashState.plus
    (one other : HashState) : HashState :=
  ⟨one.a + other.a, one.b + other.b, one.c + other.c, one.d + other.d, one.e + other.e,
    one.f + other.f, one.g + other.g, one.h + other.h⟩

/-- The next word of the message schedule, from the words so far, the last one first. -/
def nextScheduleWord (recent : List UInt32) : UInt32 :=
  let two := recent.getD 1 0
  let seven := recent.getD 6 0
  let fifteen := recent.getD 14 0
  let sixteen := recent.getD 15 0
  let low := rotate fifteen 7 ^^^ rotate fifteen 18 ^^^ (fifteen >>> 3)
  let high := rotate two 17 ^^^ rotate two 19 ^^^ (two >>> 10)
  sixteen + low + seven + high

/-- Runs the rounds of one block.  The first sixteen take the words of the block, the others the
words of the schedule; words already used are kept, the last one first. -/
def rounds
    (state : HashState)
    (used : List UInt32) : List UInt32 → List UInt32 → HashState
  | [], _ => state
  | constant :: constants, word :: words =>
    rounds (state.round constant word) (word :: used) constants words
  | constant :: constants, [] =>
    let word := nextScheduleWord used
    rounds (state.round constant word) (word :: used) constants []

/-- Four bytes as a word, the highest first. -/
def wordOfBytes (a b c d : Nat) : UInt32 :=
  ((a * 256 + b) * 65536 + (c * 256 + d)).toUInt32

/-- Bytes in words of four; bytes after the last whole word are dropped. -/
def wordsOfBytes
    (done : List UInt32) : List Nat → List UInt32
  | a :: b :: c :: d :: rest => wordsOfBytes (wordOfBytes a b c d :: done) rest
  | _ => done.reverse

/-- The padding of a message of so many bytes. -/
def padding (size : Nat) : List Nat :=
  let bits := size * 8
  0x80 :: List.replicate ((119 - size % 64) % 64) 0 ++
    [bits / Nat.pow 2 56 % 256, bits / Nat.pow 2 48 % 256, bits / Nat.pow 2 40 % 256, bits / Nat.pow 2 32 % 256,
      bits / Nat.pow 2 24 % 256, bits / Nat.pow 2 16 % 256, bits / Nat.pow 2 8 % 256, bits % 256]

/-- Digests the words of a padded message, sixteen at a time, for at most so many blocks. -/
def digestBlocks
    (state : HashState) : Nat → List UInt32 → HashState
  | 0, _ => state
  | blocks + 1, words =>
    digestBlocks (state.plus (rounds state [] roundConstants (words.take 16))) blocks
      (words.drop 16)

/-- The digest of bytes. -/
def sha256 (bytes : List Nat) : HashState :=
  let words := wordsOfBytes [] (bytes ++ padding bytes.length)
  digestBlocks .initial (words.length / 16) words

/-- The digest of a text in hexadecimal digits. -/
def sha256Text (text : String) : String :=
  let state := sha256 (Text.utf8Bytes text)
  String.join
    ([state.a, state.b, state.c, state.d, state.e, state.f, state.g, state.h].map fun word =>
      Text.hexadecimal 8 word.toNat)

end TypeCatalog.Digest
