import SchemaDrift.Text.Utf8

namespace SchemaDrift.Digest

/-- The round constants: the fractional parts of the cube roots of the first 64 primes. -/
def roundConstants : List UInt32 :=
  [0x428a2f98, 0x71374491, 0xb5c0fbcf, 0xe9b5dba5, 0x3956c25b, 0x59f111f1, 0x923f82a4, 0xab1c5ed5,
    0xd807aa98, 0x12835b01, 0x243185be, 0x550c7dc3, 0x72be5d74, 0x80deb1fe, 0x9bdc06a7, 0xc19bf174,
    0xe49b69c1, 0xefbe4786, 0x0fc19dc6, 0x240ca1cc, 0x2de92c6f, 0x4a7484aa, 0x5cb0a9dc, 0x76f988da,
    0x983e5152, 0xa831c66d, 0xb00327c8, 0xbf597fc7, 0xc6e00bf3, 0xd5a79147, 0x06ca6351, 0x14292967,
    0x27b70a85, 0x2e1b2138, 0x4d2c6dfc, 0x53380d13, 0x650a7354, 0x766a0abb, 0x81c2c92e, 0x92722c85,
    0xa2bfe8a1, 0xa81a664b, 0xc24b8b70, 0xc76c51a3, 0xd192e819, 0xd6990624, 0xf40e3585, 0x106aa070,
    0x19a4c116, 0x1e376c08, 0x2748774c, 0x34b0bcb5, 0x391c0cb3, 0x4ed8aa4a, 0x5b9cca4f, 0x682e6ff3,
    0x748f82ee, 0x78a5636f, 0x84c87814, 0x8cc70208, 0x90befffa, 0xa4506ceb, 0xbef9a3f7, 0xc67178f2]

/-- The eight words of the running hash. -/
structure Words where
  a : UInt32
  b : UInt32
  c : UInt32
  d : UInt32
  e : UInt32
  f : UInt32
  g : UInt32
  h : UInt32

/-- The fractional parts of the square roots of the first eight primes. -/
def Words.start : Words :=
  ⟨0x6a09e667, 0xbb67ae85, 0x3c6ef372, 0xa54ff53a, 0x510e527f, 0x9b05688c, 0x1f83d9ab, 0x5be0cd19⟩

/-- The sum of two running hashes, word by word. -/
def Words.add (x y : Words) : Words :=
  ⟨x.a + y.a, x.b + y.b, x.c + y.c, x.d + y.d, x.e + y.e, x.f + y.f, x.g + y.g, x.h + y.h⟩

/-- The words of a running hash in order. -/
def Words.toList (x : Words) : List UInt32 := [x.a, x.b, x.c, x.d, x.e, x.f, x.g, x.h]

/-- Rotates the bits of a word to the right. -/
def rotateRight (x : UInt32) (n : UInt32) : UInt32 := (x >>> n) ||| (x <<< (32 - n))

/-- One round on the running hash with one word of the schedule. -/
def round (x : Words) (constant word : UInt32) : Words :=
  let s1 := rotateRight x.e 6 ^^^ rotateRight x.e 11 ^^^ rotateRight x.e 25
  let choice := (x.e &&& x.f) ^^^ (~~~x.e &&& x.g)
  let t1 := x.h + s1 + choice + constant + word
  let s0 := rotateRight x.a 2 ^^^ rotateRight x.a 13 ^^^ rotateRight x.a 22
  let majority := (x.a &&& x.b) ^^^ (x.a &&& x.c) ^^^ (x.b &&& x.c)
  ⟨t1 + (s0 + majority), x.a, x.b, x.c, x.d + t1, x.e, x.f, x.g⟩

/-- Appends `count` words to a schedule whose last sixteen words are `window`. -/
def extendSchedule : Nat → List UInt32 → List UInt32
  | 0, _ => []
  | count + 1, window =>
    let item (i : Nat) : UInt32 := window.getD i 0
    let s0 := rotateRight (item 1) 7 ^^^ rotateRight (item 1) 18 ^^^ (item 1 >>> 3)
    let s1 := rotateRight (item 14) 17 ^^^ rotateRight (item 14) 19 ^^^ (item 14 >>> 10)
    let next := item 0 + s0 + item 9 + s1
    next :: extendSchedule count (window.drop 1 ++ [next])

/-- The running hash after one block of sixteen words. -/
def compress (state : Words) (block : List UInt32) : Words :=
  let schedule := block ++ extendSchedule 48 block
  state.add ((roundConstants.zip schedule).foldl (fun x pair => round x pair.1 pair.2) state)

/-- The big-endian word of four bytes. -/
def wordOfBytes (bytes : List Nat) : UInt32 :=
  bytes.foldl (fun word byte => word * 256 + UInt32.ofNat byte) 0

/-- Cuts a list into parts of `size` elements, at most `count` of them. -/
def chunks {α : Type} (size : Nat) : Nat → List α → List (List α)
  | 0, _ => []
  | count + 1, xs => if xs.isEmpty then [] else xs.take size :: chunks size count (xs.drop size)

/-- The bytes of a number, the highest first. -/
def bigEndian : Nat → Nat → List Nat
  | 0, _ => []
  | width + 1, n => bigEndian width (n / 256) ++ [n % 256]

/-- The message with its end marker and its length in bits, filled up to whole blocks. -/
def pad (message : List Nat) : List Nat :=
  let zeros := (119 - message.length % 64) % 64
  message ++ [0x80] ++ List.replicate zeros 0 ++ bigEndian 8 (message.length * 8)

/-- The SHA-256 hash of a sequence of bytes. -/
def sha256 (message : List Nat) : List Nat :=
  let padded := pad message
  let words := (chunks 4 (padded.length / 4 + 1) padded).map wordOfBytes
  let blocks := chunks 16 (padded.length / 64 + 1) words
  let final := blocks.foldl compress Words.start
  final.toList.flatMap fun word => bigEndian 4 word.toNat

/-- The lower-case hexadecimal text of a sequence of bytes. -/
def hexText (bytes : List Nat) : List Char :=
  bytes.flatMap fun byte => [Text.hexChar (byte / 16), Text.hexChar (byte % 16)]

/-- The first `digits` hexadecimal digits of the hash of a text. -/
def shortHash (digits : Nat) (text : List Char) : String :=
  String.ofList ((hexText (sha256 (Text.encodeUtf8 text))).take digits)

end SchemaDrift.Digest
