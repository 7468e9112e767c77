/-!
# Fingerprints

A file is recognised by the SHA-256 digest of its bytes, so that a change is noticed without
keeping the old content.

The message is padded with a one bit, zeros and its length in bits to a multiple of 64 bytes.
Each block is extended to 64 words, which are mixed into eight chaining words one after another.
-/

namespace QueryMetrics

namespace Sha256

/-- The 64 round constants. -/
def roundConstants : List UInt32 :=
  [0x428a2f98, 0x71374491, 0xb5c0fbcf, 0xe9b5dba5, 0x3956c25b, 0x59f111f1, 0x923f82a4, 0xab1c5ed5,
   0xd807aa98, 0x12835b01, 0x243185be, 0x550c7dc3, 0x72be5d74, 0x80deb1fe, 0x9bdc06a7, 0xc19bf174,
   0xe49b69c1, 0xefbe4786, 0x0fc19dc6, 0x240ca1cc, 0x2de92c6f, 0x4a7484aa, 0x5cb0a9dc, 0x76f988da,
   0x983e5152, 0xa831c66d, 0xb00327c8, 0xbf597fc7, 0xc6e00bf3, 0xd5a79147, 0x06ca6351, 0x14292967,
   0x27b70a85, 0x2e1b2138, 0x4d2c6dfc, 0x53380d13, 0x650a7354, 0x766a0abb, 0x81c2c92e, 0x92722c85,
   0xa2bfe8a1, 0xa81a664b, 0xc24b8b70, 0xc76c51a3, 0xd192e819, 0xd6990624, 0xf40e3585, 0x106aa070,
   0x19a4c116, 0x1e376c08, 0x2748774c, 0x34b0bcb5, 0x391c0cb3, 0x4ed8aa4a, 0x5b9cca4f, 0x682e6ff3,
   0x748f82ee, 0x78a5636f, 0x84c87814, 0x8cc70208, 0x90befffa, 0xa4506ceb, 0xbef9a3f7, 0xc67178f2]

/-- The eight chaining words. -/
structure Words where
  a : UInt32
  b : UInt32
  c : UInt32
  d : UInt32
  e : UInt32
  f : UInt32
  g : UInt32
  h : UInt32
  deriving DecidableEq, Repr

/-- The chaining words before the first block. -/
def initial : Words :=
  ⟨0x6a09e667, 0xbb67ae85, 0x3c6ef372, 0xa54ff53a, 0x510e527f, 0x9b05688c, 0x1f83d9ab, 0x5be0cd19⟩

/-- Rotates a word to the right. -/
def rotate (x n : UInt32) : UInt32 := (x >>> n) ||| (x <<< (32 - n))

/-- The next word of an extended block; the words so far come in reverse. -/
def nextWord (back : List UInt32) : UInt32 :=
  let w2 := back.getD 1 0
  let w7 := back.getD 6 0
  let w15 := back.getD 14 0
  let w16 := back.getD 15 0
  let s0 := rotate w15 7 ^^^ rotate w15 18 ^^^ (w15 >>> 3)
  let s1 := rotate w2 17 ^^^ rotate w2 19 ^^^ (w2 >>> 10)
  w16 + s0 + w7 + s1

/-- Extends a block by words; the words come in reverse. -/
def extend : Nat → List UInt32 → List UInt32
  | 0, back => back
  | n + 1, back => extend n (nextWord back :: back)

/-- Mixes one word, with its constant, into the chaining words. -/
def mix (s : Words) (constant word : UInt32) : Words :=
  let s1 := rotate s.e 6 ^^^ rotate s.e 11 ^^^ rotate s.e 25
  let choice := (s.e &&& s.f) ^^^ (~~~s.e &&& s.g)
  let t1 := s.h + s1 + choice + constant + word
  let s0 := rotate s.a 2 ^^^ rotate s.a 13 ^^^ rotate s.a 22
  let majority := (s.a &&& s.b) ^^^ (s.a &&& s.c) ^^^ (s.b &&& s.c)
  ⟨t1 + (s0 + majority), s.a, s.b, s.c, s.d + t1, s.e, s.f, s.g⟩

/-- Adds chaining words. -/
def Words.add (x y : Words) : Words :=
  ⟨x.a + y.a, x.b + y.b, x.c + y.c, x.d + y.d, x.e + y.e, x.f + y.f, x.g + y.g, x.h + y.h⟩

/-- Four bytes at a time as words, the high byte first. -/
def wordsOfBytes : List UInt8 → List UInt32
  | a :: b :: c :: d :: rest =>
    ((a.toUInt32 <<< 24) ||| (b.toUInt32 <<< 16) ||| (c.toUInt32 <<< 8) ||| d.toUInt32) ::
      wordsOfBytes rest
  | _ => []

/-- Mixes a block of sixteen words into the chaining words. -/
def compress (state : Words) (block : List UInt32) : Words :=
  let words := (extend 48 block.reverse).reverse
  state.add ((roundConstants.zip words).foldl (fun s entry => mix s entry.1 entry.2) state)

/-- Mixes blocks of sixteen words, as many as `count` says. -/
def compressAll : Nat → Words → List UInt32 → Words
  | 0, state, _ => state
  | count + 1, state, words =>
    compressAll count (compress state (words.take 16)) (words.drop 16)

/-- The message with its padding. -/
def padded (bytes : List UInt8) : List UInt8 :=
  let bits := bytes.length * 8
  let zeros := (119 - bytes.length % 64) % 64
  bytes ++ 0x80 :: List.replicate zeros 0 ++
    ((List.range 8).map fun i => UInt8.ofNat (bits / Nat.pow 256 (7 - i)))

end Sha256

/-- What a file is recognised by. -/
abbrev Fingerprint := Sha256.Words

/-- The fingerprint of a file's bytes. -/
def fingerprint (bytes : List UInt8) : Fingerprint :=
  let message := Sha256.padded bytes
  Sha256.compressAll (message.length / 64) Sha256.initial (Sha256.wordsOfBytes message)

end QueryMetrics
