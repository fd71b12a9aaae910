import Mathlib.Algebra.Group.Nat.Defs

/-!
Owns the SHA-256 digest of a list of bytes. It does not own any claim about
collisions.
-/

namespace LlmObs.Foundation

namespace Sha256

abbrev Byte := BitVec 8
abbrev Word := BitVec 32

/-! ### Functions of words -/

def choose (x y z : Word) : Word := (x &&& y) ^^^ (~~~x &&& z)

def majority (x y z : Word) : Word := (x &&& y) ^^^ (x &&& z) ^^^ (y &&& z)

def bigSigma0 (x : Word) : Word := x.rotateRight 2 ^^^ x.rotateRight 13 ^^^ x.rotateRight 22

def bigSigma1 (x : Word) : Word := x.rotateRight 6 ^^^ x.rotateRight 11 ^^^ x.rotateRight 25

def smallSigma0 (x : Word) : Word := x.rotateRight 7 ^^^ x.rotateRight 18 ^^^ (x >>> 3)

def smallSigma1 (x : Word) : Word := x.rotateRight 17 ^^^ x.rotateRight 19 ^^^ (x >>> 10)

/-- One constant for each round. -/
def constants : List Word :=
  [0x428a2f98, 0x71374491, 0xb5c0fbcf, 0xe9b5dba5, 0x3956c25b, 0x59f111f1, 0x923f82a4,
    0xab1c5ed5, 0xd807aa98, 0x12835b01, 0x243185be, 0x550c7dc3, 0x72be5d74, 0x80deb1fe,
    0x9bdc06a7, 0xc19bf174, 0xe49b69c1, 0xefbe4786, 0x0fc19dc6, 0x240ca1cc, 0x2de92c6f,
    0x4a7484aa, 0x5cb0a9dc, 0x76f988da, 0x983e5152, 0xa831c66d, 0xb00327c8, 0xbf597fc7,
    0xc6e00bf3, 0xd5a79147, 0x06ca6351, 0x14292967, 0x27b70a85, 0x2e1b2138, 0x4d2c6dfc,
    0x53380d13, 0x650a7354, 0x766a0abb, 0x81c2c92e, 0x92722c85, 0xa2bfe8a1, 0xa81a664b,
    0xc24b8b70, 0xc76c51a3, 0xd192e819, 0xd6990624, 0xf40e3585, 0x106aa070, 0x19a4c116,
    0x1e376c08, 0x2748774c, 0x34b0bcb5, 0x391c0cb3, 0x4ed8aa4a, 0x5b9cca4f, 0x682e6ff3,
    0x748f82ee, 0x78a5636f, 0x84c87814, 0x8cc70208, 0x90befffa, 0xa4506ceb, 0xbef9a3f7,
    0xc67178f2]

/-! ### Blocks -/

/-- The bytes of a length in bits, most significant byte first. -/
def lengthBytes (bits : Nat) : List Byte :=
  (List.range 8).map fun index => BitVec.ofNat 8 (bits / 256 ^ (7 - index))

/-- The message up to a multiple of 64 bytes. -/
def pad (message : List Byte) : List Byte :=
  message ++ 0x80 :: (List.replicate ((55 + 64 - message.length % 64) % 64) 0 ++
    lengthBytes (8 * message.length))

/-- Big-endian words; bytes that fill no word are left out. -/
def toWords : List Byte → List Word
  | first :: second :: third :: fourth :: rest =>
      (first ++ second ++ third ++ fourth) :: toWords rest
  | _ => []

/-- The message schedule, its newest word first. -/
def extend : (count : Nat) → (newestFirst : List Word) → List Word
  | 0, words => words
  | count + 1, words =>
      let word := smallSigma1 (words.getD 1 0) + words.getD 6 0 +
        smallSigma0 (words.getD 14 0) + words.getD 15 0
      extend count (word :: words)

/-- The eight working variables. -/
structure Variables where
  a : Word
  b : Word
  c : Word
  d : Word
  e : Word
  f : Word
  g : Word
  h : Word

namespace Variables

def initial : Variables where
  a := 0x6a09e667
  b := 0xbb67ae85
  c := 0x3c6ef372
  d := 0xa54ff53a
  e := 0x510e527f
  f := 0x9b05688c
  g := 0x1f83d9ab
  h := 0x5be0cd19

def round (state : Variables) (constant word : Word) : Variables :=
  let first := state.h + bigSigma1 state.e + choose state.e state.f state.g + constant + word
  let second := bigSigma0 state.a + majority state.a state.b state.c
  ⟨first + second, state.a, state.b, state.c, state.d + first, state.e, state.f, state.g⟩

def add (left right : Variables) : Variables :=
  ⟨left.a + right.a, left.b + right.b, left.c + right.c, left.d + right.d, left.e + right.e,
    left.f + right.f, left.g + right.g, left.h + right.h⟩

def digest (state : Variables) : BitVec 256 :=
  state.a ++ state.b ++ state.c ++ state.d ++ state.e ++ state.f ++ state.g ++ state.h

end Variables

/-- The rounds over the constants and the schedule. -/
def rounds : List Word → List Word → Variables → Variables
  | constant :: constants, word :: words, state =>
      rounds constants words (state.round constant word)
  | _, _, state => state

def compress (state : Variables) (block : List Word) : Variables :=
  state.add (rounds constants (extend 48 block.reverse).reverse state)

/-- The compression of `count` blocks of 16 words. -/
def compressBlocks : (count : Nat) → List Word → Variables → Variables
  | 0, _, state => state
  | count + 1, words, state =>
      compressBlocks count (words.drop 16) (compress state (words.take 16))

end Sha256

/-- `hashlib.sha256(message).digest()` as one number. -/
def sha256 (message : List (BitVec 8)) : BitVec 256 :=
  let words := Sha256.toWords (Sha256.pad message)
  (Sha256.compressBlocks (words.length / 16) words .initial).digest

/-- The digest of the text `abc`. -/
example : sha256 [0x61, 0x62, 0x63] =
    0xba7816bf8f01cfea414140de5dae2223b00361a396177a9cb410ff61f20015ad := by
  decide +kernel

end LlmObs.Foundation
