import Mathlib.Data.List.Basic

/-!
# SHA-256

The hash of FIPS 180-4 over byte lists, written so that the kernel can evaluate
it on a concrete message. Only the length of the digest is proved: no argument
in this development rests on the hash being free of collisions.
-/

namespace UmojaFlowOS.Crypto

abbrev Word := BitVec 32

def roundConstants : List Word := [
  0x428a2f98, 0x71374491, 0xb5c0fbcf, 0xe9b5dba5, 0x3956c25b, 0x59f111f1, 0x923f82a4, 0xab1c5ed5,
  0xd807aa98, 0x12835b01, 0x243185be, 0x550c7dc3, 0x72be5d74, 0x80deb1fe, 0x9bdc06a7, 0xc19bf174,
  0xe49b69c1, 0xefbe4786, 0x0fc19dc6, 0x240ca1cc, 0x2de92c6f, 0x4a7484aa, 0x5cb0a9dc, 0x76f988da,
  0x983e5152, 0xa831c66d, 0xb00327c8, 0xbf597fc7, 0xc6e00bf3, 0xd5a79147, 0x06ca6351, 0x14292967,
  0x27b70a85, 0x2e1b2138, 0x4d2c6dfc, 0x53380d13, 0x650a7354, 0x766a0abb, 0x81c2c92e, 0x92722c85,
  0xa2bfe8a1, 0xa81a664b, 0xc24b8b70, 0xc76c51a3, 0xd192e819, 0xd6990624, 0xf40e3585, 0x106aa070,
  0x19a4c116, 0x1e376c08, 0x2748774c, 0x34b0bcb5, 0x391c0cb3, 0x4ed8aa4a, 0x5b9cca4f, 0x682e6ff3,
  0x748f82ee, 0x78a5636f, 0x84c87814, 0x8cc70208, 0x90befffa, 0xa4506ceb, 0xbef9a3f7, 0xc67178f2]

def smallSigma0 (x : Word) : Word := x.rotateRight 7 ^^^ x.rotateRight 18 ^^^ (x >>> 3)
def smallSigma1 (x : Word) : Word := x.rotateRight 17 ^^^ x.rotateRight 19 ^^^ (x >>> 10)
def bigSigma0 (x : Word) : Word := x.rotateRight 2 ^^^ x.rotateRight 13 ^^^ x.rotateRight 22
def bigSigma1 (x : Word) : Word := x.rotateRight 6 ^^^ x.rotateRight 11 ^^^ x.rotateRight 25
def ch (x y z : Word) : Word := (x &&& y) ^^^ (~~~x &&& z)
def maj (x y z : Word) : Word := (x &&& y) ^^^ (x &&& z) ^^^ (y &&& z)

/-- The message schedule from a window of the latest sixteen words, oldest
first; `n` words are still to be computed. -/
def schedule : Nat → List Word → List Word
  | 0, window => window
  | _ + 1, [] => []
  | n + 1, oldest :: rest =>
      oldest :: schedule n (rest ++
        [smallSigma1 (rest.getD 13 0) + rest.getD 8 0 + smallSigma0 (rest.getD 0 0) + oldest])

structure Chain where
  a : Word
  b : Word
  c : Word
  d : Word
  e : Word
  f : Word
  g : Word
  h : Word

def initialChain : Chain :=
  ⟨0x6a09e667, 0xbb67ae85, 0x3c6ef372, 0xa54ff53a, 0x510e527f, 0x9b05688c, 0x1f83d9ab, 0x5be0cd19⟩

def compressRound (s : Chain) (k w : Word) : Chain :=
  let t1 := s.h + bigSigma1 s.e + ch s.e s.f s.g + k + w
  let t2 := bigSigma0 s.a + maj s.a s.b s.c
  ⟨t1 + t2, s.a, s.b, s.c, s.d + t1, s.e, s.f, s.g⟩

def compressRounds (s : Chain) : List Word → List Word → Chain
  | k :: ks, w :: ws => compressRounds (compressRound s k w) ks ws
  | _, _ => s

def compress (s : Chain) (block : List Word) : Chain :=
  let t := compressRounds s roundConstants (schedule 48 block)
  ⟨s.a + t.a, s.b + t.b, s.c + t.c, s.d + t.d, s.e + t.e, s.f + t.f, s.g + t.g, s.h + t.h⟩

/-- The low `n` bytes of a number, most significant first. -/
def bigEndian : Nat → Nat → List UInt8
  | 0, _ => []
  | n + 1, value => bigEndian n (value / 256) ++ [UInt8.ofNat value]

/-- The number a byte list denotes, most significant first. -/
def ofBigEndian (bytes : List UInt8) : Nat :=
  bytes.foldl (fun value byte => value * 256 + byte.toNat) 0

section
variable (message : List UInt8)

def padded : List UInt8 :=
  message ++ [0x80] ++ List.replicate ((119 - message.length % 64) % 64) 0 ++
    bigEndian 8 (message.length * 8)

def wordsOf : List UInt8 → List Word
  | b0 :: b1 :: b2 :: b3 :: rest => BitVec.ofNat 32 (ofBigEndian [b0, b1, b2, b3]) :: wordsOf rest
  | _ => []

def compressBlocks (s : Chain) : Nat → List Word → Chain
  | 0, _ => s
  | n + 1, words => compressBlocks (compress s (words.take 16)) n (words.drop 16)

def Chain.words (s : Chain) : List Word := [s.a, s.b, s.c, s.d, s.e, s.f, s.g, s.h]

def sha256 : List UInt8 :=
  let words := wordsOf (padded message)
  (compressBlocks initialChain (words.length / 16) words).words.flatMap fun word =>
    bigEndian 4 word.toNat

@[simp] theorem bigEndian_length (n value : Nat) : (bigEndian n value).length = n := by
  induction n generalizing value with
  | zero => rfl
  | succ n ih => simp [bigEndian, ih]

@[simp] theorem sha256_length : (sha256 message).length = 32 := by
  simp [sha256, Chain.words]

end

/-- The one-block test message of the standard. -/
example : sha256 [0x61, 0x62, 0x63] =
    [0xba, 0x78, 0x16, 0xbf, 0x8f, 0x01, 0xcf, 0xea, 0x41, 0x41, 0x40, 0xde, 0x5d, 0xae, 0x22, 0x23,
     0xb0, 0x03, 0x61, 0xa3, 0x96, 0x17, 0x7a, 0x9c, 0xb4, 0x10, 0xff, 0x61, 0xf2, 0x00, 0x15, 0xad] := by
  decide +kernel

end UmojaFlowOS.Crypto
