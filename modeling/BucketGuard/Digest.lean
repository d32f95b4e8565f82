namespace BucketGuard

/-! The SHA-256 digest of a text. A message is padded to blocks of sixteen words; each block is
expanded to sixty-four words and mixed into the eight words of the state. -/

namespace Digest

-- Powers of plain numbers, whatever else is imported.
attribute [local instance (2000)] instPowNat

structure State where
  a : UInt32
  b : UInt32
  c : UInt32
  d : UInt32
  e : UInt32
  f : UInt32
  g : UInt32
  h : UInt32

/-- The fractional parts of the square roots of the first eight primes. -/
def initialState : State :=
  { a := 0x6a09e667, b := 0xbb67ae85, c := 0x3c6ef372, d := 0xa54ff53a
    e := 0x510e527f, f := 0x9b05688c, g := 0x1f83d9ab, h := 0x5be0cd19 }

/-- The fractional parts of the cube roots of the first sixty-four primes. -/
def roundConstants : List UInt32 :=
  [0x428a2f98, 0x71374491, 0xb5c0fbcf, 0xe9b5dba5, 0x3956c25b, 0x59f111f1, 0x923f82a4, 0xab1c5ed5,
   0xd807aa98, 0x12835b01, 0x243185be, 0x550c7dc3, 0x72be5d74, 0x80deb1fe, 0x9bdc06a7, 0xc19bf174,
   0xe49b69c1, 0xefbe4786, 0x0fc19dc6, 0x240ca1cc, 0x2de92c6f, 0x4a7484aa, 0x5cb0a9dc, 0x76f988da,
   0x983e5152, 0xa831c66d, 0xb00327c8, 0xbf597fc7, 0xc6e00bf3, 0xd5a79147, 0x06ca6351, 0x14292967,
   0x27b70a85, 0x2e1b2138, 0x4d2c6dfc, 0x53380d13, 0x650a7354, 0x766a0abb, 0x81c2c92e, 0x92722c85,
   0xa2bfe8a1, 0xa81a664b, 0xc24b8b70, 0xc76c51a3, 0xd192e819, 0xd6990624, 0xf40e3585, 0x106aa070,
   0x19a4c116, 0x1e376c08, 0x2748774c, 0x34b0bcb5, 0x391c0cb3, 0x4ed8aa4a, 0x5b9cca4f, 0x682e6ff3,
   0x748f82ee, 0x78a5636f, 0x84c87814, 0x8cc70208, 0x90befffa, 0xa4506ceb, 0xbef9a3f7, 0xc67178f2]

def rotateRight (word : UInt32) (amount : UInt32) : UInt32 :=
  (word >>> amount) ||| (word <<< (32 - amount))

/-- The word that follows sixteen words, given latest first. -/
def nextWord (latest : List UInt32) : UInt32 :=
  let recent := latest.getD 1 0
  let distant := latest.getD 14 0
  let low := rotateRight distant 7 ^^^ rotateRight distant 18 ^^^ (distant >>> 3)
  let high := rotateRight recent 17 ^^^ rotateRight recent 19 ^^^ (recent >>> 10)
  latest.getD 15 0 + low + latest.getD 6 0 + high

def schedule (block : List UInt32) : List UInt32 :=
  ((List.range 48).foldl (fun latest _ => nextWord latest :: latest) block.reverse).reverse

def mix (state : State) (constant word : UInt32) : State :=
  let s1 := rotateRight state.e 6 ^^^ rotateRight state.e 11 ^^^ rotateRight state.e 25
  let choice := (state.e &&& state.f) ^^^ (~~~state.e &&& state.g)
  let first := state.h + s1 + choice + constant + word
  let s0 := rotateRight state.a 2 ^^^ rotateRight state.a 13 ^^^ rotateRight state.a 22
  let majority := (state.a &&& state.b) ^^^ (state.a &&& state.c) ^^^ (state.b &&& state.c)
  { a := first + s0 + majority, b := state.a, c := state.b, d := state.c
    e := state.d + first, f := state.e, g := state.f, h := state.g }

def absorb (state : State) (block : List UInt32) : State :=
  let mixed := (roundConstants.zip (schedule block)).foldl
    (fun state (constant, word) => mix state constant word) state
  { a := state.a + mixed.a, b := state.b + mixed.b, c := state.c + mixed.c, d := state.d + mixed.d
    e := state.e + mixed.e, f := state.f + mixed.f, g := state.g + mixed.g, h := state.h + mixed.h }

/-- The bytes of a number, the highest first. -/
def bigEndian (count number : Nat) : List UInt8 :=
  (List.range count).reverse.map fun position => UInt8.ofNat (number / 256 ^ position)

/-- A message with a one bit, zeros up to eight bytes short of a whole block, and its length in
bits. -/
def pad (message : List UInt8) : List UInt8 :=
  let zeros := (64 - (message.length + 9) % 64) % 64
  message ++ 0x80 :: (List.replicate zeros 0 ++ bigEndian 8 (message.length * 8))

/-- Words of four bytes each, the highest byte first. -/
def words : List UInt8 → List UInt32
  | first :: second :: third :: fourth :: rest =>
      ((first.toUInt32 <<< 24) ||| (second.toUInt32 <<< 16) ||| (third.toUInt32 <<< 8) |||
        fourth.toUInt32) :: words rest
  | _ => []

def absorbAll (state : State) (blocks : Nat) (message : List UInt32) : State :=
  match blocks with
  | 0 => state
  | blocks + 1 => absorbAll (absorb state (message.take 16)) blocks (message.drop 16)

def wordDigits (word : UInt32) : List Char :=
  let digits := Nat.toDigits 16 word.toNat
  List.replicate (8 - digits.length) '0' ++ digits

/-- The digest of a text's UTF-8 bytes in hexadecimal. -/
def sha256 (text : String) : String :=
  let message := words (pad text.toUTF8.toList)
  let state := absorbAll initialState (message.length / 16) message
  String.ofList (wordDigits state.a ++ wordDigits state.b ++ wordDigits state.c ++
    wordDigits state.d ++ wordDigits state.e ++ wordDigits state.f ++ wordDigits state.g ++
    wordDigits state.h)

end Digest

end BucketGuard
