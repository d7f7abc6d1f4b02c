import TokenService.Text.Utf8

/-!
# SHA-256

The digest of a message: the message is padded to whole blocks of sixteen words, and each block in
turn is mixed into a state of eight words. The sizes of the state, of a block and of the digest are
part of their types.
-/

set_option autoImplicit false
set_option relaxedAutoImplicit false

namespace TokenService.Digest.Sha256

/-! ### Constants -/

/-- The state before the first block: the fractional parts of the square roots of the first eight
primes. -/
def initial : Vector UInt32 8 :=
  #v[0x6a09e667, 0xbb67ae85, 0x3c6ef372, 0xa54ff53a, 0x510e527f, 0x9b05688c, 0x1f83d9ab, 0x5be0cd19]

/-- One constant for each round: the fractional parts of the cube roots of the first 64 primes. -/
def roundConstants : List UInt32 :=
  [0x428a2f98, 0x71374491, 0xb5c0fbcf, 0xe9b5dba5, 0x3956c25b, 0x59f111f1, 0x923f82a4, 0xab1c5ed5,
    0xd807aa98, 0x12835b01, 0x243185be, 0x550c7dc3, 0x72be5d74, 0x80deb1fe, 0x9bdc06a7, 0xc19bf174,
    0xe49b69c1, 0xefbe4786, 0x0fc19dc6, 0x240ca1cc, 0x2de92c6f, 0x4a7484aa, 0x5cb0a9dc, 0x76f988da,
    0x983e5152, 0xa831c66d, 0xb00327c8, 0xbf597fc7, 0xc6e00bf3, 0xd5a79147, 0x06ca6351, 0x14292967,
    0x27b70a85, 0x2e1b2138, 0x4d2c6dfc, 0x53380d13, 0x650a7354, 0x766a0abb, 0x81c2c92e, 0x92722c85,
    0xa2bfe8a1, 0xa81a664b, 0xc24b8b70, 0xc76c51a3, 0xd192e819, 0xd6990624, 0xf40e3585, 0x106aa070,
    0x19a4c116, 0x1e376c08, 0x2748774c, 0x34b0bcb5, 0x391c0cb3, 0x4ed8aa4a, 0x5b9cca4f, 0x682e6ff3,
    0x748f82ee, 0x78a5636f, 0x84c87814, 0x8cc70208, 0x90befffa, 0xa4506ceb, 0xbef9a3f7, 0xc67178f2]

/-! ### Mixing -/

/-- The word turned right by some bits. -/
def rotateRight (word : UInt32) (count : UInt32) : UInt32 :=
  (word >>> count) ||| (word <<< (32 - count))

/-- Mixes the first of the eight words. -/
def bigSigma0 (word : UInt32) : UInt32 :=
  rotateRight word 2 ^^^ rotateRight word 13 ^^^ rotateRight word 22

/-- Mixes the fifth of the eight words. -/
def bigSigma1 (word : UInt32) : UInt32 :=
  rotateRight word 6 ^^^ rotateRight word 11 ^^^ rotateRight word 25

/-- Mixes the word fifteen places back in the schedule. -/
def smallSigma0 (word : UInt32) : UInt32 :=
  rotateRight word 7 ^^^ rotateRight word 18 ^^^ (word >>> 3)

/-- Mixes the word two places back in the schedule. -/
def smallSigma1 (word : UInt32) : UInt32 :=
  rotateRight word 17 ^^^ rotateRight word 19 ^^^ (word >>> 10)

/-- The second word where the first has a one, the third elsewhere. -/
def choose (first second third : UInt32) : UInt32 :=
  (first &&& second) ^^^ (~~~first &&& third)

/-- Each bit as most of the three words have it. -/
def majority (first second third : UInt32) : UInt32 :=
  (first &&& second) ^^^ (first &&& third) ^^^ (second &&& third)

/-- The state during the rounds of a block, and the next sixteen words of its schedule. -/
structure Mixing where
  state : Vector UInt32 8
  schedule : Vector UInt32 16

/-- The schedule one word on. -/
def nextSchedule (schedule : Vector UInt32 16) : Vector UInt32 16 :=
  let added := smallSigma1 schedule[14] + schedule[9] + smallSigma0 schedule[1] + schedule[0]
  Vector.ofFn fun place ↦
    if inside : place.val + 1 < 16 then schedule[place.val + 1] else added

/-- One round. -/
def mix (mixing : Mixing) (constant : UInt32) : Mixing :=
  let state := mixing.state
  let first := state[7] + bigSigma1 state[4] + choose state[4] state[5] state[6] + constant +
    mixing.schedule[0]
  let second := bigSigma0 state[0] + majority state[0] state[1] state[2]
  { state := #v[first + second, state[0], state[1], state[2], state[3] + first, state[4], state[5],
      state[6]]
    schedule := nextSchedule mixing.schedule }

/-- Mixes a block into the state. -/
def compress (state : Vector UInt32 8) (block : Vector UInt32 16) : Vector UInt32 8 :=
  let mixed := roundConstants.foldl mix ⟨state, block⟩
  state.zipWith (· + ·) mixed.state

/-! ### Messages -/

/-- The word of the first four bytes, the highest first. -/
def word (bytes : Bytes) : UInt32 :=
  (bytes.take 4).foldl (fun value byte ↦ value <<< 8 ||| byte.toUInt32) 0

/-- The block of the first 64 bytes. -/
def block (bytes : Bytes) : Vector UInt32 16 :=
  Vector.ofFn fun place ↦ word (bytes.drop (4 * place.val))

/-- The eight bytes of a number, the highest first. -/
def lengthBytes (value : Nat) : Bytes :=
  (List.range 8).map fun place ↦ UInt8.ofNat (value / Nat.pow 256 (7 - place) % 256)

/-- A message with a mark, zeros and its length in bits behind it, so that it fills whole blocks. -/
def padded (message : Bytes) : Bytes :=
  message ++ 0x80 :: List.replicate ((119 - message.length % 64) % 64) 0 ++
    lengthBytes (8 * message.length)

/-- Mixes all whole blocks into a state. -/
def absorb (state : Vector UInt32 8) (bytes : Bytes) : Vector UInt32 8 :=
  if bytes.length < 64 then state
  else absorb (compress state (block bytes)) (bytes.drop 64)
termination_by bytes.length
decreasing_by simp only [List.length_drop]; omega

/-- The bytes of a state, the highest byte of each word first. -/
def stateBytes (state : Vector UInt32 8) : Vector UInt8 32 :=
  Vector.ofFn fun place ↦
    (state[place.val / 4] >>> UInt32.ofNat (8 * (3 - place.val % 4))).toUInt8

/-- The digest of a message. -/
def digest (message : Bytes) : Vector UInt8 32 :=
  stateBytes (absorb initial (padded message))

end TokenService.Digest.Sha256
