/-!
# SHA-256

The hash of a message of octets: padding to whole blocks of 64, a schedule of 64
words for each block, and 64 rounds that fold the schedule into eight words. All
arithmetic on words is modulo `2 ^ 32`.
-/

namespace Gatehouse.Hash

namespace Sha256

/-- The round constants: the first bits of the fractions of the cube roots of the primes. -/
def roundConstants : List UInt32 := [
  0x428a2f98, 0x71374491, 0xb5c0fbcf, 0xe9b5dba5, 0x3956c25b, 0x59f111f1, 0x923f82a4, 0xab1c5ed5,
  0xd807aa98, 0x12835b01, 0x243185be, 0x550c7dc3, 0x72be5d74, 0x80deb1fe, 0x9bdc06a7, 0xc19bf174,
  0xe49b69c1, 0xefbe4786, 0x0fc19dc6, 0x240ca1cc, 0x2de92c6f, 0x4a7484aa, 0x5cb0a9dc, 0x76f988da,
  0x983e5152, 0xa831c66d, 0xb00327c8, 0xbf597fc7, 0xc6e00bf3, 0xd5a79147, 0x06ca6351, 0x14292967,
  0x27b70a85, 0x2e1b2138, 0x4d2c6dfc, 0x53380d13, 0x650a7354, 0x766a0abb, 0x81c2c92e, 0x92722c85,
  0xa2bfe8a1, 0xa81a664b, 0xc24b8b70, 0xc76c51a3, 0xd192e819, 0xd6990624, 0xf40e3585, 0x106aa070,
  0x19a4c116, 0x1e376c08, 0x2748774c, 0x34b0bcb5, 0x391c0cb3, 0x4ed8aa4a, 0x5b9cca4f, 0x682e6ff3,
  0x748f82ee, 0x78a5636f, 0x84c87814, 0x8cc70208, 0x90befffa, 0xa4506ceb, 0xbef9a3f7, 0xc67178f2]

/-- The eight words of the running hash. -/
structure State where
  a : UInt32
  b : UInt32
  c : UInt32
  d : UInt32
  e : UInt32
  f : UInt32
  g : UInt32
  h : UInt32
deriving DecidableEq, Repr

/-- The hash before the first block. -/
def State.initial : State :=
  ⟨0x6a09e667, 0xbb67ae85, 0x3c6ef372, 0xa54ff53a, 0x510e527f, 0x9b05688c, 0x1f83d9ab, 0x5be0cd19⟩

/-- The sum of two states, word by word. -/
def State.add (first second : State) : State :=
  ⟨first.a + second.a, first.b + second.b, first.c + second.c, first.d + second.d,
    first.e + second.e, first.f + second.f, first.g + second.g, first.h + second.h⟩

/-- A word turned to the right by a count from one to thirty-one. -/
def rotateRight (word count : UInt32) : UInt32 := (word >>> count) ||| (word <<< (32 - count))

/-- One round, with its constant and its word of the schedule. -/
def State.round (state : State) (step : UInt32 × UInt32) : State :=
  let sum1 := rotateRight state.e 6 ^^^ rotateRight state.e 11 ^^^ rotateRight state.e 25
  let choice := (state.e &&& state.f) ^^^ (~~~ state.e &&& state.g)
  let first := state.h + sum1 + choice + step.1 + step.2
  let sum0 := rotateRight state.a 2 ^^^ rotateRight state.a 13 ^^^ rotateRight state.a 22
  let majority := (state.a &&& state.b) ^^^ (state.a &&& state.c) ^^^ (state.b &&& state.c)
  ⟨first + (sum0 + majority), state.a, state.b, state.c, state.d + first, state.e, state.f, state.g⟩

/-- Extend a schedule, the latest word of which stands first, by one word for each unit of fuel. -/
def extendSchedule (words : List UInt32) : Nat → List UInt32
  | 0 => words
  | fuel + 1 =>
    let fifteenth := words.getD 14 0
    let second := words.getD 1 0
    let small0 := rotateRight fifteenth 7 ^^^ rotateRight fifteenth 18 ^^^ (fifteenth >>> 3)
    let small1 := rotateRight second 17 ^^^ rotateRight second 19 ^^^ (second >>> 10)
    extendSchedule ((words.getD 15 0 + small0 + words.getD 6 0 + small1) :: words) fuel

/-- Four octets make a word, the highest first. -/
def wordsOf : List UInt8 → List UInt32
  | a :: b :: c :: d :: rest =>
    ((a.toUInt32 <<< 24) ||| (b.toUInt32 <<< 16) ||| (c.toUInt32 <<< 8) ||| d.toUInt32)
      :: wordsOf rest
  | _ => []

/-- Fold one block into the hash. -/
def State.compress (state : State) (block : List UInt8) : State :=
  let schedule := (extendSchedule (wordsOf block).reverse 48).reverse
  state.add ((roundConstants.zip schedule).foldl State.round state)

/-- The octets of a number of a fixed width, the highest first. -/
def bigEndian (width value : Nat) : List UInt8 :=
  (List.range width).reverse.map fun place => UInt8.ofNat (value / Nat.pow 256 place % 256)

/-- A message with the mark of its end and its length in bits, in whole blocks. -/
def pad (message : List UInt8) : List UInt8 :=
  let zeros := (119 - message.length % 64) % 64
  message ++ 0x80 :: List.replicate zeros 0 ++ bigEndian 8 (message.length * 8)

/-- Fold the blocks of padded octets into the hash, one block for each unit of fuel. -/
def State.absorb (state : State) (octets : List UInt8) : Nat → State
  | 0 => state
  | fuel + 1 => (state.compress (octets.take 64)).absorb (octets.drop 64) fuel

/-- The octets of a word, the highest first. -/
def octetsOf (word : UInt32) : List UInt8 :=
  [(word >>> 24).toUInt8, (word >>> 16).toUInt8, (word >>> 8).toUInt8, word.toUInt8]

/-- The 32 octets of a hash. -/
def State.octets (state : State) : List UInt8 :=
  [state.a, state.b, state.c, state.d, state.e, state.f, state.g, state.h].flatMap octetsOf

end Sha256

/-- The SHA-256 hash of a message, 32 octets. -/
def sha256 (message : List UInt8) : List UInt8 :=
  let padded := Sha256.pad message
  (Sha256.State.initial.absorb padded (padded.length / 64)).octets

/-- A hash has 32 octets, four for each word of the state, whatever the message is. -/
theorem sha256_length (message : List UInt8) : (sha256 message).length = 32 := rfl

end Gatehouse.Hash
