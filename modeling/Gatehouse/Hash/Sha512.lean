/-!
# SHA-512

The hash of a message of octets with words of 64 bits: padding to whole blocks of
128, a schedule of 80 words for each block, and 80 rounds. All arithmetic on words
is modulo `2 ^ 64`. Signatures need it; nothing else does.
-/

namespace Gatehouse.Hash

namespace Sha512

/-- The round constants: the first bits of the fractions of the cube roots of the primes. -/
def roundConstants : List UInt64 := [
  0x428a2f98d728ae22, 0x7137449123ef65cd, 0xb5c0fbcfec4d3b2f, 0xe9b5dba58189dbbc,
  0x3956c25bf348b538, 0x59f111f1b605d019, 0x923f82a4af194f9b, 0xab1c5ed5da6d8118,
  0xd807aa98a3030242, 0x12835b0145706fbe, 0x243185be4ee4b28c, 0x550c7dc3d5ffb4e2,
  0x72be5d74f27b896f, 0x80deb1fe3b1696b1, 0x9bdc06a725c71235, 0xc19bf174cf692694,
  0xe49b69c19ef14ad2, 0xefbe4786384f25e3, 0x0fc19dc68b8cd5b5, 0x240ca1cc77ac9c65,
  0x2de92c6f592b0275, 0x4a7484aa6ea6e483, 0x5cb0a9dcbd41fbd4, 0x76f988da831153b5,
  0x983e5152ee66dfab, 0xa831c66d2db43210, 0xb00327c898fb213f, 0xbf597fc7beef0ee4,
  0xc6e00bf33da88fc2, 0xd5a79147930aa725, 0x06ca6351e003826f, 0x142929670a0e6e70,
  0x27b70a8546d22ffc, 0x2e1b21385c26c926, 0x4d2c6dfc5ac42aed, 0x53380d139d95b3df,
  0x650a73548baf63de, 0x766a0abb3c77b2a8, 0x81c2c92e47edaee6, 0x92722c851482353b,
  0xa2bfe8a14cf10364, 0xa81a664bbc423001, 0xc24b8b70d0f89791, 0xc76c51a30654be30,
  0xd192e819d6ef5218, 0xd69906245565a910, 0xf40e35855771202a, 0x106aa07032bbd1b8,
  0x19a4c116b8d2d0c8, 0x1e376c085141ab53, 0x2748774cdf8eeb99, 0x34b0bcb5e19b48a8,
  0x391c0cb3c5c95a63, 0x4ed8aa4ae3418acb, 0x5b9cca4f7763e373, 0x682e6ff3d6b2b8a3,
  0x748f82ee5defb2fc, 0x78a5636f43172f60, 0x84c87814a1f0ab72, 0x8cc702081a6439ec,
  0x90befffa23631e28, 0xa4506cebde82bde9, 0xbef9a3f7b2c67915, 0xc67178f2e372532b,
  0xca273eceea26619c, 0xd186b8c721c0c207, 0xeada7dd6cde0eb1e, 0xf57d4f7fee6ed178,
  0x06f067aa72176fba, 0x0a637dc5a2c898a6, 0x113f9804bef90dae, 0x1b710b35131c471b,
  0x28db77f523047d84, 0x32caab7b40c72493, 0x3c9ebe0a15c9bebc, 0x431d67c49c100d4c,
  0x4cc5d4becb3e42b6, 0x597f299cfc657e2a, 0x5fcb6fab3ad6faec, 0x6c44198c4a475817]

/-- The eight words of the running hash. -/
structure State where
  a : UInt64
  b : UInt64
  c : UInt64
  d : UInt64
  e : UInt64
  f : UInt64
  g : UInt64
  h : UInt64
deriving DecidableEq, Repr

/-- The hash before the first block. -/
def State.initial : State :=
  ⟨0x6a09e667f3bcc908, 0xbb67ae8584caa73b, 0x3c6ef372fe94f82b, 0xa54ff53a5f1d36f1,
    0x510e527fade682d1, 0x9b05688c2b3e6c1f, 0x1f83d9abfb41bd6b, 0x5be0cd19137e2179⟩

/-- The sum of two states, word by word. -/
def State.add (first second : State) : State :=
  ⟨first.a + second.a, first.b + second.b, first.c + second.c, first.d + second.d,
    first.e + second.e, first.f + second.f, first.g + second.g, first.h + second.h⟩

/-- A word turned to the right by a count from one to sixty-three. -/
def rotateRight (word count : UInt64) : UInt64 := (word >>> count) ||| (word <<< (64 - count))

/-- One round, with its constant and its word of the schedule. -/
def State.round (state : State) (step : UInt64 × UInt64) : State :=
  let sum1 := rotateRight state.e 14 ^^^ rotateRight state.e 18 ^^^ rotateRight state.e 41
  let choice := (state.e &&& state.f) ^^^ (~~~ state.e &&& state.g)
  let first := state.h + sum1 + choice + step.1 + step.2
  let sum0 := rotateRight state.a 28 ^^^ rotateRight state.a 34 ^^^ rotateRight state.a 39
  let majority := (state.a &&& state.b) ^^^ (state.a &&& state.c) ^^^ (state.b &&& state.c)
  ⟨first + (sum0 + majority), state.a, state.b, state.c, state.d + first, state.e, state.f, state.g⟩

/-- Extend a schedule, the latest word of which stands first, by one word for each unit of fuel. -/
def extendSchedule (words : List UInt64) : Nat → List UInt64
  | 0 => words
  | fuel + 1 =>
    let fifteenth := words.getD 14 0
    let second := words.getD 1 0
    let small0 := rotateRight fifteenth 1 ^^^ rotateRight fifteenth 8 ^^^ (fifteenth >>> 7)
    let small1 := rotateRight second 19 ^^^ rotateRight second 61 ^^^ (second >>> 6)
    extendSchedule ((words.getD 15 0 + small0 + words.getD 6 0 + small1) :: words) fuel

/-- Eight octets make a word, the highest first. -/
def wordsOf : List UInt8 → List UInt64
  | a :: b :: c :: d :: e :: f :: g :: h :: rest =>
    ([a, b, c, d, e, f, g, h].foldl (fun word octet => (word <<< 8) ||| octet.toUInt64) 0)
      :: wordsOf rest
  | _ => []

/-- Fold one block into the hash. -/
def State.compress (state : State) (block : List UInt8) : State :=
  let schedule := (extendSchedule (wordsOf block).reverse 64).reverse
  state.add ((roundConstants.zip schedule).foldl State.round state)

/-- The octets of a number of a fixed width, the highest first. -/
def bigEndian (width value : Nat) : List UInt8 :=
  (List.range width).reverse.map fun place => UInt8.ofNat (value / Nat.pow 256 place % 256)

/-- A message with the mark of its end and its length in bits, in whole blocks. -/
def pad (message : List UInt8) : List UInt8 :=
  let zeros := (239 - message.length % 128) % 128
  message ++ 0x80 :: List.replicate zeros 0 ++ bigEndian 16 (message.length * 8)

/-- Fold the blocks of padded octets into the hash, one block for each unit of fuel. -/
def State.absorb (state : State) (octets : List UInt8) : Nat → State
  | 0 => state
  | fuel + 1 => (state.compress (octets.take 128)).absorb (octets.drop 128) fuel

/-- The octets of a word, the highest first. -/
def octetsOf (word : UInt64) : List UInt8 :=
  [56, 48, 40, 32, 24, 16, 8, 0].map fun (shift : UInt64) => (word >>> shift).toUInt8

/-- The 64 octets of a hash. -/
def State.octets (state : State) : List UInt8 :=
  [state.a, state.b, state.c, state.d, state.e, state.f, state.g, state.h].flatMap octetsOf

end Sha512

/-- The SHA-512 hash of a message, 64 octets. -/
def sha512 (message : List UInt8) : List UInt8 :=
  let padded := Sha512.pad message
  (Sha512.State.initial.absorb padded (padded.length / 128)).octets

end Gatehouse.Hash
