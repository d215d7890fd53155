import Gatehouse.Ed25519.Curve
import Gatehouse.Hash.Sha512

/-!
# Ed25519 signatures

Signing with a seed of 32 octets, and the strict check of a signature: the number in
it is reduced, neither the key nor the point in it is of small order, and the equation
holds without the cofactor. The point is compared as octets, so each signature has
one spelling.
-/

namespace Gatehouse.Ed25519

/-- A public key: the octets it was given as, and the point they stand for. -/
structure PublicKey where
  octets : List UInt8
  point : Point
deriving DecidableEq, Repr

/-- The public key of 32 octets, if they stand for a point. -/
def PublicKey.ofOctets? (octets : List UInt8) : Option PublicKey :=
  if octets.length = 32 then (Point.decompress? octets).map fun point => ⟨octets, point⟩
  else none

/-- A signing key is a seed of 32 octets. -/
structure SigningKey where
  seed : List UInt8
deriving DecidableEq, Repr

namespace SigningKey

/-- The secret factor: the first half of the hash of the seed, made a multiple of eight whose
highest bit is fixed. -/
def factor (key : SigningKey) : Nat :=
  let number := littleEndian ((Hash.sha512 key.seed).take 32)
  number % Nat.pow 2 254 / 8 * 8 + Nat.pow 2 254

/-- The second half of the hash of the seed, which makes the nonce of a message. -/
def nonceKey (key : SigningKey) : List UInt8 := (Hash.sha512 key.seed).drop 32

/-- The public key of a signing key. -/
def publicKey (key : SigningKey) : PublicKey :=
  let point := Point.multiply key.factor Point.base
  ⟨point.compress, point⟩

end SigningKey

/-- The number that binds the point of a signature, the key and the message together. -/
def challenge (point key message : List UInt8) : Nat :=
  littleEndian (Hash.sha512 (point ++ key ++ message)) % groupOrder

/-- The 64 octets of the signature of a message. -/
def SigningKey.sign (key : SigningKey) (message : List UInt8) : List UInt8 :=
  let nonce := littleEndian (Hash.sha512 (key.nonceKey ++ message)) % groupOrder
  let point := (Point.multiply nonce Point.base).compress
  let number := nonce + challenge point key.publicKey.octets message * key.factor
  point ++ octetsOf (number % groupOrder)

/-- Whether the strict check accepts a signature of a message. -/
def PublicKey.accepts (key : PublicKey) (message signature : List UInt8) : Bool :=
  let pointOctets := signature.take 32
  let number := littleEndian (signature.drop 32)
  signature.length == 64 && number < groupOrder &&
    match Point.decompress? pointOctets with
    | none => false
    | some point =>
      let factor := challenge pointOctets key.octets message
      let expected := (Point.multiply factor key.point.negate).add
        (Point.multiply number Point.base)
      !point.isSmallOrder && !key.point.isSmallOrder && expected.compress == pointOctets

end Gatehouse.Ed25519
