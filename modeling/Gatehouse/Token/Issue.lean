import Gatehouse.Token.Verifier

/-!
# Issuing tokens

A token for a JSON value: a fixed header, the compact text of the value, and a
signature over both. Any value can be signed; only an object will be accepted as
claims.
-/

namespace Gatehouse

open Json

/-- What signs a token. -/
inductive Issuer
  | hs256 (secret : List UInt8)
  | edDsa (key : Ed25519.SigningKey)
deriving Repr

namespace Issuer

/-- The algorithm that an issuer signs with. -/
def algorithm : Issuer → Algorithm
  | .hs256 _ => .hs256
  | .edDsa _ => .edDsa

/-- The header of every token of an algorithm. -/
def header (algorithm : Algorithm) : Value :=
  .object [("alg", .text algorithm.name), ("typ", .text "JWT")]

/-- A part of a token: octets in base64 for URLs. -/
def part (octets : List UInt8) : List Char := Text.Base64.encodeChars .url octets

/-- The text that the signature covers. -/
def signingInput (algorithm : Algorithm) (value : Value) : List Char :=
  part (Text.Utf8.encode (header algorithm).render) ++
    '.' :: part (Text.Utf8.encode value.render)

/-- The signature of octets. -/
def signature (octets : List UInt8) : Issuer → List UInt8
  | .hs256 secret => Hash.hmacSha256 secret octets
  | .edDsa key => key.sign octets

/-- The token of a value. An empty secret signs nothing. -/
def issue (issuer : Issuer) (value : Value) : Except TokenError String :=
  let input := signingInput issuer.algorithm value
  let token := String.ofList
    (input ++ '.' :: part (issuer.signature (Text.Utf8.encode (String.ofList input))))
  match issuer with
  | .hs256 secret => if secret.isEmpty then .error .missingKeyMaterial else .ok token
  | .edDsa _ => .ok token

end Issuer

end Gatehouse
