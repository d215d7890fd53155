import Gatehouse.Hash.Hmac
import Gatehouse.KeyFile.Ed25519
import Gatehouse.Token.Basic

/-!
# Verifying tokens

A verifier is pinned to one algorithm and holds its key. The checks have a fixed
order: the form of the token, the algorithm it names, the key, the signature, the
payload. The first that fails decides, so a token for another algorithm is turned
away before the key is touched, whatever the key is.
-/

namespace Gatehouse

open Json

/-- A verifier and its key. A secret may be empty and a public key missing or unusable: such a
verifier accepts no token. -/
inductive Verifier
  | hs256 (secret : List UInt8)
  | edDsa (key : KeyFile.KeyState)
deriving Repr

namespace Verifier

/-- The pinned algorithm. -/
def algorithm : Verifier → Algorithm
  | .hs256 _ => .hs256
  | .edDsa _ => .edDsa

/-- Whether the signature of a token is valid, or why there is no key to check it with. -/
def checkSignature (token : CompactToken) : Verifier → Except TokenError Bool
  | .hs256 secret =>
    if secret.isEmpty then .error .missingKeyMaterial
    else .ok (Hash.hmacSha256 secret token.signedOctets == token.signature)
  | .edDsa key =>
    match key with
    | .missing => .error .missingKeyMaterial
    | .invalid => .error .invalidKeyMaterial
    | .ready publicKey => .ok (publicKey.accepts token.signedOctets token.signature)

/-- The claims of a valid token, as a map. -/
def verifyClaims (verifier : Verifier) (text : String) : Except TokenError ClaimMap := do
  let token ← CompactToken.parse text verifier.algorithm
  let valid ← verifier.checkSignature token
  if valid then token.claims else .error .signatureInvalid

/-- The claims of a valid token whose claims are those of a task. -/
def verify (verifier : Verifier) (text : String) : Except TokenError TaskClaims := do
  let members ← verifier.verifyClaims text
  match TaskClaims.ofClaimMap? members with
  | some claims => .ok claims
  | none => .error .malformedPayload

/-- What a summary shows of a verifier with a secret: never the secret. -/
def redactedSummary : String :=
  "Hs256Verifier \x7b secret: \"__REDACTED__\" \x7d"

end Verifier

end Gatehouse
