import Gatehouse.Claims
import Gatehouse.Text.Base64
import Gatehouse.Text.Utf8

/-!
# Compact tokens

A token is `header.payload.signature`, each part in unpadded base64 for URLs. The
header is an object that names an algorithm; a deployment pins one algorithm, and the
name in a token is only ever compared with it, so no token can choose how it is
verified. The signature covers the literal text in front of the second dot.
-/

namespace Gatehouse

open Json

/-- The algorithm that a deployment pins. -/
inductive Algorithm
  | hs256
  | edDsa
deriving DecidableEq, Repr, Inhabited

namespace Algorithm

/-- The name of an algorithm in token headers and in settings. -/
def name : Algorithm → String
  | .hs256 => "HS256"
  | .edDsa => "EdDSA"

/-- The algorithm of a name; letters of another case make another name. -/
def ofName? (name : String) : Option Algorithm :=
  if name = "HS256" then some .hs256
  else if name = "EdDSA" then some .edDsa
  else none

/-- An algorithm is found by its name, so a header names the algorithm that it was written for. -/
theorem ofName?_name (algorithm : Algorithm) : ofName? algorithm.name = some algorithm := by
  cases algorithm <;> decide

end Algorithm

/-- Why a token is not accepted. -/
inductive TokenError
  | malformedToken
  | unsupportedAlgorithm
  | missingKeyMaterial
  | invalidKeyMaterial
  | signatureInvalid
  | malformedPayload
deriving DecidableEq, Repr

namespace TokenError

/-- The stable tag of an error. -/
def kind : TokenError → String
  | .malformedToken => "malformed_token"
  | .unsupportedAlgorithm => "unsupported_algorithm"
  | .missingKeyMaterial => "missing_key_material"
  | .invalidKeyMaterial => "invalid_key_material"
  | .signatureInvalid => "signature_invalid"
  | .malformedPayload => "malformed_payload"

/-- The words for an error. -/
def message : TokenError → String
  | .malformedToken => "token is not a well-formed compact token"
  | .unsupportedAlgorithm => "token algorithm does not match the pinned algorithm"
  | .missingKeyMaterial => "verification key material is missing"
  | .invalidKeyMaterial => "verification key material is invalid"
  | .signatureInvalid => "token signature is invalid"
  | .malformedPayload => "token payload is not a valid claim set"

end TokenError

/-- The claims of a token as a map, before they are taken for those of a task. -/
abbrev ClaimMap := List (String × Value)

/-- A token whose form has been checked: the text that the signature covers, the header, and the
octets of the payload and of the signature. -/
structure CompactToken where
  signingInput : List Char
  header : List (String × Value)
  payload : List UInt8
  signature : List UInt8
deriving Repr

namespace CompactToken

/-- The parts of a text between dots. -/
def splitDots : List Char → List (List Char)
  | [] => [[]]
  | character :: rest =>
    if character = '.' then [] :: splitDots rest
    else match splitDots rest with
      | [] => [[character]]
      | part :: parts => (character :: part) :: parts

/-- The members of an object that octets hold as a JSON text. -/
def objectOf? (octets : List UInt8) : Option (List (String × Value)) := do
  let text ← Text.Utf8.decode? octets
  match Value.read text with
  | .ok (.object members) => some members
  | _ => none

/-- The parts of a token. All three parts are decoded before the header is read. -/
def ofText? (text : String) : Option CompactToken :=
  match splitDots text.toList with
  | [header, payload, signature] => do
    let headerOctets ← Text.Base64.decodeChars? .url header
    let payloadOctets ← Text.Base64.decodeChars? .url payload
    let signatureOctets ← Text.Base64.decodeChars? .url signature
    let members ← objectOf? headerOctets
    return ⟨header ++ '.' :: payload, members, payloadOctets, signatureOctets⟩
  | _ => none

/-- Whether the header names an algorithm, as a text and by its exact name. -/
def names (token : CompactToken) (algorithm : Algorithm) : Bool :=
  match find? "alg" token.header with
  | some (.text name) => name == algorithm.name
  | _ => false

/-- A token of the right form for an algorithm. -/
def parse (text : String) (algorithm : Algorithm) : Except TokenError CompactToken :=
  match ofText? text with
  | none => .error .malformedToken
  | some token => if token.names algorithm then .ok token else .error .unsupportedAlgorithm

/-- The octets that the signature covers. -/
def signedOctets (token : CompactToken) : List UInt8 :=
  Text.Utf8.encode (String.ofList token.signingInput)

/-- The claims of a token whose signature has been checked. -/
def claims (token : CompactToken) : Except TokenError ClaimMap :=
  match objectOf? token.payload with
  | some members => .ok members
  | none => .error .malformedPayload

end CompactToken

end Gatehouse
