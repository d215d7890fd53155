import Gatehouse.Ed25519.Signature
import Gatehouse.KeyFile.Der
import Gatehouse.KeyFile.Pem
import Gatehouse.Text.Blank

/-!
# Ed25519 keys in files

The public key as a subject key record and the signing key as a private key record,
each in its textual form. The records name the signature scheme without parameters.
A private key record of the second version holds the public key too, which then has
to be the one of the seed.
-/

namespace Gatehouse.KeyFile

open Ed25519

/-- The content of the algorithm record: the identifier 1.3.101.112 and nothing else. -/
def algorithmRecord : List UInt8 := [0x06, 0x03, 0x2B, 0x65, 0x70]

/-- The octets of the public key in a subject key record. -/
def subjectKey? (document : List UInt8) : Option (List UInt8) := do
  let record ← Der.only? Der.tagSequence document
  let (algorithm, rest) ← Der.content? Der.tagSequence record
  let bits ← Der.only? 0x03 rest
  match bits with
  | 0 :: key => if algorithm = algorithmRecord then some key else none
  | _ => none

/-- The public key of a key file. -/
def publicKey? (text : String) : Option PublicKey := do
  let document ← Pem.decode? "PUBLIC KEY" text
  PublicKey.ofOctets? (← subjectKey? document)

/-- What stands behind the seed in a private key record: the public key, if its element comes
before any with a higher number. Elements of a lower number are passed over; the fuel bounds the
number of elements. -/
def attachedKey? (octets : List UInt8) : Nat → Option (Option (List UInt8) × List UInt8)
  | 0 => some (none, octets)
  | fuel + 1 =>
    match octets with
    | [] => some (none, [])
    | tag :: _ =>
      if tag = 0x80 ∨ tag = 0xA0 then do
        let (_, rest) ← Der.element? octets
        attachedKey? rest fuel
      else if tag = 0x81 then do
        let (bits, rest) ← Der.content? 0x81 octets
        match bits with
        | 0 :: key => some (some key, rest)
        | _ => none
      else if tag = 0xA1 then none
      else some (none, octets)

/-- Whether octets are elements of the context, each around one element; the fuel bounds their
number. -/
def areExtensions (octets : List UInt8) : Nat → Bool
  | 0 => octets.isEmpty
  | fuel + 1 =>
    octets.isEmpty ||
      match Der.element? octets with
      | none => false
      | some (found, rest) =>
        let wraps := match Der.element? found.content with
          | some (_, []) => true
          | _ => false
        found.tag.toNat / 32 == 5 && wraps && areExtensions rest fuel

/-- A private key record: its seed and the public key it holds. -/
structure PrivateRecord where
  seed : List UInt8
  attached : Option (List UInt8)
deriving DecidableEq, Repr

/-- The private key record of a document. The version says whether a public key is attached. -/
def privateRecord? (document : List UInt8) : Option PrivateRecord := do
  let record ← Der.only? Der.tagSequence document
  let (version, rest) ← Der.content? Der.tagInteger record
  let (algorithm, rest) ← Der.content? Der.tagSequence rest
  let (secret, rest) ← Der.content? Der.tagOctets rest
  let (attached, rest) ← attachedKey? rest rest.length
  let expected : List UInt8 := if attached.isSome then [1] else [0]
  if version = expected ∧ algorithm = algorithmRecord ∧ areExtensions rest rest.length then
    let seed ← Der.only? Der.tagOctets secret
    if seed.length = 32 then some ⟨seed, attached⟩ else none
  else none

/-- The signing key of a key file. An attached public key must have the octets of the one that the
seed gives; another spelling of the same point is refused. -/
def signingKey? (text : String) : Option SigningKey := do
  let document ← Pem.decode? "PRIVATE KEY" text
  let record ← privateRecord? document
  let key : SigningKey := ⟨record.seed⟩
  match record.attached with
  | none => some key
  | some octets => do
    let attached ← PublicKey.ofOctets? octets
    if attached.octets = key.publicKey.octets then some key else none

/-- The state of a public key given as text: absent when the text is blank, unusable when it holds
no key of the right kind. -/
inductive KeyState
  | ready (key : PublicKey)
  | missing
  | invalid
deriving DecidableEq, Repr

/-- The state of the public key in a text, which may have blank characters around it. -/
def KeyState.ofText (text : String) : KeyState :=
  let trimmed := Text.trim text
  if trimmed.isEmpty then .missing
  else match publicKey? trimmed with
    | some key => .ready key
    | none => .invalid

end Gatehouse.KeyFile
