import Gatehouse.Token.Issue
import Gatehouse.Proofs.Claims
import Gatehouse.Proofs.Json.ReadBack
import Gatehouse.Proofs.Text.Utf8
import Gatehouse.Proofs.Token.Compact

/-!
# Issuing and verifying

What an issuer signs, the verifier that holds its key gives back: the members of an
object as a map, the claims of a task field for field. Every part of a token is decoded
to the octets it was made of, the octets to the text, and the text to the value, so the
signature is checked over the very text that was signed. Whether a public key accepts
what its signing key signs is assumed here, for the one text in question; that a secret
accepts what it signs is not, because both sides compute the same code.
-/

namespace Gatehouse

open Json

/-- A value as a document holds it, without floating point numbers and nested no deeper than a
reader goes. -/
structure Json.Value.Portable (value : Value) : Prop where
  canonical : value.Canonical
  floatFree : value.FloatFree
  nested : value.depth ≤ Reader.nestingLimit

namespace Issuer

/-- The octets that the signature of a value covers. -/
def signedOctets (algorithm : Algorithm) (value : Value) : List UInt8 :=
  Text.Utf8.encode (String.ofList (signingInput algorithm value))

/-- A verifier holds the key to the signature that an issuer makes of a value: the same secret,
which is not empty, or the public key, which accepts that signature. -/
inductive Trusted (value : Value) : Issuer → Verifier → Prop
  | hs256 {secret : List UInt8} (nonempty : secret ≠ []) :
      Trusted value (.hs256 secret) (.hs256 secret)
  | edDsa {key : Ed25519.SigningKey}
      (accepted : key.publicKey.accepts (signedOctets .edDsa value)
        (key.sign (signedOctets .edDsa value)) = true) :
      Trusted value (.edDsa key) (.edDsa (.ready key.publicKey))

variable {issuer : Issuer} {verifier : Verifier} {value : Value}

/-- The token of a value after its form was checked. -/
def token (issuer : Issuer) (value : Value) : CompactToken where
  signingInput := signingInput issuer.algorithm value
  header := [("alg", .text issuer.algorithm.name), ("typ", .text "JWT")]
  payload := Text.Utf8.encode value.render
  signature := issuer.signature (signedOctets issuer.algorithm value)

def tokenText (issuer : Issuer) (value : Value) : String :=
  String.ofList (CompactToken.joined
    (part (Text.Utf8.encode (header issuer.algorithm).render)) (part (issuer.token value).payload)
    (part (issuer.token value).signature))

/-- The members of an object are read back from its text, in the order of their names; the text of
another value holds none, because it is read back as that value. -/
theorem objectOf?_render (exact : value.Exact) (nested : value.depth ≤ Reader.nestingLimit) :
    CompactToken.objectOf? (Text.Utf8.encode value.render) =
      match value.sorted with
      | .object members => some members
      | _ => none := by
  simp only [CompactToken.objectOf?, Text.Utf8.decode?_encode, bind, Option.bind,
    Value.read_render exact nested]
  cases value.sorted <;> rfl

/-- A part of a token decodes to the octets that it was made of. -/
theorem decodeChars?_part (octets : List UInt8) :
    Text.Base64.decodeChars? .url (part octets) = some octets :=
  Text.Base64.decodeChars?_encodeChars Text.Base64.Alphabet.url_faithful octets

/-- The parts of the token of a value decode to it. -/
theorem decodes_token (issuer : Issuer) (value : Value) :
    CompactToken.Decodes (part (Text.Utf8.encode (header issuer.algorithm).render))
      (part (issuer.token value).payload) (part (issuer.token value).signature)
      (issuer.token value) where
  input := rfl
  header := by
    refine ⟨_, decodeChars?_part _, ?_⟩
    have inOrder : ["alg", "typ"].Pairwise (· < ·) := by decide
    have canonical : (header issuer.algorithm).Canonical := ⟨inOrder, trivial, trivial, trivial⟩
    have exact : (header issuer.algorithm).Exact := by
      apply Value.exact_object
      refine List.forall_mem_cons.mpr ⟨Value.exact_text _, ?_⟩
      exact List.forall_mem_singleton.mpr (Value.exact_text _)
    have nested : 1 ≤ Reader.nestingLimit := by decide
    rw [objectOf?_render exact nested, canonical.sorted_eq]
    rfl
  payload := decodeChars?_part _
  signature := decodeChars?_part _

/-- There is no dot in a part of a token, so the dots between the parts are the only ones. -/
theorem point_not_mem_part (octets : List UInt8) : '.' ∉ part octets :=
  CompactToken.point_not_mem_of_decodes (decodeChars?_part octets)

/-- The token of a value has three parts, whatever its octets are: no part holds a dot. -/
theorem length_splitDots_tokenText (issuer : Issuer) (value : Value) :
    (CompactToken.splitDots (issuer.tokenText value).toList).length = 3 := by
  rw [tokenText, String.toList_ofList, CompactToken.splitDots_joined (point_not_mem_part _)
    (point_not_mem_part _) (point_not_mem_part _)]
  rfl

/-- Every character of a token is a digit of base64 or a dot, so what holds of these holds of all of
it. -/
theorem forall_mem_of_issue {holds : Char → Prop}
    (digits : ∀ value, value < 64 → holds (Text.Base64.Alphabet.url.digit value))
    (point : holds '.') {token : String} (issued : issuer.issue value = .ok token) :
    ∀ character ∈ token.toList, holds character := by
  have part (octets : List UInt8) : ∀ character ∈ Issuer.part octets, holds character := by
    intro character inside
    obtain ⟨value, small, rfl⟩ := Text.Base64.digit_of_mem inside
    exact digits value small
  have parts (first second third : List UInt8) : ∀ character ∈
      (Issuer.part first ++ '.' :: Issuer.part second) ++ '.' :: Issuer.part third,
        holds character := by
    simp only [List.forall_mem_append, List.forall_mem_cons]
    exact ⟨⟨part first, point, part second⟩, point, part third⟩
  unfold Issuer.issue at issued
  dsimp only at issued
  split at issued
  · split at issued
    · cases issued
    · rw [← Except.ok.inj issued, String.toList_ofList]
      exact parts _ _ _
  · rw [← Except.ok.inj issued, String.toList_ofList]
    exact parts _ _ _

/-- A trusted issuer signs the value. Only an empty secret keeps an issuer from signing, and that is
not trusted. -/
theorem Trusted.issue (trusted : Trusted value issuer verifier) :
    issuer.issue value = .ok (issuer.tokenText value) := by
  have joined : signingInput issuer.algorithm value ++ '.' :: part (issuer.token value).signature =
      CompactToken.joined (part (Text.Utf8.encode (header issuer.algorithm).render))
        (part (issuer.token value).payload) (part (issuer.token value).signature) := by
    simp [signingInput, CompactToken.joined, token]
  rw [tokenText, ← joined]
  cases trusted with
  | hs256 nonempty =>
    have holds := List.isEmpty_eq_false_iff.mpr nonempty
    simp only [Issuer.issue, holds]
    rfl
  | edDsa accepted => rfl

/-- A verifier accepts the signature of a trusted issuer. With a secret both sides compute the same
code over the same octets; with a seed it is what trust means. -/
theorem Trusted.checkSignature (trusted : Trusted value issuer verifier) :
    verifier.checkSignature (issuer.token value) = .ok true := by
  cases trusted with
  | hs256 nonempty =>
    have holds := List.isEmpty_eq_false_iff.mpr nonempty
    simp only [Verifier.checkSignature, holds, token, CompactToken.signedOctets]
    simp [signature, signedOctets]
  | edDsa accepted => exact congrArg Except.ok accepted

/-- What a trusted issuer signed is verified up to its payload: its parts decode, its header names
the algorithm of the verifier, and the signature is the one that the key makes. -/
theorem Trusted.verifyClaims (trusted : Trusted value issuer verifier) :
    verifier.verifyClaims (issuer.tokenText value) = (issuer.token value).claims := by
  have pinned : verifier.algorithm = issuer.algorithm := by cases trusted <;> rfl
  have named : (issuer.token value).names issuer.algorithm = true := by
    cases issuer <;> rfl
  rw [tokenText, Verifier.verifyClaims_of_token _ (decodes_token issuer value).ofText?, pinned,
    if_pos named, trusted.checkSignature]
  rfl

/-- What a trusted issuer signed is verified as the claims of the object that its text is read
as. -/
theorem Trusted.verify_of_read (trusted : Trusted value issuer verifier)
    {members : List (String × Value)} (read : Value.read value.render = .ok (.object members))
    {claims : TaskClaims} (held : TaskClaims.ofClaimMap? members = some claims) :
    verifier.verify (issuer.tokenText value) = .ok claims := by
  have isObject : CompactToken.objectOf? (Text.Utf8.encode value.render) = some members :=
    CompactToken.objectOf?_encode.mpr read
  have verified : verifier.verifyClaims (issuer.tokenText value) = .ok members := by
    rw [trusted.verifyClaims, CompactToken.claims, token, isObject]
  rw [Verifier.verify, verified]
  simp only [bind, Except.bind, held]

end Issuer

/-- The claims that a trusted issuer signed are verified as they were. The value of claims is
written in the order of their declaration, so its members come back sorted, and each is found by its
name. -/
theorem TaskClaims.Portable.verify_tokenText {claims : TaskClaims} {issuer : Issuer}
    {verifier : Verifier} (portable : claims.Portable)
    (trusted : Issuer.Trusted claims.toValue issuer verifier) :
    verifier.verify (issuer.tokenText claims.toValue) = .ok claims := by
  have read := Value.read_render portable.exact portable.nested
  rw [TaskClaims.sorted_toValue portable.canonical] at read
  exact trusted.verify_of_read read claims.ofClaimMap?_sortedFields

/-- Verifying what was issued gives it back. A value is signed into a token of three parts, from
which its members come back as they were if it is an object, and none if it is not. The claims of
a task come back field for field, in particular all those that were read from a manifest, as long
as no number in them is a floating point number. -/
theorem Issuer.verify_issue {issuer : Issuer} {verifier : Verifier} :
    (∀ value : Value, value.Portable → Trusted value issuer verifier →
      ∃ token, issuer.issue value = .ok token ∧
        (CompactToken.splitDots token.toList).length = 3 ∧
        verifier.verifyClaims token = match value with
          | .object members => .ok members
          | _ => .error .malformedPayload) ∧
    (∀ claims : TaskClaims, claims.Portable → Trusted claims.toValue issuer verifier →
      ∃ token, issuer.issue claims.toValue = .ok token ∧
        (CompactToken.splitDots token.toList).length = 3 ∧
        verifier.verify token = .ok claims) ∧
    (∀ (text : String) (claims : TaskClaims), TaskClaims.read text = .ok claims →
      (Value.object claims.parameters).FloatFree → claims.Portable) := by
  refine ⟨?values, ?claims, fun text claims => TaskClaims.portable_of_read⟩
  case values =>
    intro value portable trusted
    refine ⟨_, trusted.issue, length_splitDots_tokenText issuer value, ?_⟩
    have read := objectOf?_render (portable.canonical.exact portable.floatFree) portable.nested
    rw [portable.canonical.sorted_eq] at read
    rw [trusted.verifyClaims, CompactToken.claims, token, read]
    cases value <;> rfl
  case claims =>
    intro claims portable trusted
    exact ⟨_, trusted.issue, length_splitDots_tokenText issuer claims.toValue,
      portable.verify_tokenText trusted⟩

/-- The seed of the first test vector for Ed25519. -/
def Issuer.sampleKey : Ed25519.SigningKey where
  seed := [0x9D, 0x61, 0xB1, 0x9D, 0xEF, 0xFD, 0x5A, 0x60, 0xBA, 0x84, 0x4A, 0xF4, 0x92, 0xEC,
    0x2C, 0xC4, 0x44, 0x49, 0xC5, 0x69, 0x7B, 0x32, 0x69, 0x19, 0x70, 0x3B, 0xAC, 0x03, 0x1C,
    0xAE, 0x7F, 0x60]

def Issuer.sampleMembers : List (String × Value) := [("k", .text "v")]

/-- The public key of the seed accepts what the seed signs, here for one small object. This is the
part of the round trip that is assumed in general, and for one text it can be computed. -/
theorem Issuer.trusted_sampleKey :
    Trusted (.object sampleMembers) (.edDsa sampleKey) (.edDsa (.ready sampleKey.publicKey)) :=
  .edDsa (by decide +kernel)

/-- A manifest whose records are written as lists, and a number, which is no claim set: both are
signed with a secret of one octet and verified with it. An object is signed with a seed and
verified with the public key of the seed. -/
theorem Issuer.verify_issue_of_manifest :
    (∃ claims, TaskClaims.read "[[\"t\",\"n\"],\"u\",\"d\"]" = .ok claims ∧
      ∃ token, (Issuer.hs256 [0x6B]).issue claims.toValue = .ok token ∧
        (Verifier.hs256 [0x6B]).verify token = .ok claims) ∧
    (∃ token, (Issuer.hs256 [0x6B]).issue (.ofNat 7) = .ok token ∧
      (Verifier.hs256 [0x6B]).verifyClaims token = .error .malformedPayload) ∧
    ∃ token, (Issuer.edDsa sampleKey).issue (.object sampleMembers) = .ok token ∧
      (Verifier.edDsa (.ready sampleKey.publicKey)).verifyClaims token = .ok sampleMembers := by
  obtain ⟨values, claims, manifests⟩ := @verify_issue (.hs256 [0x6B]) (.hs256 [0x6B])
  refine ⟨?manifest, ?number, ?seed⟩
  case manifest =>
    have written : "[[\"t\",\"n\"],\"u\",\"d\"]".toList =
        '[' :: '[' :: (writeText "t" ++ ',' :: (writeText "n" ++ ']' :: ',' ::
          (writeText "u" ++ ',' :: (writeText "d" ++ [']'])))) := by decide
    have sequence : lexemes "[[\"t\",\"n\"],\"u\",\"d\"]".toList =
        [.openBracket, .openBracket, .text (.ok "t"), .comma, .text (.ok "n"), .closeBracket,
          .comma, .text (.ok "u"), .comma, .text (.ok "d"), .closeBracket] := by
      rw [written]
      simp only [lexemes_openBracket, lexemes_text, lexemes_comma, lexemes_closeBracket,
        lexemes_nil]
    have read : TaskClaims.read "[[\"t\",\"n\"],\"u\",\"d\"]" =
        .ok ⟨⟨"t", "n", "", "", ""⟩, "u", "d", "", [], "", ""⟩ := by
      rw [TaskClaims.read, Schema.read, sequence]
      rfl
    have floatFree : (Value.object []).FloatFree := by
      constructor
      · intro found same
        cases same
      · trivial
    obtain ⟨token, issued, -, verified⟩ :=
      claims _ (manifests _ _ read floatFree) (.hs256 (by decide))
    exact ⟨_, read, token, issued, verified⟩
  case number =>
    have inRange : (Value.ofNat 7).Canonical := by
      show (-0x8000000000000000 : Int) ≤ 7 ∧ (7 : Int) ≤ 0xFFFFFFFFFFFFFFFF
      decide
    have isInteger : (Value.ofNat 7).FloatFree := by
      intro found same
      obtain rfl := Value.number.inj same
      trivial
    obtain ⟨token, issued, -, verified⟩ :=
      values (.ofNat 7) ⟨inRange, isInteger, by decide⟩ (.hs256 (by decide))
    exact ⟨token, issued, verified⟩
  case seed =>
    have sorted : ["k"].Pairwise (· < ·) := by decide
    have canonical : (Value.object sampleMembers).Canonical := ⟨sorted, trivial, trivial⟩
    have floatFree : (Value.object sampleMembers).FloatFree := by
      refine Value.every_object.mpr ⟨?itself, ?parts⟩
      case itself =>
        intro found same
        cases same
      case parts =>
        intro member among
        obtain rfl := List.mem_singleton.mp among
        intro found same
        cases same
    obtain ⟨token, issued, -, verified⟩ := verify_issue.1 (.object sampleMembers)
      ⟨canonical, floatFree, by decide⟩ trusted_sampleKey
    exact ⟨token, issued, verified⟩

end Gatehouse
