import Gatehouse.Proofs.Token.Compact
import Mathlib.Data.List.TakeWhile

/-!
# The verdict on a token

What a verifier answers for any text at all, as a relation that does not speak of how it
computes. Its material may be no key at all. The checks have one order for both
algorithms: the form of the token, the algorithm it names, the key, the signature, the
payload. Each way to be refused says which check failed and that those in front of it
passed, so one text has one verdict.

The name of the algorithm is compared before the key is looked at. A header names at most
one algorithm, so of two verifiers that are pinned to different ones at least one turns
every token away without its key.
-/

namespace Gatehouse

open Json

namespace CompactToken

/-! ## The form of a token -/

/-- The octets that the three parts of a token stand for. -/
structure Parts where
  header : List UInt8
  payload : List UInt8
  signature : List UInt8

namespace Parts

/-- The parts in unpadded base64 for URLs, with dots between them. -/
def text (parts : Parts) : String :=
  String.ofList (joined (Text.Base64.encodeChars .url parts.header)
    (Text.Base64.encodeChars .url parts.payload) (Text.Base64.encodeChars .url parts.signature))

/-- The literal octets in front of the second dot. -/
def signed (parts : Parts) : List UInt8 :=
  Text.Utf8.encode (String.ofList (Text.Base64.encodeChars .url parts.header ++
    '.' :: Text.Base64.encodeChars .url parts.payload))

/-- The token of the parts, with the members of its header sorted. -/
def token (parts : Parts) (members : List (String × Value)) : CompactToken where
  signingInput := Text.Base64.encodeChars .url parts.header ++
    '.' :: Text.Base64.encodeChars .url parts.payload
  header := members
  payload := parts.payload
  signature := parts.signature

/-- The signature of a token covers the octets in front of its last dot, and these are known from
its parts alone. -/
theorem signedOctets_token (parts : Parts) (members : List (String × Value)) :
    (parts.token members).signedOctets = parts.signed := rfl

end Parts

/-- A text is made of three parts, and the first one holds an object. -/
structure Forms (text : String) (parts : Parts) (header : List (String × Value)) : Prop where
  text : text = parts.text
  header : HoldsObject parts.header header

/-- The last member of a header that is called `alg` is a text, the exact name of an algorithm. -/
def NamesLast (algorithm : Algorithm) (header : List (String × Value)) : Prop :=
  ∃ front back, header = front ++ ("alg", .text algorithm.name) :: back ∧
    "alg" ∉ back.map Prod.fst

/-- A token is read from a text that has the form of one, and from no other. The form is said of the
members as they are written, the token holds them sorted. -/
theorem ofText?_eq_some_iff {text : String} {token : CompactToken} :
    ofText? text = some token ↔ ∃ parts header members, Forms text parts header ∧
      (Value.object header).sorted = .object members ∧ token = parts.token members := by
  constructor
  · intro read
    obtain ⟨header, payload, signature, rfl, decodes⟩ := decodes_of_ofText? read
    obtain ⟨octets, decoded, isObject⟩ := decodes.header
    obtain ⟨written, holds, sorted⟩ := objectOf?_eq_some_iff.mp isObject
    obtain rfl := Text.Base64.encodeChars_of_decodeChars? decoded
    obtain rfl := Text.Base64.encodeChars_of_decodeChars? decodes.payload
    obtain rfl := Text.Base64.encodeChars_of_decodeChars? decodes.signature
    refine ⟨⟨octets, token.payload, token.signature⟩, written, token.header, ⟨rfl, holds⟩, sorted,
      ?_⟩
    rw [Parts.token, ← decodes.input]
  · rintro ⟨parts, header, members, ⟨rfl, holds⟩, sorted, rfl⟩
    have decoded (octets : List UInt8) :
        Text.Base64.decodeChars? .url (Text.Base64.encodeChars .url octets) = some octets :=
      Text.Base64.decodeChars?_encodeChars Text.Base64.Alphabet.url_faithful octets
    have decodes : Decodes _ _ _ (parts.token members) :=
      ⟨rfl, ⟨_, decoded _, objectOf?_eq_some_iff.mpr ⟨header, holds, sorted⟩⟩, decoded _, decoded _⟩
    exact decodes.ofText?

/-- A look-up in a sorted header finds what the last member of the name holds. -/
theorem names_token_iff {parts : Parts} {header members : List (String × Value)}
    (sorted : (Value.object header).sorted = .object members) {algorithm : Algorithm} :
    (parts.token members).names algorithm = true ↔ NamesLast algorithm header := by
  have members_eq : insertAll [] (Value.sortedMembers header) = members := Value.object.inj sorted
  have looked : find? "alg" members = (find? "alg" header.reverse).map Value.sorted := by
    rw [← members_eq, find?_insertAll_last, Value.sortedMembers_eq_map, ← List.map_reverse,
      find?_map, find?, Option.or_none]
  have isText {value : Value} {content : String} :
      value.sorted = .text content ↔ value = .text content := by
    cases value <;> simp [Value.sorted]
  have found : find? "alg" members = some (.text algorithm.name) ↔ NamesLast algorithm header := by
    rw [looked, NamesLast, ← find?_reverse_eq_some_iff, Option.map_eq_some_iff]
    constructor
    · rintro ⟨value, last, same⟩
      rw [last, isText.mp same]
    · intro last
      exact ⟨_, last, rfl⟩
  rw [← found, names, Parts.token]
  cases find? "alg" members with
  | none => simp
  | some value => cases value <;> simp

/-- A header names at most one algorithm: the last member of the name holds one text, and a text is
the name of one algorithm. -/
theorem NamesLast.unique {first second : Algorithm} {header : List (String × Value)}
    (one : NamesLast first header) (other : NamesLast second header) : first = second := by
  have same := (find?_reverse_eq_some_iff.mpr one).symm.trans (find?_reverse_eq_some_iff.mpr other)
  rw [Option.some.injEq, Value.text.injEq] at same
  cases first <;> cases second <;> first | rfl | exact absurd same (by decide)

end CompactToken

/-! ## Keys -/

/-- What a verifier is made from, which need not be a key. -/
inductive KeyMaterial
  | secret (octets : List UInt8)
  | pem (text : String)
  | publicKey (key : Ed25519.PublicKey)

/-- What a signature is checked with. -/
inductive VerificationKey
  | secret (octets : List UInt8)
  | publicKey (key : Ed25519.PublicKey)

/-- A signature is that of a message: with a secret it is the whole code of the message, with a
public key it has 64 octets that the strict check accepts. -/
def VerificationKey.Signs (message signature : List UInt8) : VerificationKey → Prop
  | .secret octets => Hash.hmacSha256 octets message = signature
  | .publicKey key => signature.length = 64 ∧ key.accepts message signature = true

namespace KeyMaterial

/-- The verifier of the material. -/
def verifier : KeyMaterial → Verifier
  | .secret octets => .hs256 octets
  | .pem text => .edDsa (.ofText text)
  | .publicKey key => .edDsa (.ready key)

/-- There is no material: the secret is empty, or the text of the key is blank. -/
inductive Missing : KeyMaterial → Prop
  | secret : Missing (.secret [])
  | pem {text : String} (blank : ∀ character ∈ text.toList, Text.isBlank character = true) :
    Missing (.pem text)

/-- There is a text, but no public key can be decoded from it. -/
inductive Undecodable : KeyMaterial → Prop
  | pem {text : String} (visible : ∃ character ∈ text.toList, Text.isBlank character = false)
    (undecodable : KeyFile.publicKey? (Text.trim text) = none) : Undecodable (.pem text)

/-- The material gives a key. -/
inductive Gives : KeyMaterial → VerificationKey → Prop
  | secret (octet : UInt8) (rest : List UInt8) :
    Gives (.secret (octet :: rest)) (.secret (octet :: rest))
  | pem {text : String} {key : Ed25519.PublicKey}
    (visible : ∃ character ∈ text.toList, Text.isBlank character = false)
    (decoded : KeyFile.publicKey? (Text.trim text) = some key) : Gives (.pem text) (.publicKey key)
  | publicKey (key : Ed25519.PublicKey) : Gives (.publicKey key) (.publicKey key)

end KeyMaterial

/-- Nothing is left of a text without the blank characters around it exactly when it holds nothing
else. -/
theorem Text.isEmpty_trim_iff {text : String} :
    (Text.trim text).isEmpty = true ↔
      ∀ character ∈ text.toList, Text.isBlank character = true := by
  rw [String.isEmpty_iff, Text.trim, String.ofList_eq_empty_iff, Text.trimBy,
    List.reverse_eq_nil_iff, List.dropWhile_eq_nil_iff]
  constructor
  · intro rest
    -- A first character that is not blank would still be there.
    rw [← List.dropWhile_eq_nil_iff]
    cases front : text.toList.dropWhile Text.isBlank with
    | nil => rfl
    | cons first behind =>
      have visible := List.head?_dropWhile_not Text.isBlank text.toList
      rw [front] at visible rest
      have blank := rest first (List.mem_reverse.mpr List.mem_cons_self)
      simp [blank] at visible
  · intro blank character inside
    rw [List.dropWhile_eq_nil_iff.mpr blank] at inside
    cases inside

namespace KeyMaterial

variable {material : KeyMaterial}

/-- Material is missing, or undecodable, or gives a key. A secret is never undecodable, and a key
file is missing if there is nothing in it to be seen. -/
theorem missing_or_undecodable_or_gives (material : KeyMaterial) :
    material.Missing ∨ material.Undecodable ∨ ∃ key, material.Gives key := by
  cases material with
  | secret octets =>
    cases octets with
    | nil => exact .inl .secret
    | cons octet rest => exact .inr (.inr ⟨_, .secret octet rest⟩)
  | publicKey key => exact .inr (.inr ⟨_, .publicKey key⟩)
  | pem text =>
    by_cases blank : ∀ character ∈ text.toList, Text.isBlank character = true
    · exact .inl (.pem blank)
    · have visible : ∃ character ∈ text.toList, Text.isBlank character = false := by
        simpa using blank
      cases decoded : KeyFile.publicKey? (Text.trim text) with
      | none => exact .inr (.inl (.pem visible decoded))
      | some key => exact .inr (.inr ⟨_, .pem visible decoded⟩)

/-- Without material no signature is checked, and that is said before anything about the token. -/
theorem Missing.checkSignature (missing : material.Missing) (token : CompactToken) :
    material.verifier.checkSignature token = .error .missingKeyMaterial := by
  cases missing with
  | secret => rfl
  | pem blank =>
    rw [verifier, KeyFile.KeyState.ofText, if_pos (Text.isEmpty_trim_iff.mpr blank)]
    rfl

/-- A text with a character that can be seen is not empty without the blank ones around it. -/
theorem not_isEmpty_trim {text : String}
    (visible : ∃ character ∈ text.toList, Text.isBlank character = false) :
    ¬ (Text.trim text).isEmpty = true := by
  obtain ⟨character, inside, notBlank⟩ := visible
  intro empty
  rw [Text.isEmpty_trim_iff.mp empty character inside] at notBlank
  cases notBlank

/-- With material that no key can be made of no signature is checked, and the reason is another one
than for none. -/
theorem Undecodable.checkSignature (undecodable : material.Undecodable) (token : CompactToken) :
    material.verifier.checkSignature token = .error .invalidKeyMaterial := by
  cases undecodable with
  | pem visible undecodable =>
    simp only [verifier, KeyFile.KeyState.ofText, if_neg (not_isEmpty_trim visible), undecodable]
    rfl

/-- The strict check accepts signatures of 64 octets only. This is checked in front of the equation,
so a short signature is no signature under any key. -/
theorem length_of_accepts {key : Ed25519.PublicKey} {message signature : List UInt8}
    (accepted : key.accepts message signature = true) : signature.length = 64 := by
  -- Unfolding by the equation of the definition would compute with the order of the group.
  delta Ed25519.PublicKey.accepts at accepted
  obtain ⟨sized, -⟩ := Bool.and_eq_true_iff.mp accepted
  exact beq_iff_eq.mp (Bool.and_eq_true_iff.mp sized).1

/-- For a public key, to sign is to be accepted by the strict check. -/
theorem accepts_iff_signs (key : Ed25519.PublicKey) (message signature : List UInt8) :
    key.accepts message signature = true ↔
      VerificationKey.Signs message signature (.publicKey key) :=
  ⟨fun accepted => ⟨length_of_accepts accepted, accepted⟩, And.right⟩

/-- With a key the signature is checked over the octets that it covers. For a secret the code is
compared as a whole, and equal codes are equally long. -/
theorem Gives.checkSignature {key : VerificationKey} (gives : material.Gives key)
    (token : CompactToken) :
    ∃ valid, material.verifier.checkSignature token = .ok valid ∧
      (valid = true ↔ key.Signs token.signedOctets token.signature) := by
  cases gives with
  | secret octet rest =>
    refine ⟨Hash.hmacSha256 (octet :: rest) token.signedOctets == token.signature, ?_, ?_⟩
    · rfl
    · simp only [VerificationKey.Signs, beq_iff_eq]
  | @pem text key visible decoded =>
    refine ⟨key.accepts token.signedOctets token.signature, ?_, accepts_iff_signs key _ _⟩
    simp only [verifier, KeyFile.KeyState.ofText, if_neg (not_isEmpty_trim visible), decoded,
      Verifier.checkSignature]
  | publicKey key => exact ⟨_, rfl, accepts_iff_signs key _ _⟩

end KeyMaterial

/-! ## The verdict -/

open CompactToken (Parts Forms NamesLast HoldsObject)

/-- What the material answers for a text: for the first check that fails the error of that check,
for a token that passes all of them the members of its payload, sorted. -/
inductive Verdict (material : KeyMaterial) (text : String) : Except TokenError ClaimMap → Prop
  | malformedToken (formless : ∀ parts header, ¬ Forms text parts header) :
    Verdict material text (.error .malformedToken)
  | unsupportedAlgorithm {parts : Parts} {header : List (String × Value)}
    (forms : Forms text parts header) (other : ¬ NamesLast material.verifier.algorithm header) :
    Verdict material text (.error .unsupportedAlgorithm)
  | missingKeyMaterial {parts : Parts} {header : List (String × Value)}
    (forms : Forms text parts header) (named : NamesLast material.verifier.algorithm header)
    (missing : material.Missing) : Verdict material text (.error .missingKeyMaterial)
  | invalidKeyMaterial {parts : Parts} {header : List (String × Value)}
    (forms : Forms text parts header) (named : NamesLast material.verifier.algorithm header)
    (undecodable : material.Undecodable) : Verdict material text (.error .invalidKeyMaterial)
  | signatureInvalid {parts : Parts} {header : List (String × Value)} {key : VerificationKey}
    (forms : Forms text parts header) (named : NamesLast material.verifier.algorithm header)
    (gives : material.Gives key) (unsigned : ¬ key.Signs parts.signed parts.signature) :
    Verdict material text (.error .signatureInvalid)
  | malformedPayload {parts : Parts} {header : List (String × Value)} {key : VerificationKey}
    (forms : Forms text parts header) (named : NamesLast material.verifier.algorithm header)
    (gives : material.Gives key) (signed : key.Signs parts.signed parts.signature)
    (noObject : ∀ written, ¬ HoldsObject parts.payload written) :
    Verdict material text (.error .malformedPayload)
  | accepted {parts : Parts} {header written : List (String × Value)} {key : VerificationKey}
    {claims : ClaimMap} (forms : Forms text parts header)
    (named : NamesLast material.verifier.algorithm header) (gives : material.Gives key)
    (signed : key.Signs parts.signed parts.signature) (holds : HoldsObject parts.payload written)
    (sorted : (Value.object written).sorted = .object claims) :
    Verdict material text (.ok claims)

namespace Verifier

/-- A text that has not the form of a token is turned away by every verifier. -/
theorem verifyClaims_of_formless (verifier : Verifier) {text : String}
    (formless : ∀ parts header, ¬ Forms text parts header) :
    verifier.verifyClaims text = .error .malformedToken := by
  refine verifier.verifyClaims_of_no_token (Option.eq_none_iff_forall_ne_some.mpr ?_)
  intro token read
  obtain ⟨parts, header, members, forms, -, -⟩ := CompactToken.ofText?_eq_some_iff.mp read
  exact formless parts header forms

/-- A token is read from a text that has its form, and a look-up of the algorithm in it finds what
the header names last. -/
theorem ofText?_of_forms (verifier : Verifier) {text : String} {parts : Parts}
    {header : List (String × Value)} (forms : Forms text parts header) :
    ∃ members, CompactToken.ofText? text = some (parts.token members) ∧
      ((parts.token members).names verifier.algorithm = true ↔
        NamesLast verifier.algorithm header) := by
  refine ⟨_, CompactToken.ofText?_eq_some_iff.mpr ⟨parts, header, _, forms, rfl, rfl⟩, ?_⟩
  exact CompactToken.names_token_iff rfl

/-- A token of the right form that names another algorithm, or none, is turned away. -/
theorem verifyClaims_of_other (verifier : Verifier) {text : String} {parts : Parts}
    {header : List (String × Value)} (forms : Forms text parts header)
    (other : ¬ NamesLast verifier.algorithm header) :
    verifier.verifyClaims text = .error .unsupportedAlgorithm := by
  obtain ⟨members, read, names⟩ := verifier.ofText?_of_forms forms
  rw [verifier.verifyClaims_of_token read, if_neg fun named => other (names.mp named)]

/-- A token that names the pinned algorithm goes on to the key. -/
theorem verifyClaims_of_named (verifier : Verifier) {text : String} {parts : Parts}
    {header : List (String × Value)} (forms : Forms text parts header)
    (named : NamesLast verifier.algorithm header) :
    ∃ members, verifier.verifyClaims text =
      (verifier.checkSignature (parts.token members)).bind fun valid =>
        if valid then (parts.token members).claims else .error .signatureInvalid := by
  obtain ⟨members, read, names⟩ := verifier.ofText?_of_forms forms
  exact ⟨members, by rw [verifier.verifyClaims_of_token read, if_pos (names.mpr named)]⟩

end Verifier

variable {material : KeyMaterial} {text : String} {result : Except TokenError ClaimMap}

/-- With a key the signature decides, and then the payload: whether that holds an object is looked
at only behind a valid signature. -/
theorem KeyMaterial.Gives.verifyClaims {key : VerificationKey} (gives : material.Gives key)
    {parts : Parts} {header : List (String × Value)} (forms : Forms text parts header)
    (named : NamesLast material.verifier.algorithm header) :
    (¬ key.Signs parts.signed parts.signature →
      material.verifier.verifyClaims text = .error .signatureInvalid) ∧
    (key.Signs parts.signed parts.signature → material.verifier.verifyClaims text =
      match CompactToken.objectOf? parts.payload with
      | some claims => .ok claims
      | none => .error .malformedPayload) := by
  obtain ⟨members, verified⟩ := material.verifier.verifyClaims_of_named forms named
  obtain ⟨valid, checked, signs⟩ := gives.checkSignature (parts.token members)
  rw [CompactToken.Parts.signedOctets_token] at signs
  rw [verified, checked]
  constructor
  · intro unsigned
    have invalid : valid = false := Bool.eq_false_iff.mpr fun valid => unsigned (signs.mp valid)
    rw [invalid]
    rfl
  · intro signed
    rw [signs.mpr signed]
    rfl

/-- The verdict is what the verifier answers. One case for each check: those in front of it succeed,
and what it says is the answer. -/
theorem Verdict.verifyClaims_eq (verdict : Verdict material text result) :
    material.verifier.verifyClaims text = result := by
  cases verdict with
  | malformedToken formless => exact material.verifier.verifyClaims_of_formless formless
  | unsupportedAlgorithm forms other => exact material.verifier.verifyClaims_of_other forms other
  | missingKeyMaterial forms named missing =>
    obtain ⟨members, verified⟩ := material.verifier.verifyClaims_of_named forms named
    rw [verified, missing.checkSignature]
    rfl
  | invalidKeyMaterial forms named undecodable =>
    obtain ⟨members, verified⟩ := material.verifier.verifyClaims_of_named forms named
    rw [verified, undecodable.checkSignature]
    rfl
  | signatureInvalid forms named gives unsigned =>
    exact (gives.verifyClaims forms named).1 unsigned
  | malformedPayload forms named gives signed noObject =>
    have nothing := Option.eq_none_iff_forall_ne_some.mpr fun claims object =>
      have ⟨written, holds, _⟩ := CompactToken.objectOf?_eq_some_iff.mp object
      noObject written holds
    rw [(gives.verifyClaims forms named).2 signed, nothing]
  | accepted forms named gives signed holds sorted =>
    have object := CompactToken.objectOf?_eq_some_iff.mpr ⟨_, holds, sorted⟩
    rw [(gives.verifyClaims forms named).2 signed, object]

/-- Every text has a verdict. The checks are gone through in their order, and the first that fails
is taken. -/
theorem exists_verdict (material : KeyMaterial) (text : String) :
    ∃ result, Verdict material text result := by
  by_cases formed : ∃ parts header, Forms text parts header
  · obtain ⟨parts, header, forms⟩ := formed
    by_cases named : NamesLast material.verifier.algorithm header
    · rcases material.missing_or_undecodable_or_gives with missing | undecodable | ⟨key, gives⟩
      · exact ⟨_, .missingKeyMaterial forms named missing⟩
      · exact ⟨_, .invalidKeyMaterial forms named undecodable⟩
      · by_cases signed : key.Signs parts.signed parts.signature
        · by_cases object : ∃ written, HoldsObject parts.payload written
          · obtain ⟨written, holds⟩ := object
            exact ⟨_, .accepted forms named gives signed holds rfl⟩
          · exact ⟨_, .malformedPayload forms named gives signed fun written holds =>
              object ⟨written, holds⟩⟩
        · exact ⟨_, .signatureInvalid forms named gives signed⟩
    · exact ⟨_, .unsupportedAlgorithm forms named⟩
  · exact ⟨_, .malformedToken fun parts header forms => formed ⟨parts, header, forms⟩⟩

/-- A verifier answers the verdict and nothing else, since every text has a verdict and a verdict is
answered. -/
theorem verifyClaims_eq_iff_verdict (material : KeyMaterial) (text : String)
    (result : Except TokenError ClaimMap) :
    material.verifier.verifyClaims text = result ↔ Verdict material text result := by
  constructor
  · rintro rfl
    obtain ⟨result, verdict⟩ := exists_verdict material text
    rw [verdict.verifyClaims_eq]
    exact verdict
  · exact Verdict.verifyClaims_eq

namespace Verifier

/-- Where a signature cannot be checked, it is for want of a key; that a text is no token is said
only in front of that check. -/
theorem checkSignature_ne_malformedToken (verifier : Verifier) (token : CompactToken) :
    verifier.checkSignature token ≠ .error .malformedToken := by
  intro refused
  cases verifier with
  | hs256 secret =>
    cases secret with
    | nil => cases refused
    | cons octet rest => cases refused
  | edDsa key => cases key <;> cases refused

/-- A verifier takes a text for no token only where it has not the form of one, whatever its key
is. -/
theorem verifyClaims_eq_malformedToken_iff (verifier : Verifier) (text : String) :
    verifier.verifyClaims text = .error .malformedToken ↔
      ∀ parts header, ¬ Forms text parts header := by
  constructor
  · intro refused parts header forms
    by_cases named : NamesLast verifier.algorithm header
    · obtain ⟨members, verified⟩ := verifier.verifyClaims_of_named forms named
      rw [verified] at refused
      cases checked : verifier.checkSignature (parts.token members) with
      | error fault =>
        rw [checked] at refused
        obtain rfl := Except.error.inj refused
        exact verifier.checkSignature_ne_malformedToken _ checked
      | ok valid =>
        rw [checked] at refused
        cases valid with
        | false => cases refused
        | true =>
          have claims : (parts.token members).claims = .error .malformedToken := refused
          rw [CompactToken.claims] at claims
          split at claims <;> cases claims
    · rw [verifier.verifyClaims_of_other forms named] at refused
      cases refused
  · exact verifier.verifyClaims_of_formless

/-- Of two verifiers that are pinned to different algorithms one turns a text away without its
key. -/
theorem exists_refused {first second : Verifier} (different : first.algorithm ≠ second.algorithm)
    (text : String) :
    ∃ verifier ∈ [first, second], verifier.verifyClaims text = .error .malformedToken ∨
      verifier.verifyClaims text = .error .unsupportedAlgorithm := by
  by_cases formed : ∃ parts header, Forms text parts header
  · obtain ⟨parts, header, forms⟩ := formed
    by_cases named : NamesLast first.algorithm header
    · have other : ¬ NamesLast second.algorithm header := fun also =>
        different (named.unique also)
      exact ⟨second, by simp, .inr (second.verifyClaims_of_other forms other)⟩
    · exact ⟨first, by simp, .inr (first.verifyClaims_of_other forms named)⟩
  · have formless : ∀ parts header, ¬ Forms text parts header :=
      fun parts header forms => formed ⟨parts, header, forms⟩
    exact ⟨first, by simp, .inl (first.verifyClaims_of_formless formless)⟩

/-- The verdict on every text is that of the first check that fails. The verifier with a secret and
the one with a public key agree on what is no token, at least one of them turns any text away
before its key is looked at, and no text is accepted by both. -/
theorem first_failing_check_decides :
    (∀ (material : KeyMaterial) (text : String) (result : Except TokenError ClaimMap),
      material.verifier.verifyClaims text = result ↔ Verdict material text result) ∧
    ∀ (text : String) (secret : List UInt8) (key : KeyFile.KeyState),
      ((Verifier.hs256 secret).verifyClaims text = .error .malformedToken ↔
        (Verifier.edDsa key).verifyClaims text = .error .malformedToken) ∧
      (∃ verifier ∈ [Verifier.hs256 secret, .edDsa key],
        verifier.verifyClaims text = .error .malformedToken ∨
          verifier.verifyClaims text = .error .unsupportedAlgorithm) ∧
      ∀ first second, ¬ ((Verifier.hs256 secret).verifyClaims text = .ok first ∧
        (Verifier.edDsa key).verifyClaims text = .ok second) := by
  refine ⟨verifyClaims_eq_iff_verdict, fun text secret key => ?_⟩
  have different : (Verifier.hs256 secret).algorithm ≠ (Verifier.edDsa key).algorithm := by
    intro same
    cases same
  have refused : ∃ verifier ∈ [Verifier.hs256 secret, .edDsa key],
      verifier.verifyClaims text = .error .malformedToken ∨
        verifier.verifyClaims text = .error .unsupportedAlgorithm :=
    exists_refused different text
  refine ⟨?agree, refused, ?separate⟩
  case agree =>
    rw [verifyClaims_eq_malformedToken_iff, verifyClaims_eq_malformedToken_iff]
  case separate =>
    rintro first second ⟨firstAccepted, secondAccepted⟩
    obtain ⟨verifier, inside, answer⟩ := refused
    have accepted : ∃ claims, verifier.verifyClaims text = .ok claims := by
      simp only [List.mem_cons, List.not_mem_nil, or_false] at inside
      rcases inside with rfl | rfl
      · exact ⟨first, firstAccepted⟩
      · exact ⟨second, secondAccepted⟩
    obtain ⟨claims, accepted⟩ := accepted
    rw [accepted] at answer
    rcases answer with answer | answer <;> cases answer

/-- A header that names two algorithms is one for the last of them, and a verifier without a secret
misses its key before it looks at a payload that is no object. -/
theorem first_failing_check_decides_repeated :
    (Verifier.hs256 []).verifyClaims "eyJhbGciOiJFZERTQSIsImFsZyI6IkhTMjU2In0.W10." =
      .error .missingKeyMaterial := by
  have form : Forms "eyJhbGciOiJFZERTQSIsImFsZyI6IkhTMjU2In0.W10."
      ⟨Text.Utf8.encode "\x7b\"alg\":\"EdDSA\",\"alg\":\"HS256\"\x7d", Text.Utf8.encode "[]", []⟩
      [("alg", .text "EdDSA"), ("alg", .text "HS256")] :=
    ⟨by decide +kernel, _, rfl, by decide +kernel, by decide⟩
  have named : NamesLast .hs256 [("alg", .text "EdDSA"), ("alg", .text "HS256")] :=
    ⟨[("alg", .text "EdDSA")], [], rfl, List.not_mem_nil⟩
  exact (first_failing_check_decides.1 (.secret []) _ _).mpr
    (.missingKeyMaterial form named .secret)

end Verifier

end Gatehouse
