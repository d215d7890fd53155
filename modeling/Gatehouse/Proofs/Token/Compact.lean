import Gatehouse.Token.Verifier
import Gatehouse.Proofs.Json.Document
import Gatehouse.Proofs.Text.Base64
import Gatehouse.Proofs.Text.Utf8

/-!
# The parts of a compact token

A text splits at its dots into one part more than it has dots, and joining the parts
gives the text back. Parts in base64 hold no dot, so a token that is put together from
three of them splits into these three again, and no text with other dots in it is a
token. What a verifier answers for a text depends on the token alone that it is read as.
-/

namespace Gatehouse

open Json

namespace CompactToken

/-! ## What a part holds -/

/-- Octets hold an object: as UTF-8 they are a text that spells it, with its members as they were
written, and it is not nested too deep for a reader. -/
def HoldsObject (octets : List UInt8) (written : List (String × Value)) : Prop :=
  ∃ text, octets = Text.Utf8.encode text ∧ (Value.object written).SpelledBy text ∧
    (Value.object written).depth ≤ Reader.nestingLimit

/-- The octets of a text hold the members of an object where the text holds that object: encoded
octets are decoded to the text again. -/
theorem objectOf?_encode {text : String} {members : List (String × Value)} :
    objectOf? (Text.Utf8.encode text) = some members ↔
      Value.read text = .ok (.object members) := by
  rw [objectOf?, Text.Utf8.decode?_encode]
  simp only [bind, Option.bind]
  split
  · next found same => simp [same]
  · next other =>
    constructor
    · intro impossible
      cases impossible
    · intro same
      exact absurd same (other members)

/-- The members that octets give are those of the object that they hold, sorted. -/
theorem objectOf?_eq_some_iff {octets : List UInt8} {members : List (String × Value)} :
    objectOf? octets = some members ↔
      ∃ written, HoldsObject octets written ∧ (Value.object written).sorted = .object members := by
  constructor
  · intro isObject
    obtain ⟨text, decoded, -⟩ := Option.bind_eq_some_iff.mp isObject
    obtain rfl := Text.Utf8.decode?_eq_some_iff.mp decoded
    obtain ⟨document, spelled, nested, same⟩ :=
      Value.read_eq_ok_iff.mp (objectOf?_encode.mp isObject)
    cases document with
    | object written => exact ⟨written, ⟨text, rfl, spelled, nested⟩, same.symm⟩
    | _ => cases same
  · rintro ⟨written, ⟨text, rfl, spelled, nested⟩, sorted⟩
    exact objectOf?_encode.mpr (Value.read_eq_ok_iff.mpr ⟨_, spelled, nested, sorted.symm⟩)

/-! ## Splitting and joining -/

/-- The text of three parts with dots between them. -/
def joined (header payload signature : List Char) : List Char :=
  header ++ '.' :: (payload ++ '.' :: signature)

/-- There is one part more than there are dots. By induction on the characters: a dot opens a part,
and any other character joins the one that is open. -/
theorem length_splitDots (characters : List Char) :
    (splitDots characters).length = characters.count '.' + 1 := by
  induction characters with
  | nil => rfl
  | cons first rest inductionHypothesis =>
    rw [splitDots]
    split
    · next point => rw [List.length_cons, inductionHypothesis, point, List.count_cons_self]
    · next other =>
      rw [List.count_cons_of_ne other]
      split
      · next empty => simp [empty] at inductionHypothesis
      · next part parts same => rw [← inductionHypothesis, same, List.length_cons, List.length_cons]

/-- A part without a dot in front of one is the first part. -/
theorem splitDots_append {part : List Char} (free : '.' ∉ part) (rest : List Char) :
    splitDots (part ++ '.' :: rest) = part :: splitDots rest := by
  induction part with
  | nil => rfl
  | cons first part inductionHypothesis =>
    rw [List.mem_cons, not_or] at free
    obtain ⟨other, free⟩ := free
    rw [List.cons_append, splitDots, if_neg (Ne.symm other), inductionHypothesis free]

/-- A text without a dot is its only part. -/
theorem splitDots_of_free {part : List Char} (free : '.' ∉ part) : splitDots part = [part] := by
  induction part with
  | nil => rfl
  | cons first part inductionHypothesis =>
    rw [List.mem_cons, not_or] at free
    obtain ⟨other, free⟩ := free
    rw [splitDots, if_neg (Ne.symm other), inductionHypothesis free]

/-- Three parts without dots are the parts of the text that joins them. -/
theorem splitDots_joined {header payload signature : List Char} (headerFree : '.' ∉ header)
    (payloadFree : '.' ∉ payload) (signatureFree : '.' ∉ signature) :
    splitDots (joined header payload signature) = [header, payload, signature] := by
  rw [joined, splitDots_append headerFree, splitDots_append payloadFree,
    splitDots_of_free signatureFree]

/-- The parts of a text, with dots between them, are the text, so splitting loses nothing. -/
theorem intercalate_splitDots (characters : List Char) :
    ['.'].intercalate (splitDots characters) = characters := by
  induction characters with
  | nil => rfl
  | cons first rest inductionHypothesis =>
    rw [splitDots]
    split
    · next point =>
      subst point
      cases same : splitDots rest with
      -- A text has at least one part.
      | nil =>
        have counted := length_splitDots rest
        rw [same] at counted
        cases counted
      | cons part parts =>
        rw [same] at inductionHypothesis
        rw [← inductionHypothesis]
        simp [List.intercalate]
    · split
      · next empty =>
        rw [empty] at inductionHypothesis
        rw [← inductionHypothesis]
        rfl
      · next part parts same =>
        rw [same] at inductionHypothesis
        rw [← inductionHypothesis]
        cases parts with
        | nil => rfl
        | cons next behind => simp [List.intercalate]

/-- A text of three parts is these parts with dots between them. -/
theorem eq_joined {characters header payload signature : List Char}
    (split : splitDots characters = [header, payload, signature]) :
    characters = joined header payload signature := by
  have same := intercalate_splitDots characters
  rw [split] at same
  rw [← same]
  simp [List.intercalate, joined]

/-- Three parts of a text decode to a token. -/
structure Decodes (header payload signature : List Char) (token : CompactToken) : Prop where
  input : token.signingInput = header ++ '.' :: payload
  header : ∃ octets, Text.Base64.decodeChars? .url header = some octets ∧
    objectOf? octets = some token.header
  payload : Text.Base64.decodeChars? .url payload = some token.payload
  signature : Text.Base64.decodeChars? .url signature = some token.signature

/-- A part that decodes holds no dot, because a dot is no digit of the alphabet for URLs. -/
theorem point_not_mem_of_decodes {part : List Char} {octets : List UInt8}
    (decoded : Text.Base64.decodeChars? .url part = some octets) : '.' ∉ part := by
  rw [← Text.Base64.encodeChars_of_decodeChars? decoded]
  exact Text.Base64.point_not_mem_encodeChars octets

/-- Three parts that decode to a token make a text of it. -/
theorem Decodes.ofText? {header payload signature : List Char} {token : CompactToken}
    (decodes : Decodes header payload signature token) :
    ofText? (String.ofList (joined header payload signature)) = some token := by
  obtain ⟨headerOctets, headerDecoded, members⟩ := decodes.header
  have split := splitDots_joined (point_not_mem_of_decodes headerDecoded)
    (point_not_mem_of_decodes decodes.payload) (point_not_mem_of_decodes decodes.signature)
  obtain ⟨signingInput, tokenHeader, tokenPayload, tokenSignature⟩ := token
  obtain rfl := decodes.input
  simp only [CompactToken.ofText?, String.toList_ofList, split, headerDecoded, decodes.payload,
    decodes.signature, members, bind, Option.bind, pure]

/-- Every text that is read as a token is made of three parts that decode to it. The parts are told
apart by their dots, and each check of the form gives one part of the token. -/
theorem decodes_of_ofText? {text : String} {token : CompactToken}
    (read : CompactToken.ofText? text = some token) :
    ∃ header payload signature, text = String.ofList (joined header payload signature) ∧
      Decodes header payload signature token := by
  unfold CompactToken.ofText? at read
  split at read
  · next header payload signature parts =>
    obtain ⟨headerOctets, headerDecoded, read⟩ := Option.bind_eq_some_iff.mp read
    obtain ⟨payloadOctets, payloadDecoded, read⟩ := Option.bind_eq_some_iff.mp read
    obtain ⟨signatureOctets, signatureDecoded, read⟩ := Option.bind_eq_some_iff.mp read
    obtain ⟨members, isObject, read⟩ := Option.bind_eq_some_iff.mp read
    obtain rfl := Option.some.inj read
    refine ⟨header, payload, signature, ?_, rfl, ⟨headerOctets, headerDecoded, isObject⟩,
      payloadDecoded, signatureDecoded⟩
    rw [← eq_joined parts, String.ofList_toList]
  · cases read

end CompactToken

/-! ## The checks of a verifier -/

namespace Verifier

/-- A text that is no token is turned away by every verifier, before its key is asked for. -/
theorem verifyClaims_of_no_token (verifier : Verifier) {text : String}
    (unread : CompactToken.ofText? text = none) :
    verifier.verifyClaims text = .error .malformedToken := by
  rw [verifyClaims, CompactToken.parse, unread]
  rfl

/-- The checks behind the form of a token, in their order: the algorithm, the key and the signature,
the payload. None of them asks for the text any more. -/
theorem verifyClaims_of_token (verifier : Verifier) {text : String} {token : CompactToken}
    (read : CompactToken.ofText? text = some token) :
    verifier.verifyClaims text =
      if token.names verifier.algorithm then
        (verifier.checkSignature token).bind fun valid =>
          if valid then token.claims else .error .signatureInvalid
      else .error .unsupportedAlgorithm := by
  rw [verifyClaims, CompactToken.parse, read]
  simp only
  cases token.names verifier.algorithm <;> rfl

end Verifier

end Gatehouse
