import Gatehouse.Proofs.Token.RoundTrip

/-!
# Tokens are not malleable

A verifier with a secret computes the code of the literal text in front of the second
dot and compares all of it with the octets that the third part decodes to. Strict base64
has one spelling for every list of octets, so no other third part can stand for the same
signature, and the header and the payload leave no other spelling of a whole token
either. Nothing here rests on the strength of the code: a forged code for another
signing input is a different question.
-/

namespace Gatehouse

open Json

namespace CompactToken

/-- What the header and the payload of a text of three parts decode to. -/
def contents? (text : String) : Option (List UInt8 × List UInt8) :=
  match splitDots text.toList with
  | [header, payload, _] => do
    return (← Text.Base64.decodeChars? .url header, ← Text.Base64.decodeChars? .url payload)
  | _ => none

/-- Joining is injective on parts without dots, even where only those on one side are known to
hold none: the other side has no dot to spare. -/
theorem joined_injective {header payload signature header' payload' signature' : List Char}
    (same : joined header payload signature = joined header' payload' signature')
    (headerFree : '.' ∉ header') (payloadFree : '.' ∉ payload') (signatureFree : '.' ∉ signature') :
    header = header' ∧ payload = payload' ∧ signature = signature' := by
  have split := splitDots_joined headerFree payloadFree signatureFree
  -- The text has two dots, and both stand between the parts.
  have counted : (joined header payload signature).count '.' = 2 := by
    have parts := length_splitDots (joined header payload signature)
    rw [same, split, List.length_cons, List.length_cons, List.length_singleton] at parts
    rw [same]
    omega
  have none : header.count '.' = 0 ∧ payload.count '.' = 0 ∧ signature.count '.' = 0 := by
    simp only [joined, List.count_append, List.count_cons_self] at counted
    omega
  simp only [List.count_eq_zero] at none
  obtain ⟨headerFree, payloadFree, signatureFree⟩ := none
  rw [← same, splitDots_joined headerFree payloadFree signatureFree] at split
  simpa using split

/-- The contents of a text whose parts decode to a token: the octets of its header and of its
payload. -/
theorem Decodes.contents? {header payload signature : List Char} {token : CompactToken}
    (decodes : Decodes header payload signature token) {octets : List UInt8}
    (headerDecoded : Text.Base64.decodeChars? .url header = some octets) :
    contents? (String.ofList (joined header payload signature)) = some (octets, token.payload) := by
  have split := splitDots_joined (point_not_mem_of_decodes headerDecoded)
    (point_not_mem_of_decodes decodes.payload) (point_not_mem_of_decodes decodes.signature)
  simp only [CompactToken.contents?, String.toList_ofList, split, headerDecoded, decodes.payload,
    bind, Option.bind, pure]

/-- The parts of a token are the parts that its text was joined from, because a part that decodes
holds no dot and joining such parts is injective. -/
theorem decodes_of_joined {header payload signature : List Char} {token : CompactToken}
    (read : CompactToken.ofText? (String.ofList (joined header payload signature)) = some token) :
    Decodes header payload signature token := by
  obtain ⟨header', payload', signature', same, decodes⟩ := decodes_of_ofText? read
  obtain ⟨octets, headerDecoded, isObject⟩ := decodes.header
  obtain ⟨rfl, rfl, rfl⟩ := joined_injective (String.ofList_injective same)
    (point_not_mem_of_decodes headerDecoded) (point_not_mem_of_decodes decodes.payload)
    (point_not_mem_of_decodes decodes.signature)
  exact decodes

end CompactToken

namespace Verifier

/-- What a verifier with a secret has checked of a token that it accepts. -/
structure Accepted (secret : List UInt8) (token : CompactToken) : Prop where
  named : token.names .hs256 = true
  keyed : secret.isEmpty = false
  signed : Hash.hmacSha256 secret token.signedOctets = token.signature

variable {secret : List UInt8}

/-- A text that is accepted is the text of a token that has been checked: it has the form of one,
names the algorithm, and carries the code of its text under a secret that is not empty. -/
theorem accepted_of_verifyClaims {text : String} {members : ClaimMap}
    (accepted : (Verifier.hs256 secret).verifyClaims text = .ok members) :
    ∃ token, CompactToken.ofText? text = some token ∧ Accepted secret token := by
  cases read : CompactToken.ofText? text with
  | none =>
    rw [verifyClaims_of_no_token _ read] at accepted
    cases accepted
  | some token =>
    rw [verifyClaims_of_token _ read] at accepted
    refine ⟨token, rfl, ?_⟩
    cases named : token.names .hs256 with
    | false => simp [algorithm, named] at accepted
    | true =>
      cases keyed : secret.isEmpty with
      | true => simp [algorithm, named, checkSignature, keyed, Except.bind] at accepted
      | false =>
        by_cases signed : Hash.hmacSha256 secret token.signedOctets = token.signature
        · exact ⟨named, keyed, signed⟩
        · simp [algorithm, named, checkSignature, keyed, signed, Except.bind] at accepted

/-- A token with a code that is not that of its text is refused. -/
theorem verifyClaims_of_not_signed {text : String} {token : CompactToken}
    (read : CompactToken.ofText? text = some token) (named : token.names .hs256 = true)
    (keyed : secret.isEmpty = false)
    (other : Hash.hmacSha256 secret token.signedOctets ≠ token.signature) :
    (Verifier.hs256 secret).verifyClaims text = .error .signatureInvalid := by
  simp [verifyClaims_of_token _ read, algorithm, named, checkSignature, keyed, other, Except.bind]

/-- A text with two dots between three others is what joining these gives. -/
theorem text_eq_joined (header payload signature : String) :
    header ++ "." ++ payload ++ "." ++ signature =
      String.ofList (CompactToken.joined header.toList payload.toList signature.toList) := by
  rw [← String.toList_inj]
  simp [CompactToken.joined]

/-- Another third part in an accepted token is refused: its signature is wrong where it is strict
base64 of any length, and it makes no token where it is not. -/
theorem verifyClaims_other_signature {header payload signature other : String}
    {members : ClaimMap}
    (accepted : (Verifier.hs256 secret).verifyClaims
      (header ++ "." ++ payload ++ "." ++ signature) = .ok members)
    (different : other ≠ signature) :
    (Verifier.hs256 secret).verifyClaims (header ++ "." ++ payload ++ "." ++ other) =
      .error (if (Text.Base64.decodeUrl? other).isSome then .signatureInvalid
        else .malformedToken) := by
  rw [text_eq_joined] at accepted ⊢
  obtain ⟨token, read, checked⟩ := accepted_of_verifyClaims accepted
  have decodes := CompactToken.decodes_of_joined read
  cases otherDecoded : Text.Base64.decodeUrl? other with
  | none =>
    apply verifyClaims_of_no_token
    apply Option.eq_none_iff_forall_ne_some.mpr
    intro otherToken otherRead
    have otherDecodes := CompactToken.decodes_of_joined otherRead
    have both := otherDecoded.symm.trans otherDecodes.signature
    cases both
  | some octets =>
    have otherDecodes : CompactToken.Decodes header.toList payload.toList other.toList
        { token with signature := octets } :=
      ⟨decodes.input, decodes.header, decodes.payload, otherDecoded⟩
    -- The signing input is unchanged, so the code that is computed is still the old signature.
    apply verifyClaims_of_not_signed otherDecodes.ofText? checked.named checked.keyed
    intro signed
    have sameSignature : token.signature = octets := checked.signed.symm.trans signed
    have sameText : other.toList = signature.toList :=
      Text.Base64.decodeChars?_injective otherDecoded (sameSignature ▸ decodes.signature)
    exact different (String.toList_inj.mp sameText)

/-- Two accepted tokens whose headers and payloads decode to the same octets are the same text.
Strict base64 has one text for these octets, and the code in the third part is determined by the
first two. -/
theorem eq_of_contents {first second : String} {firstMembers secondMembers : ClaimMap}
    (firstAccepted : (Verifier.hs256 secret).verifyClaims first = .ok firstMembers)
    (secondAccepted : (Verifier.hs256 secret).verifyClaims second = .ok secondMembers)
    (sameContents : CompactToken.contents? first = CompactToken.contents? second) :
    first = second := by
  obtain ⟨firstToken, firstRead, firstChecked⟩ := accepted_of_verifyClaims firstAccepted
  obtain ⟨secondToken, secondRead, secondChecked⟩ := accepted_of_verifyClaims secondAccepted
  obtain ⟨header, payload, signature, rfl, decodes⟩ := CompactToken.decodes_of_ofText? firstRead
  obtain ⟨header', payload', signature', rfl, decodes'⟩ :=
    CompactToken.decodes_of_ofText? secondRead
  obtain ⟨octets, headerDecoded, -⟩ := decodes.header
  obtain ⟨octets', headerDecoded', -⟩ := decodes'.header
  rw [decodes.contents? headerDecoded, decodes'.contents? headerDecoded', Option.some.injEq,
    Prod.mk.injEq] at sameContents
  obtain ⟨rfl, samePayload⟩ := sameContents
  obtain rfl := Text.Base64.decodeChars?_injective headerDecoded headerDecoded'
  obtain rfl := Text.Base64.decodeChars?_injective decodes.payload (samePayload ▸ decodes'.payload)
  -- The signing inputs are now one text, so the codes of both tokens are one code.
  have sameInput : firstToken.signedOctets = secondToken.signedOctets := by
    rw [CompactToken.signedOctets, CompactToken.signedOctets, decodes.input, decodes'.input]
  have sameSignature : firstToken.signature = secondToken.signature := by
    rw [← firstChecked.signed, ← secondChecked.signed, sameInput]
  obtain rfl := Text.Base64.decodeChars?_injective decodes.signature
    (sameSignature ▸ decodes'.signature)
  rfl

/-- Tokens signed with a secret are not malleable: an accepted token stands with no other third
part, and no other accepted token has the same decoded header and payload. -/
theorem hs256_not_malleable (secret : List UInt8) :
    (∀ (header payload signature other : String) (members : ClaimMap),
      (Verifier.hs256 secret).verifyClaims (header ++ "." ++ payload ++ "." ++ signature) =
        .ok members → other ≠ signature →
      (Verifier.hs256 secret).verifyClaims (header ++ "." ++ payload ++ "." ++ other) =
        .error (if (Text.Base64.decodeUrl? other).isSome then .signatureInvalid
          else .malformedToken)) ∧
    (∀ (first second : String) (firstMembers secondMembers : ClaimMap),
      (Verifier.hs256 secret).verifyClaims first = .ok firstMembers →
      (Verifier.hs256 secret).verifyClaims second = .ok secondMembers →
      CompactToken.contents? first = CompactToken.contents? second → first = second) := by
  constructor
  · intro header payload signature other members accepted different
    exact verifyClaims_other_signature accepted different
  · intro first second firstMembers secondMembers firstAccepted secondAccepted sameContents
    exact eq_of_contents firstAccepted secondAccepted sameContents

/-- A token that was issued for no claims at all: without a signature it is refused for its
signature, and with a last digit of the same octets but other spare bits it is no token. -/
theorem hs256_not_malleable_issued :
    (Verifier.hs256 [0x6B]).verifyClaims ("eyJhbGciOiJIUzI1NiIsInR5cCI6IkpXVCJ9" ++ "." ++ "e30" ++
      "." ++ "") = .error .signatureInvalid ∧
    (Verifier.hs256 [0x6B]).verifyClaims ("eyJhbGciOiJIUzI1NiIsInR5cCI6IkpXVCJ9" ++ "." ++ "e30" ++
      "." ++ "sdq8hlcnGupCQofW8T3WXS8lMHPKjY78f7plDHoTsoJ") = .error .malformedToken := by
  have accepted : (Verifier.hs256 [0x6B]).verifyClaims
      ("eyJhbGciOiJIUzI1NiIsInR5cCI6IkpXVCJ9" ++ "." ++ "e30" ++ "." ++
        "sdq8hlcnGupCQofW8T3WXS8lMHPKjY78f7plDHoTsoI") = .ok [] := by
    have issued : (Issuer.hs256 [0x6B]).tokenText (.object []) =
        "eyJhbGciOiJIUzI1NiIsInR5cCI6IkpXVCJ9" ++ "." ++ "e30" ++ "." ++
          "sdq8hlcnGupCQofW8T3WXS8lMHPKjY78f7plDHoTsoI" := by decide +kernel
    have trusted : Issuer.Trusted (.object []) (.hs256 [0x6B]) (.hs256 [0x6B]) :=
      .hs256 (by decide)
    have exact : (Value.object []).Exact := Value.exact_object (List.forall_mem_nil _)
    rw [← issued, trusted.verifyClaims, CompactToken.claims, Issuer.token,
      Issuer.objectOf?_render exact (by decide)]
    rfl
  constructor
  · exact (hs256_not_malleable [0x6B]).1 _ _ _ "" [] accepted (by decide)
  · exact (hs256_not_malleable [0x6B]).1 _ _ _ _ [] accepted (by decide)

end Verifier

end Gatehouse
