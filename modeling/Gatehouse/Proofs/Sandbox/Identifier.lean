import Gatehouse.Proofs.Text.Hex
import Gatehouse.Proofs.Text.Utf8
import Gatehouse.Sandbox.Identifier

/-!
# What identifiers hold

Whatever a task is called, its identifier and the name of its container are texts of
letters, digits and hyphens. The characters of an identifier stand for those at the front
of the raw value, one for one, so identifiers are the values that stay as they are. A
digest is shown by its front, sixteen characters long or as long as the digest is.
-/

namespace Gatehouse.Sandbox

/-- A text of letters, digits and hyphens. -/
def IsIdentifier (text : String) : Prop :=
  ∀ character ∈ text.toList, character.isAlphanum = true ∨ character = '-'

/-- Whether a text is an identifier is decided character by character. -/
theorem isIdentifier_iff {text : String} : IsIdentifier text ↔
    text.toList.all (fun character => character.isAlphanum || character == '-') = true := by
  simp only [IsIdentifier, List.all_eq_true, Bool.or_eq_true, beq_iff_eq]

instance (text : String) : Decidable (IsIdentifier text) :=
  decidable_of_iff _ isIdentifier_iff.symm

/-- Two identifiers make one together. -/
theorem IsIdentifier.append {front back : String} (first : IsIdentifier front)
    (second : IsIdentifier back) : IsIdentifier (front ++ back) := by
  intro character inside
  rw [String.toList_append] at inside
  rcases List.mem_append.mp inside with inFront | inBack
  · exact first character inFront
  · exact second character inBack

/-- What an identifier holds in the place of a character: the character itself if it is a letter,
a digit or a hyphen. -/
def hyphenated (character : Char) : Char :=
  if character.isAlphanum = true ∨ character = '-' then character else '-'

/-- Letters, digits and hyphens are kept. -/
theorem hyphenated_of_kept {character : Char}
    (kept : character.isAlphanum = true ∨ character = '-') : hyphenated character = character :=
  if_pos kept

/-- Whatever a character is, a letter, a digit or a hyphen comes of it. -/
theorem hyphenated_keeps (character : Char) :
    (hyphenated character).isAlphanum = true ∨ hyphenated character = '-' := by
  by_cases kept : character.isAlphanum = true ∨ character = '-'
  · rwa [hyphenated_of_kept kept]
  · exact .inr (if_neg kept)

/-- A value that has characters is cut and hyphenated; only the empty one becomes a fixed word. -/
theorem toList_sanitize {raw : String} (nonempty : raw ≠ "") :
    (sanitize raw).toList = (raw.toList.take 63).map hyphenated := by
  have same : (fun character => if isIdentifierChar character = true then character else '-') =
      hyphenated := by
    funext character
    simp only [hyphenated, isIdentifierChar, Bool.or_eq_true, beq_iff_eq]
  have kept : ¬ ((raw.toList.take 63).map hyphenated).isEmpty = true := by
    simp [nonempty]
  simp only [sanitize, identifierLimit, same, if_neg kept, String.toList_ofList]

/-- Every other character becomes a hyphen, so what is sanitized is an identifier. The fixed word
for an empty value is one as well. -/
theorem isIdentifier_sanitize (raw : String) : IsIdentifier (sanitize raw) := by
  by_cases empty : raw = ""
  · subst empty
    decide
  · intro character inside
    rw [toList_sanitize empty] at inside
    obtain ⟨given, -, rfl⟩ := List.mem_map.mp inside
    exact hyphenated_keeps given

/-- A value that has characters keeps as many of them, up to 63. -/
theorem length_sanitize {raw : String} (nonempty : raw ≠ "") :
    (sanitize raw).length = min 63 raw.length := by
  rw [← String.length_toList, toList_sanitize nonempty, List.length_map, List.length_take,
    String.length_toList]

/-- Up to there, each place holds what the character in it becomes. -/
theorem getElem?_sanitize {raw : String} (nonempty : raw ≠ "") {position : Nat}
    (within : position < 63) :
    (sanitize raw).toList[position]? = raw.toList[position]?.map hyphenated := by
  rw [toList_sanitize nonempty, List.getElem?_map, List.getElem?_take_of_lt within]

/-- The texts of `[A-Za-z0-9-]{1,63}`. -/
structure IsShortIdentifier (text : String) : Prop where
  nonempty : text ≠ ""
  short : text.length ≤ 63
  identifier : IsIdentifier text

/-- What is sanitized is an identifier of one to 63 characters. -/
theorem isShortIdentifier_sanitize (raw : String) : IsShortIdentifier (sanitize raw) := by
  by_cases empty : raw = ""
  · subst empty
    exact ⟨by decide, by decide, isIdentifier_sanitize ""⟩
  · have length := length_sanitize empty
    refine ⟨fun none => ?_, by omega, isIdentifier_sanitize raw⟩
    have long : raw.length ≠ 0 := by simpa using empty
    rw [none, String.length_empty] at length
    omega

/-- Nothing of such a text is cut off, and no character of it is replaced. -/
theorem IsShortIdentifier.sanitize_eq {text : String} (short : IsShortIdentifier text) :
    sanitize text = text := by
  apply String.toList_inj.mp
  have whole : text.toList.take 63 = text.toList :=
    List.take_of_length_le (String.length_toList ▸ short.short)
  calc (sanitize text).toList
      = text.toList.map hyphenated := by rw [toList_sanitize short.nonempty, whole]
    _ = text.toList.map id :=
        List.map_congr_left fun character inside =>
          hyphenated_of_kept (short.identifier character inside)
    _ = text.toList := List.map_id _

/-- So these texts are the ones that stay as they are: an identifier is one of them, and whatever
stays as it is has been sanitized. -/
theorem sanitize_eq_self_iff {raw : String} : sanitize raw = raw ↔ IsShortIdentifier raw :=
  ⟨fun fixed => fixed ▸ isShortIdentifier_sanitize raw, IsShortIdentifier.sanitize_eq⟩

/-- Sanitizing again changes nothing, because what was sanitized is such a text. -/
theorem sanitize_sanitize (raw : String) : sanitize (sanitize raw) = sanitize raw :=
  (isShortIdentifier_sanitize raw).sanitize_eq

/-- A letter, a digit or a hyphen takes one octet. -/
theorem length_utf8EncodeChar_of_kept {character : Char}
    (kept : character.isAlphanum = true ∨ character = '-') :
    (String.utf8EncodeChar character).length = 1 := by
  rcases kept with alphanumeric | rfl
  · rw [String.length_utf8EncodeChar, Char.utf8Size_eq_one_iff, UInt32.le_iff_toNat_le]
    delta Char.isAlphanum Char.isAlpha Char.isUpper Char.isLower Char.isDigit at alphanumeric
    simp only [Bool.or_eq_true, Bool.and_eq_true, decide_eq_true_eq, ge_iff_le,
      UInt32.le_iff_toNat_le] at alphanumeric
    simp at alphanumeric ⊢
    omega
  · decide

/-- An identifier takes as many octets as it has characters. -/
theorem IsIdentifier.length_encode {text : String} (identifier : IsIdentifier text) :
    (Text.Utf8.encode text).length = text.length := by
  have narrow : ∀ character ∈ text.toList, (String.utf8EncodeChar character).length = 1 :=
    fun character inside => length_utf8EncodeChar_of_kept (identifier character inside)
  calc (Text.Utf8.encode text).length
      = (text.toList.flatMap String.utf8EncodeChar).length := by
        rw [← Text.Utf8.encode_ofList, String.ofList_toList]
    _ = text.toList.length := by
        rw [List.length_flatMap, List.map_congr_left narrow, List.map_const',
          List.sum_replicate_nat, Nat.mul_one]
    _ = text.length := String.length_toList

/-- Whatever is sanitized becomes a text of one to 63 letters, digits and hyphens, each of one
octet. It shows the front of the raw value character by character, with a hyphen in the place of
every other character. Sanitizing again changes nothing, and the texts that it leaves as they are
are exactly those that it makes. -/
theorem sanitizes_to_identifier (raw : String) :
    IsShortIdentifier (sanitize raw) ∧
    (Text.Utf8.encode (sanitize raw)).length = (sanitize raw).length ∧
    (raw ≠ "" → (sanitize raw).length = min 63 raw.length ∧
      ∀ position < 63,
        (sanitize raw).toList[position]? = raw.toList[position]?.map hyphenated) ∧
    sanitize (sanitize raw) = sanitize raw ∧
    (sanitize raw = raw ↔ IsShortIdentifier raw) :=
  ⟨isShortIdentifier_sanitize raw, (isIdentifier_sanitize raw).length_encode,
    fun nonempty => ⟨length_sanitize nonempty, fun _ within => getElem?_sanitize nonempty within⟩,
    sanitize_sanitize raw, sanitize_eq_self_iff⟩

/-- A character of several octets leaves one hyphen. -/
example : sanitize "tâche 1" = "t-che-1" := by decide

/-- The name of a container is an identifier: its beginning and its hash are, and its stem is the
front of one. -/
theorem isIdentifier_containerName (taskId : String) : IsIdentifier (containerName taskId) := by
  have stem : IsIdentifier
      (String.ofList ((sanitize taskId).toList.take containerStemLength)) := by
    intro character inside
    rw [String.toList_ofList] at inside
    exact isIdentifier_sanitize taskId character (List.mem_of_mem_take inside)
  have hash (octets : List UInt8) : IsIdentifier (Text.Hex.encode octets) := by
    have digits : "0123456789abcdef".toList.all Char.isAlphanum = true := by decide
    intro character inside
    exact .inl (List.all_eq_true.mp digits character (Text.Hex.digit_of_mem_encode inside))
  have begins : IsIdentifier containerPrefix := by decide
  have hyphen : IsIdentifier "-" := by decide
  exact ((begins.append stem).append hyphen).append (hash _)

/-- The name of a container begins with a letter. -/
theorem head?_containerName (taskId : String) :
    (containerName taskId).toList.head? = some 't' := by
  have begins : containerPrefix.toList = 't' :: "ollgate-".toList := by decide
  simp only [containerName, String.toList_append, begins]
  rfl

/-- What is shown of a digest stands at its front. -/
theorem digestPrefix_append (digest : String) :
    ∃ rest, digest = digestPrefix digest ++ rest := by
  refine ⟨String.ofList (digest.toList.drop digestPrefixLength), ?_⟩
  rw [digestPrefix, ← String.ofList_append, List.take_append_drop, String.ofList_toList]

/-- What is shown of a digest has sixteen characters, or as many as the digest. -/
theorem length_digestPrefix (digest : String) :
    (digestPrefix digest).length = min 16 digest.length := by
  rw [digestPrefix, String.length_ofList, List.length_take, String.length_toList]
  rfl

end Gatehouse.Sandbox
