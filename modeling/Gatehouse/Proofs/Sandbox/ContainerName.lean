import Gatehouse.Proofs.Sandbox.Identifier

/-!
# Names of containers

A name can be taken apart again from behind: its last eight characters are the hash of
the raw task id, a hyphen stands in front of them, and what is left behind the common
beginning is the stem. The stem may have any length and hold hyphens and digits of its
own; nothing is split at them. So two tasks share a name exactly when they share the stem
and the hash.
-/

namespace Gatehouse.Sandbox

/-- The names that a container may have: a letter or digit, and then one or more letters, digits,
underscores, points and hyphens. -/
def IsContainerName (name : String) : Prop :=
  ∃ first rest, name.toList = first :: rest ∧ first.isAlphanum = true ∧ rest ≠ [] ∧
    ∀ character ∈ rest, character.isAlphanum = true ∨ character ∈ ['_', '.', '-']

/-- A name ends in a hyphen and eight lowercase hexadecimal digits. -/
def EndsInHash (name : String) : Prop :=
  ∃ front hash, name = front ++ "-" ++ hash ∧ hash.length = 8 ∧
    ∀ character ∈ hash.toList, character ∈ "0123456789abcdef".toList

/-- What the name of a container shows of the task: the front of its identifier. -/
def containerStem (taskId : String) : String :=
  String.ofList ((sanitize taskId).toList.take containerStemLength)

/-- What tells tasks apart whose identifiers look alike: the front of the hash of the raw id. -/
def containerHash (taskId : String) : String :=
  Text.Hex.encode ((Hash.sha256 (Text.Utf8.encode taskId)).take containerHashLength)

/-- The name of a container is the common beginning, the stem, a hyphen and the hash. -/
theorem containerName_eq (taskId : String) : containerName taskId =
    containerPrefix ++ containerStem taskId ++ "-" ++ containerHash taskId := rfl

/-- A stem is cut at 45 characters. -/
theorem length_containerStem_le (taskId : String) : (containerStem taskId).length ≤ 45 := by
  rw [containerStem, String.length_ofList, List.length_take]
  exact Nat.min_le_left ..

/-- A hash has eight digits, two for each of four octets. -/
theorem length_containerHash (taskId : String) : (containerHash taskId).length = 8 := by
  rw [containerHash, Text.Hex.length_encode, List.length_take, Hash.sha256_length]
  rfl

/-- The beginning takes nine characters, the stem 45 at most, the hyphen one and the hash eight. -/
theorem length_containerName_le (taskId : String) : (containerName taskId).length ≤ 63 := by
  have begins : containerPrefix.length = 9 := by decide
  have hyphen : "-".length = 1 := by decide
  have stem := length_containerStem_le taskId
  have hash := length_containerHash taskId
  rw [containerName_eq]
  simp only [String.length_append]
  omega

/-- The name of a container ends in a hyphen and eight lowercase hexadecimal digits. -/
theorem endsInHash_containerName (taskId : String) : EndsInHash (containerName taskId) :=
  ⟨containerPrefix ++ containerStem taskId, containerHash taskId, rfl,
    length_containerHash taskId, fun _ inside => Text.Hex.digit_of_mem_encode inside⟩

/-- Behind its first letter the name goes on with the rest of the common beginning. -/
theorem isContainerName_containerName (taskId : String) :
    IsContainerName (containerName taskId) := by
  have begins : containerPrefix.toList = 't' :: "ollgate-".toList := by decide
  have written : (containerName taskId).toList = 't' ::
      ("ollgate-".toList ++ (containerStem taskId).toList ++ "-".toList ++
        (containerHash taskId).toList) := by
    rw [containerName_eq]
    simp only [String.toList_append, begins, List.cons_append]
  refine ⟨'t', _, written, by decide, by simp, ?_⟩
  intro character inside
  have listed : character ∈ (containerName taskId).toList := by
    rw [written]
    exact List.mem_cons_of_mem _ inside
  rcases isIdentifier_containerName taskId character listed with alphanumeric | rfl
  · exact .inl alphanumeric
  · exact .inr (by simp)

/-- The hash is split off from behind, where its length is known; the hyphen and the beginning are
the same in every name, so the stem is what is left between them. -/
theorem containerName_eq_iff {first second : String} :
    containerName first = containerName second ↔
      containerStem first = containerStem second ∧ containerHash first = containerHash second := by
  constructor
  · intro same
    have characters := congrArg String.toList same
    simp only [containerName_eq, String.toList_append] at characters
    have sameLength : (containerHash first).toList.length =
        (containerHash second).toList.length := by
      rw [String.length_toList, String.length_toList, length_containerHash, length_containerHash]
    obtain ⟨front, hash⟩ := List.append_inj' characters sameLength
    have stem := List.append_cancel_left (List.append_cancel_right front)
    exact ⟨String.toList_inj.mp stem, String.toList_inj.mp hash⟩
  · rintro ⟨stem, hash⟩
    rw [containerName_eq, containerName_eq, stem, hash]

/-- Two stems are equal exactly when the front of what the tasks are sanitized to is. -/
theorem containerStem_eq_iff {first second : String} :
    containerStem first = containerStem second ↔
      (sanitize first).toList.take 45 = (sanitize second).toList.take 45 :=
  String.ofList_inj

/-- Two hashes are equal exactly when four octets of the hashed ids are, because digits determine
their octets. The ids are hashed as they are, and not as they are sanitized. -/
theorem containerHash_eq_iff {first second : String} :
    containerHash first = containerHash second ↔
      (Hash.sha256 (Text.Utf8.encode first)).take 4 =
        (Hash.sha256 (Text.Utf8.encode second)).take 4 :=
  Text.Hex.encode_inj

/-- Every task, also one without a name, gives a container a name that containers may have, with
the common beginning and a hash at its end. Two tasks share it exactly when 45 characters of their
identifiers and four octets of the hashes of their raw ids agree. -/
theorem containers_named_apart :
    (∀ taskId, (containerName taskId).length ≤ 63 ∧
      (∃ rest, containerName taskId = "tollgate-" ++ rest) ∧
      IsContainerName (containerName taskId) ∧ EndsInHash (containerName taskId)) ∧
    ∀ first second, containerName first = containerName second ↔
      (sanitize first).toList.take 45 = (sanitize second).toList.take 45 ∧
      (Hash.sha256 (Text.Utf8.encode first)).take 4 =
        (Hash.sha256 (Text.Utf8.encode second)).take 4 := by
  refine ⟨fun taskId => ⟨length_containerName_le taskId, ?begins,
    isContainerName_containerName taskId, endsInHash_containerName taskId⟩, ?apart⟩
  case begins =>
    refine ⟨containerStem taskId ++ "-" ++ containerHash taskId, ?_⟩
    rw [containerName_eq, String.append_assoc, String.append_assoc, String.append_assoc]
    rfl
  case apart =>
    intro first second
    rw [containerName_eq_iff, containerStem_eq_iff, containerHash_eq_iff]

/-- Ids with the same identifier are told apart by their hashes. -/
example : sanitize "a;b" = sanitize "a-b" ∧ containerName "a;b" ≠ containerName "a-b" := by
  decide +kernel

end Gatehouse.Sandbox
