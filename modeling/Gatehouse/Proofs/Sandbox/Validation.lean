import Gatehouse.Sandbox.Builder

/-!
# Settings and references that are refused

A container is launched with settings of an operator and a reference of the registry.
Which of them are refused is said here without the checks that do it: settings are
usable when the program is no flag, the names of runtime and profile are plain, the
profile confines, and no limit is zero; a reference is refused when it is empty, could
be taken for a flag, or holds a character that is not visible or that a shell expands.
-/

namespace Gatehouse.Sandbox

/-- A name of letters, digits, points, underscores and hyphens. -/
structure IsName (text : String) : Prop where
  nonempty : text ≠ ""
  plain : ∀ character ∈ text.toList, character.isAlphanum = true ∨ character ∈ ['.', '_', '-']

/-- A name of a profile or a runtime has a character, and none but those that are allowed. -/
theorem isProfileName_iff {text : String} : isProfileName text = true ↔ IsName text := by
  simp only [isProfileName, Bool.and_eq_true, Bool.not_eq_true', List.all_eq_true,
    Bool.or_eq_true, beq_iff_eq]
  constructor
  · rintro ⟨nonempty, plain⟩
    refine ⟨fun none => ?_, fun character inside => ?_⟩
    · rw [none] at nonempty
      cases nonempty
    · simpa [or_assoc] using plain character inside
  · rintro ⟨nonempty, plain⟩
    refine ⟨by simpa using nonempty, fun character inside => ?_⟩
    simpa [or_assoc] using plain character inside

/-- Settings that a container can be launched with. -/
structure Usable (settings : SandboxSettings) : Prop where
  visible : Text.isBlankText settings.dockerBin = false
  program : settings.dockerBin.toList.head? ≠ some '-'
  runtime : IsName settings.runtime
  profile : IsName settings.apparmorProfile
  confined : settings.apparmorProfile ≠ "unconfined"
  memory : settings.memoryMb ≠ 0
  processes : settings.pidsLimit ≠ 0

/-- Settings are accepted exactly when they are usable. The conditions are gone through in the order
in which they are checked. -/
theorem invalidSetting?_eq_none_iff {settings : SandboxSettings} :
    invalidSetting? settings = none ↔ Usable settings := by
  unfold invalidSetting?
  constructor
  · intro accepted
    split at accepted
    · cases accepted
    · next program =>
      rw [not_or, Bool.not_eq_true] at program
      split at accepted
      · cases accepted
      · next runtime =>
        split at accepted
        · cases accepted
        · next profile =>
          rw [not_or, Decidable.not_not] at profile
          split at accepted
          · cases accepted
          · next memory =>
            split at accepted
            · cases accepted
            · next processes =>
              have runtimeName := isProfileName_iff.mp (Decidable.not_not.mp runtime)
              exact ⟨program.1, program.2, runtimeName, isProfileName_iff.mp profile.1, profile.2,
                memory, processes⟩
  · intro usable
    have program : ¬ (Text.isBlankText settings.dockerBin = true ∨
        settings.dockerBin.toList.head? = some '-') := by
      rw [usable.visible]
      exact not_or.mpr ⟨Bool.false_ne_true, usable.program⟩
    have runtime : ¬ ¬ isProfileName settings.runtime = true :=
      not_not_intro (isProfileName_iff.mpr usable.runtime)
    have profile : ¬ (¬ isProfileName settings.apparmorProfile = true ∨
        settings.apparmorProfile = "unconfined") :=
      not_or.mpr ⟨not_not_intro (isProfileName_iff.mpr usable.profile), usable.confined⟩
    rw [if_neg program, if_neg runtime, if_neg profile, if_neg usable.memory,
      if_neg usable.processes]

/-- A reference to an image that is not launched. -/
inductive Refused (reference : String) : Prop
  | empty (nothing : reference = "")
  | flag (hyphen : reference.toList.head? = some '-')
  | unseen {character : Char} (inside : character ∈ reference.toList)
      (code : character.toNat < 0x21 ∨ 0x7E < character.toNat)
  | expanded {character : Char} (inside : character ∈ reference.toList)
      (special : character ∈ ['\'', '"', '\x60', '\\', '$'])

/-- A character is plain if it can be seen, is in ASCII, and means nothing to a shell. -/
theorem isPlainChar_iff {character : Char} : isPlainChar character = true ↔
    ¬ (character.toNat < 0x21 ∨ 0x7E < character.toNat) ∧
      character ∉ ['\'', '"', '\x60', '\\', '$'] := by
  simp only [isPlainChar, Bool.and_eq_true, decide_eq_true_eq, bne_iff_ne, List.mem_cons,
    List.not_mem_nil, or_false, not_or, Nat.not_lt, and_assoc, ne_eq]

/-- A reference is plain if it has a character, begins with no hyphen, and has plain characters
only. -/
theorem isPlainImageRef_iff {reference : String} : isPlainImageRef reference = true ↔
    reference ≠ "" ∧ reference.toList.head? ≠ some '-' ∧
      ∀ character ∈ reference.toList, isPlainChar character = true := by
  simp only [isPlainImageRef, Bool.and_eq_true, Bool.not_eq_true', String.isEmpty_eq_false_iff,
    bne_iff_ne, List.all_eq_true, and_assoc]

/-- References are refused exactly when they are not plain, for one of three reasons. -/
theorem isPlainImageRef_eq_false_iff {reference : String} :
    isPlainImageRef reference = false ↔ Refused reference := by
  constructor
  · intro notPlain
    by_cases nothing : reference = ""
    · exact .empty nothing
    by_cases hyphen : reference.toList.head? = some '-'
    · exact .flag hyphen
    have notAll : ¬ ∀ character ∈ reference.toList, isPlainChar character = true := by
      intro all
      rw [isPlainImageRef_iff.mpr ⟨nothing, hyphen, all⟩] at notPlain
      cases notPlain
    obtain ⟨character, within⟩ := Classical.not_forall.mp notAll
    obtain ⟨inside, special⟩ := Classical.not_imp.mp within
    rw [isPlainChar_iff, Decidable.not_and_iff_not_or_not, Decidable.not_not,
      Decidable.not_not] at special
    rcases special with code | special
    · exact .unseen inside code
    · exact .expanded inside special
  · intro refused
    refine Bool.eq_false_iff.mpr fun plain => ?_
    obtain ⟨nonempty, noFlag, all⟩ := isPlainImageRef_iff.mp plain
    cases refused with
    | empty nothing => exact nonempty nothing
    | flag hyphen => exact noFlag hyphen
    | unseen inside code => exact (isPlainChar_iff.mp (all _ inside)).1 code
    | expanded inside special => exact (isPlainChar_iff.mp (all _ inside)).2 special

end Gatehouse.Sandbox
