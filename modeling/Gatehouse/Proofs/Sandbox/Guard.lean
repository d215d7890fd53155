import Gatehouse.Proofs.Sandbox.Options
import Mathlib.Data.List.Forall2

/-!
# What the guard refuses

A flag stands at a place among arguments, by itself or with a value behind an equals
sign; where it stands by itself, the next argument is its value. The guard refuses a
command exactly when a listed flag stands at some place behind the program with a value
that weakens the isolation, and it names the argument at the first such place. Whether
there is one does not depend on the program or on the case of any letter, and nothing
that is appended to a command can hide it.
-/

namespace Gatehouse

namespace Guard

/-- A flag stands at a place of some arguments, with its value if there is one. -/
inductive StandsAt (arguments : List String) (place : Nat) (name : String) :
    Option String → Prop
  | alone (spelled : arguments[place]? = some name) :
      StandsAt arguments place name arguments[place + 1]?
  | valued {value : String} (spelled : arguments[place]? = some (name ++ "=" ++ value)) :
      StandsAt arguments place name (some value)

/-- At a place of some arguments stands a listed flag that weakens the isolation: with its one
harmful value, or with any value if it has none. -/
def WeakensAt (arguments : List String) (place : Nat) : Prop :=
  ∃ flag ∈ weakeningFlags, ∃ value, StandsAt arguments place flag.name value ∧
    (flag.value = none ∨ value = flag.value)

/-- A place is the first of some arguments at which the isolation is weakened. -/
structure FirstWeakensAt (arguments : List String) (place : Nat) : Prop where
  here : WeakensAt arguments place
  before : ∀ earlier < place, ¬ WeakensAt arguments earlier

/-! ## One argument -/

/-- An argument is its name, followed by the equals sign and the value if there is a value. So
splitting loses nothing. -/
theorem eq_of_splitValue {argument name : String} {inline : Option String}
    (parts : splitValue argument.toList = (name, inline)) :
    (inline = none ∧ argument = name) ∨
      ∃ value, inline = some value ∧ argument = name ++ "=" ++ value := by
  have whole := List.takeWhile_append_dropWhile (p := (· ≠ '=')) (l := argument.toList)
  unfold splitValue at parts
  dsimp only at parts
  split at parts
  · next ended =>
    obtain ⟨rfl, rfl⟩ := Prod.mk.inj parts
    rw [ended, List.append_nil] at whole
    exact .inl ⟨rfl, by rw [whole, String.ofList_toList]⟩
  · next sign value behind =>
    obtain ⟨rfl, rfl⟩ := Prod.mk.inj parts
    -- The part behind the name begins with the first character that is not of the name.
    have isSign : sign = '=' := by
      have notKept := List.head?_dropWhile_not (fun character => decide (character ≠ '='))
        argument.toList
      rw [behind] at notKept
      simpa using notKept
    refine .inr ⟨_, rfl, String.toList_inj.mp ?_⟩
    rw [behind, isSign] at whole
    simp only [String.toList_append, String.toList_ofList, List.append_assoc]
    exact whole.symm

/-- No listed flag has an equals sign in its name, so none is missed where its value is written
inline. -/
theorem free_of_listed {flag : WeakeningFlag} (listed : flag ∈ weakeningFlags) :
    '=' ∉ flag.name.toList := by
  have free : ∀ known ∈ weakeningFlags, '=' ∉ known.name.toList := by decide
  exact free flag listed

/-- An argument weakens the isolation if it is a listed flag with the value that is listed for it,
inline or as the next argument, or if any value of the flag does. -/
theorem weakens_iff {argument : String} {next : Option String} :
    weakens argument next = true ↔ ∃ flag ∈ weakeningFlags,
      (splitValue argument.toList).1 = flag.name ∧
        (flag.value = none ∨ ((splitValue argument.toList).2 <|> next) = flag.value) := by
  simp only [weakens, List.any_eq_true, Bool.and_eq_true, Bool.or_eq_true, beq_iff_eq,
    Option.isNone_iff_eq_none]

/-- The first argument weakens the isolation exactly when the guard finds that it does. -/
theorem weakensAt_zero {argument : String} {rest : List String} :
    WeakensAt (argument :: rest) 0 ↔ weakens argument rest.head? = true := by
  rw [weakens_iff]
  have next : (argument :: rest)[0 + 1]? = rest.head? := List.head?_eq_getElem?.symm
  constructor
  · rintro ⟨flag, listed, value, stands, harmful⟩
    have free := free_of_listed listed
    cases stands with
    | alone spelled =>
      obtain rfl : argument = flag.name := Option.some.inj spelled
      rw [next] at harmful
      refine ⟨flag, listed, ?_⟩
      rw [splitValue_of_free _ free]
      exact ⟨rfl, harmful⟩
    | @valued value spelled =>
      obtain rfl : argument = flag.name ++ "=" ++ value := Option.some.inj spelled
      refine ⟨flag, listed, ?_⟩
      rw [splitValue_append free]
      exact ⟨rfl, harmful⟩
  · rintro ⟨flag, listed, named, harmful⟩
    cases parts : splitValue argument.toList with
    | mk name inline =>
      rw [parts] at named harmful
      obtain rfl : name = flag.name := named
      refine ⟨flag, listed, ?_⟩
      rcases eq_of_splitValue parts with ⟨rfl, rfl⟩ | ⟨value, rfl, rfl⟩
      · refine ⟨_, .alone rfl, ?_⟩
        rw [next]
        exact harmful
      · exact ⟨some value, .valued rfl, harmful⟩

/-- What weakens the isolation behind a first argument does so without it, since each place is
judged by itself and the next one. -/
theorem weakensAt_succ {argument : String} {rest : List String} {place : Nat} :
    WeakensAt (argument :: rest) (place + 1) ↔ WeakensAt rest place := by
  have shifted (name : String) (value : Option String) :
      StandsAt (argument :: rest) (place + 1) name value ↔ StandsAt rest place name value := by
    constructor
    · intro stands
      cases stands with
      | alone spelled => exact .alone spelled
      | valued spelled => exact .valued spelled
    · intro stands
      cases stands with
      | alone spelled => exact .alone spelled
      | valued spelled => exact .valued spelled
  simp only [WeakensAt, shifted]

/-! ## All arguments -/

/-- The guard names the argument at the first place where the isolation is weakened. By induction on
the arguments: the first one decides, or is passed over. -/
theorem firstIndicator?_eq_some_iff {arguments : List String} {indicator : String} :
    firstIndicator? arguments = some indicator ↔
      ∃ place, FirstWeakensAt arguments place ∧ arguments[place]? = some indicator := by
  induction arguments with
  | nil => simp [firstIndicator?]
  | cons argument rest inductionHypothesis =>
    rw [firstIndicator?]
    by_cases weak : weakens argument rest.head? = true
    · rw [if_pos weak]
      have here := weakensAt_zero.mpr weak
      constructor
      · intro same
        exact ⟨0, ⟨here, fun earlier before => absurd before (Nat.not_lt_zero _)⟩, same⟩
      · rintro ⟨place, first, spelled⟩
        cases place with
        | zero => exact spelled
        | succ place => exact absurd here (first.before 0 (Nat.succ_pos place))
    · rw [if_neg weak, inductionHypothesis]
      constructor
      · rintro ⟨place, first, spelled⟩
        refine ⟨place + 1, ⟨weakensAt_succ.mpr first.here, ?_⟩, spelled⟩
        intro earlier before
        cases earlier with
        | zero => exact fun here => weak (weakensAt_zero.mp here)
        | succ earlier =>
          intro weakened
          exact first.before earlier (Nat.lt_of_succ_lt_succ before) (weakensAt_succ.mp weakened)
      · rintro ⟨place, first, spelled⟩
        cases place with
        | zero => exact absurd (weakensAt_zero.mp first.here) weak
        | succ place =>
          refine ⟨place, ⟨weakensAt_succ.mp first.here, ?_⟩, spelled⟩
          intro earlier before weakened
          exact first.before (earlier + 1) (Nat.succ_lt_succ before) (weakensAt_succ.mpr weakened)

/-- The guard finds nothing exactly where nothing weakens the isolation. -/
theorem firstIndicator?_eq_none_iff {arguments : List String} :
    firstIndicator? arguments = none ↔ ∀ place, ¬ WeakensAt arguments place := by
  induction arguments with
  | nil =>
    refine iff_of_true rfl fun place weakened => ?_
    obtain ⟨flag, -, value, stands, -⟩ := weakened
    cases stands with
    | alone spelled => simp at spelled
    | valued spelled => simp at spelled
  | cons argument rest inductionHypothesis =>
    rw [firstIndicator?]
    by_cases weak : weakens argument rest.head? = true
    · rw [if_pos weak]
      refine iff_of_false (by simp) fun clean => ?_
      exact clean 0 (weakensAt_zero.mpr weak)
    · rw [if_neg weak, inductionHypothesis]
      constructor
      · intro clean place
        cases place with
        | zero => exact fun here => weak (weakensAt_zero.mp here)
        | succ place => exact fun here => clean place (weakensAt_succ.mp here)
      · intro clean place here
        exact clean (place + 1) (weakensAt_succ.mpr here)

/-- A flag that needs no next argument to be harmful is harmful in front of any. -/
theorem weakens_of_none {argument : String} (weak : weakens argument none = true)
    (next : Option String) : weakens argument next = true := by
  obtain ⟨flag, listed, named, harmful⟩ := weakens_iff.mp weak
  refine weakens_iff.mpr ⟨flag, listed, named, ?_⟩
  cases inline : (splitValue argument.toList).2 with
  | none =>
    rw [inline] at harmful
    rcases harmful with any | required
    · exact .inl any
    · exact .inl required.symm
  | some value =>
    rw [inline] at harmful
    exact harmful

/-- What was found is found with further arguments behind. Only the last argument could get a next
one that it had not, and it does not need it. -/
theorem firstIndicator?_append {arguments : List String} {indicator : String}
    (found : firstIndicator? arguments = some indicator) (more : List String) :
    firstIndicator? (arguments ++ more) = some indicator := by
  induction arguments with
  | nil => cases found
  | cons argument rest inductionHypothesis =>
    rw [firstIndicator?] at found
    rw [List.cons_append, firstIndicator?]
    cases rest with
    | nil =>
      -- Only the last argument gets a new neighbour, and it was harmful without one.
      by_cases weak : weakens argument none = true
      · rw [List.head?_nil, if_pos weak] at found
        rw [if_pos (weakens_of_none weak _)]
        exact found
      · rw [List.head?_nil, if_neg weak] at found
        cases found
    | cons second others =>
      rw [List.head?_cons] at found
      rw [List.cons_append, List.head?_cons]
      by_cases weak : weakens argument (some second) = true
      · rw [if_pos weak] at found ⊢
        exact found
      · rw [if_neg weak] at found ⊢
        exact inductionHypothesis found

/-! ## The case of letters -/

/-- A letter of ASCII in one of its two cases, or another character as it is. -/
inductive CaseVariant : Char → Char → Prop
  | same (character : Char) : CaseVariant character character
  | lowered (character : Char) : CaseVariant character character.toLower
  | raised (character : Char) : CaseVariant character character.toUpper

/-- A character and another one are variants of case if the latter is the former, its small or its
capital letter. The relation is said of codes; this is how it is decided. -/
theorem caseVariant_iff {character other : Char} : CaseVariant character other ↔
    other = character ∨ other = character.toLower ∨ other = character.toUpper := by
  constructor
  · intro variant
    cases variant with
    | same => exact .inl rfl
    | lowered => exact .inr (.inl rfl)
    | raised => exact .inr (.inr rfl)
  · rintro (rfl | rfl | rfl)
    · exact .same other
    · exact .lowered character
    · exact .raised character

instance (character other : Char) : Decidable (CaseVariant character other) :=
  decidable_of_iff _ caseVariant_iff.symm

/-- Two texts that differ in the case of letters only. -/
def Recased (text other : String) : Prop := List.Forall₂ CaseVariant text.toList other.toList

/-- A text is recased if as many characters stand in the same places, each a variant of the one
there. -/
theorem recased_iff {text other : String} : Recased text other ↔
    text.toList.length = other.toList.length ∧
      ∀ pair ∈ text.toList.zip other.toList, CaseVariant pair.1 pair.2 := by
  rw [Recased, List.forall₂_iff_zip]
  exact ⟨fun ⟨same, variants⟩ => ⟨same, fun _ inside => variants inside⟩,
    fun ⟨same, variants⟩ => ⟨same, fun inside => variants _ inside⟩⟩

instance (text other : String) : Decidable (Recased text other) :=
  decidable_of_iff _ recased_iff.symm

/-- Lowering a small letter changes nothing. -/
theorem toLower_toLower (character : Char) :
    character.toLower.toLower = character.toLower := by
  unfold Char.toLower
  split
  · next upper =>
    rw [dif_neg]
    intro again
    simp only [ge_iff_le, UInt32.le_iff_toNat_le, UInt32.toNat_add] at upper again
    simp at upper again
    omega
  · rfl

/-- A letter that was made a capital is lowered to its small letter. -/
theorem toLower_toUpper (character : Char) :
    character.toUpper.toLower = character.toLower := by
  unfold Char.toUpper
  split
  · next small =>
    have notUpper : ¬ (character.val ≥ 'A'.val ∧ character.val ≤ 'Z'.val) := by
      simp only [ge_iff_le, UInt32.le_iff_toNat_le] at small ⊢
      simp at small ⊢
      omega
    apply Char.ext
    unfold Char.toLower
    rw [dif_neg notUpper, dif_pos]
    · show character.val + ('A'.val - 'a'.val) + ('a'.val - 'A'.val) = character.val
      rw [UInt32.add_assoc]
      simp
    · simp only [ge_iff_le, UInt32.le_iff_toNat_le, UInt32.toNat_add] at small ⊢
      simp at small ⊢
      omega
  · rfl

/-- Variants of case have one small letter. -/
theorem CaseVariant.toLower_eq {character other : Char} (variant : CaseVariant character other) :
    other.toLower = character.toLower := by
  cases variant with
  | same => rfl
  | lowered => exact toLower_toLower character
  | raised => exact toLower_toUpper character

/-- Recased texts are the same in lower case. -/
theorem Recased.lower_eq {text other : String} (recased : Recased text other) :
    lower other = lower text := by
  have small : ∀ {characters others : List Char}, List.Forall₂ CaseVariant characters others →
      others.map Char.toLower = characters.map Char.toLower := by
    intro characters others variants
    induction variants with
    | nil => rfl
    | cons variant _ inductionHypothesis =>
      rw [List.map_cons, List.map_cons, variant.toLower_eq, inductionHypothesis]
  rw [lower, lower, small recased]

/-- So are recased arguments, one by one. -/
theorem map_lower_eq {arguments others : List String}
    (recased : List.Forall₂ Recased arguments others) :
    others.map lower = arguments.map lower := by
  induction recased with
  | nil => rfl
  | cons variant _ inductionHypothesis =>
    rw [List.map_cons, List.map_cons, variant.lower_eq, inductionHypothesis]

/-! ## Commands -/

/-- The guard refuses a command for the argument that it finds among those in lower case, and for no
other reason. -/
theorem checkBreakout_eq_error_iff {command : Command} {error : SandboxError} :
    checkBreakout command = .error error ↔ ∃ indicator,
      firstIndicator? (command.arguments.map lower) = some indicator ∧
        error = .breakoutIndicator indicator := by
  unfold checkBreakout
  cases firstIndicator? (command.arguments.map lower) with
  | none => simp
  | some found => simp [eq_comm]

/-- A command passes exactly when its isolation is weakened at no place. -/
theorem checkBreakout_eq_ok_iff {command : Command} :
    checkBreakout command = .ok () ↔
      ∀ place, ¬ WeakensAt (command.arguments.map lower) place := by
  rw [← firstIndicator?_eq_none_iff, checkBreakout]
  cases firstIndicator? (command.arguments.map lower) with
  | none => simp
  | some found => simp

/-- The guard decides about the arguments behind the program, their letters in lower case, so
commands that agree in these are answered alike. -/
theorem checkBreakout_congr {command other : Command}
    (same : other.arguments.map lower = command.arguments.map lower) :
    checkBreakout other = checkBreakout command := by
  rw [checkBreakout, checkBreakout, same]

/-- Appending arguments to a command that is refused leaves the answer as it is: the first indicator
stays the first. -/
theorem checkBreakout_append {command : Command} {error : SandboxError}
    (refused : checkBreakout command = .error error) (more : List String) :
    checkBreakout ⟨command.argv ++ more⟩ = .error error := by
  obtain ⟨indicator, found, rfl⟩ := checkBreakout_eq_error_iff.mp refused
  refine checkBreakout_eq_error_iff.mpr ⟨indicator, ?_, rfl⟩
  have behind : (Command.mk (command.argv ++ more)).arguments = command.arguments ++ more := by
    cases command with
    | mk argv =>
      cases argv with
      | nil => cases found
      | cons program arguments => rfl
  rw [behind, List.map_append]
  exact firstIndicator?_append found _

/-- A command is refused exactly when its isolation is weakened at some place behind the program,
and the argument at the first such place is named, in lower case. The answer stays the same with
another program, with letters in another case, and for a command that is refused also with
further arguments. -/
theorem refuses_iff_weakened (command : Command) :
    let arguments := command.arguments.map lower
    ((∃ error, checkBreakout command = .error error) ↔ ∃ place, WeakensAt arguments place) ∧
    (∀ error, checkBreakout command = .error error ↔
      ∃ place indicator, FirstWeakensAt arguments place ∧
        arguments[place]? = some indicator ∧ error = .breakoutIndicator indicator) ∧
    (∀ other : Command, List.Forall₂ Recased command.arguments other.arguments →
      checkBreakout other = checkBreakout command) ∧
    (∀ error more, checkBreakout command = .error error →
      checkBreakout ⟨command.argv ++ more⟩ = .error error) := by
  intro arguments
  refine ⟨?refused, ?named, ?recased, fun error more refused => checkBreakout_append refused more⟩
  case refused =>
    constructor
    · rintro ⟨error, refused⟩
      obtain ⟨indicator, found, -⟩ := checkBreakout_eq_error_iff.mp refused
      obtain ⟨place, first, -⟩ := firstIndicator?_eq_some_iff.mp found
      exact ⟨place, first.here⟩
    · rintro ⟨place, weakened⟩
      cases checked : checkBreakout command with
      | ok passed => exact absurd weakened (checkBreakout_eq_ok_iff.mp checked place)
      | error error => exact ⟨error, rfl⟩
  case named =>
    intro error
    rw [checkBreakout_eq_error_iff]
    constructor
    · rintro ⟨indicator, found, same⟩
      obtain ⟨place, first, spelled⟩ := firstIndicator?_eq_some_iff.mp found
      exact ⟨place, indicator, first, spelled, same⟩
    · rintro ⟨place, indicator, first, spelled, same⟩
      exact ⟨indicator, firstIndicator?_eq_some_iff.mpr ⟨place, first, spelled⟩, same⟩
  case recased =>
    intro other recased
    exact checkBreakout_congr (map_lower_eq recased)

/-- The network of the host as a next argument, in capitals: the flag is named in lower case, also
for another program with the case of all letters changed, and in front of a worse flag. -/
theorem refuses_iff_weakened_separated :
    let refusal := SandboxError.breakoutIndicator "--network"
    checkBreakout ⟨["docker", "run", "--Network", "HOST"]⟩ = .error refusal ∧
      checkBreakout ⟨["podman", "RUN", "--NETWORK", "Host"]⟩ = .error refusal ∧
      checkBreakout ⟨["docker", "run", "--Network", "HOST", "--privileged"]⟩ = .error refusal := by
  intro refusal
  obtain ⟨-, named, recased, appended⟩ :=
    refuses_iff_weakened ⟨["docker", "run", "--Network", "HOST"]⟩
  have first : FirstWeakensAt ["run", "--network", "host"] 1 := by
    refine ⟨⟨⟨"--network", some "host"⟩, by decide, _, .alone rfl, .inr rfl⟩, ?_⟩
    intro earlier before
    obtain rfl : earlier = 0 := by omega
    rw [weakensAt_zero]
    decide
  have refused := (named refusal).mpr ⟨1, "--network", first, rfl, rfl⟩
  refine ⟨refused, ?_, appended refusal ["--privileged"] refused⟩
  have variants : List.Forall₂ Recased ["run", "--Network", "HOST"] ["RUN", "--NETWORK", "Host"] :=
    .cons (by decide) (.cons (by decide) (.cons (by decide) .nil))
  rw [recased ⟨["podman", "RUN", "--NETWORK", "Host"]⟩ variants]
  exact refused

end Guard

end Gatehouse
