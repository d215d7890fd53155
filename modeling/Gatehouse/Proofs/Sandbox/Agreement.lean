import Gatehouse.Proofs.Sandbox.Container

/-!
# Builders and the guard

Whether a command is harmless is decided twice: by the builder, which fixes every option
of a container and checks the settings that fill the others, and by the guard, which
looks for flags in the finished command. The two agree about everything but one name: a
builder compares the profile with `unconfined` as it is spelled, and the guard in lower
case. No task, target, digest or image makes the guard refuse what was built, and it
never refuses a removal.
-/

namespace Gatehouse

namespace Guard

/-! ## One option -/

/-- An option that the guard lets pass in front of anything: no listed flag, or one whose own value
is not the harmful one. -/
def Harmless (option : String × Option String) : Prop :=
  ∀ flag ∈ weakeningFlags, lower option.1 = flag.name →
    flag.value ≠ none ∧ option.2 ≠ none ∧ option.2.map lower ≠ flag.value

instance (option : String × Option String) : Decidable (Harmless option) :=
  inferInstanceAs (Decidable (∀ flag ∈ weakeningFlags, _))

/-- Lowering a letter gives a small letter, and changes nothing else: where no small letter comes
out, nothing was changed. -/
theorem eq_of_toLower_eq {character lowered : Char} (same : character.toLower = lowered)
    (notSmall : lowered.toNat < 97) : character = lowered := by
  subst same
  unfold Char.toLower at notSmall ⊢
  split at notSmall
  · next upper =>
    simp only [ge_iff_le, UInt32.le_iff_toNat_le] at upper
    simp only [Char.toNat, UInt32.toNat_add] at notSmall
    simp at upper notSmall
    omega
  · next notUpper => rw [dif_neg notUpper]

/-- A text that is appended does not change how one begins. -/
theorem head?_append {front : String} {first : Char} (begins : front.toList.head? = some first)
    (back : String) : (front ++ back).toList.head? = some first := by
  rw [String.toList_append, List.head?_append, begins, Option.some_or]

/-- A text is lowered part by part. -/
theorem lower_append (front back : String) : lower (front ++ back) = lower front ++ lower back := by
  rw [lower, String.toList_append, List.map_append, String.ofList_append, lower, lower]

/-- Lowering an argument lowers its name and its value, because neither the sign between them nor
what could be taken for it changes. -/
theorem splitValue_lower (argument : List Char) :
    splitValue (argument.map Char.toLower) =
      (lower (splitValue argument).1, (splitValue argument).2.map lower) := by
  have sign (character : Char) :
      decide (character.toLower ≠ '=') = decide (character ≠ '=') := by
    refine decide_eq_decide.mpr (not_congr ⟨fun same => eq_of_toLower_eq same (by decide), ?_⟩)
    rintro rfl
    rfl
  have inName : (fun character => decide (character ≠ '=')) ∘ Char.toLower =
      fun character => decide (character ≠ '=') := funext sign
  unfold splitValue
  rw [List.takeWhile_map, List.dropWhile_map, inName]
  cases argument.dropWhile (fun character => decide (character ≠ '=')) with
  | nil => simp [lower]
  | cons sign value => simp [lower]

/-- A name that begins with no hyphen is no flag. -/
theorem harmless_of_plain {argument : String} (plain : argument.toList.head? ≠ some '-') :
    Harmless (splitValue argument.toList) := by
  have hyphens : ∀ flag ∈ weakeningFlags, flag.name.toList.head? = some '-' := by decide
  intro flag listed same
  have begins := hyphens flag listed
  rw [← same, lower, String.toList_ofList, List.head?_map, Option.map_eq_some_iff] at begins
  obtain ⟨first, found, lowered⟩ := begins
  rw [eq_of_toLower_eq lowered (by decide)] at found
  exact absurd found (head?_splitValue_ne plain)

/-- An argument that is harmless as it is spelled is harmless in lower case, which the guard looks
at. -/
theorem weakens_eq_false {argument : String} (harmless : Harmless (splitValue argument.toList))
    (next : Option String) : weakens (lower argument) next = false := by
  refine Bool.eq_false_iff.mpr fun weak => ?_
  obtain ⟨flag, listed, named, harmful⟩ := weakens_iff.mp weak
  rw [lower, String.toList_ofList, splitValue_lower] at named harmful
  obtain ⟨needsValue, hasValue, otherValue⟩ := harmless flag listed named
  obtain ⟨value, inline⟩ := Option.ne_none_iff_exists'.mp hasValue
  rw [inline] at harmful otherValue
  rcases harmful with any | required
  · exact needsValue any
  · exact otherValue required

/-- A command of harmless options passes, in whatever order they stand. -/
theorem checkBreakout_of_harmless {command : Command}
    (harmless : ∀ option ∈ command.options, Harmless option) : checkBreakout command = .ok () := by
  have none (arguments : List String)
      (each : ∀ argument ∈ arguments, Harmless (splitValue argument.toList)) :
      firstIndicator? (arguments.map lower) = none := by
    induction arguments with
    | nil => rfl
    | cons argument rest inductionHypothesis =>
      obtain ⟨here, behind⟩ := List.forall_mem_cons.mp each
      rw [List.map_cons, firstIndicator?, weakens_eq_false here, if_neg Bool.false_ne_true]
      exact inductionHypothesis behind
  have found := none command.arguments fun argument inside =>
    harmless _ (List.mem_map_of_mem inside)
  rw [checkBreakout, found]

end Guard

namespace Sandbox

variable {settings : SandboxSettings} {tool : RegistryEntry} {claims : TaskClaims}

/-- Containers without a profile, for the guard: the name of the profile says so in letters of any
case. -/
def Unconfined (settings : SandboxSettings) : Prop :=
  settings.backend = .docker ∧ Guard.lower settings.apparmorProfile = "unconfined"

/-! ## What is built -/

/-- The profile of a container is harmless unless it is called unconfined. -/
theorem harmless_profile (confined : Guard.lower settings.apparmorProfile ≠ "unconfined") :
    Guard.Harmless ("--security-opt", some ("apparmor=" ++ settings.apparmorProfile)) := by
  have values : ∀ flag ∈ Guard.weakeningFlags, Guard.lower "--security-opt" = flag.name →
      flag.value = some "seccomp=unconfined" ∨ flag.value = some ("apparmor=" ++ "unconfined") := by
    decide
  have lowered : Guard.lower ("apparmor=" ++ settings.apparmorProfile) =
      "apparmor=" ++ Guard.lower settings.apparmorProfile := Guard.lower_append _ _
  intro flag listed same
  rw [Option.map_some, lowered]
  rcases values flag listed same with value | value
  · rw [value]
    refine ⟨Option.some_ne_none _, Option.some_ne_none _, fun equal => ?_⟩
    have first := congrArg (fun text => text.toList.head?) (Option.some.inj equal)
    rw [Guard.head?_append (rfl : "apparmor=".toList.head? = some 'a')] at first
    exact absurd first (by decide)
  · rw [value]
    refine ⟨Option.some_ne_none _, Option.some_ne_none _, fun equal => confined ?_⟩
    exact (String.append_right_inj _).mp (Option.some.inj equal)

/-- The profile is the only option of a container that the guard can object to. All others are
fixed, or hold numbers and identifiers, and the image is no option. -/
theorem checkBreakout_container (plain : tool.imageRef.toList.head? ≠ some '-')
    (confined : Guard.lower settings.apparmorProfile ≠ "unconfined") :
    checkBreakout ⟨containerArguments settings tool claims⟩ = .ok () := by
  refine Guard.checkBreakout_of_harmless ?_
  have unlisted (name : String) (value : Option String)
      (differs : ∀ flag ∈ Guard.weakeningFlags, Guard.lower name ≠ flag.name) :
      Guard.Harmless (name, value) := fun flag listed same => absurd same (differs flag listed)
  have profile : Guard.Harmless
      ("--security-opt", some ("apparmor=" ++ settings.apparmorProfile)) :=
    harmless_profile confined
  rw [options_container]
  simp only [List.forall_mem_cons]
  exact ⟨unlisted _ _ (by decide), unlisted _ _ (by decide), unlisted _ _ (by decide),
    by decide, unlisted _ _ (by decide), by decide, profile, unlisted _ _ (by decide),
    unlisted _ _ (by decide), unlisted _ _ (by decide), unlisted _ _ (by decide),
    unlisted _ _ (by decide), unlisted _ _ (by decide), unlisted _ _ (by decide),
    unlisted _ _ (by decide), Guard.harmless_of_plain plain, List.forall_mem_nil _⟩

/-- With a profile called unconfined, the guard names that profile: nothing in front of it is
objectionable, and what stands behind it is not reached. -/
theorem checkBreakout_unconfined
    (unconfined : Guard.lower settings.apparmorProfile = "unconfined") :
    checkBreakout ⟨containerArguments settings tool claims⟩ =
      .error (.breakoutIndicator "--security-opt=apparmor=unconfined") := by
  have profile : Guard.lower ("--security-opt=apparmor=" ++ settings.apparmorProfile) =
      "--security-opt=apparmor=unconfined" := by
    rw [Guard.lower_append, unconfined]
    rfl
  have found : Guard.firstIndicator? ["run", "--rm", "--read-only", "--network=none",
      "--cap-drop=all", "--security-opt=no-new-privileges:true",
      "--security-opt=apparmor=unconfined"] = some "--security-opt=apparmor=unconfined" := by
    decide +kernel
  have front : ((containerArguments settings tool claims).tail.take 7).map Guard.lower =
      ["run", "--rm", "--read-only", "--network=none", "--cap-drop=all",
        "--security-opt=no-new-privileges:true", "--security-opt=apparmor=unconfined"] := by
    rw [← profile]
    rfl
  have whole := List.take_append_drop 7 (containerArguments settings tool claims).tail
  rw [Guard.checkBreakout_eq_error_iff]
  refine ⟨_, ?_, rfl⟩
  rw [Command.arguments, ← whole, List.map_append, front]
  exact Guard.firstIndicator?_append found _

/-- What is echoed begins with a letter, so it is no option. -/
theorem checkBreakout_simulated {command : Command}
    (built : simulated.build tool claims = .ok command) : checkBreakout command = .ok () := by
  cases built
  refine Guard.checkBreakout_of_harmless fun option inside => ?_
  obtain ⟨argument, only, rfl⟩ := List.mem_map.mp inside
  obtain rfl := List.mem_singleton.mp only
  apply Guard.harmless_of_plain
  rw [String.append_assoc, String.append_assoc,
    Guard.head?_append (rfl : "firecracker_simulated:".toList.head? = some 'f')]
  decide

/-- A removal names a container, whose name is an identifier, and the flag for force is not
listed. -/
theorem checkBreakout_teardown {command : Command}
    (removed : (docker settings).teardown tool claims = some command) :
    checkBreakout command = .ok () := by
  cases removed
  refine Guard.checkBreakout_of_harmless ?_
  have plain : (containerName claims.taskId).toList.head? ≠ some '-' := by
    rw [head?_containerName]
    decide
  simp only [Command.options, Command.arguments, List.tail_cons, List.map_cons, List.map_nil,
    List.forall_mem_cons]
  exact ⟨by decide, by decide, Guard.harmless_of_plain plain, List.forall_mem_nil _⟩

/-- Whatever task, target, digest and image it is given, a builder that was accepted makes commands
that pass the guard, and only such for removals. The one exception is a profile whose name says
unconfined in other letters than the builder looks for: then every command is refused for it. -/
theorem passes_guard_iff_confined {builder : Builder}
    (accepted : Sandbox.builder settings = .ok builder) (tool : RegistryEntry)
    (claims : TaskClaims) :
    (∀ command, builder.build tool claims = .ok command →
      (checkBreakout command = .ok () ↔ ¬ Unconfined settings) ∧
      ∀ error, checkBreakout command = .error error →
        error = .breakoutIndicator "--security-opt=apparmor=unconfined" ∧
          settings.apparmorProfile ≠ "unconfined") ∧
    ∀ command, builder.teardown tool claims = some command → checkBreakout command = .ok () := by
  cases kind : settings.backend with
  | simulate =>
    obtain rfl : simulated = builder := by
      rw [Sandbox.builder, kind] at accepted
      exact Except.ok.inj accepted
    refine ⟨fun command built => ?_, fun command removed => by cases removed⟩
    have passed := checkBreakout_simulated built
    refine ⟨iff_of_true passed fun unconfined => ?_, fun error refused => ?_⟩
    · cases kind.symm.trans unconfined.1
    · cases passed.symm.trans refused
  | docker =>
    have whole : { settings with backend := .docker } = settings := by rw [← kind]
    obtain ⟨usable, rfl⟩ := builder_docker_iff.mp (whole.symm ▸ accepted)
    refine ⟨fun command built => ?_, fun command => checkBreakout_teardown⟩
    obtain ⟨launched, rfl⟩ := of_build_docker built
    have plain := head?_of_not_refused launched
    by_cases unconfined : Guard.lower settings.apparmorProfile = "unconfined"
    · have refused := @checkBreakout_unconfined settings tool claims unconfined
      refine ⟨iff_of_false ?_ (not_not_intro ⟨kind, unconfined⟩), fun error failed => ?_⟩
      · intro passed
        cases refused.symm.trans passed
      · rw [refused] at failed
        exact ⟨(Except.error.inj failed).symm, usable.confined⟩
    · have passed := @checkBreakout_container settings tool claims plain unconfined
      refine ⟨iff_of_true passed fun both => unconfined both.2, fun error failed => ?_⟩
      cases passed.symm.trans failed

/-- Under the profile that containers have by default, a task called like a flag passes. -/
theorem passes_guard_iff_confined_default :
    let tool : RegistryEntry := ⟨"scan", "scan:1", "sha256:def", "", "", [], [], true⟩
    let claims : TaskClaims := ⟨⟨"--privileged", "n", "", "", ""⟩, "--network", "d", "", [], "", ""⟩
    ∃ builder, Sandbox.builder { backend := .docker } = .ok builder ∧
      (∃ command, builder.build tool claims = .ok command ∧ checkBreakout command = .ok ()) ∧
      ∃ command, builder.teardown tool claims = some command ∧ checkBreakout command = .ok () := by
  intro tool claims
  have accepted : Sandbox.builder { backend := .docker } =
      .ok (docker { backend := .docker }) := rfl
  obtain ⟨built, removed⟩ := passes_guard_iff_confined accepted tool claims
  have confined : ¬ Unconfined { backend := .docker } := fun both => absurd both.2 (by decide)
  have plain : ¬ Refused tool.imageRef := by
    rw [← isPlainImageRef_eq_false_iff]
    decide
  have launched := @build_docker_of_not_refused { backend := .docker } tool claims plain
  exact ⟨_, accepted, ⟨_, launched, (built _ launched).1.mpr confined⟩, _, rfl, removed _ rfl⟩

/-- A profile with a capital letter is accepted, and what is built with it does not pass. -/
theorem accepted_profile_refused :
    let settings : SandboxSettings := { backend := .docker, apparmorProfile := "Unconfined" }
    let tool : RegistryEntry := ⟨"scan", "scan:1", "sha256:def", "", "", [], [], true⟩
    let claims : TaskClaims := ⟨⟨"t", "n", "", "", ""⟩, "u", "d", "", [], "", ""⟩
    ∃ builder command, Sandbox.builder settings = .ok builder ∧
      builder.build tool claims = .ok command ∧
      checkBreakout command = .error (.breakoutIndicator "--security-opt=apparmor=unconfined") := by
  intro settings tool claims
  have plain : ¬ Refused tool.imageRef := by
    rw [← isPlainImageRef_eq_false_iff]
    decide
  have unconfined : Guard.lower settings.apparmorProfile = "unconfined" := by decide
  have usable : Usable settings := invalidSetting?_eq_none_iff.mp (by decide +kernel)
  have accepted : Sandbox.builder settings = .ok (docker settings) :=
    (@builder_docker_iff settings _).mpr ⟨usable, rfl⟩
  exact ⟨docker settings, _, accepted, build_docker_of_not_refused plain,
    checkBreakout_unconfined unconfined⟩

end Sandbox

end Gatehouse
