import Gatehouse.Proofs.Sandbox.Guard
import Gatehouse.Proofs.Sandbox.Identifier
import Gatehouse.Proofs.Sandbox.Validation

/-!
# The command line of a container

A builder of containers makes one kind of command line. Behind the program and the word
`run` stand the same options in the same order, and the image behind them is the only
argument that is no option. Every option that isolates the container is there once, with
a fixed value or one that was set; what comes from a task is seen in three arguments
only, and there as identifiers. The one reason to build nothing is the reference to the
image.
-/

namespace Gatehouse.Sandbox

variable {settings : SandboxSettings} {tool : RegistryEntry} {claims : TaskClaims}

/-- The options of a container in their order. -/
def optionNames : List String := [
  "--rm", "--read-only", "--network", "--cap-drop", "--security-opt", "--security-opt",
  "--runtime", "--pids-limit", "--memory", "--tmpfs", "--name", "--label", "--env", "--env"]

/-- A command line is the program, the word `run`, the options in their order, and an image, which
is the only argument behind that word that is no option. -/
structure InOrder (program image : String) (command : Command) : Prop where
  layout : ∃ flags, command.argv = program :: "run" :: (flags ++ [image]) ∧
    flags.map (fun flag => (Guard.splitValue flag.toList).1) = optionNames ∧
    ∀ flag ∈ flags, ∃ rest, flag = "--" ++ rest
  positional : image.toList.head? ≠ some '-'

/-- Each option that isolates a container is given once, and none of them is given otherwise. -/
structure Isolated (settings : SandboxSettings) (command : Command) : Prop where
  removed : command.valuesOf "--rm" = [none]
  readOnly : command.valuesOf "--read-only" = [none]
  network : command.valuesOf "--network" = [some "none"]
  capabilities : command.valuesOf "--cap-drop" = [some "ALL"]
  security : command.valuesOf "--security-opt" =
    [some "no-new-privileges:true", some ("apparmor=" ++ settings.apparmorProfile)]
  runtime : command.valuesOf "--runtime" = [some settings.runtime]
  processes : command.valuesOf "--pids-limit" = [some (toString settings.pidsLimit.toNat)]
  memory : command.valuesOf "--memory" = [some (toString settings.memoryMb.toNat ++ "m")]
  scratch : command.valuesOf "--tmpfs" = [some "/tmp:rw,noexec,nosuid,size=64m"]

/-- What a command line says of a task are identifiers: the name of the container, and the
identifier that the task and the target are each made into. Of a digest it says the front, sixteen
characters long or as long as the digest is. -/
structure Described (claims : TaskClaims) (digest : String) (command : Command) : Prop where
  name : command.valuesOf "--name" = [some (containerName claims.taskId)]
  nameIdentifies : IsIdentifier (containerName claims.taskId)
  environment : command.valuesOf "--env" =
    [some ("TOLLGATE_TASK_ID=" ++ sanitize claims.taskId),
      some ("TOLLGATE_TARGET_URN=" ++ sanitize claims.targetUrn)]
  environmentIdentifies : IsIdentifier (sanitize claims.taskId) ∧
    IsIdentifier (sanitize claims.targetUrn)
  label : ∃ shown rest, command.valuesOf "--label" = [some ("io.tollgate.tool-digest=" ++ shown)] ∧
    digest = shown ++ rest ∧ shown.length = min 16 digest.length

/-- The options that describe a task. -/
def taskOptions : List String := ["--name", "--env"]

/-- An argument describes the task when it is such an option. -/
def DescribesTask (argument : String) : Prop :=
  (Guard.splitValue argument.toList).1 ∈ taskOptions

/-- Two command lines differ at a place only if the argument there describes the task. -/
def DifferInDescription (command other : Command) : Prop :=
  ∀ place : Nat, other.argv[place]? ≠ command.argv[place]? →
    ∃ argument : String, command.argv[place]? = some argument ∧ DescribesTask argument

/-! ## The builder of containers -/

/-- Containers are built exactly with usable settings, and by one builder. The backend is set here,
so the settings are those of a file that may ask for another one. -/
theorem builder_docker_iff {builder : Builder} :
    Sandbox.builder { settings with backend := .docker } = .ok builder ↔
      Usable settings ∧ builder = docker settings := by
  have sameSetting : invalidSetting? { settings with backend := .docker } =
      invalidSetting? settings := rfl
  rw [← invalidSetting?_eq_none_iff, Sandbox.builder]
  simp only [sameSetting]
  cases invalidSetting? settings with
  | none =>
    constructor
    · intro accepted
      exact ⟨rfl, (Except.ok.inj accepted).symm⟩
    · rintro ⟨-, rfl⟩
      rfl
  | some setting => simp

/-- Nothing is built where the reference to the image is refused. -/
theorem build_docker_of_refused (refused : Refused tool.imageRef) :
    (docker settings).build tool claims = .error .invalidImageRef := by
  have notPlain := isPlainImageRef_eq_false_iff.mpr refused
  exact if_neg (by rw [notPlain]; exact Bool.false_ne_true)

/-- Otherwise the command line of a container is built, whatever the task is. -/
theorem build_docker_of_not_refused (launched : ¬ Refused tool.imageRef) :
    (docker settings).build tool claims = .ok ⟨containerArguments settings tool claims⟩ := by
  have plain : isPlainImageRef tool.imageRef = true := by
    rw [← Bool.not_eq_false, isPlainImageRef_eq_false_iff]
    exact launched
  exact if_pos plain

/-- What is built for a container is its command line, and its image is not refused, as nothing
would be built then. -/
theorem of_build_docker {command : Command}
    (built : (docker settings).build tool claims = .ok command) :
    ¬ Refused tool.imageRef ∧ command = ⟨containerArguments settings tool claims⟩ := by
  have launched : ¬ Refused tool.imageRef := by
    intro refused
    cases (build_docker_of_refused refused).symm.trans built
  exact ⟨launched, Except.ok.inj (built.symm.trans (build_docker_of_not_refused launched))⟩

/-! ## Its command line -/

/-- An image that is not refused is taken for no option. -/
theorem head?_of_not_refused {reference : String} (launched : ¬ Refused reference) :
    reference.toList.head? ≠ some '-' := fun hyphen => launched (.flag hyphen)

/-- The command line of a container is in order. Its options are known one by one, and each begins
with two hyphens, because its name does. -/
theorem inOrder_container (plain : tool.imageRef.toList.head? ≠ some '-') :
    InOrder settings.dockerBin tool.imageRef ⟨containerArguments settings tool claims⟩ := by
  let flags := ((containerArguments settings tool claims).drop 2).dropLast
  have names : flags.map (fun flag => (Guard.splitValue flag.toList).1) = optionNames :=
    congrArg (fun options => ((options.drop 1).dropLast).map Prod.fst)
      (@options_container settings tool claims)
  refine ⟨⟨flags, rfl, names, ?dashes⟩, plain⟩
  case dashes =>
    intro flag inside
    have known : (Guard.splitValue flag.toList).1 ∈ optionNames :=
      names ▸ List.mem_map_of_mem inside
    have dashes : ∀ name ∈ optionNames, name = "--" ++ String.ofList (name.toList.drop 2) := by
      decide
    cases parts : Guard.splitValue flag.toList with
    | mk name inline =>
      rw [parts] at known
      have begins := dashes name known
      rcases Guard.eq_of_splitValue parts with ⟨-, same⟩ | ⟨value, -, same⟩
      · exact ⟨_, same.trans begins⟩
      · refine ⟨String.ofList (name.toList.drop 2) ++ "=" ++ value, ?_⟩
        rw [same, ← String.append_assoc, ← String.append_assoc, ← begins]

/-- The command line of a container isolates it: of each option the values are counted among all
options, and the image cannot be one of them. -/
theorem isolated_container (plain : tool.imageRef.toList.head? ≠ some '-') :
    Isolated settings ⟨containerArguments settings tool claims⟩ := by
  constructor <;> rw [valuesOf_container plain rfl, options_container] <;> rfl

/-- Whatever a task is called, its container is described by identifiers. The options are known one
by one, and what stands in them went through the functions that make identifiers. -/
theorem described_container (plain : tool.imageRef.toList.head? ≠ some '-') :
    Described claims tool.toolDigest ⟨containerArguments settings tool claims⟩ where
  name := by
    rw [valuesOf_container plain rfl, options_container]
    rfl
  nameIdentifies := isIdentifier_containerName _
  environment := by
    rw [valuesOf_container plain rfl, options_container]
    rfl
  environmentIdentifies := ⟨isIdentifier_sanitize _, isIdentifier_sanitize _⟩
  label := by
    obtain ⟨rest, front⟩ := digestPrefix_append tool.toolDigest
    refine ⟨digestPrefix tool.toolDigest, rest, ?_, front, length_digestPrefix _⟩
    rw [valuesOf_container plain rfl, options_container]
    rfl

/-- An argument that begins with an option for the task and an equals sign describes the task,
whatever the value is. -/
theorem describesTask_append {opening : String} (name begun : String)
    (same : opening = name ++ "=" ++ begun) (known : name ∈ taskOptions) (value : String) :
    DescribesTask (opening ++ value) := by
  have free : ∀ option ∈ taskOptions, '=' ∉ option.toList := by decide
  rw [DescribesTask, same, String.append_assoc, Guard.splitValue_append (free name known)]
  exact known

/-- Where arguments agree but for those that describe a task, so do their places. By induction on
the arguments. -/
theorem describesTask_of_differs {arguments others : List String}
    (alike : List.Forall₂ (fun argument replaced => replaced = argument ∨ DescribesTask argument)
      arguments others) (place : Nat) (differs : others[place]? ≠ arguments[place]?) :
    ∃ argument, arguments[place]? = some argument ∧ DescribesTask argument := by
  induction alike generalizing place with
  | nil => exact absurd rfl differs
  | @cons argument replaced _ _ first _ inductionHypothesis =>
    cases place with
    | zero =>
      rcases first with rfl | describes
      · exact absurd rfl differs
      · exact ⟨argument, rfl, describes⟩
    | succ place => exact inductionHypothesis place differs

/-- Only the name and the environment of a container depend on its task. The command lines for two
tasks are the same up to there, and the label and the image are the same behind it. -/
theorem differInDescription_container (claims other : TaskClaims) :
    DifferInDescription ⟨containerArguments settings tool claims⟩
      ⟨containerArguments settings tool other⟩ := by
  let Alike (argument replaced : String) : Prop := replaced = argument ∨ DescribesTask argument
  have name : DescribesTask ("--name=" ++ containerName claims.taskId) :=
    describesTask_append "--name" "" rfl (by decide) _
  have task : DescribesTask ("--env=TOLLGATE_TASK_ID=" ++ sanitize claims.taskId) :=
    describesTask_append "--env" "TOLLGATE_TASK_ID=" rfl (by decide) _
  have target : DescribesTask ("--env=TOLLGATE_TARGET_URN=" ++ sanitize claims.targetUrn) :=
    describesTask_append "--env" "TOLLGATE_TARGET_URN=" rfl (by decide) _
  have same : List.Forall₂ Alike ((containerArguments settings tool claims).take 12)
      ((containerArguments settings tool claims).take 12) :=
    List.forall₂_same.mpr fun _ _ => .inl rfl
  -- The label stands between the name and the environment, and the image behind both.
  have behind : List.Forall₂ Alike ((containerArguments settings tool claims).drop 12)
      ((containerArguments settings tool other).drop 12) :=
    .cons (.inr name) (.cons (.inl rfl) (.cons (.inr task) (.cons (.inr target)
      (.cons (.inl rfl) .nil))))
  exact describesTask_of_differs (List.rel_append same behind)

/-- With settings that a builder of containers accepts, it fails exactly where the reference to the
image is refused, and for that alone. Otherwise it builds the command line of a container: in
order, isolated by what was set, and with no more of the task in it than identifiers in the
arguments that describe it. -/
theorem builds_isolated_container {builder : Builder}
    (accepted : Sandbox.builder { settings with backend := .docker } = .ok builder)
    (tool : RegistryEntry) (claims : TaskClaims) :
    Usable settings ∧
    (builder.build tool claims = .error .invalidImageRef ↔ Refused tool.imageRef) ∧
    (¬ Refused tool.imageRef → ∃ command, builder.build tool claims = .ok command ∧
      InOrder settings.dockerBin tool.imageRef command ∧ Isolated settings command ∧
      Described claims tool.toolDigest command ∧
      ∀ others otherCommand, builder.build tool others = .ok otherCommand →
        DifferInDescription command otherCommand) := by
  obtain ⟨usable, rfl⟩ := builder_docker_iff.mp accepted
  refine ⟨usable, ⟨?refused, build_docker_of_refused⟩, ?launched⟩
  case refused =>
    intro failed
    by_contra launched
    cases failed.symm.trans (build_docker_of_not_refused launched)
  case launched =>
    intro launched
    have plain := head?_of_not_refused launched
    refine ⟨_, build_docker_of_not_refused launched, inOrder_container plain,
      isolated_container plain, described_container plain, fun others otherCommand built => ?_⟩
    obtain ⟨-, rfl⟩ := of_build_docker built
    exact differInDescription_container claims others

/-- A task called like a flag gets a container that is isolated all the same, and an image called
like a flag gets none. -/
theorem builds_isolated_container_hostile :
    let tool : RegistryEntry := ⟨"scan", "scan:1", "sha256:def", "", "", [], [], true⟩
    let claims : TaskClaims := ⟨⟨"--privileged", "n", "", "", ""⟩, "$(id)", "d", "", [], "", ""⟩
    ∃ builder, Sandbox.builder { backend := .docker } = .ok builder ∧
      builder.build { tool with imageRef := "-it" } claims = .error .invalidImageRef ∧
      ∃ command, builder.build tool claims = .ok command ∧ InOrder "docker" "scan:1" command ∧
        Isolated {} command ∧ Described claims "sha256:def" command := by
  intro tool claims
  have accepted : Sandbox.builder { backend := .docker } =
      .ok (docker { backend := .docker }) := rfl
  obtain ⟨-, failed, -⟩ :=
    @builds_isolated_container {} _ accepted { tool with imageRef := "-it" } claims
  obtain ⟨-, -, launched⟩ := @builds_isolated_container {} _ accepted tool claims
  have plain : ¬ Refused tool.imageRef := by
    rw [← isPlainImageRef_eq_false_iff]
    decide
  obtain ⟨command, built, inOrder, isolated, described, -⟩ := launched plain
  exact ⟨_, accepted, failed.mpr (.flag (by decide)), command, built, inOrder, isolated, described⟩

end Gatehouse.Sandbox
