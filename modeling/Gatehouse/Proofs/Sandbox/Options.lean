import Gatehouse.Sandbox.Builder

/-!
# The options of a container

A command line as its options, each with the value behind its first equals sign. The
options that launch a container are listed once, in their order; what a claim says of a
single one of them is read off that list. In particular the container has one name, and
it is removed under that name.
-/

namespace Gatehouse

namespace Guard

/-- A name without an equals sign is what stands in front of the first one. -/
theorem splitValue_append {name : String} (free : '=' ∉ name.toList) (value : String) :
    splitValue (name ++ "=" ++ value).toList = (name, some value) := by
  have differs : ∀ character ∈ name.toList, decide (character ≠ '=') = true := by
    intro character inside
    exact decide_eq_true fun same => free (same ▸ inside)
  have front : (name ++ "=" ++ value).toList = name.toList ++ '=' :: value.toList := by simp
  rw [splitValue, front, List.takeWhile_append_of_pos differs,
    List.dropWhile_append_of_pos differs]
  simp

/-- An argument without an equals sign is a name without a value. -/
theorem splitValue_of_free (argument : String) (free : '=' ∉ argument.toList) :
    splitValue argument.toList = (argument, none) := by
  have differs : ∀ character ∈ argument.toList, decide (character ≠ '=') = true := by
    intro character inside
    exact decide_eq_true fun same => free (same ▸ inside)
  have front : argument.toList = argument.toList ++ [] := (List.append_nil _).symm
  rw [splitValue, front, List.takeWhile_append_of_pos differs,
    List.dropWhile_append_of_pos differs]
  simp

/-- An argument that does not begin with a hyphen has a name that does not either. -/
theorem head?_splitValue_ne {argument : List Char} (plain : argument.head? ≠ some '-') :
    (splitValue argument).1.toList.head? ≠ some '-' := by
  have name : (splitValue argument).1 =
      String.ofList (argument.takeWhile fun character => decide (character ≠ '=')) := by
    unfold splitValue
    split <;> rfl
  rw [name, String.toList_ofList]
  cases argument with
  | nil => simp
  | cons first rest =>
    rw [List.takeWhile_cons]
    split
    · exact plain
    · simp

end Guard

namespace Command

/-- The arguments behind the program, each as a name and the value behind its first equals sign. -/
def options (command : Command) : List (String × Option String) :=
  command.arguments.map fun argument => Guard.splitValue argument.toList

/-- The values that a command gives to an option, in their order. -/
def valuesOf (name : String) (command : Command) : List (Option String) :=
  (command.options.filter fun option => option.1 == name).map Prod.snd

end Command

namespace Sandbox

variable {settings : SandboxSettings} {tool : RegistryEntry} {claims : TaskClaims}

/-- The options of a container in their order. The image stands behind them, split like an option
although it is none. -/
theorem options_container :
    Command.options ⟨containerArguments settings tool claims⟩ = [
      ("run", none),
      ("--rm", none),
      ("--read-only", none),
      ("--network", some "none"),
      ("--cap-drop", some "ALL"),
      ("--security-opt", some "no-new-privileges:true"),
      ("--security-opt", some ("apparmor=" ++ settings.apparmorProfile)),
      ("--runtime", some settings.runtime),
      ("--pids-limit", some (toString settings.pidsLimit.toNat)),
      ("--memory", some (toString settings.memoryMb.toNat ++ "m")),
      ("--tmpfs", some "/tmp:rw,noexec,nosuid,size=64m"),
      ("--name", some (containerName claims.taskId)),
      ("--label", some ("io.tollgate.tool-digest=" ++ digestPrefix tool.toolDigest)),
      ("--env", some ("TOLLGATE_TASK_ID=" ++ sanitize claims.taskId)),
      ("--env", some ("TOLLGATE_TARGET_URN=" ++ sanitize claims.targetUrn)),
      Guard.splitValue tool.imageRef.toList] := by
  have valued (argument name value : String) (same : argument = name ++ "=" ++ value)
      (free : '=' ∉ name.toList) : Guard.splitValue argument.toList = (name, some value) :=
    same ▸ Guard.splitValue_append free value
  -- The value may have a fixed beginning of its own.
  have begins (front name opening value : String) (same : front = name ++ "=" ++ opening) :
      front ++ value = name ++ "=" ++ (opening ++ value) := by
    rw [same, String.append_assoc]
  simp only [Command.options, Command.arguments, containerArguments, List.tail_cons,
    List.map_cons, List.map_nil]
  rw [Guard.splitValue_of_free "run" (by decide),
    Guard.splitValue_of_free "--rm" (by decide),
    Guard.splitValue_of_free "--read-only" (by decide),
    valued "--network=none" "--network" "none" rfl (by decide),
    valued "--cap-drop=ALL" "--cap-drop" "ALL" rfl (by decide),
    valued "--security-opt=no-new-privileges:true" "--security-opt" "no-new-privileges:true" rfl
      (by decide),
    valued _ "--security-opt" _ (begins "--security-opt=apparmor=" _ "apparmor=" _ rfl) (by decide),
    valued ("--runtime=" ++ settings.runtime) "--runtime" _ rfl (by decide),
    valued ("--pids-limit=" ++ toString settings.pidsLimit.toNat) "--pids-limit" _ rfl (by decide),
    valued ("--memory=" ++ toString settings.memoryMb.toNat ++ "m") "--memory" _
      String.append_assoc (by decide),
    valued "--tmpfs=/tmp:rw,noexec,nosuid,size=64m" "--tmpfs" "/tmp:rw,noexec,nosuid,size=64m" rfl
      (by decide),
    valued ("--name=" ++ containerName claims.taskId) "--name" _ rfl (by decide),
    valued _ "--label" _
      (begins "--label=io.tollgate.tool-digest=" _ "io.tollgate.tool-digest=" _ rfl) (by decide),
    valued _ "--env" _ (begins "--env=TOLLGATE_TASK_ID=" _ "TOLLGATE_TASK_ID=" _ rfl) (by decide),
    valued _ "--env" _ (begins "--env=TOLLGATE_TARGET_URN=" _ "TOLLGATE_TARGET_URN=" _ rfl)
      (by decide)]

/-- The values of an option are those between the word `run` and the image, because neither of the
two begins with a hyphen. -/
theorem valuesOf_container (plain : tool.imageRef.toList.head? ≠ some '-') {name : String}
    (flag : name.toList.head? = some '-') :
    Command.valuesOf name ⟨containerArguments settings tool claims⟩ =
      ((Command.options ⟨containerArguments settings tool claims⟩).dropLast.filter
        fun option => option.1 == name).map Prod.snd := by
  have noOption : (Guard.splitValue tool.imageRef.toList).1 ≠ name := by
    intro same
    apply Guard.head?_splitValue_ne plain
    rw [same]
    exact flag
  have last : Command.options ⟨containerArguments settings tool claims⟩ =
      (Command.options ⟨containerArguments settings tool claims⟩).dropLast ++
        [Guard.splitValue tool.imageRef.toList] := rfl
  have none : [Guard.splitValue tool.imageRef.toList].filter
      (fun option => option.1 == name) = [] := by
    rw [List.filter_cons_of_neg (by simpa using noOption), List.filter_nil]
  rw [Command.valuesOf]
  conv => lhs; rw [last]
  rw [List.filter_append, none, List.append_nil]

/-- A container has one name, and the image cannot give it another. -/
theorem valuesOf_name {command : Command}
    (built : (docker settings).build tool claims = .ok command) :
    command.valuesOf "--name" = [some (containerName claims.taskId)] := by
  simp only [docker] at built
  split at built
  · next plain =>
    obtain rfl := Except.ok.inj built
    have plainHead : tool.imageRef.toList.head? ≠ some '-' := by
      simp only [isPlainImageRef, Bool.and_eq_true, bne_iff_ne] at plain
      exact plain.1.2
    rw [valuesOf_container plainHead rfl, options_container]
    rfl
  · cases built

/-- A container is removed under the name that it was launched with, whatever its task is called. -/
theorem teardown_docker {command : Command}
    (built : (docker settings).build tool claims = .ok command) :
    ∃ name, command.valuesOf "--name" = [some name] ∧
      (docker settings).teardown tool claims = some ⟨[settings.dockerBin, "rm", "--force", name]⟩ :=
  ⟨containerName claims.taskId, valuesOf_name built, rfl⟩

end Sandbox

end Gatehouse
