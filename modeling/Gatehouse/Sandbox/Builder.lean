import Gatehouse.Claims
import Gatehouse.Command
import Gatehouse.Registry
import Gatehouse.Sandbox.Identifier
import Gatehouse.Text.Blank

/-!
# Building commands

A builder turns a tool and verified claims into a command, and into the command that
removes what was launched, if killing the launcher does not. Two builders exist: one
that only echoes what it would launch, and one that launches a hardened container.
Both are pure, so equal inputs give equal commands.
-/

namespace Gatehouse

/-- The kind of sandbox that a deployment uses. -/
inductive Backend
  | simulate
  | docker
deriving DecidableEq, Repr, Inhabited

namespace Backend

/-- The name of a backend in settings and in the journal. -/
def name : Backend → String
  | .simulate => "simulate"
  | .docker => "docker"

/-- The backend of a name in lower case. -/
def ofName? (name : String) : Option Backend :=
  if name = "simulate" then some .simulate
  else if name = "docker" then some .docker
  else none

/-- The backend of a name, or the setting that is wrong. -/
def ofName (name : String) : Except SandboxError Backend :=
  match ofName? name with
  | some backend => .ok backend
  | none => .error (.invalidProfile "backend")

end Backend

/-- The settings of the sandbox. -/
structure SandboxSettings where
  backend : Backend := .simulate
  dockerBin : String := "docker"
  runtime : String := "runsc"
  apparmorProfile : String := "tollgate-default"
  memoryMb : UInt32 := 512
  pidsLimit : UInt32 := 256
deriving DecidableEq, Repr, Inhabited

/-- A way to build commands. -/
structure Builder where
  backend : Backend
  build : RegistryEntry → TaskClaims → Except SandboxError Command
  launcherExitCodes : List Int32
  teardown : RegistryEntry → TaskClaims → Option Command
  records : RegistryEntry → TaskClaims → List Record

namespace Sandbox

/-- Echo what would be launched. Killing the echo stops it, so nothing is left to remove. -/
def simulated : Builder where
  backend := .simulate
  build tool claims := .ok ⟨["echo",
    "firecracker_simulated:" ++ sanitize claims.taskId ++ ":" ++ digestPrefix tool.toolDigest]⟩
  launcherExitCodes := []
  teardown _ _ := none
  records _ _ := []

/-- Names of runtimes and profiles: letters, digits, points, underscores and hyphens. -/
def isProfileName (raw : String) : Bool :=
  !raw.isEmpty && raw.toList.all fun character =>
    character.isAlphanum || character == '.' || character == '_' || character == '-'

/-- Characters that a reference may hold: visible ASCII without those that a shell expands. -/
def isPlainChar (character : Char) : Bool :=
  0x21 ≤ character.toNat && character.toNat ≤ 0x7E &&
    character != '\'' && character != '"' && character != '\x60' && character != '\\' &&
    character != '$'

/-- References to images come from the registry but stand among arguments: one that could be taken
for a flag is refused. -/
def isPlainImageRef (raw : String) : Bool :=
  !raw.isEmpty && raw.toList.head? != some '-' && raw.toList.all isPlainChar

/-- The first setting that no container can be launched with, if there is one. -/
def invalidSetting? (settings : SandboxSettings) : Option String :=
  if Text.isBlankText settings.dockerBin ∨ settings.dockerBin.toList.head? = some '-' then
    some "docker_bin"
  else if ¬ isProfileName settings.runtime then some "runtime"
  else if ¬ isProfileName settings.apparmorProfile ∨ settings.apparmorProfile = "unconfined" then
    some "apparmor_profile"
  else if settings.memoryMb = 0 then some "memory_mb"
  else if settings.pidsLimit = 0 then some "pids_limit"
  else none

/-- The arguments that launch a container. Every argument between the word `run` and the image is
one flag with its value, so the image is the only one that stands by itself. -/
def containerArguments (settings : SandboxSettings) (tool : RegistryEntry) (claims : TaskClaims) :
    List String := [
  settings.dockerBin,
  "run",
  "--rm",
  "--read-only",
  "--network=none",
  "--cap-drop=ALL",
  "--security-opt=no-new-privileges:true",
  "--security-opt=apparmor=" ++ settings.apparmorProfile,
  "--runtime=" ++ settings.runtime,
  "--pids-limit=" ++ toString settings.pidsLimit.toNat,
  "--memory=" ++ toString settings.memoryMb.toNat ++ "m",
  "--tmpfs=/tmp:rw,noexec,nosuid,size=64m",
  "--name=" ++ containerName claims.taskId,
  "--label=io.tollgate.tool-digest=" ++ digestPrefix tool.toolDigest,
  "--env=TOLLGATE_TASK_ID=" ++ sanitize claims.taskId,
  "--env=TOLLGATE_TARGET_URN=" ++ sanitize claims.targetUrn,
  tool.imageRef]

/-- Launch a hardened container. Killing the launcher leaves the container running, so it is
removed by name. -/
def docker (settings : SandboxSettings) : Builder where
  backend := .docker
  build tool claims :=
    if isPlainImageRef tool.imageRef then .ok ⟨containerArguments settings tool claims⟩
    else .error .invalidImageRef
  launcherExitCodes := [125, 126, 127]
  teardown _ claims := some ⟨[settings.dockerBin, "rm", "--force", containerName claims.taskId]⟩
  records tool claims := [{
    level := .debug
    target := "tollgate::sandbox::docker"
    message := "built docker sandbox command"
    fields := [
      ("container", .text (containerName claims.taskId)),
      ("tool_digest", .text (digestPrefix tool.toolDigest)),
      ("image", .text tool.imageRef)] }]

/-- The builder of a deployment. -/
def builder (settings : SandboxSettings) : Except SandboxError Builder :=
  match settings.backend with
  | .simulate => .ok simulated
  | .docker =>
    match invalidSetting? settings with
    | some setting => .error (.invalidProfile setting)
    | none => .ok (docker settings)

end Sandbox

end Gatehouse
