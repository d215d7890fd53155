/-!
# Commands and the breakout guard

A command is a list of arguments, the first of which names the program; it is never a
line for a shell. The guard refuses a command that carries a flag which weakens the
isolation of the sandbox. Flags are matched as whole arguments, with their value behind
an equals sign or as the next argument, so a value inside another argument is no match.
-/

namespace Gatehouse

/-- A command: the program and its arguments. -/
structure Command where
  argv : List String
deriving DecidableEq, Repr, Inhabited

namespace Command

/-- The program, if the list holds any argument. -/
def program? (command : Command) : Option String := command.argv.head?

/-- The arguments behind the program. -/
def arguments (command : Command) : List String := command.argv.tail

/-- Whether there is nothing to launch. -/
def isEmpty (command : Command) : Bool :=
  match command.argv with
  | [] => true
  | program :: _ => program.isEmpty

end Command

/-- Why a command cannot be built or launched. -/
inductive SandboxError
  | invalidImageRef
  | invalidProfile (setting : String)
  | breakoutIndicator (indicator : String)
deriving DecidableEq, Repr

namespace SandboxError

/-- The name of the kind of an error. -/
def kind : SandboxError → String
  | .invalidImageRef => "invalid_image_ref"
  | .invalidProfile _ => "invalid_sandbox_profile"
  | .breakoutIndicator _ => "breakout_indicator"

/-- The words for an error. -/
def message : SandboxError → String
  | .invalidImageRef => "tool image reference is empty or not a plain reference"
  | .invalidProfile setting => "sandbox setting `" ++ setting ++ "` is invalid"
  | .breakoutIndicator indicator =>
    "command contains sandbox breakout indicator `" ++ indicator ++ "`"

end SandboxError

namespace Guard

/-- A flag that weakens isolation. Without a value it does so whatever its value is. -/
structure WeakeningFlag where
  name : String
  value : Option String
deriving DecidableEq, Repr

/-- The flags the guard knows. -/
def weakeningFlags : List WeakeningFlag := [
  ⟨"--privileged", none⟩,
  ⟨"--cap-add", none⟩,
  ⟨"--device", none⟩,
  ⟨"--network", some "host"⟩,
  ⟨"--net", some "host"⟩,
  ⟨"--pid", some "host"⟩,
  ⟨"--ipc", some "host"⟩,
  ⟨"--uts", some "host"⟩,
  ⟨"--userns", some "host"⟩,
  ⟨"--security-opt", some "seccomp=unconfined"⟩,
  ⟨"--security-opt", some "apparmor=unconfined"⟩]

/-- An argument with its ASCII letters in lower case; other letters stay as they are. -/
def lower (argument : String) : String :=
  String.ofList (argument.toList.map Char.toLower)

/-- An argument in front of its first equals sign, and what stands behind the sign. -/
def splitValue (argument : List Char) : String × Option String :=
  let name := String.ofList (argument.takeWhile (· ≠ '='))
  match argument.dropWhile (· ≠ '=') with
  | [] => (name, none)
  | _ :: value => (name, some (String.ofList value))

/-- Whether an argument, in front of a next one if there is any, is a weakening flag. Both are in
lower case. -/
def weakens (argument : String) (next : Option String) : Bool :=
  let (name, inline) := splitValue argument.toList
  let value := inline <|> next
  weakeningFlags.any fun flag =>
    name == flag.name && (flag.value.isNone || value == flag.value)

/-- The first weakening flag among arguments in lower case. -/
def firstIndicator? : List String → Option String
  | [] => none
  | argument :: rest =>
    if weakens argument rest.head? then some argument else firstIndicator? rest

end Guard

/-- Refuse a command with a weakening flag behind its program; the first one is named. -/
def checkBreakout (command : Command) : Except SandboxError Unit :=
  match Guard.firstIndicator? (command.arguments.map Guard.lower) with
  | some indicator => .error (.breakoutIndicator indicator)
  | none => .ok ()

end Gatehouse
