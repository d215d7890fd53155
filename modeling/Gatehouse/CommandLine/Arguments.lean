import Gatehouse.Text.Utf8

/-!
# Arguments

The arguments of the command line: a verb with its options, and one option that may
stand before the verb or behind it. Arguments are read from left to right. A request for
help or for the version is answered when it is met, so a mistake in front of it decides
and one behind it does not.
-/

namespace Gatehouse.CommandLine

/-- The options that take a value. -/
inductive OptionName
  | config
  | manifest
  | token
  | registry
  | privateKey
deriving DecidableEq, Repr

namespace OptionName

/-- The name of an option as it is written. -/
def text : OptionName → String
  | .config => "config"
  | .manifest => "manifest"
  | .token => "token"
  | .registry => "registry"
  | .privateKey => "private-key"

/-- A path has at least one character. A token may be empty here: it is refused where tokens are
verified. -/
def takes (option : OptionName) (value : String) : Bool :=
  option == .token || !value.isEmpty

end OptionName

/-- What the program does. -/
inductive Verb
  | run
  | verify
  | sign
deriving DecidableEq, Repr

namespace Verb

/-- The name of a verb as it is written. -/
def text : Verb → String
  | .run => "run"
  | .verify => "verify"
  | .sign => "sign"

/-- The verb of a name. -/
def ofText? (text : String) : Option Verb := [run, verify, sign].find? (·.text == text)

/-- The options that may stand behind a verb. -/
def options : Verb → List OptionName
  | .run => [.config, .manifest, .token, .registry]
  | .verify => [.config, .token]
  | .sign => [.config, .manifest, .privateKey]

end Verb

/-- A verb with what it needs. -/
inductive Subcommand
  | run (manifest token : String) (registry : Option String)
  | verify (token : String)
  | sign (manifest : String) (privateKey : Option String)
deriving DecidableEq, Repr

/-- What the arguments ask for. -/
structure Invocation where
  settingsPath : Option String
  subcommand : Subcommand
deriving DecidableEq, Repr

/-- What is answered before anything is done. -/
inductive Reply
  | help
  | version
  | misuse
deriving DecidableEq, Repr

/-- An argument by its form. -/
inductive Argument
  | divider
  | long (name : String) (value : Option String)
  | short (letter : Char)
  | plain (text : String)
deriving DecidableEq, Repr

namespace Argument

/-- The name of a long argument and the value that is attached to it. -/
def ofLong (characters : List Char) : Argument :=
  let name := characters.takeWhile (· ≠ '=')
  match characters.drop name.length with
  | [] => .long (String.ofList name) none
  | _ :: value => .long (String.ofList name) (some (String.ofList value))

/-- The form of an argument. Of several letters only the first matters, because no letter lets
another one follow. A single dash is a text. -/
def ofText (text : String) : Argument :=
  match text.toList with
  | ['-', '-'] => .divider
  | '-' :: '-' :: rest => ofLong rest
  | '-' :: letter :: _ => .short letter
  | _ => .plain text

end Argument

/-- The options that have been read: those with their value, and the last one, whose value is not
looked at before the next option or the end. -/
structure Reading where
  settled : List (OptionName × String)
  pending : Option (OptionName × Option String)
deriving DecidableEq, Repr

namespace Reading

/-- Nothing read so far. -/
def start : Reading := ⟨[], none⟩

/-- Whether a value has to follow. -/
def awaits (reading : Reading) : Bool :=
  match reading.pending with
  | some (_, none) => true
  | _ => false

/-- The value of an option. -/
def value? (reading : Reading) (option : OptionName) : Option String :=
  (reading.settled.find? (·.1 == option)).map (·.2)

/-- Take the last option in. It has a value that it takes, and it is there for the first time. -/
def settle (reading : Reading) : Except Reply Reading :=
  match reading.pending with
  | none => .ok reading
  | some (_, none) => .error .misuse
  | some (option, some value) =>
    if option.takes value ∧ reading.value? option = none then
      .ok ⟨reading.settled ++ [(option, value)], none⟩
    else .error .misuse

end Reading

/-- The arguments that are known at one place: before the verb or behind it. -/
structure Scope where
  options : List OptionName
  verbs : List String
  hasVersion : Bool
deriving DecidableEq, Repr

namespace Scope

/-- What stands before the verb. -/
def outer : Scope := ⟨[.config], ["run", "verify", "sign", "help"], true⟩

/-- What stands behind a verb. -/
def inner (verb : Verb) : Scope := ⟨verb.options, [], false⟩

/-- One argument that is neither a verb nor a divider. -/
def step (scope : Scope) (reading : Reading) : Argument → Except Reply Reading
  | .divider => .error .misuse
  | .long "help" none | .short 'h' => do
    let _ ← reading.settle
    .error .help
  | .long "version" none | .short 'V' => do
    let _ ← reading.settle
    .error (if scope.hasVersion then .version else .misuse)
  | .short _ => .error .misuse
  | .long name value =>
    match scope.options.find? (·.text == name) with
    | none => .error .misuse
    | some option => do
      let settled ← reading.settle
      let next : Reading := { settled with pending := some (option, value) }
      if value.isSome then next.settle else .ok next
  | .plain text =>
    match reading.pending with
    | some (option, none) => .ok { reading with pending := some (option, some text) }
    | _ => .error .misuse

/-- The arguments up to a verb, with the verb and what stands behind it. Nothing may follow a
divider. -/
def read (scope : Scope) (reading : Reading) :
    List String → Except Reply (Reading × Option (String × List String))
  | [] => .ok (reading, none)
  | text :: rest =>
    if ¬ reading.awaits ∧ text ∈ scope.verbs then .ok (reading, some (text, rest))
    else match Argument.ofText text, rest with
      | .divider, [] => .ok (reading, none)
      | argument, _ => do
        let next ← scope.step reading argument
        scope.read next rest

end Scope

namespace Invocation

/-- A verb with the options behind it. -/
def subcommand? (verb : Verb) (reading : Reading) : Option Subcommand :=
  match verb with
  | .run => do
    return .run (← reading.value? .manifest) (← reading.value? .token) (reading.value? .registry)
  | .verify => do return .verify (← reading.value? .token)
  | .sign => do return .sign (← reading.value? .manifest) (reading.value? .privateKey)

/-- The verb with all of its options. -/
def readVerb (verb : Verb) (arguments : List String) : Except Reply (Subcommand × Reading) := do
  let (reading, _) ← (Scope.inner verb).read .start arguments
  let reading ← reading.settle
  match subcommand? verb reading with
  | some subcommand => .ok (subcommand, reading)
  | none => .error .misuse

/-- The answer to a question for help: about everything, or about one verb. -/
def help : List String → Reply
  | [] => .help
  | [topic] => if topic ∈ Scope.outer.verbs then .help else .misuse
  | _ => .misuse

/-- What the arguments ask for. Of two paths for the settings the one behind the verb counts. -/
def read (arguments : List String) : Except Reply Invocation := do
  match ← Scope.outer.read .start arguments with
  | (_, none) => .error .misuse
  | (outer, some (name, rest)) =>
    match Verb.ofText? name with
    | none => .error (help rest)
    | some verb => do
      let (subcommand, inner) ← readVerb verb rest
      let outer ← outer.settle
      return ⟨(inner.value? .config).or (outer.value? .config), subcommand⟩

end Invocation

end Gatehouse.CommandLine
