import Gatehouse.EnvFile.Entry
import Gatehouse.Host.FileSystem
import Gatehouse.Settings.Override
import Gatehouse.Text.Quoted
import Gatehouse.Token.Verifier

/-!
# Secrets

The secret of a deployment comes from its environment or from a private file of
variables. The file is refused when others than its owner may touch it, before anything
of it is read, and one entry that cannot be read discards all of them. Secrets are never
shown: a summary names the keys only.
-/

namespace Gatehouse

/-- The secrets of a file, sorted by name. -/
structure Secrets where
  entries : List (String × String)
deriving DecidableEq, Repr, Inhabited

/-- Why a file gives no secrets. -/
inductive SecretsError
  | broadMode (mode : Nat)
  | entry (cause : EnvFile.EntryError)
deriving DecidableEq, Repr

/-- The messages about a file, the outer one first. -/
def SecretsError.messages (path : String) : SecretsError → List String
  | .broadMode mode =>
    ["secrets file " ++ path ++ " must be 0600, found " ++ String.ofList (Nat.toDigits 8 mode)]
  | .entry cause =>
    ("failed to parse key-value entry in secrets file " ++ path) :: cause.messages

namespace Secrets

/-- No secrets. -/
def none : Secrets := ⟨[]⟩

/-- Secrets from names and values; the last value of a name stays. -/
def ofEntries (entries : List EnvFile.Entry) : Secrets :=
  ⟨entries.foldl (fun sorted (name, value) => Json.insert name value sorted) []⟩

/-- All entries, or the first error among them. -/
def ofResults (results : List (Except EnvFile.EntryError EnvFile.Entry)) :
    Except EnvFile.EntryError Secrets :=
  (results.mapM id).map ofEntries

/-- The bits of a mode that a file system keeps for owner, group and others. -/
def permissions (mode : Nat) : Nat := mode % 0o1000

/-- Whether a mode grants anything to group or others. -/
def isBroad (mode : Nat) : Bool := permissions mode % 0o100 != 0

/-- A way to read the entries of a file: each of them, or why it cannot be read. -/
abbrev Reader := List UInt8 → List (Except EnvFile.EntryError EnvFile.Entry)

/-- The secrets of a file. The mode is looked at first and decides alone when it is too broad. -/
def ofFile (reader : Reader) (file : File) : Except SecretsError Secrets :=
  if isBroad file.mode then .error (.broadMode (permissions file.mode))
  else (ofResults (reader file.octets)).mapError .entry

/-- The secrets of a file that may be absent, which then holds none. -/
def loadBy (reader : Reader) : Option File → Except SecretsError Secrets
  | Option.none => .ok none
  | some file => ofFile reader file

/-- The secrets of a file of variables, in which an environment may be referred to. -/
def load (environment : Environment) : Option File → Except SecretsError Secrets :=
  loadBy (EnvFile.read environment)

/-- The value of a name: that of the environment unless it is empty, or else that of the file. -/
def lookup (secrets : Secrets) (name : String) (environment : Environment) : Option String :=
  match environment name with
  | some value => if value.isEmpty then Json.find? name secrets.entries else some value
  | Option.none => Json.find? name secrets.entries

/-- What may be shown of secrets: their names. -/
def summary (secrets : Secrets) : String :=
  let names := secrets.entries.map fun (name, _) => Text.Quoted.encode name
  "Secrets \x7b keys: [" ++ ", ".intercalate names ++ "], values: \"[REDACTED]\" \x7d"

end Secrets

namespace VerifierSettings

/-- The secret of a deployment, if there is one. -/
def secret (settings : VerifierSettings) (secrets : Secrets) (environment : Environment) :
    Option String :=
  secrets.lookup settings.secretName environment

/-- The verifier of a deployment, given the text of its public key file if one is set. Without a
key there is a verifier all the same, which accepts nothing. -/
def verifier (settings : VerifierSettings) (secrets : Secrets) (environment : Environment)
    (publicKey : Option String) : Verifier :=
  match settings.algorithm with
  | .hs256 => .hs256 (Text.Utf8.encode ((settings.secret secrets environment).getD ""))
  | .edDsa => .edDsa (.ofText (publicKey.getD ""))

/-- Why the file of a public key cannot be read. -/
structure KeyFileError where
  path : String
  cause : FileError
deriving DecidableEq, Repr

/-- The messages of an error, the outer one first. -/
def KeyFileError.messages (error : KeyFileError) : List String :=
  ["failed to read public key at " ++ error.path, error.cause.message]

/-- The text of the public key file, which is only looked for under the algorithm that uses it. -/
def publicKeyText (settings : VerifierSettings) (system : FileSystem) :
    Except KeyFileError (Option String) :=
  match settings.algorithm, settings.publicKeyPath with
  | .edDsa, some path => ((system.readText path).map some).mapError fun cause => ⟨path, cause⟩
  | _, _ => .ok none

/-- The verifier of a deployment with its key file. -/
def load (settings : VerifierSettings) (secrets : Secrets) (environment : Environment)
    (system : FileSystem) : Except KeyFileError Verifier :=
  (settings.publicKeyText system).map (settings.verifier secrets environment)

end VerifierSettings

end Gatehouse
