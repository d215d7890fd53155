import Gatehouse.Settings.Basic
import Gatehouse.Toml.Reader

/-!
# Settings files

Settings in a TOML document. A group of settings is a table, or a list of its values in
order; what is absent keeps its default, and what is unknown is passed over. A choice is
its name, or a table with that name and nothing in it.
-/

namespace Gatehouse

open Toml

/-- Why a document holds no settings. Its grammar and its values are refused in the same words. -/
inductive SettingsFileError
  | unusable
deriving DecidableEq, Repr

/-- The words for an error. -/
def SettingsFileError.message : SettingsFileError → String
  | .unusable => "failed to parse config TOML"

/-- The values of a group of settings: by name, or by place. -/
inductive SettingsGroup
  | named (members : Members)
  | placed (items : List Item)
deriving Repr

namespace SettingsGroup

/-- The group that an item is. A point in time is a group that says nothing. -/
def ofItem? : Item → Option SettingsGroup
  | .closed members => some (.named members)
  | .table _ members => some (.named members)
  | .moment => some (.named [])
  | .array items => some (.placed items)
  | .tables last earlier =>
    some (.placed ((last :: earlier).reverse.map fun members => .table .declared members))
  | _ => none

/-- The item of a setting, if it is given. -/
def item? (place : Nat) (name : String) : SettingsGroup → Option Item
  | .named members => members.find? name
  | .placed items => items[place]?

/-- The value of a setting, or its default where it is absent. -/
def get {α : Type} (group : SettingsGroup) (place : Nat) (name : String)
    (decode : Item → Option α) (standard : α) : Option α :=
  match group.item? place name with
  | some item => decode item
  | none => some standard

end SettingsGroup

namespace Settings

/-- A text. -/
def text? : Item → Option String
  | .text content => some content
  | _ => none

/-- A natural number below a bound. -/
def natural? (bound : Nat) : Item → Option Nat
  | .integer value => if 0 ≤ value ∧ value < bound then some value.toNat else none
  | _ => none

/-- A number of 32 bits that is not negative. -/
def unsigned32? (item : Item) : Option UInt32 := (natural? (Nat.pow 2 32) item).map UInt32.ofNat

/-- A number of 64 bits that is not negative. -/
def unsigned64? (item : Item) : Option UInt64 := (natural? (Nat.pow 2 64) item).map UInt64.ofNat

/-- Whether an item holds nothing. -/
def isHollow : Item → Bool
  | .closed members => members.isEmpty
  | .table _ members => members.isEmpty
  | .array items => items.isEmpty
  | _ => false

/-- A choice among names. -/
def choice? {α : Type} (ofName? : String → Option α) : Item → Option α
  | .text name => ofName? name
  | .closed [(name, inner)] => if isHollow inner then ofName? name else none
  | .table _ [(name, inner)] => if isHollow inner then ofName? name else none
  | _ => none

/-- A text that may be absent. -/
def path? (item : Item) : Option (Option String) := (text? item).map some

/-- The settings of the verifier; what is not given has its default. -/
def verifier? (item : Item) : Option VerifierSettings := do
  let group ← SettingsGroup.ofItem? item
  let standard : VerifierSettings := {}
  let algorithm ← group.get 0 "algorithm" (choice? Algorithm.ofName?) standard.algorithm
  let secretName ← group.get 1 "hmac_secret_env" text? standard.secretName
  let publicKeyPath ← group.get 2 "public_key_path" path? standard.publicKeyPath
  return ⟨algorithm, secretName, publicKeyPath⟩

/-- The settings of the sandbox; what is not given has its default. -/
def sandbox? (item : Item) : Option SandboxSettings := do
  let group ← SettingsGroup.ofItem? item
  let standard : SandboxSettings := {}
  let backend ← group.get 0 "backend" (choice? Backend.ofName?) standard.backend
  let dockerBin ← group.get 1 "docker_bin" text? standard.dockerBin
  let runtime ← group.get 2 "runtime" text? standard.runtime
  let apparmorProfile ← group.get 3 "apparmor_profile" text? standard.apparmorProfile
  let memoryMb ← group.get 4 "memory_mb" unsigned32? standard.memoryMb
  let pidsLimit ← group.get 5 "pids_limit" unsigned32? standard.pidsLimit
  return ⟨backend, dockerBin, runtime, apparmorProfile, memoryMb, pidsLimit⟩

/-- The settings of the execution; what is not given has its default. -/
def execution? (item : Item) : Option ExecutionSettings := do
  let group ← SettingsGroup.ofItem? item
  let standard : ExecutionSettings := {}
  let timeoutSeconds ← group.get 0 "timeout_secs" unsigned64? standard.timeoutSeconds
  let maxOutputBytes ← group.get 1 "max_output_bytes" unsigned64? standard.maxOutputBytes
  return ⟨timeoutSeconds, maxOutputBytes⟩

/-- The settings of the paths; what is not given has its default. -/
def paths? (item : Item) : Option PathSettings := do
  let group ← SettingsGroup.ofItem? item
  let registry ← group.get 0 "registry" path? none
  let logs ← group.get 1 "logs_dir" path? none
  return ⟨registry, logs⟩

/-- The settings in the root table of a document. -/
def ofMembers? (members : Members) : Option Settings := do
  let group := SettingsGroup.named members
  let verifier ← group.get 0 "verifier" verifier? {}
  let sandbox ← group.get 1 "sandbox" sandbox? {}
  let execution ← group.get 2 "executor" execution? {}
  let paths ← group.get 3 "paths" paths? {}
  return ⟨verifier, sandbox, execution, paths⟩

/-- The settings of a document. -/
def read (text : String) : Except SettingsFileError Settings :=
  match (Toml.read? text).bind ofMembers? with
  | some settings => .ok settings
  | none => .error .unusable

end Settings

end Gatehouse
