import Gatehouse.Journal
import Gatehouse.Json.Reader
import Gatehouse.Json.Writer

/-!
# The registry of tools

A snapshot of the tools that are known by the digest of their content. A tool may run
only when a record carries exactly its digest and is marked as authorized; a record
that does not say so is not authorized. An unknown digest and a known one without
authorization are refused in the same words.
-/

namespace Gatehouse

open Json

/-- A record of the registry. -/
structure RegistryEntry where
  toolName : String
  imageRef : String
  toolDigest : String
  sbomFormat : String
  sbomDigest : String
  vulnerabilities : List (String × UInt64)
  signatures : List (String × String)
  authorized : Bool
deriving DecidableEq, Repr, Inhabited

namespace RegistryEntry

/-- The form of an entry. -/
def schema : Schema := .record "RegistryEntry" [
  Schema.optional "tool_name" .text,
  Schema.optional "image_ref" .text,
  Schema.required "tool_sha256" .text,
  Schema.optional "sbom_format" .text,
  Schema.optional "sbom_digest" .text,
  Schema.optional "vulnerability_summary" (.table .unsigned64),
  Schema.optional "signature_bundle" (.table .text),
  Schema.optional "authorized" .flag]

/-- The entry as a value in the form of the schema. -/
def toValue (entry : RegistryEntry) : Value := .object [
  ("tool_name", .text entry.toolName),
  ("image_ref", .text entry.imageRef),
  ("tool_sha256", .text entry.toolDigest),
  ("sbom_format", .text entry.sbomFormat),
  ("sbom_digest", .text entry.sbomDigest),
  ("vulnerability_summary",
    .object (entry.vulnerabilities.map fun (name, count) => (name, .ofNat count.toNat))),
  ("signature_bundle",
    .object (entry.signatures.map fun (name, signature) => (name, .text signature))),
  ("authorized", .bool entry.authorized)]

/-- The record that a value in the form of the schema holds. -/
def ofValue (value : Value) : RegistryEntry where
  toolName := (value.member "tool_name").asText
  imageRef := (value.member "image_ref").asText
  toolDigest := (value.member "tool_sha256").asText
  sbomFormat := (value.member "sbom_format").asText
  sbomDigest := (value.member "sbom_digest").asText
  vulnerabilities := (value.member "vulnerability_summary").asMembers.map
    fun (name, count) => (name, UInt64.ofNat count.asInteger.toNat)
  signatures := (value.member "signature_bundle").asMembers.map
    fun (name, signature) => (name, signature.asText)
  authorized := (value.member "authorized").asBool

/-- An entry is read back from its value. Its tables come back too: a count is written as a natural
number and read as one of 64 bits, which it was. -/
theorem ofValue_toValue (entry : RegistryEntry) : ofValue entry.toValue = entry := by
  obtain ⟨_, _, _, _, _, vulnerabilities, signatures, _⟩ := entry
  simp [ofValue, toValue, Value.member, find?, Value.asText, Value.asMembers, Value.asBool,
    Value.asInteger, Value.ofNat, Function.comp_def]

/-- One record of a text. -/
def read (text : String) : Except Fault RegistryEntry := (schema.read text).map ofValue

/-- The compact text of a record. -/
def render (entry : RegistryEntry) : String := entry.toValue.render

end RegistryEntry

namespace Registry

/-- The records of a text, in its order. -/
def read (text : String) : Except Fault (List RegistryEntry) :=
  ((Schema.list RegistryEntry.schema).read text).map fun value =>
    value.asList.map RegistryEntry.ofValue

/-- The compact text of a registry. -/
def render (registry : List RegistryEntry) : String :=
  (Value.list (registry.map RegistryEntry.toValue)).render

end Registry

/-- No authorized record carries a digest. -/
inductive AuthorizationError
  | authorizedDigestNotFound
deriving DecidableEq, Repr

namespace AuthorizationError

/-- The name of the kind of an error. -/
def kind : AuthorizationError → String
  | .authorizedDigestNotFound => "authorized_digest_not_found"

/-- The words for an error. -/
def message : AuthorizationError → String
  | .authorizedDigestNotFound => "authorized digest not found"

end AuthorizationError

namespace Registry

/-- The first authorized record of a digest, character for character. -/
def resolve (digest : String) : List RegistryEntry → Except AuthorizationError RegistryEntry
  | [] => .error .authorizedDigestNotFound
  | entry :: rest =>
    if entry.toolDigest = digest ∧ entry.authorized then .ok entry else resolve digest rest

/-- The place of the first authorized record of a digest. -/
def indexOf? (digest : String) (registry : List RegistryEntry) : Option Nat :=
  registry.findIdx? fun entry => entry.toolDigest == digest && entry.authorized

/-- What the journal says of a digest that is not resolved: a warning, if there are records of it
that are not authorized. -/
def refusalRecords (digest : String) (registry : List RegistryEntry) : List Record :=
  let known := registry.countP fun entry => entry.toolDigest == digest && !entry.authorized
  if known = 0 then []
  else [{
    level := .warn
    target := "tollgate::armory"
    message := "digest present in registry but not authorized"
    fields := [("digest", .text digest), ("unauthorized_matches", .ofNat known)] }]

end Registry

end Gatehouse
