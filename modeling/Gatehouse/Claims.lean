import Gatehouse.Json.Reader
import Gatehouse.Json.Writer

/-!
# Claims

The claim set of a task. It travels in two ways: as a manifest on disk, which nobody
vouches for, and as the payload of a signed token. Both have the same schema, and
reconciling a manifest with verified claims gives the verified ones back: nothing of
the manifest goes on.
-/

namespace Gatehouse

open Json

/-- Who asks for what. -/
structure TaskContext where
  taskId : String
  tenantId : String
  operatorId : String
  source : String
  action : String
deriving Repr, Inhabited

/-- The claim set of a task. The parameters are opaque: no command is built from them. -/
structure TaskClaims where
  context : TaskContext
  targetUrn : String
  toolDigest : String
  nonce : String
  parameters : List (String × Value)
  issuedAt : String
  manifestVersion : String
deriving Repr, Inhabited

namespace TaskContext

/-- The form of a context: the task and its tenant have to be named. -/
def schema : Schema := .record "TaskContext" [
  Schema.required "task_id" .text,
  Schema.required "tenant_id" .text,
  Schema.optional "operator_id" .text,
  Schema.optional "source" .text,
  Schema.optional "action" .text]

/-- The context as a value in the form of the schema. -/
def toValue (context : TaskContext) : Value := .object [
  ("task_id", .text context.taskId),
  ("tenant_id", .text context.tenantId),
  ("operator_id", .text context.operatorId),
  ("source", .text context.source),
  ("action", .text context.action)]

/-- The context that a value in the form of the schema holds. -/
def ofValue (value : Value) : TaskContext where
  taskId := (value.member "task_id").asText
  tenantId := (value.member "tenant_id").asText
  operatorId := (value.member "operator_id").asText
  source := (value.member "source").asText
  action := (value.member "action").asText

/-- A context is read back from its value: each member of it is found by the name that it was
written under. -/
theorem ofValue_toValue (context : TaskContext) : ofValue context.toValue = context := rfl

end TaskContext

namespace TaskClaims

/-- The task that the claims are about. -/
def taskId (claims : TaskClaims) : String := claims.context.taskId

/-- The tenant whose task it is. -/
def tenantId (claims : TaskClaims) : String := claims.context.tenantId

/-- The form of the claims. -/
def schema : Schema := .record "TaskClaims" [
  Schema.required "task_context" TaskContext.schema,
  Schema.required "target_urn" .text,
  Schema.required "tool_sha256" .text,
  Schema.optional "nonce" .text,
  Schema.optional "parameters" (.table .any),
  Schema.optional "issued_at" .text,
  Schema.optional "manifest_version" .text]

/-- The claims as a value in the form of the schema. -/
def toValue (claims : TaskClaims) : Value := .object [
  ("task_context", claims.context.toValue),
  ("target_urn", .text claims.targetUrn),
  ("tool_sha256", .text claims.toolDigest),
  ("nonce", .text claims.nonce),
  ("parameters", .object claims.parameters),
  ("issued_at", .text claims.issuedAt),
  ("manifest_version", .text claims.manifestVersion)]

/-- The claims that a value in the form of the schema holds. -/
def ofValue (value : Value) : TaskClaims where
  context := .ofValue (value.member "task_context")
  targetUrn := (value.member "target_urn").asText
  toolDigest := (value.member "tool_sha256").asText
  nonce := (value.member "nonce").asText
  parameters := (value.member "parameters").asMembers
  issuedAt := (value.member "issued_at").asText
  manifestVersion := (value.member "manifest_version").asText

/-- Claims are read back from their value, member by member. The form of the value is not asked for
here, so nothing can be refused. -/
theorem ofValue_toValue (claims : TaskClaims) : ofValue claims.toValue = claims := rfl

/-- The claims of a manifest text. -/
def read (text : String) : Except Fault TaskClaims :=
  (schema.read text).map ofValue

/-- The claims of a value that is already read, if it has their shape. -/
def ofClaimMap? (members : List (String × Value)) : Option TaskClaims :=
  (schema.conform? (.object members)).map ofValue

/-- The compact text of the claims. -/
def render (claims : TaskClaims) : String := claims.toValue.render

end TaskClaims

/-- The fields that a manifest and the claims of its token must agree on. -/
inductive ReconciledField
  | taskId
  | tenantId
  | toolDigest
deriving DecidableEq, Repr

/-- The name of a field in documents and messages. -/
def ReconciledField.name : ReconciledField → String
  | .taskId => "task_id"
  | .tenantId => "tenant_id"
  | .toolDigest => "tool_sha256"

/-- The value of a field. -/
def ReconciledField.get (claims : TaskClaims) : ReconciledField → String
  | .taskId => claims.taskId
  | .tenantId => claims.tenantId
  | .toolDigest => claims.toolDigest

/-- A manifest disagrees with the claims of its token; the first field that does is named. -/
structure ManifestMismatch where
  field : ReconciledField
deriving DecidableEq, Repr

/-- The words for a mismatch, which name the member that differs. -/
def ManifestMismatch.message (mismatch : ManifestMismatch) : String :=
  "manifest field `" ++ mismatch.field.name ++ "` does not match the signed token"

/-- The verified claims, if the manifest agrees with them in the three fields. The fields are
compared in order, and the first that differs is reported. -/
def reconcile (manifest verified : TaskClaims) : Except ManifestMismatch TaskClaims :=
  if manifest.taskId ≠ verified.taskId then .error ⟨.taskId⟩
  else if manifest.tenantId ≠ verified.tenantId then .error ⟨.tenantId⟩
  else if manifest.toolDigest ≠ verified.toolDigest then .error ⟨.toolDigest⟩
  else .ok verified

end Gatehouse
