import Gatehouse.Claims
import Gatehouse.Hash.Sha256
import Gatehouse.Sandbox.Builder
import Gatehouse.Text.Hex

/-!
# Measurements

The measurement of a launch is the hash of a text that names the task, the target, the
tool and the whole command. The text is compact JSON with its members sorted by name,
so an auditor with the claims and the command can make it again, and no two launches
have the same text.
-/

namespace Gatehouse.Measurement

open Json

/-- What is measured of a launch, in the order of the names. -/
def value (claims : TaskClaims) (backend : Backend) (command : Command) : Value := .object [
  ("backend", .text backend.name),
  ("execution_command", .list (command.argv.map .text)),
  ("operator_id", .text claims.context.operatorId),
  ("target_urn", .text claims.targetUrn),
  ("task_id", .text claims.taskId),
  ("tenant_id", .text claims.tenantId),
  ("tool_sha256", .text claims.toolDigest)]

/-- The text that is hashed. -/
def text (claims : TaskClaims) (backend : Backend) (command : Command) : String :=
  (value claims backend command).render

/-- The measurement of a launch, in hexadecimal digits. -/
def hash (claims : TaskClaims) (backend : Backend) (command : Command) : String :=
  Text.Hex.encode (Hash.sha256 (Text.Utf8.encode (text claims backend command)))

end Gatehouse.Measurement
