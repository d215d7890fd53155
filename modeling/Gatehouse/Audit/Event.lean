import Gatehouse.Claims
import Gatehouse.Execution.Outcome
import Gatehouse.Instant
import Gatehouse.Text.Hex

/-!
# Audit events

The record of one task that was run. It carries the token as it was given, so that an
auditor can verify the task again without trusting this program, and every text of it
stands in a JSON string, so that no output of a tool can pass for a field.
-/

namespace Gatehouse

open Json

/-- Whether the tool reported success. -/
inductive RunStatus
  | success
  | failed
deriving DecidableEq, Repr, Inhabited

namespace RunStatus

/-- The name of a status in the text of an event. -/
def name : RunStatus → String
  | .success => "success"
  | .failed => "failed"

/-- Zero is the only success. -/
def ofExitCode (exitCode : Int32) : RunStatus := if exitCode = 0 then .success else .failed

/-- The status of a name: all names but that of success are those of failed runs. -/
def ofName (name : String) : RunStatus := if name = "success" then .success else .failed

/-- A status is read back from its name. -/
theorem ofName_name (status : RunStatus) : ofName status.name = status := by
  cases status <;> decide

end RunStatus

/-- What was run, and with what result. -/
structure EventData where
  taskId : String
  tenantId : String
  toolDigest : String
  targetUrn : String
  status : RunStatus
  exitCode : Int32
  stdout : String
  stderr : String
  token : String
  measurement : String
deriving DecidableEq, Repr, Inhabited

/-- The record of a run. -/
structure AuditEvent where
  specVersion : String
  id : String
  source : String
  eventType : String
  subject : String
  time : String
  contentType : String
  data : EventData
deriving DecidableEq, Repr, Inhabited

namespace EventData

/-- The form of the data in the text of an event. -/
def schema : Schema := .record "EventData" [
  Schema.required "task_id" .text,
  Schema.required "tenant_id" .text,
  Schema.required "tool_sha256" .text,
  Schema.required "target_urn" .text,
  Schema.required "status" (.choice ["success", "failed"]),
  Schema.required "exit_code" .signed32,
  Schema.required "stdout" .text,
  Schema.required "stderr" .text,
  Schema.required "manifest_jws" .text,
  Schema.required "measurement_hash" .text]

/-- The data as a value in the form of the schema. -/
def toValue (data : EventData) : Value := .object [
  ("task_id", .text data.taskId),
  ("tenant_id", .text data.tenantId),
  ("tool_sha256", .text data.toolDigest),
  ("target_urn", .text data.targetUrn),
  ("status", .text data.status.name),
  ("exit_code", .ofInt data.exitCode.toInt),
  ("stdout", .text data.stdout),
  ("stderr", .text data.stderr),
  ("manifest_jws", .text data.token),
  ("measurement_hash", .text data.measurement)]

/-- The data that a value in the form of the schema holds. -/
def ofValue (value : Value) : EventData where
  taskId := (value.member "task_id").asText
  tenantId := (value.member "tenant_id").asText
  toolDigest := (value.member "tool_sha256").asText
  targetUrn := (value.member "target_urn").asText
  status := .ofName (value.member "status").asText
  exitCode := Int32.ofInt (value.member "exit_code").asInteger
  stdout := (value.member "stdout").asText
  stderr := (value.member "stderr").asText
  token := (value.member "manifest_jws").asText
  measurement := (value.member "measurement_hash").asText

/-- The data of an event are read back from their value. Only the status and the exit code are not
stored as texts: the one has a name, the other is a number of 32 bits with a sign. -/
theorem ofValue_toValue (data : EventData) : ofValue data.toValue = data := by
  obtain ⟨_, _, _, _, status, exitCode, _, _, _, _⟩ := data
  simp [ofValue, toValue, Value.member, find?, Value.asText, Value.asInteger, Value.ofInt,
    RunStatus.ofName_name]

end EventData

namespace AuditEvent

/-- The form of an event. -/
def schema : Schema := .record "AuditEvent" [
  Schema.required "specversion" .text,
  Schema.required "id" .text,
  Schema.required "source" .text,
  Schema.required "type" .text,
  Schema.required "subject" .text,
  Schema.required "time" .text,
  Schema.required "datacontenttype" .text,
  Schema.required "data" EventData.schema]

/-- The event as a value in the form of the schema. -/
def toValue (event : AuditEvent) : Value := .object [
  ("specversion", .text event.specVersion),
  ("id", .text event.id),
  ("source", .text event.source),
  ("type", .text event.eventType),
  ("subject", .text event.subject),
  ("time", .text event.time),
  ("datacontenttype", .text event.contentType),
  ("data", event.data.toValue)]

/-- The event that a value in the form of the schema holds. -/
def ofValue (value : Value) : AuditEvent where
  specVersion := (value.member "specversion").asText
  id := (value.member "id").asText
  source := (value.member "source").asText
  eventType := (value.member "type").asText
  subject := (value.member "subject").asText
  time := (value.member "time").asText
  contentType := (value.member "datacontenttype").asText
  data := .ofValue (value.member "data")

/-- An event is read back from its value, and so are the data in it. -/
theorem ofValue_toValue (event : AuditEvent) : ofValue event.toValue = event := by
  simp [ofValue, toValue, Value.member, find?, Value.asText, EventData.ofValue_toValue]

/-- The event of a text. -/
def read (text : String) : Except Fault AuditEvent := (schema.read text).map ofValue

/-- The compact text of an event, one line. -/
def render (event : AuditEvent) : String := event.toValue.render

/-- Whether the event reports success. -/
def success (event : AuditEvent) : Bool := event.data.status == .success

end AuditEvent

/-- Why a run that finished has no event. -/
inductive EventError
  | entropyUnavailable
deriving DecidableEq, Repr

namespace EventError

/-- The name of the kind of an error. -/
def kind : EventError → String
  | .entropyUnavailable => "entropy_unavailable"

/-- The words for an error. -/
def message : EventError → String
  | .entropyUnavailable => "entropy source unavailable"

end EventError

/-- The random octets of the name of an event. -/
abbrev EventSeed := Vector UInt8 16

/-- A source of random octets, over states of some kind; it may have none to give. -/
abbrev Entropy (ε : Type) := ε → Option EventSeed × ε

/-- What an event says apart from the time and its name. -/
structure EventContent where
  claims : TaskClaims
  outcome : Outcome
  token : String
  measurement : String
deriving Repr

namespace EventContent

/-- The event of a finished run, named by random octets. -/
def event (content : EventContent) (seed : EventSeed) (now : Instant) : AuditEvent where
  specVersion := "1.0"
  id := Text.Hex.encode seed.toList
  source := "urn:tollgate:runner"
  eventType := "io.tollgate.runner.execution.v1"
  subject := content.claims.taskId
  time := now.write
  contentType := "application/json"
  data := {
    taskId := content.claims.taskId
    tenantId := content.claims.tenantId
    toolDigest := content.claims.toolDigest
    targetUrn := content.claims.targetUrn
    status := .ofExitCode content.outcome.exitCode
    exitCode := content.outcome.exitCode
    stdout := content.outcome.stdout
    stderr := content.outcome.stderr
    token := content.token
    measurement := content.measurement }

/-- Draw the octets of the name and make the event. One draw is made whatever it gives. -/
def mapEvent {ε : Type} (content : EventContent) (now : Instant) (entropy : Entropy ε)
    (state : ε) : Except EventError AuditEvent × ε :=
  match entropy state with
  | (some seed, next) => (.ok (content.event seed now), next)
  | (none, next) => (.error .entropyUnavailable, next)

end EventContent

end Gatehouse
