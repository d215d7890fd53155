import Gatehouse.CommandLine.Station
import Gatehouse.Proofs.CommandLine.Preparation
import Gatehouse.Proofs.CommandLine.Stages
import Gatehouse.Proofs.Json.OneLine
import Gatehouse.Proofs.Json.ReadBack
import Gatehouse.Proofs.Json.Record
import Gatehouse.Proofs.Result
import Gatehouse.Proofs.Run.Attestation
import Gatehouse.Proofs.Sandbox.Agreement

/-!
# The line of an event

An event is printed on one line, whatever its texts hold, and the line stands for that
event alone: the one document that it spells has the members of the event and no other,
and reading it gives the event back. So an output of a tool that looks like a record or
a field stays inside of the text that it belongs to, and an auditor reads the token that
was run.
-/

namespace Gatehouse

open Json Text
open Schema (accept?_record signed32 read_render_eq_ok_iff)

/-- The name of a status is one of the choices of its field. -/
theorem RunStatus.accept?_name (status : RunStatus) :
    (Schema.choice ["success", "failed"]).accept? (.text status.name) =
      some (.text status.name) := by
  have known : status.name ∈ ["success", "failed"] := by
    cases status <;> decide
  exact if_pos known

namespace EventData

/-- An exit code has the range of its field. -/
theorem accept?_exitCode (exitCode : Int32) :
    signed32.accept? (.ofInt exitCode.toInt) = some (.ofInt exitCode.toInt) := by
  have lower := exitCode.le_toInt
  have upper := exitCode.toInt_lt
  exact if_pos (by omega)

/-- The data of an event has all fields of its form, in the order in which it is written. -/
theorem accept?_toValue (data : EventData) : schema.accept? data.toValue = some data.toValue := by
  apply accept?_record
  case distinct => decide
  case read =>
    -- Only the status and the exit code could be refused; the other fields take every text.
    exact .cons rfl <| .cons rfl <| .cons rfl <| .cons rfl <| .cons data.status.accept?_name <|
      .cons (accept?_exitCode data.exitCode) <| .cons rfl <| .cons rfl <| .cons rfl <|
      .cons rfl .nil

/-- The only number among the data of an event is the exit code, and that is in range. -/
theorem exact_toValue (data : EventData) : data.toValue.Exact := by
  have exitCode : (Value.ofInt data.exitCode.toInt).Exact := by
    have lower := data.exitCode.le_toInt
    have upper := data.exitCode.toInt_lt
    apply Value.exact_integer
    constructor <;> omega
  apply Value.exact_object
  simp [Value.exact_text, exitCode]

end EventData

namespace AuditEvent

/-- An event has all fields of its form, the data among them. -/
theorem accept?_toValue (event : AuditEvent) :
    schema.accept? event.toValue = some event.toValue := by
  apply accept?_record
  case distinct => decide
  case read =>
    exact .cons rfl <| .cons rfl <| .cons rfl <| .cons rfl <| .cons rfl <| .cons rfl <|
      .cons rfl <| .cons event.data.accept?_toValue .nil

/-- An event holds no other number than its data. -/
theorem exact_toValue (event : AuditEvent) : event.toValue.Exact := by
  apply Value.exact_object
  simp [Value.exact_text, EventData.exact_toValue]

/-- The data of an event is the only container inside of it. -/
theorem depth_toValue (event : AuditEvent) : event.toValue.depth = 2 := rfl

/-- An event is read back from its line: it is written exactly, accepted as it was written, and
taken apart field by field. -/
theorem read_render (event : AuditEvent) : read event.render = .ok event := by
  have accepted : schema.read event.render = .ok event.toValue := by
    apply (read_render_eq_ok_iff event.exact_toValue ?nested).mpr event.accept?_toValue
    case nested =>
      rw [depth_toValue]
      decide
  rw [read, accepted]
  exact congrArg Except.ok event.ofValue_toValue

/-- An event is printed as a line that stands for it alone: no control character is in it, reading
it gives the event, and the document of the event is the only one that it spells. -/
structure PrintedAs (event : AuditEvent) (line : String) : Prop where
  freeOfControls : FreeOfControls line.toList
  readBack : read line = .ok event
  spelled : ∀ document : Value, document.SpelledBy line ↔ document = event.toValue

/-- Every event is printed as a line that stands for it alone. -/
theorem printedAs_render (event : AuditEvent) : event.PrintedAs event.render where
  freeOfControls := event.toValue.freeOfControls_render
  readBack := event.read_render
  spelled _ := Value.spelledBy_render_iff event.exact_toValue

/-- Events printed one after another, each on its line. -/
def log (events : List AuditEvent) : List Char :=
  events.flatMap fun event => event.render.toList ++ ['\n']

/-- Nothing that an event holds can pass for the end of its line, so the lines of a log are the
events that were printed. -/
theorem log_inj {events others : List AuditEvent} : log events = log others ↔ events = others := by
  constructor
  · intro same
    induction events generalizing others with
    | nil =>
      cases others with
      | nil => rfl
      | cons other behind => simp [log] at same
    | cons event rest inductionHypothesis =>
      cases others with
      | nil => simp [log] at same
      | cons other behind =>
        have sameLines : event.render.toList ++ '\n' :: log rest =
            other.render.toList ++ '\n' :: log behind := by
          simpa [log] using same
        obtain ⟨sameLine, sameRest⟩ := lines_inj
          event.printedAs_render.freeOfControls.lineBreak_not_mem
          other.printedAs_render.freeOfControls.lineBreak_not_mem sameLines
        have sameEvent : read event.render = read other.render :=
          congrArg read (String.toList_inj.mp sameLine)
        rw [read_render, read_render] at sameEvent
        rw [Except.ok.inj sameEvent, inductionHypothesis sameRest]
  · exact congrArg log

end AuditEvent

/-- An event is about the task of a manifest, and carries a token. -/
structure AuditEvent.Concerns (event : AuditEvent) (manifest : TaskClaims) (token : String) :
    Prop where
  taskId : event.data.taskId = manifest.taskId
  tenantId : event.data.tenantId = manifest.tenantId
  toolDigest : event.data.toolDigest = manifest.toolDigest
  token : event.data.token = token

/-- The event of a run is about the task of its manifest, and carries its token. -/
theorem Runner.concerns_of_event {σ ε : Type} {runner : Runner σ ε} {manifest : TaskClaims}
    {token : String} {now : Instant} {state : σ × ε} {event : AuditEvent}
    (reported : (runner.run manifest token now state).1.result = .ok event) :
    event.Concerns manifest token := by
  obtain ⟨admitted, outcome, seed, admits, executed, finished, drawn⟩ :=
    finished_of_event reported
  rw [run_of_finished admits executed finished, drawn] at reported
  obtain rfl := Except.ok.inj reported
  exact ⟨(admits.agreed .taskId).symm, (admits.agreed .tenantId).symm,
    (admits.agreed .toolDigest).symm, rfl⟩

namespace CommandLine.Deployment

/-- What a run prints is the line of an event about the task of its manifest, with the token of its
argument. A run that stops prints nothing, and one that has its parts at hand prints what its runner
reports. -/
theorem event_of_run {ε : Type} {deployment : Deployment} {manifest argument : String}
    {registry : Option String} {surroundings : Surroundings ε} {state : Host × ε}
    {line : String}
    (printed : (deployment.run manifest argument registry surroundings state).1.result =
      .ok line) :
    ∃ (event : AuditEvent) (claims : TaskClaims) (token : String),
      line = event.render ∧ event.Concerns claims token ∧
      deployment.manifest manifest = .ok claims ∧ deployment.token argument = .ok token := by
  rcases deployment.readies_or_stops manifest argument registry with
    ⟨ready, readies⟩ | ⟨cause, stops⟩
  · rw [(run_of_readies readies surroundings state).1] at printed
    obtain ⟨event, reported, rendered⟩ := ok_of_map (ok_of_mapError printed)
    exact ⟨event, _, _, rendered.symm, Runner.concerns_of_event reported,
      readies.authenticates.manifest, readies.authenticates.presents.token⟩
  · obtain ⟨records, stopped⟩ := run_of_stops stops surroundings state
    rw [stopped] at printed
    cases printed

/-- Every event is printed on a line that stands for it alone, whatever its texts hold, and lines
that were printed one after another are told apart. A run prints nothing, or the line of one event
with the token that its argument gives. -/
theorem run_prints_event {ε : Type} (deployment : Deployment) (manifest token : String)
    (registry : Option String) (surroundings : Surroundings ε) (state : Host × ε)
    (filter : JournalFilter) :
    (∀ event : AuditEvent, event.PrintedAs event.render) ∧
    (∀ events others, AuditEvent.log events = AuditEvent.log others ↔ events = others) ∧
    (let answer :=
      Answer.ofPerformance filter (deployment.run manifest token registry surroundings state).1
    (∃ cause, answer.result = .error cause ∧ answer.stdout = "") ∨
      ∃ event : AuditEvent, answer.result = .ok event.render ∧
        answer.stdout = event.render ++ "\n" ∧ deployment.token token = .ok event.data.token) := by
  refine ⟨AuditEvent.printedAs_render, fun _ _ => AuditEvent.log_inj, ?_⟩
  intro answer
  cases printed : answer.result with
  | error cause => exact .inl ⟨cause, rfl, by rw [Answer.stdout, printed]⟩
  | ok line =>
    obtain ⟨event, claims, content, rfl, concerns, -, given⟩ := event_of_run printed
    rw [← concerns.token] at given
    exact .inr ⟨event, rfl, by rw [Answer.stdout, printed], given⟩

/-! ## A deployment of which this can be seen -/

/-- What a tool leaves behind that forges an event on a line of its own and clears the terminal. -/
def forged : Outcome where
  exitCode := 0
  stdout := "done\n\x7b\"event_id\":\"forged\"\x7d\n"
  stderr := "\x1B[2J\r"

/-- Surroundings in which every command ends like that. -/
def forging : Surroundings Unit where
  now := ⟨0, 0⟩
  entropy state := (some (Vector.replicate 16 0), state)
  executor _ := ⟨fun _ host => (.ok forged, host), fun _ _ => []⟩
  isPattern _ := true

/-- The sample station with a registry of one record, for the tool that its manifest asks for. -/
def registered : Deployment :=
  ⟨{}, .none, { Station.sample.host with
    system := { Station.sample.host.system with
      nodes := (["work", "registry.json"], .file ⟨0o644, Text.Utf8.encode
        "[\x7b\"tool_sha256\":\"d\",\"authorized\":true\x7d]"⟩) ::
          Station.sample.host.system.nodes } }⟩

def registeredEntry : RegistryEntry := ⟨"", "", "d", "", "", [], [], true⟩

/-- The manifest can be read. What is seen of its claims is enough to find the tool that they ask
for, and to know that they come back from a token. -/
theorem registered_manifest : ∃ claims, registered.manifest "task.json" = .ok claims ∧
    claims.toolDigest = "d" ∧ claims.Portable := by
  let see (claims : TaskClaims) := (claims.toolDigest, claims.parameters.length)
  have found : (registered.manifest "task.json").toOption.map see = some ("d", 0) := by
    decide +kernel
  obtain ⟨claims, read, seen⟩ := exists_ok_of_seen found
  obtain ⟨digest, none⟩ := Prod.mk.inj seen
  exact ⟨claims, read, digest, TaskClaims.portable_of_length none⟩

/-- The registry can be read, and gives the one record. -/
theorem registered_registry : registered.registry "registry.json" = .ok [registeredEntry] :=
  ok_of_toOption (by decide +kernel)

/-- What a run with the token of some claims is put together from. -/
def readied (claims : TaskClaims) (token : String) : Ready :=
  ⟨⟨claims, token, .hs256 [0x6B]⟩, [registeredEntry], Sandbox.simulated⟩

variable {claims : TaskClaims} {token : String}

/-- A run with the token of its manifest is ready: the token is verified with the secret that it was
signed with. -/
theorem readies_registered (read : registered.manifest "task.json" = .ok claims)
    (issued : (Issuer.hs256 [0x6B]).issue claims.toValue = .ok token)
    (accepted : (Verifier.hs256 [0x6B]).verify token = .ok claims) :
    registered.Readies "task.json" token (some "registry.json") (readied claims token) where
  authenticates := ⟨read, ⟨token_of_issue issued, rfl⟩, claims, accepted⟩
  registers := ⟨"registry.json", rfl, registered_registry⟩
  builder := rfl

/-- It makes an event of what the tool left behind: the gate admits the task, the code of the
command is not one of a launcher, and there is a name for the event. -/
theorem event_of_readied (accepted : (Verifier.hs256 [0x6B]).verify token = .ok claims)
    (digest : claims.toolDigest = "d") (state : Host × Unit) :
    ∃ event, (((readied claims token).runner registered forging).run
        (readied claims token).task.manifest (readied claims token).task.token
        forging.now state).1.result = .ok event ∧
      event.data.stdout = forged.stdout ∧ event.data.stderr = forged.stderr := by
  have resolved : Registry.resolve claims.toolDigest [registeredEntry] = .ok registeredEntry := by
    rw [digest]
    rfl
  have unbroken := Sandbox.checkBreakout_simulated
    (rfl : Sandbox.simulated.build registeredEntry claims = .ok _)
  have admits : ((readied claims token).runner registered forging).gate.Admits claims token
      ⟨claims, registeredEntry, _⟩ := ⟨accepted, fun _ => rfl, resolved, rfl, unbroken⟩
  exact ⟨_, Runner.run_of_finished admits rfl List.not_mem_nil forging.now, rfl, rfl⟩

/-- The output of a tool that forges a line is printed inside of the one line of its event, from
which it is read as it was. -/
theorem run_prints_event_forged :
    ∃ (token : String) (event : AuditEvent),
      (Answer.ofPerformance (.downTo .info) (registered.run "task.json" token
        (some "registry.json") forging (registered.host, ())).1).stdout = event.render ++ "\n" ∧
      event.PrintedAs event.render ∧ registered.token token = .ok event.data.token ∧
      event.data.stdout = forged.stdout ∧ event.data.stderr = forged.stderr := by
  obtain ⟨claims, read, digest, portable⟩ := registered_manifest
  have trusted : Issuer.Trusted claims.toValue (.hs256 [0x6B]) (.hs256 [0x6B]) :=
    .hs256 (by decide)
  have accepted := portable.verify_tokenText trusted
  have readies := readies_registered read trusted.issue accepted
  obtain ⟨event, reported, stdout, stderr⟩ :=
    event_of_readied accepted digest (registered.host, ())
  have result := (run_of_readies readies forging (registered.host, ())).1
  rw [reported] at result
  obtain ⟨printed, -, prints⟩ := run_prints_event registered "task.json"
    ((Issuer.hs256 [0x6B]).tokenText claims.toValue) (some "registry.json") forging
    (registered.host, ()) (.downTo .info)
  rcases prints with ⟨cause, failed, -⟩ | ⟨other, same, line, given⟩
  · cases result.symm.trans failed
  · have sameEvent := congrArg AuditEvent.read (Except.ok.inj (same.symm.trans result))
    rw [AuditEvent.read_render, AuditEvent.read_render] at sameEvent
    obtain rfl := Except.ok.inj sameEvent
    exact ⟨_, _, line, printed _, given, stdout, stderr⟩

end CommandLine.Deployment

end Gatehouse
