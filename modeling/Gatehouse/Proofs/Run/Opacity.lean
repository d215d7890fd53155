import Gatehouse.Proofs.Audit.Event
import Gatehouse.Proofs.Audit.Measurement
import Gatehouse.Proofs.Run.Interference
import Gatehouse.Proofs.Run.Removal

/-!
# What a run does not see of a token

Two tokens side by side. Both builders look at no more of the claims than is measured,
and nothing else in a run looks at more: neither the gate, nor the removal of a sandbox,
nor the journal. So the parameters of a task, its nonce and its other opaque fields
cannot be told from what a run executes, draws, answers and says. The token itself is
in the event, where an auditor finds these fields.
-/

namespace Gatehouse

open Measurement (MeasuredAlike)
open ReconciledField (Agrees)

/-- A builder looks at no more of the claims than is measured. -/
structure Builder.SeesMeasured (builder : Builder) : Prop where
  build : ∀ tool claims claims', MeasuredAlike claims claims' →
    builder.build tool claims = builder.build tool claims'
  teardown : ∀ tool claims claims', MeasuredAlike claims claims' →
    builder.teardown tool claims = builder.teardown tool claims'
  records : ∀ tool claims claims', MeasuredAlike claims claims' →
    builder.records tool claims = builder.records tool claims'

namespace Sandbox

/-- The builder of echoes shows the task and the digest of the tool, and both are measured. -/
theorem simulated_seesMeasured : simulated.SeesMeasured where
  build tool claims claims' alike := by
    have sameTask : claims.taskId = claims'.taskId := alike.taskId
    simp only [simulated, sameTask]
  teardown _ _ _ _ := rfl
  records _ _ _ _ := rfl

/-- The builder of containers shows the task, the target and the digest of the tool, all of them
measured. -/
theorem docker_seesMeasured (settings : SandboxSettings) : (docker settings).SeesMeasured where
  build tool claims claims' alike := by
    have sameTask : claims.taskId = claims'.taskId := alike.taskId
    have sameTarget : claims.targetUrn = claims'.targetUrn := alike.targetUrn
    simp only [docker, containerArguments, sameTask, sameTarget]
  teardown tool claims claims' alike := by
    have sameTask : claims.taskId = claims'.taskId := alike.taskId
    simp only [docker, sameTask]
  records tool claims claims' alike := by
    have sameTask : claims.taskId = claims'.taskId := alike.taskId
    simp only [docker, sameTask]

end Sandbox

/-- The fields that are compared are measured, so claims that are measured alike agree in them. -/
theorem Measurement.MeasuredAlike.get_eq {claims claims' : TaskClaims}
    (alike : MeasuredAlike claims claims') (field : ReconciledField) :
    field.get claims = field.get claims' := by
  cases field with
  | taskId => exact alike.taskId
  | tenantId => exact alike.tenantId
  | toolDigest => exact alike.toolDigest

/-- The measurement is a function of the measured fields, the backend and the command. -/
theorem Measurement.MeasuredAlike.hash_eq {claims claims' : TaskClaims}
    (alike : MeasuredAlike claims claims') (backend : Backend) (command : Command) :
    hash claims backend command = hash claims' backend command := by
  rw [hash, hash, text_eq_iff.mpr ⟨rfl, rfl, alike⟩]

/-- Two events that differ in their token and in their time only. -/
def AuditEvent.SameButForToken (event other : AuditEvent) : Prop :=
  other = { event with time := other.time, data.token := other.data.token }

/-- Two results that differ in the token and the time of an event only: the same error, or such
events. -/
inductive RunReport.SameResult :
    Except RunError AuditEvent → Except RunError AuditEvent → Prop
  | error (cause : RunError) : SameResult (.error cause) (.error cause)
  | event {event other : AuditEvent} (same : event.SameButForToken other) :
      SameResult (.ok event) (.ok other)

/-- Two reports that nothing but the token and the time of an event tells apart. -/
structure RunReport.SameButForToken (report other : RunReport) : Prop where
  executions : report.executions = other.executions
  draws : report.draws = other.draws
  records : report.records = other.records
  result : SameResult report.result other.result

/-- Two tasks that were admitted with one command, under claims that are measured alike. -/
structure Admitted.Alike (admitted other : Admitted) : Prop where
  claims : MeasuredAlike admitted.claims other.claims
  tool : admitted.tool = other.tool
  command : admitted.command = other.command

variable {manifest manifest' claims claims' : TaskClaims} {token token' : String}

/-- Manifests and claims that are alike in the compared fields agree alike, as agreement is equality
of a field. -/
theorem ReconciledField.Agrees.congr {field : ReconciledField}
    (agrees : Agrees manifest claims field) (sameManifest : Agrees manifest manifest' field)
    (sameClaims : Agrees claims claims' field) : Agrees manifest' claims' field :=
  (sameManifest.symm.trans agrees).trans sameClaims

/-- They differ first in the same field. -/
theorem FirstDifference.congr {field : ReconciledField}
    (first : FirstDifference manifest claims field)
    (sameManifest : ∀ field, Agrees manifest manifest' field)
    (sameClaims : ∀ field, Agrees claims claims' field) :
    FirstDifference manifest' claims' field where
  differs agrees :=
    first.differs (agrees.congr (sameManifest field).symm (sameClaims field).symm)
  before earlier inFront :=
    (first.before earlier inFront).congr (sameManifest earlier) (sameClaims earlier)

namespace Gate

variable {gate : Gate}

/-- What the gate admits with one token it admits with the other: the digest resolves to the same
tool, and the builder makes the same command of what it sees. -/
theorem Admits.congr {admitted : Admitted} (admits : gate.Admits manifest token admitted)
    (sees : gate.builder.SeesMeasured) (vouched : gate.token.verify token' = .ok claims')
    (alike : MeasuredAlike admitted.claims claims')
    (sameManifest : ∀ field, Agrees manifest manifest' field) :
    gate.Admits manifest' token' ⟨claims', admitted.tool, admitted.command⟩ where
  verified := vouched
  agreed field := (admits.agreed field).congr (sameManifest field) (alike.get_eq field)
  resolved := by
    rw [← admits.resolved]
    exact congrArg (Registry.resolve · gate.registry) alike.toolDigest.symm
  built := (sees.build _ _ _ alike).symm.trans admits.built
  unbroken := admits.unbroken

/-- What the gate refuses with one token it refuses with the other, for the same reason. -/
theorem Refuses.congr {error : RunError} (refused : gate.Refuses manifest token error)
    (sees : gate.builder.SeesMeasured) (vouched : gate.token.verify token = .ok claims)
    (vouched' : gate.token.verify token' = .ok claims') (alike : MeasuredAlike claims claims')
    (sameManifest : ∀ field, Agrees manifest manifest' field) :
    gate.Refuses manifest' token' error := by
  have resolve_eq : Registry.resolve claims'.toolDigest gate.registry =
      Registry.resolve claims.toolDigest gate.registry :=
    congrArg (Registry.resolve · gate.registry) alike.toolDigest.symm
  have sameClaims {verified : TaskClaims} (again : gate.token.verify token = .ok verified) :
      verified = claims := Except.ok.inj (again.symm.trans vouched)
  have agreed' (agreed : ∀ field, Agrees manifest claims field) (field : ReconciledField) :
      Agrees manifest' claims' field :=
    (agreed field).congr (sameManifest field) (alike.get_eq field)
  cases refused with
  | token rejected => cases rejected.symm.trans vouched
  | manifest again mismatched =>
    obtain rfl := sameClaims again
    exact .manifest vouched' (mismatched.congr sameManifest alike.get_eq)
  | authorization again agreed unresolved =>
    obtain rfl := sameClaims again
    exact .authorization vouched' (agreed' agreed) (resolve_eq.trans unresolved)
  | build again agreed resolved unbuilt =>
    obtain rfl := sameClaims again
    exact .build vouched' (agreed' agreed) (resolve_eq.trans resolved)
      ((sees.build _ _ _ alike).symm.trans unbuilt)
  | breakout again agreed resolved built broken =>
    obtain rfl := sameClaims again
    exact .breakout vouched' (agreed' agreed) (resolve_eq.trans resolved)
      ((sees.build _ _ _ alike).symm.trans built) broken

/-- The gate says the same of both in the journal: what it names there is compared or measured. -/
theorem records_congr (sees : gate.builder.SeesMeasured)
    (vouched : gate.token.verify token = .ok claims)
    (vouched' : gate.token.verify token' = .ok claims') (alike : MeasuredAlike claims claims')
    (sameManifest : ∀ field, Agrees manifest manifest' field) :
    gate.records manifest token = gate.records manifest' token' := by
  have sameTask : claims.taskId = claims'.taskId := alike.taskId
  have sameTenant : claims.tenantId = claims'.tenantId := alike.tenantId
  cases reconciled : reconcile manifest claims with
  | error mismatch =>
    have other := reconcile_of_firstDifference
      ((firstDifference_of_reconcile reconciled).congr sameManifest alike.get_eq)
    simp only [records, vouched, vouched', reconciled, other]
  | ok same =>
    obtain ⟨rfl, agreed⟩ := agrees_of_reconcile reconciled
    have other : reconcile manifest' claims' = .ok claims' := reconcile_of_agrees fun field =>
      (agreed field).congr (sameManifest field) (alike.get_eq field)
    simp only [records, verifiedRecord, vouched, vouched', reconciled, other, sameTask, sameTenant,
      alike.toolDigest, sees.build _ _ _ alike, sees.records _ _ _ alike]

end Gate

namespace Runner

variable {σ ε : Type} {runner : Runner σ ε}

/-- A launch looks at the command and at what is measured of the claims. -/
theorem launch_congr {admitted other : Admitted} (sees : runner.gate.builder.SeesMeasured)
    (alike : admitted.Alike other) (state : σ) :
    runner.launch admitted state = runner.launch other state := by
  have sameTask : admitted.claims.taskId = other.claims.taskId := alike.claims.taskId
  have sameOutcome (outcome : Outcome) :
      runner.finishedRecord admitted outcome = runner.finishedRecord other outcome := by
    simp only [finishedRecord, sameTask, alike.command, alike.claims.hash_eq]
  have sameRemoval (result : Except ExecutionError Outcome) :
      teardownRecord admitted.claims result = teardownRecord other.claims result := by
    simp only [teardownRecord, sameTask]
  have sameTeardown (state : σ) : runner.teardown admitted state = runner.teardown other state := by
    simp only [teardown, alike.tool, sees.teardown _ _ _ alike.claims, sameRemoval]
  simp only [launch, alike.command, sameOutcome, sameTeardown]

/-- An event looks at what is measured of the claims, and carries its token and its time. -/
theorem report_congr {admitted other : Admitted} (alike : admitted.Alike other)
    (token token' : String) (now later : Instant) (launched : LaunchReport) (outcome : Outcome)
    (state : ε) :
    (runner.report admitted token now launched outcome state).1.SameButForToken
        (runner.report other token' later launched outcome state).1 ∧
      (runner.report admitted token now launched outcome state).2 =
        (runner.report other token' later launched outcome state).2 := by
  cases drawn : runner.entropy state with
  | mk seed next =>
    cases seed with
    | none =>
      simp only [report, EventContent.mapEvent, drawn]
      exact ⟨⟨rfl, rfl, rfl, .error _⟩, trivial⟩
    | some seed =>
      simp only [report, EventContent.mapEvent, drawn]
      refine ⟨⟨rfl, rfl, rfl, .event ?_⟩, trivial⟩
      have sameTask : admitted.claims.taskId = other.claims.taskId := alike.claims.taskId
      have sameTenant : admitted.claims.tenantId = other.claims.tenantId := alike.claims.tenantId
      simp only [AuditEvent.SameButForToken, EventContent.event, sameTask, sameTenant,
        alike.claims.toolDigest, alike.claims.targetUrn, alike.claims.hash_eq, alike.command]

/-- Runs of two tokens with claims that are measured alike have the same report but for the token
and the time, and leave the same states. -/
theorem run_congr (sees : runner.gate.builder.SeesMeasured)
    (vouched : runner.gate.token.verify token = .ok claims)
    (vouched' : runner.gate.token.verify token' = .ok claims')
    (alike : MeasuredAlike claims claims')
    (sameManifest : ∀ field, Agrees manifest manifest' field) (now later : Instant)
    (state : σ × ε) :
    (runner.run manifest token now state).1.SameButForToken
        (runner.run manifest' token' later state).1 ∧
      (runner.run manifest token now state).2 = (runner.run manifest' token' later state).2 := by
  have sameRecords := Gate.records_congr sees vouched vouched' alike sameManifest
  rcases runner.gate.admits_or_refuses manifest token with ⟨admitted, admits⟩ | ⟨error, refused⟩
  · obtain rfl := Except.ok.inj (admits.verified.symm.trans vouched)
    have admits' := admits.congr sees vouched' alike sameManifest
    have alike : admitted.Alike ⟨claims', admitted.tool, admitted.command⟩ := ⟨alike, rfl, rfl⟩
    simp only [run, Gate.pass_of_admits admits, Gate.pass_of_admits admits', sameRecords,
      launch_congr sees alike]
    cases launched : (runner.launch _ state.1).1.result with
    | error cause => exact ⟨⟨rfl, rfl, rfl, .error _⟩, rfl⟩
    | ok outcome =>
      obtain ⟨same, sameEntropy⟩ :=
        runner.report_congr alike token token' now later _ outcome state.2
      exact ⟨same, Prod.ext rfl sameEntropy⟩
  · have refused' := refused.congr sees vouched vouched' alike sameManifest
    rw [run_of_refuses refused, run_of_refuses refused', sameRecords]
    exact ⟨⟨rfl, rfl, rfl, .error _⟩, rfl⟩

/-- With either builder, nothing of a token but the five measured fields can be told from a run.
Two tokens that are accepted for claims which agree in these, and two manifests which agree in the
three compared fields, give runs that execute the same commands with the same results, draw the
same and say the same, leave the same states, and end with the same error or with events that
differ in the token and in the time only. -/
theorem opaque_fields_unseen (runner : Runner σ ε)
    (known : runner.gate.builder = Sandbox.simulated ∨
      ∃ settings, runner.gate.builder = Sandbox.docker settings)
    (manifest manifest' claims claims' : TaskClaims) (token token' : String) (now later : Instant)
    (state : σ × ε) (vouched : runner.gate.token.verify token = .ok claims)
    (vouched' : runner.gate.token.verify token' = .ok claims')
    (alike : MeasuredAlike claims claims')
    (sameManifest : ∀ field, Agrees manifest manifest' field) :
    let first := runner.run manifest token now state
    let second := runner.run manifest' token' later state
    first.1.SameButForToken second.1 ∧ first.2 = second.2 ∧
      ∀ event other, first.1.result = .ok event → second.1.result = .ok other →
        event.data.measurement = other.data.measurement ∧
          event.data.token = token ∧ other.data.token = token' := by
  intro first second
  have sees : runner.gate.builder.SeesMeasured := by
    rcases known with simulated | ⟨settings, docker⟩
    · exact simulated ▸ Sandbox.simulated_seesMeasured
    · exact docker ▸ Sandbox.docker_seesMeasured settings
  obtain ⟨sameReport, sameState⟩ :=
    runner.run_congr sees vouched vouched' alike sameManifest now later state
  refine ⟨sameReport, sameState, fun event other reported reportedToo => ?_⟩
  have sameResult : RunReport.SameResult (.ok event) (.ok other) :=
    reported ▸ reportedToo ▸ sameReport.result
  cases sameResult with
  | event same =>
    have sameMeasurement := congrArg (·.data.measurement) same
    exact ⟨sameMeasurement.symm, (concerns_of_event reported).token,
      (concerns_of_event reportedToo).token⟩

/-- The claims of the sample with other opaque fields. -/
def renewedClaims : TaskClaims :=
  { sampleClaims with
    context := { sampleClaims.context with source := "portal", action := "probe" }
    nonce := "nonce-2"
    parameters := [("depth", .ofNat 3)]
    issuedAt := "2024-05-01T00:00:00Z"
    manifestVersion := "2" }

/-- The runner that launches containers, with a second token. -/
def renewing : Runner (List (Except ExecutionError Outcome)) Unit :=
  { containers with gate.token := ⟨.hs256, fun token =>
      if token = "signed" then .ok sampleClaims
      else if token = "renewed" then .ok renewedClaims
      else .error .signatureInvalid⟩ }

/-- A task that is signed again with other parameters and another nonce is measured as before. -/
theorem opaque_fields_unseen_renewed :
    let answers := [.ok ⟨3, "found", "", false, false, 0⟩]
    let first := (renewing.run sampleClaims "signed" ⟨0, 0⟩ (answers, ())).1
    let second := (renewing.run renewedClaims "renewed" ⟨60, 0⟩ (answers, ())).1
    ∃ event other, first.result = .ok event ∧ second.result = .ok other ∧
      event.data.measurement = other.data.measurement ∧ event.data.token = "signed" ∧
      other.data.token = "renewed" ∧ first.executions = second.executions := by
  intro answers first second
  have alike : MeasuredAlike sampleClaims renewedClaims := ⟨rfl, rfl, rfl, rfl, rfl⟩
  obtain ⟨same, -, measured⟩ := opaque_fields_unseen renewing (.inr ⟨_, rfl⟩) sampleClaims
    renewedClaims sampleClaims renewedClaims "signed" "renewed" ⟨0, 0⟩ ⟨60, 0⟩ (answers, ()) rfl rfl
    alike alike.get_eq
  have admits : renewing.gate.Admits sampleClaims "signed"
      ⟨sampleClaims, sampleTool, sampleContainer⟩ :=
    ⟨rfl, fun _ => rfl, rfl, rfl, unbroken_sampleContainer⟩
  have reported : first.result = _ := run_of_finished admits rfl (by decide) ⟨0, 0⟩
  have sameResult := same.result
  rw [reported] at sameResult
  obtain ⟨other, reportedToo⟩ : ∃ other, second.result = .ok other := by
    generalize second.result = result at sameResult ⊢
    cases sameResult with
    | event _ => exact ⟨_, rfl⟩
  obtain ⟨measurement, token, token'⟩ := measured _ _ reported reportedToo
  exact ⟨_, _, reported, reportedToo, measurement, token, token', same.executions⟩

end Runner

end Gatehouse
