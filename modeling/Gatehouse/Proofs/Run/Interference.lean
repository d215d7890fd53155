import Mathlib.Logic.Relation
import Gatehouse.Proofs.Registry.Resolution
import Gatehouse.Proofs.Run.Admission

/-!
# What a run does not depend on

Two runs of one token side by side. A manifest has a part in a run through the three
fields that are compared with the token, and a registry through the first authorized
record that carries the verified digest; nothing else of either can be told from what the
runs execute, draw and answer. Records that are not authorized, or that carry another
digest, may come, go, move and change, and a digest without authorization answers like
one that no record carries. The journal is not part of the answer: it tells the operator
of records that are known but not authorized.
-/

namespace Gatehouse

open ReconciledField (Agrees)

namespace Registry

/-- The first record that authorizes a digest. -/
def firstAuthorized? (digest : String) (registry : List RegistryEntry) : Option RegistryEntry :=
  registry.find? fun entry => entry.Authorizes digest

/-- One change of a registry that no record which authorizes a digest has a part in: a record comes
or goes, takes another form, or changes places with one next to it. -/
inductive Change (digest : String) : List RegistryEntry → List RegistryEntry → Prop
  | insert (front back : List RegistryEntry) {entry : RegistryEntry}
      (idle : ¬ entry.Authorizes digest) : Change digest (front ++ back) (front ++ entry :: back)
  | remove (front back : List RegistryEntry) {entry : RegistryEntry}
      (idle : ¬ entry.Authorizes digest) : Change digest (front ++ entry :: back) (front ++ back)
  | edit (front back : List RegistryEntry) {old new : RegistryEntry}
      (idle : ¬ old.Authorizes digest) (stillIdle : ¬ new.Authorizes digest) :
      Change digest (front ++ old :: back) (front ++ new :: back)
  | swap (front back : List RegistryEntry) {first second : RegistryEntry}
      (idle : ¬ first.Authorizes digest ∨ ¬ second.Authorizes digest) :
      Change digest (front ++ first :: second :: back) (front ++ second :: first :: back)

/-- Changes of a registry, one after another. -/
abbrev Changes (digest : String) : List RegistryEntry → List RegistryEntry → Prop :=
  Relation.ReflTransGen (Change digest)

variable {digest : String} {registry other : List RegistryEntry}

/-- What is resolved is the first record that authorizes the digest, and a refusal says that there
is none. -/
theorem resolve_eq_firstAuthorized? (digest : String) (registry : List RegistryEntry) :
    resolve digest registry = match firstAuthorized? digest registry with
      | some entry => .ok entry
      | none => .error .authorizedDigestNotFound := by
  induction registry with
  | nil => rfl
  | cons entry rest inductionHypothesis =>
    rw [resolve, firstAuthorized?, List.find?_cons]
    by_cases authorizes : entry.toolDigest = digest ∧ entry.authorized = true
    · have decided : decide (entry.Authorizes digest) = true := decide_eq_true authorizes
      rw [if_pos authorizes, decided]
    · have decided : decide (entry.Authorizes digest) = false := decide_eq_false authorizes
      rw [if_neg authorizes, decided]
      exact inductionHypothesis

/-- A record that does not authorize the digest is passed over. -/
theorem firstAuthorized?_cons_of_idle {entry : RegistryEntry} (idle : ¬ entry.Authorizes digest)
    (rest : List RegistryEntry) :
    firstAuthorized? digest (entry :: rest) = firstAuthorized? digest rest := by
  rw [firstAuthorized?, List.find?_cons, decide_eq_false idle]
  rfl

/-- Behind a common front, what comes first among the rest decides, unless the front decides
already. By induction on the front. -/
theorem firstAuthorized?_append_congr (front : List RegistryEntry)
    (same : firstAuthorized? digest registry = firstAuthorized? digest other) :
    firstAuthorized? digest (front ++ registry) = firstAuthorized? digest (front ++ other) := by
  simp only [firstAuthorized?, List.find?_append] at same ⊢
  rw [same]

/-- A change of records that do not authorize the digest leaves the first one that does. Such
records may be put in, taken out and replaced anywhere, since the search passes them over. -/
theorem Change.firstAuthorized?_eq (change : Change digest registry other) :
    firstAuthorized? digest registry = firstAuthorized? digest other := by
  cases change with
  | insert front back idle =>
    exact firstAuthorized?_append_congr front (firstAuthorized?_cons_of_idle idle back).symm
  | remove front back idle =>
    exact firstAuthorized?_append_congr front (firstAuthorized?_cons_of_idle idle back)
  | edit front back idle stillIdle =>
    exact firstAuthorized?_append_congr front ((firstAuthorized?_cons_of_idle idle back).trans
      (firstAuthorized?_cons_of_idle stillIdle back).symm)
  | @swap front back first second idle =>
    apply firstAuthorized?_append_congr front
    simp only [firstAuthorized?, List.find?_cons]
    rcases idle with idle | idle
    · rw [decide_eq_false idle]
    · rw [decide_eq_false idle]

/-- So do any number of them, one after another. -/
theorem Changes.firstAuthorized?_eq (changes : Changes digest registry other) :
    firstAuthorized? digest registry = firstAuthorized? digest other := by
  induction changes with
  | refl => rfl
  | tail _ change inductionHypothesis => exact inductionHypothesis.trans change.firstAuthorized?_eq

/-- Where every record of a digest is unauthorized, none authorizes it. -/
theorem firstAuthorized?_of_unauthorized
    (unauthorized : ∀ entry ∈ registry, entry.toolDigest = digest → entry.authorized = false) :
    firstAuthorized? digest registry = none := by
  apply List.find?_eq_none.mpr
  intro entry inside authorizes
  obtain ⟨carries, authorized⟩ := of_decide_eq_true authorizes
  rw [unauthorized entry inside carries] at authorized
  cases authorized

end Registry

/-- An event but for the time at which it was made. -/
def AuditEvent.timeless (event : AuditEvent) : AuditEvent := { event with time := "" }

/-- The clock decides nothing of an event but its time: the name is drawn, and the rest is given by
the content. -/
theorem EventContent.timeless_event (content : EventContent) (seed : EventSeed)
    (now later : Instant) :
    (content.event seed now).timeless = (content.event seed later).timeless := by
  simp only [event, AuditEvent.timeless]

namespace RunReport

/-- Two reports that nothing but the clock tells apart: the same commands with the same results in
the same order, the same draws, and the same error or the same event. -/
structure Indistinguishable (first second : RunReport) : Prop where
  executions : first.executions = second.executions
  draws : first.draws = second.draws
  result : first.result.map AuditEvent.timeless = second.result.map AuditEvent.timeless

end RunReport

namespace Runner

variable {σ ε : Type} {runner : Runner σ ε} {manifest other : TaskClaims} {token : String}

/-- The runner with another registry. -/
def withRegistry (runner : Runner σ ε) (registry : List RegistryEntry) : Runner σ ε :=
  { runner with gate := { runner.gate with registry } }

/-- Manifests that agree in the three fields are reconciled alike, as nothing else of them is
compared. -/
theorem reconcile_congr (sameFields : ∀ field, Agrees manifest other field)
    (verified : TaskClaims) : reconcile manifest verified = reconcile other verified := by
  have sameTask : manifest.taskId = other.taskId := sameFields .taskId
  have sameTenant : manifest.tenantId = other.tenantId := sameFields .tenantId
  have sameDigest : manifest.toolDigest = other.toolDigest := sameFields .toolDigest
  simp only [reconcile, sameTask, sameTenant, sameDigest]

/-- The gate decides alike where the manifests agree in the three fields and the same record
authorizes the verified digest. -/
theorem pass_withRegistry (sameFields : ∀ field, Agrees manifest other field)
    {registry registry' : List RegistryEntry}
    (sameTool : ∀ verified, runner.gate.token.verify token = .ok verified →
      Registry.firstAuthorized? verified.toolDigest registry =
        Registry.firstAuthorized? verified.toolDigest registry') :
    (runner.withRegistry registry).gate.pass manifest token =
      (runner.withRegistry registry').gate.pass other token := by
  have sameVerify (registry : List RegistryEntry) :
      (runner.withRegistry registry).gate.token.verify token = runner.gate.token.verify token := rfl
  cases verified : runner.gate.token.verify token with
  | error cause =>
    rw [Gate.pass, Gate.pass, sameVerify, sameVerify, Gate.check_error verified,
      Gate.check_error verified]
  | ok claims =>
    rw [Gate.pass, Gate.pass, sameVerify, sameVerify, Gate.check_ok verified,
      Gate.check_ok verified, reconcile_congr sameFields]
    cases reconciled : reconcile other claims with
    | error mismatch => rfl
    | ok same =>
      obtain rfl := (agrees_of_reconcile reconciled).1
      have resolved : Registry.resolve same.toolDigest registry =
          Registry.resolve same.toolDigest registry' := by
        rw [Registry.resolve_eq_firstAuthorized?, Registry.resolve_eq_firstAuthorized?,
          sameTool same verified]
      have sameRegistry (registry : List RegistryEntry) :
          (runner.withRegistry registry).gate.registry = registry := rfl
      rw [Gate.check_ok rfl, Gate.check_ok rfl, sameRegistry, sameRegistry, resolved]
      rfl

/-- A launch does not look at the registry: its command was built from the record that was
resolved. -/
theorem launch_withRegistry (registry : List RegistryEntry) (admitted : Admitted) (state : σ) :
    (runner.withRegistry registry).launch admitted state = runner.launch admitted state := rfl

/-- The time of a report is in its event only, so two reports of one outcome differ in nothing
else. -/
theorem report_indistinguishable (runner : Runner σ ε) (token : String)
    (registry registry' : List RegistryEntry) (admitted : Admitted) (now later : Instant)
    (launched other : LaunchReport)
    (sameExecutions : launched.executions = other.executions) (outcome : Outcome) (state : ε) :
    let first := (runner.withRegistry registry).report admitted token now launched outcome state
    let second := (runner.withRegistry registry').report admitted token later other outcome state
    first.1.Indistinguishable second.1 ∧ first.2 = second.2 := by
  cases drawn : runner.entropy state with
  | mk seed next =>
    cases seed with
    | none =>
      simp only [report, withRegistry, EventContent.mapEvent, drawn]
      exact ⟨⟨sameExecutions, rfl, rfl⟩, trivial⟩
    | some seed =>
      simp only [report, withRegistry, EventContent.mapEvent, drawn]
      exact ⟨⟨sameExecutions, rfl, congrArg Except.ok (EventContent.timeless_event _ seed _ _)⟩,
        trivial⟩

/-- Runs whose gates decide alike are indistinguishable and leave the same states. Behind the gate
neither the manifest nor the registry is looked at again. -/
theorem run_indistinguishable {registry registry' : List RegistryEntry}
    (samePass : (runner.withRegistry registry).gate.pass manifest token =
      (runner.withRegistry registry').gate.pass other token)
    (now later : Instant) (state : σ × ε) :
    let first := (runner.withRegistry registry).run manifest token now state
    let second := (runner.withRegistry registry').run other token later state
    first.1.Indistinguishable second.1 ∧ first.2 = second.2 := by
  simp only [run, samePass]
  cases passed : (runner.withRegistry registry').gate.pass other token with
  | error cause => exact ⟨⟨rfl, rfl, rfl⟩, rfl⟩
  | ok admitted =>
    simp only [launch_withRegistry]
    cases launched : (runner.launch admitted state.1).1.result with
    | error cause => exact ⟨⟨rfl, rfl, rfl⟩, rfl⟩
    | ok outcome =>
      -- The two launches differ in what the journal says only.
      have alike (records records' : List Record) := runner.report_indistinguishable token registry
        registry' admitted now later
        ⟨.ok outcome, (runner.launch admitted state.1).1.executions, records⟩
        ⟨.ok outcome, (runner.launch admitted state.1).1.executions, records'⟩ rfl outcome state.2
      dsimp only
      exact ⟨(alike _ _).1, Prod.ext rfl (alike _ _).2⟩

/-- Nothing of a manifest but the three fields that are compared, and nothing of a registry but the
first record that authorizes the verified digest, can be told from a run: two runs that agree in
these execute, draw and answer alike, and leave the same states. So any number of changes of other
records is unobservable, and a digest that is not authorized answers like one that is not
known. -/
theorem indistinguishable_of_agrees (runner : Runner σ ε) (manifest other : TaskClaims)
    (token : String) (registry registry' : List RegistryEntry) (now later : Instant)
    (state : σ × ε) (sameFields : ∀ field, Agrees manifest other field) :
    let first := (runner.withRegistry registry).run manifest token now state
    let second := (runner.withRegistry registry').run other token later state
    let alike := first.1.Indistinguishable second.1 ∧ first.2 = second.2
    ((∀ verified, runner.gate.token.verify token = .ok verified →
      Registry.firstAuthorized? verified.toolDigest registry =
        Registry.firstAuthorized? verified.toolDigest registry') → alike) ∧
    ((∀ verified, runner.gate.token.verify token = .ok verified →
      Registry.Changes verified.toolDigest registry registry') → alike) ∧
    ((∀ verified, runner.gate.token.verify token = .ok verified →
      (∀ entry ∈ registry, entry.toolDigest = verified.toolDigest → entry.authorized = false) ∧
        ∀ entry ∈ registry', entry.toolDigest ≠ verified.toolDigest) → alike) := by
  intro first second alike
  have general (sameTool : ∀ verified, runner.gate.token.verify token = .ok verified →
      Registry.firstAuthorized? verified.toolDigest registry =
        Registry.firstAuthorized? verified.toolDigest registry') : alike :=
    run_indistinguishable (pass_withRegistry sameFields sameTool) now later state
  refine ⟨general, fun changes => general ?_, fun refused => general ?_⟩
  · intro verified vouched
    exact (changes verified vouched).firstAuthorized?_eq
  · intro verified vouched
    obtain ⟨unauthorized, unknown⟩ := refused verified vouched
    rw [Registry.firstAuthorized?_of_unauthorized unauthorized,
      Registry.firstAuthorized?_of_unauthorized fun entry inside carries =>
        absurd carries (unknown entry inside)]

/-- A manifest with another target, and a registry in which an unauthorized record of the same
digest comes first: the sample runner cannot tell them from its own. -/
theorem indistinguishable_of_agrees_sample :
    let tampered := { sampleTool with imageRef := "other:1", authorized := false }
    let answer := sample.run sampleClaims "signed" ⟨0, 0⟩ ([], ())
    let other := (sample.withRegistry [tampered, sampleTool]).run
      { sampleClaims with targetUrn := "urn:elsewhere" } "signed" ⟨60, 0⟩ ([], ())
    answer.1.Indistinguishable other.1 ∧ answer.2 = other.2 := by
  intro tampered answer other
  have idle : ¬ tampered.Authorizes "sha256:def" := fun authorizes => by cases authorizes.2
  have changed : Registry.Changes "sha256:def" [sampleTool] [tampered, sampleTool] :=
    .single (.insert [] [sampleTool] idle)
  refine (indistinguishable_of_agrees sample sampleClaims
    { sampleClaims with targetUrn := "urn:elsewhere" } "signed" [sampleTool] [tampered, sampleTool]
    ⟨0, 0⟩ ⟨60, 0⟩ ([], ()) ?_).2.1 ?_
  · intro field
    cases field <;> rfl
  · intro verified vouched
    have same : sampleClaims = verified := Except.ok.inj vouched
    exact same ▸ changed

end Runner

end Gatehouse
