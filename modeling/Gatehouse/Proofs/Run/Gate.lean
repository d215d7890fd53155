import Gatehouse.Run.Gate

/-!
# What the gate decides

Who is admitted, and why anyone else is not, as two relations that do not speak of how
the gate computes. A task is admitted when all five checks succeed. It is refused for
the first of them that fails, and each way to be refused says that the checks in front
of it succeeded, so a task is refused for one reason only. The gate decides both
relations.
-/

namespace Gatehouse

/-- The place of a field in the order of comparison. -/
def ReconciledField.place : ReconciledField → Nat
  | .taskId => 0
  | .tenantId => 1
  | .toolDigest => 2

/-- A manifest and verified claims agree in a field. -/
def ReconciledField.Agrees (manifest verified : TaskClaims) (field : ReconciledField) : Prop :=
  field.get manifest = field.get verified

instance (manifest verified : TaskClaims) (field : ReconciledField) :
    Decidable (field.Agrees manifest verified) :=
  inferInstanceAs (Decidable (field.get manifest = field.get verified))

open ReconciledField (Agrees)

/-- A field is the first in which a manifest and verified claims differ. -/
structure FirstDifference (manifest verified : TaskClaims) (field : ReconciledField) : Prop where
  differs : ¬ Agrees manifest verified field
  before : ∀ earlier, earlier.place < field.place → Agrees manifest verified earlier

variable {manifest verified claims : TaskClaims} {field : ReconciledField}

/-- There is only one first difference: of two, neither may stand in front of the other, and fields
in one place are one field. -/
theorem FirstDifference.unique {other : ReconciledField}
    (first : FirstDifference manifest verified field)
    (second : FirstDifference manifest verified other) : field = other := by
  have notBefore : ¬ field.place < other.place := fun before =>
    first.differs (second.before field before)
  have notBehind : ¬ other.place < field.place := fun before =>
    second.differs (first.before other before)
  have samePlace : field.place = other.place := by omega
  cases field <;> cases other <;> first | rfl | cases samePlace

/-- What is reconciled is the verified claims, where a manifest agrees with them in every field. So
the manifest has no part in the result. -/
theorem agrees_of_reconcile (reconciled : reconcile manifest verified = .ok claims) :
    claims = verified ∧ ∀ field, Agrees manifest verified field := by
  unfold reconcile at reconciled
  split at reconciled
  · cases reconciled
  · next sameTask =>
    split at reconciled
    · cases reconciled
    · next sameTenant =>
      split at reconciled
      · cases reconciled
      · next sameDigest =>
        refine ⟨(Except.ok.inj reconciled).symm, fun field => ?_⟩
        cases field with
        | taskId => exact Decidable.not_not.mp sameTask
        | tenantId => exact Decidable.not_not.mp sameTenant
        | toolDigest => exact Decidable.not_not.mp sameDigest

/-- The mismatch that is reported is the first difference. One case for each comparison, with those
in front of it known to agree. -/
theorem firstDifference_of_reconcile (mismatched : reconcile manifest verified = .error ⟨field⟩) :
    FirstDifference manifest verified field := by
  unfold reconcile at mismatched
  split at mismatched
  · next otherTask =>
    obtain rfl := ManifestMismatch.mk.inj (Except.error.inj mismatched)
    exact ⟨otherTask, fun _ before => absurd before (Nat.not_lt_zero _)⟩
  · next sameTask =>
    have sameTask := Decidable.not_not.mp sameTask
    split at mismatched
    · next otherTenant =>
      obtain rfl := ManifestMismatch.mk.inj (Except.error.inj mismatched)
      refine ⟨otherTenant, fun earlier before => ?_⟩
      cases earlier with
      | taskId => exact sameTask
      | tenantId => exact absurd before (Nat.lt_irrefl _)
      | toolDigest => exact absurd before (by decide)
    · next sameTenant =>
      have sameTenant := Decidable.not_not.mp sameTenant
      split at mismatched
      · next otherDigest =>
        obtain rfl := ManifestMismatch.mk.inj (Except.error.inj mismatched)
        refine ⟨otherDigest, fun earlier before => ?_⟩
        cases earlier with
        | taskId => exact sameTask
        | tenantId => exact sameTenant
        | toolDigest => exact absurd before (Nat.lt_irrefl _)
      · cases mismatched

/-- Claims are reconciled with every manifest that agrees with them. -/
theorem reconcile_of_agrees (agree : ∀ field, Agrees manifest verified field) :
    reconcile manifest verified = .ok verified := by
  cases reconciled : reconcile manifest verified with
  | ok claims => rw [(agrees_of_reconcile reconciled).1]
  | error mismatch =>
    exact absurd (agree mismatch.field) (firstDifference_of_reconcile reconciled).differs

/-- The first difference is the mismatch that is reported. -/
theorem reconcile_of_firstDifference (first : FirstDifference manifest verified field) :
    reconcile manifest verified = .error ⟨field⟩ := by
  cases reconciled : reconcile manifest verified with
  | ok claims => exact absurd ((agrees_of_reconcile reconciled).2 field) first.differs
  | error mismatch => rw [first.unique (firstDifference_of_reconcile reconciled)]

namespace Gate

/-- A task is admitted: every check succeeds, and the tool and the command come from the claims of
the token. -/
structure Admits (gate : Gate) (manifest : TaskClaims) (token : String) (admitted : Admitted) :
    Prop where
  verified : gate.token.verify token = .ok admitted.claims
  agreed : ∀ field, Agrees manifest admitted.claims field
  resolved : Registry.resolve admitted.claims.toolDigest gate.registry = .ok admitted.tool
  built : gate.builder.build admitted.tool admitted.claims = .ok admitted.command
  unbroken : checkBreakout admitted.command = .ok ()

/-- A task is refused by the first check that fails. -/
inductive Refuses (gate : Gate) (manifest : TaskClaims) (token : String) : RunError → Prop
  | token {cause : TokenError} (rejected : gate.token.verify token = .error cause) :
      Refuses gate manifest token (.token cause)
  | manifest {verified : TaskClaims} {field : ReconciledField}
      (vouched : gate.token.verify token = .ok verified)
      (mismatched : FirstDifference manifest verified field) :
      Refuses gate manifest token (.manifest ⟨field⟩)
  | authorization {verified : TaskClaims} {cause : AuthorizationError}
      (vouched : gate.token.verify token = .ok verified)
      (agreed : ∀ field, Agrees manifest verified field)
      (unresolved : Registry.resolve verified.toolDigest gate.registry = .error cause) :
      Refuses gate manifest token (.authorization cause)
  | build {verified : TaskClaims} {tool : RegistryEntry} {cause : SandboxError}
      (vouched : gate.token.verify token = .ok verified)
      (agreed : ∀ field, Agrees manifest verified field)
      (resolved : Registry.resolve verified.toolDigest gate.registry = .ok tool)
      (unbuilt : gate.builder.build tool verified = .error cause) :
      Refuses gate manifest token (.sandbox cause)
  | breakout {verified : TaskClaims} {tool : RegistryEntry} {command : Command}
      {cause : SandboxError}
      (vouched : gate.token.verify token = .ok verified)
      (agreed : ∀ field, Agrees manifest verified field)
      (resolved : Registry.resolve verified.toolDigest gate.registry = .ok tool)
      (built : gate.builder.build tool verified = .ok command)
      (broken : checkBreakout command = .error cause) :
      Refuses gate manifest token (.sandbox cause)

variable {gate : Gate} {manifest : TaskClaims} {token : String}

section

variable {ε α β : Type} {outcome : Except ε α}

/-- What a check finds is handed on. With the next lemma, the gate can be followed check by check
without unfolding how errors are passed. -/
theorem check_ok {found : α} (succeeded : outcome = .ok found) (wrap : ε → RunError)
    (next : α → Except RunError β) : (outcome.mapError wrap >>= next) = next found := by
  rw [succeeded]
  rfl

/-- What a check fails for ends the gate. -/
theorem check_error {cause : ε} (failed : outcome = .error cause) (wrap : ε → RunError)
    (next : α → Except RunError β) :
    (outcome.mapError wrap >>= next) = .error (wrap cause) := by
  rw [failed]
  rfl

end

/-- The gate lets pass what is admitted: all five checks succeed, and their results are those of the
admission. -/
theorem pass_of_admits {admitted : Admitted} (admits : gate.Admits manifest token admitted) :
    gate.pass manifest token = .ok admitted := by
  rw [pass, check_ok admits.verified, check_ok (reconcile_of_agrees admits.agreed),
    check_ok admits.resolved, check_ok admits.built, check_ok admits.unbroken]
  rfl

/-- The gate turns away what is refused, with the error that it is refused for: the checks in front
of the one that fails succeed. -/
theorem pass_of_refuses {error : RunError} (refused : gate.Refuses manifest token error) :
    gate.pass manifest token = .error error := by
  cases refused with
  | token rejected => rw [pass, check_error rejected]
  | manifest verified mismatched =>
    rw [pass, check_ok verified, check_error (reconcile_of_firstDifference mismatched)]
  | authorization verified agreed unresolved =>
    rw [pass, check_ok verified, check_ok (reconcile_of_agrees agreed), check_error unresolved]
  | build verified agreed resolved unbuilt =>
    rw [pass, check_ok verified, check_ok (reconcile_of_agrees agreed), check_ok resolved,
      check_error unbuilt]
  | breakout verified agreed resolved built broken =>
    rw [pass, check_ok verified, check_ok (reconcile_of_agrees agreed), check_ok resolved,
      check_ok built, check_error broken]

/-- Every task is admitted or refused. The five checks are gone through in their order, and the
first that fails gives the reason. -/
theorem admits_or_refuses (gate : Gate) (manifest : TaskClaims) (token : String) :
    (∃ admitted, gate.Admits manifest token admitted) ∨
      ∃ error, gate.Refuses manifest token error := by
  cases verified : gate.token.verify token with
  | error cause => exact .inr ⟨_, .token verified⟩
  | ok claims =>
    cases reconciled : reconcile manifest claims with
    | error mismatch =>
      exact .inr ⟨_, .manifest verified (firstDifference_of_reconcile reconciled)⟩
    | ok same =>
      have agreed := (agrees_of_reconcile reconciled).2
      cases resolved : Registry.resolve claims.toolDigest gate.registry with
      | error cause => exact .inr ⟨_, .authorization verified agreed resolved⟩
      | ok tool =>
        cases built : gate.builder.build tool claims with
        | error cause => exact .inr ⟨_, .build verified agreed resolved built⟩
        | ok command =>
          cases unbroken : checkBreakout command with
          | error cause => exact .inr ⟨_, .breakout verified agreed resolved built unbroken⟩
          | ok _ =>
            exact .inl ⟨⟨claims, tool, command⟩, verified, agreed, resolved, built, unbroken⟩

/-- The gate passes exactly what is admitted, because what is not admitted is refused. -/
theorem pass_eq_ok_iff {admitted : Admitted} :
    gate.pass manifest token = .ok admitted ↔ gate.Admits manifest token admitted := by
  constructor
  · intro passed
    rcases gate.admits_or_refuses manifest token with ⟨other, admits⟩ | ⟨error, refused⟩
    · obtain rfl := Except.ok.inj ((pass_of_admits admits).symm.trans passed)
      exact admits
    · have both := (pass_of_refuses refused).symm.trans passed
      cases both
  · exact pass_of_admits

/-- A task is admitted with one tool and one command, as the gate gives one answer. -/
theorem Admits.unique {first second : Admitted} (admits : gate.Admits manifest token first)
    (admitsToo : gate.Admits manifest token second) : first = second :=
  Except.ok.inj ((pass_of_admits admits).symm.trans (pass_of_admits admitsToo))

/-- A task is refused for one reason, for the same cause. -/
theorem Refuses.unique {first second : RunError} (refused : gate.Refuses manifest token first)
    (refusedToo : gate.Refuses manifest token second) : first = second :=
  Except.error.inj ((pass_of_refuses refused).symm.trans (pass_of_refuses refusedToo))

/-- No task is both admitted and refused: the gate would give two answers. -/
theorem Admits.not_refuses {admitted : Admitted} {error : RunError}
    (admits : gate.Admits manifest token admitted) : ¬ gate.Refuses manifest token error := by
  intro refused
  have both := (pass_of_admits admits).symm.trans (pass_of_refuses refused)
  cases both

end Gate

end Gatehouse
