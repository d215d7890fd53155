/-!
# Parts of a result

A computation that gives a result has gone through all its parts: each of them gave
something, and the result is made of that. One that fails does so for one part. One lemma
for each way of putting computations together takes one part off, so no proof opens them
by cases. Of results in a row the first failure decides.
-/

namespace Gatehouse

variable {α β ε δ : Type} {first : Except ε α}

/-- A changed result is there only if the result was there. -/
theorem ok_of_map {change : α → β} {result : β} (done : first.map change = .ok result) :
    ∃ value, first = .ok value ∧ change value = result := by
  cases first with
  | ok value => exact ⟨value, rfl, Except.ok.inj done⟩
  | error cause => cases done

/-- Changing a result does not change a failure. -/
theorem error_of_map {change : α → β} {cause : ε} (failed : first.map change = .error cause) :
    first = .error cause := by
  cases first with
  | ok value => cases failed
  | error reason => exact congrArg Except.error (Except.error.inj failed)

/-- Two computations in a row succeed only if both do, the second one on what the first one gave.
Every stage of a longer computation is taken off by this lemma. -/
theorem ok_of_bind {next : α → Except ε β} {result : β} (done : first.bind next = .ok result) :
    ∃ value, first = .ok value ∧ next value = .ok result := by
  cases first with
  | ok value => exact ⟨value, rfl, done⟩
  | error cause => cases done

/-- What a failure is called makes no difference to a result. -/
theorem ok_of_mapError {wrap : ε → δ} {result : α} (done : first.mapError wrap = .ok result) :
    first = .ok result := by
  cases first with
  | ok value => exact congrArg Except.ok (Except.ok.inj done)
  | error cause => cases done

/-- What a failure is called makes no difference where there is none. -/
theorem mapError_ok (wrap : ε → δ) (value : α) :
    (.ok value : Except ε α).mapError wrap = .ok value := rfl

/-- A failure is called by the name that it is given. -/
theorem mapError_error (wrap : ε → δ) (reason : ε) :
    (.error reason : Except ε α).mapError wrap = .error (wrap reason) := rfl

/-- Two computations in a row fail with the failure of the first, or with that of the second on what
the first one gave. -/
theorem error_of_bind {next : α → Except ε β} {cause : ε}
    (failed : first.bind next = .error cause) :
    first = .error cause ∨ ∃ value, first = .ok value ∧ next value = .error cause := by
  cases first with
  | ok value => exact .inr ⟨value, rfl, failed⟩
  | error reason => exact .inl (congrArg Except.error (Except.error.inj failed))

/-- Where what comes next never fails, a failure is that of the first part. -/
theorem bind_eq_error_iff {next : α → β} {cause : ε} :
    (first.bind fun value => .ok (next value)) = .error cause ↔ first = .error cause := by
  cases first with
  | ok value => exact iff_of_false nofun nofun
  | error reason =>
    exact ⟨fun same => congrArg Except.error (Except.error.inj same),
      fun same => congrArg Except.error (Except.error.inj same)⟩

/-- A failure that was given a name is the failure of what was computed, under that name. -/
theorem error_of_mapError {wrap : ε → δ} {cause : δ} (failed : first.mapError wrap = .error cause) :
    ∃ reason, first = .error reason ∧ wrap reason = cause := by
  cases first with
  | ok value => cases failed
  | error reason => exact ⟨reason, rfl, Except.error.inj failed⟩

/-- What is there after the failure was forgotten was there before. Options can be compared where
results cannot, because failures need not be comparable. -/
theorem ok_of_toOption {value : α} (found : first.toOption = some value) : first = .ok value := by
  cases first with
  | ok other => exact congrArg Except.ok (Option.some.inj found)
  | error cause => cases found

/-- A computation that is seen to succeed has a result, even where results cannot be compared. -/
theorem exists_ok_of_isOk (done : first.isOk = true) : ∃ value, first = .ok value := by
  cases first with
  | ok value => exact ⟨value, rfl⟩
  | error cause => cases done

/-- Something that is seen of a value is enough to know that there is one. This is how a value that
cannot be compared is computed: by a part of it that can. -/
theorem exists_ok_of_seen {see : α → β} {seen : β}
    (found : first.toOption.map see = some seen) :
    ∃ value, first = .ok value ∧ see value = seen := by
  cases first with
  | ok value => exact ⟨value, rfl, Option.some.inj found⟩
  | error cause => cases found

/-! ## Results in a row -/

/-- Results in a row are all there, or there is a first failure among them. -/
theorem all_ok_or_first_error (results : List (Except ε α)) :
    (∃ values : List α, results = values.map .ok) ∨
      ∃ (values : List α) (cause : ε) (rest : List (Except ε α)),
        results = values.map .ok ++ .error cause :: rest := by
  induction results with
  | nil => exact .inl ⟨[], rfl⟩
  | cons result others inductionHypothesis =>
    cases result with
    | error cause => exact .inr ⟨[], cause, others, rfl⟩
    | ok value =>
      rcases inductionHypothesis with ⟨values, rfl⟩ | ⟨values, cause, rest, rfl⟩
      · exact .inl ⟨value :: values, rfl⟩
      · exact .inr ⟨value :: values, cause, rest, rfl⟩

/-- Where all results are there, so is the list of them. -/
theorem mapM_id_ok (values : List α) :
    (values.map .ok : List (Except ε α)).mapM id = .ok values := by
  induction values with
  | nil => rfl
  | cons value rest inductionHypothesis =>
    rw [List.map_cons, List.mapM_cons, inductionHypothesis]
    rfl

/-- The first failure decides, whatever stands in front of it and behind it. -/
theorem mapM_id_error (values : List α) (cause : ε) (rest : List (Except ε α)) :
    (values.map .ok ++ .error cause :: rest : List (Except ε α)).mapM id = .error cause := by
  induction values with
  | nil => rfl
  | cons value others inductionHypothesis =>
    rw [List.map_cons, List.cons_append, List.mapM_cons, inductionHypothesis]
    rfl

/-- A row of computations fails as the first of them that fails. -/
theorem mapM_eq_error_iff {compute : α → Except ε β} {values : List α} {cause : ε} :
    values.mapM compute = .error cause ↔ ∃ before value behind,
      values = before ++ value :: behind ∧
      (∀ earlier ∈ before, ∃ result, compute earlier = .ok result) ∧
      compute value = .error cause := by
  induction values with
  | nil =>
    refine iff_of_false (fun failed => ?_) ?_
    · cases failed
    · rintro ⟨before, value, behind, split, -⟩
      exact absurd split (by simp)
  | cons first rest inductionHypothesis =>
    rw [List.mapM_cons]
    cases computed : compute first with
    | error reason =>
      constructor
      · intro failed
        obtain rfl : reason = cause := Except.error.inj failed
        exact ⟨[], first, rest, rfl, by simp, computed⟩
      · rintro ⟨before, value, behind, split, done, failed⟩
        cases before with
        | nil =>
          obtain ⟨rfl, rfl⟩ := List.cons.inj split
          obtain rfl : reason = cause := Except.error.inj (computed.symm.trans failed)
          rfl
        | cons earlier others =>
          obtain ⟨rfl, rfl⟩ := List.cons.inj split
          obtain ⟨result, succeeded⟩ := done _ List.mem_cons_self
          cases computed.symm.trans succeeded
    | ok result =>
      refine bind_eq_error_iff.trans (inductionHypothesis.trans ?_)
      constructor
      · rintro ⟨before, value, behind, rfl, done, failed⟩
        refine ⟨first :: before, value, behind, rfl, ?_, failed⟩
        exact List.forall_mem_cons.mpr ⟨⟨result, computed⟩, done⟩
      · rintro ⟨before, value, behind, split, done, failed⟩
        cases before with
        | nil =>
          obtain ⟨rfl, -⟩ := List.cons.inj split
          cases computed.symm.trans failed
        | cons earlier others =>
          obtain ⟨rfl, rfl⟩ := List.cons.inj split
          exact ⟨others, value, behind, rfl, (List.forall_mem_cons.mp done).2, failed⟩

end Gatehouse
