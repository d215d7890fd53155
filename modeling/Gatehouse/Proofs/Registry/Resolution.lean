import Gatehouse.Registry

/-!
# Which record is resolved

A digest resolves to the first record that both carries it and is authorized; records in
front of that one are passed over, whatever keeps them from being both, and nothing
behind it is looked at. A digest is refused exactly when no record is both. So records
that are not authorized have no part in an answer: the authorized ones alone give it.
-/

namespace Gatehouse

/-- A record authorizes a digest: it carries it and is marked as authorized. -/
def RegistryEntry.Authorizes (digest : String) (entry : RegistryEntry) : Prop :=
  entry.toolDigest = digest ∧ entry.authorized = true

instance (digest : String) (entry : RegistryEntry) : Decidable (entry.Authorizes digest) :=
  inferInstanceAs (Decidable (_ ∧ _))

namespace Registry

variable {digest : String} {registry front : List RegistryEntry} {entry : RegistryEntry}

/-- A record that authorizes the digest ends the search. -/
theorem resolve_cons_of_authorizes (authorizes : entry.Authorizes digest)
    (rest : List RegistryEntry) : resolve digest (entry :: rest) = .ok entry :=
  if_pos authorizes

/-- Any other record is passed over, authorized for another digest or not at all. -/
theorem resolve_cons_of_idle (idle : ¬ entry.Authorizes digest) (rest : List RegistryEntry) :
    resolve digest (entry :: rest) = resolve digest rest :=
  if_neg idle

/-- Any number of records that do not authorize the digest are passed over. By induction on those in
front. -/
theorem resolve_append_of_idle (idle : ∀ earlier ∈ front, ¬ earlier.Authorizes digest)
    (rest : List RegistryEntry) : resolve digest (front ++ rest) = resolve digest rest := by
  induction front with
  | nil => rfl
  | cons first others inductionHypothesis =>
    have firstIdle := idle first List.mem_cons_self
    have othersIdle : ∀ earlier ∈ others, ¬ earlier.Authorizes digest :=
      fun earlier inside => idle earlier (List.mem_cons_of_mem first inside)
    rw [List.cons_append, resolve_cons_of_idle firstIdle, inductionHypothesis othersIdle]

/-- What is resolved splits the registry: no record in front of it authorizes the digest. By
induction on the registry, each record of which ends the search or is passed over. -/
theorem split_of_resolve (resolved : resolve digest registry = .ok entry) :
    ∃ front back, registry = front ++ [entry] ++ back ∧ entry.Authorizes digest ∧
      ∀ earlier ∈ front, ¬ earlier.Authorizes digest := by
  induction registry with
  | nil => cases resolved
  | cons first rest inductionHypothesis =>
    by_cases authorizes : first.Authorizes digest
    · rw [resolve_cons_of_authorizes authorizes] at resolved
      obtain rfl := Except.ok.inj resolved
      exact ⟨[], rest, rfl, authorizes, by simp⟩
    · rw [resolve_cons_of_idle authorizes] at resolved
      obtain ⟨front, back, rfl, carries, idle⟩ := inductionHypothesis resolved
      exact ⟨first :: front, back, rfl, carries, List.forall_mem_cons.mpr ⟨authorizes, idle⟩⟩

/-- The record at such a split is the one that is resolved. -/
theorem resolve_split (authorizes : entry.Authorizes digest)
    (idle : ∀ earlier ∈ front, ¬ earlier.Authorizes digest) (back : List RegistryEntry) :
    resolve digest (front ++ [entry] ++ back) = .ok entry := by
  rw [List.append_assoc, resolve_append_of_idle idle]
  exact resolve_cons_of_authorizes authorizes back

/-- What is resolved is an authorized record of the registry with the digest. -/
theorem of_resolve (resolved : resolve digest registry = .ok entry) :
    entry ∈ registry ∧ entry.authorized = true ∧ entry.toolDigest = digest := by
  obtain ⟨front, back, rfl, ⟨carries, authorized⟩, -⟩ := split_of_resolve resolved
  exact ⟨by simp, authorized, carries⟩

/-- A digest is refused exactly when no record authorizes it. A registry without such a record is
passed over as a whole, and one that is not refused holds what was resolved. -/
theorem resolve_eq_error_iff : resolve digest registry = .error .authorizedDigestNotFound ↔
    ∀ entry ∈ registry, ¬ entry.Authorizes digest := by
  constructor
  · intro refused
    induction registry with
    | nil => simp
    | cons first rest inductionHypothesis =>
      by_cases authorizes : first.Authorizes digest
      · rw [resolve_cons_of_authorizes authorizes] at refused
        cases refused
      · rw [resolve_cons_of_idle authorizes] at refused
        exact List.forall_mem_cons.mpr ⟨authorizes, inductionHypothesis refused⟩
  · intro idle
    have passed := resolve_append_of_idle idle []
    rwa [List.append_nil] at passed

/-- Among the authorized records the digest alone is looked up: filtering them first and comparing
digests then finds the record that the search over both finds. -/
theorem toOption_resolve (digest : String) (registry : List RegistryEntry) :
    (resolve digest registry).toOption =
      (registry.filter (·.authorized)).find? (·.toolDigest == digest) := by
  induction registry with
  | nil => rfl
  | cons first rest inductionHypothesis =>
    by_cases authorized : first.authorized = true
    · rw [List.filter_cons_of_pos authorized, List.find?_cons]
      by_cases carries : first.toolDigest = digest
      · rw [resolve_cons_of_authorizes ⟨carries, authorized⟩, beq_iff_eq.mpr carries]
        rfl
      · have idle : ¬ first.Authorizes digest := fun authorizes => carries authorizes.1
        rw [resolve_cons_of_idle idle, beq_eq_false_iff_ne.mpr carries]
        exact inductionHypothesis
    · have idle : ¬ first.Authorizes digest := fun authorizes => authorized authorizes.2
      rw [List.filter_cons_of_neg authorized, resolve_cons_of_idle idle, inductionHypothesis]

/-- An answer says no more than what was found, because a refusal has one reason only. -/
theorem eq_of_toOption_eq {first second : Except AuthorizationError RegistryEntry}
    (same : first.toOption = second.toOption) : first = second := by
  match first, second with
  | .ok _, .ok _ => exact congrArg Except.ok (Option.some.inj same)
  | .error .authorizedDigestNotFound, .error .authorizedDigestNotFound => rfl

/-- So registries with the same authorized records give the same answer. -/
theorem resolve_congr {other : List RegistryEntry}
    (same : other.filter (·.authorized) = registry.filter (·.authorized)) :
    resolve digest other = resolve digest registry := by
  apply eq_of_toOption_eq
  rw [toOption_resolve, toOption_resolve, same]

/-- A record that was found stays the one that is found, whatever comes behind the registry. -/
theorem resolve_append (resolved : resolve digest registry = .ok entry)
    (more : List RegistryEntry) : resolve digest (registry ++ more) = .ok entry := by
  obtain ⟨front, back, rfl, authorizes, idle⟩ := split_of_resolve resolved
  rw [List.append_assoc]
  exact resolve_split authorizes idle (back ++ more)

/-- The first record that authorizes a digest is resolved, and none only if there is none. The
authorized records alone decide, and among them the digest alone: others may stand in front of
them, between and behind, and so may anything that is put behind the registry. -/
theorem resolves_first_authorized (digest : String) (registry : List RegistryEntry) :
    (∀ entry, resolve digest registry = .ok entry ↔
      ∃ front back, registry = front ++ [entry] ++ back ∧ entry.Authorizes digest ∧
        ∀ earlier ∈ front, ¬ earlier.Authorizes digest) ∧
    (resolve digest registry = .error .authorizedDigestNotFound ↔
      ∀ entry ∈ registry, ¬ entry.Authorizes digest) ∧
    resolve digest registry = resolve digest (registry.filter (·.authorized)) ∧
    (resolve digest registry).toOption =
      (registry.filter (·.authorized)).find? (·.toolDigest == digest) ∧
    (∀ other : List RegistryEntry,
      other.filter (·.authorized) = registry.filter (·.authorized) →
        resolve digest other = resolve digest registry) ∧
    ∀ entry more, resolve digest registry = .ok entry →
      resolve digest (registry ++ more) = .ok entry := by
  have authorizedTwice : (registry.filter (·.authorized)).filter (·.authorized) =
      registry.filter (·.authorized) := by
    simp only [List.filter_filter, Bool.and_self]
  refine ⟨fun entry => ⟨split_of_resolve, ?atSplit⟩, resolve_eq_error_iff,
    (resolve_congr authorizedTwice).symm, toOption_resolve digest registry,
    fun other same => resolve_congr same, fun entry more resolved => resolve_append resolved more⟩
  rintro ⟨front, back, rfl, authorizes, idle⟩
  exact resolve_split authorizes idle back

end Registry

end Gatehouse
