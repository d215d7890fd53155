import Gatehouse.Audit.Measurement
import Gatehouse.Proofs.Json.ReadBack
import Gatehouse.Proofs.Text.Hex
import Gatehouse.Proofs.Text.Utf8

/-!
# What a measurement tells apart

The text that is measured spells one document, and every part of the launch stands in a
place of its own there. So the text can be taken apart again: no choice of arguments or
names moves a boundary between two of them, and launches with one text agree in
everything that is measured. Whatever is not in the text has no influence on the
measurement, and launches that are told apart by the text have one measurement only
where the hash of two different messages is the same.
-/

namespace Gatehouse.Measurement

open Json

/-- Two sets of claims agree in the fields that are measured. -/
structure MeasuredAlike (first second : TaskClaims) : Prop where
  operatorId : first.context.operatorId = second.context.operatorId
  targetUrn : first.targetUrn = second.targetUrn
  taskId : first.taskId = second.taskId
  tenantId : first.tenantId = second.tenantId
  toolDigest : first.toolDigest = second.toolDigest

/-- Two launches agree in everything that is measured: the backend, the whole command and the
measured fields of the claims. -/
structure SameLaunch (claims claims' : TaskClaims) (backend backend' : Backend)
    (command command' : Command) : Prop where
  backend : backend = backend'
  argv : command.argv = command'.argv
  claims : MeasuredAlike claims claims'

/-- Two different messages with one hash. -/
def Collides (first second : List UInt8) : Prop :=
  first ≠ second ∧ Hash.sha256 first = Hash.sha256 second

variable {claims claims' : TaskClaims} {backend backend' : Backend} {command command' : Command}

/-- No two backends share a name. -/
theorem backend_name_inj : backend.name = backend'.name ↔ backend = backend' := by
  cases backend <;> cases backend' <;> decide

/-- All that is measured is text. -/
theorem exact_value (claims : TaskClaims) (backend : Backend) (command : Command) :
    (value claims backend command).Exact := by
  have arguments : (Value.list (command.argv.map .text)).Exact := by
    apply Value.exact_list
    intro item inside
    obtain ⟨argument, -, rfl⟩ := List.mem_map.mp inside
    exact Value.exact_text argument
  apply Value.exact_object
  simp [Value.exact_text, arguments]

/-- Each measured part stands in its own place of the value, so values are equal part by part. -/
theorem value_eq_iff : value claims backend command = value claims' backend' command' ↔
    SameLaunch claims claims' backend backend' command command' := by
  have sameArguments : command.argv.map Value.text = command'.argv.map Value.text ↔
      command.argv = command'.argv :=
    List.map_inj_right fun _ _ => Value.text.inj
  constructor
  · intro same
    simp only [value, Value.object.injEq, List.cons.injEq, Prod.mk.injEq, true_and, and_true,
      Value.text.injEq, Value.list.injEq, sameArguments, backend_name_inj] at same
    obtain ⟨backends, argvs, operators, targets, tasks, tenants, digests⟩ := same
    exact ⟨backends, argvs, operators, targets, tasks, tenants, digests⟩
  · rintro ⟨rfl, argvs, operators, targets, tasks, tenants, digests⟩
    rw [value, value, argvs, operators, targets, tasks, tenants, digests]

/-- Launches have one text exactly when they agree in everything that is measured. Their values are
exact, so one text stands for one of them, whatever their texts hold. -/
theorem text_eq_iff : text claims backend command = text claims' backend' command' ↔
    SameLaunch claims claims' backend backend' command command' :=
  (Value.render_inj (exact_value ..) (exact_value ..)).trans value_eq_iff

/-- Measurements are equal exactly when the hashes of the texts are, because their digits are. -/
theorem hash_eq_iff : hash claims backend command = hash claims' backend' command' ↔
    Hash.sha256 (Text.Utf8.encode (text claims backend command)) =
      Hash.sha256 (Text.Utf8.encode (text claims' backend' command')) :=
  Text.Hex.encode_inj

/-- The measured text is an unambiguous encoding. Launches have one text exactly when they agree in
the backend, the whole command and five fields of the claims; they have one measurement exactly
when they agree in these or their texts collide; and no other field of the claims has any influence
on the measurement. -/
theorem text_unambiguous (claims claims' : TaskClaims) (backend backend' : Backend)
    (command command' : Command) :
    (text claims backend command = text claims' backend' command' ↔
      SameLaunch claims claims' backend backend' command command') ∧
    (hash claims backend command = hash claims' backend' command' ↔
      SameLaunch claims claims' backend backend' command command' ∨
        Collides (Text.Utf8.encode (text claims backend command))
          (Text.Utf8.encode (text claims' backend' command'))) ∧
    ∀ source action nonce parameters issuedAt manifestVersion,
      hash { claims with
        context := { claims.context with source, action }
        nonce, parameters, issuedAt, manifestVersion } backend command =
      hash claims backend command := by
  refine ⟨text_eq_iff, ⟨?apart, ?alike⟩, ?ignored⟩
  case apart =>
    intro same
    by_cases sameText : text claims backend command = text claims' backend' command'
    · exact .inl (text_eq_iff.mp sameText)
    · have differ : Text.Utf8.encode (text claims backend command) ≠
          Text.Utf8.encode (text claims' backend' command') := by
        intro sameOctets
        exact sameText (Text.Utf8.encode_inj.mp sameOctets)
      exact .inr ⟨differ, hash_eq_iff.mp same⟩
  case alike =>
    rintro (launch | collision)
    · rw [hash, hash, text_eq_iff.mpr launch]
    · exact hash_eq_iff.mpr collision.2
  case ignored =>
    -- The value has no member for any of these fields.
    intro source action nonce parameters issuedAt manifestVersion
    rfl

end Gatehouse.Measurement
