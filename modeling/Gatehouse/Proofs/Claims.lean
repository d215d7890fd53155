import Gatehouse.Claims
import Gatehouse.Proofs.Json.ReadForm
import Gatehouse.Proofs.Json.Unambiguous

/-!
# Claims in a document

A record is looked up by the names of its fields, so the order of its members does not
matter as long as no name occurs twice. The claims of a task therefore come back from
the sorted form of their value as they were, parameters included, because the parameters
of a document are sorted already. What a manifest gives is always of that form and
within the limit of nesting that a reader has.
-/

namespace Gatehouse

open Json

namespace Json.Schema

/-- A table of anything conforms as it is: its members may hold any value, and so may the items and
members inside of these. -/
theorem conform?_table_any (members : List (String × Value)) :
    conform? (.table .any) (.object members) = some (.object members) := by
  have kept : members.mapM (fun (member : String × Value) =>
      (conform? .any member.2).map fun form => (member.1, form)) = some members := by
    induction members with
    | nil => rfl
    | cons member rest inductionHypothesis =>
      rw [List.mapM_cons, inductionHypothesis]
      rfl
  rw [conform?, kept]
  rfl

/-- A field that is found and conforms is the next member of the form of a record. -/
theorem conformMembers?_cons {name : String} {mayBeAbsent : Bool} {schema : Schema}
    {rest : List Field} {members forms : List (String × Value)} {value form : Value}
    (found : find? name members = some value) (conforms : schema.conform? value = some form)
    (others : conformMembers? rest members = some forms) :
    conformMembers? ((name, mayBeAbsent, schema) :: rest) members =
      some ((name, form) :: forms) := by
  rw [conformMembers?, found, others]
  simp only [conforms, bind, Option.bind, pure]

end Json.Schema

/-- The value of a context has its form, in whichever order its members stand. -/
theorem TaskContext.conform?_sorted (context : TaskContext) :
    schema.conform? context.toValue.sorted = some context.toValue := by
  rw [toValue, Value.sorted, schema]
  refine (Schema.conform?_record_insertAll (once_of_nodup ?distinct) _).trans ?conforms
  case distinct =>
    show ["task_id", "tenant_id", "operator_id", "source", "action"].Nodup
    decide
  case conforms => rfl

namespace TaskClaims

/-- The parameters of claims are as a document holds them, without floating point numbers, and the
claims as a whole are nested no deeper than a reader goes. -/
structure Portable (claims : TaskClaims) : Prop where
  canonical : (Value.object claims.parameters).Canonical
  floatFree : (Value.object claims.parameters).FloatFree
  nested : claims.toValue.depth ≤ Reader.nestingLimit

/-- The members of the value of claims, each sorted. -/
def sortedFields (claims : TaskClaims) : List (String × Value) := [
  ("task_context", claims.context.toValue.sorted),
  ("target_urn", .text claims.targetUrn),
  ("tool_sha256", .text claims.toolDigest),
  ("nonce", .text claims.nonce),
  ("parameters", .object claims.parameters),
  ("issued_at", .text claims.issuedAt),
  ("manifest_version", .text claims.manifestVersion)]

/-- The value of claims with its members in order is that of its fields, put into an object one by
one. The parameters stay as they are, because canonical parameters are sorted already. -/
theorem sorted_toValue {claims : TaskClaims}
    (canonical : (Value.object claims.parameters).Canonical) :
    claims.toValue.sorted = .object (insertAll [] claims.sortedFields) := by
  rw [toValue, Value.sorted]
  simp only [Value.sortedMembers, canonical.sorted_eq, sortedFields]
  rfl

/-- Claims come back from their sorted value. Each field is found by its name and conforms, so the
form is the value in the order of declaration again. -/
theorem ofClaimMap?_sortedFields (claims : TaskClaims) :
    ofClaimMap? (insertAll [] claims.sortedFields) = some claims := by
  have forms : schema.conform? (.object (insertAll [] claims.sortedFields)) =
      some claims.toValue := by
    refine (Schema.conform?_record_insertAll (once_of_nodup ?distinct) _).trans ?conforms
    case distinct =>
      show ["task_context", "target_urn", "tool_sha256", "nonce", "parameters", "issued_at",
        "manifest_version"].Nodup
      decide
    case conforms =>
      -- The seven fields in their order; all but the context and the parameters are texts.
      rw [Schema.conform?]
      refine Option.map_eq_some_iff.mpr ⟨_, ?_, rfl⟩
      refine Schema.conformMembers?_cons rfl claims.context.conform?_sorted ?_
      refine Schema.conformMembers?_cons rfl rfl ?_
      refine Schema.conformMembers?_cons rfl rfl ?_
      refine Schema.conformMembers?_cons rfl rfl ?_
      refine Schema.conformMembers?_cons rfl (Schema.conform?_table_any claims.parameters) ?_
      refine Schema.conformMembers?_cons rfl rfl ?_
      refine Schema.conformMembers?_cons rfl rfl ?_
      rfl
  rw [ofClaimMap?, forms]
  rfl

/-- The parameters are what is nested deepest in claims. -/
theorem depth_toValue (claims : TaskClaims) :
    claims.toValue.depth = Value.depthOfMembers claims.parameters + 2 := by
  simp only [toValue, TaskContext.toValue, Value.depth, Value.depthOfMembers]
  omega

/-- Portable claims are written exactly: besides the parameters there are only texts. -/
theorem Portable.exact {claims : TaskClaims} (portable : claims.Portable) :
    claims.toValue.Exact := by
  have parameters : (Value.object claims.parameters).Exact :=
    portable.canonical.exact portable.floatFree
  have context : claims.context.toValue.Exact := by
    apply Value.exact_object
    simp [Value.exact_text]
  apply Value.exact_object
  simp [Value.exact_text, context, parameters]

/-- The parameters of a value in the form of claims are as a document holds them, and leave room
for the two containers around them. -/
theorem parameters_of_form {value : Value} (form : schema.Form 0 value) :
    (Value.object (ofValue value).parameters).Canonical ∧
      Value.depthOfMembers (ofValue value).parameters + 2 ≤ Reader.nestingLimit := by
  obtain ⟨members, rfl, -, fields⟩ := form
  have parameters : (ofValue (.object members)).parameters =
      ((find? "parameters" members).getD .null).asMembers := rfl
  rw [parameters]
  cases found : find? "parameters" members with
  | none => exact ⟨⟨.nil, trivial⟩, by decide⟩
  | some value =>
    have field := fields ("parameters", value) (mem_of_find? found)
    -- Of the names of the fields only one is that of the parameters.
    have shaped : (Schema.table .any).Form 1 value ∨ value = .object [] := by
      simpa [Schema.FormOfField, Schema.required, Schema.optional, Schema.blank] using field
    rcases shaped with ⟨parameters, rfl, inOrder, parts⟩ | rfl
    · have canonical : (Value.object parameters).Canonical :=
        Value.every_object.mpr ⟨inOrder, fun member inside => (parts member inside).1⟩
      have nested : Value.depthOfMembers parameters ≤ Reader.nestingLimit - 2 :=
        Value.depthOfMembers_le.mpr fun member inside => by
          have := (parts member inside).2
          omega
      have room : 2 ≤ Reader.nestingLimit := by decide
      exact ⟨canonical, Nat.add_le_of_le_sub room nested⟩
    · exact ⟨⟨.nil, trivial⟩, by decide⟩

/-- Claims without parameters are portable: they hold texts only. -/
theorem portable_of_length {claims : TaskClaims} (none : claims.parameters.length = 0) :
    claims.Portable := by
  have empty := List.length_eq_zero_iff.mp none
  refine ⟨?canonical, ?floatFree, ?nested⟩
  case canonical =>
    rw [empty]
    exact ⟨.nil, trivial⟩
  case floatFree =>
    rw [empty]
    refine ⟨fun found same => ?_, trivial⟩
    cases same
  case nested =>
    rw [depth_toValue, empty]
    decide

/-- Claims that were read from a text are portable unless they hold a floating point number: a
reader sorts the parameters, keeps every integer in range, and refuses what is nested too deep. -/
theorem portable_of_read {text : String} {claims : TaskClaims} (read : read text = .ok claims)
    (floatFree : (Value.object claims.parameters).FloatFree) : claims.Portable := by
  obtain ⟨value, document, rfl⟩ := ok_of_map read
  obtain ⟨canonical, nested⟩ := parameters_of_form (Schema.form_of_read document)
  exact ⟨canonical, floatFree, (depth_toValue _) ▸ nested⟩

end TaskClaims

end Gatehouse
