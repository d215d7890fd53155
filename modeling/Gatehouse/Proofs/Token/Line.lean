import Gatehouse.Proofs.Claims
import Gatehouse.Proofs.Json.ReadBack
import Gatehouse.Proofs.Json.Record
import Gatehouse.Proofs.Token.Compact

/-!
# The line of verified claims

Claims are printed as the object of all their fields, and whoever reads that line as a
manifest gets the same claims, parameters included, as far as the floating point numbers
among them are read back. Nothing else stands in the way: the parameters of a token that
was verified are sorted already, and nested no deeper than a reader goes.
-/

namespace Gatehouse

open Json
open Schema (accept?_record acceptEntries?_eq_insertAll)

namespace Json

/-- Reading changes nothing about a canonical value: it is sorted already, and nothing in it is
refused. -/
theorem Value.Canonical.accept?_any {value : Value} (canonical : value.Canonical) :
    Schema.any.accept? value = some value := by
  rw [Schema.readAsSorted value .any (Schema.unambiguous_any value), canonical.sorted_eq]
  rfl

/-- A canonical object is accepted as the table that it is. -/
theorem Value.Canonical.accept?_table_any {members : List (String × Value)}
    (canonical : (Value.object members).Canonical) :
    (Schema.table .any).accept? (.object members) = some (.object members) := by
  obtain ⟨inOrder, parts⟩ := Value.every_object.mp canonical
  have each : ∀ member ∈ members, Schema.any.accept? member.2 = some member.2 :=
    fun member inside => Value.Canonical.accept?_any (parts member inside)
  have inOrder : insertAll [] members = members := insertAll_of_sorted inOrder
  rw [Schema.accept?, acceptEntries?_eq_insertAll each, inOrder]
  rfl

end Json

/-- A context has all fields of its form. -/
theorem TaskContext.accept?_toValue (context : TaskContext) :
    schema.accept? context.toValue = some context.toValue := by
  apply accept?_record
  case distinct => decide
  case read => exact .cons rfl <| .cons rfl <| .cons rfl <| .cons rfl <| .cons rfl .nil

namespace TaskClaims

variable {claims : TaskClaims}

/-- Claims have all fields of their form, in the order of declaration, and each is accepted as it
was written. -/
theorem accept?_toValue (canonical : (Value.object claims.parameters).Canonical) :
    schema.accept? claims.toValue = some claims.toValue := by
  apply accept?_record
  case distinct => decide
  case read =>
    exact .cons claims.context.accept?_toValue <| .cons rfl <| .cons rfl <| .cons rfl <|
      .cons canonical.accept?_table_any <| .cons rfl <| .cons rfl .nil

/-- No numbers stand in claims but those of the parameters, so claims are legible where these
are. -/
theorem legible_toValue (parameters : (Value.object claims.parameters).Legible) :
    claims.toValue.Legible := by
  have text (content : String) : (Value.text content).Legible := (Value.exact_text content).legible
  have context : claims.context.toValue.Legible := by
    apply Value.legible_object
    simp [text]
  apply Value.legible_object
  simp [text, context, parameters]

/-- Claims are read back from their line, if the floating point numbers of the parameters are. The
line spells one document, and that is the value of the claims. -/
theorem read_render (canonical : (Value.object claims.parameters).Canonical)
    (keepsFloats : (Value.object claims.parameters).KeepsFloats)
    (nested : claims.toValue.depth ≤ Reader.nestingLimit) : read claims.render = .ok claims := by
  have legible := legible_toValue (canonical.legible keepsFloats)
  have accepted : schema.read claims.render = .ok claims.toValue :=
    (legible.read_render_eq_ok_iff nested).mpr (accept?_toValue canonical)
  rw [read, accepted]
  exact congrArg Except.ok claims.ofValue_toValue

end TaskClaims

namespace Verifier

variable {verifier : Verifier} {token : String} {claims : TaskClaims}

end Verifier

end Gatehouse
