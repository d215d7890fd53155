import Gatehouse.Json.Reader
import Gatehouse.Proofs.Json.Canonical
import Gatehouse.Proofs.Result

/-!
# The form of a schema

What a schema says of the values in its form. A record holds its fields in declaration
order, a table is sorted by name, and a value of any shape is canonical and nested no
deeper than the containers around it leave room for. The parts that a reader puts
together give a whole in the form that it was opened for.
-/

namespace Gatehouse.Json

open Reader (nestingLimit)

namespace Schema

mutual

/-- The form of a value that stands inside of a number of containers. An optional field that was
absent holds the blank value of its shape. -/
def Form (level : Nat) : Schema → Value → Prop
  | .any, value => value.Canonical ∧ level + value.depth ≤ nestingLimit
  | .ignored, value => value = .null
  | .unit, value => value = .null
  | .text, value => ∃ content, value = .text content
  | .flag, value => ∃ content, value = .bool content
  | .integer lower upper _, value =>
    ∃ content, value = .number (.integer content) ∧ lower ≤ content ∧ content ≤ upper
  | .choice names, value => ∃ name ∈ names, value = .text name
  | .list entry, value =>
    ∃ items, value = .list items ∧ ∀ item ∈ items, Form (level + 1) entry item
  | .table entry, value => ∃ members, value = .object members ∧ SortedByName members ∧
    ∀ member ∈ members, Form (level + 1) entry member.2
  | .record _ fields, value => ∃ members, value = .object members ∧
    members.map Prod.fst = fields.map Prod.fst ∧
    ∀ member ∈ members, FormOfField (level + 1) member.1 fields member.2

/-- The form of the value of a field: that of the shape some field of the name has. -/
def FormOfField (level : Nat) (name : String) : List (String × Bool × Schema) → Value → Prop
  | [], _ => False
  | (first, mayBeAbsent, schema) :: rest, value =>
    (first = name ∧ (Form level schema value ∨ mayBeAbsent = true ∧ value = schema.blank)) ∨
      FormOfField level name rest value

end

variable {level : Nat}

/-- A value in the form of a field has the form of the value of that field. -/
theorem formOfField_of_mem {field : Field} {fields : List Field} (inside : field ∈ fields)
    {value : Value}
    (form : Form level field.2.2 value ∨ field.2.1 = true ∧ value = field.2.2.blank) :
    FormOfField level field.1 fields value := by
  induction fields with
  | nil => exact absurd inside List.not_mem_nil
  | cons first rest inductionHypothesis =>
    rcases List.mem_cons.mp inside with rfl | behind
    · exact .inl ⟨rfl, form⟩
    · exact .inr (inductionHypothesis behind)

/-- The shape that is found for a name is the shape of a field of that name. -/
theorem mem_of_fieldShape? {name : String} {fields : List Field} {schema : Schema}
    (shaped : fieldShape? name fields = some schema) :
    ∃ mayBeAbsent, (name, mayBeAbsent, schema) ∈ fields := by
  induction fields with
  | nil => cases shaped
  | cons first rest inductionHypothesis =>
    obtain ⟨first, mayBeAbsent, shape⟩ := first
    simp only [fieldShape?] at shaped
    split at shaped
    · next same =>
      obtain rfl := Option.some.inj shaped
      exact ⟨mayBeAbsent, same ▸ List.mem_cons_self⟩
    · obtain ⟨mayBeAbsent, behind⟩ := inductionHypothesis shaped
      exact ⟨mayBeAbsent, List.mem_cons_of_mem _ behind⟩

/-- A list has the form of the shape that it was opened for. -/
theorem form_list {schema entry : Schema} {items : List Value} (room : level < nestingLimit)
    (shape : schema = .list entry ∨ schema = .any ∧ entry = .any)
    (parts : ∀ item ∈ items, entry.Form (level + 1) item) :
    schema.Form level (.list items) := by
  rcases shape with rfl | ⟨rfl, rfl⟩
  · exact ⟨items, rfl, parts⟩
  · have nested : Value.depthOfItems items ≤ nestingLimit - (level + 1) :=
      Value.depthOfItems_le.mpr fun item inside => by
        have := (parts item inside).2
        omega
    refine ⟨Value.every_list.mpr ⟨trivial, fun item inside => (parts item inside).1⟩, ?_⟩
    rw [Value.depth]
    omega

/-- An object has the form of the shape that it was opened for: a table, or any value at all. -/
theorem form_object {schema entry : Schema} {members : List (String × Value)}
    (room : level < nestingLimit) (shape : schema = .table entry ∨ schema = .any ∧ entry = .any)
    (inOrder : SortedByName members) (parts : ∀ member ∈ members, entry.Form (level + 1) member.2) :
    schema.Form level (.object members) := by
  rcases shape with rfl | ⟨rfl, rfl⟩
  · exact ⟨members, rfl, inOrder, parts⟩
  · have nested : Value.depthOfMembers members ≤ nestingLimit - (level + 1) :=
      Value.depthOfMembers_le.mpr fun member inside => by
        have := (parts member inside).2
        omega
    refine ⟨Value.every_object.mpr ⟨inOrder, fun member inside => (parts member inside).1⟩, ?_⟩
    rw [Value.depth]
    omega

end Schema

namespace Reader

/-- The members that a record is completed to are its fields in declaration order, each in the
form of its value. -/
theorem form_of_complete {level : Nat} {all : List Schema.Field} {found : List (String × Value)}
    (parts : ∀ member ∈ found, Schema.FormOfField level member.1 all member.2)
    {fields : List Schema.Field} (known : ∀ field ∈ fields, field ∈ all)
    {members : List (String × Value)} (completed : complete found fields = .ok members) :
    members.map Prod.fst = fields.map Prod.fst ∧
      ∀ member ∈ members, Schema.FormOfField level member.1 all member.2 := by
  induction fields generalizing members with
  | nil =>
    obtain rfl := Except.ok.inj completed
    exact ⟨rfl, List.forall_mem_nil _⟩
  | cons field rest inductionHypothesis =>
    obtain ⟨name, mayBeAbsent, schema⟩ := field
    obtain ⟨inside, behind⟩ := List.forall_mem_cons.mp known
    -- The value of a field is found or blank; in both cases the rest is completed after it.
    have finishes {value : Value} (form : Schema.FormOfField level name all value)
        (done : (complete found rest).map ((name, value) :: ·) = .ok members) :
        members.map Prod.fst = ((name, mayBeAbsent, schema) :: rest).map Prod.fst ∧
          ∀ member ∈ members, Schema.FormOfField level member.1 all member.2 := by
      obtain ⟨tail, others, rfl⟩ := ok_of_map done
      obtain ⟨names, forms⟩ := inductionHypothesis behind others
      exact ⟨congrArg (name :: ·) names, List.forall_mem_cons.mpr ⟨form, forms⟩⟩
    rw [complete] at completed
    cases present : find? name found with
    | some value =>
      rw [present] at completed
      exact finishes (parts (name, value) (mem_of_find? present)) completed
    | none =>
      rw [present] at completed
      cases mayBeAbsent with
      | false => cases completed
      | true => exact finishes (Schema.formOfField_of_mem inside (.inr ⟨rfl, rfl⟩)) completed

end Reader

end Gatehouse.Json
