import Gatehouse.Proofs.Json.ReadBack
import Gatehouse.Proofs.Json.ReadForm
import Gatehouse.Proofs.Json.Record
import Gatehouse.Proofs.Result
import Gatehouse.Registry

/-!
# Registries are read back

A registry that is written and read again is the same list of entries, in the same
order, with every text and every count of 64 bits as it was. The tables of an entry are
lists here, and they are read back sorted by name, with the last of several members of
one name; those that are sorted already come back unchanged. No other tables are ever
read, so this describes every registry that a text can hold.
-/

namespace Gatehouse

open Json
open Schema (accept?_record acceptEntries?_eq_insertAll acceptItems?_eq_some_iff unsigned64)

namespace RegistryEntry

/-- The tables of an entry are maps: sorted by name, without two members of one name. -/
structure Mapped (entry : RegistryEntry) : Prop where
  vulnerabilities : SortedByName entry.vulnerabilities
  signatures : SortedByName entry.signatures

/-- An entry with its tables made maps, in which the last member of a name stays. -/
def mapped (entry : RegistryEntry) : RegistryEntry := { entry with
  vulnerabilities := insertAll [] entry.vulnerabilities
  signatures := insertAll [] entry.signatures }

/-- Making maps changes nothing exactly where the tables are maps. -/
theorem mapped_eq_iff {entry : RegistryEntry} : entry.mapped = entry ↔ entry.Mapped := by
  constructor
  · intro same
    have vulnerabilities : insertAll [] entry.vulnerabilities = entry.vulnerabilities :=
      congrArg RegistryEntry.vulnerabilities same
    have signatures : insertAll [] entry.signatures = entry.signatures :=
      congrArg RegistryEntry.signatures same
    constructor
    · rw [← vulnerabilities]
      exact sortedByName_insertAll _
    · rw [← signatures]
      exact sortedByName_insertAll _
  · intro maps
    have vulnerabilities : insertAll [] entry.vulnerabilities = entry.vulnerabilities :=
      insertAll_of_sorted maps.vulnerabilities
    have signatures : insertAll [] entry.signatures = entry.signatures :=
      insertAll_of_sorted maps.signatures
    rw [mapped, vulnerabilities, signatures]

/-! ## Writing and reading -/

variable {α : Type} {write : α → Value}

/-- A written table is accepted as the map of its members, if each value in it is accepted as it was
written: of several members of one name the last stays, in the order of the names. -/
theorem accept?_table {entry : Schema}
    (accepted : ∀ content, entry.accept? (write content) = some (write content))
    (members : List (String × α)) :
    (Schema.table entry).accept?
        (.object (members.map fun member => (member.1, write member.2))) =
      some (.object ((insertAll [] members).map fun member => (member.1, write member.2))) := by
  have each : ∀ member ∈ members.map fun member => (member.1, write member.2),
      entry.accept? member.2 = some member.2 := by
    refine List.forall_mem_map.mpr fun member _ => ?_
    exact accepted member.2
  rw [Schema.accept?, acceptEntries?_eq_insertAll each, ← insertAll_map]
  rfl

/-- A table is written exactly if each of its values is. -/
theorem exact_table (exact : ∀ content, (write content).Exact) (members : List (String × α)) :
    (Value.object (members.map fun member => (member.1, write member.2))).Exact := by
  apply Value.exact_object
  exact List.forall_mem_map.mpr fun member _ => exact member.2

/-- The values of a table are no containers, so nothing is nested in it. -/
theorem depthOfMembers_table (write : α → Value) (scalar : ∀ content, (write content).depth = 0)
    (members : List (String × α)) :
    Value.depthOfMembers (members.map fun member => (member.1, write member.2)) = 0 := by
  apply Nat.eq_zero_of_le_zero
  apply Value.depthOfMembers_le.mpr
  exact List.forall_mem_map.mpr fun member _ => Nat.le_of_eq (scalar member.2)

/-- A count has the range of its table, because it is a number of 64 bits without a sign. -/
theorem accept?_count (count : UInt64) :
    unsigned64.accept? (.ofNat count.toNat) = some (.ofNat count.toNat) := by
  have upper := count.toNat_lt
  exact if_pos (by omega)

/-- A count is an integer that a reader keeps: no count is too large for 64 bits. -/
theorem exact_count (count : UInt64) : (Value.ofNat count.toNat).Exact := by
  have upper := count.toNat_lt
  apply Value.exact_integer
  constructor <;> omega

/-- An entry has all fields of its form, and each is accepted as it was written but for the two
tables, which become maps. -/
theorem accept?_toValue (entry : RegistryEntry) :
    schema.accept? entry.toValue = some entry.mapped.toValue := by
  apply accept?_record
  case distinct => decide
  case read =>
    exact .cons rfl <| .cons rfl <| .cons rfl <| .cons rfl <| .cons rfl <|
      .cons (accept?_table accept?_count entry.vulnerabilities) <|
      .cons (accept?_table (fun _ => rfl) entry.signatures) <| .cons rfl .nil

/-- An entry is written exactly: its tables hold texts and counts, and its other fields texts and a
truth value. -/
theorem exact_toValue (entry : RegistryEntry) : entry.toValue.Exact := by
  have counts := exact_table exact_count entry.vulnerabilities
  have signatures := exact_table Value.exact_text entry.signatures
  apply Value.exact_object
  simp [Value.exact_text, Value.exact_bool, counts, signatures]

/-- Nothing in an entry is nested deeper than its two tables. -/
theorem depth_toValue (entry : RegistryEntry) : entry.toValue.depth = 2 := by
  have counts := depthOfMembers_table (fun count : UInt64 => .ofNat count.toNat) (fun _ => rfl)
    entry.vulnerabilities
  have signatures := depthOfMembers_table Value.text (fun _ => rfl) entry.signatures
  simp only [toValue, Value.depth, Value.depthOfMembers, counts, signatures]
  rfl

/-! ## What is read -/

/-- What a record that was read holds under the name of a table is sorted, whether the field was
there or left out. The form of the record says what may stand under each name. -/
theorem sortedByName_member {title : String} {fields : List Schema.Field} {level : Nat}
    {value : Value} (form : (Schema.record title fields).Form level value) (name : String)
    (entry : Schema) (shaped : ∀ content, Schema.FormOfField (level + 1) name fields content →
      (Schema.table entry).Form (level + 1) content ∨ content = .object []) :
    SortedByName (value.member name).asMembers := by
  obtain ⟨members, rfl, -, forms⟩ := form
  rw [Value.member]
  cases found : find? name members with
  | none => exact .nil
  | some content =>
    rcases shaped content (forms (name, content) (mem_of_find? found)) with
      ⟨table, rfl, inOrder, -⟩ | rfl
    · exact inOrder
    · exact .nil

/-- The tables of an entry in the form of the schema are maps. -/
theorem mapped_of_form {level : Nat} {value : Value} (form : schema.Form level value) :
    (ofValue value).Mapped := by
  -- Only the values change on the way from the members to a table.
  have sameNames {α : Type} (content : String × Value → α) (members : List (String × Value))
      (inOrder : SortedByName members) :
      SortedByName (members.map fun member => (member.1, content member)) := by
    rw [SortedByName, List.map_map]
    exact inOrder
  constructor
  · apply sameNames
    apply sortedByName_member form "vulnerability_summary" unsigned64
    simp [Schema.FormOfField, Schema.required, Schema.optional, Schema.blank]
  · apply sameNames
    apply sortedByName_member form "signature_bundle" .text
    simp [Schema.FormOfField, Schema.required, Schema.optional, Schema.blank]

end RegistryEntry

namespace Registry

/-- A registry is read back entry by entry, each with its tables as maps. The text of a list is the
list of the texts, and none of them is nested deep. -/
theorem read_render (registry : List RegistryEntry) :
    read (render registry) = .ok (registry.map RegistryEntry.mapped) := by
  have exact : (Value.list (registry.map RegistryEntry.toValue)).Exact := by
    apply Value.exact_list
    exact List.forall_mem_map.mpr fun entry _ => entry.exact_toValue
  have nested : (Value.list (registry.map RegistryEntry.toValue)).depth ≤ Reader.nestingLimit := by
    have entries : Value.depthOfItems (registry.map RegistryEntry.toValue) ≤ 2 := by
      apply Value.depthOfItems_le.mpr
      exact List.forall_mem_map.mpr fun entry _ => Nat.le_of_eq entry.depth_toValue
    have room : 2 + 1 ≤ Reader.nestingLimit := by decide
    exact Nat.le_trans (Nat.add_le_add_right entries 1) room
  have accepted : (Schema.list RegistryEntry.schema).accept?
      (.list (registry.map RegistryEntry.toValue)) =
      some (.list (registry.map fun entry => entry.mapped.toValue)) := by
    have each : List.Forall₂ (fun item form => RegistryEntry.schema.accept? item = some form)
        (registry.map RegistryEntry.toValue)
        (registry.map fun entry => entry.mapped.toValue) := by
      rw [List.forall₂_map_left_iff, List.forall₂_map_right_iff, List.forall₂_same]
      exact fun entry _ => entry.accept?_toValue
    rw [Schema.accept?, acceptItems?_eq_some_iff.mpr each, Option.map_some]
  have streamed := (Schema.read_render_eq_ok_iff exact nested).mpr accepted
  have held (entry : RegistryEntry) :
      RegistryEntry.ofValue entry.mapped.toValue = entry.mapped := RegistryEntry.ofValue_toValue _
  rw [read, render, streamed]
  simp [Except.map, Value.asList, Function.comp_def, held]

/-- The tables of every entry that was read are maps, as a reader sorts the members of an object and
keeps the last one of a name. -/
theorem mapped_of_read {text : String} {registry : List RegistryEntry}
    (given : read text = .ok registry) : ∀ entry ∈ registry, entry.Mapped := by
  obtain ⟨value, streamed, rfl⟩ := ok_of_map given
  obtain ⟨items, rfl, forms⟩ := Schema.form_of_read streamed
  refine List.forall_mem_map.mpr fun item inside => ?_
  exact RegistryEntry.mapped_of_form (forms item inside)

/-- A registry is read back as the same list exactly when the tables of its entries are maps. -/
theorem read_render_eq_iff (registry : List RegistryEntry) :
    read (render registry) = .ok registry ↔ ∀ entry ∈ registry, entry.Mapped := by
  constructor
  · exact mapped_of_read
  · intro maps
    have same : registry.map RegistryEntry.mapped = registry.map id :=
      List.map_congr_left fun entry inside => RegistryEntry.mapped_eq_iff.mpr (maps entry inside)
    rw [read_render, same, List.map_id]

end Registry

end Gatehouse
