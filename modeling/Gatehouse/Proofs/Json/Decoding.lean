import Gatehouse.Proofs.Json.Acceptance
import Gatehouse.Proofs.Json.Unambiguous

/-!
# Reading and conforming

There are two ways from a text to a value of a shape: a reader takes the text lexeme by
lexeme and never sees it as a whole, and `conform?` takes a value that was read before
with all its members sorted. On an unambiguous document that is not nested too deep they
come to the same, for every shape: what is accepted of the document as it is written is
the form that its sorted value conforms to.

There is one lemma for each way in which a container takes its parts.
-/

namespace Gatehouse.Json.Schema

/-- On one document, whenever a shape finds it unambiguous, reading and conforming agree. -/
def ReadAsSorted (value : Value) : Prop :=
  ∀ schema : Schema, schema.Unambiguous value →
    schema.accept? value = schema.conform? value.sorted

/-! ## Lists -/

/-- The items of a list are accepted as their sorted values conform, one by one. -/
theorem acceptItems?_eq_mapM {entry : Schema} {items : List Value}
    (parts : ∀ item ∈ items, ReadAsSorted item)
    (unambiguous : ∀ item ∈ items, entry.Unambiguous item) :
    acceptItems? entry items = (Value.sortedItems items).mapM (conform? entry) := by
  induction items with
  | nil => rfl
  | cons item more inductionHypothesis =>
    obtain ⟨agrees, othersAgree⟩ := List.forall_mem_cons.mp parts
    obtain ⟨itemClear, othersClear⟩ := List.forall_mem_cons.mp unambiguous
    rw [acceptItems?, agrees entry itemClear, inductionHypothesis othersAgree othersClear,
      Value.sortedItems, List.mapM_cons]
    cases conform? entry item.sorted with
    | none => rfl
    | some form => cases (Value.sortedItems more).mapM (conform? entry) <;> rfl

/-- The items of a record that is written as a list are accepted as their sorted values fill the
places of its fields. -/
theorem acceptSlots?_eq_fill? {remaining : List Field} {items : List Value}
    (parts : ∀ item ∈ items, ReadAsSorted item) (unambiguous : UnambiguousItems remaining items)
    {found : List (String × Value)} :
    acceptSlots? found remaining items = fill? found remaining (Value.sortedItems items) := by
  induction items generalizing found remaining with
  | nil => cases remaining <;> rfl
  | cons item more inductionHypothesis =>
    obtain ⟨agrees, othersAgree⟩ := List.forall_mem_cons.mp parts
    cases remaining with
    | nil => rfl
    | cons field remaining =>
      obtain ⟨name, mayBeAbsent, schema⟩ := field
      obtain ⟨itemClear, othersClear⟩ := unambiguous
      rw [acceptSlots?, agrees schema itemClear, Value.sortedItems, fill?]
      cases conform? schema item.sorted with
      | none => rfl
      | some form => exact inductionHypothesis othersAgree othersClear

/-! ## Objects -/

/-- The members of a table are accepted as their sorted values conform, and put in order either way.
Repeated names are no matter: the last one stays in both. -/
theorem acceptEntries?_eq_map {entry : Schema} {members : List (String × Value)}
    (parts : ∀ member ∈ members, ReadAsSorted member.2)
    (unambiguous : ∀ member ∈ members, entry.Unambiguous member.2)
    {done : List (String × Value)} :
    acceptEntries? entry done members =
      ((Value.sortedMembers members).mapM (entryForm? entry)).map fun forms =>
        insertAll done forms := by
  induction members generalizing done with
  | nil => rfl
  | cons member more inductionHypothesis =>
    obtain ⟨name, value⟩ := member
    obtain ⟨agrees, othersAgree⟩ := List.forall_mem_cons.mp parts
    obtain ⟨valueClear, othersClear⟩ := List.forall_mem_cons.mp unambiguous
    rw [acceptEntries?, agrees entry valueClear, Value.sortedMembers, List.mapM_cons, entryForm?]
    cases conform? entry value.sorted with
    | none => rfl
    | some form =>
      rw [Option.bind_some, inductionHypothesis othersAgree othersClear]
      cases (Value.sortedMembers more).mapM (entryForm? entry) <;> rfl

/-- Where no field is repeated, none is refused for having been found before, so the fields that are
read one by one are those that are collected from the sorted members. -/
theorem acceptFields?_eq_collect? {all : List Field} {members : List (String × Value)}
    (parts : ∀ member ∈ members, ReadAsSorted member.2)
    (unambiguous : ∀ name schema, fieldShape? name all = some schema →
      ∀ value, (name, value) ∈ members → schema.Unambiguous value)
    (once : Once (all.map Prod.fst) members) {found : List (String × Value)}
    (fresh : ∀ member ∈ members, find? member.1 found = none) :
    acceptFields? all found members = collect? all found (Value.sortedMembers members) := by
  induction members generalizing found with
  | nil => rfl
  | cons member more inductionHypothesis =>
    obtain ⟨name, value⟩ := member
    obtain ⟨agrees, othersAgree⟩ := List.forall_mem_cons.mp parts
    obtain ⟨nameFresh, othersFresh⟩ := List.forall_mem_cons.mp fresh
    have onceBehind : Once (all.map Prod.fst) more := fun query field =>
      count_le_of_cons (once query field)
    have clearBehind : ∀ query schema, fieldShape? query all = some schema →
        ∀ content, (query, content) ∈ more → schema.Unambiguous content :=
      fun query schema shaped content inside =>
        unambiguous query schema shaped content (List.mem_cons_of_mem _ inside)
    have nameFresh : find? name found = none := nameFresh
    rw [acceptFields?, nameFresh, Option.isSome_none, if_neg Bool.false_ne_true,
      Value.sortedMembers, collect?]
    cases shaped : fieldShape? name all with
    | none => exact inductionHypothesis othersAgree clearBehind onceBehind othersFresh
    | some schema =>
      have valueClear : schema.Unambiguous value :=
        unambiguous name schema shaped value List.mem_cons_self
      simp only [agrees schema valueClear]
      cases conform? schema value.sorted with
      | none => rfl
      | some form =>
        obtain ⟨mayBeAbsent, field⟩ := mem_of_fieldShape? shaped
        have stillFresh : ∀ member ∈ more, find? member.1 ((name, form) :: found) = none := by
          intro member inside
          have absent := not_mem_of_count_cons (once name (List.mem_map_of_mem field))
          rw [find?_cons_of_not_mem absent (List.mem_map_of_mem inside), othersFresh member inside]
        exact inductionHypothesis othersAgree clearBehind onceBehind stillFresh

/-- A choice around which distinct names stand has one of them for its name. If a name came twice,
the text would have two members where the sorted object has one. -/
theorem accept?_choice {names : List String} {members : List (String × Value)}
    (distinct : (members.map Prod.fst).Nodup) :
    accept? (.choice names) (.object members) =
      conform? (.choice names) (Value.object members).sorted := by
  match members with
  | [] => rfl
  | [(name, value)] => cases value <;> rfl
  | first :: second :: behind =>
    rw [List.map_cons, List.map_cons, List.nodup_cons, List.mem_cons, not_or] at distinct
    have several (single : String × Value) :
        insertAll [] (Value.sortedMembers (first :: second :: behind)) ≠ [single] :=
      insertAll_ne_singleton distinct.1.1 (by simp [Value.map_fst_sortedMembers])
        (by simp [Value.map_fst_sortedMembers]) single
    rw [Value.sorted]
    generalize insertAll [] (Value.sortedMembers (first :: second :: behind)) = sorted at several
    unfold conform?
    split
    · next same => cases same
    · next same => exact absurd (Value.object.inj same) (several _)
    · simp [accept?]

/-! ## Documents -/

/-- A list is read as what its sorted value conforms to, if each of its items is. -/
theorem readAsSorted_list {items : List Value} (parts : ∀ item ∈ items, ReadAsSorted item) :
    ReadAsSorted (.list items) := by
  intro schema unambiguous
  rw [Value.sorted]
  cases schema with
  | any =>
    rw [accept?, acceptItems?_eq_mapM parts fun _ _ => unambiguous_any _, mapM_conform?_any]
    rfl
  | list entry =>
    rw [accept?, acceptItems?_eq_mapM parts unambiguous, conform?]
  | record title fields =>
    obtain ⟨distinct, itemsClear⟩ := unambiguous
    rw [accept?, acceptSlots?_eq_fill? parts itemsClear, conform?,
      ← fill?_bind_complete distinct fun name _ => (rfl : find? name [] = none)]
    cases fill? [] fields (Value.sortedItems items) <;> rfl
  | ignored | unit | text | flag | integer | choice | table => rfl

/-- An object is read as what its sorted value conforms to, if the value of each member is. A record
takes its fields by their names, so sorting does not change what it finds for a name that comes
once. -/
theorem readAsSorted_object {members : List (String × Value)}
    (parts : ∀ member ∈ members, ReadAsSorted member.2) : ReadAsSorted (.object members) := by
  intro schema unambiguous
  cases schema with
  | any =>
    rw [accept?, acceptEntries?_eq_map parts fun _ _ => unambiguous_any _, mapM_entryForm?_any]
    rfl
  | choice names => exact accept?_choice unambiguous
  | table entry =>
    obtain ⟨distinct, membersClear⟩ := unambiguous
    rw [accept?, acceptEntries?_eq_map parts membersClear, Value.sorted, conform?_table_insertAll]
    · cases (Value.sortedMembers members).mapM (entryForm? entry) <;> rfl
    · rw [Value.map_fst_sortedMembers]
      exact distinct
  | record title fields =>
    obtain ⟨distinct, once, membersClear⟩ := unambiguous
    have sortedOnce : Once (fields.map Prod.fst) (Value.sortedMembers members) := by
      intro name field
      rw [Value.map_fst_sortedMembers]
      exact once name field
    rw [accept?, acceptFields?_eq_collect? parts (fun name schema shaped value inside =>
        unambiguous_of_fieldShape? membersClear shaped inside) once fun _ _ => rfl,
      Value.sorted, conform?_record_insertAll sortedOnce, conform?,
      ← collect?_bind_complete distinct sortedOnce]
    cases collect? fields [] (Value.sortedMembers members) <;> rfl
  | ignored | unit | text | flag | integer | list => rfl

/-- Every document is read as what its sorted value conforms to, for the shapes that find it
unambiguous. By induction on the document. -/
theorem readAsSorted (value : Value) : ReadAsSorted value := by
  induction value using Value.induct with
  | null | bool value | number value | text value => exact fun schema _ => by cases schema <;> rfl
  | list items inductionHypothesis => exact readAsSorted_list inductionHypothesis
  | object members inductionHypothesis => exact readAsSorted_object inductionHypothesis

end Gatehouse.Json.Schema

namespace Gatehouse.Json

/-- Where any shape is expected, the sorted value of a document is delivered. -/
theorem Reader.answer_spell (value : Value) {stack : List Frame}
    (room : stack.length + value.depth ≤ nestingLimit) (rest : List Lexeme) :
    answer ⟨stack, .value .any⟩ (value.spell ++ rest) =
      answer (deliver value.sorted stack) rest := by
  rw [reads value .any stack rest room,
    Schema.readAsSorted value .any (Schema.unambiguous_any value)]
  rfl

/-- The text of an unambiguous document is read for a shape exactly as the form that the value of
the document conforms to. -/
theorem Value.SpelledBy.read_eq_ok_iff {written : Value} {text : String}
    (spelled : written.SpelledBy text) (nested : written.depth ≤ Reader.nestingLimit)
    {schema : Schema} (unambiguous : schema.Unambiguous written) {form : Value} :
    schema.read text = .ok form ↔ schema.conform? written.sorted = some form := by
  rw [spelled.read_eq_ok_iff_accept? nested, Schema.readAsSorted written schema unambiguous]

end Gatehouse.Json
