import Gatehouse.Proofs.Json.Acceptance
import Gatehouse.Proofs.Json.Unambiguous
import Gatehouse.Proofs.Result

/-!
# The fields of a record

What a record says of one field, in either of its two spellings: in an object the values
of all members of the field's name, in a list the item in its place. A record that is
accepted has one value for the field, which is accepted for the field's shape, or it has
none and the field may be absent; a value that is repeated or of another shape refuses
the whole record, whatever else stands in it.

The other way round, members that hold all fields of a record in their order, each with
a value of its shape, are accepted as they stand.
-/

namespace Gatehouse.Json.Schema

open Reader (complete)

variable {all : List Field} {found result : List (String × Value)}

/-! ## What a record gives for a field -/

/-- The values that a record in either spelling gives for the field of a name and a place. -/
def given (name : String) (place : Nat) : Value → List Value
  | .object members => valuesOf name members
  | .list items => items[place]?.toList
  | _ => []

/-- A field is read from what a record gives for it: from one value that is accepted, or from
nothing where it may be absent. -/
inductive ReadFrom (schema : Schema) (mayBeAbsent : Bool) : List Value → Value → Prop
  | absent (permitted : mayBeAbsent = true) : ReadFrom schema mayBeAbsent [] schema.blank
  | present {value form : Value} (accepted : schema.accept? value = some form) :
    ReadFrom schema mayBeAbsent [value] form

/-- A record that reads its members has found for a field what was found before and none of the
members, or the form of the one member of its name. A second member of that name is refused, so by
induction on the members there is at most one. -/
theorem find?_of_acceptFields? {name : String} {schema : Schema}
    (shaped : fieldShape? name all = some schema) {members : List (String × Value)}
    (accepted : acceptFields? all found members = some result) :
    (valuesOf name members = [] ∧ find? name result = find? name found) ∨
      ∃ value form, valuesOf name members = [value] ∧ schema.accept? value = some form ∧
        find? name found = none ∧ find? name result = some form := by
  induction members generalizing found with
  | nil =>
    obtain rfl := Option.some.inj accepted
    exact .inl ⟨rfl, rfl⟩
  | cons member rest inductionHypothesis =>
    obtain ⟨first, value⟩ := member
    rw [acceptFields?] at accepted
    split at accepted
    · cases accepted
    · next fresh =>
      rw [Option.not_isSome_iff_eq_none] at fresh
      rw [valuesOf]
      split at accepted
      · next shape firstShaped =>
        obtain ⟨form, valueAccepted, others⟩ := Option.bind_eq_some_iff.mp accepted
        have behind := inductionHypothesis others
        by_cases here : first = name
        · -- The field has been found now, so no further member may have its name.
          subst here
          obtain rfl := Option.some.inj (shaped.symm.trans firstShaped)
          rw [if_pos rfl]
          rw [find?, if_pos rfl] at behind
          rcases behind with ⟨nothing, kept⟩ | ⟨_, _, _, _, stillFresh, _⟩
          · exact .inr ⟨value, form, by rw [nothing], valueAccepted, fresh, kept⟩
          · cases stillFresh
        · rw [find?, if_neg here] at behind
          rw [if_neg here]
          exact behind
      · next unknown =>
        have other : first ≠ name := by
          rintro rfl
          cases shaped.symm.trans unknown
        rw [if_neg other]
        exact inductionHypothesis accepted

/-- Items are not read into a place that is not left, so what was found under its name stays. -/
theorem find?_of_acceptSlots?_of_absent {name : String} {remaining : List Field}
    (absent : name ∉ remaining.map Prod.fst) {items : List Value}
    (accepted : acceptSlots? found remaining items = some result) :
    find? name result = find? name found := by
  induction items generalizing found remaining with
  | nil =>
    rw [acceptSlots?] at accepted
    rw [Option.some.inj accepted]
  | cons item items inductionHypothesis =>
    cases remaining with
    | nil => cases accepted
    | cons field remaining =>
      rw [List.map_cons, List.mem_cons, not_or] at absent
      obtain ⟨form, -, others⟩ := Option.bind_eq_some_iff.mp accepted
      rw [inductionHypothesis absent.2 others, find?, if_neg (Ne.symm absent.1)]

/-- A record that reads its items has found for a field the form of the item in its place, or
nothing where there is no such item. -/
theorem find?_of_acceptSlots? {remaining : List Field} (distinct : (remaining.map Prod.fst).Nodup)
    {place : Nat} {field : Field} (inPlace : remaining[place]? = some field)
    (fresh : find? field.1 found = none) {items : List Value}
    (accepted : acceptSlots? found remaining items = some result) :
    (items[place]? = none ∧ find? field.1 result = none) ∨
      ∃ value form, items[place]? = some value ∧ field.2.2.accept? value = some form ∧
        find? field.1 result = some form := by
  induction items generalizing found remaining place with
  | nil =>
    rw [acceptSlots?] at accepted
    obtain rfl := Option.some.inj accepted
    exact .inl ⟨rfl, fresh⟩
  | cons item items inductionHypothesis =>
    cases remaining with
    | nil => cases accepted
    | cons first remaining =>
      rw [List.map_cons, List.nodup_cons] at distinct
      obtain ⟨form, itemAccepted, others⟩ := Option.bind_eq_some_iff.mp accepted
      cases place with
      | zero =>
        obtain rfl := Option.some.inj inPlace
        have kept := find?_of_acceptSlots?_of_absent distinct.1 others
        rw [find?, if_pos rfl] at kept
        exact .inr ⟨item, form, rfl, itemAccepted, kept⟩
      | succ place =>
        have named : field.1 ∈ remaining.map Prod.fst :=
          List.mem_map_of_mem (List.mem_of_getElem? inPlace)
        refine inductionHypothesis distinct.2 inPlace ?_ others
        rw [find?_cons_of_not_mem distinct.1 named, fresh]

/-- A completed record holds for each field what was found for it, or its blank value. -/
theorem find?_of_complete {fields : List Field} (distinct : (fields.map Prod.fst).Nodup)
    {field : Field} (inside : field ∈ fields) (completed : complete found fields = .ok result) :
    find? field.1 result = some ((find? field.1 found).getD field.2.2.blank) ∧
      (find? field.1 found = none → field.2.1 = true) := by
  induction fields generalizing result with
  | nil => cases inside
  | cons first rest inductionHypothesis =>
    obtain ⟨name, mayBeAbsent, schema⟩ := first
    rw [List.map_cons, List.nodup_cons] at distinct
    -- The value of the first field is followed by those of the others.
    have finishes {value : Value}
        (value_eq : value = (find? name found).getD schema.blank)
        (permitted : find? name found = none → mayBeAbsent = true)
        (done : (complete found rest).map ((name, value) :: ·) = .ok result) :
        find? field.1 result = some ((find? field.1 found).getD field.2.2.blank) ∧
          (find? field.1 found = none → field.2.1 = true) := by
      obtain ⟨tail, others, rfl⟩ := ok_of_map done
      rcases List.mem_cons.mp inside with rfl | behind
      · exact ⟨by rw [find?, if_pos rfl, value_eq], permitted⟩
      · rw [find?_cons_of_not_mem distinct.1 (List.mem_map_of_mem behind)]
        exact inductionHypothesis distinct.2 behind others
    rw [complete] at completed
    cases present : find? name found with
    | some value =>
      rw [present] at completed
      exact finishes (by rw [present]; rfl) (fun missing => by cases present.symm.trans missing)
        completed
    | none =>
      rw [present] at completed
      cases mayBeAbsent with
      | false => cases completed
      | true => exact finishes (by rw [present]; rfl) (fun _ => rfl) completed

variable {title : String} {fields : List Field} {value form : Value}

/-- A record that is accepted, in either spelling, holds for each field what was read from the
values that it gives for it: by name if it is an object, by place if it is a list. -/
theorem readFrom_of_accept? (distinct : (fields.map Prod.fst).Nodup) {place : Nat} {field : Field}
    (inPlace : fields[place]? = some field)
    (accepted : accept? (.record title fields) value = some form) :
    ReadFrom field.2.2 field.2.1 (given field.1 place value) (form.member field.1) := by
  have inside : field ∈ fields := List.mem_of_getElem? inPlace
  have finishes {found : List (String × Value)}
      (completed : (complete found fields).toOption.map .object = some form) :
      form.member field.1 = (find? field.1 found).getD field.2.2.blank ∧
        (find? field.1 found = none → field.2.1 = true) := by
    cases done : complete found fields with
    | error missing =>
      rw [done] at completed
      cases completed
    | ok members =>
      rw [done] at completed
      obtain rfl := Option.some.inj completed
      obtain ⟨held, permitted⟩ := find?_of_complete distinct inside done
      exact ⟨by rw [Value.member, held, Option.getD_some], permitted⟩
  cases value with
  | object members =>
    obtain ⟨found, collected, completed⟩ := Option.bind_eq_some_iff.mp accepted
    obtain ⟨held, permitted⟩ := finishes completed
    rw [held, given]
    rcases find?_of_acceptFields? (fieldShape?_of_mem distinct inside) collected with
      ⟨nothing, kept⟩ | ⟨content, result, once, contentAccepted, -, kept⟩
    · rw [nothing, kept]
      exact .absent (permitted kept)
    · rw [once, kept]
      exact .present contentAccepted
  | list items =>
    obtain ⟨found, filled, completed⟩ := Option.bind_eq_some_iff.mp accepted
    obtain ⟨held, permitted⟩ := finishes completed
    rw [held, given]
    rcases find?_of_acceptSlots? distinct inPlace rfl filled with
      ⟨nothing, missing⟩ | ⟨content, result, there, contentAccepted, kept⟩
    · rw [nothing, missing]
      exact .absent (permitted missing)
    · rw [there, kept]
      exact .present contentAccepted
  | null | bool | number | text => cases accepted

/-! ## Records with all their fields -/

/-- Members that hold all fields of a record in declaration order, with the forms of their
values. -/
inductive FieldsRead : List Field → List (String × Value) → List (String × Value) → Prop
  | nil : FieldsRead [] [] []
  | cons {name : String} {mayBeAbsent : Bool} {schema : Schema} {value form : Value}
    {fields : List Field} {members forms : List (String × Value)}
    (accepted : schema.accept? value = some form) (others : FieldsRead fields members forms) :
    FieldsRead ((name, mayBeAbsent, schema) :: fields) ((name, value) :: members)
      ((name, form) :: forms)

variable {members forms : List (String × Value)}

/-- The forms of all fields stand under the names of these. -/
theorem FieldsRead.map_fst (read : FieldsRead fields members forms) :
    forms.map Prod.fst = fields.map Prod.fst := by
  induction read with
  | nil => rfl
  | cons accepted others inductionHypothesis =>
    rw [List.map_cons, List.map_cons, inductionHypothesis]

/-- Reading the members of all fields finds their forms, the latest first. By induction on the
fields, none of which has been found before it is read. -/
theorem FieldsRead.acceptFields?_eq (read : FieldsRead fields members forms)
    (distinct : (fields.map Prod.fst).Nodup)
    (shaped : ∀ field ∈ fields, fieldShape? field.1 all = some field.2.2)
    (fresh : ∀ field ∈ fields, find? field.1 found = none) :
    acceptFields? all found members = some (forms.reverse ++ found) := by
  induction read generalizing found with
  | nil => rfl
  | @cons name mayBeAbsent schema value form fields members forms accepted others
      inductionHypothesis =>
    rw [List.map_cons, List.nodup_cons] at distinct
    obtain ⟨nameShaped, othersShaped⟩ := List.forall_mem_cons.mp shaped
    obtain ⟨nameFresh, othersFresh⟩ := List.forall_mem_cons.mp fresh
    have stillFresh : ∀ field ∈ fields, find? field.1 ((name, form) :: found) = none := by
      intro field inside
      rw [find?_cons_of_not_mem distinct.1 (List.mem_map_of_mem inside), othersFresh field inside]
    have nameFresh : find? name found = none := nameFresh
    have nameShaped : fieldShape? name all = some schema := nameShaped
    have behind := inductionHypothesis distinct.2 othersShaped stillFresh
    rw [acceptFields?, nameFresh, nameShaped, Option.isSome_none, if_neg Bool.false_ne_true]
    simp only [accepted, Option.bind_some, behind, List.reverse_cons, List.append_assoc,
      List.singleton_append]

/-- Where the form of every field has been found, the record is completed with these. -/
theorem FieldsRead.complete_eq (read : FieldsRead fields members forms)
    (collected : ∀ member ∈ forms, find? member.1 found = some member.2) :
    complete found fields = .ok forms := by
  induction read with
  | nil => rfl
  | @cons name mayBeAbsent schema value form fields members forms accepted others
      inductionHypothesis =>
    obtain ⟨nameFound, othersFound⟩ := List.forall_mem_cons.mp collected
    have nameFound : find? name found = some form := nameFound
    rw [complete, nameFound, inductionHypothesis othersFound]
    rfl

/-- Members that hold all fields of a record are accepted in the forms of their values. -/
theorem accept?_record (distinct : (fields.map Prod.fst).Nodup)
    (read : FieldsRead fields members forms) :
    accept? (.record title fields) (.object members) = some (.object forms) := by
  have collected : acceptFields? fields [] members = some (forms.reverse ++ []) :=
    read.acceptFields?_eq distinct (fun field inside => fieldShape?_of_mem distinct inside)
      fun _ _ => rfl
  rw [List.append_nil] at collected
  have distinctForms : (forms.map Prod.fst).Nodup := by
    rw [read.map_fst]
    exact distinct
  have completed : complete forms.reverse fields = .ok forms := by
    refine read.complete_eq fun member inside => ?_
    have once := List.nodup_iff_count.mp distinctForms member.1
    rw [find?_reverse once, find?_of_mem once inside]
  rw [accept?, collected, Option.bind_some, completed]
  rfl

end Gatehouse.Json.Schema
