import Gatehouse.Proofs.Json.Form

/-!
# Unambiguous documents

A document may repeat a name. A reader of a text refuses a field that comes twice, while
the value of the document keeps the last member of a name, so the two can only describe
the same documents where no field is repeated. Other members may repeat their names. The
same holds for the values of a table that has a shape for them: a value that is replaced
later was still read.

Of such a document a record does not depend on the order of its members: looking up each
field among all members gives what collecting them one after another gives.
-/

namespace Gatehouse.Json.Schema

mutual

/-- No name that the shape asks for is repeated in a document. A record that names two fields alike
has no such document. -/
def Unambiguous : Schema → Value → Prop
  | .choice _, value => match value with
    | .object members => (members.map Prod.fst).Nodup
    | _ => True
  | .list entry, value => match value with
    | .list items => ∀ item ∈ items, Unambiguous entry item
    | _ => True
  | .table entry, value => match value with
    | .object members => (entry = .any ∨ (members.map Prod.fst).Nodup) ∧
      ∀ member ∈ members, Unambiguous entry member.2
    | _ => True
  | .record _ fields, value => (fields.map Prod.fst).Nodup ∧ match value with
    | .object members => Once (fields.map Prod.fst) members ∧ UnambiguousMembers fields members
    | .list items => UnambiguousItems fields items
    | _ => True
  | _, _ => True

/-- The values under the names of fields are unambiguous for the shapes of these. -/
def UnambiguousMembers : List (String × Bool × Schema) → List (String × Value) → Prop
  | [], _ => True
  | (name, _, schema) :: rest, members =>
    (∀ value, (name, value) ∈ members → Unambiguous schema value) ∧
      UnambiguousMembers rest members

/-- The values in the places of fields are unambiguous for the shapes of these. -/
def UnambiguousItems : List (String × Bool × Schema) → List Value → Prop
  | (_, _, schema) :: rest, item :: items =>
    Unambiguous schema item ∧ UnambiguousItems rest items
  | _, _ => True

end

/-- Every document is unambiguous for any shape: its containers take the last member of a name in
the text as they do in the sorted value. -/
theorem unambiguous_any (value : Value) : Schema.any.Unambiguous value := trivial

/-- Members are unambiguous for fields where each value under the name of one is. -/
theorem unambiguousMembers_of_forall {fields : List Field} {members : List (String × Value)}
    (clear : ∀ field ∈ fields, ∀ value, (field.1, value) ∈ members →
      field.2.2.Unambiguous value) : UnambiguousMembers fields members := by
  induction fields with
  | nil => trivial
  | cons field rest inductionHypothesis =>
    obtain ⟨here, behind⟩ := List.forall_mem_cons.mp clear
    exact ⟨here, inductionHypothesis behind⟩

/-- Items are unambiguous for fields whose shapes no document is ambiguous for, whichever place they
come to. -/
theorem unambiguousItems_of_forall {fields : List Field}
    (clear : ∀ field ∈ fields, ∀ value, field.2.2.Unambiguous value) (items : List Value) :
    UnambiguousItems fields items := by
  induction fields generalizing items with
  | nil => trivial
  | cons field rest inductionHypothesis =>
    obtain ⟨here, behind⟩ := List.forall_mem_cons.mp clear
    cases items with
    | nil => trivial
    | cons item items => exact ⟨here item, inductionHypothesis behind items⟩

/-- A member of the name of a field is unambiguous for the shape of that field. -/
theorem unambiguous_of_fieldShape? {fields : List Field} {members : List (String × Value)}
    (unambiguous : UnambiguousMembers fields members) {name : String} {schema : Schema}
    (shaped : fieldShape? name fields = some schema) {value : Value}
    (inside : (name, value) ∈ members) : schema.Unambiguous value := by
  induction fields with
  | nil => cases shaped
  | cons field rest inductionHypothesis =>
    obtain ⟨first, mayBeAbsent, shape⟩ := field
    obtain ⟨here, behind⟩ := unambiguous
    simp only [fieldShape?] at shaped
    split at shaped
    · next same =>
      obtain rfl := Option.some.inj shaped
      exact here value (same ▸ inside)
    · exact inductionHypothesis behind shaped

/-- Where fields have distinct names, the shape under the name of a field is its own. -/
theorem fieldShape?_of_mem {fields : List Field} (distinct : (fields.map Prod.fst).Nodup)
    {field : Field} (inside : field ∈ fields) : fieldShape? field.1 fields = some field.2.2 := by
  induction fields with
  | nil => cases inside
  | cons first rest inductionHypothesis =>
    rw [List.map_cons, List.nodup_cons] at distinct
    obtain ⟨name, mayBeAbsent, schema⟩ := first
    rcases List.mem_cons.mp inside with rfl | behind
    · exact if_pos rfl
    · have named : field.1 ∈ rest.map Prod.fst := List.mem_map_of_mem behind
      have other : name ≠ field.1 := fun same => distinct.1 (same ▸ named)
      rw [fieldShape?, if_neg other, inductionHypothesis distinct.2 behind]

/-! ## Records written as objects -/

/-- What a record has found when members have been read into it, the latest first. -/
def collect? (all : List Field) (found : List (String × Value)) :
    List (String × Value) → Option (List (String × Value))
  | [] => some found
  | (name, value) :: rest => match fieldShape? name all with
    | some schema => (conform? schema value).bind fun form =>
      collect? all ((name, form) :: found) rest
    | none => collect? all found rest

variable {all : List Field}

/-- What was found under a name stays where no member has that name. -/
theorem find?_of_collect?_of_absent {name : String} {members : List (String × Value)}
    (absent : name ∉ members.map Prod.fst) {found result : List (String × Value)}
    (collected : collect? all found members = some result) :
    find? name result = find? name found := by
  induction members generalizing found with
  | nil =>
    obtain rfl := Option.some.inj collected
    rfl
  | cons member rest inductionHypothesis =>
    obtain ⟨first, value⟩ := member
    rw [List.map_cons, List.mem_cons, not_or] at absent
    simp only [collect?] at collected
    split at collected
    · obtain ⟨form, -, collected⟩ := Option.bind_eq_some_iff.mp collected
      rw [inductionHypothesis absent.2 collected, find?, if_neg (Ne.symm absent.1)]
    · exact inductionHypothesis absent.2 collected

/-- Under the name of a field that occurs once, the form of its value is found. -/
theorem find?_of_collect? {name : String} {schema : Schema}
    (shaped : fieldShape? name all = some schema) {members : List (String × Value)}
    (once : (members.map Prod.fst).count name ≤ 1) {value : Value}
    (present : find? name members = some value) {found result : List (String × Value)}
    (collected : collect? all found members = some result) :
    ∃ form, conform? schema value = some form ∧ find? name result = some form := by
  induction members generalizing found with
  | nil => cases present
  | cons member rest inductionHypothesis =>
    obtain ⟨first, content⟩ := member
    simp only [collect?] at collected
    by_cases same : first = name
    · subst same
      obtain rfl : content = value := by simpa [find?] using present
      rw [shaped] at collected
      obtain ⟨form, conforms, collected⟩ := Option.bind_eq_some_iff.mp collected
      refine ⟨form, conforms, ?_⟩
      rw [find?_of_collect?_of_absent (not_mem_of_count_cons once) collected, find?, if_pos rfl]
    · rw [find?, if_neg same] at present
      split at collected
      · obtain ⟨form, -, collected⟩ := Option.bind_eq_some_iff.mp collected
        exact inductionHypothesis (count_le_of_cons once) present collected
      · exact inductionHypothesis (count_le_of_cons once) present collected

/-- Members are not collected only where one of them does not conform to its field. -/
theorem exists_of_collect?_eq_none {found members : List (String × Value)}
    (refused : collect? all found members = none) :
    ∃ name schema value, fieldShape? name all = some schema ∧ (name, value) ∈ members ∧
      conform? schema value = none := by
  induction members generalizing found with
  | nil => cases refused
  | cons member rest inductionHypothesis =>
    obtain ⟨name, value⟩ := member
    -- A problem behind the first member is a problem of all members.
    have behind {found : List (String × Value)} (refused : collect? all found rest = none) :
        ∃ query schema content, fieldShape? query all = some schema ∧
          (query, content) ∈ (name, value) :: rest ∧ conform? schema content = none := by
      obtain ⟨query, schema, content, shaped, inside, wrong⟩ := inductionHypothesis refused
      exact ⟨query, schema, content, shaped, List.mem_cons_of_mem _ inside, wrong⟩
    simp only [collect?] at refused
    split at refused
    · next schema shaped =>
      cases conforms : conform? schema value with
      | none => exact ⟨name, schema, value, shaped, List.mem_cons_self, conforms⟩
      | some form =>
        rw [conforms] at refused
        exact behind refused
    · exact behind refused

/-- The form of the value of a field, or the blank value where an optional field is absent. -/
def fieldForm? (field : Field) (members : List (String × Value)) : Option Value :=
  match find? field.1 members with
  | some value => conform? field.2.2 value
  | none => if field.2.1 then some field.2.2.blank else none

/-- Members conform to fields if they do to the first one and to the rest. -/
theorem conformMembers?_eq_bind (field : Field) (rest : List Field)
    (members : List (String × Value)) :
    conformMembers? (field :: rest) members = (fieldForm? field members).bind fun form =>
      (conformMembers? rest members).map fun forms => (field.1, form) :: forms := by
  obtain ⟨name, mayBeAbsent, schema⟩ := field
  rw [conformMembers?, fieldForm?]
  cases find? name members with
  | none =>
    cases mayBeAbsent with
    | false => rfl
    | true => cases conformMembers? rest members <;> rfl
  | some value =>
    simp only
    cases conform? schema value with
    | none => rfl
    | some form => cases conformMembers? rest members <;> rfl

/-- Members that agree under the names of fields conform to these alike, as only these are looked
up. -/
theorem conformMembers?_congr {first second : List (String × Value)} {fields : List Field}
    (agree : ∀ field ∈ fields, find? field.1 first = find? field.1 second) :
    conformMembers? fields first = conformMembers? fields second := by
  induction fields with
  | nil => rfl
  | cons field rest inductionHypothesis =>
    obtain ⟨here, behind⟩ := List.forall_mem_cons.mp agree
    rw [conformMembers?_eq_bind, conformMembers?_eq_bind, fieldForm?, fieldForm?, here,
      inductionHypothesis behind]

/-- Members do not conform where the value of one field does not. -/
theorem conformMembers?_eq_none {fields : List Field} {members : List (String × Value)}
    {field : Field} (inside : field ∈ fields) (wrong : fieldForm? field members = none) :
    conformMembers? fields members = none := by
  induction fields with
  | nil => cases inside
  | cons first rest inductionHypothesis =>
    rw [conformMembers?_eq_bind]
    rcases List.mem_cons.mp inside with rfl | behind
    · rw [wrong, Option.bind_none]
    · rw [inductionHypothesis behind]
      cases fieldForm? first members <;> rfl

/-- Where the forms of fields have been found, completing a record is looking up its fields: a field
that was not found is left out on both sides, or missing on both. -/
theorem complete_eq_conformMembers? {found members : List (String × Value)} {fields : List Field}
    (agree : ∀ field ∈ fields, find? field.1 found = none ∧ find? field.1 members = none ∨
      ∃ form, find? field.1 found = some form ∧ fieldForm? field members = some form) :
    (Reader.complete found fields).toOption = conformMembers? fields members := by
  induction fields with
  | nil => rfl
  | cons field rest inductionHypothesis =>
    obtain ⟨here, behind⟩ := List.forall_mem_cons.mp agree
    rw [conformMembers?_eq_bind, Reader.complete, ← inductionHypothesis behind]
    rcases here with ⟨missing, absent⟩ | ⟨form, collected, formed⟩
    · rw [missing, fieldForm?, absent]
      cases field.2.1 with
      | false => rfl
      | true => cases Reader.complete found rest <;> rfl
    · rw [collected, formed]
      cases Reader.complete found rest <;> rfl

/-- Collecting the members of a record one after another and looking up its fields among all of them
come to the same, where no field is repeated. If a member does not conform, neither gives
anything. -/
theorem collect?_bind_complete (distinct : (all.map Prod.fst).Nodup)
    {members : List (String × Value)} (once : Once (all.map Prod.fst) members) :
    ((collect? all [] members).bind fun found => (Reader.complete found all).toOption) =
      conformMembers? all members := by
  cases collected : collect? all [] members with
  | none =>
    obtain ⟨name, schema, value, shaped, inside, wrong⟩ := exists_of_collect?_eq_none collected
    obtain ⟨mayBeAbsent, field⟩ := mem_of_fieldShape? shaped
    have present : find? name members = some value :=
      find?_of_mem (once name (List.mem_map_of_mem field)) inside
    have formless : fieldForm? (name, mayBeAbsent, schema) members = none := by
      rw [fieldForm?, present, ← wrong]
    exact (conformMembers?_eq_none field formless).symm
  | some found =>
    refine complete_eq_conformMembers? fun field inside => ?_
    cases present : find? field.1 members with
    | none =>
      have absent := not_mem_of_find?_eq_none present
      exact .inl ⟨find?_of_collect?_of_absent absent collected, rfl⟩
    | some value =>
      obtain ⟨form, conforms, formed⟩ := find?_of_collect? (fieldShape?_of_mem distinct inside)
        (once field.1 (List.mem_map_of_mem inside)) present collected
      refine .inr ⟨form, formed, ?_⟩
      rw [fieldForm?, present, ← conforms]

/-! ## Records written as lists -/

/-- What a record has found when items have been read into its remaining places. -/
def fill? (found : List (String × Value)) : List Field → List Value → Option (List (String × Value))
  | _, [] => some found
  | [], _ :: _ => none
  | (name, _, schema) :: remaining, item :: items => (conform? schema item).bind fun form =>
    fill? ((name, form) :: found) remaining items

/-- What was found under a name stays where no remaining place has that name. -/
theorem find?_of_fill?_of_absent {name : String} {remaining : List Field}
    (absent : name ∉ remaining.map Prod.fst) {items : List Value}
    {found result : List (String × Value)} (filled : fill? found remaining items = some result) :
    find? name result = find? name found := by
  induction remaining generalizing found items with
  | nil =>
    cases items with
    | nil =>
      obtain rfl := Option.some.inj filled
      rfl
    | cons item items => cases filled
  | cons field remaining inductionHypothesis =>
    cases items with
    | nil =>
      obtain rfl := Option.some.inj filled
      rfl
    | cons item items =>
      rw [List.map_cons, List.mem_cons, not_or] at absent
      obtain ⟨form, -, filled⟩ := Option.bind_eq_some_iff.mp filled
      rw [inductionHypothesis absent.2 filled, find?, if_neg (Ne.symm absent.1)]

/-- Filling the places of a record and completing it is taking each field from its place. By
induction on the places that are left. -/
theorem fill?_bind_complete {remaining : List Field} (distinct : (remaining.map Prod.fst).Nodup)
    {found : List (String × Value)}
    (fresh : ∀ name ∈ remaining.map Prod.fst, find? name found = none) (items : List Value) :
    ((fill? found remaining items).bind fun result =>
      (Reader.complete result remaining).toOption) = conformItems? remaining items := by
  induction remaining generalizing found items with
  | nil => cases items <;> rfl
  | cons field remaining inductionHypothesis =>
    obtain ⟨name, mayBeAbsent, schema⟩ := field
    rw [List.map_cons, List.nodup_cons] at distinct
    obtain ⟨nameFresh, othersFresh⟩ := List.forall_mem_cons.mp fresh
    cases items with
    | nil =>
      have others := inductionHypothesis distinct.2 othersFresh []
      have filled : fill? found remaining [] = some found := by cases remaining <;> rfl
      rw [filled, Option.bind_some] at others
      have nameFresh : find? name found = none := nameFresh
      rw [fill?, Option.bind_some, Reader.complete, nameFresh, conformItems?, ← others]
      cases mayBeAbsent with
      | false => rfl
      | true => cases Reader.complete found remaining <;> rfl
    | cons item items =>
      rw [fill?, conformItems?]
      cases conform? schema item with
      | none => rfl
      | some form =>
        have stillFresh : ∀ other ∈ remaining.map Prod.fst,
            find? other ((name, form) :: found) = none := by
          intro other inside
          rw [find?_cons_of_not_mem distinct.1 inside, othersFresh other inside]
        have others := inductionHypothesis distinct.2 stillFresh items
        rw [Option.bind_some, ← others]
        cases filled : fill? ((name, form) :: found) remaining items with
        | none => rfl
        | some result =>
          have kept : find? name result = some form := by
            rw [find?_of_fill?_of_absent distinct.1 filled, find?, if_pos rfl]
          rw [Option.bind_some, Option.bind_some, Reader.complete, kept]
          cases Reader.complete result remaining <;> rfl

/-! ## Lists and tables -/

/-- Items of any shape conform as they are. -/
theorem mapM_conform?_any (items : List Value) : items.mapM (conform? .any) = some items := by
  induction items with
  | nil => rfl
  | cons item rest inductionHypothesis =>
    rw [List.mapM_cons, inductionHypothesis]
    rfl

/-- The form of a member of a table. -/
def entryForm? (entry : Schema) (member : String × Value) : Option (String × Value) :=
  (conform? entry member.2).map fun form => (member.1, form)

/-- So do the members of a table of anything. -/
theorem mapM_entryForm?_any (members : List (String × Value)) :
    members.mapM (entryForm? .any) = some members := by
  induction members with
  | nil => rfl
  | cons member rest inductionHypothesis =>
    rw [List.mapM_cons, inductionHypothesis]
    rfl

/-- A new member is put among the forms of the others where it is put among the others, because its
name decides. -/
theorem mapM_entryForm?_insert {entry : Schema} {name : String} (value : Value)
    {done : List (String × Value)} (fresh : name ∉ done.map Prod.fst) :
    (insert name value done).mapM (entryForm? entry) =
      (done.mapM (entryForm? entry)).bind fun forms =>
        (conform? entry value).map fun form => insert name form forms := by
  induction done with
  | nil =>
    rw [insert, List.mapM_cons, entryForm?]
    cases conform? entry value <;> rfl
  | cons head rest inductionHypothesis =>
    obtain ⟨first, old⟩ := head
    rw [List.map_cons, List.mem_cons, not_or] at fresh
    have other : name ≠ first := fresh.1
    rw [insert, if_neg other]
    split
    · next before =>
      have placed (form oldForm : Value) (forms : List (String × Value)) :
          insert name form ((first, oldForm) :: forms) =
            (name, form) :: (first, oldForm) :: forms := if_pos before
      rw [List.mapM_cons, List.mapM_cons, entryForm?, entryForm?]
      cases conform? entry value with
      | none => cases conform? entry old <;> cases rest.mapM (entryForm? entry) <;> rfl
      | some form =>
        cases conform? entry old with
        | none => rfl
        | some oldForm =>
          cases rest.mapM (entryForm? entry) with
          | none => rfl
          | some forms => exact congrArg some (placed form oldForm forms).symm
    · next notBefore =>
      have placed (form oldForm : Value) (forms : List (String × Value)) :
          insert name form ((first, oldForm) :: forms) =
            (first, oldForm) :: insert name form forms := by
        rw [insert, if_neg notBefore, if_neg other]
      rw [List.mapM_cons, inductionHypothesis fresh.2, List.mapM_cons, entryForm?]
      cases conform? entry old with
      | none => rfl
      | some oldForm =>
        cases rest.mapM (entryForm? entry) with
        | none => rfl
        | some forms =>
          cases conform? entry value with
          | none => rfl
          | some form => exact congrArg some (placed form oldForm forms).symm

/-- Sorting members of distinct names and taking their forms can be done in either order. If names
came twice, a member that sorting drops could still be refused. -/
theorem mapM_entryForm?_insertAll {entry : Schema} {done members : List (String × Value)}
    (distinct : (members.map Prod.fst).Nodup)
    (fresh : ∀ name ∈ members.map Prod.fst, name ∉ done.map Prod.fst) :
    (insertAll done members).mapM (entryForm? entry) =
      (done.mapM (entryForm? entry)).bind fun doneForms =>
        (members.mapM (entryForm? entry)).map fun forms => insertAll doneForms forms := by
  induction members generalizing done with
  | nil =>
    show done.mapM (entryForm? entry) = _
    cases done.mapM (entryForm? entry) <;> rfl
  | cons member rest inductionHypothesis =>
    obtain ⟨name, value⟩ := member
    rw [List.map_cons, List.nodup_cons] at distinct
    obtain ⟨nameFresh, othersFresh⟩ := List.forall_mem_cons.mp fresh
    have stillFresh : ∀ other ∈ rest.map Prod.fst,
        other ∉ (insert name value done).map Prod.fst := by
      intro other behind inside
      obtain ⟨member, found, rfl⟩ := List.mem_map.mp inside
      rcases mem_of_mem_insert found with rfl | earlier
      · exact distinct.1 behind
      · exact othersFresh member.1 behind (List.mem_map_of_mem earlier)
    have next : insertAll done ((name, value) :: rest) =
        insertAll (insert name value done) rest := rfl
    rw [next, inductionHypothesis distinct.2 stillFresh, mapM_entryForm?_insert value nameFresh,
      List.mapM_cons, entryForm?]
    cases done.mapM (entryForm? entry) with
    | none => rfl
    | some doneForms =>
      cases conform? entry value with
      | none => rfl
      | some form => cases rest.mapM (entryForm? entry) <;> rfl

/-- A table whose names are distinct, or whose values may have any shape, conforms in sorted order
as it does in its own. -/
theorem conform?_table_insertAll {entry : Schema} {members : List (String × Value)}
    (unambiguous : entry = .any ∨ (members.map Prod.fst).Nodup) :
    conform? (.table entry) (.object (insertAll [] members)) =
      (members.mapM (entryForm? entry)).map fun forms => .object (insertAll [] forms) := by
  have opened (sorted : List (String × Value)) : conform? (.table entry) (.object sorted) =
      (sorted.mapM (entryForm? entry)).map .object := rfl
  rw [opened]
  rcases unambiguous with rfl | distinct
  · rw [mapM_entryForm?_any, mapM_entryForm?_any]
    rfl
  · rw [mapM_entryForm?_insertAll distinct fun _ _ => List.not_mem_nil]
    cases members.mapM (entryForm? entry) <;> rfl

/-- A record in which no field is repeated conforms in sorted order as it does in its own: its
fields are found by their names in both. -/
theorem conform?_record_insertAll {fields : List Field} {members : List (String × Value)}
    (once : Once (fields.map Prod.fst) members) (title : String) :
    conform? (.record title fields) (.object (insertAll [] members)) =
      conform? (.record title fields) (.object members) := by
  have agree : ∀ field ∈ fields,
      find? field.1 (insertAll [] members) = find? field.1 members := fun field inside => by
    rw [find?_insertAll (once field.1 (List.mem_map_of_mem inside)), find?, Option.or_none]
  simp only [conform?, conformMembers?_congr agree]

end Gatehouse.Json.Schema
