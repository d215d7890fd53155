import Gatehouse.Proofs.Json.Spelling
import Mathlib.Data.List.Forall2

/-!
# What a reader accepts

The form in which a document is read for a shape, or nothing where it is refused. It is
told from the document as it was written, with its members in the order of the text and
those of a repeated name included. A record refuses a field that comes twice and passes
over every name that is no field. A table keeps the last member of a name, but refuses
all members if the value of an earlier one of that name has another shape.

The main statement is that a reader in front of any document stands behind it where this
form has been delivered, whatever the shape, and refuses where there is none. There is
one lemma for each kind of container, about what follows one of its parts.
-/

namespace Gatehouse.Json

open Reader (complete)

namespace Schema

mutual

/-- The form in which a document is read for a shape. What holds no other value conforms or does
not; a container is read part by part. -/
def accept? : Schema → Value → Option Value
  | schema, .list items => match schema with
    | .any => (acceptItems? .any items).map .list
    | .ignored => some .null
    | .list entry => (acceptItems? entry items).map .list
    | .record _ fields => (acceptSlots? [] fields items).bind fun found =>
      (complete found fields).toOption.map .object
    | _ => none
  | schema, .object members => match schema with
    | .any => (acceptEntries? .any [] members).map .object
    | .ignored => some .null
    | .table entry => (acceptEntries? entry [] members).map .object
    | .record _ fields => (acceptFields? fields [] members).bind fun found =>
      (complete found fields).toOption.map .object
    | .choice names => match members with
      | [(name, .null)] => if name ∈ names then some (.text name) else none
      | _ => none
    | _ => none
  | schema, value => conform? schema value

/-- The forms of the items of a list. -/
def acceptItems? : Schema → List Value → Option (List Value)
  | _, [] => some []
  | entry, item :: rest => (accept? entry item).bind fun form =>
    (acceptItems? entry rest).map (form :: ·)

/-- What a record has found when items have been read into its remaining places. -/
def acceptSlots? : List (String × Value) → List Field → List Value →
    Option (List (String × Value))
  | found, _, [] => some found
  | _, [], _ :: _ => none
  | found, (name, _, schema) :: remaining, item :: items => (accept? schema item).bind fun form =>
    acceptSlots? ((name, form) :: found) remaining items

/-- The members of a table when further ones have been read into it. -/
def acceptEntries? : Schema → List (String × Value) → List (String × Value) →
    Option (List (String × Value))
  | _, done, [] => some done
  | entry, done, (name, value) :: rest => (accept? entry value).bind fun form =>
    acceptEntries? entry (insert name form done) rest

/-- What a record has found when members have been read into it, the latest first. -/
def acceptFields? : List Field → List (String × Value) → List (String × Value) →
    Option (List (String × Value))
  | _, found, [] => some found
  | all, found, (name, value) :: rest =>
    if (find? name found).isSome then none
    else match fieldShape? name all with
      | some schema => (accept? schema value).bind fun form =>
        acceptFields? all ((name, form) :: found) rest
      | none => acceptFields? all found rest

end

/-- Anything is accepted where it is not looked at. -/
theorem accept?_ignored (value : Value) : accept? .ignored value = some .null := by
  cases value <;> rfl

/-- Items are accepted together in the forms in which each of them is accepted, one by one and in
their order. -/
theorem acceptItems?_eq_some_iff {entry : Schema} {items forms : List Value} :
    acceptItems? entry items = some forms ↔
      List.Forall₂ (fun item form => accept? entry item = some form) items forms := by
  induction items generalizing forms with
  | nil => simp [acceptItems?, eq_comm]
  | cons item rest inductionHypothesis =>
    simp only [acceptItems?, Option.bind_eq_some_iff, Option.map_eq_some_iff, inductionHypothesis,
      List.forall₂_cons_left_iff]
    constructor
    · rintro ⟨form, first, others, accepted, rfl⟩
      exact ⟨form, others, first, accepted, rfl⟩
    · rintro ⟨form, others, first, accepted, rfl⟩
      exact ⟨form, first, others, accepted, rfl⟩

/-- A table whose values are accepted as they are is put in the order of its names, and of several
members of one name the last stays. By induction on the members, with those that are done in a list
that is already sorted. -/
theorem acceptEntries?_eq_insertAll {entry : Schema} {members : List (String × Value)}
    (accepted : ∀ member ∈ members, accept? entry member.2 = some member.2)
    (done : List (String × Value)) :
    acceptEntries? entry done members = some (insertAll done members) := by
  induction members generalizing done with
  | nil => rfl
  | cons member rest inductionHypothesis =>
    obtain ⟨name, value⟩ := member
    obtain ⟨first, others⟩ := List.forall_mem_cons.mp accepted
    have first : accept? entry value = some value := first
    rw [acceptEntries?, first, Option.bind_some, inductionHypothesis others]
    rfl

end Schema

namespace Reader

open Schema

/-- What reading says of one document, wherever there is room for its nesting. -/
def Reads (value : Value) : Prop :=
  ∀ (schema : Schema) (stack : List Frame) (rest : List Lexeme),
    stack.length + value.depth ≤ nestingLimit →
    answer ⟨stack, .value schema⟩ (value.spell ++ rest) =
      (schema.accept? value).bind fun form => answer (deliver form stack) rest

/-- A lexeme that opens a container leads into it, as long as there is room for one container
more. -/
theorem answer_of_enter {schema : Schema} {stack : List Frame} {lexeme : Lexeme} (frame : Frame)
    (await : Await) (room : stack.length + 1 ≤ nestingLimit)
    (begins : begin schema stack lexeme = enter frame await stack) (rest : List Lexeme) :
    answer ⟨stack, .value schema⟩ (lexeme :: rest) = answer ⟨frame :: stack, await⟩ rest :=
  answer_of_step _ _ (begins.trans (if_pos room))

variable {outer : List Frame}

/-! ## Lists -/

/-- The items behind one of a list are read one after another, each put in its form, up to the end
of the list. By induction on the items; a separator leads from one to the next. -/
theorem answer_items {entry : Schema} {items : List Value} (parts : ∀ item ∈ items, Reads item)
    {done : List Value} (room : outer.length + 1 + Value.depthOfItems items ≤ nestingLimit)
    (rest : List Lexeme) :
    answer ⟨.items entry done :: outer, .separator⟩ (Value.spellMoreItems items ++ rest) =
      (acceptItems? entry items).bind fun forms =>
        answer (deliver (.list (done.reverse ++ forms)) outer) rest := by
  induction items generalizing done with
  | nil =>
    rw [Value.spellMoreItems, List.singleton_append,
      answer_of_step (deliver (.list done.reverse) outer) _ rfl]
    simp [acceptItems?]
  | cons item more inductionHypothesis =>
    obtain ⟨readsItem, readsOthers⟩ := List.forall_mem_cons.mp parts
    rw [Value.depthOfItems] at room
    have itemRoom : (Frame.items entry done :: outer).length + item.depth ≤ nestingLimit := by
      rw [List.length_cons]
      omega
    rw [Value.spellMoreItems, List.cons_append, List.append_assoc,
      answer_of_step ⟨.items entry done :: outer, .value entry⟩ _ rfl,
      readsItem entry _ _ itemRoom, acceptItems?]
    cases accept? entry item with
    | none => rfl
    | some form =>
      have delivered : deliver form (.items entry done :: outer) =
          ⟨.items entry (form :: done) :: outer, .separator⟩ := rfl
      rw [Option.bind_some, delivered, inductionHypothesis readsOthers (by omega)]
      cases acceptItems? entry more with
      | none => rfl
      | some forms => simp

/-- The items behind one of a record are read one after another, each into the next place, and the
places left over are completed. -/
theorem answer_slots {title : String} {all remaining : List Field} {items : List Value}
    (parts : ∀ item ∈ items, Reads item) {found : List (String × Value)}
    (room : outer.length + 1 + Value.depthOfItems items ≤ nestingLimit) (rest : List Lexeme) :
    answer ⟨.slots title all remaining found :: outer, .separator⟩
        (Value.spellMoreItems items ++ rest) =
      (acceptSlots? found remaining items).bind fun result =>
        (complete result all).toOption.bind fun members =>
          answer (deliver (.object members) outer) rest := by
  induction items generalizing found remaining with
  | nil =>
    have closed : step ⟨.slots title all remaining found :: outer, .separator⟩ .closeBracket =
        closeBracket (.slots title all remaining found :: outer) := rfl
    rw [Value.spellMoreItems, List.singleton_append, answer_cons, closed, closeBracket,
      acceptSlots?, Option.bind_some]
    cases complete found all <;> rfl
  | cons item more inductionHypothesis =>
    obtain ⟨readsItem, readsOthers⟩ := List.forall_mem_cons.mp parts
    rw [Value.depthOfItems] at room
    rw [Value.spellMoreItems, List.cons_append, List.append_assoc]
    cases remaining with
    -- There is no place for another item.
    | nil => exact answer_of_refused .malformed _ rfl
    | cons field remaining =>
      obtain ⟨name, mayBeAbsent, schema⟩ := field
      have itemRoom : (Frame.slots title all ((name, mayBeAbsent, schema) :: remaining) found ::
          outer).length + item.depth ≤ nestingLimit := by
        rw [List.length_cons]
        omega
      rw [answer_of_step ⟨.slots title all ((name, mayBeAbsent, schema) :: remaining)
          found :: outer, .value schema⟩ _ rfl, readsItem schema _ _ itemRoom, acceptSlots?]
      cases accept? schema item with
      | none => rfl
      | some form => exact inductionHypothesis readsOthers (by omega)

/-- The items behind one that is passed over are passed over. -/
theorem answer_skippedItems {items : List Value} (parts : ∀ item ∈ items, Reads item)
    (room : outer.length + 1 + Value.depthOfItems items ≤ nestingLimit) (rest : List Lexeme) :
    answer ⟨.skippedList :: outer, .separator⟩ (Value.spellMoreItems items ++ rest) =
      answer (deliver .null outer) rest := by
  induction items with
  | nil => exact answer_of_step _ rest rfl
  | cons item more inductionHypothesis =>
    obtain ⟨readsItem, readsOthers⟩ := List.forall_mem_cons.mp parts
    rw [Value.depthOfItems] at room
    have itemRoom : (Frame.skippedList :: outer).length + item.depth ≤ nestingLimit := by
      rw [List.length_cons]
      omega
    rw [Value.spellMoreItems, List.cons_append, List.append_assoc,
      answer_of_step ⟨.skippedList :: outer, .value .ignored⟩ _ rfl,
      readsItem .ignored _ _ itemRoom, accept?_ignored]
    exact inductionHypothesis readsOthers (by omega)

/-! ## Objects -/

/-- The members behind one of a table are read one after another, each put among the sorted ones
in its form, up to the end of the object. -/
theorem answer_table {entry : Schema} {members : List (String × Value)}
    (parts : ∀ member ∈ members, Reads member.2) {done : List (String × Value)} {name : String}
    (room : outer.length + 1 + Value.depthOfMembers members ≤ nestingLimit)
    (rest : List Lexeme) :
    answer ⟨.table entry done name :: outer, .separator⟩
        (Value.spellMoreMembers members ++ rest) =
      (acceptEntries? entry done members).bind fun forms =>
        answer (deliver (.object forms) outer) rest := by
  induction members generalizing done name with
  | nil => exact answer_of_step _ rest rfl
  | cons member more inductionHypothesis =>
    obtain ⟨next, value⟩ := member
    obtain ⟨readsValue, readsOthers⟩ := List.forall_mem_cons.mp parts
    rw [Value.depthOfMembers] at room
    have valueRoom : (Frame.table entry done next :: outer).length + value.depth ≤
        nestingLimit := by
      rw [List.length_cons]
      omega
    rw [Value.spellMoreMembers, List.cons_append, List.cons_append, List.cons_append,
      List.append_assoc,
      answer_of_step ⟨.table entry done name :: outer, .name⟩ _ rfl,
      answer_of_step ⟨.table entry done next :: outer, .colon entry⟩ _ rfl,
      answer_of_step ⟨.table entry done next :: outer, .value entry⟩ _ rfl,
      readsValue entry _ _ valueRoom, acceptEntries?]
    cases accept? entry value with
    | none => rfl
    | some form => exact inductionHypothesis readsOthers (by omega)

/-- The members behind one of a record are read one after another: those of its fields are
collected in their form, the others are passed over, and the record is completed at its end. -/
theorem answer_fields {title : String} {all : List Field} {members : List (String × Value)}
    (parts : ∀ member ∈ members, Reads member.2) {found : List (String × Value)}
    (room : outer.length + 1 + Value.depthOfMembers members ≤ nestingLimit) (rest : List Lexeme) :
    answer ⟨.fields title all found none :: outer, .separator⟩
        (Value.spellMoreMembers members ++ rest) =
      (acceptFields? all found members).bind fun result =>
        (complete result all).toOption.bind fun forms =>
          answer (deliver (.object forms) outer) rest := by
  induction members generalizing found with
  | nil =>
    have closed : step ⟨.fields title all found none :: outer, .separator⟩ .closeBrace =
        closeBrace (.fields title all found none :: outer) := rfl
    rw [Value.spellMoreMembers, List.singleton_append, answer_cons, closed, closeBrace,
      acceptFields?, Option.bind_some]
    cases complete found all <;> rfl
  | cons member more inductionHypothesis =>
    obtain ⟨name, value⟩ := member
    obtain ⟨readsValue, readsOthers⟩ := List.forall_mem_cons.mp parts
    rw [Value.depthOfMembers] at room
    have valueRoom (frame : Frame) : (frame :: outer).length + value.depth ≤ nestingLimit := by
      rw [List.length_cons]
      omega
    have named : step ⟨.fields title all found none :: outer, .name⟩ (.text (.ok name)) =
        nameMember name (.fields title all found none :: outer) := rfl
    rw [Value.spellMoreMembers, List.cons_append, List.cons_append, List.cons_append,
      List.append_assoc,
      answer_of_step ⟨.fields title all found none :: outer, .name⟩ _ rfl, answer_cons,
      named, nameMember, acceptFields?]
    split
    -- The field was found before.
    · rfl
    · cases shaped : fieldShape? name all with
      -- No field has this name, so its value is passed over.
      | none =>
        show answer ⟨.fields title all found none :: outer, .colon .ignored⟩ _ = _
        rw [answer_of_step ⟨.fields title all found none :: outer, .value .ignored⟩ _ rfl,
          readsValue .ignored _ _ (valueRoom _), accept?_ignored]
        exact inductionHypothesis readsOthers (by omega)
      | some schema =>
        show answer ⟨.fields title all found (some name) :: outer, .colon schema⟩ _ = _
        rw [answer_of_step ⟨.fields title all found (some name) :: outer, .value schema⟩ _ rfl,
          readsValue schema _ _ (valueRoom _)]
        simp only
        cases accept? schema value with
        | none => rfl
        | some form => exact inductionHypothesis readsOthers (by omega)

/-- The members behind one that is passed over are passed over. -/
theorem answer_skippedMembers {members : List (String × Value)}
    (parts : ∀ member ∈ members, Reads member.2)
    (room : outer.length + 1 + Value.depthOfMembers members ≤ nestingLimit) (rest : List Lexeme) :
    answer ⟨.skippedObject :: outer, .separator⟩ (Value.spellMoreMembers members ++ rest) =
      answer (deliver .null outer) rest := by
  induction members with
  | nil => exact answer_of_step _ rest rfl
  | cons member more inductionHypothesis =>
    obtain ⟨name, value⟩ := member
    obtain ⟨readsValue, readsOthers⟩ := List.forall_mem_cons.mp parts
    rw [Value.depthOfMembers] at room
    have valueRoom : (Frame.skippedObject :: outer).length + value.depth ≤ nestingLimit := by
      rw [List.length_cons]
      omega
    rw [Value.spellMoreMembers, List.cons_append, List.cons_append, List.cons_append,
      List.append_assoc, answer_of_step ⟨.skippedObject :: outer, .name⟩ _ rfl,
      answer_of_step ⟨.skippedObject :: outer, .colon .ignored⟩ _ rfl,
      answer_of_step ⟨.skippedObject :: outer, .value .ignored⟩ _ rfl,
      readsValue .ignored _ _ valueRoom, accept?_ignored]
    exact inductionHypothesis readsOthers (by omega)

/-- The object around a choice has one member, whose name is the choice and whose value is
nothing. -/
theorem answer_choice {names : List String} {members : List (String × Value)}
    (parts : ∀ member ∈ members, Reads member.2)
    (room : outer.length + 1 + Value.depthOfMembers members ≤ nestingLimit) (rest : List Lexeme) :
    answer ⟨.choice "" :: outer, .choiceName names⟩ (Value.spellMembers members ++ rest) =
      (accept? (.choice names) (.object members)).bind fun form =>
        answer (deliver form outer) rest := by
  cases members with
  | nil => exact answer_of_refused .malformed rest rfl
  | cons member more =>
    obtain ⟨name, value⟩ := member
    have readsValue : Reads value := parts (name, value) List.mem_cons_self
    rw [Value.depthOfMembers] at room
    have valueRoom : (Frame.choice name :: outer).length + value.depth ≤ nestingLimit := by
      rw [List.length_cons]
      omega
    have named : step ⟨.choice "" :: outer, .choiceName names⟩ (.text (.ok name)) =
        nameChoice names (.choice "" :: outer) (.text (.ok name)) := rfl
    rw [Value.spellMembers, List.cons_append, List.cons_append, List.append_assoc, answer_cons,
      named, nameChoice]
    split
    · next known =>
      show answer ⟨.choice name :: outer, .colon .unit⟩ _ = _
      rw [answer_of_step ⟨.choice name :: outer, .value .unit⟩ _ rfl,
        readsValue .unit _ _ valueRoom]
      -- Only the value nothing conforms, and only the end of the object may follow it.
      cases value <;> cases more <;> simp [accept?, conform?, known] <;> rfl
    · next unknown =>
      have refused : accept? (.choice names) (.object ((name, value) :: more)) = none := by
        cases value <;> cases more <;> simp [accept?, unknown]
      rw [refused]
      rfl

/-! ## Documents -/

/-- A list is read for every shape if each of its items is. What is open around them differs from
shape to shape: a list, a record that is written as a list, a list that is passed over, or no
container at all. -/
theorem reads_list {items : List Value} (parts : ∀ item ∈ items, Reads item) :
    Reads (.list items) := by
  intro schema stack rest room
  rw [Value.depth] at room
  have inside : stack.length + 1 + Value.depthOfItems items ≤ nestingLimit := by omega
  rw [Value.spell, List.cons_append]
  cases schema with
  | any =>
    rw [answer_of_enter (.items .any []) .itemOrEnd (by omega) rfl,
      answer_itemOrEnd (fun _ => rfl), answer_items parts inside, accept?]
    cases acceptItems? .any items <;> rfl
  | ignored =>
    rw [answer_of_step ⟨.skippedList :: stack, .itemOrEnd⟩ _ rfl,
      answer_itemOrEnd (fun _ => rfl), answer_skippedItems parts inside]
    rfl
  | list entry =>
    rw [answer_of_enter (.items entry []) .itemOrEnd (by omega) rfl,
      answer_itemOrEnd (fun _ => rfl), answer_items parts inside, accept?]
    cases acceptItems? entry items <;> rfl
  | record title fields =>
    rw [answer_of_enter (.slots title fields fields []) .itemOrEnd (by omega) rfl,
      answer_itemOrEnd (by intro lexeme; cases fields <;> rfl), answer_slots parts inside, accept?]
    cases acceptSlots? [] fields items with
    | none => rfl
    | some found =>
      rw [Option.bind_some, Option.bind_some]
      cases (complete found fields).toOption <;> rfl
  | unit | text | flag | integer | choice | table => exact answer_cons ..

/-- An object is read for every shape if the values of its members are: for a table, a record, a
choice, an object that is passed over, and none of these. -/
theorem reads_object {members : List (String × Value)}
    (parts : ∀ member ∈ members, Reads member.2) : Reads (.object members) := by
  intro schema stack rest room
  rw [Value.depth] at room
  have inside : stack.length + 1 + Value.depthOfMembers members ≤ nestingLimit := by omega
  rw [Value.spell, List.cons_append]
  cases schema with
  | any =>
    rw [answer_of_enter (.table .any [] "") .nameOrEnd (by omega) rfl, answer_nameOrEnd rfl,
      answer_table parts inside, accept?]
    cases acceptEntries? .any [] members <;> rfl
  | ignored =>
    rw [answer_of_step ⟨.skippedObject :: stack, .nameOrEnd⟩ _ rfl, answer_nameOrEnd rfl,
      answer_skippedMembers parts inside]
    rfl
  | choice names =>
    rw [answer_of_enter (.choice "") (.choiceName names) (by omega) rfl, answer_choice parts inside]
  | table entry =>
    rw [answer_of_enter (.table entry [] "") .nameOrEnd (by omega) rfl, answer_nameOrEnd rfl,
      answer_table parts inside, accept?]
    cases acceptEntries? entry [] members <;> rfl
  | record title fields =>
    rw [answer_of_enter (.fields title fields [] none) .nameOrEnd (by omega) rfl,
      answer_nameOrEnd rfl, answer_fields parts inside, accept?]
    cases acceptFields? fields [] members with
    | none => rfl
    | some found =>
      rw [Option.bind_some, Option.bind_some]
      cases (complete found fields).toOption <;> rfl
  | unit | text | flag | integer | list => exact answer_cons ..

/-- Every document is read for every shape in the form that is accepted for it. By induction on the
document, whose scalars are single lexemes. -/
theorem reads (value : Value) : Reads value := by
  induction value using Value.induct with
  | null =>
    intro schema stack rest room
    refine (answer_cons ..).trans ?_
    cases schema <;> rfl
  | bool value =>
    intro schema stack rest room
    refine (answer_cons ..).trans ?_
    cases schema <;> rfl
  | number value =>
    intro schema stack rest room
    refine (answer_cons ..).trans ?_
    cases schema with
    | integer lower upper title =>
      cases value with
      | float value => rfl
      | integer value =>
        show (if lower ≤ value ∧ value ≤ upper then _ else _ : Except Fault _).toOption.bind _ =
          (if lower ≤ value ∧ value ≤ upper then _ else _ : Option Value).bind _
        split <;> rfl
    | _ => rfl
  | text value =>
    intro schema stack rest room
    refine (answer_cons ..).trans ?_
    cases schema with
    | choice names =>
      show (if value ∈ names then _ else _ : Except Fault _).toOption.bind _ =
        (if value ∈ names then _ else _ : Option Value).bind _
      split <;> rfl
    | _ => rfl
  | list items inductionHypothesis => exact reads_list inductionHypothesis
  | object members inductionHypothesis => exact reads_object inductionHypothesis

end Reader

/-- The text of a document that is not nested too deep is read for a shape exactly in the form that
is accepted for it. -/
theorem Value.SpelledBy.read_eq_ok_iff_accept? {written : Value} {text : String}
    (spelled : written.SpelledBy text) (nested : written.depth ≤ Reader.nestingLimit)
    {schema : Schema} {form : Value} :
    schema.read text = .ok form ↔ schema.accept? written = some form := by
  have room : ([] : List Frame).length + written.depth ≤ Reader.nestingLimit := by
    simpa using nested
  have whole := Reader.reads written schema [] [] room
  rw [List.append_nil] at whole
  rw [Reader.read_eq_ok_iff, spelled, whole]
  cases schema.accept? written with
  | none => simp
  | some form => simp [Reader.deliver, Reader.answer, Reader.run, Reader.finish, Except.bind,
      Except.toOption]

end Gatehouse.Json
