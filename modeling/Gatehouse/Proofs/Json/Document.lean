import Gatehouse.Proofs.Json.Decoding

/-!
# Every text that is read spells a document

A reader refuses a text as soon as its lexemes are no beginning of a document, so those
of a text that it accepts are the lexemes of some document. With what reading says of
documents this describes the texts that hold a value: they are those that spell a
document, not nested too deep, whose sorted form is the value.
-/

namespace Gatehouse.Json

namespace Reader

/-- Wherever a value comes next, lexemes up to a length that lead to a document begin with those of
a value, which fits into the room that is left. -/
def BeginsWithValue (size : Nat) : Prop :=
  ∀ {stack : List Frame} {lexemes : List Lexeme} {document : Value}, lexemes.length ≤ size →
    answer ⟨stack, .value .any⟩ lexemes = some document → stack.length ≤ nestingLimit →
    ∃ (value : Value) (rest : List Lexeme), lexemes = value.spell ++ rest ∧
      stack.length + value.depth ≤ nestingLimit

variable {size : Nat} {stack outer : List Frame} {lexemes : List Lexeme} {document : Value}

/-- The value in front is delivered, and less is left: a value has at least one lexeme, so an
induction on the number of lexemes can go on behind it. -/
theorem BeginsWithValue.exists_rest (values : BeginsWithValue size)
    (bounded : lexemes.length ≤ size)
    (accepted : answer ⟨stack, .value .any⟩ lexemes = some document)
    (room : stack.length ≤ nestingLimit) :
    ∃ (value : Value) (rest : List Lexeme), lexemes = value.spell ++ rest ∧
      stack.length + value.depth ≤ nestingLimit ∧ rest.length < lexemes.length ∧
      answer (deliver value.sorted stack) rest = some document := by
  obtain ⟨value, rest, rfl, valueRoom⟩ := values bounded accepted room
  obtain ⟨first, behind, spelled, -⟩ := value.spell_eq_cons
  refine ⟨value, rest, rfl, valueRoom, ?shorter, ?delivered⟩
  case shorter =>
    rw [spelled, List.cons_append, List.length_cons, List.length_append]
    omega
  case delivered => rw [← answer_spell value valueRoom, accepted]

/-- Behind an item of a list there are more items, up to the end of the list. Each comes behind a
comma, and with each there are fewer lexemes left. -/
theorem exists_items (values : BeginsWithValue size) {done : List Value}
    (bounded : lexemes.length ≤ size) (room : outer.length + 1 ≤ nestingLimit)
    (accepted : answer ⟨.items .any done :: outer, .separator⟩ lexemes = some document) :
    ∃ items rest, lexemes = Value.spellMoreItems items ++ rest ∧
      outer.length + 1 + Value.depthOfItems items ≤ nestingLimit := by
  -- Strong induction on what is left: each item leaves less.
  induction length : lexemes.length using Nat.strongRecOn generalizing lexemes done with
  | ind left inductionHypothesis =>
    cases lexemes with
    | nil => cases accepted
    | cons first behind =>
      rw [List.length_cons] at bounded length
      cases first with
      | closeBracket => exact ⟨[], behind, rfl, room⟩
      | comma =>
        rw [answer_of_step ⟨.items .any done :: outer, .value .any⟩ _ rfl] at accepted
        obtain ⟨item, rest, rfl, itemRoom, shorter, accepted⟩ :=
          values.exists_rest (by omega) accepted room
        obtain ⟨items, rest, rfl, itemsRoom⟩ :=
          inductionHypothesis rest.length (by omega) (by omega) accepted rfl
        refine ⟨item :: items, rest, by simp [Value.spellMoreItems], ?_⟩
        rw [List.length_cons] at itemRoom
        rw [Value.depthOfItems]
        omega
      | _ => cases accepted

/-- Behind the bracket that opens a list there are its items. -/
theorem exists_list (values : BeginsWithValue size) (bounded : lexemes.length ≤ size)
    (room : outer.length + 1 ≤ nestingLimit)
    (accepted : answer ⟨.items .any [] :: outer, .itemOrEnd⟩ lexemes = some document) :
    ∃ items rest, lexemes = Value.spellItems items ++ rest ∧
      outer.length + 1 + Value.depthOfItems items ≤ nestingLimit := by
  cases lexemes with
  | nil => cases accepted
  | cons first behind =>
    by_cases ends : first = .closeBracket
    · subst ends
      exact ⟨[], behind, rfl, room⟩
    · have begins : step ⟨.items .any [] :: outer, .itemOrEnd⟩ first =
          step ⟨.items .any [] :: outer, .value .any⟩ first := by
        cases first <;> first | exact absurd rfl ends | rfl
      rw [answer_cons, begins, ← answer_cons] at accepted
      obtain ⟨item, rest, same, itemRoom, shorter, accepted⟩ :=
        values.exists_rest bounded accepted room
      obtain ⟨items, rest, rfl, itemsRoom⟩ := exists_items values (by omega) room accepted
      refine ⟨item :: items, rest, by simp [same, Value.spellItems], ?_⟩
      rw [List.length_cons] at itemRoom
      rw [Value.depthOfItems]
      omega

/-- A member begins with its name and holds a value. -/
theorem exists_member (values : BeginsWithValue size) {done : List (String × Value)}
    {name : String} (bounded : lexemes.length ≤ size) (room : outer.length + 1 ≤ nestingLimit)
    (accepted : answer ⟨.table .any done name :: outer, .name⟩ lexemes = some document) :
    ∃ next value rest, lexemes = .text (.ok next) :: .colon :: (Value.spell value ++ rest) ∧
      outer.length + 1 + value.depth ≤ nestingLimit ∧ rest.length < lexemes.length ∧
      answer ⟨.table .any (insert next value.sorted done) next :: outer, .separator⟩ rest =
        some document := by
  -- Two lexemes are fixed, the name and the colon; nothing else is accepted in their places.
  cases lexemes with
  | nil => cases accepted
  | cons first behind =>
    cases first with
    | text content =>
      cases content with
      | error fault => cases accepted
      | ok next =>
        rw [answer_of_step ⟨.table .any done next :: outer, .colon .any⟩ _ rfl] at accepted
        cases behind with
        | nil => cases accepted
        | cons second behind =>
          rw [List.length_cons, List.length_cons] at bounded
          cases second with
          | colon =>
            rw [answer_of_step ⟨.table .any done next :: outer, .value .any⟩ _ rfl] at accepted
            obtain ⟨value, rest, rfl, valueRoom, shorter, accepted⟩ :=
              values.exists_rest (by omega) accepted room
            refine ⟨next, value, rest, rfl, valueRoom, ?_, accepted⟩
            rw [List.length_cons, List.length_cons]
            omega
          | _ => cases accepted
    | _ => cases accepted

/-- Behind a member of an object there are more members, up to the end of the object, each behind a
comma. -/
theorem exists_members (values : BeginsWithValue size) {done : List (String × Value)}
    {name : String} (bounded : lexemes.length ≤ size) (room : outer.length + 1 ≤ nestingLimit)
    (accepted : answer ⟨.table .any done name :: outer, .separator⟩ lexemes = some document) :
    ∃ members rest, lexemes = Value.spellMoreMembers members ++ rest ∧
      outer.length + 1 + Value.depthOfMembers members ≤ nestingLimit := by
  induction length : lexemes.length using Nat.strongRecOn generalizing lexemes done name with
  | ind left inductionHypothesis =>
    cases lexemes with
    | nil => cases accepted
    | cons first behind =>
      rw [List.length_cons] at bounded length
      cases first with
      | closeBrace => exact ⟨[], behind, rfl, room⟩
      | comma =>
        rw [answer_of_step ⟨.table .any done name :: outer, .name⟩ _ rfl] at accepted
        obtain ⟨next, value, rest, rfl, valueRoom, shorter, accepted⟩ :=
          exists_member values (by omega) room accepted
        obtain ⟨members, rest, rfl, membersRoom⟩ :=
          inductionHypothesis rest.length (by omega) (by omega) accepted rfl
        refine ⟨(next, value) :: members, rest, by simp [Value.spellMoreMembers], ?_⟩
        rw [Value.depthOfMembers]
        omega
      | _ => cases accepted

/-- Behind the brace that opens an object there are its members. -/
theorem exists_object (values : BeginsWithValue size) (bounded : lexemes.length ≤ size)
    (room : outer.length + 1 ≤ nestingLimit)
    (accepted : answer ⟨.table .any [] "" :: outer, .nameOrEnd⟩ lexemes = some document) :
    ∃ members rest, lexemes = Value.spellMembers members ++ rest ∧
      outer.length + 1 + Value.depthOfMembers members ≤ nestingLimit := by
  cases lexemes with
  | nil => cases accepted
  | cons first behind =>
    by_cases ends : first = .closeBrace
    · subst ends
      exact ⟨[], behind, rfl, room⟩
    · have begins : step ⟨.table .any [] "" :: outer, .nameOrEnd⟩ first =
          step ⟨.table .any [] "" :: outer, .name⟩ first := by
        cases first <;> first | exact absurd rfl ends | rfl
      rw [answer_cons, begins, ← answer_cons] at accepted
      obtain ⟨name, value, rest, same, valueRoom, shorter, accepted⟩ :=
        exists_member values bounded room accepted
      obtain ⟨members, rest, rfl, membersRoom⟩ := exists_members values (by omega) room accepted
      refine ⟨(name, value) :: members, rest, by simp [same, Value.spellMembers], ?_⟩
      rw [Value.depthOfMembers]
      omega

/-- A container is opened only where there is room for it. -/
theorem room_of_answer {lexeme : Lexeme} {frame : Frame} {await : Await} {rest : List Lexeme}
    (begins : beginAny stack lexeme = enter frame await stack)
    (accepted : answer ⟨stack, .value .any⟩ (lexeme :: rest) = some document) :
    stack.length + 1 ≤ nestingLimit ∧ answer ⟨frame :: stack, await⟩ rest = some document := by
  have step : step ⟨stack, .value .any⟩ lexeme = enter frame await stack := begins
  rw [answer_cons, step, enter] at accepted
  split at accepted
  · next room => exact ⟨room, accepted⟩
  · cases accepted

/-- Lexemes that lead to a document begin with those of a value, wherever one comes next. By
induction on their number, which all values inside of the first one share. -/
theorem beginsWithValue (size : Nat) : BeginsWithValue size := by
  induction size with
  | zero =>
    intro stack lexemes document bounded accepted room
    obtain rfl := List.length_eq_zero_iff.mp (Nat.le_zero.mp bounded)
    cases accepted
  | succ size values =>
    intro stack lexemes document bounded accepted room
    cases lexemes with
    | nil => cases accepted
    | cons first behind =>
      rw [List.length_cons] at bounded
      cases first with
      | null => exact ⟨.null, behind, rfl, room⟩
      | bool value => exact ⟨.bool value, behind, rfl, room⟩
      | number value =>
        cases value with
        | none => cases accepted
        | some value => exact ⟨.number value, behind, rfl, room⟩
      | text value =>
        cases value with
        | error fault => cases accepted
        | ok value => exact ⟨.text value, behind, rfl, room⟩
      | openBracket =>
        obtain ⟨room, accepted⟩ := room_of_answer rfl accepted
        obtain ⟨items, rest, rfl, itemsRoom⟩ := exists_list values (by omega) room accepted
        refine ⟨.list items, rest, rfl, ?_⟩
        rw [Value.depth]
        omega
      | openBrace =>
        obtain ⟨room, accepted⟩ := room_of_answer rfl accepted
        obtain ⟨members, rest, rfl, membersRoom⟩ := exists_object values (by omega) room accepted
        refine ⟨.object members, rest, rfl, ?_⟩
        rw [Value.depth]
        omega
      | _ => cases accepted

/-- Behind a whole document nothing may stand. -/
theorem answer_nothing {value : Value}
    (accepted : answer ⟨[], .nothing value⟩ lexemes = some document) :
    lexemes = [] ∧ value = document := by
  cases lexemes with
  | nil => exact ⟨rfl, Option.some.inj accepted⟩
  | cons first behind => cases accepted

end Reader

/-- A text holds a value exactly when it spells a document, not nested too deep, that sorted is the
value. That such a text is read is the reader followed along the document; that no other is, is the
document found along the reader. -/
theorem Value.read_eq_ok_iff {text : String} {value : Value} :
    Value.read text = .ok value ↔ ∃ written : Value, written.SpelledBy text ∧
      written.depth ≤ Reader.nestingLimit ∧ value = written.sorted := by
  constructor
  · intro read
    have accepted := Reader.read_eq_ok_iff.mp read
    obtain ⟨written, rest, spelled, nested, -, accepted⟩ :=
      Reader.BeginsWithValue.exists_rest (Reader.beginsWithValue _) (Nat.le_refl _) accepted
        (Nat.zero_le _)
    obtain ⟨rfl, same⟩ := Reader.answer_nothing accepted
    rw [List.append_nil] at spelled
    rw [List.length_nil, Nat.zero_add] at nested
    exact ⟨written, spelled, nested, same.symm⟩
  · rintro ⟨written, spelled, nested, rfl⟩
    exact (spelled.read_eq_ok_iff nested (Schema.unambiguous_any written)).mpr rfl

end Gatehouse.Json
