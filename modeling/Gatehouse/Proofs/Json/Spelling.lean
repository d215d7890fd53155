import Gatehouse.Json.Reader
import Gatehouse.Proofs.Json.Canonical
import Mathlib.Control.Monad.Basic

/-!
# The lexemes of a document

A value whose members stand in the order of the text, those of a repeated name included,
is the document that a text spells. The lexemes of such a value are the text without its
blanks and without the choice of escapes, so every statement about all texts that a
reader accepts is one about all values. `sorted` forgets the order and the repeats.
-/

namespace Gatehouse.Json

deriving instance DecidableEq for Lexeme

namespace Value

mutual

/-- The lexemes of a document. -/
def spell : Value → List Lexeme
  | .null => [.null]
  | .bool value => [.bool value]
  | .number value => [.number (some value)]
  | .text value => [.text (.ok value)]
  | .list items => .openBracket :: spellItems items
  | .object members => .openBrace :: spellMembers members

/-- The items of a list, up to its end. -/
def spellItems : List Value → List Lexeme
  | [] => [.closeBracket]
  | item :: rest => item.spell ++ spellMoreItems rest

/-- What follows an item of a list, up to the end of the list. -/
def spellMoreItems : List Value → List Lexeme
  | [] => [.closeBracket]
  | item :: rest => .comma :: (item.spell ++ spellMoreItems rest)

/-- The members of an object, up to its end. -/
def spellMembers : List (String × Value) → List Lexeme
  | [] => [.closeBrace]
  | (name, value) :: rest => .text (.ok name) :: .colon :: (value.spell ++ spellMoreMembers rest)

/-- What follows a member of an object, up to the end of the object. -/
def spellMoreMembers : List (String × Value) → List Lexeme
  | [] => [.closeBrace]
  | (name, value) :: rest =>
    .comma :: .text (.ok name) :: .colon :: (value.spell ++ spellMoreMembers rest)

end

/-- A text spells a document: these are its lexemes. -/
def SpelledBy (value : Value) (text : String) : Prop := lexemes text.toList = value.spell

instance (value : Value) (text : String) : Decidable (value.SpelledBy text) :=
  inferInstanceAs (Decidable (lexemes text.toList = value.spell))

/-- The first lexeme of a document is no mark that ends a list. -/
theorem spell_eq_cons (value : Value) :
    ∃ first behind, value.spell = first :: behind ∧ first ≠ .closeBracket := by
  cases value <;> exact ⟨_, _, rfl, by simp⟩

/-- No other value has lexemes that begin like those of one value, whatever follows. -/
def Decipherable (value : Value) : Prop :=
  ∀ {other : Value} {rest rest' : List Lexeme},
    value.spell ++ rest = other.spell ++ rest' → value = other ∧ rest = rest'

/-- The items behind one of a list can be told from their lexemes, and so can what follows them: a
comma goes on with the list, and a bracket ends it. -/
theorem moreItems_injective {items : List Value} (parts : ∀ item ∈ items, Decipherable item)
    {others : List Value} {rest rest' : List Lexeme}
    (same : spellMoreItems items ++ rest = spellMoreItems others ++ rest') :
    items = others ∧ rest = rest' := by
  induction items generalizing others with
  | nil =>
    cases others with
    | nil => exact ⟨rfl, (List.cons.inj same).2⟩
    | cons other behind => cases same
  | cons item more inductionHypothesis =>
    cases others with
    | nil => cases same
    | cons other behind =>
      obtain ⟨first, later⟩ := List.forall_mem_cons.mp parts
      simp only [spellMoreItems, List.cons_append, List.append_assoc, List.cons.injEq,
        true_and] at same
      obtain ⟨rfl, sameBehind⟩ := first same
      obtain ⟨rfl, sameRest⟩ := inductionHypothesis later sameBehind
      exact ⟨rfl, sameRest⟩

/-- So can the items of a list behind the bracket that opens it. -/
theorem items_injective {items : List Value} (parts : ∀ item ∈ items, Decipherable item)
    {others : List Value} {rest rest' : List Lexeme}
    (same : spellItems items ++ rest = spellItems others ++ rest') :
    items = others ∧ rest = rest' := by
  -- An item does not begin like the end of the list.
  have notEnd (item : Value) (more : List Value) {rest rest' : List Lexeme} :
      spellItems (item :: more) ++ rest ≠ .closeBracket :: rest' := by
    obtain ⟨first, behind, spelled, notEnd⟩ := item.spell_eq_cons
    rw [spellItems, spelled, List.cons_append, List.cons_append]
    exact fun same => notEnd (List.cons.inj same).1
  cases items with
  | nil =>
    cases others with
    | nil => exact ⟨rfl, (List.cons.inj same).2⟩
    | cons other behind => exact absurd same.symm (notEnd other behind)
  | cons item more =>
    cases others with
    | nil => exact absurd same (notEnd item more)
    | cons other behind =>
      obtain ⟨first, later⟩ := List.forall_mem_cons.mp parts
      simp only [spellItems, List.append_assoc] at same
      obtain ⟨rfl, sameBehind⟩ := first same
      obtain ⟨rfl, sameRest⟩ := moreItems_injective later sameBehind
      exact ⟨rfl, sameRest⟩

/-- The members behind one of an object can be told from their lexemes, each by its name and its
value. -/
theorem moreMembers_injective {members : List (String × Value)}
    (parts : ∀ member ∈ members, Decipherable member.2)
    {others : List (String × Value)} {rest rest' : List Lexeme}
    (same : spellMoreMembers members ++ rest = spellMoreMembers others ++ rest') :
    members = others ∧ rest = rest' := by
  induction members generalizing others with
  | nil =>
    cases others with
    | nil => exact ⟨rfl, (List.cons.inj same).2⟩
    | cons other behind => cases same
  | cons member more inductionHypothesis =>
    cases others with
    | nil => cases same
    | cons other behind =>
      obtain ⟨name, value⟩ := member
      obtain ⟨otherName, otherValue⟩ := other
      obtain ⟨first, later⟩ := List.forall_mem_cons.mp parts
      simp only [spellMoreMembers, List.cons_append, List.append_assoc, List.cons.injEq,
        Lexeme.text.injEq, Except.ok.injEq, true_and] at same
      obtain ⟨rfl, same⟩ := same
      obtain ⟨rfl, sameBehind⟩ := first same
      obtain ⟨rfl, sameRest⟩ := inductionHypothesis later sameBehind
      exact ⟨rfl, sameRest⟩

/-- So can the members of an object behind the brace that opens it. -/
theorem members_injective {members : List (String × Value)}
    (parts : ∀ member ∈ members, Decipherable member.2)
    {others : List (String × Value)} {rest rest' : List Lexeme}
    (same : spellMembers members ++ rest = spellMembers others ++ rest') :
    members = others ∧ rest = rest' := by
  -- With a comma in front the first member is like every other one.
  cases members with
  | nil =>
    cases others with
    | nil => exact ⟨rfl, (List.cons.inj same).2⟩
    | cons other behind => cases same
  | cons member more =>
    cases others with
    | nil => cases same
    | cons other behind => exact moreMembers_injective parts (congrArg (Lexeme.comma :: ·) same)

/-- Lexemes begin like those of one value only. By induction on the value: its first lexeme tells
what it is, and those of a container end where it ends. -/
theorem decipherable (value : Value) : Decipherable value := by
  induction value using Value.induct with
  | null | bool value | number value | text value =>
    intro other rest rest' same
    cases other <;> simp_all [spell]
  | list items inductionHypothesis =>
    intro other rest rest' same
    cases other with
    | list others =>
      obtain ⟨rfl, sameRest⟩ := items_injective inductionHypothesis (List.cons.inj same).2
      exact ⟨rfl, sameRest⟩
    | _ => cases same
  | object members inductionHypothesis =>
    intro other rest rest' same
    cases other with
    | object others =>
      obtain ⟨rfl, sameRest⟩ := members_injective inductionHypothesis (List.cons.inj same).2
      exact ⟨rfl, sameRest⟩
    | _ => cases same

/-- A text spells at most one document. -/
theorem SpelledBy.unique {first second : Value} {text : String} (one : first.SpelledBy text)
    (other : second.SpelledBy text) : first = second := by
  have same : first.spell ++ [] = second.spell ++ [] := by
    rw [List.append_nil, List.append_nil, ← one, ← other]
  exact (first.decipherable same).1

end Value

namespace Reader

/-- What a reader makes of the lexemes in front of it: the document, unless they are refused. -/
def answer (state : ReaderState) (lexemes : List Lexeme) : Option Value :=
  ((run state lexemes).bind finish).toOption

variable {state : ReaderState} {lexeme : Lexeme} {outer : List Frame}

/-- A lexeme leads to a state, and from there the rest decides. -/
theorem answer_of_step (next : ReaderState) (rest : List Lexeme)
    (stepped : step state lexeme = .ok next) :
    answer state (lexeme :: rest) = answer next rest := by
  rw [answer, run, stepped, answer]

/-- A lexeme that is refused decides, whatever follows it. -/
theorem answer_of_refused (fault : Fault) (rest : List Lexeme)
    (refused : step state lexeme = .error fault) : answer state (lexeme :: rest) = none := by
  rw [answer, run, refused]
  rfl

/-- One lexeme, and then the rest from where it leads to. -/
theorem answer_cons (state : ReaderState) (lexeme : Lexeme) (rest : List Lexeme) :
    answer state (lexeme :: rest) =
      (step state lexeme).toOption.bind fun next => answer next rest := by
  cases stepped : step state lexeme with
  | ok next => exact answer_of_step next rest stepped
  | error fault => exact answer_of_refused fault rest stepped

/-- A reader gives a document exactly when its answer is that document. The answer is what is left
of a run when faults are not told apart, which is all that this theory needs to know of them. -/
theorem read_eq_ok_iff {schema : Schema} {text : String} {value : Value} :
    schema.read text = .ok value ↔
      answer ⟨[], .value schema⟩ (lexemes text.toList) = some value := by
  rw [Schema.read, answer]
  cases (run ⟨[], .value schema⟩ (lexemes text.toList)).bind finish with
  | ok document => simp [Except.toOption]
  | error fault => simp [Except.toOption]

/-- Behind the bracket that opens a list, its items are read as they are behind an earlier item:
only the comma between them is missing. -/
theorem answer_itemOrEnd {frame : Frame}
    (isList : ∀ lexeme, beginItem (frame :: outer) lexeme =
      (separate (frame :: outer)).bind fun next => step next lexeme)
    (items : List Value) (rest : List Lexeme) :
    answer ⟨frame :: outer, .itemOrEnd⟩ (Value.spellItems items ++ rest) =
      answer ⟨frame :: outer, .separator⟩ (Value.spellMoreItems items ++ rest) := by
  cases items with
  | nil => rfl
  | cons item more =>
    obtain ⟨first, behind, spelled, notEnd⟩ := item.spell_eq_cons
    -- No item begins like the end of a list, so its first lexeme begins it in both places.
    have begins : step ⟨frame :: outer, .itemOrEnd⟩ first = beginItem (frame :: outer) first := by
      cases first <;> first | exact absurd rfl notEnd | rfl
    have comma : step ⟨frame :: outer, .separator⟩ .comma = separate (frame :: outer) := rfl
    simp only [Value.spellItems, Value.spellMoreItems, spelled, List.cons_append]
    rw [answer_cons, begins, isList, answer_cons, comma]
    cases separate (frame :: outer) with
    | ok next => exact (answer_cons next first _).symm
    | error fault => rfl

/-- Behind the brace that opens an object, its members are read as they are behind an earlier
member. -/
theorem answer_nameOrEnd {frame : Frame}
    (isObject : separate (frame :: outer) = .ok ⟨frame :: outer, .name⟩)
    (members : List (String × Value)) (rest : List Lexeme) :
    answer ⟨frame :: outer, .nameOrEnd⟩ (Value.spellMembers members ++ rest) =
      answer ⟨frame :: outer, .separator⟩ (Value.spellMoreMembers members ++ rest) := by
  cases members with
  | nil => rfl
  | cons member more =>
    have comma : step ⟨frame :: outer, .separator⟩ .comma = .ok ⟨frame :: outer, .name⟩ := isObject
    simp only [Value.spellMembers, Value.spellMoreMembers, List.cons_append]
    rw [answer_of_step _ _ comma]
    rfl

end Reader

end Gatehouse.Json
