import Gatehouse.Proofs.Json.Document
import Gatehouse.Proofs.Json.Lexeme

/-!
# Reading back a document

The compact text of a value spells that value and no other: each part of it is written as
the lexemes that spell it, whatever follows. So two values have one text only where they
are equal, and a document that was written is read back as its value with the members
sorted, because that is how every spelled document is read.

All of this is about legible values, in which each number is what its own text stands for.
Integers in range always are. A floating point number may not be: its text is the nearest
to it, but a reader rounds more than once and can end up beside it.
-/

namespace Gatehouse.Json

/-- What writing says of one value: wherever nothing that follows could belong to a number at its
end, its text is taken as the lexemes that spell it. -/
def Value.WritesLexemes (value : Value) : Prop :=
  ∀ rest : List Char, Numeral.EndsNumeral rest →
    lexemes (value.write ++ rest) = value.spell ++ lexemes rest

/-- No mark that stands behind a value could belong to a number. -/
theorem endsNumeral_mark {mark : Char} (isMark : mark ∈ [',', ']', '\x7d']) (rest : List Char) :
    Numeral.EndsNumeral (mark :: rest) := by
  simp only [List.mem_cons, List.not_mem_nil, or_false] at isMark
  rcases isMark with rfl | rfl | rfl
  all_goals exact ⟨rfl, by decide, by decide, by decide⟩

/-- The items of a list are written one after another, up to its end. By induction on the items:
what stands behind each of them is a mark, so it could not belong to a number. -/
theorem lexemes_items {item : Value} {more : List Value} (first : item.WritesLexemes)
    (others : ∀ other ∈ more, other.WritesLexemes) (rest : List Char) :
    lexemes (joinParts (writeItems (item :: more)) ++ ']' :: rest) =
      Value.spellItems (item :: more) ++ lexemes rest := by
  -- The first item is kept apart: a comma stands in front of every other one.
  induction more generalizing item with
  | nil =>
    rw [writeItems, writeItems, joinParts, first _ (endsNumeral_mark (by decide) rest),
      lexemes_closeBracket]
    simp [Value.spellItems, Value.spellMoreItems]
  | cons next behind inductionHypothesis =>
    obtain ⟨second, later⟩ := List.forall_mem_cons.mp others
    have joined : joinParts (writeItems (item :: next :: behind)) ++ ']' :: rest =
        item.write ++ ',' :: (joinParts (writeItems (next :: behind)) ++ ']' :: rest) := by
      simp [writeItems, joinParts]
    rw [joined, first _ (endsNumeral_mark (by decide) _), lexemes_comma,
      inductionHypothesis second later]
    simp [Value.spellItems, Value.spellMoreItems]

/-- The members of an object are written one after another, up to its end, in the same way. -/
theorem lexemes_members {name : String} {value : Value} {more : List (String × Value)}
    (first : value.WritesLexemes) (others : ∀ other ∈ more, other.2.WritesLexemes)
    (rest : List Char) :
    lexemes (joinParts (writeMembers ((name, value) :: more)) ++ '\x7d' :: rest) =
      Value.spellMembers ((name, value) :: more) ++ lexemes rest := by
  induction more generalizing name value with
  | nil =>
    have joined : joinParts (writeMembers [(name, value)]) ++ '\x7d' :: rest =
        writeText name ++ ':' :: (value.write ++ '\x7d' :: rest) := by
      simp [writeMembers, joinParts]
    rw [joined, lexemes_text, lexemes_colon, first _ (endsNumeral_mark (by decide) rest),
      lexemes_closeBrace]
    simp [Value.spellMembers, Value.spellMoreMembers]
  | cons next behind inductionHypothesis =>
    obtain ⟨nextName, nextValue⟩ := next
    obtain ⟨second, later⟩ := List.forall_mem_cons.mp others
    have joined : joinParts (writeMembers ((name, value) :: (nextName, nextValue) :: behind)) ++
          '\x7d' :: rest =
        writeText name ++ ':' :: (value.write ++
          ',' :: (joinParts (writeMembers ((nextName, nextValue) :: behind)) ++
            '\x7d' :: rest)) := by
      simp [writeMembers, joinParts]
    rw [joined, lexemes_text, lexemes_colon, first _ (endsNumeral_mark (by decide) _),
      lexemes_comma, inductionHypothesis second later]
    simp [Value.spellMembers, Value.spellMoreMembers]

/-- A list is written as the lexemes that spell it where its items are. -/
theorem writesLexemes_list {items : List Value} (parts : ∀ item ∈ items, item.WritesLexemes) :
    (Value.list items).WritesLexemes := by
  intro rest ends
  rw [Value.write, List.append_assoc, List.cons_append, List.singleton_append,
    lexemes_openBracket, Value.spell, List.cons_append]
  cases items with
  | nil => rw [writeItems, joinParts, List.nil_append, lexemes_closeBracket, Value.spellItems,
      List.singleton_append]
  | cons item more =>
    obtain ⟨first, others⟩ := List.forall_mem_cons.mp parts
    rw [lexemes_items first others]

/-- An object is written as the lexemes that spell it where the values of its members are. -/
theorem writesLexemes_object {members : List (String × Value)}
    (parts : ∀ member ∈ members, member.2.WritesLexemes) :
    (Value.object members).WritesLexemes := by
  intro rest ends
  rw [Value.write, List.append_assoc, List.cons_append, List.singleton_append,
    lexemes_openBrace, Value.spell, List.cons_append]
  cases members with
  | nil => rw [writeMembers, joinParts, List.nil_append, lexemes_closeBrace, Value.spellMembers,
      List.singleton_append]
  | cons member more =>
    obtain ⟨first, others⟩ := List.forall_mem_cons.mp parts
    rw [lexemes_members first others]

/-- Every number in a value is what its own text stands for. -/
def Value.Legible (value : Value) : Prop :=
  value.Every fun part => ∀ found, part = .number found →
    lexemes found.write = [.number (some found)]

/-- An integer in range is what its digits stand for, so exact values are legible. -/
theorem Value.Exact.legible {value : Value} (exact : value.Exact) : value.Legible := by
  refine Value.Every.imp₂ ?_ exact exact
  intro part isExact _ found same
  obtain ⟨isInteger, inRange⟩ := isExact found same
  cases found with
  | float number => exact isInteger.elim
  | integer number =>
    have ends : Numeral.EndsNumeral [] := trivial
    have alone := lexemes_integer inRange ends
    rwa [List.append_nil, lexemes_nil] at alone

/-- An object holds the numbers that the values of its members hold. -/
theorem Value.legible_object {members : List (String × Value)}
    (parts : ∀ member ∈ members, member.2.Legible) : (Value.object members).Legible :=
  Value.every_object.mpr ⟨nofun, parts⟩

/-- Every value that holds legible numbers only is written as the lexemes that spell it. By
induction on the value. -/
theorem Value.Legible.writesLexemes {value : Value} (legible : value.Legible) :
    value.WritesLexemes := by
  induction value using Value.induct with
  | null =>
    intro rest ends
    exact lexemes_null rest
  | bool value =>
    intro rest ends
    cases value with
    | true => exact lexemes_true rest
    | false => exact lexemes_false rest
  | number value =>
    intro rest ends
    exact lexemes_append_of_number ends (legible value rfl)
  | text value =>
    intro rest ends
    exact lexemes_text value rest
  | list items inductionHypothesis =>
    have parts := (Value.every_list.mp legible).2
    exact writesLexemes_list fun item inside => inductionHypothesis item inside (parts item inside)
  | object members inductionHypothesis =>
    have parts := (Value.every_object.mp legible).2
    exact writesLexemes_object fun member inside =>
      inductionHypothesis member inside (parts member inside)

/-- The compact text of a value spells it. -/
theorem Value.Legible.spelledBy_render {value : Value} (legible : value.Legible) :
    value.SpelledBy value.render := by
  have whole := legible.writesLexemes [] trivial
  rw [List.append_nil, lexemes_nil, List.append_nil] at whole
  rw [SpelledBy, render, String.toList_ofList, whole]

/-- The compact text of an exact value spells it. -/
theorem Value.spelledBy_render {value : Value} (exact : value.Exact) :
    value.SpelledBy value.render := exact.legible.spelledBy_render

/-- The compact text of a value spells no other document, because a text spells at most one. -/
theorem Value.spelledBy_render_iff {value : Value} (exact : value.Exact) {document : Value} :
    document.SpelledBy value.render ↔ document = value := by
  constructor
  · intro spelled
    exact spelled.unique (spelledBy_render exact)
  · rintro rfl
    exact spelledBy_render exact

/-- Values of one text are equal, whatever quotes, commas and brackets their texts hold. -/
theorem Value.render_inj {first second : Value} (firstExact : first.Exact)
    (secondExact : second.Exact) : first.render = second.render ↔ first = second := by
  constructor
  · intro same
    have spelled : first.SpelledBy second.render := same ▸ spelledBy_render firstExact
    exact (spelledBy_render_iff secondExact).mp spelled
  · exact congrArg render

/-- Every floating point number in a value is read back from its own text. Not every one is: the
text is the shortest that is nearest to the number, but a reader rounds more than once. -/
def Value.KeepsFloats (value : Value) : Prop :=
  value.Every fun part => ∀ number, part = .number (.float number) →
    Value.read part.render = .ok part

/-- A canonical value is legible as far as its floating point numbers are read back. -/
theorem Value.Canonical.legible {value : Value} (canonical : value.Canonical)
    (keepsFloats : value.KeepsFloats) : value.Legible := by
  refine Value.Every.imp₂ ?_ canonical keepsFloats
  rintro part isCanonical keeps found rfl
  cases found with
  | integer number =>
    exact (Value.exact_integer isCanonical).legible (.integer number) rfl
  | float number =>
    obtain ⟨document, spelled, -, same⟩ := Value.read_eq_ok_iff.mp (keeps number rfl)
    have isNumber : document = .number (.float number) := by
      cases document <;> first | exact same.symm | cases same
    rw [isNumber, Value.SpelledBy, Value.render, String.toList_ofList] at spelled
    exact spelled

/-- A written document that is not nested too deep is read for a shape as the form that is accepted
for it. -/
theorem Value.Legible.read_render_eq_ok_iff {schema : Schema} {value form : Value}
    (legible : value.Legible) (nested : value.depth ≤ Reader.nestingLimit) :
    schema.read value.render = .ok form ↔ schema.accept? value = some form :=
  legible.spelledBy_render.read_eq_ok_iff_accept? nested

/-- So is an exact document, whose numbers are all read back. -/
theorem Schema.read_render_eq_ok_iff {schema : Schema} {value form : Value} (exact : value.Exact)
    (nested : value.depth ≤ Reader.nestingLimit) :
    schema.read value.render = .ok form ↔ schema.accept? value = some form :=
  exact.legible.read_render_eq_ok_iff nested

/-- A written document that is not nested too deep is read back as its value with the members
sorted: any shape takes it, and that is the form it takes it in. -/
theorem Value.read_render {value : Value} (exact : value.Exact)
    (nested : value.depth ≤ Reader.nestingLimit) : Value.read value.render = .ok value.sorted :=
  Value.read_eq_ok_iff.mpr ⟨value, spelledBy_render exact, nested, rfl⟩

end Gatehouse.Json
