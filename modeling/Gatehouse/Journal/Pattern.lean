/-!
# Patterns of values

What can be asked for as the value of a field: a truth value, a number, or a pattern.
Whether a text is a pattern is decided in one pass over its characters: brackets have to
be closed, an operator needs something in front of it that it repeats, and what stands
behind a backslash has to be known. The bounds of ranges and the names of groups are not
looked at. Braces cannot be reached: in a filter they end the value.
-/

namespace Gatehouse.Pattern

/-- What is being read: the pattern itself, what stands behind a backslash in it or in a set, a
number of digits of a code, the letter of a category, a set of characters from its beginning or
further on, and a group from its question mark on: flags, or a name. -/
inductive Part
  | plain
  | escape (inSet : Bool)
  | digits (count : Nat) (inSet : Bool)
  | category (inSet : Bool)
  | setStart
  | set
  | groupStart
  | flags
  | name
deriving DecidableEq, Repr

/-- The state of reading a pattern: its part, how many groups and sets are open, whether a group
was opened by the character before, and whether there is something to repeat. -/
structure Progress where
  part : Part
  groups : Nat
  sets : Nat
  repeatable : Bool
deriving DecidableEq, Repr

namespace Progress

/-- Nothing read so far. -/
def start : Progress := ⟨.plain, 0, 0, false⟩

/-- Go on behind what can be repeated, or within the set that it is in. -/
def behind (progress : Progress) (inSet : Bool) : Progress :=
  { progress with part := if inSet then .set else .plain, repeatable := true }

/-- Open a set of characters. -/
def openSet (progress : Progress) : Progress :=
  { progress with part := .setStart, sets := progress.sets + 1 }

/-- Close the set that was opened last. -/
def closeSet (progress : Progress) : Progress :=
  { progress with
    part := if progress.sets ≤ 1 then .plain else .set
    sets := progress.sets - 1
    repeatable := true }

/-- Close the group that was opened last, if one is open. -/
def closeGroup (progress : Progress) (repeatable : Bool) : Option Progress :=
  if progress.groups = 0 then none
  else some { progress with
    part := .plain, groups := progress.groups - 1, repeatable := repeatable }

/-- One character of the pattern itself. -/
def stepPlain (progress : Progress) (character : Char) : Option Progress :=
  match character with
  | '(' => some { progress with
      part := .groupStart, groups := progress.groups + 1, repeatable := false }
  | ')' => progress.closeGroup true
  | '[' => some progress.openSet
  | '\\' => some { progress with part := .escape false }
  | '|' => some { progress with part := .plain, repeatable := false }
  | '\x7b' => none
  | '*' | '+' | '?' => if progress.repeatable then some { progress with part := .plain } else none
  | _ => some (progress.behind false)

/-- One character behind a backslash: a mark that would mean something else, or a letter that
stands for a class, a place or a code. -/
def stepEscape (progress : Progress) (inSet : Bool) (character : Char) : Option Progress :=
  match character with
  | 'x' => some { progress with part := .digits 2 inSet }
  | 'u' => some { progress with part := .digits 4 inSet }
  | 'U' => some { progress with part := .digits 8 inSet }
  | 'p' | 'P' => some { progress with part := .category inSet }
  | _ =>
    let isMark := 0x21 ≤ character.toNat ∧ character.toNat ≤ 0x7E ∧ ¬ character.isAlphanum ∧
      character ∉ ['<', '>']
    let isClass := character ∈ ['d', 'D', 's', 'S', 'w', 'W', 'n', 'r', 't', 'f', 'v', 'a']
    let isPlace := ¬ inSet ∧ character ∈ ['A', 'z', 'b', 'B']
    if isMark ∨ isClass ∨ isPlace then some (progress.behind inSet) else none

/-- One character of a set that is not its first one. -/
def stepSet (progress : Progress) (character : Char) : Progress :=
  match character with
  | ']' => progress.closeSet
  | '[' => progress.openSet
  | '\\' => { progress with part := .escape true }
  | _ => { progress with part := .set }

/-- One character. -/
def step (progress : Progress) (character : Char) : Option Progress :=
  match progress.part with
  | .plain => progress.stepPlain character
  | .escape inSet => progress.stepEscape inSet character
  | .digits count inSet =>
    if ¬ (character.isDigit ∨ character.toLower ∈ ['a', 'b', 'c', 'd', 'e', 'f']) then none
    else if count ≤ 1 then some (progress.behind inSet)
    else some { progress with part := .digits (count - 1) inSet }
  | .category inSet =>
    if character ∈ ['C', 'L', 'M', 'N', 'P', 'S', 'Z'] then some (progress.behind inSet) else none
  | .setStart =>
    match character with
    | '^' => some progress
    | ']' | '-' => some { progress with part := .set }
    | _ => some (progress.stepSet character)
  | .set => some (progress.stepSet character)
  | .groupStart =>
    if character = '?' then some { progress with part := .flags }
    else { progress with part := .plain }.stepPlain character
  | .flags =>
    match character with
    | ')' => progress.closeGroup false
    | ':' => some { progress with part := .plain }
    | 'P' => some progress
    | '<' => some { progress with part := .name }
    | _ => if character ∈ ['i', 'm', 's', 'U', 'u', 'x', 'R', '-'] then some progress else none
  | .name => if character = '>' then some { progress with part := .plain } else some progress

end Progress

/-- Whether a text is a pattern: it can be read to its end, and nothing is open there. -/
def isWellFormed (text : String) : Bool :=
  match text.toList.foldlM Progress.step .start with
  | none => false
  | some last => last.groups = 0 ∧ last.part ∈ [.plain, .groupStart]

/-- Whether a text can be asked for as a value. A number may have a sign in front of it, which
alone would repeat nothing. -/
def isValue (text : String) : Bool :=
  match text.toList with
  | '+' :: number => (number ≠ [] ∧ number.all Char.isDigit) ∨ text.toLower ∈ ["+inf", "+nan"]
  | _ => isWellFormed text

example : isValue "(" = false := by decide
example : isValue "a(b|[^]c]*)\\.d" = true := by decide

end Gatehouse.Pattern
