import Gatehouse.Shell.Pattern

/-!
# Fields

How what a word expands to is split into fields. Only what comes out of an unquoted
expansion is split, at the separators of the session; blanks among them run together.
-/

namespace Gatehouse.Shell

/-- A part of an expansion: a character, a mark that makes a field even when nothing else is in it,
and the end of a field. -/
inductive Atom
  | char (value : Char) (quoted : Bool) (splits : Bool)
  | mark
  | cut
deriving DecidableEq, Repr

namespace Atom

/-- A text in quotes. -/
def quotedText (text : String) : List Atom := .mark :: text.toList.map (.char · true false)

/-- A text that came out of an expansion. -/
def openText (text : String) : List Atom := text.toList.map (.char · false true)

/-- The characters of an expansion, with what is quoted. -/
def chars (atoms : List Atom) : List PatternChar :=
  atoms.filterMap fun atom => match atom with
    | .char value quoted _ => some (value, quoted)
    | .mark | .cut => none

/-- The text of an expansion. -/
def text (atoms : List Atom) : String := String.ofList ((chars atoms).map (·.1))

end Atom

/-- Where splitting stands: behind other characters, behind blanks that ended a field, or behind
another separator. -/
inductive Gap
  | none
  | blanks
  | separator
deriving DecidableEq, Repr

/-- A field on its way, the latest character first, with those that are complete. `left` counts the
fields that may still be split off, if there is a limit; behind it the last field takes all, and
`dropped` counts the characters at its end that are taken away again. -/
structure Splitting where
  done : List (List PatternChar)
  current : List PatternChar
  isMarked : Bool
  gap : Gap
  left : Option Nat
  dropped : Option Nat
deriving Repr

namespace Splitting

/-- Blanks among the separators. A character of number zero stands between arguments and is always
one of them. -/
def isBlank (separators : String) (character : Char) : Bool :=
  character == '\x00' ||
    (character ∈ [' ', '\t', '\n'] && separators.toList.contains character)

/-- Characters that split fields. -/
def isSeparator (separators : String) (character : Char) : Bool :=
  character == '\x00' || separators.toList.contains character

/-- Whether nothing stands in the current field. -/
def isFresh (state : Splitting) : Bool := state.current.isEmpty && !state.isMarked

/-- End the current field. -/
def finish (state : Splitting) (gap : Gap) : Splitting :=
  { state with
    done := state.current.reverse :: state.done, current := [], isMarked := false, gap }

/-- A character of the last field that a limit leaves. -/
def addLast (separators : String) (state : Splitting) (value : Char) (quoted splits : Bool) :
    Splitting :=
  let separates := splits && isSeparator separators value
  let added := { state with current := (value, quoted) :: state.current }
  if splits && isBlank separators value then
    { added with dropped := some (state.dropped.getD 0 + 1) }
  else if separates ∧ state.gap = .blanks then
    { added with dropped := state.dropped.map (· + 1), gap := .none }
  else { added with dropped := none, gap := .none }

/-- One part of an expansion. -/
def add (separators : String) (state : Splitting) : Atom → Splitting
  | .mark => { state with isMarked := true, gap := .none }
  | .cut => if state.isFresh then { state with gap := .none } else state.finish .none
  | .char value quoted splits =>
    if state.left = some 0 then addLast separators state value quoted splits
    else if ¬ splits ∨ ¬ isSeparator separators value then
      { state with current := (value, quoted) :: state.current, gap := .none }
    else
      let blank := isBlank separators value
      if state.isFresh ∧ blank then state
      else if state.isFresh ∧ state.gap = .blanks then { state with gap := .separator }
      else
        let gap : Gap := if blank then .blanks else .separator
        match state.left with
        | some 1 => { state with
            current := (value, quoted) :: state.current, left := some 0, dropped := some 1, gap }
        | left => { state.finish gap with left := left.map (· - 1) }

/-- The fields once all parts are there. -/
def result (state : Splitting) : List (List PatternChar) :=
  let last := state.current.drop (state.dropped.getD 0)
  let all := if last.isEmpty ∧ ¬ state.isMarked then state.done else last.reverse :: state.done
  all.reverse

end Splitting

/-- The fields of an expansion, so many at most if there is a limit. -/
def splitFields (separators : String) (limit : Option Nat) (atoms : List Atom) :
    List (List PatternChar) :=
  (atoms.foldl (Splitting.add separators) ⟨[], [], false, .none, limit, none⟩).result

end Gatehouse.Shell
