/-!
# Patterns

Patterns that stand for many texts: stars, question marks and sets in brackets. A quoted
character stands for itself.
-/

namespace Gatehouse.Shell

/-- A character of a pattern as it is written, and whether it stands for itself. -/
abbrev PatternChar := Char × Bool

/-- What a set in brackets holds: all characters between two, or a class by its name. -/
inductive Member
  | range (first last : Char)
  | named (name : String)
deriving DecidableEq, Repr

/-- A part of a pattern. -/
inductive PatternItem
  | exactly (character : Char)
  | anyOne
  | anything
  | oneOf (negated : Bool) (members : List Member)
deriving DecidableEq, Repr

namespace Member

/-- Whether a class has a character. -/
def isNamed (name : String) (character : Char) : Bool :=
  match name with
  | "alpha" => character.isAlpha
  | "digit" => character.isDigit
  | "alnum" => character.isAlphanum
  | "upper" => character.isUpper
  | "lower" => character.isLower
  | "space" => character == ' ' || ('\t' ≤ character && character ≤ '\x0d')
  | "blank" => character == ' ' || character == '\t'
  | "punct" => '!' ≤ character && character ≤ '~' && !character.isAlphanum
  | "print" => ' ' ≤ character && character ≤ '~'
  | "graph" => '!' ≤ character && character ≤ '~'
  | "cntrl" => character < ' ' || character == '\x7f'
  | "xdigit" => character.isDigit || ('a' ≤ character && character ≤ 'f') ||
      ('A' ≤ character && character ≤ 'F')
  | _ => false

/-- Whether a character is among those that a member of a bracket stands for. -/
def holds (member : Member) (character : Char) : Bool :=
  match member with
  | .range first last => first ≤ character && character ≤ last
  | .named name => isNamed name character

end Member

namespace PatternItem

/-- The members of a set up to its closing bracket, and what stands behind that. A bracket that
stands first is a member. -/
def members (done : List Member) : Nat → List PatternChar →
    Option (List Member × List PatternChar)
  | 0, _ => none
  | _ + 1, [] => none
  | fuel + 1, (first, quoted) :: rest =>
    if first = ']' ∧ ¬ quoted ∧ ¬ done.isEmpty then some (done.reverse, rest)
    else
      let name := (rest.drop 1).takeWhile fun (character, _) => character != ':'
      match first, quoted, rest with
      | '[', false, (':', false) :: _ =>
        match (rest.drop (1 + name.length)) with
        | (':', _) :: (']', _) :: behind =>
          members (.named (String.ofList (name.map (·.1))) :: done) fuel behind
        | _ => members (.range '[' '[' :: done) fuel rest
      | _, _, ('-', false) :: (last, lastQuoted) :: behind =>
        if last = ']' ∧ ¬ lastQuoted then members (.range first first :: done) fuel rest
        else members (.range first last :: done) fuel behind
      | _, _, _ => members (.range first first :: done) fuel rest

/-- The parts of a pattern. A bracket that nothing closes stands for itself. -/
def ofChars : Nat → List PatternChar → List PatternItem
  | 0, _ => []
  | _ + 1, [] => []
  | fuel + 1, (first, quoted) :: rest =>
    if quoted then .exactly first :: ofChars fuel rest
    else match first with
      | '*' => .anything :: ofChars fuel rest
      | '?' => .anyOne :: ofChars fuel rest
      | '\\' => match rest with
        | (next, _) :: behind => .exactly next :: ofChars fuel behind
        | [] => [.exactly '\\']
      | '[' =>
        let (negated, inside) := match rest with
          | ('!', false) :: inside | ('^', false) :: inside => (true, inside)
          | inside => (false, inside)
        match members [] (inside.length + 1) inside with
        | some (found, behind) => .oneOf negated found :: ofChars fuel behind
        | none => .exactly '[' :: ofChars fuel rest
      | other => .exactly other :: ofChars fuel rest

/-- Whether one part stands for a character. -/
def fits (item : PatternItem) (character : Char) : Bool :=
  match item with
  | .exactly expected => expected == character
  | .anyOne | .anything => true
  | .oneOf negated found => negated != found.any (·.holds character)

end PatternItem

/-- A pattern. -/
structure Pattern where
  items : List PatternItem
deriving DecidableEq, Repr

namespace Pattern

/-- The pattern that characters write. -/
def ofChars (characters : List PatternChar) : Pattern :=
  ⟨PatternItem.ofChars (characters.length + 1) characters⟩

/-- Whether parts of a pattern stand for a text. -/
def itemsMatch : List PatternItem → List Char → Bool
  | [], text => text.isEmpty
  | .anything :: items, [] => itemsMatch items []
  | .anything :: items, first :: rest =>
    itemsMatch items (first :: rest) || itemsMatch (.anything :: items) rest
  | _ :: _, [] => false
  | item :: items, first :: rest => item.fits first && itemsMatch items rest
termination_by items text => items.length + text.length

/-- Whether a pattern stands for a text. -/
def isMatch (pattern : Pattern) (text : List Char) : Bool := itemsMatch pattern.items text

/-- Whether a pattern can stand for more than one text. -/
def isOpen (pattern : Pattern) : Bool :=
  pattern.items.any fun item => match item with
    | .exactly _ => false
    | _ => true

/-- What is left of a text without the shortest or the longest front that a pattern stands for. -/
def withoutFront (pattern : Pattern) (longest : Bool) (text : List Char) : List Char :=
  let sizes := List.range (text.length + 1)
  let sizes := if longest then sizes.reverse else sizes
  match sizes.find? fun size => pattern.isMatch (text.take size) with
  | some size => text.drop size
  | none => text

/-- What is left of a text without the shortest or the longest end that a pattern stands for. -/
def withoutBack (pattern : Pattern) (longest : Bool) (text : List Char) : List Char :=
  let sizes := List.range (text.length + 1)
  let sizes := if longest then sizes else sizes.reverse
  match sizes.find? fun size => pattern.isMatch (text.drop size) with
  | some size => text.take size
  | none => text

end Pattern

end Gatehouse.Shell
