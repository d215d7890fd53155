import Gatehouse.Shell.Fields
import Gatehouse.Shell.Formula
import Gatehouse.Shell.Session

/-!
# Expansions

What words stand for: parameters and what is made of their values, formulas, the output of
commands, and patterns for names of files. How a command within a word is run is a
parameter here. An expansion that fails ends the session.
-/

namespace Gatehouse.Shell

/-- How a script within a word is run, from its line on: what it writes, without the ends of lines
behind it. -/
abbrev Substitution := (script : List Char) → (line : Nat) → Action String

namespace Session

/-- The value of a parameter that stands for one text. -/
def parameter? (session : Session) (name : String) : Option String :=
  match name with
  | "?" => some (toString session.status)
  | "$" => some (toString session.identity)
  | "#" => some (toString session.arguments.length)
  | "-" => some (String.ofList session.options)
  | "!" => session.lastJob.map toString
  | "0" => some session.name
  | _ =>
    match name.toNat? with
    | some place => session.arguments[place - 1]?
    | none => session.value? name

/-- What stands between arguments that are put together. -/
def joint (session : Session) : String :=
  match session.value? "IFS" with
  | none => " "
  | some separators => String.ofList (separators.toList.take 1)

/-- All arguments as one text, if there are any. -/
def joined? (session : Session) : Option String :=
  if session.arguments.isEmpty then none else some (session.joint.intercalate session.arguments)

end Session

namespace Expansion

/-- Atoms of lists with an atom between them. -/
def between (separator : Atom) : List (List Atom) → List Atom
  | [] => []
  | [last] => last
  | first :: rest => first ++ separator :: between separator rest

/-- All arguments. Each is a field of its own, unless they are put together by quotes or because
nothing is split. -/
def allArguments (session : Session) (name : String) (quoted inFields : Bool) : List Atom :=
  if inFields ∧ ¬ quoted then
    between (.char '\x00' false true) (session.arguments.map Atom.openText)
  else if inFields ∧ name = "@" then
    between .cut (session.arguments.map Atom.quotedText)
  else
    let text := (session.joined?).getD ""
    if quoted then Atom.quotedText text else Atom.openText text

/-- The pattern of an expansion. -/
def patternOf (atoms : List Atom) : Pattern := .ofChars (Atom.chars atoms)

/-- The value of a formula, which may give values to variables. What stands behind it is only
looked at once it has a value; a quotient that is too large ends the process. -/
def formula (text : String) : Action String := do
  let session ← get
  let found : Except FormulaError (Int64 × List (String × Int64)) := do
    let (formula, isWhole) ← Formula.read text.toList
    let found ← formula.evaluate session.value? []
    if isWhole then return found else .error .expectingEnd
  match found with
  | .error .overflow => do
    set { session with control := .killed ⟨8⟩ }
    return ""
  | .error error => do
    set (session.giveUp (error.message text))
    return ""
  | .ok (value, given) => do
    set (given.reverse.foldl (fun (session : Session) (name, value) =>
      session.assign name (toString value.toInt) false) session)
    return toString value.toInt

/-- The report on a parameter without a value, in words of the script where it has some. -/
def missing (name : String) (words? : Option String) (orEmpty : Bool) : String :=
  let fault := if orEmpty then "parameter not set or null" else "parameter not set"
  name ++ ": " ++ words?.getD fault

/-- What is made of the value of a parameter. The word of the change is expanded where it counts. -/
def change (name : String) (change : Change) (quoted inFields hasWord : Bool)
    (word : Bool → Action (List Atom)) : Action (List Atom) := do
  let session ← get
  let isAll := name == "@" || name == "*"
  let value? := if isAll then session.joined? else session.parameter? name
  let shown (value : String) : List Atom :=
    if isAll then allArguments session name quoted inFields
    else if quoted then Atom.quotedText value else Atom.openText value
  let lacks (orEmpty : Bool) : Bool :=
    match value? with
    | none => true
    | some value => orEmpty && value.isEmpty
  let plain (make : String → Action (List Atom)) : Action (List Atom) := do
    if value?.isNone ∧ ¬ isAll ∧ session.options.contains 'u' then do
      set (session.giveUp (missing name none false))
      return []
    else make (value?.getD "")
  match change with
  | .value => plain fun value => return shown value
  | .length => plain fun value =>
    let gaps := if isAll then session.arguments.length - 1 else 0
    let length := if isAll
      then (session.arguments.map String.length).foldl (· + ·) gaps else value.length
    return (if quoted then Atom.quotedText else Atom.openText) (toString length)
  | .default orEmpty => if lacks orEmpty then word inFields else return shown (value?.getD "")
  | .instead orEmpty =>
    if lacks orEmpty then return (if quoted then [.mark] else []) else word inFields
  | .assign orEmpty =>
    if lacks orEmpty then do
      let text := Atom.text (← word false)
      if ¬ isName name then modify fun session => session.giveUp (name ++ ": bad variable name")
      else modify fun session => session.assign name text false
      return if quoted then Atom.quotedText text else Atom.openText text
    else return shown (value?.getD "")
  | .demand orEmpty =>
    if lacks orEmpty then do
      let text := Atom.text (← word false)
      modify fun session =>
        if session.isRunning then
          session.giveUp (missing name (if hasWord then some text else none) orEmpty)
        else session
      return []
    else return shown (value?.getD "")
  | .cutFront longest => plain fun value => do
    let pattern := patternOf (← word false)
    let rest := String.ofList (pattern.withoutFront longest value.toList)
    return if quoted then Atom.quotedText rest else Atom.openText rest
  | .cutBack longest => plain fun value => do
    let pattern := patternOf (← word false)
    let rest := String.ofList (pattern.withoutBack longest value.toList)
    return if quoted then Atom.quotedText rest else Atom.openText rest
  | .unknown => do
    modify fun session => session.giveUp "Bad substitution"
    return []

/-- What a word expands to, with the mark of the home directory replaced where it stands in
front. -/
def withHome (home? : Option String) (word : Word) (found : List Atom) : List Atom :=
  let isMark : Bool := match word with
    | [.text ['~'] false] | .text ('~' :: '/' :: _) false :: _ => true
    | _ => false
  match isMark, home? with
  | true, some home => home.toList.map (.char · true false) ++ found.drop 1
  | _, _ => found

mutual

/-- What a part of a word expands to. `splits` says that even its own unquoted text is split. -/
def piece (substitute : Substitution) (inFields splits : Bool) : Piece → Action (List Atom)
  | .text content quoted =>
    return if quoted then .mark :: content.map (.char · true false)
      else content.map (.char · false splits)
  | .parameter name made word quoted =>
    change name made quoted inFields (!word.isEmpty) fun inFields => do
      let session ← get
      let home? := if quoted then none else session.value? "HOME"
      let found ← pieces substitute inFields (!quoted) word
      return withHome home? word found
  | .output script line quoted => do
    let text ← substitute script line
    return if quoted then Atom.quotedText text else Atom.openText text
  | .formula word quoted => do
    let atoms ← pieces substitute false false word
    if (← get).isRunning then do
      let text ← formula (Atom.text atoms)
      return if quoted then Atom.quotedText text else Atom.openText text
    else return []

/-- What parts of a word expand to, up to the first that fails. -/
def pieces (substitute : Substitution) (inFields splits : Bool) : List Piece → Action (List Atom)
  | [] => return []
  | first :: rest => do
    let front ← piece substitute inFields splits first
    if (← get).isRunning then return front ++ (← pieces substitute inFields splits rest)
    else return []

end

/-- A word in which quotes around nothing but all of no arguments are taken away. -/
def withoutEmptyQuotes : Word → Word
  | .text [] true :: .parameter "@" .value word true :: rest =>
    .parameter "@" .value word true :: withoutEmptyQuotes rest
  | first :: rest => first :: withoutEmptyQuotes rest
  | [] => []

/-- The names along a pattern of names, from a path on. -/
def glob (system : FileSystem) (base : String) : List (List PatternChar) → List String
  | [] => [base]
  | segment :: rest =>
    let pattern := Pattern.ofChars segment
    let literal := String.ofList (segment.map (·.1))
    let behind (name : String) : List String :=
      glob system (base ++ name ++ (if rest.isEmpty then "" else "/")) rest
    if pattern.isOpen then
      match system.resolve (if base.isEmpty then "." else Text.Octets.toText base) with
      | .error _ => []
      | .ok place =>
        let names := (system.entries place).map Text.Octets.ofText
        let isHidden (name : String) : Bool := name.startsWith "." && !literal.startsWith "."
        (names.filter fun name => !isHidden name && pattern.isMatch name.toList).flatMap behind
    else behind literal

/-- The parts of a path pattern between its slashes. -/
def segments (current : List PatternChar) : List PatternChar → List (List PatternChar)
  | [] => [current.reverse]
  | ('/', _) :: rest => current.reverse :: segments [] rest
  | first :: rest => segments (first :: current) rest

/-- The names of files that a field stands for, or its own text where it stands for none. -/
def namesOf (session : Session) (field : List PatternChar) : List String :=
  let text := String.ofList (field.map (·.1))
  if session.options.contains 'f' ∨ ¬ (Pattern.ofChars field).isOpen then [text]
  else
    let found := (glob session.system "" (segments [] field)).filter fun path =>
      (session.system.lookup (Text.Octets.toText path)).isOk
    if found.isEmpty then [text] else found.mergeSort

/-- The fields that a word stands for. -/
def fields (substitute : Substitution) (word : Word) : Action (List String) := do
  let session ← get
  let home? := session.value? "HOME"
  let word := if session.arguments.isEmpty then withoutEmptyQuotes word else word
  let atoms := withHome home? word (← pieces substitute true false word)
  let session ← get
  return (splitFields session.separators none atoms).flatMap (namesOf session)

/-- The one text that a word stands for. -/
def text (substitute : Substitution) (word : Word) : Action String := do
  let home? := (← get).value? "HOME"
  return Atom.text (withHome home? word (← pieces substitute false false word))

/-- The pattern that a word stands for. -/
def pattern (substitute : Substitution) (word : Word) : Action Pattern := do
  let home? := (← get).value? "HOME"
  return patternOf (withHome home? word (← pieces substitute false false word))

end Expansion

end Gatehouse.Shell
