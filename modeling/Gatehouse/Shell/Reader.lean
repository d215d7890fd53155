import Gatehouse.Shell.Tree

/-!
# Reading words and tokens

A script is read token by token, because what a character means depends on the commands
in front of it. A word can hold whole commands in turn; how they are read is a parameter
here. The fuel of a function bounds the characters that it looks at.
-/

namespace Gatehouse.Shell

/-- A document that was asked for and whose text is still to come. -/
structure Awaited where
  number : Nat
  mark : List Char
  literal : Bool
  dropsTabs : Bool
deriving Repr

/-- A script on its way: what is left of it, the line that is reached, a token that was put back,
the documents that are asked for, those that are complete, the number of the next one, and whether
the mark of a document is read, in which nothing is expanded, or the text of one. -/
structure Reader where
  rest : List Char
  line : Nat
  held : Option Token
  awaited : List Awaited
  documents : List (Nat × Word)
  nextDocument : Nat
  isMark : Bool
  inDocument : Bool
deriving Repr

/-- A step of reading. -/
abbrev Reading := StateT Reader (Except ScriptFault)

namespace Reading

/-- Give up. -/
def fail {α : Type} (cause : ScriptError) : Reading α :=
  fun reader => .error ⟨reader.line, cause⟩

/-- The next characters. -/
def rest : Reading (List Char) := return (← get).rest

/-- Go on behind so many characters. -/
def skip (count : Nat) : Reading Unit :=
  modify fun reader => { reader with
    rest := reader.rest.drop count
    line := reader.line + (reader.rest.take count).count '\n' }

/-- Go on behind broken lines, the breaks of which a backslash takes away. -/
def joinLines : Reading Unit :=
  modify fun reader =>
    let rec go : List Char → Nat → List Char × Nat
      | '\\' :: '\n' :: rest, line => go rest (line + 1)
      | rest, line => (rest, line)
    let (rest, line) := go reader.rest reader.line
    { reader with rest, line }

/-- The next character, behind broken lines. -/
def peek? : Reading (Option Char) := do
  joinLines
  return (← rest).head?

/-- Take the characters in front that a test accepts. -/
def takeWhile (test : Char → Bool) : Nat → List Char → Reading (List Char)
  | 0, taken => return taken.reverse
  | fuel + 1, taken => do
    match ← peek? with
    | some character =>
      if test character then do
        skip 1
        takeWhile test fuel (character :: taken)
      else return taken.reverse
    | none => return taken.reverse

end Reading

/-- How the commands within a word are read: those in parentheses, which end behind the closing
one, and those of a text of their own. -/
structure Nested where
  parenthesized : Reading Unit
  whole : List Char → Except ScriptFault Unit

/-- Where the parts of a word stand. -/
inductive Surroundings
  | bare
  | quotes
  | braces (quoted : Bool)
  | formula (depth : Nat)
  | document
deriving DecidableEq, Repr

namespace Surroundings

/-- Whether parts are quoted by what surrounds them. -/
def quoted : Surroundings → Bool
  | .bare | .braces false => false
  | _ => true

/-- The fault of a script that ends here. -/
def fault? : Surroundings → Option ScriptError
  | .bare | .document => none
  | .quotes | .braces true => some .openQuote
  | .braces false => some .openBrace
  | .formula _ => some .openFormula

/-- The characters that a backslash takes the meaning of, where it does not take that of all. -/
def escapable : Surroundings → List Char
  | .quotes => ['$', '\x60', '"', '\\']
  | .braces true => ['$', '\x60', '"', '\\', '\x7d']
  | _ => ['$', '\x60', '\\']

end Surroundings

/-- Characters that end a word outside of quotes. -/
def endsWord (character : Char) : Bool :=
  character ∈ [' ', '\t', '\n', ';', '&', '|', '<', '>', '(', ')']

/-- Characters that are names of parameters by themselves. -/
def isSpecialName (character : Char) : Bool :=
  character ∈ ['*', '@', '#', '?', '-', '$', '!'] || character.isDigit

/-- A word, the latest part first, with one more character. -/
def addChar (done : Word) (character : Char) (quoted : Bool) : Word :=
  match done with
  | .text content held :: rest =>
    if held = quoted then .text (content ++ [character]) quoted :: rest
    else .text [character] quoted :: done
  | _ => .text [character] quoted :: done

/-- A text up to the mark that ends a command in marks of its own, and what stands behind it. In
front of some characters a backslash is dropped. -/
def untilBackquote (quoted : Bool) (done : List Char) : List Char → Option (List Char × List Char)
  | [] => none
  | '\x60' :: rest => some (done.reverse, rest)
  | '\\' :: next :: rest =>
    if next = '\n' then untilBackquote quoted done rest
    else if next ∈ ['\\', '\x60', '$'] ∨ (quoted ∧ next = '"') then
      untilBackquote quoted (next :: done) rest
    else untilBackquote quoted (next :: '\\' :: done) rest
  | first :: rest => untilBackquote quoted (first :: done) rest

/-- What an operator makes of the value of a parameter, and whether a word follows. The braces end
where none does. -/
def changeOf : Reading (Change × Bool) := do
  let plain (orEmpty : Bool) (character : Char) : Option Change :=
    match character with
    | '\x7d' => some .value
    | '-' => some (.default orEmpty)
    | '=' => some (.assign orEmpty)
    | '?' => some (.demand orEmpty)
    | '+' => some (.instead orEmpty)
    | _ => none
  match ← Reading.peek? with
  | none => return (.unknown, true)
  | some operator => do
    Reading.skip 1
    if operator = '%' ∨ operator = '#' then do
      let longest := (← Reading.peek?) == some operator
      if longest then Reading.skip 1
      return (if operator = '#' then .cutFront longest else .cutBack longest, true)
    else if operator = ':' then
      match ← Reading.peek? with
      | none => return (.unknown, true)
      | some second => do
        Reading.skip 1
        let change := (plain true second).getD .unknown
        return (change, change != .value)
    else
      let change := (plain false operator).getD .unknown
      return (change, change != .value)

/-- The name between braces, and what is made of its value where that stands in front of it. -/
def bracedName : Reading (String × Option Change) := do
  let take (test : Char → Bool) : Reading String := do
    let taken ← Reading.takeWhile test ((← Reading.rest).length + 1) []
    return String.ofList taken
  let name := take isNameChar
  let number := take Char.isDigit
  match ← Reading.peek? with
  | none => return ("", some .unknown)
  | some first =>
    if isNameStart first then return (← name, none)
    else if first.isDigit then return (← number, none)
    else if first = '\x7d' then return ("", some .unknown)
    else do
      Reading.skip 1
      let second ← Reading.peek?
      if first = '#' then
        match second with
        | some second =>
          if isNameChar second then
            let found ← if second.isDigit then number else name
            return (found, some .length)
          else
            let third := (← Reading.rest)[1]?
            if second ≠ '\x7d' ∧ third = some '\x7d' then do
              Reading.skip 1
              return (String.singleton second,
                some (if isSpecialName second then .length else .unknown))
            else return ("#", none)
        | none => return ("#", none)
      else if isSpecialName first then return (String.singleton first, none)
      else return ("", some .unknown)

/-- A parameter in braces. -/
def bracedParameter (inside : Surroundings → Reading Word) (quoted : Bool) : Reading Piece := do
  let (name, change?) ← bracedName
  let (change, hasWord) ← match change? with
    | some .length =>
      if (← Reading.peek?) = some '\x7d' then do
        Reading.skip 1
        pure (Change.length, false)
      else pure (Change.unknown, true)
    | some change => pure (change, true)
    | none => changeOf
  if hasWord then
    let cuts := match change with
      | .cutFront _ | .cutBack _ => true
      | _ => false
    return .parameter name change (← inside (.braces (quoted && !cuts))) quoted
  else return .parameter name change [] quoted

/-- A command within a word, up to its closing parenthesis. -/
def parenthesized (nested : Nested) (quoted : Bool) : Reading Piece := do
  let start ← get
  set { start with held := none, awaited := [], inDocument := false }
  nested.parenthesized
  let after ← get
  set { after with held := none, awaited := start.awaited, inDocument := start.inDocument }
  let length := start.rest.length - after.rest.length
  return .output (start.rest.take (length - 1)) start.line quoted

/-- A command within a word, up to its closing mark. -/
def backquoted (nested : Nested) (quoted : Bool) : Reading Piece := do
  let before ← Reading.rest
  match untilBackquote quoted [] before with
  | none => do
    Reading.skip before.length
    Reading.fail .openOutput
  | some (script, rest) => do
    match nested.whole script with
    | .error fault => throw fault
    | .ok () => pure ()
    Reading.skip (before.length - rest.length)
    return .output script 1 quoted

/-- What a dollar sign begins. -/
def expansion (nested : Nested) (inside : Surroundings → Reading Word) (quoted : Bool) :
    Reading Piece := do
  match ← Reading.peek? with
  | some '(' => do
    Reading.skip 1
    if (← Reading.peek?) = some '(' then do
      Reading.skip 1
      return .formula (← inside (.formula 0)) quoted
    else parenthesized nested quoted
  | some '\x7b' => do
    Reading.skip 1
    bracedParameter inside quoted
  | some first =>
    if isNameStart first then do
      let name ← Reading.takeWhile isNameChar ((← Reading.rest).length + 1) []
      return .parameter (String.ofList name) .value [] quoted
    else if isSpecialName first then do
      Reading.skip 1
      return .parameter (String.singleton first) .value [] quoted
    else return .text ['$'] quoted
  | none => return .text ['$'] quoted

/-- What a backslash does to the characters behind it. -/
def escaped (surroundings : Surroundings) (done : Word) (rest : List Char) : Reading Word := do
  match rest with
  | '\n' :: _ => do
    Reading.skip 2
    return done
  | next :: _ =>
    if ¬ surroundings.quoted ∨ next ∈ surroundings.escapable then do
      Reading.skip 2
      return addChar done next true
    else do
      Reading.skip 1
      return addChar done '\\' true
  | [] => do
    Reading.skip 1
    return addChar done '\\' true

/-- The parts of a word up to its end, the latest first. What ends it is taken away, unless the
word stands for itself. -/
def scan (nested : Nested) : Nat → Surroundings → Word → Reading Word
  | 0, _, done => return done
  | fuel + 1, surroundings, done => do
    match ← Reading.rest with
    | [] =>
      let inDocument := (← get).inDocument
      match surroundings.fault? with
      | some .openQuote => Reading.fail (if inDocument then .openBrace else .openQuote)
      | some fault => Reading.fail fault
      | none => return done
    | first :: rest =>
      let inside (place : Surroundings) : Reading Word :=
        return (← scan nested fuel place []).reverse
      let goOn (done : Word) : Reading Word := scan nested fuel surroundings done
      let literal : Reading Word := do
        Reading.skip 1
        goOn (addChar done first surroundings.quoted)
      let isMark := (← get).isMark
      match first, surroundings with
      | '\\', _ => goOn (← escaped surroundings done rest)
      | '$', _ => if isMark then literal else do
        Reading.skip 1
        goOn ((← expansion nested inside surroundings.quoted) :: done)
      | '\x60', _ => if isMark then literal else do
        Reading.skip 1
        goOn ((← backquoted nested surroundings.quoted) :: done)
      | '\'', .bare | '\'', .braces false =>
        match rest.dropWhile (· ≠ '\'') with
        | [] => do
          Reading.skip (rest.length + 1)
          Reading.fail .openQuote
        | behind => do
          Reading.skip (rest.length - behind.length + 2)
          goOn (.text (rest.takeWhile (· ≠ '\'')) true :: done)
      | '"', .quotes | '\x7d', .braces _ => do
        Reading.skip 1
        return done
      | '"', .bare | '"', .braces _ => do
        Reading.skip 1
        let pieces ← inside .quotes
        goOn (pieces.reverse ++ .text [] true :: done)
      | '(', .formula depth => do
        Reading.skip 1
        scan nested fuel (.formula (depth + 1)) (addChar done first true)
      | ')', .formula 0 =>
        if rest.head? = some ')' then do
          Reading.skip 2
          return done
        else literal
      | ')', .formula (depth + 1) => do
        Reading.skip 1
        scan nested fuel (.formula depth) (addChar done first true)
      | _, .bare => if endsWord first then return done else literal
      | _, _ => literal

/-- A word where one begins. -/
def word (nested : Nested) : Reading Word := do
  let fuel := (← Reading.rest).length + 2
  return (← scan nested fuel .bare []).reverse

/-- The lines of a document up to the line of its mark, and what stands behind that. -/
def documentText (awaited : Awaited) (done : List Char) : Nat → List Char → List Char × List Char
  | 0, rest => (done.reverse, rest)
  | _ + 1, [] => (done.reverse, [])
  | fuel + 1, characters =>
    let line := characters.takeWhile (· ≠ '\n')
    let behind := (characters.drop line.length).drop 1
    let shown := if awaited.dropsTabs then line.dropWhile (· == '\t') else line
    if shown = awaited.mark then (done.reverse, behind)
    else
      let ended := if line.length < characters.length then '\n' :: shown.reverse else shown.reverse
      documentText awaited (ended ++ done) fuel behind

/-- Read the text of one document. -/
def document (nested : Nested) (awaited : Awaited) : Reading Unit := do
  let before ← Reading.rest
  let (text, behind) := documentText awaited [] (before.length + 1) before
  let content ← if awaited.literal then pure [Piece.text text true]
    else do
      let reader ← get
      let (pieces, _) ← (scan nested (text.length + 2) .document []).run
        { reader with rest := text, held := none, awaited := [], inDocument := true }
      pure pieces.reverse
  Reading.skip (before.length - behind.length)
  modify fun reader =>
    { reader with documents := (awaited.number, content) :: reader.documents }

/-- Read the text of all documents that are asked for. -/
def documents (nested : Nested) : Reading Unit := do
  let asked := (← get).awaited
  modify fun reader => { reader with awaited := [] }
  asked.forM (document nested)

/-- A redirection behind its descriptor. -/
def arrow (descriptor : Option Nat) : Reading Token := do
  let outward := (← Reading.rest).head? == some '>'
  Reading.skip 1
  let second ← Reading.peek?
  let found (count : Nat) (arrow : Arrow) : Reading Token := do
    Reading.skip count
    return .redirection (descriptor.getD (if outward then 1 else 0)) arrow
  if outward then
    match second with
    | some '>' => found 1 .append
    | some '|' => found 1 .write
    | some '&' => found 1 .copy
    | _ => found 0 .write
  else
    match second with
    | some '<' => do
      Reading.skip 1
      if (← Reading.peek?) = some '-' then found 1 (.document true) else found 0 (.document false)
    | some '&' => found 1 .copy
    | some '>' => found 1 .read
    | _ => found 0 .read

/-- Go on behind blanks, broken lines and a remark. -/
def skipBlanks : Nat → Reading Unit
  | 0 => return
  | fuel + 1 => do
    match ← Reading.peek? with
    | some ' ' | some '\t' => do
      Reading.skip 1
      skipBlanks fuel
    | some '#' => do
      Reading.skip ((← Reading.rest).takeWhile (· ≠ '\n')).length
    | _ => return

/-- The next token. The documents that are asked for follow the end of a line. -/
def token (nested : Nested) : Reading Token := do
  skipBlanks ((← Reading.rest).length + 1)
  let doubled (character : Char) (double single : Token) : Reading Token := do
    Reading.skip 1
    if (← Reading.peek?) = some character then do
      Reading.skip 1
      return double
    else return single
  match (← Reading.rest).head? with
  | none => do
    documents nested
    return .ending
  | some '\n' => do
    Reading.skip 1
    documents nested
    return .line
  | some '&' => doubled '&' .both .ampersand
  | some '|' => doubled '|' .either .bar
  | some ';' => doubled ';' .doubleSemicolon .semicolon
  | some '(' => do
    Reading.skip 1
    return .openParenthesis
  | some ')' => do
    Reading.skip 1
    return .closeParenthesis
  | some '<' | some '>' => arrow none
  | some _ => do
    let content ← word nested
    match content, (← Reading.rest).head? with
    | [.text [digit] false], some '<' | [.text [digit] false], some '>' =>
      if digit.isDigit then arrow (some (digit.toNat - '0'.toNat)) else return .word content
    | _, _ => return .word content

end Gatehouse.Shell
