import Gatehouse.Shell.Reader

/-!
# Reading commands

How tokens make commands. Lists of commands hold commands that hold lists: the functions
for one level take the reading of the lists below it as a parameter, and `list` closes the
circle down to a depth, which the length of a script bounds. A script is read one line at
a time, because its first lines are carried out before the later ones are looked at.
-/

namespace Gatehouse.Shell

namespace Reading

/-- The next token. Where a command can go on, ends of lines are passed over; where one can begin,
keywords are told apart. -/
def next (nested : Nested) (passesLines seesKeywords : Bool) : Nat → Reading Token
  | 0 => return .ending
  | fuel + 1 => do
    let reader ← get
    let found ← match reader.held with
      | some held => do
        set { reader with held := none }
        pure held
      | none => token nested
    match found with
    | .line => if passesLines then next nested passesLines seesKeywords fuel else return .line
    | found => return if seesKeywords then found.asKeyword else found

/-- Put a token back. -/
def putBack (token : Token) : Reading Unit :=
  modify fun reader => { reader with held := some token }

/-- Refuse a token. -/
def refuse {α : Type} (found : Token) (expected : Option Token) : Reading α :=
  fail (.unexpected found expected)

end Reading

/-- Where a list of commands stands: in a line of its own, between words that end it and may not
be empty, or where it may be empty. -/
inductive ListPlace
  | line
  | block
  | branch
deriving DecidableEq, Repr

/-- The lists below a level. -/
structure Below where
  list : ListPlace → Reading Tree
  nested : Nested

namespace Below

/-- The next token of a list. -/
def next (below : Below) (passesLines seesKeywords : Bool) : Reading Token := do
  Reading.next below.nested passesLines seesKeywords ((← Reading.rest).length + 2)

/-- Take a token that has to come next. -/
def expect (below : Below) (expected : Token) (fits : Token → Bool)
    (passesLines seesKeywords : Bool) : Reading Unit := do
  let found ← below.next passesLines seesKeywords
  if fits found then return else Reading.refuse found (some expected)

/-- Take a keyword. -/
def keyword (below : Below) (name : String) (passesLines : Bool) : Reading Unit :=
  below.expect (.keyword name)
    (fun found => match found with
      | .keyword other => other == name
      | _ => false) passesLines true

/-- The target of a redirection. -/
def target (below : Below) (descriptor : Nat) (arrow : Arrow) : Reading Redirection := do
  let isMark : Bool := match arrow with
    | .document _ => true
    | _ => false
  modify fun reader => { reader with isMark }
  let found ← below.next false false
  modify fun reader => { reader with isMark := false }
  match found with
  | .word content =>
    match arrow with
    | .read => return .file descriptor .read content
    | .write => return .file descriptor .write content
    | .append => return .file descriptor .append content
    | .copy => return .copy descriptor content
    | .document dropsTabs => do
      let reader ← get
      let literal : Bool := content.any fun piece => match piece with
        | .text _ quoted => quoted
        | _ => false
      let mark : List Char := content.flatMap fun piece => match piece with
        | .text text _ => text
        | _ => []
      set { reader with
        awaited := reader.awaited ++ [Awaited.mk reader.nextDocument mark literal dropsTabs]
        nextDocument := reader.nextDocument + 1 }
      return .document descriptor reader.nextDocument
  | found => Reading.refuse found none

/-- The redirections behind a command. -/
def redirections (below : Below) (done : List Redirection) : Nat → Reading (List Redirection)
  | 0 => return done.reverse
  | fuel + 1 => do
    match ← below.next false true with
    | .redirection descriptor arrow => do
      let found ← below.target descriptor arrow
      redirections below (found :: done) fuel
    | found => do
      Reading.putBack found
      return done.reverse

end Below

/-- A word that gives a variable its value. -/
def assignment? : Word → Option (String × Word)
  | .text content false :: rest =>
    let name := content.takeWhile isNameChar
    match content.drop name.length with
    | '=' :: value =>
      if isName (String.ofList name) then
        some (String.ofList name, if value.isEmpty then rest else .text value false :: rest)
      else none
    | _ => none
  | _ => none

/-- The commands whose names no function can have. -/
def specialNames : List String := [
  ".", ":", "break", "continue", "eval", "exec", "exit", "export", "readonly", "return", "set",
  "shift", "times", "trap", "unset"]

namespace Below

/-- A simple command, or the definition of a function, behind the parts that are read already, the
latest of which stand first. -/
def simple (below : Below) (command : Reading Tree) (line : Nat)
    (assignments : List (String × Word)) (words : List Word)
    (redirections : List Redirection) : Nat → Reading Tree
  | 0 => return .nothing
  | fuel + 1 => do
    match ← below.next false false with
    | .word content =>
      match assignment? content with
      | some assignment =>
        if words.isEmpty then
          simple below command line (assignment :: assignments) words redirections fuel
        else simple below command line assignments (content :: words) redirections fuel
      | none => simple below command line assignments (content :: words) redirections fuel
    | .redirection descriptor arrow => do
      let found ← below.target descriptor arrow
      simple below command line assignments words (found :: redirections) fuel
    | found =>
      match found, words, assignments, redirections with
      | .openParenthesis, [name], [], [] => do
        below.expect .closeParenthesis
          (fun found => match found with
            | .closeParenthesis => true
            | _ => false) false false
        let name := match name with
          | [.text content false] => String.ofList content
          | _ => ""
        if ¬ isName name ∨ name ∈ specialNames then Reading.fail .badFunctionName
        else do
          let start := (← get).line
          let first ← below.next true true
          Reading.putBack first
          return .definition start name (← command)
      | _, _, _, _ => do
        Reading.putBack found
        return .simple line assignments.reverse words.reverse redirections.reverse

/-- What follows the test of a conditional. -/
def conditional (below : Below) : Nat → Reading Tree
  | 0 => return .nothing
  | fuel + 1 => do
    let test ← below.list .block
    below.keyword "then" false
    let body ← below.list .block
    match ← below.next false true with
    | .keyword "elif" => return .conditional test body (← conditional below fuel)
    | .keyword "else" => do
      let otherwise ← below.list .block
      below.keyword "fi" false
      return .conditional test body otherwise
    | .keyword "fi" => return .conditional test body .nothing
    | found => Reading.refuse found (some (.keyword "fi"))

/-- The words that an iteration runs over, and the token behind them. -/
def wordsUntil (below : Below) (done : List Word) : Nat → Reading (List Word × Token)
  | 0 => return (done.reverse, .ending)
  | fuel + 1 => do
    match ← below.next false false with
    | .word content => wordsUntil below (content :: done) fuel
    | found => return (done.reverse, found)

/-- An iteration behind its keyword. Without words it runs over the arguments. -/
def iteration (below : Below) (line : Nat) : Reading Tree := do
  match ← below.next false false with
  | .word [.text content false] => do
    let name := String.ofList content
    if ¬ isName name then Reading.fail .badLoopName
    else do
      let found ← below.next true true
      let words ← match found with
        | .keyword "in" => do
          let (words, behind) ← wordsUntil below [] ((← Reading.rest).length + 1)
          match behind with
          | .line | .semicolon => pure words
          | other => Reading.refuse other none
        | .semicolon => pure [[Piece.parameter "@" .value [] true]]
        | other => do
          Reading.putBack other
          pure [[Piece.parameter "@" .value [] true]]
      below.keyword "do" true
      let body ← below.list .block
      below.keyword "done" false
      return .iteration line name words body
  | _ => Reading.fail .badLoopName

/-- The patterns of a branch, behind the first token of them. What such a token is is not looked
at. -/
def patterns (below : Below) (first : Token) (done : List Word) : Nat → Reading (List Word)
  | 0 => return done.reverse
  | fuel + 1 => do
    let done := match first with
      | .word content => content :: done
      | .keyword name => [.text name.toList false] :: done
      | _ => [] :: done
    match ← below.next false false with
    | .bar => do patterns below (← below.next false false) done fuel
    | .closeParenthesis => return done.reverse
    | found => Reading.refuse found (some .closeParenthesis)

/-- The branches of a choice up to its end. -/
def branches (below : Below) (done : List (List Word × Tree)) :
    Nat → Reading (List (List Word × Tree))
  | 0 => return done.reverse
  | fuel + 1 => do
    match ← below.next true true with
    | .keyword "esac" => return done.reverse
    | found => do
      let first ← match found with
        | .openParenthesis => below.next false false
        | other => pure other
      let patterns ← patterns below first [] ((← Reading.rest).length + 2)
      let body ← below.list .branch
      match ← below.next true true with
      | .keyword "esac" => return ((patterns, body) :: done).reverse
      | .doubleSemicolon => branches below ((patterns, body) :: done) fuel
      | other => Reading.refuse other (some .doubleSemicolon)

/-- A choice behind its keyword. -/
def choice (below : Below) (line : Nat) : Reading Tree := do
  match ← below.next false false with
  | .word subject => do
    below.keyword "in" true
    return .choice line subject (← branches below [] ((← Reading.rest).length + 2))
  | found => Reading.refuse found (some (.word []))

/-- A command. The fuel bounds how many functions it defines one within the other. -/
def command (below : Below) : Nat → Reading Tree
  | 0 => return .nothing
  | fuel + 1 => do
    let size := (← Reading.rest).length + 2
    let found ← below.next false true
    let line := (← get).line
    let finish (body : Tree) : Reading Tree := do
      match ← below.redirections [] size with
      | [] => return body
      | redirections =>
        match body with
        | .subshell line body _ => return .subshell line body redirections
        | body => return .redirected line body redirections
    match found with
    | .keyword "if" => finish (← below.conditional size)
    | .keyword "while" => do
      let test ← below.list .block
      below.keyword "do" false
      let body ← below.list .block
      below.keyword "done" false
      finish (.loop false test body)
    | .keyword "until" => do
      let test ← below.list .block
      below.keyword "do" false
      let body ← below.list .block
      below.keyword "done" false
      finish (.loop true test body)
    | .keyword "for" => finish (← below.iteration line)
    | .keyword "case" => finish (← below.choice line)
    | .keyword "\x7b" => do
      let body ← below.list .block
      below.keyword "\x7d" false
      finish body
    | .openParenthesis => do
      let body ← below.list .block
      below.expect .closeParenthesis
        (fun found => match found with
          | .closeParenthesis => true
          | _ => false) false false
      finish (.subshell line body [])
    | .word _ | .redirection .. => do
      Reading.putBack found
      below.simple (command below fuel) line [] [] [] size
    | other => Reading.refuse other none

/-- The stages of a pipeline behind its first ones, the latest of which stand first. -/
def stages (below : Below) (done : List Tree) : Nat → Reading (List Tree)
  | 0 => return done.reverse
  | fuel + 1 => do
    match ← below.next false false with
    | .bar => do
      let first ← below.next true true
      Reading.putBack first
      let stage ← below.command ((← Reading.rest).length + 2)
      stages below (stage :: done) fuel
    | found => do
      Reading.putBack found
      return done.reverse

/-- A pipeline, the exit code of which a mark in front turns around. -/
def pipeline (below : Below) (passesLines : Bool) : Reading Tree := do
  let first ← below.next passesLines true
  let negated : Bool := match first with
    | .keyword "!" => true
    | _ => false
  if ¬ negated then Reading.putBack first
  let size := (← Reading.rest).length + 2
  let stage ← below.command size
  let body ← match ← below.stages [stage] size with
    | [only] => pure only
    | all => pure (.pipeline all)
  return if negated then .negation body else body

/-- Pipelines that are run as the exit codes in front of them say. -/
def chain (below : Below) (first : Tree) : Nat → Reading Tree
  | 0 => return first
  | fuel + 1 => do
    match ← below.next false false with
    | .both => do chain below (.chain first true (← below.pipeline true)) fuel
    | .either => do chain below (.chain first false (← below.pipeline true)) fuel
    | found => do
      Reading.putBack found
      return first

/-- The commands of a list behind the first ones, the latest of which stand first. -/
def items (below : Below) (place : ListPlace) (done : List Tree) : Nat → Reading Tree
  | 0 => return .sequence done.reverse
  | fuel + 1 => do
    let result := match done with
      | [only] => only
      | _ => Tree.sequence done.reverse
    let found ← below.next (place != .line) true
    let mayEnd : Bool := match place with
      | .line => false
      | .block => !done.isEmpty
      | .branch => true
    match found with
    | .ending => do
      Reading.putBack .ending
      return result
    | .line => return result
    | found => do
      Reading.putBack found
      if mayEnd ∧ found.endsList then return result
      else do
        let size := (← Reading.rest).length + 2
        let item ← below.chain (← below.pipeline false) size
        match ← below.next false false with
        | .ampersand => items below place (.background item :: done) fuel
        | .semicolon => items below place (item :: done) fuel
        | .line => do
          if place = .line then Reading.putBack .line
          items below place (item :: done) fuel
        | .ending => do
          Reading.putBack .ending
          items below place (item :: done) fuel
        | other => do
          if place = .line then Reading.refuse other none
          else do
            Reading.putBack other
            let all := (item :: done).reverse
            return match all with
              | [only] => only
              | _ => .sequence all

end Below

/-- A script that begins. -/
def Reader.start (text : List Char) (line nextDocument : Nat) : Reader :=
  ⟨text, line, none, [], [], nextDocument, false, false⟩

/-- A list of commands, the lists within which are read down to a depth. -/
def list : Nat → ListPlace → Reading Tree
  | 0, _ => return .nothing
  | depth + 1, place => do
    let inner : ListPlace → Reading Tree := list depth
    let plain : Nested := ⟨return, fun _ => .ok ()⟩
    let nested : Nested := {
      parenthesized := do
        let _ ← inner .branch
        match ← Reading.next plain false false 1 with
        | .closeParenthesis => return
        | found => Reading.refuse found (some .closeParenthesis)
      whole := fun text =>
        ((inner .branch).run (.start text 1 0)).map fun _ => () }
    let below : Below := ⟨inner, nested⟩
    below.items place [] ((← Reading.rest).length + 2)

/-- The commands of the next line of a script, if there are any left, with what is left of the
script. -/
def Reader.nextLine (reader : Reader) : Except ScriptFault (Option Tree × Reader) := do
  let (tree, after) ← (list (reader.rest.length + 2) .line).run { reader with held := none }
  match tree, after.held with
  | .sequence [], some .ending => return (none, after)
  | tree, _ => return (some tree, after)

/-- All commands of a text at once, with the documents in it. -/
def Reader.whole (reader : Reader) : Except ScriptFault (Tree × Reader) :=
  (list (reader.rest.length + 2) .branch).run reader

end Gatehouse.Shell
