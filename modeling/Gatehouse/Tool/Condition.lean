import Gatehouse.Tool.Basic

/-!
# Conditions

Conditions on texts, numbers and files, as arguments spell them. Whether a word is an
operator hangs on the words around it.
-/

namespace Gatehouse.Tool

/-- Why a condition cannot be decided. -/
abbrev ConditionError := String

/-- Operators in front of one operand. -/
def unaryOperators : List String := [
  "-b", "-c", "-d", "-e", "-f", "-g", "-h", "-k", "-L", "-n", "-O", "-G", "-p", "-r", "-s", "-S",
  "-t", "-u", "-w", "-x", "-z"]

/-- Operators between two operands. -/
def binaryOperators : List String := [
  "=", "!=", "<", ">", "-eq", "-ne", "-ge", "-gt", "-le", "-lt", "-nt", "-ot", "-ef"]

/-- What a word is at its place. -/
inductive ConditionToken
  | unary (operator : String)
  | binary (operator : String)
  | not
  | and
  | or
  | openParenthesis
  | closeParenthesis
  | operand
  | ending
deriving DecidableEq, Repr

namespace ConditionToken

/-- An operator in front of an operand is an operand itself where nothing follows it, or where an
operator between two operands does. -/
def ofWords (words : List String) : ConditionToken :=
  match words with
  | [] => .ending
  | first :: rest =>
    if first ∈ unaryOperators then
      match rest with
      | [] => .operand
      | [_] => .unary first
      | second :: _ => if second ∈ binaryOperators then .operand else .unary first
    else if first ∈ binaryOperators then .binary first
    else match first with
      | "!" => .not
      | "-a" => .and
      | "-o" => .or
      | "(" => if rest.isEmpty then .operand else .openParenthesis
      | ")" => .closeParenthesis
      | _ => .operand

end ConditionToken

/-- A whole number of 64 bits with blanks around it. -/
def wholeNumber? (text : String) : Option Int :=
  let isSpace (character : Char) : Bool :=
    character == ' ' || ('\t' ≤ character && character ≤ '\x0d')
  let (negative, digits) := match text.toList.dropWhile isSpace with
    | '-' :: rest => (true, rest)
    | '+' :: rest => (false, rest)
    | rest => (false, rest)
  let front := digits.takeWhile Char.isDigit
  if front.isEmpty ∨ ¬ (digits.drop front.length).all isSpace then none
  else
    let value : Int := front.foldl (fun value digit => value * 10 + (digit.toNat - '0'.toNat)) 0
    let value := if negative then -value else value
    if -(Nat.pow 2 63 : Nat) ≤ value ∧ value < (Nat.pow 2 63 : Nat) then some value else none

/-- What stands at a path. -/
def nodeAt? (system : FileSystem) (path : String) : Option Node :=
  (system.lookup (Text.Octets.toText path)).toOption

/-- A condition on a file or a text. -/
def decideOne (system : FileSystem) (operator operand : String) : Except ConditionError Bool :=
  match operator with
  | "-n" => .ok (operand ≠ "")
  | "-z" => .ok (operand = "")
  | "-t" => match wholeNumber? operand with
    | some _ => .ok false
    | none => .error ("Illegal number: " ++ operand)
  | "-e" | "-r" | "-w" | "-O" | "-G" => .ok (nodeAt? system operand).isSome
  | "-f" => .ok (match nodeAt? system operand with
    | some (.file _) | some (.tool _) => true
    | _ => false)
  | "-d" => .ok (match nodeAt? system operand with
    | some .directory => true
    | _ => false)
  | "-c" => .ok (match nodeAt? system operand with
    | some .source => true
    | _ => false)
  | "-s" => .ok (match nodeAt? system operand with
    | some (.file content) => !content.octets.isEmpty
    | some .directory | some (.tool _) => true
    | _ => false)
  | "-x" => .ok (match nodeAt? system operand with
    | some (.file content) => FileSystem.isExecutable content.mode
    | some .directory | some (.tool _) => true
    | _ => false)
  | _ => .ok false

/-- A condition on two texts, two numbers or two files. -/
def decideTwo (system : FileSystem) (first operator second : String) :
    Except ConditionError Bool := do
  let number (text : String) : Except ConditionError Int :=
    match wholeNumber? text with
    | some value => .ok value
    | none => .error ("Illegal number: " ++ text)
  let compare (holds : Int → Int → Bool) : Except ConditionError Bool := do
    let left ← number first
    let right ← number second
    return holds left right
  match operator with
  | "=" => return first = second
  | "!=" => return first ≠ second
  | "<" => return first < second
  | ">" => return second < first
  | "-eq" => compare fun left right => left == right
  | "-ne" => compare fun left right => left != right
  | "-ge" => compare fun left right => right ≤ left
  | "-gt" => compare fun left right => right < left
  | "-le" => compare fun left right => left ≤ right
  | "-lt" => compare fun left right => left < right
  | "-ef" => return match system.resolve (Text.Octets.toText first),
        system.resolve (Text.Octets.toText second) with
      | .ok left, .ok right => left == right && (system.node? left).isSome
      | _, _ => false
  | _ => return false

/-- A condition at the front of words, and the words from its last one on. Levels from the outer
one: alternatives, conjunctions, negations and single conditions; the fuel bounds the words. -/
def condition (system : FileSystem) : Nat → Nat → List String →
    Except ConditionError (Bool × List String)
  | 0, _, words => .ok (false, words)
  | fuel + 1, level, words => do
    let token := ConditionToken.ofWords words
    let second : ConditionToken := .ofWords words.tail
    match level with
    | 0 => do
      let (value, rest) ← condition system fuel 1 words
      if ConditionToken.ofWords rest.tail = .or then
        let (other, rest) ← condition system fuel 0 (rest.drop 2)
        return (value || other, rest)
      else return (value, rest)
    | 1 => do
      let (value, rest) ← condition system fuel 2 words
      if ConditionToken.ofWords rest.tail = .and then
        let (other, rest) ← condition system fuel 1 (rest.drop 2)
        return (value && other, rest)
      else return (value, rest)
    | 2 =>
      if token = .not then
        if second = .ending then return (true, words)
        else do
          let (value, rest) ← condition system fuel 2 words.tail
          return (!value, rest)
      else condition system fuel 3 words
    | _ =>
      match token with
      | .ending => return (false, words)
      | .openParenthesis =>
        if second = .closeParenthesis then return (false, words.tail)
        else do
          let (value, rest) ← condition system fuel 0 words.tail
          if ConditionToken.ofWords rest.tail = .closeParenthesis then return (value, rest.tail)
          else .error "closing paren expected"
      | .unary operator =>
        match words.tail with
        | [] => .error (operator ++ ": argument expected")
        | operand :: _ => return (← decideOne system operator operand, words.tail)
      | _ =>
        match second, words with
        | .binary operator, first :: _ :: rest =>
          match rest with
          | [] => .error (operator ++ ": argument expected")
          | operand :: _ => return (← decideTwo system first operator operand, rest)
        | _, _ => return (words.headD "" ≠ "", words)

/-- Decide the condition of all words. Three and four words are read by their number first, where a
mark in front turns around what follows, but no second time. -/
def decideWords (system : FileSystem) (isTurned : Bool) :
    Nat → List String → Except ConditionError Bool
  | 0, _ => .ok isTurned
  | _ + 1, [] => .ok isTurned
  | fuel + 1, words =>
    let whole (words : List String) : Except ConditionError Bool := do
      let (value, rest) ← condition system (4 * words.length + 8) 0 words
      match rest with
      | last :: _ :: _ =>
        .error ((if last = "" then "" else last ++ ": ") ++ "unexpected operator")
      | _ => return isTurned != value
    let byNumber : Except ConditionError Bool :=
      if words.head? = some "(" ∧ words.getLast? = some ")" then whole words.tail.dropLast
      else if words.head? = some "!" then decideWords system true fuel words.tail
      else whole words
    match words with
    | [first, operator, second] =>
      if operator ∈ binaryOperators then do
        return isTurned != (← decideTwo system first operator second)
      else byNumber
    | [_, _, _, _] => byNumber
    | _ => whole words

/-- Decide a condition by the exit code. -/
def test (system : FileSystem) (arguments : List String) : ToolRun :=
  match decideWords system false (arguments.length + 1) arguments with
  | .ok true => .quiet 0 0
  | .ok false => .quiet 1 0
  | .error complaint => .complain 2 complaint

/-- Decide a condition that ends in a bracket. -/
def bracket (system : FileSystem) (arguments : List String) : ToolRun :=
  if arguments.getLast? = some "]" then test system arguments.dropLast
  else .complain 2 "missing ]"

end Gatehouse.Tool
