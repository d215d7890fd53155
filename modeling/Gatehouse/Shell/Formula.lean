/-!
# Formulas

Expressions over integers of 64 bits, which wrap around. Names are variables; to give one
a value is an expression as well.
-/

namespace Gatehouse.Shell

/-- Operators between two values, from those that bind most. -/
inductive FormulaOperator
  | times | divide | modulo
  | plus | minus
  | shiftLeft | shiftRight
  | less | lessEqual | greater | greaterEqual
  | equal | different
  | bitAnd | bitXor | bitOr
deriving DecidableEq, Repr

namespace FormulaOperator

/-- How much an operator binds; those of a smaller number bind more. -/
def rank : FormulaOperator → Nat
  | .times | .divide | .modulo => 0
  | .plus | .minus => 1
  | .shiftLeft | .shiftRight => 2
  | .less | .lessEqual | .greater | .greaterEqual => 3
  | .equal | .different => 4
  | .bitAnd => 5
  | .bitXor => 6
  | .bitOr => 7

/-- The value of an operator; there is none where something is divided by zero, or where a quotient
is too large. -/
def result? (operator : FormulaOperator) (left right : Int64) : Option Int64 :=
  let ofBool (value : Bool) : Option Int64 := some (if value then 1 else 0)
  let isOpen : Bool := right == 0 || (left == Int64.minValue && right == -1)
  match operator with
  | .times => some (left * right)
  | .divide => if isOpen then none else some (left / right)
  | .modulo => if isOpen then none else some (left % right)
  | .plus => some (left + right)
  | .minus => some (left - right)
  | .shiftLeft => some (left <<< right)
  | .shiftRight => some (left >>> right)
  | .less => ofBool (left < right)
  | .lessEqual => ofBool (left ≤ right)
  | .greater => ofBool (right < left)
  | .greaterEqual => ofBool (right ≤ left)
  | .equal => ofBool (left == right)
  | .different => ofBool (left != right)
  | .bitAnd => some (left &&& right)
  | .bitXor => some (left ^^^ right)
  | .bitOr => some (left ||| right)

end FormulaOperator

/-- Operators in front of a value. -/
inductive FormulaSign
  | plus | minus | isZero | complement
deriving DecidableEq, Repr

/-- The lexemes of an expression. -/
inductive FormulaLexeme
  | number (value : Int64)
  | name (text : String)
  | operator (operator : FormulaOperator)
  | not
  | complement
  | both
  | either
  | question
  | colon
  | assign (operator : Option FormulaOperator)
  | openParenthesis
  | closeParenthesis
  | wrong
deriving DecidableEq, Repr

/-- Why an expression has no value. -/
inductive FormulaError
  | expectingPrimary
  | expectingEnd
  | expectingClosing
  | expectingColon
  | divisionByZero
  | overflow
  | illegalNumber (text : String)
deriving DecidableEq, Repr

/-- The words for an error in an expression. -/
def FormulaError.message (expression : String) : FormulaError → String
  | .illegalNumber text => "Illegal number: " ++ text
  | .expectingPrimary => about "expecting primary"
  | .expectingEnd => about "expecting EOF"
  | .expectingClosing => about "expecting ')'"
  | .expectingColon => about "expecting ':'"
  | .divisionByZero => about "division by zero"
  | .overflow => about "overflow"
where
  about (what : String) : String :=
    "arithmetic expression: " ++ what ++ ": \"" ++ expression ++ "\""

namespace FormulaLexeme

/-- Operators of three, two and one characters. -/
def signs : List (String × FormulaLexeme) := [
  ("<<=", .assign (some .shiftLeft)), (">>=", .assign (some .shiftRight)),
  ("<<", .operator .shiftLeft), (">>", .operator .shiftRight), ("<=", .operator .lessEqual),
  (">=", .operator .greaterEqual), ("==", .operator .equal), ("!=", .operator .different),
  ("&&", .both), ("||", .either), ("+=", .assign (some .plus)), ("-=", .assign (some .minus)),
  ("*=", .assign (some .times)), ("/=", .assign (some .divide)), ("%=", .assign (some .modulo)),
  ("&=", .assign (some .bitAnd)), ("^=", .assign (some .bitXor)), ("|=", .assign (some .bitOr)),
  ("<", .operator .less), (">", .operator .greater), ("=", .assign none), ("+", .operator .plus),
  ("-", .operator .minus), ("*", .operator .times), ("/", .operator .divide),
  ("%", .operator .modulo), ("&", .operator .bitAnd), ("^", .operator .bitXor),
  ("|", .operator .bitOr), ("!", .not), ("~", .complement), ("?", .question), (":", .colon),
  ("(", .openParenthesis), (")", .closeParenthesis)]

/-- The value of a hexadecimal digit. -/
def hexValue (digit : Char) : Nat :=
  if digit.isDigit then digit.toNat - '0'.toNat else digit.toLower.toNat - 'a'.toNat + 10

/-- Whether a character is a hexadecimal digit. -/
def isHex (character : Char) : Bool :=
  character.isDigit || ('a' ≤ character.toLower && character.toLower ≤ 'f')

/-- The value of digits to a base. -/
def value (base : Nat) (digits : List Char) : Nat :=
  digits.foldl (fun value digit => value * base + hexValue digit) 0

/-- A number in front of a text, in base ten, or as its front says in base eight or sixteen, and
what stands behind it. -/
def readNumber (characters : List Char) : Nat × List Char :=
  match characters with
  | '0' :: mark :: first :: rest =>
    if (mark = 'x' ∨ mark = 'X') ∧ isHex first then
      (value 16 ((first :: rest).takeWhile isHex), (first :: rest).dropWhile isHex)
    else octal (mark :: first :: rest)
  | '0' :: rest => octal rest
  | all => (value 10 (all.takeWhile Char.isDigit), all.dropWhile Char.isDigit)
where
  octal (rest : List Char) : Nat × List Char :=
    let isOctal (character : Char) : Bool := '0' ≤ character && character ≤ '7'
    (value 8 (rest.takeWhile isOctal), rest.dropWhile isOctal)

/-- The largest value. -/
def largest : Nat := Nat.pow 2 63 - 1

/-- The lexemes of an expression, in which no number goes past the largest value; the fuel bounds
its characters. -/
def ofChars : Nat → List Char → List FormulaLexeme
  | 0, _ => []
  | _ + 1, [] => []
  | fuel + 1, first :: rest =>
    if first = ' ' ∨ first = '\t' ∨ first = '\n' then ofChars fuel rest
    else if first.isDigit then
      let (value, behind) := readNumber (first :: rest)
      .number (Int64.ofNat (min value largest)) :: ofChars fuel behind
    else if first.isAlpha ∨ first = '_' then
      let isPart (character : Char) : Bool := character.isAlphanum || character == '_'
      .name (String.ofList (first :: rest.takeWhile isPart)) ::
        ofChars fuel (rest.dropWhile isPart)
    else
      match signs.find? fun (sign, _) => sign.toList.isPrefixOf (first :: rest) with
      | some (sign, lexeme) => lexeme :: ofChars fuel ((first :: rest).drop sign.length)
      | none => [.wrong]

end FormulaLexeme

/-- An expression. -/
inductive Formula
  | number (value : Int64)
  | variable (name : String)
  | signed (sign : FormulaSign) (body : Formula)
  | binary (operator : FormulaOperator) (left right : Formula)
  | both (left right : Formula)
  | either (left right : Formula)
  | select (test first second : Formula)
  | assign (name : String) (operator : Option FormulaOperator) (value : Formula)
deriving DecidableEq, Repr

namespace Formula

/-- A step of reading an expression: what is read, and the lexemes left. -/
abbrev Step (α : Type) := List FormulaLexeme → Except FormulaError (α × List FormulaLexeme)

/-- A value with the signs in front of it. -/
def primary (inner : Step Formula) : Nat → Step Formula
  | 0, _ => .error .expectingPrimary
  | fuel + 1, lexemes =>
    let signed (sign : FormulaSign) (rest : List FormulaLexeme) := do
      let (body, rest) ← primary inner fuel rest
      return (.signed sign body, rest)
    match lexemes with
    | .number value :: rest => .ok (.number value, rest)
    | .name name :: rest => .ok (.variable name, rest)
    | .operator .plus :: rest => signed .plus rest
    | .operator .minus :: rest => signed .minus rest
    | .not :: rest => signed .isZero rest
    | .complement :: rest => signed .complement rest
    | .openParenthesis :: rest => do
      let (body, rest) ← inner rest
      match rest with
      | .closeParenthesis :: rest => return (body, rest)
      | _ => .error .expectingClosing
    | _ => .error .expectingPrimary

/-- Operators down to a rank, behind the value on their left. -/
def operators (inner : Step Formula) (rank : Nat) (left : Formula) : Nat → Step Formula
  | 0, lexemes => .ok (left, lexemes)
  | fuel + 1, lexemes =>
    match lexemes with
    | .operator operator :: rest =>
      if rank < operator.rank then .ok (left, lexemes)
      else do
        let (right, rest) ← primary inner (rest.length + 1) rest
        let (right, rest) ← if operator.rank = 0 then .ok (right, rest)
          else operators inner (operator.rank - 1) right fuel rest
        operators inner rank (.binary operator left right) fuel rest
    | _ => .ok (left, lexemes)

/-- Values between the operators that join conditions. -/
def joined (sign : FormulaLexeme) (join : Formula → Formula → Formula) (part : Step Formula) :
    Nat → Step Formula
  | 0, lexemes => part lexemes
  | fuel + 1, lexemes => do
    let (left, rest) ← part lexemes
    match rest with
    | found :: behind =>
      if found = sign then
        let (right, rest) ← joined sign join part fuel behind
        return (join left right, rest)
      else return (left, rest)
    | [] => return (left, rest)

/-- An expression with one of its parts in parentheses, or behind a sign of assignment, at each
level down to a depth. The last part of a selection cannot be an assignment. -/
def expression (assigns : Bool) : Nat → Step Formula
  | 0, _ => .error .expectingPrimary
  | depth + 1, lexemes =>
    let inner : Step Formula := expression true depth
    let selection : Step Formula := fun lexemes => do
      let size := lexemes.length + 1
      let arithmetic : Step Formula := fun lexemes => do
        let (left, rest) ← primary inner size lexemes
        operators inner 7 left size rest
      let both := joined .both .both arithmetic size
      let (test, rest) ← joined .either .either both size lexemes
      match rest with
      | .question :: rest => do
        let (first, rest) ← inner rest
        match rest with
        | .colon :: rest => do
          let (second, rest) ← expression false depth rest
          return (.select test first second, rest)
        | _ => .error .expectingColon
      | _ => return (test, rest)
    match assigns, lexemes with
    | true, .name name :: .assign operator :: rest => do
      let (value, rest) ← inner rest
      return (.assign name operator value, rest)
    | _, _ => selection lexemes

/-- The expression at the front of a text, and whether the text ends behind it. -/
def read (text : List Char) : Except FormulaError (Formula × Bool) := do
  let lexemes := FormulaLexeme.ofChars (text.length + 1) text
  let (sum, rest) ← expression true (lexemes.length + 1) lexemes
  return (sum, rest.isEmpty)

/-- The value of a text in a variable, which has to be one whole number, or blank. -/
def numberOf? (text : String) : Option Int64 :=
  let blanks (characters : List Char) : List Char :=
    characters.dropWhile fun character => character == ' ' || ('\t' ≤ character &&
      character ≤ '\x0d')
  let (isNegative, digits) := match blanks text.toList with
    | '-' :: rest => (true, rest)
    | '+' :: rest => (false, rest)
    | rest => (false, rest)
  if (blanks text.toList).isEmpty then some 0
  else match digits with
    | first :: _ =>
      if first.isDigit then
        let (value, rest) := FormulaLexeme.readNumber digits
        let limit := if isNegative then FormulaLexeme.largest + 1 else FormulaLexeme.largest
        if (blanks rest).isEmpty ∧ value ≤ limit then
          some (if isNegative then -(Int64.ofNat value) else Int64.ofNat value)
        else none
      else none
    | [] => none

/-- Variables as an expression sees them. -/
abbrev Bindings := String → Option String

/-- The value of an expression, with the variables that it gave values to, the latest first. -/
def evaluate (bindings : Bindings) (given : List (String × Int64)) :
    Formula → Except FormulaError (Int64 × List (String × Int64))
  | .number value => .ok (value, given)
  | .variable name => do return (← lookup name given, given)
  | .signed sign body => do
    let (value, given) ← evaluate bindings given body
    let value := match sign with
      | .plus => value
      | .minus => -value
      | .isZero => if value = 0 then 1 else 0
      | .complement => ~~~value
    return (value, given)
  | .binary operator left right => do
    let (left, given) ← evaluate bindings given left
    let (right, given) ← evaluate bindings given right
    return (← apply operator left right, given)
  | .both left right => do
    let (left, given) ← evaluate bindings given left
    if left = 0 then return (0, given)
    else do
      let (right, given) ← evaluate bindings given right
      return (if right = 0 then 0 else 1, given)
  | .either left right => do
    let (left, given) ← evaluate bindings given left
    if left ≠ 0 then return (1, given)
    else do
      let (right, given) ← evaluate bindings given right
      return (if right = 0 then 0 else 1, given)
  | .select test first second => do
    let (test, given) ← evaluate bindings given test
    if test ≠ 0 then evaluate bindings given first else evaluate bindings given second
  | .assign name operator value => do
    let (value, given) ← evaluate bindings given value
    let value ← match operator with
      | none => pure value
      | some operator => do apply operator (← lookup name given) value
    return (value, (name, value) :: given)
where
  lookup (name : String) (given : List (String × Int64)) : Except FormulaError Int64 :=
    match given.find? (·.1 == name) with
    | some (_, value) => .ok value
    | none =>
      match bindings name with
      | none | some "" => .ok 0
      | some text =>
        match numberOf? text with
        | some value => .ok value
        | none => .error (.illegalNumber text)
  apply (operator : FormulaOperator) (left right : Int64) : Except FormulaError Int64 :=
    match operator.result? left right with
    | some value => .ok value
    | none => .error (if right = 0 then .divisionByZero else .overflow)

end Formula

end Gatehouse.Shell
