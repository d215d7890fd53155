import Gatehouse.Tool.Options

/-!
# Waiting

The tool that only takes time. A time is a number of seconds in base ten or sixteen, with a
fraction and an exponent, and perhaps a unit.
-/

namespace Gatehouse.Tool

/-- A number as a quotient. -/
structure Quotient where
  numerator : Nat
  denominator : Nat
deriving DecidableEq, Repr

/-- The largest exponent that is told apart from larger ones. -/
def exponentLimit : Nat := 400

/-- The exponent behind a letter, if there is one, and what stands behind it. -/
def exponentOf (marks : List Char) (characters : List Char) : Int × List Char :=
  match characters with
  | mark :: rest =>
    if mark ∉ marks then (0, characters)
    else
      let (negative, digits) := match rest with
        | '-' :: digits => (true, digits)
        | '+' :: digits => (false, digits)
        | digits => (false, digits)
      let front := digits.takeWhile Char.isDigit
      if front.isEmpty then (0, characters)
      else
        let value := front.foldl (fun value digit =>
          min exponentLimit (value * 10 + (digit.toNat - '0'.toNat))) 0
        (if negative then -(value : Int) else value, digits.drop front.length)
  | [] => (0, [])

/-- Digits to a base with a fraction, and the exponent behind them; nothing where there are no
digits. -/
def quotientOf? (base scale : Nat) (isPart : Char → Bool) (marks characters : List Char) :
    Option (Quotient × List Char) :=
  let value (digits : List Char) : Nat := digits.foldl (fun value digit =>
    value * base + (if digit.isDigit then digit.toNat - '0'.toNat
      else digit.toLower.toNat - 'a'.toNat + 10)) 0
  let whole := characters.takeWhile isPart
  let (fraction, behind) := match characters.drop whole.length with
    | '.' :: rest => (rest.takeWhile isPart, rest.dropWhile isPart)
    | rest => ([], rest)
  if whole.isEmpty ∧ fraction.isEmpty then none
  else
    let (exponent, behind) := exponentOf marks behind
    let numerator := value (whole ++ fraction)
    let denominator := Nat.pow base fraction.length
    some (if 0 ≤ exponent then ⟨numerator * Nat.pow scale exponent.toNat, denominator⟩
      else ⟨numerator, denominator * Nat.pow scale (-exponent).toNat⟩, behind)

/-- A number in front of a text, or none where it has no end, and what stands behind it. -/
def secondsOf? (text : List Char) : Option (Option Quotient × List Char) :=
  let isHex (character : Char) : Bool :=
    character.isDigit || ('a' ≤ character.toLower && character.toLower ≤ 'f')
  let isSpace (character : Char) : Bool :=
    character == ' ' || ('\t' ≤ character && character ≤ '\x0d')
  let unsigned := match text.dropWhile isSpace with
    | '+' :: rest => rest
    | rest => rest
  let lower := unsigned.map Char.toLower
  if "infinity".toList.isPrefixOf lower then some (none, unsigned.drop 8)
  else if "inf".toList.isPrefixOf lower then some (none, unsigned.drop 3)
  else
    let hex := match unsigned with
      | '0' :: mark :: rest =>
        if mark = 'x' ∨ mark = 'X' then quotientOf? 16 2 isHex ['p', 'P'] rest else none
      | _ => none
    match hex with
    | some (value, rest) => some (some value, rest)
    | none =>
      (quotientOf? 10 10 Char.isDigit ['e', 'E'] unsigned).map fun (value, rest) =>
        (some value, rest)

/-- The milliseconds of a time with its unit, rounded up. -/
def duration? (text : String) : Option Nat := do
  let (value, rest) ← secondsOf? text.toList
  let unit ← match rest with
    | [] | ['s'] => some 1
    | ['m'] => some 60
    | ['h'] => some 3600
    | ['d'] => some 86400
    | _ => none
  match value with
  | none => return ToolRun.endless
  | some value =>
    return (value.numerator * 1000 * unit + value.denominator - 1) / value.denominator

/-- Wait for the sum of all times. -/
def sleep (arguments : List String) : ToolRun :=
  match Options.read ⟨[], []⟩ arguments with
  | .error report => misuse "sleep" report
  | .ok options =>
    match options.operands with
    | [] => misuse "sleep" "missing operand"
    | times =>
      match times.filter fun time => (duration? time).isNone with
      | [] => .quiet 0 ((times.filterMap duration?).foldl (· + ·) 0)
      | wrong => .fail 1 ("".intercalate (wrong.map fun time =>
          "sleep: invalid time interval " ++ quoted time ++ "\n") ++ advice "sleep")

end Gatehouse.Tool
