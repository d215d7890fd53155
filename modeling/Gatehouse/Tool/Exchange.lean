import Gatehouse.Tool.Escape
import Gatehouse.Tool.Options

/-!
# Exchanging octets

The tool that changes octets into others, deletes them, or leaves one in the place of
many. Sets of octets are written with escapes, ranges, classes and repetitions.
-/

namespace Gatehouse.Tool

/-- A part of a set: octets, or one octet as often as it is needed. -/
inductive SetPart
  | octets (content : List Nat)
  | filler (code : Nat)
deriving DecidableEq, Repr

/-- The octets of a class. -/
def classOctets? (name : String) : Option (List Nat) :=
  let all (test : Char → Bool) : Option (List Nat) :=
    some ((List.range 128).filter fun code => test (Char.ofNat code))
  match name with
  | "alpha" => all Char.isAlpha
  | "digit" => all Char.isDigit
  | "alnum" => all Char.isAlphanum
  | "upper" => all Char.isUpper
  | "lower" => all Char.isLower
  | "space" => all fun c => c == ' ' || ('\t' ≤ c && c ≤ '\x0d')
  | "blank" => all fun c => c == ' ' || c == '\t'
  | "punct" => all fun c => '!' ≤ c && c ≤ '~' && !c.isAlphanum
  | "print" => all fun c => ' ' ≤ c && c ≤ '~'
  | "graph" => all fun c => '!' ≤ c && c ≤ '~'
  | "cntrl" => all fun c => c < ' ' || c == '\x7f'
  | "xdigit" => all isHex
  | _ => none

/-- The characters of a set behind their escapes, each with whether it was one. -/
def setChars (done : List (Char × Bool)) : Nat → List Char → List (Char × Bool)
  | 0, _ => done.reverse
  | _ + 1, [] => done.reverse
  | fuel + 1, '\\' :: rest =>
    let found := escape .set rest
    setChars ((found.content.map (·, true)).reverse ++ done) fuel found.rest
  | fuel + 1, first :: rest => setChars ((first, false) :: done) fuel rest

/-- A class or a repetition behind its opening bracket, and what stands behind it. -/
def bracketed? (characters : List (Char × Bool)) : Option (SetPart × List (Char × Bool)) :=
  match characters with
  | (':', false) :: rest =>
    let name := rest.takeWhile fun (character, _) => character != ':'
    match rest.drop name.length with
    | (':', _) :: (']', _) :: behind =>
      (classOctets? (String.ofList (name.map (·.1)))).map fun octets => (.octets octets, behind)
    | _ => none
  | ('=', false) :: (character, _) :: ('=', false) :: (']', false) :: behind =>
    some (.octets [character.toNat], behind)
  | (character, _) :: ('*', false) :: rest =>
    let digits := (rest.takeWhile fun (digit, _) => digit.isDigit).map (·.1)
    match rest.drop digits.length with
    | (']', false) :: behind =>
      let base := if digits.head? = some '0' then 8 else 10
      let count := digits.foldl (fun value digit => value * base + digitValue digit) 0
      some (if count = 0 then .filler character.toNat
        else .octets (List.replicate count character.toNat), behind)
    | _ => none
  | _ => none

/-- The parts of a set, or the report that it is none; the fuel bounds its characters. -/
def setParts (done : List SetPart) : Nat → List (Char × Bool) → Except String (List SetPart)
  | 0, _ => .ok done.reverse
  | _ + 1, [] => .ok done.reverse
  | fuel + 1, (first, escaped) :: rest =>
    match (if first = '[' ∧ ¬ escaped then bracketed? rest else none) with
    | some (part, behind) => setParts (part :: done) fuel behind
    | none =>
      match rest with
      | ('-', false) :: (last, _) :: behind =>
        if last < first then
          .error ("range-endpoints of '" ++ String.ofList [first, '-', last] ++
            "' are in reverse collating sequence order")
        else
          let octets := (List.range (last.toNat - first.toNat + 1)).map (first.toNat + ·)
          setParts (.octets octets :: done) fuel behind
      | _ => setParts (.octets [first.toNat] :: done) fuel rest

/-- A set as it is written. -/
def readSet (text : String) : Except String (List SetPart) :=
  let characters := setChars [] (text.length + 1) text.toList
  setParts [] (characters.length + 1) characters

/-- The octets of a set, with its fillers taken so often that there are so many. -/
def setOctets (size : Nat) (parts : List SetPart) : List Nat :=
  let known := parts.foldl (fun count part => match part with
    | .octets content => count + content.length
    | .filler _ => count) 0
  parts.flatMap fun part => match part with
    | .octets content => content
    | .filler code => List.replicate (size - known) code

/-- What is done with octets: how one changes, which are deleted, and of which one stands for
many. -/
structure Exchange where
  change : Array UInt8
  deleted : List Nat
  squeezed : List Nat

namespace Exchange

/-- The octet in the place of another one. The last place of an octet in the first set counts, and
the last octet of the second set stands for those that are missing. -/
def table (first second : List Nat) : Array UInt8 :=
  let start : Array UInt8 := ((List.range 256).map UInt8.ofNat).toArray
  let last := second.getLast?
  ((List.range first.length).zip first).foldl (fun table (place, code) =>
    match (second[place]?).or last with
    | some target => table.setIfInBounds code (UInt8.ofNat target)
    | none => table) start

/-- Octets after an exchange, behind an octet that was written last. -/
def apply (exchange : Exchange) (before : Option UInt8) (octets : List UInt8) :
    List UInt8 × Option UInt8 :=
  let (written, last) := octets.foldl (fun (state : List UInt8 × Option UInt8) octet =>
    let (written, last) := state
    if exchange.deleted.contains octet.toNat then state
    else
      let next := exchange.change.getD octet.toNat octet
      if last = some next ∧ exchange.squeezed.contains next.toNat then state
      else (next :: written, some next)) ([], before)
  (written.reverse, last)

end Exchange

/-- The exchange that options and sets ask for. -/
def exchangeOf (options : Options) (parts : List (List SetPart)) : Except String Exchange :=
  let whole := (List.range 256)
  let identity : Array UInt8 := (whole.map UInt8.ofNat).toArray
  let first := setOctets 0 (parts.headD [])
  let first := if options.has 'c' then whole.filter fun code => !first.contains code else first
  let second := setOctets first.length (parts.getD 1 [])
  match options.has 'd', options.has 's', parts.length with
  | true, false, 1 => .ok ⟨identity, first, []⟩
  | true, true, 2 => .ok ⟨identity, first, second⟩
  | false, true, 1 => .ok ⟨identity, [], first⟩
  | false, squeezes, 2 =>
    if options.has 't' then
      .ok ⟨Exchange.table (first.take second.length) second, [], if squeezes then second else []⟩
    else if second.isEmpty ∧ ¬ first.isEmpty then
      .error "when not truncating set1, string2 must be non-empty"
    else .ok ⟨Exchange.table first second, [], if squeezes then second else []⟩
  | _, _, _ => .error ""

/-- Why the number of sets is not what the options ask for. -/
def operandReport? (options : Options) : Option String :=
  let deletes := options.has 'd'
  let squeezes := options.has 's'
  let fewest := if deletes == squeezes then 2 else 1
  let most := if deletes ∧ ¬ squeezes then 1 else 2
  let operands := options.operands
  if operands.length < fewest then
    match operands with
    | [] => some "missing operand"
    | first :: _ => some ("missing operand after " ++ quoted first ++ "\n" ++
        (if squeezes then "Two strings must be given when both deleting and squeezing repeats."
        else "Two strings must be given when translating."))
  else
    match operands.drop most with
    | [] => none
    | extra :: _ => some ("extra operand " ++ quoted extra ++
        (if operands.length = 2 then
          "\nOnly one string may be given when deleting without squeezing repeats." else ""))

/-- Change, delete and squeeze octets of the input. -/
def tr (arguments : List String) (stdin : Feed) : ToolRun :=
  let table : OptionTable := {
    letters := [('c', false), ('C', false), ('d', false), ('s', false), ('t', false)]
    words := [("complement", 'c'), ("delete", 'd'), ("squeeze-repeats", 's'),
      ("truncate-set1", 't')] }
  match Options.read table arguments with
  | .error report => misuse "tr" report
  | .ok options =>
    let options := if options.has 'C' then { options with given := ('c', "") :: options.given }
      else options
    match operandReport? options with
    | some report => misuse "tr" report
    | none =>
      match (options.operands.mapM readSet).bind (exchangeOf options) with
      | .error report => .fail 1 ("tr: " ++ report ++ "\n")
      | .ok exchange =>
        let (written, last) := exchange.apply none stdin.octets
        if stdin.cycle.isEmpty then { ToolRun.output written with reads := true }
        else
          let (turn, last) := exchange.apply last stdin.cycle
          let (cycle, _) := exchange.apply last stdin.cycle
          if cycle.isEmpty then
            { ToolRun.output (written ++ turn) with reads := true, milliseconds := ToolRun.endless }
          else { ToolRun.output (written ++ turn) with cycle, reads := true }

end Gatehouse.Tool
