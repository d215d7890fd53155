import Gatehouse.Tool.Escape

/-!
# Writing arguments

The tools that write their arguments: in one line, or in a format with places for texts,
characters and numbers. A format is used again and again as long as it takes up arguments.
-/

namespace Gatehouse.Tool

/-- Texts with blanks between them, and a line break behind them if it is asked for. -/
def line (dialect : Option Dialect) (breaks : Bool) (arguments : List String) : ToolRun :=
  let text := " ".intercalate arguments
  let (content, ends) := match dialect with
    | some dialect => unescaped dialect text
    | none => (text.toList, false)
  .output (octetsOf (if breaks ∧ ¬ ends then content ++ ['\n'] else content))

/-- Whether an argument is a group of options of `echo`. -/
def isEchoOption (argument : String) : Bool :=
  match argument.toList with
  | '-' :: first :: rest => (first :: rest).all fun letter => letter ∈ ['n', 'e', 'E']
  | _ => false

/-- Write the arguments in one line. -/
def echo (arguments : List String) : ToolRun :=
  let options := (arguments.takeWhile isEchoOption).flatMap String.toList
  let last := (options.filter fun option => option == 'e' || option == 'E').getLast?
  line (if last = some 'e' then some .toolLine else none) (!options.contains 'n')
    (arguments.dropWhile isEchoOption)

/-- Write the arguments in one line, as scripts do it. -/
def scriptEcho : List String → ToolRun
  | "-n" :: arguments => line (some .scriptLine) false arguments
  | arguments => line (some .scriptLine) true arguments

/-- A place of a format: how its content is set. -/
structure Layout where
  left : Bool := false
  signed : Bool := false
  spaced : Bool := false
  zeros : Bool := false
  marked : Bool := false
  width : Nat := 0
  precision : Option Nat := none
deriving DecidableEq, Repr

namespace Layout

/-- A content in its width. -/
def pad (layout : Layout) (content : List Char) : List Char :=
  let blanks := List.replicate (layout.width - content.length) ' '
  if layout.left then content ++ blanks else blanks ++ content

/-- Digits with what stands in front of them, in their precision and width. -/
def padNumber (layout : Layout) (front digits : List Char) : List Char :=
  let missing := (layout.precision.getD 1) - digits.length
  let digits := List.replicate missing '0' ++ digits
  let digits := if layout.precision = some 0 ∧ digits = ['0'] then [] else digits
  if layout.zeros ∧ ¬ layout.left ∧ layout.precision.isNone then
    front ++ List.replicate (layout.width - front.length - digits.length) '0' ++ digits
  else layout.pad (front ++ digits)

/-- A flag of a layout. -/
def flag? (layout : Layout) : Char → Option Layout
  | '-' => some { layout with left := true }
  | '+' => some { layout with signed := true }
  | ' ' => some { layout with spaced := true }
  | '0' => some { layout with zeros := true }
  | '#' => some { layout with marked := true }
  | _ => none

/-- All flags in front of a text. -/
def flags (layout : Layout) : List Char → Layout × List Char
  | [] => (layout, [])
  | first :: rest =>
    match layout.flag? first with
    | some layout => flags layout rest
    | none => (layout, first :: rest)

end Layout

/-- The state of writing in a format: what is written, the latest first, the arguments left, the
complaints, and whether all output has ended, perhaps because the format cannot be read. -/
structure Formatting where
  written : List Char := []
  left : List String
  complaints : List String := []
  ended : Bool := false
  unreadable : Bool := false

namespace Formatting

/-- The next argument, which is empty where there is none. -/
def next (state : Formatting) : String × Formatting :=
  (state.left.headD "", { state with left := state.left.tail })

/-- Write something behind what is written. -/
def write (state : Formatting) (content : List Char) : Formatting :=
  { state with written := content.reverse ++ state.written }

/-- Note a complaint. -/
def complain (state : Formatting) (complaint : String) : Formatting :=
  { state with complaints := state.complaints ++ [complaint] }

/-- Give up. -/
def refuse (state : Formatting) (complaint : String) : Formatting :=
  { state.complain complaint with ended := true, unreadable := true }

end Formatting

/-- The digits of a number to a base. -/
def digitsOf (base value : Nat) : List Char := Nat.toDigits base value

/-- The largest number of 64 bits. -/
def largest : Nat := Nat.pow 2 64 - 1

/-- A number as an argument writes it, and what stands behind it: in base ten, eight or sixteen, or
the code of the character behind a quote. -/
def integer (argument : String) : Int × Bool × List Char :=
  match argument.toList with
  | '\'' :: first :: _ | '"' :: first :: _ => (first.toNat, true, [])
  | ['\''] | ['"'] => (0, true, [])
  | characters =>
    let unsigned (characters : List Char) : Nat × Bool × List Char :=
      let read (base : Nat) (isPart : Char → Bool) (digits : List Char) (found : Bool) :=
        let front := digits.takeWhile isPart
        (front.foldl (fun value digit => value * base + digitValue digit) 0,
          found || !front.isEmpty, digits.drop front.length)
      match characters with
      | '0' :: mark :: first :: rest =>
        if (mark = 'x' ∨ mark = 'X') ∧ isHex first then read 16 isHex (first :: rest) false
        else read 8 isOctal (mark :: first :: rest) true
      | '0' :: rest => read 8 isOctal rest true
      | all => read 10 Char.isDigit all false
    match characters.dropWhile fun character => character == ' ' || character == '\t' with
    | '-' :: rest =>
      let (value, found, rest) := unsigned rest
      (-(value : Int), found, rest)
    | '+' :: rest =>
      let (value, found, rest) := unsigned rest
      (value, found, rest)
    | rest =>
      let (value, found, rest) := unsigned rest
      (value, found, rest)

/-- Take the next argument for a number, with a complaint where it is none. -/
def nextInteger (state : Formatting) : Int × Formatting :=
  match state.left with
  | [] => (0, state)
  | argument :: left =>
    let state := { state with left }
    let (value, found, rest) := integer argument
    if ¬ found ∧ ¬ argument.isEmpty then
      (0, state.complain (argument ++ ": expected numeric value"))
    else if ¬ rest.isEmpty then (value, state.complain (argument ++ ": not completely converted"))
    else (value, state)

/-- Write one argument in a layout. -/
def place (layout : Layout) (kind : Char) (state : Formatting) : Option Formatting :=
  let natural (base : Nat) (front : List Char) (capital : Bool) : Formatting :=
    let (value, state) := nextInteger state
    let value := (value % (Nat.pow 2 64 : Nat)).toNat
    let digits := digitsOf base value
    let digits := if capital then digits.map Char.toUpper else digits
    let front := if layout.marked ∧ value ≠ 0 then front else []
    state.write (layout.padNumber front digits)
  match kind with
  | 's' =>
    let (argument, state) := state.next
    let content := match layout.precision with
      | some size => argument.toList.take size
      | none => argument.toList
    some (state.write (layout.pad content))
  | 'b' =>
    let (argument, state) := state.next
    let (content, ends) := unescaped .scriptLine argument
    let content := match layout.precision with
      | some size => content.take size
      | none => content
    some { state.write (layout.pad content) with ended := ends }
  | 'c' =>
    let (argument, state) := state.next
    some (state.write (layout.pad [argument.toList.headD '\x00']))
  | 'd' | 'i' =>
    let (value, state) := nextInteger state
    let front := if value < 0 then ['-'] else if layout.signed then ['+']
      else if layout.spaced then [' '] else []
    some (state.write (layout.padNumber front (digitsOf 10 value.natAbs)))
  | 'u' => some (natural 10 [] false)
  | 'o' => some (natural 8 ['0'] false)
  | 'x' => some (natural 16 ['0', 'x'] false)
  | 'X' => some (natural 16 ['0', 'X'] true)
  | _ => none

/-- A width or a precision: digits, or the next argument. -/
def size (state : Formatting) (characters : List Char) : Option Int × Formatting × List Char :=
  match characters with
  | '*' :: rest =>
    let (value, state) := nextInteger state
    (some value, state, rest)
  | _ =>
    let digits := characters.takeWhile Char.isDigit
    let value := digits.foldl (fun value digit => value * 10 + digitValue digit) 0
    (if digits.isEmpty then none else some value, state, characters.drop digits.length)

/-- One pass over a format; the fuel bounds its characters. -/
def formatOnce : Nat → List Char → Formatting → Formatting
  | 0, _, state => state
  | _ + 1, [], state => state
  | fuel + 1, '\\' :: rest, state =>
    let found := escape .format rest
    formatOnce fuel found.rest (state.write found.content)
  | fuel + 1, '%' :: '%' :: rest, state => formatOnce fuel rest (state.write ['%'])
  | fuel + 1, '%' :: rest, state =>
    let (layout, rest) := ({} : Layout).flags rest
    let (width, state, rest) := size state rest
    let layout := match width with
      | some width => { layout with
          width := width.natAbs, left := layout.left || decide (width < 0) }
      | none => layout
    let (layout, state, rest) := match rest with
      | '.' :: rest =>
        let (precision, state, rest) := size state rest
        let precision := precision.getD 0
        ({ layout with precision := if precision < 0 then none else some precision.toNat },
          state, rest)
      | rest => (layout, state, rest)
    match rest with
    | [] => state.refuse "missing format character"
    | kind :: rest =>
      match place layout kind state with
      | some state => if state.ended then state else formatOnce fuel rest state
      | none => state.refuse ("%" ++ String.singleton kind ++ ": invalid directive")
  | fuel + 1, first :: rest, state => formatOnce fuel rest (state.write [first])

/-- A format, again and again as long as it takes up arguments. -/
def formatAll (format : List Char) : Nat → Formatting → Formatting
  | 0, state => state
  | fuel + 1, state =>
    let after := formatOnce (format.length + 1) format state
    if after.ended ∨ after.left.isEmpty ∨ state.left.length ≤ after.left.length then after
    else formatAll format fuel after

/-- Write the arguments in a format. -/
def printf (arguments : List String) : ToolRun :=
  match (if arguments.head? = some "--" then arguments.tail else arguments) with
  | [] => .complain 2 "usage: printf format [arg ...]"
  | format :: arguments =>
    let state := formatAll format.toList (arguments.length + 1) { left := arguments }
    let complaints := state.complaints.map fun complaint =>
      (Channel.complaint, Text.Octets.toList complaint)
    { writes := complaints ++ [(.output, octetsOf state.written.reverse)]
      status := if state.unreadable then 2 else if state.complaints.isEmpty then 0 else 1 }

end Gatehouse.Tool
