import Gatehouse.Tool.Options

/-!
# Reading and writing files

The tools that pass on files or parts of them, count what is in them, make them and take
them away.
-/

namespace Gatehouse.Tool

/-- Whether a path leads to the input. -/
def isInput (path : String) : Bool :=
  path ∈ ["-", "/dev/stdin", "/dev/fd/0", "/proc/self/fd/0"]

/-- What a file argument gives; a dash is the input. -/
def contents (system : FileSystem) (stdin : Feed) (path : String) : Except FileError Feed := do
  if isInput path then return stdin
  match ← system.lookup (Text.Octets.toText path) with
  | .source => return .zeros
  | .directory => .error .isDirectory
  | .file content => return .ofFile content.octets
  | .tool _ => return .ofOctets FileSystem.machineCode

/-- The lines of octets, each with its line break. -/
def octetLines (done : List (List UInt8)) (line : List UInt8) : List UInt8 → List (List UInt8)
  | [] => (if line.isEmpty then done else line.reverse :: done).reverse
  | octet :: rest =>
    if octet = 0x0A then octetLines ((octet :: line).reverse :: done) [] rest
    else octetLines done (octet :: line) rest

/-- An octet in a form that can be seen. -/
def visible (showsTabs showsAll : Bool) (octet : UInt8) : List UInt8 :=
  let low (code : UInt8) : List UInt8 :=
    if code < 32 then [0x5E, code + 64] else if code = 127 then [0x5E, 0x3F] else [code]
  if octet = 0x0A then [octet]
  else if octet = 0x09 then (if showsTabs then [0x5E, 0x49] else [octet])
  else if ¬ showsAll then [octet]
  else if octet < 128 then low octet
  else [0x4D, 0x2D] ++ low (octet - 128)

/-- Lines as the options of `cat` show them. -/
def numberedLines (options : Options) (octets : List UInt8) : List UInt8 :=
  let has (letters : List Char) : Bool := letters.any options.has
  let showsEnds := has ['E', 'A', 'e']
  let change := visible (has ['T', 'A', 't']) (has ['v', 'A', 'e', 't'])
  let lines := octetLines [] [] octets
  let lines := if options.has 's' then
      (lines.foldl (fun (kept : List (List UInt8)) line =>
        if line = [0x0A] ∧ kept.head? = some [0x0A] then kept else line :: kept) []).reverse
    else lines
  let (shown, _) := lines.foldl (fun (state : List (List UInt8) × Nat) line =>
    let (shown, number) := state
    let isNumbered := if options.has 'b' then line ≠ [0x0A] else options.has 'n'
    let front := if isNumbered then
        let digits := toString number
        Text.Utf8.encode (String.ofList (List.replicate (6 - digits.length) ' ') ++ digits ++ "\t")
      else []
    let body := line.flatMap change
    let body := if showsEnds ∧ body.getLast? = some 0x0A then
        body.dropLast ++ [0x24, 0x0A] else body
    ((front ++ body) :: shown, if isNumbered then number + 1 else number)) ([], 1)
  shown.reverse.flatten

/-- Write files one after the other. -/
def cat (system : FileSystem) (arguments : List String) (stdin : Feed) : ToolRun :=
  let table : OptionTable := {
    letters := ['A', 'b', 'e', 'E', 'n', 's', 't', 'T', 'u', 'v'].map (·, false)
    words := [("show-all", 'A'), ("number-nonblank", 'b'), ("show-ends", 'E'), ("number", 'n'),
      ("squeeze-blank", 's'), ("show-tabs", 'T'), ("show-nonprinting", 'v')] }
  match Options.read table arguments with
  | .error report => misuse "cat" report
  | .ok options =>
    let paths := if options.operands.isEmpty then ["-"] else options.operands
    let one (path : String) : ToolRun :=
      match contents system stdin path with
      | .ok feed => { ToolRun.pass feed with reads := isInput path }
      | .error error =>
        .fail 1 ("cat: " ++ shownName path ++ ": " ++ error.shortMessage ++ "\n")
    let run := (paths.map one).foldl ToolRun.followedBy (.quiet 0 0)
    if options.given.all (·.1 == 'u') then run
    else
      let all := (run.writes.filter (·.1 == .output)).flatMap (·.2)
      { run with writes :=
        run.writes.filter (·.1 != .output) ++ [(.output, numberedLines options all)] }

/-- The front of octets up to so many line breaks. -/
def firstLines : Nat → List UInt8 → List UInt8
  | 0, _ => []
  | _ + 1, [] => []
  | count + 1, octet :: rest =>
    octet :: firstLines (if octet = 0x0A then count else count + 1) rest

/-- What is kept of a file: so many octets or lines, or all but the last so many. -/
structure Extent where
  inLines : Bool
  butLast : Bool
  count : Nat
deriving DecidableEq, Repr

/-- The factor of a unit of sizes. -/
def unitOf? (text : List Char) : Option Nat :=
  let powers := ['K', 'M', 'G', 'T', 'P', 'E', 'Z', 'Y']
  match text with
  | [] => some 1
  | ['b'] => some 512
  | ['k'] => some 1024
  | ['m'] => some (Nat.pow 1024 2)
  | ['k', 'B'] => some 1000
  | letter :: rest =>
    match powers.findIdx? (· == letter), rest with
    | some place, [] | some place, ['i', 'B'] => some (Nat.pow 1024 (place + 1))
    | some place, ['B'] => some (Nat.pow 1000 (place + 1))
    | _, _ => none

/-- A number with a unit, which may not go past the largest number of 64 bits. -/
def size? (text : List Char) : Option Nat := do
  let digits := text.takeWhile Char.isDigit
  let number := digits.foldl (fun value digit => value * 10 + (digit.toNat - '0'.toNat)) 0
  if digits.isEmpty then
    if text.isEmpty then none else unitOf? text
  else return number * (← unitOf? (text.drop digits.length))

/-- The extent that the value of an option asks for. -/
def extentOf (inLines : Bool) (text : String) : Except String Extent :=
  let (butLast, digits) := match text.toList with
    | '-' :: rest => (true, rest)
    | '+' :: rest => (false, rest)
    | rest => (false, rest)
  match size? digits with
  | some count => .ok ⟨inLines, butLast, count⟩
  | none => .error ("invalid number of " ++ (if inLines then "lines" else "bytes") ++ ": " ++
      quoted text)

/-- A number of lines that stands behind one dash, in the form of an option. -/
def withoutShortcut (arguments : List String) : List String :=
  match arguments with
  | first :: rest =>
    match first.toList with
    | '-' :: digit :: more =>
      if ¬ digit.isDigit then arguments
      else
        let digits := String.ofList ((digit :: more).takeWhile Char.isDigit)
        let letters := (digit :: more).dropWhile Char.isDigit
        let unit := String.ofList (letters.filter fun letter => letter ∈ ['b', 'k', 'm'])
        let octets := letters.contains 'c' || unit ≠ ""
        ("-" ++ (if octets then "c" else "n") ++ digits ++ unit) :: rest
    | _ => arguments
  | [] => []

/-- How much is read at once by a reader of lines. -/
def blockSize : Nat := 8192

/-- The part of a feed that an extent keeps in front. All is read where the end has to be seen.
Lines are read block by block, but in a file their reader goes back to the end of the last one. -/
def front (extent : Extent) (feed : Feed) : ToolRun :=
  match extent.inLines, extent.butLast with
  | false, false =>
    { ToolRun.output (feed.take extent.count) with
      reads := feed.cycle.isEmpty && feed.octets.length < extent.count, takes := extent.count }
  | false, true =>
    { if feed.cycle.isEmpty then
        ToolRun.output (feed.octets.take (feed.octets.length - extent.count))
      else .pass feed with reads := true }
  | true, true =>
    { if feed.cycle.isEmpty then
        let lines := octetLines [] [] feed.octets
        ToolRun.output (lines.take (lines.length - extent.count)).flatten
      else .pass feed with reads := true }
  | true, false =>
    let kept := firstLines extent.count feed.octets
    let missing := extent.count - kept.count 0x0A
    let perTurn := feed.cycle.count 0x0A
    if missing = 0 then
      let blocks := (kept.length + blockSize - 1) / blockSize
      { ToolRun.output kept with
        takes := if feed.isFile then kept.length else blocks * blockSize }
    else
      let run : ToolRun :=
        if feed.cycle.isEmpty then .output kept
        else if perTurn = 0 then .pass feed
        else .output (kept ++ firstLines missing
          (Feed.turns feed.cycle (feed.cycle.length * (missing / perTurn + 1))))
      { run with reads := true }

/-- The part of octets that an extent keeps at the end. -/
def back (extent : Extent) (octets : List UInt8) : List UInt8 :=
  if extent.inLines then
    let lines := octetLines [] [] octets
    (lines.drop (lines.length - extent.count)).flatten
  else octets.drop (octets.length - extent.count)

/-- Write parts of files, under their names if there are more than one. -/
def parts (name : String) (system : FileSystem) (arguments : List String) (stdin : Feed)
    (part : Extent → Feed → ToolRun) : ToolRun :=
  let table : OptionTable := {
    letters := [('c', true), ('n', true), ('q', false), ('v', false), ('z', false)]
    words := [("bytes", 'c'), ("lines", 'n'), ("quiet", 'q'), ("silent", 'q'), ("verbose", 'v'),
      ("zero-terminated", 'z')] }
  match Options.read table (withoutShortcut arguments) with
  | .error report => misuse name report
  | .ok options =>
    let asked := options.given.filter fun (letter, _) => letter == 'c' || letter == 'n'
    match asked.mapM fun (letter, value) => extentOf (letter == 'n') value with
    | .error report => .fail 1 (name ++ ": " ++ report ++ "\n")
    | .ok extents =>
      let extent := extents.getLast?.getD ⟨true, false, 10⟩
      let paths := if options.operands.isEmpty then ["-"] else options.operands
      let shows := (1 < paths.length || options.has 'v') && !options.has 'q'
      let one (number : Nat) (path : String) : ToolRun :=
        let shown := if path = "-" then "standard input" else path
        let title : ToolRun := if shows then .output (Text.Octets.toList
            ((if number = 0 then "" else "\n") ++ "==> " ++ shown ++ " <==\n"))
          else .quiet 0 0
        match contents system stdin path with
        | .ok feed => title.followedBy
            (if isInput path then part extent feed
            else { part extent feed with reads := false, takes := 0 })
        | .error .isDirectory => title.followedBy (.fail 1
            (name ++ ": error reading " ++ quotedName path ++ ": Is a directory\n"))
        | .error error => .fail 1 (name ++ ": cannot open " ++ quotedName path ++
            " for reading: " ++ error.shortMessage ++ "\n")
      ((List.range paths.length).zipWith one paths).foldl ToolRun.followedBy (.quiet 0 0)

/-- Write the front of files. -/
def head (system : FileSystem) (arguments : List String) (stdin : Feed) : ToolRun :=
  parts "head" system arguments stdin front

/-- Write the end of files. -/
def tail (system : FileSystem) (arguments : List String) (stdin : Feed) : ToolRun :=
  parts "tail" system arguments stdin fun extent feed =>
    { ToolRun.output (back extent feed.octets) with
      reads := true
      milliseconds := if feed.cycle.isEmpty then 0 else ToolRun.endless }

/-- The words of octets. -/
def wordCount (octets : List UInt8) : Nat :=
  let isSpace (octet : UInt8) : Bool := octet == 0x20 || (0x09 ≤ octet && octet ≤ 0x0D)
  (octets.foldl (fun (state : Nat × Bool) octet =>
    if isSpace octet then (state.1, false)
    else (if state.2 then state.1 else state.1 + 1, true)) (0, false)).1

/-- Count lines, words and octets. -/
def wc (system : FileSystem) (arguments : List String) (stdin : Feed) : ToolRun :=
  let table : OptionTable := {
    letters := [('c', false), ('l', false), ('w', false)]
    words := [("bytes", 'c'), ("lines", 'l'), ("words", 'w')] }
  match Options.read table arguments with
  | .error report => misuse "wc" report
  | .ok options =>
    let shows (letter : Char) : Bool := options.given.isEmpty || options.has letter
    let counts (octets : List UInt8) : List Nat :=
      (if shows 'l' then [octets.count 0x0A] else []) ++
      (if shows 'w' then [wordCount octets] else []) ++
      (if shows 'c' then [octets.length] else [])
    let columns := (counts []).length
    let one (path : Option String) : ToolRun :=
      match contents system stdin (path.getD "-") with
      | .error error => .fail 1
          ("wc: " ++ shownName (path.getD "-") ++ ": " ++ error.shortMessage ++ "\n")
      | .ok feed =>
        let width := if columns = 1 then 1
          else if path.getD "-" = "-" then 7 else (toString feed.octets.length).length
        let shown := (counts feed.octets).map fun count =>
          let digits := toString count
          String.ofList (List.replicate (width - digits.length) ' ') ++ digits
        let named := match path with
          | some path => shown ++ [path]
          | none => shown
        { ToolRun.output (Text.Octets.toList (" ".intercalate named ++ "\n")) with
          reads := isInput (path.getD "-")
          milliseconds := if feed.cycle.isEmpty then 0 else ToolRun.endless }
    match options.operands with
    | [] => one none
    | paths => (paths.map (one ∘ some)).foldl ToolRun.followedBy (.quiet 0 0)

/-- Write the whole numbers between two. -/
def seq (arguments : List String) : ToolRun :=
  match arguments.mapM String.toInt? with
  | some [last] => numbers 1 1 last
  | some [first, last] => numbers first 1 last
  | some [first, step, last] => numbers first step last
  | some [] => misuse "seq" "missing operand"
  | some (_ :: _ :: _ :: extra :: _) => misuse "seq" ("extra operand " ++ quoted (toString extra))
  | none => misuse "seq" ("invalid floating point argument: " ++
      quoted ((arguments.find? fun argument => argument.toInt?.isNone).getD ""))
where
  numbers (first step last : Int) : ToolRun :=
    if step = 0 then misuse "seq" "invalid Zero increment value: '0'"
    else
      let count := if (0 < step ∧ last < first) ∨ (step < 0 ∧ first < last) then 0
        else ((last - first) / step).toNat + 1
      .output (Text.Octets.toList ("".intercalate
        ((List.range count).map fun (place : Nat) => toString (first + step * place) ++ "\n")))

/-- Write the same line again and again. -/
def yes (arguments : List String) : ToolRun :=
  let line := if arguments.isEmpty then "y" else " ".intercalate arguments
  { cycle := Text.Octets.toList (line ++ "\n") }

/-- Change the file system path by path, with a report for each path that it fails at. -/
def changePaths (name : String) (system : FileSystem) (paths : List String)
    (change : FileSystem → String → Except String FileSystem) : ToolRun :=
  match paths with
  | [] => misuse name "missing operand"
  | paths =>
    let (system, reports) := paths.foldl (fun (state : FileSystem × List String) path =>
      match change state.1 (Text.Octets.toText path) with
      | .ok system => (system, state.2)
      | .error report => (state.1, state.2 ++ [name ++ ": " ++ report ++ "\n"])) (system, [])
    { writes := reports.map fun report => (.report, Text.Octets.toList report)
      status := if reports.isEmpty then 0 else 1
      system? := some system }

/-- Make files that are missing. -/
def touch (system : FileSystem) (arguments : List String) : ToolRun :=
  changePaths "touch" system arguments fun system path =>
    match system.lookup path with
    | .ok _ => .ok system
    | .error _ =>
      match system.write path true [] with
      | .ok system => .ok system
      | .error error => .error ("cannot touch " ++ quotedName path ++ ": " ++ error.shortMessage)

/-- Make directories, with those on the way to them if it is asked for. -/
def mkdir (system : FileSystem) (arguments : List String) : ToolRun :=
  match Options.read ⟨[('p', false)], [("parents", 'p')]⟩ arguments with
  | .error report => misuse "mkdir" report
  | .ok options =>
    changePaths "mkdir" system options.operands fun system path =>
      let failure (error : FileError) : String :=
        "cannot create directory " ++ quotedName path ++ ": " ++ error.shortMessage
      if options.has 'p' then (system.makeDirectories path).mapError failure
      else
        match system.resolve path with
        | .error error => .error (failure error)
        | .ok place =>
          match system.node? place with
          | some _ => .error (failure .alreadyExists)
          | none => .ok (system.put place .directory)

/-- Take files away. -/
def rm (system : FileSystem) (arguments : List String) : ToolRun :=
  match Options.read ⟨[('f', false), ('r', false), ('R', false)],
      [("force", 'f'), ("recursive", 'r')]⟩ arguments with
  | .error report => misuse "rm" report
  | .ok options =>
    if options.operands.isEmpty ∧ options.has 'f' then .quiet 0 0
    else changePaths "rm" system options.operands fun system path =>
      let failure (error : FileError) : String :=
        "cannot remove " ++ quotedName path ++ ": " ++ error.shortMessage
      match system.resolve path with
      | .error .notFound => if options.has 'f' then .ok system else .error (failure .notFound)
      | .error error => .error (failure error)
      | .ok place =>
        match system.node? place with
        | none => if options.has 'f' then .ok system else .error (failure .notFound)
        | some .directory =>
          if options.has 'r' ∨ options.has 'R' then .ok (system.remove place)
          else .error (failure .isDirectory)
        | some _ => .ok (system.remove place)

/-- Write the input to the output and to files. -/
def tee (system : FileSystem) (arguments : List String) (stdin : Feed) : ToolRun :=
  match Options.read ⟨[('a', false)], [("append", 'a')]⟩ arguments with
  | .error report => misuse "tee" report
  | .ok options =>
    let copied := options.operands.foldl (fun system path =>
      match system.write (Text.Octets.toText path) (options.has 'a') stdin.octets with
      | .ok system => system
      | .error _ => system) system
    { ToolRun.pass stdin with reads := true, system? := some copied }

end Gatehouse.Tool
