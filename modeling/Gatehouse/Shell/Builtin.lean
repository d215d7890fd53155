import Gatehouse.Shell.Fields
import Gatehouse.Shell.Grammar
import Gatehouse.Shell.Session
import Gatehouse.Tool.Catalogue

/-!
# Commands of the session itself

The commands that look at or change the session that runs them, and that need not run
others. A command gives its exit code, or a complaint; a complaint of some commands ends
the session.
-/

namespace Gatehouse.Shell

/-- What a command of the session does: its exit code, or what it complains of. -/
abbrev Builtin := (arguments : List String) → Action (Except String Nat)

namespace Builtin

/-- A number without a sign that goes past no word of 32 bits. -/
def count? (text : String) : Option Nat :=
  let isSpace (character : Char) : Bool :=
    character == ' ' || ('\t' ≤ character && character ≤ '\x0d')
  let digits : List Char := match text.toList.dropWhile isSpace with
    | '+' :: rest => rest
    | rest => rest
  let front := digits.takeWhile Char.isDigit
  let value : Nat :=
    front.foldl (fun value digit => value * 10 + (digit.toNat - '0'.toNat)) 0
  if front.isEmpty ∨ ¬ ((digits.drop front.length).all isSpace) ∨ Nat.pow 2 31 ≤ value then none
  else some value

/-- A number, or the complaint that it is none. -/
def count (text : String) : Except String Nat :=
  match count? text with
  | some number => .ok number
  | none => .error ("Illegal number: " ++ text)

/-- A text in quotes from which it can be read again. -/
def quote (text : String) : String :=
  let inner := "'\"'\"'".intercalate ((text.toList.splitOnP (· == '\'')).map String.ofList)
  "'" ++ inner ++ "'"

/-- The letters in front of arguments that are options, of those that there are, and the arguments
behind them. -/
def letters (known : List Char) : List String → Except String (List Char × List String)
  | [] => .ok ([], [])
  | argument :: rest =>
    match argument.toList with
    | ['-', '-'] => .ok ([], rest)
    | '-' :: first :: more =>
      match (first :: more).find? (· ∉ known) with
      | some letter => .error ("Illegal option -" ++ String.singleton letter)
      | none => do
        let (found, rest) ← letters known rest
        return (first :: more ++ found, rest)
    | _ => .ok ([], argument :: rest)

/-- Leave the session. -/
def exit : Builtin := fun arguments => do
  let session ← get
  match arguments with
  | [] => do
    let status := session.trapStatus.getD session.status
    set { session with status, control := .exiting }
    return .ok status
  | argument :: _ =>
    match count argument with
    | .error complaint => return .error complaint
    | .ok status => do
      set { session with status, control := .exiting }
      return .ok status

/-- Leave a function or a script. -/
def leave : Builtin := fun arguments => do
  let session ← get
  match arguments with
  | [] => do
    let status := session.trapStatus.getD session.status
    set { session with control := .returning }
    return .ok status
  | argument :: _ =>
    match count argument with
    | .error complaint => return .error complaint
    | .ok status => do
      set { session with control := .returning }
      return .ok status

/-- Leave loops, or begin their next turns. -/
def leaveLoops (continues : Bool) : Builtin := fun arguments => do
  let session ← get
  match count (arguments.headD "1") with
  | .error complaint => return .error complaint
  | .ok 0 => return .error ("Illegal number: " ++ arguments.headD "")
  | .ok levels => do
    let levels := min levels session.loops
    if levels = 0 then return .ok 0
    else do
      set { session with control := if continues then .continuing levels else .breaking levels }
      return .ok 0

/-- Drop arguments. -/
def shift : Builtin := fun arguments => do
  let session ← get
  match count (arguments.headD "1") with
  | .error complaint => return .error complaint
  | .ok number =>
    if session.arguments.length < number then return .error "can't shift that many"
    else do
      set { session with arguments := session.arguments.drop number }
      return .ok 0

/-- The options of a session, by letter and name. -/
def options : List (Char × String) := [
  ('e', "errexit"), ('f', "noglob"), ('I', "ignoreeof"), ('i', "interactive"), ('m', "monitor"),
  ('n', "noexec"), ('s', "stdin"), ('x', "xtrace"), ('v', "verbose"), ('V', "vi"), ('E', "emacs"),
  ('C', "noclobber"), ('a', "allexport"), ('b', "notify"), ('u', "nounset")]

/-- Turn options on or off; they stand in the order of their table. -/
def turn (on : Bool) (letter : Char) (given : List Char) : List Char :=
  (options.map (·.1)).filter fun other =>
    if other = letter then on else given.contains other

/-- Turn the options of letters on or off. One of them takes the name of an option from the
arguments behind. -/
def turnAll (on : Bool) (given : List Char) (rest : List String) (letters : List Char) :
    Except String (List Char × List String) :=
  letters.foldlM (fun (state : List Char × List String) letter =>
    let illegal (what : String) : Except String (List Char × List String) :=
      .error ("Illegal option " ++ (if on then "-" else "+") ++ what)
    if letter = 'o' then
      match state.2 with
      | [] => .ok state
      | name :: rest =>
        match options.find? (·.2 == name) with
        | some (letter, _) => .ok (turn on letter state.1, rest)
        | none => illegal ("o " ++ name)
    else if options.any (·.1 == letter) then .ok (turn on letter state.1, state.2)
    else illegal (String.singleton letter)) (given, rest)

/-- The options in front of arguments, and the arguments behind them, if they are set at all. -/
def readOptions (given : List Char) : Nat → List String →
    Except String (List Char × Option (List String))
  | 0, _ => .ok (given, none)
  | _ + 1, [] => .ok (given, none)
  | fuel + 1, argument :: rest =>
    match argument.toList with
    | ['-', '-'] => .ok (given, some rest)
    | ['-'] => .ok (turn false 'x' given, if rest.isEmpty then none else some rest)
    | '-' :: letters => do
      let (given, rest) ← turnAll true given rest letters
      readOptions given fuel rest
    | '+' :: letters => do
      let (given, rest) ← turnAll false given rest letters
      readOptions given fuel rest
    | _ => .ok (given, some (argument :: rest))

/-- Bindings in order, as they can be read again. -/
def listing (front : String) (bindings : List (String × Variable)) : String :=
  "".intercalate ((bindings.mergeSort fun first second => first.1 ≤ second.1).map
    fun (name, held) => front ++ name ++ (match held.value? with
      | some value => "=" ++ quote value
      | none => "") ++ "\n")

/-- Change options and arguments. -/
def change : Builtin := fun arguments => do
  let session ← get
  if arguments.isEmpty then do
    set (session.say 1 (listing "" (session.bindings.filter (·.2.value?.isSome))))
    return .ok 0
  else if arguments = ["-o"] then do
    let lines := options.map fun (letter, name) =>
      name ++ String.ofList (List.replicate (16 - name.length) ' ') ++
        (if session.options.contains letter then "on" else "off") ++ "\n"
    set (session.say 1 ("Current option settings\n" ++ "".intercalate lines))
    return .ok 0
  else
    match readOptions session.options (arguments.length + 1) arguments with
    | .error complaint => return .error complaint
    | .ok (options, arguments?) => do
      set { session with options, arguments := arguments?.getD session.arguments }
      return .ok 0

/-- What is wrong with names of variables that are to be changed, if anything is. -/
def refusal? (session : Session) (names : List String) : Option String :=
  let isFixed (name : String) : Bool := ((session.binding? name).map (·.isReadOnly)).getD false
  match names.find? fun name => !isName name with
  | some wrong => some (wrong ++ ": bad variable name")
  | none => (names.find? isFixed).map (· ++ ": is read only")

/-- Take variables or functions away. -/
def unset : Builtin := fun arguments => do
  match letters ['v', 'f'] arguments with
  | .error complaint => return .error complaint
  | .ok (letters, names) =>
    let session ← get
    if letters.getLast? = some 'f' then do
      set { session with functions := session.functions.filter fun (name, _) => name ∉ names }
      return .ok 0
    else
      match refusal? session names with
      | some complaint => return .error complaint
      | none => do
        set { session with bindings := session.bindings.filter fun (name, _) => name ∉ names }
        return .ok 0

/-- A name with the value behind a sign, if there is one. -/
def nameAndValue (argument : String) : String × Option String :=
  let name := argument.toList.takeWhile (· ≠ '=')
  (String.ofList name, match argument.toList.drop name.length with
    | _ :: value => some (String.ofList value)
    | [] => none)

/-- Change what is known of variables beside their values, and their values where some are given. -/
def declare (mark : Variable → Variable) (arguments : List String) :
    Action (Except String Nat) := do
  match arguments with
  | [] => return .ok 0
  | argument :: rest =>
    let (name, value?) := nameAndValue argument
    let session ← get
    let old := (session.binding? name).getD ⟨none, false, false⟩
    if ¬ isName name then return .error (name ++ ": bad variable name")
    else if old.isReadOnly ∧ value?.isSome then return .error (name ++ ": is read only")
    else do
      set (session.putVariable name (some (mark { old with value? := value?.or old.value? })))
      declare mark rest

/-- Pass variables on to programs, or list those that are. -/
def declared (front : String) (isDeclared : Variable → Bool) (mark : Variable → Variable) :
    Builtin := fun arguments => do
  match letters ['p'] arguments with
  | .error complaint => return .error complaint
  | .ok (_, []) => do
    modify fun session =>
      session.say 1 (listing front (session.bindings.filter fun (_, held) => isDeclared held))
    return .ok 0
  | .ok (_, names) => declare mark names

/-- Keep variables for a function. -/
def keep : Builtin := fun arguments => do
  match arguments with
  | [] => return if (← get).frames.isEmpty then .error "not in a function" else .ok 0
  | argument :: rest =>
    let (name, value?) := nameAndValue argument
    let session ← get
    match session.frames with
    | [] => return .error "not in a function"
    | frame :: frames =>
      let old := if argument = "-" then
          some ⟨some (String.ofList session.options), false, false⟩
        else session.binding? name
      let isKept : Bool := frame.any (·.1 == name)
      let kept := { session with
        frames := (if isKept then frame else (name, old) :: frame) :: frames }
      if argument = "-" then do
        set kept
        keep rest
      else if ¬ isName name then return .error (name ++ ": bad variable name")
      else if ((old.map (·.isReadOnly)).getD false) ∧ value?.isSome then
        return .error (name ++ ": is read only")
      else do
        let held := old.getD ⟨none, false, false⟩
        set (kept.putVariable name (some { held with value? := value?.or held.value? }))
        keep rest

/-- A line of a stream up to its end: characters with whether a backslash stood in front, what is
left, and whether the line has an end. -/
def readLine (raw : Bool) (done : List PatternChar) : List UInt8 →
    List PatternChar × List UInt8 × Bool
  | [] => (done.reverse, [], false)
  | 0x0A :: rest => (done.reverse, rest, true)
  | 0x5C :: next :: rest =>
    if raw then readLine raw (('\\', false) :: done) (next :: rest)
    else if next = 0x0A then readLine raw done rest
    else readLine raw ((Char.ofNat next.toNat, true) :: done) rest
  | 0x00 :: rest => readLine raw done rest
  | first :: rest =>
    if first = 0x5C ∧ ¬ raw then (done.reverse, [], false)
    else readLine raw ((Char.ofNat first.toNat, false) :: done) rest

/-- Read a line into variables. -/
def read : Builtin := fun arguments => do
  let rec named (raw : Bool) : List String → Except String (Bool × List String)
    | "-r" :: rest => named true rest
    | "-p" :: _ :: rest => named raw rest
    | "--" :: rest => .ok (raw, rest)
    | argument :: rest =>
      match argument.toList with
      | ['-', 'p'] => .error "No arg for -p option"
      | '-' :: letter :: _ => .error ("Illegal option -" ++ String.singleton letter)
      | _ => .ok (raw, argument :: rest)
    | [] => .ok (raw, [])
  match named false arguments with
  | .error complaint => return .error complaint
  | .ok (_, []) => return .error "arg count"
  | .ok (raw, names) =>
    let session ← get
    let endpoint? := session.endpoint? 0
    let feed := session.feed endpoint?
    let (line, rest, isWhole) := readLine raw []
      (if feed.octets.contains 0x0A then feed.octets else feed.octets ++ feed.cycle)
    let session := if isWhole then session else session.wait feed.closes
    let session := session.setFeed endpoint? { feed with octets := rest }
    let atoms := line.map fun (character, quoted) => Atom.char character quoted (!quoted)
    let values := (splitFields session.separators (some names.length) atoms).map fun field =>
      String.ofList (field.map (·.1))
    match refusal? session names with
    | some complaint => do
      set session
      return .error complaint
    | none => do
      let pairs := names.zip (values ++ List.replicate (names.length - values.length) "")
      set (pairs.foldl (fun (session : Session) (name, value) =>
        session.assign name value false) session)
      return .ok (if isWhole then 0 else 1)

/-- The directory of relative paths. -/
def directory (session : Session) : String :=
  Text.Octets.ofText ("/" ++ "/".intercalate session.system.here)

/-- Go to a directory. -/
def goTo : Builtin := fun arguments => do
  let session ← get
  let arguments := if arguments.head? = some "--" then arguments.tail else arguments
  let (target, shows) := match arguments with
    | [] => ((session.value? "HOME").getD "", false)
    | "-" :: _ => ((session.value? "OLDPWD").getD "", true)
    | target :: _ => (target, false)
  if target.isEmpty then return .ok 0
  else
    let refuse : Except String Nat := .error ("can't cd to " ++ target)
    match session.system.resolve (Text.Octets.toText target) with
    | .error _ => return refuse
    | .ok place =>
      match session.system.node? place with
      | some .directory => do
        let moved := { session with system := { session.system with here := place } }
        let moved := moved.assign "OLDPWD" (directory session) true
        let moved := moved.assign "PWD" (directory moved) true
        set (if shows then moved.say 1 (directory moved ++ "\n") else moved)
        return .ok 0
      | _ => return refuse

/-- Tell the directory of relative paths. -/
def tellDirectory : Builtin := fun _ => do
  modify fun session => session.say 1 (directory session ++ "\n")
  return .ok 0

/-- The number of a condition that an action can be given for: a signal, or zero for the end. -/
def condition? (text : String) : Option Nat :=
  if text = "EXIT" then some 0
  else match text.toNat? with
    | some number => if number ≤ Signal.limit then some number else none
    | none => (Signal.ofName? text).map (·.number)

/-- The name of a condition. -/
def conditionName (number : Nat) : String :=
  if number = 0 then "EXIT" else (Signal.mk number).name

/-- Set actions for signals, or list them. -/
def trap : Builtin := fun arguments => do
  let arguments := if arguments.head? = some "--" then arguments.tail else arguments
  let session ← get
  match arguments with
  | [] => do
    let sorted := session.traps.mergeSort fun first second => first.1 ≤ second.1
    set (session.say 1 ("".intercalate (sorted.map fun (number, action) =>
      "trap -- " ++ quote action ++ " " ++ conditionName number ++ "\n")))
    return .ok 0
  | first :: rest =>
    let (action?, conditions) :=
      if rest.isEmpty ∨ (count? first).isSome then (none, arguments)
      else (if first = "-" then none else some first, rest)
    let rec place : List String → Action (Except String Nat)
      | [] => return .ok 0
      | condition :: rest =>
        match condition? condition with
        | none => do
          modify fun session => session.say 2 ("trap: " ++ condition ++ ": bad trap\n")
          return .ok 1
        | some number => do
          modify fun session =>
            let others := session.traps.filter (·.1 != number)
            { session with traps := match action? with
              | some action => (number, action) :: others
              | none => others }
          place rest
    place conditions

/-- A job by its place or its process. -/
def job? (session : Session) (text : String) : Except String (Option Job) :=
  match text.toList with
  | '%' :: rest =>
    let found := match rest with
      | [] | ['%'] | ['+'] => session.jobs.getLast?
      | digits => ((String.ofList digits).toNat?).bind fun number =>
        if number = 0 then none else session.jobs[number - 1]?
    match found with
    | some job => .ok (some job)
    | none => .error ("No such job: " ++ text)
  | _ => do
    let number ← count text
    return session.jobs.find? (·.process == number)

/-- Put a job in place of the one of its process. -/
def putJob (session : Session) (job : Job) : Session :=
  { session with
    jobs := session.jobs.map fun other => if other.process = job.process then job else other }

/-- The signal with an action that comes first up to a time. -/
def interruption? (session : Session) (time : Nat) : Option Delivery :=
  session.deliveries.reverse.find? fun delivery =>
    delivery.process == session.process && delivery.time ≤ time &&
      !((session.trap? delivery.signal.number).getD "").isEmpty

/-- Wait up to a time, or up to a signal with an action. Whether the time was reached. -/
def waitUp (time : Nat) : Action (Option Delivery) := do
  let session ← get
  match interruption? session time with
  | some delivery => do
    set (session.wait delivery.time)
    return some delivery
  | none => do
    set (session.wait time)
    return none

/-- Wait for processes in the background. -/
def wait : Builtin := fun arguments => do
  match arguments with
  | [] => do
    let session ← get
    match ← waitUp (session.jobs.foldl (fun time job => max time job.ends) 0) with
    | some delivery => return .ok (128 + delivery.signal.number)
    | none => do
      modify fun session => { session with
        jobs := []
        living := session.living.filter fun number =>
          !session.jobs.any fun job => job.process == number }
      return .ok 0
  | arguments => one 0 arguments
where
  one (status : Nat) : List String → Action (Except String Nat)
    | [] => return .ok status
    | argument :: rest => do
      let session ← get
      match job? session argument with
      | .error complaint => return .error complaint
      | .ok none => one 127 rest
      | .ok (some job) => do
        match ← waitUp job.ends with
        | some delivery => return .ok (128 + delivery.signal.number)
        | none => do
          modify fun session =>
            let session := { session with living := session.living.erase job.process }
            let noted := putJob session { job with isReaped := true }
            match job.isReaped, job.ending with
            | false, .killed signal =>
              match signal.obituary? with
              | some report => noted.say 2 (report ++ "\n")
              | none => noted
            | _, _ => noted
          one job.ending.status rest

/-- What a signal does to a process in the background, which has been run to its end: what it wrote
later is taken back, and what it held open is let go. -/
def strike (session : Session) (job : Job) (signal : Signal) (now : Nat) : Session :=
  if job.ends ≤ now ∨ signal.number ∈ job.ignored then session
  else match signal.effect with
    | .nothing => session
    | .stops => putJob session { job with ends := ToolRun.endless }
    | .ends =>
      let struck := putJob session { job with ends := now, ending := .killed signal }
      { struck with
        written := struck.written.filter fun written =>
          written.process != job.process || written.time ≤ now
        holds := struck.holds.filterMap fun hold =>
          if hold.process ≠ job.process then some hold
          else if hold.isOwn then some { hold with ends := min hold.ends now }
          else if hold.since ≤ now then some hold else none }

/-- How signals are sent. -/
def killUsage : String :=
  "Usage: kill [-s sigspec | -signum | -sigspec] [pid | job]... or\nkill -l [exitstatus]"

/-- The number of the first process. -/
def firstProcess : Nat := 4711

/-- Send a signal to processes. -/
def send (signal : Signal) (status : Nat) : List String → Action (Except String Nat)
  | [] => return .ok status
  | target :: rest => do
    let session ← get
    let noProcess : Action (Except String Nat) := do
      modify fun session => session.complain "No such process\n"
      send signal 1 rest
    let negative := target.startsWith "-"
    let text := if negative then String.ofList (target.toList.drop 1) else target
    match job? session text with
    | .error complaint => return .error complaint
    | .ok job? =>
      let number := (job?.map (·.process)).getD ((count? text).getD 0)
      if negative ∨ target.startsWith "%" ∨ number ∉ session.living then noProcess
      else do
        set { session with
          deliveries := ⟨number, signal, session.clock⟩ :: session.deliveries }
        send signal status rest

/-- Send a signal, or tell the names of signals. -/
def kill : Builtin := fun arguments => do
  let named (text : String) (complaint : String) (targets : List String) :
      Action (Except String Nat) := do
    match Signal.ofName? text with
    | none => return .error complaint
    | some signal => if targets.isEmpty then return .error killUsage else send signal 0 targets
  match arguments with
  | [] => return .error killUsage
  | ["-l"] => do
    modify fun session =>
      session.say 1 ("".intercalate (("0" :: Signal.names).map (· ++ "\n")))
    return .ok 0
  | "-l" :: number :: _ =>
    match count number with
    | .error complaint => return .error complaint
    | .ok number => do
      let name := conditionName (if 128 < number then number - 128 else number)
      modify fun session => session.say 1 (name ++ "\n")
      return .ok 0
  | ["-s"] => return .error "No arg for -s option"
  | "-s" :: name :: targets => named name ("invalid signal number or name: " ++ name) targets
  | first :: targets =>
    match first.toList with
    | ['-', '-'] => named "TERM" "" targets
    | '-' :: letter :: rest =>
      named (String.ofList (letter :: rest)) ("Illegal option -" ++ String.singleton letter) targets
    | _ => named "TERM" "" arguments

/-- What a mask leaves to a class of users, in letters. -/
def allowed (mask place : Nat) : String :=
  let isFree (bit : Nat) : Bool := mask / Nat.pow 8 place / bit % 2 == 0
  String.ofList (([(4, 'r'), (2, 'w'), (1, 'x')].filter fun (bit, _) => isFree bit).map (·.2))

/-- Tell what new files are not allowed, or change it. -/
def umask : Builtin := fun arguments => do
  let session ← get
  match arguments with
  | [] => do
    let digits := (Nat.toDigits 8 session.mask)
    set (session.say 1
      (String.ofList (List.replicate (4 - digits.length) '0' ++ digits) ++ "\n"))
    return .ok 0
  | "-S" :: _ => do
    let left := allowed session.mask
    set (session.say 1 ("u=" ++ left 2 ++ ",g=" ++ left 1 ++ ",o=" ++ left 0 ++ "\n"))
    return .ok 0
  | argument :: _ =>
    if argument.toList.all fun digit => '0' ≤ digit && digit ≤ '7' then do
      let value := argument.toList.foldl (fun value digit =>
        value * 8 + (digit.toNat - '0'.toNat)) 0
      set { session with mask := value % 512 }
      return .ok 0
    else return .error ("Illegal mode: " ++ argument)

/-- A tool that is part of the session. It fails where it has nowhere to write to. -/
def tool (name : String) (run : FileSystem → List String → ToolRun) : Builtin := fun arguments => do
  let session ← get
  let done := run session.system arguments
  let complained := done.writes.foldl (fun (session : Session) (channel, octets) =>
    match channel with
    | .output => session.write 1 octets
    | .report => session.write 2 octets
    | .complaint => session.complain (Text.Octets.ofList octets)) session
  let fails : Bool := (session.endpoint? 1).isNone &&
    done.writes.any fun (channel, octets) => channel == .output && !octets.isEmpty
  set (if fails then complained.complain (name ++ ": I/O error") else complained)
  return .ok (if fails then 1 else done.status)

end Builtin

/-- The commands of a session that need not run others. -/
def builtin? (name : String) : Option Builtin :=
  match name with
  | ":" | "true" => some fun _ => return .ok 0
  | "false" => some fun _ => return .ok 1
  | "echo" => some (Builtin.tool name fun _ => Tool.scriptEcho)
  | "printf" => some (Builtin.tool name fun _ => Tool.printf)
  | "test" => some (Builtin.tool name Tool.test)
  | "[" => some (Builtin.tool name Tool.bracket)
  | "exit" => some Builtin.exit
  | "return" => some Builtin.leave
  | "break" => some (Builtin.leaveLoops false)
  | "continue" => some (Builtin.leaveLoops true)
  | "shift" => some Builtin.shift
  | "set" => some Builtin.change
  | "unset" => some Builtin.unset
  | "export" => some (Builtin.declared "export " (·.isExported) ({ · with isExported := true }))
  | "readonly" => some (Builtin.declared "readonly " (·.isReadOnly) ({ · with isReadOnly := true }))
  | "local" => some Builtin.keep
  | "read" => some Builtin.read
  | "cd" | "chdir" => some Builtin.goTo
  | "pwd" => some Builtin.tellDirectory
  | "trap" => some Builtin.trap
  | "wait" => some Builtin.wait
  | "kill" => some Builtin.kill
  | "umask" => some Builtin.umask
  | _ => none

/-- The commands of a session that run others. -/
def runningNames : List String := [".", "command", "eval", "exec", "type"]

/-- Whether a name is that of a command of the session. -/
def isBuiltin (name : String) : Bool := name ∈ runningNames || (builtin? name).isSome

/-- Whether the complaint of a command ends the session. -/
def endsOnComplaint (name : String) : Bool := name ∈ specialNames || name == "local"

end Gatehouse.Shell
