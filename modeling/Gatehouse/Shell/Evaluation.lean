import Gatehouse.Shell.Process

/-!
# Carrying out commands

What each form of command does to a session. One step carries out a command whose parts
are carried out by a runner of a smaller depth; `Runner.ofDepth` closes the circle.
-/

namespace Gatehouse.Shell

namespace Runner

/-- How much effort is taken before a process is taken to go on for ever. -/
def patience : Nat := 1000000

/-- How deep commands are carried out within commands. -/
def depth : Nat := 4000

/-- How deep functions may call functions. -/
def callLimit : Nat := 1000

/-- The effort of a command over its fields: they are made again each time, and a loop may let
them grow. -/
def effort (fields : List String) : Nat :=
  1 + (fields.foldl (fun size field => size + field.utf8ByteSize) 0) / 8

/-- Take an effort. -/
def spend (effort : Nat) : Action Unit := modify (·.spend effort)

/-- Carry out something with flags of its own. -/
def under (tested isLast : Bool) (body : Action Unit) : Action Unit := do
  let session ← get
  set { session with tested, isLast }
  body
  modify fun done => { done with tested := session.tested, isLast := session.isLast }

/-- Carry out something with the descriptors led elsewhere, which are led back behind it. -/
def restoring (body : Action Unit) : Action Unit := do
  let session ← get
  body
  modify fun done => { done with descriptors := session.descriptors }

/-- What a command within a word writes. -/
def substitute (run : Runner) : Substitution := fun script line => do
  let session ← get
  let (channel, session) := session.withFresh
  set session
  let reader : Reader := .start script line session.nextDocument
  match reader.whole with
  | .error fault => do
    set ({ session with line := fault.line }.giveUp ("Syntax error: " ++ fault.cause.message))
    return ""
  | .ok (tree, reader) => do
    let prepare (child : Session) : Session :=
      { child.setEndpoint 1 (some (.channel channel)) with
        documents := reader.documents ++ child.documents
        nextDocument := reader.nextDocument
        tested := false }
    let ending ← inChild run prepare (run tree)
    let session ← get
    let (feed, session) := session.drain channel session.clock
    let session := (session.wait feed.closes).mourn ending
    let session := { session with outputStatus := ending.status }
    set (if feed.cycle.isEmpty then session else session.stop)
    let kept := feed.octets.filter (· ≠ 0)
    return Text.Octets.ofList (kept.reverse.dropWhile (· == 0x0A)).reverse

/-- Carry out all stages of a pipeline beside each other, each over what the one in front of it
writes. The end is that of the last one. -/
def stages (run : Runner) (start latest : Nat) (input? : Option Endpoint) :
    List Tree → Action Unit
  | [] => return
  | [last] => do
    let ending ← inChild run (·.setEndpoint 0 input?) (run last)
    modify fun session =>
      let session := session.note ending
      if session.isRunning then session.wait latest else session
  | stage :: rest => do
    let session ← get
    let (channel, session) := session.withFresh
    let patience := session.patience
    set { session with patience := patience / 2 }
    let prepare (child : Session) : Session :=
      (child.setEndpoint 0 input?).setEndpoint 1 (some (.channel channel))
    let _ ← inChild run prepare (run stage)
    let done ← get
    let isWeary : Bool := done.patience == 0 && done.written.any (·.channel == channel)
    let (feed, drained) := done.drain channel done.clock
    let feed := if isWeary then { feed with closes := ToolRun.endless } else feed
    let (endpoint, next) := drained.withStream feed
    set { next with
      clock := start
      control := session.control
      patience := patience - (patience / 2 - done.patience) }
    stages run start (if isWeary then latest else max latest done.clock) (some endpoint) rest

/-- Start a command in the background. Its input is empty; what it holds open is held until it
ends. -/
def background (run : Runner) (body : Tree) : Action Unit := do
  let session ← get
  let (endpoint, started) := session.withStream .empty
  let given := started.patience
  let child := { started.child.setEndpoint 0 (some endpoint) with
    patience := given / 2
    clock := session.clock + forkTime
    tested := false }
  let (_, done) := (do
    match body with
    | .redirected line inner redirections => do
      modify fun session => { session with line := line }
      if ← redirect (substitute run) redirections then run inner
      else modify fun session => { session with status := 2 }
    | body => run body
    finish run : Action Unit).run child
  let held := done.hold true session.clock done.clock
  let after := started.after held
  let job : Job := {
    process := child.process
    ends := done.clock
    ending := done.ending
    ignored := [2, 3] ++ (done.traps.filter (·.2.isEmpty)).map (·.1)
    isReaped := false }
  let going : Session := { after with
    clock := session.clock
    patience := given - (given / 2 - done.patience)
    jobs := session.jobs ++ [job]
    lastJob := some job.process
    status := 0 }
  set (going.wait (session.clock + spawnTime))

/-- Call a function. -/
def call (run : Runner) (line : Nat) (body : Tree) (arguments : List String) : Action Unit := do
  let session ← get
  if callLimit ≤ session.frames.length then
    set (session.giveUp ("Maximum function recursion depth (" ++ toString callLimit ++ ") reached"))
  else do
    set { session with
      arguments, functionLine := line, frames := [] :: session.frames, loops := 0, isLast := false }
    run body
    let done : Session ← get
    let kept := done.frames.headD []
    let restored := kept.foldl (fun (session : Session) (name, old) =>
      if name = "-" then
        { session with options := ((old.bind (·.value?)).getD "").toList }
      else session.putVariable name old) done
    set { restored with
      arguments := session.arguments
      functionLine := session.functionLine
      frames := session.frames
      loops := session.loops
      isLast := session.isLast
      control := if done.control == Control.returning then .goOn else done.control }

/-- The bindings that a new session starts from. -/
def bindingsOf (session : Session) (environment : List (String × String)) :
    List (String × Variable) :=
  let given := (environment.filter fun (name, _) => isName name).map fun (name, value) =>
    (name, Variable.mk (some value) true false)
  let own (name value : String) : String × Variable := (name, ⟨some value, false, false⟩)
  let defaults := [
    own "IFS" " \t\n", own "OPTIND" "1", own "PS1" "# ", own "PS2" "> ", own "PS4" "+ ",
    own "PPID" (toString session.process)]
  let path := own "PATH" "/usr/local/sbin:/usr/local/bin:/usr/sbin:/usr/bin:/sbin:/bin"
  let others := given.filter fun (name, _) => name ≠ "PWD" && !defaults.any (·.1 == name)
  ("PWD", ⟨some (Builtin.directory session), true, false⟩) :: others.reverse ++ defaults ++
    (if others.any (·.1 == "PATH") then [] else [path])

/-- What a new session is asked to do: options, whether its script is an argument, and the other
arguments. -/
structure Invocation where
  options : List Char
  isGiven : Bool
  arguments : List String

/-- Tell options of a new session from other arguments; the fuel bounds their number. -/
def invocation (found : Invocation) : Nat → Except String Invocation
  | 0 => .ok found
  | fuel + 1 =>
    match found.arguments with
    | [] => .ok found
    | argument :: rest =>
      let turned (on : Bool) (letters : List Char) : Except String Invocation := do
        let (options, rest) ←
          Builtin.turnAll on found.options rest (letters.filter (· ∉ ['c', 'l']))
        invocation ⟨options, found.isGiven || (on && letters.contains 'c'), rest⟩ fuel
      match argument.toList with
      | ['-'] | ['-', '-'] => .ok { found with arguments := rest }
      | '-' :: letters => turned true letters
      | '+' :: letters => turned false letters
      | _ => .ok found

/-- Carry out what a new session is asked to. -/
def begin (run : Runner) (arguments : List String) : Action Unit := do
  let session ← get
  match invocation ⟨[], false, arguments⟩ (arguments.length + 1) with
  | .error complaint => set (session.giveUp complaint)
  | .ok found =>
    let session := { session with options := found.options }
    match found.isGiven, found.arguments with
    | true, [] => set (session.giveUp "-c requires an argument")
    | true, script :: rest => do
      set { session with name := rest.headD session.name, arguments := rest.tail }
      text run script
    | false, rest =>
      match (if found.options.contains 's' then none else rest.head?) with
      | none => do
        let endpoint? := session.endpoint? 0
        let feed := session.feed endpoint?
        let session := (session.setFeed endpoint? .empty).wait feed.closes
        set { session with
          arguments := rest
          options := Builtin.turn true 's' session.options }
        if session.isRunning then text run (Text.Octets.ofList feed.octets)
      | some path =>
        match session.system.read (Text.Octets.toText path) with
        | .error _ => set (session.giveUp ("cannot open " ++ path ++ ": No such file"))
        | .ok octets => do
          set { session with name := path, arguments := rest.tail }
          text run (Text.Octets.ofList octets)

/-- Run a new session that is called by a name, in a process of its own. -/
def interpret (run : Runner) (called : String) (environment : List (String × String))
    (arguments : List String) : Action Ending := do
  let prepare (child : Session) : Session :=
    { child with
      identity := child.process
      name := called
      arguments := []
      bindings := bindingsOf child environment
      functions := []
      options := []
      status := 0
      lastJob := none
      line := 0
      functionLine := 0
      frames := []
      command := none
      tested := false
      isLast := false }
  inChild run prepare (begin run arguments)

/-- The variables that the arguments of a tool change, and the command behind them. -/
def changedEnvironment (environment : List (String × String)) : Nat → List String →
    List (String × String) × List String
  | 0, arguments => (environment, arguments)
  | _ + 1, [] => (environment, [])
  | fuel + 1, argument :: rest =>
    if argument = "-i" ∨ argument = "-" ∨ argument = "--ignore-environment" then
      changedEnvironment [] fuel rest
    else if argument = "--" then changedEnvironment environment fuel rest
    else if argument = "-u" then
      changedEnvironment (environment.filter fun (name, _) => some name ≠ rest.head?) fuel rest.tail
    else if argument.toList.contains '=' then
      let (name, value?) := Builtin.nameAndValue argument
      changedEnvironment
        (environment.filter (·.1 != name) ++ [(name, value?.getD "")]) fuel rest
    else (environment, argument :: rest)

/-- Run a program in an environment. The fuel bounds the programs that run others. -/
def program (run : Runner) (environment : List (String × String)) (arguments : List String) :
    Nat → Program → Action Ending
  | 0, _ => return .exited 126
  | _ + 1, .plain path => interpret run path environment (path :: arguments)
  | fuel + 1, .tool name called leading =>
    let all := leading ++ arguments
    match name with
    | "sh" | "bash" | "dash" => interpret run called environment all
    | "env" => do
      let (environment, command) := changedEnvironment environment (all.length + 1) all
      match command with
      | [] => do
        let lines := environment.map fun (name, value) => name ++ "=" ++ value ++ "\n"
        modify fun session => session.say 1 ("".intercalate lines)
        return .exited 0
      | name :: arguments => do
        let session ← get
        let path := ((environment.find? (·.1 == "PATH")).map (·.2)).getD "/bin:/usr/bin"
        match Program.find session.system (Program.directoriesOf path) name with
        | .ok found => program run environment arguments fuel found
        | .error error => do
          set (session.say 2 (called ++ ": " ++ Tool.quoted name ++ ": " ++
            error.shortMessage ++ "\n"))
          return .exited (if error = .notFound ∨ error = .notDirectory then 127 else 126)
    | _ => runTool name called all

/-- The program that a session means by a name, or its exit code and the words for why there is
none. -/
def programOf (session : Session) (name : String) : Except (Nat × String) Program :=
  let directories := Program.directoriesOf ((session.value? "PATH").getD "")
  match Program.find session.system directories name with
  | .ok found => .ok found
  | .error error =>
    if name.isEmpty then .error (127, ": Permission denied")
    else if error = .notFound ∨ error = .notDirectory then .error (127, name ++ ": not found")
    else .error (126, name ++ ": " ++ error.shortMessage)

/-- Run a program by its name. -/
def external (run : Runner) (name : String) (arguments : List String) : Action Unit := do
  let session ← get
  match programOf session name with
  | .error (status, complaint) => set { session.complain complaint with status }
  | .ok found => do
    let isReplaced := session.isLast && session.traps.all (·.2.isEmpty)
    let ending ← program run session.environment arguments 8 found
    let done ← get
    match done.control, isReplaced, ending with
    | .goOn, true, .killed signal => set { done with control := .killed signal }
    | .goOn, true, .exited status => set { done with status, control := .exiting }
    | .goOn, false, ending => set (done.note ending)
    | _, _, _ => return

/-- Run a program in the place of the session. -/
def replace (run : Runner) (name : String) (arguments : List String) : Action Unit := do
  let session ← get
  match programOf session name with
  | .error (status, complaint) =>
    set { session.complain complaint with status, control := .exiting }
  | .ok found => do
    let ending ← program run session.environment arguments 8 found
    modify fun done =>
      if ¬ done.isRunning then done
      else match ending with
        | .killed signal => { done with control := .killed signal, traps := [] }
        | .exited status => { done with status, control := .exiting, traps := [] }

/-- What a name stands for as a command, in words or by a name. -/
def meaning? (session : Session) (name : String) (inWords : Bool) : Option String :=
  let words (what : String) : Option String :=
    some (if inWords then name ++ " is " ++ what else name)
  if name ∈ Token.keywords then words "a shell keyword"
  else if session.functions.any (·.1 == name) then words "a shell function"
  else if isBuiltin name then
    words (if name ∈ specialNames then "a special shell builtin" else "a shell builtin")
  else
    let paths := if name.toList.contains '/' then [name]
      else (Program.directoriesOf ((session.value? "PATH").getD "")).map (· ++ "/" ++ name)
    let found := paths.find? fun path =>
      match session.system.lookup (Text.Octets.toText path) with
      | .ok (.tool _) => true
      | .ok (.file content) => FileSystem.isExecutable content.mode
      | _ => false
    found.map fun path => if inWords then name ++ " is " ++ path else path

/-- Tell what names stand for. -/
def tellMeanings (names : List String) : Action Unit := do
  modify fun session =>
    let told := names.map fun name => (name, meaning? session name true)
    let session := told.foldl (fun (session : Session) (name, words?) =>
      session.say 1 (words?.getD (name ++ ": not found") ++ "\n")) session
    { session with status := if told.any (·.2.isNone) then 127 else 0 }

/-- Carry out a script in a file of its own. -/
def source (run : Runner) (name : String) : Action Unit := do
  let session ← get
  let fail (complaint : String) : Action Unit := set (session.giveUp complaint)
  let path? := if name.toList.contains '/' then some name
    else ((Program.directoriesOf ((session.value? "PATH").getD "")).map fun directory =>
      if directory.isEmpty then name else directory ++ "/" ++ name).find? fun path =>
        match session.system.lookup (Text.Octets.toText path) with
        | .ok (.file _) => true
        | _ => false
  match path? with
  | none => fail (name ++ ": not found")
  | some path =>
    match session.system.read (Text.Octets.toText path) with
    | .error error => fail ("cannot open " ++ path ++ ": " ++
        (if error = .notFound ∨ error = .notDirectory then "No such file" else error.shortMessage))
    | .ok octets => do
      set { session with command := some path }
      text run (Text.Octets.ofList octets)
      modify fun done =>
        { done with control := if done.control == Control.returning then .goOn else done.control }

/-- Carry out a command by its fields. Functions may be passed over, and complaints end the
session where the command is special. -/
def dispatch (run : Runner) : Nat → (plain : Bool) → List String → Action Unit
  | 0, _, _ | _, _, [] => return
  | fuel + 1, plain, name :: arguments => do
    let session ← get
    let inName (body : Action Unit) : Action Unit := do
      set { session with command := some name }
      body
      modify fun done => { done with command := session.command }
    let complained (complaint : String) : Action Unit :=
      modify fun done =>
        let done := { done.complain complaint with status := 2 }
        if ¬ plain ∧ endsOnComplaint name then { done with control := .exiting } else done
    match (if plain then none else session.functions.find? (·.1 == name)) with
    | some (_, line, body) => call run line body arguments
    | none =>
      match name with
      | "eval" => inName (text run (" ".intercalate arguments))
      | "." => inName (match arguments with
        | [] => set { session with status := 0 }
        | path :: _ => source run path)
      | "exec" => inName (match arguments with
        | [] => set { session with status := 0 }
        | program :: rest => replace run program rest)
      | "type" => inName (tellMeanings arguments)
      | "command" =>
        match Builtin.letters ['p', 'v', 'V'] arguments with
        | .error complaint => inName (complained complaint)
        | .ok (letters, names) =>
          match letters.contains 'V', letters.contains 'v', names with
          | true, _, names => tellMeanings (names.take 1)
          | false, true, names =>
            let meanings := (names.take 1).map fun name => meaning? session name false
            set { meanings.foldl (fun (session : Session) words? =>
                match words? with
                | some words => session.say 1 (words ++ "\n")
                | none => session) session with
              status := if meanings.any (·.isNone) then 127 else 0 }
          | false, false, [] => set { session with status := 0 }
          | false, false, names => dispatch run fuel true names
      | _ =>
        match builtin? name with
        | some builtin => inName (do
          match ← builtin arguments with
          | .ok status =>
            modify fun done => if done.control == .exiting then done else { done with status }
          | .error complaint => complained complaint)
        | none => external run name arguments

/-- The fields of the words of a command. Words that give values to names stay whole behind some
commands. -/
def commandFields (run : Runner) (done : List String) : List Word → Action (List String)
  | [] => return done
  | word :: rest => do
    let keepsWhole : Bool := match done with
      | name :: _ => name ∈ ["export", "readonly", "local"]
      | [] => false
    let found ← match keepsWhole, assignment? word with
      | true, some (name, value) => do
        pure [name ++ "=" ++ (← Expansion.text (substitute run) value)]
      | _, _ => Expansion.fields (substitute run) word
    if (← get).isRunning then commandFields run (done ++ found) rest else return []

/-- Give values to variables, one after the other; what is given is told. -/
def assignAll (run : Runner) (exports : Bool) (told : List String) :
    List (String × Word) → Action (List String)
  | [] => return told.reverse
  | (name, word) :: rest => do
    let value ← Expansion.text (substitute run) word
    if (← get).isRunning then spend (effort [value])
    if (← get).isRunning then do
      modify fun session => session.assign name value exports
      if (← get).isRunning then assignAll run exports ((name ++ "=" ++ value) :: told) rest
      else return []
    else return []

/-- Carry out a simple command. -/
def simple (run : Runner) (assignments : List (String × Word)) (words : List Word)
    (redirections : List Redirection) : Action Unit := do
  let fields ← commandFields run [] words
  if (← get).isRunning then spend (effort fields)
  if ¬ (← get).isRunning then return
  let before ← get
  let name := fields.headD ""
  let isFunction := before.functions.any (·.1 == name)
  let isSpecial := !isFunction && name ∈ specialNames
  if ← redirect (substitute run) redirections then do
    let isKept := fields.isEmpty || isSpecial
    let old := assignments.map fun (name, _) => (name, before.binding? name)
    let exports := !isKept || (name == "exec" && 1 < fields.length)
    let told ← assignAll run exports [] assignments
    let session ← get
    if session.isRunning then do
      if session.options.contains 'x' ∧ ¬ (told ++ fields).isEmpty then
        set (session.writeTo (before.endpoint? 2) (Text.Octets.toList
          ((session.value? "PS4").getD "" ++ " ".intercalate (told ++ fields) ++ "\n")))
      match fields with
      | [] => modify fun session => { session with status := session.outputStatus }
      | fields => dispatch run 16 false fields
      if ¬ isKept then
        modify fun done => old.foldl (fun (session : Session) (name, held) =>
          session.putVariable name held) done
    let isReplaced := before.isLast && (← get).control != .goOn
    if ¬ (isReplaced ∨ (name = "exec" ∧ ¬ isFunction)) then
      modify fun done => { done with descriptors := before.descriptors }
  else
    modify fun done =>
      let done := { done with status := 2, descriptors := before.descriptors }
      if isSpecial ∧ done.isRunning then { done with control := .exiting } else done

/-- Whether a loop goes on behind a turn: what is left of the control, and whether it does. -/
def turned (control : Control) : Control × Bool :=
  match control with
  | .goOn | .continuing 1 => (.goOn, true)
  | .continuing (levels + 1) => (.continuing levels, false)
  | .breaking (levels + 2) => (.breaking (levels + 1), false)
  | .breaking _ => (.goOn, false)
  | other => (other, false)

/-- Carry out one turn of a loop. Whether there may be another one. -/
def turn (body : Action Unit) : Action Bool := do
  body
  let session ← get
  let (control, goesOn) := turned session.control
  set { session with control }
  return goesOn

/-- Repeat a body for as long as a test says; the fuel bounds the turns. The exit code is that of
the last turn. -/
def repeating (run : Runner) (untilTrue : Bool) (test body : Tree) (status : Nat) :
    Nat → Action Unit
  | 0 => modify Session.stop
  | fuel + 1 => do
    spend 1
    let tested ← turn (under true false (run test))
    let session ← get
    if ¬ tested ∨ ¬ session.isRunning then
      if session.isRunning then set { session with status }
    else if (session.status == 0) == untilTrue then set { session with status }
    else if ← turn (under session.tested false (run body)) then do
      let session ← get
      repeating run untilTrue test body session.status fuel

/-- Carry out a body for each of some values. -/
def forEach (run : Runner) (name : String) (body : Tree) : List String → Action Unit
  | [] => return
  | value :: rest => do
    modify fun session => session.assign name value false
    spend 1
    let session ← get
    if session.isRunning then
      if ← turn (under session.tested false (run body)) then forEach run name body rest

/-- The body of the first branch with a pattern that stands for a text. -/
def branch (run : Runner) (subject : String) : List (List Word × Tree) → Action (Option Tree)
  | [] => return none
  | (patterns, body) :: rest => do
    let rec fits : List Word → Action Bool
      | [] => return false
      | word :: others => do
        let pattern ← Expansion.pattern (substitute run) word
        if ¬ (← get).isRunning then return false
        else if pattern.isMatch subject.toList then return true
        else fits others
    if ← fits patterns then return some body
    else if (← get).isRunning then branch run subject rest
    else return none

/-- Carry out a body in a loop of its own. -/
def inLoop (body : Action Unit) : Action Unit := do
  let session ← get
  set { session with loops := session.loops + 1 }
  body
  modify fun done => { done with loops := session.loops }

/-- Carry out commands one after the other. -/
def sequence (run : Runner) (isLast : Bool) : List Tree → Action Unit
  | [] => return
  | [last] => do
    let session ← get
    under session.tested isLast (run last)
  | first :: rest => do
    let session ← get
    under session.tested false (run first)
    if (← get).isRunning then sequence run isLast rest

/-- Set the line of a command. -/
def atLine (line : Nat) : Action Unit :=
  modify fun session =>
    let behind : Int := if session.functionLine = 0 then 0 else session.functionLine - 1
    { session with line := line - behind, outputStatus := 0 }

/-- Carry out a form of command whose parts are carried out by a runner. -/
def form (run : Runner) (tree : Tree) : Action Unit := do
  let session ← get
  match tree with
  | .simple line assignments words redirections => do
    atLine line
    simple run assignments words redirections
  | .redirected line body redirections => do
    atLine line
    restoring do
      if ← redirect (substitute run) redirections then under session.tested false (run body)
      else modify fun done => { done with status := 2 }
  | .subshell line body redirections => do
    atLine line
    let inside : Action Unit := do
      if ← redirect (substitute run) redirections then run body
      else modify fun done => { done with status := 2 }
    if session.isLast ∧ session.traps.all (·.2.isEmpty) then do
      inside
      modify fun done =>
        if done.isRunning then { done with control := .exiting } else done
    else do
      let ending ← inChild run id inside
      modify fun done => if done.isRunning then done.note ending else done
  | .background body => background run body
  | .pipeline stages => do
    Runner.stages run session.clock session.clock (session.endpoint? 0) stages
  | .negation body => do
    under true false (run body)
    modify fun done =>
      if done.isRunning then { done with status := if done.status = 0 then 1 else 0 } else done
  | .chain first onSuccess second => do
    under true false (run first)
    let done ← get
    if done.isRunning ∧ (done.status == 0) = onSuccess then run second
  | .sequence items => sequence run session.isLast items
  | .conditional test body otherwise => do
    under true false (run test)
    let done ← get
    if done.isRunning then
      if done.status = 0 then run body
      else match otherwise with
        | .sequence [] => set { done with status := 0 }
        | otherwise => run otherwise
  | .loop untilTrue test body =>
    inLoop (repeating run untilTrue test body 0 (patience + 1))
  | .iteration line name words body => do
    atLine line
    let fields ← words.foldlM (fun found word => do
      if (← get).isRunning then
        return found ++ (← Expansion.fields (substitute run) word)
      else return found) []
    if (← get).isRunning then
      if fields.isEmpty then modify fun session => { session with status := 0 }
      else inLoop (forEach run name body fields)
  | .choice line subject branches => do
    atLine line
    let text ← Expansion.text (substitute run) subject
    if (← get).isRunning then do
      let found ← branch run text branches
      if (← get).isRunning then
        match found with
        | some body =>
          match body with
          | .sequence [] => modify fun session => { session with status := 0 }
          | body => run body
        | none => modify fun session => { session with status := 0 }
  | .definition line name body =>
    modify fun session => { session with
      functions := (name, line, body) :: session.functions.filter (·.1 != name)
      status := 0 }

/-- Whether a failure of a form ends a session that ends on failures. -/
def isChecked : Tree → Bool
  | .simple .. | .subshell .. | .background _ | .pipeline _ => true
  | _ => false

/-- Carry out a command whose parts are carried out by a runner, and let signals take effect. -/
def step (run : Runner) (tree : Tree) : Action Unit := do
  if (← get).isRunning then do
    form run tree
    deliverAll run
    let session ← get
    if session.isRunning ∧ isChecked tree ∧ ¬ session.tested ∧ session.status ≠ 0 ∧
        session.options.contains 'e' then
      set { session with control := .exiting }

/-- Carry out commands down to a depth. -/
def ofDepth : Nat → Runner
  | 0 => fun _ => modify fun session =>
    session.giveUp ("Maximum function recursion depth (" ++ toString callLimit ++ ") reached")
  | depth + 1 => step (ofDepth depth)

end Runner

end Gatehouse.Shell
