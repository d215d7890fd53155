import Gatehouse.Host.Program
import Gatehouse.Shell.Builtin
import Gatehouse.Shell.Expansion

/-!
# Processes

How scripts are read and carried out line by line, how processes begin and end, how
signals reach them, and how the tools of the machine are run. How a command is carried out
is a parameter here.
-/

namespace Gatehouse.Shell

/-- How commands are carried out. -/
abbrev Runner := Tree → Action Unit

namespace Runner

/-- Carry out a script line by line; the fuel bounds its lines. The flag says whether a command was
among them. -/
def lines (run : Runner) (ran : Bool) : Nat → Reader → Action Unit
  | 0, _ => return
  | fuel + 1, reader => do
    let session ← get
    match { reader with nextDocument := session.nextDocument, documents := [] }.nextLine with
    | .error fault =>
      set ({ session with line := fault.line }.giveUp ("Syntax error: " ++ fault.cause.message))
    | .ok (none, _) => if ¬ ran then set { session with status := 0 }
    | .ok (some tree, reader) => do
      set { session with
        documents := reader.documents ++ session.documents
        nextDocument := reader.nextDocument }
      let isBlank : Bool := match tree with
        | .sequence [] => true
        | _ => false
      if ¬ isBlank ∧ ¬ session.options.contains 'n' then run tree
      if (← get).isRunning then lines run (ran || !isBlank) fuel reader

/-- Carry out a script. -/
def text (run : Runner) (script : String) : Action Unit := do
  let session ← get
  lines run false (script.length + 2) (.start script.toList 1 session.nextDocument)

/-- Carry out the action of a trap. The exit code is what it was before. -/
def action (run : Runner) (script : String) : Action Unit := do
  let session ← get
  let status := session.status
  set { session with trapStatus := some status }
  text run script
  modify fun done => { done with
    trapStatus := session.trapStatus
    status := if done.isRunning then status else done.status }

/-- Let the signals take effect that have arrived; the fuel bounds their number. -/
def deliver (run : Runner) : Nat → Action Unit
  | 0 => return
  | fuel + 1 => do
    let session ← get
    let isHere (delivery : Delivery) : Bool :=
      delivery.time ≤ session.clock && (delivery.process == session.process ||
        session.jobs.any (·.process == delivery.process))
    let dies : Bool := match session.control with
      | .killed _ | .stopped => true
      | _ => false
    match session.deliveries.reverse.find? isHere with
    | none => return
    | some delivery =>
      if dies then return
      else do
        let session := { session with
          deliveries := (session.deliveries.reverse.erase delivery).reverse }
        set session
        match session.jobs.find? (·.process == delivery.process) with
        | some job => do
          set (Builtin.strike session job delivery.signal delivery.time)
          return ← deliver run fuel
        | none => pure ()
        let trap? := if delivery.signal.isOptional then session.trap? delivery.signal.number
          else none
        match trap?, delivery.signal.effect with
        | some "", _ | none, .nothing => deliver run fuel
        | some script, _ => do
          action run script
          deliver run fuel
        | none, .ends => set { session with control := .killed delivery.signal }
        | none, .stops => set session.stop

/-- Let all signals take effect that have arrived. -/
def deliverAll (run : Runner) : Action Unit := do
  deliver run ((← get).deliveries.length + 1)

/-- End a process: the action for its end is carried out. -/
def finish (run : Runner) : Action Unit := do
  let session ← get
  let dies : Bool := match session.control with
    | .killed _ | .stopped => true
    | _ => false
  match session.trap? 0 with
  | some script =>
    if dies ∨ script.isEmpty then return
    else do
      set { session with
        traps := session.traps.filter (·.1 != 0)
        control := .goOn
        loops := 0 }
      action run script
  | none => return

/-- How long it takes until a process of its own begins, in microseconds. What its parent does next
by itself is faster. -/
def forkTime : Nat := 300

/-- How long it takes a process to begin another one, in microseconds. -/
def spawnTime : Nat := 100

/-- Carry out something in a process of its own, and wait for its end. -/
def inChild (run : Runner) (prepare : Session → Session) (body : Action Unit) :
    Action Ending := do
  let session ← get
  let (_, done) := (do
    body
    finish run : Action Unit).run
      (prepare { session.child with clock := session.clock + forkTime })
  let after := session.after { done with living := done.living.erase done.process }
  set (if done.control = .stopped ∨ after.deadline ≤ after.clock then after.stop else after)
  return done.ending

end Runner

namespace Session

/-- Say what ended a process, if that is said at all. -/
def mourn (session : Session) (ending : Ending) : Session :=
  match ending with
  | .exited _ => session
  | .killed signal =>
    match signal.obituary? with
    | some report => session.say 2 (report ++ "\n")
    | none => session

/-- Note how a command ended. -/
def note (session : Session) (ending : Ending) : Session :=
  { session.mourn ending with status := ending.status }

/-- A stream of its own that gives a feed. -/
def withStream (session : Session) (feed : Feed) : Endpoint × Session :=
  let (number, session) := session.withFresh
  (.stream number, { session with streams := (number, feed) :: session.streams })

/-- Where the name of a standard descriptor leads. -/
def standardEndpoint? (path : String) : Option Nat :=
  match path with
  | "/dev/stdin" => some 0
  | "/dev/stdout" => some 1
  | "/dev/stderr" => some 2
  | _ =>
    if path.startsWith "/dev/fd/" then (String.ofList (path.toList.drop 8)).toNat? else none

/-- Open a file. Where it cannot be, the complaint says why. -/
def openFile (session : Session) (opening : Opening) (path : String) :
    Except String (Endpoint × Session) :=
  let name := Text.Octets.toText path
  let refusal (error : FileError) : String :=
    let isMissing : Bool := error == .notFound || error == .notDirectory
    match opening with
    | .read => "cannot open " ++ path ++ ": " ++
        (if isMissing then "No such file" else error.shortMessage)
    | _ => "cannot create " ++ path ++ ": " ++
        (if isMissing then "Directory nonexistent" else error.shortMessage)
  match standardEndpoint? path with
  | some descriptor =>
    match session.endpoint? descriptor with
    | some endpoint => .ok (endpoint, session)
    | none => .error (refusal .notFound)
  | none =>
    match opening with
    | .read =>
      match session.system.lookup name with
      | .error error => .error (refusal error)
      | .ok node => .ok (session.withStream (match node with
        | .file content => .ofFile content.octets
        | .tool _ => .ofFile FileSystem.machineCode
        | .source => .zeros
        | .directory => .empty))
    | _ =>
      match session.system.write name (opening == .append) [] with
      | .error error => .error (refusal error)
      | .ok system =>
        match system.resolve name with
        | .error error => .error (refusal error)
        | .ok place => .ok (.file ("/" ++ "/".intercalate place), { session with system })

end Session

/-- A redirection whose words are expanded. -/
inductive Target
  | file (descriptor : Nat) (opening : Opening) (path : String)
  | copy (descriptor : Nat) (source : Option Nat)
  | text (descriptor : Nat) (content : String)
deriving DecidableEq, Repr

namespace Target

/-- Expand the words of a redirection. -/
def ofRedirection (substitute : Substitution) : Redirection → Action (Option Target)
  | .file descriptor opening path =>
    return some (.file descriptor opening (← Expansion.text substitute path))
  | .copy descriptor source => do
    let text ← Expansion.text substitute source
    match text.toList with
    | ['-'] => return some (.copy descriptor none)
    | [digit] =>
      if digit.isDigit then
        return some (.copy descriptor (some (digit.toNat - '0'.toNat)))
      else do
        modify fun session => session.giveUp "Syntax error: Bad fd number"
        return none
    | _ => do
      modify fun session => session.giveUp "Syntax error: Bad fd number"
      return none
  | .document descriptor number => do
    let session ← get
    let content := ((session.documents.find? (·.1 == number)).map (·.2)).getD []
    return some (.text descriptor (Atom.text (← Expansion.pieces substitute false false content)))

/-- Lead a descriptor to its target. -/
def apply (session : Session) : Target → Except String Session
  | .file descriptor opening path => do
    let (endpoint, session) ← session.openFile opening path
    return session.setEndpoint descriptor (some endpoint)
  | .copy descriptor none => return session.setEndpoint descriptor none
  | .copy descriptor (some source) =>
    match session.endpoint? source with
    | some endpoint => return session.setEndpoint descriptor (some endpoint)
    | none => .error (toString source ++ ": Bad file descriptor")
  | .text descriptor content =>
    let (endpoint, session) := session.withStream (.ofOctets (Text.Octets.toList content))
    return session.setEndpoint descriptor (some endpoint)

end Target

/-- Redirect descriptors, one after the other. Whether all could be; a complaint is made of the
first that could not. -/
def redirect (substitute : Substitution) (redirections : List Redirection) : Action Bool := do
  let targets ← redirections.mapM fun redirection => do
    if (← get).isRunning then Target.ofRedirection substitute redirection
    else return none
  let rec go : List Target → Action Bool
    | [] => return true
    | target :: rest => do
      let session ← get
      match target.apply session with
      | .ok session => do
        set session
        go rest
      | .error complaint => do
        set (session.complain complaint)
        return false
  if (← get).isRunning then go (targets.filterMap id) else return false

/-- How long it takes until a program has started, in microseconds. -/
def startTime : Nat := 500

/-- Run a tool of the machine. -/
def runTool (name called : String) (arguments : List String) : Action Ending := do
  let session ← get
  let input? := session.endpoint? 0
  let feed := session.feed input?
  match Tool.run? session.system name arguments feed with
  | none => return .exited 127
  | some done => do
    let start := session.clock
    let ends := max (start + startTime) (if done.reads then feed.closes else 0) +
      done.milliseconds * 1000
    let session := if 0 < done.milliseconds then session.hold session.isLast start ends else session
    let session := session.setFeed input? (if done.reads then
        { feed with octets := [], cycle := [] }
      else { feed with octets := feed.octets.drop done.takes })
    let session := session.wait ends
    let session := { session with system := done.system?.getD session.system }
    let written := (Tool.written name called done).foldl
      (fun (session : Session) (channel, octets) =>
        session.write (if channel = .output then 1 else 2) octets) session
    match done.cycle, session.endpoint? 1 with
    | [], _ => set written
    | cycle, some (.channel number) =>
      if number = Machine.outputChannel ∨ number = Machine.reportChannel then set written.stop
      else set { written with cycles := (number, cycle) :: written.cycles }
    | _, _ => set written.stop
    return .exited done.status

end Gatehouse.Shell
