import Gatehouse.Host.Signal
import Gatehouse.Shell.Tree
import Gatehouse.Tool.Basic

/-!
# Sessions

A process that reads commands, at some point of its run. Processes share a machine: its
files, its clock, and what was written so far. Processes beside each other are run one
after the other, each from the time at which it starts; all that is written is stamped
with the time, so that it can be put in order afterwards. Times are in microseconds.
-/

namespace Gatehouse.Shell

/-- Where a descriptor leads: to something that is read, to a channel between processes, or to a
file that is written. -/
inductive Endpoint
  | stream (number : Nat)
  | channel (number : Nat)
  | file (path : String)
deriving DecidableEq, Repr

/-- Octets on a channel, with the time and the process that wrote them. -/
structure Written where
  channel : Nat
  time : Nat
  process : Nat
  octets : List UInt8
deriving Repr

/-- A channel that a process holds open, or a tool in its name, for some time. -/
structure Hold where
  channel : Nat
  process : Nat
  isOwn : Bool
  since : Nat
  ends : Nat
deriving DecidableEq, Repr

/-- A signal on its way to a process. -/
structure Delivery where
  process : Nat
  signal : Signal
  time : Nat
deriving DecidableEq, Repr

/-- What all processes share. At the deadline all of them are stopped; patience is the effort that
commands may still take. `living` are the processes that signals can be sent to. What was
written and what is held stand with the latest first. -/
structure Machine where
  system : FileSystem
  deadline : Nat
  clock : Nat
  patience : Nat
  fresh : Nat
  streams : List (Nat × Feed)
  written : List Written
  cycles : List (Nat × List UInt8)
  holds : List Hold
  deliveries : List Delivery
  living : List Nat
deriving Repr

/-- The channel of the output of the machine. -/
def Machine.outputChannel : Nat := 0

/-- The channel of the reports of the machine. -/
def Machine.reportChannel : Nat := 1

/-- A variable; the value may be missing. -/
structure Variable where
  value? : Option String
  isExported : Bool
  isReadOnly : Bool
deriving DecidableEq, Repr

/-- How a process ended. -/
inductive Ending
  | exited (status : Nat)
  | killed (signal : Signal)
deriving DecidableEq, Repr

/-- The exit code that stands for an end. -/
def Ending.status : Ending → Nat
  | .exited status => status
  | .killed signal => 128 + signal.number

/-- A process in the background: its number, when and how it ends, the signals that it does not care
for, and whether its end has been noted. -/
structure Job where
  process : Nat
  ends : Nat
  ending : Ending
  ignored : List Nat
  isReaped : Bool
deriving Repr

/-- How commands go on. -/
inductive Control
  | goOn
  | breaking (levels : Nat)
  | continuing (levels : Nat)
  | returning
  | exiting
  | killed (signal : Signal)
  | stopped
deriving DecidableEq, Repr

/-- A process that reads commands. `identity` is the number by which it knows itself, `tested` says
that the exit code of a command is looked at, and `isLast` that nothing follows a command. The
frames hold the variables that functions have for themselves, as they were before. What commands
within words end with is kept apart from the exit code, and so is the exit code that a trap
finds. -/
structure Session extends Machine where
  identity : Nat
  process : Nat
  name : String
  arguments : List String
  bindings : List (String × Variable)
  functions : List (String × Nat × Tree)
  documents : List (Nat × Word)
  nextDocument : Nat
  options : List Char
  traps : List (Nat × String)
  status : Nat
  jobs : List Job
  lastJob : Option Nat
  descriptors : List (Nat × Endpoint)
  line : Int
  functionLine : Nat
  frames : List (List (String × Option Variable))
  loops : Nat
  command : Option String
  tested : Bool
  isLast : Bool
  outputStatus : Nat
  trapStatus : Option Nat
  mask : Nat
  control : Control
deriving Repr

/-- A step of a session. -/
abbrev Action := StateM Session

namespace Session

/-- Whether commands go on. -/
def isRunning (session : Session) : Bool := session.control == .goOn

/-- Stop at the deadline. -/
def stop (session : Session) : Session :=
  { session with clock := max session.clock session.deadline, control := .stopped }

/-- Take an effort; where there is no patience for it, it never ends. -/
def spend (session : Session) (effort : Nat) : Session :=
  if session.patience < effort then session.stop
  else { session with patience := session.patience - effort }

/-- A number that nothing has so far. -/
def withFresh (session : Session) : Nat × Session :=
  (session.fresh, { session with fresh := session.fresh + 1 })

/-- Where a descriptor leads. -/
def endpoint? (session : Session) (descriptor : Nat) : Option Endpoint :=
  (session.descriptors.find? (·.1 == descriptor)).map (·.2)

/-- Lead a descriptor elsewhere, or nowhere. -/
def setEndpoint (session : Session) (descriptor : Nat) (endpoint? : Option Endpoint) : Session :=
  let others := session.descriptors.filter (·.1 != descriptor)
  { session with descriptors := match endpoint? with
    | some endpoint => (descriptor, endpoint) :: others
    | none => others }

/-- Write octets to an endpoint; only what can be written takes them. A file takes more effort the
larger it is. -/
def writeTo (session : Session) (endpoint? : Option Endpoint) (octets : List UInt8) : Session :=
  match endpoint? with
  | some (.channel channel) =>
    if octets.isEmpty then session
    else { session with
      written := ⟨channel, session.clock, session.process, octets⟩ :: session.written }
  | some (.file path) =>
    match session.system.write path true octets with
    | .ok system =>
      let size := ((system.read path).toOption.map (·.length)).getD 0
      { session with system }.spend (size / 64)
    | .error _ => session
  | some (.stream _) | none => session

/-- Write octets to a descriptor. -/
def write (session : Session) (descriptor : Nat) (octets : List UInt8) : Session :=
  session.writeTo (session.endpoint? descriptor) octets

/-- Write a text of octets to a descriptor. -/
def say (session : Session) (descriptor : Nat) (text : String) : Session :=
  session.write descriptor (Text.Octets.toList text)

/-- Make a complaint in the name of the session and of the command that it is at. -/
def complain (session : Session) (complaint : String) : Session :=
  let command := match session.command with
    | some command => command ++ ": "
    | none => ""
  session.say 2
    (session.name ++ ": " ++ toString session.line ++ ": " ++ command ++ complaint ++ "\n")

/-- Make a complaint and give up. -/
def giveUp (session : Session) (complaint : String) : Session :=
  { session.complain complaint with status := 2, control := .exiting }

/-- What a stream still holds. -/
def feed (session : Session) (endpoint? : Option Endpoint) : Feed :=
  match endpoint? with
  | some (.stream number) => ((session.streams.find? (·.1 == number)).map (·.2)).getD .empty
  | _ => .empty

/-- What a stream holds from now on. -/
def setFeed (session : Session) (endpoint? : Option Endpoint) (feed : Feed) : Session :=
  match endpoint? with
  | some (.stream number) =>
    { session with streams := (number, feed) :: session.streams.filter (·.1 != number) }
  | _ => session

/-- A variable. -/
def binding? (session : Session) (name : String) : Option Variable :=
  (session.bindings.find? (·.1 == name)).map (·.2)

/-- The value of a variable. -/
def value? (session : Session) (name : String) : Option String :=
  (session.binding? name).bind (·.value?)

/-- Put a variable in place of the one of its name, or take it away. -/
def putVariable (session : Session) (name : String) (new? : Option Variable) : Session :=
  let others := session.bindings.filter (·.1 != name)
  { session with bindings := match new? with
    | some new => (name, new) :: others
    | none => others }

/-- Give a variable its value. One that may only be read is refused. -/
def assign (session : Session) (name value : String) (exports : Bool) : Session :=
  let old := (session.binding? name).getD ⟨none, false, false⟩
  if old.isReadOnly then session.giveUp (name ++ ": is read only")
  else session.putVariable name
    (some ⟨some value, old.isExported || exports || session.options.contains 'a', false⟩)

/-- The variables that programs are given. -/
def environment (session : Session) : List (String × String) :=
  (session.bindings.filterMap fun (name, held) =>
    if held.isExported then held.value?.map (name, ·) else none).reverse

/-- The characters that split fields. -/
def separators (session : Session) : String := (session.value? "IFS").getD " \t\n"

/-- The action for a signal, if there is one; an empty one says that it is ignored. -/
def trap? (session : Session) (number : Nat) : Option String :=
  (session.traps.find? (·.1 == number)).map (·.2)

/-- The signal that ends the process first, up to a time. -/
def fatal? (session : Session) (time : Nat) : Option Delivery :=
  let isFatal (delivery : Delivery) : Bool :=
    delivery.process == session.process && delivery.time ≤ time &&
      delivery.signal.effect == .ends &&
      (!delivery.signal.isOptional || (session.trap? delivery.signal.number).isNone)
  (session.deliveries.filter isFatal).foldl (fun first? delivery =>
    match first? with
    | some first => if delivery.time ≤ first.time then some delivery else first?
    | none => some delivery) none

/-- Let time pass up to a moment, if nothing ends the process before. -/
def wait (session : Session) (time : Nat) : Session :=
  let until? := session.fatal? time
  let later := { session with
    clock := max session.clock ((until?.map (·.time)).getD time) }
  if later.deadline ≤ later.clock then later.stop
  else match until? with
    | some delivery => { later with control := .killed delivery.signal }
    | none => later

/-- A session for a process of its own, which starts as this one is. -/
def child (session : Session) : Session :=
  { session with
    fresh := session.fresh + 1
    living := session.fresh :: session.living
    process := session.fresh
    traps := session.traps.filter (·.2.isEmpty)
    jobs := []
    loops := 0
    trapStatus := none
    control := .goOn
    isLast := true }

/-- How the process of a session ended. -/
def ending (session : Session) : Ending :=
  match session.control with
  | .killed signal => .killed signal
  | _ => .exited (session.status % 256)

/-- This session once another process has run: what processes share is as that one left it, but the
directory of relative paths is its own. -/
def after (session done : Session) : Session :=
  { session with
    toMachine := { done.toMachine with system := { done.system with here := session.system.here } }
    nextDocument := max session.nextDocument done.nextDocument }

/-- Hold open all channels that descriptors lead to. -/
def hold (session : Session) (isOwn : Bool) (since ends : Nat) : Session :=
  let channels := (session.descriptors.filterMap fun (_, endpoint) => match endpoint with
    | .channel number => some number
    | _ => none).eraseDups
  let added : List Hold := channels.map fun channel =>
    ⟨channel, session.process, isOwn, since, ends⟩
  { session with holds := added ++ session.holds }

/-- When a channel is closed at last, which some process held until a time. -/
def closing (machine : Machine) (channel time : Nat) : Nat :=
  (machine.holds.filter (·.channel == channel)).foldl (fun latest hold => max latest hold.ends) time

/-- What was written to a channel, in order. -/
def onChannel (machine : Machine) (channel : Nat) : List (List UInt8) :=
  let all := (machine.written.filter (·.channel == channel)).reverse
  (all.mergeSort fun first second => first.time ≤ second.time).map (·.octets)

/-- Take what was written to a channel. -/
def drain (session : Session) (channel time : Nat) : Feed × Session :=
  let cycle := ((session.cycles.find? (·.1 == channel)).map (·.2)).getD []
  let feed : Feed := {
    octets := (onChannel session.toMachine channel).flatten
    cycle
    closes := closing session.toMachine channel time }
  (feed, { session with
    written := session.written.filter (·.channel != channel)
    cycles := session.cycles.filter (·.1 != channel)
    holds := session.holds.filter (·.channel != channel) })

end Session

end Gatehouse.Shell
