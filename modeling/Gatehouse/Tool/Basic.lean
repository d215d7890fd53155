import Gatehouse.Host.FileSystem
import Gatehouse.Text.Octets

/-!
# Tools

The programs of the machine that the commands of tasks use, each as a function of its
arguments and its input: what it writes, its exit code, and how long it takes. Arguments
are texts of octets. Input and output may go on without end, with the same octets again
and again.
-/

namespace Gatehouse

/-- What a tool writes to: its output or its reports. A complaint is a report that it makes in its
own name. -/
inductive Channel
  | output
  | report
  | complaint
deriving DecidableEq, Repr

/-- What is read: octets, those that follow again and again, if there are any, the time at which
the end can be seen, and whether a reader can go back in it. -/
structure Feed where
  octets : List UInt8
  cycle : List UInt8 := []
  closes : Nat := 0
  isFile : Bool := false
deriving DecidableEq, Repr, Inhabited

namespace Feed

/-- Octets and no more. -/
def ofOctets (octets : List UInt8) : Feed := { octets }

/-- Octets of a file. -/
def ofFile (octets : List UInt8) : Feed := { octets, isFile := true }

/-- Zeros for as long as they are read. -/
def zeros : Feed := { octets := [], cycle := [0] }

/-- Nothing to read. -/
def empty : Feed := ofOctets []

/-- So many octets of a cycle; without one there are none. -/
def turns (cycle : List UInt8) (count : Nat) : List UInt8 :=
  if cycle.isEmpty then []
  else ((List.replicate (count / cycle.length + 1) cycle).flatten).take count

/-- The first octets, so many as there are. -/
def take (count : Nat) (feed : Feed) : List UInt8 :=
  let front := feed.octets.take count
  front ++ turns feed.cycle (count - front.length)

end Feed

/-- What a tool does: what it writes, the octets that its output goes on with again and again, if
there are any, its exit code, how long it takes, whether it reads its input to the end or how many
octets it takes from it, and the files that it leaves, where it changes some. -/
structure ToolRun where
  writes : List (Channel × List UInt8) := []
  cycle : List UInt8 := []
  status : Nat := 0
  milliseconds : Nat := 0
  reads : Bool := false
  takes : Nat := 0
  system? : Option FileSystem := none
deriving Repr, Inhabited

namespace ToolRun

/-- A time that no limit is as long as. -/
def endless : Nat := Nat.pow 2 128

/-- A run that only takes its time. -/
def quiet (status milliseconds : Nat) : ToolRun := { status, milliseconds }

/-- A run that writes octets and succeeds. -/
def output (octets : List UInt8) : ToolRun := { writes := [(.output, octets)] }

/-- A run that writes all of a feed. -/
def pass (feed : Feed) : ToolRun :=
  { writes := [(.output, feed.octets)], cycle := feed.cycle, milliseconds := 0 }

/-- A run that only reports a failure. -/
def fail (status : Nat) (report : String) : ToolRun :=
  { writes := [(.report, Text.Octets.toList report)], status }

/-- A run that only makes a complaint. -/
def complain (status : Nat) (complaint : String) : ToolRun :=
  { writes := [(.complaint, Text.Octets.toList complaint)], status }

/-- One run after another; the exit code is that of the first that fails. Nothing follows a run
without end. -/
def followedBy (first second : ToolRun) : ToolRun :=
  if ¬ first.cycle.isEmpty then first
  else {
    writes := first.writes ++ second.writes
    cycle := second.cycle
    status := if first.status = 0 then second.status else first.status
    milliseconds := first.milliseconds + second.milliseconds
    reads := first.reads || second.reads
    takes := first.takes + second.takes
    system? := match second.system? with
      | some system => some system
      | none => first.system? }

/-- How long a run takes when somebody reads all of its output. -/
def duration (run : ToolRun) : Nat := if run.cycle.isEmpty then run.milliseconds else endless

end ToolRun

end Gatehouse
