import Gatehouse.Tool.Condition
import Gatehouse.Tool.Files
import Gatehouse.Tool.Format
import Gatehouse.Tool.Pause
import Gatehouse.Tool.Exchange

/-!
# The tools of the machine

Which tool a name stands for. The shells and the tool that changes the environment are not
among them, because they run other programs.
-/

namespace Gatehouse.Tool

/-- What a tool does, if there is a tool of the name. -/
def run? (system : FileSystem) (name : String) (arguments : List String) (stdin : Feed) :
    Option ToolRun :=
  match name with
  | "echo" => some (echo arguments)
  | "true" => some (.quiet 0 0)
  | "false" => some (.quiet 1 0)
  | "cat" => some (cat system arguments stdin)
  | "sleep" => some (sleep arguments)
  | "head" => some (head system arguments stdin)
  | "tail" => some (tail system arguments stdin)
  | "tr" => some (tr arguments stdin)
  | "wc" => some (wc system arguments stdin)
  | "tee" => some (tee system arguments stdin)
  | "seq" => some (seq arguments)
  | "yes" => some (yes arguments)
  | "touch" => some (touch system arguments)
  | "mkdir" => some (mkdir system arguments)
  | "rm" => some (rm system arguments)
  | "printf" => some (printf arguments)
  | "test" => some (test system arguments)
  | "[" => some (bracket system arguments)
  | _ => none

/-- What a tool writes that is called by a name, complaints in that name. Reports that begin with
the name of the tool, and the advice behind them, have the name that it is called by as well. -/
def written (name called : String) (run : ToolRun) : List (Channel × List UInt8) :=
  run.writes.map fun (channel, octets) =>
    match channel with
    | .complaint => (.report, Text.Octets.toList (called ++ ": ") ++ octets ++ [0x0A])
    | .report =>
      if name = called then (channel, octets)
      else (channel, Text.Octets.toList (((Text.Octets.ofList octets).replace
        ("Try '" ++ name) ("Try '" ++ called)).replace (name ++ ": ") (called ++ ": ")))
    | .output => (channel, octets)

end Gatehouse.Tool
