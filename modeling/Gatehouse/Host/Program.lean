import Gatehouse.Host.FileSystem
import Gatehouse.Text.Octets

/-!
# Programs

What stands behind the name of a command: a tool of the machine, or a script. The first
line of a script can name the program that reads it, which may be a script in turn. Names,
paths and arguments are texts of octets.
-/

namespace Gatehouse

/-- A program. A tool has the name that it is called by and the arguments in front of those that it
is called with; a plain text has no reader of its own. -/
inductive Program
  | tool (name called : String) (leading : List String)
  | plain (path : String)
deriving DecidableEq, Repr

namespace Program

/-- How much of a file is looked at for the line of its reader. -/
def lineLimit : Nat := 255

/-- The reader that the first line of a script names, with what stands behind it on the line. -/
def reader? (octets : List UInt8) : Option (String × Option String) :=
  let isBlank (character : Char) : Bool := character == ' ' || character == '\t'
  match octets with
  | 0x23 :: 0x21 :: rest =>
    let line := (Text.Octets.ofList ((rest.take (lineLimit - 2)).takeWhile (· ≠ 0x0A))).toList
    let trimmed := ((line.dropWhile isBlank).reverse.dropWhile isBlank).reverse
    let name := trimmed.takeWhile fun character => !isBlank character
    let behind := (trimmed.drop name.length).dropWhile isBlank
    if name.isEmpty then none
    else some (String.ofList name,
      if behind.isEmpty then none else some (String.ofList behind))
  | _ => none

/-- How many programs may stand behind each other. -/
def levelLimit : Nat := 6

/-- The program at a path, down to a number of readers. -/
def ofPath (system : FileSystem) (called path : String) : Nat → Except FileError Program
  | 0 => .error .tooManyLevels
  | level + 1 => do
    match ← system.lookup (Text.Octets.toText path) with
    | .tool name => return .tool name called []
    | .directory | .source => .error .permissionDenied
    | .file content =>
      if ¬ FileSystem.isExecutable content.mode then .error .permissionDenied
      else match reader? content.octets with
        | none => return .plain path
        | some (reader, option?) =>
          match ← ofPath system reader reader level with
          | .tool name called leading =>
            return .tool name called (leading ++ option?.toList ++ [path])
          | .plain _ => return .plain path

/-- The first program of a name along a list of directories. One that may not be run is only
remembered. -/
def search (system : FileSystem) (name : String) (failed : FileError) :
    List String → Except FileError Program
  | [] => .error failed
  | directory :: rest =>
    let path := if directory.isEmpty then name else directory ++ "/" ++ name
    match ofPath system name path levelLimit with
    | .ok program => .ok program
    | .error .permissionDenied => search system name .permissionDenied rest
    | .error .tooManyLevels => .error .tooManyLevels
    | .error _ => search system name failed rest

/-- The program of a name: at the path that it is, or along a list of directories. -/
def find (system : FileSystem) (directories : List String) (name : String) :
    Except FileError Program :=
  if name.toList.contains '/' then ofPath system name name levelLimit
  else if name.isEmpty then .error .notFound
  else search system name .notFound directories

/-- The directories of a list. -/
def directoriesOf (list : String) : List String :=
  (list.toList.splitOnP (· == ':')).map String.ofList

end Program

end Gatehouse
