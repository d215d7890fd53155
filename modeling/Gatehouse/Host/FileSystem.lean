import Gatehouse.Text.Utf8

/-!
# Files

The files that commands and settings name, as a value: what stands at each place, and
the directory that relative paths start from. Every operation gives the reason when it
fails. The places that belong to the machine itself are part of every file system.

A file may be there and yet not be of use: who runs the program may not be allowed to
read it, the disk may be at fault, or another program may take it away between two
accesses to it. Which accesses fail is part of a file system too.
-/

namespace Gatehouse

/-- A file: who may do what with it, and its octets. -/
structure File where
  mode : Nat
  octets : List UInt8
deriving DecidableEq, Repr, Inhabited

/-- A place: the names on the way to it from the root. -/
abbrev Place := List String

/-- What stands at a place. A tool is a program that belongs to the machine; a source gives zeros
for as long as it is read. -/
inductive Node
  | file (content : File)
  | directory
  | tool (name : String)
  | source
deriving DecidableEq, Repr, Inhabited

/-- Why an operation on files fails. What is not told apart here goes by the words of the
machine. -/
inductive FileError
  | notFound
  | permissionDenied
  | badFormat
  | alreadyExists
  | notDirectory
  | isDirectory
  | nameTooLong
  | tooManyLevels
  | zeroInName
  | notText
  | other (words : String)
deriving DecidableEq, Repr

namespace FileError

/-- The words for an error and its number. -/
def message : FileError → String
  | .notFound => "No such file or directory (os error 2)"
  | .badFormat => "Exec format error (os error 8)"
  | .permissionDenied => "Permission denied (os error 13)"
  | .alreadyExists => "File exists (os error 17)"
  | .notDirectory => "Not a directory (os error 20)"
  | .isDirectory => "Is a directory (os error 21)"
  | .nameTooLong => "File name too long (os error 36)"
  | .tooManyLevels => "Too many levels of symbolic links (os error 40)"
  | .zeroInName => "file name contained an unexpected NUL byte"
  | .notText => "stream did not contain valid UTF-8"
  | .other words => words

/-- The words that tools have for an error. -/
def shortMessage : FileError → String
  | .notFound => "No such file or directory"
  | .badFormat => "Exec format error"
  | .permissionDenied => "Permission denied"
  | .alreadyExists => "File exists"
  | .notDirectory => "Not a directory"
  | .isDirectory => "Is a directory"
  | .nameTooLong => "File name too long"
  | .tooManyLevels => "Too many levels of symbolic links"
  | .zeroInName => "Invalid argument"
  | .notText => "Invalid or incomplete multibyte or wide character"
  | .other words => words

end FileError

/-- The ways to look at a place or to touch it: whether something is there, who may do what with it,
what it holds, and to make or change it. -/
inductive Access
  | presence
  | permissions
  | content
  | change
deriving DecidableEq, Repr

/-- What stands where, the latest change first, and the directory of relative paths. An access to a
place that is among the faults fails, whatever stands there. -/
structure FileSystem where
  nodes : List (Place × Node)
  here : Place
  faults : List ((Access × Place) × FileError) := []
deriving Repr, Inhabited

namespace FileSystem

/-- The programs of the machine. -/
def toolNames : List String :=
  ["sh", "bash", "dash", "echo", "true", "false", "cat", "sleep", "head", "tail", "tr", "wc", "tee",
    "seq", "yes", "touch", "mkdir", "rm", "printf", "test", "[", "env"]

/-- The places of the machine itself. -/
def machineNodes : List (Place × Node) :=
  [([], .directory), (["bin"], .directory), (["dev"], .directory), (["etc"], .directory),
    (["tmp"], .directory), (["usr"], .directory), (["usr", "bin"], .directory),
    (["dev", "null"], .file ⟨0o666, []⟩), (["dev", "zero"], .source),
    (["etc", "passwd"], .file ⟨0o644, Text.Utf8.encode "root:x:0:0:root:/root:/bin/bash\n"⟩)] ++
  toolNames.map (fun name => (["bin", name], .tool name)) ++
  toolNames.map (fun name => (["usr", "bin", name], .tool name))

/-- A file system in which nothing stands but the machine and an empty directory. -/
def empty : FileSystem := ⟨[(["work"], .directory)], ["work"], []⟩

/-- What stands at a place. -/
def node? (system : FileSystem) (place : Place) : Option Node :=
  match system.nodes.find? (·.1 == place) with
  | some (_, node) => some node
  | none => (machineNodes.find? (·.1 == place)).map (·.2)

/-- Why an access to a place fails, if it does. -/
def fault? (system : FileSystem) (access : Access) (place : Place) : Option FileError :=
  (system.faults.find? (·.1 == (access, place))).map (·.2)

/-- Put something at a place. -/
def put (system : FileSystem) (place : Place) (node : Node) : FileSystem :=
  { system with nodes := (place, node) :: system.nodes.filter (·.1 != place) }

/-- Take away what stands at a place or below it. -/
def remove (system : FileSystem) (place : Place) : FileSystem :=
  { system with nodes := system.nodes.filter fun entry => !place.isPrefixOf entry.1 }

/-- The names in a directory, in ascending order. -/
def entries (system : FileSystem) (place : Place) : List String :=
  let names := (system.nodes ++ machineNodes).filterMap fun (other, _) =>
    if other.dropLast = place then other.getLast? else none
  names.mergeSort.eraseDups

/-- The longest name, in octets. -/
def nameLimit : Nat := 255

/-- The longest path, in octets. -/
def pathLimit : Nat := 4095

/-- The names of a path. -/
def names (path : String) : List String := (path.toList.splitOnP (· == '/')).map String.ofList

/-- Follow names from a place. All places on the way are directories; the last one may be free. -/
def follow (system : FileSystem) (place : Place) : List String → Except FileError Place
  | [] => .ok place
  | name :: rest =>
    match system.node? place with
    | some .directory =>
      if name = "" ∨ name = "." then system.follow place rest
      else if name = ".." then system.follow place.dropLast rest
      else if nameLimit < name.utf8ByteSize then .error .nameTooLong
      else system.follow (place ++ [name]) rest
    | some _ => .error .notDirectory
    | none => .error .notFound

/-- The place that a path leads to. -/
def resolve (system : FileSystem) (path : String) : Except FileError Place :=
  if path.toList.contains '\x00' then .error .zeroInName
  else if path.isEmpty then .error .notFound
  else if pathLimit < path.utf8ByteSize then .error .nameTooLong
  else system.follow (if path.toList.head? = some '/' then [] else system.here) (names path)

/-- What a path leads to. -/
def lookup (system : FileSystem) (path : String) : Except FileError Node := do
  let place ← system.resolve path
  match system.node? place with
  | some node => .ok node
  | none => .error .notFound

/-- The octets of a program of the machine, as far as they matter: they are no text. -/
def machineCode : List UInt8 := [0x7F, 0x45, 0x4C, 0x46, 0xFF]

/-- The octets of a file, unless the machine cannot give them. -/
def read (system : FileSystem) (path : String) : Except FileError (List UInt8) := do
  let place ← system.resolve path
  match system.node? place, system.fault? .content place with
  | none, _ => .error .notFound
  | some _, some cause => .error cause
  | some (.file content), none => .ok content.octets
  | some .directory, none => .error .isDirectory
  | some (.tool _), none => .ok machineCode
  | some .source, none => .ok []

/-- The text of a file. -/
def readText (system : FileSystem) (path : String) : Except FileError String := do
  match Text.Utf8.decode? (← system.read path) with
  | some text => .ok text
  | none => .error .notText

/-- Write octets to a file, in the place of its content or behind it. A new file belongs to its
owner and may be read by others. -/
def write (system : FileSystem) (path : String) (behind : Bool) (octets : List UInt8) :
    Except FileError FileSystem := do
  let place ← system.resolve path
  match system.node? place, system.fault? .change place with
  | some .directory, _ => .error .isDirectory
  | _, some cause => .error cause
  | some (.file content), none =>
    if place = ["dev", "null"] then .ok system
    else if behind ∧ octets.isEmpty then .ok system
    else
      let front := if behind then content.octets else []
      .ok (system.put place (.file { content with octets := front ++ octets }))
  | some _, none => .error .permissionDenied
  | none, none => .ok (system.put place (.file ⟨0o644, octets⟩))

/-- Make the directories of names that are missing below a place. -/
def makeBelow (system : FileSystem) (place : Place) : List String → Except FileError FileSystem
  | [] => .ok system
  | name :: rest =>
    if name = "" ∨ name = "." then system.makeBelow place rest
    else if name = ".." then system.makeBelow place.dropLast rest
    else if nameLimit < name.utf8ByteSize then .error .nameTooLong
    else
      let next := place ++ [name]
      match system.node? next, system.fault? .change next with
      | some .directory, _ => system.makeBelow next rest
      | some _, _ => .error (if rest.all (·.isEmpty) then .alreadyExists else .notDirectory)
      | none, some cause => .error cause
      | none, none => (system.put next .directory).makeBelow next rest

/-- Make a directory and those on the way to it, as far as they are missing. -/
def makeDirectories (system : FileSystem) (path : String) : Except FileError FileSystem :=
  if path.toList.contains '\x00' then .error .zeroInName
  else if pathLimit < path.utf8ByteSize then .error .nameTooLong
  else if path.isEmpty then .ok system
  else system.makeBelow (if path.toList.head? = some '/' then [] else system.here) (names path)

/-- The bits of a mode that let a file be executed. -/
def isExecutable (mode : Nat) : Bool := mode &&& 0o111 != 0

end FileSystem

end Gatehouse
