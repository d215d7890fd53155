/-!
# Signals

The signals that end, stop or pass by a process, by number and name.
-/

namespace Gatehouse

/-- A signal, by its number. -/
structure Signal where
  number : Nat
deriving DecidableEq, Repr

namespace Signal

/-- The names of the signals from the first on. -/
def names : List String := [
  "HUP", "INT", "QUIT", "ILL", "TRAP", "ABRT", "BUS", "FPE", "KILL", "USR1", "SEGV", "USR2",
  "PIPE", "ALRM", "TERM", "STKFLT", "CHLD", "CONT", "STOP", "TSTP", "TTIN", "TTOU", "URG",
  "XCPU", "XFSZ", "VTALRM", "PROF", "WINCH", "IO", "PWR", "SYS"]

/-- The largest number of a signal. -/
def limit : Nat := 64

/-- The name of a signal. -/
def name (signal : Signal) : String := names.getD (signal.number - 1) (toString signal.number)

/-- The signal of a number or a name, in any case of letters. One of them goes by its number
alone. -/
def ofName? (text : String) : Option Signal :=
  match text.toNat? with
  | some number => if number ≤ limit then some ⟨number⟩ else none
  | none =>
    if text.toUpper = "STKFLT" then none
    else (names.findIdx? (· == text.toUpper)).map fun place => ⟨place + 1⟩

/-- A signal in the words of a report. -/
def describe (signal : Signal) : String :=
  let name := match names[signal.number - 1]? with
    | some name => " (SIG" ++ name ++ ")"
    | none => ""
  "signal: " ++ toString signal.number ++ name

/-- What a shell says of a command that a signal ended, if it says anything. -/
def obituary? (signal : Signal) : Option String :=
  match signal.name with
  | "INT" | "PIPE" => none
  | "HUP" => some "Hangup"
  | "QUIT" => some "Quit"
  | "ILL" => some "Illegal instruction"
  | "TRAP" => some "Trace/breakpoint trap"
  | "ABRT" => some "Aborted"
  | "BUS" => some "Bus error"
  | "FPE" => some "Floating point exception"
  | "KILL" => some "Killed"
  | "USR1" => some "User defined signal 1"
  | "SEGV" => some "Segmentation fault"
  | "USR2" => some "User defined signal 2"
  | "ALRM" => some "Alarm clock"
  | "TERM" => some "Terminated"
  | "STKFLT" => some "Stack fault"
  | "XCPU" => some "CPU time limit exceeded"
  | "XFSZ" => some "File size limit exceeded"
  | "VTALRM" => some "Virtual timer expired"
  | "PROF" => some "Profiling timer expired"
  | "IO" => some "I/O possible"
  | "PWR" => some "Power failure"
  | "SYS" => some "Bad system call"
  | _ =>
    if signal.number < 34 then some ("Unknown signal " ++ toString signal.number)
    else some ("Real-time signal " ++ toString (signal.number - 34))

/-- What a signal does to a process that does not care for it. -/
inductive Effect
  | ends
  | stops
  | nothing
deriving DecidableEq, Repr

/-- What a signal does to a process that neither catches nor ignores it. -/
def effect (signal : Signal) : Effect :=
  if signal.number ∈ [0, 17, 18, 23, 28] then .nothing
  else if signal.number ∈ [19, 20, 21, 22] then .stops
  else .ends

/-- Whether a process can choose what a signal does to it. -/
def isOptional (signal : Signal) : Bool := signal.number != 9 && signal.number != 19

end Signal

end Gatehouse
