import Gatehouse.Instant
import Gatehouse.Journal
import Gatehouse.Json.Writer

/-!
# Lines of the journal

A record as one line of a log file, and the name of the file of a day.
-/

namespace Gatehouse

/-- A record on one line, with the time at which it was made. -/
def Record.line (record : Record) (now : Instant) : String :=
  (Json.Value.object [
    ("timestamp", .text now.write),
    ("level", .text record.level.name),
    ("fields", record.toValue),
    ("target", .text record.target)]).render ++ "\n"

/-- The file that holds the lines of a day. -/
def logFileName (now : Instant) : String :=
  "tollgate.log." ++ String.ofList (now.write.toList.takeWhile (· ≠ 'T'))

end Gatehouse
