import Gatehouse.Text.Utf8

/-!
# Capturing a stream

A stream is read to its end in chunks, however it is cut into them, and only its front
is kept. Reading goes on behind the limit, so that a tool which writes more than is
kept is never held up. What is kept becomes text; octets that are no UTF-8 are replaced,
also where the limit cuts a character.
-/

namespace Gatehouse

/-- The state of a capture: the chunks kept so far, the latest first, how many more octets are
kept, and whether any was dropped. -/
structure Capture where
  kept : List (List UInt8)
  room : Nat
  truncated : Bool
deriving DecidableEq, Repr

namespace Capture

/-- A capture that keeps a number of octets. -/
def start (limit : Nat) : Capture := ⟨[], limit, false⟩

/-- Read one chunk. -/
def read (capture : Capture) (chunk : List UInt8) : Capture :=
  let taken := chunk.take capture.room
  ⟨taken :: capture.kept, capture.room - taken.length,
    capture.truncated || taken.length < chunk.length⟩

/-- Read on until a read gives nothing, which is how the end of the stream shows. What is left are
the reads that were not made. -/
def drain (capture : Capture) : List (List UInt8) → Capture × List (List UInt8)
  | [] => (capture, [])
  | chunk :: rest => if chunk.isEmpty then (capture, rest) else (capture.read chunk).drain rest

/-- The octets kept so far. -/
def octets (capture : Capture) : List UInt8 := capture.kept.reverse.flatten

/-- The text of what is kept. -/
def text (capture : Capture) : String := Text.Utf8.decodeLossy capture.octets

/-- The capture of a stream that arrives in chunks. -/
def ofChunks (limit : Nat) (chunks : List (List UInt8)) : Capture := ((start limit).drain chunks).1

end Capture

end Gatehouse
