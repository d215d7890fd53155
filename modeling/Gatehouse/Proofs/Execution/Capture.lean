import Gatehouse.Host.Launch
import Gatehouse.Proofs.Text.Lossy

/-!
# What is kept of a stream

A capture holds the front of what has been read: this is so before the first read, every
read keeps it so, and reading goes on to the end of the stream, also when nothing more is
kept. So the octets that are kept, and whether any were dropped, hang on the stream and
the limit alone and not on the chunks in which the stream arrived. The limit may cut a
character; the text of what is kept then ends in a replacement, and is never longer than
three times the limit.
-/

namespace Gatehouse

namespace Capture

variable {limit : Nat} {stream : List UInt8} {capture : Capture}

/-- A capture holds the front of the octets that were read, knows how many more it may keep, and
whether any of them were dropped. -/
structure HoldsFront (limit : Nat) (stream : List UInt8) (capture : Capture) : Prop where
  octets : capture.octets = stream.take limit
  room : capture.room = limit - stream.length
  truncated : capture.truncated = true ↔ limit < stream.length

/-- Before anything is read, the front of the empty stream is held. -/
theorem holdsFront_start (limit : Nat) : HoldsFront limit [] (start limit) where
  octets := List.take_nil.symm
  room := rfl
  truncated := by simp [start]

/-- A chunk is kept as far as there is room for it. -/
theorem octets_read (capture : Capture) (chunk : List UInt8) :
    (capture.read chunk).octets = capture.octets ++ chunk.take capture.room := by
  simp [octets, read]

/-- Reading a chunk keeps as much of it as there is room for. Octets are dropped from now on if the
chunk is longer than that, and were dropped before only if there was no room left. -/
theorem HoldsFront.read (holds : HoldsFront limit stream capture) (chunk : List UInt8) :
    HoldsFront limit (stream ++ chunk) (capture.read chunk) where
  octets := by rw [octets_read, holds.octets, holds.room, List.take_append]
  room := by
    simp only [Capture.read, holds.room, List.length_take, List.length_append]
    omega
  truncated := by
    simp only [Capture.read, Bool.or_eq_true, decide_eq_true_eq, holds.truncated, holds.room,
      List.length_take, List.length_append]
    omega

/-- Where no read gives nothing, all reads are made, and in the end the front of the whole stream is
held. By induction on the chunks, with what was read so far in front of them. -/
theorem HoldsFront.drain {chunks : List (List UInt8)} (holds : HoldsFront limit stream capture)
    (nonempty : ∀ chunk ∈ chunks, chunk ≠ []) :
    (capture.drain chunks).2 = [] ∧
      HoldsFront limit (stream ++ chunks.flatten) (capture.drain chunks).1 := by
  induction chunks generalizing stream capture with
  | nil =>
    rw [List.flatten_nil, List.append_nil]
    exact ⟨rfl, holds⟩
  | cons chunk rest inductionHypothesis =>
    have notEnd : ¬ chunk.isEmpty = true :=
      fun empty => nonempty chunk List.mem_cons_self (List.isEmpty_iff.mp empty)
    have restNonempty : ∀ later ∈ rest, later ≠ [] :=
      fun later inside => nonempty later (List.mem_cons_of_mem chunk inside)
    rw [Capture.drain, if_neg notEnd, List.flatten_cons, ← List.append_assoc]
    exact inductionHypothesis (holds.read chunk) restNonempty

/-- The front of a stream is held after its chunks were drained from the start. -/
theorem holdsFront_ofChunks (limit : Nat) {chunks : List (List UInt8)}
    (nonempty : ∀ chunk ∈ chunks, chunk ≠ []) :
    HoldsFront limit chunks.flatten (ofChunks limit chunks) :=
  ((holdsFront_start limit).drain nonempty).2

/-- What is kept, what is said of the rest, and the text are given by the stream and the limit. -/
theorem HoldsFront.congr {other : Capture} (holds : HoldsFront limit stream capture)
    (holdsToo : HoldsFront limit stream other) :
    other.octets = capture.octets ∧ other.truncated = capture.truncated ∧
      other.text = capture.text := by
  have octets : other.octets = capture.octets := holdsToo.octets.trans holds.octets.symm
  refine ⟨octets, ?_, congrArg Text.Utf8.decodeLossy octets⟩
  rw [Bool.eq_iff_iff, holdsToo.truncated, holds.truncated]

/-- A stream is read to its end, in whatever chunks it arrives, and its front is kept: as many
octets as the limit allows, and all of it if they suffice, which is when nothing is reported as
dropped. The text is the lossy text of these octets: it has the same octets where they are those of
a text, and never more than three for each of them. -/
theorem keeps_front (limit : Nat) (chunks : List (List UInt8))
    (nonempty : ∀ chunk ∈ chunks, chunk ≠ []) :
    let stream := chunks.flatten
    let capture := ofChunks limit chunks
    ((start limit).drain chunks).2 = [] ∧
    capture.octets = stream.take (min limit stream.length) ∧
    (capture.truncated = true ↔ limit < stream.length) ∧
    (∀ others : List (List UInt8), (∀ chunk ∈ others, chunk ≠ []) → others.flatten = stream →
      (ofChunks limit others).octets = capture.octets ∧
        (ofChunks limit others).truncated = capture.truncated ∧
        (ofChunks limit others).text = capture.text) ∧
    Text.Utf8.LossyText capture.octets capture.text.toList ∧
    (∀ text, capture.octets = Text.Utf8.encode text →
      Text.Utf8.encode capture.text = capture.octets) ∧
    capture.text.utf8ByteSize ≤ 3 * limit := by
  intro stream capture
  have holds : HoldsFront limit stream capture := holdsFront_ofChunks limit nonempty
  refine ⟨((holdsFront_start limit).drain nonempty).1, ?front, holds.truncated, ?chunking,
    Text.Utf8.decodeLossy_eq_iff.mp rfl, ?valid, ?size⟩
  case front => rw [holds.octets, List.take_eq_take_min]
  case chunking =>
    intro others othersNonempty same
    have holdsToo := holdsFront_ofChunks limit othersNonempty
    rw [same] at holdsToo
    exact holds.congr holdsToo
  case valid =>
    intro text spelled
    rw [Capture.text, spelled, Text.Utf8.decodeLossy_encode]
  case size =>
    have kept : capture.octets.length ≤ limit := by
      rw [holds.octets, List.length_take]
      exact Nat.min_le_left ..
    calc capture.text.utf8ByteSize
        ≤ 3 * capture.octets.length := Text.Utf8.utf8ByteSize_decodeLossy_le capture.octets
      _ ≤ 3 * limit := Nat.mul_le_mul_left 3 kept

/-- The limit cuts the second character after two of its three octets, which two reads bring. -/
theorem keeps_front_cut :
    let chunks : List (List UInt8) := [[0x61, 0xE2], [0x82, 0xAC, 0x62]]
    let capture := ofChunks 3 chunks
    (∀ chunk ∈ chunks, chunk ≠ []) ∧
    ((start 3).drain chunks).2 = [] ∧ capture.octets = [0x61, 0xE2, 0x82] ∧
    capture.truncated = true ∧ capture.text = "a\uFFFD" ∧ capture.text.utf8ByteSize ≤ 3 * 3 := by
  intro chunks capture
  have nonempty : ∀ chunk ∈ chunks, chunk ≠ [] := by decide
  obtain ⟨read, front, dropped, -, -, -, size⟩ := keeps_front 3 chunks nonempty
  exact ⟨nonempty, read, front, dropped.mpr (by decide), by decide +kernel, size⟩

end Capture

namespace Host

/-- The reader of a channel is given everything that was written to it. -/
theorem flatten_reads (writes : List (List UInt8)) : (reads writes).flatten = writes.flatten :=
  List.flatten_filter_not_isEmpty

/-- No read of a channel gives nothing: a write that brings nothing is no read, and the end of the
stream is no chunk. -/
theorem nonempty_of_mem_reads (writes : List (List UInt8)) :
    ∀ chunk ∈ reads writes, chunk ≠ [] := by
  intro chunk inside
  have visible := (List.mem_filter.mp inside).2
  rintro rfl
  cases visible

/-- The outcome of a process carries the front of each of its streams, and says of each whether
there was more. -/
theorem captured_of_outcome {limits : ExecutionLimits} {finish : Finish} {result : Outcome}
    (ended : outcome limits finish = .ok result) :
    result.stdout = Text.Utf8.decodeLossy (finish.stdout.flatten.take limits.outputBytes) ∧
    (result.stdoutTruncated = true ↔ limits.outputBytes < finish.stdout.flatten.length) ∧
    result.stderr = Text.Utf8.decodeLossy (finish.stderr.flatten.take limits.outputBytes) ∧
    (result.stderrTruncated = true ↔ limits.outputBytes < finish.stderr.flatten.length) := by
  have held (writes : List (List UInt8)) : Capture.HoldsFront limits.outputBytes writes.flatten
      (Capture.ofChunks limits.outputBytes (reads writes)) := by
    have holds := Capture.holdsFront_ofChunks limits.outputBytes (nonempty_of_mem_reads writes)
    rwa [flatten_reads] at holds
  have text (writes : List (List UInt8)) :
      (Capture.ofChunks limits.outputBytes (reads writes)).text =
        Text.Utf8.decodeLossy (writes.flatten.take limits.outputBytes) :=
    congrArg Text.Utf8.decodeLossy (held writes).octets
  unfold outcome at ended
  dsimp only at ended
  split at ended
  · cases ended
  · split at ended
    · cases ended
    · cases ended
    · obtain rfl := Except.ok.inj ended
      exact ⟨text _, (held _).truncated, text _, (held _).truncated⟩

end Host

end Gatehouse
