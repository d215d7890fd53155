/-!
# UTF-8

Reading octets as characters. One table gives, for each first octet, how many
octets follow and which range the second one lies in; strict and lossy reading
are two uses of the step that the table defines.

Strict reading refuses the whole text at the first octet that fits nowhere.
Lossy reading puts one replacement character in the place of each longest run
of octets that begins a character but does not finish it, or of a single octet
that begins none. No octet is read twice and none is dropped.
-/

namespace Gatehouse.Text.Utf8

/-- The octets of a text. -/
def encode (text : String) : List UInt8 := text.toUTF8.data.toList

/-- What a first octet announces: the payload bits it carries, the number of octets
after it, and the bounds of the second octet, which exclude overlong forms,
surrogates and values past the last character. -/
structure Lead where
  bits : Nat
  following : Nat
  low : Nat
  high : Nat
deriving DecidableEq, Repr

/-- The lead of a first octet above the ASCII range. -/
def lead (octet : Nat) : Option Lead :=
  if 0xC2 ≤ octet ∧ octet ≤ 0xDF then some ⟨octet - 0xC0, 1, 0x80, 0xBF⟩
  else if octet = 0xE0 then some ⟨0, 2, 0xA0, 0xBF⟩
  else if 0xE1 ≤ octet ∧ octet ≤ 0xEC then some ⟨octet - 0xE0, 2, 0x80, 0xBF⟩
  else if octet = 0xED then some ⟨0xD, 2, 0x80, 0x9F⟩
  else if 0xEE ≤ octet ∧ octet ≤ 0xEF then some ⟨octet - 0xE0, 2, 0x80, 0xBF⟩
  else if octet = 0xF0 then some ⟨0, 3, 0x90, 0xBF⟩
  else if 0xF1 ≤ octet ∧ octet ≤ 0xF3 then some ⟨octet - 0xF0, 3, 0x80, 0xBF⟩
  else if octet = 0xF4 then some ⟨4, 3, 0x80, 0x8F⟩
  else none

/-- Collect the octets a lead announces. The result is the code point, or nothing
when an octet is out of its range or the text ends, and in both cases what is left;
the octet that does not fit is left too, because it may begin a character. -/
def follow (value following low high : Nat) : List UInt8 → Option Nat × List UInt8
  | [] => (if following = 0 then some value else none, [])
  | octet :: rest =>
    if following = 0 then (some value, octet :: rest)
    else if low ≤ octet.toNat ∧ octet.toNat ≤ high then
      follow (value * 64 + (octet.toNat - 0x80)) (following - 1) 0x80 0xBF rest
    else (none, octet :: rest)

/-- The octets that follow a first one are taken from the front, so no more are left than there
were. -/
theorem follow_length_le (value following low high : Nat) (octets : List UInt8) :
    (follow value following low high octets).2.length ≤ octets.length := by
  induction octets generalizing value following low high with
  | nil => simp [follow]
  | cons octet rest inductionHypothesis =>
    simp only [follow]
    split
    · simp
    · split
      · have := inductionHypothesis (value * 64 + (octet.toNat - 0x80)) (following - 1) 0x80 0xBF
        simp only [List.length_cons]
        omega
      · simp

/-- Read one character, or nothing where the octets at hand begin none, and what is left. -/
def step (octet : UInt8) (rest : List UInt8) : Option Char × List UInt8 :=
  if octet.toNat < 0x80 then (some (Char.ofNat octet.toNat), rest)
  else match lead octet.toNat with
    | none => (none, rest)
    | some found =>
      let (value, left) := follow found.bits found.following found.low found.high rest
      (value.map Char.ofNat, left)

/-- A step takes the first octet in any case, and those that follow it as far as they fit. This is
the measure by which decoding ends. -/
theorem step_length_le (octet : UInt8) (rest : List UInt8) :
    (step octet rest).2.length ≤ rest.length := by
  unfold step
  split
  · simp
  · split
    · simp
    · exact follow_length_le ..

/-- The characters of the octets behind those already `done`, the latest of which stand
first; nothing takes the place of octets that form none. -/
def piecesAfter (done : List (Option Char)) : List UInt8 → List (Option Char)
  | [] => done.reverse
  | octet :: rest => piecesAfter ((step octet rest).1 :: done) (step octet rest).2
termination_by octets => octets.length
decreasing_by
  have := step_length_le octet rest
  simp only [List.length_cons]
  omega

/-- The characters of the octets, nothing in the place of those that form none. -/
def pieces (octets : List UInt8) : List (Option Char) := piecesAfter [] octets

/-- The pieces that were gathered stand in front of those that are still to come. The loop gathers
them backwards; stated like this, it can be followed without the part that is done. -/
theorem piecesAfter_eq (done : List (Option Char)) (octets : List UInt8) :
    piecesAfter done octets = done.reverse ++ pieces octets := by
  suffices general : ∀ (size : Nat) (octets : List UInt8), octets.length ≤ size →
      ∀ done, piecesAfter done octets = done.reverse ++ pieces octets from
    general octets.length octets (Nat.le_refl _) done
  intro size
  induction size with
  | zero =>
    intro octets bounded done
    obtain rfl := List.length_eq_zero_iff.mp (Nat.le_zero.mp bounded)
    simp [pieces, piecesAfter]
  | succ size inductionHypothesis =>
    intro octets bounded done
    cases octets with
    | nil => simp [pieces, piecesAfter]
    | cons octet rest =>
      have shorter : (step octet rest).2.length ≤ size := by
        have := step_length_le octet rest
        simp only [List.length_cons] at bounded
        omega
      simp only [pieces]
      rw [piecesAfter, inductionHypothesis _ shorter, piecesAfter,
        inductionHypothesis _ shorter [(step octet rest).1]]
      simp

/-- The first character, then those of what its step leaves. -/
theorem pieces_cons (octet : UInt8) (rest : List UInt8) :
    pieces (octet :: rest) = (step octet rest).1 :: pieces (step octet rest).2 := by
  rw [pieces, piecesAfter, piecesAfter_eq]
  simp

/-- The text of octets that are UTF-8 throughout. -/
def decode? (octets : List UInt8) : Option String :=
  ((pieces octets).mapM id).map String.ofList

/-- The character that stands for octets which form none. -/
def replacement : Char := '\uFFFD'

/-- The text of any octets, a replacement character for each run that forms none. -/
def decodeLossy (octets : List UInt8) : String :=
  String.ofList ((pieces octets).map fun piece => piece.getD replacement)

/-- The number of octets a text takes. -/
def size (characters : List Char) : Nat :=
  characters.foldl (fun total character => total + character.utf8Size) 0

end Gatehouse.Text.Utf8
