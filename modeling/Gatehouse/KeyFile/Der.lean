/-!
# Tagged octets

Elements of a tag, a length and as many octets of content. Lengths have one form
only: the short one below 128, and above it no more octets than the number needs.
Tags of more than one octet are not read.
-/

namespace Gatehouse.KeyFile.Der

/-- An element: its tag and its content. -/
structure Element where
  tag : UInt8
  content : List UInt8
deriving DecidableEq, Repr

/-- The tag of a whole number. -/
def tagInteger : UInt8 := 0x02

/-- The tag of a string of octets. -/
def tagOctets : UInt8 := 0x04

/-- The tag of a sequence. -/
def tagSequence : UInt8 := 0x30

/-- The number of octets, the highest first. -/
def bigEndian (octets : List UInt8) : Nat :=
  octets.foldl (fun value octet => value * 256 + octet.toNat) 0

/-- A length and what follows it. A long form must need its first octet, so each length is
written in one way. -/
def length? : List UInt8 → Option (Nat × List UInt8)
  | [] => none
  | first :: rest =>
    if first.toNat < 0x80 then some (first.toNat, rest)
    else
      let count := first.toNat - 0x80
      let digits := rest.take count
      let value := bigEndian digits
      let least := max 0x80 (Nat.pow 256 (count - 1))
      if 1 ≤ count ∧ count ≤ 4 ∧ digits.length = count ∧ least ≤ value then
        some (value, rest.drop count)
      else none

/-- The first element and what follows it. -/
def element? : List UInt8 → Option (Element × List UInt8)
  | [] => none
  | tag :: rest => do
    let (size, behind) ← length? rest
    if tag.toNat % 32 ≠ 31 ∧ size ≤ behind.length then
      some (⟨tag, behind.take size⟩, behind.drop size)
    else none

/-- The content of the first element, which has a certain tag, and what follows it. -/
def content? (tag : UInt8) (octets : List UInt8) : Option (List UInt8 × List UInt8) := do
  let (found, rest) ← element? octets
  if found.tag = tag then some (found.content, rest) else none

/-- The content of the only element, which has a certain tag. -/
def only? (tag : UInt8) (octets : List UInt8) : Option (List UInt8) := do
  let (found, rest) ← content? tag octets
  if rest.isEmpty then some found else none

end Gatehouse.KeyFile.Der
