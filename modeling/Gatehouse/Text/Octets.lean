import Gatehouse.Text.Utf8

/-!
# Texts of octets

A text in which every character stands for one octet, the octet of its number. Programs
that know nothing of characters cut and compare texts octet by octet; in this form they
can do so with the operations on texts, and a text that is ASCII is the same in both forms.
-/

namespace Gatehouse.Text.Octets

/-- The text of octets. -/
def ofList (octets : List UInt8) : String :=
  String.ofList (octets.map fun octet => Char.ofNat octet.toNat)

/-- The octets of a text of octets. -/
def toList (text : String) : List UInt8 :=
  text.toList.map fun character => UInt8.ofNat character.toNat

/-- The text of the octets that a text is encoded in. -/
def ofText (text : String) : String := ofList (Utf8.encode text)

/-- The text that octets encode; what encodes nothing is replaced. -/
def toText (text : String) : String := Utf8.decodeLossy (toList text)

/-- Octets that were packed are unpacked as they were. -/
theorem toList_ofList (octets : List UInt8) : toList (ofList octets) = octets := by
  have same (octet : UInt8) : UInt8.ofNat (Char.ofNat octet.toNat).toNat = octet := by
    have valid : octet.toNat.isValidChar := .inl (by have := octet.toNat_lt; omega)
    have number : (Char.ofNat octet.toNat).toNat = octet.toNat := by
      unfold Char.ofNat
      rw [dif_pos valid]
      rfl
    rw [number, UInt8.ofNat_toNat]
  simp [toList, ofList, Function.comp_def, same]

end Gatehouse.Text.Octets
