import Gatehouse.Json.Writer
import Gatehouse.Proofs.Json.Canonical

/-!
# Written documents are one line

No control character stands in the compact text of any value. Marks and words hold none,
a number is digits with marks between them, and in a text every control character is
written as an escape, which is made of a backslash, letters and digits. So nothing that
a text holds can begin a new line.
-/

namespace Gatehouse.Text

/-- No character stands below the space, so none is a line break. -/
def FreeOfControls (characters : List Char) : Prop :=
  ∀ character ∈ characters, 0x20 ≤ character.toNat

instance (characters : List Char) : Decidable (FreeOfControls characters) :=
  List.decidableBAll (fun character : Char => 0x20 ≤ character.toNat) characters

/-- Two texts joined are free of control characters if both are. -/
theorem freeOfControls_append {front back : List Char} :
    FreeOfControls (front ++ back) ↔ FreeOfControls front ∧ FreeOfControls back :=
  List.forall_mem_append

/-- So is a character in front of a text. -/
theorem freeOfControls_cons {first : Char} {rest : List Char} :
    FreeOfControls (first :: rest) ↔ 0x20 ≤ first.toNat ∧ FreeOfControls rest :=
  List.forall_mem_cons

/-- Characters of a text without control characters are such a text again. -/
theorem FreeOfControls.of_subset {part whole : List Char} (free : FreeOfControls whole)
    (inside : part ⊆ whole) : FreeOfControls part := fun character member =>
  free character (inside member)

/-- A line break is a control character. -/
theorem FreeOfControls.lineBreak_not_mem {characters : List Char}
    (free : FreeOfControls characters) : '\n' ∉ characters := by
  intro inside
  exact absurd (free '\n' inside) (by decide)

/-- Texts without a line break are told apart by what is printed, whatever follows their lines: the
first line break of each side ends its line. -/
theorem lines_inj {first second rest rest' : List Char} (free : '\n' ∉ first)
    (free' : '\n' ∉ second) (same : first ++ '\n' :: rest = second ++ '\n' :: rest') :
    first = second ∧ rest = rest' := by
  -- The longer one would go on with the line break behind the shorter one.
  rcases List.append_eq_append_iff.mp same with ⟨more, rfl, behind⟩ | ⟨more, rfl, behind⟩
  all_goals
    cases more with
    | nil => simp_all
    | cons character more =>
      obtain ⟨rfl, -⟩ := List.cons.inj behind
      simp at free free'

/-- Digits are no control characters. -/
theorem freeOfControls_toDigits (value : Nat) : FreeOfControls (Nat.toDigits 10 value) := by
  intro digit inside
  have decimal := Nat.isDigit_of_mem_toDigits (by decide) (by decide) inside
  simp only [Char.isDigit, Bool.and_eq_true, decide_eq_true_eq] at decimal
  have above : '0'.toNat ≤ digit.toNat := decimal.1
  exact Nat.le_trans (by decide) above

/-- Zeros are no control characters. -/
theorem freeOfControls_zeros (count : Nat) : FreeOfControls (List.replicate count '0') := by
  intro digit inside
  obtain rfl := List.eq_of_mem_replicate inside
  decide

end Gatehouse.Text

namespace Gatehouse.Number

open Text

/-- A decimal without its trailing zeros is still digits. -/
theorem freeOfControls_normalize (count : Nat) (power : Int) :
    FreeOfControls (normalize count power).digits := by
  refine (freeOfControls_toDigits count).of_subset ?_
  intro digit inside
  have kept : digit ∈ (Nat.toDigits 10 count).reverse.dropWhile (· = '0') :=
    List.mem_reverse.mp inside
  exact List.mem_reverse.mp ((List.dropWhile_suffix _).subset kept)

/-- Whichever grid is taken, its point is digits. By induction on the grids that are tried. -/
theorem freeOfControls_searchGrids (number : Binary64) (leading : Int) (digits fuel : Nat) :
    FreeOfControls (searchGrids number leading digits fuel).digits := by
  induction fuel generalizing digits with
  | zero => exact freeOfControls_normalize 0 0
  | succ fuel inductionHypothesis =>
    rw [searchGrids]
    split
    · exact freeOfControls_normalize _ _
    · exact inductionHypothesis (digits + 1)

/-- A decimal is written as its digits with zeros and marks. -/
theorem Decimal.freeOfControls_write {decimal : Decimal}
    (free : FreeOfControls decimal.digits) : FreeOfControls decimal.write := by
  unfold Decimal.write
  split
  · split
    -- A fraction below one.
    · refine freeOfControls_append.mpr ⟨freeOfControls_cons.mpr ⟨by decide, ?_⟩, free⟩
      exact freeOfControls_cons.mpr ⟨by decide, freeOfControls_zeros _⟩
    · have padded (count : Nat) :
          FreeOfControls (decimal.digits ++ List.replicate count '0') :=
        freeOfControls_append.mpr ⟨free, freeOfControls_zeros count⟩
      refine freeOfControls_append.mpr ⟨(padded _).of_subset (List.take_subset ..), ?_⟩
      refine freeOfControls_cons.mpr ⟨by decide, ?_⟩
      split
      · decide
      · exact (padded _).of_subset (List.drop_subset ..)
  · have exponent : FreeOfControls (Nat.toDigits 10 decimal.exponent.natAbs) :=
      freeOfControls_toDigits _
    refine freeOfControls_append.mpr ⟨freeOfControls_append.mpr ⟨?_, ?_⟩, ?_⟩
    · exact free.of_subset (List.take_subset ..)
    · split
      · exact List.forall_mem_nil _
      · exact freeOfControls_cons.mpr ⟨by decide, free.of_subset (List.drop_subset ..)⟩
    · refine freeOfControls_cons.mpr ⟨by decide, freeOfControls_cons.mpr ⟨?_, exponent⟩⟩
      split <;> decide

/-- A floating point number is written as a decimal, with its sign in front. -/
theorem freeOfControls_writeBinary64 (number : Binary64) :
    FreeOfControls (writeBinary64 number) := by
  have magnitude : FreeOfControls
      (if number.isZero then ['0', '.', '0'] else (shortest number).write) := by
    split
    · decide
    · exact Decimal.freeOfControls_write (freeOfControls_searchGrids _ _ _ _)
  rw [writeBinary64]
  split
  · exact freeOfControls_cons.mpr ⟨by decide, magnitude⟩
  · exact magnitude

end Gatehouse.Number

namespace Gatehouse.Json

open Text

/-- A number is written with digits and marks, be it an integer or not. -/
theorem Number.freeOfControls_write (number : Number) : FreeOfControls number.write := by
  cases number with
  | integer value =>
    rw [Number.write, Int.toString_eq_repr, Int.repr_eq_if]
    split
    · rw [Nat.toList_repr]
      exact freeOfControls_toDigits _
    · rw [String.toList_append, Nat.toList_repr]
      exact freeOfControls_append.mpr ⟨by decide, freeOfControls_toDigits _⟩
  | float value => exact Gatehouse.Number.freeOfControls_writeBinary64 value

/-- A control character is written as an escape, and every other one as itself or as an escape. The
characters of escapes can all be seen. -/
theorem freeOfControls_escape (character : Char) : FreeOfControls (escape character) := by
  have digits : ∀ value, value < 16 → 0x20 ≤ (Text.Hex.digit value).toNat := by decide
  unfold escape
  split
  case h_8 =>
    simp only
    split
    · next control =>
      have high := digits (character.toNat / 16) (by omega)
      have low := digits (character.toNat % 16) (by omega)
      simp [FreeOfControls, high, low]
    · next visible => exact List.forall_mem_singleton.mpr (by omega)
  all_goals decide

/-- A text is written without control characters, whatever it holds: each of its characters is, and
so are the quotes. -/
theorem freeOfControls_writeText (text : String) : FreeOfControls (writeText text) := by
  have escaped : FreeOfControls (text.toList.flatMap escape) := by
    intro character inside
    obtain ⟨source, -, written⟩ := List.mem_flatMap.mp inside
    exact freeOfControls_escape source character written
  exact freeOfControls_append.mpr ⟨freeOfControls_cons.mpr ⟨by decide, escaped⟩, by decide⟩

/-- Only commas are put between written parts. -/
theorem freeOfControls_joinParts {parts : List (List Char)}
    (each : ∀ part ∈ parts, FreeOfControls part) : FreeOfControls (joinParts parts) := by
  fun_induction joinParts parts with
  | case1 => exact List.forall_mem_nil _
  | case2 part => exact each part List.mem_cons_self
  | case3 part rest notEmpty inductionHypothesis =>
    obtain ⟨first, others⟩ := List.forall_mem_cons.mp each
    exact freeOfControls_append.mpr
      ⟨first, freeOfControls_cons.mpr ⟨by decide, inductionHypothesis others⟩⟩

/-- Items are written one by one. -/
theorem writeItems_eq_map (items : List Value) : writeItems items = items.map Value.write := by
  induction items with
  | nil => rfl
  | cons item rest inductionHypothesis => rw [writeItems, inductionHypothesis, List.map_cons]

/-- Members are written one by one, each behind its name. -/
theorem writeMembers_eq_map (members : List (String × Value)) : writeMembers members =
    members.map fun member => writeText member.1 ++ ':' :: member.2.write := by
  induction members with
  | nil => rfl
  | cons member rest inductionHypothesis => rw [writeMembers, inductionHypothesis, List.map_cons]

/-- No control character stands in the compact text of a value. By induction on the value: what is
put between its parts are marks. -/
theorem Value.freeOfControls_write (value : Value) : FreeOfControls value.write := by
  induction value using Value.induct with
  | null => decide
  | bool value => cases value <;> decide
  | number value => exact value.freeOfControls_write
  | text value => exact freeOfControls_writeText value
  | list items inductionHypothesis =>
    have each : ∀ part ∈ writeItems items, FreeOfControls part := by
      rw [writeItems_eq_map]
      exact List.forall_mem_map.mpr inductionHypothesis
    exact freeOfControls_append.mpr
      ⟨freeOfControls_cons.mpr ⟨by decide, freeOfControls_joinParts each⟩, by decide⟩
  | object members inductionHypothesis =>
    have each : ∀ part ∈ writeMembers members, FreeOfControls part := by
      rw [writeMembers_eq_map]
      refine List.forall_mem_map.mpr fun member inside => ?_
      exact freeOfControls_append.mpr ⟨freeOfControls_writeText member.1,
        freeOfControls_cons.mpr ⟨by decide, inductionHypothesis member inside⟩⟩
    exact freeOfControls_append.mpr
      ⟨freeOfControls_cons.mpr ⟨by decide, freeOfControls_joinParts each⟩, by decide⟩

/-- Nor is there one in the text as a string. -/
theorem Value.freeOfControls_render (value : Value) : FreeOfControls value.render.toList := by
  rw [render, String.toList_ofList]
  exact value.freeOfControls_write

end Gatehouse.Json
