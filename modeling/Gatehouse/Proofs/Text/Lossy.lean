import Gatehouse.Proofs.Text.Utf8

/-!
# Octets that are no text

What lossy reading makes of any octets, said without the reader: characters stand for
their own octets, and one replacement for each run of octets that begins a character and
does not finish it, as long as such a run can be, or for a single octet that begins none.
The octets leave no choice in this, and lossy reading is that text. So it gives back
every text from its octets, and never more than three octets for each of those read: a
replacement has three of its own and takes at least one.
-/

namespace Gatehouse.Text.Utf8

/-- Octets stand at the front of a character, or are all of it. -/
def Fronts (front : List UInt8) : Prop :=
  ∃ character more, String.utf8EncodeChar character = front ++ more

/-- The octets at the front of others form no character, and are one octet or the beginning of some
character. With the octet behind them they would not even be that. -/
structure Broken (front rest : List UInt8) : Prop where
  nonempty : front ≠ []
  formless : ∀ character more, front ++ rest ≠ String.utf8EncodeChar character ++ more
  begun : front.length = 1 ∨ Fronts front
  longest : ∀ next more, rest = next :: more → ¬ Fronts (front ++ [next])

/-- The characters that stand for octets, a replacement for each run that forms none. -/
inductive LossyText : List UInt8 → List Char → Prop
  | nil : LossyText [] []
  | character {rest : List UInt8} {text : List Char} (character : Char)
    (behind : LossyText rest text) :
    LossyText (String.utf8EncodeChar character ++ rest) (character :: text)
  | broken {front rest : List UInt8} {text : List Char} (broken : Broken front rest)
    (behind : LossyText rest text) : LossyText (front ++ rest) (replacement :: text)

/-! ## The step of the reader -/

/-- A character at the front is taken, with nothing of what follows it. -/
theorem step_of_utf8EncodeChar {octet : UInt8} {more : List UInt8} {character : Char}
    (encoded : String.utf8EncodeChar character = octet :: more) (rest : List UInt8) :
    step octet (more ++ rest) = (some character, rest) := by
  have read := pieces_utf8EncodeChar character rest
  rw [encoded, List.cons_append, pieces_cons] at read
  obtain ⟨first, -⟩ := List.cons.inj read
  have taken : step octet (more ++ rest) = (some character, (step octet (more ++ rest)).2) :=
    Prod.ext first rfl
  have whole := octets_of_step taken
  rw [encoded, List.cons_append, List.cons.injEq, List.append_cancel_left_eq] at whole
  rw [taken, ← whole.2]

/-- From any place of a character there are octets that finish it. -/
theorem exists_followed {low high : Nat} (value following : Nat) (above : 0x80 ≤ low)
    (ordered : low ≤ high) (below : high ≤ 0xBF) :
    ∃ more result, follow value following low high more = (some result, []) := by
  induction following generalizing value low high with
  | zero => exact ⟨[], value, follow_zero value low high []⟩
  | succ following inductionHypothesis =>
    obtain ⟨more, result, followed⟩ := inductionHypothesis
      (value * 64 + (low - 0x80)) (Nat.le_refl 0x80) (by decide) (Nat.le_refl 0xBF)
    refine ⟨UInt8.ofNat (low - 0x80 + 0x80) :: more, result, ?_⟩
    rw [follow_cons (by omega) (by omega) (by omega), followed]

/-- Where following stops short, the octets that were taken can be finished, and cannot with the
octet at which it stopped. -/
theorem taken_of_follow {value following low high : Nat} {octets left : List UInt8}
    (above : 0x80 ≤ low) (ordered : low ≤ high) (below : high ≤ 0xBF)
    (stopped : follow value following low high octets = (none, left)) :
    ∃ taken, octets = taken ++ left ∧
      (∃ more result, follow value following low high (taken ++ more) = (some result, [])) ∧
      ∀ next behind, left = next :: behind → ∀ more,
        (follow value following low high (taken ++ next :: more)).1 = none := by
  have unfinished : following ≠ 0 := by
    rintro rfl
    rw [follow_zero] at stopped
    cases stopped
  induction octets generalizing value following low high with
  | nil =>
    rw [follow, if_neg unfinished] at stopped
    obtain ⟨-, rfl⟩ := Prod.mk.inj stopped
    refine ⟨[], rfl, exists_followed value following above ordered below, ?_⟩
    intro next behind same
    cases same
  | cons octet rest inductionHypothesis =>
    rw [follow, if_neg unfinished] at stopped
    by_cases range : low ≤ octet.toNat ∧ octet.toNat ≤ high
    · rw [if_pos range] at stopped
      have stillUnfinished : following - 1 ≠ 0 := by
        intro finished
        rw [finished, follow_zero] at stopped
        cases stopped
      obtain ⟨taken, rfl, ⟨more, result, followed⟩, refused⟩ :=
        inductionHypothesis (Nat.le_refl 0x80) (by decide) (Nat.le_refl 0xBF) stopped
          stillUnfinished
      refine ⟨octet :: taken, rfl, ⟨more, result, ?_⟩, ?_⟩
      · rw [List.cons_append, follow, if_neg unfinished, if_pos range, followed]
      · intro next behind same more
        rw [List.cons_append, follow, if_neg unfinished, if_pos range]
        exact refused next behind same more
    · rw [if_neg range] at stopped
      obtain ⟨-, rfl⟩ := Prod.mk.inj stopped
      refine ⟨[], rfl, exists_followed value following above ordered below, ?_⟩
      intro next behind same more
      obtain ⟨rfl, -⟩ := List.cons.inj same
      rw [List.nil_append, follow, if_neg unfinished, if_neg range]

/-- The range that a lead leaves to the second octet is never empty, and holds no first octets. -/
theorem range_of_lead {octet : Nat} {found : Lead} (led : lead octet = some found) :
    0x80 ≤ found.low ∧ found.low ≤ found.high ∧ found.high ≤ 0xBF := by
  simp only [lead] at led
  -- Every row of the table has numbers for its range.
  repeat' split at led
  all_goals simp only [Option.some.injEq, reduceCtorEq] at led
  all_goals
    subst led
    simp

/-- Where the step gives no character, what it takes is a broken run: either its first octet begins
no character, or the octets behind it stop short. -/
theorem broken_of_step {octet : UInt8} {rest left : List UInt8}
    (missed : step octet rest = (none, left)) :
    ∃ taken, rest = taken ++ left ∧ Broken (octet :: taken) left := by
  -- With a character at the front the step would have given it.
  have formless : ∀ character more, octet :: rest ≠ String.utf8EncodeChar character ++ more := by
    intro character more whole
    cases encoded : String.utf8EncodeChar character with
    | nil => exact absurd encoded String.utf8EncodeChar_ne_nil
    | cons first others =>
      rw [encoded, List.cons_append] at whole
      obtain ⟨rfl, rfl⟩ := List.cons.inj whole
      rw [step_of_utf8EncodeChar encoded] at missed
      cases missed
  unfold step at missed
  split at missed
  · cases missed
  · next notAscii =>
    split at missed
    · next noLead =>
      obtain ⟨-, rfl⟩ := Prod.mk.inj missed
      refine ⟨[], rfl, by simp, formless, .inl rfl, ?_⟩
      rintro next more - ⟨character, behind, encoded⟩
      have taken := step_of_utf8EncodeChar encoded []
      simp [step, notAscii, noLead] at taken
    · next found led =>
      obtain ⟨above, ordered, below⟩ := range_of_lead led
      have stopped : follow found.bits found.following found.low found.high rest =
          (none, left) := by
        obtain ⟨nothing, rfl⟩ := Prod.mk.inj missed
        exact Prod.ext (Option.map_eq_none_iff.mp nothing) rfl
      obtain ⟨taken, rfl, ⟨more, result, followed⟩, refused⟩ :=
        taken_of_follow above ordered below stopped
      refine ⟨taken, rfl, by simp, formless, .inr ?_, ?_⟩
      · have finished : step octet (taken ++ more) = (some (Char.ofNat result), []) := by
          simp [step, notAscii, led, followed]
        exact ⟨_, more, by rw [List.cons_append, octets_of_step finished, List.append_nil]⟩
      · rintro next behind rfl ⟨character, more, encoded⟩
        have taken := step_of_utf8EncodeChar encoded []
        have nothing := refused next behind rfl more
        simp [step, notAscii, led, nothing] at taken

/-! ## The text of any octets -/

/-- Lossy reading gives a replacement for each broken run. -/
theorem lossyText_pieces (octets : List UInt8) :
    LossyText octets ((pieces octets).map fun piece => piece.getD replacement) := by
  induction length : octets.length using Nat.strongRecOn generalizing octets with
  | ind size inductionHypothesis =>
    cases octets with
    | nil =>
      rw [pieces, piecesAfter]
      exact .nil
    | cons octet rest =>
      have shorter := step_length_le octet rest
      rw [List.length_cons] at length
      have behind := inductionHypothesis _ (by omega) (step octet rest).2 rfl
      rw [pieces_cons, List.map_cons]
      cases read : (step octet rest).1 with
      | some character =>
        have taken : step octet rest = (some character, (step octet rest).2) := Prod.ext read rfl
        rw [octets_of_step taken]
        exact .character character behind
      | none =>
        have missed : step octet rest = (none, (step octet rest).2) := Prod.ext read rfl
        obtain ⟨taken, whole, broken⟩ := broken_of_step missed
        have split : octet :: rest = (octet :: taken) ++ (step octet rest).2 :=
          congrArg (octet :: ·) whole
        rw [split]
        exact .broken broken behind

/-- A broken run cannot be made longer, because no octet may follow it on the way to a character. -/
theorem Broken.gap_eq_nil {front gap rest : List UInt8} (short : Broken front (gap ++ rest))
    (long : Broken (front ++ gap) rest) : gap = [] := by
  cases gap with
  | nil => rfl
  | cons next others =>
    have notSingle : (front ++ next :: others).length ≠ 1 := by
      have := List.length_pos_iff.mpr short.nonempty
      simp only [List.length_append, List.length_cons]
      omega
    obtain ⟨character, more, encoded⟩ := long.begun.resolve_left notSingle
    refine absurd ⟨character, others ++ more, ?_⟩ (short.longest next (others ++ rest) rfl)
    simpa using encoded

/-- Octets have one broken run at their front at most: of two, the shorter could be made longer. -/
theorem Broken.unique {front rest front' rest' : List UInt8}
    (same : front ++ rest = front' ++ rest') (first : Broken front rest)
    (second : Broken front' rest') : front = front' ∧ rest = rest' := by
  rcases List.append_eq_append_iff.mp same with ⟨gap, rfl, rfl⟩ | ⟨gap, rfl, rfl⟩
  · obtain rfl := first.gap_eq_nil second
    simp
  · obtain rfl := second.gap_eq_nil first
    simp

/-- The reader has nothing to give for a broken run, and goes on behind it. -/
theorem Broken.pieces_append {front rest : List UInt8} (broken : Broken front rest) :
    pieces (front ++ rest) = none :: pieces rest := by
  cases front with
  | nil => exact absurd rfl broken.nonempty
  | cons octet others =>
    rw [List.cons_append, pieces_cons]
    cases read : (step octet (others ++ rest)).1 with
    | some character =>
      have taken : step octet (others ++ rest) =
        (some character, (step octet (others ++ rest)).2) := Prod.ext read rfl
      exact absurd (octets_of_step taken) (broken.formless _ _)
    | none =>
      have missed : step octet (others ++ rest) =
        (none, (step octet (others ++ rest)).2) := Prod.ext read rfl
      obtain ⟨taken, whole, stepped⟩ := broken_of_step missed
      have same : octet :: others ++ rest = octet :: taken ++ (step octet (others ++ rest)).2 :=
        congrArg (octet :: ·) whole
      rw [← (Broken.unique same broken stepped).2]

/-- Octets have no other lossy text than the one that is read. By induction on the lossy text, whose
first part is a character or a broken run. -/
theorem LossyText.eq_map_pieces {octets : List UInt8} {text : List Char}
    (spelled : LossyText octets text) :
    text = (pieces octets).map fun piece => piece.getD replacement := by
  induction spelled with
  | nil =>
    rw [pieces, piecesAfter]
    rfl
  | character character _ inductionHypothesis =>
    rw [pieces_utf8EncodeChar, List.map_cons, ← inductionHypothesis]
    rfl
  | broken broken _ inductionHypothesis =>
    rw [broken.pieces_append, List.map_cons, ← inductionHypothesis]
    rfl

/-- Lossy reading is given by what the octets spell. -/
theorem decodeLossy_eq_iff {octets : List UInt8} {text : String} :
    decodeLossy octets = text ↔ LossyText octets text.toList := by
  constructor
  · rintro rfl
    rw [decodeLossy, String.toList_ofList]
    exact lossyText_pieces octets
  · intro spelled
    rw [decodeLossy, ← spelled.eq_map_pieces, String.ofList_toList]

/-- Octets that are those of a text give that text. -/
theorem decodeLossy_encode (text : String) : decodeLossy (encode text) = text := by
  have kept : (fun piece : Option Char => piece.getD replacement) ∘ some = id := rfl
  rw [decodeLossy, pieces_encode, List.map_map, kept, List.map_id, String.ofList_toList]

/-- A character of a lossy text takes three octets at most for each of those that it stands for: the
replacement takes three, and stands for one at least. -/
theorem LossyText.length_le {octets : List UInt8} {text : List Char}
    (spelled : LossyText octets text) :
    (text.flatMap String.utf8EncodeChar).length ≤ 3 * octets.length := by
  induction spelled with
  | nil => exact Nat.le_refl 0
  | character character _ inductionHypothesis =>
    rw [List.flatMap_cons, List.length_append, List.length_append]
    omega
  | broken broken _ inductionHypothesis =>
    have width : (String.utf8EncodeChar replacement).length = 3 := by decide
    have taken := List.length_pos_iff.mpr broken.nonempty
    rw [List.flatMap_cons, List.length_append, List.length_append, width]
    omega

/-- So the text that is kept of some octets is no more than three times as long. -/
theorem utf8ByteSize_decodeLossy_le (octets : List UInt8) :
    (decodeLossy octets).utf8ByteSize ≤ 3 * octets.length := by
  have spelled : LossyText octets (decodeLossy octets).toList := decodeLossy_eq_iff.mp rfl
  have size : (decodeLossy octets).utf8ByteSize =
      ((decodeLossy octets).toList.flatMap String.utf8EncodeChar).length := by
    rw [← encode_ofList, String.ofList_toList]
    rfl
  rw [size]
  exact spelled.length_le

end Gatehouse.Text.Utf8
