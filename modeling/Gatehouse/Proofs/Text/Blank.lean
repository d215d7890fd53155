import Gatehouse.Text.Blank

/-!
# Blank characters around a text

Trimming takes away what is blank around a text and nothing else, so a text in which
nothing is blank comes back from whatever blank characters were put around it.
-/

namespace Gatehouse.Text

variable {before after : String}

/-- A text without blank characters has none around it. -/
theorem trim_of_forall {text : String}
    (visible : ∀ character ∈ text.toList, isBlank character = false) : trim text = text := by
  have kept (characters : List Char) (inside : characters ⊆ text.toList) :
      characters.dropWhile isBlank = characters := by
    cases characters with
    | nil => rfl
    | cons first rest =>
      have shown := visible first (inside List.mem_cons_self)
      rw [List.dropWhile_cons_of_neg (by rw [shown]; exact Bool.false_ne_true)]
  rw [trim, trimBy, kept _ (List.Subset.refl _), kept _ (by simp), List.reverse_reverse,
    String.ofList_toList]

/-- Blank characters around a text are trimmed away, and no more than would be without them. -/
theorem trim_surrounded (text : String) (blankBefore : isBlankText before = true)
    (blankAfter : isBlankText after = true) : trim (before ++ text ++ after) = trim text := by
  have front : ∀ character ∈ before.toList, isBlank character = true :=
    List.all_eq_true.mp blankBefore
  have back : ∀ character ∈ after.toList.reverse, isBlank character = true := by
    intro character inside
    exact List.all_eq_true.mp blankAfter character (List.mem_reverse.mp inside)
  have dropped : after.toList.dropWhile isBlank = [] := by
    rw [← List.append_nil after.toList,
      List.dropWhile_append_of_pos (List.all_eq_true.mp blankAfter), List.dropWhile_nil]
  rw [trim, trim, trimBy, trimBy, String.toList_append, String.toList_append, List.append_assoc,
    List.dropWhile_append_of_pos front, List.dropWhile_append]
  cases shown : text.toList.dropWhile isBlank with
  | nil => simp [dropped]
  | cons first rest =>
    rw [if_neg (by simp), List.reverse_append, List.dropWhile_append_of_pos back]

/-- A visible character that does not begin a text does not begin it with blanks around it
either. -/
theorem head?_surrounded_ne {text : String} (character : Char)
    (blankBefore : isBlankText before = true) (blankAfter : isBlankText after = true)
    (visible : isBlank character = false) (differs : text.toList.head? ≠ some character) :
    (before ++ text ++ after).toList.head? ≠ some character := by
  have notBlank {blank : String} (all : isBlankText blank = true) :
      blank.toList.head? ≠ some character := by
    intro begins
    have white := List.all_eq_true.mp all character (List.mem_of_head? begins)
    rw [visible] at white
    cases white
  intro begins
  rw [String.toList_append, String.toList_append, List.head?_append, List.head?_append,
    Option.or_eq_some_iff, Option.or_eq_some_iff] at begins
  rcases begins with (inFront | ⟨-, inText⟩) | ⟨-, behind⟩
  · exact notBlank blankBefore inFront
  · exact differs inText
  · exact notBlank blankAfter behind

end Gatehouse.Text
