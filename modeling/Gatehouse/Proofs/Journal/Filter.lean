import Gatehouse.Journal.Filter
import Gatehouse.Proofs.Result
import Gatehouse.Proofs.Text.Utf8

/-!
# Filters that nothing can be made of

The parts of a rule are told apart in the text without the blanks around it, and are then
cut out at the same places of the text as it stands. Where these places lie between
characters a rule can be read or not, but nothing worse happens to it. So a rule is cut
inside a character only if blanks stand in front of it and it holds a character of more
than one octet, and a filter only if one of its rules is.
-/

namespace Gatehouse

namespace Text.Utf8

/-- The size of characters is the number of their octets. A filter counts its places in octets, and
what it holds are characters. -/
theorem size_eq_length (characters : List Char) :
    size characters = (characters.flatMap String.utf8EncodeChar).length := by
  have general (total : Nat) :
      characters.foldl (fun sum character => sum + character.utf8Size) total =
        total + (characters.flatMap String.utf8EncodeChar).length := by
    induction characters generalizing total with
    | nil => rfl
    | cons character rest inductionHypothesis =>
      rw [List.foldl_cons, inductionHypothesis, List.flatMap_cons, List.length_append,
        String.length_utf8EncodeChar, Nat.add_assoc]
  rw [size, general, Nat.zero_add]

/-- The characters of two texts take up as much as both of them do. -/
theorem size_append (first second : List Char) :
    size (first ++ second) = size first + size second := by
  simp only [size_eq_length, List.flatMap_append, List.length_append]

/-- One character takes up what it is encoded in. -/
theorem size_singleton (character : Char) : size [character] = character.utf8Size :=
  Nat.zero_add _

/-- Only no characters at all take up no octets. -/
theorem eq_nil_of_size {characters : List Char} (none : size characters = 0) :
    characters = [] := by
  cases characters with
  | nil => rfl
  | cons character rest =>
    have positive := character.utf8Size_pos
    rw [← List.singleton_append, size_append, size_singleton] at none
    omega

end Text.Utf8

open Text (isBlank trim trimBy)
open Text.Utf8 (encode decode? decode?_encode encode_ofList eq_nil_of_size size size_append
  size_eq_length size_singleton)

namespace FilterRule

variable {isPattern : String → Bool} {text target : String} {place first last : Nat}
  {rest : List Char}

/-- A place of a text is one between its characters: some of them, from the first on, take up as
many octets. -/
def Boundary (text : String) (place : Nat) : Prop :=
  ∃ front, front <+: text.toList ∧ size front = place

/-- The end of a text is a place between characters, behind all of them. -/
theorem boundary_end (text : String) : Boundary text text.utf8ByteSize := by
  refine ⟨text.toList, List.prefix_refl _, ?_⟩
  rw [size_eq_length, ← encode_ofList, String.ofList_toList]
  rfl

/-- Between two places between characters there is a text. What is in front of the first place, and
what is between the two, are octets of whole characters, and these are read as what they are. -/
theorem exists_part (begins : Boundary text first) (ends : Boundary text last)
    (ordered : first ≤ last) : ∃ found, part text first last = .ok found := by
  obtain ⟨front, inFront, rfl⟩ := begins
  obtain ⟨whole, inText, rfl⟩ := ends
  have inWhole : front <+: whole := by
    rcases List.prefix_or_prefix_of_prefix inFront inText with inWhole | ⟨more, rfl⟩
    · exact inWhole
    · have nothing : size more = 0 := by
        rw [size_append] at ordered
        omega
      obtain rfl := eq_nil_of_size nothing
      exact ⟨[], by rw [List.append_nil, List.append_nil]⟩
  obtain ⟨middle, rfl⟩ := inWhole
  obtain ⟨behind, spelled⟩ := inText
  have octets : encode text = front.flatMap String.utf8EncodeChar ++
      (middle.flatMap String.utf8EncodeChar ++ behind.flatMap String.utf8EncodeChar) := by
    rw [← List.flatMap_append, ← List.flatMap_append, ← List.append_assoc, spelled,
      ← encode_ofList, String.ofList_toList]
  have before : (encode text).take (size front) = encode (String.ofList front) := by
    rw [octets, size_eq_length, List.take_left, encode_ofList]
  have between : ((encode text).take (size (front ++ middle))).drop (size front) =
      encode (String.ofList middle) := by
    rw [octets, size_append, size_eq_length, size_eq_length, ← List.append_assoc,
      ← List.length_append, List.take_left, List.drop_left, encode_ofList]
  refine ⟨String.ofList middle, ?_⟩
  simp only [part, before, between, decode?_encode]

/-- The rest of a rule stands at a place, which is counted without the blanks around the rule. -/
def Reached (text : String) (place : Nat) (rest : List Char) : Prop :=
  ∃ done, (trim text).toList = done ++ rest ∧ size done = place

/-- At the start nothing was taken, and the trimmed characters are still to come. -/
theorem Reached.start (text : String) : Reached text 0 (trim text).toList :=
  ⟨[], (List.nil_append _).symm, rfl⟩

/-- Behind a character of one octet the rest stands one place further. -/
theorem Reached.next {character : Char} (reached : Reached text place (character :: rest))
    (narrow : character.utf8Size = 1) : Reached text (place + 1) rest := by
  obtain ⟨done, spelled, rfl⟩ := reached
  refine ⟨done ++ [character], by simpa using spelled, ?_⟩
  rw [size_append, size_singleton, narrow]

/-- Behind some characters the rest stands as much further as they take up. -/
theorem Reached.skip (taken : Char → Bool) (reached : Reached text place rest) :
    Reached text (place + size (rest.takeWhile taken))
      (rest.drop (rest.takeWhile taken).length) := by
  obtain ⟨done, spelled, rfl⟩ := reached
  refine ⟨done ++ rest.takeWhile taken, ?_, size_append _ _⟩
  rw [spelled, List.append_assoc]
  congr 1
  exact (List.prefix_iff_eq_append.mp (List.takeWhile_prefix taken)).symm

/-- The places between the characters of a rule, counted without the blanks around it, are places
between its characters as it stands. -/
def Aligned (text : String) : Prop :=
  ∀ front, front <+: (trim text).toList → Boundary text (size front)

/-- In an aligned rule every place that is reached is one between characters: the characters up to
it are those of the rule as it stands. -/
theorem Reached.boundary (reached : Reached text place rest) (aligned : Aligned text) :
    Boundary text place := by
  obtain ⟨done, spelled, rfl⟩ := reached
  exact aligned done ⟨rest, spelled.symm⟩

/-- A rule that begins with a visible character is aligned: only what stands behind it is trimmed,
so its characters up to a place are those of the rule as it stands. -/
theorem aligned_of_visible
    (visible : ∀ character ∈ text.toList.head?, isBlank character = false) : Aligned text := by
  have kept : text.toList.dropWhile isBlank = text.toList := by
    cases spelled : text.toList with
    | nil => rfl
    | cons character rest =>
      have shown := visible character (by rw [spelled]; rfl)
      exact List.dropWhile_cons_of_neg (by rw [shown]; exact Bool.false_ne_true)
  have trimmed : (trim text).toList <+: text.toList := by
    rw [trim, String.toList_ofList, trimBy, kept]
    exact List.reverse_suffix.mp (by simpa using List.dropWhile_suffix isBlank)
  exact fun front inFront => ⟨front, inFront.trans trimmed, rfl⟩

/-- A rule of characters of one octet is aligned: every place of it is one between characters. -/
theorem aligned_of_narrow (narrow : ∀ character ∈ text.toList, character.utf8Size = 1) :
    Aligned text := by
  have counted (characters : List Char) (inside : characters ⊆ text.toList) :
      size characters = characters.length := by
    induction characters with
    | nil => rfl
    | cons character rest inductionHypothesis =>
      have one := narrow character (inside List.mem_cons_self)
      have others := inductionHypothesis fun _ member => inside (List.mem_cons_of_mem _ member)
      rw [← List.singleton_append, size_append, size_singleton, one, others, List.length_append]
      rfl
  have trimmed : (trim text).toList <:+: text.toList := by
    rw [trim, String.toList_ofList, trimBy]
    have front := (List.dropWhile_suffix (l := text.toList) isBlank).isInfix
    have back := (List.dropWhile_suffix (l := (text.toList.dropWhile isBlank).reverse)
      isBlank).isInfix
    exact (List.reverse_infix.mp (by simpa using back)).trans front
  intro front inFront
  have short : front.length ≤ text.toList.length :=
    Nat.le_trans inFront.length_le trimmed.length_le
  refine ⟨text.toList.take front.length, List.take_prefix _ _, ?_⟩
  rw [counted _ (List.take_subset _ _), counted _ (List.Subset.trans inFront.subset trimmed.subset),
    List.length_take, Nat.min_eq_left short]

/-- A part that is read up to the end of a rule can be cut out of it, since the end is no place
inside of a character. -/
theorem exists_partFrom (begins : Boundary text first) :
    ∃ found, partFrom text first = .ok found := by
  obtain ⟨front, ⟨behind, spelled⟩, rfl⟩ := begins
  refine exists_part ⟨front, ⟨behind, spelled⟩, rfl⟩ (boundary_end text) ?_
  have whole : text.utf8ByteSize = size text.toList := by
    rw [size_eq_length, ← encode_ofList, String.ofList_toList]
    rfl
  rw [whole, ← spelled, size_append]
  exact Nat.le_add_right _ _

/-- What stands for a level in an aligned rule is a text, whether or not it names one. -/
theorem thresholdAt_ne_torn (aligned : Aligned text) (reached : Reached text place rest) :
    thresholdAt text place rest ≠ .error .torn := by
  unfold thresholdAt
  split
  · exact nofun
  · next behind =>
    obtain ⟨level, found⟩ := exists_partFrom ((reached.next rfl).boundary aligned)
    rw [found]
    simp only [bind, Except.bind]
    split
    · exact nofun
    · split <;> exact nofun
  · exact nofun

/-- A result that is made of one that is not torn is not torn itself. -/
theorem bind_ne_torn {α β : Type} {result : Except FilterFault α}
    {next : α → Except FilterFault β} (whole : result ≠ .error .torn)
    (further : ∀ value, result = .ok value → next value ≠ .error .torn) :
    result.bind next ≠ .error .torn := by
  intro torn
  rcases error_of_bind torn with failed | ⟨value, done, failed⟩
  · exact whole failed
  · exact further value done failed

/-- Between a place that was reached and the end of what is taken from there is a part. -/
theorem Reached.part_ne_torn (taken : Char → Bool) (aligned : Aligned text)
    (reached : Reached text place rest) :
    part text place (place + size (rest.takeWhile taken)) ≠ .error .torn := by
  obtain ⟨found, cut⟩ := exists_part (reached.boundary aligned)
    ((reached.skip taken).boundary aligned) (Nat.le_add_right _ _)
  rw [cut]
  exact nofun

/-- A rule with brackets is cut where its parts begin and end, and in an aligned rule that is
between characters. Whether a value in the brackets is a pattern makes no difference to that. -/
theorem bracketed_ne_torn (aligned : Aligned text) (reached : Reached text place rest) :
    bracketed isPattern text target place rest ≠ .error .torn := by
  refine bind_ne_torn (reached.part_ne_torn _ aligned) fun name _ => ?_
  have behind := reached.skip fun character => character != ']' && character != '\x7b'
  split
  · next inner opened =>
    rw [opened] at behind
    exact bind_ne_torn (thresholdAt_ne_torn aligned (behind.next rfl)) fun _ _ => nofun
  · next inner opened =>
    rw [opened] at behind
    have field := behind.next rfl
    have after := field.skip (· ≠ '\x7d')
    dsimp only
    split
    · next outer closed =>
      rw [closed] at after
      refine bind_ne_torn (field.part_ne_torn _ aligned) fun content _ => ?_
      split
      · exact nofun
      · split
        · exact bind_ne_torn (thresholdAt_ne_torn aligned ((after.next rfl).next rfl))
            fun _ _ => nofun
        · exact nofun
    · exact nofun
  · exact nofun

/-- A rule whose places are those of its characters is read, or cannot be read, but is not cut
inside of one. -/
theorem ofText_ne_torn (aligned : Aligned text) : ofText isPattern text ≠ .error .torn := by
  have start := Reached.start text
  unfold ofText
  dsimp only
  split
  · exact nofun
  · next rest spelled =>
    rw [spelled] at start
    exact bracketed_ne_torn aligned (start.next rfl)
  · split
    · exact nofun
    · have behind := start.skip fun character => character != '=' && character != '['
      have cut := start.part_ne_torn (fun character => character != '=' && character != '[') aligned
      rw [Nat.zero_add] at behind cut
      split
      · split <;> exact nofun
      · next rest opened =>
        rw [opened] at behind
        exact bind_ne_torn cut fun _ _ => bracketed_ne_torn aligned (behind.next rfl)
      · refine bind_ne_torn cut fun _ _ => ?_
        exact bind_ne_torn (thresholdAt_ne_torn aligned behind) fun _ _ => nofun

/-- A rule that is cut inside a character begins with a blank one, and holds one of more than one
octet. -/
theorem shape_of_torn (torn : ofText isPattern text = .error .torn) :
    (∃ character ∈ text.toList.head?, isBlank character = true) ∧
      ∃ character ∈ text.toList, character.utf8Size ≠ 1 := by
  constructor
  · refine Classical.byContradiction fun unblanked => ?_
    refine ofText_ne_torn (aligned_of_visible fun character begins => ?_) torn
    exact Bool.eq_false_iff.mpr fun blank => unblanked ⟨character, begins, blank⟩
  · refine Classical.byContradiction fun narrow => ?_
    refine ofText_ne_torn (aligned_of_narrow fun character inside => ?_) torn
    exact Classical.not_not.mp fun wide => narrow ⟨character, inside, wide⟩

end FilterRule

namespace JournalFilter

variable {isPattern : String → Bool} {text : String}

/-- The first rule of a filter that cannot be read is cut inside a character. -/
def Torn (isPattern : String → Bool) (text : String) : Prop :=
  ∃ before rule behind, ruleTexts text = before ++ rule :: behind ∧
    (∀ earlier ∈ before, ∃ read, FilterRule.ofText isPattern earlier = .ok read) ∧
    FilterRule.ofText isPattern rule = .error .torn

/-- Nothing can be made of a filter exactly if one of its rules is cut inside a character, and those
in front of it can be read: rules are read in their order, and the first that fails decides. -/
theorem ofText_eq_torn_iff : ofText isPattern text = .error .torn ↔ Torn isPattern text :=
  bind_eq_error_iff.trans mapM_eq_error_iff

/-- The filter of an environment is lost exactly if a variable holds one that nothing can be made
of. One that is missing or cannot be read is replaced. -/
theorem ofEnvironment?_eq_none_iff {environment : Environment} :
    ofEnvironment? isPattern environment = none ↔
      ∃ text, environment "RUST_LOG" = some text ∧ Torn isPattern text := by
  unfold ofEnvironment?
  cases environment "RUST_LOG" with
  | none => exact iff_of_false nofun (by rintro ⟨text, held, -⟩; cases held)
  | some text =>
    have same : (∃ other, some text = some other ∧ Torn isPattern other) ↔
        Torn isPattern text := by simp
    rw [same, ← ofText_eq_torn_iff, Option.map_some]
    cases ofText isPattern text with
    | ok filter => exact iff_of_false nofun nofun
    | error fault => cases fault <;> simp

end JournalFilter

end Gatehouse
