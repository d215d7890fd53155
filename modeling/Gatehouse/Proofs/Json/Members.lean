import Gatehouse.Json.Value

/-!
# Members sorted by name

Putting a member into a list keeps the list sorted and without two members of one name,
and a look-up afterwards sees the new member and, for every other name, what was there.
Putting a whole list in, one member after another, therefore sorts it: a list that is
sorted already comes out unchanged.
-/

namespace Gatehouse.Json

variable {α : Type}

/-- The members stand in the order of their names, and no name occurs twice. -/
def SortedByName (members : List (String × α)) : Prop :=
  (members.map Prod.fst).Pairwise (· < ·)

/-- Put members into a list, the first one first. -/
def insertAll (done members : List (String × α)) : List (String × α) :=
  members.foldl (fun sorted member => insert member.1 member.2 sorted) done

/-- Every name behind a first one is larger. -/
theorem sortedByName_cons {name : String} {value : α} {rest : List (String × α)} :
    SortedByName ((name, value) :: rest) ↔
      (∀ member ∈ rest, name < member.1) ∧ SortedByName rest := by
  simp only [SortedByName, List.map_cons, List.pairwise_cons, List.mem_map, forall_exists_index,
    and_imp, forall_apply_eq_imp_iff₂]

/-- A list with another member in it has that member and those it had. -/
theorem mem_of_mem_insert {name : String} {value : α} {members : List (String × α)}
    {member : String × α} (inside : member ∈ insert name value members) :
    member = (name, value) ∨ member ∈ members := by
  induction members with
  | nil => exact .inl (List.mem_singleton.mp inside)
  | cons head rest inductionHypothesis =>
    obtain ⟨first, old⟩ := head
    simp only [insert] at inside
    split at inside
    · exact List.mem_cons.mp inside
    · split at inside
      · rcases List.mem_cons.mp inside with same | behind
        · exact .inl same
        · exact .inr (List.mem_cons_of_mem _ behind)
      · rcases List.mem_cons.mp inside with same | behind
        · exact .inr (same ▸ List.mem_cons_self)
        · rcases inductionHypothesis behind with same | earlier
          · exact .inl same
          · exact .inr (List.mem_cons_of_mem _ earlier)

/-- Sorted members stay sorted when one is put in: it goes in front of the first larger name, and in
the place of its own if there is one. -/
theorem SortedByName.insert {members : List (String × α)} (sorted : SortedByName members)
    (name : String) (value : α) : SortedByName (insert name value members) := by
  induction members with
  | nil => exact List.pairwise_singleton _ _
  | cons head rest inductionHypothesis =>
    obtain ⟨first, old⟩ := head
    obtain ⟨above, sortedRest⟩ := sortedByName_cons.mp sorted
    simp only [Json.insert]
    split
    · next before =>
      refine sortedByName_cons.mpr ⟨?_, sorted⟩
      intro member inside
      rcases List.mem_cons.mp inside with rfl | behind
      · exact before
      · exact String.lt_trans before (above member behind)
    · next notBefore =>
      split
      · next same =>
        subst same
        exact sortedByName_cons.mpr ⟨above, sortedRest⟩
      · next other =>
        -- The new name is neither below nor equal to the first one, so it is above it.
        refine sortedByName_cons.mpr ⟨?_, inductionHypothesis sortedRest⟩
        intro member inside
        rcases mem_of_mem_insert inside with rfl | earlier
        · have notAbove : first ≤ name := String.not_lt.mp notBefore
          refine Decidable.byContradiction fun notBelow => ?_
          exact other (String.le_antisymm (String.not_lt.mp notBelow) notAbove)
        · exact above member earlier

/-- A name above all others goes to the end. -/
theorem insert_of_forall_lt {members : List (String × α)} {name : String} (value : α)
    (above : ∀ member ∈ members, member.1 < name) :
    insert name value members = members ++ [(name, value)] := by
  induction members with
  | nil => rfl
  | cons head rest inductionHypothesis =>
    obtain ⟨first, old⟩ := head
    have below : first < name := above (first, old) List.mem_cons_self
    have other : name ≠ first := fun same => String.lt_irrefl first (same ▸ below)
    simp only [insert, if_neg (String.lt_asymm below), if_neg other, List.cons_append]
    rw [inductionHypothesis fun member inside => above member (List.mem_cons_of_mem _ inside)]

/-- A look-up finds nothing under a name that no member has. -/
theorem find?_eq_none {query : String} {members : List (String × α)}
    (absent : query ∉ members.map Prod.fst) : find? query members = none := by
  induction members with
  | nil => rfl
  | cons head rest inductionHypothesis =>
    rw [List.map_cons, List.mem_cons, not_or] at absent
    rw [find?, if_neg fun same => absent.1 same.symm, inductionHypothesis absent.2]

/-- A name that a look-up does not find is the name of no member. -/
theorem not_mem_of_find?_eq_none {query : String} {members : List (String × α)}
    (missing : find? query members = none) : query ∉ members.map Prod.fst := by
  induction members with
  | nil => exact List.not_mem_nil
  | cons head rest inductionHypothesis =>
    rw [find?] at missing
    split at missing
    · cases missing
    · next other =>
      rw [List.map_cons, List.mem_cons, not_or]
      exact ⟨fun same => other same.symm, inductionHypothesis missing⟩

/-- What a look-up finds is a member of that name. -/
theorem mem_of_find? {name : String} {members : List (String × α)} {value : α}
    (found : find? name members = some value) : (name, value) ∈ members := by
  induction members with
  | nil => cases found
  | cons first rest inductionHypothesis =>
    obtain ⟨first, old⟩ := first
    simp only [find?] at found
    split at found
    · next same =>
      obtain rfl := Option.some.inj found
      exact same ▸ List.mem_cons_self
    · exact List.mem_cons_of_mem _ (inductionHypothesis found)

/-- A first member is passed over when a name is looked up that is among others than its own. -/
theorem find?_cons_of_not_mem {name query : String} {names : List String} (absent : name ∉ names)
    (inside : query ∈ names) (value : α) (members : List (String × α)) :
    find? query ((name, value) :: members) = find? query members := by
  rw [find?, if_neg]
  rintro rfl
  exact absent inside

/-- A look-up in two lists takes what it finds in the first, and looks into the second only if there
is nothing. -/
theorem find?_append (query : String) (front back : List (String × α)) :
    find? query (front ++ back) = (find? query front).or (find? query back) := by
  induction front with
  | nil => rfl
  | cons head rest inductionHypothesis =>
    obtain ⟨first, old⟩ := head
    rw [List.cons_append, find?, find?, inductionHypothesis]
    split <;> rfl

/-- A look-up sees the member that was put in, and what was there under every other name. By
induction on the members, with one case for each way in which two names compare. -/
theorem find?_insert (query name : String) (value : α) (members : List (String × α)) :
    find? query (insert name value members) =
      if name = query then some value else find? query members := by
  induction members with
  | nil => simp only [insert, find?]
  | cons head rest inductionHypothesis =>
    obtain ⟨first, old⟩ := head
    simp only [insert]
    split
    · simp only [find?]
    · split
      · next same =>
        subst same
        simp only [find?]
        split <;> rfl
      · next other =>
        simp only [find?, inductionHypothesis]
        by_cases here : first = query
        · subst here
          rw [if_pos rfl, if_pos rfl, if_neg other]
        · rw [if_neg here, if_neg here]

/-- Sorted members stay sorted when others are put in one by one. -/
theorem SortedByName.insertAll {done : List (String × α)} (sorted : SortedByName done)
    (members : List (String × α)) : SortedByName (insertAll done members) := by
  induction members generalizing done with
  | nil => exact sorted
  | cons member rest inductionHypothesis =>
    exact inductionHypothesis (sorted.insert member.1 member.2)

/-- Whatever is put into an empty list comes to be sorted. -/
theorem sortedByName_insertAll (members : List (String × α)) :
    SortedByName (Json.insertAll [] members) := by
  have empty : SortedByName ([] : List (String × α)) := .nil
  exact empty.insertAll members

/-- Sorted members come out as they went in, because each goes to the end. -/
theorem insertAll_of_sorted {done members : List (String × α)}
    (sorted : SortedByName (done ++ members)) : Json.insertAll done members = done ++ members := by
  induction members generalizing done with
  | nil => simp [Json.insertAll]
  | cons member rest inductionHypothesis =>
    have above : ∀ earlier ∈ done, earlier.1 < member.1 := by
      intro earlier inside
      rw [SortedByName, List.map_append, List.pairwise_append] at sorted
      exact sorted.2.2 earlier.1 (List.mem_map_of_mem inside) member.1 (by simp)
    have next : Json.insertAll done (member :: rest) =
        Json.insertAll (done ++ [member]) rest := by
      simp only [Json.insertAll, List.foldl_cons, insert_of_forall_lt member.2 above]
    rw [next, inductionHypothesis (by simpa using sorted)]
    simp

/-- Where a member goes is decided by its name, so its value may be changed before or behind. -/
theorem insert_map {β : Type} (change : α → β) (name : String) (value : α)
    (members : List (String × α)) :
    insert name (change value) (members.map fun member => (member.1, change member.2)) =
      (insert name value members).map fun member => (member.1, change member.2) := by
  induction members with
  | nil => rfl
  | cons head rest inductionHypothesis =>
    obtain ⟨first, old⟩ := head
    simp only [List.map_cons, insert, inductionHypothesis]
    split
    · rfl
    · split <;> rfl

/-- Members come to stand in the order of their names, whatever becomes of their values. -/
theorem insertAll_map {β : Type} (change : α → β) (done members : List (String × α)) :
    insertAll (done.map fun member => (member.1, change member.2))
        (members.map fun member => (member.1, change member.2)) =
      (insertAll done members).map fun member => (member.1, change member.2) := by
  induction members generalizing done with
  | nil => rfl
  | cons member rest inductionHypothesis =>
    have first : insertAll (done.map fun member => (member.1, change member.2))
          ((member :: rest).map fun member => (member.1, change member.2)) =
        insertAll ((insert member.1 member.2 done).map fun member => (member.1, change member.2))
          (rest.map fun member => (member.1, change member.2)) :=
      congrArg (insertAll · _) (insert_map change member.1 member.2 done)
    rw [first, inductionHypothesis]
    rfl

/-- A look-up among changed values finds the changed value of the member that it found before. -/
theorem find?_map {β : Type} (change : α → β) (query : String) (members : List (String × α)) :
    find? query (members.map fun member => (member.1, change member.2)) =
      (find? query members).map change := by
  induction members with
  | nil => rfl
  | cons head rest inductionHypothesis =>
    rw [List.map_cons, find?, find?, inductionHypothesis]
    split <;> rfl

/-- What a look-up from behind finds is the last member of a name: no member behind it has that
name. -/
theorem find?_reverse_eq_some_iff {query : String} {value : α} {members : List (String × α)} :
    find? query members.reverse = some value ↔
      ∃ front back, members = front ++ (query, value) :: back ∧ query ∉ back.map Prod.fst := by
  constructor
  · intro found
    induction members with
    | nil => cases found
    | cons head rest inductionHypothesis =>
      obtain ⟨first, old⟩ := head
      rw [List.reverse_cons, find?_append] at found
      cases behind : find? query rest.reverse with
      | some later =>
        rw [behind, Option.some_or] at found
        obtain ⟨front, back, rfl, absent⟩ := inductionHypothesis (behind.trans found)
        exact ⟨(first, old) :: front, back, rfl, absent⟩
      | none =>
        have absent := not_mem_of_find?_eq_none behind
        rw [List.map_reverse, List.mem_reverse] at absent
        rw [behind, Option.none_or, find?] at found
        split at found
        · next same =>
          obtain rfl := Option.some.inj found
          exact ⟨[], rest, by rw [same]; rfl, absent⟩
        · cases found
  · rintro ⟨front, back, rfl, absent⟩
    have behind : find? query back.reverse = none := by
      refine find?_eq_none ?_
      rw [List.map_reverse, List.mem_reverse]
      exact absent
    rw [List.reverse_append, List.reverse_cons, List.append_assoc, find?_append, behind,
      Option.none_or, List.singleton_append, find?, if_pos rfl]

/-- A look-up among sorted members finds the last member of a name, or what was there before if none
has been put in. By induction on the members that are put in. -/
theorem find?_insertAll_last (query : String) (done members : List (String × α)) :
    find? query (Json.insertAll done members) =
      (find? query members.reverse).or (find? query done) := by
  induction members generalizing done with
  | nil => simp [Json.insertAll, find?]
  | cons member rest inductionHypothesis =>
    obtain ⟨name, value⟩ := member
    have next : Json.insertAll done ((name, value) :: rest) =
        Json.insertAll (insert name value done) rest := rfl
    rw [next, inductionHypothesis, find?_insert, List.reverse_cons, find?_append]
    by_cases here : name = query
    · simp [find?, here]
    · simp [find?, here]

/-- Every name that was put in is found: putting in other members may change its value, but not take
it away. -/
theorem find?_insertAll_ne_none {query : String} {members : List (String × α)}
    (inside : query ∈ members.map Prod.fst) (done : List (String × α)) :
    find? query (Json.insertAll done members) ≠ none := by
  rw [find?_insertAll_last]
  intro missing
  have absent := not_mem_of_find?_eq_none (Option.or_eq_none_iff.mp missing).1
  rw [List.map_reverse, List.mem_reverse] at absent
  exact absent inside

/-- Two names do not become one, since both are found afterwards. -/
theorem insertAll_ne_singleton {first second : String} (different : first ≠ second)
    {members : List (String × α)} (firstInside : first ∈ members.map Prod.fst)
    (secondInside : second ∈ members.map Prod.fst) (single : String × α) :
    Json.insertAll [] members ≠ [single] := by
  intro same
  have isSingle {query : String} (inside : query ∈ members.map Prod.fst) : single.1 = query := by
    have found := find?_insertAll_ne_none inside []
    rw [same, find?] at found
    exact Decidable.byContradiction fun other => found (if_neg other)
  exact different ((isSingle firstInside).symm.trans (isSingle secondInside))

/-! ## All members of a name -/

/-- The values of all members of a name, in the order of the members. -/
def valuesOf (name : String) : List (String × α) → List α
  | [] => []
  | (first, value) :: rest =>
    if first = name then value :: valuesOf name rest else valuesOf name rest

/-- A look-up from behind finds the last value of a name. -/
theorem find?_reverse_eq_getLast? (name : String) (members : List (String × α)) :
    find? name members.reverse = (valuesOf name members).getLast? := by
  induction members with
  | nil => rfl
  | cons head rest inductionHypothesis =>
    obtain ⟨first, value⟩ := head
    rw [List.reverse_cons, find?_append, inductionHypothesis, valuesOf, find?, find?]
    split
    · rw [List.getLast?_cons]
      cases (valuesOf name rest).getLast? <;> rfl
    · rw [Option.or_none]

/-! ## Names that occur once -/

/-- No two members have one of the names. -/
def Once (names : List String) (members : List (String × α)) : Prop :=
  ∀ name ∈ names, (members.map Prod.fst).count name ≤ 1

instance (names : List String) (members : List (String × α)) : Decidable (Once names members) :=
  inferInstanceAs (Decidable (∀ name ∈ names, (members.map Prod.fst).count name ≤ 1))

/-- Where all names are distinct, each of some names occurs at most once. -/
theorem once_of_nodup {names : List String} {members : List (String × α)}
    (distinct : (members.map Prod.fst).Nodup) : Once names members :=
  fun name _ => List.nodup_iff_count.mp distinct name

/-- A name that occurs first and once does not occur behind. -/
theorem not_mem_of_count_cons {name : String} {value : α} {rest : List (String × α)}
    (once : (((name, value) :: rest).map Prod.fst).count name ≤ 1) :
    name ∉ rest.map Prod.fst := by
  rw [List.map_cons, List.count_cons_self] at once
  exact List.count_eq_zero.mp (by omega)

/-- A name occurs behind the first member at most as often as in all. -/
theorem count_le_of_cons {query : String} {member : String × α} {rest : List (String × α)}
    (once : ((member :: rest).map Prod.fst).count query ≤ 1) :
    (rest.map Prod.fst).count query ≤ 1 :=
  Nat.le_trans List.count_le_count_cons once

/-- The member of a name that occurs once is what a look-up finds. -/
theorem find?_of_mem {name : String} {value : α} {members : List (String × α)}
    (once : (members.map Prod.fst).count name ≤ 1) (inside : (name, value) ∈ members) :
    find? name members = some value := by
  induction members with
  | nil => cases inside
  | cons head rest inductionHypothesis =>
    obtain ⟨first, old⟩ := head
    rcases List.mem_cons.mp inside with same | behind
    · cases same
      exact if_pos rfl
    · have other : first ≠ name := by
        rintro rfl
        exact not_mem_of_count_cons once (List.mem_map_of_mem behind)
      rw [find?, if_neg other, inductionHypothesis (count_le_of_cons once) behind]

/-- The order of members does not matter for a name that occurs once, as a look-up from the front
and one from behind find the same member. -/
theorem find?_reverse {name : String} {members : List (String × α)}
    (once : (members.map Prod.fst).count name ≤ 1) :
    find? name members.reverse = find? name members := by
  cases found : find? name members with
  | some value =>
    have inside := List.mem_reverse.mpr (mem_of_find? found)
    refine find?_of_mem ?_ inside
    rw [List.map_reverse, List.count_reverse]
    exact once
  | none =>
    refine find?_eq_none fun inside => ?_
    rw [List.map_reverse, List.mem_reverse] at inside
    obtain ⟨⟨_, value⟩, member, rfl⟩ := List.mem_map.mp inside
    rw [find?_of_mem once member] at found
    cases found

/-- For a name that occurs once, a look-up among sorted members finds what it finds among the
members as they were given. -/
theorem find?_insertAll {query : String} {done members : List (String × α)}
    (once : (members.map Prod.fst).count query ≤ 1) :
    find? query (Json.insertAll done members) = (find? query members).or (find? query done) := by
  rw [find?_insertAll_last, find?_reverse once]

end Gatehouse.Json
