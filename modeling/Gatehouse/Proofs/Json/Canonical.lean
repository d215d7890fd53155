import Gatehouse.Proofs.Json.Members

/-!
# Canonical values

The values that documents have, and their nesting. A property of a value and of all
that it holds is stated once, by `Every`, and each claim about numbers or names is an
instance of it. `sorted` is the form in which a document is kept: its members in the
order of their names, of several members of one name the last. A canonical value is in
that form already.

Values are nested through lists, so their induction principle speaks of the items of a
list and of the members of an object by membership.
-/

namespace Gatehouse.Json

/-- An integer of a document fits 64 bits, with or without a sign. -/
def Number.InRange : Number → Prop
  | .integer value => -0x8000000000000000 ≤ value ∧ value ≤ 0xFFFFFFFFFFFFFFFF
  | .float _ => True

def Number.IsInteger : Number → Prop
  | .integer _ => True
  | .float _ => False

namespace Value

/-- Induction over values: a list has what all its items have, an object what the values of all
its members have. -/
theorem induct {motive : Value → Prop} (null : motive .null) (bool : ∀ value, motive (.bool value))
    (number : ∀ value, motive (.number value)) (text : ∀ value, motive (.text value))
    (list : ∀ items, (∀ item ∈ items, motive item) → motive (.list items))
    (object : ∀ members, (∀ member ∈ members, motive member.2) → motive (.object members))
    (value : Value) : motive value := by
  -- The recursor has a motive for each type of the nesting, and the two lists pass it on.
  refine @Value.rec motive (fun items => ∀ item ∈ items, motive item)
    (fun members => ∀ member ∈ members, motive member.2) (fun member => motive member.2)
    null bool number text list object (List.forall_mem_nil _) ?items (List.forall_mem_nil _)
    ?members ?member value
  case items =>
    intro item rest first others
    exact List.forall_mem_cons.mpr ⟨first, others⟩
  case members =>
    intro member rest first others
    exact List.forall_mem_cons.mpr ⟨first, others⟩
  case member =>
    intro name value inductionHypothesis
    exact inductionHypothesis

mutual

/-- A value and all values that it holds have a property. -/
def Every (holds : Value → Prop) : Value → Prop
  | .list items => holds (.list items) ∧ EveryItem holds items
  | .object members => holds (.object members) ∧ EveryMember holds members
  | value => holds value

def EveryItem (holds : Value → Prop) : List Value → Prop
  | [] => True
  | item :: rest => item.Every holds ∧ EveryItem holds rest

def EveryMember (holds : Value → Prop) : List (String × Value) → Prop
  | [] => True
  | (_, value) :: rest => value.Every holds ∧ EveryMember holds rest

end

mutual

/-- The nesting of a value: how many containers stand around its innermost part. -/
def depth : Value → Nat
  | .list items => depthOfItems items + 1
  | .object members => depthOfMembers members + 1
  | _ => 0

/-- The largest nesting among the items of a list. -/
def depthOfItems : List Value → Nat
  | [] => 0
  | item :: rest => max item.depth (depthOfItems rest)

/-- The largest nesting among the values of members. -/
def depthOfMembers : List (String × Value) → Nat
  | [] => 0
  | (_, value) :: rest => max value.depth (depthOfMembers rest)

end

mutual

/-- A value with the members of every object in the order of their names, of several members of
one name the last. -/
def sorted : Value → Value
  | .list items => .list (sortedItems items)
  | .object members => .object (insertAll [] (sortedMembers members))
  | value => value

/-- The items of a list, each sorted. -/
def sortedItems : List Value → List Value
  | [] => []
  | item :: rest => item.sorted :: sortedItems rest

/-- Members with each value sorted, still in the order that they were given in. -/
def sortedMembers : List (String × Value) → List (String × Value)
  | [] => []
  | (name, value) :: rest => (name, value.sorted) :: sortedMembers rest

end

/-- What makes one value canonical, apart from those it holds: its number is in range, its members
are sorted. -/
def IsCanonical : Value → Prop
  | .number value => value.InRange
  | .object members => SortedByName members
  | _ => True

/-- A canonical value: every number is in range, and every object has its members sorted by name
without two of one name. Every document that was read has this form. -/
def Canonical (value : Value) : Prop := value.Every IsCanonical

/-- No number in a value is a floating point number. -/
def FloatFree (value : Value) : Prop :=
  value.Every fun part => ∀ found, part = .number found → found.IsInteger

/-- Every number in a value is an integer in range. Its members may stand in any order. -/
def Exact (value : Value) : Prop :=
  value.Every fun part => ∀ found, part = .number found → found.IsInteger ∧ found.InRange

variable {holds : Value → Prop}

/-- Items have a property throughout when each of them does. The property is defined along the
nesting; with this lemma it can be used along membership. -/
theorem everyItem_iff {items : List Value} :
    EveryItem holds items ↔ ∀ item ∈ items, item.Every holds := by
  induction items with
  | nil => simp [EveryItem]
  | cons item rest inductionHypothesis => simp [EveryItem, inductionHypothesis]

/-- Members have a property throughout when the value of each of them does. -/
theorem everyMember_iff {members : List (String × Value)} :
    EveryMember holds members ↔ ∀ member ∈ members, member.2.Every holds := by
  induction members with
  | nil => simp [EveryMember]
  | cons member rest inductionHypothesis => simp [EveryMember, inductionHypothesis]

/-- A list has a property throughout when it has it and its items have it throughout. -/
theorem every_list {items : List Value} :
    (Value.list items).Every holds ↔ holds (.list items) ∧ ∀ item ∈ items, item.Every holds := by
  rw [Every, everyItem_iff]

/-- An object has a property throughout when it has it and the values of its members have it
throughout. -/
theorem every_object {members : List (String × Value)} :
    (Value.object members).Every holds ↔
      holds (.object members) ∧ ∀ member ∈ members, member.2.Every holds := by
  rw [Every, everyMember_iff]

/-- Two properties that hold throughout give a third one that follows from both, by induction on the
value. -/
theorem Every.imp₂ {other result : Value → Prop}
    (implied : ∀ value, holds value → other value → result value) {value : Value}
    (first : value.Every holds) (second : value.Every other) : value.Every result := by
  induction value using Value.induct with
  | null => exact implied _ first second
  | bool value => exact implied _ first second
  | number value => exact implied _ first second
  | text value => exact implied _ first second
  | list items inductionHypothesis =>
    rw [every_list] at first second ⊢
    exact ⟨implied _ first.1 second.1, fun item inside =>
      inductionHypothesis item inside (first.2 item inside) (second.2 item inside)⟩
  | object members inductionHypothesis =>
    rw [every_object] at first second ⊢
    exact ⟨implied _ first.1 second.1, fun member inside =>
      inductionHypothesis member inside (first.2 member inside) (second.2 member inside)⟩

/-- A canonical value without floating point numbers holds integers in range only: the one property
gives the range, the other that there is nothing else. -/
theorem Canonical.exact {value : Value} (canonical : value.Canonical)
    (floatFree : value.FloatFree) : value.Exact := by
  refine Every.imp₂ ?_ canonical floatFree
  intro part isCanonical isFloatFree found same
  refine ⟨isFloatFree found same, ?_⟩
  subst same
  exact isCanonical

/-- A text holds no number. -/
theorem exact_text (content : String) : (Value.text content).Exact := by
  intro found same
  cases same

/-- A truth value holds no number. -/
theorem exact_bool (content : Bool) : (Value.bool content).Exact := by
  intro found same
  cases same

/-- An integer in range is the only number that it holds. -/
theorem exact_integer {content : Int} (fits : (Number.integer content).InRange) :
    (Value.number (.integer content)).Exact := by
  intro found same
  obtain rfl := Value.number.inj same
  exact ⟨trivial, fits⟩

/-- A list holds the numbers that its items hold. -/
theorem exact_list {items : List Value} (parts : ∀ item ∈ items, item.Exact) :
    (Value.list items).Exact := by
  apply every_list.mpr
  constructor
  · intro found same
    cases same
  · exact parts

/-- An object holds the numbers that the values of its members hold. -/
theorem exact_object {members : List (String × Value)}
    (parts : ∀ member ∈ members, member.2.Exact) : (Value.object members).Exact := by
  apply every_object.mpr
  constructor
  · intro found same
    cases same
  · exact parts

/-- Items are nested no deeper than a bound when each of them is. -/
theorem depthOfItems_le {items : List Value} {bound : Nat} :
    depthOfItems items ≤ bound ↔ ∀ item ∈ items, item.depth ≤ bound := by
  induction items with
  | nil => simp [depthOfItems]
  | cons item rest inductionHypothesis =>
    simp only [depthOfItems, Nat.max_le, inductionHypothesis, List.forall_mem_cons]

/-- Members are nested no deeper than a bound when the value of each of them is. -/
theorem depthOfMembers_le {members : List (String × Value)} {bound : Nat} :
    depthOfMembers members ≤ bound ↔ ∀ member ∈ members, member.2.depth ≤ bound := by
  induction members with
  | nil => simp [depthOfMembers]
  | cons member rest inductionHypothesis =>
    simp only [depthOfMembers, Nat.max_le, inductionHypothesis, List.forall_mem_cons]

/-- The items of a list are sorted one by one. -/
theorem sortedItems_eq_map (items : List Value) : sortedItems items = items.map sorted := by
  induction items with
  | nil => rfl
  | cons item rest inductionHypothesis => rw [sortedItems, inductionHypothesis, List.map_cons]

/-- The values of members are sorted one by one, under their names. -/
theorem sortedMembers_eq_map (members : List (String × Value)) :
    sortedMembers members = members.map fun member => (member.1, member.2.sorted) := by
  induction members with
  | nil => rfl
  | cons member rest inductionHypothesis => rw [sortedMembers, inductionHypothesis, List.map_cons]

/-- Sorting the values of members leaves their names. -/
theorem map_fst_sortedMembers (members : List (String × Value)) :
    (sortedMembers members).map Prod.fst = members.map Prod.fst := by
  rw [sortedMembers_eq_map, List.map_map]
  rfl

/-- A canonical value is sorted already. By induction: the parts stay as they are, and members that
are sorted by name are put in order as they stand. -/
theorem Canonical.sorted_eq {value : Value} (canonical : value.Canonical) :
    value.sorted = value := by
  induction value using Value.induct with
  | null => rfl
  | bool value => rfl
  | number value => rfl
  | text value => rfl
  | list items inductionHypothesis =>
    have parts := (every_list.mp canonical).2
    have same : items.map sorted = items.map id :=
      List.map_congr_left fun item inside => inductionHypothesis item inside (parts item inside)
    rw [sorted, sortedItems_eq_map, same, List.map_id]
  | object members inductionHypothesis =>
    obtain ⟨inOrder, parts⟩ := every_object.mp canonical
    have same : (members.map fun member => (member.1, member.2.sorted)) = members.map id :=
      List.map_congr_left fun member inside =>
        congrArg (member.1, ·) (inductionHypothesis member inside (parts member inside))
    have unchanged : insertAll [] members = members := insertAll_of_sorted inOrder
    rw [sorted, sortedMembers_eq_map, same, List.map_id, unchanged]

end Value

end Gatehouse.Json
