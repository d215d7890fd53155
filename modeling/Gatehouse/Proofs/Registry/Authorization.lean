import Gatehouse.Proofs.Json.Document
import Gatehouse.Proofs.Json.Record
import Gatehouse.Proofs.Result
import Gatehouse.Proofs.Run.Attestation

/-!
# Only a literal authorizes

An entry of a registry is authorized exactly where its element in the text carries the
literal `true` for it, under the name of the field or in the eighth place of a list.
Without anything there, or with the literal `false`, it is not authorized, and whatever
else stands there refuses the whole registry: a value of another kind, and a field that
is repeated, even if it says the same twice.
-/

namespace Gatehouse

open Json
open Schema (ReadFrom acceptItems?_eq_some_iff given readFrom_of_accept?)

namespace RegistryEntry

/-- What an element of a registry carries as its authorization: the member of that name, or the
eighth item of a list. -/
def authorization? : Value → Option Value
  | .object members => find? "authorized" members
  | .list items => items[7]?
  | _ => none

/-- Whatever an element gives for the authorization, in the text where a name may be repeated. -/
def authorizations (element : Value) : List Value := given "authorized" 7 element

/-- Of the authorizations that an element gives, the last one is carried when its members are
sorted, and it is sorted itself. -/
theorem authorization?_sorted (element : Value) : authorization? element.sorted =
    (authorizations element).getLast?.map Value.sorted := by
  cases element with
  | object members =>
    have last : find? "authorized" (insertAll [] (Value.sortedMembers members)) =
        find? "authorized" (members.map fun member => (member.1, member.2.sorted)).reverse := by
      rw [find?_insertAll_last, Value.sortedMembers_eq_map, find?, Option.or_none]
    rw [Value.sorted, authorization?, last, ← List.map_reverse, find?_map,
      find?_reverse_eq_getLast?]
    rfl
  | list items =>
    rw [Value.sorted, authorization?, Value.sortedItems_eq_map, List.getElem?_map, authorizations,
      given]
    cases items[7]? <;> rfl
  | null | bool | number | text => rfl

/-- What may be given for the authorization: nothing, or one truth value. -/
def MayAuthorize (values : List Value) : Prop := values = [] ∨ ∃ flag, values = [.bool flag]

variable {element form : Value}

/-- An element that is accepted gives nothing for the authorization and is not authorized, or it
gives one truth value and that is its authorization. A field that comes twice is refused, and so is
any other value of it, so there is no third case. -/
theorem authorized_of_accept? (accepted : schema.accept? element = some form) :
    (authorizations element = [] ∧ (ofValue form).authorized = false) ∨
      authorizations element = [.bool (ofValue form).authorized] := by
  have field : ReadFrom .flag true (authorizations element) (form.member "authorized") :=
    readFrom_of_accept? (by decide) (by rfl : _[7]? = some (Schema.optional "authorized" .flag))
      accepted
  have held : (ofValue form).authorized = (form.member "authorized").asBool := rfl
  rw [held]
  generalize authorizations element = values, form.member "authorized" = flag at field
  cases field with
  | absent permitted => exact .inl ⟨rfl, rfl⟩
  | @present value flag flagAccepted =>
    cases value with
    | bool content =>
      obtain rfl := Option.some.inj flagAccepted
      exact .inr rfl
    | _ => cases flagAccepted

/-- An entry is what a registry has for an element of its text. Alone, in whatever spelling, the
element is read as this entry; it gives at most one truth value for the authorization; and the entry
is authorized where the element, its members sorted, carries the literal `true`, and not authorized
where it carries `false` or nothing. -/
structure DecodedFrom (entry : RegistryEntry) (element : Value) : Prop where
  alone : ∀ text, element.SpelledBy text → read text = .ok entry
  permitted : MayAuthorize (authorizations element)
  granted : entry.authorized = true ↔ authorization? element.sorted = some (.bool true)
  denied : entry.authorized = false ↔
    authorization? element.sorted = none ∨ authorization? element.sorted = some (.bool false)

/-- An accepted element decodes to its entry: it is authorized by the literal `true` alone, and the
value that is read from its text is its members in order. -/
theorem decodedFrom_of_accept? (accepted : schema.accept? element = some form)
    (nested : element.depth ≤ Reader.nestingLimit) : (ofValue form).DecodedFrom element := by
  have carried := authorization?_sorted element
  have alone (text : String) (spelled : element.SpelledBy text) :
      read text = .ok (ofValue form) := by
    rw [read, (spelled.read_eq_ok_iff_accept? nested).mpr accepted]
    rfl
  rcases authorized_of_accept? accepted with ⟨nothing, unauthorized⟩ | one
  · rw [nothing] at carried
    exact ⟨alone, .inl nothing, by simp [carried, unauthorized], by simp [carried, unauthorized]⟩
  · rw [one] at carried
    have permitted : MayAuthorize (authorizations element) := .inr ⟨_, one⟩
    cases (ofValue form).authorized <;>
      exact ⟨alone, permitted, by simp [carried, Value.sorted], by simp [carried, Value.sorted]⟩

/-- Elements that are all accepted give one entry each, in their order, so an entry is found at the
place of the element that it was decoded from. -/
theorem decodedFrom_of_forall₂ {elements forms : List Value}
    (accepted : List.Forall₂ (fun element form => schema.accept? element = some form)
      elements forms) (nested : ∀ element ∈ elements, element.depth ≤ Reader.nestingLimit) :
    List.Forall₂ DecodedFrom (forms.map ofValue) elements := by
  induction accepted with
  | nil => exact .nil
  | cons first others inductionHypothesis =>
    obtain ⟨firstNested, othersNested⟩ := List.forall_mem_cons.mp nested
    exact .cons (decodedFrom_of_accept? first firstNested) (inductionHypothesis othersNested)

end RegistryEntry

namespace Registry

open RegistryEntry (DecodedFrom MayAuthorize authorization? authorizations decodedFrom_of_forall₂)

variable {registry : List RegistryEntry} {text : String} {document value : Value}
  {elements : List Value}

/-- A registry is read from the text of a document only where that is a list, and then it has one
entry for each element. -/
theorem elements_of_read (spelled : document.SpelledBy text)
    (nested : document.depth ≤ Reader.nestingLimit) (succeeded : read text = .ok registry) :
    ∃ elements, document = .list elements ∧ List.Forall₂ DecodedFrom registry elements := by
  obtain ⟨form, streamed, rfl⟩ := ok_of_map succeeded
  have accepted := (spelled.read_eq_ok_iff_accept? nested).mp streamed
  cases document with
  | list elements =>
    obtain ⟨forms, each, rfl⟩ := Option.map_eq_some_iff.mp accepted
    have parts : Value.depthOfItems elements ≤ Reader.nestingLimit := Nat.le_of_succ_le nested
    exact ⟨elements, rfl, decodedFrom_of_forall₂ (acceptItems?_eq_some_iff.mp each)
      (Value.depthOfItems_le.mp parts)⟩
  | _ => cases accepted

/-- What is resolved carries the literal `true` in the element that it was decoded from: a resolved
entry is authorized and stands in the registry, and the element stands beside it. -/
theorem literal_of_resolve (decoded : List.Forall₂ DecodedFrom registry elements)
    {digest : String} {entry : RegistryEntry} (resolved : resolve digest registry = .ok entry) :
    ∃ element, (entry, element) ∈ registry.zip elements ∧
      authorization? element.sorted = some (.bool true) := by
  obtain ⟨sameLength, each⟩ := List.forall₂_iff_zip.mp decoded
  obtain ⟨inside, authorized, -⟩ := of_resolve resolved
  rw [← List.map_fst_zip (Nat.le_of_eq sameLength)] at inside
  obtain ⟨⟨_, element⟩, paired, rfl⟩ := List.mem_map.mp inside
  exact ⟨element, paired, (each paired).granted.mp authorized⟩

/-- No element of a registry gives more than one truth value for the authorization, because a
registry with such an element is not read. -/
theorem mayAuthorize_of_mem (decoded : List.Forall₂ DecodedFrom registry elements)
    {element : Value} (inside : element ∈ elements) : MayAuthorize (authorizations element) := by
  obtain ⟨sameLength, each⟩ := List.forall₂_iff_zip.mp decoded
  rw [← List.map_snd_zip (Nat.le_of_eq sameLength.symm)] at inside
  obtain ⟨⟨entry, _⟩, paired, rfl⟩ := List.mem_map.mp inside
  exact (each paired).permitted

/-- A text that holds a value spells one document. If a registry is read from it, the value is a
list, each element gives the entry in its place, and an entry is authorized exactly where its
element carries the literal `true`; so nothing else is ever resolved. Where an element gives
anything but one truth value or nothing for the authorization, no registry is read at all. -/
theorem authorized_iff_literal (parsed : Value.read text = .ok value) :
    ∃ document : Value, (∀ other : Value, other.SpelledBy text ↔ other = document) ∧
      (∀ registry, read text = .ok registry → ∃ elements, document = .list elements ∧
        value = .list (elements.map Value.sorted) ∧
        List.Forall₂ DecodedFrom registry elements ∧
        ∀ digest entry, resolve digest registry = .ok entry →
          ∃ element, (entry, element) ∈ registry.zip elements ∧
            authorization? element.sorted = some (.bool true)) ∧
      ∀ elements, document = .list elements → ∀ element ∈ elements,
        ¬ MayAuthorize (authorizations element) → ∃ fault, read text = .error fault := by
  obtain ⟨document, spelled, nested, rfl⟩ := Value.read_eq_ok_iff.mp parsed
  refine ⟨document, ?unique, ?accepted, ?refused⟩
  case unique =>
    intro other
    constructor
    · exact fun also => also.unique spelled
    · rintro rfl
      exact spelled
  case accepted =>
    intro registry succeeded
    obtain ⟨elements, rfl, decoded⟩ := elements_of_read spelled nested succeeded
    refine ⟨elements, rfl, ?_, decoded, fun digest entry => literal_of_resolve decoded⟩
    rw [Value.sorted, Value.sortedItems_eq_map]
  case refused =>
    rintro elements rfl element inside forbidden
    cases result : read text with
    | error fault => exact ⟨fault, rfl⟩
    | ok registry =>
      obtain ⟨others, same, decoded⟩ := elements_of_read spelled nested result
      obtain rfl := Value.list.inj same
      exact absurd (mayAuthorize_of_mem decoded inside) forbidden

/-- The text of two elements of one digest: a list that ends with `false`, and an object in which
the name of the authorization is escaped and further members may follow. -/
def sampleText (more : String) : String :=
  "[[\"\",\"\",\"d\",\"\",\"\",\x7b\x7d,\x7b\x7d,false]," ++
    "\x7b\"tool_sha256\":\"d\",\"author\\u0069zed\":true" ++ more ++ "\x7d]"

/-- The document of such a text. -/
def sampleDocument (more : List (String × Value)) : Value := .list [
  .list [.text "", .text "", .text "d", .text "", .text "", .object [], .object [], .bool false],
  .object (("tool_sha256", .text "d") :: ("authorized", .bool true) :: more)]

/-- The escaped name authorizes the second element only, and a second member of that name refuses
both. -/
theorem authorized_iff_literal_escaped :
    (∃ registry, read (sampleText "") = .ok registry ∧
      registry.map RegistryEntry.authorized = [false, true]) ∧
    ∃ fault, read (sampleText ",\"authorized\":true") = .error fault := by
  constructor
  · have spelled : (sampleDocument []).SpelledBy (sampleText "") := by decide +kernel
    obtain ⟨document, unique, accepted, -⟩ :=
      authorized_iff_literal (Value.read_eq_ok_iff.mpr ⟨_, spelled, by decide, rfl⟩)
    obtain rfl := (unique _).mp spelled
    have readable : (read (sampleText "")).isOk = true := by decide +kernel
    cases succeeded : read (sampleText "") with
    | error fault =>
      rw [succeeded] at readable
      cases readable
    | ok registry =>
      obtain ⟨elements, same, -, decoded, -⟩ := accepted registry succeeded
      obtain rfl := Value.list.inj same
      obtain _ | ⟨first, _ | ⟨second, _ | _⟩⟩ := decoded
      refine ⟨_, rfl, ?_⟩
      simp only [List.map_cons, List.map_nil, first.denied.mpr (.inr rfl),
        second.granted.mpr rfl]
  · have spelled : (sampleDocument [("authorized", .bool true)]).SpelledBy
        (sampleText ",\"authorized\":true") := by decide +kernel
    obtain ⟨document, unique, -, refused⟩ :=
      authorized_iff_literal (Value.read_eq_ok_iff.mpr ⟨_, spelled, by decide, rfl⟩)
    obtain rfl := (unique _).mp spelled
    refine refused _ rfl _ (List.mem_cons_of_mem _ List.mem_cons_self) ?_
    rintro (nothing | ⟨flag, one⟩)
    · cases nothing
    · cases one

end Registry

end Gatehouse
