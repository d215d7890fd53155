import Gatehouse.Proofs.Claims
import Gatehouse.Proofs.Token.Compact

/-!
# Manifests and payloads are read alike

The claims of a manifest are read from its text in one pass; those of a token are looked
up in the map of its payload, in which the last member of a name counts. A text that
repeats a field is the only one that the two can see differently: the first way refuses
it, the second one takes what stands last. So a document whose fields are not repeated
stands for the same claims on disk and in a token, whatever else it holds.
-/

namespace Gatehouse

open Json

/-- The names that a record asks for. -/
def Json.Schema.fieldNames : Schema → List String
  | .record _ fields => fields.map Prod.fst
  | _ => []

namespace TaskClaims

/-- No field of the claims is repeated in a document, and none of the context in the object under
its name. Other names may be repeated, the names of parameters too. -/
structure Unrepeated (written : List (String × Value)) : Prop where
  claims : Once schema.fieldNames written
  context : ∀ context, ("task_context", .object context) ∈ written →
    Once TaskContext.schema.fieldNames context

/-- A context whose fields are not repeated is unambiguous, as all its fields are texts. -/
theorem unambiguous_context {value : Value}
    (once : ∀ members, value = .object members → Once TaskContext.schema.fieldNames members) :
    TaskContext.schema.Unambiguous value := by
  have distinct : TaskContext.schema.fieldNames.Nodup := by decide
  refine ⟨distinct, ?_⟩
  cases value with
  | object members =>
    refine ⟨once members rfl, Schema.unambiguousMembers_of_forall ?_⟩
    simp [Schema.required, Schema.optional, Schema.Unambiguous]
  | list items =>
    refine Schema.unambiguousItems_of_forall ?_ items
    simp [Schema.required, Schema.optional, Schema.Unambiguous]
  | _ => trivial

/-- A document in which no field is repeated is unambiguous for the form of claims, whatever else is
repeated in it: a table of anything takes the last member of a name on either way. -/
theorem Unrepeated.unambiguous {written : List (String × Value)}
    (unrepeated : Unrepeated written) : schema.Unambiguous (.object written) := by
  have distinct : schema.fieldNames.Nodup := by decide
  refine ⟨distinct, unrepeated.claims, ?context, ?urn, ?digest, ?nonce, ?parameters, ?issued,
    ?version, trivial⟩
  case context =>
    intro value inside
    refine unambiguous_context fun members same => ?_
    exact unrepeated.context members (same ▸ inside)
  case parameters =>
    -- The parameters may be of any shape, so nothing is asked of them.
    intro value inside
    cases value with
    | object members => exact ⟨.inl rfl, fun _ _ => Schema.unambiguous_any _⟩
    | _ => trivial
  all_goals exact fun value inside => trivial

/-- A text that a token may have for its payload spells one document, and that is an object. If
none of its fields is repeated, it is the manifest of some claims exactly when the claims of the
payload are these. -/
theorem manifest_iff_payload {text : String} {members : ClaimMap}
    (parsed : CompactToken.objectOf? (Text.Utf8.encode text) = some members) :
    ∃ written : List (String × Value),
      (∀ document : Value, document.SpelledBy text ↔ document = .object written) ∧
      (Unrepeated written →
        ∀ claims, read text = .ok claims ↔ ofClaimMap? members = some claims) := by
  obtain ⟨document, spelled, nested, same⟩ :=
    Value.read_eq_ok_iff.mp (CompactToken.objectOf?_encode.mp parsed)
  cases document with
  | object written =>
    refine ⟨written, fun other => ⟨fun also => also.unique spelled, fun this => this ▸ spelled⟩, ?_⟩
    intro unrepeated claims
    have alike (form : Value) : schema.read text = .ok form ↔
        schema.conform? (.object members) = some form := by
      rw [same]
      exact spelled.read_eq_ok_iff nested unrepeated.unambiguous
    rw [read, ofClaimMap?]
    cases conforms : schema.conform? (.object members) with
    | some form => simp [(alike form).mpr conforms, Except.map]
    | none =>
      cases streamed : schema.read text with
      | ok form => simp [(alike form).mp streamed] at conforms
      | error fault => simp [Except.map]
  | _ => cases same

/-- A text with a field whose name is escaped and whose context is a list, with a name that is no
field and comes twice, and with parameters of one name. -/
theorem manifest_iff_payload_repeated :
    read ("\x7b\"id\":1,\"target_urn\":\"u\",\"parameters\":\x7b\"p\":1,\"p\":2\x7d," ++
      "\"task\\u005fcontext\":[\"t\",\"n\"],\"id\":[],\"tool_sha256\":\"d\"\x7d") =
    .ok ⟨⟨"t", "n", "", "", ""⟩, "u", "d", "", [("p", .ofNat 2)], "", ""⟩ := by
  have spelled : (Value.object [("id", .ofNat 1), ("target_urn", .text "u"),
      ("parameters", .object [("p", .ofNat 1), ("p", .ofNat 2)]),
      ("task_context", .list [.text "t", .text "n"]), ("id", .list []),
      ("tool_sha256", .text "d")]).SpelledBy
      ("\x7b\"id\":1,\"target_urn\":\"u\",\"parameters\":\x7b\"p\":1,\"p\":2\x7d," ++
        "\"task\\u005fcontext\":[\"t\",\"n\"],\"id\":[],\"tool_sha256\":\"d\"\x7d") := by
    decide +kernel
  have sorted : (Value.object [("id", .ofNat 1), ("target_urn", .text "u"),
      ("parameters", .object [("p", .ofNat 1), ("p", .ofNat 2)]),
      ("task_context", .list [.text "t", .text "n"]), ("id", .list []),
      ("tool_sha256", .text "d")]).sorted =
      .object [("id", .list []), ("parameters", .object [("p", .ofNat 2)]),
        ("target_urn", .text "u"), ("task_context", .list [.text "t", .text "n"]),
        ("tool_sha256", .text "d")] := rfl
  have parsed := CompactToken.objectOf?_encode.mpr
    (Value.read_eq_ok_iff.mpr ⟨_, spelled, by decide, sorted.symm⟩)
  obtain ⟨document, unique, agree⟩ := manifest_iff_payload parsed
  obtain rfl := Value.object.inj ((unique _).mp spelled)
  exact (agree ⟨by decide, by simp⟩ _).mpr rfl

end TaskClaims

end Gatehouse
