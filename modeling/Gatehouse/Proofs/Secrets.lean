import Gatehouse.Proofs.Json.Members
import Gatehouse.Proofs.Result
import Gatehouse.Proofs.Token.Verdict
import Gatehouse.Secrets

/-!
# Where the secret comes from

A file of secrets gives all of its entries or none: its mode is judged before its content,
and one entry that cannot be read discards the others. A name then stands for what the
environment holds under it, unless that is empty, or else for the last entry of the file
under it. Signing and verifying look the secret up in the same way. Without a secret
there is a verifier that accepts nothing: a token that is in order up to its key is
refused for the missing key.
-/

namespace Gatehouse

open Json
open CompactToken (Forms NamesLast)

namespace Secrets

/-! ## Loading a file -/

/-- A mode is too broad when it grants anything to group or others. -/
theorem isBroad_iff {mode : Nat} : isBroad mode = true ↔ mode &&& 0o077 ≠ 0 := by
  have low : mode &&& 0o077 = mode % 0o100 := Nat.and_two_pow_sub_one_eq_mod mode 6
  have nested : mode % 0o1000 % 0o100 = mode % 0o100 := Nat.mod_mod_of_dvd mode (by decide)
  rw [isBroad, permissions, nested, low, bne_iff_ne]

/-- The permissions are the lowest nine bits of a mode: what else a mode says of a file is left
out. -/
theorem permissions_eq (mode : Nat) : permissions mode = mode &&& 0o777 :=
  (Nat.and_two_pow_sub_one_eq_mod mode 9).symm

/-- What a file that may be absent holds for a reader: nothing, or all the entries of a file that
nobody but its owner may touch. -/
inductive Holds (reader : Reader) : Option File → List EnvFile.Entry → Prop
  | absent : Holds reader Option.none []
  | file {file : File} {entries : List EnvFile.Entry} (closed : file.mode &&& 0o077 = 0)
    (read : reader file.octets = entries.map .ok) : Holds reader (some file) entries

variable {reader : Reader} {environment : Environment} {file : File}
  {entries : List EnvFile.Entry}

/-- A broad mode is reported, and nothing else of the file: its octets are not looked at, so they
cannot appear in the error. -/
theorem ofFile_of_broad (broad : file.mode &&& 0o077 ≠ 0) :
    ofFile reader file = .error (.broadMode (file.mode &&& 0o777)) := by
  rw [ofFile, if_pos (isBroad_iff.mpr broad), permissions_eq]

/-- The entries of a file that is closed to others decide what is loaded from it. -/
theorem ofFile_of_closed (closed : file.mode &&& 0o077 = 0) :
    ofFile reader file = (ofResults (reader file.octets)).mapError .entry :=
  if_neg fun broad => isBroad_iff.mp broad closed

/-- A closed file whose entries can all be read is loaded. -/
theorem ofFile_of_entries (closed : file.mode &&& 0o077 = 0)
    (read : reader file.octets = entries.map .ok) :
    ofFile reader file = .ok (ofEntries entries) := by
  rw [ofFile_of_closed closed, read, ofResults, mapM_id_ok]
  rfl

/-- The first entry that cannot be read is reported, and those in front of it are not kept. -/
theorem ofFile_of_bad_entry (closed : file.mode &&& 0o077 = 0) {cause : EnvFile.EntryError}
    {rest : List (Except EnvFile.EntryError EnvFile.Entry)}
    (read : reader file.octets = entries.map .ok ++ .error cause :: rest) :
    ofFile reader file = .error (.entry cause) := by
  rw [ofFile_of_closed closed, read, ofResults, mapM_id_error]
  rfl

/-- Only what a file holds is loaded, and all of it: either every entry is there, or there is a
first one that cannot be read, and then nothing is loaded. -/
theorem loadBy_eq_ok_iff {file? : Option File} {secrets : Secrets} :
    loadBy reader file? = .ok secrets ↔
      ∃ entries, Holds reader file? entries ∧ ofEntries entries = secrets := by
  constructor
  · intro loaded
    cases file? with
    | none => exact ⟨[], .absent, Except.ok.inj loaded⟩
    | some file =>
      by_cases closed : file.mode &&& 0o077 = 0
      · rcases all_ok_or_first_error (reader file.octets) with
          ⟨entries, read⟩ | ⟨entries, cause, rest, read⟩
        · exact ⟨entries, .file closed read,
            Except.ok.inj ((ofFile_of_entries closed read).symm.trans loaded)⟩
        · cases (ofFile_of_bad_entry closed read).symm.trans loaded
      · cases (ofFile_of_broad closed).symm.trans loaded
  · rintro ⟨entries, holds, rfl⟩
    cases holds with
    | absent => rfl
    | file closed read => exact ofFile_of_entries closed read

/-- A file is loaded exactly when there is none, or when it is closed to others and every entry of
it can be read. -/
theorem exists_loadBy_iff {file? : Option File} :
    (∃ secrets, loadBy reader file? = .ok secrets) ↔
      ∀ file, file? = some file → file.mode &&& 0o077 = 0 ∧
        ∀ result ∈ reader file.octets, ∃ entry, result = .ok entry := by
  constructor
  · rintro ⟨secrets, loaded⟩ file rfl
    obtain ⟨entries, holds, -⟩ := loadBy_eq_ok_iff.mp loaded
    cases holds with
    | file closed read =>
      refine ⟨closed, fun result inside => ?_⟩
      rw [read] at inside
      obtain ⟨entry, -, rfl⟩ := List.mem_map.mp inside
      exact ⟨entry, rfl⟩
  · intro sound
    cases file? with
    | none => exact ⟨_, loadBy_eq_ok_iff.mpr ⟨_, .absent, rfl⟩⟩
    | some file =>
      obtain ⟨closed, readable⟩ := sound file rfl
      rcases all_ok_or_first_error (reader file.octets) with
        ⟨entries, read⟩ | ⟨entries, cause, rest, read⟩
      · exact ⟨_, loadBy_eq_ok_iff.mpr ⟨entries, .file closed read, rfl⟩⟩
      · have bad : .error cause ∈ reader file.octets := by
          rw [read]
          exact List.mem_append_right _ List.mem_cons_self
        obtain ⟨entry, same⟩ := readable _ bad
        cases same

/-! ## Looking a name up -/

/-- An environment says nothing under a name: it does not hold it, or holds an empty value. -/
def Unset (environment : Environment) (name : String) : Prop :=
  ∀ value, environment name = some value → value = ""

/-- What a name stands for, given an environment and the entries of a file: what the environment
says, or the last entry of that name. -/
inductive StandsFor (environment : Environment) (entries : List EnvFile.Entry) (name : String) :
    Option String → Prop
  | environment {value : String} (set : environment name = some value) (nonempty : value ≠ "") :
    StandsFor environment entries name (some value)
  | file {value : String} {front back : List EnvFile.Entry} (unset : Unset environment name)
    (last : entries = front ++ (name, value) :: back) (noLater : name ∉ back.map Prod.fst) :
    StandsFor environment entries name (some value)
  | nothing (unset : Unset environment name) (absent : name ∉ entries.map Prod.fst) :
    StandsFor environment entries name Option.none

variable {secrets : Secrets} {name : String}

/-- A variable that is set and not empty goes before the file. -/
theorem lookup_of_set {value : String} (set : environment name = some value)
    (nonempty : value ≠ "") : secrets.lookup name environment = some value := by
  have notEmpty : ¬ value.isEmpty = true := fun empty => nonempty (String.isEmpty_iff.mp empty)
  rw [lookup, set]
  exact if_neg notEmpty

/-- Without such a variable the file decides. An empty variable counts as none. -/
theorem lookup_of_unset (unset : Unset environment name) :
    secrets.lookup name environment = find? name secrets.entries := by
  rw [lookup]
  cases held : environment name with
  | none => rfl
  | some value =>
    obtain rfl := unset value held
    rfl

/-- Of the entries of one name the last one stays, as a later line of a file replaces an earlier
one. -/
theorem find?_ofEntries (name : String) (entries : List EnvFile.Entry) :
    find? name (ofEntries entries).entries = find? name entries.reverse := by
  have last := find?_insertAll_last name [] entries
  rwa [find?, Option.or_none] at last

/-- A look-up finds what the name stands for, by whether its variable is set, and to what. -/
theorem standsFor_lookup (environment : Environment) (entries : List EnvFile.Entry)
    (name : String) :
    StandsFor environment entries name ((ofEntries entries).lookup name environment) := by
  by_cases unset : Unset environment name
  · rw [lookup_of_unset unset, find?_ofEntries]
    cases found : find? name entries.reverse with
    | some value =>
      obtain ⟨front, back, last, noLater⟩ := find?_reverse_eq_some_iff.mp found
      exact .file unset last noLater
    | none =>
      have absent := not_mem_of_find?_eq_none found
      rw [List.map_reverse, List.mem_reverse] at absent
      exact .nothing unset absent
  · obtain ⟨value, set, nonempty⟩ : ∃ value, environment name = some value ∧ value ≠ "" := by
      simpa [Unset] using unset
    rw [lookup_of_set set nonempty]
    exact .environment set nonempty

end Secrets

/-! ## Verifying with what was found -/

namespace Verifier

/-- A verifier without a key accepts nothing, and refuses every token that is in order up to the key
for the missing key. -/
structure Keyless (verifier : Verifier) : Prop where
  refuses : ∀ text, (∃ cause, verifier.verifyClaims text = .error cause) ∧
    ∃ cause, verifier.verify text = .error cause
  missing : ∀ text parts header, Forms text parts header → NamesLast verifier.algorithm header →
    verifier.verifyClaims text = .error .missingKeyMaterial ∧
      verifier.verify text = .error .missingKeyMaterial

/-- A token whose claims are refused is refused for the same reason when it is verified for a
task. -/
theorem verify_of_refused {verifier : Verifier} {text : String} {cause : TokenError}
    (refused : verifier.verifyClaims text = .error cause) :
    verifier.verify text = .error cause := by
  rw [verify, refused]
  rfl

/-- No verdict on an empty secret goes past the check for a key. -/
theorem keyless_of_empty : (Verifier.hs256 []).Keyless where
  refuses text := by
    obtain ⟨result, verdict⟩ := exists_verdict (.secret []) text
    have answered : (Verifier.hs256 []).verifyClaims text = result := verdict.verifyClaims_eq
    have refused : ∃ cause, result = .error cause := by
      cases verdict with
      | accepted _ _ gives => cases gives
      | _ => exact ⟨_, rfl⟩
    obtain ⟨cause, rfl⟩ := refused
    exact ⟨⟨cause, answered⟩, cause, verify_of_refused answered⟩
  missing text parts header forms named := by
    have verdict : Verdict (.secret []) text (.error .missingKeyMaterial) :=
      .missingKeyMaterial forms named .secret
    exact ⟨verdict.verifyClaims_eq, verify_of_refused verdict.verifyClaims_eq⟩

end Verifier

namespace VerifierSettings

/-- The verifier of a shared secret has the one that a look-up finds as its key, and needs no key
file. -/
theorem load_hs256 {settings : VerifierSettings} (pinned : settings.algorithm = .hs256)
    (secrets : Secrets) (environment : Environment) (system : FileSystem) :
    settings.load secrets environment system =
      .ok (.hs256 (Text.Utf8.encode ((settings.secret secrets environment).getD ""))) := by
  have unread : settings.publicKeyText system = .ok none := by
    rw [publicKeyText, pinned]
  rw [load, unread]
  simp only [Except.map, verifier, pinned]

/-- Resolving the key fails closed. A file is loaded only if nobody but its owner may touch it and
all of its entries can be read: a broad mode is answered with the mode alone, and one bad entry
discards the rest. What is then looked up is what the name stands for; it is what tokens are signed
with, and the key of the verifier, which accepts nothing when there is none or an empty one. -/
theorem secret_fails_closed (reader : Secrets.Reader) (environment : Environment)
    (file? : Option File) (settings : VerifierSettings) (system : FileSystem)
    (pinned : settings.algorithm = .hs256) :
    ((∃ secrets, Secrets.loadBy reader file? = .ok secrets) ↔
      ∀ file, file? = some file → file.mode &&& 0o077 = 0 ∧
        ∀ result ∈ reader file.octets, ∃ entry, result = .ok entry) ∧
    (∀ mode octets, mode &&& 0o077 ≠ 0 →
      Secrets.loadBy reader (some ⟨mode, octets⟩) = .error (.broadMode (mode &&& 0o777))) ∧
    (∀ (mode : Nat) (octets : List UInt8) (entries : List EnvFile.Entry)
      (cause : EnvFile.EntryError) (rest : List (Except EnvFile.EntryError EnvFile.Entry)),
      mode &&& 0o077 = 0 →
      reader octets = entries.map .ok ++ .error cause :: rest →
        Secrets.loadBy reader (some ⟨mode, octets⟩) = .error (.entry cause)) ∧
    ∀ secrets, Secrets.loadBy reader file? = .ok secrets →
      ∃ entries found, Secrets.Holds reader file? entries ∧
        Secrets.StandsFor environment entries settings.secretName found ∧
        settings.secret secrets environment = found ∧
        settings.load secrets environment system =
          .ok (.hs256 (Text.Utf8.encode (found.getD ""))) ∧
        (found = none ∨ found = some "" →
          (Verifier.hs256 (Text.Utf8.encode (found.getD ""))).Keyless) := by
  refine ⟨Secrets.exists_loadBy_iff, fun mode octets broad => Secrets.ofFile_of_broad broad,
    fun mode octets entries cause rest closed read => Secrets.ofFile_of_bad_entry closed read, ?_⟩
  intro secrets loaded
  obtain ⟨entries, holds, rfl⟩ := Secrets.loadBy_eq_ok_iff.mp loaded
  refine ⟨entries, _, holds, Secrets.standsFor_lookup environment entries settings.secretName,
    rfl, load_hs256 pinned _ environment system, ?_⟩
  intro keyless
  rcases keyless with absent | blank
  · rw [absent, Option.getD_none, Text.Utf8.encode_empty]
    exact Verifier.keyless_of_empty
  · rw [blank, Option.getD_some, Text.Utf8.encode_empty]
    exact Verifier.keyless_of_empty

/-- A variable that is set but empty leaves the name to the file, whose later entry counts. -/
theorem secret_fails_closed_shadowed :
    let file : File := ⟨0o100600, Text.Utf8.encode "K=a\nK=b\n"⟩
    let settings : VerifierSettings := { secretName := "K" }
    settings.algorithm = .hs256 ∧
    Secrets.load (fun _ => none) (some file) = .ok ⟨[("K", "b")]⟩ ∧
    settings.secret ⟨[("K", "b")]⟩ (fun _ => some "") = some "b" ∧
    settings.load ⟨[("K", "b")]⟩ (fun _ => some "") .empty =
      .ok (.hs256 (Text.Utf8.encode "b")) := by
  intro file settings
  have loaded : Secrets.load (fun _ => none) (some file) = .ok ⟨[("K", "b")]⟩ :=
    ok_of_toOption (by decide +kernel)
  have looked : settings.secret ⟨[("K", "b")]⟩ (fun _ => some "") = some "b" := by decide +kernel
  obtain ⟨entries, found, -, -, resolved, keyed, -⟩ :=
    (secret_fails_closed (EnvFile.read fun _ => none) (fun _ => some "") (some file) settings
      .empty rfl).2.2.2 _ loaded
  obtain rfl := resolved.symm.trans looked
  exact ⟨rfl, loaded, looked, keyed⟩

end VerifierSettings

end Gatehouse
