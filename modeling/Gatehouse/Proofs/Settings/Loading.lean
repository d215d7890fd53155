import Gatehouse.CommandLine.Deployment
import Gatehouse.Proofs.Result
import Gatehouse.Proofs.Settings.Override

/-!
# Which settings are loaded

A host provides settings in a file, or the defaults where the file that is looked for is
missing. What is loaded are these settings under the environment of the host, and they
are judged as they are then. So a file that nothing could be run with is accepted once
the environment mends it, and a sound one is refused once the environment spoils it.
Where no file is named and no home directory is known, there is no file to look for, and
the defaults do not take its place.
-/

namespace Gatehouse

namespace Settings

/-- Settings that something can be run with. -/
structure Acceptable (settings : Settings) : Prop where
  time : 0 < settings.execution.timeoutSeconds.toNat
  output : 0 < settings.execution.maxOutputBytes.toNat
  secret : settings.verifier.algorithm = .hs256 → settings.verifier.secretName ≠ ""

/-- The first setting that nothing can be run with: the time, the output, or a secret without a
name where the algorithm needs one. -/
inductive FirstFault (settings : Settings) : SettingsError → Prop
  | timeoutZero (time : settings.execution.timeoutSeconds.toNat = 0) :
    FirstFault settings .timeoutZero
  | outputZero (time : 0 < settings.execution.timeoutSeconds.toNat)
    (output : settings.execution.maxOutputBytes.toNat = 0) : FirstFault settings .outputZero
  | secretUnnamed (time : 0 < settings.execution.timeoutSeconds.toNat)
    (output : 0 < settings.execution.maxOutputBytes.toNat)
    (pinned : settings.verifier.algorithm = .hs256) (unnamed : settings.verifier.secretName = "") :
    FirstFault settings .secretUnnamed

variable {settings : Settings} {cause : SettingsError}

/-- Settings with a fault are not acceptable. -/
theorem FirstFault.not_acceptable (fault : settings.FirstFault cause) : ¬ settings.Acceptable := by
  intro acceptable
  cases fault with
  | timeoutZero time => exact absurd time acceptable.time.ne'
  | outputZero _ output => exact absurd output acceptable.output.ne'
  | secretUnnamed _ _ pinned unnamed => exact acceptable.secret pinned unnamed

/-- Settings have one first fault, because each says that those in front of it are absent. -/
theorem FirstFault.unique {other : SettingsError} (first : settings.FirstFault cause)
    (second : settings.FirstFault other) : cause = other := by
  cases first <;> cases second <;> first | rfl | omega

/-- Settings pass the check, or it names their first fault. The three conditions are gone through in
their order. -/
theorem acceptable_or_fault (settings : Settings) :
    settings.Acceptable ∧ settings.validate = .ok () ∨
      ∃ cause, settings.FirstFault cause ∧ settings.validate = .error cause := by
  have zero {number : UInt64} : number = 0 ↔ number.toNat = 0 := UInt64.toNat_inj.symm
  unfold validate
  split
  · next time => exact .inr ⟨_, .timeoutZero (zero.mp time), rfl⟩
  · next time =>
    have time := Nat.pos_of_ne_zero (mt zero.mpr time)
    split
    · next output => exact .inr ⟨_, .outputZero time (zero.mp output), rfl⟩
    · next output =>
      have output := Nat.pos_of_ne_zero (mt zero.mpr output)
      split
      · next secret => exact .inr ⟨_, .secretUnnamed time output secret.1 secret.2, rfl⟩
      · next secret =>
        exact .inl ⟨⟨time, output, fun pinned unnamed => secret ⟨pinned, unnamed⟩⟩, rfl⟩

/-- Settings pass the check exactly if they are acceptable. -/
theorem validate_eq_ok_iff : settings.validate = .ok () ↔ settings.Acceptable := by
  rcases settings.acceptable_or_fault with ⟨acceptable, passed⟩ | ⟨cause, fault, refused⟩
  · exact iff_of_true passed acceptable
  · refine iff_of_false (fun passed => ?_) fault.not_acceptable
    cases refused.symm.trans passed

/-- The check names the first fault and no other. -/
theorem validate_eq_error_iff : settings.validate = .error cause ↔ settings.FirstFault cause := by
  rcases settings.acceptable_or_fault with ⟨acceptable, passed⟩ | ⟨found, fault, refused⟩
  · refine iff_of_false (fun refused => ?_) (fun fault => fault.not_acceptable acceptable)
    cases passed.symm.trans refused
  · rw [refused]
    constructor
    · intro named
      rwa [← Except.error.inj named]
    · exact fun other => congrArg Except.error (fault.unique other)

end Settings

namespace CommandLine

/-- The settings that a host provides before its environment is looked at: those of the file that
is asked for, or of the one that is looked for, or the defaults where that is missing. A file that
is looked for has to have a path. -/
inductive Provides (host : Host) : Option String → Settings → Prop
  | requested {path text : String} {settings : Settings}
    (stored : host.system.readText path = .ok text) (read : Settings.read text = .ok settings) :
    Provides host (some path) settings
  | found {path text : String} {settings : Settings} (sought : foundSettingsPath host = some path)
    (stored : host.system.readText path = .ok text) (read : Settings.read text = .ok settings) :
    Provides host none settings
  | absent {path : String} (sought : foundSettingsPath host = some path)
    (missing : host.system.readText path = .error .notFound) : Provides host none {}

/-- A file of settings is looked for where a variable says, or in the home directory, so there is no
path for it exactly if neither is known. -/
theorem foundSettingsPath_eq_none_iff {host : Host} :
    foundSettingsPath host = none ↔
      host.environment "TOLLGATE_CONFIG_PATH" = none ∧ host.home = none := by
  rw [foundSettingsPath, settingsDirectory, Option.or_eq_none_iff, Option.map_eq_none_iff,
    Option.map_eq_none_iff]

/-- A home directory is known from a variable or from the accounts, unless both are silent or name
an empty path. -/
theorem home_eq_none_iff {host : Host} :
    host.home = none ↔ (∀ path, host.environment "HOME" = some path → path = "") ∧
      ∀ path, host.account = some path → path = "" := by
  rw [Host.home, Option.or_eq_none_iff, Option.filter_eq_none_iff, Option.filter_eq_none_iff]
  simp

variable {host : Host} {requested : Option String} {environment : Environment} {text : String}
  {settings final : Settings} {cause : SettingsError}
  {unusable : SettingsFileError → SettingsLoadError}

/-- An empty text says that the defaults hold. -/
theorem read_empty : Settings.read "" = .ok {} := rfl

/-- What a text gives is put under the environment first and judged then. -/
theorem settingsOfText_of_read (read : Settings.read text = .ok settings) :
    settingsOfText environment text unusable =
      ((settings.override environment).validate.mapError .invalid).map
        fun _ => settings.override environment := by
  rw [settingsOfText, read]
  rfl

/-- A text that says no settings is at fault, and the environment cannot mend that. -/
theorem settingsOfText_of_unread {fault : SettingsFileError}
    (unread : Settings.read text = .error fault) :
    settingsOfText environment text unusable = .error (unusable fault) := by
  rw [settingsOfText, unread]
  rfl

/-- Settings that are provided are put under the environment and judged, whether they stand in a
file or are the defaults in place of a missing one. -/
theorem loadSettings_of_provides (provides : Provides host requested settings) :
    loadSettings host requested =
      ((settings.override host.environment).validate.mapError .invalid).map
        fun _ => settings.override host.environment := by
  cases provides with
  | requested stored read => simp only [loadSettings, stored, settingsOfText_of_read read]
  | found sought stored read =>
    simp only [loadSettings, sought, stored, settingsOfText_of_read read]
  | absent sought missing =>
    simp only [loadSettings, sought, missing, settingsOfText_of_read read_empty]

/-- Where there is no file to look for, nothing is loaded. -/
theorem loadSettings_of_unsought (unsought : foundSettingsPath host = none) :
    loadSettings host none = .error .homeless := by
  simp only [loadSettings, unsought]

/-- A failure that lies in a file, and neither in what a setting is in the end nor in the lack of a
place to look for the file. -/
def SettingsLoadError.LiesInFile : SettingsLoadError → Prop
  | .invalid _ | .homeless => False
  | .unreadable .. | .requestedUnusable .. | .foundUnusable .. => True

/-- Where no settings are provided, there is nowhere to look for a file, or one is at fault. -/
theorem provides_or_unread (host : Host) (requested : Option String) :
    (∃ settings, Provides host requested settings) ∨
      (requested = none ∧ foundSettingsPath host = none) ∨
      ∃ failure, loadSettings host requested = .error failure ∧ failure.LiesInFile := by
  cases requested with
  | some path =>
    cases stored : host.system.readText path with
    | error cause =>
      exact .inr (.inr ⟨.unreadable path cause, by simp only [loadSettings, stored], trivial⟩)
    | ok text =>
      cases read : Settings.read text with
      | ok settings => exact .inl ⟨settings, .requested stored read⟩
      | error fault =>
        refine .inr (.inr ⟨.requestedUnusable path fault, ?_, trivial⟩)
        simp only [loadSettings, stored, settingsOfText_of_unread read]
  | none =>
    cases sought : foundSettingsPath host with
    | none => exact .inr (.inl ⟨rfl, rfl⟩)
    | some path =>
      cases stored : host.system.readText path with
      | error cause =>
        by_cases missing : cause = .notFound
        · exact .inl ⟨{}, .absent sought (missing ▸ stored)⟩
        · refine .inr (.inr ⟨.unreadable path cause, ?_, trivial⟩)
          simp only [loadSettings, sought, stored]
      | ok text =>
        cases read : Settings.read text with
        | ok settings => exact .inl ⟨settings, .found sought stored read⟩
        | error fault =>
          refine .inr (.inr ⟨.foundUnusable path fault, ?_, trivial⟩)
          simp only [loadSettings, sought, stored, settingsOfText_of_unread read]

/-- What is loaded is what was provided, as the environment leaves it, if that is acceptable. -/
theorem loadSettings_eq_ok_iff : loadSettings host requested = .ok final ↔
    ∃ settings, Provides host requested settings ∧
      settings.override host.environment = final ∧ final.Acceptable := by
  constructor
  · intro loaded
    rcases provides_or_unread host requested with
      ⟨settings, provides⟩ | ⟨rfl, unsought⟩ | ⟨failure, failed, -⟩
    · rw [loadSettings_of_provides provides] at loaded
      obtain ⟨_, passed, rfl⟩ := ok_of_map loaded
      exact ⟨settings, provides, rfl, Settings.validate_eq_ok_iff.mp (ok_of_mapError passed)⟩
    · cases (loadSettings_of_unsought unsought).symm.trans loaded
    · cases failed.symm.trans loaded
  · rintro ⟨settings, provides, rfl, acceptable⟩
    rw [loadSettings_of_provides provides, Settings.validate_eq_ok_iff.mpr acceptable]
    rfl

/-- Otherwise its first fault is reported. A fault of a file is reported in other words, so it is
not taken for one of the settings. -/
theorem loadSettings_eq_invalid_iff : loadSettings host requested = .error (.invalid cause) ↔
    ∃ settings, Provides host requested settings ∧
      (settings.override host.environment).FirstFault cause := by
  constructor
  · intro failed
    rcases provides_or_unread host requested with
      ⟨settings, provides⟩ | ⟨rfl, unsought⟩ | ⟨failure, unread, inFile⟩
    · rw [loadSettings_of_provides provides] at failed
      obtain ⟨fault, refused, same⟩ := error_of_mapError (error_of_map failed)
      obtain rfl := SettingsLoadError.invalid.inj same
      exact ⟨settings, provides, Settings.validate_eq_error_iff.mp refused⟩
    · cases (loadSettings_of_unsought unsought).symm.trans failed
    · obtain rfl := Except.error.inj (unread.symm.trans failed)
      exact inFile.elim
  · rintro ⟨settings, provides, fault⟩
    rw [loadSettings_of_provides provides, Settings.validate_eq_error_iff.mpr fault]
    rfl

/-- Nothing is loaded for want of a place exactly if no file is asked for, no variable names one,
and no home directory is known to look for one in. -/
theorem loadSettings_eq_homeless_iff : loadSettings host requested = .error .homeless ↔
    requested = none ∧ host.environment "TOLLGATE_CONFIG_PATH" = none ∧ host.home = none := by
  rw [← foundSettingsPath_eq_none_iff]
  constructor
  · intro failed
    rcases provides_or_unread host requested with
      ⟨settings, provides⟩ | unsought | ⟨failure, unread, inFile⟩
    · rw [loadSettings_of_provides provides] at failed
      obtain ⟨fault, -, same⟩ := error_of_mapError (error_of_map failed)
      cases same
    · exact unsought
    · obtain rfl := Except.error.inj (unread.symm.trans failed)
      exact inFile.elim
  · rintro ⟨rfl, unsought⟩
    exact loadSettings_of_unsought unsought

/-- An environment replaces five settings at most, each by its own variable: a value that fits takes
the place of the one at hand, which stays otherwise, whatever the other variables and the other
settings are. A time is replaced by the number of 64 bits that its variable writes, as it is
written. A second look at the environment changes nothing. What is loaded is judged as the
environment leaves it, and not as the file has it; where there is nowhere to look for a file nothing
is loaded, and no defaults take its place. -/
theorem settings_replaced_then_judged :
    Function.Injective Overridable.variableName ∧
    (∀ (settings : Settings) (environment : Environment),
      (settings.override environment).AgreesBesides settings ∧
      (∀ place : Overridable, place.Settles (environment place.variableName)
        (Overridable.get settings place)
        (Overridable.get (settings.override environment) place)) ∧
      (∀ (place : Overridable) (other : Settings) (surroundings : Environment),
        surroundings place.variableName = environment place.variableName →
        Overridable.get other place = Overridable.get settings place →
          Overridable.get (other.override surroundings) place =
            Overridable.get (settings.override environment) place) ∧
      (∀ text, environment "TOLLGATE_TIMEOUT_SECS" = some text →
        (∀ number, Text.WritesNatural text number → number ≤ Nat.pow 2 64 - 1 →
          (settings.override environment).execution.timeoutSeconds.toNat = number) ∧
        ((∀ number, Text.WritesNatural text number → Nat.pow 2 64 - 1 < number) →
          (settings.override environment).execution.timeoutSeconds =
            settings.execution.timeoutSeconds)) ∧
      (settings.override environment).override environment = settings.override environment) ∧
    ∀ (host : Host) (requested : Option String),
      (∀ final, loadSettings host requested = .ok final ↔
        ∃ settings, Provides host requested settings ∧
          settings.override host.environment = final ∧ final.Acceptable) ∧
      (∀ cause, loadSettings host requested = .error (.invalid cause) ↔
        ∃ settings, Provides host requested settings ∧
          (settings.override host.environment).FirstFault cause) ∧
      (loadSettings host requested = .error .homeless ↔
        requested = none ∧ host.environment "TOLLGATE_CONFIG_PATH" = none ∧
          (∀ path, host.environment "HOME" = some path → path = "") ∧
          ∀ path, host.account = some path → path = "") := by
  refine ⟨Overridable.variableName_injective, fun settings environment =>
    ⟨Settings.agreesBesides_override settings environment,
      Settings.settles_override settings environment,
      fun place other surroundings => Settings.get_override_congr, ?timeout,
      Settings.override_override settings environment⟩,
    fun host requested => ⟨fun final => loadSettings_eq_ok_iff,
      fun cause => loadSettings_eq_invalid_iff, ?homeless⟩⟩
  case timeout =>
    intro text set
    refine ⟨fun number => Settings.timeoutSeconds_override_of_written set, fun unfit => ?_⟩
    refine Settings.timeoutSeconds_override_of_unfit fun other again => ?_
    obtain rfl := Option.some.inj (set.symm.trans again)
    exact unfit
  case homeless =>
    rw [loadSettings_eq_homeless_iff, home_eq_none_iff]

/-- A file of settings that nothing can be run with. -/
def unsoundText : String :=
  "[verifier]\nalgorithm = \"EdDSA\"\nhmac_secret_env = \"\"\n[executor]\ntimeout_secs = 0\n"

/-- A host with that file and with variables. -/
def unsound (bindings : List (String × String)) : Host :=
  { system := {
      nodes := [(["settings.toml"], .file ⟨0o644, Text.Utf8.encode unsoundText⟩)]
      here := [] }
    bindings := bindings
    account := none }

/-- What the file holds. -/
def unsoundSettings : Settings where
  verifier := { algorithm := .edDsa, secretName := "" }
  execution := { timeoutSeconds := 0 }

/-- The file of the sample says these settings, whatever the environment is. -/
theorem unsound_provides (bindings : List (String × String)) :
    Provides (unsound bindings) (some "settings.toml") unsoundSettings := by
  have stored : (unsound []).system.readText "settings.toml" = .ok unsoundText :=
    ok_of_toOption (by decide +kernel)
  have read : Settings.read unsoundText = .ok unsoundSettings :=
    ok_of_toOption (by decide +kernel)
  exact .requested stored read

/-- A variable mends the file, and another one spoils it again. Without a request for the file there
is none to look for: there is neither a variable nor an account that would say where. -/
theorem settings_replaced_then_judged_mended :
    let mended := unsound [("TOLLGATE_TIMEOUT_SECS", "+015")]
    let spoiled := unsound [("TOLLGATE_TIMEOUT_SECS", "15"), ("TOLLGATE_ALGORITHM", "HS256")]
    ¬ unsoundSettings.Acceptable ∧
    loadSettings mended (some "settings.toml") =
      .ok { unsoundSettings with execution := { timeoutSeconds := 15 } } ∧
    loadSettings spoiled (some "settings.toml") = .error (.invalid .secretUnnamed) ∧
    loadSettings mended none = .error .homeless := by
  intro mended spoiled
  obtain ⟨-, -, loads⟩ := settings_replaced_then_judged
  have replaced : unsoundSettings.override mended.environment =
      { unsoundSettings with execution := { timeoutSeconds := 15 } } := by decide +kernel
  refine ⟨fun acceptable => absurd acceptable.time (by decide),
    ((loads mended _).1 _).mpr ⟨_, unsound_provides _, replaced, by decide, by decide, ?pinned⟩,
    ((loads spoiled _).2.1 _).mpr ⟨_, unsound_provides _, .secretUnnamed ?_ ?_ ?_ ?_⟩,
    (loads mended none).2.2.mpr ⟨rfl, rfl, nofun, nofun⟩⟩
  case pinned => exact fun pinned => absurd pinned (by decide)
  all_goals decide +kernel

end CommandLine

end Gatehouse
