import Gatehouse.Proofs.Text.Decimal
import Gatehouse.Settings.Override

/-!
# What an environment replaces

Five settings have a variable each. Whether a setting is replaced is a matter of what its
own variable holds: a value that fits takes its place, and anything else leaves it. All
other settings stay as they are. A second look at the same environment finds what the
first one put there, so it changes nothing.
-/

namespace Gatehouse

/-- What is found under one of two names has that name. -/
theorem named_of_found {α : Type} {text firstName secondName : String} {first second value : α}
    (found : (if text = firstName then some first
      else if text = secondName then some second else none) = some value) :
    text = firstName ∧ first = value ∨ text = secondName ∧ second = value := by
  split at found
  · next named => exact .inl ⟨named, Option.some.inj found⟩
  · split at found
    · next named => exact .inr ⟨named, Option.some.inj found⟩
    · cases found

/-- A text is taken for an algorithm exactly if it is its name, letter by letter. -/
theorem Algorithm.ofName?_eq_some_iff {text : String} {algorithm : Algorithm} :
    Algorithm.ofName? text = some algorithm ↔ text = algorithm.name := by
  constructor
  · intro found
    rcases named_of_found found with ⟨named, rfl⟩ | ⟨named, rfl⟩ <;> exact named
  · rintro rfl
    exact Algorithm.ofName?_name algorithm

/-- A text is taken for a backend exactly if it is its name, letter by letter. -/
theorem Backend.ofName?_eq_some_iff {text : String} {backend : Backend} :
    Backend.ofName? text = some backend ↔ text = backend.name := by
  constructor
  · intro found
    rcases named_of_found found with ⟨named, rfl⟩ | ⟨named, rfl⟩ <;> exact named
  · rintro rfl
    cases backend <;> decide

/-- The settings that an environment can replace. -/
inductive Overridable
  | algorithm
  | publicKeyPath
  | backend
  | timeoutSeconds
  | registry

namespace Overridable

/-- The variable of a setting. -/
def variableName : Overridable → String
  | .algorithm => "TOLLGATE_ALGORITHM"
  | .publicKeyPath => "TOLLGATE_PUBLIC_KEY_PATH"
  | .backend => "TOLLGATE_SANDBOX_BACKEND"
  | .timeoutSeconds => "TOLLGATE_TIMEOUT_SECS"
  | .registry => "TOLLGATE_REGISTRY"

/-- The values that a setting can have. -/
def Value : Overridable → Type
  | .algorithm => Algorithm
  | .publicKeyPath => Option String
  | .backend => Backend
  | .timeoutSeconds => UInt64
  | .registry => Option String

/-- The value that a setting has. -/
def get (settings : Settings) : (place : Overridable) → place.Value
  | .algorithm => settings.verifier.algorithm
  | .publicKeyPath => settings.verifier.publicKeyPath
  | .backend => settings.sandbox.backend
  | .timeoutSeconds => settings.execution.timeoutSeconds
  | .registry => settings.paths.registry

/-- A text stands for a value of a setting: the name of an algorithm or of a backend for that, any
text for the path that it is, and the digits of a number of 64 bits for the number. -/
def Means : (place : Overridable) → String → place.Value → Prop
  | .algorithm, text, (pinned : Algorithm) => text = pinned.name
  | .publicKeyPath, text, (path : Option String) => path = some text
  | .backend, text, (kind : Backend) => text = kind.name
  | .timeoutSeconds, text, (seconds : UInt64) =>
    ∃ number, Text.WritesNatural text number ∧ number ≤ Nat.pow 2 64 - 1 ∧ seconds.toNat = number
  | .registry, text, (path : Option String) => path = some text

/-- Every setting has a variable of its own, so no variable settles two of them. -/
theorem variableName_injective : Function.Injective variableName := by
  intro first second same
  cases first <;> cases second <;> first | rfl | exact absurd same (by decide)

/-- How the text of a variable is read for a setting. -/
def read? : (place : Overridable) → String → Option place.Value
  | .algorithm => Algorithm.ofName?
  | .publicKeyPath => fun path => some (some path)
  | .backend => Backend.ofName?
  | .timeoutSeconds => Text.parseUnsigned64?
  | .registry => fun path => some (some path)

/-- A text is read as the value that it stands for, and as none if it stands for none. -/
theorem read?_eq_some_iff {place : Overridable} {text : String} {value : place.Value} :
    place.read? text = some value ↔ place.Means text value := by
  cases place with
  | algorithm => exact Algorithm.ofName?_eq_some_iff
  | publicKeyPath => exact Option.some_inj.trans eq_comm
  | backend => exact Backend.ofName?_eq_some_iff
  | timeoutSeconds =>
    refine Text.parseUnsigned64?_eq_some_iff.trans ?_
    constructor
    · exact fun written => ⟨_, written, Nat.le_pred_of_lt (UInt64.toNat_lt value), rfl⟩
    · rintro ⟨number, written, -, same⟩
      rwa [same]
  | registry => exact Option.some_inj.trans eq_comm

/-- A text stands for one value at most, as it is read as one. -/
theorem Means.unique {place : Overridable} {text : String} {value other : place.Value}
    (first : place.Means text value) (second : place.Means text other) : value = other :=
  Option.some.inj ((read?_eq_some_iff.mpr first).symm.trans (read?_eq_some_iff.mpr second))

/-- What comes of a setting, given what its variable holds and the value at hand: the value that
the variable stands for takes its place, and it stays where the variable is absent or stands for
none. -/
inductive Settles (place : Overridable) (given : Option String) (current : place.Value) :
    place.Value → Prop
  | replaced {text : String} {value : place.Value} (set : given = some text)
    (fits : place.Means text value) : Settles place given current value
  | kept (unfit : ∀ text, given = some text → ∀ value, ¬ place.Means text value) :
    Settles place given current current

variable {place : Overridable} {given : Option String} {current value other : place.Value}

/-- A variable that is overridden with settles what is kept: its value if it is there and stands for
one, and what was there otherwise. -/
theorem settles_overridden (place : Overridable) (given : Option String) (current : place.Value) :
    place.Settles given current (Settings.overridden given place.read? current) := by
  cases found : given.bind place.read? with
  | some value =>
    obtain ⟨text, set, read⟩ := Option.bind_eq_some_iff.mp found
    rw [Settings.overridden, found]
    exact .replaced set (read?_eq_some_iff.mp read)
  | none =>
    rw [Settings.overridden, found]
    refine .kept fun text set value fits => ?_
    rw [set, Option.bind_some, read?_eq_some_iff.mpr fits] at found
    cases found

/-- A variable settles one value. -/
theorem Settles.unique (first : place.Settles given current value)
    (second : place.Settles given current other) : value = other := by
  cases first with
  | replaced set fits =>
    cases second with
    | replaced again fitsToo =>
      obtain rfl := Option.some.inj (set.symm.trans again)
      exact fits.unique fitsToo
    | kept unfit => exact absurd fits (unfit _ set _)
  | kept unfit =>
    cases second with
    | replaced set fits => exact absurd fits (unfit _ set _)
    | kept => rfl

/-- What a variable has settled it settles again: a value that it put there is the one that it
stands for, and one that it kept it keeps. -/
theorem Settles.again (settled : place.Settles given current value) :
    place.Settles given value value := by
  cases settled with
  | replaced set fits => exact .replaced set fits
  | kept unfit => exact .kept unfit

end Overridable

namespace Settings

variable {settings other : Settings} {environment surroundings : Environment}

/-- Settings that agree on everything that no environment can replace. -/
structure AgreesBesides (settings other : Settings) : Prop where
  secretName : settings.verifier.secretName = other.verifier.secretName
  dockerBin : settings.sandbox.dockerBin = other.sandbox.dockerBin
  runtime : settings.sandbox.runtime = other.sandbox.runtime
  apparmorProfile : settings.sandbox.apparmorProfile = other.sandbox.apparmorProfile
  memoryMb : settings.sandbox.memoryMb = other.sandbox.memoryMb
  pidsLimit : settings.sandbox.pidsLimit = other.sandbox.pidsLimit
  maxOutputBytes : settings.execution.maxOutputBytes = other.execution.maxOutputBytes
  logs : settings.paths.logs = other.paths.logs

/-- Nothing else is a setting: what agrees in all that a variable can settle and in the rest is the
same. -/
theorem AgreesBesides.eq (agrees : settings.AgreesBesides other)
    (same : ∀ place, Overridable.get settings place = Overridable.get other place) :
    settings = other := by
  obtain ⟨⟨_, _, _⟩, ⟨_, _, _, _, _, _⟩, ⟨_, _⟩, ⟨_, _⟩⟩ := settings
  obtain ⟨⟨_, _, _⟩, ⟨_, _, _, _, _, _⟩, ⟨_, _⟩, ⟨_, _⟩⟩ := other
  obtain ⟨rfl, rfl, rfl, rfl, rfl, rfl, rfl, rfl⟩ := agrees
  obtain rfl := same .algorithm
  obtain rfl := same .publicKeyPath
  obtain rfl := same .backend
  obtain rfl := same .timeoutSeconds
  obtain rfl := same .registry
  rfl

/-- The environment leaves everything else as it is. -/
theorem agreesBesides_override (settings : Settings) (environment : Environment) :
    (settings.override environment).AgreesBesides settings :=
  ⟨rfl, rfl, rfl, rfl, rfl, rfl, rfl, rfl⟩

/-- Every setting is overridden by its own variable. -/
theorem get_override (settings : Settings) (environment : Environment) (place : Overridable) :
    Overridable.get (settings.override environment) place =
      overridden (environment place.variableName) place.read? (Overridable.get settings place) := by
  cases place <;> rfl

/-- Every setting is settled by its own variable, and no other has a part in it. -/
theorem settles_override (settings : Settings) (environment : Environment) (place : Overridable) :
    place.Settles (environment place.variableName) (Overridable.get settings place)
      (Overridable.get (settings.override environment) place) := by
  rw [get_override]
  exact Overridable.settles_overridden ..

/-- The other variables and the other settings have no part in it. -/
theorem get_override_congr {place : Overridable}
    (sameVariable : environment place.variableName = surroundings place.variableName)
    (sameValue : Overridable.get settings place = Overridable.get other place) :
    Overridable.get (settings.override environment) place =
      Overridable.get (other.override surroundings) place := by
  rw [get_override, get_override, sameVariable, sameValue]

/-- A second look at the same environment changes nothing: what a variable settled it settles
again. -/
theorem override_override (settings : Settings) (environment : Environment) :
    (settings.override environment).override environment = settings.override environment := by
  apply (agreesBesides_override _ environment).eq
  intro place
  have once := settles_override settings environment place
  have twice := settles_override (settings.override environment) environment place
  exact twice.unique once.again

/-- A time that the environment gives is taken as it is written. The number fits 64 bits, so it is
not reduced. -/
theorem timeoutSeconds_override_of_written {text : String} {number : Nat}
    (set : environment "TOLLGATE_TIMEOUT_SECS" = some text)
    (written : Text.WritesNatural text number) (fits : number ≤ Nat.pow 2 64 - 1) :
    (settings.override environment).execution.timeoutSeconds.toNat = number := by
  have exact : (UInt64.ofNat number).toNat = number :=
    UInt64.toNat_ofNat_of_lt' (Nat.lt_of_le_pred (by decide) fits)
  have replaced : Overridable.timeoutSeconds.Settles (environment "TOLLGATE_TIMEOUT_SECS")
      settings.execution.timeoutSeconds (UInt64.ofNat number) :=
    .replaced set ⟨number, written, fits, exact⟩
  have same := (settles_override settings environment .timeoutSeconds).unique replaced
  exact (congrArg UInt64.toNat same).trans exact

/-- A text that writes no number of 64 bits leaves the time as it is. -/
theorem timeoutSeconds_override_of_unfit
    (unfit : ∀ text, environment "TOLLGATE_TIMEOUT_SECS" = some text →
      ∀ number, Text.WritesNatural text number → Nat.pow 2 64 - 1 < number) :
    (settings.override environment).execution.timeoutSeconds =
      settings.execution.timeoutSeconds := by
  have kept : Overridable.timeoutSeconds.Settles (environment "TOLLGATE_TIMEOUT_SECS")
      settings.execution.timeoutSeconds settings.execution.timeoutSeconds := by
    refine .kept fun text set value fits => ?_
    obtain ⟨number, written, small, -⟩ := fits
    exact Nat.not_lt.mpr small (unfit text set number written)
  exact (settles_override settings environment .timeoutSeconds).unique kept

end Settings

end Gatehouse
