import Gatehouse.Proofs.CommandLine.Authentication
import Gatehouse.Proofs.CommandLine.Endings
import Gatehouse.Proofs.Journal.Filter
import Gatehouse.Proofs.Text.Blank
import Gatehouse.Proofs.Token.Line

/-!
# What an invocation prints

Standard output holds one line if the exit code is zero and nothing otherwise, whatever
the files, the environment and the output of the tool are. A failure has an exit code
between 2 and 7, unless the journal is lost: then the program stops at once, and the
code is not chosen by it. A journal is lost for its filter, one rule of which is cut
inside a character, or for its file of the day, which cannot be opened.

The line of a run stands for an event of the manifest and the token that were given, that of
a verification for the claims that were verified.
-/

namespace Gatehouse

open Json

namespace CommandLine

namespace Deployment

variable {ε : Type} {deployment : Deployment} {manifest argument : String}
  {registry : Option String} {surroundings : Surroundings ε} {state : Host × ε}

end Deployment

/-- The journal is lost on a station: a variable holds a filter of which the first rule that cannot
be read is cut inside a character, and neither the directory nor the file for the journal has ended
the program before; or that directory was made, and the file of the day cannot be opened in it. -/
inductive Station.LosesJournal {ε : Type} (station : Station) (surroundings : Surroundings ε)
    (requested : Option String) : Prop
  | filter {text : String} (set : station.host.environment "RUST_LOG" = some text)
      (torn : JournalFilter.Torn surroundings.isPattern text)
      (reached : ∀ settings, loadSettings station.host requested = .ok settings →
        ∃ place host, openJournal settings surroundings.now station.host = (.ok place, host)) :
      LosesJournal station surroundings requested
  | file {settings : Settings} {path : String} {made : FileSystem} {cause : FileError}
      (loaded : loadSettings station.host requested = .ok settings)
      (set : settings.paths.logs = some path)
      (directory : station.host.system.makeDirectories path = .ok made)
      (unopened : made.write (below path (logFileName surroundings.now)) true [] = .error cause) :
      LosesJournal station surroundings requested

namespace Station

variable {ε : Type} {station : Station} {surroundings : Surroundings ε} {requested : Option String}

/-- Where the journal is lost, what fails in front of a verb stops the program at once. -/
theorem LosesJournal.fails (loses : station.LosesJournal surroundings requested) :
    ∃ cause, station.Fails surroundings requested cause ∧ cause.Abrupt := by
  cases loses with
  | filter set torn reached =>
    have lost := JournalFilter.ofEnvironment?_eq_none_iff.mpr ⟨_, set, torn⟩
    exact ⟨_, .filter lost reached, .tornFilter⟩
  | file loaded set directory unopened =>
    exact ⟨_, .journal loaded (openJournal_of_unopened set directory unopened), .logFile ..⟩

/-- Nothing else that fails there does: a directory for logs that cannot be made, settings and
secrets are failures with a code of their own. -/
theorem Fails.losesJournal {cause : CommandError}
    (fails : station.Fails surroundings requested cause) (abrupt : cause.Abrupt) :
    station.LosesJournal surroundings requested := by
  cases fails with
  | settings => cases abrupt
  | secrets => cases abrupt
  | filter lost reached =>
    obtain ⟨text, set, torn⟩ := JournalFilter.ofEnvironment?_eq_none_iff.mp lost
    exact .filter set torn reached
  | @journal settings cause host loaded unopened =>
    have ends := unopened ▸ opens_openJournal settings surroundings.now station.host
    cases ends with
    | unmade => cases abrupt
    | unopened set directory file => exact .file loaded set directory file

/-- A directory for logs that cannot be made ends the program before it can lose its journal: the
file of the day is not tried, and the filter not made. -/
theorem kept_of_unmade {settings : Settings} {path : String} {cause : FileError}
    (loaded : loadSettings station.host requested = .ok settings)
    (set : settings.paths.logs = some path)
    (unmade : station.host.system.makeDirectories path = .error cause) :
    ¬ station.LosesJournal surroundings requested := by
  intro loses
  cases loses with
  | filter _ _ reached =>
    obtain ⟨place, host, opened⟩ := reached settings loaded
    cases (Prod.mk.inj (opened.symm.trans (openJournal_of_unmade set unmade))).1
  | file loadedToo setToo directory =>
    obtain rfl := Except.ok.inj (loaded.symm.trans loadedToo)
    obtain rfl := Option.some.inj (set.symm.trans setToo)
    cases unmade.symm.trans directory

/-- A journal is lost for a rule of its filter that begins with a blank character and holds one of
more than one octet, or for its file. -/
theorem LosesJournal.shape (loses : station.LosesJournal surroundings requested) :
    (∃ text rule, station.host.environment "RUST_LOG" = some text ∧
      rule ∈ JournalFilter.ruleTexts text ∧
      (∃ character ∈ rule.toList.head?, Text.isBlank character = true) ∧
      ∃ character ∈ rule.toList, character.utf8Size ≠ 1) ∨
    ∃ settings path made cause, loadSettings station.host requested = .ok settings ∧
      settings.paths.logs = some path ∧ station.host.system.makeDirectories path = .ok made ∧
      made.write (below path (logFileName surroundings.now)) true [] = .error cause := by
  cases loses with
  | @filter text set torn =>
    obtain ⟨before, rule, behind, split, -, cut⟩ := torn
    obtain ⟨blank, wide⟩ := FilterRule.shape_of_torn cut
    refine .inl ⟨text, rule, set, ?_, blank, wide⟩
    rw [split]
    exact List.mem_append_right _ List.mem_cons_self
  | file loaded set directory unopened =>
    exact .inr ⟨_, _, _, _, loaded, set, directory, unopened⟩

end Station

namespace Answer

variable {answer : Answer}

end Answer

namespace Invocation

variable {ε : Type} {station : Station} {surroundings : Surroundings ε} {seeds : ε}

/-- Claims with one parameter, which is a floating point number. -/
def sampleClaims (number : Binary64) : TaskClaims :=
  ⟨⟨"t", "n", "", "", ""⟩, "u", "d", "", [("x", .number (.float number))], "", ""⟩

variable {number other : Binary64}

end Invocation

end CommandLine

end Gatehouse
