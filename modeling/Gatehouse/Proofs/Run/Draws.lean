import Mathlib.Data.List.Forall2
import Mathlib.Data.List.Nodup
import Gatehouse.Proofs.Run.Attestation
import Gatehouse.Proofs.Run.Removal
import Gatehouse.Proofs.Text.Hex

/-!
# What a history of runs draws

The source of randomness is shared by all runs of a runner. A run that has an outcome to
report takes the next fill of the source, whatever the fill is, and no other run takes
any: neither one that is refused, nor one whose launch fails, nor one that removes a
sandbox. So a history takes the fills of its source in the order of its runs, each one
once, and the names of its events are the fills that succeeded.
-/

namespace Gatehouse

variable {σ ε : Type}

/-- What a source gives one fill after another, and the state behind that. -/
def Entropy.fills (entropy : Entropy ε) : Nat → ε → List (Option EventSeed) × ε
  | 0, state => ([], state)
  | count + 1, state =>
    let (fill, next) := entropy state
    let (fills, last) := Entropy.fills entropy count next
    (fill :: fills, last)

namespace EventSeed

/-- The name of an event that is made of random octets. -/
def name (seed : EventSeed) : String := Text.Hex.encode seed.toList

/-- Different octets make different names, because digits determine the octets that they stand
for. -/
theorem name_injective : Function.Injective name := by
  intro seed other same
  exact Vector.toList_inj.mp (Text.Hex.encode_inj.mp same)

/-- A name has thirty-two characters, two for each octet. -/
theorem length_name (seed : EventSeed) : seed.name.length = 32 := by
  rw [name, Text.Hex.length_encode, Vector.length_toList]

/-- A name consists of lowercase hexadecimal digits. -/
theorem digit_of_mem_name (seed : EventSeed) :
    ∀ character ∈ seed.name.toList, character ∈ "0123456789abcdef".toList :=
  fun _ => Text.Hex.digit_of_mem_encode

end EventSeed

namespace RunReport

/-- The name of the event of a run, if there is one. -/
def eventName? (report : RunReport) : Option String :=
  report.result.toOption.map AuditEvent.id

/-- A run drew once. A fill names its event, and without one there is no event. -/
structure Answers (report : RunReport) (fill : Option EventSeed) : Prop where
  drawn : report.draws = [fill]
  named : ∀ seed, fill = some seed → ∃ event, report.result = .ok event ∧ event.id = seed.name
  failed : fill = none → report.result = .error (.event .entropyUnavailable)

/-- A run drew nothing, and has no event. -/
structure DrewNothing (report : RunReport) : Prop where
  undrawn : report.draws = []
  unnamed : report.eventName? = none

/-- The event of a run that drew is named by what it drew, and there is no event where the source
gave nothing. -/
theorem Answers.eventName?_eq {report : RunReport} {fill : Option EventSeed}
    (answers : report.Answers fill) : report.eventName? = fill.map EventSeed.name := by
  cases fill with
  | none =>
    rw [eventName?, answers.failed rfl]
    rfl
  | some seed =>
    obtain ⟨event, reported, named⟩ := answers.named seed rfl
    rw [eventName?, reported, Option.map_some, ← named]
    rfl

end RunReport

namespace Runner

/-- A run gets as far as its event: the gate admits its task, and the command ends with a code that
is none of its launcher. -/
def Reaches (runner : Runner σ ε) (request : Request) (state : σ) : Prop :=
  ∃ admitted outcome, runner.gate.Admits request.manifest request.token admitted ∧
    (runner.executor.execute admitted.command state).1 = .ok outcome ∧
    outcome.exitCode ∉ runner.gate.builder.launcherExitCodes

instance (runner : Runner σ ε) (request : Request) (state : σ) :
    Decidable (runner.Reaches request state) :=
  match passed : runner.gate.pass request.manifest request.token with
  | .error _ => isFalse fun ⟨_, _, admits, _⟩ => by
    cases (Gate.pass_of_admits admits).symm.trans passed
  | .ok admitted =>
    have admits := Gate.pass_eq_ok_iff.mp passed
    match executed : (runner.executor.execute admitted.command state).1 with
    | .error _ => isFalse fun ⟨_, _, admitsToo, ended, _⟩ => by
      obtain rfl := admits.unique admitsToo
      cases ended.symm.trans executed
    | .ok outcome =>
      decidable_of_iff (outcome.exitCode ∉ runner.gate.builder.launcherExitCodes) <| by
        constructor
        · exact fun finished => ⟨admitted, outcome, admits, executed, finished⟩
        · rintro ⟨other, ending, admitsToo, ended, finished⟩
          obtain rfl := admits.unique admitsToo
          obtain rfl := Except.ok.inj (ended.symm.trans executed)
          exact finished

variable {runner : Runner σ ε} {request : Request} {state : σ × ε}

/-- A run that gets as far as its event takes one fill, and its answer is made of that one. The gate
and the launch draw nothing, so it is the next one of the source. -/
theorem answers_of_reaches (reached : runner.Reaches request state.1) :
    let answer := runner.run request.manifest request.token request.now state
    answer.1.Answers (runner.entropy state.2).1 ∧ answer.2.2 = (runner.entropy state.2).2 := by
  intro answer
  obtain ⟨admitted, outcome, admits, executed, finished⟩ := reached
  have result : answer.1.result = _ := run_of_finished admits executed finished request.now
  have launched := (launch_of_finished executed finished).1
  have drawn : answer.1.draws = [(runner.entropy state.2).1] ∧
      answer.2.2 = (runner.entropy state.2).2 := by
    simp only [answer, run, Gate.pass_of_admits admits, launched, report, EventContent.mapEvent]
    cases runner.entropy state.2 with
    | mk fill next => cases fill <;> exact ⟨rfl, rfl⟩
  refine ⟨⟨drawn.1, fun seed filled => ?_, fun unfilled => ?_⟩, drawn.2⟩
  · rw [filled] at result
    exact ⟨_, result, rfl⟩
  · rw [unfilled] at result
    exact result

/-- Any other run takes none: it ended at the gate or with its launch, in front of the only draw. -/
theorem drewNothing_of_not_reaches (unreached : ¬ runner.Reaches request state.1) :
    let answer := runner.run request.manifest request.token request.now state
    answer.1.DrewNothing ∧ answer.2.2 = state.2 := by
  intro answer
  rcases runner.gate.admits_or_refuses request.manifest request.token with
    ⟨admitted, admits⟩ | ⟨error, refused⟩
  · cases launched : (runner.launch admitted state.1).1.result with
    | error cause =>
      obtain ⟨result, undrawn⟩ := run_of_failed admits launched request.now
      refine ⟨⟨undrawn, ?_⟩, ?_⟩
      · rw [RunReport.eventName?, result]
        rfl
      · simp only [answer, run, Gate.pass_of_admits admits, launched]
    | ok outcome =>
      obtain ⟨executed, finished⟩ := finished_of_launch launched
      exact absurd ⟨admitted, outcome, admits, executed, finished⟩ unreached
  · have idle : answer = _ := run_of_refuses refused request.now state
    rw [idle]
    exact ⟨⟨rfl, rfl⟩, rfl⟩

/-- One run of a history: what was handed in, the state that its executor was in, and its
report. -/
structure Visit (σ : Type) where
  request : Request
  before : σ
  report : RunReport

/-- The runs of a history. -/
def visits (runner : Runner σ ε) : List Request → σ × ε → List (Visit σ)
  | [], _ => []
  | request :: rest, state =>
    let (report, next) := runner.run request.manifest request.token request.now state
    ⟨request, state.1, report⟩ :: runner.visits rest next

/-- Those of them that get as far as their event. -/
def reached (runner : Runner σ ε) (visits : List (Visit σ)) : List (Visit σ) :=
  visits.filter fun visit => runner.Reaches visit.request visit.before

/-- A visit that gets as far as its event is counted. -/
theorem reached_cons_of_reaches {visit : Visit σ}
    (reaches : runner.Reaches visit.request visit.before) (rest : List (Visit σ)) :
    runner.reached (visit :: rest) = visit :: runner.reached rest :=
  List.filter_cons_of_pos (decide_eq_true reaches)

/-- Any other visit is not. -/
theorem reached_cons_of_not_reaches {visit : Visit σ}
    (unreached : ¬ runner.Reaches visit.request visit.before) (rest : List (Visit σ)) :
    runner.reached (visit :: rest) = runner.reached rest :=
  List.filter_cons_of_neg fun reaches => unreached (of_decide_eq_true reaches)

/-- The reports of a history are those of its runs. By induction on the requests, the state of each
being what the one before left. -/
theorem reports_visits (runner : Runner σ ε) (requests : List Request) (state : σ × ε) :
    (runner.visits requests state).map Visit.report = (runner.runAll requests state).1 := by
  induction requests generalizing state with
  | nil => rfl
  | cons request rest inductionHypothesis => exact congrArg (_ :: ·) (inductionHypothesis _)

/-- The requests of a history are those that were made, in their order. -/
theorem requests_visits (runner : Runner σ ε) (requests : List Request) (state : σ × ε) :
    (runner.visits requests state).map Visit.request = requests := by
  induction requests generalizing state with
  | nil => rfl
  | cons request rest inductionHypothesis => exact congrArg (_ :: ·) (inductionHypothesis _)

/-- Runs along the fills of a source: one that gets as far as its event takes the next fill, and any
other passes without one. -/
inductive Takes (runner : Runner σ ε) : List (Visit σ) → List (Option EventSeed) → Prop
  | nil : Takes runner [] []
  | draws {visit : Visit σ} {rest : List (Visit σ)} {fill : Option EventSeed}
      {fills : List (Option EventSeed)} (reaches : runner.Reaches visit.request visit.before)
      (answers : visit.report.Answers fill) (behind : Takes runner rest fills) :
      Takes runner (visit :: rest) (fill :: fills)
  | passes {visit : Visit σ} {rest : List (Visit σ)} {fills : List (Option EventSeed)}
      (unreached : ¬ runner.Reaches visit.request visit.before)
      (idle : visit.report.DrewNothing) (behind : Takes runner rest fills) :
      Takes runner (visit :: rest) fills

/-- A history takes one fill of its source for each run that gets as far as its event, and leaves
the source behind them. By induction on the runs: the first one takes the next fill or passes, and
the others go on from the state that it leaves. -/
theorem takes_visits (runner : Runner σ ε) (requests : List Request) (state : σ × ε) :
    runner.Takes (runner.visits requests state)
        (Entropy.fills runner.entropy
          (runner.reached (runner.visits requests state)).length state.2).1 ∧
      (runner.runAll requests state).2.2 = (Entropy.fills runner.entropy
          (runner.reached (runner.visits requests state)).length state.2).2 := by
  induction requests generalizing state with
  | nil => exact ⟨.nil, rfl⟩
  | cons request rest inductionHypothesis =>
    let answer := runner.run request.manifest request.token request.now state
    let visit : Visit σ := ⟨request, state.1, answer.1⟩
    have split : runner.visits (request :: rest) state =
        visit :: runner.visits rest answer.2 := rfl
    have through : runner.runAll (request :: rest) state =
        (answer.1 :: (runner.runAll rest answer.2).1, (runner.runAll rest answer.2).2) := rfl
    obtain ⟨behind, last⟩ := inductionHypothesis answer.2
    rw [split, through]
    by_cases reaches : runner.Reaches visit.request visit.before
    · obtain ⟨answers, next⟩ := answers_of_reaches reaches
      rw [next] at behind last
      rw [reached_cons_of_reaches reaches]
      exact ⟨.draws reaches answers behind, last⟩
    · obtain ⟨idle, next⟩ := drewNothing_of_not_reaches reaches
      rw [next] at behind last
      rw [reached_cons_of_not_reaches reaches]
      exact ⟨.passes reaches idle behind, last⟩

namespace Takes

variable {visits : List (Visit σ)} {fills : List (Option EventSeed)}

/-- Runs that do not get as far as their event take nothing. -/
theorem idle (takes : runner.Takes visits fills) :
    ∀ visit ∈ visits, ¬ runner.Reaches visit.request visit.before → visit.report.DrewNothing := by
  induction takes with
  | nil => exact fun _ inside => absurd inside List.not_mem_nil
  | draws reaches _ _ inductionHypothesis =>
    exact List.forall_mem_cons.mpr ⟨fun unreached => absurd reaches unreached, inductionHypothesis⟩
  | passes _ idle _ inductionHypothesis =>
    exact List.forall_mem_cons.mpr ⟨fun _ => idle, inductionHypothesis⟩

/-- The fills belong to the runs that get as far as their event, in their order. By induction on the
history. -/
theorem answered (takes : runner.Takes visits fills) :
    List.Forall₂ (fun visit fill => visit.report.Answers fill) (runner.reached visits) fills := by
  induction takes with
  | nil => exact .nil
  | draws reaches answers _ inductionHypothesis =>
    rw [reached_cons_of_reaches reaches]
    exact .cons answers inductionHypothesis
  | passes unreached _ _ inductionHypothesis =>
    rw [reached_cons_of_not_reaches unreached]
    exact inductionHypothesis

/-- What the runs drew, all in all, is the fills: nothing was drawn that is not reported, and none
of it twice. -/
theorem drawn (takes : runner.Takes visits fills) :
    visits.flatMap (·.report.draws) = fills := by
  induction takes with
  | nil => rfl
  | draws _ answers _ inductionHypothesis =>
    rw [List.flatMap_cons, answers.drawn, inductionHypothesis]
    rfl
  | passes _ idle _ inductionHypothesis =>
    rw [List.flatMap_cons, idle.undrawn, inductionHypothesis]
    rfl

/-- The names of the events are those of the fills that succeeded, in their order. -/
theorem named (takes : runner.Takes visits fills) :
    visits.filterMap (·.report.eventName?) = (fills.filterMap id).map EventSeed.name := by
  induction takes with
  | nil => rfl
  | @draws visit rest fill fills _ answers _ inductionHypothesis =>
    rw [List.filterMap_cons, List.filterMap_cons, answers.eventName?_eq, inductionHypothesis]
    cases fill <;> rfl
  | passes _ idle _ inductionHypothesis =>
    rw [List.filterMap_cons, idle.unnamed, inductionHypothesis]

end Takes

/-- A history of runs takes the fills of its source one by one. A run that gets as far as its event
draws once, and any other draws nothing and has no event; the fills belong to the former in their
order, one that fails leaves its run without an event, and the source is left behind the last of
them. The names of the events are the fills that succeeded, each of thirty-two lowercase
hexadecimal digits, so fills that are pairwise different name events that are. -/
theorem draws_in_order (runner : Runner σ ε) (requests : List Request) (state : σ × ε) :
    let visits := runner.visits requests state
    let reached := runner.reached visits
    let fills := Entropy.fills runner.entropy reached.length state.2
    let seeds := fills.1.filterMap id
    let reports := (runner.runAll requests state).1
    let names := reports.filterMap RunReport.eventName?
    visits.map Visit.request = requests ∧ visits.map Visit.report = reports ∧
    (∀ visit ∈ visits, ¬ runner.Reaches visit.request visit.before →
      visit.report.DrewNothing) ∧
    List.Forall₂ (fun visit fill => visit.report.Answers fill) reached fills.1 ∧
    reports.flatMap RunReport.draws = fills.1 ∧ (runner.runAll requests state).2.2 = fills.2 ∧
    names = seeds.map EventSeed.name ∧
    (∀ name ∈ names, name.length = 32 ∧
      ∀ character ∈ name.toList, character ∈ "0123456789abcdef".toList) ∧
    (seeds.Nodup → names.Nodup) := by
  intro visits reached fills seeds reports names
  obtain ⟨takes, last⟩ := runner.takes_visits requests state
  have sameReports : visits.map Visit.report = reports := runner.reports_visits requests state
  have drawn : reports.flatMap RunReport.draws = fills.1 := by
    rw [← sameReports, List.flatMap_map]
    exact takes.drawn
  have named : names = seeds.map EventSeed.name := by
    simp only [names, ← sameReports, List.filterMap_map]
    exact takes.named
  refine ⟨runner.requests_visits requests state, sameReports, takes.idle, takes.answered, drawn,
    last, named, ?_, fun distinct => ?_⟩
  · rw [named]
    intro name inside
    obtain ⟨seed, -, rfl⟩ := List.mem_map.mp inside
    exact ⟨seed.length_name, seed.digit_of_mem_name⟩
  · rw [named]
    exact List.Nodup.map EventSeed.name_injective distinct

/-- The sample runner with a source that counts its fills, of which the second one fails. -/
def counting : Runner (List (Except ExecutionError Outcome)) Nat :=
  { sample with entropy := fun count =>
      (if count = 1 then none else some (Vector.replicate 16 (UInt8.ofNat count)), count + 1) }

/-- Neither a forged token nor a launch that fails takes a fill, and the second fill gives nothing,
so the names are the first fill and the third. -/
theorem draws_in_order_counting :
    let request (token : String) : Request := ⟨sampleClaims, token, ⟨0, 0⟩⟩
    let requests := [request "signed", request "forged", request "signed", request "signed",
      request "signed"]
    let answers := [.ok ⟨0, "", "", false, false, 0⟩, .error (.timeout 5)]
    let names := (counting.runAll requests (answers, 0)).1.filterMap RunReport.eventName?
    names = ["00000000000000000000000000000000", "02020202020202020202020202020202"] ∧
      names.Nodup := by
  intro request requests answers names
  obtain ⟨-, -, -, -, -, -, named, -, distinct⟩ :=
    draws_in_order counting requests (answers, 0)
  have reached : (counting.reached (counting.visits requests (answers, 0))).length = 3 := by
    decide +kernel
  rw [reached] at named distinct
  exact ⟨named.trans (by decide +kernel), distinct (by decide +kernel)⟩

end Runner

end Gatehouse
