import Gatehouse.Command
import Gatehouse.Execution.Outcome
import Gatehouse.Journal

/-!
# Executors

What runs commands. An executor has a state that each command may change, and words of
its own for the journal. Nothing is assumed of what it answers.
-/

namespace Gatehouse

/-- What runs commands, over states of some kind. -/
structure Executor (σ : Type) where
  execute : Command → σ → Except ExecutionError Outcome × σ
  records : Command → Outcome → List Record

namespace Executor

/-- The executor that answers from a list, and with an empty success when the list is used up. -/
def scripted : Executor (List (Except ExecutionError Outcome)) where
  execute _ answers :=
    match answers with
    | [] => (.ok ⟨0, "", "", false, false, 0⟩, [])
    | answer :: rest => (answer, rest)
  records _ _ := []

end Executor

end Gatehouse
