import Scaffold.Failure
import Scaffold.Generator

/-! Runs from a configuration: generate, check, or list. -/

namespace Scaffold

/-- What a run leaves: an exit code, and the text that it printed. -/
structure RunResult where
  code : Nat
  output : String
  deriving DecidableEq, Repr

namespace Run

/-- A generator for a configuration with which a run can succeed. -/
def generatorFor (config : Config) : Task Failure Disk Generator := do
  let disk ← Task.current
  match config.problem? disk with
  | some problem => throw (.config problem)
  | none => Task.mapError .fault (Task.ofExcept (Generator.ofConfig disk config))

/-- A line for each trigger: its feature and where it is declared. -/
def listing (triggers : List TriggerListing) : String :=
  String.join (triggers.map fun trigger => trigger.feature ++ "\t" ++ trigger.declaration.describe ++ "\n")

def driftReport (drift : List Drift) : String :=
  String.join (drift.map fun entry => entry.describe ++ "\n")

/-- Works with a generator that is not kept. -/
def withGenerator {α : Type} (generator : Generator) (task : Task Fault Generator.Work α) :
    Task Fault Disk α := do
  return (← Task.withLocal generator task).1

/-- Lists the triggers, checks the directory, or writes into it. A check that finds a difference ends
with code one. -/
def run (config : Config) (check list : Bool) : Task Failure Disk RunResult := do
  let generator ← generatorFor config
  Task.mapError .fault (withGenerator generator (do
    if list then return ⟨0, listing (← Generator.list)⟩
    if check then
      let drift ← Generator.check
      return ⟨if drift.isEmpty then 0 else 1, driftReport drift⟩
    let _ ← Generator.generate
    return ⟨0, ""⟩))

end Run

end Scaffold
