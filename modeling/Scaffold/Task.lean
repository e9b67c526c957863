import Scaffold.Warning

/-!
Work on a state that may fail and that may warn. What was done before a failure stays done, and
what was warned about stays reported.
-/

namespace Scaffold

/-- A state, and the warnings so far, the latest one first. -/
structure Logged (σ : Type) where
  state : σ
  warnings : List Warning

abbrev Task (ε σ : Type) := ExceptT ε (StateM (Logged σ))

namespace Task

variable {ε σ τ α : Type}

/-- The state as it is. -/
def current : Task ε σ σ := do return (← getThe (Logged σ)).state

def replace (state : σ) : Task ε σ Unit := modifyThe (Logged σ) fun logged => { logged with state }

def change (f : σ → σ) : Task ε σ Unit :=
  modifyThe (Logged σ) fun logged => { logged with state := f logged.state }

def warn (warning : Warning) : Task ε σ Unit :=
  modifyThe (Logged σ) fun logged => { logged with warnings := warning :: logged.warnings }

/-- A result that needs no state. -/
def ofExcept (result : Except ε α) : Task ε σ α := fun logged => (result, logged)

/-- Work on a part of the state. -/
def zoom (part : σ → τ) (withPart : τ → σ → σ) (task : Task ε τ α) : Task ε σ α := fun logged =>
  let (result, inner) := task ⟨part logged.state, logged.warnings⟩
  (result, ⟨withPart inner.state logged.state, inner.warnings⟩)

def onFirst (task : Task ε σ α) : Task ε (σ × τ) α :=
  zoom Prod.fst (fun first pair => (first, pair.2)) task

def onSecond (task : Task ε τ α) : Task ε (σ × τ) α :=
  zoom Prod.snd (fun second pair => (pair.1, second)) task

/-- Work on the state and on something of its own, which is given back at the end. -/
def withLocal (start : τ) (task : Task ε (σ × τ) α) : Task ε σ (α × τ) := fun logged =>
  let (result, after) := task ⟨(logged.state, start), logged.warnings⟩
  (result.map fun value => (value, after.state.2), ⟨after.state.1, after.warnings⟩)

/-- The result of a task, whether it fails or not. -/
def outcome {ε' : Type} (task : Task ε σ α) : Task ε' σ (Except ε α) := fun logged =>
  let (result, after) := task logged
  (.ok result, after)

/-- The same work with failures of another kind. -/
def mapError {ε' : Type} (f : ε → ε') (task : Task ε σ α) : Task ε' σ α := fun logged =>
  let (result, after) := task logged
  (result.mapError f, after)

/-- Runs a task on a state: the result, the state after it, and the warnings in order. -/
def perform (task : Task ε σ α) (state : σ) : Except ε α × σ × List Warning :=
  let (result, after) := task ⟨state, []⟩
  (result, after.state, after.warnings.reverse)

end Task

end Scaffold
