import Scaffold.Task

/-! What a task ends in, apart from what it reports. `Ends` composes along the steps of a task; for a
task that is `Blind` to earlier reports it can be taken apart again. -/

namespace Scaffold.Task

variable {ε ε' σ τ α β : Type}

/-- From a state the task ends in a result and a state, whatever was reported before. -/
def Ends (task : Task ε σ α) (before : σ) (result : Except ε α) (after : σ) : Prop :=
  ∀ reported, ∃ report, task ⟨before, reported⟩ = (result, ⟨after, report⟩)

/-- A task whose end does not depend on earlier reports. -/
def Blind (task : Task ε σ α) : Prop := ∀ before, ∃ result after, task.Ends before result after

theorem Ends.unique {task : Task ε σ α} {before after after' : σ} {result result' : Except ε α}
    (first : task.Ends before result after) (second : task.Ends before result' after') :
    result = result' ∧ after = after' := by
  obtain ⟨report, ran⟩ := first []
  obtain ⟨report', ran'⟩ := second []
  have same := ran.symm.trans ran'
  exact ⟨congrArg Prod.fst same, congrArg (fun ending => ending.2.state) same⟩

/-- What `perform` gives for a blind task is where the task ends. -/
theorem Blind.ends {task : Task ε σ α} (blind : task.Blind) {before after : σ}
    {result : Except ε α} {reports : List Warning}
    (performed : task.perform before = (result, after, reports)) : task.Ends before result after := by
  obtain ⟨result', after', ends⟩ := blind before
  obtain ⟨report, ran⟩ := ends []
  simp only [perform, ran, Prod.mk.injEq] at performed
  obtain ⟨rfl, rfl, _⟩ := performed
  exact ends

theorem Ends.perform {task : Task ε σ α} {before after : σ} {result : Except ε α}
    (ends : task.Ends before result after) :
    ∃ reports, task.perform before = (result, after, reports) := by
  obtain ⟨report, ran⟩ := ends []
  exact ⟨report.reverse, by simp only [Task.perform, ran]⟩

/-! ### Single steps -/

theorem ends_pure (value : α) (state : σ) :
    (pure value : Task ε σ α).Ends state (.ok value) state := fun reported => ⟨reported, rfl⟩

theorem ends_throw (error : ε) (state : σ) :
    (throw error : Task ε σ α).Ends state (.error error) state := fun reported => ⟨reported, rfl⟩

theorem ends_current (state : σ) : (current : Task ε σ σ).Ends state (.ok state) state :=
  fun reported => ⟨reported, rfl⟩

theorem ends_replace (state next : σ) : (replace next : Task ε σ Unit).Ends state (.ok ()) next :=
  fun reported => ⟨reported, rfl⟩

theorem ends_change (f : σ → σ) (state : σ) :
    (change f : Task ε σ Unit).Ends state (.ok ()) (f state) := fun reported => ⟨reported, rfl⟩

theorem ends_warn (warning : Warning) (state : σ) :
    (warn warning : Task ε σ Unit).Ends state (.ok ()) state :=
  fun reported => ⟨warning :: reported, rfl⟩

theorem ends_ofExcept (result : Except ε α) (state : σ) :
    (ofExcept result : Task ε σ α).Ends state result state := fun reported => ⟨reported, rfl⟩

/-! ### Composition -/

theorem Ends.bind {task : Task ε σ α} {next : α → Task ε σ β} {before middle after : σ} {value : α}
    {result : Except ε β} (first : task.Ends before (.ok value) middle)
    (second : (next value).Ends middle result after) : (task >>= next).Ends before result after := by
  intro reported
  obtain ⟨report, ran⟩ := first reported
  obtain ⟨report', ran'⟩ := second report
  refine ⟨report', ?_⟩
  change (ExceptT.bindCont next (task ⟨before, reported⟩).1) (task ⟨before, reported⟩).2 = _
  rw [ran]
  exact ran'

theorem Ends.bind_error {task : Task ε σ α} {next : α → Task ε σ β} {before after : σ} {error : ε}
    (first : task.Ends before (.error error) after) :
    (task >>= next).Ends before (.error error) after := by
  intro reported
  obtain ⟨report, ran⟩ := first reported
  refine ⟨report, ?_⟩
  change (ExceptT.bindCont next (task ⟨before, reported⟩).1) (task ⟨before, reported⟩).2 = _
  rw [ran]
  rfl

theorem Ends.zoom {part : σ → τ} {withPart : τ → σ → σ} {task : Task ε τ α} {before : σ} {after : τ}
    {result : Except ε α} (inner : task.Ends (part before) result after) :
    (Task.zoom part withPart task).Ends before result (withPart after before) := by
  intro reported
  obtain ⟨report, ran⟩ := inner reported
  exact ⟨report, by simp only [Task.zoom, ran]⟩

theorem Ends.onFirst {task : Task ε σ α} {before after : σ} {beside : τ} {result : Except ε α}
    (inner : task.Ends before result after) :
    (Task.onFirst task).Ends (before, beside) result (after, beside) := by
  intro reported
  obtain ⟨report, ran⟩ := inner reported
  exact ⟨report, by simp only [Task.onFirst, Task.zoom, ran]⟩

theorem Ends.onSecond {task : Task ε τ α} {before after : τ} {beside : σ} {result : Except ε α}
    (inner : task.Ends before result after) :
    (Task.onSecond task).Ends (beside, before) result (beside, after) := by
  intro reported
  obtain ⟨report, ran⟩ := inner reported
  exact ⟨report, by simp only [Task.onSecond, Task.zoom, ran]⟩

theorem Ends.withLocal {start finish : τ} {task : Task ε (σ × τ) α} {before after : σ}
    {result : Except ε α} (inner : task.Ends (before, start) result (after, finish)) :
    (Task.withLocal start task).Ends before (result.map fun value => (value, finish)) after := by
  intro reported
  obtain ⟨report, ran⟩ := inner reported
  exact ⟨report, by simp only [Task.withLocal, ran]⟩

theorem Ends.withLocal_ok {start finish : τ} {task : Task ε (σ × τ) α} {before after : σ} {value : α}
    (inner : task.Ends (before, start) (.ok value) (after, finish)) :
    (Task.withLocal start task).Ends before (.ok (value, finish)) after := inner.withLocal

theorem Ends.outcome {task : Task ε σ α} {before after : σ} {result : Except ε α}
    (inner : task.Ends before result after) :
    (Task.outcome task : Task ε' σ (Except ε α)).Ends before (.ok result) after := by
  intro reported
  obtain ⟨report, ran⟩ := inner reported
  exact ⟨report, by simp only [Task.outcome, ran]⟩

theorem Ends.mapError {f : ε → ε'} {task : Task ε σ α} {before after : σ} {result : Except ε α}
    (inner : task.Ends before result after) :
    (Task.mapError f task).Ends before (result.mapError f) after := by
  intro reported
  obtain ⟨report, ran⟩ := inner reported
  exact ⟨report, by simp only [Task.mapError, ran]⟩

/-! ### Blind tasks -/

theorem blind_pure (value : α) : (pure value : Task ε σ α).Blind :=
  fun state => ⟨_, _, ends_pure value state⟩

theorem blind_throw (error : ε) : (throw error : Task ε σ α).Blind :=
  fun state => ⟨_, _, ends_throw error state⟩

theorem blind_current : (current : Task ε σ σ).Blind := fun state => ⟨_, _, ends_current state⟩

theorem blind_ofExcept (result : Except ε α) : (ofExcept result : Task ε σ α).Blind :=
  fun state => ⟨_, _, ends_ofExcept result state⟩

theorem Blind.bind {task : Task ε σ α} {next : α → Task ε σ β} (first : task.Blind)
    (rest : ∀ value, (next value).Blind) : (task >>= next).Blind := by
  intro before
  obtain ⟨result, middle, ends⟩ := first before
  cases result with
  | error error => exact ⟨_, _, ends.bind_error⟩
  | ok value =>
    obtain ⟨result, after, ends'⟩ := rest value middle
    exact ⟨_, _, ends.bind ends'⟩

theorem Blind.zoom {part : σ → τ} {withPart : τ → σ → σ} {task : Task ε τ α} (inner : task.Blind) :
    (Task.zoom part withPart task).Blind := by
  intro before
  obtain ⟨result, after, ends⟩ := inner (part before)
  exact ⟨_, _, ends.zoom⟩

theorem Blind.withLocal {start : τ} {task : Task ε (σ × τ) α} (inner : task.Blind) :
    (Task.withLocal start task).Blind := by
  intro before
  obtain ⟨result, after, ends⟩ := inner (before, start)
  exact ⟨_, _, ends.withLocal⟩

theorem Blind.mapError {f : ε → ε'} {task : Task ε σ α} (inner : task.Blind) :
    (Task.mapError f task).Blind := by
  intro before
  obtain ⟨result, after, ends⟩ := inner before
  exact ⟨_, _, ends.mapError⟩

/-- Reports made one after the other leave the state as it is. -/
theorem ends_warnings {values : List α} {report : α → Task ε σ (ForInStep PUnit)}
    (quiet : ∀ value state, (report value).Ends state (.ok (.yield ⟨⟩)) state) (state : σ) :
    (forIn values PUnit.unit fun value _ => report value).Ends state (.ok ⟨⟩) state := by
  induction values with
  | nil => exact ends_pure _ _
  | cons value rest ih =>
    rw [List.forIn_cons]
    exact (quiet value state).bind ih

theorem ends_mapM_ofExcept (f : α → Except ε β) (values : List α) (state : σ) :
    (values.mapM fun value => ofExcept (f value) : Task ε σ (List β)).Ends state (values.mapM f)
      state := by
  induction values with
  | nil => exact ends_pure _ _
  | cons value rest ih =>
    have first := ends_ofExcept (f value) state
    rw [List.mapM_cons, List.mapM_cons]
    cases found : f value with
    | error error =>
      rw [found] at first
      exact first.bind_error
    | ok result =>
      rw [found] at first
      refine first.bind ?_
      cases others : rest.mapM f with
      | error error =>
        rw [others] at ih
        exact ih.bind_error
      | ok results =>
        rw [others] at ih
        exact ih.bind (ends_pure _ _)

/-! ### Taking a composition apart -/

theorem Ends.of_bind {task : Task ε σ α} {next : α → Task ε σ β} {before after : σ} {value : β}
    (ends : (task >>= next).Ends before (.ok value) after) (first : task.Blind)
    (rest : ∀ value, (next value).Blind) :
    ∃ value' middle, task.Ends before (.ok value') middle ∧
      (next value').Ends middle (.ok value) after := by
  obtain ⟨result, middle, begun⟩ := first before
  cases result with
  | error error => exact absurd (ends.unique begun.bind_error).1 (by simp)
  | ok value' =>
    obtain ⟨result, last, finished⟩ := rest value' middle
    obtain ⟨rfl, rfl⟩ := ends.unique (begun.bind finished)
    exact ⟨value', middle, begun, finished⟩

theorem Ends.of_zoom {part : σ → τ} {withPart : τ → σ → σ} {task : Task ε τ α} {before after : σ}
    {result : Except ε α} (ends : (Task.zoom part withPart task).Ends before result after)
    (inner : task.Blind) :
    ∃ last, task.Ends (part before) result last ∧ after = withPart last before := by
  obtain ⟨result', last, ends'⟩ := inner (part before)
  obtain ⟨rfl, rfl⟩ := ends.unique ends'.zoom
  exact ⟨last, ends', rfl⟩

theorem Ends.of_withLocal {start : τ} {task : Task ε (σ × τ) α} {before after : σ} {value : α × τ}
    (ends : (Task.withLocal start task).Ends before (.ok value) after) (inner : task.Blind) :
    task.Ends (before, start) (.ok value.1) (after, value.2) := by
  obtain ⟨result, ⟨last, finish⟩, ends'⟩ := inner (before, start)
  obtain ⟨same, rfl⟩ := ends.unique ends'.withLocal
  cases result with
  | error error => simp [Except.map] at same
  | ok found =>
    simp only [Except.map, Except.ok.injEq] at same
    subst same
    exact ends'

/-! ### Parts of a state that a task leaves alone -/

/-- However the task ends, this part of the state is as before. -/
def Keeps (part : σ → τ) (task : Task ε σ α) : Prop :=
  ∀ logged, part (task logged).2.state = part logged.state

theorem part_bind {part : σ → τ} {task : Task ε σ α} {next : α → Task ε σ β}
    (kept : ∀ value, Keeps part (next value)) (logged : Logged σ) :
    part ((task >>= next) logged).2.state = part (task logged).2.state := by
  change part ((ExceptT.bindCont next (task logged).1) (task logged).2).2.state = _
  cases (task logged).1 with
  | error error => rfl
  | ok value => exact kept value (task logged).2

theorem Keeps.bind {part : σ → τ} {task : Task ε σ α} {next : α → Task ε σ β}
    (first : Keeps part task) (kept : ∀ value, Keeps part (next value)) :
    Keeps part (task >>= next) := fun logged => (part_bind kept logged).trans (first logged)

theorem keeps_pure (part : σ → τ) (value : α) : Keeps part (pure value : Task ε σ α) := fun _ => rfl

theorem keeps_onSecond (task : Task ε τ α) : Keeps (Prod.fst : σ × τ → σ) (onSecond task) :=
  fun _ => rfl

/-! ### Properties that a task maintains -/

/-- However the task ends, what held of the state holds again. -/
def Maintains (holds : σ → Prop) (task : Task ε σ α) : Prop :=
  ∀ logged, holds logged.state → holds (task logged).2.state

section Maintains

variable {holds : σ → Prop}

theorem maintains_pure (value : α) : Maintains holds (pure value : Task ε σ α) := fun _ held => held

theorem maintains_throw (error : ε) : Maintains holds (throw error : Task ε σ α) := fun _ held => held

theorem maintains_warn (warning : Warning) : Maintains holds (warn warning : Task ε σ Unit) :=
  fun _ held => held

theorem maintains_ofExcept (result : Except ε α) : Maintains holds (ofExcept result : Task ε σ α) :=
  fun _ held => held

theorem maintains_replace {next : σ} (held : holds next) :
    Maintains holds (replace next : Task ε σ Unit) := fun _ _ => held

theorem Maintains.bind {task : Task ε σ α} {next : α → Task ε σ β} (first : Maintains holds task)
    (rest : ∀ value, Maintains holds (next value)) : Maintains holds (task >>= next) := by
  intro logged held
  have middle := first logged held
  change holds ((ExceptT.bindCont next (task logged).1) (task logged).2).2.state
  cases (task logged).1 with
  | error error => exact middle
  | ok value => exact rest value (task logged).2 middle

/-- What follows a look at the state may rely on what holds of it. -/
theorem maintains_current_bind {next : σ → Task ε σ β}
    (rest : ∀ state, holds state → Maintains holds (next state)) :
    Maintains holds (current >>= next) :=
  fun logged held => rest logged.state held logged held

theorem Maintains.zoom {part : σ → τ} {withPart : τ → σ → σ} {inner : τ → Prop} {task : Task ε τ α}
    (maintains : Maintains inner task) (enter : ∀ whole, holds whole → inner (part whole))
    (leave : ∀ last whole, inner last → holds (withPart last whole)) :
    Maintains holds (Task.zoom part withPart task) :=
  fun logged held => leave _ _ (maintains ⟨part logged.state, logged.warnings⟩ (enter _ held))

theorem Maintains.onFirst {task : Task ε σ α} (maintains : Maintains holds task) :
    Maintains (fun pair : σ × τ => holds pair.1) (Task.onFirst task) :=
  maintains.zoom (fun _ held => held) fun _ _ held => held

theorem maintains_onSecond (task : Task ε τ α) :
    Maintains (fun pair : σ × τ => holds pair.1) (Task.onSecond task) := fun _ held => held

theorem Maintains.withLocal {start : τ} {task : Task ε (σ × τ) α}
    (maintains : Maintains (fun pair => holds pair.1) task) :
    Maintains holds (Task.withLocal start task) :=
  fun logged held => maintains ⟨(logged.state, start), logged.warnings⟩ held

theorem Maintains.outcome {task : Task ε σ α} (maintains : Maintains holds task) :
    Maintains holds (Task.outcome task : Task ε' σ (Except ε α)) := maintains

theorem Maintains.mapError {f : ε → ε'} {task : Task ε σ α} (maintains : Maintains holds task) :
    Maintains holds (Task.mapError f task) := maintains

theorem maintains_mapM {f : α → Task ε σ β} (each : ∀ value, Maintains holds (f value))
    (values : List α) : Maintains holds (values.mapM f) := by
  induction values with
  | nil => exact maintains_pure _
  | cons value rest ih =>
    rw [List.mapM_cons]
    exact (each value).bind fun _ => ih.bind fun _ => maintains_pure _

theorem maintains_forIn {body : α → β → Task ε σ (ForInStep β)}
    (each : ∀ value state, Maintains holds (body value state)) (values : List α) (start : β) :
    Maintains holds (forIn values start body) := by
  induction values generalizing start with
  | nil => exact maintains_pure _
  | cons value rest ih =>
    rw [List.forIn_cons]
    refine (each value start).bind fun step => ?_
    cases step with
    | done result => exact maintains_pure _
    | yield result => exact ih result

theorem maintains_forM {f : α → Task ε σ PUnit} (each : ∀ value, Maintains holds (f value))
    (values : List α) : Maintains holds (values.forM f) := by
  induction values with
  | nil => exact maintains_pure _
  | cons value rest ih => exact (each value).bind fun _ => ih

end Maintains

end Scaffold.Task
