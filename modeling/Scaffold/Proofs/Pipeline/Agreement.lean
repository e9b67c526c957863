import Scaffold.Proofs.Pipeline.InTurn
import Scaffold.Proofs.Sink.Directory

/-! A run prepares all declarations before it emits the first file, while `process` emits the files of a
declaration before the next one is prepared. A sink cannot tell the two apart as long as nothing fails to
be prepared; otherwise a run does not call it at all. -/

namespace Scaffold

namespace Sink

variable {σ : Type}

/-- A sink together with the calls that were made to it, the refused ones too. -/
def watched (sink : Sink σ) : Sink (σ × Journal) where
  emit fileName source := do
    Task.onSecond (Journal.sink.emit fileName source)
    Task.onFirst (sink.emit fileName source)

/-- The calls that a sink gets when files are emitted in order: all of them if each is accepted, and
those up to the first one that is refused otherwise. -/
inductive Emission (sink : Sink σ) (before : σ) (files : Journal) :
    (result : Except Fault Unit) → (after : σ) → (calls : Journal) → Prop
  | accepted {after : σ} (all : (sink.emitAll files).Ends before (.ok ()) after) :
      Emission sink before files (.ok ()) after files
  | refused {done rest : Journal} {artifact : Artifact} {middle after : σ} {fault : Fault}
      (split : files = done ++ artifact :: rest)
      (begun : (sink.emitAll done).Ends before (.ok ()) middle)
      (stopped : (sink.emit artifact.fileName artifact.source).Ends middle (.error fault) after) :
      Emission sink before files (.error fault) after (done ++ [artifact])

theorem watched_ends {sink : Sink σ} {artifact : Artifact} {before after : σ}
    {result : Except Fault Unit} (calls : Journal)
    (ends : (sink.emit artifact.fileName artifact.source).Ends before result after) :
    (sink.watched.emit artifact.fileName artifact.source).Ends (before, calls) result
      (after, calls ++ [artifact]) :=
  (Journal.emit_ends artifact calls).onSecond.bind ends.onFirst

/-- Files are emitted in one way, which a watched sink shows. -/
theorem exists_emission {sink : Sink σ} (blind : ∀ name text, (sink.emit name text).Blind)
    (files : Journal) (before : σ) :
    ∃ result after calls, Emission sink before files result after calls ∧
      (sink.emitAll files).Ends before result after ∧
      ∀ earlier, (sink.watched.emitAll files).Ends (before, earlier) result (after, earlier ++ calls) := by
  induction files generalizing before with
  | nil =>
    refine ⟨_, _, _, .accepted (Task.ends_pure _ _), Task.ends_pure _ _, fun earlier => ?_⟩
    rw [List.append_nil]
    exact Task.ends_pure _ _
  | cons artifact rest ih =>
    obtain ⟨first, middle, begun⟩ := blind artifact.fileName artifact.source before
    cases first with
    | error fault =>
      have split : artifact :: rest = [] ++ artifact :: rest := rfl
      exact ⟨_, _, _, .refused split (Task.ends_pure _ _) begun, begun.bind_error,
        fun earlier => (watched_ends earlier begun).bind_error⟩
    | ok _ =>
      obtain ⟨result, after, calls, emission, ends, seen⟩ := ih middle
      refine ⟨result, after, artifact :: calls, ?_, begun.bind ends, fun earlier => ?_⟩
      · cases emission with
        | accepted all => exact .accepted (begun.bind all)
        | @refused done later other _ _ _ split others stopped =>
          have split' : artifact :: rest = (artifact :: done) ++ other :: later := by rw [split]; rfl
          exact .refused split' (begun.bind others) stopped
      · have both : (sink.watched.emitAll (artifact :: rest)).Ends (before, earlier) result
            (after, (earlier ++ [artifact]) ++ calls) :=
          (watched_ends earlier begun).bind (seen (earlier ++ [artifact]))
        rw [List.append_assoc] at both
        exact both

end Sink

namespace Pipeline

variable {σ : Type}

/-! ### The first failure in turn -/

/-- A declaration fails in its turn: all declarations left of it are prepared, and then it is not. -/
structure FailsFirst (pipeline : Pipeline) (left : List Declaration) (declaration : Declaration)
    (middle : Pipeline) (fault : Fault) : Prop where
  begun : ∃ prepared, (left.mapM prepare).Ends pipeline (.ok prepared) middle
  failed : middle.unitOf declaration = .error fault

/-- The first failure ends all preparation. -/
theorem FailsFirst.mapM_prepare {pipeline middle : Pipeline} {left : List Declaration}
    {declaration : Declaration} {fault : Fault}
    (first : FailsFirst pipeline left declaration middle fault) (right : List Declaration) :
    ((left ++ declaration :: right).mapM prepare).Ends pipeline (.error fault) middle := by
  obtain ⟨prepared, begun⟩ := first.begun
  have failed : (prepare declaration).Ends middle (.error fault) middle := by
    have ends := prepare_ends declaration middle
    rwa [first.failed, afterUnit_of_error first.failed] at ends
  rw [List.mapM_append, List.mapM_cons]
  exact begun.bind failed.bind_error.bind_error

/-- All declarations are prepared, or there is a first one that fails. -/
theorem prepared_or_failsFirst (declarations : List Declaration) (pipeline : Pipeline) :
    (∃ prepared after, (declarations.mapM prepare).Ends pipeline (.ok prepared) after) ∨
      ∃ left declaration right middle fault, declarations = left ++ declaration :: right ∧
        FailsFirst pipeline left declaration middle fault := by
  induction declarations generalizing pipeline with
  | nil => exact .inl ⟨_, _, Task.ends_pure _ _⟩
  | cons declaration rest ih =>
    have here := prepare_ends declaration pipeline
    cases served : pipeline.unitOf declaration with
    | error fault => exact .inr ⟨[], declaration, rest, pipeline, fault, rfl, ⟨_, Task.ends_pure _ _⟩, served⟩
    | ok unit =>
      rw [served] at here
      rcases ih (pipeline.afterUnit declaration) with ⟨others, after, done⟩ |
          ⟨left, other, right, middle, fault, rfl, ⟨others, begun⟩, failed⟩
      · exact .inl ⟨unit :: others, after, ends_mapM_prepare_cons here done⟩
      · exact .inr ⟨declaration :: left, other, right, middle, fault, rfl,
          ⟨unit :: others, ends_mapM_prepare_cons here begun⟩, failed⟩

/-- A declaration that fails in its turn fails on its own. -/
theorem FailsFirst.alone {pipeline middle : Pipeline} {left : List Declaration}
    {declaration : Declaration} {fault : Fault}
    (first : FailsFirst pipeline left declaration middle fault) :
    pipeline.unitOf declaration = .error fault := by
  obtain ⟨units, begun⟩ := first.begun
  exact (extends_of_mapM_prepare begun).unitOf_error first.failed

/-- Declarations that are each prepared on their own are prepared in turn. -/
theorem exists_prepared {pipeline : Pipeline} {declarations : List Declaration}
    (alone : ∀ declaration ∈ declarations, ∃ unit, pipeline.unitOf declaration = .ok unit) :
    ∃ prepared after, (declarations.mapM prepare).Ends pipeline (.ok prepared) after := by
  rcases prepared_or_failsFirst declarations pipeline with done |
    ⟨left, declaration, right, middle, fault, rfl, first⟩
  · exact done
  · obtain ⟨unit, served⟩ := alone declaration (by simp)
    exact absurd (served.symm.trans first.alone) (by simp)

/-! ### Emission during and after preparation -/

/-- A run from left to right is one that may come about, without a feature being rendered twice at a
time. -/
theorem runs_of_run {sink : Sink σ} (blind : ∀ name text, (sink.emit name text).Blind)
    {declarations : List Declaration} {before after : Pipeline × σ}
    {result : Except Fault GenerationReport} (ends : (run sink declarations).Ends before result after) :
    Runs Batch.Apart sink declarations before result after := by
  obtain ⟨pipeline, start⟩ := before
  obtain ⟨preparation, middle, done⟩ := blind_mapM_prepare declarations pipeline
  have prepares := prepares_of_mapM_prepare done
  cases preparation with
  | error fault =>
    obtain ⟨rfl, rfl⟩ := ends.unique (run_ends_of_unprepared done sink start)
    exact .stopped prepares
  | ok prepared =>
    obtain ⟨result', state, delivered⟩ := blind_deliver blind declarations.length prepared start
    obtain ⟨rfl, rfl⟩ := ends.unique (done.onFirst.bind delivered.onSecond)
    obtain ⟨reports, performed⟩ := delivered.perform
    exact .delivered prepares performed

theorem Runs.any {allowed : Batch → Prop} {sink : Sink σ} {declarations : List Declaration}
    {before after : Pipeline × σ} {result : Except Fault GenerationReport}
    (runs : Runs allowed sink declarations before result after) :
    Runs Batch.Any sink declarations before result after := by
  cases runs with
  | stopped failed => exact .stopped failed.any
  | delivered done delivered => exact .delivered done.any delivered

/-- What is remembered after a run is remembered after some of its declarations were prepared one after
another. So what holds after all such calls holds also after runs of several workers. -/
theorem Runs.exists_calls {allowed : Batch → Prop} {sink : Sink σ} {declarations : List Declaration}
    {before after : Pipeline × σ} {result : Except Fault GenerationReport}
    (apart : TellsApart before.1.setting (featuresOf before.1.setting declarations))
    (runs : Runs allowed sink declarations before result after) :
    ∃ order : List Declaration, (∀ declaration ∈ order, declaration ∈ declarations) ∧
      before.1.afterCalls (order.map .prepare) = after.1 := by
  cases runs with
  | stopped failed =>
    obtain ⟨jobs, reached, -⟩ := failed
    exact reached.exists_calls apart
  | delivered done _ =>
    obtain ⟨jobs, reached, -⟩ := done
    exact reached.exists_calls apart

/-- A run that ends with the failure of a declaration: the sink is not called, and beside what was
remembered before only features of the declarations are remembered. -/
structure Stopped (sink : Sink σ) (declarations : List Declaration) (pipeline : Pipeline) (start : σ)
    (result : Except Fault GenerationReport) (after : Pipeline) (state : σ) : Prop where
  fault : ∃ declaration ∈ declarations, ∃ fault, pipeline.unitOf declaration = .error fault ∧
    result = .error fault
  uncalled : state = start ∧
    Runs Batch.Any sink.watched declarations (pipeline, (start, [])) result (after, (start, []))
  gained : Gained pipeline after declarations

section Prepares

variable {allowed : Batch → Prop} {sink : Sink σ} {declarations : List Declaration}
  {pipeline after : Pipeline} {start state : σ}

theorem Prepares.stopped {fault : Fault}
    (failed : Prepares allowed declarations pipeline (.error fault) after) (sink : Sink σ) (start : σ) :
    Stopped sink declarations pipeline start (.error fault) after start := by
  obtain ⟨declaration, member, refused⟩ := failed.fault
  exact ⟨⟨declaration, member, fault, refused, rfl⟩, ⟨rfl, .stopped failed.any⟩, failed.gained⟩

end Prepares

section Runs

variable {sink : Sink σ} {declarations : List Declaration} {pipeline after : Pipeline}
  {start state : σ} {result : Except Fault GenerationReport}
  (apart : TellsApart pipeline.setting (featuresOf pipeline.setting declarations))
  (runs : Runs Batch.Any sink declarations (pipeline, start) result (after, state))

include apart runs

end Runs

end Pipeline

end Scaffold
