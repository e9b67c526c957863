import Scaffold.Pipeline

/-!
What a run may come to when several workers prepare its declarations. They share the memory: a look at it
and the rendering of a feature, with what is remembered of it, are one step each, and the steps of different
declarations may come in any order. Between the look and the rendering another worker may have rendered the
same feature. Once a preparation has failed, those that have not begun may be left out.
-/

namespace Scaffold.Pipeline

/-- How far the preparation of a declaration has come. -/
inductive Progress where
  | waiting
  /-- its feature was not remembered when it was looked up -/
  | rendering (feature : String)
  | prepared (unit : Option PreparedUnit)
  | failed (fault : Fault)
  | skipped

namespace Progress

def ofSight : Sight → Progress
  | .settled unit => .prepared unit
  | .fresh feature => .rendering feature

def ofRendering (declaration : Declaration) (feature : String) : Except Fault (List Artifact) → Progress
  | .ok artifacts => .prepared (some ⟨declaration.name, feature, artifacts, false⟩)
  | .error fault => .failed fault

def rendering? : Progress → Option String
  | .rendering feature => some feature
  | _ => none

/-- Nothing is left to do. -/
def ended : Progress → Bool
  | .waiting | .rendering _ => false
  | _ => true

end Progress

/-- Declarations that are prepared side by side, and the pipeline that they share. -/
structure Batch where
  jobs : List (Declaration × Progress)
  pipeline : Pipeline

namespace Batch

def start (declarations : List Declaration) (pipeline : Pipeline) : Batch :=
  ⟨declarations.map (·, .waiting), pipeline⟩

/-- What a worker does at once. -/
inductive Step : Batch → Batch → Prop
  | look (left right : List (Declaration × Progress)) (declaration : Declaration) (pipeline : Pipeline) :
      Step ⟨left ++ (declaration, .waiting) :: right, pipeline⟩
        ⟨left ++ (declaration, .ofSight (pipeline.look declaration)) :: right, pipeline⟩
  | render (left right : List (Declaration × Progress)) (declaration : Declaration) (feature : String)
      {pipeline after : Pipeline} {result : Except Fault (List Artifact)} {reports : List Warning}
      (rendered : (renderFresh feature).perform pipeline = (result, after, reports)) :
      Step ⟨left ++ (declaration, .rendering feature) :: right, pipeline⟩
        ⟨left ++ (declaration, .ofRendering declaration feature result) :: right, after⟩
  | skip (left right : List (Declaration × Progress)) (declaration : Declaration) (pipeline : Pipeline)
      {other : Declaration} {fault : Fault} (failed : (other, .failed fault) ∈ left ++ right) :
      Step ⟨left ++ (declaration, .waiting) :: right, pipeline⟩
        ⟨left ++ (declaration, .skipped) :: right, pipeline⟩

/-- Batches that come of one by some steps, in which none comes up that is not allowed. -/
inductive Reaches (allowed : Batch → Prop) (first : Batch) : Batch → Prop
  | refl : Reaches allowed first first
  | step {batch next : Batch} (reached : Reaches allowed first batch) (step : Step batch next)
      (allows : allowed next) : Reaches allowed first next

/-- What is returned when all has ended. If something failed, it is the fault of one of those that did,
except that a panic goes before. -/
inductive Outcome (jobs : List (Declaration × Progress)) :
    Except Fault (List (Option PreparedUnit)) → Prop
  | prepared {units : List (Option PreparedUnit)} (all : jobs.map (·.2) = units.map .prepared) :
      Outcome jobs (.ok units)
  | failed {declaration : Declaration} {fault : Fault} (ended : ∀ job ∈ jobs, job.2.ended = true)
      (failed : (declaration, .failed fault) ∈ jobs)
      (passed : ∀ other, (other, .failed .panicked) ∈ jobs → fault = .panicked) :
      Outcome jobs (.error fault)

/-- Every batch: the workers are free in the order of their steps. -/
def Any (_ : Batch) : Prop := True

/-- No feature is being rendered twice. -/
def Apart (batch : Batch) : Prop := (batch.jobs.filterMap (·.2.rendering?)).Nodup

end Batch

/-- The declarations are prepared by steps in which only such batches come up as are allowed. -/
def Prepares (allowed : Batch → Prop) (declarations : List Declaration) (pipeline : Pipeline)
    (result : Except Fault (List (Option PreparedUnit))) (after : Pipeline) : Prop :=
  ∃ jobs, Batch.Reaches allowed (.start declarations pipeline) ⟨jobs, after⟩ ∧ Batch.Outcome jobs result

/-- What a run may come to. Files are emitted by one worker, after all is prepared. -/
inductive Runs {σ : Type} (allowed : Batch → Prop) (sink : Sink σ) (declarations : List Declaration) :
    Pipeline × σ → Except Fault GenerationReport → Pipeline × σ → Prop
  | stopped {pipeline after : Pipeline} {start : σ} {fault : Fault}
      (failed : Prepares allowed declarations pipeline (.error fault) after) :
      Runs allowed sink declarations (pipeline, start) (.error fault) (after, start)
  | delivered {pipeline after : Pipeline} {start state : σ} {prepared : List (Option PreparedUnit)}
      {result : Except Fault GenerationReport} {reports : List Warning}
      (done : Prepares allowed declarations pipeline (.ok prepared) after)
      (delivered : (deliver sink declarations.length prepared).perform start = (result, state, reports)) :
      Runs allowed sink declarations (pipeline, start) result (after, state)

end Scaffold.Pipeline
