import Scaffold.Proofs.Pipeline.Memo
import Scaffold.Proofs.Pipeline.Schedule

/-! Preparation from left to right is one of the schedules of several workers, and no feature is rendered
twice at a time in it. Conversely, whatever a schedule comes to remember is remembered after some of the
declarations were prepared one after another. -/

namespace Scaffold.Pipeline

variable {before : Pipeline} {declarations : List Declaration}

namespace Progress

def ofUnit : Except Fault (Option PreparedUnit) → Progress
  | .ok unit => .prepared unit
  | .error fault => .failed fault

end Progress

namespace Batch

variable {first : Batch} {left right : List (Declaration × Progress)} {declaration : Declaration}
  {pipeline : Pipeline}

/-- One declaration at most is on its way. -/
theorem apart_of_idle (idle : ∀ job ∈ left ++ right, job.2.rendering? = none) (progress : Progress)
    (pipeline : Pipeline) : Apart ⟨left ++ (declaration, progress) :: right, pipeline⟩ := by
  have none : (left ++ right).filterMap (·.2.rendering?) = [] := List.filterMap_eq_nil_iff.mpr idle
  rw [List.filterMap_append, List.append_eq_nil_iff] at none
  rw [Apart, List.filterMap_append, List.filterMap_cons, none.1, none.2]
  cases progress.rendering? <;> simp

/-- A declaration is prepared without a step of another one in between. -/
theorem Reaches.prepare (idle : ∀ job ∈ left ++ right, job.2.rendering? = none)
    (reached : Reaches Apart first ⟨left ++ (declaration, .waiting) :: right, pipeline⟩) :
    Reaches Apart first
      ⟨left ++ (declaration, .ofUnit (pipeline.unitOf declaration)) :: right,
        pipeline.afterUnit declaration⟩ := by
  rcases look_cases pipeline declaration with ⟨unnamed, seen⟩ | ⟨feature, artifacts, named, found, seen⟩ |
    ⟨feature, named, fresh, -⟩
  · have looked := reached.step (.look left right declaration pipeline) (apart_of_idle idle _ _)
    obtain ⟨served, same⟩ := unitOf_of_no_feature unnamed
    rw [seen] at looked
    rw [served, same]
    exact looked
  · have looked := reached.step (.look left right declaration pipeline) (apart_of_idle idle _ _)
    obtain ⟨served, same⟩ := unitOf_of_remembered named found
    rw [seen] at looked
    rw [served, same]
    exact looked
  · have looked := reached.step (.looked left right named fresh) (apart_of_idle idle _ _)
    unfold unitOf afterUnit served
    simp only [named, fresh]
    cases made : pipeline.setting.rendered feature with
    | ok artifacts => exact looked.step (.rendered left right made) (apart_of_idle idle _ _)
    | error fault => exact looked.step (.refused left right made) (apart_of_idle idle _ _)

/-- After a failure the declarations that wait may all be left out. -/
theorem Reaches.skip_rest {fault : Fault} {rest : List Declaration}
    (idle : ∀ job ∈ left, job.2.rendering? = none) (failed : (declaration, .failed fault) ∈ left)
    (reached : Reaches Apart first ⟨left ++ rest.map (·, .waiting), pipeline⟩) :
    Reaches Apart first ⟨left ++ rest.map (·, .skipped), pipeline⟩ := by
  induction rest generalizing left with
  | nil => exact reached
  | cons other rest ih =>
    have waiting : ∀ job ∈ left ++ rest.map (·, Progress.waiting), job.2.rendering? = none := by
      intro job member
      rcases List.mem_append.mp member with member | member
      · exact idle job member
      · obtain ⟨_, -, rfl⟩ := List.mem_map.mp member
        rfl
    have skipped := reached.step (.skip left (rest.map (·, .waiting)) other pipeline
      (List.mem_append_left _ failed)) (apart_of_idle waiting _ _)
    rw [List.append_cons] at skipped
    have idle' : ∀ job ∈ left ++ [(other, Progress.skipped)], job.2.rendering? = none := by
      intro job member
      rcases List.mem_append.mp member with member | member
      · exact idle job member
      · obtain rfl := List.mem_singleton.mp member
        rfl
    have all := ih idle' (List.mem_append_left _ failed) skipped
    rwa [List.append_assoc] at all

theorem Outcome.cons {jobs : List (Declaration × Progress)} (unit : Option PreparedUnit)
    {result : Except Fault (List (Option PreparedUnit))} (outcome : Outcome jobs result) :
    Outcome ((declaration, .prepared unit) :: jobs) (result.map (unit :: ·)) := by
  cases outcome with
  | prepared all => exact .prepared (by rw [List.map_cons, all, List.map_cons])
  | failed ended failed passed =>
    refine .failed (List.forall_mem_cons.mpr ⟨rfl, ended⟩) (List.mem_cons_of_mem _ failed) ?_
    intro other member
    rcases List.mem_cons.mp member with same | member
    · simp at same
    · exact passed other member

theorem Outcome.first_failed (declaration : Declaration) (fault : Fault) (rest : List Declaration) :
    Outcome ((declaration, .failed fault) :: rest.map (·, .skipped)) (.error fault) := by
  refine .failed (List.forall_mem_cons.mpr ⟨rfl, ?_⟩) List.mem_cons_self fun other member => ?_
  · intro job member
    obtain ⟨_, -, rfl⟩ := List.mem_map.mp member
    rfl
  · rcases List.mem_cons.mp member with same | member
    · exact (Progress.failed.inj (Prod.mk.inj same).2).symm
    · simp at member

/-- Declarations that wait may be prepared one after the other. -/
theorem Reaches.mapM_prepare {after : Pipeline} {result : Except Fault (List (Option PreparedUnit))}
    (idle : ∀ job ∈ left, job.2.rendering? = none)
    (reached : Reaches Apart first ⟨left ++ declarations.map (·, .waiting), pipeline⟩)
    (ends : (declarations.mapM Pipeline.prepare).Ends pipeline result after) :
    ∃ jobs, Reaches Apart first ⟨left ++ jobs, after⟩ ∧ Outcome jobs result := by
  induction declarations generalizing left pipeline result after with
  | nil =>
    obtain ⟨rfl, rfl⟩ := ends.unique (Task.ends_pure _ _)
    exact ⟨[], reached, .prepared rfl⟩
  | cons declaration rest ih =>
    have waiting : ∀ job ∈ left ++ rest.map (·, Progress.waiting), job.2.rendering? = none := by
      intro job member
      rcases List.mem_append.mp member with member | member
      · exact idle job member
      · obtain ⟨_, -, rfl⟩ := List.mem_map.mp member
        rfl
    have here := prepare_ends declaration pipeline
    have prepared := Reaches.prepare waiting reached
    rw [List.append_cons] at prepared
    have idle' : ∀ job ∈ left ++ [(declaration, Progress.ofUnit (pipeline.unitOf declaration))],
        job.2.rendering? = none := by
      intro job member
      rcases List.mem_append.mp member with member | member
      · exact idle job member
      · obtain rfl := List.mem_singleton.mp member
        cases pipeline.unitOf declaration <;> rfl
    rw [List.mapM_cons] at ends
    cases served : pipeline.unitOf declaration with
    | error fault =>
      rw [served] at here prepared idle'
      obtain ⟨rfl, rfl⟩ := ends.unique here.bind_error
      have failed : (declaration, Progress.failed fault) ∈ left ++ [(declaration, .failed fault)] :=
        List.mem_append_right _ List.mem_cons_self
      have all := Reaches.skip_rest idle' failed prepared
      rw [← List.append_cons] at all
      exact ⟨_, all, .first_failed declaration fault rest⟩
    | ok unit =>
      rw [served] at here prepared idle'
      obtain ⟨result', after', others⟩ := blind_mapM_prepare rest (pipeline.afterUnit declaration)
      obtain ⟨jobs, all, outcome⟩ := ih idle' prepared others
      rw [← List.append_cons] at all
      cases result' with
      | error fault =>
        obtain ⟨rfl, rfl⟩ := ends.unique (here.bind others.bind_error)
        exact ⟨_, all, outcome.cons unit⟩
      | ok units =>
        obtain ⟨rfl, rfl⟩ := ends.unique (here.bind (others.bind (Task.ends_pure _ _)))
        exact ⟨_, all, outcome.cons unit⟩

end Batch

/-- Preparation from left to right is a schedule in which no feature is rendered twice. -/
theorem prepares_of_mapM_prepare {pipeline after : Pipeline}
    {result : Except Fault (List (Option PreparedUnit))}
    (ends : (declarations.mapM prepare).Ends pipeline result after) :
    Prepares Batch.Apart declarations pipeline result after := by
  have start : Batch.Reaches Batch.Apart (.start declarations pipeline)
      ⟨[] ++ declarations.map (·, .waiting), pipeline⟩ := .refl
  exact start.mapM_prepare (List.forall_mem_nil _) ends

theorem Batch.Reaches.any {allowed : Batch → Prop} {first batch : Batch}
    (reached : Batch.Reaches allowed first batch) : Batch.Reaches Batch.Any first batch := by
  induction reached with
  | refl => exact .refl
  | step _ step _ ih => exact ih.step step trivial

theorem Prepares.any {allowed : Batch → Prop} {after : Pipeline}
    {result : Except Fault (List (Option PreparedUnit))}
    (done : Prepares allowed declarations before result after) :
    Prepares Batch.Any declarations before result after := by
  obtain ⟨jobs, reached, outcome⟩ := done
  exact ⟨jobs, reached.any, outcome⟩

/-! ### What is remembered meanwhile -/

theorem after_prepare (declaration : Declaration) (pipeline : Pipeline) :
    PipelineCall.after pipeline (.prepare declaration) = pipeline.afterUnit declaration := by
  obtain ⟨reports, performed⟩ := (prepare_ends declaration pipeline).perform
  rw [PipelineCall.after, performed]

theorem afterUnit_of_rendered {declaration : Declaration} {feature : String} {artifacts : List Artifact}
    (named : before.setting.convention.feature? declaration = some feature)
    (fresh : before.remembered? feature = none)
    (rendered : before.setting.rendered feature = .ok artifacts) :
    before.afterUnit declaration = before.remember feature artifacts := by
  simp only [afterUnit, named, served_fresh_iff.mpr ⟨fresh, rendered⟩]

/-- At each time the workers remember what would be remembered after some of the declarations were prepared
one after another: those that were the first to render their feature. -/
theorem Batch.Reaches.exists_calls {allowed : Batch → Prop} {batch : Batch}
    (apart : TellsApart before.setting (featuresOf before.setting declarations))
    (reached : Batch.Reaches allowed (.start declarations before) batch) :
    ∃ order : List Declaration, (∀ declaration ∈ order, declaration ∈ declarations) ∧
      before.afterCalls (order.map .prepare) = batch.pipeline := by
  induction reached with
  | refl => exact ⟨[], List.forall_mem_nil _, rfl⟩
  | step reached step _ ih =>
    obtain ⟨order, listed, same⟩ := ih
    cases step with
    | look => exact ⟨order, listed, same⟩
    | skip => exact ⟨order, listed, same⟩
    | @render left right declaration feature pipeline after _ _ rendered =>
      have sound := Batch.Sound.of_reaches reached
      have own : (declaration, .rendering feature) ∈ left ++ (declaration, .rendering feature) :: right :=
        mem_jobs_iff.mpr (.inl rfl)
      have setting : pipeline.setting = before.setting := sound.gained.extended.setting
      have member : declaration ∈ declarations := sound.order ▸ List.mem_map_of_mem own
      cases sound.fits _ own with
      | rendering named new =>
      rcases renderFresh_cases rendered with ⟨artifacts, -, made, rfl⟩ | ⟨fault, -, -, rfl⟩
      · cases found : pipeline.remembered? feature with
        | none =>
          refine ⟨order ++ [declaration], fun other listed' => ?_, ?_⟩
          · rcases List.mem_append.mp listed' with earlier | last
            · exact listed other earlier
            · exact List.mem_singleton.mp last ▸ member
          · calc before.afterCalls ((order ++ [declaration]).map .prepare)
                = (before.afterCalls (order.map .prepare)).afterCalls [.prepare declaration] := by
                  rw [List.map_append, afterCalls, List.foldl_append]
                  rfl
              _ = pipeline.afterUnit declaration := by
                  rw [same]
                  exact after_prepare declaration pipeline
              _ = pipeline.remember feature artifacts :=
                  afterUnit_of_rendered (setting ▸ named) found made
        | some earlier =>
          -- Another worker was faster. It has rendered the same files, which stay.
          rw [remembered?, setting] at found
          rcases sound.gained.known _ _ found with old | ⟨-, other, asked, feature', named', sameKey, made'⟩
          · exact absurd (new.symm.trans old) (by simp)
          · obtain rfl := apart feature (mem_featuresOf_iff.mpr ⟨_, member, named⟩) feature'
              (mem_featuresOf_iff.mpr ⟨other, asked, named'⟩) sameKey
            rw [setting] at made
            obtain rfl := Except.ok.inj (made'.symm.trans made)
            have kept : pipeline.remember feature earlier = pipeline :=
              congrArg (Pipeline.mk pipeline.setting) (NameMap.insert_of_find? (by rw [setting, found]))
            exact ⟨order, listed, same.trans kept.symm⟩
      · exact ⟨order, listed, same⟩

end Scaffold.Pipeline
