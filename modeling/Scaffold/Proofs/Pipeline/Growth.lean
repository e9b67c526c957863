import Scaffold.Proofs.Pipeline.Schedule

/-! How much more a pipeline remembers after several workers have prepared declarations: at most as many
features as units were rendered, and just as many if no feature is ever being rendered twice. -/

namespace Scaffold.Pipeline

variable {before : Pipeline} {declarations : List Declaration}

/-- A unit that was rendered. -/
def Progress.isFresh : Progress → Bool
  | .prepared (some unit) => !unit.fromCache
  | _ => false

theorem isFresh_ofSight (pipeline : Pipeline) (declaration : Declaration) :
    (Progress.ofSight (pipeline.look declaration)).isFresh = false := by
  rcases look_cases pipeline declaration with ⟨-, seen⟩ | ⟨_, _, -, -, seen⟩ | ⟨_, -, -, seen⟩ <;>
    rw [seen] <;> rfl

namespace Batch

/-- How many units of a batch were rendered. -/
def freshUnits (jobs : List (Declaration × Progress)) : Nat := jobs.countP (·.2.isFresh)

theorem freshUnits_cons (left right : List (Declaration × Progress)) (declaration : Declaration)
    (progress : Progress) : freshUnits (left ++ (declaration, progress) :: right) =
      freshUnits (left ++ right) + if progress.isFresh then 1 else 0 := by
  simp only [freshUnits, List.countP_append, List.countP_cons]
  omega

theorem Step.size_memo {batch next : Batch} (step : Step batch next) :
    next.pipeline.memo.size + freshUnits batch.jobs ≤
      batch.pipeline.memo.size + freshUnits next.jobs := by
  cases step with
  | look left right declaration pipeline =>
    rw [freshUnits_cons, freshUnits_cons, isFresh_ofSight]
    exact le_rfl
  | @render left right declaration feature pipeline _ _ _ rendered =>
    rw [freshUnits_cons, freshUnits_cons]
    rcases renderFresh_cases rendered with ⟨artifacts, rfl, -, rfl⟩ | ⟨fault, rfl, -, rfl⟩
    · have grown := NameMap.size_insert_le pipeline.memo (pipeline.setting.memoKey feature) artifacts
      simp only [remember, Progress.isFresh, Progress.ofRendering, Bool.not_false, Bool.false_eq_true,
        if_true, if_false]
      omega
    · exact le_rfl
  | skip left right declaration pipeline failed =>
    rw [freshUnits_cons, freshUnits_cons]
    exact le_rfl

/-- No more is remembered anew than units were rendered. -/
theorem size_memo_le {batch : Batch} {allowed : Batch → Prop}
    (reached : Reaches allowed (.start declarations before) batch) :
    batch.pipeline.memo.size ≤ before.memo.size + freshUnits batch.jobs := by
  induction reached with
  | refl => exact Nat.le_add_right _ _
  | step _ step _ ih =>
    have next := step.size_memo
    omega

/-- No feature that is being rendered is remembered yet. -/
def Unraced (batch : Batch) : Prop :=
  ∀ job ∈ batch.jobs, ∀ feature, job.2 = .rendering feature → batch.pipeline.remembered? feature = none

theorem Reaches.allowed {allowed : Batch → Prop} {first batch : Batch}
    (reached : Reaches allowed first batch) (allows : allowed first) : allowed batch := by
  cases reached with
  | refl => exact allows
  | step _ _ allows => exact allows

theorem apart_start : Apart (.start declarations before) := by
  have none : (Batch.start declarations before).jobs.filterMap (·.2.rendering?) = [] := by
    rw [Batch.start, List.filterMap_map]
    exact List.filterMap_eq_nil_iff.mpr fun _ _ => rfl
  rw [Apart, none]
  exact List.nodup_nil

/-- A feature is not being rendered beside a declaration that renders it. -/
theorem ne_of_apart {left right : List (Declaration × Progress)} {declaration : Declaration}
    {feature other : String} {pipeline : Pipeline}
    (apart : Apart ⟨left ++ (declaration, .rendering feature) :: right, pipeline⟩)
    {job : Declaration × Progress} (member : job ∈ left ++ right) (renders : job.2 = .rendering other) :
    other ≠ feature := by
  have listed : other ∈ (left ++ right).filterMap (·.2.rendering?) :=
    List.mem_filterMap.mpr ⟨job, member, by rw [renders]; rfl⟩
  rw [Apart, List.filterMap_append, List.filterMap_cons] at apart
  rw [List.filterMap_append] at listed
  rintro rfl
  exact (List.nodup_middle.mp apart).notMem listed

theorem Sound.asked {batch : Batch} (sound : Sound before declarations batch)
    {job : Declaration × Progress} (member : job ∈ batch.jobs) {feature : String}
    (renders : job.2 = .rendering feature) : feature ∈ featuresOf before.setting declarations := by
  have fits := sound.fits job member
  rw [renders] at fits
  cases fits with
  | rendering named _ =>
    exact mem_featuresOf_iff.mpr ⟨job.1, sound.order ▸ List.mem_map_of_mem member, named⟩

/-- Where no feature is rendered twice at a time, each unit that is rendered is new. -/
theorem Sound.unraced_step {batch next : Batch} (sound : Sound before declarations batch)
    (apart : TellsApart before.setting (featuresOf before.setting declarations)) (alone : Apart batch)
    (unraced : Unraced batch) (step : Step batch next) : Unraced next ∧
      next.pipeline.memo.size + freshUnits batch.jobs = batch.pipeline.memo.size + freshUnits next.jobs := by
  -- The pipeline changes only with a rendering; so far the other jobs are those of before.
  have others : ∀ {left right job progress}, batch.jobs = left ++ job :: right →
      (∀ feature, progress = .rendering feature → batch.pipeline.remembered? feature = none) →
      Unraced ⟨left ++ (job.1, progress) :: right, batch.pipeline⟩ := by
    intro left right job progress split renders other member feature same
    rcases mem_jobs_iff.mp member with rfl | member
    · exact renders feature same
    · exact unraced other (split ▸ mem_jobs_iff.mpr (.inr member)) feature same
  cases step with
  | look left right declaration pipeline =>
    refine ⟨others rfl fun feature renders => ?_,
      by rw [freshUnits_cons, freshUnits_cons, isFresh_ofSight]; rfl⟩
    rcases look_cases pipeline declaration with ⟨-, seen⟩ | ⟨_, _, -, -, seen⟩ | ⟨_, -, fresh, seen⟩ <;>
      rw [seen] at renders
    · contradiction
    · contradiction
    · obtain rfl := Progress.rendering.inj renders
      exact fresh
  | @render left right declaration feature pipeline _ _ _ rendered =>
    have own : (declaration, .rendering feature) ∈ left ++ (declaration, .rendering feature) :: right :=
      mem_jobs_iff.mpr (.inl rfl)
    rcases renderFresh_cases rendered with ⟨artifacts, rfl, -, rfl⟩ | ⟨fault, rfl, -, rfl⟩
    · have new : pipeline.remembered? feature = none := unraced _ own feature rfl
      refine ⟨fun job member other renders => ?_, ?_⟩
      · rcases mem_jobs_iff.mp member with rfl | member
        · contradiction
        have listed : job ∈ left ++ (declaration, .rendering feature) :: right :=
          mem_jobs_iff.mpr (.inr member)
        have different : pipeline.setting.memoKey other ≠ pipeline.setting.memoKey feature := by
          rw [sound.gained.extended.setting]
          exact fun same => ne_of_apart alone member renders
            (apart other (sound.asked listed renders) feature (sound.asked own rfl) same)
        exact (NameMap.find?_insert_of_ne _ _ different).trans (unraced job listed other renders)
      · rw [freshUnits_cons, freshUnits_cons]
        have grown := NameMap.size_insert_of_new new artifacts
        simp only [remember, Progress.isFresh, Progress.ofRendering, Bool.not_false, Bool.false_eq_true,
          if_true, if_false, grown]
        omega
    · exact ⟨others rfl (by simp [Progress.ofRendering]), by rw [freshUnits_cons, freshUnits_cons]; rfl⟩
  | skip left right declaration pipeline failed =>
    exact ⟨others rfl (by simp), by rw [freshUnits_cons, freshUnits_cons]; rfl⟩

theorem size_memo_eq (apart : TellsApart before.setting (featuresOf before.setting declarations))
    {batch : Batch} (reached : Reaches Apart (.start declarations before) batch) :
    batch.pipeline.memo.size = before.memo.size + freshUnits batch.jobs := by
  suffices both : Unraced batch ∧
      batch.pipeline.memo.size = before.memo.size + freshUnits batch.jobs from both.2
  induction reached with
  | refl =>
    have waits : ∀ job ∈ (Batch.start declarations before).jobs, job.2 = .waiting := by
      intro job member
      obtain ⟨_, -, rfl⟩ := List.mem_map.mp member
      rfl
    have none : freshUnits (Batch.start declarations before).jobs = 0 :=
      List.countP_eq_zero.mpr fun job member => by simp [waits job member, Progress.isFresh]
    refine ⟨fun job member feature renders => ?_, by rw [none]; rfl⟩
    rw [waits job member] at renders
    contradiction
  | step reached step _ ih =>
    obtain ⟨unraced, size⟩ := ih
    obtain ⟨unraced', grown⟩ :=
      (Sound.of_reaches reached).unraced_step apart (reached.allowed apart_start) unraced step
    exact ⟨unraced', by omega⟩

theorem freshUnits_of_prepared {jobs : List (Declaration × Progress)} {prepared : List (Option PreparedUnit)}
    (all : jobs.map (·.2) = prepared.map .prepared) :
    freshUnits jobs = (prepared.filterMap id).countP (!·.fromCache) := by
  calc freshUnits jobs
      = (jobs.map (·.2)).countP Progress.isFresh := by
        rw [List.countP_map]
        rfl
    _ = (prepared.filterMap id).countP (!·.fromCache) := by
        rw [all, List.countP_map, List.countP_filterMap]
        refine List.countP_congr fun unit _ => ?_
        cases unit <;> rfl

end Batch

section Prepares

variable {after : Pipeline} {prepared : List (Option PreparedUnit)}

theorem Prepares.size_memo_le {allowed : Batch → Prop}
    (done : Prepares allowed declarations before (.ok prepared) after) :
    after.memo.size ≤ before.memo.size + (prepared.filterMap id).countP (!·.fromCache) := by
  obtain ⟨jobs, reached, outcome⟩ := done
  cases outcome with
  | prepared all => exact Batch.freshUnits_of_prepared all ▸ Batch.size_memo_le reached

theorem Prepares.size_memo_eq
    (apart : TellsApart before.setting (featuresOf before.setting declarations))
    (done : Prepares Batch.Apart declarations before (.ok prepared) after) :
    after.memo.size = before.memo.size + (prepared.filterMap id).countP (!·.fromCache) := by
  obtain ⟨jobs, reached, outcome⟩ := done
  cases outcome with
  | prepared all => exact Batch.freshUnits_of_prepared all ▸ Batch.size_memo_eq apart reached

end Prepares

end Scaffold.Pipeline
