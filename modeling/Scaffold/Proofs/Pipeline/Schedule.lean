import Scaffold.Pipeline.Schedule
import Scaffold.Proofs.Pipeline.Run

/-! Preparation by several workers. Whatever the order of their steps is, a key that was remembered stays
with its files, and what is new under a key is what a feature of the declarations renders to. So each
declaration comes to what it comes to on its own, and all schedules come to the same memory. What they
differ in is which failure is returned, how much is remembered then, and which of several units of one
feature came from memory. Preparation from left to right is one of the schedules. -/

namespace Scaffold.Pipeline

variable {before now : Pipeline} {declarations : List Declaration}

/-! ### Single steps -/

theorem look_cases (pipeline : Pipeline) (declaration : Declaration) :
    (pipeline.setting.convention.feature? declaration = none ∧
      pipeline.look declaration = .settled none) ∨
    (∃ feature artifacts, pipeline.setting.convention.feature? declaration = some feature ∧
      pipeline.remembered? feature = some artifacts ∧
      pipeline.look declaration = .settled (some ⟨declaration.name, feature, artifacts, true⟩)) ∨
    ∃ feature, pipeline.setting.convention.feature? declaration = some feature ∧
      pipeline.remembered? feature = none ∧ pipeline.look declaration = .fresh feature := by
  unfold look remembered?
  cases named : pipeline.setting.convention.feature? declaration with
  | none => exact .inl ⟨rfl, rfl⟩
  | some feature =>
    cases found : pipeline.memo.find? (pipeline.setting.memoKey feature) with
    | some artifacts => exact .inr (.inl ⟨feature, artifacts, rfl, found, by simp [found]⟩)
    | none => exact .inr (.inr ⟨feature, rfl, found, by simp [found]⟩)

theorem renderFresh_cases {feature : String} {after : Pipeline} {reports : List Warning}
    {result : Except Fault (List Artifact)}
    (rendered : (renderFresh feature).perform now = (result, after, reports)) :
    (∃ artifacts, result = .ok artifacts ∧ now.setting.rendered feature = .ok artifacts ∧
      after = now.remember feature artifacts) ∨
    ∃ fault, result = .error fault ∧ now.setting.rendered feature = .error fault ∧ after = now := by
  obtain ⟨reports', performed⟩ := (renderFresh_ends feature now).perform
  obtain ⟨rfl, rfl, -⟩ := by simpa using rendered.symm.trans performed
  cases now.setting.rendered feature with
  | ok artifacts => exact .inl ⟨artifacts, rfl, rfl, rfl⟩
  | error fault => exact .inr ⟨fault, rfl, rfl, rfl⟩

namespace Batch.Step

variable {pipeline : Pipeline} {declaration : Declaration} {feature : String}
  (left right : List (Declaration × Progress))

theorem looked (named : pipeline.setting.convention.feature? declaration = some feature)
    (fresh : pipeline.remembered? feature = none) :
    Step ⟨left ++ (declaration, .waiting) :: right, pipeline⟩
      ⟨left ++ (declaration, .rendering feature) :: right, pipeline⟩ := by
  have step := look left right declaration pipeline
  rcases look_cases pipeline declaration with ⟨unnamed, -⟩ | ⟨feature', artifacts, named', found, -⟩ |
    ⟨feature', named', -, seen⟩
  · exact absurd (unnamed.symm.trans named) (by simp)
  · obtain rfl := Option.some.inj (named'.symm.trans named)
    exact absurd (fresh.symm.trans found) (by simp)
  · obtain rfl := Option.some.inj (named'.symm.trans named)
    rwa [seen] at step

theorem rendered {artifacts : List Artifact}
    (rendered : pipeline.setting.rendered feature = .ok artifacts) :
    Step ⟨left ++ (declaration, .rendering feature) :: right, pipeline⟩
      ⟨left ++ (declaration, .prepared (some ⟨declaration.name, feature, artifacts, false⟩)) :: right,
        pipeline.remember feature artifacts⟩ := by
  have ends := renderFresh_ends feature pipeline
  rw [rendered] at ends
  obtain ⟨reports, performed⟩ := ends.perform
  exact .render left right declaration feature performed

theorem refused {fault : Fault} (refused : pipeline.setting.rendered feature = .error fault) :
    Step ⟨left ++ (declaration, .rendering feature) :: right, pipeline⟩
      ⟨left ++ (declaration, .failed fault) :: right, pipeline⟩ := by
  have ends := renderFresh_ends feature pipeline
  rw [refused] at ends
  obtain ⟨reports, performed⟩ := ends.perform
  exact .render left right declaration feature performed

end Batch.Step

/-! ### What is remembered -/

/-- Files that may be remembered under a key later on: those that were, or else what a feature of the
declarations renders to. -/
def Known (before : Pipeline) (declarations : List Declaration) (key : String)
    (artifacts : List Artifact) : Prop :=
  before.memo.find? key = some artifacts ∨ before.memo.find? key = none ∧
    ∃ declaration ∈ declarations, ∃ feature,
      before.setting.convention.feature? declaration = some feature ∧
      key = before.setting.memoKey feature ∧ before.setting.rendered feature = .ok artifacts

/-- All that was remembered still is, and the rest may be. -/
structure Gained (before after : Pipeline) (declarations : List Declaration) : Prop where
  extended : Extends before after
  known : ∀ key artifacts, after.memo.find? key = some artifacts →
    Known before declarations key artifacts

theorem Gained.refl (pipeline : Pipeline) (declarations : List Declaration) :
    Gained pipeline pipeline declarations := ⟨.refl _, fun _ _ => .inl⟩

/-- A feature that was not remembered is remembered now. -/
theorem Gained.remember (gained : Gained before now declarations) {declaration : Declaration}
    (member : declaration ∈ declarations) {feature : String} {artifacts : List Artifact}
    (named : before.setting.convention.feature? declaration = some feature)
    (fresh : before.remembered? feature = none)
    (rendered : before.setting.rendered feature = .ok artifacts) :
    Gained before (now.remember feature artifacts) declarations := by
  have setting := gained.extended.setting
  constructor
  · refine ⟨setting, fun key found earlier => ?_⟩
    have different : key ≠ now.setting.memoKey feature := by
      rintro rfl
      rw [setting] at earlier
      exact absurd (fresh.symm.trans earlier) (by simp)
    rw [Pipeline.remember, NameMap.find?_insert_of_ne _ _ different]
    exact gained.extended.memo key found earlier
  · intro key found later
    rw [Pipeline.remember, NameMap.find?_insert] at later
    split at later
    · rename_i same
      obtain rfl := Option.some.inj later
      rw [setting] at same
      exact .inr ⟨same ▸ fresh, declaration, member, feature, named, same, rendered⟩
    · exact gained.known key found later

/-- What is remembered for a feature is what it is served with on its own. -/
theorem Known.served {feature : String} {artifacts : List Artifact}
    (known : Known before declarations (before.setting.memoKey feature) artifacts)
    (apart : TellsApart before.setting (featuresOf before.setting declarations))
    (asked : feature ∈ featuresOf before.setting declarations) :
    ∃ cached, before.served feature = .ok (artifacts, cached) := by
  rcases known with earlier | ⟨new, declaration, member, feature', named, sameKey, rendered⟩
  · exact ⟨true, served_remembered_iff.mpr earlier⟩
  · obtain rfl := apart feature asked feature' (mem_featuresOf_iff.mpr ⟨_, member, named⟩) sameKey
    exact ⟨false, served_fresh_iff.mpr ⟨new, rendered⟩⟩

/-! ### Declarations on their way -/

/-- What holds of a declaration at each stage, for the pipeline before the first step and the present
one. -/
inductive Fits (before now : Pipeline) (declarations : List Declaration) (declaration : Declaration) :
    Progress → Prop
  | waiting : Fits before now declarations declaration .waiting
  | rendering {feature : String}
      (named : before.setting.convention.feature? declaration = some feature)
      (fresh : before.remembered? feature = none) :
      Fits before now declarations declaration (.rendering feature)
  | idle (unnamed : before.setting.convention.feature? declaration = none) :
      Fits before now declarations declaration (.prepared none)
  | prepared {unit : PreparedUnit} (trigger : unit.trigger = declaration.name)
      (named : before.setting.convention.feature? declaration = some unit.feature)
      (known : Known before declarations (before.setting.memoKey unit.feature) unit.artifacts)
      (kept : (now.remembered? unit.feature).isSome = true)
      (fresh : unit.fromCache = false → before.remembered? unit.feature = none) :
      Fits before now declarations declaration (.prepared (some unit))
  | failed {fault : Fault} (alone : before.unitOf declaration = .error fault) :
      Fits before now declarations declaration (.failed fault)
  | skipped : Fits before now declarations declaration .skipped

theorem Fits.mono {next : Pipeline} {declaration : Declaration} {progress : Progress}
    (fits : Fits before now declarations declaration progress)
    (grows : ∀ feature, (now.remembered? feature).isSome = true →
      (next.remembered? feature).isSome = true) : Fits before next declarations declaration progress := by
  cases fits with
  | waiting => exact .waiting
  | rendering named fresh => exact .rendering named fresh
  | idle unnamed => exact .idle unnamed
  | prepared trigger named known kept fresh =>
    exact .prepared trigger named known (grows _ kept) fresh
  | failed alone => exact .failed alone
  | skipped => exact .skipped

theorem Fits.look (gained : Gained before now declarations) (declaration : Declaration) :
    Fits before now declarations declaration (.ofSight (now.look declaration)) := by
  have setting := gained.extended.setting
  rcases look_cases now declaration with ⟨unnamed, seen⟩ | ⟨feature, artifacts, named, found, seen⟩ |
    ⟨feature, named, fresh, seen⟩
  · rw [seen]
    exact .idle (setting ▸ unnamed)
  · rw [seen]
    refine .prepared rfl (setting ▸ named) (gained.known _ _ ?_) (by simp [found]) (by simp)
    rw [← setting]
    exact found
  · rw [seen]
    refine .rendering (setting ▸ named) ?_
    cases found : before.remembered? feature with
    | none => rfl
    | some artifacts => exact absurd (fresh.symm.trans (gained.extended.remembered? found)) (by simp)

/-! ### Batches -/

namespace Batch

/-- What holds of every batch that some declarations come to from a pipeline. -/
structure Sound (before : Pipeline) (declarations : List Declaration) (batch : Batch) : Prop where
  order : batch.jobs.map (·.1) = declarations
  gained : Gained before batch.pipeline declarations
  fits : ∀ job ∈ batch.jobs, Fits before batch.pipeline declarations job.1 job.2
  excused : ∀ declaration, (declaration, .skipped) ∈ batch.jobs →
    ∃ other fault, (other, .failed fault) ∈ batch.jobs

theorem mem_jobs_iff {left right : List (Declaration × Progress)} {job other : Declaration × Progress} :
    other ∈ left ++ job :: right ↔ other = job ∨ other ∈ left ++ right := by
  simp only [List.mem_append, List.mem_cons]
  exact or_left_comm

section Sound

variable {left right : List (Declaration × Progress)} {declaration : Declaration}
  {progress next : Progress} {after : Pipeline}

/-- A step of one declaration, after which the others stand as they did. -/
theorem Sound.step_of
    (sound : Sound before declarations ⟨left ++ (declaration, progress) :: right, now⟩)
    (gained : Gained before after declarations)
    (grows : ∀ feature, (now.remembered? feature).isSome = true →
      (after.remembered? feature).isSome = true)
    (fits : Fits before after declarations declaration next)
    (unfailed : ∀ fault, progress ≠ .failed fault)
    (excused : next = .skipped → ∃ other fault, (other, .failed fault) ∈ left ++ right) :
    Sound before declarations ⟨left ++ (declaration, next) :: right, after⟩ := by
  refine ⟨by simpa using sound.order, gained, fun job member => ?_, fun other member => ?_⟩
  · rcases mem_jobs_iff.mp member with rfl | member
    · exact fits
    · exact (sound.fits job (mem_jobs_iff.mpr (.inr member))).mono grows
  · have failed : ∃ other fault, (other, .failed fault) ∈ left ++ right := by
      rcases mem_jobs_iff.mp member with same | member
      · exact excused (Prod.mk.inj same).2.symm
      · obtain ⟨failed, fault, listed⟩ := sound.excused other (mem_jobs_iff.mpr (.inr member))
        rcases mem_jobs_iff.mp listed with same | listed
        · exact absurd (Prod.mk.inj same).2.symm (unfailed fault)
        · exact ⟨failed, fault, listed⟩
    obtain ⟨failed, fault, listed⟩ := failed
    exact ⟨failed, fault, mem_jobs_iff.mpr (.inr listed)⟩

end Sound

/-- Each step keeps what holds of the batches. -/
theorem Sound.step {batch next : Batch} (sound : Sound before declarations batch)
    (step : Step batch next) : Sound before declarations next := by
  have listed : ∀ {job}, job ∈ batch.jobs → job.1 ∈ declarations := fun member =>
    sound.order ▸ List.mem_map_of_mem member
  cases step with
  | look left right declaration pipeline =>
    refine sound.step_of sound.gained (fun _ => id) (.look sound.gained declaration) (by simp) fun same => ?_
    cases seen : pipeline.look declaration <;> simp [seen, Progress.ofSight] at same
  | @render left right declaration feature pipeline after result reports rendered =>
    have own : (declaration, .rendering feature) ∈ left ++ (declaration, .rendering feature) :: right :=
      mem_jobs_iff.mpr (.inl rfl)
    have setting := sound.gained.extended.setting
    cases sound.fits _ own with
    | rendering named fresh =>
    rcases renderFresh_cases rendered with ⟨artifacts, rfl, made, rfl⟩ | ⟨fault, rfl, made, rfl⟩
    · dsimp only at setting
      rw [setting] at made
      have gained := sound.gained.remember (listed own) named fresh made
      have kept : (pipeline.remember feature artifacts).remembered? feature = some artifacts :=
        NameMap.find?_insert_self _ _ _
      refine sound.step_of gained (fun other found => ?_) ?_ (by simp) (by simp [Progress.ofRendering])
      · rw [Pipeline.remembered?, Pipeline.remember, NameMap.find?_insert]
        split
        · rfl
        · exact found
      · refine .prepared rfl named (gained.known _ _ ?_) (by simp [kept]) fun _ => fresh
        rw [← setting]
        exact kept
    · dsimp only at setting
      rw [setting] at made
      exact sound.step_of sound.gained (fun _ => id)
        (.failed (unitOf_eq_error_iff.mpr ⟨feature, named, fresh, made⟩)) (by simp)
        (by simp [Progress.ofRendering])
  | skip left right declaration pipeline failed =>
    exact sound.step_of sound.gained (fun _ => id) .skipped (by simp) fun _ => ⟨_, _, failed⟩

theorem Sound.start (before : Pipeline) (declarations : List Declaration) :
    Sound before declarations (.start declarations before) := by
  refine ⟨by simp [Batch.start, Function.comp_def], .refl _ _, ?_, ?_⟩
  · intro job member
    obtain ⟨declaration, -, rfl⟩ := List.mem_map.mp member
    exact .waiting
  · intro declaration member
    simp [Batch.start] at member

theorem Sound.of_reaches {allowed : Batch → Prop} {batch : Batch}
    (reached : Reaches allowed (.start declarations before) batch) :
    Sound before declarations batch := by
  induction reached with
  | refl => exact .start before declarations
  | step _ step _ ih => exact ih.step step

end Batch

/-! ### What schedules come to -/

section Prepares

variable {allowed allowed' : Batch → Prop} {after after' : Pipeline}
  {prepared prepared' : List (Option PreparedUnit)}

theorem Prepares.gained {result : Except Fault (List (Option PreparedUnit))}
    (done : Prepares allowed declarations before result after) : Gained before after declarations := by
  obtain ⟨jobs, reached, -⟩ := done
  exact (Batch.Sound.of_reaches reached).gained

/-- A failure is one of a declaration on its own. -/
theorem Prepares.fault {fault : Fault}
    (stopped : Prepares allowed declarations before (.error fault) after) :
    ∃ declaration ∈ declarations, before.unitOf declaration = .error fault := by
  obtain ⟨jobs, reached, outcome⟩ := stopped
  have sound := Batch.Sound.of_reaches reached
  cases outcome with
  | @failed declaration _ ended failed passed =>
    cases sound.fits _ failed with
    | failed alone => exact ⟨declaration, sound.order ▸ List.mem_map_of_mem failed, alone⟩

theorem Prepares.fits (done : Prepares allowed declarations before (.ok prepared) after) :
    List.Forall₂ (fun declaration unit =>
      declaration ∈ declarations ∧ Fits before after declarations declaration (.prepared unit))
      declarations prepared := by
  obtain ⟨jobs, reached, outcome⟩ := done
  have sound := Batch.Sound.of_reaches reached
  cases outcome with
  | prepared all =>
    have pairs : List.Forall₂ (fun declaration progress =>
        declaration ∈ declarations ∧ Fits before after declarations declaration progress)
        (jobs.map (·.1)) (jobs.map (·.2)) := by
      rw [List.forall₂_map_left_iff, List.forall₂_map_right_iff, List.forall₂_same]
      exact fun job member => ⟨sound.order ▸ List.mem_map_of_mem member, sound.fits job member⟩
    rwa [sound.order, all, List.forall₂_map_right_iff] at pairs

theorem Prepares.fits_of_mem (done : Prepares allowed declarations before (.ok prepared) after)
    {declaration : Declaration} (member : declaration ∈ declarations) :
    ∃ unit, Fits before after declarations declaration (.prepared unit) := by
  obtain ⟨jobs, reached, outcome⟩ := done
  have sound := Batch.Sound.of_reaches reached
  cases outcome with
  | prepared all =>
    rw [← sound.order] at member
    obtain ⟨⟨declaration, progress⟩, listed, rfl⟩ := List.mem_map.mp member
    have stage : progress ∈ jobs.map (·.2) := List.mem_map_of_mem listed
    rw [all] at stage
    obtain ⟨unit, -, rfl⟩ := List.mem_map.mp stage
    exact ⟨unit, sound.fits _ listed⟩

theorem Prepares.fits_of_unit (done : Prepares allowed declarations before (.ok prepared) after)
    {unit : Option PreparedUnit} (member : unit ∈ prepared) : ∃ declaration ∈ declarations,
      Fits before after declarations declaration (.prepared unit) := by
  obtain ⟨jobs, reached, outcome⟩ := done
  have sound := Batch.Sound.of_reaches reached
  cases outcome with
  | prepared all =>
    have stage : Progress.prepared unit ∈ jobs.map (·.2) := all ▸ List.mem_map_of_mem member
    obtain ⟨⟨declaration, progress⟩, listed, rfl⟩ := List.mem_map.mp stage
    exact ⟨declaration, sound.order ▸ List.mem_map_of_mem listed, sound.fits _ listed⟩

/-- The units are those of the triggers, in their order. -/
theorem Prepares.units (done : Prepares allowed declarations before (.ok prepared) after) :
    ((prepared.filterMap id).map fun unit => (unit.trigger, unit.feature)) =
      declarations.filterMap fun declaration =>
        (before.setting.convention.feature? declaration).map (declaration.name, ·) := by
  have pairs : declarations.map (fun declaration =>
        (before.setting.convention.feature? declaration).map (declaration.name, ·)) =
      prepared.map (Option.map fun unit => (unit.trigger, unit.feature)) := by
    rw [← List.forall₂_eq_eq_eq, List.forall₂_map_left_iff, List.forall₂_map_right_iff]
    refine done.fits.imp fun declaration unit ⟨_, fits⟩ => ?_
    cases fits with
    | idle unnamed => rw [unnamed]; rfl
    | prepared trigger named _ _ _ => rw [named, Option.map_some, Option.map_some, trigger]
  have listed := congrArg (List.filterMap id) pairs
  rw [List.filterMap_map, List.filterMap_map] at listed
  rw [List.map_filterMap]
  exact listed.symm

theorem Prepares.features (done : Prepares allowed declarations before (.ok prepared) after) :
    (prepared.filterMap id).map (·.feature) = featuresOf before.setting declarations := by
  calc (prepared.filterMap id).map (·.feature)
      = ((prepared.filterMap id).map fun unit => (unit.trigger, unit.feature)).map Prod.snd := by
        rw [List.map_map]
        rfl
    _ = featuresOf before.setting declarations := by
        rw [done.units, List.map_filterMap, featuresOf]
        simp only [Option.map_map, Function.comp_def, Option.map_id']

/-- All features of the declarations are remembered when they have been prepared. -/
theorem Prepares.remembered (done : Prepares allowed declarations before (.ok prepared) after)
    {feature : String} (asked : feature ∈ featuresOf before.setting declarations) :
    ∃ artifacts, after.remembered? feature = some artifacts := by
  obtain ⟨declaration, member, named⟩ := mem_featuresOf_iff.mp asked
  obtain ⟨unit, fits⟩ := done.fits_of_mem member
  cases fits with
  | idle unnamed => exact absurd (unnamed.symm.trans named) (by simp)
  | prepared _ named' _ kept _ =>
    obtain rfl := Option.some.inj (named'.symm.trans named)
    exact Option.isSome_iff_exists.mp kept

/-- A unit holds what its declaration comes to on its own. -/
theorem Fits.alone {declaration : Declaration} {unit : Option PreparedUnit}
    (fits : Fits before now declarations declaration (.prepared unit))
    (apart : TellsApart before.setting (featuresOf before.setting declarations))
    (member : declaration ∈ declarations) : ∃ alone, before.unitOf declaration = .ok alone ∧
      alone.map PreparedUnit.content = unit.map PreparedUnit.content := by
  cases fits with
  | idle unnamed => exact ⟨none, unitOf_eq_none_iff.mpr unnamed, rfl⟩
  | @prepared unit trigger named known kept fresh =>
    obtain ⟨cached, served⟩ := known.served apart (mem_featuresOf_iff.mpr ⟨_, member, named⟩)
    exact ⟨some { unit with fromCache := cached }, unitOf_eq_some_iff.mpr ⟨trigger, named, served⟩, rfl⟩

section Apart

variable (apart : TellsApart before.setting (featuresOf before.setting declarations))

include apart

theorem Prepares.alone (done : Prepares allowed declarations before (.ok prepared) after) :
    ∀ declaration ∈ declarations, ∃ unit, before.unitOf declaration = .ok unit := by
  intro declaration member
  obtain ⟨unit, fits⟩ := done.fits_of_mem member
  obtain ⟨alone, served, -⟩ := fits.alone apart member
  exact ⟨alone, served⟩

/-- Schedules do not differ in the contents of their units. -/
theorem Prepares.contents (done : Prepares allowed declarations before (.ok prepared) after)
    (done' : Prepares allowed' declarations before (.ok prepared') after') :
    prepared'.map (Option.map PreparedUnit.content) = prepared.map (Option.map PreparedUnit.content) := by
  have settled : ∀ {allowed prepared after}, Prepares allowed declarations before (.ok prepared) after →
      declarations.map (fun declaration =>
        (before.unitOf declaration).map (Option.map PreparedUnit.content)) =
        (prepared.map (Option.map PreparedUnit.content)).map Except.ok := by
    intro allowed prepared after done
    rw [List.map_map, ← List.forall₂_eq_eq_eq, List.forall₂_map_left_iff, List.forall₂_map_right_iff]
    refine done.fits.imp fun declaration unit ⟨member, fits⟩ => ?_
    obtain ⟨alone, served, same⟩ := fits.alone apart member
    rw [served, Except.map, same, Function.comp_apply]
  exact List.map_injective_iff.mpr (fun _ _ => Except.ok.inj) ((settled done').symm.trans (settled done))

/-- Schedules do not differ in what is remembered after them. -/
theorem Prepares.after_unique (done : Prepares allowed declarations before (.ok prepared) after)
    (done' : Prepares allowed' declarations before (.ok prepared') after') : after' = after := by
  have contained : ∀ {allowed allowed' prepared prepared' after after'},
      Prepares allowed declarations before (.ok prepared) after →
      Prepares allowed' declarations before (.ok prepared') after' →
      ∀ key artifacts, after.memo.find? key = some artifacts → after'.memo.find? key = some artifacts := by
    intro allowed allowed' prepared prepared' after after' done done' key artifacts found
    rcases done.gained.known key artifacts found with earlier |
      ⟨new, declaration, member, feature, named, rfl, rendered⟩
    · exact done'.gained.extended.memo key artifacts earlier
    · have asked := mem_featuresOf_iff.mpr ⟨declaration, member, named⟩
      obtain ⟨artifacts', found'⟩ := done'.remembered asked
      rw [remembered?, done'.gained.extended.setting] at found'
      obtain ⟨cached, served⟩ := (done'.gained.known _ _ found').served apart asked
      have fresh : before.served feature = .ok (artifacts, false) := served_fresh_iff.mpr ⟨new, rendered⟩
      obtain ⟨rfl, -⟩ := Prod.mk.inj (Except.ok.inj (fresh.symm.trans served))
      exact found'
  have setting : after'.setting = after.setting :=
    done'.gained.extended.setting.trans done.gained.extended.setting.symm
  have memo : after'.memo = after.memo := by
    refine NameMap.eq_of_find? fun key => Option.ext fun artifacts => ?_
    exact ⟨contained done' done key artifacts, contained done done' key artifacts⟩
  cases after
  cases after'
  exact congrArg₂ Pipeline.mk setting memo

end Apart

end Prepares

end Scaffold.Pipeline
