import Scaffold.Pipeline
import Scaffold.Proofs.NameMap
import Scaffold.Proofs.Task

/-! Preparation without its reports: what a feature renders to under a setting, what `prepare` ends
in, and what a sequence of preparations keeps. -/

namespace Scaffold

/-- What is wrong with a text, warnings left out. -/
def Validation.errors (code : String) : List Issue := (issues defaultLimit code).filter Issue.isError

/-- A unit apart from where it came from. -/
def PreparedUnit.content (unit : PreparedUnit) : String × String × List Artifact :=
  (unit.trigger, unit.feature, unit.artifacts)

/-- A renderer that makes one file, the same for every feature. -/
def Renderer.constant (fileName text : String) : Renderer :=
  ⟨[⟨"unit", text, fileName⟩], ⟨[⟨"unit", text, [.text text], none, [], [], []⟩,
    ⟨"unit#file_name", fileName, [.text fileName], none, [], [], []⟩]⟩⟩

namespace PipelineSetting

/-- Whether the mode lets a rendered file pass. -/
def judge (setting : PipelineSetting) (artifact : Artifact) : Except Fault Unit :=
  if setting.validation = .deny ∧ Validation.errors artifact.source ≠ [] then
    .error (.invalidSource artifact.fileName (Validation.errors artifact.source))
  else .ok ()

/-- A rendered file as it is emitted, if the mode lets it pass and it can be laid out. -/
def finish (setting : PipelineSetting) (artifact : Artifact) : Except Fault Artifact :=
  (setting.judge artifact).bind fun _ => setting.formatted artifact

/-- The files of a feature, rendered anew. -/
def rendered (setting : PipelineSetting) (feature : String) : Except Fault (List Artifact) :=
  (setting.renderer.render feature).bind fun artifacts => artifacts.mapM setting.finish

/-- All that the files of a feature depend on, as the text whose digest `memoKey` is. -/
def memoText (setting : PipelineSetting) (feature : String) : String :=
  "\x00".intercalate [setting.renderer.fingerprint, setting.validation.text,
    if setting.format then "true" else "false", feature]

theorem memoKey_eq (setting : PipelineSetting) (feature : String) :
    setting.memoKey feature = Digest.Sha256.hexOfText (setting.memoText feature) := rfl

theorem validate_ends (setting : PipelineSetting) (artifact : Artifact) (pipeline : Pipeline) :
    (setting.validate artifact).Ends pipeline (setting.judge artifact) pipeline := by
  have reported : ∀ state : Pipeline, Task.Ends
      (forIn (Validation.issues Validation.defaultLimit artifact.source) PUnit.unit fun issue _ => do
        Task.warn (.finding artifact.fileName issue)
        pure (ForInStep.yield PUnit.unit) : Task Fault Pipeline PUnit) state (.ok ⟨⟩) state :=
    Task.ends_warnings fun issue state => (Task.ends_warn _ state).bind (Task.ends_pure _ _)
  unfold validate judge
  split
  · rename_i off
    simp only [off, reduceCtorEq, false_and, if_false]
    exact Task.ends_pure _ _
  · refine (reported pipeline).bind ?_
    change Task.Ends (if setting.validation = .deny ∧ Validation.errors artifact.source ≠ [] then
      throw (Fault.invalidSource artifact.fileName (Validation.errors artifact.source))
      else pure ()) pipeline _ pipeline
    split
    · exact Task.ends_throw _ _
    · exact Task.ends_pure _ _

theorem finish_eq_ok_iff {setting : PipelineSetting} {before after : Artifact} :
    setting.finish before = .ok after ↔
      setting.judge before = .ok () ∧ setting.formatted before = .ok after := by
  unfold finish
  cases setting.judge before <;> simp [Except.bind]

theorem finish_eq_error_iff {setting : PipelineSetting} {artifact : Artifact} {fault : Fault} :
    setting.finish artifact = .error fault ↔ setting.judge artifact = .error fault ∨
      setting.judge artifact = .ok () ∧ setting.formatted artifact = .error fault := by
  unfold finish
  cases setting.judge artifact <;> simp [Except.bind]

theorem judge_eq_error_iff {setting : PipelineSetting} {artifact : Artifact} {fault : Fault} :
    setting.judge artifact = .error fault ↔
      setting.validation = .deny ∧ Validation.errors artifact.source ≠ [] ∧
        fault = .invalidSource artifact.fileName (Validation.errors artifact.source) := by
  unfold judge
  split
  · rename_i refused
    simp [refused, eq_comm]
  · rename_i passed
    simp only [reduceCtorEq, false_iff]
    exact fun ⟨deny, wrong, _⟩ => passed ⟨deny, wrong⟩

/-- Layout fails at a source file with something in it that has no layout. -/
theorem formatted_eq_error_iff {setting : PipelineSetting} {artifact : Artifact} {fault : Fault} :
    setting.formatted artifact = .error fault ↔
      setting.format = true ∧ Rust.format artifact.source = .stuck ∧ fault = .panicked := by
  unfold formatted
  cases setting.format with
  | false => simp
  | true => cases Rust.format artifact.source <;> simp [eq_comm]

/-- Layout changes no names. -/
theorem fileName_of_formatted {setting : PipelineSetting} {before after : Artifact}
    (formatted : setting.formatted before = .ok after) : after.fileName = before.fileName := by
  unfold PipelineSetting.formatted at formatted
  split at formatted
  · split at formatted
    · rw [← Except.ok.inj formatted]
    · rw [Except.ok.inj formatted]
    · contradiction
  · rw [Except.ok.inj formatted]

theorem postProcess_ends (setting : PipelineSetting) (artifact : Artifact) (pipeline : Pipeline) :
    (setting.postProcess artifact).Ends pipeline (setting.finish artifact) pipeline := by
  have validated := setting.validate_ends artifact pipeline
  unfold postProcess finish
  cases judged : setting.judge artifact with
  | error fault =>
    rw [judged] at validated
    exact validated.bind_error
  | ok _ =>
    rw [judged] at validated
    exact validated.bind (Task.ends_ofExcept _ _)

theorem mapM_postProcess_ends (setting : PipelineSetting) (artifacts : List Artifact)
    (pipeline : Pipeline) :
    (artifacts.mapM setting.postProcess).Ends pipeline (artifacts.mapM setting.finish) pipeline := by
  induction artifacts with
  | nil => exact Task.ends_pure _ _
  | cons artifact rest ih =>
    have first := setting.postProcess_ends artifact pipeline
    rw [List.mapM_cons, List.mapM_cons]
    cases finished : setting.finish artifact with
    | error fault =>
      rw [finished] at first
      exact first.bind_error
    | ok artifact' =>
      rw [finished] at first
      refine first.bind ?_
      cases others : rest.mapM setting.finish with
      | error fault =>
        rw [others] at ih
        exact ih.bind_error
      | ok artifacts =>
        rw [others] at ih
        exact ih.bind (Task.ends_pure _ _)

end PipelineSetting

namespace Pipeline

/-- The pipeline with the files of a feature remembered. -/
def remember (pipeline : Pipeline) (feature : String) (artifacts : List Artifact) : Pipeline :=
  { pipeline with memo := pipeline.memo.insert (pipeline.setting.memoKey feature) artifacts }

/-- What is remembered for a feature. -/
def remembered? (pipeline : Pipeline) (feature : String) : Option (List Artifact) :=
  pipeline.memo.find? (pipeline.setting.memoKey feature)

/-- The files of a feature, with whether they were remembered. -/
def served (pipeline : Pipeline) (feature : String) : Except Fault (List Artifact × Bool) :=
  match pipeline.remembered? feature with
  | some artifacts => .ok (artifacts, true)
  | none => (pipeline.setting.rendered feature).map fun artifacts => (artifacts, false)

/-- The unit of a declaration. -/
def unitOf (pipeline : Pipeline) (declaration : Declaration) : Except Fault (Option PreparedUnit) :=
  match pipeline.setting.convention.feature? declaration with
  | none => .ok none
  | some feature => (pipeline.served feature).map fun (artifacts, fromCache) =>
      some ⟨declaration.name, feature, artifacts, fromCache⟩

/-- The pipeline after the preparation of a declaration. -/
def afterUnit (pipeline : Pipeline) (declaration : Declaration) : Pipeline :=
  match pipeline.setting.convention.feature? declaration with
  | none => pipeline
  | some feature =>
    match pipeline.served feature with
    | .ok (artifacts, false) => pipeline.remember feature artifacts
    | _ => pipeline

@[simp] theorem setting_afterUnit (pipeline : Pipeline) (declaration : Declaration) :
    (pipeline.afterUnit declaration).setting = pipeline.setting := by
  unfold afterUnit
  split
  · rfl
  · split <;> rfl

theorem served_remembered_iff {pipeline : Pipeline} {feature : String} {artifacts : List Artifact} :
    pipeline.served feature = .ok (artifacts, true) ↔ pipeline.remembered? feature = some artifacts := by
  unfold served
  cases pipeline.remembered? feature with
  | some kept => simp
  | none => cases pipeline.setting.rendered feature <;> simp [Except.map]

theorem served_fresh_iff {pipeline : Pipeline} {feature : String} {artifacts : List Artifact} :
    pipeline.served feature = .ok (artifacts, false) ↔
      pipeline.remembered? feature = none ∧ pipeline.setting.rendered feature = .ok artifacts := by
  unfold served
  cases pipeline.remembered? feature with
  | some kept => simp
  | none => cases pipeline.setting.rendered feature <;> simp [Except.map]

theorem served_eq_error_iff {pipeline : Pipeline} {feature : String} {fault : Fault} :
    pipeline.served feature = .error fault ↔
      pipeline.remembered? feature = none ∧ pipeline.setting.rendered feature = .error fault := by
  unfold served
  cases pipeline.remembered? feature with
  | some kept => simp
  | none => cases pipeline.setting.rendered feature <;> simp [Except.map]

theorem unitOf_eq_some_iff {pipeline : Pipeline} {declaration : Declaration} {unit : PreparedUnit} :
    pipeline.unitOf declaration = .ok (some unit) ↔ unit.trigger = declaration.name ∧
      pipeline.setting.convention.feature? declaration = some unit.feature ∧
      pipeline.served unit.feature = .ok (unit.artifacts, unit.fromCache) := by
  unfold unitOf
  constructor
  · intro prepared
    cases named : pipeline.setting.convention.feature? declaration with
    | none => simp [named] at prepared
    | some feature =>
      rw [named] at prepared
      cases served : pipeline.served feature with
      | error fault => simp [served, Except.map] at prepared
      | ok found =>
        simp only [served, Except.map] at prepared
        obtain rfl := Option.some.inj (Except.ok.inj prepared)
        exact ⟨rfl, rfl, served⟩
  · rintro ⟨trigger, named, served⟩
    simp only [named, served, Except.map, ← trigger]

theorem unitOf_eq_none_iff {pipeline : Pipeline} {declaration : Declaration} :
    pipeline.unitOf declaration = .ok none ↔
      pipeline.setting.convention.feature? declaration = none := by
  unfold unitOf
  cases pipeline.setting.convention.feature? declaration with
  | none => simp
  | some feature => cases found : pipeline.served feature <;> simp [Except.map, found]

/-- The pipeline stays as it is, or the files of the feature are new and remembered now. -/
theorem afterUnit_cases (pipeline : Pipeline) (declaration : Declaration) :
    pipeline.afterUnit declaration = pipeline ∨ ∃ feature artifacts,
      pipeline.setting.convention.feature? declaration = some feature ∧
      pipeline.remembered? feature = none ∧ pipeline.setting.rendered feature = .ok artifacts ∧
      pipeline.afterUnit declaration = pipeline.remember feature artifacts := by
  cases named : pipeline.setting.convention.feature? declaration with
  | none => exact .inl (by simp only [afterUnit, named])
  | some feature =>
    cases found : pipeline.served feature with
    | error fault => exact .inl (by simp only [afterUnit, named, found])
    | ok files =>
      obtain ⟨artifacts, fromCache⟩ := files
      cases fromCache with
      | true => exact .inl (by simp only [afterUnit, named, found])
      | false =>
        obtain ⟨new, rendered⟩ := served_fresh_iff.mp found
        exact .inr ⟨feature, artifacts, rfl, new, rendered, by simp only [afterUnit, named, found]⟩

/-- The preparation of a declaration adds the files of its feature at most. -/
theorem find?_afterUnit {pipeline : Pipeline} {declaration : Declaration} {key : String}
    {artifacts : List Artifact}
    (found : (pipeline.afterUnit declaration).memo.find? key = some artifacts) :
    pipeline.memo.find? key = some artifacts ∨ ∃ feature,
      pipeline.setting.convention.feature? declaration = some feature ∧
      key = pipeline.setting.memoKey feature ∧ pipeline.setting.rendered feature = .ok artifacts := by
  rcases afterUnit_cases pipeline declaration with same | ⟨feature, fresh, named, -, rendered, kept⟩
  · exact .inl (same ▸ found)
  · rw [kept, remember, NameMap.find?_insert] at found
    split at found
    · rename_i same
      obtain rfl := Option.some.inj found
      exact .inr ⟨feature, named, same, rendered⟩
    · exact .inl found

theorem renderFresh_ends (feature : String) (pipeline : Pipeline) :
    (renderFresh feature).Ends pipeline (pipeline.setting.rendered feature)
      (match pipeline.setting.rendered feature with
        | .ok artifacts => pipeline.remember feature artifacts
        | .error _ => pipeline) := by
  refine (Task.ends_current pipeline).bind ?_
  have tried := Task.ends_ofExcept (pipeline.setting.renderer.render feature) pipeline
  unfold PipelineSetting.rendered
  cases found : pipeline.setting.renderer.render feature with
  | error fault =>
    rw [found] at tried
    dsimp only
    rw [found]
    exact tried.bind_error
  | ok artifacts =>
    rw [found] at tried
    have finished := pipeline.setting.mapM_postProcess_ends artifacts pipeline
    dsimp only [Except.bind]
    rw [found]
    refine tried.bind ?_
    cases passed : artifacts.mapM pipeline.setting.finish with
    | error fault =>
      rw [passed] at finished
      exact finished.bind_error
    | ok artifacts =>
      rw [passed] at finished
      exact finished.bind ((Task.ends_change _ _).bind (Task.ends_pure _ _))

theorem prepare_ends (declaration : Declaration) (pipeline : Pipeline) :
    (prepare declaration).Ends pipeline (pipeline.unitOf declaration)
      (pipeline.afterUnit declaration) := by
  refine (Task.ends_current pipeline).bind ?_
  unfold look unitOf afterUnit
  cases pipeline.setting.convention.feature? declaration with
  | none => exact Task.ends_pure _ _
  | some feature =>
    simp only [served, remembered?]
    cases pipeline.memo.find? (pipeline.setting.memoKey feature) with
    | some artifacts => exact Task.ends_pure _ _
    | none =>
      have fresh := renderFresh_ends feature pipeline
      cases found : pipeline.setting.rendered feature with
      | error fault =>
        rw [found] at fresh
        exact fresh.bind_error
      | ok artifacts =>
        rw [found] at fresh
        exact fresh.bind (Task.ends_pure _ _)

theorem prepare_result (declaration : Declaration) (pipeline : Pipeline) :
    ((prepare declaration).perform pipeline).1 = pipeline.unitOf declaration := by
  obtain ⟨reports, performed⟩ := (prepare_ends declaration pipeline).perform
  rw [performed]

/-- Whatever each preparation keeps, all of them together keep, also if one of them fails. -/
theorem mapM_prepare_ends (declarations : List Declaration) (pipeline : Pipeline) :
    ∃ result after, (declarations.mapM prepare).Ends pipeline result after ∧
      ∀ keeps : Pipeline → Prop, keeps pipeline →
        (∀ declaration ∈ declarations, ∀ middle, keeps middle → keeps (middle.afterUnit declaration)) →
        keeps after := by
  induction declarations generalizing pipeline with
  | nil => exact ⟨_, _, Task.ends_pure _ _, fun _ holds _ => holds⟩
  | cons declaration rest ih =>
    have first := prepare_ends declaration pipeline
    rw [List.mapM_cons]
    obtain ⟨result, after, others, kept⟩ := ih (pipeline.afterUnit declaration)
    cases prepared : pipeline.unitOf declaration with
    | error fault =>
      rw [prepared] at first
      exact ⟨_, _, first.bind_error, fun keeps holds step => step declaration (by simp) _ holds⟩
    | ok unit =>
      rw [prepared] at first
      have passes : ∀ keeps : Pipeline → Prop, keeps pipeline →
          (∀ other ∈ declaration :: rest, ∀ middle, keeps middle → keeps (middle.afterUnit other)) →
          keeps after := fun keeps holds step =>
        kept keeps (step declaration (by simp) _ holds)
          fun other member => step other (List.mem_cons_of_mem _ member)
      cases result with
      | error fault => exact ⟨_, _, first.bind others.bind_error, passes⟩
      | ok units => exact ⟨_, _, first.bind (others.bind (Task.ends_pure _ _)), passes⟩

end Pipeline

end Scaffold
