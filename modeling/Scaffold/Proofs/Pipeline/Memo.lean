import Scaffold.Proofs.Digest
import Scaffold.Proofs.Except
import Scaffold.Proofs.Pipeline.Prepare
import Scaffold.Sink

/-! A pipeline serves the same units whatever it has been used for before. Every remembered list of
files was rendered for the setting and the feature that its key tells apart from all others. -/

namespace Scaffold

/-- A use of a pipeline. Sinks may fail, and each use may have its own. -/
inductive PipelineCall where
  | prepare (declaration : Declaration)
  | process {σ : Type} (sink : Sink σ) (start : σ) (declaration : Declaration)
  | run {σ : Type} (sink : Sink σ) (start : σ) (declarations : List Declaration)
  | clearCache
  | withValidation (mode : ValidationMode)
  | withFormat (format : Bool)

namespace PipelineCall

/-- The pipeline that a call leaves, also if the call fails. -/
def after (pipeline : Pipeline) : PipelineCall → Pipeline
  | prepare declaration => ((Pipeline.prepare declaration).perform pipeline).2.1
  | process sink start declaration =>
    ((Pipeline.process sink declaration).perform (pipeline, start)).2.1.1
  | run sink start declarations => ((Pipeline.run sink declarations).perform (pipeline, start)).2.1.1
  | clearCache => pipeline.clearCache
  | withValidation mode => pipeline.withValidation mode
  | withFormat format => pipeline.withFormat format

/-- The setting that a call leaves. -/
def settingAfter (setting : PipelineSetting) : PipelineCall → PipelineSetting
  | withValidation mode => { setting with validation := mode }
  | withFormat format => { setting with format }
  | prepare _ | process _ _ _ | run _ _ _ | clearCache => setting

def declarations : PipelineCall → List Declaration
  | prepare declaration => [declaration]
  | process _ _ declaration => [declaration]
  | run _ _ declarations => declarations
  | clearCache | withValidation _ | withFormat _ => []

/-- The features that a call asks for, each with the setting under which it does. -/
def lookups (setting : PipelineSetting) (call : PipelineCall) : List (PipelineSetting × String) :=
  call.declarations.filterMap fun declaration =>
    (setting.convention.feature? declaration).map fun feature => (setting, feature)

/-- The setting after some calls. -/
def settingAfterAll (setting : PipelineSetting) (calls : List PipelineCall) : PipelineSetting :=
  calls.foldl settingAfter setting

/-- All that some calls ask for. -/
def allLookups (setting : PipelineSetting) : List PipelineCall → List (PipelineSetting × String)
  | [] => []
  | call :: rest => call.lookups setting ++ allLookups (call.settingAfter setting) rest

/-- The texts of the keys that some calls and a preparation after them use. -/
def keysInPlay (setting : PipelineSetting) (calls : List PipelineCall) (declaration : Declaration) :
    List String :=
  (allLookups setting calls ++ (prepare declaration).lookups (settingAfterAll setting calls)).map
    fun (setting, feature) => setting.memoText feature

end PipelineCall

namespace Pipeline

/-- The pipeline after some calls. -/
def afterCalls (pipeline : Pipeline) (calls : List PipelineCall) : Pipeline :=
  calls.foldl PipelineCall.after pipeline

/-- What a preparation comes to, apart from whether the files were remembered. -/
def outcomeOf (pipeline : Pipeline) (declaration : Declaration) :
    Except Fault (Option (String × String × List Artifact)) :=
  ((prepare declaration).perform pipeline).1.map (Option.map PreparedUnit.content)

/-! ### Keys -/

theorem zero_split {first second rest rest' : List Char} (zero : '\x00' ∉ first)
    (zero' : '\x00' ∉ second) (same : first ++ '\x00' :: rest = second ++ '\x00' :: rest') :
    first = second ∧ rest = rest' := by
  rcases List.append_eq_append_iff.mp same with ⟨more, rfl, split⟩ | ⟨more, rfl, split⟩
  · cases more with
    | nil => simpa using split
    | cons c more =>
      obtain ⟨rfl, -⟩ := List.cons.inj split
      exact absurd (by simp) zero'
  · cases more with
    | nil => simpa using split.symm
    | cons c more =>
      obtain ⟨rfl, -⟩ := List.cons.inj split
      exact absurd (by simp) zero

/-- Under one renderer the text of a key tells modes, layout and features apart. -/
theorem memoText_injective {setting setting' : PipelineSetting} {feature feature' : String}
    (renderer : setting.renderer = setting'.renderer)
    (same : setting.memoText feature = setting'.memoText feature') :
    setting.validation = setting'.validation ∧ setting.format = setting'.format ∧
      feature = feature' := by
  have modes : ∀ mode : ValidationMode, '\x00' ∉ mode.text.toList := by
    intro mode
    cases mode <;> decide
  have flags : ∀ flag : Bool, '\x00' ∉ (if flag then "true" else "false").toList := by decide
  have letters := congrArg String.toList same
  simp only [PipelineSetting.memoText, renderer, String.intercalate_cons_cons,
    String.intercalate_singleton, String.toList_append, List.append_assoc,
    List.append_cancel_left_eq] at letters
  change _ ++ '\x00' :: _ = _ ++ '\x00' :: _ at letters
  obtain ⟨mode, letters⟩ := zero_split (modes _) (modes _) letters
  obtain ⟨flag, letters⟩ := zero_split (flags _) (flags _) letters
  refine ⟨?_, ?_, String.toList_inj.mp letters⟩
  · cases first : setting.validation <;> cases second : setting'.validation <;>
      simp_all [ValidationMode.text]
  · cases first : setting.format <;> cases second : setting'.format <;> simp_all

/-! ### What calls leave -/

theorem after_process {σ : Type} (sink : Sink σ) (start : σ) (declaration : Declaration)
    (pipeline : Pipeline) :
    PipelineCall.after pipeline (.process sink start declaration) = pipeline.afterUnit declaration := by
  have rest : ∀ prepared : Option PreparedUnit, Task.Keeps (Prod.fst : Pipeline × σ → Pipeline)
      (do
        prepared.forM fun unit => Task.onSecond (emitUnit sink unit)
        return prepared : Task Fault (Pipeline × σ) (Option PreparedUnit)) := by
    intro prepared
    refine Task.Keeps.bind ?_ fun _ => Task.keeps_pure _ _
    cases prepared with
    | none => exact Task.keeps_pure _ _
    | some unit => exact Task.keeps_onSecond _
  have prepared : (Task.onFirst (prepare declaration)).Ends (pipeline, start) _ (_, start) :=
    (prepare_ends declaration pipeline).onFirst
  obtain ⟨report, ran⟩ := prepared []
  exact (Task.part_bind rest ⟨(pipeline, start), []⟩).trans
    (congrArg (fun ending => ending.2.state.1) ran)

theorem after_run {σ : Type} (sink : Sink σ) (start : σ) (declarations : List Declaration)
    (pipeline : Pipeline) :
    PipelineCall.after pipeline (.run sink start declarations) =
      ((declarations.mapM prepare).perform pipeline).2.1 := by
  have rest : ∀ prepared : List (Option PreparedUnit),
      Task.Keeps (Prod.fst : Pipeline × σ → Pipeline)
        (Task.onSecond (deliver sink declarations.length prepared) :
          Task Fault (Pipeline × σ) GenerationReport) := fun _ => Task.keeps_onSecond _
  obtain ⟨result, after, ends, -⟩ := mapM_prepare_ends declarations pipeline
  have prepared : (Task.onFirst (declarations.mapM prepare)).Ends (pipeline, start) _ (_, start) :=
    ends.onFirst
  obtain ⟨report, ran⟩ := prepared []
  obtain ⟨reports, performed⟩ := ends.perform
  rw [performed]
  exact (Task.part_bind rest ⟨(pipeline, start), []⟩).trans
    (congrArg (fun ending => ending.2.state.1) ran)

/-- A call prepares its declarations, or it clears the memo, or it changes the setting. -/
theorem after_cases (pipeline : Pipeline) (call : PipelineCall) :
    (call.settingAfter pipeline.setting = pipeline.setting ∧
      ∀ keeps : Pipeline → Prop, keeps pipeline →
        (∀ declaration ∈ call.declarations, ∀ middle, keeps middle →
          keeps (middle.afterUnit declaration)) → keeps (call.after pipeline)) ∨
      call = .clearCache ∨
      ∃ setting, call.settingAfter pipeline.setting = setting ∧
        call.after pipeline = { pipeline with setting } := by
  cases call with
  | prepare declaration =>
    refine .inl ⟨rfl, fun keeps holds step => ?_⟩
    obtain ⟨reports, performed⟩ := (prepare_ends declaration pipeline).perform
    simp only [PipelineCall.after, performed]
    exact step declaration (by simp [PipelineCall.declarations]) pipeline holds
  | process sink start declaration =>
    refine .inl ⟨rfl, fun keeps holds step => ?_⟩
    rw [after_process]
    exact step declaration (by simp [PipelineCall.declarations]) pipeline holds
  | run sink start declarations =>
    refine .inl ⟨rfl, fun keeps holds step => ?_⟩
    rw [after_run]
    obtain ⟨result, after, ends, kept⟩ := mapM_prepare_ends declarations pipeline
    obtain ⟨reports, performed⟩ := ends.perform
    simp only [performed]
    exact kept keeps holds step
  | clearCache => exact .inr (.inl rfl)
  | withValidation mode => exact .inr (.inr ⟨_, rfl, rfl⟩)
  | withFormat format => exact .inr (.inr ⟨_, rfl, rfl⟩)

theorem setting_after (pipeline : Pipeline) (call : PipelineCall) :
    (call.after pipeline).setting = call.settingAfter pipeline.setting := by
  obtain ⟨same, kept⟩ | rfl | ⟨setting, same, left⟩ := after_cases pipeline call
  · rw [same]
    refine kept (fun middle => middle.setting = pipeline.setting) rfl ?_
    intro declaration _ middle same
    simpa using same
  · rfl
  · rw [same, left]

/-! ### Where remembered files come from -/

/-- All that is remembered was rendered for something that was asked for. -/
def Traced (asked : List (PipelineSetting × String)) (pipeline : Pipeline) : Prop :=
  ∀ key artifacts, pipeline.memo.find? key = some artifacts →
    ∃ setting feature, (setting, feature) ∈ asked ∧ key = setting.memoKey feature ∧
      setting.rendered feature = .ok artifacts

theorem Traced.afterUnit {asked : List (PipelineSetting × String)} {pipeline : Pipeline}
    (traced : pipeline.Traced asked) {declaration : Declaration}
    (listed : ∀ feature, pipeline.setting.convention.feature? declaration = some feature →
      (pipeline.setting, feature) ∈ asked) : (pipeline.afterUnit declaration).Traced asked := by
  intro key artifacts found
  rcases find?_afterUnit found with before | ⟨feature, named, same, rendered⟩
  · exact traced key artifacts before
  · exact ⟨pipeline.setting, feature, listed feature named, same, rendered⟩

theorem Traced.after {asked : List (PipelineSetting × String)} {pipeline : Pipeline}
    (traced : pipeline.Traced asked) (call : PipelineCall) :
    (call.after pipeline).Traced (asked ++ call.lookups pipeline.setting) := by
  have widened : pipeline.Traced (asked ++ call.lookups pipeline.setting) := by
    intro key artifacts found
    obtain ⟨setting, feature, member, origin⟩ := traced key artifacts found
    exact ⟨setting, feature, List.mem_append_left _ member, origin⟩
  obtain ⟨-, kept⟩ | rfl | ⟨setting, -, left⟩ := after_cases pipeline call
  · -- Failed calls count too: the units before the failure stay remembered.
    refine (kept (fun middle => middle.setting = pipeline.setting ∧
      middle.Traced (asked ++ call.lookups pipeline.setting)) ⟨rfl, widened⟩ ?_).2
    intro declaration member middle ⟨same, holds⟩
    refine ⟨by simpa using same, holds.afterUnit fun feature named => List.mem_append_right _ ?_⟩
    rw [same] at named ⊢
    exact List.mem_filterMap.mpr ⟨declaration, member, by simp [named]⟩
  · intro key artifacts found
    simp [PipelineCall.after, clearCache] at found
  · rw [left]
    exact widened

/-- What a history leaves, for any requests that were made before it. -/
theorem Traced.afterCalls {asked : List (PipelineSetting × String)} {pipeline : Pipeline}
    (traced : pipeline.Traced asked) (calls : List PipelineCall) :
    (pipeline.afterCalls calls).Traced (asked ++ PipelineCall.allLookups pipeline.setting calls) := by
  induction calls generalizing pipeline asked with
  | nil => simpa [Pipeline.afterCalls, PipelineCall.allLookups] using traced
  | cons call rest ih =>
    have last := ih (traced.after call)
    rw [setting_after, List.append_assoc] at last
    exact last

theorem setting_afterCalls (pipeline : Pipeline) (calls : List PipelineCall) :
    (pipeline.afterCalls calls).setting = PipelineCall.settingAfterAll pipeline.setting calls := by
  induction calls generalizing pipeline with
  | nil => rfl
  | cons call rest ih =>
    have last := ih (call.after pipeline)
    rw [setting_after] at last
    exact last

end Pipeline

namespace PipelineCall

theorem settingAfter_spec (setting : PipelineSetting) (call : PipelineCall) :
    ∃ mode format, call.settingAfter setting = { setting with validation := mode, format } := by
  cases call <;> exact ⟨_, _, rfl⟩

/-- A history changes nothing but the mode and the layout flag. -/
theorem settingAfterAll_spec (setting : PipelineSetting) (calls : List PipelineCall) :
    ∃ mode format, settingAfterAll setting calls = { setting with validation := mode, format } := by
  induction calls generalizing setting with
  | nil => exact ⟨_, _, rfl⟩
  | cons call rest ih =>
    obtain ⟨mode, format, next⟩ := settingAfter_spec setting call
    obtain ⟨mode', format', last⟩ := ih (call.settingAfter setting)
    refine ⟨mode', format', ?_⟩
    rw [next] at last
    simpa [settingAfterAll, next] using last

theorem allLookups_spec {setting asker : PipelineSetting} {feature : String}
    {calls : List PipelineCall} (member : (asker, feature) ∈ allLookups setting calls) :
    ∃ mode format, asker = { setting with validation := mode, format } := by
  induction calls generalizing setting with
  | nil => simp [allLookups] at member
  | cons call rest ih =>
    rcases List.mem_append.mp member with here | later
    · obtain ⟨declaration, -, made⟩ := List.mem_filterMap.mp here
      obtain ⟨_, -, made⟩ := Option.map_eq_some_iff.mp made
      obtain ⟨rfl, -⟩ := Prod.mk.inj made
      exact ⟨_, _, rfl⟩
    · obtain ⟨mode, format, next⟩ := settingAfter_spec setting call
      obtain ⟨mode', format', same⟩ := ih later
      refine ⟨mode', format', ?_⟩
      rw [same, next]

end PipelineCall

namespace Pipeline

theorem outcomeOf_none {pipeline : Pipeline} {declaration : Declaration}
    (named : pipeline.setting.convention.feature? declaration = none) :
    pipeline.outcomeOf declaration = .ok none := by
  rw [outcomeOf, prepare_result, unitOf, named]
  rfl

theorem outcomeOf_some {pipeline : Pipeline} {declaration : Declaration} {feature : String}
    (named : pipeline.setting.convention.feature? declaration = some feature) :
    pipeline.outcomeOf declaration =
      (pipeline.served feature).map fun (artifacts, _) => some (declaration.name, feature, artifacts) := by
  rw [outcomeOf, prepare_result, unitOf, named]
  dsimp only
  cases pipeline.served feature <;> rfl

theorem setting_ofSetting (setting : PipelineSetting) : (ofSetting setting).setting = setting := rfl

/-- No call changes what is rendered. -/
theorem renderer_afterCalls (setting : PipelineSetting) (calls : List PipelineCall) :
    ((ofSetting setting).afterCalls calls).setting.renderer = setting.renderer := by
  obtain ⟨mode, format, spelled⟩ := PipelineCall.settingAfterAll_spec setting calls
  rw [setting_afterCalls, setting_ofSetting, spelled]

/-- All that is remembered after some calls was rendered for something that they asked for. -/
theorem traced_after_calls (setting : PipelineSetting) (calls : List PipelineCall) :
    ((ofSetting setting).afterCalls calls).Traced (PipelineCall.allLookups setting calls) := by
  have nothing : (ofSetting setting).Traced [] := by
    intro key artifacts found
    simp [ofSetting] at found
  have traced := nothing.afterCalls calls
  rwa [List.nil_append, setting_ofSetting] at traced

theorem served_ofSetting (setting : PipelineSetting) (feature : String) :
    (ofSetting setting).served feature =
      (setting.rendered feature).map fun artifacts => (artifacts, false) := rfl

/-- Files that are remembered for a feature are those of that feature under the present setting, and
were asked for under it, if no two keys in play share a digest. -/
theorem remembered_after_calls {setting now : PipelineSetting} {calls : List PipelineCall}
    {texts : List String} {feature : String} {artifacts : List Artifact}
    (distinct : ∀ first ∈ texts, ∀ second ∈ texts,
      Digest.Sha256.hexOfText first = Digest.Sha256.hexOfText second → first = second)
    (earlier : ∀ asked ∈ PipelineCall.allLookups setting calls, asked.1.memoText asked.2 ∈ texts)
    (present : now.memoText feature ∈ texts)
    (settled : PipelineCall.settingAfterAll setting calls = now)
    (found : ((ofSetting setting).afterCalls calls).remembered? feature = some artifacts) :
    (now, feature) ∈ PipelineCall.allLookups setting calls ∧ now.rendered feature = .ok artifacts := by
  obtain ⟨asker, feature', asked, sameKey, rendered⟩ := traced_after_calls setting calls _ artifacts found
  rw [setting_afterCalls, setting_ofSetting, settled, PipelineSetting.memoKey_eq,
    PipelineSetting.memoKey_eq] at sameKey
  have sameText := distinct _ present _ (earlier _ asked) sameKey
  obtain ⟨mode, format, asker_eq⟩ := PipelineCall.allLookups_spec asked
  obtain ⟨mode', format', spelled⟩ := PipelineCall.settingAfterAll_spec setting calls
  have now_eq := settled.symm.trans spelled
  have sameRenderer : now.renderer = asker.renderer := by rw [now_eq, asker_eq]
  obtain ⟨sameMode, sameFormat, rfl⟩ := memoText_injective sameRenderer sameText
  have same : asker = now := by
    simp only [now_eq, asker_eq] at sameMode sameFormat
    rw [now_eq, asker_eq, sameMode, sameFormat]
  rw [← same]
  exact ⟨asked, rendered⟩

/-- A pipeline that remembers only what it would render prepares the same as a fresh one. -/
theorem outcomeOf_eq_fresh {pipeline : Pipeline} {now : PipelineSetting} {declaration : Declaration}
    (current : pipeline.setting = now)
    (faithful : ∀ feature artifacts, now.convention.feature? declaration = some feature →
      pipeline.remembered? feature = some artifacts → now.rendered feature = .ok artifacts) :
    pipeline.outcomeOf declaration = (ofSetting now).outcomeOf declaration := by
  subst current
  cases named : pipeline.setting.convention.feature? declaration with
  | none =>
    have named' : (ofSetting pipeline.setting).setting.convention.feature? declaration = none := named
    rw [outcomeOf_none named, outcomeOf_none named']
  | some feature =>
    have named' : (ofSetting pipeline.setting).setting.convention.feature? declaration =
      some feature := named
    rw [outcomeOf_some named, outcomeOf_some named', served_ofSetting, served]
    cases found : pipeline.remembered? feature with
    | some artifacts =>
      rw [faithful feature artifacts named found]
      rfl
    | none => rfl

theorem remembered_of_fromCache {pipeline : Pipeline} {declaration : Declaration} {unit : PreparedUnit}
    (prepared : ((prepare declaration).perform pipeline).1 = .ok (some unit))
    (cached : unit.fromCache = true) :
    pipeline.setting.convention.feature? declaration = some unit.feature ∧
      pipeline.remembered? unit.feature = some unit.artifacts := by
  rw [prepare_result] at prepared
  obtain ⟨-, named, served⟩ := unitOf_eq_some_iff.mp prepared
  exact ⟨named, served_remembered_iff.mp (cached ▸ served)⟩

section Served

variable {setting : PipelineSetting} {calls : List PipelineCall} {declaration : Declaration}
  (distinct : ∀ first ∈ PipelineCall.keysInPlay setting calls declaration,
    ∀ second ∈ PipelineCall.keysInPlay setting calls declaration,
      Digest.Sha256.hexOfText first = Digest.Sha256.hexOfText second → first = second)

include distinct

theorem remembered_for_declaration {now : PipelineSetting} {feature : String}
    {artifacts : List Artifact} (settled : PipelineCall.settingAfterAll setting calls = now)
    (named : now.convention.feature? declaration = some feature)
    (found : ((ofSetting setting).afterCalls calls).remembered? feature = some artifacts) :
    (now, feature) ∈ PipelineCall.allLookups setting calls ∧ now.rendered feature = .ok artifacts := by
  refine remembered_after_calls distinct (fun asked member => ?_) ?_ settled found
  · exact List.mem_map.mpr ⟨asked, List.mem_append_left _ member, rfl⟩
  · refine List.mem_map.mpr ⟨(now, feature), List.mem_append_right _ ?_, rfl⟩
    rw [settled]
    exact List.mem_filterMap.mpr ⟨declaration, List.mem_singleton.mpr rfl, by rw [named]; rfl⟩

/-- What a pipeline prepares after some calls is what a fresh one with its setting prepares. -/
theorem outcomeOf_after_calls :
    ∃ now : PipelineSetting, ((ofSetting setting).afterCalls calls).setting = now ∧
      PipelineCall.settingAfterAll setting calls = now ∧
      now.convention = setting.convention ∧ now.renderer = setting.renderer ∧
      ((ofSetting setting).afterCalls calls).outcomeOf declaration =
        (ofSetting now).outcomeOf declaration := by
  obtain ⟨now, settled⟩ : ∃ now, PipelineCall.settingAfterAll setting calls = now := ⟨_, rfl⟩
  have current : ((ofSetting setting).afterCalls calls).setting = now :=
    (setting_afterCalls (ofSetting setting) calls).trans settled
  refine ⟨now, current, settled, ?_, ?_, ?_⟩
  · obtain ⟨mode, format, spelled⟩ := PipelineCall.settingAfterAll_spec setting calls
    rw [← settled, spelled]
  · obtain ⟨mode, format, spelled⟩ := PipelineCall.settingAfterAll_spec setting calls
    rw [← settled, spelled]
  · have served := fun feature artifacts => @remembered_for_declaration _ _ _ distinct _ feature artifacts settled
    generalize (ofSetting setting).afterCalls calls = pipeline at current served ⊢
    exact outcomeOf_eq_fresh current fun feature artifacts named found =>
      (served feature artifacts named found).2

end Served

/-- After any calls, successful or not, a pipeline prepares what a fresh one with its setting would
prepare, and serves from its memo only what was asked for under that very setting. -/
theorem prepare_after_calls (setting : PipelineSetting) (calls : List PipelineCall)
    (declaration : Declaration)
    (distinct : ∀ first ∈ PipelineCall.keysInPlay setting calls declaration,
      ∀ second ∈ PipelineCall.keysInPlay setting calls declaration,
        Digest.Sha256.hexOfText first = Digest.Sha256.hexOfText second → first = second) :
    ∃ now : PipelineSetting, ((ofSetting setting).afterCalls calls).setting = now ∧
      now.convention = setting.convention ∧ now.renderer = setting.renderer ∧
      ((ofSetting setting).afterCalls calls).outcomeOf declaration =
        (ofSetting now).outcomeOf declaration ∧
      ∀ unit, ((prepare declaration).perform ((ofSetting setting).afterCalls calls)).1 =
          .ok (some unit) → unit.fromCache = true →
        (now, unit.feature) ∈ PipelineCall.allLookups setting calls := by
  obtain ⟨now, current, settled, convention, renderer, same⟩ := outcomeOf_after_calls distinct
  refine ⟨now, current, convention, renderer, same, fun unit prepared cached => ?_⟩
  obtain ⟨named, found⟩ := remembered_of_fromCache prepared cached
  rw [current] at named
  exact (remembered_for_declaration distinct settled named found).1

theorem prepare_after_deny :
    let order : Declaration := ⟨.struct, "OrderAggregate", none⟩
    let setting : PipelineSetting := ⟨.default, .constant "x.rs" "mod x;", .off, false⟩
    let calls : List PipelineCall := [.run MemorySink.sink .empty [order], .withValidation .deny]
    ((ofSetting setting).afterCalls calls).outcomeOf order =
        (ofSetting { setting with validation := .deny }).outcomeOf order ∧
      ((ofSetting setting).afterCalls calls).outcomeOf order =
        .ok (some ("OrderAggregate", "Order", [⟨"x.rs", "mod x;"⟩])) := by
  intro order setting calls
  obtain ⟨now, current, -, -, same, -⟩ := prepare_after_calls setting calls order (by
    simp only [Digest.Sha256.hexOfText_eq_iff]
    decide +kernel)
  have fresh : (ofSetting { setting with validation := .deny }).outcomeOf order =
      .ok (some ("OrderAggregate", "Order", [⟨"x.rs", "mod x;"⟩])) :=
    Except.toOption_eq_some_iff.mp (by decide +kernel)
  rw [same, ← current, setting_afterCalls]
  exact ⟨rfl, fresh⟩

end Pipeline

end Scaffold
