import Scaffold.Proofs.Pipeline.Memo
import Scaffold.Proofs.Template.Builtin

/-! The units of the built-in template. The convention cuts its suffix off the name of a trigger, and the
template puts the default suffix back. -/

namespace Scaffold

open Template

/-! ### Texts -/

/-- The name of a trigger is its feature with the suffix. -/
theorem Convention.feature?_of_isTrigger {convention : Convention} {declaration : Declaration}
    (trigger : convention.isTrigger declaration = true) : ∃ feature,
      convention.feature? declaration = some feature ∧
      declaration.name = feature ++ convention.suffix := by
  have ends := (Bool.and_eq_true_iff.mp trigger).2
  unfold stripSuffix? at ends
  by_cases suffix : convention.suffix.toList.isSuffixOf declaration.name.toList = true
  · obtain ⟨front, split⟩ := List.isSuffixOf_iff_suffix.mp suffix
    have stripped : convention.stripSuffix? declaration.name = some (String.ofList front) := by
      unfold stripSuffix?
      simp only [suffix, if_true]
      rw [← split]
      simp
    refine ⟨String.ofList front, ?_, ?_⟩
    · rw [feature?, if_pos trigger, featureName, stripped, Option.getD_some]
    · rw [← String.toList_inj, String.toList_append, String.toList_ofList, split]
  · simp [suffix] at ends

theorem Convention.name_of_feature? {convention : Convention} {declaration : Declaration}
    {feature : String} (named : convention.feature? declaration = some feature) :
    declaration.name = feature ++ convention.suffix := by
  have trigger : convention.isTrigger declaration = true := by
    unfold feature? at named
    split at named
    · assumption
    · contradiction
  obtain ⟨feature', named', spelled⟩ := feature?_of_isTrigger trigger
  rw [spelled, Option.some.inj (named.symm.trans named')]

/-- A text imports a type from two modules further out. -/
def Imports (text name : String) : Prop :=
  ∃ before after, text = before ++ ("use super::super::" ++ name ++ ";") ++ after

theorem imports_rendering (feature : String) :
    Imports (Builtin.rendering feature) (feature ++ Convention.defaultSuffix) := by
  obtain ⟨before, after, split⟩ := Builtin.rendering_imports feature
  refine ⟨before, after, ?_⟩
  rw [split]
  simp [Convention.defaultSuffix, String.append_assoc]

set_option maxRecDepth 10000 in
/-- Nothing that is rendered for a customer has an `R` with an `o` after it. -/
theorem isChain_customer :
    (Builtin.rendering "Customer").toList.IsChain fun c next => ¬(c = 'R' ∧ next = 'o') := by
  have of_letters : ∀ {letters : List Char},
      ((Builtin.fill "Customer".toList letters).IsChain fun c next => ¬(c = 'R' ∧ next = 'o')) →
      (Builtin.line "Customer" (String.ofList letters)).toList.IsChain
        fun c next => ¬(c = 'R' ∧ next = 'o') := by
    simp [Builtin.line]
  refine Builtin.isChain_lines (by simp) (by simp) ?_
  rw [List.forall_mem_map]
  unfold Builtin.sketch
  repeat (refine List.forall_mem_cons.mpr ⟨of_letters ?_, ?_⟩; · decide +kernel)
  exact List.forall_mem_nil _

namespace Pipeline

/-! ### Units -/

/-- The built-in template makes one file of a feature. -/
theorem rendered_builtin {setting : PipelineSetting}
    (builtin : Renderer.ofSpecsOrBuiltin [] = .ok setting.renderer) (feature : String) :
    setting.rendered feature = (setting.finish ⟨feature ++ ".g.rs", Builtin.rendering feature⟩).map
      fun artifact => [artifact] := by
  obtain ⟨renderer, made, renders⟩ := Builtin.renders
  obtain rfl := Except.ok.inj (builtin.symm.trans made)
  rw [PipelineSetting.rendered, renders, Except.bind, List.mapM_cons]
  cases setting.finish ⟨feature ++ ".g.rs", Builtin.rendering feature⟩ <;> rfl

/-- What a pipeline with the built-in template makes of a trigger that it has not seen. -/
theorem outcomeOf_builtin {setting : PipelineSetting}
    (builtin : Renderer.ofSpecsOrBuiltin [] = .ok setting.renderer) {declaration : Declaration}
    {feature : String} (named : setting.convention.feature? declaration = some feature) :
    (ofSetting setting).outcomeOf declaration =
      (setting.finish ⟨feature ++ ".g.rs", Builtin.rendering feature⟩).map
        fun artifact => some (declaration.name, feature, [artifact]) := by
  have named' : (ofSetting setting).setting.convention.feature? declaration = some feature := named
  rw [outcomeOf_some named', served_ofSetting, rendered_builtin builtin]
  cases setting.finish ⟨feature ++ ".g.rs", Builtin.rendering feature⟩ <;> rfl

/-- The unit of which an outcome tells. -/
theorem exists_unit {pipeline : Pipeline} {declaration : Declaration}
    {content : String × String × List Artifact}
    (outcome : pipeline.outcomeOf declaration = .ok (some content)) : ∃ unit,
      ((prepare declaration).perform pipeline).1 = .ok (some unit) ∧ unit.content = content := by
  unfold outcomeOf at outcome
  cases performed : ((prepare declaration).perform pipeline).1 with
  | error fault => simp [performed, Except.map] at outcome
  | ok unit =>
    cases unit with
    | none => simp [performed, Except.map] at outcome
    | some unit => exact ⟨unit, rfl, by simpa [performed, Except.map] using outcome⟩

/-- Without validation and layout a file is emitted as it was rendered. -/
theorem finish_plain (convention : Convention) (renderer : Renderer) (artifact : Artifact) :
    PipelineSetting.finish ⟨convention, renderer, .off, false⟩ artifact = .ok artifact := by
  simp [PipelineSetting.finish_eq_ok_iff, PipelineSetting.judge, PipelineSetting.formatted]

theorem keysInPlay_nil {setting : PipelineSetting} {declaration : Declaration} {feature : String}
    (named : setting.convention.feature? declaration = some feature) :
    PipelineCall.keysInPlay setting [] declaration = [setting.memoText feature] := by
  simp [PipelineCall.keysInPlay, PipelineCall.allLookups, PipelineCall.settingAfterAll,
    PipelineCall.lookups, PipelineCall.declarations, named]

/-- A file is emitted as it was rendered if layout is off, or if it is no source file. -/
theorem formatted_of_unchanged {setting : PipelineSetting} {artifact : Artifact}
    (unchanged : setting.format = true → Rust.format artifact.source = .unparsed) :
    setting.formatted artifact = .ok artifact := by
  unfold PipelineSetting.formatted
  split
  · rename_i wanted
    rw [unchanged wanted]
  · rfl

/-- After any calls a trigger has one file. Its text, before it is laid out, imports the feature with the
default suffix, and so imports the trigger itself if the suffix of the convention is the default one. -/
theorem trigger_imported {setting : PipelineSetting}
    (builtin : Renderer.ofSpecsOrBuiltin [] = .ok setting.renderer) (calls : List PipelineCall)
    {declaration : Declaration} (trigger : setting.convention.isTrigger declaration = true)
    (distinct : ∀ first ∈ PipelineCall.keysInPlay setting calls declaration,
      ∀ second ∈ PipelineCall.keysInPlay setting calls declaration,
        Digest.Sha256.hexOfText first = Digest.Sha256.hexOfText second → first = second) :
    ∃ now feature, ((ofSetting setting).afterCalls calls).setting = now ∧
      now.convention = setting.convention ∧ now.renderer = setting.renderer ∧
      declaration.name = feature ++ setting.convention.suffix ∧
      ((ofSetting setting).afterCalls calls).outcomeOf declaration =
        (now.finish ⟨feature ++ ".g.rs", Builtin.rendering feature⟩).map
          (fun artifact => some (declaration.name, feature, [artifact])) ∧
      ∀ unit, ((prepare declaration).perform ((ofSetting setting).afterCalls calls)).1 =
          .ok (some unit) →
        ∃ text artifact, unit.artifacts = [artifact] ∧
          now.formatted ⟨feature ++ ".g.rs", text⟩ = .ok artifact ∧
          ((now.format = true → Rust.format text = .unparsed) → artifact = ⟨feature ++ ".g.rs", text⟩) ∧
          Imports text (feature ++ Convention.defaultSuffix) ∧
          (setting.convention.suffix = Convention.defaultSuffix → Imports text declaration.name) := by
  obtain ⟨now, current, -, convention, renderer, same⟩ := outcomeOf_after_calls distinct
  obtain ⟨feature, named, spelled⟩ := Convention.feature?_of_isTrigger trigger
  have outcome : ((ofSetting setting).afterCalls calls).outcomeOf declaration =
      (now.finish ⟨feature ++ ".g.rs", Builtin.rendering feature⟩).map
        fun artifact => some (declaration.name, feature, [artifact]) :=
    same.trans (outcomeOf_builtin (renderer ▸ builtin) (convention ▸ named))
  refine ⟨now, feature, current, convention, renderer, spelled, outcome, ?_⟩
  intro unit prepared
  rw [outcomeOf, prepared] at outcome
  cases finished : now.finish ⟨feature ++ ".g.rs", Builtin.rendering feature⟩ with
  | error fault => simp [finished, Except.map] at outcome
  | ok artifact =>
    have laidOut := (PipelineSetting.finish_eq_ok_iff.mp finished).2
    have content : unit.content = (declaration.name, feature, [artifact]) := by
      simpa [finished, Except.map] using outcome
    refine ⟨Builtin.rendering feature, artifact, congrArg (fun content => content.2.2) content, laidOut,
      fun unchanged => ?_, imports_rendering feature, fun default => ?_⟩
    · exact Except.ok.inj (laidOut.symm.trans (formatted_of_unchanged unchanged))
    · rw [spelled, default]
      exact imports_rendering feature

theorem trigger_imported_order :
    let order : Declaration := ⟨.struct, "OrderAggregate", none⟩
    ∃ renderer, Renderer.ofSpecsOrBuiltin [] = .ok renderer ∧
      Convention.default.isTrigger order = true ∧
      ∃ text, (ofSetting ⟨.default, renderer, .off, false⟩).outcomeOf order =
        .ok (some ("OrderAggregate", "Order", [⟨"Order.g.rs", text⟩])) ∧ Imports text "OrderAggregate" := by
  intro order
  obtain ⟨renderer, made, -⟩ := Builtin.renders
  have trigger : Convention.default.isTrigger order = true := by decide +kernel
  obtain ⟨asked, named, -⟩ := Convention.feature?_of_isTrigger trigger
  have single := @keysInPlay_nil ⟨.default, renderer, .off, false⟩ order asked named
  obtain ⟨now, feature, current, -, -, spelled, outcome, imported⟩ :=
    @trigger_imported ⟨.default, renderer, .off, false⟩ made [] order trigger (by
      rw [single]
      intro first mem second mem' _
      rw [List.mem_singleton.mp mem, List.mem_singleton.mp mem'])
  obtain rfl : "Order" = feature := by
    have letters : "Order".toList ++ "Aggregate".toList = feature.toList ++ "Aggregate".toList := by
      simpa [order, Convention.default, Convention.defaultSuffix] using congrArg String.toList spelled
    exact String.toList_inj.mp (List.append_cancel_right letters)
  obtain rfl : _ = now := current
  have outcome : (ofSetting ⟨.default, renderer, .off, false⟩).outcomeOf order =
      .ok (some ("OrderAggregate", "Order", [⟨"Order.g.rs", Builtin.rendering "Order"⟩])) :=
    outcome.trans (congrArg _ (finish_plain _ _ _))
  obtain ⟨unit, prepared, content⟩ := exists_unit outcome
  obtain ⟨text, artifact, single, -, unchanged, -, imports⟩ := imported unit prepared
  have artifacts : unit.artifacts = [⟨"Order.g.rs", Builtin.rendering "Order"⟩] :=
    congrArg (fun content => content.2.2) content
  obtain rfl : text = Builtin.rendering "Order" := by
    have emitted := List.singleton_inj.mp (single.symm.trans artifacts)
    rw [unchanged fun wanted => absurd wanted Bool.false_ne_true] at emitted
    exact (Artifact.mk.inj emitted).2
  exact ⟨renderer, made, trigger, _, outcome, imports rfl⟩

/-- With another suffix a trigger is not imported. -/
theorem root_not_imported :
    let customer : Declaration := ⟨.struct, "CustomerRoot", none⟩
    ∃ renderer, Renderer.ofSpecsOrBuiltin [] = .ok renderer ∧
      Convention.isTrigger ⟨"Root"⟩ customer = true ∧
      ∃ text, (ofSetting ⟨⟨"Root"⟩, renderer, .off, false⟩).outcomeOf customer =
        .ok (some ("CustomerRoot", "Customer", [⟨"Customer.g.rs", text⟩])) ∧
          ¬ Imports text "CustomerRoot" := by
  intro customer
  obtain ⟨renderer, made, -⟩ := Builtin.renders
  have named : Convention.feature? ⟨"Root"⟩ customer = some "Customer" := by decide +kernel
  have outcome := @outcomeOf_builtin ⟨⟨"Root"⟩, renderer, .off, false⟩ made customer _ named
  refine ⟨renderer, made, by decide +kernel, Builtin.rendering "Customer",
    outcome.trans (congrArg _ (finish_plain _ _ _)), ?_⟩
  rintro ⟨before, after, split⟩
  have letters : (Builtin.rendering "Customer").toList =
      (before.toList ++ "use super::super::Customer".toList) ++
        ('R' :: 'o' :: ("ot;".toList ++ after.toList)) := by
    rw [split]
    simp
  have chain := isChain_customer
  rw [letters] at chain
  exact (List.isChain_append_cons_cons.mp chain).2.1 ⟨rfl, rfl⟩

end Pipeline

end Scaffold
