import Scaffold.Proofs.Pipeline.Builtin
import Scaffold.Proofs.Pipeline.Report

/-! With the built-in template the order of the declarations does not matter. A file belongs to one
feature, and its text depends on that feature alone, so that whichever trigger writes it last writes the
same. -/

namespace Scaffold

open Template

namespace Pipeline

/-! ### What can be prepared -/

/-- Features that are remembered are those whose files could be rendered, so that declarations are
prepared just if all their features render. -/
theorem prepared_iff_rendered {pipeline : Pipeline} {declarations : List Declaration}
    (apart : TellsApart pipeline.setting (featuresOf pipeline.setting declarations))
    (faithful : pipeline.Faithful (featuresOf pipeline.setting declarations)) :
    (∃ prepared after, (declarations.mapM prepare).Ends pipeline (.ok prepared) after) ↔
      ∀ feature ∈ featuresOf pipeline.setting declarations,
        ∃ artifacts, pipeline.setting.rendered feature = .ok artifacts := by
  have listed : ∀ declaration ∈ declarations, ∀ feature,
      pipeline.setting.convention.feature? declaration = some feature →
      feature ∈ featuresOf pipeline.setting declarations := fun declaration member feature named =>
    mem_featuresOf_iff.mpr ⟨declaration, member, named⟩
  constructor
  · rintro ⟨prepared, after, done⟩ feature member
    obtain ⟨artifacts, kept⟩ := (prepares_of_mapM_prepare done).remembered member
    have rendered := faithful.mapM_prepare done apart listed feature member artifacts kept
    rw [(extends_of_mapM_prepare done).setting] at rendered
    exact ⟨artifacts, rendered⟩
  · intro rendered
    rcases prepared_or_failsFirst declarations pipeline with prepared |
      ⟨left, declaration, right, middle, fault, rfl, ⟨others, begun⟩, failed⟩
    · exact prepared
    · have failed := (extends_of_mapM_prepare begun).unitOf_error failed
      obtain ⟨feature, named, -, refused⟩ := unitOf_eq_error_iff.mp failed
      obtain ⟨artifacts, made⟩ := rendered feature (listed declaration (by simp) feature named)
      exact absurd (made.symm.trans refused) (by simp)

/-- Every unit has the files that its feature renders to. -/
theorem rendered_of_prepared {pipeline after : Pipeline} {declarations : List Declaration}
    {prepared : List (Option PreparedUnit)}
    (apart : TellsApart pipeline.setting (featuresOf pipeline.setting declarations))
    (faithful : pipeline.Faithful (featuresOf pipeline.setting declarations))
    (done : (declarations.mapM prepare).Ends pipeline (.ok prepared) after) {unit : PreparedUnit}
    (member : unit ∈ prepared.filterMap id) :
    unit.feature ∈ featuresOf pipeline.setting declarations ∧
      pipeline.setting.rendered unit.feature = .ok unit.artifacts := by
  have listed : some unit ∈ prepared := by simpa using member
  obtain ⟨⟨declaration, asked, named⟩, kept⟩ := remembered_of_prepared done listed
  have present : unit.feature ∈ featuresOf pipeline.setting declarations :=
    mem_featuresOf_iff.mpr ⟨declaration, asked, named⟩
  have rendered := faithful.mapM_prepare done apart (fun declaration member feature named =>
    mem_featuresOf_iff.mpr ⟨declaration, member, named⟩) unit.feature present unit.artifacts kept
  rw [(extends_of_mapM_prepare done).setting] at rendered
  exact ⟨present, rendered⟩

/-! ### One file for each feature -/

/-- A table that holds one file for each of some features, named for the feature, with what the feature
renders to and the setting makes of that. -/
structure HoldsUnits (setting : PipelineSetting) (features : List String) (texts : MemorySink) :
    Prop where
  size : texts.size = features.dedup.length
  find?_iff : ∀ name text, texts.find? name = some text ↔ ∃ feature ∈ features,
    name = feature ++ ".g.rs" ∧ setting.rendered feature = .ok [⟨name, text⟩]

/-- The features alone settle what the table holds, whatever their order is. -/
theorem HoldsUnits.unique {setting : PipelineSetting} {features features' : List String}
    {texts texts' : MemorySink} (holds : HoldsUnits setting features texts)
    (holds' : HoldsUnits setting features' texts') (same : ∀ feature, feature ∈ features' ↔ feature ∈ features) :
    texts' = texts := by
  refine NameMap.eq_of_find? fun name => ?_
  ext text
  rw [holds'.find?_iff, holds.find?_iff]
  simp only [same]

/-- A feature that the built-in template renders has one file, which is named for it. -/
theorem fileName_of_rendered {setting : PipelineSetting}
    (builtin : Renderer.ofSpecsOrBuiltin [] = .ok setting.renderer) {feature : String}
    {artifacts : List Artifact} (rendered : setting.rendered feature = .ok artifacts) :
    ∃ artifact, artifacts = [artifact] ∧ artifact.fileName = feature ++ ".g.rs" := by
  rw [rendered_builtin builtin] at rendered
  cases finished : setting.finish ⟨feature ++ ".g.rs", Builtin.rendering feature⟩ with
  | error fault => simp [finished, Except.map] at rendered
  | ok artifact =>
    rw [finished] at rendered
    exact ⟨artifact, (Except.ok.inj rendered).symm,
      PipelineSetting.fileName_of_formatted (PipelineSetting.finish_eq_ok_iff.mp finished).2⟩

theorem fileName_of_rendered_singleton {setting : PipelineSetting}
    (builtin : Renderer.ofSpecsOrBuiltin [] = .ok setting.renderer) {feature : String}
    {artifact : Artifact} (rendered : setting.rendered feature = .ok [artifact]) :
    artifact.fileName = feature ++ ".g.rs" := by
  obtain ⟨artifact', single, named⟩ := fileName_of_rendered builtin rendered
  rw [List.singleton_inj.mp single, named]

theorem append_injective (ending : String) {first second : String} (same : first ++ ending = second ++ ending) :
    first = second := by
  have letters := congrArg String.toList same
  rw [String.toList_append, String.toList_append] at letters
  exact String.toList_inj.mp (List.append_cancel_right letters)

section Memory

variable {pipeline after : Pipeline} {declarations : List Declaration}
  {prepared : List (Option PreparedUnit)}
  (builtin : Renderer.ofSpecsOrBuiltin [] = .ok pipeline.setting.renderer)
  (apart : TellsApart pipeline.setting (featuresOf pipeline.setting declarations))
  (faithful : pipeline.Faithful (featuresOf pipeline.setting declarations))
  (done : (declarations.mapM prepare).Ends pipeline (.ok prepared) after)

include builtin apart faithful done

theorem mem_journal_iff {artifact : Artifact} :
    artifact ∈ PreparedUnit.journal (prepared.filterMap id) ↔
      ∃ feature ∈ featuresOf pipeline.setting declarations,
        pipeline.setting.rendered feature = .ok [artifact] := by
  constructor
  · intro member
    obtain ⟨unit, listed, member⟩ := List.mem_flatMap.mp member
    obtain ⟨asked, rendered⟩ := rendered_of_prepared apart faithful done listed
    obtain ⟨artifact', single, -⟩ := fileName_of_rendered builtin rendered
    rw [single, List.mem_singleton] at member
    exact ⟨unit.feature, asked, by rw [rendered, single, member]⟩
  · rintro ⟨feature, asked, rendered⟩
    rw [← (prepares_of_mapM_prepare done).features] at asked
    obtain ⟨unit, listed, rfl⟩ := List.mem_map.mp asked
    obtain ⟨-, rendered'⟩ := rendered_of_prepared apart faithful done listed
    have files := Except.ok.inj (rendered'.symm.trans rendered)
    exact List.mem_flatMap.mpr ⟨unit, listed, by rw [files]; exact List.mem_singleton_self _⟩

theorem fileNames_journal : (PreparedUnit.journal (prepared.filterMap id)).map (·.fileName) =
    (featuresOf pipeline.setting declarations).map (· ++ ".g.rs") := by
  rw [← (prepares_of_mapM_prepare done).features, PreparedUnit.journal, List.map_flatMap, List.map_map,
    ← List.flatMap_singleton' (((prepared.filterMap id)).map _), List.flatMap_map]
  refine List.flatMap_congr fun unit listed => ?_
  obtain ⟨-, rendered⟩ := rendered_of_prepared apart faithful done listed
  obtain ⟨artifact, single, named⟩ := fileName_of_rendered builtin rendered
  rw [single, List.map_singleton, named]
  rfl

/-- What is emitted into an empty table is one file for each feature. -/
theorem holdsUnits_of_prepared : HoldsUnits pipeline.setting (featuresOf pipeline.setting declarations)
    ((PreparedUnit.journal (prepared.filterMap id)).foldl
      (fun texts artifact => texts.insert artifact.fileName artifact.source) .empty) := by
  have members := @mem_journal_iff _ _ _ _ builtin apart faithful done
  have named := fileNames_journal builtin apart faithful done
  generalize PreparedUnit.journal (prepared.filterMap id) = journal at members named ⊢
  -- A file name leads back to the feature, and the feature to its one file.
  have single : ∀ first ∈ journal, ∀ second ∈ journal, first.fileName = second.fileName →
      first = second := by
    intro first listed second listed' same
    obtain ⟨feature, -, rendered⟩ := members.mp listed
    obtain ⟨feature', -, rendered'⟩ := members.mp listed'
    rw [fileName_of_rendered_singleton builtin rendered,
      fileName_of_rendered_singleton builtin rendered'] at same
    obtain rfl := append_injective _ same
    exact List.singleton_inj.mp (Except.ok.inj (rendered.symm.trans rendered'))
  rw [foldl_artifacts_eq_ofList]
  refine ⟨?_, fun name text => ?_⟩
  · have keys := (NameMap.keys_perm_dedup (NameMap.ofList
      (journal.map fun artifact => (artifact.fileName, artifact.source))) fun key =>
        NameMap.isSome_find?_ofList _ key).length_eq
    rw [List.map_map] at keys
    change _ = (journal.map (·.fileName)).dedup.length at keys
    rw [named, List.dedup_map_of_injective fun first second same => append_injective _ same,
      List.length_map] at keys
    rw [← keys, NameMap.keys, List.length_map, NameMap.size]
  · rw [← foldl_artifacts_eq_ofList, find?_foldl_artifacts, NameMap.find?_empty, Option.or_none,
      lastText?_eq_some_iff single, members]
    constructor
    · rintro ⟨feature, asked, rendered⟩
      exact ⟨feature, asked, fileName_of_rendered_singleton builtin rendered, rendered⟩
    · rintro ⟨feature, asked, -, rendered⟩
      exact ⟨feature, asked, rendered⟩

end Memory

/-! ### Runs into a table -/

/-- What a run into an empty table comes to: it succeeds just if every feature renders, and then the table
holds a file for each of them; otherwise it stays empty. -/
structure FillsMemory (setting : PipelineSetting) (features : List String)
    (result : Except Fault GenerationReport) (texts : MemorySink) : Prop where
  ok_iff : result.isOk = true ↔ ∀ feature ∈ features, ∃ files, setting.rendered feature = .ok files
  holds : result.isOk = true → HoldsUnits setting features texts
  empty : result.isOk = false → texts = .empty

theorem FillsMemory.unique {setting : PipelineSetting} {features features' : List String}
    {result result' : Except Fault GenerationReport} {texts texts' : MemorySink}
    (fills : FillsMemory setting features result texts)
    (fills' : FillsMemory setting features' result' texts')
    (same : ∀ feature, feature ∈ features' ↔ feature ∈ features) :
    result'.isOk = result.isOk ∧ texts' = texts := by
  have alike : result'.isOk = result.isOk := by
    rw [Bool.eq_iff_iff, fills'.ok_iff, fills.ok_iff]
    simp only [same]
  refine ⟨alike, ?_⟩
  cases passed : result.isOk with
  | true => exact (fills.holds passed).unique (fills'.holds (alike.trans passed)) same
  | false => rw [fills.empty passed, fills'.empty (alike.trans passed)]

theorem exists_fillsMemory {pipeline : Pipeline} {declarations : List Declaration}
    (builtin : Renderer.ofSpecsOrBuiltin [] = .ok pipeline.setting.renderer)
    (apart : TellsApart pipeline.setting (featuresOf pipeline.setting declarations))
    (faithful : pipeline.Faithful (featuresOf pipeline.setting declarations)) :
    ∃ result after texts,
      (run MemorySink.sink declarations).Ends (pipeline, .empty) result (after, texts) ∧
        FillsMemory pipeline.setting (featuresOf pipeline.setting declarations) result texts := by
  have prepared := prepared_iff_rendered apart faithful
  obtain ⟨result, after, ends⟩ := blind_mapM_prepare declarations pipeline
  cases result with
  | error fault =>
    refine ⟨_, _, _, run_ends_of_unprepared ends _ _, ?_, nofun, fun _ => rfl⟩
    rw [← prepared]
    refine ⟨nofun, fun ⟨units, after', done⟩ => ?_⟩
    exact absurd (ends.unique done).1 (by simp)
  | ok units =>
    refine ⟨_, _, _, run_ends_of_prepared ends (MemorySink.emitAll_ends _ .empty), ?_, fun _ => ?_, nofun⟩
    · rw [← prepared]
      exact ⟨fun _ => ⟨units, after, ends⟩, fun _ => rfl⟩
    · exact holdsUnits_of_prepared builtin apart faithful ends

section Names

variable {pipeline : Pipeline} {declarations : List Declaration}
  (builtin : Renderer.ofSpecsOrBuiltin [] = .ok pipeline.setting.renderer)
  (faithful : pipeline.Faithful (featuresOf pipeline.setting declarations))

include builtin faithful

/-- The name of the one file of a unit, and that of its trigger. -/
theorem names_of_prepare {declaration : Declaration} {unit : PreparedUnit}
    (member : declaration ∈ declarations)
    (prepared : ((prepare declaration).perform pipeline).1 = .ok (some unit)) :
    unit.artifacts.map (·.fileName) = [unit.feature ++ ".g.rs"] ∧
      declaration.name = unit.feature ++ pipeline.setting.convention.suffix := by
  rw [prepare_result] at prepared
  obtain ⟨-, named, served⟩ := unitOf_eq_some_iff.mp prepared
  have rendered := faithful.rendered_of_served (mem_featuresOf_iff.mpr ⟨_, member, named⟩) served
  obtain ⟨artifact, single, fileName⟩ := fileName_of_rendered builtin rendered
  exact ⟨by rw [single, List.map_singleton, fileName], Convention.name_of_feature? named⟩

theorem fileNames_eq_iff {declaration declaration' : Declaration} {unit unit' : PreparedUnit}
    (member : declaration ∈ declarations) (member' : declaration' ∈ declarations)
    (prepared : ((prepare declaration).perform pipeline).1 = .ok (some unit))
    (prepared' : ((prepare declaration').perform pipeline).1 = .ok (some unit')) :
    unit.artifacts.map (·.fileName) = unit'.artifacts.map (·.fileName) ↔
      declaration.name = declaration'.name := by
  obtain ⟨fileName, name⟩ := names_of_prepare builtin faithful member prepared
  obtain ⟨fileName', name'⟩ := names_of_prepare builtin faithful member' prepared'
  -- Both names are the feature with an ending, so that either leads back to it.
  rw [fileName, fileName', name, name', List.singleton_inj]
  constructor
  · intro same
    rw [append_injective _ same]
  · intro same
    rw [append_injective _ same]

end Names

/-- With the built-in template these two features are told apart. -/
theorem keys_apart_of_builtin {renderer : Renderer} (made : Renderer.ofSpecsOrBuiltin [] = .ok renderer) :
    DigestsApart (["Order", "Invoice"].map
      (⟨.default, renderer, .off, false⟩ : PipelineSetting).memoText) := by
  have text : ∀ feature, (⟨.default, renderer, .off, false⟩ : PipelineSetting).memoText feature =
      "\x00".intercalate ["c04c9807b8e7bfdda0306d549cb4626e106a1fe5bb818873ae77cd4e2104691e", "off",
        "false", feature] := by
    intro feature
    rw [PipelineSetting.memoText, Template.Builtin.fingerprint_eq made]
    rfl
  refine .pair ?_
  rw [text, text, Ne, Digest.Sha256.hexOfText_eq_iff]
  decide +kernel

/-- With the built-in template, after any calls, a run into an empty table succeeds just if the file of
every feature passes, leaves one file for each feature then and nothing otherwise, and does so in
whatever order the declarations are given, if no two keys in play share a digest. The files of two
triggers share their name just if the triggers do. -/
theorem run_of_permutation {setting : PipelineSetting}
    (builtin : Renderer.ofSpecsOrBuiltin [] = .ok setting.renderer) (calls : List PipelineCall)
    {declarations : List Declaration} (distinct : DigestsApart (keysOfRun setting calls declarations))
    {result : Except Fault GenerationReport} {after : Pipeline} {texts : MemorySink}
    {warnings : List Warning}
    (ran : (run MemorySink.sink declarations).perform ((ofSetting setting).afterCalls calls, .empty) =
      (result, (after, texts), warnings)) :
    let before := (ofSetting setting).afterCalls calls
    FillsMemory before.setting (featuresOf before.setting declarations) result texts ∧
      (∀ declaration ∈ declarations, ∀ declaration' ∈ declarations, ∀ unit unit',
        ((prepare declaration).perform before).1 = .ok (some unit) →
        ((prepare declaration').perform before).1 = .ok (some unit') →
        (unit.artifacts.map (·.fileName) = unit'.artifacts.map (·.fileName) ↔
          declaration.name = declaration'.name)) ∧
      ∀ declarations', declarations'.Perm declarations → ∃ result' after' warnings',
        (run MemorySink.sink declarations').perform (before, .empty) =
            (result', (after', texts), warnings') ∧
          result'.isOk = result.isOk := by
  intro before
  have builtin : Renderer.ofSpecsOrBuiltin [] = .ok before.setting.renderer := by
    rw [renderer_afterCalls, builtin]
  have faithful : before.Faithful (featuresOf before.setting declarations) :=
    fun feature member artifacts found => (distinct.asked member found).2
  have fills : ∀ declarations', (∀ feature, feature ∈ featuresOf before.setting declarations' ↔
      feature ∈ featuresOf before.setting declarations) → ∃ result after texts,
      (run MemorySink.sink declarations').Ends (before, .empty) result (after, texts) ∧
        FillsMemory before.setting (featuresOf before.setting declarations') result texts := by
    intro declarations' same
    refine exists_fillsMemory builtin (fun first member second member' => ?_) fun feature member => ?_
    · exact distinct.tellsApart first ((same first).mp member) second ((same second).mp member')
    · exact faithful feature ((same feature).mp member)
  have ends := (blind_run MemorySink.blind_emit declarations).ends ran
  obtain ⟨_, _, _, settled, filled⟩ := fills declarations fun _ => Iff.rfl
  obtain ⟨rfl, same⟩ := ends.unique settled
  obtain ⟨rfl, rfl⟩ := Prod.mk.inj same
  refine ⟨filled, ?_, fun declarations' permuted => ?_⟩
  · intro declaration member declaration' member' unit unit' prepared prepared'
    exact fileNames_eq_iff builtin faithful member member' prepared prepared'
  · have same : ∀ feature, feature ∈ featuresOf before.setting declarations' ↔
        feature ∈ featuresOf before.setting declarations :=
      fun feature => (permuted.filterMap _).mem_iff
    obtain ⟨result', after', texts', ends', filled'⟩ := fills declarations' same
    obtain ⟨alike, rfl⟩ := filled.unique filled' same
    obtain ⟨warnings', ran'⟩ := ends'.perform
    exact ⟨result', after', warnings', ran', alike⟩

theorem run_of_permutation_order :
    let order : Declaration := ⟨.struct, "OrderAggregate", none⟩
    let plain : Declaration := ⟨.struct, "Order", none⟩
    let invoice : Declaration := ⟨.enum, "InvoiceAggregate", none⟩
    ∃ renderer, Renderer.ofSpecsOrBuiltin [] = .ok renderer ∧
      let fresh := ofSetting ⟨.default, renderer, .off, false⟩
      [invoice, plain, order, order].Perm [order, plain, order, invoice] ∧
      ∃ result result' after after' texts warnings warnings',
        (run MemorySink.sink [order, plain, order, invoice]).perform (fresh, .empty) =
          (result, (after, texts), warnings) ∧
        (run MemorySink.sink [invoice, plain, order, order]).perform (fresh, .empty) =
          (result', (after', texts), warnings') ∧
        result.isOk = true ∧ result'.isOk = true ∧ texts.size = 2 ∧
        texts.find? "Order.g.rs" ≠ none ∧ texts.find? "Invoice.g.rs" ≠ none := by
  intro order plain invoice
  obtain ⟨renderer, made, -⟩ := Builtin.renders
  refine ⟨renderer, made, ?_⟩
  intro fresh
  have permuted : [invoice, plain, order, order].Perm [order, plain, order, invoice] := by decide
  obtain ⟨⟨result, ⟨after, texts⟩, warnings⟩, ran⟩ :
      ∃ ending, (run MemorySink.sink [order, plain, order, invoice]).perform (fresh, .empty) = ending :=
    ⟨_, rfl⟩
  have features : featuresOf fresh.setting [order, plain, order, invoice] =
      ["Order", "Order", "Invoice"] := by
    change [order, plain, order, invoice].filterMap Convention.default.feature? = _
    decide +kernel
  have keys : keysOfRun fresh.setting [] [order, plain, order, invoice] =
      ["Order", "Order", "Invoice"].map fresh.setting.memoText := by
    simp [keysOfRun, PipelineCall.settingAfterAll, PipelineCall.allLookups, features]
  have distinct : DigestsApart (keysOfRun fresh.setting [] [order, plain, order, invoice]) :=
    keys ▸ (keys_apart_of_builtin made).mono (List.map_subset _ (by simp))
  obtain ⟨fills, -, others⟩ := @run_of_permutation fresh.setting made [] _ distinct _ _ _ _ ran
  obtain ⟨result', after', warnings', ran', alike⟩ := others _ permuted
  have rendered : ∀ feature, fresh.setting.rendered feature =
      .ok [⟨feature ++ ".g.rs", Builtin.rendering feature⟩] := fun feature =>
    (rendered_builtin made feature).trans (congrArg _ (finish_plain _ _ _))
  have settled : (afterCalls (ofSetting fresh.setting) []).setting = fresh.setting := rfl
  rw [settled, features] at fills
  have passed : result.isOk = true := fills.ok_iff.mpr (by simp [rendered])
  obtain ⟨size, found⟩ := fills.holds passed
  have here : ∀ feature ∈ ["Order", "Order", "Invoice"],
      texts.find? (feature ++ ".g.rs") = some (Builtin.rendering feature) :=
    fun feature listed => (found _ _).mpr ⟨feature, listed, rfl, rendered feature⟩
  exact ⟨permuted, result, result', after, after', texts, warnings, warnings', ran, ran', passed,
    alike.trans passed, size, ne_of_eq_of_ne (here "Order" (by simp)) (by simp),
    ne_of_eq_of_ne (here "Invoice" (by simp)) (by simp)⟩

end Pipeline

end Scaffold
