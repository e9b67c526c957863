import Scaffold.Proofs.Generator.FixedPoint
import Scaffold.Proofs.Generator.Success
import Scaffold.Proofs.Pipeline.Permutation

/-! What a listing announces of a generation from the same state. Both go by the convention, but the
listing filters the scan, and the generation fills a table of files through the memo of its pipeline. -/

namespace Scaffold

/-- A declaration has a feature just if it declares a type, and then the feature is what its name has
before the suffix. -/
theorem Convention.feature?_eq_some_iff {convention : Convention} {declaration : Declaration}
    {feature : String} : convention.feature? declaration = some feature ↔
      declaration.kind.isType = true ∧ declaration.name = feature ++ convention.suffix := by
  constructor
  · intro named
    refine ⟨?_, name_of_feature? named⟩
    unfold feature? at named
    split at named
    · rename_i trigger
      exact (Bool.and_eq_true_iff.mp trigger).1
    · contradiction
  · rintro ⟨type, spelled⟩
    have trigger : convention.isTrigger declaration = true := by
      simp [isTrigger, type, stripSuffix?, spelled]
    obtain ⟨feature', named, spelled'⟩ := feature?_of_isTrigger trigger
    rw [named, Pipeline.append_injective _ (spelled'.symm.trans spelled)]

namespace Generator

open Disk Path Template

/-- The listings of some declarations: one for each type whose name ends with the suffix, in the same
order, with the one feature that its name has before the suffix. -/
structure Lists (convention : Convention) (declarations : List Declaration)
    (listings : List TriggerListing) : Prop where
  declarations : listings.map (·.declaration) = declarations.filter fun declaration =>
    (declaration.kind = .struct ∨ declaration.kind = .enum ∨ declaration.kind = .union) ∧
      convention.suffix.toList <:+ declaration.name.toList
  feature_iff : ∀ listing ∈ listings, ∀ feature,
    listing.declaration.name = feature ++ convention.suffix ↔ feature = listing.feature

/-- The listings that a generator makes of its declarations. -/
def listingsOf (convention : Convention) (declarations : List Declaration) : List TriggerListing :=
  declarations.filterMap fun declaration =>
    (convention.feature? declaration).map fun feature => ⟨declaration, feature⟩

section Listings

variable (convention : Convention) (declarations : List Declaration)

theorem mem_listingsOf_iff {convention : Convention} {declarations : List Declaration}
    {listing : TriggerListing} : listing ∈ listingsOf convention declarations ↔
      listing.declaration ∈ declarations ∧
        convention.feature? listing.declaration = some listing.feature := by
  constructor
  · intro member
    obtain ⟨declaration, listed, made⟩ := List.mem_filterMap.mp member
    obtain ⟨feature, named, rfl⟩ := Option.map_eq_some_iff.mp made
    exact ⟨listed, named⟩
  · rintro ⟨listed, named⟩
    exact List.mem_filterMap.mpr ⟨_, listed, by rw [named]; rfl⟩

theorem isType_iff (kind : DeclarationKind) :
    kind.isType = true ↔ kind = .struct ∨ kind = .enum ∨ kind = .union := by
  cases kind <;> simp [DeclarationKind.isType]

theorem isSome_feature?_iff {convention : Convention} {declaration : Declaration} :
    (convention.feature? declaration).isSome = true ↔
      (declaration.kind = .struct ∨ declaration.kind = .enum ∨ declaration.kind = .union) ∧
        convention.suffix.toList <:+ declaration.name.toList := by
  rw [Option.isSome_iff_exists, ← isType_iff]
  simp only [Convention.feature?_eq_some_iff, exists_and_left]
  refine and_congr_right fun _ => ⟨?_, ?_⟩
  · rintro ⟨feature, spelled⟩
    exact ⟨feature.toList, by rw [spelled, String.toList_append]⟩
  · rintro ⟨front, split⟩
    refine ⟨String.ofList front, ?_⟩
    rw [← String.toList_inj, String.toList_append, String.toList_ofList, split]

theorem lists_listingsOf : Lists convention declarations (listingsOf convention declarations) := by
  constructor
  · rw [listingsOf, List.map_filterMap, ← List.filterMap_eq_filter]
    refine List.filterMap_congr fun declaration _ => ?_
    have listed := @isSome_feature?_iff convention declaration
    cases named : convention.feature? declaration with
    | none => simp_all [Option.guard]
    | some feature => simp_all [Option.guard]
  · intro listing member feature
    obtain ⟨-, named⟩ := mem_listingsOf_iff.mp member
    have spelled := Convention.name_of_feature? named
    constructor
    · intro spelled'
      exact Pipeline.append_injective _ (spelled'.symm.trans spelled)
    · rintro rfl
      exact spelled

theorem features_listingsOf (setting : PipelineSetting) :
    (listingsOf setting.convention declarations).map (·.feature) =
      Pipeline.featuresOf setting declarations := by
  rw [listingsOf, List.map_filterMap, Pipeline.featuresOf]
  refine List.filterMap_congr fun declaration _ => ?_
  cases setting.convention.feature? declaration <;> rfl

end Listings

/-! ### The units that a generation reports -/

/-- A reported file was written by a unit of its feature. -/
theorem exists_writer {count : Nat} {units : List PreparedUnit} {file feature : String}
    (reported : (file, feature) ∈ (GenerationReport.ofUnits count units).units.entries) :
    ∃ unit ∈ units, unit.feature = feature ∧
      ∃ artifact ∈ unit.artifacts, artifact.fileName = file := by
  have found := NameMap.find?_eq_some_iff.mpr reported
  rw [PreparedUnit.find?_units] at found
  obtain ⟨⟨unit, artifact⟩, written, rfl⟩ := Option.map_eq_some_iff.mp found
  obtain ⟨member, emitted, named⟩ := PreparedUnit.lastWrite?_spec written
  exact ⟨unit, member, rfl, artifact, emitted, named⟩

section Reported

variable {pipeline after : Pipeline} {declarations : List Declaration}
  {prepared : List (Option PreparedUnit)}
  (done : (declarations.mapM Pipeline.prepare).Ends pipeline (.ok prepared) after)

include done

theorem feature_of_reported {count : Nat} {file feature : String} (reported : (file, feature) ∈
    (GenerationReport.ofUnits count (prepared.filterMap id)).units.entries) :
    feature ∈ Pipeline.featuresOf pipeline.setting declarations := by
  obtain ⟨unit, member, rfl, -⟩ := exists_writer reported
  rw [← (Pipeline.prepares_of_mapM_prepare done).features]
  exact List.mem_map_of_mem member

/-- With the built-in template there is one file for each feature, and it is named for the feature. -/
theorem reported_builtin_iff (builtin : Renderer.ofSpecsOrBuiltin [] = .ok pipeline.setting.renderer)
    (apart : Pipeline.TellsApart pipeline.setting (Pipeline.featuresOf pipeline.setting declarations))
    (faithful : pipeline.Faithful (Pipeline.featuresOf pipeline.setting declarations))
    {count : Nat} {file feature : String} :
    (file, feature) ∈ (GenerationReport.ofUnits count (prepared.filterMap id)).units.entries ↔
      feature ∈ Pipeline.featuresOf pipeline.setting declarations ∧ file = feature ++ ".g.rs" := by
  have single : ∀ unit ∈ prepared.filterMap id, ∃ artifact, unit.artifacts = [artifact] ∧
      artifact.fileName = unit.feature ++ ".g.rs" := fun unit member =>
    Pipeline.fileName_of_rendered builtin
      (Pipeline.rendered_of_prepared apart faithful done member).2
  constructor
  · intro reported
    refine ⟨feature_of_reported done reported, ?_⟩
    obtain ⟨unit, member, rfl, artifact, emitted, rfl⟩ := exists_writer reported
    obtain ⟨artifact', only, named⟩ := single unit member
    rw [only, List.mem_singleton] at emitted
    rw [emitted, named]
  · rintro ⟨listed, rfl⟩
    rw [← (Pipeline.prepares_of_mapM_prepare done).features] at listed
    obtain ⟨unit, member, rfl⟩ := List.mem_map.mp listed
    obtain ⟨artifact, only, named⟩ := single unit member
    -- Some unit is the last to write this file, and its file name gives its feature away.
    have written : (unit, artifact) ∈ PreparedUnit.writes (prepared.filterMap id) :=
      List.mem_flatMap.mpr ⟨unit, member, List.mem_map_of_mem (by rw [only]; exact List.mem_singleton_self _)⟩
    have some : ((PreparedUnit.lastWrite? (prepared.filterMap id) artifact.fileName)).isSome = true := by
      rw [PreparedUnit.lastWrite?, List.find?_isSome]
      exact ⟨_, List.mem_reverse.mpr written, by simp⟩
    obtain ⟨⟨last, artifact'⟩, found⟩ := Option.isSome_iff_exists.mp some
    obtain ⟨member', emitted, same⟩ := PreparedUnit.lastWrite?_spec found
    obtain ⟨artifact'', only', named'⟩ := single last member'
    rw [only', List.mem_singleton] at emitted
    have feature_eq : last.feature = unit.feature :=
      Pipeline.append_injective _ (by rw [← named', ← emitted, same, named])
    rw [← NameMap.find?_eq_some_iff, PreparedUnit.find?_units,
      ← named, found, Option.map_some, feature_eq]

end Reported

/-! ### Listing and generating -/

/-- With the built-in template a generation succeeds where the file of each feature passes, and the
output directory takes the manifest and all these files. -/
theorem exists_generated_builtin {disk : Disk} {generator : Generator} {outcome : ScanOutcome}
    {scanner : Scanner} {place : Location}
    (scanned : (Scanner.scan disk).Ends generator.scanner (.ok outcome) scanner)
    (builtin : Renderer.ofSpecsOrBuiltin [] = .ok generator.pipeline.setting.renderer)
    (apart : Pipeline.TellsApart generator.pipeline.setting
      (Pipeline.featuresOf generator.pipeline.setting outcome.declarations))
    (faithful : generator.pipeline.Faithful
      (Pipeline.featuresOf generator.pipeline.setting outcome.declarations))
    (leads : disk.Leads generator.outDir place)
    (room : Fits generator.outDir Manifest.fileName ∧
      disk.entryAt? (place ++ [Manifest.fileName]) ≠ some .directory)
    (passes : ∀ feature ∈ Pipeline.featuresOf generator.pipeline.setting outcome.declarations,
      (∃ artifacts, generator.pipeline.setting.rendered feature = .ok artifacts) ∧
      Fits generator.outDir (feature ++ ".g.rs") ∧
      disk.entryAt? (place ++ [feature ++ ".g.rs"]) ≠ some .directory) :
    ∃ summary after reports,
      generate.perform (disk, generator) = (.ok summary, after, reports) := by
  obtain ⟨prepared, pipeline, done⟩ := (Pipeline.prepared_iff_rendered apart faithful).mpr
    fun feature member => (passes feature member).1
  have planned : Planned disk generator outcome (prepared.filterMap id)
      { generator with scanner, pipeline } := ⟨scanned, ⟨prepared, done, rfl⟩, rfl, rfl⟩
  have taken : ∀ artifact ∈ PreparedUnit.journal (prepared.filterMap id),
      Fits generator.outDir artifact.fileName ∧
        disk.entryAt? (place ++ [artifact.fileName]) ≠ some .directory := by
    intro artifact member
    obtain ⟨feature, asked, rendered⟩ :=
      (Pipeline.mem_journal_iff builtin apart faithful done).mp member
    rw [Pipeline.fileName_of_rendered_singleton builtin rendered]
    exact (passes feature asked).2
  obtain ⟨summary, written, disk', stages⟩ := @exists_generated (disk, generator) _ _ _ _ _ planned
    (makeDirectories_of_leads leads) leads room.1 (fun artifact member => (taken artifact member).1)
    room.2 (fun artifact member => (taken artifact member).2)
  obtain ⟨reports, performed⟩ := (generate_ends stages).perform
  exact ⟨summary, _, reports, performed⟩

/-- A successful listing goes over a scan, and leaves all but what the scan remembers. -/
theorem scanned_of_list {disk : Disk} {generator : Generator} {left : Work}
    {listings : List TriggerListing} {reports : List Warning}
    (listed : list.perform (disk, generator) = (.ok listings, left, reports)) :
    ∃ outcome scanner, (Scanner.scan disk).Ends generator.scanner (.ok outcome) scanner ∧
      listings = listingsOf generator.pipeline.setting.convention outcome.declarations ∧
      left = (disk, { generator with scanner }) := by
  obtain ⟨result, scanner, scanned⟩ := Scanner.blind_scan disk generator.scanner
  cases result with
  | error fault =>
    have failed : list.Ends (disk, generator) (.error fault) _ := (scan_ends_error scanned).bind_error
    obtain ⟨reports', performed⟩ := failed.perform
    exact absurd (congrArg Prod.fst (listed.symm.trans performed)) (by simp)
  | ok outcome =>
    obtain ⟨reports', performed⟩ := (list_ends scanned).perform
    have same := listed.symm.trans performed
    simp only [Prod.mk.injEq, Except.ok.injEq] at same
    exact ⟨outcome, scanner, scanned, same.1, same.2.1⟩

/-- A listing gives the types of the scan whose name ends with the suffix, each with its feature. A
generation from the same state, be it by the generator as it was or as the listing left it, counts as
many triggers and reports no feature that was not listed. With the built-in template it reports just
the listed ones, with one file each, if no two keys in play share a digest. -/
theorem list_announces_generate {disk : Disk} {generator again : Generator} {left after : Work}
    {listings : List TriggerListing} {summary : GenerationSummary} {reports reports' : List Warning}
    (listed : list.perform (disk, generator) = (.ok listings, left, reports))
    (either : again = generator ∨ (disk, again) = left)
    (generated : generate.perform (disk, again) = (.ok summary, after, reports')) :
    ∃ outcome, ((Scanner.scan disk).perform generator.scanner).1 = .ok outcome ∧
      Lists generator.pipeline.setting.convention outcome.declarations listings ∧
      listings.length = summary.report.triggers ∧
      (∀ file feature, (file, feature) ∈ summary.report.units.entries →
        feature ∈ listings.map (·.feature)) ∧
      ∀ setting calls, generator.pipeline = (Pipeline.ofSetting setting).afterCalls calls →
        Renderer.ofSpecsOrBuiltin [] = .ok setting.renderer →
        Pipeline.DigestsApart (Pipeline.keysOfRun setting calls outcome.declarations) →
        ∀ file feature, (file, feature) ∈ summary.report.units.entries ↔
          feature ∈ listings.map (·.feature) ∧ file = feature ++ ".g.rs" := by
  obtain ⟨outcome, scanner, scanned, rfl, rfl⟩ := scanned_of_list listed
  have pipeline : again.pipeline = generator.pipeline := by
    rcases either with rfl | same
    · rfl
    · rw [(Prod.mk.inj same).2]
  -- The scan of the generation may reuse what the listing has read, but it finds the same.
  obtain ⟨outcome', units, made, written, stages⟩ := generated_of_ends (blind_generate.ends generated)
  have declarations : outcome'.declarations = outcome.declarations := by
    obtain ⟨⟨_, first⟩, _, _, second, found⟩ := Scanner.scan_again scanned ⟨rfl, fun _ _ _ _ => rfl⟩
    rcases either with rfl | same
    · rw [Except.ok.inj (stages.planned.scanned.unique first).1]
    · have scanned' := stages.planned.scanned
      simp only [(Prod.mk.inj same).2] at scanned'
      rw [Except.ok.inj (scanned'.unique second).1, found]
  obtain ⟨prepared, done, rfl⟩ := stages.planned.prepared
  simp only [declarations, pipeline] at done
  have report : summary.report = .ofUnits outcome'.declarations.length (prepared.filterMap id) := by
    rw [stages.summary]
  have features := features_listingsOf outcome.declarations generator.pipeline.setting
  obtain ⟨_, performed⟩ := scanned.perform
  refine ⟨outcome, by rw [performed], lists_listingsOf _ _, ?_, ?_, ?_⟩
  · calc (listingsOf generator.pipeline.setting.convention outcome.declarations).length
        = (Pipeline.featuresOf generator.pipeline.setting outcome.declarations).length := by
          rw [← features, List.length_map]
      _ = (prepared.filterMap id).length := by
          rw [← (Pipeline.prepares_of_mapM_prepare done).features, List.length_map]
      _ = summary.report.triggers := by rw [report, PreparedUnit.ofUnits_eq]
  · intro file feature reported
    rw [report] at reported
    rw [features]
    exact feature_of_reported done reported
  · intro setting calls current builtin distinct file feature
    rw [report, features]
    rw [current] at done ⊢
    refine reported_builtin_iff done ?_ distinct.tellsApart distinct.faithful
    rw [Pipeline.renderer_afterCalls, builtin]

/-- Two of the triggers have one feature, so that all are listed and two files are reported. -/
theorem list_announces_generate_order :
    let disk : Disk := ⟨[(["orders.rs"], .file
      "struct OrderAggregate; mod old \x7b enum OrderAggregate \x7b\x7d \x7d struct InvoiceAggregate;".toUTF8),
      (["out"], .directory)], []⟩
    let scanner : Scanner := ⟨[⟨"orders.rs"⟩], ⟨[]⟩, ⟨[]⟩, []⟩
    ∃ renderer, Renderer.ofSpecsOrBuiltin [] = .ok renderer ∧
      let generator : Generator := ⟨scanner, .ofSetting ⟨.default, renderer, .off, false⟩, ⟨"out"⟩, true⟩
      ∃ listings summary left after reports reports',
        list.perform (disk, generator) = (.ok listings, left, reports) ∧
        generate.perform (disk, generator) = (.ok summary, after, reports') ∧
        listings.map (·.feature) = ["Order", "Order", "Invoice"] ∧ summary.report.triggers = 3 ∧
        ∀ file feature, (file, feature) ∈ summary.report.units.entries ↔
          feature ∈ ["Order", "Invoice"] ∧ file = feature ++ ".g.rs" := by
  intro disk scanner
  have features : (((Scanner.scan disk).perform scanner).1.toOption.map fun outcome =>
      outcome.declarations.filterMap Convention.default.feature?) = some ["Order", "Order", "Invoice"] := by
    decide +kernel
  have leads : disk.Leads ⟨"out"⟩ ["out"] := ⟨by decide +kernel, by decide +kernel⟩
  have room : ∀ name ∈ [Manifest.fileName, "Order.g.rs", "Invoice.g.rs"], Fits ⟨"out"⟩ name ∧
      disk.entryAt? (["out"] ++ [name]) ≠ some .directory := by decide +kernel
  -- Nothing else about the disk is used.
  clear_value disk scanner
  obtain ⟨result, scanner', scanned⟩ := Scanner.blind_scan disk scanner
  obtain ⟨_, performed⟩ := scanned.perform
  rw [performed] at features
  cases result with
  | error fault => contradiction
  | ok outcome =>
  obtain ⟨renderer, made, -⟩ := Builtin.renders
  refine ⟨renderer, made, ?_⟩
  intro generator
  have features : Pipeline.featuresOf generator.pipeline.setting outcome.declarations =
      ["Order", "Order", "Invoice"] := Option.some.inj features
  have rendered : ∀ feature, generator.pipeline.setting.rendered feature =
      .ok [⟨feature ++ ".g.rs", Builtin.rendering feature⟩] := fun feature =>
    (Pipeline.rendered_builtin made feature).trans (congrArg _ (Pipeline.finish_plain _ _ _))
  have keys : Pipeline.keysOfRun generator.pipeline.setting [] outcome.declarations =
      ["Order", "Order", "Invoice"].map generator.pipeline.setting.memoText := by
    simp [Pipeline.keysOfRun, PipelineCall.settingAfterAll, PipelineCall.allLookups, features]
  have distinct : Pipeline.DigestsApart
      (Pipeline.keysOfRun generator.pipeline.setting [] outcome.declarations) :=
    keys ▸ (Pipeline.keys_apart_of_builtin made).mono (List.map_subset _ (by simp))
  obtain ⟨summary, after, reports', generated⟩ := @exists_generated_builtin disk generator _ _ _
    scanned made distinct.tellsApart distinct.faithful leads (room _ (by simp)) (by
      rw [features]
      intro feature asked
      refine ⟨⟨_, rendered feature⟩, ?_⟩
      obtain rfl | rfl : feature = "Order" ∨ feature = "Invoice" := by simpa using asked
      · exact room _ (by simp)
      · exact room _ (by simp))
  obtain ⟨reports, listed⟩ := (@list_ends disk generator _ _ scanned).perform
  rw [← listingsOf] at listed
  obtain ⟨outcome', scanned', -, triggers, -, builtin⟩ :=
    list_announces_generate listed (.inl rfl) generated
  rw [performed] at scanned'
  obtain rfl := Except.ok.inj scanned'
  have listings := features_listingsOf outcome.declarations generator.pipeline.setting
  rw [features] at listings
  refine ⟨_, summary, _, after, reports, reports', listed, generated, listings, ?_, fun file feature => ?_⟩
  · rw [← triggers]
    simpa using congrArg List.length listings
  · rw [builtin generator.pipeline.setting [] rfl made distinct, listings]
    simp

end Generator

end Scaffold
