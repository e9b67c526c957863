import Scaffold.Proofs.Generator

/-! The manifest of some units: each file that they write, with the feature and the digest of the last
text under its name. -/

namespace Scaffold.Generator

/-- One step of `manifestOf`. -/
def recorded (emitted : NameMap String) (manifest : Manifest) (entry : String × String) : Manifest :=
  match emitted.find? entry.1 with
  | some hash => manifest.record entry.1 entry.2 hash
  | none => manifest

theorem manifestOf_eq (setting : PipelineSetting) (report : GenerationReport)
    (emitted : NameMap String) : manifestOf setting report emitted =
      report.units.entries.foldl (recorded emitted)
        (Manifest.new setting.convention.suffix setting.renderer.fingerprint) := rfl

theorem find?_recorded (emitted : NameMap String) (manifest : Manifest) (entry : String × String)
    (name : String) : (recorded emitted manifest entry).artifacts.find? name =
      (if name = entry.1 then (emitted.find? name).map (⟨entry.2, ·⟩) else none).or
        (manifest.artifacts.find? name) := by
  unfold recorded
  by_cases same : name = entry.1
  · subst same
    cases emitted.find? entry.1 with
    | none => simp
    | some hash => simp [Manifest.record]
  · cases emitted.find? entry.1 with
    | none => simp [same]
    | some hash => simp [same, Manifest.record, NameMap.find?_insert]

theorem find?_foldl_recorded (emitted : NameMap String) (entries : List (String × String))
    (manifest : Manifest) (name : String) :
    (entries.foldl (recorded emitted) manifest).artifacts.find? name =
      ((entries.reverse.find? (·.1 == name)).bind fun entry =>
        (emitted.find? name).map (⟨entry.2, ·⟩)).or (manifest.artifacts.find? name) := by
  induction entries generalizing manifest with
  | nil => rfl
  | cons entry rest ih =>
    rw [List.foldl_cons, ih, find?_recorded, List.reverse_cons, List.find?_append]
    cases emitted.find? name with
    | none => cases rest.reverse.find? (·.1 == name) <;> by_cases same : name = entry.1 <;> simp [same]
    | some hash =>
      cases rest.reverse.find? (·.1 == name) with
      | some last => simp
      | none =>
        by_cases same : name = entry.1
        · simp [same]
        · simp [same, Ne.symm same]

theorem find?_manifestOf (setting : PipelineSetting) (report : GenerationReport)
    (emitted : NameMap String) (name : String) :
    (manifestOf setting report emitted).artifacts.find? name =
      (report.units.find? name).bind fun feature => (emitted.find? name).map (⟨feature, ·⟩) := by
  have last := NameMap.find?_ofList report.units.entries name
  rw [NameMap.ofList_entries] at last
  rw [manifestOf_eq, find?_foldl_recorded, last]
  cases report.units.entries.reverse.find? (·.1 == name) <;> simp [Manifest.new]

/-! ### The manifest of some units -/

theorem find?_unitManifest (setting : PipelineSetting) (units : List PreparedUnit) (name : String) :
    (unitManifest setting units).artifacts.find? name =
      (PreparedUnit.lastWrite? units name).map fun (unit, artifact) =>
        ⟨unit.feature, Digest.Sha256.hexOfText artifact.source⟩ := by
  rw [unitManifest, find?_manifestOf, PreparedUnit.find?_units, DirectorySink.find?_digests,
    PreparedUnit.lastText?_journal]
  cases PreparedUnit.lastWrite? units name <;> simp

theorem contains_unitManifest_iff (setting : PipelineSetting) (units : List PreparedUnit)
    (name : String) : (unitManifest setting units).artifacts.contains name = true ↔
      ∃ text, lastText? (PreparedUnit.journal units) name = some text := by
  rw [NameMap.contains, find?_unitManifest, PreparedUnit.lastText?_journal]
  cases PreparedUnit.lastWrite? units name <;> simp

theorem contains_units_iff (count : Nat) (units : List PreparedUnit) (name : String) :
    (GenerationReport.ofUnits count units).units.contains name = true ↔
      ∃ text, lastText? (PreparedUnit.journal units) name = some text := by
  rw [NameMap.contains, PreparedUnit.find?_units, PreparedUnit.lastText?_journal]
  cases PreparedUnit.lastWrite? units name <;> simp

theorem unitManifest_unnamed_iff (setting : PipelineSetting) (units : List PreparedUnit)
    (name : String) : (unitManifest setting units).artifacts.contains name = false ↔
      lastText? (PreparedUnit.journal units) name = none := by
  rw [← Bool.not_eq_true, contains_unitManifest_iff, ← Option.ne_none_iff_exists', not_not]

theorem units_unnamed_iff (count : Nat) (units : List PreparedUnit) (name : String) :
    (GenerationReport.ofUnits count units).units.contains name = false ↔
      lastText? (PreparedUnit.journal units) name = none := by
  rw [← Bool.not_eq_true, contains_units_iff, ← Option.ne_none_iff_exists', not_not]

theorem unitManifest_spec (setting : PipelineSetting) (units : List PreparedUnit) :
    (unitManifest setting units).generatorVersion = Manifest.version ∧
      (unitManifest setting units).suffix = setting.convention.suffix ∧
      (unitManifest setting units).templateFingerprint = setting.renderer.fingerprint := by
  have kept : ∀ (emitted : NameMap String) (entries : List (String × String)) (manifest : Manifest),
      (entries.foldl (recorded emitted) manifest).generatorVersion = manifest.generatorVersion ∧
      (entries.foldl (recorded emitted) manifest).suffix = manifest.suffix ∧
      (entries.foldl (recorded emitted) manifest).templateFingerprint =
        manifest.templateFingerprint := by
    intro emitted entries
    induction entries with
    | nil => exact fun manifest => ⟨rfl, rfl, rfl⟩
    | cons entry rest ih =>
      intro manifest
      obtain ⟨version, suffix, fingerprint⟩ := ih (recorded emitted manifest entry)
      rw [List.foldl_cons, version, suffix, fingerprint]
      unfold recorded
      cases emitted.find? entry.1 <;> exact ⟨rfl, rfl, rfl⟩
  exact kept _ _ _

/-- Units of the same contents have the same manifest. -/
theorem unitManifest_congr (setting : PipelineSetting) {units units' : List PreparedUnit}
    (same : units'.map PreparedUnit.content = units.map PreparedUnit.content) :
    unitManifest setting units' = unitManifest setting units := by
  rw [unitManifest, unitManifest, manifestOf_eq, manifestOf_eq, PreparedUnit.units_congr same,
    PreparedUnit.journal_congr same]

end Scaffold.Generator
