import Scaffold.Proofs.NameMap.Gather
import Scaffold.Proofs.Pipeline.Prepare
import Scaffold.Proofs.Sink.Journal

/-! A successful run prepares its units, emits their files in order and reports them. The units stay
remembered, so that the same declarations come to the same files from then on. -/

namespace Scaffold

namespace PreparedUnit

/-- The files of some units in order. -/
def journal (units : List PreparedUnit) : Journal := units.flatMap (·.artifacts)

/-- The files of some units in order, each with its unit. -/
def writes (units : List PreparedUnit) : List (PreparedUnit × Artifact) :=
  units.flatMap fun unit => unit.artifacts.map (unit, ·)

/-- The last file of a name, with its unit. -/
def lastWrite? (units : List PreparedUnit) (name : String) : Option (PreparedUnit × Artifact) :=
  (writes units).reverse.find? (·.2.fileName == name)

theorem lastWrite?_spec {units : List PreparedUnit} {name : String} {unit : PreparedUnit}
    {artifact : Artifact} (last : lastWrite? units name = some (unit, artifact)) :
    unit ∈ units ∧ artifact ∈ unit.artifacts ∧ artifact.fileName = name := by
  have named : artifact.fileName = name := by simpa using List.find?_some last
  have member := List.mem_reverse.mp (List.mem_of_find?_eq_some last)
  obtain ⟨unit', listed, member⟩ := List.mem_flatMap.mp member
  obtain ⟨artifact', emitted, same⟩ := List.mem_map.mp member
  obtain ⟨rfl, rfl⟩ := Prod.mk.inj same
  exact ⟨listed, emitted, named⟩

theorem lastText?_journal (units : List PreparedUnit) (name : String) :
    lastText? (journal units) name = (lastWrite? units name).map (·.2.source) := by
  have listed : journal units = (writes units).map (·.2) := by
    rw [journal, writes, List.map_flatMap]
    simp [Function.comp_def]
  rw [lastText?, lastWrite?, listed, ← List.map_reverse, List.find?_map, Option.map_map]
  rfl

/-- A report from the files that were written, in order. -/
theorem ofUnits_eq (count : Nat) (units : List PreparedUnit) : GenerationReport.ofUnits count units =
    { declarations := count
      triggers := units.length
      emitted := (writes units).length
      memoHits := units.countP (·.fromCache)
      collisions := ((NameMap.gather ((writes units).map fun write =>
        (write.2.fileName, write.1.trigger))).entries.filter fun (_, triggers) =>
          triggers.length > 1).map fun (file, triggers) => ⟨file, triggers⟩
      units := NameMap.ofList ((writes units).map fun write =>
        (write.2.fileName, write.1.feature)) } := by
  have listed : (units.flatMap fun unit => unit.artifacts.map fun artifact =>
      (artifact.fileName, unit)) = (writes units).map fun write => (write.2.fileName, write.1) := by
    rw [writes, List.map_flatMap]
    simp [Function.comp_def]
  rw [GenerationReport.ofUnits, listed, List.foldl_map, List.length_map, List.map_map,
    ← List.countP_eq_length_filter, NameMap.gather, List.foldl_map]
  rfl

/-- The report names each file with the feature that wrote it last. -/
theorem find?_units (count : Nat) (units : List PreparedUnit) (name : String) :
    (GenerationReport.ofUnits count units).units.find? name =
      (lastWrite? units name).map (·.1.feature) := by
  rw [ofUnits_eq, NameMap.find?_ofList, lastWrite?, ← List.map_reverse, List.find?_map, Option.map_map]
  rfl

theorem map_content_filterMap_congr {prepared prepared' : List (Option PreparedUnit)}
    (same : prepared'.map (Option.map content) = prepared.map (Option.map content)) :
    (prepared'.filterMap id).map content = (prepared.filterMap id).map content := by
  have units_of : ∀ prepared : List (Option PreparedUnit),
      (prepared.filterMap id).map content = (prepared.map (Option.map content)).filterMap id := by
    intro prepared
    rw [List.map_filterMap, List.filterMap_map]
    rfl
  rw [units_of, same, ← units_of]

/-- Units of the same contents write the same files in the same order. -/
theorem journal_congr {units units' : List PreparedUnit}
    (same : units'.map content = units.map content) : journal units' = journal units := by
  have listed : ∀ units, journal units = (units.map content).flatMap (·.2.2) := by
    intro units
    rw [journal, List.flatMap_map]
    rfl
  rw [listed, listed, same]

theorem units_congr {count count' : Nat} {units units' : List PreparedUnit}
    (same : units'.map content = units.map content) :
    (GenerationReport.ofUnits count' units').units = (GenerationReport.ofUnits count units).units := by
  have listed : ∀ count units, (GenerationReport.ofUnits count units).units =
      NameMap.ofList ((units.map content).flatMap fun (_, feature, artifacts) =>
        artifacts.map fun artifact => (artifact.fileName, feature)) := by
    intro count units
    rw [List.flatMap_map]
    change NameMap.ofList _ = _
    rw [List.map_flatMap]
    simp [content, Function.comp_def]
  rw [listed, listed, same]

end PreparedUnit

namespace Pipeline

variable {σ : Type}

/-! ### Memory of units -/

/-- All that one pipeline remembers, and its setting, another one has too. -/
structure Extends (before after : Pipeline) : Prop where
  setting : after.setting = before.setting
  memo : ∀ key artifacts, before.memo.find? key = some artifacts →
    after.memo.find? key = some artifacts

theorem Extends.refl (pipeline : Pipeline) : Extends pipeline pipeline := ⟨rfl, fun _ _ => id⟩

theorem Extends.trans {first second third : Pipeline} (earlier : Extends first second)
    (later : Extends second third) : Extends first third :=
  ⟨later.setting.trans earlier.setting, fun key artifacts found =>
    later.memo key artifacts (earlier.memo key artifacts found)⟩

theorem Extends.remembered? {before after : Pipeline} (extended : Extends before after)
    {feature : String} {artifacts : List Artifact} (found : before.remembered? feature = some artifacts) :
    after.remembered? feature = some artifacts := by
  rw [Pipeline.remembered?, extended.setting]
  exact extended.memo _ _ found

theorem extends_afterUnit (pipeline : Pipeline) (declaration : Declaration) :
    Extends pipeline (pipeline.afterUnit declaration) := by
  refine ⟨setting_afterUnit pipeline declaration, fun key artifacts found => ?_⟩
  rcases afterUnit_cases pipeline declaration with same | ⟨feature, fresh, -, new, -, kept⟩
  · rwa [same]
  · have different : key ≠ pipeline.setting.memoKey feature := by
      rintro rfl
      rw [Pipeline.remembered?, found] at new
      contradiction
    rwa [kept, remember, NameMap.find?_insert_of_ne _ _ different]

/-- A prepared unit is remembered. -/
theorem unitOf_spec {pipeline : Pipeline} {declaration : Declaration} {unit : PreparedUnit}
    (prepared : pipeline.unitOf declaration = .ok (some unit)) :
    unit.trigger = declaration.name ∧
      pipeline.setting.convention.feature? declaration = some unit.feature ∧
      (pipeline.afterUnit declaration).remembered? unit.feature = some unit.artifacts := by
  obtain ⟨trigger, named, served⟩ := unitOf_eq_some_iff.mp prepared
  refine ⟨trigger, named, ?_⟩
  cases cached : unit.fromCache with
  | true =>
    rw [cached] at served
    simp only [afterUnit, named, served]
    exact served_remembered_iff.mp served
  | false =>
    rw [cached] at served
    simp only [afterUnit, named, served]
    exact NameMap.find?_insert_self _ _ _

/-- What is remembered is prepared again, and nothing else is remembered then. -/
theorem unitOf_of_remembered {pipeline : Pipeline} {declaration : Declaration} {feature : String}
    {artifacts : List Artifact}
    (named : pipeline.setting.convention.feature? declaration = some feature)
    (found : pipeline.remembered? feature = some artifacts) :
    pipeline.unitOf declaration = .ok (some ⟨declaration.name, feature, artifacts, true⟩) ∧
      pipeline.afterUnit declaration = pipeline := by
  have served : pipeline.served feature = .ok (artifacts, true) := served_remembered_iff.mpr found
  simp [unitOf, afterUnit, named, served, Except.map]

theorem unitOf_of_no_feature {pipeline : Pipeline} {declaration : Declaration}
    (unnamed : pipeline.setting.convention.feature? declaration = none) :
    pipeline.unitOf declaration = .ok none ∧ pipeline.afterUnit declaration = pipeline := by
  simp [unitOf, afterUnit, unnamed]

theorem blind_prepare (declaration : Declaration) : (prepare declaration).Blind :=
  fun pipeline => ⟨_, _, prepare_ends declaration pipeline⟩

theorem blind_mapM_prepare (declarations : List Declaration) : (declarations.mapM prepare).Blind :=
  fun pipeline =>
    let ⟨result, after, ends, _⟩ := mapM_prepare_ends declarations pipeline
    ⟨result, after, ends⟩

theorem ends_mapM_prepare_cons {declaration : Declaration} {rest : List Declaration}
    {pipeline middle after : Pipeline} {unit : Option PreparedUnit}
    {others : List (Option PreparedUnit)} (first : (prepare declaration).Ends pipeline (.ok unit) middle)
    (done : (rest.mapM prepare).Ends middle (.ok others) after) :
    ((declaration :: rest).mapM prepare).Ends pipeline (.ok (unit :: others)) after := by
  rw [List.mapM_cons]
  exact first.bind (done.bind (Task.ends_pure _ _))

theorem mapM_prepare_nil {pipeline after : Pipeline} {prepared : List (Option PreparedUnit)}
    (ends : ([].mapM prepare).Ends pipeline (.ok prepared) after) :
    prepared = [] ∧ after = pipeline := by
  obtain ⟨listed, same⟩ := ends.unique (Task.ends_pure _ _)
  exact ⟨Except.ok.inj listed, same⟩

theorem mapM_prepare_cons {declaration : Declaration} {rest : List Declaration}
    {pipeline after : Pipeline} {prepared : List (Option PreparedUnit)}
    (ends : ((declaration :: rest).mapM prepare).Ends pipeline (.ok prepared) after) :
    ∃ unit others, pipeline.unitOf declaration = .ok unit ∧ prepared = unit :: others ∧
      (rest.mapM prepare).Ends (pipeline.afterUnit declaration) (.ok others) after := by
  rw [List.mapM_cons] at ends
  obtain ⟨unit, middle, first, ends⟩ := ends.of_bind (blind_prepare declaration) fun unit =>
    (blind_mapM_prepare rest).bind fun others => Task.blind_pure _
  obtain ⟨others, last, done, same⟩ := ends.of_bind (blind_mapM_prepare rest)
    fun others => Task.blind_pure _
  obtain ⟨served, rfl⟩ := first.unique (prepare_ends declaration pipeline)
  obtain ⟨listed, rfl⟩ := same.unique (Task.ends_pure _ _)
  exact ⟨unit, others, served.symm, Except.ok.inj listed, done⟩

theorem extends_of_mapM_prepare {declarations : List Declaration} {pipeline after : Pipeline}
    {prepared : List (Option PreparedUnit)}
    (ends : (declarations.mapM prepare).Ends pipeline (.ok prepared) after) : Extends pipeline after := by
  induction declarations generalizing pipeline prepared with
  | nil =>
    obtain ⟨-, rfl⟩ := mapM_prepare_nil ends
    exact .refl _
  | cons declaration rest ih =>
    obtain ⟨unit, others, -, -, done⟩ := mapM_prepare_cons ends
    exact (extends_afterUnit pipeline declaration).trans (ih done)

/-- Declarations that were prepared once come to the same contents in any pipeline that still
remembers them, and add nothing to its memory. -/
theorem mapM_prepare_again {declarations : List Declaration} {pipeline after later : Pipeline}
    {prepared : List (Option PreparedUnit)}
    (ends : (declarations.mapM prepare).Ends pipeline (.ok prepared) after)
    (extended : Extends after later) :
    ∃ again, (declarations.mapM prepare).Ends later (.ok again) later ∧
      again.map (Option.map PreparedUnit.content) = prepared.map (Option.map PreparedUnit.content) := by
  induction declarations generalizing pipeline prepared with
  | nil =>
    obtain ⟨rfl, rfl⟩ := mapM_prepare_nil ends
    exact ⟨[], Task.ends_pure _ _, rfl⟩
  | cons declaration rest ih =>
    obtain ⟨unit, others, served, rfl, done⟩ := mapM_prepare_cons ends
    obtain ⟨again, ends', same⟩ := ih done
    have remains := (extends_of_mapM_prepare done).trans extended
    have setting : later.setting = pipeline.setting := by
      rw [remains.setting, setting_afterUnit]
    have first := prepare_ends declaration later
    cases unit with
    | none =>
      have unnamed := unitOf_eq_none_iff.mp served
      rw [← setting] at unnamed
      obtain ⟨served', idle⟩ := unitOf_of_no_feature unnamed
      rw [served', idle] at first
      exact ⟨none :: again, ends_mapM_prepare_cons first ends', by simp [same]⟩
    | some unit =>
      obtain ⟨trigger, named, kept⟩ := unitOf_spec served
      rw [← setting] at named
      obtain ⟨served', idle⟩ := unitOf_of_remembered named (remains.remembered? kept)
      rw [served', idle] at first
      exact ⟨_ :: again, ends_mapM_prepare_cons first ends',
        by simp [same, PreparedUnit.content, trigger]⟩

theorem remembered_of_prepared {declarations : List Declaration} {pipeline after : Pipeline}
    {prepared : List (Option PreparedUnit)} {unit : PreparedUnit}
    (ends : (declarations.mapM prepare).Ends pipeline (.ok prepared) after)
    (member : some unit ∈ prepared) :
    (∃ declaration ∈ declarations,
      pipeline.setting.convention.feature? declaration = some unit.feature) ∧
      after.remembered? unit.feature = some unit.artifacts := by
  induction declarations generalizing pipeline prepared with
  | nil =>
    obtain ⟨rfl, -⟩ := mapM_prepare_nil ends
    simp at member
  | cons declaration rest ih =>
    obtain ⟨first, others, served, rfl, done⟩ := mapM_prepare_cons ends
    rcases List.mem_cons.mp member with rfl | later
    · obtain ⟨-, named, kept⟩ := unitOf_spec served
      exact ⟨⟨declaration, by simp, named⟩, (extends_of_mapM_prepare done).remembered? kept⟩
    · obtain ⟨⟨other, listed, named⟩, kept⟩ := ih done later
      rw [setting_afterUnit] at named
      exact ⟨⟨other, by simp [listed], named⟩, kept⟩

/-! ### Failing preparations -/

/-- A declaration is not prepared if its feature is new and does not render. -/
theorem unitOf_eq_error_iff {pipeline : Pipeline} {declaration : Declaration} {fault : Fault} :
    pipeline.unitOf declaration = .error fault ↔ ∃ feature,
      pipeline.setting.convention.feature? declaration = some feature ∧
      pipeline.remembered? feature = none ∧ pipeline.setting.rendered feature = .error fault := by
  simp only [← served_eq_error_iff]
  unfold unitOf
  cases pipeline.setting.convention.feature? declaration with
  | none => simp
  | some feature => cases found : pipeline.served feature <;> simp [Except.map, found]

theorem afterUnit_of_error {pipeline : Pipeline} {declaration : Declaration} {fault : Fault}
    (failed : pipeline.unitOf declaration = .error fault) : pipeline.afterUnit declaration = pipeline := by
  obtain ⟨feature, named, new, rendered⟩ := unitOf_eq_error_iff.mp failed
  simp [afterUnit, served, named, new, rendered, Except.map]

/-- What fails with more remembered fails with less. -/
theorem Extends.unitOf_error {before after : Pipeline} (extended : Extends before after)
    {declaration : Declaration} {fault : Fault} (failed : after.unitOf declaration = .error fault) :
    before.unitOf declaration = .error fault := by
  obtain ⟨feature, named, new, rendered⟩ := unitOf_eq_error_iff.mp failed
  rw [extended.setting] at named rendered
  refine unitOf_eq_error_iff.mpr ⟨feature, named, ?_, rendered⟩
  cases found : before.remembered? feature with
  | none => rfl
  | some artifacts => exact absurd (extended.remembered? found) (by simp [new])

/-! ### Faithful memory -/

/-- The features that some declarations ask for. -/
def featuresOf (setting : PipelineSetting) (declarations : List Declaration) : List String :=
  declarations.filterMap setting.convention.feature?

theorem mem_featuresOf_iff {setting : PipelineSetting} {declarations : List Declaration}
    {feature : String} : feature ∈ featuresOf setting declarations ↔
      ∃ declaration ∈ declarations, setting.convention.feature? declaration = some feature :=
  List.mem_filterMap

/-- What is remembered for some features is what they render to. -/
def Faithful (pipeline : Pipeline) (features : List String) : Prop :=
  ∀ feature ∈ features, ∀ artifacts, pipeline.remembered? feature = some artifacts →
    pipeline.setting.rendered feature = .ok artifacts

/-- No two of some features share a key. -/
def TellsApart (setting : PipelineSetting) (features : List String) : Prop :=
  ∀ first ∈ features, ∀ second ∈ features, setting.memoKey first = setting.memoKey second →
    first = second

theorem Faithful.afterUnit {pipeline : Pipeline} {features : List String} {declaration : Declaration}
    (faithful : pipeline.Faithful features) (apart : TellsApart pipeline.setting features)
    (listed : ∀ feature, pipeline.setting.convention.feature? declaration = some feature →
      feature ∈ features) : (pipeline.afterUnit declaration).Faithful features := by
  intro other member artifacts found
  rw [Pipeline.remembered?, setting_afterUnit] at found
  rw [setting_afterUnit]
  rcases find?_afterUnit found with before | ⟨feature, named, sameKey, rendered⟩
  · exact faithful other member artifacts before
  · rw [apart other member feature (listed feature named) sameKey, rendered]

/-- What is served from a faithful memory is what was rendered, as it is otherwise. -/
theorem Faithful.rendered_of_served {pipeline : Pipeline} {features : List String} {feature : String}
    {artifacts : List Artifact} {cached : Bool} (faithful : pipeline.Faithful features)
    (member : feature ∈ features) (served : pipeline.served feature = .ok (artifacts, cached)) :
    pipeline.setting.rendered feature = .ok artifacts := by
  cases cached with
  | true => exact faithful feature member artifacts (served_remembered_iff.mp served)
  | false => exact (served_fresh_iff.mp served).2

/-- A run leaves a faithful memory faithful. -/
theorem Faithful.mapM_prepare {declarations : List Declaration} {pipeline after : Pipeline}
    {features : List String} {result : Except Fault (List (Option PreparedUnit))}
    (faithful : pipeline.Faithful features)
    (ends : (declarations.mapM prepare).Ends pipeline result after)
    (apart : TellsApart pipeline.setting features)
    (listed : ∀ declaration ∈ declarations, ∀ feature,
      pipeline.setting.convention.feature? declaration = some feature → feature ∈ features) :
    after.Faithful features := by
  obtain ⟨result', after', ends', kept⟩ := mapM_prepare_ends declarations pipeline
  obtain ⟨-, rfl⟩ := ends.unique ends'
  refine (kept (fun middle => middle.setting = pipeline.setting ∧ middle.Faithful features)
    ⟨rfl, faithful⟩ ?_).2
  rintro declaration member middle ⟨setting, holds⟩
  refine ⟨by rw [setting_afterUnit, setting], holds.afterUnit (setting ▸ apart) ?_⟩
  rw [setting]
  exact listed declaration member

/-! ### Runs -/

theorem deliver_ends {sink : Sink σ} {prepared : List (Option PreparedUnit)} {start state : σ}
    {result : Except Fault Unit} (count : Nat)
    (emitted : (sink.emitAll (PreparedUnit.journal (prepared.filterMap id))).Ends start result state) :
    (deliver sink count prepared).Ends start
      (result.map fun _ => .ofUnits count (prepared.filterMap id)) state := by
  have reports : ∀ (report : GenerationReport) (state : σ),
      (forIn report.collisions PUnit.unit fun collision _ => do
        Task.warn (.collision collision.fileName collision.triggers)
        pure (ForInStep.yield PUnit.unit) : Task Fault σ PUnit).Ends state (.ok ⟨⟩) state :=
    fun report state =>
      Task.ends_warnings (fun collision state => (Task.ends_warn _ _).bind (Task.ends_pure _ _)) state
  rw [PreparedUnit.journal, ← Sink.forM_emitUnit] at emitted
  cases result with
  | error fault => exact emitted.bind_error
  | ok _ => exact emitted.bind ((reports _ _).bind (Task.ends_pure _ _))

theorem blind_deliver {sink : Sink σ} (blind : ∀ name text, (sink.emit name text).Blind) (count : Nat)
    (prepared : List (Option PreparedUnit)) : (deliver sink count prepared).Blind := fun start =>
  let ⟨_, _, emitted⟩ := Sink.blind_emitAll blind (PreparedUnit.journal (prepared.filterMap id)) start
  ⟨_, _, deliver_ends count emitted⟩

theorem blind_run {sink : Sink σ} (blind : ∀ name text, (sink.emit name text).Blind)
    (declarations : List Declaration) : (run sink declarations).Blind :=
  (blind_mapM_prepare declarations).zoom.bind fun _ => (blind_deliver blind _ _).zoom

theorem run_ends_of_unprepared {declarations : List Declaration} {pipeline after : Pipeline}
    {fault : Fault} (failed : (declarations.mapM prepare).Ends pipeline (.error fault) after)
    (sink : Sink σ) (start : σ) :
    (run sink declarations).Ends (pipeline, start) (.error fault) (after, start) :=
  failed.onFirst.bind_error

theorem run_ends_of_prepared {sink : Sink σ} {declarations : List Declaration}
    {pipeline after : Pipeline} {start state : σ} {prepared : List (Option PreparedUnit)}
    {result : Except Fault Unit}
    (done : (declarations.mapM prepare).Ends pipeline (.ok prepared) after)
    (emitted : (sink.emitAll (PreparedUnit.journal (prepared.filterMap id))).Ends start result state) :
    (run sink declarations).Ends (pipeline, start)
      (result.map fun _ => .ofUnits declarations.length (prepared.filterMap id)) (after, state) :=
  done.onFirst.bind (deliver_ends _ emitted).onSecond

theorem run_ends_iff {sink : Sink σ} (blind : ∀ name text, (sink.emit name text).Blind)
    {declarations : List Declaration} {before after : Pipeline × σ} {report : GenerationReport} :
    (run sink declarations).Ends before (.ok report) after ↔
      ∃ prepared, (declarations.mapM prepare).Ends before.1 (.ok prepared) after.1 ∧
        (sink.emitAll (PreparedUnit.journal (prepared.filterMap id))).Ends before.2 (.ok ()) after.2 ∧
        report = .ofUnits declarations.length (prepared.filterMap id) := by
  obtain ⟨pipeline, state⟩ := before
  constructor
  · intro ends
    obtain ⟨result, pipeline', done⟩ := blind_mapM_prepare declarations pipeline
    cases result with
    | error fault => exact absurd (ends.unique (run_ends_of_unprepared done sink state)).1 (by simp)
    | ok prepared =>
      obtain ⟨emission, state', emitted⟩ :=
        Sink.blind_emitAll blind (PreparedUnit.journal (prepared.filterMap id)) state
      obtain ⟨same, rfl⟩ := ends.unique (run_ends_of_prepared done emitted)
      cases emission with
      | error fault => contradiction
      | ok _ => exact ⟨prepared, done, emitted, Except.ok.inj same⟩
  · rintro ⟨prepared, done, emitted, rfl⟩
    exact run_ends_of_prepared done emitted

end Pipeline

end Scaffold
