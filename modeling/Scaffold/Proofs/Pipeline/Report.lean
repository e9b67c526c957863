import Scaffold.Proofs.Pipeline.Agreement
import Scaffold.Proofs.Pipeline.Growth
import Scaffold.Proofs.Pipeline.Memo

/-! The report of a run in numbers: how many declarations, units and files there were, which files were
written more than once and by whom, and how many units were remembered. Every file that is written
counts, either as the one that a unit is left with or as one that a collision tells of. -/

namespace Scaffold

/-! ### Files of a unit -/

theorem Renderer.length_of_render {renderer : Renderer} {feature : String} {artifacts : List Artifact}
    (rendered : renderer.render feature = .ok artifacts) : artifacts.length = renderer.specs.length :=
  (Except.forall₂_of_mapM rendered).length_eq.symm

theorem PipelineSetting.length_of_rendered {setting : PipelineSetting} {feature : String}
    {artifacts : List Artifact} (rendered : setting.rendered feature = .ok artifacts) :
    artifacts.length = setting.renderer.specs.length := by
  obtain ⟨raw, made, finished⟩ := Except.bind_eq_ok.mp rendered
  rw [← (Except.forall₂_of_mapM finished).length_eq, Renderer.length_of_render made]

/-! ### Files that collide -/

namespace PreparedUnit

/-- The triggers that write a file, in the order of writing. -/
def writersOf (units : List PreparedUnit) (name : String) : List String :=
  ((writes units).filter (·.2.fileName == name)).map (·.1.trigger)

/-- A trigger writes a file at most as often as its units have files. -/
theorem count_writersOf_le {units : List PreparedUnit} {size : Nat}
    (sized : ∀ unit ∈ units, unit.artifacts.length = size) (name trigger : String) :
    (writersOf units name).count trigger ≤ units.countP (·.trigger == trigger) * size := by
  have fewer : (writersOf units name).count trigger ≤ (writes units).countP (·.1.trigger == trigger) := by
    rw [writersOf, List.count, List.countP_map]
    exact List.filter_sublist.countP_le
  refine fewer.trans ?_
  clear fewer
  induction units with
  | nil => simp [writes]
  | cons unit rest ih =>
    obtain ⟨here, later⟩ := List.forall_mem_cons.mp sized
    have first : (unit.artifacts.map (unit, ·)).countP (·.1.trigger == trigger) =
        if unit.trigger == trigger then size else 0 := by
      rw [List.countP_map]
      by_cases same : (unit.trigger == trigger) = true <;> simp [same, Function.comp_def, here]
    rw [writes, List.flatMap_cons, List.countP_append, first, List.countP_cons, Nat.add_mul]
    have rest := ih later
    rw [writes] at rest
    split <;> omega

theorem valuesOf_triggers (units : List PreparedUnit) (name : String) :
    NameMap.valuesOf ((writes units).map fun write => (write.2.fileName, write.1.trigger)) name =
      writersOf units name := by
  rw [NameMap.valuesOf, writersOf, List.filter_map, List.map_map]
  rfl

theorem mem_collisions_iff {count : Nat} {units : List PreparedUnit} {collision : Collision} :
    collision ∈ (GenerationReport.ofUnits count units).collisions ↔
      collision.triggers = writersOf units collision.fileName ∧ 1 < collision.triggers.length := by
  obtain ⟨fileName, triggers⟩ := collision
  simp only [ofUnits_eq, List.mem_map, List.mem_filter, decide_eq_true_eq, Prod.exists,
    Collision.mk.injEq, ← NameMap.find?_eq_some_iff, NameMap.find?_gather_eq_some_iff,
    valuesOf_triggers]
  constructor
  · rintro ⟨_, _, ⟨⟨written, -⟩, several⟩, rfl, rfl⟩
    exact ⟨written, several⟩
  · rintro ⟨written, several⟩
    exact ⟨_, _, ⟨⟨written, List.length_pos_iff.mp (Nat.zero_lt_of_lt several)⟩, several⟩, rfl, rfl⟩

theorem ascending_collisions (count : Nat) (units : List PreparedUnit) :
    (GenerationReport.ofUnits count units).collisions.Pairwise
      fun first second => first.fileName < second.fileName := by
  rw [ofUnits_eq]
  exact List.pairwise_map.mpr ((NameMap.gather _).ascending.filter _)

/-- Every write is the one that its file is left with, or makes a collision longer. -/
theorem emitted_eq (count : Nat) (units : List PreparedUnit) :
    (GenerationReport.ofUnits count units).emitted =
      (GenerationReport.ofUnits count units).units.size +
        ((GenerationReport.ofUnits count units).collisions.map
          fun collision => collision.triggers.length - 1).sum := by
  obtain ⟨entries, listed⟩ :
      ∃ entries, ((writes units).map fun write => (write.2.fileName, write.1.trigger)) = entries := ⟨_, rfl⟩
  have unit_keys : (GenerationReport.ofUnits count units).units.keys.Perm
      (entries.map (·.1)).dedup := by
    refine NameMap.keys_perm_dedup _ fun key => ?_
    rw [ofUnits_eq, NameMap.isSome_find?_ofList, List.map_map, ← listed, List.map_map]
    rfl
  have size : (NameMap.gather entries).size = (GenerationReport.ofUnits count units).units.size := by
    simpa [NameMap.keys, NameMap.size] using ((NameMap.keys_gather entries).trans unit_keys.symm).length_eq
  have excess : ((GenerationReport.ofUnits count units).collisions.map
      fun collision => collision.triggers.length - 1) =
      (((NameMap.gather entries).values.filter fun list => list.length > 1).map
        fun list => list.length - 1) := by
    rw [ofUnits_eq, listed, NameMap.values, List.filter_map, List.map_map, List.map_map]
    rfl
  rw [excess, ← size, ← NameMap.length_eq_of_gather, ← listed, List.length_map, ofUnits_eq]

end PreparedUnit

namespace Pipeline

variable {σ : Type}

/-! ### Units of triggers -/

theorem isTrigger_eq_isSome_feature? (convention : Convention) (declaration : Declaration) :
    convention.isTrigger declaration = (convention.feature? declaration).isSome := by
  unfold Convention.feature?
  split <;> simp_all

section Prepares

variable {allowed : Batch → Prop} {before after : Pipeline} {declarations : List Declaration}
  {prepared : List (Option PreparedUnit)}
  (done : Prepares allowed declarations before (.ok prepared) after)

include done

theorem Prepares.length_units : (prepared.filterMap id).length = declarations.countP fun declaration =>
    (before.setting.convention.feature? declaration).isSome := by
  rw [← List.length_map (fun unit : PreparedUnit => (unit.trigger, unit.feature)), done.units,
    List.length_filterMap_eq_countP]
  simp only [Option.isSome_map]

/-- As many units have a trigger of some name as there are such triggers. -/
theorem Prepares.countP_trigger (name : String) :
    (prepared.filterMap id).countP (·.trigger == name) = declarations.countP fun declaration =>
      before.setting.convention.isTrigger declaration && declaration.name == name := by
  calc (prepared.filterMap id).countP (·.trigger == name)
      = ((prepared.filterMap id).map fun unit => (unit.trigger, unit.feature)).countP (·.1 == name) := by
        rw [List.countP_map]
        rfl
    _ = declarations.countP fun declaration =>
        before.setting.convention.isTrigger declaration && declaration.name == name := by
      rw [done.units, List.countP_filterMap]
      refine List.countP_congr fun declaration _ => ?_
      rw [isTrigger_eq_isSome_feature?]
      cases before.setting.convention.feature? declaration <;> simp

/-- A unit of a feature that was remembered comes from memory. -/
theorem Prepares.countP_remembered_le : (featuresOf before.setting declarations).countP
    (fun feature => (before.remembered? feature).isSome) ≤
      (prepared.filterMap id).countP (·.fromCache) := by
  rw [← done.features, List.countP_map]
  refine List.countP_mono_left fun unit member remembered => ?_
  have listed : some unit ∈ prepared := by simpa using member
  obtain ⟨declaration, -, fits⟩ := done.fits_of_unit listed
  cases fits with
  | prepared _ _ _ _ fresh =>
    cases cached : unit.fromCache with
    | true => rfl
    | false =>
      rw [Function.comp_apply, fresh cached] at remembered
      contradiction

end Prepares

/-! ### Units in turn -/

/-- How many of some features are known when their turn comes, be it that they were known before or that
they occur earlier. -/
def knownInTurn (known : String → Bool) (features : List String) : Nat :=
  features.zipIdx.countP fun (feature, place) => known feature || (features.take place).contains feature

theorem knownInTurn_cons (known : String → Bool) (feature : String) (rest : List String) :
    knownInTurn known (feature :: rest) =
      knownInTurn (fun other => known other || other == feature) rest + (if known feature then 1 else 0) := by
  have shifted : (feature :: rest).zipIdx =
      (feature, 0) :: rest.zipIdx.map fun (other, place) => (other, place + 1) := by
    rw [List.zipIdx_cons, Nat.zero_add, List.zipIdx_succ]
  rw [knownInTurn, shifted, List.countP_cons, List.countP_map, knownInTurn]
  congr 1
  · refine List.countP_congr fun pair _ => ?_
    simp [Bool.or_assoc]
  · simp

theorem knownInTurn_congr {known known' : String → Bool} {features : List String}
    (alike : ∀ feature ∈ features, known' feature = known feature) :
    knownInTurn known' features = knownInTurn known features := by
  refine List.countP_congr fun pair member => ?_
  obtain ⟨feature, place⟩ := pair
  dsimp only
  rw [alike feature (List.fst_mem_of_mem_zipIdx member)]

theorem fromCache_of_unitOf {pipeline : Pipeline} {declaration : Declaration} {unit : PreparedUnit}
    (prepared : pipeline.unitOf declaration = .ok (some unit)) :
    unit.fromCache = (pipeline.remembered? unit.feature).isSome := by
  obtain ⟨-, -, served⟩ := unitOf_eq_some_iff.mp prepared
  cases cached : unit.fromCache with
  | true => rw [served_remembered_iff.mp (cached ▸ served), Option.isSome_some]
  | false => rw [(served_fresh_iff.mp (cached ▸ served)).1, Option.isSome_none]

/-- A unit adds its feature to what is remembered. -/
theorem isSome_remembered?_afterUnit {pipeline : Pipeline} {declaration : Declaration}
    {unit : PreparedUnit} (prepared : pipeline.unitOf declaration = .ok (some unit)) {feature : String}
    (apart : pipeline.setting.memoKey feature = pipeline.setting.memoKey unit.feature →
      feature = unit.feature) :
    ((pipeline.afterUnit declaration).remembered? feature).isSome =
      ((pipeline.remembered? feature).isSome || feature == unit.feature) := by
  obtain ⟨-, named, kept⟩ := unitOf_spec prepared
  rw [Bool.eq_iff_iff, Bool.or_eq_true, beq_iff_eq]
  constructor
  · intro found
    obtain ⟨artifacts, found⟩ := Option.isSome_iff_exists.mp found
    rw [remembered?, setting_afterUnit] at found
    rcases find?_afterUnit found with before | ⟨feature', named', sameKey, -⟩
    · exact .inl (Option.isSome_iff_exists.mpr ⟨artifacts, before⟩)
    · obtain rfl := Option.some.inj (named.symm.trans named')
      exact .inr (apart sameKey)
  · rintro (before | rfl)
    · obtain ⟨artifacts, before⟩ := Option.isSome_iff_exists.mp before
      exact Option.isSome_iff_exists.mpr
        ⟨artifacts, (extends_afterUnit pipeline declaration).remembered? before⟩
    · exact Option.isSome_iff_exists.mpr ⟨_, kept⟩

/-- The units that are served from memory: those of features that are known in their turn. -/
theorem countP_fromCache {declarations : List Declaration} {pipeline after : Pipeline}
    {prepared : List (Option PreparedUnit)}
    (apart : TellsApart pipeline.setting (featuresOf pipeline.setting declarations))
    (ends : (declarations.mapM prepare).Ends pipeline (.ok prepared) after) :
    (prepared.filterMap id).countP (·.fromCache) =
      knownInTurn (fun feature => (pipeline.remembered? feature).isSome)
        (featuresOf pipeline.setting declarations) := by
  induction declarations generalizing pipeline prepared with
  | nil =>
    obtain ⟨rfl, -⟩ := mapM_prepare_nil ends
    rfl
  | cons declaration rest ih =>
    obtain ⟨unit, others, served, rfl, done⟩ := mapM_prepare_cons ends
    cases unit with
    | none =>
      obtain ⟨-, idle⟩ := unitOf_of_no_feature (unitOf_eq_none_iff.mp served)
      rw [idle] at done
      rw [featuresOf, List.filterMap_cons_none (unitOf_eq_none_iff.mp served)] at apart ⊢
      rw [List.filterMap_cons_none rfl]
      exact ih apart done
    | some unit =>
      obtain ⟨-, named, -⟩ := unitOf_eq_some_iff.mp served
      rw [featuresOf, List.filterMap_cons_some named] at apart ⊢
      have later := ih (by
        rw [setting_afterUnit]
        exact fun first member second member' =>
          apart first (List.mem_cons_of_mem _ member) second (List.mem_cons_of_mem _ member')) done
      rw [setting_afterUnit] at later
      rw [List.filterMap_cons_some (f := id) rfl, List.countP_cons, later, knownInTurn_cons,
        fromCache_of_unitOf served]
      congr 1
      refine knownInTurn_congr fun feature member => ?_
      exact isSome_remembered?_afterUnit served
        (apart feature (List.mem_cons_of_mem _ member) unit.feature List.mem_cons_self)

/-! ### Keys of a run -/

/-- The texts of the keys that some calls and a run after them use. -/
def keysOfRun (setting : PipelineSetting) (calls : List PipelineCall) (declarations : List Declaration) :
    List String :=
  let now := PipelineCall.settingAfterAll setting calls
  (PipelineCall.allLookups setting calls).map (fun (asker, feature) => asker.memoText feature) ++
    (featuresOf now declarations).map now.memoText

/-- No two of some texts share a digest. -/
def DigestsApart (texts : List String) : Prop :=
  ∀ first ∈ texts, ∀ second ∈ texts,
    Digest.Sha256.hexOfText first = Digest.Sha256.hexOfText second → first = second

theorem DigestsApart.pair {first second : String}
    (apart : Digest.Sha256.hexOfText first ≠ Digest.Sha256.hexOfText second) :
    DigestsApart [first, second] := by
  simp [DigestsApart, apart, apart.symm]

theorem DigestsApart.mono {texts texts' : List String} (apart : DigestsApart texts)
    (among : ∀ text ∈ texts', text ∈ texts) : DigestsApart texts' :=
  fun first member second member' => apart first (among first member) second (among second member')

section Keys

variable {setting : PipelineSetting} {calls : List PipelineCall} {declarations : List Declaration}
  (distinct : DigestsApart (keysOfRun setting calls declarations))

theorem memoText_mem_keysOfRun {feature : String}
    (member : feature ∈ featuresOf ((ofSetting setting).afterCalls calls).setting declarations) :
    ((ofSetting setting).afterCalls calls).setting.memoText feature ∈
      keysOfRun setting calls declarations := by
  rw [setting_afterCalls, setting_ofSetting] at member ⊢
  exact List.mem_append_right _ (List.mem_map_of_mem member)

include distinct

theorem DigestsApart.tellsApart : TellsApart ((ofSetting setting).afterCalls calls).setting
    (featuresOf ((ofSetting setting).afterCalls calls).setting declarations) := by
  intro first member second member' same
  exact (memoText_injective rfl (distinct _ (memoText_mem_keysOfRun member) _
    (memoText_mem_keysOfRun member') same)).2.2

/-- What is remembered for the features of a run was asked for under the present setting. -/
theorem DigestsApart.asked {feature : String} {artifacts : List Artifact}
    (member : feature ∈ featuresOf ((ofSetting setting).afterCalls calls).setting declarations)
    (found : ((ofSetting setting).afterCalls calls).remembered? feature = some artifacts) :
    (((ofSetting setting).afterCalls calls).setting, feature) ∈ PipelineCall.allLookups setting calls ∧
      ((ofSetting setting).afterCalls calls).setting.rendered feature = .ok artifacts :=
  remembered_after_calls distinct
    (fun _ member => List.mem_append_left _ (List.mem_map_of_mem member))
    (memoText_mem_keysOfRun member) (setting_afterCalls (ofSetting setting) calls).symm found

theorem DigestsApart.faithful : ((ofSetting setting).afterCalls calls).Faithful
    (featuresOf ((ofSetting setting).afterCalls calls).setting declarations) :=
  fun _ member _ found => (distinct.asked member found).2

end Keys

/-! ### Reports -/

/-- What a successful run reports of declarations that were prepared as these units, and in which order it
calls the sink for them. -/
structure Exact (sink : Sink σ) (declarations : List Declaration) (before : Pipeline) (start : σ)
    (units : List PreparedUnit) (report : GenerationReport) (after : Pipeline) (state : σ) : Prop where
  prepared : (units.map fun unit => (unit.trigger, unit.feature)) =
    declarations.filterMap fun declaration =>
      (before.setting.convention.feature? declaration).map (declaration.name, ·)
  calls : Runs Batch.Any sink.watched declarations (before, (start, [])) (.ok report)
    (after, (state, PreparedUnit.journal units))
  declared : report.declarations = declarations.length
  triggered : report.triggers = declarations.countP fun declaration =>
    (before.setting.convention.feature? declaration).isSome
  emitted : report.emitted = (PreparedUnit.journal units).length ∧
    report.emitted = report.triggers * before.setting.renderer.specs.length
  files : ∀ name, report.units.find? name = (PreparedUnit.lastWrite? units name).map (·.1.feature)
  collided : (report.collisions.Pairwise fun first second => first.fileName < second.fileName) ∧
    ∀ collision, collision ∈ report.collisions ↔
      collision.triggers = PreparedUnit.writersOf units collision.fileName ∧
        1 < collision.triggers.length
  balanced : report.emitted = report.units.size +
    (report.collisions.map fun collision => collision.triggers.length - 1).sum

/-- A run that succeeds has prepared all declarations and emitted their files. -/
theorem Runs.exists_prepared {sink : Sink σ} (blind : ∀ name text, (sink.emit name text).Blind)
    {allowed : Batch → Prop} {declarations : List Declaration} {before after : Pipeline}
    {start state : σ} {report : GenerationReport}
    (runs : Runs allowed sink declarations (before, start) (.ok report) (after, state)) :
    ∃ prepared, Prepares allowed declarations before (.ok prepared) after ∧
      (sink.emitAll (PreparedUnit.journal (prepared.filterMap id))).Ends start (.ok ()) state ∧
      report = .ofUnits declarations.length (prepared.filterMap id) := by
  cases runs with
  | @delivered _ _ _ _ prepared _ reports done delivered =>
    obtain ⟨emission, state', emitted⟩ :=
      Sink.blind_emitAll blind (PreparedUnit.journal (prepared.filterMap id)) start
    have ended := deliver_ends declarations.length emitted
    obtain ⟨same, rfl⟩ := ((blind_deliver blind _ prepared).ends delivered).unique ended
    cases emission with
    | error fault => contradiction
    | ok _ => exact ⟨prepared, done, emitted, Except.ok.inj same⟩

section Calls

variable {setting : PipelineSetting} {calls : List PipelineCall} {declarations : List Declaration}
  {allowed : Batch → Prop} {after : Pipeline} {prepared : List (Option PreparedUnit)}
  (done : Prepares allowed declarations ((ofSetting setting).afterCalls calls) (.ok prepared) after)

include done

/-- Every unit that is prepared after some calls has one file for each template. -/
theorem length_artifacts_of_prepared {unit : PreparedUnit} (member : unit ∈ prepared.filterMap id) :
    unit.artifacts.length = setting.renderer.specs.length := by
  have listed : some unit ∈ prepared := by simpa using member
  obtain ⟨declaration, -, fits⟩ := done.fits_of_unit listed
  cases fits with
  | prepared _ _ known _ _ =>
    rcases known with earlier | ⟨-, _, -, feature, -, -, rendered⟩
    · obtain ⟨asker, feature, asked, -, rendered⟩ := traced_after_calls setting calls _ _ earlier
      obtain ⟨mode, format, rfl⟩ := PipelineCall.allLookups_spec asked
      rw [PipelineSetting.length_of_rendered rendered]
    · rw [PipelineSetting.length_of_rendered rendered, renderer_afterCalls]

theorem exact_of_prepared {sink : Sink σ} {start state : σ}
    (blind : ∀ name text, (sink.emit name text).Blind)
    (emitted : (sink.emitAll (PreparedUnit.journal (prepared.filterMap id))).Ends start (.ok ()) state) :
    Exact sink declarations ((ofSetting setting).afterCalls calls) start (prepared.filterMap id)
      (.ofUnits declarations.length (prepared.filterMap id)) after state := by
  have sized : ∀ unit ∈ prepared.filterMap id, unit.artifacts.length = setting.renderer.specs.length :=
    fun unit member => length_artifacts_of_prepared done member
  have files : (PreparedUnit.journal (prepared.filterMap id)).length =
      (prepared.filterMap id).length * setting.renderer.specs.length := by
    rw [PreparedUnit.journal, List.length_flatMap, List.map_congr_left sized, List.map_const',
      List.sum_replicate_nat]
  have writes : (PreparedUnit.writes (prepared.filterMap id)).length =
      (PreparedUnit.journal (prepared.filterMap id)).length := by
    simp [PreparedUnit.writes, PreparedUnit.journal]
  obtain ⟨result, state', calls', emission, ends, seen⟩ :=
    Sink.exists_emission blind (PreparedUnit.journal (prepared.filterMap id)) start
  obtain ⟨rfl, rfl⟩ := emitted.unique ends
  obtain ⟨reports, watched⟩ := (deliver_ends declarations.length (seen [])).perform
  cases emission with
  | accepted all =>
    exact {
      prepared := done.units
      calls := .delivered done.any watched
      declared := by rw [PreparedUnit.ofUnits_eq]
      triggered := by rw [PreparedUnit.ofUnits_eq, done.length_units]
      emitted := by rw [PreparedUnit.ofUnits_eq, writes, files, renderer_afterCalls]; exact ⟨rfl, rfl⟩
      files := PreparedUnit.find?_units _ _
      collided := ⟨PreparedUnit.ascending_collisions _ _, fun _ => PreparedUnit.mem_collisions_iff⟩
      balanced := PreparedUnit.emitted_eq _ _ }

end Calls

/-- No collision tells of a trigger more often than it is declared and there are templates. -/
theorem count_collision_le {setting : PipelineSetting} {calls : List PipelineCall} {sink : Sink σ}
    (blind : ∀ name text, (sink.emit name text).Blind) {declarations : List Declaration}
    {after : Pipeline} {start state : σ} {report : GenerationReport} {warnings : List Warning}
    (ran : (run sink declarations).perform ((ofSetting setting).afterCalls calls, start) =
      (.ok report, (after, state), warnings)) {collision : Collision}
    (member : collision ∈ report.collisions) (name : String) :
    collision.triggers.count name ≤ (declarations.countP fun declaration =>
      setting.convention.isTrigger declaration && declaration.name == name) *
        setting.renderer.specs.length := by
  obtain ⟨prepared, done, -, rfl⟩ := (run_ends_iff blind).mp ((blind_run blind declarations).ends ran)
  have prepares := prepares_of_mapM_prepare done
  have convention : ((ofSetting setting).afterCalls calls).setting.convention = setting.convention := by
    obtain ⟨mode, format, spelled⟩ := PipelineCall.settingAfterAll_spec setting calls
    rw [setting_afterCalls, setting_ofSetting, spelled]
  have counted := prepares.countP_trigger name
  rw [convention] at counted
  rw [← counted, (PreparedUnit.mem_collisions_iff.mp member).1]
  exact PreparedUnit.count_writersOf_le
    (fun unit listed => length_artifacts_of_prepared prepares listed) _ _

/-! ### Memory -/

section Memory

variable {allowed : Batch → Prop} {before after : Pipeline} {declarations : List Declaration}
  {prepared : List (Option PreparedUnit)}
  (apart : TellsApart before.setting (featuresOf before.setting declarations))

include apart

/-- All schedules remember what is remembered in turn: the features that are not known in their turn are
new. -/
theorem Prepares.size_memo_known (done : Prepares allowed declarations before (.ok prepared) after) :
    after.memo.size + knownInTurn (fun feature => (before.remembered? feature).isSome)
        (featuresOf before.setting declarations) =
      before.memo.size + (prepared.filterMap id).length := by
  obtain ⟨prepared', after', inTurn⟩ := Pipeline.exists_prepared (done.alone apart)
  have prepares := prepares_of_mapM_prepare inTurn
  obtain rfl := done.after_unique apart prepares
  have grown := prepares.size_memo_eq apart
  have split := (prepared'.filterMap id).length_eq_countP_add_countP (·.fromCache)
  simp only [Bool.not_eq_true, Bool.decide_eq_false] at split
  rw [countP_fromCache apart inTurn, prepares.length_units, ← done.length_units] at split
  omega

theorem Prepares.fromCache_le (done : Prepares allowed declarations before (.ok prepared) after) :
    (prepared.filterMap id).countP (·.fromCache) ≤
      knownInTurn (fun feature => (before.remembered? feature).isSome)
        (featuresOf before.setting declarations) := by
  have known := done.size_memo_known apart
  have grown := done.size_memo_le
  have split := (prepared.filterMap id).length_eq_countP_add_countP (·.fromCache)
  simp only [Bool.not_eq_true, Bool.decide_eq_false] at split
  omega

theorem Prepares.fromCache_eq (done : Prepares Batch.Apart declarations before (.ok prepared) after) :
    (prepared.filterMap id).countP (·.fromCache) =
      knownInTurn (fun feature => (before.remembered? feature).isSome)
        (featuresOf before.setting declarations) := by
  have known := done.size_memo_known apart
  have grown := done.size_memo_eq apart
  have split := (prepared.filterMap id).length_eq_countP_add_countP (·.fromCache)
  simp only [Bool.not_eq_true, Bool.decide_eq_false] at split
  omega

end Memory

/-- After any calls, a successful run reports exactly what it has done, in whatever order the workers take
their steps. If no two keys in play share a digest, then what is remembered grows by the features that
were not remembered when the run began, each counted once. The units of a feature that was remembered then
come from memory, and beside them only further units of a feature that occurs more than once; all of those
do if no feature is rendered twice at a time. -/
theorem runs_report_exactly (setting : PipelineSetting) (calls : List PipelineCall) {sink : Sink σ}
    (blind : ∀ name text, (sink.emit name text).Blind) {declarations : List Declaration}
    {after : Pipeline} {start state : σ} {report : GenerationReport}
    (runs : Runs Batch.Any sink declarations ((ofSetting setting).afterCalls calls, start) (.ok report)
      (after, state)) :
    let before := (ofSetting setting).afterCalls calls
    let features := featuresOf before.setting declarations
    let known := fun feature => (before.remembered? feature).isSome
    (∃ units, Exact sink declarations before start units report after state) ∧
      (DigestsApart (keysOfRun setting calls declarations) →
        after.memo.size + knownInTurn known features = before.memo.size + report.triggers ∧
        features.countP known ≤ report.memoHits ∧ report.memoHits ≤ knownInTurn known features ∧
        (Runs Batch.Apart sink declarations (before, start) (.ok report) (after, state) →
          report.memoHits = knownInTurn known features) ∧
        ∀ feature ∈ features, ∀ artifacts, before.remembered? feature = some artifacts →
          (before.setting, feature) ∈ PipelineCall.allLookups setting calls ∧
            before.setting.rendered feature = .ok artifacts) := by
  intro before features known
  obtain ⟨prepared, done, emitted, same⟩ := runs.exists_prepared blind
  have triggers : report.triggers = (prepared.filterMap id).length := by
    rw [same, PreparedUnit.ofUnits_eq]
  have hits : report.memoHits = (prepared.filterMap id).countP (·.fromCache) := by
    rw [same, PreparedUnit.ofUnits_eq]
  refine ⟨⟨_, same ▸ exact_of_prepared done blind emitted⟩, fun distinct => ?_⟩
  have apart := distinct.tellsApart
  refine ⟨?_, ?_, ?_, fun alone => ?_, fun feature member artifacts => distinct.asked member⟩
  · exact triggers ▸ done.size_memo_known apart
  · exact hits ▸ done.countP_remembered_le
  · exact hits ▸ done.fromCache_le apart
  · obtain ⟨prepared', done', -, rfl⟩ := alone.exists_prepared blind
    rw [PreparedUnit.ofUnits_eq]
    exact done'.fromCache_eq apart

/-- A setting under which all features have one file, and what comes of a feature. -/
theorem rendered_constant : (⟨.default, .constant "x.rs" "mod x;", .off, false⟩ : PipelineSetting).rendered
    "Order" = .ok [⟨"x.rs", "mod x;"⟩] :=
  Except.toOption_eq_some_iff.mp (by decide +kernel)

theorem order_reported_exactly :
    let order : Declaration := ⟨.struct, "OrderAggregate", none⟩
    let plain : Declaration := ⟨.struct, "Order", none⟩
    let fresh := ofSetting ⟨.default, .constant "x.rs" "mod x;", .off, false⟩
    ∃ report after state warnings,
      (run MemorySink.sink [order, plain, order]).perform (fresh, .empty) =
        (.ok report, (after, state), warnings) ∧
      Runs Batch.Apart MemorySink.sink [order, plain, order] (fresh, .empty) (.ok report) (after, state) ∧
      report.triggers = 2 ∧ report.emitted = 2 ∧ report.memoHits = 1 ∧ after.memo.size = 1 := by
  intro order plain fresh
  have blind : ∀ name text, (MemorySink.sink.emit name text).Blind := MemorySink.blind_emit
  have named : fresh.setting.convention.feature? order = some "Order" := by decide
  have unnamed : fresh.setting.convention.feature? plain = none := by decide
  have served : fresh.unitOf order = .ok (some ⟨"OrderAggregate", "Order", [⟨"x.rs", "mod x;"⟩], false⟩) :=
    unitOf_eq_some_iff.mpr ⟨rfl, named, served_fresh_iff.mpr ⟨rfl, rendered_constant⟩⟩
  obtain ⟨prepared, after, done⟩ : ∃ prepared after,
      ([order, plain, order].mapM prepare).Ends fresh (.ok prepared) after := by
    refine exists_prepared fun declaration member => ?_
    obtain rfl | rfl | rfl : declaration = order ∨ declaration = plain ∨ declaration = order := by
      simpa using member
    · exact ⟨_, served⟩
    · exact ⟨none, unitOf_eq_none_iff.mpr unnamed⟩
    · exact ⟨_, served⟩
  have ends := run_ends_of_prepared done (MemorySink.emitAll_ends _ .empty)
  obtain ⟨warnings, ran⟩ := ends.perform
  have alone := runs_of_run blind ends
  obtain ⟨⟨units, exact⟩, memory⟩ := runs_report_exactly fresh.setting [] blind alone.any
  -- Both keys are the same text, so that no digest has to be compared.
  have keys : keysOfRun fresh.setting [] [order, plain, order] =
      [fresh.setting.memoText "Order", fresh.setting.memoText "Order"] := by
    simp [keysOfRun, featuresOf, PipelineCall.settingAfterAll, PipelineCall.allLookups, named, unnamed]
  obtain ⟨grown, -, -, hits, -⟩ := memory (by simp [DigestsApart, keys])
  have triggers := exact.triggered.trans (by decide : _ = 2)
  have known : knownInTurn (fun feature => (fresh.remembered? feature).isSome)
      (featuresOf fresh.setting [order, plain, order]) = 1 := by decide
  refine ⟨_, _, _, warnings, ran, alone, triggers, ?_, (hits alone).trans known, ?_⟩
  · rw [exact.emitted.2, triggers]
    rfl
  · have size := congrArg₂ (· + ·) (rfl : after.memo.size = _) known
    exact Nat.add_right_cancel (size.symm.trans (grown.trans (congrArg (0 + ·) triggers)))

/-- Two units of one feature may both be looked up before the first of them is rendered. Then neither comes
from memory, though the feature occurs earlier in the list, and what is remembered grows by less than there
are such units. After the memory is cleared, a feature is rendered again. -/
theorem rendered_twice :
    let order : Declaration := ⟨.struct, "OrderAggregate", none⟩
    let fresh := ofSetting ⟨.default, .constant "x.rs" "mod x;", .off, false⟩
    let cleared := fresh.afterCalls [.prepare order, .clearCache]
    (∃ report after state,
      Runs Batch.Any MemorySink.sink [order, order] (fresh, .empty) (.ok report) (after, state) ∧
      report.triggers = 2 ∧ report.memoHits = 0 ∧ after.memo.size = 1 ∧
      knownInTurn (fun feature => (fresh.remembered? feature).isSome)
        (featuresOf fresh.setting [order, order]) = 1) ∧
    (∃ report after state warnings, (run MemorySink.sink [order]).perform (cleared, .empty) =
        (.ok report, (after, state), warnings) ∧ report.triggers = 1 ∧ report.memoHits = 0 ∧
      (fresh.setting, "Order") ∈ PipelineCall.allLookups fresh.setting [.prepare order, .clearCache]) := by
  intro order fresh cleared
  have named : fresh.setting.convention.feature? order = some "Order" := by decide
  let unit : PreparedUnit := ⟨"OrderAggregate", "Order", [⟨"x.rs", "mod x;"⟩], false⟩
  constructor
  · have looked : Batch.Reaches Batch.Any (.start [order, order] fresh)
        ⟨[(order, .rendering "Order"), (order, .rendering "Order")], fresh⟩ :=
      (Batch.Reaches.refl.step (.looked [] [(order, .waiting)] named rfl) trivial).step
        (.looked [(order, .rendering "Order")] [] named rfl) trivial
    have done : Prepares Batch.Any [order, order] fresh (.ok [some unit, some unit]) _ :=
      ⟨_, (looked.step (.rendered [] [(order, .rendering "Order")] rendered_constant) trivial).step
        (.rendered [(order, .prepared (some unit))] [] rendered_constant) trivial, .prepared rfl⟩
    obtain ⟨warnings, delivered⟩ := (deliver_ends 2 (MemorySink.emitAll_ends
      (PreparedUnit.journal ([some unit, some unit].filterMap id)) .empty)).perform
    have known : knownInTurn (fun feature => (fresh.remembered? feature).isSome)
        (featuresOf fresh.setting [order, order]) = 1 := by decide
    have listed : featuresOf fresh.setting [order, order] = ["Order", "Order"] := by decide
    have size := done.size_memo_known (by simp [TellsApart, listed])
    rw [known] at size
    exact ⟨_, _, _, .delivered done delivered, by decide, by decide, Nat.add_right_cancel size, known⟩
  · have same : cleared = fresh := congrArg (Pipeline.mk · .empty) (setting_after fresh (.prepare order))
    have served : fresh.unitOf order = .ok (some unit) :=
      unitOf_eq_some_iff.mpr ⟨rfl, named, served_fresh_iff.mpr ⟨rfl, rendered_constant⟩⟩
    have prepared := prepare_ends order fresh
    rw [served] at prepared
    have done : ([order].mapM prepare).Ends fresh (.ok [some unit]) _ :=
      ends_mapM_prepare_cons prepared (Task.ends_pure _ _)
    obtain ⟨warnings, ran⟩ := (run_ends_of_prepared done (MemorySink.emitAll_ends _ .empty)).perform
    have asked : (fresh.setting, "Order") ∈ (PipelineCall.prepare order).lookups fresh.setting :=
      List.mem_filterMap.mpr ⟨order, List.mem_cons_self, by rw [named]; rfl⟩
    rw [same]
    exact ⟨_, _, _, warnings, ran, by decide, by decide, List.mem_append_left _ asked⟩

end Pipeline

end Scaffold
