import Scaffold.Proofs.Except
import Scaffold.Proofs.Pipeline.Memo
import Scaffold.Proofs.Text

/-! What validation decides. It reads the rendered text of each file, before layout, and either lets the files
pass as they would have passed without it, or refuses them for the first file with an error. Errors are a
text that does not parse and lines in which a tag is left; the length of a line is none. -/

namespace Scaffold

namespace Validation

/-- The number of a line, counted from one, in which a tag is left. -/
def TagLine (code : String) (number : Nat) : Prop :=
  ∃ line, (line, number) ∈ (Text.lines code).zipIdx 1 ∧ hasTag line.toList = true

/-- Text without errors: it parses, and in none of its lines a tag is left. -/
structure Clean (code : String) : Prop where
  parses : (Rust.SourceFile.parse code).isSome = true
  untagged : ∀ line ∈ Text.lines code, hasTag line.toList = false

/-- The error of a text that does not parse. -/
def syntaxErrors (code : String) : List Issue :=
  if (Rust.SourceFile.parse code).isNone then [⟨.syntaxError, none⟩] else []

def tagError (number : Nat) : Issue := ⟨.unrenderedTag, some number⟩

/-- The numbers of the lines in which a tag is left, for lines numbered from `start`. -/
def taggedFrom (start : Nat) (lines : List String) : List Nat :=
  ((lines.zipIdx start).filter fun numbered => hasTag numbered.1.toList).map (·.2)

/-- A tag is left in the lines where its two characters stand next to each other. -/
theorem tagLine_iff {code : String} {number : Nat} : TagLine code number ↔
    ∃ mark ∈ ['\x7b', '%'], Text.PairAt '\x7b' mark 1 number code.toList := by
  have lines : ∀ mark ∈ ['\x7b', '%'], Text.PairAt '\x7b' mark 1 number code.toList ↔
      Text.LineHas '\x7b' mark 1 number ((Text.lines code).map String.toList) := by
    intro mark listed
    have plain : '\n' ≠ mark ∧ '\r' ≠ mark := by
      rcases List.mem_pair.mp listed with rfl | rfl <;> decide
    exact (Text.lineHas_lines_iff (by decide) plain.1 plain.2).symm
  calc TagLine code number
    _ ↔ Text.LineHas '\x7b' '\x7b' 1 number ((Text.lines code).map String.toList) ∨
        Text.LineHas '\x7b' '%' 1 number ((Text.lines code).map String.toList) := by
      simp only [TagLine, hasTag, Text.lineHas_map_iff, Bool.or_eq_true, and_or_left, exists_or]
    _ ↔ _ := by
      rw [← lines '\x7b' (by simp), ← lines '%' (by simp)]
      simp

theorem taggedFrom_cons (start : Nat) (line : String) (more : List String) :
    taggedFrom start (line :: more) =
      (if hasTag line.toList then [start] else []) ++ taggedFrom (start + 1) more := by
  rw [taggedFrom, List.zipIdx_cons, List.filter_cons]
  cases hasTag line.toList <;> rfl

theorem taggedFrom_eq_nil_iff {start : Nat} {lines : List String} :
    taggedFrom start lines = [] ↔ ∀ line ∈ lines, hasTag line.toList = false := by
  induction lines generalizing start with
  | nil => simp [taggedFrom]
  | cons line more ih => simp [taggedFrom_cons, ih]

theorem filter_issuesFrom (limit start : Nat) (lines : List String) :
    (issuesFrom limit start lines).filter Issue.isError = (taggedFrom start lines).map tagError := by
  induction lines generalizing start with
  | nil => rfl
  | cons line more ih =>
    rw [issuesFrom, List.filter_append, ih, taggedFrom_cons]
    by_cases tag : hasTag line.toList = true <;> by_cases long : line.toList.length > limit <;>
      simp [lineFindings, tag, long, Issue.isError, Finding.severity, tagError]

/-- The errors of a text do not depend on how long its lines may be. -/
theorem filter_issues (limit : Nat) (code : String) : (issues limit code).filter Issue.isError =
    syntaxErrors code ++ (taggedFrom 1 (Text.lines code)).map tagError := by
  rw [issues, List.filter_append, filter_issuesFrom, syntaxErrors]
  split <;> rfl

theorem mem_taggedFrom {code : String} {number : Nat} :
    number ∈ taggedFrom 1 (Text.lines code) ↔ TagLine code number := by
  simp [taggedFrom, TagLine]

theorem pairwise_taggedFrom (start : Nat) (lines : List String) :
    (taggedFrom start lines).Pairwise (· < ·) := by
  have numbers : ((lines.zipIdx start).map (·.2)).Pairwise (· < ·) := by
    rw [List.zipIdx_map_snd]
    exact List.pairwise_lt_range'
  exact numbers.sublist (List.filter_sublist.map _)

theorem errors_eq_nil_iff {code : String} : errors code = [] ↔ Clean code := by
  rw [errors, filter_issues, List.append_eq_nil_iff, List.map_eq_nil_iff, taggedFrom_eq_nil_iff]
  have parses : syntaxErrors code = [] ↔ (Rust.SourceFile.parse code).isSome = true := by
    cases parsed : Rust.SourceFile.parse code <;> simp [syntaxErrors, parsed]
  rw [parses]
  exact ⟨fun ⟨parses, untagged⟩ => ⟨parses, untagged⟩, fun clean => ⟨clean.parses, clean.untagged⟩⟩

end Validation

namespace Pipeline

open Validation

theorem finish_of_clean {setting : PipelineSetting} {artifact : Artifact}
    (clean : setting.validation = .deny → Clean artifact.source) :
    setting.finish artifact = setting.formatted artifact := by
  have passed : setting.judge artifact = .ok () := by
    rw [PipelineSetting.judge, if_neg]
    rintro ⟨mode, wrong⟩
    exact wrong (errors_eq_nil_iff.mpr (clean mode))
  rw [PipelineSetting.finish, passed, Except.bind]

theorem finish_of_not_clean {setting : PipelineSetting} {artifact : Artifact}
    (mode : setting.validation = .deny) (wrong : ¬Clean artifact.source) :
    setting.finish artifact = .error (.invalidSource artifact.fileName (errors artifact.source)) :=
  PipelineSetting.finish_eq_error_iff.mpr (.inl (PipelineSetting.judge_eq_error_iff.mpr
    ⟨mode, mt errors_eq_nil_iff.mp wrong, rfl⟩))

/-- A source file with something in it that has no layout, where layout is wanted. -/
def Stuck (format : Bool) (code : String) : Prop := format = true ∧ Rust.format code = .stuck

/-- Files are laid out under their names, if the layout of none of them gets stuck. -/
theorem mapM_formatted_of_free {setting : PipelineSetting} {files : List Artifact}
    (free : ∀ file ∈ files, ¬Stuck setting.format file.source) : ∃ artifacts,
      files.mapM setting.formatted = .ok artifacts ∧
        artifacts.map (·.fileName) = files.map (·.fileName) := by
  obtain ⟨artifacts, done⟩ : ∃ artifacts, files.mapM setting.formatted = .ok artifacts := by
    refine Except.exists_mapM fun file listed => ?_
    cases laidOut : setting.formatted file with
    | ok after => exact ⟨after, rfl⟩
    | error fault =>
      obtain ⟨wanted, stuck, -⟩ := PipelineSetting.formatted_eq_error_iff.mp laidOut
      exact absurd ⟨wanted, stuck⟩ (free file listed)
  refine ⟨artifacts, done, ?_⟩
  have pairs := Except.forall₂_of_mapM done
  clear free done
  induction pairs with
  | nil => rfl
  | cons laidOut _ ih =>
    rw [List.map_cons, List.map_cons, ih, PipelineSetting.fileName_of_formatted laidOut]

theorem mapM_formatted_of_stuck {setting : PipelineSetting} {files : List Artifact}
    (stuck : ∃ file ∈ files, Stuck setting.format file.source) :
    files.mapM setting.formatted = .error .panicked := by
  obtain ⟨file, listed, wanted, stuck⟩ := stuck
  refine Except.mapM_eq_error ⟨file, listed, ?_⟩ fun other _ fault failed => ?_
  · exact PipelineSetting.formatted_eq_error_iff.mpr ⟨wanted, stuck, rfl⟩
  · exact (PipelineSetting.formatted_eq_error_iff.mp failed).2.2

/-- What a pipeline that has not been used makes of a declaration, under a mode. -/
def judged (convention : Convention) (renderer : Renderer) (format : Bool) (declaration : Declaration)
    (mode : ValidationMode) : Except Fault (Option PreparedUnit) :=
  ((prepare declaration).perform (ofSetting ⟨convention, renderer, mode, format⟩)).1

section Judged

variable {convention : Convention} {renderer : Renderer} {format : Bool} {declaration : Declaration}

theorem judged_none (named : convention.feature? declaration = none) (mode : ValidationMode) :
    judged convention renderer format declaration mode = .ok none := by
  rw [judged, prepare_result]
  exact unitOf_eq_none_iff.mpr named

variable {feature : String} (named : convention.feature? declaration = some feature)

include named

theorem judged_some (mode : ValidationMode) : judged convention renderer format declaration mode =
      ((renderer.render feature).bind fun files =>
        files.mapM (PipelineSetting.finish ⟨convention, renderer, mode, format⟩)).map
          fun artifacts => some ⟨declaration.name, feature, artifacts, false⟩ := by
  have named' : (ofSetting ⟨convention, renderer, mode, format⟩).setting.convention.feature? declaration =
      some feature := named
  rw [judged, prepare_result, unitOf, named']
  dsimp only
  rw [served_ofSetting, PipelineSetting.rendered]
  cases (renderer.render feature).bind _ <;> rfl

/-- Where every file is let through, the files are laid out if that is wanted, whatever the mode is. -/
theorem judged_of_clean {files : List Artifact} (rendered : renderer.render feature = .ok files)
    {mode : ValidationMode} (clean : mode = .deny → ∀ file ∈ files, Clean file.source) :
    judged convention renderer format declaration mode =
      (files.mapM (PipelineSetting.formatted ⟨convention, renderer, .off, format⟩)).map
        fun artifacts => some ⟨declaration.name, feature, artifacts, false⟩ := by
  have passed : files.mapM (PipelineSetting.finish ⟨convention, renderer, mode, format⟩) =
      files.mapM (PipelineSetting.formatted ⟨convention, renderer, .off, format⟩) :=
    Except.mapM_congr fun file listed => finish_of_clean fun deny => clean deny file listed
  rw [judged_some named, rendered, Except.bind, passed]

/-- The first file that is refused decides, unless the layout of a file before it gets stuck. -/
theorem judged_of_not_clean {before after : List Artifact} {file : Artifact}
    (rendered : renderer.render feature = .ok (before ++ file :: after))
    (clean : ∀ earlier ∈ before, Clean earlier.source) (wrong : ¬Clean file.source) :
    judged convention renderer format declaration .deny =
      (before.mapM (PipelineSetting.formatted ⟨convention, renderer, .off, format⟩)).bind fun _ =>
        .error (.invalidSource file.fileName (errors file.source)) := by
  have passed : before.mapM (PipelineSetting.finish ⟨convention, renderer, .deny, format⟩) =
      before.mapM (PipelineSetting.formatted ⟨convention, renderer, .off, format⟩) :=
    Except.mapM_congr fun earlier listed => finish_of_clean fun _ => clean earlier listed
  have refused : PipelineSetting.finish ⟨convention, renderer, .deny, format⟩ file =
      .error (.invalidSource file.fileName (errors file.source)) := finish_of_not_clean rfl wrong
  rw [judged_some named, rendered, Except.bind, List.mapM_append, List.mapM_cons, passed, refused]
  cases before.mapM (PipelineSetting.formatted ⟨convention, renderer, .off, format⟩) <;> rfl

end Judged

/-- What the modes make of rendered files. A refusal has a reason: it comes for the first file, in the order
of the templates, that does not parse or has a tag left in a line, and it lists the syntax error and then
each such line once, in ascending order. Where there is no reason, all is as without validation. A file that
gets the layout stuck ends everything in its turn, be it before such a refusal. -/
structure Verdict (convention : Convention) (renderer : Renderer) (format : Bool)
    (declaration : Declaration) (feature : String) (files : List Artifact) : Prop where
  clean : (∀ file ∈ files, Clean file.source) →
    judged convention renderer format declaration .deny = judged convention renderer format declaration .off
  refused : ∀ before file after, files = before ++ file :: after →
    (∀ earlier ∈ before, Clean earlier.source) → ¬Clean file.source →
    ((∀ earlier ∈ before, ¬Stuck format earlier.source) →
      ∃ numbers : List Nat, numbers.Pairwise (· < ·) ∧
        (∀ number, number ∈ numbers ↔ TagLine file.source number) ∧
        judged convention renderer format declaration .deny =
          .error (.invalidSource file.fileName (syntaxErrors file.source ++ numbers.map tagError))) ∧
    ((∃ earlier ∈ before, Stuck format earlier.source) →
      judged convention renderer format declaration .deny = .error .panicked)
  laidOut : (∀ file ∈ files, ¬Stuck format file.source) → ∃ artifacts,
    judged convention renderer format declaration .off =
        .ok (some ⟨declaration.name, feature, artifacts, false⟩) ∧
      artifacts.map (·.fileName) = files.map (·.fileName)
  stuck : (∃ file ∈ files, Stuck format file.source) →
    judged convention renderer format declaration .off = .error .panicked

theorem verdict {convention : Convention} {renderer : Renderer} {declaration : Declaration}
    {feature : String} (format : Bool) (named : convention.feature? declaration = some feature)
    {files : List Artifact} (rendered : renderer.render feature = .ok files) :
    Verdict convention renderer format declaration feature files := by
  have free := fun files => @mapM_formatted_of_free ⟨convention, renderer, .off, format⟩ files
  have stuck := fun files => @mapM_formatted_of_stuck ⟨convention, renderer, .off, format⟩ files
  refine ⟨fun clean => ?_, fun before file after split clean wrong => ?_, fun all => ?_, fun some => ?_⟩
  · rw [judged_of_clean named rendered fun _ => clean, judged_of_clean named rendered (by simp)]
  · subst split
    rw [judged_of_not_clean named rendered clean wrong]
    refine ⟨fun all => ⟨_, pairwise_taggedFrom 1 (Text.lines file.source), fun _ => mem_taggedFrom, ?_⟩,
      fun some => ?_⟩
    · obtain ⟨artifacts, done, -⟩ := free _ all
      rw [done, Except.bind, errors, filter_issues]
    · rw [stuck _ some]
      rfl
  · obtain ⟨artifacts, done, names⟩ := free _ all
    refine ⟨artifacts, ?_, names⟩
    rw [judged_of_clean named rendered (by simp), done]
    rfl
  · rw [judged_of_clean named rendered (by simp), stuck _ some]
    rfl

/-- The three modes on one rendering. A warning changes nothing, and neither does any mode where nothing
is rendered. Otherwise the files decide, by their errors and by whether they get the layout stuck. Errors
are where two characters of a tag stand next to each other, and have nothing to do with how long lines may
be. -/
theorem judged_by_errors (convention : Convention) (renderer : Renderer) (format : Bool)
    (declaration : Declaration) :
    judged convention renderer format declaration .warn =
        judged convention renderer format declaration .off ∧
    (convention.feature? declaration = none → ∀ mode,
        judged convention renderer format declaration mode = .ok none) ∧
    (∀ feature, convention.feature? declaration = some feature →
      (∀ fault, renderer.render feature = .error fault → ∀ mode,
        judged convention renderer format declaration mode = .error fault) ∧
      ∀ files, renderer.render feature = .ok files →
        Verdict convention renderer format declaration feature files) ∧
    (∀ code number, TagLine code number ↔
      ∃ mark ∈ ['\x7b', '%'], Text.PairAt '\x7b' mark 1 number code.toList) ∧
    ∀ limit code, (issues limit code).filter Issue.isError = errors code := by
  refine ⟨?_, judged_none, fun feature named => ⟨fun fault failed mode => ?_, fun files rendered =>
    verdict format named rendered⟩, fun _ _ => tagLine_iff, fun limit code => ?_⟩
  · cases named : convention.feature? declaration with
    | none => rw [judged_none named, judged_none named]
    | some feature =>
      cases rendered : renderer.render feature with
      | error fault => rw [judged_some named, judged_some named, rendered]; rfl
      | ok files =>
        rw [judged_of_clean named rendered (by simp), judged_of_clean named rendered (by simp)]
  · rw [judged_some named, failed]
    rfl
  · rw [errors, filter_issues, filter_issues]

theorem judged_by_errors_order :
    let wide : Artifact := ⟨"wide.rs", String.ofList (List.replicate 130 '/')⟩
    let broken : Artifact := ⟨"broken.rs", "struct \x7b\r\n\x7b\x7b a\r\n// \x7b% b"⟩
    let template (name text : String) : Template.Parsed := ⟨name, text, [.text text], none, [], [], []⟩
    let renderer : Renderer := ⟨[⟨"wide", wide.source, wide.fileName⟩, ⟨"broken", broken.source, broken.fileName⟩],
      ⟨[template "wide" wide.source, template "wide#file_name" wide.fileName,
        template "broken" broken.source, template "broken#file_name" broken.fileName]⟩⟩
    let order : Declaration := ⟨.struct, "OrderAggregate", none⟩
    Convention.default.feature? order = some "Order" ∧ renderer.render "Order" = .ok [wide, broken] ∧
      Clean wide.source ∧ ¬Stuck true wide.source ∧ ¬Clean broken.source ∧
      judged .default renderer true order .warn = judged .default renderer true order .off ∧
      (∃ numbers : List Nat, numbers.Pairwise (· < ·) ∧ (∀ number, number ∈ numbers ↔ number ∈ [2, 3]) ∧
        judged .default renderer true order .deny =
          .error (.invalidSource "broken.rs" ([⟨.syntaxError, none⟩] ++ numbers.map tagError))) ∧
      judged .default (.constant wide.fileName wide.source) true order .deny =
        judged .default (.constant wide.fileName wide.source) true order .off := by
  intro wide broken template renderer order
  have named : Convention.default.feature? order = some "Order" := by decide +kernel
  have rendered : renderer.render "Order" = .ok [wide, broken] := by decide +kernel
  have clean : Clean wide.source := errors_eq_nil_iff.mp (by decide +kernel)
  have free : ¬Stuck true wide.source := fun stuck => absurd stuck.2 (by decide +kernel)
  have wrong : ¬Clean broken.source := mt errors_eq_nil_iff.mpr (by decide +kernel)
  have single : (Renderer.constant wide.fileName wide.source).render "Order" = .ok [wide] := by decide +kernel
  have numbered : taggedFrom 1 (Text.lines broken.source) = [2, 3] := by decide +kernel
  have unparsed : syntaxErrors broken.source = [⟨.syntaxError, none⟩] := by decide +kernel
  obtain ⟨warned, -, modes, -⟩ := judged_by_errors .default renderer true order
  obtain ⟨-, -, alone, -⟩ :=
    judged_by_errors .default (Renderer.constant wide.fileName wide.source) true order
  obtain ⟨numbers, ascending, members, refused⟩ := (((modes "Order" named).2 _ rendered).refused
    [wide] broken [] rfl (by simpa using clean) wrong).1 (by simpa using free)
  refine ⟨named, rendered, clean, free, wrong, warned, ⟨numbers, ascending, fun number => ?_, ?_⟩, ?_⟩
  · rw [members, ← mem_taggedFrom, numbered]
  · rw [refused, unparsed]
  · exact ((alone "Order" named).2 _ single).clean (by simpa using clean)

/-- A function without a body parses, but has no layout. It comes before the refusal of a later file, and
it leaves no file where nothing is refused. -/
theorem stuck_before_refusal :
    let missing : Artifact := ⟨"a.rs", "fn f();"⟩
    let broken : Artifact := ⟨"b.rs", "struct \x7b"⟩
    let order : Declaration := ⟨.struct, "OrderAggregate", none⟩
    ∃ renderer, Renderer.ofSpecs [⟨"a", missing.source, missing.fileName⟩,
        ⟨"b", broken.source, broken.fileName⟩] = .ok renderer ∧
      renderer.render "Order" = .ok [missing, broken] ∧ Clean missing.source ∧ ¬Clean broken.source ∧
      judged .default renderer true order .deny = .error .panicked ∧
      judged .default renderer false order .deny =
        .error (.invalidSource "b.rs" [⟨.syntaxError, none⟩]) ∧
      judged .default renderer true order .off = .error .panicked := by
  intro missing broken order
  have made : (Renderer.ofSpecs [⟨"a", missing.source, missing.fileName⟩,
      ⟨"b", broken.source, broken.fileName⟩]).toOption.map (fun renderer =>
        (renderer.render "Order", judged .default renderer true order .deny,
          judged .default renderer false order .deny, judged .default renderer true order .off)) =
      some (.ok [missing, broken], .error .panicked,
        .error (.invalidSource "b.rs" [⟨.syntaxError, none⟩]), .error .panicked) := by decide +kernel
  obtain ⟨renderer, made, ran⟩ := Option.map_eq_some_iff.mp made
  simp only [Prod.mk.injEq] at ran
  obtain ⟨rendered, denied, unformatted, off⟩ := ran
  exact ⟨renderer, Except.toOption_eq_some_iff.mp made, rendered, errors_eq_nil_iff.mp (by decide +kernel),
    mt errors_eq_nil_iff.mpr (by decide +kernel), denied, unformatted, off⟩

end Pipeline

end Scaffold
