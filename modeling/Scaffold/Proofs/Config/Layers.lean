import Mathlib.Data.List.TakeWhile
import Scaffold.Config.Layers
import Scaffold.Proofs.Config.File
import Scaffold.Proofs.Json

/-!
Configurations from the command line, a file and the defaults. Loading fails for the file only, and each
setting is that of the first layer that has one.
-/

namespace Scaffold

open Document

/-! ### Blanks -/

namespace Text

/-- A text is another one without the blanks around it. -/
structure Trimmed (text word : List Char) : Prop where
  around : ∃ before after, text = before ++ word ++ after ∧ (∀ c ∈ before, isBlank c = true) ∧
    ∀ c ∈ after, isBlank c = true
  first : ∀ c, word.head? = some c → isBlank c = false
  last : ∀ c, word.getLast? = some c → isBlank c = false

theorem head?_trimStart {text : List Char} {c : Char} (first : (trimStart text).head? = some c) :
    isBlank c = false := by
  have solid := List.head?_dropWhile_not isBlank text
  rw [trimStart] at first
  rw [first] at solid
  exact solid

theorem trimStart_append {blank : List Char} (blanks : ∀ c ∈ blank, isBlank c = true) {text : List Char}
    (first : ∀ c, text.head? = some c → isBlank c = false) : trimStart (blank ++ text) = text := by
  rw [trimStart, List.dropWhile_append_of_pos blanks]
  cases text with
  | nil => rfl
  | cons c rest => rw [List.dropWhile_cons_of_neg (by simp [first c rfl])]

theorem trimEnd_append {blank : List Char} (blanks : ∀ c ∈ blank, isBlank c = true) {text : List Char}
    (last : ∀ c, text.getLast? = some c → isBlank c = false) : trimEnd (text ++ blank) = text := by
  have back : trimStart (blank.reverse ++ text.reverse) = text.reverse :=
    trimStart_append (by simpa using blanks) (by simpa using last)
  rw [trimStart] at back
  rw [trimEnd, List.reverse_append, back, List.reverse_reverse]

theorem Trimmed.trim_eq {text word : List Char} (trimmed : Trimmed text word) : trim text = word := by
  obtain ⟨⟨before, after, rfl, blanks, blanks'⟩, first, last⟩ := trimmed
  rw [trim, List.append_assoc]
  cases word with
  | nil =>
    have all : ∀ c ∈ before ++ after, isBlank c = true := by
      simpa [or_imp, forall_and] using ⟨blanks, blanks'⟩
    have nothing : trimStart ((before ++ after) ++ []) = [] := trimStart_append all (by simp)
    rw [List.append_nil] at nothing
    rw [List.nil_append, nothing]
    rfl
  | cons c rest => rw [trimStart_append blanks (by simpa using first), trimEnd_append blanks' last]

theorem trimmed_trim (text : List Char) : Trimmed text (trim text) := by
  have start : text = text.takeWhile isBlank ++ trimStart text := (List.takeWhile_append_dropWhile).symm
  have whole : trimStart text =
      trim text ++ ((trimStart text).reverse.takeWhile isBlank).reverse := by
    rw [trim, trimEnd, ← List.reverse_append, List.takeWhile_append_dropWhile, List.reverse_reverse]
  refine ⟨⟨text.takeWhile isBlank, ((trimStart text).reverse.takeWhile isBlank).reverse, ?_, ?_, ?_⟩,
    fun c first => ?_, fun c last => ?_⟩
  · rw [List.append_assoc, ← whole, ← start]
  · exact fun c member => List.mem_takeWhile_imp member
  · exact fun c member => List.mem_takeWhile_imp (List.mem_reverse.mp member)
  · have begins : (trimStart text).head? = some c := by
      rw [whole, List.head?_append, first, Option.some_or]
    exact head?_trimStart begins
  · rw [trim, trimEnd, List.getLast?_reverse] at last
    exact head?_trimStart last

theorem trimmed_iff {text word : List Char} : Trimmed text word ↔ word = trim text :=
  ⟨fun trimmed => trimmed.trim_eq.symm, fun same => same ▸ trimmed_trim text⟩

end Text

/-! ### Layers -/

namespace Config

/-- A setting is that of the first layer that has it. -/
structure Chosen {α : Type} (given inFile : Option α) (default result : α) : Prop where
  fromLine : ∀ value, given = some value → result = value
  fromFile : given = none → ∀ value, inFile = some value → result = value
  fallback : given = none → inFile = none → result = default

theorem chosen_iff {α : Type} {given inFile : Option α} {default result : α} :
    Chosen given inFile default result ↔ result = setting given inFile default := by
  constructor
  · intro chosen
    cases given with
    | some value => exact chosen.fromLine value rfl
    | none =>
      cases inFile with
      | some value => exact chosen.fromFile rfl value rfl
      | none => exact chosen.fallback rfl rfl
  · rintro rfl
    exact ⟨by rintro value rfl; rfl, by rintro rfl value rfl; rfl, by rintro rfl rfl; rfl⟩

/-- Patterns without the blanks around them, and without those that are blank, in order. -/
inductive Tidied : List String → List String → Prop where
  | nil : Tidied [] []
  | blank {pattern : String} {patterns kept : List String} (nothing : Text.Trimmed pattern.toList [])
    (rest : Tidied patterns kept) : Tidied (pattern :: patterns) kept
  | kept {pattern word : String} {patterns kept : List String} (filled : word ≠ "")
    (trimmed : Text.Trimmed pattern.toList word.toList) (rest : Tidied patterns kept) :
    Tidied (pattern :: patterns) (word :: kept)

theorem tidyPatterns_cons_blank {pattern : String} {patterns : List String}
    (nothing : Text.trim pattern.toList = []) :
    tidyPatterns (pattern :: patterns) = tidyPatterns patterns := by
  simp [tidyPatterns, nothing]

theorem tidyPatterns_cons_kept {pattern : String} {patterns : List String}
    (filled : Text.trim pattern.toList ≠ []) : tidyPatterns (pattern :: patterns) =
      String.ofList (Text.trim pattern.toList) :: tidyPatterns patterns := by
  simp [tidyPatterns, filled]

theorem tidied_iff {patterns kept : List String} : Tidied patterns kept ↔ kept = tidyPatterns patterns := by
  constructor
  · intro tidied
    induction tidied with
    | nil => rfl
    | blank nothing _ same => rw [tidyPatterns_cons_blank nothing.trim_eq, same]
    | kept filled trimmed _ same =>
      have filled : Text.trim _ ≠ [] := trimmed.trim_eq ▸ mt String.toList_eq_nil_iff.mp filled
      rw [tidyPatterns_cons_kept filled, trimmed.trim_eq, String.ofList_toList, same]
  · rintro rfl
    induction patterns with
    | nil => exact .nil
    | cons pattern patterns tidied =>
      by_cases nothing : Text.trim pattern.toList = []
      · rw [tidyPatterns_cons_blank nothing]
        exact .blank (Text.trimmed_iff.mpr nothing.symm) tidied
      · rw [tidyPatterns_cons_kept nothing]
        exact .kept (by simpa using nothing) (Text.trimmed_iff.mpr String.toList_ofList) tidied

/-- Patterns that are tidy stay as they are. -/
theorem Tidied.again {patterns kept : List String} (tidied : Tidied patterns kept) : Tidied kept kept := by
  induction tidied with
  | nil => exact .nil
  | blank _ _ same => exact same
  | kept filled trimmed _ same =>
    exact .kept filled ⟨⟨[], [], by simp, by simp, by simp⟩, trimmed.first, trimmed.last⟩ same

/-- What a command line and a file make of each setting. -/
structure Layered (arguments : Arguments) (file : ConfigFile) (config : Config) : Prop where
  /-- no roots on the command line are as if none were given; none in the file are none -/
  sourceRoots : Chosen (if arguments.sourceRoots = some [] then none else arguments.sourceRoots)
    file.sourceRoots default.sourceRoots config.sourceRoots
  outDir : Chosen arguments.outDir file.outDir default.outDir config.outDir
  suffix : Chosen arguments.suffix file.suffix default.suffix config.suffix
  includes : ∃ patterns, Chosen arguments.includes file.includes default.includes patterns ∧
    Tidied patterns config.includes
  excludes : ∃ patterns, Chosen arguments.excludes file.excludes default.excludes patterns ∧
    Tidied patterns config.excludes
  /-- one template of the command line takes the place of all -/
  templates : Chosen (arguments.template.map fun path => [⟨path, TemplateSpec.defaultFileName⟩])
    file.templates [] config.templates
  validation : Chosen arguments.validation file.validation default.validation config.validation
  format : config.format = true ↔ arguments.format = true ∨ file.format = some true
  cleanOrphans : config.cleanOrphans = false ↔ arguments.keepOrphans = true ∨ file.cleanOrphans = some false

theorem layered_ofLayers (arguments : Arguments) (file : ConfigFile) :
    Layered arguments file (ofLayers arguments file) where
  sourceRoots := by
    refine chosen_iff.mpr ?_
    rcases given : arguments.sourceRoots with - | (- | ⟨root, roots⟩) <;>
      simp only [ofLayers, given, Option.filter_some, Option.filter_none] <;> rfl
  outDir := chosen_iff.mpr rfl
  suffix := chosen_iff.mpr rfl
  includes := ⟨_, chosen_iff.mpr rfl, tidied_iff.mpr rfl⟩
  excludes := ⟨_, chosen_iff.mpr rfl, tidied_iff.mpr rfl⟩
  templates := by
    refine chosen_iff.mpr ?_
    cases given : arguments.template <;> simp [ofLayers, setting, default, given]
  validation := chosen_iff.mpr rfl
  format := by
    rcases inFile : file.format with - | (- | -) <;> simp [ofLayers, default, inFile]
  cleanOrphans := by
    rcases inFile : file.cleanOrphans with - | (- | -) <;> simp [ofLayers, default, inFile]

theorem Chosen.unique {α : Type} {given inFile : Option α} {default result result' : α}
    (chosen : Chosen given inFile default result) (chosen' : Chosen given inFile default result') :
    result = result' :=
  (chosen_iff.mp chosen).trans (chosen_iff.mp chosen').symm

theorem Tidied.unique {patterns kept kept' : List String} (tidied : Tidied patterns kept)
    (tidied' : Tidied patterns kept') : kept = kept' :=
  (tidied_iff.mp tidied).trans (tidied_iff.mp tidied').symm

theorem Layered.unique {arguments : Arguments} {file : ConfigFile} {config config' : Config}
    (layered : Layered arguments file config) (layered' : Layered arguments file config') :
    config = config' := by
  obtain ⟨included, chosen, tidied⟩ := layered.includes
  obtain ⟨_, chosen', again⟩ := layered'.includes
  obtain ⟨excluded, dropped, left⟩ := layered.excludes
  obtain ⟨_, dropped', leftAgain⟩ := layered'.excludes
  obtain rfl := chosen.unique chosen'
  obtain rfl := dropped.unique dropped'
  have format := layered.format.trans layered'.format.symm
  have clean := layered.cleanOrphans.trans layered'.cleanOrphans.symm
  obtain ⟨⟩ := config
  obtain ⟨⟩ := config'
  congr 1
  · exact layered.sourceRoots.unique layered'.sourceRoots
  · exact layered.outDir.unique layered'.outDir
  · exact layered.suffix.unique layered'.suffix
  · exact tidied.unique again
  · exact left.unique leftAgain
  · exact layered.templates.unique layered'.templates
  · exact layered.validation.unique layered'.validation
  · exact Bool.eq_iff_iff.mpr format
  · exact Bool.not_inj (Bool.eq_iff_iff.mpr (by simpa using clean))

theorem layered_iff {arguments : Arguments} {file : ConfigFile} {config : Config} :
    Layered arguments file config ↔ config = ofLayers arguments file :=
  ⟨fun layered => layered.unique (layered_ofLayers arguments file),
    fun same => same ▸ layered_ofLayers arguments file⟩

/-- The settings of the file that a command line names. Where it names none, nothing is set. -/
inductive Named (disk : Disk) : Option Path → ConfigFile → Prop where
  | nothing : Named disk none .empty
  | found {path : Path} {file : ConfigFile} (found : ConfigFile.Found disk path file) :
    Named disk (some path) file

section

variable {disk : Disk} {arguments : Arguments}

theorem load_of_no_file (none : arguments.config = none) :
    load disk arguments = .ok (ofLayers arguments .empty) := by
  rw [load, none]
  rfl

theorem load_of_file {path : Path} (named : arguments.config = some path) :
    load disk arguments = (ConfigFile.load disk path).map (ofLayers arguments) := by
  simp only [load, named]
  cases ConfigFile.load disk path <;> rfl

theorem load_eq_ok_iff {config : Config} : load disk arguments = .ok config ↔
    ∃ file, Named disk arguments.config file ∧ Layered arguments file config := by
  simp only [layered_iff]
  cases named : arguments.config with
  | none =>
    rw [load_of_no_file named]
    constructor
    · exact fun same => ⟨_, .nothing, (Except.ok.inj same).symm⟩
    · rintro ⟨file, ⟨⟩, same⟩
      exact congrArg Except.ok same.symm
  | some path =>
    rw [load_of_file named]
    constructor
    · intro loaded
      cases found : ConfigFile.load disk path with
      | error failure => simp [found, Except.map] at loaded
      | ok file =>
        rw [found] at loaded
        exact ⟨file, .found (ConfigFile.load_eq_ok_iff.mp found), (Except.ok.inj loaded).symm⟩
    · rintro ⟨file, _ | found, rfl⟩
      rw [ConfigFile.load_of_found found]
      rfl

theorem load_eq_error_iff {failure : Failure} : load disk arguments = .error failure ↔
    ∃ path, arguments.config = some path ∧ ConfigFile.Unusable disk path failure := by
  cases named : arguments.config with
  | none =>
    rw [load_of_no_file named]
    simp
  | some path =>
    rw [load_of_file named]
    simp only [Option.some.injEq, exists_eq_left', ← ConfigFile.load_eq_error_iff]
    cases ConfigFile.load disk path <;> simp [Except.map]

end

/-- Patterns that were loaded can be given in place of their own ones. -/
theorem Layered.again {arguments : Arguments} {file : ConfigFile} {config : Config}
    (layered : Layered arguments file config) :
    Layered { arguments with includes := config.includes, excludes := config.excludes } file config := by
  obtain ⟨_, _, included⟩ := layered.includes
  obtain ⟨_, _, excluded⟩ := layered.excludes
  exact { layered with
    includes := ⟨_, chosen_iff.mpr rfl, included.again⟩
    excludes := ⟨_, chosen_iff.mpr rfl, excluded.again⟩ }

/-- Loading fails because of the file that is named, whatever else is given; a key that is not known is
enough. Otherwise each setting is that of the first layer that has it. Tidying patterns twice is tidying
them once. -/
theorem load_by_layers (disk : Disk) (arguments : Arguments) :
    (∀ failure, load disk arguments = .error failure ↔
      ∃ path, arguments.config = some path ∧ ConfigFile.Unusable disk path failure) ∧
    (∀ path text kind document positional entries, arguments.config = some path →
      disk.readText path = .ok text → ConfigNotation.Of path kind → kind.parse text = some document →
      Entries ConfigFile.fieldNames document positional entries →
      (∃ entry ∈ entries, entry.1 ∉ ConfigFile.fieldNames) →
      load disk arguments = .error (.unparsableConfigFile kind path)) ∧
    (∀ config, load disk arguments = .ok config ↔
      ∃ file, Named disk arguments.config file ∧ Layered arguments file config) ∧
    ∀ config, load disk arguments = .ok config →
      Tidied config.includes config.includes ∧ Tidied config.excludes config.excludes ∧
      load disk { arguments with includes := config.includes, excludes := config.excludes } = .ok config := by
  refine ⟨fun _ => load_eq_error_iff, ?_, fun _ => load_eq_ok_iff, ?_⟩
  · rintro path text kind document positional entries named read known parsed has ⟨entry, member, strange⟩
    refine load_eq_error_iff.mpr ⟨path, named, .unparsable read known fun document' file parsed' => ?_⟩
    obtain rfl := Option.some.inj (parsed.symm.trans parsed')
    exact ConfigFile.not_given_of_unknown has member strange file
  · intro config loaded
    obtain ⟨file, named, layered⟩ := load_eq_ok_iff.mp loaded
    obtain ⟨_, _, included⟩ := layered.includes
    obtain ⟨_, _, excluded⟩ := layered.excludes
    exact ⟨included.again, excluded.again, load_eq_ok_iff.mpr ⟨file, named, layered.again⟩⟩

/-- No roots on the command line, but in the file that there are none; another file has an unknown key. -/
theorem load_by_layers_project :
    let disk : Disk := ⟨[(["settings.JSON"], .file ("\x7b\"source_roots\": [], \"out_dir\": \"made\", " ++
        "\"suffix\": \"Root\", \"include\": [\" a.rs \", \" \"], \"clean_orphans\": false\x7d").toUTF8),
      (["other.json"], .file "\x7b\"out\":\"made\"\x7d".toUTF8)], []⟩
    let arguments : Arguments := ⟨some ⟨"settings.JSON"⟩, some [], none, some "Entity", none, some ["b.rs\t"],
      some ⟨"unit.tera"⟩, none, true, false, false, false⟩
    let config : Config := ⟨[], ⟨"made"⟩, "Entity", ["a.rs"], ["b.rs"],
      [⟨⟨"unit.tera"⟩, TemplateSpec.defaultFileName⟩], .off, true, false⟩
    load disk arguments = .ok config ∧
      (∃ file, Named disk arguments.config file ∧ Layered arguments file config) ∧
      load disk { arguments with includes := config.includes, excludes := config.excludes } = .ok config ∧
      load disk { arguments with config := some ⟨"other.json"⟩ } =
        .error (.unparsableConfigFile .json ⟨"other.json"⟩) := by
  intro disk arguments config
  have loaded : load disk arguments = .ok config := Except.toOption_eq_some_iff.mp (by decide +kernel)
  obtain ⟨-, -, layered, again⟩ := load_by_layers disk arguments
  have read : disk.readText ⟨"other.json"⟩ = .ok "\x7b\"out\":\"made\"\x7d" :=
    Except.toOption_eq_some_iff.mp (by decide +kernel)
  let document : Document := .table [("out", .text "made")]
  have printed : Json.printCompact document = "\x7b\"out\":\"made\"\x7d" := by decide +kernel
  have parsed : Json.parse "\x7b\"out\":\"made\"\x7d" = some document :=
    printed ▸ Json.parse_printCompact (.table (by simp [Json.Canonical.text]))
  have known : ConfigNotation.Of ⟨"other.json"⟩ .json := ConfigNotation.of_iff.mpr (by decide +kernel)
  obtain ⟨-, refused, -⟩ := load_by_layers disk { arguments with config := some ⟨"other.json"⟩ }
  exact ⟨loaded, (layered config).mp loaded, (again config loaded).2.2,
    refused _ _ _ _ _ _ rfl read known parsed (.table _) ⟨_, List.mem_singleton_self _, by decide⟩⟩

end Config

end Scaffold
