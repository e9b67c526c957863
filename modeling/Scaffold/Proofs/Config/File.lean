import Scaffold.Config.File
import Scaffold.Proofs.Disk.Inside
import Scaffold.Proofs.Document

/-!
Settings in files. A document gives settings if it is a record of known keys only, none of them twice, with
a value of the right kind under each; a file gives those of its text, or there is one reason why not.
-/

namespace Scaffold

open Document

namespace ConfigNotation

/-- The extensions of the files in a notation. -/
def extensions : ConfigNotation → List String
  | yaml => ["yaml", "yml"]
  | json => ["json"]
  | toml => ["toml"]

/-- The extension of a path, in capitals or not, is one of a notation. -/
def Of (path : Path) (kind : ConfigNotation) : Prop :=
  ∃ name ∈ kind.extensions, (path.extension?.getD "").toList.map Char.toLower = name.toList

theorem ofExtension?_eq_some_iff {name : String} {kind : ConfigNotation} :
    ofExtension? name = some kind ↔ name ∈ kind.extensions := by
  unfold ofExtension?
  split <;> cases kind <;> simp_all [extensions]

theorem of_iff {path : Path} {kind : ConfigNotation} :
    Of path kind ↔ ofExtension? (ConfigFile.extension path) = some kind := by
  rw [ofExtension?_eq_some_iff, Of]
  constructor
  · rintro ⟨name, listed, spelled⟩
    rwa [ConfigFile.extension, spelled, String.ofList_toList]
  · intro listed
    exact ⟨_, listed, by rw [ConfigFile.extension, String.toList_ofList]⟩

end ConfigNotation

namespace ConfigFile

/-- A setting as a record gives it. Where there are no names it may be null, but not left out. -/
structure Setting {α : Type} (positional : Bool) (entries : List (String × Document)) (key : String)
    (value? : Document → Option α) (result : Option α) : Prop where
  there : positional = true → ¬ Absent entries key
  told : Tells entries key (fun held value => value? held = some value) result

/-- Each setting of a file is what is given under its own key. -/
structure Settings (positional : Bool) (entries : List (String × Document)) (file : ConfigFile) : Prop where
  sourceRoots : Setting positional entries "source_roots" (asList? pathOfDocument?) file.sourceRoots
  outDir : Setting positional entries "out_dir" pathOfDocument? file.outDir
  suffix : Setting positional entries "suffix" asText? file.suffix
  includes : Setting positional entries "include" (asList? asText?) file.includes
  excludes : Setting positional entries "exclude" (asList? asText?) file.excludes
  templates : Setting positional entries "templates" (asList? templateOfDocument?) file.templates
  validation : Setting positional entries "validation" (asName? ValidationMode.ofText?) file.validation
  format : Setting positional entries "format" asFlag? file.format
  cleanOrphans : Setting positional entries "clean_orphans" asFlag? file.cleanOrphans

/-- What a document gives: the settings of a record that has no others, or none if it is empty. -/
inductive Given : Document → ConfigFile → Prop where
  | nothing : Given (.plain "") empty
  | record {document : Document} {positional : Bool} {entries : List (String × Document)} {file : ConfigFile}
    (has : Entries fieldNames document positional entries)
    (onlyKnown : ∀ entry ∈ entries, entry.1 ∈ fieldNames)
    (settings : Settings positional entries file) : Given document file

theorem setting_iff {α : Type} {document : Document} {fields : Fields} {entries : List (String × Document)}
    (record : Record fieldNames true document fields entries) {key : String} (member : key ∈ fieldNames)
    {value? : Document → Option α} {result : Option α} :
    fields.optional? key value? = some result ↔ Setting fields.positional entries key value? result := by
  rw [record.optional?_eq_some_iff member]
  exact ⟨fun ⟨there, told⟩ => ⟨there, told⟩, fun ⟨there, told⟩ => ⟨there, told⟩⟩

theorem Settings.distinct {positional : Bool} {entries : List (String × Document)} {file : ConfigFile}
    (settings : Settings positional entries file) : Distinct fieldNames entries := by
  simp only [Distinct, fieldNames, List.forall_mem_cons]
  exact ⟨settings.sourceRoots.told.distinct, settings.outDir.told.distinct, settings.suffix.told.distinct,
    settings.includes.told.distinct, settings.excludes.told.distinct, settings.templates.told.distinct,
    settings.validation.told.distinct, settings.format.told.distinct, settings.cleanOrphans.told.distinct,
    by simp⟩

theorem ofDocument?_eq_some_iff {document : Document} {file : ConfigFile} :
    ofDocument? document = some file ↔ Given document file := by
  unfold ofDocument?
  split
  · rw [Option.pure_def, Option.some.injEq]
    constructor
    · rintro rfl
      exact .nothing
    · rintro (_ | has)
      · rfl
      · nomatch has
  · rename_i filled
    simp only [Option.bind_eq_bind, Option.bind_eq_some_iff, Option.pure_def, Option.some.injEq]
    constructor
    · rintro ⟨fields, found, sourceRoots, roots, outDir, out, suffix, ends, includes, inside, excludes,
        outside, templates, rendered, validation, checked, format, formatted, cleanOrphans, cleaned, rfl⟩
      obtain ⟨entries, record⟩ := (fields?_eq_some_iff (by decide) document).mp found
      exact .record record.has (record.onlyKnown rfl)
        ⟨(setting_iff record (by decide)).mp roots, (setting_iff record (by decide)).mp out,
          (setting_iff record (by decide)).mp ends, (setting_iff record (by decide)).mp inside,
          (setting_iff record (by decide)).mp outside, (setting_iff record (by decide)).mp rendered,
          (setting_iff record (by decide)).mp checked, (setting_iff record (by decide)).mp formatted,
          (setting_iff record (by decide)).mp cleaned⟩
    · rintro (_ | @⟨_, positional, entries, _, has, onlyKnown, settings⟩)
      · exact absurd rfl filled
      · have record : Record fieldNames true document ⟨positional, among fieldNames entries⟩ entries :=
          ⟨has, settings.distinct, fun _ => onlyKnown, rfl⟩
        exact ⟨_, (fields?_eq_some_iff (by decide) document).mpr ⟨entries, record⟩,
          _, (setting_iff record (by decide)).mpr settings.sourceRoots,
          _, (setting_iff record (by decide)).mpr settings.outDir,
          _, (setting_iff record (by decide)).mpr settings.suffix,
          _, (setting_iff record (by decide)).mpr settings.includes,
          _, (setting_iff record (by decide)).mpr settings.excludes,
          _, (setting_iff record (by decide)).mpr settings.templates,
          _, (setting_iff record (by decide)).mpr settings.validation,
          _, (setting_iff record (by decide)).mpr settings.format,
          _, (setting_iff record (by decide)).mpr settings.cleanOrphans, rfl⟩

/-- A file that can be read, in the notation of its extension, gives settings. -/
def Found (disk : Disk) (path : Path) (file : ConfigFile) : Prop :=
  ∃ text kind document, disk.readText path = .ok text ∧ ConfigNotation.Of path kind ∧
    kind.parse text = some document ∧ Given document file

/-- Why a file gives no settings. -/
inductive Unusable (disk : Disk) (path : Path) : Failure → Prop where
  | missing (absent : disk.contains path = false) : Unusable disk path (.missingConfigFile path)
  | unreadable {refusal : Refusal} (there : disk.contains path = true)
    (refused : disk.readText path = .error refusal) : Unusable disk path (.unreadableConfigFile path)
  | unknownExtension {text : String} (read : disk.readText path = .ok text)
    (strange : ∀ kind, ¬ ConfigNotation.Of path kind) :
    Unusable disk path (.unknownExtension (extension path))
  | unparsable {text : String} {kind : ConfigNotation} (read : disk.readText path = .ok text)
    (known : ConfigNotation.Of path kind)
    (refused : ∀ document file, kind.parse text = some document → ¬ Given document file) :
    Unusable disk path (.unparsableConfigFile kind path)

section

variable {disk : Disk} {path : Path}

theorem load_of_found {file : ConfigFile} (found : Found disk path file) : load disk path = .ok file := by
  obtain ⟨text, kind, document, read, known, parsed, given⟩ := found
  have there := Disk.contains_of_read (Disk.read_of_readText read)
  simp only [load, there, read, ConfigNotation.of_iff.mp known, parsed, Option.bind_some,
    ofDocument?_eq_some_iff.mpr given]
  rfl

theorem load_of_unusable {failure : Failure} (unusable : Unusable disk path failure) :
    load disk path = .error failure := by
  cases unusable with
  | missing absent =>
    simp only [load, absent]
    rfl
  | unreadable there refused =>
    simp only [load, there, refused]
    rfl
  | unknownExtension read strange =>
    have there := Disk.contains_of_read (Disk.read_of_readText read)
    have none : ConfigNotation.ofExtension? (extension path) = none :=
      Option.eq_none_iff_forall_ne_some.mpr fun kind known => strange kind (ConfigNotation.of_iff.mpr known)
    simp only [load, there, read, none]
    rfl
  | @unparsable text kind read known refused =>
    have there := Disk.contains_of_read (Disk.read_of_readText read)
    have none : (kind.parse text).bind ofDocument? = none := by
      refine Option.eq_none_iff_forall_ne_some.mpr fun file given => ?_
      obtain ⟨document, parsed, given⟩ := Option.bind_eq_some_iff.mp given
      exact refused document file parsed (ofDocument?_eq_some_iff.mp given)
    simp only [load, there, read, ConfigNotation.of_iff.mp known, none]
    rfl

theorem found_or_unusable (disk : Disk) (path : Path) :
    (∃ file, Found disk path file) ∨ ∃ failure, Unusable disk path failure := by
  by_cases usable : ∃ file, Found disk path file
  · exact .inl usable
  right
  cases there : disk.contains path with
  | false => exact ⟨_, .missing there⟩
  | true =>
    cases read : disk.readText path with
    | error refusal => exact ⟨_, .unreadable there read⟩
    | ok text =>
      by_cases known : ∃ kind, ConfigNotation.Of path kind
      · obtain ⟨kind, known⟩ := known
        exact ⟨_, .unparsable read known fun document file parsed given =>
          usable ⟨file, text, kind, document, read, known, parsed, given⟩⟩
      · exact ⟨_, .unknownExtension read (not_exists.mp known)⟩

theorem load_eq_ok_iff {file : ConfigFile} : load disk path = .ok file ↔ Found disk path file := by
  refine ⟨fun loaded => ?_, load_of_found⟩
  rcases found_or_unusable disk path with ⟨file', found⟩ | ⟨failure, unusable⟩
  · obtain rfl := Except.ok.inj ((load_of_found found).symm.trans loaded)
    exact found
  · rw [load_of_unusable unusable] at loaded
    contradiction

theorem load_eq_error_iff {failure : Failure} :
    load disk path = .error failure ↔ Unusable disk path failure := by
  refine ⟨fun failed => ?_, load_of_unusable⟩
  rcases found_or_unusable disk path with ⟨file, found⟩ | ⟨failure', unusable⟩
  · rw [load_of_found found] at failed
    contradiction
  · obtain rfl := Except.error.inj ((load_of_unusable unusable).symm.trans failed)
    exact unusable

/-- A record with an unknown key gives nothing. -/
theorem not_given_of_unknown {document : Document} {positional : Bool} {entries : List (String × Document)}
    (has : Entries fieldNames document positional entries) {entry : String × Document}
    (member : entry ∈ entries) (strange : entry.1 ∉ fieldNames) (file : ConfigFile) :
    ¬ Given document file := by
  rintro (_ | @⟨_, _, entries', _, has', onlyKnown, -⟩)
  · nomatch has
  · obtain ⟨-, rfl⟩ := has.unique has'
    exact strange (onlyKnown entry member)

end

end ConfigFile

end Scaffold
