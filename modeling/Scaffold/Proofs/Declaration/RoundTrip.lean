import Scaffold.Declaration.Document
import Scaffold.Proofs.Document
import Scaffold.Proofs.Json

/-!
Declarations as JSON. What is written of a declaration is read back as it was; beside that the reader takes
records in any order, with unknown fields or by position, and the name of a kind in two forms.
-/

namespace Scaffold

open Document

namespace Json

variable {document : Document}

theorem Value.asText?_eq_some_iff (value : Value document) {text : String} :
    document.asText? = some text ↔ document = .text text := by
  cases value <;> simp [asText?]

/-- The entries of a value are values. -/
theorem Value.of_entries {known : List String} {positional : Bool} {entries : List (String × Document)}
    (value : Value document) (has : Entries known document positional entries) :
    ∀ entry ∈ entries, Value entry.2 := by
  cases has with
  | table entries => cases value with | table each => exact each
  | list fit =>
    cases value with
    | list each => exact fun entry member => each entry.2 (List.of_mem_zip member).2
  | named => nomatch value

end Json

namespace DeclarationKind

theorem ofText?_eq_some_iff {text : String} {kind : DeclarationKind} :
    ofText? text = some kind ↔ text = kind.text := by
  constructor
  · intro found
    have same := List.find?_some found
    exact (beq_iff_eq.mp same).symm
  · rintro rfl
    cases kind <;> decide

/-- A document names a kind: a text, or a table with nothing under that name. -/
inductive Named : Document → DeclarationKind → Prop where
  | text (kind : DeclarationKind) : Named (.text kind.text) kind
  | table (kind : DeclarationKind) : Named (.table [(kind.text, .null)]) kind

theorem asName?_eq_some_iff {document : Document} (value : Json.Value document) {kind : DeclarationKind} :
    document.asName? ofText? = some kind ↔ Named document kind := by
  constructor
  · intro named
    unfold asName? at named
    split at named
    · obtain rfl := ofText?_eq_some_iff.mp named
      exact .table kind
    · nomatch value
    · obtain ⟨text, found, named⟩ := Option.bind_eq_some_iff.mp named
      obtain rfl := ofText?_eq_some_iff.mp named
      obtain rfl := value.asText?_eq_some_iff.mp found
      exact .text kind
  · rintro (_ | _) <;> exact ofText?_eq_some_iff.mpr rfl

end DeclarationKind

namespace SourceLocation

def fieldNames : List String := ["file", "module_path"]

/-- A document stands for a location: a record of two texts. -/
def StoodFor (document : Document) (location : SourceLocation) : Prop :=
  ∃ positional entries, Entries fieldNames document positional entries ∧
    Sole entries "file" (.text location.file.text) ∧ Sole entries "module_path" (.text location.modulePath)

theorem ofDocument?_eq_some_iff {document : Document} (value : Json.Value document)
    {location : SourceLocation} : ofDocument? document = some location ↔ StoodFor document location := by
  unfold ofDocument?
  simp only [Option.bind_eq_bind, Option.bind_eq_some_iff, Option.some.injEq]
  constructor
  · rintro ⟨fields, found, file, atFile, modulePath, atPath, rfl⟩
    obtain ⟨entries, record⟩ := (fields?_eq_some_iff (by decide) document).mp found
    have values := value.of_entries record.has
    obtain ⟨held, sole, text⟩ := (record.required?_eq_some_iff (by decide)).mp atFile
    obtain ⟨held', sole', text'⟩ := (record.required?_eq_some_iff (by decide)).mp atPath
    obtain rfl := (values _ sole.mem).asText?_eq_some_iff.mp text
    obtain rfl := (values _ sole'.mem).asText?_eq_some_iff.mp text'
    exact ⟨_, entries, record.has, sole, sole'⟩
  · rintro ⟨positional, entries, has, sole, sole'⟩
    have distinct : Distinct fieldNames entries :=
      List.forall_mem_cons.mpr ⟨.inr ⟨_, sole⟩, List.forall_mem_singleton.mpr (.inr ⟨_, sole'⟩)⟩
    have record : Record fieldNames false document ⟨positional, among fieldNames entries⟩ entries :=
      ⟨has, distinct, by simp, rfl⟩
    exact ⟨_, (fields?_eq_some_iff (by decide) document).mpr ⟨entries, record⟩, _,
      (record.required?_eq_some_iff (by decide)).mpr ⟨_, sole, rfl⟩, _,
      (record.required?_eq_some_iff (by decide)).mpr ⟨_, sole', rfl⟩, rfl⟩

end SourceLocation

namespace Declaration

def fieldNames : List String := ["kind", "name", "location"]

/-- A document stands for a declaration: a record of a kind and a name, and a location if there is one. -/
def StoodFor (document : Document) (declaration : Declaration) : Prop :=
  ∃ positional entries kind, Entries fieldNames document positional entries ∧
    Sole entries "kind" kind ∧ DeclarationKind.Named kind declaration.kind ∧
    Sole entries "name" (.text declaration.name) ∧
    Tells entries "location" SourceLocation.StoodFor declaration.location

theorem ofDocument?_eq_some_iff {document : Document} (value : Json.Value document)
    {declaration : Declaration} :
    ofDocument? document = some declaration ↔ StoodFor document declaration := by
  unfold ofDocument?
  simp only [Option.bind_eq_bind, Option.bind_eq_some_iff, Option.some.injEq]
  constructor
  · rintro ⟨fields, found, kind, atKind, name, atName, location, atLocation, rfl⟩
    obtain ⟨entries, record⟩ := (fields?_eq_some_iff (by decide) document).mp found
    have values := value.of_entries record.has
    obtain ⟨held, sole, named⟩ := (record.required?_eq_some_iff (by decide)).mp atKind
    obtain ⟨held', sole', text⟩ := (record.required?_eq_some_iff (by decide)).mp atName
    obtain rfl := (values _ sole'.mem).asText?_eq_some_iff.mp text
    have told := (record.optionalOrMissing?_eq_some_iff (by decide)).mp atLocation
    exact ⟨_, entries, held, record.has, sole,
      (DeclarationKind.asName?_eq_some_iff (values _ sole.mem)).mp named, sole',
      told.mono fun entry member _ => (SourceLocation.ofDocument?_eq_some_iff (values entry member)).mp⟩
  · rintro ⟨positional, entries, kind, has, sole, named, sole', told⟩
    have values := value.of_entries has
    have distinct : Distinct fieldNames entries :=
      List.forall_mem_cons.mpr ⟨.inr ⟨_, sole⟩,
        List.forall_mem_cons.mpr ⟨.inr ⟨_, sole'⟩, List.forall_mem_singleton.mpr told.distinct⟩⟩
    have record : Record fieldNames false document ⟨positional, among fieldNames entries⟩ entries :=
      ⟨has, distinct, by simp, rfl⟩
    have read : Tells entries "location" (fun held location =>
        SourceLocation.ofDocument? held = some location) declaration.location :=
      told.mono fun entry member _ => (SourceLocation.ofDocument?_eq_some_iff (values entry member)).mpr
    exact ⟨_, (fields?_eq_some_iff (by decide) document).mpr ⟨entries, record⟩, _,
      (record.required?_eq_some_iff (by decide)).mpr
        ⟨_, sole, (DeclarationKind.asName?_eq_some_iff (values _ sole.mem)).mpr named⟩, _,
      (record.required?_eq_some_iff (by decide)).mpr ⟨_, sole', rfl⟩, _,
      (record.optionalOrMissing?_eq_some_iff (by decide)).mpr read, rfl⟩

theorem canonical_toDocument (declaration : Declaration) : Json.Canonical declaration.toDocument := by
  obtain ⟨kind, name, location⟩ := declaration
  cases location with
  | none => exact .table (by simp [Json.Canonical.text])
  | some location =>
    have inner : Json.Canonical location.toDocument := .table (by simp [Json.Canonical.text])
    exact .table (by simp [Json.Canonical.text, inner])

theorem stoodFor_toDocument (location : SourceLocation) :
    SourceLocation.StoodFor location.toDocument location :=
  ⟨false, _, .table _, sole_iff.mpr (by simp [withKey]), sole_iff.mpr (by simp [withKey])⟩

/-- What a written declaration holds: a kind, a name, and an entry for the location if there is one. -/
structure Written (declaration : Declaration) (entries : List (String × Document)) : Prop where
  kind : Sole entries "kind" (.text declaration.kind.text)
  name : Sole entries "name" (.text declaration.name)
  unplaced : declaration.location = none → Absent entries "location"
  placed : ∀ location, declaration.location = some location →
    Sole entries "location" location.toDocument

theorem written_toDocument (declaration : Declaration) :
    ∃ entries, declaration.toDocument = .table entries ∧ Written declaration entries := by
  refine ⟨_, rfl, sole_iff.mpr ?_, sole_iff.mpr ?_, fun unplaced => ?_, fun location placed => ?_⟩
  · cases declaration.location <;> simp [withKey]
  · cases declaration.location <;> simp [withKey]
  · simp [unplaced, Absent]
  · simp [placed, sole_iff, withKey]

theorem Written.tells {declaration : Declaration} {entries : List (String × Document)}
    (written : Written declaration entries) :
    Tells entries "location" SourceLocation.StoodFor declaration.location := by
  cases location : declaration.location with
  | none => exact .absent (written.unplaced location)
  | some place => exact .value (written.placed place location) rfl (stoodFor_toDocument place)

theorem ofDocument?_toDocument (declaration : Declaration) :
    ofDocument? declaration.toDocument = some declaration := by
  obtain ⟨entries, same, written⟩ := written_toDocument declaration
  refine (ofDocument?_eq_some_iff declaration.canonical_toDocument.value).mpr ?_
  rw [same]
  exact ⟨false, entries, _, .table entries, written.kind, .text _, written.name, written.tells⟩

/-- What is written of a declaration is read back, as a value and from its text. A value is read as a
declaration just if it stands for it, and then the declaration is written with its location if it has
one, and read back. -/
theorem read_written :
    (∀ declaration : Declaration, ofDocument? declaration.toDocument = some declaration ∧
      (Json.parse (Json.print declaration.toDocument)).bind ofDocument? = some declaration ∧
      (Json.parse (Json.printCompact declaration.toDocument)).bind ofDocument? = some declaration) ∧
    (∀ document, Json.Value document → ∀ declaration,
      (ofDocument? document = some declaration ↔ StoodFor document declaration) ∧
      (ofDocument? document = some declaration →
        (∃ entries, declaration.toDocument = .table entries ∧ Written declaration entries) ∧
        ofDocument? declaration.toDocument = some declaration)) ∧
    ∀ text declaration, (Json.parse text).bind ofDocument? = some declaration ↔
      ∃ document, Json.parse text = some document ∧ StoodFor document declaration := by
  refine ⟨fun declaration => ?_, fun document value declaration => ?_, fun text declaration => ?_⟩
  · have canonical := declaration.canonical_toDocument
    rw [Json.parse_print canonical, Json.parse_printCompact canonical, Option.bind_some]
    exact ⟨declaration.ofDocument?_toDocument, declaration.ofDocument?_toDocument,
      declaration.ofDocument?_toDocument⟩
  · exact ⟨ofDocument?_eq_some_iff value, fun _ =>
      ⟨declaration.written_toDocument, declaration.ofDocument?_toDocument⟩⟩
  · rw [Option.bind_eq_some_iff]
    exact exists_congr fun document => and_congr_right fun read =>
      ofDocument?_eq_some_iff (Json.value_of_parse read)

/-- A record in another order, with a field that is not known, the kind as a table and the location as a
list. -/
theorem read_written_shuffled :
    let text := "\x7b\"name\": \"Order\", \"line\": [1], \"location\": [\"src/a.rs\", \"\"], " ++
      "\"kind\": \x7b\"type_alias\": null\x7d\x7d"
    let declaration : Declaration := ⟨.typeAlias, "Order", some ⟨⟨"src/a.rs"⟩, ""⟩⟩
    (Json.parse text).bind ofDocument? = some declaration ∧
    (∃ document, Json.parse text = some document ∧ StoodFor document declaration) ∧
    (Json.parse (Json.printCompact declaration.toDocument)).bind ofDocument? = some declaration := by
  intro text declaration
  have read : (Json.parse text).bind ofDocument? = some declaration := by decide +kernel
  exact ⟨read, (read_written.2.2 text declaration).mp read, (read_written.1 declaration).2.2⟩

end Declaration

end Scaffold
