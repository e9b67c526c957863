import Scaffold.Proofs.Digest
import Scaffold.Proofs.Template.Renderer

/-! What the fingerprint of a renderer tells. Each text of a template is digested with a zero behind it, so
that the fingerprint tells what stands between zeros. Which texts that makes is told as well where no text
has a zero of its own, and where the templates are counted and only the last source has any. -/

namespace Scaffold

namespace TemplateSpec

/-- The texts of a template, in the order in which they are digested. -/
def texts (spec : TemplateSpec) : List (List Char) :=
  [spec.name.toList, spec.fileName.toList, spec.source.toList]

/-- What is digested of some templates. -/
def identities (specs : List TemplateSpec) : String := String.join (specs.map identity)

/-- What stands between zeros in the texts of some templates. -/
def sections (specs : List TemplateSpec) : List (List Char) :=
  (specs.flatMap texts).flatMap (·.splitOn '\x00')

/-- No text of the template has a zero. -/
def ZeroFree (spec : TemplateSpec) : Prop := ∀ text ∈ spec.texts, '\x00' ∉ text

instance (spec : TemplateSpec) : Decidable spec.ZeroFree :=
  inferInstanceAs (Decidable (∀ text ∈ spec.texts, '\x00' ∉ text))

/-- The texts in front of the source have no zero. -/
def HeadFree (spec : TemplateSpec) : Prop := '\x00' ∉ spec.name.toList ∧ '\x00' ∉ spec.fileName.toList

theorem ZeroFree.head {spec : TemplateSpec} (free : spec.ZeroFree) : spec.HeadFree :=
  ⟨free _ (by simp [texts]), free _ (by simp [texts])⟩

/-- No text has a zero but for the source of the last template. -/
inductive Sealed : List TemplateSpec → Prop where
  | nil : Sealed []
  | last {spec : TemplateSpec} (free : spec.HeadFree) : Sealed [spec]
  | cons {spec : TemplateSpec} {rest : List TemplateSpec} (free : spec.ZeroFree) (later : Sealed rest) :
      Sealed (spec :: rest)

theorem Sealed.headFree {spec : TemplateSpec} {rest : List TemplateSpec} (sealed : Sealed (spec :: rest)) :
    spec.HeadFree := by
  cases sealed with
  | last free => exact free
  | cons free _ => exact free.head

/-! ### Texts that are ended by zeros -/

theorem splitOn_injective {text text' : List Char} (same : text.splitOn '\x00' = text'.splitOn '\x00') :
    text = text' :=
  calc
    text = ['\x00'].intercalate (text.splitOn '\x00') := (List.intercalate_splitOn _).symm
    _ = ['\x00'].intercalate (text'.splitOn '\x00') := by rw [same]
    _ = text' := List.intercalate_splitOn _

/-- Zeros behind texts cut them where zeros inside them do. -/
theorem splitOn_ended (texts : List (List Char)) :
    (texts.flatMap (· ++ ['\x00'])).splitOn '\x00' = texts.flatMap (·.splitOn '\x00') ++ [[]] := by
  induction texts with
  | nil => rfl
  | cons text rest ih =>
    rw [List.flatMap_cons, List.flatMap_cons, List.append_assoc, List.singleton_append,
      List.splitOn_append_cons_self, ih, List.append_assoc]

theorem toList_identities (specs : List TemplateSpec) :
    (identities specs).toList = (specs.flatMap texts).flatMap (· ++ ['\x00']) := by
  induction specs with
  | nil => rfl
  | cons spec rest ih =>
    have split : identities (spec :: rest) = spec.identity ++ identities rest := by
      simp [identities, String.join_cons]
    have zero : "\x00".toList = ['\x00'] := rfl
    rw [split, String.toList_append, ih, List.flatMap_cons, List.flatMap_append]
    simp [identity, texts, zero]

/-- Templates are digested alike if the same stands between zeros in their texts. -/
theorem identities_eq_iff {specs specs' : List TemplateSpec} :
    identities specs = identities specs' ↔ sections specs = sections specs' := by
  rw [← String.toList_inj, toList_identities, toList_identities]
  constructor
  · intro same
    have cut := congrArg (List.splitOn '\x00') same
    rw [splitOn_ended, splitOn_ended] at cut
    exact List.append_cancel_right cut
  · intro same
    refine splitOn_injective ?_
    rw [splitOn_ended, splitOn_ended]
    exact congrArg (· ++ [[]]) same

/-! ### Texts that are told apart -/

theorem eq_of_texts {spec spec' : TemplateSpec} (name : spec.name.toList = spec'.name.toList)
    (fileName : spec.fileName.toList = spec'.fileName.toList)
    (source : spec.source.toList = spec'.source.toList) : spec = spec' := by
  obtain ⟨first, second, third⟩ := spec
  obtain ⟨first', second', third'⟩ := spec'
  simp only [String.toList_inj] at name fileName source
  rw [name, fileName, source]

/-- A template has three texts, so those of a list of templates are counted off. -/
theorem flatMap_texts_injective {specs specs' : List TemplateSpec}
    (same : specs.flatMap texts = specs'.flatMap texts) : specs = specs' := by
  induction specs generalizing specs' with
  | nil =>
    cases specs' with
    | nil => rfl
    | cons spec' rest' => simp [texts] at same
  | cons spec rest ih =>
    cases specs' with
    | nil => simp [texts] at same
    | cons spec' rest' =>
      simp only [List.flatMap_cons, texts, List.cons_append, List.nil_append, List.cons.injEq] at same
      obtain ⟨name, fileName, source, same⟩ := same
      rw [eq_of_texts name fileName source, ih same]

theorem flatMap_splitOn_of_free {texts : List (List Char)} (free : ∀ text ∈ texts, '\x00' ∉ text) :
    texts.flatMap (·.splitOn '\x00') = texts := by
  induction texts with
  | nil => rfl
  | cons text rest ih =>
    obtain ⟨first, free⟩ := List.forall_mem_cons.mp free
    rw [List.flatMap_cons, List.splitOn_eq_singleton first, ih free, List.singleton_append]

theorem sections_cons (spec : TemplateSpec) (rest : List TemplateSpec) :
    sections (spec :: rest) = spec.texts.flatMap (·.splitOn '\x00') ++ sections rest := by
  rw [sections, sections, List.flatMap_cons, List.flatMap_append]

theorem sections_of_free {specs : List TemplateSpec} (free : ∀ spec ∈ specs, spec.ZeroFree) :
    sections specs = specs.flatMap texts := by
  refine flatMap_splitOn_of_free fun text member => ?_
  obtain ⟨spec, listed, member⟩ := List.mem_flatMap.mp member
  exact free spec listed text member

theorem sections_injective_of_free {specs specs' : List TemplateSpec}
    (free : ∀ spec ∈ specs, spec.ZeroFree) (free' : ∀ spec ∈ specs', spec.ZeroFree)
    (same : sections specs = sections specs') : specs = specs' := by
  rw [sections_of_free free, sections_of_free free'] at same
  exact flatMap_texts_injective same

/-- The first two texts of a template without zeros leave no doubt about the third. -/
theorem eq_of_sections_singleton {spec spec' : TemplateSpec} (free : spec.HeadFree) (free' : spec'.HeadFree)
    (same : sections [spec] = sections [spec']) : spec = spec' := by
  have told {spec : TemplateSpec} (free : spec.HeadFree) : sections [spec] =
      spec.name.toList :: spec.fileName.toList :: spec.source.toList.splitOn '\x00' := by
    simp [sections, texts, List.splitOn_eq_singleton free.1, List.splitOn_eq_singleton free.2]
  rw [told free, told free'] at same
  obtain ⟨names, same⟩ := List.cons.inj same
  obtain ⟨fileNames, sources⟩ := List.cons.inj same
  exact eq_of_texts names fileNames (splitOn_injective sources)

/-- A last template that follows after others is told from one that stands alone by their number. -/
theorem sections_injective_of_sealed {specs specs' : List TemplateSpec} (here : Sealed specs)
    (there : Sealed specs') (lengths : specs.length = specs'.length)
    (same : sections specs = sections specs') : specs = specs' := by
  induction here generalizing specs' with
  | nil => exact (List.length_eq_zero_iff.mp lengths.symm).symm
  | last free =>
    obtain ⟨spec', rfl⟩ := List.length_eq_one_iff.mp lengths.symm
    rw [eq_of_sections_singleton free there.headFree same]
  | @cons spec rest free _ ih =>
    obtain ⟨spec', rest', rfl⟩ := List.exists_cons_of_length_eq_add_one lengths.symm
    have lengths : rest.length = rest'.length := by simpa using lengths
    cases there with
    | last free' =>
      obtain rfl := List.length_eq_zero_iff.mp lengths
      rw [eq_of_sections_singleton free.head free' same]
    | cons free' later =>
      rw [sections_cons, sections_cons, flatMap_splitOn_of_free free, flatMap_splitOn_of_free free'] at same
      simp only [texts, List.cons_append, List.nil_append, List.cons.injEq] at same
      obtain ⟨name, fileName, source, same⟩ := same
      rw [eq_of_texts name fileName source, ih later lengths same]

end TemplateSpec

namespace Renderer

open TemplateSpec

/-- The fingerprint of a renderer tells what stands between zeros in its texts, and no more. So it tells its
templates where no text has a zero, and among as many templates also where the last source has some. -/
theorem fingerprint_identifies {specs specs' : List TemplateSpec} {renderer renderer' : Renderer}
    (grown : Grown specs renderer) (grown' : Grown specs' renderer')
    (distinct : Digest.Sha256.hexOfText (identities specs) = Digest.Sha256.hexOfText (identities specs') →
      identities specs = identities specs') :
    (renderer.fingerprint = renderer'.fingerprint ↔ sections specs = sections specs') ∧
    ((∀ spec ∈ specs, spec.ZeroFree) → (∀ spec ∈ specs', spec.ZeroFree) →
      (renderer.fingerprint = renderer'.fingerprint ↔ specs = specs')) ∧
    (Sealed specs → Sealed specs' → specs.length = specs'.length →
      (renderer.fingerprint = renderer'.fingerprint ↔ specs = specs')) := by
  obtain ⟨-, listed, -⟩ := ofSpecs_eq_ok.mp grown.made
  obtain ⟨-, listed', -⟩ := ofSpecs_eq_ok.mp grown'.made
  have told : renderer.fingerprint = renderer'.fingerprint ↔ sections specs = sections specs' := by
    have digests : (renderer.fingerprint = renderer'.fingerprint) =
        (Digest.Sha256.hexOfText (identities specs) = Digest.Sha256.hexOfText (identities specs')) := by
      rw [← listed, ← listed']
      rfl
    rw [digests, ← identities_eq_iff]
    exact ⟨distinct, congrArg _⟩
  refine ⟨told, fun free free' => ?_, fun here there lengths => ?_⟩
  · exact told.trans ⟨sections_injective_of_free free free', congrArg _⟩
  · exact told.trans ⟨sections_injective_of_sealed here there lengths, congrArg _⟩

theorem fingerprint_of_order :
    let unit : TemplateSpec := ⟨"unit", "mod order;", "\x7b\x7b feature \x7d\x7d.g.rs"⟩
    let tests : TemplateSpec := ⟨"tests", "mod \x7b\x7b feature \x7d\x7d;", "tests.g.rs"⟩
    (∀ spec ∈ [unit, tests], spec.ZeroFree) ∧ ∃ renderer renderer', Grown [unit, tests] renderer ∧
      Grown [tests, unit] renderer' ∧ renderer.fingerprint ≠ renderer'.fingerprint := by
  intro unit tests
  have free : ∀ spec ∈ [unit, tests], spec.ZeroFree := by decide
  have accepted : ∀ specs ∈ [[unit, tests], [tests, unit]], (ofSpecs specs).toOption.isSome = true := by
    decide +kernel
  obtain ⟨renderer, made⟩ := Option.isSome_iff_exists.mp (accepted [unit, tests] (by simp))
  obtain ⟨renderer', made'⟩ := Option.isSome_iff_exists.mp (accepted [tests, unit] (by simp))
  have grown := Grown.ofSpecs (Except.toOption_eq_some_iff.mp made)
  have grown' := Grown.ofSpecs (Except.toOption_eq_some_iff.mp made')
  have different : Digest.Sha256.hexOfText (identities [unit, tests]) ≠
      Digest.Sha256.hexOfText (identities [tests, unit]) := by
    rw [Ne, Digest.Sha256.hexOfText_eq_iff]
    decide +kernel
  obtain ⟨-, told, -⟩ := fingerprint_identifies grown grown' fun same => absurd same different
  refine ⟨free, renderer, renderer', grown, grown', fun same => ?_⟩
  have swapped := (told free (fun spec member => free spec (by simpa [or_comm] using member))).mp same
  exact absurd swapped (by decide)

/-- A template whose source has zeros passes for two templates. -/
theorem fingerprint_shared :
    let unit : TemplateSpec := ⟨"unit", "mod order;\x00more\x00more.rs\x00mod more;", "unit.rs"⟩
    let first : TemplateSpec := ⟨"unit", "mod order;", "unit.rs"⟩
    let second : TemplateSpec := ⟨"more", "mod more;", "more.rs"⟩
    ∃ renderer renderer', ofSpecs [unit] = .ok renderer ∧ ofSpecs [first, second] = .ok renderer' ∧
      identities [unit] = identities [first, second] ∧ renderer.fingerprint = renderer'.fingerprint := by
  intro unit first second
  have accepted : ∀ specs ∈ [[unit], [first, second]], (ofSpecs specs).toOption.isSome = true := by
    decide +kernel
  obtain ⟨renderer, made⟩ := Option.isSome_iff_exists.mp (accepted [unit] (by simp))
  obtain ⟨renderer', made'⟩ := Option.isSome_iff_exists.mp (accepted [first, second] (by simp))
  have made := Except.toOption_eq_some_iff.mp made
  have made' := Except.toOption_eq_some_iff.mp made'
  have joined : identities [unit] = identities [first, second] := by decide +kernel
  refine ⟨renderer, renderer', made, made', joined, ?_⟩
  obtain ⟨-, listed, -⟩ := ofSpecs_eq_ok.mp made
  obtain ⟨-, listed', -⟩ := ofSpecs_eq_ok.mp made'
  rw [fingerprint, fingerprint, listed, listed']
  exact congrArg _ joined

end Renderer

end Scaffold
