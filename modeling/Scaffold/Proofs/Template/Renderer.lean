import Mathlib.Data.List.Nodup
import Scaffold.Proofs.Template.Evaluation
import Scaffold.Template.Renderer

/-! Renderers of several templates. All templates share one space of names, in which the text registered last
stands for a name. A template that keeps its texts there is rendered as if it were the only one. -/

namespace Scaffold

namespace TemplateSpec

/-- What a template registers, under which names. -/
def registrations (spec : TemplateSpec) : List (String × String) :=
  [(spec.name, spec.source), (spec.fileNameKey, spec.fileName)]

/-- The text registered last under a name. -/
def lastText? (specs : List TemplateSpec) (name : String) : Option String :=
  ((specs.flatMap registrations).reverse.find? (·.1 == name)).map (·.2)

/-- A template whose texts stand under its names once all templates are registered. -/
def Kept (specs : List TemplateSpec) (spec : TemplateSpec) : Prop :=
  lastText? specs spec.name = some spec.source ∧ lastText? specs spec.fileNameKey = some spec.fileName

/-- A template with the texts that stand under its names. -/
def standing (specs : List TemplateSpec) (spec : TemplateSpec) : TemplateSpec :=
  ⟨spec.name, (lastText? specs spec.name).getD spec.source,
    (lastText? specs spec.fileNameKey).getD spec.fileName⟩

theorem Kept.standing_eq {specs : List TemplateSpec} {spec : TemplateSpec} (kept : Kept specs spec) :
    standing specs spec = spec := by
  rw [standing, kept.1, kept.2]
  rfl

theorem fileNameKey_ne (spec : TemplateSpec) : spec.fileNameKey ≠ spec.name := by
  intro same
  have lengths := congrArg String.length same
  simp [fileNameKey] at lengths

@[simp] theorem lastText?_nil (name : String) : lastText? [] name = none := rfl

theorem lastText?_cons (spec : TemplateSpec) (rest : List TemplateSpec) (name : String) :
    lastText? (spec :: rest) name = (lastText? rest name).or
      (if name = spec.fileNameKey then some spec.fileName
        else if name = spec.name then some spec.source else none) := by
  simp only [lastText?, List.flatMap_cons, List.reverse_append, List.find?_append, Option.map_or]
  congr 1
  by_cases key : name = spec.fileNameKey
  · simp [registrations, key]
  · by_cases same : name = spec.name
    · subst same
      simp [registrations, key, Ne.symm key]
    · simp [registrations, key, same, Ne.symm key, Ne.symm same]

theorem find?_of_nodup {entries : List (String × String)} (distinct : (entries.map (·.1)).Nodup)
    {entry : String × String} (member : entry ∈ entries) :
    entries.find? (·.1 == entry.1) = some entry := by
  induction entries with
  | nil => contradiction
  | cons first rest ih =>
    obtain ⟨fresh, distinct⟩ := List.nodup_cons.mp distinct
    rcases List.mem_cons.mp member with rfl | member
    · simp
    · have other : first.1 ≠ entry.1 := fun same => fresh (List.mem_map.mpr ⟨entry, member, same.symm⟩)
      rw [List.find?_cons_of_neg (by simpa using other), ih distinct member]

/-- Where no two registrations share a name, all templates keep their texts. -/
theorem kept_of_nodup {specs : List TemplateSpec}
    (distinct : ((specs.flatMap registrations).map (·.1)).Nodup) {spec : TemplateSpec}
    (member : spec ∈ specs) : Kept specs spec := by
  have last : ∀ entry ∈ spec.registrations, lastText? specs entry.1 = some entry.2 := by
    intro entry registered
    have listed : entry ∈ (specs.flatMap registrations).reverse :=
      List.mem_reverse.mpr (List.mem_flatMap.mpr ⟨spec, member, registered⟩)
    have distinct : ((specs.flatMap registrations).reverse.map (·.1)).Nodup := by
      rw [List.map_reverse]
      exact List.nodup_reverse.mpr distinct
    rw [lastText?, find?_of_nodup distinct listed]
    rfl
  exact ⟨last (spec.name, spec.source) (by simp [registrations]),
    last (spec.fileNameKey, spec.fileName) (by simp [registrations])⟩

end TemplateSpec

namespace Renderer

open Template TemplateSpec

theorem forSpec_eq_ok {α : Type} {spec : TemplateSpec} {result : Except Problem α} {value : α} :
    forSpec spec result = .ok value ↔ result = .ok value := by
  cases result <;> simp [forSpec, Except.mapError]

/-! ### Registration -/

theorem addSpec_eq_ok {library later : Library} {spec : TemplateSpec} :
    addSpec library spec = .ok later ↔ ∃ middle, library.add spec.name spec.source = .ok middle ∧
      middle.add spec.fileNameKey spec.fileName = .ok later := by
  rw [addSpec, forSpec_eq_ok, Except.bind_eq_ok]

theorem find?_addSpec {library later : Library} {spec : TemplateSpec}
    (added : addSpec library spec = .ok later) (name : String) :
    later.find? name =
      match lastText? [spec] name with
      | some text => Parsed.ofSource? name text
      | none => library.find? name := by
  obtain ⟨middle, first, second⟩ := addSpec_eq_ok.mp added
  rw [Library.find?_add second, Library.find?_add first, lastText?_cons, lastText?_nil, Option.none_or]
  by_cases key : name = spec.fileNameKey
  · simp [key]
  · by_cases same : name = spec.name
    · subst same
      simp [key]
    · simp [key, same]

/-- A name stands for the text registered last under it. -/
theorem find?_addSpecs {specs : List TemplateSpec} {start library : Library}
    (added : specs.foldlM addSpec start = .ok library) (name : String) :
    library.find? name =
      match lastText? specs name with
      | some text => Parsed.ofSource? name text
      | none => start.find? name := by
  induction specs generalizing start with
  | nil =>
    obtain rfl := Except.ok.inj added
    rfl
  | cons spec rest ih =>
    rw [List.foldlM_cons, Except.bind_eq_ok] at added
    obtain ⟨middle, first, added⟩ := added
    rw [ih added, find?_addSpec first, lastText?_cons, lastText?_cons, lastText?_nil]
    cases lastText? rest name <;> rfl

theorem checked_addSpecs {specs : List TemplateSpec} {start library : Library} (checked : start.Checked)
    (added : specs.foldlM addSpec start = .ok library) : library.Checked := by
  induction specs generalizing start with
  | nil =>
    obtain rfl := Except.ok.inj added
    exact checked
  | cons spec rest ih =>
    rw [List.foldlM_cons, Except.bind_eq_ok] at added
    obtain ⟨middle, first, added⟩ := added
    obtain ⟨_, -, second⟩ := addSpec_eq_ok.mp first
    obtain ⟨_, -, -, parents, imports⟩ := Library.add_eq_ok.mp second
    exact ih ⟨parents, imports⟩ added

theorem ofSpecs_eq_ok {specs : List TemplateSpec} {renderer : Renderer} :
    ofSpecs specs = .ok renderer ↔
      specs ≠ [] ∧ renderer.specs = specs ∧ specs.foldlM addSpec .empty = .ok renderer.library := by
  cases specs with
  | nil =>
    have refused : ofSpecs [] = .error (.config .noTemplate) := rfl
    simp [refused]
  | cons spec rest =>
    have registers : ofSpecs (spec :: rest) =
        ((spec :: rest).foldlM addSpec .empty).map fun library => ⟨spec :: rest, library⟩ := rfl
    rw [registers]
    cases (spec :: rest).foldlM addSpec .empty with
    | error fault => simp [Except.map]
    | ok library =>
      obtain ⟨specs, library'⟩ := renderer
      simp [Except.map, eq_comm]

/-- Renderers built from templates at once, or with more of them added one by one. -/
inductive Grown : List TemplateSpec → Renderer → Prop where
  | ofSpecs {specs : List TemplateSpec} {renderer : Renderer} (made : ofSpecs specs = .ok renderer) :
      Grown specs renderer
  | add {specs : List TemplateSpec} {renderer later : Renderer} {spec : TemplateSpec}
      (grown : Grown specs renderer) (added : renderer.add spec = .ok later) :
      Grown (specs ++ [spec]) later

theorem Grown.made {specs : List TemplateSpec} {renderer : Renderer} (grown : Grown specs renderer) :
    Renderer.ofSpecs specs = .ok renderer := by
  induction grown with
  | ofSpecs made => exact made
  | add grown added made =>
    obtain ⟨-, rfl, -⟩ := ofSpecs_eq_ok.mp made
    exact added

/-! ### Rendering -/

theorem renderSpec_eq_ok {renderer : Renderer} {feature : String} {spec : TemplateSpec}
    {artifact : Artifact} :
    renderer.renderSpec feature spec = .ok artifact ↔
      renderer.library.render spec.name [(placeholder, .text feature)] = .ok artifact.source ∧
      renderer.library.render spec.fileNameKey [(placeholder, .text feature)] = .ok artifact.fileName := by
  obtain ⟨fileName, source⟩ := artifact
  rw [renderSpec, forSpec_eq_ok, Except.bind_eq_ok]
  constructor
  · rintro ⟨source, first, rest⟩
    obtain ⟨fileName, second, same⟩ := Except.bind_eq_ok.mp rest
    cases same
    exact ⟨first, second⟩
  · rintro ⟨first, second⟩
    exact ⟨source, first, Except.bind_eq_ok.mpr ⟨fileName, second, rfl⟩⟩

/-- A template that refers to no other can have a renderer of its own, which renders it the same. -/
theorem ofSpecs_alone {library : Library} (apart : library.Apart) (checked : library.Checked)
    {spec : TemplateSpec} {body pattern : Parsed}
    (first : library.find? spec.name = some body) (second : library.find? spec.fileNameKey = some pattern)
    (readBody : Parsed.ofSource? spec.name spec.source = some body)
    (readPattern : Parsed.ofSource? spec.fileNameKey spec.fileName = some pattern) :
    ∃ single, ofSpecs [spec] = .ok single ∧ ∀ context,
      library.render spec.name context = single.library.render spec.name context ∧
      library.render spec.fileNameKey context = single.library.render spec.fileNameKey context := by
  have aloneBody := apart.alone checked first
  have alonePattern := apart.alone checked second
  obtain ⟨middle, added, plain⟩ := Library.plain_empty.add aloneBody readBody
  obtain ⟨later, added', -⟩ := plain.add alonePattern readPattern
  have made : ofSpecs [spec] = .ok ⟨[spec], later⟩ := by
    refine ofSpecs_eq_ok.mpr ⟨by simp, rfl, ?_⟩
    rw [List.foldlM_cons, addSpec_eq_ok.mpr ⟨middle, added, added'⟩]
    rfl
  have there : ∀ name, later.find? name =
      if name = spec.fileNameKey then some pattern else if name = spec.name then some body else none := by
    intro name
    rw [Library.find?_add added', Library.find?_add added, readBody, readPattern]
    rfl
  have within : ∀ name other, later.find? name = some other → library.find? name = some other := by
    intro name other found
    rw [there] at found
    split at found
    · next same => rw [same, second, found]
    · split at found
      · next same => rw [same, first, found]
      · contradiction
  have thereBody : later.find? spec.name = some body := by simp [there, spec.fileNameKey_ne.symm]
  have therePattern : later.find? spec.fileNameKey = some pattern := by simp [there]
  refine ⟨_, made, fun context => ⟨?_, ?_⟩⟩
  · rw [← Parsed.ofSource?_name readBody] at thereBody ⊢
    exact (aloneBody.alike thereBody within).render_eq aloneBody.found thereBody context
  · rw [← Parsed.ofSource?_name readPattern] at therePattern ⊢
    exact (alonePattern.alike therePattern within).render_eq alonePattern.found therePattern context

section Alone

variable {specs : List TemplateSpec} {renderer : Renderer} (made : ofSpecs specs = .ok renderer)

include made

theorem text_of_find? {name : String} {template : Parsed}
    (found : renderer.library.find? name = some template) :
    ∃ text, lastText? specs name = some text ∧ Parsed.ofSource? name text = some template := by
  obtain ⟨-, -, added⟩ := ofSpecs_eq_ok.mp made
  rw [find?_addSpecs added] at found
  cases last : lastText? specs name with
  | none => simp [last, Library.find?, Library.empty] at found
  | some text => exact ⟨text, rfl, by simpa [last] using found⟩

theorem renderSpec_standing (apart : renderer.library.Apart) {feature : String} {spec : TemplateSpec}
    {artifact : Artifact} (rendered : renderer.renderSpec feature spec = .ok artifact) :
    ∃ single, ofSpecs [standing specs spec] = .ok single ∧ single.render feature = .ok [artifact] := by
  obtain ⟨-, -, added⟩ := ofSpecs_eq_ok.mp made
  obtain ⟨source, fileName⟩ := renderSpec_eq_ok.mp rendered
  obtain ⟨body, first⟩ := Library.find?_of_render source
  obtain ⟨pattern, second⟩ := Library.find?_of_render fileName
  obtain ⟨bodyText, lastBody, readBody⟩ := text_of_find? made first
  obtain ⟨patternText, lastPattern, readPattern⟩ := text_of_find? made second
  have stands : standing specs spec = ⟨spec.name, bodyText, patternText⟩ := by
    rw [standing, lastBody, lastPattern]
    rfl
  obtain ⟨single, alone, same⟩ := @ofSpecs_alone _ apart (checked_addSpecs Library.checked_empty added)
    (standing specs spec) body pattern first second (by rw [stands]; exact readBody)
    (by rw [stands]; exact readPattern)
  obtain ⟨-, listed, -⟩ := ofSpecs_eq_ok.mp alone
  refine ⟨single, alone, ?_⟩
  have again : single.renderSpec feature (standing specs spec) = .ok artifact :=
    renderSpec_eq_ok.mpr ⟨(same _).1 ▸ source, (same _).2 ▸ fileName⟩
  rw [render, listed, List.mapM_cons, again]
  rfl

/-- Every template is rendered as if it were the only one, with the texts that stand under its names. -/
theorem render_standing (apart : renderer.library.Apart) {feature : String} {artifacts : List Artifact}
    (rendered : renderer.render feature = .ok artifacts) :
    List.Forall₂ (fun spec artifact => ∃ single, ofSpecs [standing specs spec] = .ok single ∧
      single.render feature = .ok [artifact]) specs artifacts := by
  obtain ⟨-, rfl, -⟩ := ofSpecs_eq_ok.mp made
  exact (Except.forall₂_of_mapM rendered).imp fun _ _ => renderSpec_standing made apart

end Alone

/-- A template that keeps its texts among others is rendered as if it were the only one. -/
theorem rendered_alone {specs : List TemplateSpec} {renderer : Renderer} (grown : Grown specs renderer)
    (apart : renderer.library.Apart) {feature : String} {artifacts : List Artifact}
    (rendered : renderer.render feature = .ok artifacts) :
    List.Forall₂ (fun spec artifact => Kept specs spec →
      ∃ single, Renderer.ofSpecs [spec] = .ok single ∧ single.render feature = .ok [artifact])
      specs artifacts := by
  refine (render_standing grown.made apart rendered).imp fun spec artifact alone kept => ?_
  rwa [kept.standing_eq] at alone

theorem rendered_order :
    let unit : TemplateSpec := ⟨"unit", "mod order;", "\x7b\x7b feature \x7d\x7d.g.rs"⟩
    let tests : TemplateSpec := ⟨"tests", "mod \x7b\x7b feature \x7d\x7d;", "tests.g.rs"⟩
    ∃ renderer, Grown [unit, tests] renderer ∧ renderer.library.Apart ∧
      renderer.render "Order" = .ok [⟨"Order.g.rs", "mod order;"⟩, ⟨"tests.g.rs", "mod Order;"⟩] ∧
      ∃ single, Renderer.ofSpecs [tests] = .ok single ∧
        single.render "Order" = .ok [⟨"tests.g.rs", "mod Order;"⟩] := by
  intro unit tests
  have computed : (do
      let first ← Renderer.ofSpecs [unit]
      let later ← first.add tests
      return (later.library.templates.all (·.references.isEmpty), ← later.render "Order")).toOption =
        some (true, [⟨"Order.g.rs", "mod order;"⟩, ⟨"tests.g.rs", "mod Order;"⟩]) := by
    decide +kernel
  obtain ⟨first, made, computed⟩ := Except.bind_eq_ok.mp (Except.toOption_eq_some_iff.mp computed)
  obtain ⟨later, added, computed⟩ := Except.bind_eq_ok.mp computed
  obtain ⟨artifacts, rendered, computed⟩ := Except.bind_eq_ok.mp computed
  have computed := Except.ok.inj computed
  obtain ⟨plain, rfl⟩ := Prod.mk.inj computed
  have grown : Grown [unit, tests] later := .add (.ofSpecs made) added
  have apart := Library.apart_of_no_references plain
  refine ⟨later, grown, apart, rendered, ?_⟩
  cases rendered_alone grown apart rendered with
  | cons _ rest =>
    cases rest with
    | cons alone _ => exact alone (kept_of_nodup (by decide +kernel) (by simp))

/-- Of two templates with one name, the text of the first is lost. -/
theorem order_overwritten :
    let unit : TemplateSpec := ⟨"unit", "mod order;", "\x7b\x7b feature \x7d\x7d.g.rs"⟩
    let tests : TemplateSpec := ⟨"unit", "mod tests;", "\x7b\x7b feature \x7d\x7d_tests.g.rs"⟩
    (∃ renderer, Renderer.ofSpecs [unit, tests] = .ok renderer ∧ renderer.library.Apart ∧
      renderer.render "Order" =
        .ok [⟨"Order_tests.g.rs", "mod tests;"⟩, ⟨"Order_tests.g.rs", "mod tests;"⟩]) ∧
    ∃ single, Renderer.ofSpecs [unit] = .ok single ∧
      single.render "Order" = .ok [⟨"Order.g.rs", "mod order;"⟩] := by
  intro unit tests
  have computed : (do
      let renderer ← Renderer.ofSpecs [unit, tests]
      let single ← Renderer.ofSpecs [unit]
      return (renderer.library.templates.all (·.references.isEmpty), ← renderer.render "Order",
        ← single.render "Order")).toOption =
        some (true, [⟨"Order_tests.g.rs", "mod tests;"⟩, ⟨"Order_tests.g.rs", "mod tests;"⟩],
          [⟨"Order.g.rs", "mod order;"⟩]) := by
    decide +kernel
  obtain ⟨renderer, made, computed⟩ := Except.bind_eq_ok.mp (Except.toOption_eq_some_iff.mp computed)
  obtain ⟨single, alone, computed⟩ := Except.bind_eq_ok.mp computed
  obtain ⟨both, rendered, computed⟩ := Except.bind_eq_ok.mp computed
  obtain ⟨first, separate, computed⟩ := Except.bind_eq_ok.mp computed
  obtain ⟨plain, rfl, rfl⟩ : _ ∧ both = _ ∧ first = _ := by simpa using Except.ok.inj computed
  exact ⟨⟨renderer, made, Library.apart_of_no_references (by simpa using plain), rendered⟩, single, alone,
    separate⟩

end Renderer

end Scaffold
