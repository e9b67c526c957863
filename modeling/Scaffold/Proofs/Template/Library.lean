import Mathlib.Data.List.Basic
import Scaffold.Proofs.Except
import Scaffold.Template.Library

/-! The templates that a template refers to. One that refers to none but itself looks the same from every
library that has it. -/

namespace Scaffold.Template

namespace Parsed

mutual

/-- The names of the templates that a node includes, at any depth. -/
def inclusionsIn : Node → List String
  | .inclusion names _ => names
  | .block _ body => inclusionsOf body
  | .filtered _ body => inclusionsOf body
  | .definition _ _ body => inclusionsOf body
  | .loop _ _ _ body whenEmpty => inclusionsOf body ++ inclusionsOr whenEmpty
  | .branch _ body otherwise => inclusionsOf body ++ inclusionsOf otherwise
  | _ => []

def inclusionsOf : List Node → List String
  | [] => []
  | node :: rest => inclusionsIn node ++ inclusionsOf rest

def inclusionsOr : Option (List Node) → List String
  | none => []
  | some body => inclusionsOf body

end

/-- Everything in a template that can be rendered: itself, its blocks and its macros. -/
def bodies (template : Parsed) : List (List Node) :=
  template.body :: (template.blocks.map (·.2) ++ template.macros.map (·.2.body))

/-- The names of the templates that a template extends, imports or includes. -/
def references (template : Parsed) : List String :=
  template.parent.toList ++ template.imports.map (·.2) ++ template.bodies.flatMap inclusionsOf

variable {template : Parsed}

theorem mem_references_parent {name : String} (above : template.parent = some name) :
    name ∈ template.references := by
  simp [references, above]

theorem mem_references_import {space file : String} (imported : (space, file) ∈ template.imports) :
    file ∈ template.references := by
  have listed : file ∈ template.imports.map (·.2) := List.mem_map.mpr ⟨_, imported, rfl⟩
  simp only [references, List.mem_append]
  exact .inl (.inr listed)

/-- Nodes that include only what their template refers to. -/
def Holds (template : Parsed) (nodes : List Node) : Prop :=
  ∀ name ∈ inclusionsOf nodes, name ∈ template.references

theorem holds_of_mem_bodies {nodes : List Node} (member : nodes ∈ template.bodies) :
    template.Holds nodes := by
  intro name included
  simp only [references, List.mem_append]
  exact .inr (List.mem_flatMap.mpr ⟨nodes, member, included⟩)

theorem holds_body (template : Parsed) : template.Holds template.body :=
  holds_of_mem_bodies List.mem_cons_self

theorem holds_block {name : String} {nodes : List Node} (found : template.block? name = some nodes) :
    template.Holds nodes := by
  obtain ⟨block, listed, rfl⟩ := Option.map_eq_some_iff.mp found
  have listed : block.2 ∈ template.blocks.map (·.2) :=
    List.mem_map.mpr ⟨block, List.mem_of_find?_eq_some listed, rfl⟩
  exact holds_of_mem_bodies (List.mem_cons_of_mem _ (List.mem_append_left _ listed))

theorem holds_macro {entry : String × Macro} (member : entry ∈ template.macros) :
    template.Holds entry.2.body := by
  have listed : entry.2.body ∈ template.macros.map (·.2.body) := List.mem_map.mpr ⟨entry, member, rfl⟩
  exact holds_of_mem_bodies (List.mem_cons_of_mem _ (List.mem_append_right _ listed))

theorem ofSource?_name {name source : String} (read : ofSource? name source = some template) :
    template.name = name := by
  simp only [ofSource?, Option.bind_eq_bind, Option.bind_eq_some_iff] at read
  obtain ⟨body, -, read⟩ := read
  split at read
  · rw [← Option.some.inj read]
  · contradiction

end Parsed

namespace Library

variable {library later : Library} {template : Parsed}

theorem name_of_find? {name : String} (found : library.find? name = some template) :
    template.name = name := by
  simpa using List.find?_some found

theorem mem_of_find? {name : String} (found : library.find? name = some template) :
    template ∈ library.templates :=
  List.mem_of_find?_eq_some found

/-! ### Adding templates -/

theorem add_eq_ok {name source : String} : library.add name source = .ok later ↔
    ∃ template, Parsed.ofSource? name source = some template ∧
      later = ⟨library.templates.filter (·.name != name) ++ [template]⟩ ∧
      later.checkParents = .ok () ∧ later.checkImports = .ok () := by
  unfold add
  cases read : Parsed.ofSource? name source with
  | none => simp
  | some template =>
    simp only [Except.bind_eq_ok, Option.some.injEq, exists_eq_left']
    constructor
    · rintro ⟨_, above, _, imported, same⟩
      obtain rfl := Except.ok.inj same
      exact ⟨rfl, above, imported⟩
    · rintro ⟨rfl, above, imported⟩
      exact ⟨(), above, (), imported, rfl⟩

theorem find?_replaced {name : String} (named : template.name = name) (other : String) :
    find? ⟨library.templates.filter (·.name != name) ++ [template]⟩ other =
      if other = name then some template else library.find? other := by
  have split : find? ⟨library.templates.filter (·.name != name) ++ [template]⟩ other =
      ((library.templates.filter (·.name != name)).find? (·.name == other)).or
        ([template].find? (·.name == other)) := List.find?_append
  rw [split]
  by_cases same : other = name
  · subst same
    have gone : (library.templates.filter (·.name != other)).find? (·.name == other) = none :=
      List.find?_eq_none.mpr fun t member => by simpa using (List.mem_filter.mp member).2
    simp [gone, named]
  · have kept : (library.templates.filter (·.name != name)).find? (·.name == other) =
        library.find? other := by
      rw [List.find?_filter, find?]
      congr 1
      funext t
      by_cases this : t.name = other <;> simp [this, same]
    simp [kept, same, named, Ne.symm same]

/-- Adding a template changes what is found under its name, and nothing else. -/
theorem find?_add {name source : String} (added : library.add name source = .ok later) (other : String) :
    later.find? other =
      if other = name then Parsed.ofSource? name source else library.find? other := by
  obtain ⟨template, read, rfl, -⟩ := add_eq_ok.mp added
  rw [find?_replaced (Parsed.ofSource?_name read), read]

/-- A library that has what its templates extend and import. -/
structure Checked (library : Library) : Prop where
  parents : library.checkParents = .ok ()
  imports : library.checkImports = .ok ()

theorem checked_empty : empty.Checked := ⟨rfl, rfl⟩

theorem Checked.import {space file : String} (checked : library.Checked)
    (member : template ∈ library.templates) (imported : (space, file) ∈ template.imports) :
    ∃ other, library.find? file = some other := by
  have done := Except.forM_eq_ok.mp (Except.forM_eq_ok.mp checked.imports _ member) _ imported
  cases found : library.find? file with
  | none => simp [found] at done
  | some other => exact ⟨other, rfl⟩

/-! ### Templates that refer to no other -/

/-- What a template refers to is either itself or missing. -/
def Apart (library : Library) : Prop :=
  ∀ template ∈ library.templates, ∀ name ∈ template.references, ∀ other,
    library.find? name = some other → other = template

theorem apart_of_no_references (none : library.templates.all (·.references.isEmpty) = true) :
    library.Apart := by
  intro template member name listed
  have empty : template.references = [] := by simpa using List.all_eq_true.mp none template member
  rw [empty] at listed
  contradiction

theorem ancestors_of_top (library : Library) (top : template.parent = none) :
    library.ancestors template = .ok [] := by
  rw [ancestors, ancestorsUpTo, top]

/-- A template above which there is only itself has no end of templates above it. -/
theorem top_of_apart (apart : library.Apart) (checked : library.Checked)
    (member : template ∈ library.templates) : template.parent = none := by
  by_contra some
  obtain ⟨name, above⟩ := Option.ne_none_iff_exists'.mp some
  have endless : ∀ fuel found, library.ancestorsUpTo template fuel ≠ .ok found := by
    intro fuel
    induction fuel with
    | zero => simp [ancestorsUpTo]
    | succ fuel ih =>
      intro found done
      rw [ancestorsUpTo, above] at done
      cases parent : library.find? name with
      | none => simp [parent] at done
      | some parent' =>
        obtain rfl := apart _ member name (Parsed.mem_references_parent above) _ parent
        simp only [parent, Except.bind_eq_ok] at done
        obtain ⟨rest, done, -⟩ := done
        exact ih rest done
  have done := Except.forM_eq_ok.mp checked.parents _ member
  obtain ⟨found, done, -⟩ := Except.bind_eq_ok.mp done
  exact endless _ found done

/-- A template that refers to nothing in a library but itself. -/
structure Alone (library : Library) (template : Parsed) : Prop where
  found : library.find? template.name = some template
  top : template.parent = none
  own : ∀ name ∈ template.references, ∀ other, library.find? name = some other → other = template
  imports : ∀ space file, (space, file) ∈ template.imports → file = template.name

theorem Apart.alone {name : String} (apart : library.Apart) (checked : library.Checked)
    (found : library.find? name = some template) : library.Alone template where
  found := by rw [name_of_find? found, found]
  top := top_of_apart apart checked (mem_of_find? found)
  own := apart template (mem_of_find? found)
  imports space file imported := by
    obtain ⟨other, there⟩ := checked.import (mem_of_find? found) imported
    obtain rfl := apart template (mem_of_find? found) file (Parsed.mem_references_import imported) other there
    exact (name_of_find? there).symm

/-- A library in which no template is below another, and every import is there. -/
def Plain (library : Library) : Prop :=
  ∀ template ∈ library.templates, template.parent = none ∧
    ∀ space file, (space, file) ∈ template.imports → ∃ other, library.find? file = some other

theorem plain_empty : empty.Plain := by simp [Plain, empty]

theorem Plain.checked (plain : library.Plain) : library.Checked where
  parents := Except.forM_eq_ok.mpr fun template member => by
    rw [ancestors_of_top library (plain template member).1]
    rfl
  imports := Except.forM_eq_ok.mpr fun template member =>
    Except.forM_eq_ok.mpr fun (space, file) imported => by
      obtain ⟨other, there⟩ := (plain template member).2 space file imported
      simp only [there]

/-- A template that refers to no other can be added where no template is below another. -/
theorem Plain.add {start : Library} (plain : start.Plain) (alone : library.Alone template)
    {name source : String} (read : Parsed.ofSource? name source = some template) :
    ∃ later, start.add name source = .ok later ∧ later.Plain := by
  have named := Parsed.ofSource?_name read
  have here := @find?_replaced start template name named
  have more : Plain ⟨start.templates.filter (·.name != name) ++ [template]⟩ := by
    intro other member
    rcases List.mem_append.mp member with kept | new
    · obtain ⟨top, imports⟩ := plain other (List.mem_filter.mp kept).1
      refine ⟨top, fun space file imported => ?_⟩
      rw [here]
      split
      · exact ⟨template, rfl⟩
      · exact imports space file imported
    · obtain rfl := List.mem_singleton.mp new
      refine ⟨alone.top, fun space file imported => ⟨other, ?_⟩⟩
      rw [here, if_pos ((alone.imports space file imported).trans named)]
  exact ⟨_, add_eq_ok.mpr ⟨template, read, rfl, more.checked.parents, more.checked.imports⟩, more⟩

/-- Two libraries that show a template the same. -/
structure Alike (one two : Library) (template : Parsed) : Prop where
  top : template.parent = none
  own : ∀ name ∈ template.references, ∀ other, one.find? name = some other → other = template
  same : ∀ name ∈ template.references, one.find? name = two.find? name

/-- A part of a library shows a template the same that refers to no other. -/
theorem Alone.alike {part : Library} (alone : library.Alone template)
    (there : part.find? template.name = some template)
    (within : ∀ name other, part.find? name = some other → library.find? name = some other) :
    Alike library part template where
  top := alone.top
  own := alone.own
  same name listed := by
    cases found : library.find? name with
    | some other =>
      obtain rfl := alone.own name listed other found
      rw [← name_of_find? found, there]
    | none =>
      cases fewer : part.find? name with
      | none => rfl
      | some other => rw [within name other fewer] at found; contradiction

/-- The namespaces that a template has or imports itself. -/
def nearest (library : Library) (template : Parsed) : List (String × Parsed) :=
  (template.imports.reverse.filterMap fun (space, file) =>
    (library.find? file).map fun imported => (space, imported)) ++
  if template.macros.isEmpty then [] else [("self", template)]

section Alike

variable {one two : Library} (alike : Alike one two template)

include alike

theorem Alike.symm : Alike two one template where
  top := alike.top
  own name listed other found := alike.own name listed other ((alike.same name listed).trans found)
  same name listed := (alike.same name listed).symm

theorem Alike.nearest_eq : one.nearest template = two.nearest template := by
  unfold nearest
  congr 1
  refine List.filterMap_congr fun (space, file) member => ?_
  have referred := Parsed.mem_references_import (List.mem_reverse.mp member)
  exact congrArg (Option.map _) (alike.same file referred)

theorem Alike.mem_nearest {entry : String × Parsed} (member : entry ∈ one.nearest template) :
    entry.2 = template := by
  simp only [nearest, List.mem_append, List.mem_filterMap, List.mem_reverse] at member
  rcases member with ⟨⟨space, file⟩, imported, found⟩ | member
  · obtain ⟨other, there, rfl⟩ := Option.map_eq_some_iff.mp found
    exact alike.own file (Parsed.mem_references_import imported) other there
  · split at member
    · contradiction
    · rw [List.mem_singleton.mp member]

omit alike in
theorem namespacesUpTo_succ (top : template.parent = none) (fuel : Nat) :
    ∃ imported : List (String × Parsed), (∀ entry ∈ imported, entry ∈ one.nearest template) ∧
      one.namespacesUpTo template (fuel + 1) = one.nearest template ++
        imported.flatMap fun (_, imported) => one.namespacesUpTo imported fuel := by
  refine ⟨_, fun entry => List.mem_append_left _, ?_⟩
  rw [namespacesUpTo, ancestors_of_top one top]
  exact List.append_nil _

/-- Namespaces further away are those nearest once more, so none of them is ever reached. -/
theorem Alike.find?_namespacesUpTo (wanted : String × Parsed → Bool) (fuel : Nat) :
    (one.namespacesUpTo template (fuel + 1)).find? wanted = (one.nearest template).find? wanted := by
  have beyond : ∀ fuel, (one.nearest template).find? wanted = none →
      (one.namespacesUpTo template fuel).find? wanted = none := by
    intro fuel none
    induction fuel with
    | zero => rfl
    | succ fuel ih =>
      obtain ⟨imported, near, split⟩ := namespacesUpTo_succ alike.top fuel
      rw [split, List.find?_append, none, Option.none_or, List.find?_flatMap,
        List.findSome?_eq_none_iff]
      intro (space, other) member
      have same : other = template := alike.mem_nearest (near _ member)
      rw [same]
      exact ih
  cases found : (one.nearest template).find? wanted with
  | none => exact beyond _ found
  | some entry =>
    obtain ⟨imported, -, split⟩ := namespacesUpTo_succ alike.top fuel
    rw [split, List.find?_append, found, Option.some_or]

theorem Alike.macro?_eq (space name : String) :
    one.macro? template space name = two.macro? template space name := by
  simp only [macro?, alike.find?_namespacesUpTo, alike.symm.find?_namespacesUpTo, alike.nearest_eq]

theorem Alike.of_macro? {space name : String} {holder : Parsed} {found : Macro}
    (given : one.macro? template space name = some (holder, found)) :
    holder = template ∧ template.Holds found.body := by
  simp only [macro?, alike.find?_namespacesUpTo, Option.bind_eq_bind, Option.bind_eq_some_iff] at given
  obtain ⟨⟨_, other⟩, listed, ⟨_, other'⟩, named, same⟩ := given
  obtain rfl := alike.mem_nearest (List.mem_of_find?_eq_some listed)
  cases same
  exact ⟨rfl, Parsed.holds_macro (List.mem_of_find?_eq_some named)⟩

/-- The first of some included templates is the template itself, if there is any. -/
theorem Alike.findSome?_eq {names : List String} (listed : ∀ name ∈ names, name ∈ template.references) :
    names.findSome? one.find? = names.findSome? two.find? := by
  induction names with
  | nil => rfl
  | cons name rest ih =>
    rw [List.findSome?_cons, List.findSome?_cons, alike.same name (listed name List.mem_cons_self),
      ih fun name member => listed name (List.mem_cons_of_mem _ member)]

theorem Alike.of_findSome? {names : List String} (listed : ∀ name ∈ names, name ∈ template.references)
    {other : Parsed} (found : names.findSome? one.find? = some other) : other = template := by
  obtain ⟨name, member, found⟩ := List.exists_of_findSome?_eq_some found
  exact alike.own name (listed name member) other found

end Alike

end Library

end Scaffold.Template
