import Mathlib.Data.List.Infix
import Scaffold.Proofs.Rust.Parser

/-!
Where the declarations of a source file stand in its tree. A place is the list of child numbers that
lead to a part, so that the places above a part are the prefixes of its own. The declarations of a
file are those of its places, each of them once and from top to bottom, and the modules around a
declaration are the module items above its place.
-/

namespace Scaffold.Rust.Tree

open Declaration

/-! ### Parts -/

/-- The part of a tree to which child numbers lead. -/
def part? : Tree → List Nat → Option Tree
  | tree, [] => some tree
  | .node _ children, i :: rest => children[i]?.bind fun child => child.part? rest
  | _, _ :: _ => none

@[simp] theorem part?_nil (tree : Tree) : tree.part? [] = some tree := by
  cases tree <;> rfl

@[simp] theorem part?_node_cons (kind : Kind) (children : List Tree) (i : Nat) (rest : List Nat) :
    (Tree.node kind children).part? (i :: rest) = children[i]?.bind fun child => child.part? rest := rfl

/-- The name of a module item. -/
def moduleName? : Tree → Option String
  | .node .moduleItem children => nameAmong? children
  | _ => none

/-- The names of the module items above a place, outermost first. -/
def modulesAbove (tree : Tree) (place : List Nat) : List String :=
  place.inits.dropLast.filterMap fun above => (tree.part? above).bind moduleName?

@[simp] theorem modulesAbove_nil (tree : Tree) : tree.modulesAbove [] = [] := rfl

theorem modulesAbove_cons {kind : Kind} {children : List Tree} {i : Nat} {child : Tree}
    (found : children[i]? = some child) (place : List Nat) :
    (Tree.node kind children).modulesAbove (i :: place) =
      (Tree.node kind children).moduleName?.toList ++ child.modulesAbove place := by
  have some : place.inits.map (i :: ·) ≠ [] := by cases place <;> simp
  rw [modulesAbove, List.inits_cons, List.dropLast_cons_of_ne_nil some, ← List.map_dropLast,
    List.filterMap_cons, List.filterMap_map]
  have below : ((fun above => ((Tree.node kind children).part? above).bind moduleName?) ∘ (i :: ·)) =
      fun above => (child.part? above).bind moduleName? := by
    funext above
    simp [found]
  rw [below]
  cases named : (Tree.node kind children).moduleName? <;> simp [named, modulesAbove]

/-! ### Sites -/

/-- A place at which something is declared, with the kind and the name of that. -/
structure Site where
  place : List Nat
  kind : DeclarationKind
  name : String
  deriving DecidableEq

/-- The same site as seen from further out. -/
def Site.below (i : Nat) (site : Site) : Site := { site with place := i :: site.place }

theorem Site.below_eq_iff {i j : Nat} {place : List Nat} {kind : DeclarationKind} {name : String}
    {inner : Site} : inner.below j = ⟨i :: place, kind, name⟩ ↔ j = i ∧ inner = ⟨place, kind, name⟩ := by
  cases inner
  simp [Site.below, and_assoc]

mutual

/-- The sites of a tree from top to bottom. -/
def sites : Tree → List Site
  | .node kind children =>
    ((declared? kind children).map fun found => ⟨[], found.1, found.2⟩).toList ++ sitesFrom 0 children
  | _ => []

/-- The sites of trees which are numbered from some number on. -/
def sitesFrom (i : Nat) : List Tree → List Site
  | [] => []
  | tree :: rest => tree.sites.map (Site.below i) ++ sitesFrom (i + 1) rest

end

theorem mem_sitesFrom_iff {trees : List Tree} {i : Nat} {site : Site} :
    site ∈ sitesFrom i trees ↔ ∃ (j : Nat) (tree : Tree), trees[j]? = some tree ∧
      ∃ inner ∈ tree.sites, inner.below (i + j) = site := by
  induction trees generalizing i with
  | nil => simp [sitesFrom]
  | cons tree rest ih =>
    have shift (j : Nat) : i + 1 + j = i + (j + 1) := by omega
    rw [sitesFrom, List.mem_append, List.mem_map, ih]
    simp only [shift]
    constructor
    · rintro (here | ⟨j, child, found, later⟩)
      · exact ⟨0, tree, rfl, here⟩
      · exact ⟨j + 1, child, found, later⟩
    · rintro ⟨j, child, found, member⟩
      cases j with
      | zero =>
        obtain rfl := Option.some.inj found
        exact .inl member
      | succ j => exact .inr ⟨j, child, found, member⟩

/-- There is a site just where a node declares something. -/
theorem mem_sites_iff {tree : Tree} {place : List Nat} {declared : DeclarationKind} {name : String} :
    ⟨place, declared, name⟩ ∈ tree.sites ↔ ∃ kind children,
      tree.part? place = some (.node kind children) ∧ declared? kind children = some (declared, name) := by
  induction place generalizing tree with
  | nil =>
    cases tree with
    | name _ | word _ | tokens _ => simp [sites]
    | node kind children =>
      have inner : (⟨[], declared, name⟩ : Site) ∉ sitesFrom 0 children := by
        simp [mem_sitesFrom_iff, Site.below]
      cases found : declared? kind children with
      | none => simp [sites, found, inner]
      | some own =>
        obtain ⟨declared', name'⟩ := own
        simp [sites, found, inner, eq_comm]
  | cons i rest ih =>
    cases tree with
    | name _ | word _ | tokens _ => simp [sites, part?]
    | node kind children =>
      have own : (⟨i :: rest, declared, name⟩ : Site) ∉ ((declared? kind children).map
          fun found => (⟨[], found.1, found.2⟩ : Site)).toList := by
        simp
      simp only [sites, List.mem_append, own, false_or, mem_sitesFrom_iff, Nat.zero_add,
        Site.below_eq_iff, part?_node_cons, Option.bind_eq_some_iff]
      constructor
      · rintro ⟨j, child, found, inner, member, rfl, rfl⟩
        obtain ⟨kind', children', part, declares⟩ := ih.mp member
        exact ⟨kind', children', ⟨child, found, part⟩, declares⟩
      · rintro ⟨kind', children', ⟨child, found, part⟩, declares⟩
        exact ⟨i, child, found, _, ih.mpr ⟨kind', children', part, declares⟩, rfl, rfl⟩

/-! ### From top to bottom -/

/-- What holds of a tree if it holds of its children holds of all trees. -/
theorem ofChildren {motive : Tree → Prop} (name : ∀ text, motive (.name text))
    (word : ∀ text, motive (.word text)) (tokens : ∀ body, motive (.tokens body))
    (node : ∀ kind children, (∀ child ∈ children, motive child) → motive (.node kind children))
    (tree : Tree) : motive tree :=
  match tree with
  | .name text => name text
  | .word text => word text
  | .tokens body => tokens body
  | .node kind children => node kind children fun child _ => ofChildren name word tokens node child

theorem ascending_sitesFrom {trees : List Tree}
    (each : ∀ tree ∈ trees, tree.sites.Pairwise fun first second => first.place < second.place) (i : Nat) :
    (sitesFrom i trees).Pairwise fun first second => first.place < second.place := by
  induction trees generalizing i with
  | nil => exact .nil
  | cons tree rest ih =>
    rw [sitesFrom, List.pairwise_append, List.pairwise_map]
    refine ⟨(each tree (by simp)).imp fun less => ?_,
      ih (fun other member => each other (by simp [member])) (i + 1), ?_⟩
    · exact List.cons_lt_cons_iff.mpr (.inr ⟨rfl, less⟩)
    · intro first here second there
      obtain ⟨inner, -, rfl⟩ := List.mem_map.mp here
      obtain ⟨j, child, -, outer, -, rfl⟩ := mem_sitesFrom_iff.mp there
      exact List.cons_lt_cons_iff.mpr (.inl (by omega))

/-- Of two sites the one that stands higher or further left comes first. -/
theorem ascending_sites (tree : Tree) :
    tree.sites.Pairwise fun first second => first.place < second.place := by
  induction tree using ofChildren with
  | name _ | word _ | tokens _ => simp [sites]
  | node kind children ih =>
    rw [sites, List.pairwise_append]
    refine ⟨?_, ascending_sitesFrom ih 0, ?_⟩
    · cases declared? kind children <;> simp
    · intro first here second there
      obtain ⟨own, -, rfl⟩ : ∃ own, declared? kind children = some own ∧ ⟨[], own.1, own.2⟩ = first := by
        simpa using here
      obtain ⟨j, child, -, outer, -, rfl⟩ := mem_sitesFrom_iff.mp there
      exact List.nil_lt_cons _ _

/-- What is made of the sites of trees is made of the sites of each tree by itself. -/
theorem map_sitesFrom {α : Type} {trees : List Tree} {i : Nat} {f : Site → α} {g : Tree → Site → α}
    (same : ∀ (j : Nat) (tree : Tree), trees[j]? = some tree →
      ∀ site, f (site.below (i + j)) = g tree site) :
    (sitesFrom i trees).map f = trees.flatMap fun tree => tree.sites.map (g tree) := by
  induction trees generalizing i with
  | nil => rfl
  | cons tree rest ih =>
    rw [sitesFrom, List.map_append, List.map_map, List.flatMap_cons]
    congr 1
    · exact List.map_congr_left fun site _ => same 0 tree rfl site
    · refine ih fun j child found site => ?_
      rw [← same (j + 1) child found site, Nat.add_right_comm, Nat.add_assoc]

/-! ### What is listed -/

/-- What a tree declares at a site of it, inside some modules. -/
def foundAt (modules : List String) (tree : Tree) (site : Site) : Found :=
  ⟨site.kind, site.name, modules ++ tree.modulesAbove site.place⟩

theorem collectAll_eq (modules : List String) (trees : List Tree) :
    collectAll modules trees = trees.flatMap (collect modules) := by
  induction trees with
  | nil => simp [collectAll]
  | cons tree rest ih => simp [collectAll, ih]

theorem innerModules_eq (modules : List String) (kind : Kind) (children : List Tree) :
    innerModules modules kind children = modules ++ (Tree.node kind children).moduleName?.toList := by
  cases kind
  case moduleItem =>
    cases named : nameAmong? children <;> simp [innerModules, moduleName?, named]
  all_goals simp [innerModules, moduleName?]

/-- A tree lists what stands at its sites. -/
theorem collect_eq (modules : List String) (tree : Tree) :
    collect modules tree = tree.sites.map (foundAt modules tree) := by
  induction tree using ofChildren generalizing modules with
  | name _ | word _ | tokens _ => simp [collect, sites]
  | node kind children ih =>
    rw [collect, sites, List.map_append, collectAll_eq, innerModules_eq]
    congr 1
    · cases declared? kind children <;> simp [foundAt]
    · rw [map_sitesFrom (g := fun child site =>
        foundAt (modules ++ (Tree.node kind children).moduleName?.toList) child site)]
      · exact List.flatMap_congr fun child member => ih child member _
      · intro j child found site
        rw [Nat.zero_add, foundAt, foundAt, Site.below, modulesAbove_cons found, List.append_assoc]

/-! ### Marks -/

/-- Whether a tree is an attribute or has conditions on type parameters. -/
def isDetached (tree : Tree) : Bool := tree.is .attributeLine || tree.is .whereClause

/-- Whether a place is in an attribute or in conditions on type parameters. -/
def isAside (tree : Tree) (place : List Nat) : Bool :=
  place.inits.any fun above => (tree.part? above).any isDetached

@[simp] theorem isAside_nil (tree : Tree) : tree.isAside [] = tree.isDetached := by
  simp [isAside]

theorem isAside_cons {kind : Kind} {children : List Tree} {i : Nat} {child : Tree}
    (found : children[i]? = some child) (place : List Nat) :
    (Tree.node kind children).isAside (i :: place) =
      ((Tree.node kind children).isDetached || child.isAside place) := by
  rw [isAside, List.inits_cons, List.any_cons, List.any_map, part?_nil, Option.any_some, isAside]
  congr 2
  funext above
  simp [found]

/-- The mark of what a tree declares at a site of it. -/
def markAt (tree : Tree) (site : Site) : Mark :=
  .declared site.kind site.name (tree.isAside site.place)

theorem marksAll_eq (trees : List Tree) : marksAll trees = trees.flatMap marks := by
  induction trees with
  | nil => rfl
  | cons tree rest ih => rw [marksAll_cons, ih, List.flatMap_cons]

theorem settle_eq (kind : Kind) (children : List Tree) (marks : List Mark) :
    settle kind marks =
      if (Tree.node kind children).isDetached then marks.map Mark.setAside else marks := by
  cases kind <;> rfl

/-- The marks of a tree, but for what is kept as tokens, are those of its sites. -/
theorem marks_eq (tree : Tree) : tree.marks.filter (· ≠ .kept) = tree.sites.map (markAt tree) := by
  induction tree using ofChildren with
  | name _ | word _ => simp [sites]
  | tokens _ => simp [sites]
  | node kind children ih =>
    have inner : (marksAll children).filter (· ≠ .kept) =
        children.flatMap fun child => child.sites.map (markAt child) := by
      rw [marksAll_eq, List.filter_flatMap]
      exact List.flatMap_congr ih
    rw [marks, settle_eq kind children, sites]
    cases detached : (Tree.node kind children).isDetached with
    | true =>
      have nothing : declared? kind children = none := by
        cases kind <;> first | rfl | cases detached
      have same : ((fun mark : Mark => decide (mark ≠ .kept)) ∘ Mark.setAside) =
          fun mark => decide (mark ≠ .kept) := by
        funext mark
        simp
      rw [if_pos rfl, ownMarks, nothing]
      simp only [Option.map_none, Option.toList_none, List.nil_append]
      rw [List.filter_map, same, inner, map_sitesFrom (g := fun child site => (markAt child site).setAside)]
      · simp only [List.map_flatMap, List.map_map, Function.comp_def]
      · intro j child found site
        rw [Nat.zero_add, markAt, markAt, Site.below, isAside_cons found, detached]
        rfl
    | false =>
      rw [if_neg (by simp), List.filter_append, inner, List.map_append, map_sitesFrom (g := markAt)]
      · congr 1
        cases own : declared? kind children <;> simp [ownMarks, own, markAt, detached]
      · intro j child found site
        rw [Nat.zero_add, markAt, markAt, Site.below, isAside_cons found, detached, Bool.false_or]

theorem declarations_marks (tree : Tree) : tree.marks.filterMap Mark.declaration? =
    tree.sites.map fun site => (site.kind, site.name) := by
  have looked : (fun mark : Mark => if decide (mark ≠ .kept) = true then mark.declaration? else none) =
      Mark.declaration? := by
    funext mark
    cases mark <;> simp [Mark.declaration?]
  have listed := congrArg (List.filterMap Mark.declaration?) (marks_eq tree)
  rw [List.filterMap_filter, looked, List.filterMap_map] at listed
  rw [listed, ← List.filterMap_eq_map]
  rfl

theorem fixed_marks (tree : Tree) : tree.marks.filter Mark.isFixed =
    (tree.sites.filter fun site => !tree.isAside site.place).map (markAt tree) := by
  have looked : (fun mark : Mark => mark.isFixed && decide (mark ≠ .kept)) = Mark.isFixed := by
    funext mark
    cases mark <;> simp [Mark.isFixed]
  have listed := congrArg (List.filter Mark.isFixed) (marks_eq tree)
  rwa [List.filter_filter, looked, List.filter_map] at listed

/-! ### Trees of source files -/

/-- Every part of a formed tree but a name is formed. -/
theorem Formed.part {tree : Tree} (formed : tree.Formed) {place : List Nat} {kind : Kind}
    {children : List Tree} (found : tree.part? place = some (.node kind children)) :
    (Tree.node kind children).Formed := by
  induction place generalizing tree with
  | nil =>
    obtain rfl : tree = .node kind children := by simpa using found
    exact formed
  | cons i rest ih =>
    cases tree with
    | name _ | word _ | tokens _ => simp [part?] at found
    | node kind' children' =>
      obtain ⟨child, listed, found⟩ := Option.bind_eq_some_iff.mp found
      have unnamed : child.name? = none := by
        cases child with
        | name text => cases rest <;> simp [part?] at found
        | word _ | tokens _ | node _ _ => rfl
      exact ih (formed.child (List.mem_of_getElem? listed) unnamed) found

/-- The sites of all nodes that declare something: of items, of variants, and of fields that have a
name. Members of traits, implementations and foreign blocks are no such nodes, and what is kept as
tokens has no parts. -/
structure Surveyed (tree : Tree) (sites : List Site) : Prop where
  ascending : sites.Pairwise fun first second => first.place < second.place
  declares : ∀ site ∈ sites, ∃ kind children, tree.part? site.place = some (.node kind children) ∧
    kindOf? kind = some site.kind ∧ names children = [site.name]
  complete : ∀ place kind children declared, tree.part? place = some (.node kind children) →
    kindOf? kind = some declared →
    (∃ name, ⟨place, declared, name⟩ ∈ sites) ∨ (kind = .field ∧ names children = [])
  fits : ∀ place kind children, tree.part? place = some (.node kind children) →
    NamesFit kind children ∧ PartsFit kind children

/-- A node that can declare something has one name, or it is a field without a name. -/
theorem NamesFit.one {kind : Kind} {children : List Tree} (fits : NamesFit kind children)
    {declared : DeclarationKind} (declares : kindOf? kind = some declared) :
    (∃ name, names children = [name]) ∨ (kind = .field ∧ names children = []) := by
  rw [NamesFit, declares] at fits
  by_cases field : declared = .field
  · subst field
    have kind_eq : kind = .field := by cases kind <;> simp_all [kindOf?]
    rcases Nat.le_one_iff_eq_zero_or_eq_one.mp fits with none | one
    · exact .inr ⟨kind_eq, List.length_eq_zero_iff.mp none⟩
    · exact .inl (List.length_eq_one_iff.mp one)
  · refine .inl (List.length_eq_one_iff.mp ?_)
    split at fits <;> simp_all

theorem declared?_eq_some_iff {kind : Kind} {children : List Tree} {declared : DeclarationKind}
    {name : String} : declared? kind children = some (declared, name) ↔
      kindOf? kind = some declared ∧ (names children).head? = some name := by
  rw [← nameAmong?_eq, declared?]
  cases kindOf? kind <;> cases nameAmong? children <;> simp

theorem Formed.surveyed {tree : Tree} (formed : tree.Formed) : tree.Surveyed tree.sites where
  ascending := ascending_sites tree
  declares := by
    rintro ⟨place, declared, name⟩ member
    obtain ⟨kind, children, found, own⟩ := mem_sites_iff.mp member
    obtain ⟨declares, first⟩ := declared?_eq_some_iff.mp own
    refine ⟨kind, children, found, declares, ?_⟩
    rcases (formed_node.mp (formed.part found)).1.one declares with ⟨name', one⟩ | ⟨-, none⟩
    · rw [one] at first ⊢
      rw [Option.some.inj first]
    · simp [none] at first
  complete := by
    intro place kind children declared found declares
    refine (formed_node.mp (formed.part found)).1.one declares |>.imp_left ?_
    rintro ⟨name, one⟩
    exact ⟨name, mem_sites_iff.mpr ⟨kind, children, found,
      declared?_eq_some_iff.mpr ⟨declares, by rw [one]; rfl⟩⟩⟩
  fits := by
    intro place kind children found
    obtain ⟨named, parts, -⟩ := formed_node.mp (formed.part found)
    exact ⟨named, parts⟩

end Scaffold.Rust.Tree

namespace Scaffold.Declaration

open Rust Tree

/-- The declaration at a site of a file, with the module items above it. -/
def ofSite (file : Path) (tree : Tree) (site : Site) : Declaration :=
  ⟨site.kind, site.name, some ⟨file, "::".intercalate (tree.modulesAbove site.place)⟩⟩

theorem ofSource?_eq {source : String} {tree : Tree} (file : Path)
    (parsed : SourceFile.parse source = some tree) :
    ofSource? file source = some (tree.sites.map (ofSite file tree)) := by
  rw [ofSource?, parsed, Option.map_some, collect_eq, List.map_map]
  rfl

theorem declarations_ofSite (file : Path) (tree : Tree) :
    (tree.sites.map (ofSite file tree)).map (fun listed => (listed.kind, listed.name)) =
      tree.marks.filterMap Mark.declaration? := by
  rw [declarations_marks, List.map_map]
  rfl

/-- A source file that parses lists just what stands at the sites of its tree, each site once, with the
module items above it. The tokens of the file show all that is listed, and where no tokens are kept as
they are they show nothing else. -/
theorem ofSource?_exact {file : Path} {source : String} {tree : Tree}
    (parsed : SourceFile.parse source = some tree) : ∃ declarations,
      ofSource? file source = some declarations ∧ tree.Surveyed tree.sites ∧
      declarations = tree.sites.map (ofSite file tree) ∧
      ∃ tokens seen, SourceFile.tokens? source = some tokens ∧ Shows tokens seen ∧
        (declarations.map fun listed => (listed.kind, listed.name)).Subperm
          (seen.filterMap Mark.declaration?) ∧
        (.kept ∉ tree.marks → (declarations.map fun listed => (listed.kind, listed.name)).Perm
          (seen.filterMap Mark.declaration?)) := by
  obtain ⟨tokens, lexed, formed, seen, shows, becomes⟩ := SourceFile.parse_spec parsed
  refine ⟨_, ofSource?_eq file parsed, formed.surveyed, rfl, tokens, seen, lexed, shows, ?_,
    fun opened => ?_⟩
  · rw [declarations_ofSite]
    exact becomes.declarations_subperm
  · rw [declarations_ofSite]
    exact ((becomes.rearranged_of_open opened).2.filterMap _).symm

theorem ofSource?_exact_nested :
    let source := "mod m \x7b
        impl S \x7b fn f() \x7b struct A \x7b x: [u8; \x7b const N: usize = 1; N \x7d] \x7d \x7d \x7d
      \x7d
      fn g(); struct T(u8); make! \x7b struct B; \x7d"
    ∃ tree, SourceFile.parse source = some tree ∧ tree.Surveyed tree.sites ∧
      tree.sites.map (fun site => (site.kind, site.name, "::".intercalate (tree.modulesAbove site.place))) =
        [(.module, "m", ""), (.struct, "A", "m"), (.field, "x", "m"), (.const, "N", "m"),
          (.struct, "T", "")] := by
  intro source
  have found : (ofSource? ⟨"lib.rs"⟩ source).map (List.map fun listed =>
      (listed.kind, listed.name, listed.location.map (·.modulePath))) =
        some [(.module, "m", some ""), (.struct, "A", some "m"), (.field, "x", some "m"),
          (.const, "N", some "m"), (.struct, "T", some "")] := by decide +kernel
  obtain ⟨declarations, listed, summary⟩ := Option.map_eq_some_iff.mp found
  obtain ⟨tree, parsed, -⟩ := Option.map_eq_some_iff.mp listed
  obtain ⟨declarations', listed', surveyed, spelled, -⟩ := @ofSource?_exact ⟨"lib.rs"⟩ _ _ parsed
  obtain rfl := Option.some.inj (listed.symm.trans listed')
  refine ⟨tree, parsed, surveyed, ?_⟩
  have paths := congrArg (List.map fun part : DeclarationKind × String × Option String =>
    (part.1, part.2.1, part.2.2.getD "")) summary
  rw [spelled, List.map_map, List.map_map] at paths
  exact paths

end Scaffold.Declaration
