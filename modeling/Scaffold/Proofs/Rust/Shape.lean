import Scaffold.Proofs.Rust.Mark

/-!
The shape of parsed trees: which nodes have names, and what stands in the places that later steps of
the parsers and the readers of the tree look at.
-/

namespace Scaffold.Rust.Tree

open Declaration

def name? : Tree → Option String
  | .name text => some text
  | _ => none

/-- The names among trees. -/
def names (trees : List Tree) : List String := trees.filterMap name?

@[simp] theorem names_nil : names [] = [] := rfl

@[simp] theorem names_name (text : String) (rest : List Tree) :
    names (.name text :: rest) = text :: names rest := rfl

@[simp] theorem names_word (text : String) (rest : List Tree) :
    names (.word text :: rest) = names rest := rfl

@[simp] theorem names_node (kind : Kind) (children rest : List Tree) :
    names (.node kind children :: rest) = names rest := rfl

theorem nameAmong?_eq (trees : List Tree) : nameAmong? trees = (names trees).head? := by
  induction trees with
  | nil => rfl
  | cons tree rest ih =>
    cases tree with
    | name text => rfl
    | word _ | tokens _ | node _ _ => exact ih

/-- Expressions and items begin with their attributes, where they are looked into. -/
def TakesAttributes : Tree → Prop
  | .node _ (.node .list _ :: _) => True
  | .tokens _ => True
  | _ => False

/-- What declares nothing itself. -/
def DeclaresNothing (tree : Tree) : Prop := tree.kind?.bind kindOf? = none

/-- A segment of a path, with its arguments. -/
def IsSegment (tree : Tree) : Prop := ∃ word arguments, tree = .node .segment [.word word, arguments]

/-- Arguments between angle brackets, after an optional separator. -/
def IsAngleArguments (tree : Tree) : Prop :=
  ∃ leading arguments, tree = .node .angleArguments [.word leading, .list arguments]

/-- A field with one name. -/
def IsNamedField : Tree → Prop
  | .node .field children => (names children).length = 1
  | _ => False

/-- A field without a name. -/
def IsTupleField : Tree → Prop
  | .node .field children => names children = []
  | _ => False

/-- Every node that makes a declaration has one name, and so has a named field; no other node has
any. -/
def NamesFit (kind : Kind) (children : List Tree) : Prop :=
  match kindOf? kind with
  | none => names children = []
  | some .field => (names children).length ≤ 1
  | some _ => (names children).length = 1

/-- After attributes and other parts there stand members, which declare nothing. -/
def EndsWithMembers (children : List Tree) : Prop :=
  ∃ own before items, children = own :: (before ++ [.list items]) ∧
    ∀ item ∈ items, DeclaresNothing item

/-- What stands in the places of a node that others rely on. -/
def PartsFit : Kind → List Tree → Prop
  | .absent, children => children = []
  | .path, children => ∃ leading segments, children = .word leading :: segments ∧
      ∀ segment ∈ segments, IsSegment segment
  | .angleArguments, children => IsAngleArguments (.node .angleArguments children)
  | .traitBound, children => ∃ opening rest, children = .word opening :: rest
  | .assignExpr, children => ∃ own left rest, children = own :: left :: rest ∧ left.TakesAttributes
  | .binaryExpr, children => ∃ own left rest, children = own :: left :: rest ∧ left.TakesAttributes
  | .castExpr, children => ∃ own left rest, children = own :: left :: rest ∧ left.TakesAttributes
  | .namedFields, children => ∀ field ∈ children, IsNamedField field
  | .tupleFields, children => ∀ field ∈ children, IsTupleField field
  | .invocation, children => ∃ path body, children = [path, .tokens body]
  | .traitItem, children => EndsWithMembers children
  | .implItem, children => EndsWithMembers children
  | .foreignModule, children => EndsWithMembers children
  | _, _ => True

mutual

/-- A tree that may be the value of a parser. A lone name is none: names stand in nodes. -/
def Formed : Tree → Prop
  | .name _ => False
  | .word _ => True
  | .tokens _ => True
  | .node kind children => NamesFit kind children ∧ PartsFit kind children ∧ AllFormed children

def AllFormed : List Tree → Prop
  | [] => True
  | tree :: rest => (tree.name?.isSome ∨ Formed tree) ∧ AllFormed rest

end

@[simp] theorem not_formed_name (text : String) : ¬ Formed (.name text) := by simp [Formed]

@[simp] theorem formed_word (text : String) : Formed (.word text) := by simp [Formed]

@[simp] theorem formed_tokens (body : Tokens) : Formed (.tokens body) := by simp [Formed]

theorem formed_node {kind : Kind} {children : List Tree} :
    Formed (.node kind children) ↔
      NamesFit kind children ∧ PartsFit kind children ∧ AllFormed children := by
  simp [Formed]

@[simp] theorem allFormed_nil : AllFormed [] := by simp [AllFormed]

theorem Formed.name?_eq {tree : Tree} (formed : Formed tree) : tree.name? = none := by
  cases tree <;> simp_all [name?]

theorem Formed.names_cons {tree : Tree} (formed : Formed tree) (rest : List Tree) :
    names (tree :: rest) = names rest := by
  simp [names, formed.name?_eq]

@[simp] theorem allFormed_cons {tree : Tree} {rest : List Tree} :
    AllFormed (tree :: rest) ↔ (tree.name?.isSome ∨ Formed tree) ∧ AllFormed rest := by
  simp [AllFormed]

theorem allFormed_iff {trees : List Tree} :
    AllFormed trees ↔ ∀ tree ∈ trees, tree.name?.isSome ∨ Formed tree := by
  induction trees with
  | nil => simp
  | cons tree rest ih => simp [ih]

theorem names_eq_nil {trees : List Tree} (formed : ∀ tree ∈ trees, Formed tree) :
    names trees = [] := by
  simpa [names] using fun tree member => (formed tree member).name?_eq

theorem allFormed_of_formed {trees : List Tree} (formed : ∀ tree ∈ trees, Formed tree) :
    AllFormed trees :=
  allFormed_iff.mpr fun tree member => .inr (formed tree member)

@[simp] theorem formed_list {trees : List Tree} :
    Formed (.list trees) ↔ ∀ tree ∈ trees, Formed tree := by
  constructor
  · intro formed
    obtain ⟨named, -, all⟩ := formed_node.mp formed
    intro tree member
    refine (allFormed_iff.mp all tree member).resolve_left fun h => ?_
    have unnamed : names trees = [] := named
    simp only [names, List.filterMap_eq_nil_iff] at unnamed
    simp [unnamed tree member] at h
  · intro formed
    exact formed_node.mpr ⟨names_eq_nil formed, trivial, allFormed_of_formed formed⟩

@[simp] theorem formed_absent : Formed .absent :=
  formed_node.mpr ⟨rfl, rfl, allFormed_nil⟩

@[simp] theorem formed_flag (text : String) (present : Bool) : Formed (.flag text present) :=
  formed_word _

/-- The children of a formed node but for its name are formed. -/
theorem Formed.child {kind : Kind} {children : List Tree} {child : Tree}
    (formed : Formed (.node kind children)) (member : child ∈ children)
    (unnamed : child.name? = none) : child.Formed :=
  (allFormed_iff.mp (formed_node.mp formed).2.2 child member).resolve_left (by simp [unnamed])

/-- All children of a formed node that declares nothing are formed. -/
theorem Formed.children {kind : Kind} {children : List Tree} (formed : Formed (.node kind children))
    (nothing : kindOf? kind = none) : ∀ child ∈ children, child.Formed := by
  intro child member
  have unnamed : names children = [] := by
    have fit := (formed_node.mp formed).1
    rwa [NamesFit, nothing] at fit
  exact formed.child member (List.filterMap_eq_nil_iff.mp unnamed child member)

/-! ### Nodes of which nothing special is said -/

/-- Kinds that declare nothing, leave what stands in them in its place, and have no parts that
others rely on. -/
def isPlain : Kind → Bool
  | .absent | .attributeLine | .whereClause | .path | .angleArguments | .traitBound | .assignExpr
  | .binaryExpr | .castExpr | .namedFields | .tupleFields | .invocation | .implItem
  | .foreignModule => false
  | kind => (kindOf? kind).isNone

variable {kind : Kind} {children : List Tree}

theorem kindOf?_of_isPlain (plain : isPlain kind = true) : kindOf? kind = none := by
  unfold isPlain at plain
  split at plain
  any_goals cases plain
  exact Option.isNone_iff_eq_none.mp plain

theorem partsFit_of_isPlain (plain : isPlain kind = true) : PartsFit kind children := by
  cases kind <;> trivial

/-- A node that declares nothing is formed if its children are and its parts fit. -/
theorem formed_of_kindOf? (nothing : kindOf? kind = none) (parts : PartsFit kind children)
    (formed : ∀ child ∈ children, Formed child) : Formed (.node kind children) := by
  refine formed_node.mpr ⟨?_, parts, allFormed_of_formed formed⟩
  rw [NamesFit, nothing]
  exact names_eq_nil formed

theorem formed_iff_of_isPlain (plain : isPlain kind = true) :
    Formed (.node kind children) ↔ ∀ child ∈ children, Formed child :=
  ⟨fun formed => formed.children (kindOf?_of_isPlain plain),
    formed_of_kindOf? (kindOf?_of_isPlain plain) (partsFit_of_isPlain plain)⟩

/-- A plain node is formed if its children are. -/
theorem formed_of_isPlain (plain : isPlain kind = true) (formed : ∀ child ∈ children, Formed child) :
    Formed (.node kind children) :=
  (formed_iff_of_isPlain plain).mpr formed

theorem marks_of_isPlain (plain : isPlain kind = true) :
    (Tree.node kind children).marks = marksAll children := by
  refine marks_node (kindOf?_of_isPlain plain) ⟨?_, ?_⟩ children
  all_goals
    rintro rfl
    cases plain

/-! ### Nodes with a name -/

section Declaring

variable {kind : Kind} {declared : DeclarationKind} {first last : List Tree}

/-- A node with its name between other parts. -/
theorem formed_declaring (declares : kindOf? kind = some declared) (word : String)
    (formed : ∀ child ∈ first ++ last, child.Formed)
    (parts : PartsFit kind (first ++ .name word :: last)) :
    Formed (.node kind (first ++ .name word :: last)) := by
  have one : names (first ++ .name word :: last) = [word] := by
    have before := names_eq_nil fun tree member => formed tree (List.mem_append_left _ member)
    have after := names_eq_nil fun tree member => formed tree (List.mem_append_right first member)
    simp only [names] at before after ⊢
    simp [before, after, name?]
  refine formed_node.mpr ⟨?_, parts, ?_⟩
  · rw [NamesFit, declares, one]
    cases declared <;> simp
  · refine allFormed_iff.mpr fun tree member => ?_
    rw [List.mem_append, List.mem_cons] at member
    rcases member with before | rfl | after
    · exact .inr (formed tree (List.mem_append_left _ before))
    · exact .inl rfl
    · exact .inr (formed tree (List.mem_append_right first after))

theorem marks_declaring (declares : kindOf? kind = some declared) (word : String)
    (formed : ∀ child ∈ first ++ last, child.Formed) :
    (Tree.node kind (first ++ .name word :: last)).marks =
      .declared declared word false :: (marksAll first ++ marksAll last) := by
  have found : nameAmong? (first ++ .name word :: last) = some word := by
    have before := names_eq_nil fun tree member => formed tree (List.mem_append_left _ member)
    rw [nameAmong?_eq]
    simp only [names] at before ⊢
    simp [before, name?]
  have settled (marks : List Mark) : settle kind marks = marks := by
    cases kind <;> first | rfl | cases declares
  rw [marks, settled]
  simp [ownMarks, declared?, declares, found]

/-- A field without a name declares nothing. -/
theorem formed_tupleField {children : List Tree} (formed : ∀ child ∈ children, child.Formed) :
    Formed (.node .field children) := by
  refine formed_node.mpr ⟨?_, trivial, allFormed_of_formed formed⟩
  simp [NamesFit, kindOf?, names_eq_nil formed]

theorem marks_tupleField {children : List Tree} (formed : ∀ child ∈ children, child.Formed) :
    (Tree.node .field children).marks = marksAll children := by
  have unnamed : nameAmong? children = none := by simp [nameAmong?_eq, names_eq_nil formed]
  simp [marks, settle, ownMarks, declared?, unnamed]

end Declaring

/-! ### Paths -/

@[simp] theorem marks_segment (children : List Tree) :
    (Tree.node .segment children).marks = marksAll children :=
  marks_of_isPlain rfl

@[simp] theorem marks_path (children : List Tree) :
    (Tree.node .path children).marks = marksAll children :=
  marks_node rfl (by decide) children

theorem marks_angleArguments (children : List Tree) :
    (Tree.node .angleArguments children).marks = marksAll children :=
  marks_node rfl (by decide) children

theorem formed_angleArguments {arguments : List Tree} (leading : String)
    (formed : ∀ argument ∈ arguments, argument.Formed) :
    Formed (.node .angleArguments [.word leading, .list arguments]) :=
  formed_of_kindOf? rfl ⟨leading, arguments, rfl⟩ (by simpa using formed)

theorem formed_segment {arguments : Tree} (word : String) (formed : arguments.Formed) :
    Formed (.node .segment [.word word, arguments]) :=
  formed_of_isPlain rfl (by simpa using formed)

/-- A path with its parts. -/
def IsPath (tree : Tree) : Prop :=
  ∃ leading segments, tree = .node .path (.word leading :: segments) ∧
    ∀ segment ∈ segments, segment.Formed ∧ IsSegment segment

theorem formed_path {segments : List Tree} (leading : String)
    (fits : ∀ segment ∈ segments, segment.Formed ∧ IsSegment segment) :
    Formed (.node .path (.word leading :: segments)) := by
  refine formed_of_kindOf? rfl ⟨leading, segments, rfl, fun s member => (fits s member).2⟩ ?_
  simpa using fun segment member => (fits segment member).1

theorem Formed.isPath {tree : Tree} (formed : tree.Formed) (path : tree.is .path = true) :
    IsPath tree := by
  cases tree with
  | name _ | word _ | tokens _ => cases path
  | node kind children =>
    obtain rfl : kind = .path := by simpa [Tree.is, kind?] using path
    obtain ⟨-, ⟨leading, segments, rfl, fits⟩, -⟩ := formed_node.mp formed
    refine ⟨leading, segments, rfl, fun segment member => ⟨?_, fits segment member⟩⟩
    obtain ⟨word, arguments, rfl⟩ := fits segment member
    exact formed.child (List.mem_cons_of_mem _ member) rfl

theorem marks_traitBound (children : List Tree) :
    (Tree.node .traitBound children).marks = marksAll children :=
  marks_node rfl (by decide) children

theorem formed_traitBound {rest : List Tree} (opening : String)
    (formed : ∀ part ∈ rest, part.Formed) : Formed (.node .traitBound (.word opening :: rest)) :=
  formed_of_kindOf? rfl ⟨opening, rest, rfl⟩ (by simpa using formed)

theorem formed_generics {parameters conditions : Tree} (first : parameters.Formed)
    (second : conditions.Formed) : Formed (.node .generics [parameters, conditions]) :=
  formed_of_isPlain rfl (by simp [first, second])

/-- An absent part is empty. -/
theorem Formed.marks_of_isAbsent {tree : Tree} (formed : tree.Formed)
    (absent : tree.isAbsent = true) : tree.marks = [] := by
  unfold isAbsent at absent
  split at absent
  · next children =>
    obtain ⟨-, parts, -⟩ := formed_node.mp formed
    obtain rfl : children = [] := parts
    exact marks_absent
  · cases absent

end Scaffold.Rust.Tree
