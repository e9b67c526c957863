import Scaffold.Declaration.OfSource
import Mathlib.Data.List.Perm.Subperm

/-!
What a reader of a source file comes across. The tokens, read from first to last, show marks; the
tree of the file has marks in the order in which its declarations are listed. `Reads` relates the
two: it is the statement that each parser is proved to keep.
-/

namespace Scaffold.Rust

/-- What a reader comes across: a declaration, or tokens that nobody looks into. -/
inductive Mark where
  /-- `aside` for what stands in the value of an attribute or in conditions on type parameters -/
  | declared (kind : DeclarationKind) (name : String) (aside : Bool)
  | kept
  deriving DecidableEq, Repr

namespace Mark

def setAside : Mark → Mark
  | declared kind name _ => declared kind name true
  | kept => kept

/-- Whether the place of a mark among the others is fixed. -/
def isFixed : Mark → Bool
  | declared _ _ aside => !aside
  | kept => false

/-- What is declared, wherever it stands. -/
def declaration? : Mark → Option (DeclarationKind × String)
  | declared kind name _ => some (kind, name)
  | kept => none

@[simp] theorem isFixed_setAside (mark : Mark) : mark.setAside.isFixed = false := by
  cases mark <;> rfl

@[simp] theorem setAside_eq_kept {mark : Mark} : mark.setAside = .kept ↔ mark = .kept := by
  cases mark <;> simp [setAside]

end Mark

/-- Marks whose places are not fixed. -/
def AllAside (marks : List Mark) : Prop := marks.filter Mark.isFixed = []

theorem AllAside.filter_eq {marks : List Mark} (aside : AllAside marks) :
    marks.filter Mark.isFixed = [] :=
  aside

@[simp] theorem allAside_nil : AllAside [] := rfl

@[simp] theorem allAside_map (marks : List Mark) : AllAside (marks.map Mark.setAside) := by
  simp [AllAside, List.filter_eq_nil_iff]

@[simp] theorem allAside_append {first second : List Mark} :
    AllAside (first ++ second) ↔ AllAside first ∧ AllAside second := by
  simp [AllAside]

/-! ### The marks of a tree -/

namespace Tree

open Declaration

/-- The declaration that a node itself makes. -/
def ownMarks (kind : Kind) (children : List Tree) : List Mark :=
  ((declared? kind children).map fun found => .declared found.1 found.2 false).toList

/-- Attributes and conditions are listed before what is written ahead of them. -/
def settle (kind : Kind) (marks : List Mark) : List Mark :=
  match kind with
  | .attributeLine | .whereClause => marks.map Mark.setAside
  | _ => marks

mutual

/-- The marks of a tree, in the order in which its declarations are listed. -/
def marks : Tree → List Mark
  | .node kind children => settle kind (ownMarks kind children ++ marksAll children)
  | .tokens _ => [.kept]
  | _ => []

def marksAll : List Tree → List Mark
  | [] => []
  | tree :: rest => tree.marks ++ marksAll rest

end

@[simp] theorem marks_name (text : String) : (Tree.name text).marks = [] := by simp [marks]

@[simp] theorem marks_word (text : String) : (Tree.word text).marks = [] := by simp [marks]

@[simp] theorem marks_tokens (body : Tokens) : (Tree.tokens body).marks = [.kept] := by simp [marks]

@[simp] theorem marksAll_nil : marksAll [] = [] := by simp [marksAll]

@[simp] theorem marksAll_cons (tree : Tree) (rest : List Tree) :
    marksAll (tree :: rest) = tree.marks ++ marksAll rest := by
  simp [marksAll]

@[simp] theorem marksAll_append (first second : List Tree) :
    marksAll (first ++ second) = marksAll first ++ marksAll second := by
  induction first with
  | nil => simp
  | cons tree rest ih => simp [ih]

theorem allAside_marksAll {trees : List Tree} (aside : ∀ tree ∈ trees, AllAside tree.marks) :
    AllAside (marksAll trees) := by
  induction trees with
  | nil => simp
  | cons tree rest ih =>
    rw [marksAll_cons, allAside_append]
    exact ⟨aside tree (by simp), ih fun tree member => aside tree (by simp [member])⟩

/-- A node of most kinds shows what its children show. -/
theorem marks_node {kind : Kind} (plain : kindOf? kind = none)
    (unsettled : kind ≠ .attributeLine ∧ kind ≠ .whereClause) (children : List Tree) :
    (Tree.node kind children).marks = marksAll children := by
  have own : ownMarks kind children = [] := by simp [ownMarks, declared?, plain]
  rw [marks, own, List.nil_append]
  cases kind <;> simp_all [settle]

@[simp] theorem marks_attributeLine (children : List Tree) :
    (Tree.node .attributeLine children).marks = (marksAll children).map Mark.setAside := by
  have own : ownMarks .attributeLine children = [] := by simp [ownMarks, declared?, kindOf?]
  simp [marks, own, settle]

@[simp] theorem marks_whereClause (children : List Tree) :
    (Tree.node .whereClause children).marks = (marksAll children).map Mark.setAside := by
  have own : ownMarks .whereClause children = [] := by simp [ownMarks, declared?, kindOf?]
  simp [marks, own, settle]

theorem marks_listNode (trees : List Tree) : (Tree.node .list trees).marks = marksAll trees :=
  marks_node rfl (by decide) trees

@[simp] theorem marks_list (trees : List Tree) : (Tree.list trees).marks = marksAll trees :=
  marks_listNode trees

@[simp] theorem marks_absent : Tree.absent.marks = [] := marks_node rfl (by decide) []

@[simp] theorem marks_flag (text : String) (present : Bool) : (Tree.flag text present).marks = [] := by
  simp [Tree.flag]

end Tree

end Scaffold.Rust
