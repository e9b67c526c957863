import Scaffold.Proofs.Rust.Parser.Basic

/-! Attributes and plain paths: what attributes hold is set aside. -/

namespace Scaffold.Rust

/-- Expressions and items, whose attributes come first. -/
abbrev Account.attributed : Account Tree := .treeWith Tree.TakesAttributes

/-- Parsers for nested constructs that all give a true account. -/
structure Grammar.Sound (g : Grammar) : Prop where
  type (plus : Bool) : Parser.Faithful (g.type plus) [] .tree
  bound (captures constant : Bool) : Parser.Faithful (g.bound captures constant) [] .tree
  pattern : Parser.Faithful g.pattern [] .tree
  expression (struct : Bool) : Parser.Faithful (g.expression struct) [] .tree
  statementExpression : Parser.Faithful g.statementExpression [] .attributed
  operand (struct : Bool) : Parser.Faithful (g.operand struct) [] .attributed
  climb (struct : Bool) (base : Precedence) {left : Tree} (formed : left.Formed)
    (takes : left.TakesAttributes) : Parser.Faithful (g.climb struct base left) left.marks .attributed
  statements : Parser.Faithful g.statements [] (.each .tree)
  item : Parser.Faithful g.item [] .attributed
  useTree (root : Bool) : Parser.Faithful (g.useTree root) [] (.option .bare)

/-- Attributes, or other trees whose marks are all aside. -/
def Account.attributes : Account (List Tree) where
  holds trees := (∀ tree ∈ trees, tree.Formed) ∧ AllAside (Tree.marksAll trees)
  marks := Tree.marksAll

theorem Account.attributes_of_each (trees : List Tree)
    (fits : (Account.treeWith (AllAside ·.marks)).each.holds trees) :
    Account.attributes.holds trees ∧
      Becomes ((Account.treeWith (AllAside ·.marks)).each.marks trees)
        (Account.attributes.marks trees) :=
  ⟨⟨fun tree member => (fits tree member).1,
    Tree.allAside_marksAll fun tree member => (fits tree member).2⟩, .of_eq (by simp [attributes])⟩

namespace Parser

open Tree

theorem atPlain_of_atPathWord {tokens : Tokens} (found : atPathWord tokens = true) :
    AtPlain tokens := by
  rcases Bool.or_eq_true_iff.mp found with name | word
  · exact atPlain_of_atName name
  · exact atPlain_of_atOneOf word rfl

namespace Faithful

/-- A path of plain words shows nothing. -/
theorem plainPath : Faithful plainPath [] .bare := by
  let plain : Account Tree := .treeWith fun tree => IsSegment tree ∧ tree.marks = []
  have fueled (fuel : Nat) : Faithful (plainPath.go fuel) [] plain.each := by
    induction fuel with
    | zero => exact fail
    | succ fuel ih =>
      unfold plainPath.go
      refine guardAt fun tokens found => ?_
      refine (anyWord_at (atPlain_of_atPathWord found)).skip fun word => ?_
      have fits : plain.holds (.node .segment [.word word, .absent]) :=
        ⟨formed_segment word formed_absent, ⟨word, .absent, rfl⟩, by simp⟩
      refine .skip (operator? rfl) fun joined => .ite ?_ ?_
      · simpa [plain] using ih.cons_of fits
      · exact .pure (by simpa using fits) (.of_eq (by simp [plain]))
  have segments : Faithful plainPath.plainSegments [] plain.each := .of_fuel fueled fun _ => rfl
  unfold Parser.plainPath
  refine .skip (operator? rfl) fun leading => segments.bind fun trees fits => ?_
  have none : marksAll trees = [] := by
    simpa [← flatMap_marks] using fun tree member => (fits tree member).2.2
  have formed : Formed (.node .path (Tree.flag "::" leading :: trees)) :=
    formed_path _ fun tree member => ⟨(fits tree member).1, (fits tree member).2.1⟩
  exact .pure ⟨formed, by simp [none]⟩ (.of_eq (by simp [plain]))

variable {α β : Type} {before : List Mark} {account : Account α} {result : Account β}

theorem attributes {p : Parser (List Tree)} {k : List Tree → Parser β} (h : Faithful p [] .attributes)
    (next : ∀ trees : List Tree, (∀ tree ∈ trees, tree.Formed) → AllAside (marksAll trees) →
      Faithful (k trees) (before ++ marksAll trees) result) :
    Faithful (p >>= k) before result :=
  h.bind fun trees fits => next trees fits.1 fits.2

/-- What follows attributes, together with them. -/
theorem afterAttributes {p : Parser (List Tree × α)} {k : List Tree × α → Parser β}
    (h : Faithful p [] (.both .attributes account))
    (next : ∀ (trees : List Tree) (value : α), (∀ tree ∈ trees, tree.Formed) →
      AllAside (marksAll trees) → account.holds value →
      Faithful (k (trees, value)) (before ++ (marksAll trees ++ account.marks value)) result) :
    Faithful (p >>= k) before result :=
  h.bind fun (trees, value) fits => next trees value fits.1.1 fits.1.2 fits.2

end Faithful

end Parser

namespace Grammar.Sound

open Scaffold.Rust.Parser Tree

variable {g : Grammar} (sound : g.Sound)
include sound

theorem block : Faithful g.block [] .tree :=
  sound.statements.braces.map fun statements formed =>
    ⟨formed_of_isPlain rfl formed, .of_eq (by simp (disch := decide) [marks_of_isPlain])⟩

theorem attributeValue : Faithful (Parser.attributeValue g) [] .tree := by
  intro tokens
  unfold Parser.attributeValue
  refine .of_taken fun value rest run => ?_
  split at run
  · next literal found =>
    cases run
    obtain ⟨⟨formed, _⟩, taken, same, reads⟩ := (Faithful.literal tokens).taken found
    refine ⟨formed_of_isPlain rfl (by simpa using formed), taken, same, ?_⟩
    simpa (disch := decide) [marks_of_isPlain] using reads
  · split at run
    · cases run
    · exact (sound.expression true tokens).taken run

/-- What an attribute holds is aside. -/
theorem attributeContent (style : String) :
    Faithful (Parser.attributeContent g style) [] (.treeWith (AllAside ·.marks)) := by
  -- until the line is complete, its marks have their places
  let line : Account Tree :=
    ⟨fun tree => ∃ path content : Tree, path.Formed ∧ content.Formed ∧
        tree = .node .attributeLine [.word style, path, content],
      fun tree => marksAll tree.children⟩
  have parts : Faithful (Parser.attributeContent g style) [] line := by
    unfold Parser.attributeContent
    refine fun tokens => .at? ?_
    extract_lets afterPath
    have rest (path : Tree) (formed : path.Formed) : Faithful (afterPath path) path.marks line := by
      refine .at? fun _ => ?_
      refine .skip (.operator? rfl) fun _ => ?_
      extract_lets afterContent
      have last (content : Tree) (inner : content.Formed) :
          Faithful (afterContent content) (path.marks ++ content.marks) line :=
        .pure ⟨path, content, formed, inner, rfl⟩ (.of_eq (by simp [line, children]))
      refine .ite (.tree Faithful.anyGroup.plain last) (.ite (.tree sound.attributeValue last) ?_)
      exact .tree (.pure formed_absent (.of_eq (by simp))) last
    refine .ite (fun found => ?_) fun _ => Faithful.tree Faithful.plainPath.plain rest tokens
    have word : FaithfulAt tokens ((fun word => Tree.node .path
        [.word "", .node .segment [.word word, .absent]]) <$> anyWord) [] .tree :=
      (anyWord_at (atPlain_of_atWord found rfl)).map fun word _ =>
        ⟨formed_path "" (by simp [formed_segment, IsSegment]), .of_eq (by simp)⟩
    exact word.bind rest
  refine parts.setAside.weaken ?_
  rintro _ ⟨path, content, formed, inner, rfl⟩
  have whole : Formed (.node .attributeLine [.word style, path, content]) :=
    formed_of_kindOf? rfl trivial (by simp [formed, inner])
  exact ⟨⟨whole, by simp⟩, .of_eq (by simp [children])⟩

theorem outerAttributes : Faithful (Parser.outerAttributes g) [] .attributes := by
  have line : Faithful (operator "#" >>= fun _ => brackets (Parser.attributeContent g "#")) []
      (.treeWith (AllAside ·.marks)) :=
    .skip (.operator rfl) fun _ => (sound.attributeContent "#").brackets
  exact (Faithful.whileAt line).weaken Account.attributes_of_each

theorem innerAttributes : Faithful (Parser.innerAttributes g) [] .attributes := by
  have line : Faithful (operator "#" >>= fun _ => operator "!" >>= fun _ =>
      brackets (Parser.attributeContent g "#!")) [] (.treeWith (AllAside ·.marks)) :=
    .skip (.operator rfl) fun _ => .skip (.operator rfl) fun _ => (sound.attributeContent "#!").brackets
  exact (Faithful.whileAt line).weaken Account.attributes_of_each

/-- A block after the attributes at its start. -/
theorem attributedBlock : Faithful (Parser.attributedBlock g) [] (.both .attributes .tree) := by
  refine .braces (sound.innerAttributes.bind fun attributes fits => ?_)
  refine .trees sound.statements fun statements formed => ?_
  refine .pure ⟨fits, formed_of_isPlain rfl formed⟩ (.of_eq ?_)
  simp (disch := decide) [marks_of_isPlain]

end Grammar.Sound

end Scaffold.Rust
