import Scaffold.Proofs.Rust.Parser.Attribute

/-! Paths give a true account of what they take. -/

namespace Scaffold.Rust.Grammar.Sound

open Scaffold.Rust.Parser Tree

variable {g : Grammar} (sound : g.Sound)
include sound

theorem constArgument : Faithful (Parser.constArgument g) [] .tree := by
  unfold Parser.constArgument
  refine .test ?_ (.testAt ?_ (.test ?_ .fail))
  · refine .tree Faithful.literal.plain fun value formed => ?_
    exact .node rfl (by simp [formed]) (.of_eq (by simp))
  · refine fun tokens found => (anyWord_at (atPlain_of_atName found)).skip fun word => ?_
    have segment := formed_segment word formed_absent
    have path : Formed (.node .path [.word "", .node .segment [.word word, .absent]]) :=
      formed_path "" (by simp [segment, IsSegment])
    exact .node rfl (by simp [path]) (.of_eq (by simp))
  · refine .afterAttributes sound.attributedBlock fun attributes block formed _ (inner : block.Formed) => ?_
    exact .node rfl (by simpa [inner] using formed) (.of_eq (by simp))

omit sound in
/-- A type that is one segment shows what its arguments show. -/
theorem simpleSegment?_eq {argument arguments : Tree} {name : String} (formed : argument.Formed)
    (simple : angleArgument.simpleSegment? argument = some (name, arguments)) :
    arguments.Formed ∧ argument.marks = arguments.marks := by
  unfold angleArgument.simpleSegment? at simple
  split at simple
  · next word inner =>
    split at simple
    · cases simple
    · cases simple
      have path := formed.children rfl (.node .path [.word "", .node .segment [.word name, arguments]])
        (by simp)
      have segment := path.children rfl (.node .segment [.word name, arguments]) (by simp)
      exact ⟨segment.children rfl arguments (by simp), by
        simp (disch := decide) [marks_of_isPlain]⟩
  · cases simple

theorem angleArgument : Faithful (Parser.angleArgument g) [] .tree := by
  unfold Parser.angleArgument
  refine .test Faithful.lifetime.plain (.test ?_ ?_)
  · refine .tree sound.constArgument fun argument formed => ?_
    exact .node rfl (by simp [formed]) (.of_eq (by simp))
  · refine .tree (sound.type true) fun argument formed => ?_
    split
    · exact .pure formed (.of_eq (by simp))
    · next name arguments simple =>
      obtain ⟨inner, same⟩ := simpleSegment?_eq formed simple
      rw [same]
      refine .skip (.operator? rfl) fun bound => .ite (.test ?_ ?_) (.skip (.operator? rfl) fun bounded => .ite ?_ ?_)
      · refine .tree sound.constArgument fun value formed => ?_
        exact .node rfl (by simp [formed, inner]) (.of_eq (by simp))
      · refine .tree (sound.type true) fun value formed => ?_
        exact .node rfl (by simp [formed, inner]) (.of_eq (by simp))
      · refine .trees (.joined rfl (sound.bound false true)) fun bounds formed => ?_
        exact .node rfl (by simpa [inner] using formed) (.of_eq (by simp))
      · exact .pure formed (.of_eq (by simp [same]))

theorem angleArguments : Faithful (Parser.angleArguments g) [] (.treeWith IsAngleArguments) := by
  unfold Parser.angleArguments
  refine .skip (.operator? rfl) fun leading => .skip (.operator rfl) fun _ => ?_
  refine .trees (.separated (.operator rfl) sound.angleArgument) fun arguments formed => ?_
  refine .skip (.operator rfl) fun _ => ?_
  exact .pure ⟨formed_angleArguments _ formed, _, arguments, rfl⟩
    (.of_eq (by simp [marks_angleArguments]))

theorem returnType (plus : Bool) : Faithful (Parser.returnType g plus) [] .tree := by
  unfold Parser.returnType
  exact .skip (.operator? rfl) fun _ => .ite (sound.type plus) (.pure formed_absent (.of_eq (by simp)))

theorem parenthesizedArguments : Faithful (Parser.parenthesizedArguments g) [] .tree := by
  unfold Parser.parenthesizedArguments
  refine .trees (.parens (.commaSeparated (sound.type true))) fun inputs formed => ?_
  refine .tree (sound.returnType false) fun output inner => ?_
  exact .node rfl (by simpa [inner] using formed) (.of_eq (by simp))

theorem segment (inExpression : Bool) :
    Faithful (Parser.segment g inExpression) [] (.treeWith IsSegment) := by
  unfold Parser.segment
  have bare (word : String) : Faithful
      (pure (Tree.node .segment [.word word, .absent]) : Parser Tree) [] (.treeWith IsSegment) :=
    .pure ⟨formed_segment word formed_absent, word, .absent, rfl⟩ (.of_eq (by simp))
  refine .testAt (fun tokens found => (anyWord_at (atPlain_of_atOneOf found rfl)).skip bare) ?_
  refine fun tokens => .at? ?_
  extract_lets afterWord
  have rest (word : String) : Faithful (afterWord word) [] (.treeWith IsSegment) := by
    refine .test ?_ (bare word)
    refine .bind sound.angleArguments fun arguments ⟨formed, _⟩ => ?_
    exact .pure ⟨formed_segment word formed, word, arguments, rfl⟩ (.of_eq (by simp))
  exact .ite (fun found => (anyWord_at (atPlain_of_atWord found rfl)).skip rest)
    fun _ => Faithful.skip .name rest tokens

theorem furtherSegments (inExpression : Bool) :
    Faithful (Parser.furtherSegments g inExpression) [] (.each (.treeWith IsSegment)) :=
  .whileAt (.skip (.operator rfl) fun _ => sound.segment inExpression)

theorem path (inExpression : Bool) : Faithful (Parser.path g inExpression) [] (.treeWith IsPath) := by
  unfold Parser.path
  refine .skip (.operator? rfl) fun leading => ?_
  refine .bind (sound.segment inExpression) fun first fits => ?_
  refine .bind (sound.furtherSegments inExpression) fun rest further => ?_
  have all : ∀ segment ∈ first :: rest, segment.Formed ∧ IsSegment segment := by
    simpa using ⟨fits, further⟩
  exact .pure ⟨formed_path _ all, _, first :: rest, rfl, all⟩ (.of_eq (by simp))

theorem qualifiedPath (inExpression : Bool) :
    Faithful (Parser.qualifiedPath g inExpression) [] .tree := by
  unfold Parser.qualifiedPath
  refine .skip (.operator? rfl) fun _ => .ite ?_ (sound.path inExpression).plain
  refine .tree (sound.type true) fun self formed => ?_
  refine .skip (.keyword? rfl) fun _ => ?_
  refine .optional (sound.path false).plain fun trait inner => ?_
  refine .skip (.operator rfl) fun _ => .skip (.operator rfl) fun _ => ?_
  refine .bind (sound.segment inExpression) fun first fits => ?_
  refine .trees (.whileAt (.skip (.operator rfl) fun _ => (sound.segment inExpression).plain))
    fun rest further => ?_
  exact .node rfl (by simpa [formed, inner, fits.1] using further) (.of_eq (by simp))

/-- A path that begins with no type. -/
theorem qualifiedPath_at {tokens : Tokens} (inExpression : Bool)
    (unqualified : tokens.atOperator "<" = false) :
    FaithfulAt tokens (Parser.qualifiedPath g inExpression) [] (.treeWith IsPath) := by
  intro value rest run
  obtain ⟨bracketed, between, first, second⟩ := bind_eq_some.mp run
  have none : tokens.dropOperator? "<".toList = none := by
    simpa [Tokens.atOperator] using unqualified
  simp only [operator?, none, Option.some.injEq, Prod.mk.injEq] at first
  obtain ⟨rfl, rfl⟩ := first
  exact sound.path inExpression tokens value rest second

omit sound in
/-- A path whose segments have no arguments shows nothing. -/
theorem marks_of_isPlainPath {path : Tree} (fits : IsPath path) (plain : isPlainPath path = true) :
    path.marks = [] := by
  obtain ⟨leading, segments, rfl, fits⟩ := fits
  have none : ∀ segment ∈ segments, segment.marks = [] := by
    intro segment member
    obtain ⟨formed, word, arguments, rfl⟩ := fits segment member
    have absent := List.all_eq_true.mp plain _ member
    simpa using (formed.children rfl arguments (by simp)).marks_of_isAbsent absent
  simpa [← flatMap_marks] using none

omit sound in
theorem marks_of_lacksArguments {arguments : Tree} (formed : arguments.Formed)
    (lacks : lacksArguments arguments = true) : arguments.marks = [] := by
  unfold lacksArguments at lacks
  split at lacks
  · obtain ⟨-, ⟨leading, inner, same⟩, -⟩ := formed_node.mp formed
    obtain ⟨rfl, rfl⟩ : _ = Tree.word leading ∧ inner = [] := by simpa [Tree.list, eq_comm] using same
    exact marks_angleArguments _
  · exact formed.marks_of_isAbsent lacks

/-- The last segment loses no arguments. -/
theorem withParentheses {tree : Tree} (formed : tree.Formed) (path : IsPath tree) :
    Faithful (Parser.withParentheses g tree) tree.marks (.treeWith IsPath) := by
  have unchanged : Faithful (pure tree : Parser Tree) tree.marks (.treeWith IsPath) :=
    .pure ⟨formed, path⟩ (.refl _)
  obtain ⟨leading, segments, rfl, fits⟩ := path
  unfold Parser.withParentheses
  rcases segments.eq_nil_or_concat' with rfl | ⟨init, last, rfl⟩
  · exact unchanged
  obtain ⟨word, arguments, rfl⟩ := (fits last (by simp)).2
  have ends : (node .path (.word leading ::
      (init ++ [node .segment [.word word, arguments]]))).children.getLast? =
        some (node .segment [.word word, arguments]) := by
    rw [children, ← List.cons_append, List.getLast?_concat]
  rw [ends]
  refine .testAt (fun tokens found => ?_) unchanged
  have lacks : lacksArguments arguments = true := (Bool.and_eq_true_iff.mp found).1
  have last := (fits (node .segment [.word word, arguments]) (by simp)).1
  have none := marks_of_lacksArguments (last.children rfl arguments (by simp)) lacks
  have all : ∀ segment ∈ init, segment.Formed ∧ IsSegment segment := fun segment member =>
    fits segment (by simp [member])
  refine Faithful.skip (.operator? rfl) (fun _ => .tree sound.parenthesizedArguments fun more inner => ?_) tokens
  have replaced : ∀ segment ∈ init ++ [node .segment [.word word, more]],
      segment.Formed ∧ IsSegment segment := by
    simp only [List.mem_append, List.mem_singleton]
    rintro segment (member | rfl)
    · exact all segment member
    · exact ⟨formed_segment word inner, word, more, rfl⟩
  have dropped : (node .path (.word leading ::
      (init ++ [node .segment [.word word, arguments]]))).children.dropLast = .word leading :: init := by
    rw [children, ← List.cons_append, List.dropLast_concat]
  rw [dropped]
  exact .pure ⟨formed_path leading replaced, leading, _, rfl, replaced⟩ (.of_eq (by simp [none, kind?]))

theorem boundPath :
    Faithful (Parser.path g false >>= Parser.withParentheses g) [] (.treeWith IsPath) :=
  (sound.path false).bind fun _ fits => sound.withParentheses fits.1 fits.2

end Scaffold.Rust.Grammar.Sound
