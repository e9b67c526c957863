import Scaffold.Proofs.Rust.Parser.Operator
import Scaffold.Proofs.Rust.Parser.Pattern

/-! Expressions give a true account. -/

namespace Scaffold.Rust

namespace Parser.Faithful

open Tree

variable {before : List Mark} {kind : Kind} {own rest : List Tree}

/-- An expression after its attributes. -/
theorem expressionWith (plain : isPlain kind = true) (lines : ∀ tree ∈ own, tree.Formed)
    (formed : ∀ child ∈ rest, child.Formed) (step : Becomes before (marksAll own ++ marksAll rest)) :
    Faithful (Pure.pure (Tree.node kind (.list own :: rest))) before .attributed :=
  .only (.node plain (by simpa using ⟨lines, formed⟩) (by simpa using step)) trivial

theorem expression (plain : isPlain kind = true) (formed : ∀ child ∈ rest, child.Formed)
    (step : Becomes before (marksAll rest)) :
    Faithful (Pure.pure (Tree.node kind (noAttributes :: rest))) before .attributed :=
  .expressionWith plain nofun formed (by simpa using step)

end Parser.Faithful

namespace Grammar.Sound

open Scaffold.Rust.Parser Tree

variable {g : Grammar} (sound : g.Sound)
include sound

/-! ### Loops, conditions and blocks -/

theorem blockExpression (label : String) :
    Faithful (Parser.blockExpression g (.word label)) [] .attributed := by
  unfold Parser.blockExpression
  refine .afterAttributes sound.attributedBlock fun attributes block lines _ formed => ?_
  simp only [Account.tree_holds] at formed
  exact .expressionWith rfl lines (by simpa using formed) (.of_eq (by simp))

theorem loopExpression (label : String) :
    Faithful (Parser.loopExpression g (.word label)) [] .attributed := by
  unfold Parser.loopExpression
  refine .skip (.keyword rfl) fun _ => .afterAttributes sound.attributedBlock
    fun attributes block lines _ formed => ?_
  simp only [Account.tree_holds] at formed
  exact .expressionWith rfl lines (by simpa using formed) (.of_eq (by simp))

theorem whileExpression (label : String) :
    Faithful (Parser.whileExpression g (.word label)) [] .attributed := by
  unfold Parser.whileExpression
  refine .skip (.keyword rfl) fun _ => .tree (sound.expression false) fun condition first => ?_
  refine .afterAttributes sound.attributedBlock fun attributes block lines aside second => ?_
  simp only [Account.tree_holds] at second
  exact .expressionWith rfl lines (by simp [first, second]) (by simpa using .pass aside _ _)

theorem forExpression (label : String) :
    Faithful (Parser.forExpression g (.word label)) [] .attributed := by
  unfold Parser.forExpression
  refine .skip (.keyword rfl) fun _ => .tree sound.alternatives fun pattern first => ?_
  refine .skip (.keyword rfl) fun _ => .tree (sound.expression false) fun source second => ?_
  refine .afterAttributes sound.attributedBlock fun attributes block lines aside third => ?_
  simp only [Account.tree_holds] at third
  refine .expressionWith rfl lines (by simp [first, second, third]) ?_
  simpa using Becomes.pass aside (pattern.marks ++ source.marks) block.marks

theorem labeledExpression : Faithful (Parser.labeledExpression g) [] .attributed := by
  have label : Faithful Parser.label? [] (.treeWith fun tree => ∃ text, tree = .word text) := by
    unfold Parser.label?
    refine .test (.bare .lifetime fun name _ _ => .skip (.operator rfl) fun _ => ?_) ?_
    all_goals exact .pure ⟨formed_word _, _, rfl⟩ (.of_eq (by simp))
  unfold Parser.labeledExpression
  refine .bind label ?_
  rintro _ ⟨-, text, rfl⟩
  simp only [Account.treeWith_marks, marks_word, List.append_nil]
  refine .test (sound.whileExpression text) (.test (sound.forExpression text) ?_)
  exact .test (sound.loopExpression text) (sound.blockExpression text)

theorem ifExpression : Faithful (Parser.ifExpression g) [] .attributed := by
  have fueled (fuel : Nat) : Faithful (Parser.ifExpression.go g fuel) [] .attributed := by
    induction fuel with
    | zero => exact .fail
    | succ fuel ih =>
      unfold Parser.ifExpression.go
      refine .skip (.keyword rfl) fun _ => .tree (sound.expression false) fun condition first => ?_
      refine .tree sound.block fun block second => .skip (.keyword? rfl) fun _ => ?_
      extract_lets last
      have ends (otherwise : Tree) (third : otherwise.Formed) : Faithful (last otherwise)
          ([] ++ condition.marks ++ block.marks ++ otherwise.marks) .attributed :=
        .expression rfl (by simp [first, second, third]) (.of_eq (by simp))
      refine .ite (.test (.tree ih.plain ends) (.tree sound.block fun otherwise third => ?_)) ?_
      · have inner : Formed (.node .blockExpr [noAttributes, .word "", otherwise]) :=
          formed_of_isPlain rfl (by simp [noAttributes, third])
        refine .expression rfl (by simp [first, second, inner]) (.of_eq ?_)
        simp (disch := decide) [marks_of_isPlain, noAttributes]
      · exact .tree (.pure formed_absent (.of_eq (by simp))) ends
  exact .of_fuel fueled fun _ => rfl

theorem matchArm : Faithful (Parser.matchArm g) [] .tree := by
  unfold Parser.matchArm
  refine .attributes sound.outerAttributes fun attributes lines _ => ?_
  refine .tree sound.alternatives fun pattern first => .skip (.keyword? rfl) fun _ => ?_
  refine .optional (sound.expression true) fun condition second => .skip (.operator rfl) fun _ => ?_
  refine .tree sound.statementExpression.plain fun body third => .at? fun _ => ?_
  extract_lets last
  have ends (step : Unit) : Faithful (last step) ([] ++ marksAll attributes ++ pattern.marks ++
      condition.marks ++ body.marks) .tree :=
    .node rfl (by simpa [first, second, third] using lines) (.of_eq (by simp))
  exact .ite (.skip (.operator rfl) ends) (.skip (.operator? rfl) fun _ => ends ())

theorem matchExpression : Faithful (Parser.matchExpression g) [] .attributed := by
  unfold Parser.matchExpression
  refine .skip (.keyword rfl) fun _ => .tree (sound.expression false) fun subject first => ?_
  have arms : Faithful (do
      let attributes ← Parser.innerAttributes g
      return (attributes, ← untilEnd (Parser.matchArm g))) [] (.both .attributes (.each .tree)) :=
    sound.innerAttributes.bind fun attributes fits => sound.matchArm.untilEnd.bind fun arms holds =>
      .pure ⟨fits, holds⟩ (.of_eq (by simp))
  refine .afterAttributes arms.braces fun attributes arms lines aside second => ?_
  simp only [Account.each_holds, Account.tree_holds] at second
  refine .expressionWith rfl lines (by simpa [first] using second) (by simpa using .pass aside _ _)

theorem keywordBlock {word : String} {kind : Kind} (plain : isPlainWord word = true)
    (simple : isPlain kind = true) :
    Faithful (Parser.keywordBlock g word kind) [] .attributed := by
  unfold Parser.keywordBlock
  refine .skip (.keyword plain) fun _ => .afterAttributes sound.attributedBlock
    fun attributes block lines _ formed => ?_
  simp only [Account.tree_holds] at formed
  exact .expressionWith simple lines (by simpa using formed) (.of_eq (by simp))

theorem asyncExpression : Faithful (Parser.asyncExpression g) [] .attributed := by
  unfold Parser.asyncExpression
  refine .skip (.keyword rfl) fun _ => .flag rfl fun capture => .tree sound.block fun block formed => ?_
  exact .expression rfl (by simpa using formed) (.of_eq (by simp))

theorem tryBlock : Faithful (Parser.tryBlock g) [] .attributed := by
  unfold Parser.tryBlock
  refine .skip (.keyword rfl) fun _ => .tree sound.block fun block formed => ?_
  exact .expression rfl (by simpa using formed) (.of_eq (by simp))

/-! ### Closures and literals -/

theorem closureParameter : Faithful (Parser.closureParameter g) [] .tree := by
  unfold Parser.closureParameter
  refine .attributes sound.outerAttributes fun attributes lines _ => ?_
  refine .tree sound.pattern fun pattern first => .skip (.operator? rfl) fun _ => .ite ?_ ?_
  · refine .tree (sound.type true) fun type second => ?_
    exact .node rfl (by simpa [first, second] using lines) (.of_eq (by simp))
  · exact .node rfl (by simpa [first] using lines) (.of_eq (by simp))

theorem closure (struct : Bool) : Faithful (Parser.closure g struct) [] .attributed := by
  unfold Parser.closure
  refine .tree sound.boundLifetimes fun lifetimes first => .flag rfl fun constness => ?_
  refine .flag rfl fun movability => .flag rfl fun asyncness => .flag rfl fun capture => .skip (.operator rfl) fun _ => ?_
  refine .trees (.separated (.operator rfl) sound.closureParameter) fun parameters second => ?_
  refine .skip (.operator rfl) fun _ => .skip (.operator? rfl) fun _ => ?_
  extract_lets last
  have ends {output body : Tree} (third : output.Formed) (fourth : body.Formed) :
      Faithful (last (output, body))
        (lifetimes.marks ++ (marksAll parameters ++ (output.marks ++ body.marks))) .attributed :=
    .expression rfl (by simpa [first, third, fourth] using second) (.of_eq (by simp))
  refine .ite (.tree (sound.type true) fun output third => .tree sound.block fun block fourth => ?_)
    (.tree (sound.expression struct) fun body third => ?_)
  · have inner : Formed (.node .blockExpr [noAttributes, .word "", block]) :=
      formed_of_isPlain rfl (by simp [noAttributes, fourth])
    refine .becomes (.of_eq ?_) (ends third inner)
    simp (disch := decide) [marks_of_isPlain, noAttributes]
  · exact .becomes (.of_eq (by simp)) (ends formed_absent third)

theorem fieldValue : Faithful (Parser.fieldValue g) [] .tree := by
  unfold Parser.fieldValue
  refine .attributes sound.outerAttributes fun attributes lines _ => ?_
  refine .bind member_faithful fun (field, named) _ => .test (.skip (.operator rfl) fun _ => ?_) ?_
  · refine .tree (sound.expression true) fun value formed => ?_
    exact .node rfl (by simpa [formed] using lines) (.of_eq (by simp))
  · exact .node rfl (by simpa using lines) (.of_eq (by simp))

theorem fieldValues : Faithful (Parser.fieldValues g) [] (.both (.each .tree) (.both .silent .tree)) := by
  have fueled (fuel : Nat) :
      Faithful (Parser.fieldValues.go g fuel) [] (.both (.each .tree) (.both .silent .tree)) := by
    induction fuel with
    | zero => exact .fail
    | succ fuel ih =>
      unfold Parser.fieldValues.go
      refine .test (.pure (by simp) (.of_eq (by simp))) (.skip (.operator? rfl) fun _ => .ite ?_ ?_)
      · refine .test (.pure (by simp) (.of_eq (by simp))) ?_
        refine .tree (sound.expression true) fun base formed => ?_
        exact .pure (by simpa using formed) (.of_eq (by simp))
      · refine .tree sound.fieldValue fun field formed => ?_
        refine .test (.pure (by simpa using formed) (.of_eq (by simp))) (.skip (.operator rfl) fun _ => ?_)
        exact .bind ih fun (rest, base) fits => .pure (by simpa [formed] using fits) (.of_eq (by simp))
  exact .of_fuel fueled fun _ => rfl

theorem pathExpression (struct : Bool) : Faithful (Parser.pathExpression g struct) [] .attributed := by
  unfold Parser.pathExpression
  refine .tree (sound.qualifiedPath true) fun path first => .test ?_ (.test ?_ ?_)
  · refine .thread (.becomes (.of_eq (by simp)) (invocation_faithful first)) fun call ⟨second, _⟩ => ?_
    exact .expression rfl (by simp [second]) (.of_eq (by simp))
  · refine .bind sound.fieldValues.braces fun (fields, further, base) ⟨second, _, third⟩ => ?_
    simp only [Account.each_holds, Account.tree_holds] at second third
    exact .expression rfl (by simpa [first, third] using second) (.of_eq (by simp))
  · exact .expression rfl (by simpa using first) (.of_eq (by simp))

theorem tupleOrParentheses : Faithful (Parser.tupleOrParentheses g) [] .attributed := by
  unfold Parser.tupleOrParentheses
  refine .bind (elements (sound.expression true)).parens fun (values, comma) ⟨fits, _⟩ => ?_
  simp only [Account.each_holds, Account.tree_holds] at fits
  split
  · next single same =>
    obtain ⟨rfl, -⟩ := Prod.mk.inj same
    exact .expression rfl (by simpa using fits) (.of_eq (by simp))
  · next same =>
    obtain ⟨rfl, -⟩ := Prod.mk.inj same
    exact .expression rfl (by simpa using fits) (.of_eq (by simp))

theorem arrayOrRepeat : Faithful (Parser.arrayOrRepeat g) [] .attributed := by
  refine .brackets (.test (.expression rfl (by simp) (.of_eq (by simp))) ?_)
  refine .tree (sound.expression true) fun first formed => .skip (.operator? rfl) fun _ => .ite ?_ (.test ?_ ?_)
  · refine .tree (sound.expression true) fun count inner => ?_
    exact .expression rfl (by simp [formed, inner]) (.of_eq (by simp))
  · exact .expression rfl (by simp [formed]) (.of_eq (by simp))
  · refine .skip (.operator rfl) fun _ => .trees (.commaSeparated (sound.expression true)) fun rest fits => ?_
    exact .expression rfl (by simpa [formed] using fits) (.of_eq (by simp))

/-! ### Jumps -/

/-- An operand with all that binds at least as strongly as a given operator. -/
theorem operandClimb (struct : Bool) (base : Precedence) :
    Faithful (g.operand struct >>= fun left => g.climb struct base left) [] .attributed :=
  .thread (sound.operand struct) fun _ ⟨formed, takes⟩ => sound.climb struct base formed takes

theorem letExpression (struct : Bool) : Faithful (Parser.letExpression g struct) [] .attributed := by
  unfold Parser.letExpression
  refine .skip (.keyword rfl) fun _ => .tree sound.alternatives fun pattern first => .skip (.operator rfl) fun _ => ?_
  rw [← bind_assoc]
  refine .tree (sound.operandClimb struct .comparison).plain fun value second => ?_
  exact .expression rfl (by simp [first, second]) (.of_eq (by simp))

theorem breakExpression (struct : Bool) : Faithful (Parser.breakExpression g struct) [] .attributed := by
  unfold Parser.breakExpression
  refine .skip (.keyword rfl) fun _ => .at? fun _ => .guard fun _ => .bare .lifetime? fun label _ _ => ?_
  refine .at? fun _ => .optional (sound.expression true) fun value formed => ?_
  exact .expression rfl (by simpa using formed) (.of_eq (by simp))

omit sound in
theorem continueExpression : Faithful Parser.continueExpression [] .attributed := by
  unfold Parser.continueExpression
  refine .skip (.keyword rfl) fun _ => .bare .lifetime? fun label _ _ => ?_
  exact .expression rfl (by simp) (.of_eq (by simp))

theorem returnExpression : Faithful (Parser.returnExpression g) [] .attributed := by
  unfold Parser.returnExpression
  refine .skip (.keyword rfl) fun _ => .at? fun _ => .optional (sound.expression true) fun value formed => ?_
  exact .expression rfl (by simpa using formed) (.of_eq (by simp))

theorem yieldExpression : Faithful (Parser.yieldExpression g) [] .attributed := by
  unfold Parser.yieldExpression
  refine .skip (.keyword rfl) fun _ => .at? fun ends => .choose (.pure formed_absent (.of_eq (by simp)))
    (sound.expression true) fun value (formed : value.Formed) => ?_
  exact .expression rfl (by simpa using formed) (.of_eq (by simp))

omit sound in
theorem builtin {before : List Mark} : Faithful Parser.builtin before .attributed := by
  unfold Parser.builtin
  refine .skip (.keyword rfl) fun _ => .skip (.operator rfl) fun _ => .skip .name fun _ => ?_
  exact .bind .anyGroupOf fun _ _ => .only .keep trivial

/-! ### Operands -/

theorem atom (struct : Bool) : Faithful (Parser.atom g struct) [] .attributed := by
  unfold Parser.atom
  refine .test (.bare .literal fun literal formed bare => ?_) ?_
  · exact .expression rfl (by simpa using formed) (.of_eq (by simp [bare]))
  refine .test sound.asyncExpression (.test sound.tryBlock (.test (sound.closure struct) ?_))
  refine .test builtin (.test (sound.pathExpression struct) (.test sound.tupleOrParentheses ?_))
  refine .test (sound.breakExpression struct) (.test continueExpression ?_)
  refine .test sound.returnExpression (.skip (.keyword? rfl) fun _ => .ite ?_ ?_)
  · exact .thread (sound.expression true).discard fun _ _ => .only .keep trivial
  refine .test sound.arrayOrRepeat (.test (sound.letExpression struct) (.test sound.ifExpression ?_))
  refine .test (sound.whileExpression "") (.test (sound.forExpression "") ?_)
  refine .test (sound.loopExpression "") (.test sound.matchExpression (.test sound.yieldExpression ?_))
  refine .test (sound.keywordBlock rfl rfl) (.test (sound.keywordBlock rfl rfl) (.test (sound.blockExpression "") ?_))
  refine .test ?_ (.skip (.keyword? rfl) fun _ => .ite (.expression rfl (by simp) (.of_eq (by simp))) ?_)
  · simpa using sound.rangeFrom struct formed_absent
  · exact .test sound.labeledExpression .fail

theorem expression_next (struct : Bool) : Faithful (Parser.expression g struct) [] .tree :=
  (sound.operandClimb struct .lowest).plain

/-! ### Endings -/

omit sound in
theorem fieldOf_fits {base : Tree} (formed : base.Formed) (field : String) :
    (fieldOf base field).Formed ∧ (fieldOf base field).TakesAttributes ∧
      (fieldOf base field).marks = base.marks :=
  ⟨formed_of_isPlain rfl (by simp [noAttributes, formed]), trivial, by
    simp (disch := decide) [fieldOf, marks_of_isPlain, noAttributes]⟩

omit sound in
theorem nestedFields_fits {base : Tree} (formed : base.Formed) (takes : base.TakesAttributes)
    (positions : List String) : (positions.foldl fieldOf base).Formed ∧
      (positions.foldl fieldOf base).TakesAttributes ∧
      (positions.foldl fieldOf base).marks = base.marks := by
  induction positions generalizing base with
  | nil => exact ⟨formed, takes, rfl⟩
  | cons position rest ih =>
    obtain ⟨inner, more, same⟩ := fieldOf_fits formed position
    simpa [same] using ih inner more

theorem afterPoint {base : Tree} (formed : base.Formed) :
    Faithful (Parser.afterPoint g base) base.marks .attributed := by
  unfold Parser.afterPoint
  refine .skip (.keyword? rfl) fun _ => .ite (.expression rfl (by simpa using formed) (.of_eq (by simp))) ?_
  refine .bind member_faithful fun (field, named) _ => .at? fun _ => ?_
  extract_lets afterArguments
  have rest {turbofish : Tree} (inner : turbofish.Formed) :
      Faithful (afterArguments turbofish) (base.marks ++ turbofish.marks) .attributed := by
    refine fun tokens => .at? (.ite (fun _ => ?_) fun plain => ?_)
    · refine Faithful.trees (.parens (.commaSeparated (sound.expression true))) (fun arguments fits => ?_)
        tokens
      exact .expression rfl (by simpa [formed, inner] using fits) (.of_eq (by simp))
    · have absent : turbofish.isAbsent = true := by simp_all
      obtain ⟨whole, takes, same⟩ := fieldOf_fits formed field
      exact .pure ⟨whole, takes⟩ (.of_eq (by simp [same, inner.marks_of_isAbsent absent]))
  refine .ite (.skip (.operator rfl) fun _ => .at? fun _ => .guard fun _ => ?_) ?_
  · refine .bind sound.angleArguments ?_
    rintro _ ⟨whole, leading, arguments, rfl⟩
    have inner : Formed (.node .angleArguments [.word "::", .list arguments]) :=
      formed_angleArguments "::" (formed_list.mp (whole.children rfl (.list arguments) (by simp)))
    rw [pure_bind]
    refine .becomes (.of_eq ?_) (rest inner)
    simp [marks_angleArguments, children]
  · rw [pure_bind]
    simpa using rest formed_absent

theorem ending {base : Tree} (formed : base.Formed) (takes : base.TakesAttributes) :
    Faithful (Parser.ending g base) base.marks (.step base) := by
  have stay : Faithful (pure none) base.marks (.step base) := .pure ⟨formed, takes⟩ (.refl _)
  have longer {p : Parser Tree} (h : Faithful p base.marks .attributed) :
      Faithful (some <$> p) base.marks (.step base) := by
    rw [map_eq_pure_bind]
    exact .thread h fun more fits => .pure fits (.refl _)
  have ended {kind : Kind} {rest : List Tree} {before : List Mark} (plain : isPlain kind = true)
      (inner : ∀ tree ∈ rest, tree.Formed) (same : before = marksAll rest) :
      Faithful (pure (some (Tree.node kind (noAttributes :: rest)))) before (.step base) := by
    have whole : Formed (.node kind (noAttributes :: rest)) :=
      formed_of_isPlain plain (by simpa [noAttributes] using inner)
    refine .pure ⟨whole, trivial⟩ (.of_eq ?_)
    simp [Account.step, marks_of_isPlain plain, noAttributes, same]
  unfold Parser.ending
  refine .test ?_ (.test (.skip (.operator rfl) fun _ => .test ?_ ?_) (.test ?_ (.test ?_ stay)))
  · refine .trees (.parens (.commaSeparated (sound.expression true))) fun arguments fits => ?_
    exact ended rfl (by simpa [formed] using fits) (by simp)
  · refine .bare .literal fun fraction _ _ => ?_
    split
    · exact .fail
    · next positions pointed _ =>
      obtain ⟨inner, more, same⟩ := nestedFields_fits formed takes positions
      refine .ite (longer ?_) (.pure ⟨inner, more⟩ (.of_eq (by simp [Account.step, same])))
      simpa [same] using sound.afterPoint inner
  · exact longer (sound.afterPoint formed)
  · refine .tree (.brackets (sound.expression true)) fun index inner => ?_
    exact ended rfl (by simp [formed, inner]) (by simp)
  · exact .skip (.operator rfl) fun _ => ended rfl (by simp [formed]) (by simp)

theorem endings {base : Tree} (formed : base.Formed) (takes : base.TakesAttributes) :
    Faithful (Parser.endings g base) base.marks .attributed := by
  have fueled (fuel : Nat) {base : Tree} (formed : base.Formed) (takes : base.TakesAttributes) :
      Faithful (Parser.endings.go g fuel base) base.marks .attributed := by
    induction fuel generalizing base with
    | zero => exact .fail
    | succ fuel ih =>
      unfold Parser.endings.go
      refine .thread (sound.ending formed takes) fun next fits => ?_
      cases next with
      | none => exact .pure ⟨formed, takes⟩ (.refl _)
      | some more => exact ih fits.1 fits.2
  exact .of_fuel (fueled · formed takes) fun _ => rfl

theorem operand_next (struct : Bool) : Faithful (Parser.operand g struct) [] .attributed := by
  unfold Parser.operand
  refine .attributes sound.outerAttributes fun attributes lines aside => ?_
  have sign : Faithful Parser.operand.unarySign [] .silent := by
    unfold Parser.operand.unarySign
    refine .skip (.operator? rfl) fun _ => .ite .value (.skip (.operator? rfl) fun _ => .ite .value ?_)
    exact .skip (.operator rfl) fun _ => .value
  have value : Faithful (Parser.endings g =<< Parser.atom g struct) [] .attributed :=
    .thread (sound.atom struct) fun base ⟨formed, takes⟩ => sound.endings formed takes
  refine .skip (.operator? rfl) fun _ => .ite (.testAt (fun tokens found => ?_) ?_) (.test ?_ ?_)
  · refine .keyword rfl fun rest same => ?_
    have access : AtPlain rest := by
      rw [same] at found
      exact atPlain_of_atOneOf (Bool.and_eq_true_iff.mp found).2 rfl
    refine (anyWord_at access).skip fun word => .tree (sound.operand struct).plain fun value formed => ?_
    exact .expressionWith rfl lines (by simpa using formed) (.of_eq (by simp))
  · refine .flag rfl fun mutable => .tree (sound.operand struct).plain fun value formed => ?_
    exact .expressionWith rfl lines (by simpa using formed) (.of_eq (by simp))
  · refine .skip sign fun text => .tree (sound.operand struct).plain fun value formed => ?_
    exact .expressionWith rfl lines (by simpa using formed) (.of_eq (by simp))
  · refine .bind value fun tree ⟨formed, takes⟩ => .guard fun _ => ?_
    obtain ⟨whole, more, step⟩ := addAttributes_fits lines aside formed takes
    exact .pure ⟨whole, more⟩ step

theorem statementExpression_next : Faithful (Parser.statementExpression g) [] .attributed := by
  unfold Parser.statementExpression
  refine .attributes sound.outerAttributes fun attributes lines aside => ?_
  refine .at? fun _ => .at? fun _ => .at? fun _ => .at? fun _ => .at? fun _ => .at? fun _ => .at? fun _ =>
    .at? fun _ => .at? fun _ => .at? fun _ => ?_
  extract_lets afterFirst
  have added {tree : Tree} (formed : tree.Formed) (takes : tree.TakesAttributes) :
      Faithful (g.climb true .lowest (tree.addAttributes attributes)) (marksAll attributes ++ tree.marks)
        .attributed := by
    obtain ⟨whole, more, step⟩ := addAttributes_fits lines aside formed takes
    exact .becomes step (sound.climb true .lowest whole more)
  have rest {p : Parser Tree} (h : Faithful p [] .attributed) :
      Faithful (p >>= afterFirst) ([] ++ marksAll attributes) .attributed := by
    intro tokens value rest run
    obtain ⟨first, between, start, further⟩ := bind_eq_some.mp run
    dsimp only [afterFirst] at further
    split at further
    · refine Faithful.bind h (fun tree ⟨formed, takes⟩ => added formed takes) tokens value rest ?_
      exact bind_eq_some.mpr ⟨first, between, start, further⟩
    obtain ⟨_, _, ⟨⟩, further⟩ := bind_eq_some.mp further
    split at further
    · obtain ⟨longer, after, more, last⟩ := bind_eq_some.mp further
      have both : Faithful (p >>= Parser.endings g) [] .attributed :=
        .thread h fun base ⟨formed, takes⟩ => sound.endings formed takes
      refine Faithful.bind both (fun tree ⟨formed, takes⟩ => added formed takes) tokens value rest ?_
      exact bind_eq_some.mpr ⟨longer, after, bind_eq_some.mpr ⟨first, between, start, more⟩, last⟩
    · have alone : Faithful (p >>= fun tree => pure (tree.addAttributes attributes))
          (marksAll attributes) .attributed := .bind h fun tree ⟨formed, takes⟩ => by
        obtain ⟨whole, more, step⟩ := addAttributes_fits lines aside formed takes
        exact .pure ⟨whole, more⟩ step
      exact alone tokens value rest (bind_eq_some.mpr ⟨first, between, start, further⟩)
  refine .ite (rest sound.ifExpression) (.ite (rest (sound.whileExpression "")) ?_)
  refine .ite (rest (sound.forExpression "")) (.ite (rest (sound.loopExpression "")) ?_)
  refine .ite (rest sound.matchExpression) (.ite (rest sound.tryBlock) ?_)
  refine .ite (rest (sound.keywordBlock rfl rfl)) (.ite (rest (sound.keywordBlock rfl rfl)) ?_)
  refine .ite (rest (sound.blockExpression "")) (.ite (rest sound.labeledExpression) ?_)
  exact rest (sound.operand true)

end Grammar.Sound

end Scaffold.Rust
