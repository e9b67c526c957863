import Scaffold.Proofs.Rust.Parser.Expression

/-! Statements give a true account: their attributes are put on what they are attributes of. -/

namespace Scaffold.Rust

namespace Parser

open Tree

/-- How a statement goes on is read ahead. -/
theorem invocationForm_faithful : Faithful invocationForm [] .silent := by
  intro tokens value rest run
  obtain rfl : tokens = rest := by
    unfold invocationForm at run
    split at run
    · split at run
      · extract_lets second third at run
        split at run
        · cases run; rfl
        · split at run <;> (cases run; rfl)
      · cases run; rfl
    · cases run; rfl
  exact ⟨trivial, [], rfl, fun earlier h => by simpa using h⟩

theorem emptyStatement_faithful : Faithful emptyStatement [] .tree :=
  .skip (.operator rfl) fun _ => .node rfl (by simp) (.of_eq (by simp))

end Parser

namespace Grammar.Sound

open Scaffold.Rust.Parser Tree

variable {g : Grammar} (sound : g.Sound) {attributes : List Tree}
  (formed : ∀ tree ∈ attributes, tree.Formed) (aside : AllAside (marksAll attributes))

section
include sound formed

theorem localStatement : Faithful (Parser.localStatement g attributes) (marksAll attributes) .tree := by
  unfold Parser.localStatement
  refine .skip (.keyword rfl) fun _ => .tree sound.pattern fun pattern first => ?_
  refine .skip (.operator? rfl) fun _ => ?_
  extract_lets afterType
  have rest {typed : Tree} (second : typed.Formed) :
      Faithful (afterType typed) (marksAll attributes ++ typed.marks) .tree := by
    refine .skip (.operator? rfl) fun _ => ?_
    extract_lets afterValue
    have last {value otherwise : Tree} (third : value.Formed) (fourth : otherwise.Formed) :
        Faithful (afterValue (value, otherwise))
          (marksAll attributes ++ typed.marks ++ (value.marks ++ otherwise.marks)) .tree := by
      refine .skip (.operator rfl) fun _ => .node rfl ?_ (.of_eq (by simp))
      simpa [second, third, fourth] using formed
    refine .ite (.tree (sound.expression true) fun value third => .test ?_ ?_) ?_
    · refine .skip (.keyword rfl) fun _ => .tree sound.block fun otherwise fourth => ?_
      exact .becomes (.of_eq (by simp)) (last third fourth)
    · exact .becomes (.of_eq (by simp)) (last third formed_absent)
    · exact .becomes (.of_eq (by simp)) (last formed_absent formed_absent)
  refine .ite (.tree (sound.type true) fun type second => ?_) (.becomes (.of_eq (by simp)) (rest first))
  have typed : Formed (.node .typedPattern [noAttributes, pattern, type]) :=
    formed_of_isPlain rfl (by simp [noAttributes, first, second])
  refine .becomes (.of_eq ?_) (rest typed)
  simp (disch := decide) [marks_of_isPlain, noAttributes]

end

section
include sound formed aside

theorem expressionStatement :
    Faithful (Parser.expressionStatement g attributes) (marksAll attributes) .tree := by
  unfold Parser.expressionStatement
  refine .bind sound.statementExpression fun value ⟨whole, takes⟩ => ?_
  obtain ⟨inner, _, step⟩ := addLeftmost_fits formed aside whole takes
  refine .becomes step (.skip (.operator? rfl) fun semicolon => ?_)
  split
  · next own call same =>
    rw [same] at inner ⊢
    have parts := (formed_iff_of_isPlain rfl).mp inner
    refine .ite (.node rfl (by simpa using parts) (.of_eq ?_)) (.node rfl (by simpa using inner) (.of_eq ?_))
    · simp (disch := decide) [marks_of_isPlain]
    · simp
  · exact .node rfl (by simpa using inner) (.of_eq (by simp))

theorem itemStatement :
    Faithful (Parser.statement.itemStatement g attributes) (marksAll attributes) .tree := by
  unfold Parser.statement.itemStatement
  refine .bind sound.item fun item ⟨whole, takes⟩ => ?_
  obtain ⟨inner, _, step⟩ := addAttributes_fits formed aside whole takes
  exact .node rfl (by simpa using inner) (by simpa using step)

end

section
include sound

theorem statement : Faithful (Parser.statement g) [] .tree := by
  unfold Parser.statement
  refine .attributes sound.outerAttributes fun attributes formed aside => ?_
  refine .skip invocationForm_faithful fun form => ?_
  cases form with
  | item => exact sound.itemStatement formed aside
  | statement =>
    refine .bare .plainPath fun path first bare => ?_
    have call := invocation_faithful first
    rw [bare] at call
    refine .bind call fun call ⟨second, _⟩ => .skip (.operator? rfl) fun _ => ?_
    exact .node rfl (by simpa [second] using formed) (.of_eq (by simp))
  | expression =>
    refine .test (sound.localStatement formed) (.test (sound.itemStatement formed aside) ?_)
    exact sound.expressionStatement formed aside

theorem statements_next : Faithful (Parser.statements g) [] (.each .tree) := by
  have fueled (fuel : Nat) : Faithful (Parser.statements.go g fuel) [] (.each .tree) := by
    induction fuel with
    | zero => exact .fail
    | succ fuel ih =>
      unfold Parser.statements.go
      refine .test (.pure (by simp) (.of_eq (by simp))) (.at? fun _ => ?_)
      refine .choose emptyStatement_faithful sound.statement fun first (formed : first.Formed) => ?_
      refine .test (.pure (by simpa using formed) (.of_eq (by simp))) (.guard fun _ => ?_)
      exact ih.cons_of formed
  exact .of_fuel fueled fun _ => rfl

end

end Grammar.Sound

end Scaffold.Rust
