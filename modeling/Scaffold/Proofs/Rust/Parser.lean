import Scaffold.Proofs.Rust.Parser.Item
import Scaffold.Proofs.Rust.Parser.Statement

/-!
The tree of a source file is well formed, and its marks may be listed for the tokens of the file.
Each level of the grammar gives a true account if the one below it does.
-/

namespace Scaffold.Rust

namespace Grammar

theorem sound_empty : Grammar.empty.Sound where
  type _ := .fail
  bound _ _ := .fail
  pattern := .fail
  expression _ := .fail
  statementExpression := .fail
  operand _ := .fail
  climb _ _ _ _ _ := .fail
  statements := .fail
  item := .fail
  useTree _ := .fail

theorem Sound.next {g : Grammar} (sound : g.Sound) : g.next.Sound where
  type := sound.type_next
  bound := sound.bound_next
  pattern := sound.pattern_next
  expression := sound.expression_next
  statementExpression := sound.statementExpression_next
  operand := sound.operand_next
  climb := sound.climb_next
  statements := sound.statements_next
  item := sound.item_next
  useTree := sound.useTree_next

theorem sound_level (depth : Nat) : (level depth).Sound := by
  induction depth with
  | zero => exact sound_empty
  | succ depth ih => exact ih.next

end Grammar

namespace SourceFile

/-- The tokens of a source file. -/
def tokens? (source : String) : Option Tokens :=
  Lexer.tokenize ((content source).drop (interpreter (content source)).length)

/-- What is parsed is well formed and was read from the tokens. -/
theorem parse_spec {source : String} {tree : Tree} (parsed : parse source = some tree) :
    ∃ tokens, tokens? source = some tokens ∧ tree.Formed ∧ Reads tokens tree.marks := by
  obtain ⟨tokens, lexed, run⟩ := Option.bind_eq_some_iff.mp parsed
  obtain ⟨formed, reads⟩ := (Grammar.sound_level (depthOf tokens)).file.within run
  exact ⟨tokens, lexed, formed, reads⟩

end SourceFile

end Scaffold.Rust
