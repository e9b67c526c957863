import Scaffold.Proofs.Rust.Parser.Attribute

/-! Attributes that are put on an expression afterwards, and operators after an operand. -/

namespace Scaffold.Rust

theorem AllAside.map_setAside {marks : List Mark} (aside : AllAside marks) :
    marks.map Mark.setAside = marks := by
  refine (List.map_congr_left fun mark member => ?_).trans (List.map_id marks)
  have loose := List.filter_eq_nil_iff.mp aside mark member
  cases mark with
  | declared kind name aside => simp_all [Mark.isFixed, Mark.setAside]
  | kept => rfl

namespace Tree

/-! ### Attributes that are added -/

theorem takesAttributes_iff {tree : Tree} : tree.TakesAttributes ↔
    (∃ body, tree = .tokens body) ∨ ∃ kind own rest, tree = .node kind (.list own :: rest) := by
  constructor
  · intro takes
    unfold TakesAttributes at takes
    split at takes
    · exact .inr ⟨_, _, _, rfl⟩
    · exact .inl ⟨_, rfl⟩
    · cases takes
  · rintro (⟨body, rfl⟩ | ⟨kind, own, rest, rfl⟩) <;> trivial

/-- What others rely on does not depend on the attributes. -/
theorem PartsFit.moreAttributes {kind : Kind} {own rest : List Tree}
    (fits : PartsFit kind (.list own :: rest)) (more : List Tree) :
    PartsFit kind (.list more :: rest) := by
  cases kind with
  | absent => cases fits
  | path => obtain ⟨_, _, ⟨⟩, _⟩ := fits
  | angleArguments | traitBound =>
    obtain ⟨_, _, same⟩ := fits
    cases same
  | assignExpr | binaryExpr | castExpr =>
    obtain ⟨_, left, _, same, takes⟩ := fits
    obtain ⟨_, rfl⟩ := List.cons.inj same
    exact ⟨_, left, _, rfl, takes⟩
  | invocation =>
    obtain ⟨_, body, same⟩ := fits
    obtain ⟨_, rfl⟩ := List.cons.inj same
    exact ⟨_, body, rfl⟩
  | namedFields | tupleFields => cases fits _ (List.mem_cons_self ..)
  | traitItem | implItem | foreignModule =>
    obtain ⟨_, before, items, same, nothing⟩ := fits
    obtain ⟨_, rfl⟩ := List.cons.inj same
    exact ⟨_, before, items, rfl, nothing⟩
  | _ => trivial

theorem settle_append {kind : Kind} {marks : List Mark} (aside : AllAside marks) (rest : List Mark) :
    marks ++ settle kind rest = settle kind (marks ++ rest) := by
  cases kind with
  | attributeLine | whereClause => simp [settle, aside.map_setAside]
  | _ => rfl

theorem becomes_settle {x y : List Mark} (kind : Kind) (step : Becomes x y) :
    Becomes (settle kind x) (settle kind y) := by
  cases kind with
  | attributeLine | whereClause => exact step.map_setAside
  | _ => exact step

variable {attributes : List Tree} (formed : ∀ tree ∈ attributes, tree.Formed)
  (aside : AllAside (marksAll attributes)) {tree : Tree}
include formed aside

theorem addAttributes_fits (whole : tree.Formed) (takes : tree.TakesAttributes) :
    (tree.addAttributes attributes).Formed ∧ (tree.addAttributes attributes).TakesAttributes ∧
      Becomes (marksAll attributes ++ tree.marks) (tree.addAttributes attributes).marks := by
  rcases takesAttributes_iff.mp takes with ⟨body, rfl⟩ | ⟨kind, own, rest, rfl⟩
  · exact ⟨whole, trivial, by simpa using .kept _⟩
  obtain ⟨named, parts, all⟩ := formed_node.mp whole
  have lines : ∀ tree ∈ attributes ++ own, tree.Formed :=
    List.forall_mem_append.mpr ⟨formed, formed_list.mp ((allFormed_cons.mp all).1.resolve_left nofun)⟩
  refine ⟨formed_node.mpr ⟨named, parts.moreAttributes _, ?_⟩, trivial, ?_⟩
  · exact allFormed_cons.mpr ⟨.inr (formed_list.mpr lines), (allFormed_cons.mp all).2⟩
  · have same : ownMarks kind (.list (attributes ++ own) :: rest) = ownMarks kind (.list own :: rest) :=
      rfl
    show Becomes _ (Tree.marks (.node kind (.list (attributes ++ own) :: rest)))
    rw [marks, marks, settle_append aside, same]
    refine becomes_settle kind ?_
    simpa using (Becomes.swap (.inl aside)).right (marksAll own ++ marksAll rest)

omit formed in
/-- What is done to the left operand is done to the expression. -/
theorem leftmost_fits {kind : Kind} {own left more : Tree} {rest : List Tree}
    (whole : Formed (.node kind (own :: left :: rest)))
    (takes : TakesAttributes (.node kind (own :: left :: rest)))
    (operator : kind = .assignExpr ∨ kind = .binaryExpr ∨ kind = .castExpr)
    (step : left.Formed → left.TakesAttributes → more.Formed ∧ more.TakesAttributes ∧
      Becomes (marksAll attributes ++ left.marks) more.marks) :
    Formed (.node kind (own :: more :: rest)) ∧ TakesAttributes (.node kind (own :: more :: rest)) ∧
      Becomes (marksAll attributes ++ (Tree.node kind (own :: left :: rest)).marks)
        (Tree.node kind (own :: more :: rest)).marks := by
  obtain ⟨nothing, settled⟩ : Declaration.kindOf? kind = none ∧
      kind ≠ .attributeLine ∧ kind ≠ .whereClause := by
    rcases operator with rfl | rfl | rfl <;> exact ⟨rfl, by decide⟩
  have inner : left.TakesAttributes := by
    have parts := (formed_node.mp whole).2.1
    rcases operator with rfl | rfl | rfl
    all_goals
      obtain ⟨_, _, _, same, inner⟩ := parts
      cases same
      exact inner
  have parts := whole.children nothing
  obtain ⟨formed, takesMore, becomes⟩ := step (parts left (by simp)) inner
  have stays : TakesAttributes (.node kind (own :: more :: rest)) := by
    obtain ⟨_, ⟨⟩⟩ | ⟨_, lines, _, same⟩ := takesAttributes_iff.mp takes
    cases same
    trivial
  refine ⟨formed_of_kindOf? nothing ?_ ?_, stays, ?_⟩
  · rcases operator with rfl | rfl | rfl <;> exact ⟨own, more, rest, rfl, takesMore⟩
  · simp only [List.mem_cons, forall_eq_or_imp] at parts ⊢
    exact ⟨parts.1, formed, parts.2.2⟩
  · rw [marks_node nothing settled, marks_node nothing settled]
    simp only [marksAll_cons]
    refine .trans ?_ ((becomes.right (marksAll rest)).left own.marks)
    simpa using (Becomes.swap (.inl aside)).right (left.marks ++ marksAll rest)

theorem addLeftmost_fits (whole : tree.Formed) (takes : tree.TakesAttributes) :
    (tree.addLeftmost attributes).Formed ∧ (tree.addLeftmost attributes).TakesAttributes ∧
      Becomes (marksAll attributes ++ tree.marks) (tree.addLeftmost attributes).marks := by
  fun_induction addLeftmost attributes tree with
  | case1 own left right ih => exact leftmost_fits aside whole takes (.inl rfl) ih
  | case2 own left op right ih => exact leftmost_fits aside whole takes (.inr (.inl rfl)) ih
  | case3 own left type ih => exact leftmost_fits aside whole takes (.inr (.inr rfl)) ih
  | case4 => exact addAttributes_fits formed aside whole takes

end Tree

namespace Parser

open Tree

/-! ### Binary operators -/

theorem binaryOperator?_taken {tokens rest : Tokens} {text : String} {strength : Precedence}
    (found : binaryOperator? tokens = some (text, strength, rest)) :
    ∃ taken, tokens = taken ++ rest ∧ Reads taken [] := by
  have plain : ∀ entry ∈ binaryOperators, entry.1.toList.contains '\'' = false := by decide
  obtain ⟨entry, member, some⟩ := List.exists_of_findSome?_eq_some found
  obtain ⟨after, dropped, ⟨⟩⟩ := Option.map_eq_some_iff.mp some
  exact Faithful.dropOperator? (plain entry member) dropped

theorem limits_faithful : Faithful limits [] .silent := by
  unfold limits
  exact .skip (.operator? rfl) fun _ => .ite .value (.at? fun _ => .guard fun _ => .skip (.operator rfl) fun _ => .value)

end Parser

/-- A step after an operand: where there is none, the operand stays. -/
def Account.step (left : Tree) : Account (Option Tree) where
  holds next := (next.getD left).Formed ∧ (next.getD left).TakesAttributes
  marks next := (next.getD left).marks

namespace Tree

/-- An operand with an operator after it. -/
theorem step_operator {kind : Kind} {left : Tree} (formed : left.Formed) (takes : left.TakesAttributes)
    (operator : kind = .assignExpr ∨ kind = .binaryExpr ∨ kind = .castExpr) {rest : List Tree}
    (inner : ∀ tree ∈ rest, tree.Formed) :
    (Account.step left).holds (some (.node kind (.list [] :: left :: rest))) ∧
      (Account.step left).marks (some (.node kind (.list [] :: left :: rest))) =
        left.marks ++ marksAll rest := by
  have whole : Formed (.node kind (.list [] :: left :: rest)) := by
    rcases operator with rfl | rfl | rfl
    all_goals exact formed_of_kindOf? rfl ⟨_, left, rest, rfl, takes⟩ (by simpa [formed] using inner)
  refine ⟨⟨whole, trivial⟩, ?_⟩
  rcases operator with rfl | rfl | rfl <;> simp (disch := decide) [Account.step, marks_node]

end Tree

namespace Grammar.Sound

open Scaffold.Rust.Parser Tree

variable {g : Grammar} (sound : g.Sound)
include sound

theorem rightOperand (struct : Bool) (strength : Precedence) :
    Faithful (Parser.rightOperand g struct strength) [] .attributed := by
  have fueled (fuel : Nat) {right : Tree} (formed : right.Formed) (takes : right.TakesAttributes) :
      Faithful (Parser.rightOperand.go g struct strength fuel right) right.marks .attributed := by
    induction fuel generalizing right with
    | zero => exact .fail
    | succ fuel ih =>
      intro tokens value rest run
      unfold Parser.rightOperand.go at run
      extract_lets next at run
      split at run
      · obtain ⟨⟨more, after⟩, climbed, further⟩ := Option.bind_eq_some_iff.mp run
        obtain ⟨holds, taken, rfl, reads⟩ := sound.climb struct next formed takes tokens more after climbed
        dsimp only at further
        split at further
        · cases further
          exact ⟨holds, taken, rfl, reads⟩
        · obtain ⟨result, longer, rfl, continues⟩ := ih holds.1 holds.2 after value rest further
          refine ⟨result, taken ++ longer, by simp, fun earlier h => ?_⟩
          rw [← List.append_assoc]
          exact continues _ (reads earlier h)
      · have stays : Faithful (pure right) right.marks .attributed := .pure ⟨formed, takes⟩ (.refl _)
        exact stays tokens value rest run
  exact fun tokens => FaithfulAt.thread (sound.operand struct tokens) fun first ⟨formed, takes⟩ =>
    fueled (tokens.length + 1) formed takes

theorem rangeFrom (struct : Bool) {start : Tree} (formed : start.Formed) :
    Faithful (Parser.rangeFrom g struct start) start.marks .attributed := by
  unfold Parser.rangeFrom
  refine .skip limits_faithful fun limits => .at? fun _ => ?_
  refine .choose (.pure formed_absent (.of_eq (by simp))) (sound.rightOperand struct .range).plain
    fun stop (inner : stop.Formed) => ?_
  exact .only (.node rfl (by simpa [inner] using formed) (.of_eq (by simp))) trivial

/-- An operator with its right side goes on from the left operand. -/
theorem climbStep (struct : Bool) (base : Precedence) {left : Tree} (formed : left.Formed)
    (takes : left.TakesAttributes) :
    Faithful (Parser.climbStep g struct base left) left.marks (.step left) := by
  have stay : Faithful (pure none) left.marks (.step left) := .pure ⟨formed, takes⟩ (.refl _)
  unfold Parser.climbStep
  refine .ite stay (.at? fun found => ?_)
  cases found with
  | true =>
    intro tokens value rest run
    dsimp only [Parser.climbStep.binary] at run
    rcases operator : binaryOperator? tokens with _ | ⟨text, strength, after⟩
    all_goals simp only [operator] at run
    · cases run
    split at run
    · exact stay tokens value rest run
    split at run
    · cases run
    obtain ⟨⟨right, last⟩, operand, ⟨⟩⟩ := Option.map_eq_some_iff.mp run
    obtain ⟨taken, rfl, reads⟩ := binaryOperator?_taken operator
    obtain ⟨⟨inner, _⟩, more, rfl, further⟩ := (sound.rightOperand struct strength after).taken operand
    obtain ⟨fits, marks⟩ := step_operator formed takes (.inr (.inl rfl))
      (show ∀ tree ∈ [Tree.word text, right], tree.Formed by simpa using inner)
    refine ⟨fits, taken ++ more, by simp, fun earlier h => ?_⟩
    rw [marks]
    simpa using h.append (reads.append further)
  | false =>
    refine .test ?_ (.test ?_ (.test ?_ stay))
    · refine .skip (.operator rfl) fun _ => .tree (sound.rightOperand struct .assignment).plain fun right inner => ?_
      obtain ⟨fits, marks⟩ := step_operator formed takes (.inl rfl)
        (show ∀ tree ∈ [right], tree.Formed by simpa using inner)
      exact .pure fits (.of_eq (by simp [marks]))
    · rw [map_eq_pure_bind]
      exact .thread (sound.rangeFrom struct formed) fun more fits => .pure fits (.refl _)
    · refine .skip (.keyword rfl) fun _ => .tree (sound.type false) fun type inner => ?_
      obtain ⟨fits, marks⟩ := step_operator formed takes (.inr (.inr rfl))
        (show ∀ tree ∈ [type], tree.Formed by simpa using inner)
      exact .at? fun _ => .guard fun _ => .pure fits (.of_eq (by simp [marks]))

theorem climb_next (struct : Bool) (base : Precedence) {left : Tree} (formed : left.Formed)
    (takes : left.TakesAttributes) :
    Faithful (Parser.climb g struct base left) left.marks .attributed := by
  have fueled (fuel : Nat) {left : Tree} (formed : left.Formed) (takes : left.TakesAttributes) :
      Faithful (Parser.climb.go g struct base fuel left) left.marks .attributed := by
    induction fuel generalizing left with
    | zero => exact .fail
    | succ fuel ih =>
      unfold Parser.climb.go
      refine .thread (sound.climbStep struct base formed takes) fun next fits => ?_
      cases next with
      | none => exact .pure ⟨formed, takes⟩ (.refl _)
      | some more => exact ih fits.1 fits.2
  exact .of_fuel (fueled · formed takes) fun _ => rfl

end Grammar.Sound

end Scaffold.Rust
