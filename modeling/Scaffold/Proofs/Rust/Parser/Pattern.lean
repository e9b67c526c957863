import Scaffold.Proofs.Rust.Parser.Naming

/-! Patterns give a true account. -/

namespace Scaffold.Rust

/-- An end of a range: nothing, a literal or path without attributes, or a constant block. -/
def Tree.IsRangeBound (tree : Tree) : Prop :=
  tree.isAbsent = true ∨ (∃ literal, tree = .node .literalExpr [.list [], literal]) ∨
    (∃ path, tree = .node .pathExpr [.list [], path]) ∨ tree.is .constExpr = true

namespace Parser

open Tree

theorem member_faithful : Faithful member [] .silent := by
  refine fun tokens => .of_taken fun value rest run => ⟨trivial, ?_⟩
  unfold member at run
  split at run
  · next text more =>
    obtain ⟨_, _, ⟨⟩⟩ := Option.map_eq_some_iff.mp run
    exact ⟨[.literal text], rfl, .of_shows (.literal text)⟩
  · obtain ⟨⟨word, between⟩, found, ⟨⟩⟩ := Option.map_eq_some_iff.mp run
    obtain ⟨-, taken⟩ := (Faithful.name tokens).taken found
    exact taken

theorem rangeLimits_faithful (dots : Bool) : Faithful (rangeLimits dots) [] .silent := by
  unfold rangeLimits
  refine .skip (.operator? rfl) fun _ => .ite .value (.test ?_ (.skip (.operator rfl) fun _ => .value))
  exact .guard fun _ => .skip (.operator rfl) fun _ => .value

theorem marks_constantPattern {value : Tree} (formed : value.Formed) (fits : value.IsRangeBound)
    (present : value.isAbsent = false) :
    (constantPattern value).Formed ∧ (constantPattern value).marks = value.marks := by
  rcases fits with absent | ⟨literal, rfl⟩ | ⟨path, rfl⟩ | constant
  · rw [absent] at present
    cases present
  · have parts : literal.Formed := formed.children rfl literal (by simp)
    exact ⟨formed_of_isPlain rfl (by simpa using parts), by simp (disch := decide) [constantPattern,
      marks_of_isPlain]⟩
  · have parts : path.Formed := formed.children rfl path (by simp)
    exact ⟨formed_of_isPlain rfl (by simpa using parts), by simp (disch := decide) [constantPattern,
      marks_of_isPlain]⟩
  · obtain ⟨children, rfl⟩ : ∃ children, value = .node .constExpr children := by
      cases value with
      | name _ | word _ | tokens _ => cases constant
      | node kind children => exact ⟨children, by rw [show kind = _ by simpa [Tree.is, kind?] using constant]⟩
    exact ⟨formed_of_isPlain rfl (by simpa using formed), by simp (disch := decide) [constantPattern,
      marks_of_isPlain]⟩

end Parser

namespace Grammar.Sound

open Scaffold.Rust.Parser Tree

variable {g : Grammar} (sound : g.Sound)
include sound

theorem alternatives : Faithful (Parser.alternatives g) [] .tree := by
  unfold Parser.alternatives
  refine .skip (.operator? rfl) fun leading => .tree sound.pattern fun first formed => ?_
  refine .trees (.whileAt (.skip (.operator rfl) fun _ => sound.pattern)) fun rest fits => ?_
  refine .iteIf (fun _ => .node rfl (by simpa [formed] using fits) (.of_eq (by simp))) fun single => ?_
  obtain rfl : rest = [] := by simp_all
  exact .pure formed (.of_eq (by simp))

theorem rangeBound : Faithful (Parser.rangeBound g) [] (.treeWith IsRangeBound) := by
  unfold Parser.rangeBound
  refine .test (.pure ⟨formed_absent, .inl rfl⟩ (.of_eq (by simp))) (.test ?_ (.test ?_ ?_))
  · refine .bare .literal fun literal formed bare => .only ?_ (.inr (.inl ⟨literal, rfl⟩))
    exact .node rfl (by simp [formed]) (.of_eq (by simp [bare]))
  · refine .tree (sound.qualifiedPath true) fun path formed => .only ?_ (.inr (.inr (.inl ⟨path, rfl⟩)))
    exact .node rfl (by simp [formed]) (.of_eq (by simp))
  · refine .skip (.keyword? rfl) fun _ => .ite ?_ .fail
    refine .afterAttributes sound.attributedBlock fun attributes block first _ second => ?_
    simp only [Account.tree_holds] at second
    refine .only (.node rfl (by simpa [second] using first) (.of_eq (by simp))) (.inr (.inr (.inr rfl)))

theorem rangePattern {start : Tree} (formed : start.Formed) :
    Faithful (Parser.rangePattern g start) start.marks .tree := by
  unfold Parser.rangePattern
  refine .skip (rangeLimits_faithful true) fun limits => .tree sound.rangeBound.plain fun stop inner => ?_
  exact .guard fun _ => .node rfl (by simp [formed, inner]) (.of_eq (by simp))

theorem literalOrRange : Faithful (Parser.literalOrRange g) [] .tree := by
  unfold Parser.literalOrRange
  refine .bind sound.rangeBound fun start ⟨formed, fits⟩ => .guard fun present => ?_
  refine .test (sound.rangePattern formed) ?_
  obtain ⟨whole, marks⟩ := marks_constantPattern formed fits (by simpa using present)
  exact .pure whole (.of_eq (by simp [marks]))

theorem openRange : Faithful (Parser.openRange g) [] .tree := by
  unfold Parser.openRange
  refine .skip (rangeLimits_faithful false) fun limits => .tree sound.rangeBound.plain fun stop inner => ?_
  refine .iteIf (fun absent => .guard fun _ => .node rfl (by simp) (.of_eq ?_)) fun _ => ?_
  · simp [inner.marks_of_isAbsent absent]
  · exact .node rfl (by simp [inner]) (.of_eq (by simp))

theorem fieldPattern {attributes : List Tree} (formed : ∀ tree ∈ attributes, tree.Formed) :
    Faithful (Parser.fieldPattern g attributes) (marksAll attributes) .tree := by
  unfold Parser.fieldPattern
  refine .skip (.keyword? rfl) fun boxed => .skip (.keyword? rfl) fun byRef => .skip (.keyword? rfl) fun mutable => ?_
  extract_lets marked
  refine .bind member_faithful fun (field, named) _ => .test (.guard fun _ => ?_) ?_
  · refine .skip (.operator rfl) fun _ => .tree sound.alternatives fun pattern inner => ?_
    exact .node rfl (by simpa [inner] using formed) (.of_eq (by simp))
  · cases boxed with
    | true => exact .node rfl (by simpa using formed) (by simpa using (Becomes.kept []).left _)
    | false =>
      refine .node rfl ?_ (.of_eq (by simp (disch := decide) [marks_of_isPlain]))
      simpa (disch := decide) [formed_iff_of_isPlain] using formed

theorem fieldPatterns : Faithful (Parser.fieldPatterns g) [] (.both (.each .tree) .tree) := by
  have fueled (fuel : Nat) :
      Faithful (Parser.fieldPatterns.go g fuel) [] (.both (.each .tree) .tree) := by
    induction fuel with
    | zero => exact .fail
    | succ fuel ih =>
      unfold Parser.fieldPatterns.go
      refine .test (.pure (by simp) (.of_eq (by simp))) ?_
      refine .attributes sound.outerAttributes fun attributes formed _ => ?_
      refine .skip (.operator? rfl) fun _ => .ite (.pure ?_ (.of_eq ?_)) ?_
      · simpa (disch := decide) [formed_iff_of_isPlain] using formed
      · simp (disch := decide) [marks_of_isPlain]
      refine .thread (sound.fieldPattern formed) fun field (inner : field.Formed) => ?_
      refine .test (.pure (by simpa using inner) (.of_eq (by simp))) (.skip (.operator rfl) fun _ => ?_)
      refine .bind ih fun (fields, rest) fits => .pure ?_ (.of_eq (by simp))
      simpa [inner] using fits
  exact .of_fuel fueled fun _ => rfl

theorem pathOrStruct : Faithful (Parser.pathOrStruct g) [] .tree := by
  unfold Parser.pathOrStruct
  refine .tree (sound.qualifiedPath true) fun path formed => .test ?_ (.test ?_ (.test ?_ (.test ?_ ?_)))
  · refine .thread (.becomes (.of_eq (by simp)) (invocation_faithful formed)) fun call ⟨inner, _⟩ => ?_
    exact .node rfl (by simp [inner]) (.of_eq (by simp))
  · refine .bind sound.fieldPatterns.braces fun (fields, rest) ⟨first, second⟩ => ?_
    simp only [Account.each_holds, Account.tree_holds] at first second
    exact .node rfl (by simpa [formed, second] using first) (.of_eq (by simp))
  · refine .trees (.parens (.commaSeparated sound.alternatives)) fun elements inner => ?_
    exact .node rfl (by simpa [formed] using inner) (.of_eq (by simp))
  · have start : Formed (.node .pathExpr [.list [], path]) :=
      formed_of_isPlain rfl (by simpa using formed)
    simpa (disch := decide) [marks_of_isPlain] using sound.rangePattern start
  · exact .node rfl (by simp [formed]) (.of_eq (by simp))

theorem bindingPattern : Faithful (Parser.bindingPattern g) [] .tree := by
  unfold Parser.bindingPattern
  refine .flag rfl fun byRef => .flag rfl fun mutable => Leading.passed ?_
  refine .orName (fun _ found => atPlain_of_atWord found rfl) fun word => .skip (.operator? rfl) fun _ => ?_
  refine .optional sound.pattern fun sub formed => ?_
  exact .node rfl (by simpa using formed) (.of_eq (by simp))

omit sound in
/-- Elements between commas. -/
theorem elements {p : Parser Tree} (h : Faithful p [] .tree) :
    Faithful (Parser.elements p) [] (.both (.each .tree) .silent) := by
  have fueled (fuel : Nat) :
      Faithful (Parser.elements.go p fuel) [] (.both (.each .tree) .silent) := by
    induction fuel with
    | zero => exact .fail
    | succ fuel ih =>
      unfold Parser.elements.go
      refine .test (.pure (by simp) (.of_eq (by simp))) (.tree h fun first formed => ?_)
      refine .test (.pure (by simpa using formed) (.of_eq (by simp))) (.skip (.operator rfl) fun _ => ?_)
      exact .bind ih fun (rest, comma) fits => .pure (by simpa [formed] using fits) (.of_eq (by simp))
  exact .of_fuel fueled fun _ => rfl

theorem tupleOrParenthesized : Faithful (Parser.tupleOrParenthesized g) [] .tree := by
  unfold Parser.tupleOrParenthesized
  refine .bind (elements sound.alternatives).parens fun (patterns, comma) ⟨fits, _⟩ => ?_
  simp only [Account.each_holds, Account.tree_holds] at fits
  split
  · next single same =>
    obtain ⟨rfl, -⟩ := Prod.mk.inj same
    have formed : single.Formed := fits single (by simp)
    exact .ite (.node rfl (by simpa using formed) (.of_eq (by simp)))
      (.node rfl (by simpa using formed) (.of_eq (by simp)))
  · next same =>
    obtain ⟨rfl, -⟩ := Prod.mk.inj same
    exact .node rfl fits (.of_eq (by simp))

theorem slicePattern : Faithful (Parser.slicePattern g) [] .tree := by
  unfold Parser.slicePattern
  refine .trees (.brackets (.commaSeparated sound.alternatives)) fun patterns fits => .guard fun _ => ?_
  exact .node rfl fits (.of_eq (by simp))

theorem pattern_next : Faithful (Parser.pattern g) [] .tree := by
  unfold Parser.pattern
  refine .test sound.pathOrStruct (.skip (.keyword? rfl) fun _ => .ite (.node rfl (by simp) (.of_eq (by simp))) ?_)
  refine .skip (.keyword? rfl) fun _ => .ite (.thread sound.pattern.discard fun _ _ => .keep) ?_
  refine .test sound.literalOrRange (.test sound.bindingPattern (.skip (.operator? rfl) fun _ => .ite ?_ ?_))
  · refine .flag rfl fun mutable => .tree sound.pattern fun pattern formed => ?_
    exact .node rfl (by simpa using formed) (.of_eq (by simp))
  exact .test sound.tupleOrParenthesized (.test sound.slicePattern (.test sound.openRange .fail))

end Grammar.Sound

end Scaffold.Rust
