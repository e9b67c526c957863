import Scaffold.Proofs.Rust.Parser.Naming

/-! Visibility, fields, variants and signatures give a true account. -/

namespace Scaffold.Rust

namespace Parser

open Tree

/-- A restriction of visibility that is taken shows nothing. -/
theorem reads_of_restriction {body : Tokens} {place : String}
    (run : within restriction body = some (some place)) : Reads body [] := by
  have split : restriction body = some (some place, []) := by
    unfold within at run
    split at run
    · next found =>
      cases run
      exact found
    · cases run
  obtain ⟨_, _, ⟨⟩, second⟩ := bind_eq_some.mp split
  split at second
  · next found =>
    obtain ⟨word, between, first, third⟩ := bind_eq_some.mp second
    obtain ⟨_, _, ⟨⟩, last⟩ := bind_eq_some.mp third
    obtain rfl := anyWord_eq_some first
    split at last
    · cases last
      have plain := atPlain_of_atOneOf found rfl
      exact .of_shows (.word (plain _ _ rfl))
    · cases last
  · obtain ⟨_, between, first, third⟩ := bind_eq_some.mp second
    obtain ⟨-, taken, rfl, reads⟩ := (Faithful.keyword? (by decide) body).taken first
    split at third
    · obtain ⟨path, rest, found, last⟩ := bind_eq_some.mp third
      obtain ⟨⟨-, none⟩, more, rfl, further⟩ := (Faithful.plainPath between).taken found
      cases last
      simpa [none] using reads.append further
    · cases third

theorem visibility_faithful : Faithful visibility [] .silent := by
  unfold visibility
  refine .skip (.keyword? rfl) fun _ => .ite (fun tokens => .of_taken fun value rest run => ?_) .value
  split at run
  · next body more =>
    obtain ⟨place, found, last⟩ := Option.bind_eq_some_iff.mp run
    cases place with
    | some place =>
      cases last
      exact ⟨trivial, [.group .parenthesis body], rfl, (reads_of_restriction found).group _⟩
    | none => cases last; exact ⟨trivial, [], rfl, .nil⟩
  · cases run
    exact ⟨trivial, [], rfl, .nil⟩

end Parser

namespace Grammar.Sound

open Scaffold.Rust.Parser Tree

variable {g : Grammar} (sound : g.Sound)
include sound

theorem fieldWith {nameless : Parser Tree} (kept : Faithful nameless [] .tree) :
    Faithful (Parser.fieldWith g nameless) [] (.treeWith IsNamedField) := by
  unfold Parser.fieldWith
  refine .bind sound.attributeList fun attributes ⟨formed, aside⟩ => ?_
  refine .skip visibility_faithful fun visibility => .at? fun unnamed => ?_
  refine .fieldEither fun word => .at? fun _ => ?_
  refine .choose kept (sound.type true) fun type (inner : type.Formed) => ?_
  refine .declaring [attributes, .word visibility] [type] rfl
    (by simp [formed, inner]) ⟨trivial, ?_⟩ (by simpa using .front aside _ _)
  simp [IsNamedField, formed.names_cons, inner.names_cons]

/-- The fields of a nameless struct are kept as tokens, however deeply such structs are nested. -/
theorem nameless (fuel : Nat) : Faithful (Parser.nameless g fuel) [] .tree := by
  induction fuel with
  | zero => exact .fail
  | succ fuel ih =>
    have fields := Faithful.commaSeparated (sound.fieldWith ih)
    refine fun tokens => .of_taken fun value rest run => ?_
    obtain ⟨word, between, first, second⟩ := bind_eq_some.mp run
    obtain ⟨_, after, inner, third⟩ := bind_eq_some.mp second
    obtain rfl := anyWord_eq_some first
    obtain ⟨body, rfl, found⟩ := group_eq_some inner
    obtain ⟨-, reads⟩ := fields.within found
    cases third
    exact ⟨by simp, [.word word, .group .brace body], rfl,
      (reads.nameless word).becomes (by simpa using .kept _)⟩

theorem namedField : Faithful (Parser.namedField g) [] (.treeWith IsNamedField) :=
  sound.fieldWith fun tokens => sound.nameless (TokenTree.sizeList tokens) tokens

theorem tupleField : Faithful (Parser.tupleField g) [] (.treeWith IsTupleField) := by
  unfold Parser.tupleField
  refine .bind sound.attributeList fun attributes ⟨formed, aside⟩ => ?_
  refine .skip visibility_faithful fun visibility => .tree (sound.type true) fun type inner => ?_
  have parts : ∀ child ∈ [attributes, .word visibility, .absent, type], child.Formed := by
    simp [formed, inner]
  exact .pure ⟨formed_tupleField parts, names_eq_nil parts⟩
    (.of_eq (by simp [marks_tupleField parts]))

theorem namedFields : Faithful (Parser.namedFields g) [] .tree := by
  refine .map (.braces (.commaSeparated sound.namedField)) fun fields fits => ⟨?_, .of_eq ?_⟩
  · exact formed_of_kindOf? rfl (fun field member => (fits field member).2)
      fun field member => (fits field member).1
  · simpa using (marks_node rfl (by decide) fields).symm

theorem tupleFields : Faithful (Parser.tupleFields g) [] .tree := by
  refine .map (.parens (.commaSeparated sound.tupleField)) fun fields fits => ⟨?_, .of_eq ?_⟩
  · exact formed_of_kindOf? rfl (fun field member => (fits field member).2)
      fun field member => (fits field member).1
  · simpa using (marks_node rfl (by decide) fields).symm

theorem variant : Faithful (Parser.variant g) [] .tree := by
  unfold Parser.variant
  refine .bind sound.attributeList fun attributes ⟨formed, aside⟩ => ?_
  refine .skip visibility_faithful fun _ => .variant fun word => .at? fun _ => .at? fun _ => ?_
  extract_lets afterFields
  have rest (fields : Tree) (inner : fields.Formed) : Faithful (afterFields fields)
      ([] ++ attributes.marks ++ [.declared .variant word false] ++ fields.marks) .tree := by
    refine .skip (.operator? rfl) fun _ => .optional (sound.expression true) fun discriminant last => ?_
    exact .declares [attributes] [fields, discriminant] rfl
      (by simp [formed, inner, last]) trivial (by simpa using .front aside _ _)
  refine .ite (.tree sound.namedFields rest) (.ite (.tree sound.tupleFields rest) ?_)
  exact .tree (.node rfl (by simp) (.of_eq (by simp))) rest

end Grammar.Sound

end Scaffold.Rust
