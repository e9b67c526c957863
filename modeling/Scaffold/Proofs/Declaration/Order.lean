import Scaffold.Proofs.Declaration.Places

/-!
The order in which the declarations of a source file are listed. It is that of the text, but for what
stands in the values of attributes and in conditions on type parameters: the conditions of a function
are listed before its parameters, and attributes after the name that they stand before.
-/

namespace Scaffold.Rust

open Declaration

/-! ### Words -/

mutual

/-- The words of a token tree from first to last. -/
def TokenTree.words : TokenTree → List String
  | .word text => [text]
  | .group _ body => wordsOf body
  | .literal _ | .punct _ _ => []

/-- The words of some tokens from first to last. -/
def wordsOf : Tokens → List String
  | [] => []
  | token :: rest => token.words ++ wordsOf rest

end

theorem wordsOf_append (first second : Tokens) : wordsOf (first ++ second) = wordsOf first ++ wordsOf second := by
  induction first with
  | nil => simp [wordsOf]
  | cons token rest ih => simp [wordsOf, ih]

/-- The name of a mark whose place is fixed. -/
def Mark.fixedName? : Mark → Option String
  | .declared _ text false => some text
  | _ => none

@[simp] theorem Mark.fixedName?_setAside (mark : Mark) : mark.setAside.fixedName? = none := by
  cases mark <;> simp [setAside, fixedName?]

/-- The names that tokens show are words of them, in the same order. -/
theorem Shows.names_sublist {tokens : Tokens} {seen : List Mark} (shows : Shows tokens seen) :
    (seen.filterMap Mark.fixedName?).Sublist (wordsOf tokens) := by
  induction shows with
  | nil => exact List.nil_sublist _
  | append _ _ first second =>
    rw [List.filterMap_append, wordsOf_append]
    exact first.append second
  | word _ | literal _ | punct _ _ | lifetime _ _ => exact List.nil_sublist _
  | kept _ _ => simp [List.filterMap_cons, Mark.fixedName?]
  | group _ _ ih => simpa [wordsOf, TokenTree.words] using ih
  | keyword _ _ | mutable _ | field _ _ | variant _ =>
    simp [Mark.fixedName?, wordsOf, TokenTree.words]
  | @traitAlias text joint parameters x _ ih =>
    have words : wordsOf (.word "trait" :: .word text :: (parameters ++ [.punct '=' joint])) =
        "trait" :: text :: wordsOf parameters := by
      simp [wordsOf, TokenTree.words, wordsOf_append]
    rw [words]
    exact (ih.cons text).cons "trait"
  | @nameless word body x _ ih =>
    have words : wordsOf [.word word, .group .brace body] = word :: wordsOf body := by
      simp [wordsOf, TokenTree.words]
    rw [words]
    exact ih.cons word
  | aside _ _ => simp [List.filterMap_map]

theorem fixedNames_filter (marks : List Mark) :
    (marks.filter Mark.isFixed).filterMap Mark.fixedName? = marks.filterMap Mark.fixedName? := by
  rw [List.filterMap_filter]
  congr 1
  funext mark
  cases mark with
  | declared _ _ aside => cases aside <;> rfl
  | kept => rfl

end Scaffold.Rust

namespace Scaffold.Declaration

open Rust Tree

/-- The sites at which a declaration has its place in the text. -/
def settledSites (tree : Tree) : List Site := tree.sites.filter fun site => !tree.isAside site.place

/-- What is listed from outside attributes and conditions comes in the order in which the tokens of the
file show it, and their names are words of the file in the same order. A file that declares nothing in
these is listed in the order of its text. -/
theorem ofSource?_in_order {file : Path} {source : String} {tree : Tree}
    (parsed : SourceFile.parse source = some tree) : ∃ declarations tokens seen,
      ofSource? file source = some declarations ∧ tree.Surveyed tree.sites ∧
      declarations = tree.sites.map (ofSite file tree) ∧
      SourceFile.tokens? source = some tokens ∧ Shows tokens seen ∧
      ((settledSites tree).map (markAt tree)).Sublist (seen.filter Mark.isFixed) ∧
      ((settledSites tree).map (·.name)).Sublist (wordsOf tokens) ∧
      ((∀ site ∈ tree.sites, tree.isAside site.place = false) →
        (declarations.map (·.name)).Sublist (wordsOf tokens)) := by
  obtain ⟨tokens, lexed, formed, seen, shows, becomes⟩ := SourceFile.parse_spec parsed
  have ordered : ((settledSites tree).map (markAt tree)).Sublist (seen.filter Mark.isFixed) := by
    rw [settledSites, ← fixed_marks]
    exact becomes.fixed_sublist
  have named : ((settledSites tree).map (markAt tree)).filterMap Mark.fixedName? =
      (settledSites tree).map (·.name) := by
    rw [List.filterMap_map, ← List.filterMap_eq_map]
    refine List.filterMap_congr fun site member => ?_
    have here : tree.isAside site.place = false := by simpa using (List.mem_filter.mp member).2
    simp [markAt, Mark.fixedName?, here]
  have words : ((settledSites tree).map (·.name)).Sublist (wordsOf tokens) := by
    rw [← named]
    refine (ordered.filterMap _).trans ?_
    rw [fixedNames_filter]
    exact shows.names_sublist
  refine ⟨_, tokens, seen, ofSource?_eq file parsed, formed.surveyed, rfl, lexed, shows, ordered, words,
    fun settled => ?_⟩
  have all : settledSites tree = tree.sites :=
    List.filter_eq_self.mpr fun site member => by simp [settled site member]
  rw [List.map_map]
  exact all ▸ words

theorem ofSource?_in_order_nested :
    let source := "struct A \x7b x: [u8; \x7b const N: usize = 1; N \x7d] \x7d
      mod m \x7b enum E \x7b V \x7d fn f() \x7b\x7d \x7d"
    ∃ declarations tokens, ofSource? ⟨"lib.rs"⟩ source = some declarations ∧
      SourceFile.tokens? source = some tokens ∧
      declarations.map (·.name) = ["A", "x", "N", "m", "E", "V", "f"] ∧
      (declarations.map (·.name)).Sublist (wordsOf tokens) := by
  intro source
  have names : (ofSource? ⟨"lib.rs"⟩ source).map (List.map Declaration.name) =
      some ["A", "x", "N", "m", "E", "V", "f"] := by decide +kernel
  have settled : (SourceFile.parse source).map (fun tree =>
      tree.sites.all fun site => !tree.isAside site.place) = some true := by decide +kernel
  obtain ⟨tree, parsed, settled⟩ := Option.map_eq_some_iff.mp settled
  obtain ⟨declarations, tokens, seen, listed, -, -, lexed, -, -, -, ordered⟩ :=
    @ofSource?_in_order ⟨"lib.rs"⟩ _ _ parsed
  rw [listed] at names
  exact ⟨declarations, tokens, listed, lexed, Option.some.inj names,
    ordered (by simpa using settled)⟩

/-- The conditions of a function are listed before its parameters, which stand before them. -/
theorem conditions_before_parameters :
    let source := "fn f(x: [u8; \x7b struct A; 0 \x7d]) where [u8; \x7b struct B; 0 \x7d]: Sized \x7b\x7d"
    ∃ declarations tokens, ofSource? ⟨"lib.rs"⟩ source = some declarations ∧
      SourceFile.tokens? source = some tokens ∧
      declarations.map (·.name) = ["f", "B", "A"] ∧
      wordsOf tokens = ["fn", "f", "x", "u8", "struct", "A", "where", "u8", "struct", "B", "Sized"] ∧
      ¬ (declarations.map (·.name)).Sublist (wordsOf tokens) := by
  intro source
  have names : (ofSource? ⟨"lib.rs"⟩ source).map (List.map Declaration.name) =
      some ["f", "B", "A"] := by decide +kernel
  have words : (SourceFile.tokens? source).map wordsOf =
      some ["fn", "f", "x", "u8", "struct", "A", "where", "u8", "struct", "B", "Sized"] := by
    decide +kernel
  obtain ⟨declarations, listed, names⟩ := Option.map_eq_some_iff.mp names
  obtain ⟨tokens, lexed, words⟩ := Option.map_eq_some_iff.mp words
  refine ⟨declarations, tokens, listed, lexed, names, words, ?_⟩
  rw [names, words]
  decide

end Scaffold.Declaration
