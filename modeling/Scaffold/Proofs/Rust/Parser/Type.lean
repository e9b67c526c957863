import Scaffold.Proofs.Rust.Parser.Path

/-! Types, bounds, type parameters and the conditions on them give a true account. -/

namespace Scaffold.Rust.Parser

open Tree

variable {stop : Tokens → Bool}

theorem Faithful.asList {p : Parser (List Tree)} (h : Faithful p [] (.each .tree)) :
    Faithful (Tree.list <$> p) [] .tree :=
  h.map fun _ formed => ⟨by simpa using formed, .of_eq (by simp)⟩

theorem lifetimeBounds_faithful : Faithful (lifetimeBounds stop) [] .tree :=
  .asList (.joined rfl Faithful.lifetime.plain)

theorem lifetimeParameter_faithful {attributes : Tree} (formed : attributes.Formed) :
    Faithful (lifetimeParameter attributes) attributes.marks .tree := by
  unfold lifetimeParameter
  refine .bare .lifetime fun name inner bare => ?_
  refine .skip (.operator? rfl) fun _ => ?_
  refine .choose lifetimeBounds_faithful (.pure (by simp) (.of_eq (by simp)))
    fun bounds (further : bounds.Formed) => ?_
  exact .node rfl (by simp [formed, inner, further]) (.of_eq (by simp [bare]))

theorem preciseCapture_faithful : Faithful preciseCapture [] .tree := by
  have capture : Faithful preciseCapture.capture [] .tree := by
    unfold preciseCapture.capture
    have word : Faithful (Tree.word <$> name) [] .tree :=
      Faithful.name.map fun _ _ => ⟨by simp, .of_eq (by simp)⟩
    refine .test Faithful.lifetime.plain (.testAt (fun tokens found => ?_) word)
    exact (anyWord_at (atPlain_of_atWord found rfl)).map fun _ _ => ⟨by simp, .of_eq (by simp)⟩
  unfold preciseCapture
  refine .skip (.keyword rfl) fun _ => .skip (.operator rfl) fun _ => ?_
  refine .trees (.separated (.operator rfl) capture) fun captured formed => .skip (.operator rfl) fun _ => ?_
  exact .node rfl formed (.of_eq (by simp))

theorem abi_faithful : Faithful abi [] .bare := by
  unfold abi
  refine .skip (.keyword rfl) fun _ => .test ?_ (.pure (by simp) (.of_eq (by simp)))
  exact .bare .literal fun text _ _ => .pure (by simp) (.of_eq (by simp))

theorem abi?_faithful : Faithful abi? [] .bare :=
  .test abi_faithful (.pure (by simp) (.of_eq (by simp)))

/-- An invocation keeps its group as tokens. -/
theorem invocation_faithful {path : Tree} (formed : path.Formed) : Faithful (invocation path) path.marks
    (.treeWith fun call => ∃ body, call = .node .invocation [path, .tokens body]) := by
  unfold invocation
  refine .skip (.operator rfl) fun _ => .bind .anyGroup ?_
  rintro _ ⟨-, body, rfl⟩
  refine .pure ⟨formed_of_kindOf? rfl ⟨path, body, rfl⟩ (by simp [formed]), body, rfl⟩ (.of_eq ?_)
  simp (disch := decide) [marks_node]

/-- The type or the bound in parentheses. -/
def Enclosed.tree : Enclosed → Tree
  | closed type => type
  | relaxedBound bound => bound
  | single type => type

end Parser

def Account.enclosed : Account Parser.Enclosed := ⟨(·.tree.Formed), (·.tree.marks)⟩

namespace Grammar.Sound

open Scaffold.Rust.Parser Tree

variable {g : Grammar} (sound : g.Sound)
include sound

/-! ### Parameters -/

theorem attributeList :
    Faithful (Tree.list <$> Parser.outerAttributes g) [] (.treeWith (AllAside ·.marks)) :=
  sound.outerAttributes.map fun attributes ⟨formed, aside⟩ =>
    ⟨⟨by simpa using formed, by simpa using aside⟩, .of_eq (by simp [Account.attributes])⟩

theorem boundList {stop : Tokens → Bool} :
    Faithful (joined stop "+" (g.bound false true)) [] (.each .tree) :=
  .joined rfl (sound.bound false true)

theorem typeParameter {attributes : Tree} (formed : attributes.Formed) :
    Faithful (Parser.typeParameter g attributes) attributes.marks .tree := by
  unfold Parser.typeParameter
  refine .skip .name fun name => .skip (.operator? rfl) fun _ => ?_
  refine .choose sound.boundList.asList (.pure (by simp) (.of_eq (by simp)))
    fun bounds (inner : bounds.Formed) => ?_
  refine .skip (.operator? rfl) fun _ => ?_
  refine .optional (sound.type true) fun fallback further => ?_
  exact .node rfl (by simp [formed, inner, further]) (.of_eq (by simp))

theorem constParameter {attributes : Tree} (formed : attributes.Formed) :
    Faithful (Parser.constParameter g attributes) attributes.marks .tree := by
  unfold Parser.constParameter
  refine .skip (.keyword rfl) fun _ => .skip .name fun name => .skip (.operator rfl) fun _ => ?_
  refine .tree (sound.type true) fun type inner => .skip (.operator? rfl) fun _ => ?_
  refine .optional sound.constArgument fun fallback further => ?_
  exact .node rfl (by simp [formed, inner, further]) (.of_eq (by simp))

theorem genericParameter (bare : Bool) : Faithful (Parser.genericParameter g bare) [] .tree := by
  unfold Parser.genericParameter
  refine .tree sound.attributeList.plain fun attributes formed => ?_
  refine .test (lifetimeParameter_faithful formed) ?_
  refine .test (sound.typeParameter formed) ?_
  refine .test (sound.constParameter formed) (.testAt (fun tokens found => ?_) .fail)
  refine (anyWord_at (atPlain_of_atWord (Bool.and_eq_true_iff.mp found).2 rfl)).skip fun word => ?_
  exact .node rfl (by simp [formed]) (.of_eq (by simp))

theorem genericParameters : Faithful (Parser.genericParameters g) [] .tree := by
  unfold Parser.genericParameters
  refine .skip (.operator? rfl) fun _ => .ite ?_ (.pure formed_absent (.of_eq (by simp)))
  refine .trees (.separated (.operator rfl) (sound.genericParameter true)) fun parameters formed => ?_
  refine .skip (.operator rfl) fun _ => ?_
  exact .pure (by simpa using formed) (.of_eq (by simp))

theorem boundLifetimes : Faithful (Parser.boundLifetimes g) [] .tree := by
  unfold Parser.boundLifetimes
  refine .skip (.keyword? rfl) fun _ => .ite ?_ (.pure formed_absent (.of_eq (by simp)))
  refine .skip (.operator rfl) fun _ => ?_
  refine .trees (.separated (.operator rfl) (sound.genericParameter false)) fun parameters formed => ?_
  refine .skip (.operator rfl) fun _ => ?_
  exact .node rfl formed (.of_eq (by simp))

/-! ### Conditions -/

theorem condition : Faithful (Parser.condition g) [] .tree := by
  unfold Parser.condition
  refine .test ?_ ?_
  · refine .bare .lifetime fun name formed bare => .skip (.operator rfl) fun _ => ?_
    refine .tree lifetimeBounds_faithful fun bounds inner => ?_
    exact .node rfl (by simp [formed, inner]) (.of_eq (by simp [bare]))
  · refine .tree sound.boundLifetimes fun lifetimes formed => ?_
    refine .tree (sound.type true) fun type inner => .skip (.operator rfl) fun _ => ?_
    refine .trees sound.boundList fun bounds further => ?_
    exact .node rfl (by simpa [formed, inner] using further) (.of_eq (by simp))

/-- What the conditions hold is aside. -/
theorem whereClause : Faithful (Parser.whereClause g) [] (.treeWith (AllAside ·.marks)) := by
  have listed : Faithful (joined endsConditions "," (Parser.condition g)) []
      ⟨fun trees => ∀ tree ∈ trees, tree.Formed, marksAll⟩ :=
    (Faithful.joined rfl sound.condition).weaken fun _ formed => ⟨formed, .of_eq (by simp)⟩
  unfold Parser.whereClause
  refine .skip (.keyword? rfl) fun _ => .ite ?_ (.pure (by simp) (.of_eq (by simp)))
  refine listed.setAside.bind fun conditions formed => ?_
  exact .pure ⟨formed_of_kindOf? rfl trivial formed, by simp⟩ (.of_eq (by simp))

/-! ### Bounds -/

theorem traitBound (constant parenthesized : Bool) :
    Faithful (Parser.traitBound g constant parenthesized) [] .tree := by
  unfold Parser.traitBound
  refine .tree sound.boundLifetimes fun lifetimes formed => .at? fun bracketed => ?_
  extract_lets afterMark
  have rest (marked : Bool) : Faithful (afterMark marked) lifetimes.marks .tree := by
    refine .guard fun _ => .skip (.operator? rfl) fun relaxed => ?_
    extract_lets afterLifetimes
    have last (inner : Tree) (fits : inner.Formed) :
        Faithful (afterLifetimes inner) inner.marks .tree := by
      refine .bind sound.boundPath fun path further => .guard fun _ => .ite .keep ?_
      exact .pure (formed_traitBound _ (by simp [fits, further.1])) (.of_eq (by simp [marks_traitBound]))
    by_cases again : (lifetimes.isAbsent && relaxed) = true
    · rw [if_pos again, formed.marks_of_isAbsent (Bool.and_eq_true_iff.mp again).1]
      exact .tree sound.boundLifetimes last
    · rw [if_neg again]
      exact last lifetimes formed
  refine .ite ?_ (.skip (.keyword? rfl) rest)
  exact .skip (.brackets (.keyword rfl)) fun _ => rest true

theorem bound_next (captures constant : Bool) : Faithful (Parser.bound g captures constant) [] .tree := by
  unfold Parser.bound
  refine .test Faithful.lifetime.plain (.test ?_ (.test (sound.traitBound constant true).parens
    (sound.traitBound constant false)))
  exact .tree preciseCapture_faithful fun captured formed => .guard fun _ => .pure formed (.of_eq (by simp))

theorem trailingBounds (captures constant : Bool) :
    Faithful (Parser.trailingBounds g captures constant) [] (.each .tree) := by
  have fueled (fuel : Nat) :
      Faithful (Parser.trailingBounds.go g captures constant fuel) [] (.each .tree) := by
    induction fuel with
    | zero => exact .fail
    | succ fuel ih =>
      unfold Parser.trailingBounds.go
      have none : Faithful (pure [] : Parser (List Tree)) [] (.each .tree) :=
        .pure (by simp) (.of_eq (by simp))
      refine .skip (.operator? rfl) fun _ => .ite (.test ?_ none) none
      exact .tree (sound.bound captures constant) fun first formed => ih.cons_of formed
  exact .of_fuel fueled fun _ => rfl

theorem bounds (plus captures constant : Bool) :
    Faithful (Parser.bounds g plus captures constant) [] (.each .tree) := by
  unfold Parser.bounds
  refine .tree (sound.bound captures constant) fun first formed => .ite ?_ ?_
  · exact (sound.trailingBounds captures constant).cons_of formed
  · exact .pure (by simpa using formed) (.of_eq (by simp))

theorem plusBounds : Faithful (Parser.plusBounds g) [] (.each .tree) :=
  .whileAt (.skip (.operator rfl) fun _ => sound.bound false false)

theorem traitObjectBounds (plus : Bool) :
    Faithful (Parser.traitObjectBounds g plus) [] (.each .tree) := by
  unfold Parser.traitObjectBounds
  refine .trees (sound.bounds plus false false) fun bounds formed => .guard fun _ => ?_
  exact .pure formed (.of_eq (by simp))

/-! ### Types -/

/-- An argument keeps its attributes, or is kept as tokens with them. -/
theorem functionTypeArgument (first : Bool) {attributes : List Tree}
    (formed : ∀ tree ∈ attributes, tree.Formed) :
    Faithful (Parser.functionTypeArgument g first attributes) (marksAll attributes) .tree := by
  unfold Parser.functionTypeArgument
  refine .at? fun mutableSelf => ?_
  extract_lets afterMut
  have rest (step : Unit) : Faithful (afterMut step) (marksAll attributes) .tree := by
    refine fun tokens => .at? (.at? ?_)
    extract_lets selfNamed afterName
    have last (name : String) : Faithful (afterName name) (marksAll attributes) .tree := by
      refine .test (.skip (.keyword rfl) fun _ => .skip (.keyword rfl) fun _ => .keep) ?_
      refine .ite (.skip (.keyword rfl) fun _ => .keep) ?_
      refine .tree (sound.type true) fun type inner => .ite .keep ?_
      exact .node rfl (by simpa [inner] using formed) (.of_eq (by simp))
    refine .ite (fun named => ?_) fun _ => Faithful.skip .value last tokens
    have plain : AtPlain tokens := by
      simp only [Bool.and_eq_true, Bool.or_eq_true] at named
      rcases named.1.1 with (name | underscore) | self
      · exact atPlain_of_atName name
      · exact atPlain_of_atWord underscore rfl
      · exact atPlain_of_atWord self.2 rfl
    exact ((anyWord_at plain).followedBy (.operator rfl)).skip last
  exact .ite (.skip (.keyword rfl) rest) (rest ())

theorem functionTypeArguments :
    Faithful (Parser.functionTypeArguments g) [] (.both (.each .tree) .tree) := by
  have fueled (fuel : Nat) (first : Bool) :
      Faithful (Parser.functionTypeArguments.go g fuel first) [] (.both (.each .tree) .tree) := by
    induction fuel generalizing first with
    | zero => exact .fail
    | succ fuel ih =>
      unfold Parser.functionTypeArguments.go
      refine .test (.pure (by simp) (.of_eq (by simp))) ?_
      refine .attributes sound.outerAttributes fun attributes formed _ => .testAt ?_ ?_
      · refine fun tokens found => .at? ?_
        extract_lets afterName
        have last (name : String) :
            Faithful (afterName name) ([] ++ marksAll attributes) (.both (.each .tree) .tree) := by
          refine .skip (.operator rfl) fun _ => .skip (.operator? rfl) fun _ => ?_
          have variadic : Formed (.node .variadic [.list attributes, .word name]) :=
            formed_of_isPlain rfl (by simpa using formed)
          refine .pure ⟨by simp, variadic⟩ (.of_eq ?_)
          simp (disch := decide) [marks_of_isPlain]
        have plain : AtPlain tokens := by
          simp only [Bool.and_eq_true, Bool.or_eq_true] at found
          rcases found with points | ⟨⟨name | underscore, -⟩, -⟩
          · exact atPlain_of_atOperator points
          · exact atPlain_of_atName name
          · exact atPlain_of_atWord underscore rfl
        exact .ite (fun _ => ((anyWord_at plain).followedBy (.operator rfl)).skip last)
          fun _ => Faithful.skip .value last tokens
      · refine .thread (sound.functionTypeArgument first formed) fun argument (inner : argument.Formed) => ?_
        refine .test (.pure (by simpa using inner) (.of_eq (by simp))) ?_
        refine .skip (.operator rfl) fun _ => .bind (ih false) fun (rest, variadic) fits => ?_
        exact .pure (by simpa [inner] using fits) (.of_eq (by simp))
  exact .of_fuel (fueled · true) fun _ => rfl

theorem functionType {lifetimes : Tree} (formed : lifetimes.Formed) :
    Faithful (Parser.functionType g lifetimes) lifetimes.marks .tree := by
  unfold Parser.functionType
  refine .flag rfl fun unsafety => .bare abi?_faithful fun abi further bare => ?_
  refine .skip (.keyword rfl) fun _ => ?_
  refine .bind sound.functionTypeArguments.parens fun (arguments, variadic) ⟨fits, open_⟩ => ?_
  refine .tree (sound.returnType false) fun output last => ?_
  simp only [Account.each_holds, Account.tree_holds] at fits open_
  exact .node rfl (by simpa [formed, further, open_, last] using fits) (.of_eq (by simp [bare]))

omit sound in
/-- A type taken as a bound shows the same. -/
theorem boundOfType?_eq {type bound : Tree} (formed : type.Formed)
    (found : boundOfType? type = some bound) : bound.Formed ∧ type.marks = bound.marks := by
  unfold boundOfType? at found
  split at found
  · next segments =>
    cases found
    have path := formed.children rfl (.node .path segments) (by simp)
    exact ⟨formed_traitBound _ (by simp [path]), by
      simp (disch := decide) [marks_traitBound, marks_of_isPlain]⟩
  · next opening rest =>
    cases found
    have bounds := formed.children rfl (.list [.node .traitBound (opening :: rest)]) (by simp [Tree.list])
    have inner := bounds.children rfl (.node .traitBound (opening :: rest)) (by simp)
    obtain ⟨-, ⟨word, parts, same⟩, -⟩ := formed_node.mp inner
    obtain ⟨rfl, rfl⟩ : opening = .word word ∧ rest = parts := by simpa using same
    have all := inner.children rfl
    refine ⟨formed_traitBound _ fun part member => all part (by simp [member]), ?_⟩
    simp (disch := decide) [marks_of_isPlain, marks_traitBound]
  · cases found

omit sound in
theorem traitObject {dynamic : String} {bounds : List Tree} {before : List Mark}
    (formed : ∀ bound ∈ bounds, bound.Formed) (step : Becomes before (marksAll bounds)) :
    Faithful (pure (Parser.traitObject dynamic bounds)) before .tree :=
  .node rfl (by simpa using formed) (by simpa using step)

theorem enclosed : Faithful (Parser.enclosed g) [] .enclosed := by
  have closed {kind : Kind} {children : List Tree} {before : List Mark}
      (plain : isPlain kind = true) (formed : ∀ child ∈ children, child.Formed)
      (same : before = marksAll children) :
      Faithful (pure (Enclosed.closed (.node kind children))) before .enclosed :=
    .pure (formed_of_isPlain plain formed) (.of_eq (same.trans (marks_of_isPlain plain).symm))
  unfold Parser.enclosed
  refine .test (closed rfl (by simp) (by simp)) (.test ?_ (.test ?_ ?_))
  · refine .trees (sound.traitObjectBounds true) fun bounds formed => closed rfl ?_ ?_
    · simpa (disch := decide) [Parser.traitObject, formed_iff_of_isPlain] using formed
    · simp (disch := decide) [Parser.traitObject, marks_of_isPlain]
  · exact (sound.traitBound false true).map fun bound formed => ⟨formed, .of_eq rfl⟩
  · refine .tree (sound.type true) fun first formed => .skip (.operator? rfl) fun _ => .ite ?_ ?_
    · refine .trees (.commaSeparated (sound.type true)) fun rest further => ?_
      exact closed rfl (by simpa [formed] using further) (by simp)
    · exact .pure formed (.of_eq (by simp [Account.enclosed, Enclosed.tree]))

theorem parenthesizedType (plus : Bool) : Faithful (Parser.parenthesizedType g plus) [] .tree := by
  unfold Parser.parenthesizedType
  refine .bind sound.enclosed.parens fun inner (formed : inner.tree.Formed) => ?_
  cases inner with
  | closed type => exact .pure formed (.of_eq (by simp [Account.enclosed, Enclosed.tree]))
  | relaxedBound bound =>
    refine .trees sound.plusBounds fun bounds further => traitObject ?_ (.of_eq ?_)
    · simpa using ⟨formed, further⟩
    · simp [Account.enclosed, Enclosed.tree]
  | single type =>
    replace formed : type.Formed := formed
    refine .at? fun follows => ?_
    dsimp only
    split
    · next bound taken =>
      have found : boundOfType? type = some bound := by
        split at taken
        · exact taken
        · cases taken
      obtain ⟨fits, same⟩ := boundOfType?_eq formed found
      have same : type.marks = bound.marks := same
      refine .trees sound.plusBounds fun bounds further => traitObject ?_ (.of_eq ?_)
      · simpa using ⟨fits, further⟩
      · simp [Account.enclosed, Enclosed.tree, same]
    · exact .node rfl (by simpa using formed) (.of_eq (by simp [Account.enclosed, Enclosed.tree]))

theorem arrayOrSlice : Faithful (Parser.arrayOrSlice g) [] .tree := by
  refine .brackets (.tree (sound.type true) fun element formed => .skip (.operator? rfl) fun _ => .ite ?_ ?_)
  · refine .tree (sound.expression true) fun length inner => ?_
    exact .node rfl (by simp [formed, inner]) (.of_eq (by simp))
  · exact .node rfl (by simp [formed]) (.of_eq (by simp))

/-- A type that begins with a path, after lifetimes only where the path begins with no type. -/
theorem pathType (plus : Bool) {lifetimes : Tree} (formed : lifetimes.Formed) (tokens : Tokens)
    (free : lifetimes.isAbsent = true ∨ tokens.atOperator "<" = false) :
    FaithfulAt tokens (Parser.pathType g plus lifetimes) lifetimes.marks .tree := by
  have path : FaithfulAt tokens (Parser.qualifiedPath g false) []
      (.treeWith fun path => lifetimes.isAbsent = true ∨ IsPath path) := by
    rcases free with absent | unqualified
    · have weak : Faithful (Parser.qualifiedPath g false) []
          (.treeWith fun path => lifetimes.isAbsent = true ∨ IsPath path) :=
        (sound.qualifiedPath false).weaken fun _ fits => ⟨⟨fits, .inl absent⟩, .refl _⟩
      exact weak tokens
    · intro value rest run
      obtain ⟨⟨fits, path⟩, taken⟩ := sound.qualifiedPath_at false unqualified value rest run
      exact ⟨⟨fits, .inr path⟩, taken⟩
  unfold Parser.pathType
  refine path.bind ?_
  rintro path ⟨fits, free⟩
  have plain (absent : lifetimes.isAbsent = true) :
      Faithful (pure (.node .pathType [path])) (lifetimes.marks ++ path.marks) .tree :=
    .node rfl (by simpa using fits) (.of_eq (by simp [formed.marks_of_isAbsent absent]))
  refine fun tokens => .ite (fun qualified => plain ?_ tokens) fun unqualified => ?_
  · refine free.resolve_right ?_
    rintro ⟨leading, segments, rfl, -⟩
    simp [isUnqualified, is, kind?] at qualified
  have whole : IsPath path := fits.isPath (by simpa [isUnqualified] using unqualified)
  refine Faithful.testAt (fun tokens found => ?_) (fun tokens => .at? ?_) tokens
  · have none := marks_of_isPlainPath whole (Bool.and_eq_true_iff.mp found).2
    have call := invocation_faithful fits
    rw [none] at call
    refine call.bind ?_ tokens
    rintro _ ⟨inner, body, rfl⟩
    refine .node rfl (by simp [inner]) ?_
    simpa (disch := decide) [marks_node, none] using Becomes.kept _
  · refine .ite (fun _ => ?_) fun ends => plain ?_ tokens
    · have first : Formed (.node .traitBound [.word "", .word "", lifetimes, path]) :=
        formed_traitBound "" (by simp [formed, fits])
      refine Faithful.choose (sound.trailingBounds false false) (.pure (by simp) (.of_eq (by simp)))
        (fun rest further => traitObject ?_ (.of_eq ?_)) tokens
      · simpa [first] using further
      · simp [marks_traitBound]
    · simp only [Bool.or_eq_true, not_or] at ends
      simpa using ends.1

theorem type_next (plus : Bool) : Faithful (Parser.type g plus) [] .tree := by
  unfold Parser.type
  refine .tree sound.boundLifetimes fun lifetimes formed => ?_
  extract_lets rest
  by_cases absent : lifetimes.isAbsent = true
  · have function := sound.functionType formed
    have path (tokens : Tokens) := sound.pathType plus formed tokens (.inl absent)
    rw [formed.marks_of_isAbsent absent] at function path
    rw [if_neg (by simp [absent]), formed.marks_of_isAbsent absent]
    refine .test (sound.parenthesizedType plus) (.test function (.test path ?_))
    refine .skip (.keyword? rfl) fun _ => .ite ?_ (.test sound.arrayOrSlice ?_)
    · refine .skip (.operator? rfl) fun starred => .trees (sound.traitObjectBounds plus) fun bounds fits => ?_
      cases starred with
      | true => exact .keep
      | false => exact traitObject fits (.of_eq (by simp))
    refine .skip (.operator? rfl) fun _ => .ite ?_ (.skip (.operator? rfl) fun _ => .ite ?_ ?_)
    · refine .skip (.keyword? rfl) fun _ => .chooseSilent .value (.andThen (.keyword rfl) .value) fun access => ?_
      exact .tree (sound.type false) fun type inner => .node rfl (by simp [inner]) (.of_eq (by simp))
    · refine .bare .lifetime? fun lifetime first bare => .flag rfl fun mutability => ?_
      refine .tree (sound.type false) fun type second => ?_
      exact .node rfl (by simp [first, second]) (.of_eq (by simp [bare]))
    refine .skip (.operator? rfl) fun _ => .ite (.node rfl (by simp) (.of_eq (by simp))) ?_
    refine .skip (.keyword? rfl) fun _ => .ite ?_ ?_
    · refine .trees (sound.bounds plus true true) fun bounds fits => .guard fun _ => ?_
      exact .node rfl (by simpa using fits) (.of_eq (by simp))
    refine .skip (.keyword? rfl) fun _ => .ite (.node rfl (by simp) (.of_eq (by simp))) (.test ?_ .fail)
    exact .trees (sound.traitObjectBounds true) fun bounds fits => traitObject fits (.of_eq (by simp))
  -- after lifetimes there stands a word that begins a path or a function type
  · rw [if_pos (by simp [absent])]
    refine .guardAt fun tokens found => ?_
    obtain ⟨text, more, rfl⟩ : ∃ text more, tokens = .word text :: more := by
      rcases tokens with _ | ⟨_ | _ | _ | _, more⟩
      all_goals first | exact ⟨_, _, rfl⟩ | cases found
    have begins : atPathWord (.word text :: more) = true ∨
        Tokens.atOneOf ["fn", "unsafe", "extern"] (.word text :: more) = true := by
      rcases Bool.or_eq_true_iff.mp (Bool.and_eq_true_iff.mp found).1 with name | word
      · exact .inl (Bool.or_eq_true_iff.mpr (.inl name))
      · simp only [Tokens.atOneOf, List.contains_cons, List.contains_nil, atPathWord, pathWords,
          Bool.or_eq_true] at word ⊢
        tauto
    refine .at? (.ite (fun parens => by cases parens) fun _ => ?_)
    refine .at? (.ite (fun _ => sound.functionType formed _) fun other => ?_)
    refine .at? (.ite (fun _ => sound.pathType plus formed _ (.inr rfl)) fun last => ?_)
    simp [begins.resolve_right other] at last

end Grammar.Sound

end Scaffold.Rust
