import Scaffold.Proofs.Rust.Parser.Field

/-! Signatures, and the items of traits, implementations and foreign modules give a true account. -/

namespace Scaffold.Rust

namespace Account

/-- A signature, whose name may be that of a declaration. -/
def signature (declares : Bool) : Account (String × Tree × Bool) where
  holds value := value.2.1.Formed
  marks value := Parser.ownMark declares .function value.1 ++ value.2.1.marks

/-- A type item, whose name may be that of a declaration. -/
def typeItem (declares : Bool) : Account Parser.TypeItem where
  holds item := item.generics.Formed ∧ (∀ bound ∈ item.bounds, bound.Formed) ∧ item.definition.Formed ∧
    (item.bounded = false → item.bounds = [])
  marks item := Parser.ownMark declares .typeAlias item.name ++
    (item.generics.marks ++ (Tree.marksAll item.bounds ++ item.definition.marks))

/-- A constant after its keyword. One without parameters and conditions shows nothing else. -/
def constant (own : String → List Mark) : Account (String × Tree × Tree × Bool) where
  holds value := value.2.1.Formed ∧ value.2.2.1.Formed
  marks value := own value.1 ++ if value.2.2.2 then [.kept] else value.2.1.marks ++ value.2.2.1.marks

end Account

namespace Grammar.Sound

open Scaffold.Rust.Parser Tree

variable {g : Grammar} (sound : g.Sound)
include sound

/-! ### Signatures -/

theorem receiver {attributes : List Tree} (formed : ∀ tree ∈ attributes, tree.Formed) :
    Faithful (Parser.receiver g attributes) (marksAll attributes) .tree := by
  unfold Parser.receiver
  refine .skip (.operator? rfl) fun reference => ?_
  refine .optional Faithful.lifetime?.plain fun lifetime first => ?_
  refine .flag rfl fun mutability => .skip (.keyword rfl) fun _ => .at? fun _ => ?_
  refine .optional (.andThen (.operator rfl) (sound.type true)) fun type second => ?_
  exact .node rfl (by simpa [first, second] using formed) (.of_eq (by simp))

theorem typedParameter {attributes : List Tree} (formed : ∀ tree ∈ attributes, tree.Formed) :
    Faithful (Parser.typedParameter g attributes) (marksAll attributes) .tree := by
  unfold Parser.typedParameter
  refine .test ?_ ?_
  · refine .tree (sound.type true) fun type inner => ?_
    refine .node rfl ?_ (.of_eq ?_)
    · simpa (disch := decide) [inner, formed_iff_of_isPlain] using formed
    · simp (disch := decide) [marks_of_isPlain]
  · refine .tree sound.pattern fun pattern inner => .skip (.operator rfl) fun _ => ?_
    refine .skip (.operator? rfl) fun _ => .ite ?_ (.tree (sound.type true) fun type last => ?_)
    · exact .node rfl (by simpa [inner] using formed) (.of_eq (by simp))
    · exact .node rfl (by simpa [inner, last] using formed) (.of_eq (by simp))

theorem parameters : Faithful (Parser.parameters g) [] (.both (.each .tree) .tree) := by
  have fueled (fuel : Nat) (first : Bool) :
      Faithful (Parser.parameters.go g fuel first) [] (.both (.each .tree) .tree) := by
    induction fuel generalizing first with
    | zero => exact .fail
    | succ fuel ih =>
      unfold Parser.parameters.go
      refine .test (.pure (by simp) (.of_eq (by simp))) ?_
      refine .attributes sound.outerAttributes fun attributes formed _ => .skip (.operator? rfl) fun _ => ?_
      refine .chooseFrom (.node rfl (by simpa using formed) (.of_eq (by simp)))
        (.orElse (sound.receiver formed) (sound.typedParameter formed))
        fun parameter (inner : parameter.Formed) => .ite ?_ (.guard fun _ => .test ?_ ?_)
      · have last : Faithful (pure ([], parameter)) parameter.marks (.both (.each .tree) .tree) :=
          .pure (by simpa using inner) (.of_eq (by simp))
        exact .at? fun _ => .ite (.skip (.operator rfl) fun _ => last) last
      · exact .pure (by simpa using inner) (.of_eq (by simp))
      · refine .skip (.operator rfl) fun _ => .bind (ih false) fun (rest, variadic) fits => ?_
        exact .pure (by simpa [inner] using fits) (.of_eq (by simp))
  exact .of_fuel (fueled · true) fun _ => rfl

/-- The conditions of a signature stand after its parameters. -/
theorem signature (safe declares : Bool) :
    Faithful (Parser.signature g safe) [] (.signature declares) := by
  unfold Parser.signature
  refine .flag rfl fun constness => .flag rfl fun asyncness => .flag rfl fun unsafety => .at? fun _ => ?_
  refine .chooseSilent (.andThen (.keyword rfl) .value) .value fun marked => ?_
  refine .bare abi?_faithful fun abi first bare => .named .function declares rfl (by decide) fun word => ?_
  refine .tree sound.genericParameters fun parameters second => ?_
  refine .bind sound.parameters.parens fun (inputs, variadic) ⟨third, fourth⟩ => ?_
  refine .tree (sound.returnType true) fun output fifth => ?_
  refine .bind sound.whereClause fun conditions ⟨sixth, aside⟩ => ?_
  simp only [Account.each_holds, Account.tree_holds] at third fourth
  have generics : Formed (.node .generics [parameters, conditions]) := formed_generics second sixth
  refine .pure (formed_of_isPlain rfl (by simpa [first, generics, fourth, fifth] using third)) ?_
  refine .of_counts ?_ fun mark => ?_
  · simp (disch := decide) [Account.signature, marks_of_isPlain, aside.filter_eq, bare]
  · simp (disch := decide) [Account.signature, marks_of_isPlain, bare]
    omega

/-! ### Types and constants -/

theorem typeItem (allowDefault declares : Bool) (place : ConditionPlace) :
    Faithful (Parser.typeItem g allowDefault place) [] (.typeItem declares) := by
  unfold Parser.typeItem
  refine .skip visibility_faithful fun visibility => ?_
  refine .chooseSilent (.keyword? rfl) .value fun isDefault => .named .typeAlias declares rfl (by decide) fun word => ?_
  refine .tree sound.genericParameters fun parameters first => ?_
  refine .skip (.operator? rfl) fun bounded => ?_
  let boundAccount : Account (List Tree) :=
    ⟨fun bounds => (∀ bound ∈ bounds, bound.Formed) ∧ (bounded = false → bounds = []), marksAll⟩
  have listed (holds : bounded = true) : Faithful (joined (fun ts => ts.atWord "where" ||
      ts.atOperator "=" || ts.atOperator ";") "+" (g.bound false true)) [] boundAccount :=
    sound.boundList.weaken fun bounds formed =>
      ⟨⟨formed, by simp [holds]⟩, .of_eq (by simp [boundAccount])⟩
  refine .chooseIf boundAccount listed
    (fun _ => .pure ⟨by simp, fun _ => rfl⟩ (.of_eq (by simp [boundAccount])))
    fun bounds ⟨second, unbounded⟩ => ?_
  refine .chooseIf (.treeWith (AllAside ·.marks))
    (fun _ => .pure ⟨formed_absent, by simp⟩ (.of_eq (by simp))) (fun _ => sound.whereClause)
    fun early ⟨third, earlyAside⟩ => ?_
  refine .skip (.operator? rfl) fun _ => .optional (sound.type true) fun definition fourth => ?_
  let lateAccount : Account Tree :=
    .treeWith fun late => AllAside late.marks ∧ (early.isAbsent = false → late.marks = [])
  refine .chooseIf lateAccount (fun free => ?_)
    (fun _ => .pure (by simp [lateAccount]) (.of_eq (by simp [lateAccount])))
    fun late ⟨fifth, lateAside, only⟩ => .skip (.operator rfl) fun _ => ?_
  · exact sound.whereClause.weaken fun late ⟨formed, aside⟩ =>
      ⟨⟨formed, aside, by simp [free.2]⟩, .refl _⟩
  -- the conditions are those of one place, the other has none
  by_cases absent : early.isAbsent = true
  · have generics : Formed (.node .generics [parameters, late]) := formed_generics first fifth
    simp only [absent, if_true]
    refine .pure ⟨generics, second, fourth, unbounded⟩ (.of_counts ?_ fun mark => ?_)
    · simp (disch := decide) [Account.typeItem, marks_of_isPlain, lateAside.filter_eq, boundAccount,
        lateAccount, third.marks_of_isAbsent absent]
    · simp (disch := decide) [Account.typeItem, marks_of_isPlain, boundAccount, lateAccount,
        third.marks_of_isAbsent absent]
      omega
  · have generics : Formed (.node .generics [parameters, early]) := formed_generics first third
    simp only [absent]
    refine .pure ⟨generics, second, fourth, unbounded⟩ (.of_counts ?_ fun mark => ?_)
    · simp (disch := decide) [Account.typeItem, marks_of_isPlain, earlyAside.filter_eq, boundAccount,
        lateAccount, only (by simpa using absent)]
    · simp (disch := decide) [Account.typeItem, marks_of_isPlain, boundAccount, lateAccount,
        only (by simpa using absent)]
      omega

/-- A constant begins with its name. -/
theorem constant (own : String → List Mark) :
    Leading (Parser.constant g) own [] (.constant own) := by
  unfold Parser.constant
  refine .guardAt (fun tokens found => ?_) fun word => ?_
  · rcases Bool.or_eq_true_iff.mp found with name | underscore
    · exact atPlain_of_atName name
    · exact atPlain_of_atWord underscore rfl
  refine .tree sound.genericParameters fun parameters first => .skip (.operator rfl) fun _ => ?_
  refine .tree (sound.type true) fun type second => .skip (.operator? rfl) fun _ => ?_
  refine .optional (sound.expression true) fun value third => ?_
  refine .bind sound.whereClause fun conditions ⟨fourth, _⟩ => .skip (.operator rfl) fun _ => ?_
  refine .pure ⟨second, third⟩ ?_
  by_cases generic : (!parameters.isAbsent || !conditions.isAbsent) = true
  · simpa [Account.constant, generic] using Becomes.left (own word) (.kept _)
  · obtain ⟨none, last⟩ : parameters.isAbsent = true ∧ conditions.isAbsent = true := by
      simpa using generic
    refine .of_eq ?_
    simp [Account.constant, none, last, first.marks_of_isAbsent none, fourth.marks_of_isAbsent last]

omit sound in
theorem invocationItem {attributes : Tree} (formed : attributes.Formed) :
    Faithful (Parser.invocationItem attributes) attributes.marks (.treeWith DeclaresNothing) := by
  unfold Parser.invocationItem
  refine .bare .plainPath fun path first bare => ?_
  have call := invocation_faithful first
  rw [bare] at call
  refine .bind call fun call ⟨second, _⟩ => ?_
  extract_lets afterSemicolon
  have last (step : Unit) :
      Faithful (afterSemicolon step) (attributes.marks ++ call.marks) (.treeWith DeclaresNothing) :=
    .only (.node rfl (by simp [formed, second]) (.of_eq (by simp))) rfl
  exact .ite (.skip (.operator rfl) last) (last ())

/-! ### Members -/

/-- A function in a trait or an implementation with its body. -/
theorem associatedBody {attributes : List Tree} (formed : ∀ tree ∈ attributes, tree.Formed)
    (visibility isDefault : String) {signature : String × Tree × Bool}
    (fits : (Account.signature false).holds signature) :
    Faithful (Parser.functionBody g >>= fun body => pure (.node .associatedFunction
        [.list (attributes ++ body.1), .word visibility, .word isDefault, .word signature.1,
          signature.2.1, body.2]))
      (marksAll attributes ++ (Account.signature false).marks signature)
      (.treeWith DeclaresNothing) := by
  have first : signature.2.1.Formed := fits
  refine .afterAttributes sound.attributedBlock fun inner block second aside third => ?_
  simp only [Account.tree_holds] at third
  refine .only (.node rfl ?_ (.of_counts ?_ fun mark => ?_)) rfl
  · simpa [first, third] using List.forall_mem_append.mpr ⟨formed, second⟩
  · simp [Account.signature, ownMark, aside.filter_eq]
  · simp [Account.signature, ownMark]
    omega

theorem traitFunction {attributes : List Tree} (formed : ∀ tree ∈ attributes, tree.Formed) :
    Faithful (Parser.traitFunction g attributes) (marksAll attributes) (.treeWith DeclaresNothing) := by
  unfold Parser.traitFunction
  refine .bind (sound.signature false false) fun (text, tree, _) fits => ?_
  have first : tree.Formed := fits
  refine .test ?_ ?_
  · exact sound.associatedBody formed _ _ fits
  · refine .skip (.operator rfl) fun _ => .only (.node rfl ?_ (.of_eq ?_)) rfl
    · simpa [first] using formed
    · simp [Account.signature, ownMark]

theorem implFunction {attributes : List Tree} (formed : ∀ tree ∈ attributes, tree.Formed)
    (visibility : String) (isDefault : Bool) :
    Faithful (Parser.implFunction g attributes visibility isDefault) (marksAll attributes)
      (.treeWith DeclaresNothing) := by
  unfold Parser.implFunction
  refine .bind (sound.signature false false) fun signature fits => ?_
  refine .skip (.operator? rfl) fun _ => .ite (.only .keep rfl) ?_
  exact sound.associatedBody formed _ _ fits

theorem traitMember : Faithful (Parser.traitMember g) [] (.treeWith DeclaresNothing) := by
  unfold Parser.traitMember
  refine .attributes sound.outerAttributes fun attributes formed _ => ?_
  refine .skip visibility_faithful fun visibility => .skip (.keyword? rfl) fun isDefault => ?_
  extract_lets kept afterMember
  have last (member : Tree) (fits : member.Formed ∧ DeclaresNothing member) :
      Faithful (afterMember member) member.marks (.treeWith DeclaresNothing) := by
    dsimp only [afterMember]
    cases kept with
    | true => exact (Faithful.keep).only rfl
    | false => exact .pure fits (.refl _)
  refine .at? fun _ => .at? fun _ => .at? fun _ => ?_
  refine .ite (.thread (sound.traitFunction formed) last) (.ite (.skip (.keyword rfl) fun _ => ?_) (.ite ?_ ?_))
  · refine .bind (sound.constant fun _ => []).passed fun (text, type, value, generic) fits => ?_
    have first : type.Formed ∧ value.Formed := fits
    refine .chooseFromIf (.treeWith DeclaresNothing) (fun _ => .only .keep rfl)
      (fun plain => .only (.node rfl (by simpa [first] using formed) (.of_eq ?_)) rfl) last
    simp [Account.constant, plain]
  · refine .bind (sound.typeItem false false .after) fun item ⟨first, second, third, _⟩ => ?_
    refine .thread (show Faithful _ _ (.treeWith DeclaresNothing) from
      .only (.node rfl ?_ (.of_eq ?_)) rfl) last
    · simpa [first, third] using ⟨formed, second⟩
    · simp [Account.typeItem, ownMark]
  · refine .at? fun _ => .guard fun _ => ?_
    have call := invocationItem (formed_list.mpr formed)
    exact .thread (by simpa using call) last

theorem implMember : Faithful (Parser.implMember g) [] (.treeWith DeclaresNothing) := by
  unfold Parser.implMember
  refine .attributes sound.outerAttributes fun attributes formed _ => ?_
  refine .skip visibility_faithful fun visibility => .at? fun _ => ?_
  refine .chooseSilent (.andThen (.keyword rfl) .value) .value fun isDefault => ?_
  refine .test (sound.implFunction formed visibility isDefault) ?_
  refine .skip (.keyword? rfl) fun _ => .ite ?_ (.test ?_ (.at? fun _ => .guard fun _ => ?_))
  · refine .bind (sound.constant fun _ => []).passed fun (text, type, value, generic) fits => ?_
    have first : type.Formed ∧ value.Formed := fits
    refine .iteIf (fun _ => .only .keep rfl) fun plain => ?_
    have simple : generic = false := by simp_all
    refine .only (.node rfl (by simpa [first] using formed) (.of_eq ?_)) rfl
    simp [Account.constant, simple]
  · refine .bind (sound.typeItem false false .after) fun item ⟨first, second, third, unbounded⟩ => ?_
    refine .iteIf (fun _ => .only .keep rfl) fun plain => ?_
    have none : item.bounds = [] := unbounded (by simp_all)
    refine .only (.node rfl (by simpa [first, third] using formed) (.of_eq ?_)) rfl
    simp [Account.typeItem, ownMark, none]
  · simpa using invocationItem (formed_list.mpr formed)

/-! ### Foreign modules -/

theorem foreignStatic {attributes : List Tree} (formed : ∀ tree ∈ attributes, tree.Formed)
    (visibility : String) :
    Faithful (Parser.foreignStatic g attributes visibility) (marksAll attributes)
      (.treeWith DeclaresNothing) := by
  unfold Parser.foreignStatic
  refine .skip (.keyword? rfl) fun unsafety => .chooseSilent .value (.keyword? rfl) fun safe => ?_
  refine .skip (.keyword rfl) fun _ => .flag rfl fun mutability => .skip .name fun text => ?_
  refine .skip (.operator rfl) fun _ => .tree (sound.type true) fun type first => ?_
  refine .skip (.operator? rfl) fun valued => ?_
  extract_lets afterValue
  have last (step : Unit) {before : List Mark}
      (same : valued = false → before = marksAll attributes ++ type.marks) :
      Faithful (afterValue step) before (.treeWith DeclaresNothing) := by
    refine .skip (.operator rfl) fun _ => .iteIf (fun _ => .only .keep rfl) fun plain => ?_
    refine .only (.node rfl (by simpa [first] using formed) (.of_eq ?_)) rfl
    simpa using same (by simp_all)
  exact .iteIf (fun given => .thread (sound.expression true).discard fun _ _ => last () (by simp [given]))
    fun _ => last () fun _ => rfl

theorem foreignMember : Faithful (Parser.foreignMember g) [] (.treeWith DeclaresNothing) := by
  unfold Parser.foreignMember
  refine .attributes sound.outerAttributes fun attributes formed _ => .lookahead fun ahead => ?_
  refine .ite ?_ (.ite ?_ (.ite ?_ ?_))
  · refine .skip visibility_faithful fun visibility => ?_
    refine .bind (sound.signature true false) fun signature fits => ?_
    obtain ⟨text, tree, _⟩ := signature
    have first : tree.Formed := fits
    refine .test (.thread sound.attributedBlock.discard fun _ _ => .only .keep rfl) ?_
    refine .skip (.operator rfl) fun _ => .ite (.only .keep rfl) (.only (.node rfl ?_ (.of_eq ?_)) rfl)
    · simpa [first] using formed
    · simp [Account.signature, ownMark]
  · exact .skip visibility_faithful fun visibility => by
      simpa using sound.foreignStatic formed visibility
  · refine .bind (sound.typeItem false false .both) fun item fits => ?_
    obtain ⟨first, second, third, unbounded⟩ := fits
    refine .iteIf (fun _ => .only .keep rfl) fun plain => ?_
    obtain ⟨simple, undefined⟩ : item.bounded = false ∧ item.definition.isAbsent = true := by
      simpa using plain
    refine .only (.node rfl (by simpa [first] using formed) (.of_eq ?_)) rfl
    simp [Account.typeItem, ownMark, unbounded simple, third.marks_of_isAbsent undefined]
  · refine .skip visibility_faithful fun visibility => .guard fun _ => ?_
    simpa using invocationItem (formed_list.mpr formed)

end Grammar.Sound

end Scaffold.Rust
