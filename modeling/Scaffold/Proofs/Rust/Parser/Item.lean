import Scaffold.Proofs.Rust.Parser.Associated

/-! Items give a true account: a declared name is listed before the attributes ahead of it. -/

namespace Scaffold.Rust

namespace Grammar.Sound

open Scaffold.Rust.Parser Tree

variable {g : Grammar} (sound : g.Sound)

section
include sound

theorem members {p : Parser Tree} {account : Account Tree} (h : Faithful p [] account) :
    Faithful (Parser.members g p) [] (.both .attributes account.each) := by
  refine .braces (sound.innerAttributes.bind fun attributes fits => h.untilEnd.bind fun items holds => ?_)
  exact .pure ⟨fits, holds⟩ (.of_eq (by simp))

end

variable {attributes : List Tree} (formed : ∀ tree ∈ attributes, tree.Formed)
  (aside : AllAside (marksAll attributes)) (visibility : String)

section
include sound formed aside

theorem functionItem : Faithful (Parser.functionItem g attributes visibility) (marksAll attributes)
    .attributed := by
  unfold Parser.functionItem
  refine .bind (sound.signature false true) fun (text, tree, _) fits => ?_
  have first : tree.Formed := fits
  refine .skip (.operator? rfl) fun _ => .ite (.only .keep trivial) ?_
  refine .afterAttributes sound.attributedBlock fun inner block second innerAside third => ?_
  simp only [Account.tree_holds] at third
  refine .declaring [.list (attributes ++ inner), .word visibility] [tree, block]
    rfl ?_ ⟨trivial, trivial⟩ (.of_counts ?_ fun mark => ?_)
  · simpa [first, third] using List.forall_mem_append.mpr ⟨formed, second⟩
  · simp [Account.signature, ownMark, List.filter_cons, aside.filter_eq, innerAside.filter_eq]
  · simp [Account.signature, ownMark, List.count_cons]
    omega

theorem staticItem : Faithful (Parser.staticItem g attributes visibility) (marksAll attributes)
    .attributed := by
  unfold Parser.staticItem
  refine .static fun mutability name => .skip (.operator? rfl) fun _ => .ite ?_ ?_
  · refine .thread (sound.expression true).discard fun _ _ => ?_
    exact .skip (.operator rfl) fun _ => .only .keep trivial
  · refine .skip (.operator rfl) fun _ => .tree (sound.type true) fun type first => ?_
    refine .skip (.operator? rfl) fun _ => .ite (.only .keep trivial) (.skip (.operator rfl) fun _ => ?_)
    refine .tree (sound.expression true) fun value second => .skip (.operator rfl) fun _ => ?_
    refine .declaring [.list attributes, .word visibility, Tree.flag "mut" mutability]
      [type, value] rfl (by simpa [first, second] using formed) ⟨trivial, trivial⟩
      (.of_counts ?_ fun mark => ?_)
    · simp [List.filter_cons, aside.filter_eq]
    · simp [List.count_cons]
      omega

theorem constItem : Faithful (Parser.constItem g attributes visibility) (marksAll attributes)
    .attributed := by
  unfold Parser.constItem
  refine Leading.declared .const (by decide) (.bind (sound.constant fun name =>
    marksAll attributes ++ [.declared .const name false]) fun (text, type, value, generic) fits => ?_)
  obtain ⟨first, second⟩ : type.Formed ∧ value.Formed := fits
  refine .iteIf (fun _ => .only .keep trivial) fun plain => ?_
  have simple : generic = false := by simp_all
  refine .declaring [.list attributes, .word visibility] [type, value] rfl
    (by simpa [first, second] using formed) ⟨trivial, trivial⟩ ?_
  simpa [Account.constant, simple] using
    .front aside (.declared .const text false) (type.marks ++ value.marks)

theorem moduleItem : Faithful (Parser.moduleItem g attributes visibility) (marksAll attributes)
    .attributed := by
  unfold Parser.moduleItem
  refine .flag rfl fun unsafety => Leading.declared .module (by decide) ?_
  refine .orName (fun _ found => atPlain_of_atWord found rfl) fun name => .skip (.operator? rfl) fun _ => .ite ?_ ?_
  · refine .declaring [.list attributes, .word visibility, Tree.flag "unsafe" unsafety]
      [.absent] rfl (by simpa using formed) ⟨trivial, trivial⟩ (.of_counts ?_ fun mark => ?_)
    · simp [List.filter_cons, aside.filter_eq]
    · simp [List.count_cons]
  · refine .afterAttributes (sound.members sound.item) fun inner items second innerAside third => ?_
    simp only [Account.each_holds, Account.treeWith_holds] at third
    refine .declaring [.list (attributes ++ inner), .word visibility, Tree.flag "unsafe" unsafety]
      [.list items]
      rfl ?_ ⟨trivial, trivial⟩ (.of_counts ?_ fun mark => ?_)
    · have attributes := List.forall_mem_append.mpr ⟨formed, second⟩
      simpa using ⟨by simpa using attributes, fun item member => (third item member).1⟩
    · simp [List.filter_cons, aside.filter_eq, innerAside.filter_eq]
    · simp [List.count_cons]
      omega

theorem aliasItem : Faithful (Parser.aliasItem g attributes visibility) (marksAll attributes)
    .attributed := by
  unfold Parser.aliasItem
  refine .bind (sound.typeItem false true .before) fun item ⟨first, second, third, unbounded⟩ => ?_
  refine .iteIf (fun _ => .only .keep trivial) fun plain => ?_
  have simple : item.bounded = false := by simp_all
  refine .declaring [.list attributes, .word visibility]
    [item.generics, item.definition] rfl (by simpa [first, third] using formed)
    ⟨trivial, trivial⟩ (.of_counts ?_ fun mark => ?_)
  · simp [Account.typeItem, ownMark, List.filter_cons, aside.filter_eq, unbounded simple]
  · simp [Account.typeItem, ownMark, unbounded simple, List.count_cons]
    omega

omit sound in
/-- A type with a body behind its parameters and conditions. -/
theorem declaredType {kind : Kind} {declared : DeclarationKind} {name : String}
    {parameters conditions body : Tree} (declares : Declaration.kindOf? kind = some declared)
    (parts : ∀ children, PartsFit kind children) (first : parameters.Formed)
    (second : conditions.Formed) (third : body.Formed) :
    Faithful (pure (.node kind [.list attributes, .word visibility, .name name,
        .node .generics [parameters, conditions], body]))
      (marksAll attributes ++ [.declared declared name false] ++ parameters.marks ++
        (conditions.marks ++ body.marks)) .attributed := by
  refine .declaring [.list attributes, .word visibility]
    [.node .generics [parameters, conditions], body] declares
    (by simpa [formed_generics first second, third] using formed) ⟨parts _, trivial⟩ ?_
  simpa (disch := decide) [marks_of_isPlain] using
    .front aside _ (parameters.marks ++ (conditions.marks ++ body.marks))

theorem structItem : Faithful (Parser.structItem g attributes visibility) (marksAll attributes)
    .attributed := by
  unfold Parser.structItem
  refine Leading.declared .struct (by decide) (.name fun name => ?_)
  refine .tree sound.genericParameters fun parameters first => ?_
  refine .bind sound.whereClause fun early ⟨second, _⟩ => .at?_of fun _ tuple => .at? fun _ => ?_
  extract_lets afterFields
  have rest {fields conditions : Tree} (third : fields.Formed) (fourth : conditions.Formed) :
      Faithful (afterFields (fields, conditions)) (marksAll attributes ++
        [.declared .struct name false] ++ parameters.marks ++ (conditions.marks ++ fields.marks))
        .attributed :=
    declaredType formed aside visibility rfl (fun _ => trivial) first fourth third
  refine .iteIf (fun found => ?_) fun _ => .ite ?_ ?_
  · refine .tree sound.tupleFields fun fields third => ?_
    refine .bind sound.whereClause fun late ⟨fourth, lateAside⟩ => .skip (.operator rfl) fun _ => ?_
    obtain ⟨_, absent⟩ := tuple found
    obtain ⟨none, -⟩ := Bool.and_eq_true_iff.mp absent
    refine .becomes ?_ (rest third fourth)
    simpa [second.marks_of_isAbsent none] using (Becomes.swap (.inr lateAside)).left
      (marksAll attributes ++ .declared .struct name false :: parameters.marks)
  · refine .tree sound.namedFields fun fields third => ?_
    exact .becomes (.of_eq (by simp)) (rest third second)
  · refine .skip (.operator rfl) fun _ => .becomes (.of_eq ?_) (rest (formed_of_isPlain rfl (by simp)) second)
    simp (disch := decide) [unitFields, marks_of_isPlain]

theorem enumItem : Faithful (Parser.enumItem g attributes visibility) (marksAll attributes)
    .attributed := by
  unfold Parser.enumItem
  refine Leading.declared .enum (by decide) (.name fun name => ?_)
  refine .tree sound.genericParameters fun parameters first => ?_
  refine .bind sound.whereClause fun conditions ⟨second, _⟩ => ?_
  refine .trees (.braces (.commaSeparated sound.variant)) fun variants third => ?_
  refine .becomes (.of_eq ?_) (declaredType formed aside visibility rfl (fun _ => trivial) first second
    (formed_list.mpr third))
  simp

theorem unionItem : Faithful (Parser.unionItem g attributes visibility) (marksAll attributes)
    .attributed := by
  unfold Parser.unionItem
  refine Leading.declared .union (by decide) (.name fun name => ?_)
  refine .tree sound.genericParameters fun parameters first => ?_
  refine .bind sound.whereClause fun conditions ⟨second, _⟩ => .tree sound.namedFields fun fields third => ?_
  refine .becomes (.of_eq ?_) (declaredType formed aside visibility rfl (fun _ => trivial) first second third)
  simp

theorem traitBody (unsafety auto : Bool) (name : String) {parameters : Tree}
    (first : parameters.Formed) :
    Faithful (Parser.traitBody g attributes visibility (Tree.flag "unsafe" unsafety)
      (Tree.flag "auto" auto) name parameters)
      (marksAll attributes ++ [.declared .trait name false] ++ parameters.marks) .attributed := by
  unfold Parser.traitBody
  refine .skip (.operator? rfl) fun _ => .choose sound.boundList (.pure (by simp) (.of_eq (by simp)))
    fun bounds second => ?_
  refine .bind sound.whereClause fun conditions ⟨third, whereAside⟩ => ?_
  refine .afterAttributes (sound.members sound.traitMember) fun inner items fourth innerAside fifth => ?_
  simp only [Account.each_holds, Account.tree_holds, Account.treeWith_holds] at second fifth
  have generics : Formed (.node .generics [parameters, conditions]) := formed_generics first third
  refine .declaring [.list (attributes ++ inner), .word visibility,
      Tree.flag "unsafe" unsafety, Tree.flag "auto" auto]
    [.node .generics [parameters, conditions], .list bounds, .list items] rfl ?_
    ⟨⟨_, [_, _, _, _, _, _], items, rfl, fun item member => (fifth item member).2⟩, trivial⟩
    (.of_counts ?_ fun mark => ?_)
  · have attributes := List.forall_mem_append.mpr ⟨formed, fourth⟩
    simpa [generics] using
      ⟨by simpa using attributes, second, fun item member => (fifth item member).1⟩
  · simp (disch := decide) [marks_of_isPlain, List.filter_cons, aside.filter_eq, innerAside.filter_eq,
      whereAside.filter_eq]
  · simp (disch := decide) [marks_of_isPlain, List.count_cons]
    omega

theorem traitItem : Faithful (Parser.traitItem g attributes visibility) (marksAll attributes)
    .attributed := by
  unfold Parser.traitItem Parser.traitAlias
  refine .flag rfl fun unsafety => .flag rfl fun auto => .traitOrAlias sound.genericParameters
    (fun name parameters first => ?_) fun name parameters first =>
      sound.traitBody formed aside visibility unsafety auto name first
  refine .trees sound.boundList fun bounds second => ?_
  refine .bind sound.whereClause fun conditions ⟨third, whereAside⟩ => .skip (.operator rfl) fun _ => ?_
  have generics : Formed (.node .generics [parameters, conditions]) := formed_generics first third
  refine .only (.node rfl (by simpa [generics] using ⟨formed, second⟩) ?_) trivial
  simpa (disch := decide) [marks_of_isPlain] using
    (Becomes.swap (.inr whereAside)).left (marksAll attributes ++ parameters.marks)

omit sound aside formed in
theorem traitPath?_eq {type : Tree} (first : type.Formed) {path : Tree}
    (found : Parser.implItem.traitPath? type = some path) : path.Formed ∧ type.marks = path.marks := by
  unfold Parser.implItem.traitPath? at found
  split at found
  · next segments =>
    cases found
    exact ⟨first.child (by simp) rfl, by simp (disch := decide) [marks_of_isPlain]⟩
  · cases found

omit aside in
theorem implItem : Faithful (Parser.implItem g attributes visibility) (marksAll attributes)
    .attributed := by
  unfold Parser.implItem
  refine .flag rfl fun isDefault => .flag rfl fun unsafety => .skip (.keyword rfl) fun _ => .at? fun _ => ?_
  extract_lets afterParameters
  refine .choose sound.genericParameters (.pure formed_absent (.of_eq (by simp)))
    fun parameters (first : parameters.Formed) => .at? fun _ => ?_
  extract_lets afterConstant
  have rest (constant : Bool) : Faithful (afterConstant constant)
      (marksAll attributes ++ parameters.marks) .attributed := by
    refine .at? fun _ => ?_
    extract_lets afterNegative
    refine .chooseSilent (.andThen (.operator rfl) .value) .value fun negative => ?_
    refine .tree (sound.type true) fun named second => .skip (.keyword? rfl) fun isFor => ?_
    extract_lets trait afterSelf
    have last {self : Tree} (third : self.Formed) {before : List Mark}
        (step : (isFor && trait.isNone) = false → (Tree.optional trait).Formed ∧
          Becomes before (marksAll attributes ++ parameters.marks ++
            ((Tree.optional trait).marks ++ self.marks))) :
        Faithful (afterSelf self) before .attributed := by
      refine .bind sound.whereClause fun conditions ⟨fourth, whereAside⟩ => ?_
      refine .afterAttributes (sound.members sound.implMember) fun inner items fifth innerAside sixth => ?_
      simp only [Account.each_holds, Account.treeWith_holds] at sixth
      refine .iteIf (fun _ => .only .keep trivial) fun plain => ?_
      simp only [Bool.or_eq_true, not_or, Bool.not_eq_true] at plain
      obtain ⟨seventh, step⟩ := step plain.2
      have generics : Formed (.node .generics [parameters, conditions]) := formed_generics first fourth
      refine .pure ⟨formed_of_kindOf? rfl ⟨_, [_, _, _, _, _, _], items, rfl,
        fun item member => (sixth item member).2⟩ ?_, trivial⟩ ?_
      · have attributes := List.forall_mem_append.mpr ⟨formed, fifth⟩
        simpa [generics, third, seventh] using
          ⟨by simpa using attributes, fun item member => (sixth item member).1⟩
      · rw [List.append_assoc]
        refine (step.right _).trans (.of_counts ?_ fun mark => ?_)
        · simp (disch := decide) [marks_node, innerAside.filter_eq,
            whereAside.filter_eq]
        · simp (disch := decide) [marks_node]
          omega
    refine .iteIf (fun given => .tree (sound.type true) fun self third => last third fun isTrait => ?_)
      fun other => ?_
    · obtain ⟨path, found⟩ : ∃ path, Parser.implItem.traitPath? named = some path := by
        simpa [trait, given, Option.isSome_iff_exists] using isTrait
      have same : Tree.optional trait = path := by simp [trait, given, found, Tree.optional]
      obtain ⟨fourth, marks⟩ := traitPath?_eq second found
      exact ⟨same ▸ fourth, .of_eq (by simp [same, marks])⟩
    · have none : trait = none := by simp [trait, other]
      rw [pure_bind]
      cases negative with
      | true => exact last (formed_tokens []) fun _ => ⟨by simp [none, Tree.optional],
          by simpa [none, Tree.optional] using (Becomes.kept _).left (marksAll attributes ++ parameters.marks)⟩
      | false => exact last second fun _ => ⟨by simp [none, Tree.optional],
          .of_eq (by simp [none, Tree.optional])⟩
  refine .ite (.skip (.operator? rfl) fun _ => .skip (.andThen (.keyword rfl) .value) rest) (.skip .value rest)

omit aside in
theorem foreignModule : Faithful (Parser.foreignModule g attributes) (marksAll attributes)
    .attributed := by
  unfold Parser.foreignModule
  refine .flag rfl fun unsafety => .bare abi_faithful fun abi first bare => ?_
  refine .afterAttributes (sound.members sound.foreignMember) fun inner items second innerAside third => ?_
  simp only [Account.each_holds, Account.treeWith_holds] at third
  refine .pure ⟨formed_of_kindOf? rfl ⟨_, [_, _], items, rfl, fun item member => (third item member).2⟩ ?_,
    trivial⟩ (.of_eq ?_)
  · have attributes := List.forall_mem_append.mpr ⟨formed, second⟩
    simpa [first] using ⟨by simpa using attributes, fun item member => (third item member).1⟩
  · simp (disch := decide) [marks_node, bare]

theorem unsafeItem : Faithful (Parser.unsafeItem g attributes visibility) (marksAll attributes)
    .attributed := by
  unfold Parser.unsafeItem
  refine .skip .peek fun next => .ite (sound.traitItem formed aside visibility)
    (.ite (sound.implItem formed visibility) (.ite ?_ (sound.moduleItem formed aside visibility)))
  exact .guard fun _ => sound.foreignModule formed

end

/-! ### Imports -/

section
include formed

theorem externCrate : Faithful (Parser.externCrate attributes visibility) (marksAll attributes)
    .attributed := by
  unfold Parser.externCrate
  refine .skip (.keyword rfl) fun _ => .skip (.keyword rfl) fun _ => Leading.passed ?_
  refine .orName (fun _ found => atPlain_of_atWord found rfl) fun word => .skip (.keyword? rfl) fun _ => ?_
  extract_lets afterName
  have last (rename : String) : Faithful (afterName rename) (marksAll attributes ++ []) .attributed :=
    .skip (.operator rfl) fun _ => .only (.node rfl (by simpa using formed) (.of_eq (by simp))) trivial
  refine .ite (Leading.passed ?_) (.skip .value last)
  exact .orName (fun _ found => atPlain_of_atWord found rfl) fun rename => by simpa using last rename

include sound in
theorem externItem : Faithful (Parser.externItem g attributes visibility) (marksAll attributes)
    .attributed := by
  unfold Parser.externItem
  exact .skip .peek fun next => .ite (externCrate formed visibility)
    (.guard fun _ => sound.foreignModule formed)

end

/-- Where a tree without marks may be absent there are no marks either. -/
theorem marks_of_option_bare {tree : Option Tree} (fits : Account.bare.option.holds tree) :
    Account.bare.option.marks tree = [] := by
  cases tree with
  | none => rfl
  | some tree => exact (Account.option_some_holds.mp fits).2

theorem useLeaf {kind : Kind} (words : List String) (plain : isPlain kind = true) :
    Faithful (pure (some (Tree.node kind (words.map .word)))) [] (.option .bare) := by
  have silent : marksAll (words.map .word) = [] := by
    simp [← flatMap_marks]
  exact .pure (by simp [formed_iff_of_isPlain plain, marks_of_isPlain plain, silent])
    (.of_eq (by simp [marks_of_isPlain plain, silent]))

theorem useGroup {trees : List (Option Tree)} (fits : Account.bare.option.each.holds trees) :
    Faithful (pure ((trees.mapM id).map (Tree.node .useGroup)))
      (Account.bare.option.each.marks trees) (.option .bare) := by
  have silent : Account.bare.option.each.marks trees = [] :=
    List.flatMap_eq_nil_iff.mpr fun tree member => marks_of_option_bare (fits tree member)
  rw [silent]
  cases found : trees.mapM id with
  | none => exact .pure (by simp) (.of_eq (by simp))
  | some inner =>
    obtain rfl := eq_map_some_of_mapM found
    have none : marksAll inner = [] := by
      simpa [List.flatMap_map, ← flatMap_marks] using silent
    have formed : ∀ tree ∈ inner, tree.Formed := fun tree member =>
      (Account.option_some_holds.mp (fits _ (List.mem_map_of_mem member))).1
    exact .pure (by simpa (disch := decide) [marks_of_isPlain, formed_iff_of_isPlain, none] using formed)
      (.of_eq (by simp (disch := decide) [marks_of_isPlain, none]))

section
include sound

theorem useTree_next (root : Bool) : Faithful (Parser.useTree g root) [] (.option .bare) := by
  unfold Parser.useTree
  refine .testAt (fun tokens found => ?_) ?_
  · have plain : AtPlain tokens := by
      rcases Bool.or_eq_true_iff.mp found with name | word
      · exact atPlain_of_atName name
      · exact atPlain_of_atOneOf word rfl
    refine (anyWord_at plain).skip fun word => .skip (.operator? rfl) fun _ => .ite ?_ ?_
    · refine .bind (sound.useTree false) fun tree fits => ?_
      rw [marks_of_option_bare fits]
      cases tree with
      | none => exact .pure (by simp) (.of_eq (by simp))
      | some tree =>
        have inner := Account.option_some_holds.mp fits
        have whole : Account.bare.holds (.node .usePath [.word word, tree]) := by
          simpa (disch := decide) [formed_iff_of_isPlain, marks_of_isPlain] using inner
        exact .pure (by simpa using whole) (.of_eq (by simp [whole.2]))
    · refine .skip (.keyword? rfl) fun _ => .ite (Leading.passed ?_) (useLeaf [word] rfl)
      exact .orName (fun _ found => atPlain_of_atWord found rfl) fun rename => useLeaf [word, rename] rfl
  · refine .skip (.operator? rfl) fun _ => .ite (useLeaf [] rfl) ?_
    have member : Faithful (do
        let rooted ← if root then operator? "::" else pure false
        let tree ← g.useTree (root && !rooted)
        return if rooted then none else tree) [] (.option .bare) := by
      refine .chooseSilent (.operator? rfl) .value fun rooted => .bind (sound.useTree _) fun tree fits => ?_
      rw [marks_of_option_bare fits]
      cases rooted with
      | true => exact .pure (by simp) (.of_eq (by simp))
      | false => exact .pure (by simpa using fits) (.of_eq (by simp [marks_of_option_bare fits]))
    exact .bind (.braces (.commaSeparated member)) fun trees fits => useGroup fits

include formed in
theorem useItem (visibility : String) : Faithful (Parser.useItem g attributes visibility)
    (marksAll attributes) .attributed := by
  unfold Parser.useItem
  refine .skip (.keyword rfl) fun _ => .skip (.operator? rfl) fun leading => .bind (sound.useTree _) fun tree fits => ?_
  refine .skip (.operator rfl) fun _ => ?_
  cases tree with
  | none => exact .only .keep trivial
  | some tree =>
    have inner := Account.option_some_holds.mp fits
    exact .only (.node rfl (by simpa [inner.1] using formed) (.of_eq (by simp [inner.2]))) trivial

end

/-! ### Macros -/

theorem macroDefinition {before : List Mark} : Faithful Parser.macroDefinition before .attributed := by
  unfold Parser.macroDefinition
  refine .skip (.keyword rfl) fun _ => .skip .name fun _ => .at? fun _ => ?_
  extract_lets afterParameters
  have last {before : List Mark} (step : Unit) : Faithful (afterParameters step) before .attributed :=
    .bind .anyGroupOf fun _ _ => .only .keep trivial
  exact .ite (.bind .anyGroupOf fun _ _ => last ()) (last ())

section
include formed

theorem namedInvocation : Faithful (Parser.namedInvocation attributes) (marksAll attributes)
    .attributed := by
  unfold Parser.namedInvocation
  refine .bare .plainPath fun path first bare => .skip (.operator rfl) fun _ => fun tokens => .at? ?_
  extract_lets afterWord
  have last (word : String) : Faithful (afterWord word) (marksAll attributes) .attributed := by
    refine .bind .anyGroup ?_
    rintro _ ⟨-, body, rfl⟩
    extract_lets call afterSemicolon
    have inner : call.Formed := formed_of_kindOf? rfl ⟨path, body, rfl⟩ (by simp [first])
    have ends (step : Unit) : Faithful (afterSemicolon step) (marksAll attributes ++ [.kept])
        .attributed :=
      .only (.node rfl (by simpa [inner] using formed) (.of_eq (by
        simp (disch := decide) [call, marks_node, bare]))) trivial
    exact .ite (.skip (.operator rfl) ends) (ends ())
  refine .ite (fun found => (anyWord_at ?_).skip last) fun _ => Faithful.skip .value last tokens
  rcases Bool.or_eq_true_iff.mp found with name | word
  · exact atPlain_of_atName name
  · exact atPlain_of_atWord word rfl

end

/-! ### All items -/

section
include sound

theorem item_next : Faithful (Parser.item g) [] .attributed := by
  unfold Parser.item
  refine .attributes sound.outerAttributes fun attributes formed aside => ?_
  refine .skip visibility_faithful fun visibility => ?_
  refine .test (sound.functionItem formed aside visibility) (.test (sound.externItem formed visibility) ?_)
  refine .test (sound.useItem formed visibility) (.test (sound.staticItem formed aside visibility) ?_)
  refine .test (sound.constItem formed aside visibility) ?_
  refine .test (sound.unsafeItem formed aside visibility) ?_
  refine .test (sound.moduleItem formed aside visibility) ?_
  refine .test (sound.aliasItem formed aside visibility) ?_
  refine .test (sound.structItem formed aside visibility) ?_
  refine .test (sound.enumItem formed aside visibility) ?_
  refine .test (sound.unionItem formed aside visibility) ?_
  refine .test (sound.traitItem formed aside visibility) ?_
  refine .test (sound.implItem formed visibility) (.test macroDefinition ?_)
  exact .at? fun _ => .guard fun _ => namedInvocation formed

theorem file : Faithful (Parser.file g) [] .tree := by
  unfold Parser.file
  refine .attributes sound.innerAttributes fun attributes formed _ => ?_
  refine .bind (.untilEnd sound.item) fun items fits => ?_
  refine .node rfl ?_ (.of_eq (by simp))
  simpa using ⟨formed, fun item member => (fits item member).1⟩

end

end Grammar.Sound

end Scaffold.Rust
