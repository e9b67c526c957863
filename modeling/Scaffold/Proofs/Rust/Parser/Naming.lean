import Scaffold.Proofs.Rust.Parser.Type

/-! Rules for the names of declarations, which stand right after a word or right before a colon. -/

namespace Scaffold.Rust.Parser

open Tree Declaration

variable {α β : Type} {before : List Mark} {account : Account α} {result : Account β}
  {own : String → List Mark}

/-- The mark of a name, where it declares something. -/
def ownMark (declares : Bool) (kind : DeclarationKind) (name : String) : List Mark :=
  if declares then [.declared kind name false] else []

/-- A parser that begins with a plain word, which has marks of its own. -/
def Leading (p : Parser α) (own : String → List Mark) (before : List Mark) (account : Account α) :
    Prop :=
  ∀ tokens value rest, p tokens = some (value, rest) → account.holds value ∧
    ∃ word taken, isPlainWord word = true ∧ tokens = .word word :: (taken ++ rest) ∧
      ∀ earlier, Reads earlier (before ++ own word) → Reads (earlier ++ taken) (account.marks value)

namespace Leading

variable {p : Parser α} {k : String → Parser α}

theorem anyWord_at {tokens : Tokens} (plain : AtPlain tokens)
    (next : ∀ word, Faithful (k word) (before ++ own word) account) {value : α} {rest : Tokens}
    (run : (anyWord >>= k) tokens = some (value, rest)) : account.holds value ∧
      ∃ word taken, isPlainWord word = true ∧ tokens = .word word :: (taken ++ rest) ∧
        ∀ earlier, Reads earlier (before ++ own word) →
          Reads (earlier ++ taken) (account.marks value) := by
  obtain ⟨word, between, first, second⟩ := bind_eq_some.mp run
  obtain rfl := anyWord_eq_some first
  obtain ⟨holds, taken, rfl, reads⟩ := next word between value rest second
  exact ⟨holds, word, taken, plain _ _ rfl, rfl, reads⟩

/-- A word after a test. -/
theorem guardAt {test : Tokens → Bool} (plain : ∀ tokens, test tokens = true → AtPlain tokens)
    (next : ∀ word, Faithful (k word) (before ++ own word) account) :
    Leading (at? test >>= fun found => guard found >>= fun _ => anyWord >>= k) own before account := by
  intro tokens value rest run
  obtain ⟨_, _, ⟨⟩, second⟩ := bind_eq_some.mp run
  obtain ⟨_, _, first, third⟩ := bind_eq_some.mp second
  cases found : test tokens with
  | false => rw [found] at first; cases first
  | true => rw [found] at first; cases first; exact anyWord_at (plain tokens found) next third

theorem name (next : ∀ word, Faithful (k word) (before ++ own word) account) :
    Leading (Parser.name >>= k) own before account := by
  unfold Parser.name
  simp only [bind_assoc]
  exact guardAt (fun _ => atPlain_of_atName) next

/-- A name, or a word that a test lets pass. -/
theorem orName {test : Tokens → Bool} (plain : ∀ tokens, test tokens = true → AtPlain tokens)
    (next : ∀ word, Faithful (k word) (before ++ own word) account) :
    Leading (at? test >>= fun found => if found = true then anyWord >>= k else Parser.name >>= k)
      own before account := by
  intro tokens value rest run
  obtain ⟨_, _, ⟨⟩, second⟩ := bind_eq_some.mp run
  split at second
  · next found => exact anyWord_at (plain tokens found) next second
  · exact name next tokens value rest second

theorem bind {k : α → Parser β} (h : Leading p own before account)
    (next : ∀ value, account.holds value → Faithful (k value) (account.marks value) result) :
    Leading (p >>= k) own before result := by
  intro tokens value rest run
  obtain ⟨middle, between, first, second⟩ := bind_eq_some.mp run
  obtain ⟨holds, word, taken, plain, rfl, reads⟩ := h tokens middle between first
  obtain ⟨result, more, rfl, continues⟩ := next middle holds between value rest second
  refine ⟨result, word, taken ++ more, plain, by simp, fun earlier h => ?_⟩
  rw [← List.append_assoc]
  exact continues _ (reads earlier h)

/-- A word that declares nothing is passed over. -/
theorem passed (h : Leading p (fun _ => []) before account) : Faithful p before account := by
  intro tokens value rest run
  obtain ⟨holds, word, taken, plain, rfl, reads⟩ := h tokens value rest run
  refine ⟨holds, .word word :: taken, rfl, fun earlier read => ?_⟩
  rw [List.append_cons]
  exact reads _ (read.append (.of_shows (.word plain)))

/-- The word after a keyword is the name of a declaration. -/
theorem declared {word : String} (kind : DeclarationKind) (declares : (word, kind) ∈ declaringWords)
    (h : Leading p (fun name => [.declared kind name false]) before account) :
    Faithful (keyword word >>= fun _ => p) before account := by
  intro tokens value rest run
  obtain ⟨_, between, first, second⟩ := bind_eq_some.mp run
  obtain ⟨holds, name, taken, -, rfl, reads⟩ := h between value rest second
  obtain rfl := keyword_eq_some first
  refine ⟨holds, .word word :: .word name :: taken, rfl, fun earlier read => ?_⟩
  simpa using reads _ (read.append (.of_shows (.keyword name declares)))

end Leading

namespace Faithful

variable {k : String → Parser α}

/-- A node that declares a name which was read. -/
theorem declaring {kind : Kind} {declared : DeclarationKind} (first last : List Tree) {word : String}
    {property : Tree → Prop} (declares : kindOf? kind = some declared)
    (formed : ∀ child ∈ first ++ last, child.Formed)
    (fits : PartsFit kind (first ++ .name word :: last) ∧
      property (.node kind (first ++ .name word :: last)))
    (step : Becomes before (.declared declared word false :: (marksAll first ++ marksAll last))) :
    Faithful (Pure.pure (Tree.node kind (first ++ .name word :: last))) before
      (.treeWith property) :=
  .pure ⟨formed_declaring declares word formed fits.1, fits.2⟩
    (by simpa [marks_declaring declares word formed] using step)

theorem declares {kind : Kind} {declared : DeclarationKind} (first last : List Tree) {word : String}
    (declares : kindOf? kind = some declared)
    (formed : ∀ child ∈ first ++ last, child.Formed)
    (parts : PartsFit kind (first ++ .name word :: last))
    (step : Becomes before (.declared declared word false :: (marksAll first ++ marksAll last))) :
    Faithful (Pure.pure (Tree.node kind (first ++ .name word :: last))) before .tree :=
  have whole : Faithful _ before (.treeWith fun _ => True) :=
    declaring first last declares formed ⟨parts, trivial⟩ step
  whole.plain

/-- A keyword and the name after it, which may be that of a declaration. -/
theorem named {word : String} (kind : DeclarationKind) (declares : Bool)
    (plain : isPlainWord word = true) (declaring : (word, kind) ∈ declaringWords)
    (next : ∀ name, Faithful (k name) (before ++ ownMark declares kind name) account) :
    Faithful (Parser.keyword word >>= fun _ => Parser.name >>= k) before account := by
  cases declares with
  | true => exact Leading.declared kind declaring (Leading.name next)
  | false =>
    exact .skip (keyword plain) fun _ => .skip name fun text => by simpa [ownMark] using next text

/-- A word before a colon may be the name of a field. -/
theorem field {p : Parser String}
    (words : ∀ tokens word rest, p tokens = some (word, rest) → tokens = .word word :: rest)
    (next : ∀ name, Faithful (k name) (before ++ [.declared .field name false]) account) :
    Faithful (p >>= fun name => Parser.operator ":" >>= fun _ => k name) before account := by
  intro tokens value rest run
  obtain ⟨name, between, first, second⟩ := bind_eq_some.mp run
  obtain rfl := words tokens name between first
  obtain ⟨_, after, colon, third⟩ := bind_eq_some.mp second
  obtain ⟨joint, rfl⟩ := operator_eq_some ':' colon rfl
  obtain ⟨holds, taken, rfl, reads⟩ := next name after value rest third
  refine ⟨holds, .word name :: .punct ':' joint :: taken, rfl, fun earlier read => ?_⟩
  simpa using reads _ (read.append (.of_shows (.field name joint)))

/-- The name of a field may be any word that is tested for. -/
theorem fieldEither {condition : Prop} [Decidable condition]
    (next : ∀ name, Faithful (k name) (before ++ [.declared .field name false]) account) :
    Faithful (if condition then anyWord >>= fun name => Parser.operator ":" >>= fun _ => k name
      else Parser.name >>= fun name => Parser.operator ":" >>= fun _ => k name) before account :=
  .ite (field (fun _ _ _ => anyWord_eq_some) next) (field (fun _ _ _ => name_eq_some) next)

/-- A name may be that of a variant. -/
theorem variant (next : ∀ name, Faithful (k name) (before ++ [.declared .variant name false]) account) :
    Faithful (Parser.name >>= k) before account := by
  intro tokens value rest run
  obtain ⟨name, between, first, second⟩ := bind_eq_some.mp run
  obtain rfl := name_eq_some first
  obtain ⟨holds, taken, rfl, reads⟩ := next name between value rest second
  refine ⟨holds, .word name :: taken, rfl, fun earlier read => ?_⟩
  simpa using reads _ (read.append (.of_shows (.variant name)))

/-- The name of a static variable may stand after a mark that it can change. -/
theorem static {k : Tree → String → Parser α}
    (next : ∀ present name, Faithful (k (Tree.flag "mut" present) name)
      (before ++ [.declared .static name false]) account) :
    Faithful (Parser.keyword "static" >>= fun _ => Parser.keywordTree "mut" >>= fun mutability =>
      Parser.name >>= k mutability) before account := by
  intro tokens value rest run
  obtain ⟨_, after, first, second⟩ := bind_eq_some.mp run
  obtain rfl := keyword_eq_some first
  obtain ⟨_, between, mutability, third⟩ := bind_eq_some.mp second
  rw [Parser.keywordTree, map_eq_pure_bind] at mutability
  obtain ⟨present, _, mark, ⟨⟩⟩ := bind_eq_some.mp mutability
  obtain ⟨name, more, word, last⟩ := bind_eq_some.mp third
  obtain rfl := name_eq_some word
  obtain ⟨holds, taken, rfl, reads⟩ := next present name more value rest last
  rcases keyword?_eq_some mark with ⟨-, rfl⟩ | ⟨-, rfl⟩
  · refine ⟨holds, .word "static" :: .word "mut" :: .word name :: taken, rfl, fun earlier read => ?_⟩
    simpa using reads _ (read.append (.of_shows (.mutable name)))
  · refine ⟨holds, .word "static" :: .word name :: taken, rfl, fun earlier read => ?_⟩
    simpa using reads _ (read.append (.of_shows (.keyword name (by decide))))

/-- What follows the parameters of a trait tells whether its name is another name for bounds. -/
theorem traitOrAlias {p : Parser β} {bounds body : String → β → Parser α} {test : Tokens → Bool}
    (parameters : Faithful p [] result)
    (aliased : ∀ name value, result.holds value →
      Faithful (bounds name value) (before ++ result.marks value) account)
    (listed : ∀ name value, result.holds value → Faithful (body name value)
      (before ++ [.declared .trait name false] ++ result.marks value) account) :
    Faithful (Parser.keyword "trait" >>= fun _ => Parser.name >>= fun name => p >>= fun value =>
      Parser.at? test >>= fun found => if found = true then
        Parser.operator "=" >>= fun _ => bounds name value else body name value) before account := by
  intro tokens value rest run
  obtain ⟨_, _, first, second⟩ := bind_eq_some.mp run
  obtain rfl := keyword_eq_some first
  obtain ⟨name, after, word, third⟩ := bind_eq_some.mp second
  obtain rfl := name_eq_some word
  obtain ⟨inner, between, found, fourth⟩ := bind_eq_some.mp third
  obtain ⟨holds, taken, rfl, reads⟩ := (parameters after).taken found
  obtain ⟨_, _, ⟨⟩, fifth⟩ := bind_eq_some.mp fourth
  split at fifth
  · obtain ⟨_, last, equals, sixth⟩ := bind_eq_some.mp fifth
    obtain ⟨joint, rfl⟩ := operator_eq_some '=' equals rfl
    obtain ⟨result, more, rfl, continues⟩ := aliased name inner holds last value rest sixth
    refine ⟨result, .word "trait" :: .word name :: (taken ++ [.punct '=' joint]) ++ more, by simp,
      fun earlier read => ?_⟩
    rw [← List.append_assoc]
    obtain ⟨seen, shows, step⟩ := reads
    exact continues _ (read.append ⟨seen, .traitAlias name joint shows, step⟩)
  · obtain ⟨result, more, rfl, continues⟩ := listed name inner holds between value rest fifth
    refine ⟨result, .word "trait" :: .word name :: taken ++ more, by simp, fun earlier read => ?_⟩
    have named : Reads [.word "trait", .word name] [.declared .trait name false] :=
      .of_shows (.keyword name (by decide))
    simpa using continues _ ((read.append named).append reads)

end Faithful

end Scaffold.Rust.Parser
