import Scaffold.Proofs.Rust.Reading
import Scaffold.Proofs.Rust.Shape
import Scaffold.Rust.Parser

/-!
Parsers that give a true account of what they take: their values are well formed, and the marks of a
value may be listed for the tokens that the parser took. There is one rule for each way to build a
parser; the proof for a construct follows its definition.
-/

namespace Scaffold.Rust

/-- What the values of a parser are like, and which marks they have. -/
structure Account (α : Type) where
  holds : α → Prop
  marks : α → List Mark

namespace Account

variable {α β : Type}

/-- Values without marks, of which nothing else is said. -/
def silent : Account α := ⟨fun _ => True, fun _ => []⟩

def tree : Account Tree := ⟨Tree.Formed, Tree.marks⟩

/-- Values in whose place tokens are kept. -/
def kept : Account α := ⟨fun _ => True, fun _ => [.kept]⟩

/-- Trees with a property of their own. -/
def treeWith (property : Tree → Prop) : Account Tree :=
  ⟨fun tree => tree.Formed ∧ property tree, Tree.marks⟩

/-- Trees without marks. -/
abbrev bare : Account Tree := treeWith (·.marks = [])

def each (account : Account α) : Account (List α) :=
  ⟨fun values => ∀ value ∈ values, account.holds value, fun values => values.flatMap account.marks⟩

def option (account : Account α) : Account (Option α) :=
  ⟨fun value => ∀ inner ∈ value, account.holds inner, fun value => (value.map account.marks).getD []⟩

def both (first : Account α) (second : Account β) : Account (α × β) :=
  ⟨fun value => first.holds value.1 ∧ second.holds value.2,
    fun value => first.marks value.1 ++ second.marks value.2⟩

@[simp] theorem silent_holds (value : α) : silent.holds value := trivial

@[simp] theorem silent_marks (value : α) : silent.marks value = [] := rfl

@[simp] theorem tree_holds {value : Tree} : tree.holds value ↔ value.Formed := .rfl

@[simp] theorem tree_marks : tree.marks = Tree.marks := rfl

@[simp] theorem treeWith_holds {property : Tree → Prop} {value : Tree} :
    (treeWith property).holds value ↔ value.Formed ∧ property value := .rfl

@[simp] theorem treeWith_marks (property : Tree → Prop) :
    (treeWith property).marks = Tree.marks := rfl

@[simp] theorem each_holds {account : Account α} {values : List α} :
    account.each.holds values ↔ ∀ value ∈ values, account.holds value := .rfl

@[simp] theorem each_marks (account : Account α) (values : List α) :
    account.each.marks values = values.flatMap account.marks := rfl

@[simp] theorem option_none_holds (account : Account α) : account.option.holds none := by
  simp [option]

@[simp] theorem option_some_holds {account : Account α} {value : α} :
    account.option.holds (some value) ↔ account.holds value := by
  simp [option]

@[simp] theorem option_none_marks (account : Account α) : account.option.marks none = [] := rfl

@[simp] theorem option_some_marks (account : Account α) (value : α) :
    account.option.marks (some value) = account.marks value := rfl

@[simp] theorem both_holds {first : Account α} {second : Account β} {value : α × β} :
    (first.both second).holds value ↔ first.holds value.1 ∧ second.holds value.2 := .rfl

@[simp] theorem both_marks (first : Account α) (second : Account β) (value : α × β) :
    (first.both second).marks value = first.marks value.1 ++ second.marks value.2 := rfl

end Account

@[simp] theorem Tree.flatMap_marks (trees : List Tree) : trees.flatMap Tree.marks = marksAll trees := by
  induction trees with
  | nil => simp
  | cons tree rest ih => simp [ih]

namespace Parser

variable {α β : Type}

/-! ### The judgement -/

/-- At these tokens: what was read before and what the parser takes may be listed as the marks of
its value. -/
def FaithfulAt (tokens : Tokens) (p : Parser α) (before : List Mark) (account : Account α) : Prop :=
  ∀ value rest, p tokens = some (value, rest) → account.holds value ∧
    ∃ taken, tokens = taken ++ rest ∧
      ∀ earlier, Reads earlier before → Reads (earlier ++ taken) (account.marks value)

def Faithful (p : Parser α) (before : List Mark) (account : Account α) : Prop :=
  ∀ tokens, FaithfulAt tokens p before account

theorem bind_eq_some {p : Parser α} {k : α → Parser β} {tokens : Tokens} {result : β × Tokens} :
    (p >>= k) tokens = some result ↔
      ∃ value rest, p tokens = some (value, rest) ∧ k value rest = some result := by
  show (p tokens).bind (fun found => k found.1 found.2) = some result ↔ _
  simp [Option.bind_eq_some_iff]

variable {tokens : Tokens} {p q : Parser α} {k : α → Parser β} {before x : List Mark}
  {account other : Account α} {result : Account β}

namespace FaithfulAt

/-- What the parser takes by itself, when nothing was read before. -/
theorem of_taken (h : ∀ value rest, p tokens = some (value, rest) → account.holds value ∧
    ∃ taken, tokens = taken ++ rest ∧ Reads taken (account.marks value)) :
    FaithfulAt tokens p [] account := by
  intro value rest run
  obtain ⟨holds, taken, same, reads⟩ := h value rest run
  exact ⟨holds, taken, same, fun earlier h => h.append reads⟩

theorem taken (h : FaithfulAt tokens p [] account) {value : α} {rest : Tokens}
    (run : p tokens = some (value, rest)) :
    account.holds value ∧ ∃ taken, tokens = taken ++ rest ∧ Reads taken (account.marks value) := by
  obtain ⟨holds, taken, same, reads⟩ := h value rest run
  exact ⟨holds, taken, same, reads [] .nil⟩

theorem becomes (step : Becomes before x) (h : FaithfulAt tokens p x account) :
    FaithfulAt tokens p before account := by
  intro value rest run
  obtain ⟨holds, taken, same, reads⟩ := h value rest run
  exact ⟨holds, taken, same, fun earlier h => reads earlier (h.becomes step)⟩

theorem bind (h : FaithfulAt tokens p [] account)
    (next : ∀ value, account.holds value → Faithful (k value) (before ++ account.marks value) result) :
    FaithfulAt tokens (p >>= k) before result := by
  intro value rest run
  obtain ⟨middle, between, first, second⟩ := bind_eq_some.mp run
  obtain ⟨holds, taken, rfl, reads⟩ := h.taken first
  obtain ⟨result, more, rfl, continues⟩ := next middle holds between value rest second
  refine ⟨result, taken ++ more, by simp, fun earlier h => ?_⟩
  rw [← List.append_assoc]
  exact continues _ (h.append reads)

/-- A step that goes on from what was read before. -/
theorem thread (h : FaithfulAt tokens p before account)
    (next : ∀ value, account.holds value → Faithful (k value) (account.marks value) result) :
    FaithfulAt tokens (p >>= k) before result := by
  intro value rest run
  obtain ⟨middle, between, first, second⟩ := bind_eq_some.mp run
  obtain ⟨holds, taken, rfl, reads⟩ := h middle between first
  obtain ⟨result, more, rfl, continues⟩ := next middle holds between value rest second
  refine ⟨result, taken ++ more, by simp, fun earlier h => ?_⟩
  rw [← List.append_assoc]
  exact continues _ (reads earlier h)

theorem skip (h : FaithfulAt tokens p [] .silent)
    (next : ∀ value, Faithful (k value) before result) :
    FaithfulAt tokens (p >>= k) before result :=
  bind h fun value _ => by simpa [Account.silent] using next value

theorem pure {value : β} (holds : result.holds value) (step : Becomes before (result.marks value)) :
    FaithfulAt tokens (pure value) before result := by
  rintro _ _ ⟨⟩
  exact ⟨holds, [], rfl, fun earlier h => by simpa using h.becomes step⟩

theorem fail : FaithfulAt tokens (fail : Parser α) before account := by rintro _ _ ⟨⟩

theorem map {f : α → β} (h : FaithfulAt tokens p [] account)
    (step : ∀ value, account.holds value →
      result.holds (f value) ∧ Becomes (before ++ account.marks value) (result.marks (f value))) :
    FaithfulAt tokens (f <$> p) before result := by
  rw [map_eq_pure_bind]
  exact h.bind fun value holds _ => .pure (step value holds).1 (step value holds).2

theorem ite {condition : Prop} [Decidable condition]
    (yes : condition → FaithfulAt tokens p before account)
    (no : ¬ condition → FaithfulAt tokens q before account) :
    FaithfulAt tokens (if condition then p else q) before account := by
  split
  · exact yes ‹_›
  · exact no ‹_›

theorem followedBy {r : Parser β} (h : FaithfulAt tokens p [] .silent)
    (after : Faithful r [] .silent) : FaithfulAt tokens (p <* r) [] .silent := by
  rw [seqLeft_eq_bind]
  exact h.skip fun _ _ => (after _).skip fun _ _ => .pure trivial (.refl _)

/-- A test takes nothing. -/
theorem at? {test : Tokens → Bool} {k : Bool → Parser β}
    (next : FaithfulAt tokens (k (test tokens)) before result) :
    FaithfulAt tokens (at? test >>= k) before result := by
  intro value rest run
  obtain ⟨_, _, ⟨⟩, second⟩ := bind_eq_some.mp run
  exact next value rest second

theorem guard {condition : Bool} {k : Unit → Parser β}
    (next : condition = true → FaithfulAt tokens (k ()) before result) :
    FaithfulAt tokens (guard condition >>= k) before result := by
  intro value rest run
  obtain ⟨_, _, first, second⟩ := bind_eq_some.mp run
  cases condition with
  | false => cases first
  | true => cases first; exact next rfl value rest second

end FaithfulAt

namespace Faithful

theorem becomes (step : Becomes before x) (h : Faithful p x account) :
    Faithful p before account :=
  fun tokens => (h tokens).becomes step

theorem bind (h : Faithful p [] account)
    (next : ∀ value, account.holds value → Faithful (k value) (before ++ account.marks value) result) :
    Faithful (p >>= k) before result :=
  fun tokens => (h tokens).bind next

/-- A step that goes on from what was read before. -/
theorem thread (h : Faithful p before account)
    (next : ∀ value, account.holds value → Faithful (k value) (account.marks value) result) :
    Faithful (p >>= k) before result :=
  fun tokens => (h tokens).thread next

/-- A step that takes tokens without marks. -/
theorem skip (h : Faithful p [] .silent) (next : ∀ value, Faithful (k value) before result) :
    Faithful (p >>= k) before result :=
  fun tokens => (h tokens).skip next

theorem tree {p : Parser Tree} {k : Tree → Parser β} (h : Faithful p [] .tree)
    (next : ∀ tree : Tree, tree.Formed → Faithful (k tree) (before ++ tree.marks) result) :
    Faithful (p >>= k) before result :=
  h.bind next

theorem bare {p : Parser Tree} {k : Tree → Parser β} (h : Faithful p [] .bare)
    (next : ∀ tree : Tree, tree.Formed → tree.marks = [] → Faithful (k tree) before result) :
    Faithful (p >>= k) before result :=
  h.bind fun tree fits => by simpa [fits.2] using next tree fits.1 fits.2

theorem trees {p : Parser (List Tree)} {k : List Tree → Parser β} (h : Faithful p [] (.each .tree))
    (next : ∀ trees : List Tree, (∀ tree ∈ trees, tree.Formed) →
      Faithful (k trees) (before ++ Tree.marksAll trees) result) :
    Faithful (p >>= k) before result :=
  h.bind fun trees formed => by simpa using next trees formed

theorem pure {value : β} (holds : result.holds value) (step : Becomes before (result.marks value)) :
    Faithful (Pure.pure value) before result :=
  fun _ => .pure holds step

/-- A node of which nothing special is said. -/
theorem node {kind : Kind} {children : List Tree} (plain : Tree.isPlain kind = true)
    (formed : ∀ child ∈ children, child.Formed) (step : Becomes before (Tree.marksAll children)) :
    Faithful (Pure.pure (Tree.node kind children)) before .tree :=
  .pure (Tree.formed_of_isPlain plain formed) (by simpa [Tree.marks_of_isPlain plain] using step)

/-- Tokens kept in place of whatever was read. -/
theorem keep {body : Tokens} : Faithful (Pure.pure (Tree.tokens body)) before .tree :=
  .pure (by simp) (by simpa using .kept before)

theorem fail : Faithful (Parser.fail : Parser α) before account := fun _ => .fail

theorem weaken (h : Faithful p before account) (step : ∀ value, account.holds value →
    other.holds value ∧ Becomes (account.marks value) (other.marks value)) :
    Faithful p before other := by
  intro tokens value rest run
  obtain ⟨holds, taken, same, reads⟩ := h tokens value rest run
  exact ⟨(step value holds).1, taken, same,
    fun earlier h => (reads earlier h).becomes (step value holds).2⟩

theorem plain {p : Parser Tree} {property : Tree → Prop} (h : Faithful p before (.treeWith property)) :
    Faithful p before .tree :=
  h.weaken fun _ holds => ⟨holds.1, .refl _⟩

/-- What is said of a value beside its marks. -/
theorem only {tree : Tree} {property : Tree → Prop} (h : Faithful (Pure.pure tree) before .tree)
    (fits : property tree) : Faithful (Pure.pure tree) before (.treeWith property) := by
  rintro tokens _ _ ⟨⟩
  obtain ⟨formed, taken⟩ := h tokens tree tokens rfl
  exact ⟨⟨formed, fits⟩, taken⟩

/-- A parser whose value is not used, in a part that is kept as tokens. -/
theorem discard (h : Faithful p [] account) : Faithful p before .kept := by
  intro tokens value rest run
  obtain ⟨-, taken, same, reads⟩ := (h tokens).taken run
  exact ⟨trivial, taken, same, fun earlier h => (h.append reads).becomes (.kept _)⟩

/-- The marks of what a parser takes may all be set aside. -/
theorem setAside {holds : α → Prop} {marks : α → List Mark} (h : Faithful p [] ⟨holds, marks⟩) :
    Faithful p [] ⟨holds, fun value => (marks value).map Mark.setAside⟩ := by
  refine fun tokens => .of_taken fun value rest run => ?_
  obtain ⟨fits, taken, same, reads⟩ := (h tokens).taken run
  exact ⟨fits, taken, same, reads.aside⟩

theorem map {f : α → β} (h : Faithful p [] account)
    (step : ∀ value, account.holds value →
      result.holds (f value) ∧ Becomes (before ++ account.marks value) (result.marks (f value))) :
    Faithful (f <$> p) before result :=
  fun tokens => (h tokens).map step

theorem iteIf {condition : Prop} [Decidable condition] (yes : condition → Faithful p before account)
    (no : ¬ condition → Faithful q before account) :
    Faithful (if condition then p else q) before account :=
  fun tokens => .ite (yes · tokens) (no · tokens)

theorem ite {condition : Prop} [Decidable condition] (yes : Faithful p before account)
    (no : Faithful q before account) : Faithful (if condition then p else q) before account :=
  .iteIf (fun _ => yes) fun _ => no

/-- A choice between two parsers after which the same follows. -/
theorem chooseIf (account : Account α) {condition : Prop} [Decidable condition]
    (yes : condition → Faithful p [] account)
    (no : ¬ condition → Faithful q [] account)
    (next : ∀ value, account.holds value → Faithful (k value) (before ++ account.marks value) result) :
    Faithful (if condition then p >>= k else q >>= k) before result :=
  .iteIf (fun h => (yes h).bind next) fun h => (no h).bind next

theorem choose {condition : Prop} [Decidable condition] (yes : Faithful p [] account)
    (no : Faithful q [] account)
    (next : ∀ value, account.holds value → Faithful (k value) (before ++ account.marks value) result) :
    Faithful (if condition then p >>= k else q >>= k) before result :=
  .chooseIf account (fun _ => yes) (fun _ => no) next

theorem value {value : α} : Faithful (Pure.pure value) [] .silent := .pure trivial (.refl _)

/-- A choice between two steps without marks. -/
theorem chooseSilent {condition : Prop} [Decidable condition] (yes : Faithful p [] .silent)
    (no : Faithful q [] .silent) (next : ∀ value, Faithful (k value) before result) :
    Faithful (if condition then p >>= k else q >>= k) before result :=
  .ite (yes.skip next) (no.skip next)

/-- A choice between two parsers that go on from what was read before. -/
theorem chooseFromIf (account : Account α) {condition : Prop} [Decidable condition]
    (yes : condition → Faithful p before account) (no : ¬ condition → Faithful q before account)
    (next : ∀ value, account.holds value → Faithful (k value) (account.marks value) result) :
    Faithful (if condition then p >>= k else q >>= k) before result :=
  .iteIf (fun h => (yes h).thread next) fun h => (no h).thread next

theorem chooseFrom {condition : Prop} [Decidable condition] (yes : Faithful p before account)
    (no : Faithful q before account)
    (next : ∀ value, account.holds value → Faithful (k value) (account.marks value) result) :
    Faithful (if condition then p >>= k else q >>= k) before result :=
  .chooseFromIf account (fun _ => yes) (fun _ => no) next

/-- A part that may be missing. -/
theorem optional {condition : Prop} [Decidable condition] {p : Parser Tree} {k : Tree → Parser β}
    (h : Faithful p [] .tree)
    (next : ∀ tree : Tree, tree.Formed → Faithful (k tree) (before ++ tree.marks) result) :
    Faithful (if condition then p >>= k else Pure.pure Tree.absent >>= k) before result :=
  .choose h (.pure Tree.formed_absent (.of_eq (by simp))) next

/-- A test that succeeds does so at some tokens. -/
theorem at?_of {test : Tokens → Bool} {k : Bool → Parser β}
    (next : ∀ found, (found = true → ∃ tokens, test tokens = true) → Faithful (k found) before result) :
    Faithful (Parser.at? test >>= k) before result :=
  fun tokens => .at? (next _ (fun found => ⟨tokens, found⟩) tokens)

theorem at? {test : Tokens → Bool} {k : Bool → Parser β}
    (next : ∀ found, Faithful (k found) before result) :
    Faithful (Parser.at? test >>= k) before result :=
  .at?_of fun found _ => next found

/-- What is read ahead is not taken. -/
theorem lookahead {p : Parser α} {k : α → Parser β}
    (next : ∀ value, Faithful (k value) before result) :
    Faithful (Parser.lookahead p >>= k) before result := by
  intro tokens value rest run
  obtain ⟨_, _, first, second⟩ := bind_eq_some.mp run
  obtain ⟨_, _, ⟨⟩⟩ := Option.map_eq_some_iff.mp first
  exact next _ tokens value rest second

/-- A look at the tokens to come. -/
theorem peek {f : Tokens → α} : Faithful (f <$> get) [] .silent := by
  rintro tokens _ _ ⟨⟩
  exact ⟨trivial, [], rfl, fun earlier h => by simpa using h⟩

/-- A choice by a test. -/
theorem test {test : Tokens → Bool} (yes : Faithful p before account)
    (no : Faithful q before account) :
    Faithful (Parser.at? test >>= fun found => if found = true then p else q) before account :=
  .at? fun _ => .ite yes no

/-- A choice by a test whose success matters. -/
theorem testAt {test : Tokens → Bool}
    (yes : ∀ tokens, test tokens = true → FaithfulAt tokens p before account)
    (no : Faithful q before account) :
    Faithful (Parser.at? test >>= fun found => if found = true then p else q) before account :=
  fun tokens => .at? (.ite (yes tokens) fun _ => no tokens)

theorem guard {condition : Bool} {k : Unit → Parser β}
    (next : condition = true → Faithful (k ()) before result) :
    Faithful (Parser.guard condition >>= k) before result :=
  fun tokens => .guard fun holds => next holds tokens

/-- A test that has to succeed. -/
theorem guardAt {test : Tokens → Bool} {k : Unit → Parser β}
    (next : ∀ tokens, test tokens = true → FaithfulAt tokens (k ()) before result) :
    Faithful (Parser.at? test >>= fun found => Parser.guard found >>= k) before result :=
  fun tokens => .at? (.guard (next tokens))

theorem andThen {r : Parser β} (h : Faithful p [] .silent) (after : Faithful r before result) :
    Faithful (p *> r) before result := by
  rw [seqRight_eq_bind]
  exact h.skip fun _ => after

theorem orElse (first : Faithful p before account) (second : Faithful q before account) :
    Faithful (Parser.orElse p q) before account := by
  intro tokens value rest run
  unfold Parser.orElse at run
  split at run
  · next found => exact first tokens value rest (found.trans run)
  · exact second tokens value rest run

end Faithful

/-! ### Words -/

theorem eq_map_some_of_mapM {options : List (Option α)} {values : List α}
    (found : options.mapM id = some values) : options = values.map some := by
  induction options generalizing values with
  | nil => cases found; rfl
  | cons option rest ih =>
    rw [List.mapM_cons] at found
    obtain ⟨value, rfl, more⟩ := Option.bind_eq_some_iff.mp found
    obtain ⟨values, inner, ⟨⟩⟩ := Option.bind_eq_some_iff.mp more
    rw [ih inner, List.map_cons]

theorem anyWord_eq_some {rest : Tokens} {word : String}
    (run : anyWord tokens = some (word, rest)) : tokens = .word word :: rest := by
  unfold anyWord at run
  split at run
  · cases run
    rfl
  · cases run

theorem name_eq_some {rest : Tokens} {word : String}
    (run : name tokens = some (word, rest)) : tokens = .word word :: rest := by
  obtain ⟨_, _, ⟨⟩, second⟩ := bind_eq_some.mp run
  obtain ⟨_, _, first, third⟩ := bind_eq_some.mp second
  unfold guard at first
  split at first
  · cases first
    exact anyWord_eq_some third
  · cases first

theorem keyword_eq_some {rest : Tokens} {word : String} {value : Unit}
    (run : keyword word tokens = some (value, rest)) : tokens = .word word :: rest := by
  unfold keyword at run
  split at run
  · split at run
    · next same =>
      cases run
      rw [same]
    · cases run
  · cases run

theorem keyword?_eq_some {rest : Tokens} {word : String} {present : Bool}
    (run : keyword? word tokens = some (present, rest)) :
    present = true ∧ tokens = .word word :: rest ∨ present = false ∧ tokens = rest := by
  unfold keyword? at run
  split at run
  · next found =>
    unfold Tokens.atWord at found
    split at found
    · next text more =>
      cases run
      exact .inl ⟨rfl, by rw [beq_iff_eq.mp found]; rfl⟩
    · cases found
  · cases run
    exact .inr ⟨rfl, rfl⟩

theorem group_eq_some {delimiter : Delimiter} {rest : Tokens} {value : α}
    (run : group delimiter p tokens = some (value, rest)) :
    ∃ body, tokens = .group delimiter body :: rest ∧ within p body = some value := by
  unfold group at run
  split at run
  · next d body more =>
    split at run
    · next same =>
      obtain ⟨_, found, ⟨⟩⟩ := Option.map_eq_some_iff.mp run
      exact ⟨body, by rw [same], found⟩
    · cases run
  · cases run

theorem operator_eq_some {text : String} (char : Char) {rest : Tokens} {value : Unit}
    (run : operator text tokens = some (value, rest)) (single : text.toList = [char]) :
    ∃ joint, tokens = .punct char joint :: rest := by
  obtain ⟨_, dropped, ⟨⟩⟩ := Option.map_eq_some_iff.mp run
  rw [single] at dropped
  rcases tokens with _ | ⟨_ | _ | ⟨c, joint⟩ | _, more⟩ <;> simp [Tokens.dropOperator?] at dropped
  exact ⟨joint, by rw [dropped.1, dropped.2]⟩

/-- No word stands here that opens a declaration. -/
def AtPlain (tokens : Tokens) : Prop := ∀ word rest, tokens = .word word :: rest → isPlainWord word

theorem atPlain_of_atWord {word : String} (found : tokens.atWord word = true)
    (plain : isPlainWord word = true) : AtPlain tokens := by
  rintro text rest rfl
  exact (beq_iff_eq.mp found : text = word) ▸ plain

theorem atPlain_of_atOneOf {words : List String} (found : tokens.atOneOf words = true)
    (plain : words.all isPlainWord = true) : AtPlain tokens := by
  rintro text rest rfl
  exact List.all_eq_true.mp plain text (List.contains_iff_mem.mp found)

theorem atPlain_of_atName (found : tokens.atName = true) : AtPlain tokens := by
  rintro text rest rfl
  have free : Tokens.reserved.contains text = false := by simpa [Tokens.atName] using found
  have opening : ∀ word ∈ openingWords.map Prod.fst, Tokens.reserved.contains word := by decide
  have other : text ∉ openingWords.map Prod.fst := fun member => by
    rw [opening text member] at free
    cases free
  simpa [isPlainWord] using other

theorem atPlain_of_atOperator {operator : String} (found : tokens.atOperator operator = true) :
    AtPlain tokens := by
  rintro text rest rfl
  cases same : operator.toList <;> simp [Tokens.atOperator, same, Tokens.dropOperator?] at found

theorem anyWord_at (plain : AtPlain tokens) : FaithfulAt tokens anyWord [] .silent := by
  refine .of_taken fun value rest run => ⟨trivial, ?_⟩
  obtain rfl := anyWord_eq_some run
  exact ⟨[.word value], rfl, .of_shows (.word (plain _ _ rfl))⟩

/-- A keyword, when it matters which tokens stand after it. -/
theorem FaithfulAt.keyword {word : String} {k : Unit → Parser β} (plain : isPlainWord word = true)
    (next : ∀ rest, tokens = .word word :: rest → FaithfulAt rest (k ()) before result) :
    FaithfulAt tokens (Parser.keyword word >>= k) before result := by
  intro value rest run
  obtain ⟨_, between, first, second⟩ := bind_eq_some.mp run
  obtain rfl := keyword_eq_some first
  obtain ⟨holds, taken, rfl, reads⟩ := next between rfl value rest second
  refine ⟨holds, .word word :: taken, rfl, fun earlier h => ?_⟩
  rw [List.append_cons]
  exact reads _ (by simpa using h.append (.of_shows (.word plain)))

namespace Faithful

theorem keyword {word : String} (plain : isPlainWord word = true) :
    Faithful (keyword word) [] .silent := by
  refine fun tokens => .of_taken fun value rest run => ⟨trivial, ?_⟩
  obtain rfl := keyword_eq_some run
  exact ⟨[.word word], rfl, .of_shows (.word plain)⟩

theorem keyword? {word : String} (plain : isPlainWord word = true) :
    Faithful (keyword? word) [] .silent := by
  refine fun tokens => .of_taken fun value rest run => ⟨trivial, ?_⟩
  rcases keyword?_eq_some run with ⟨-, rfl⟩ | ⟨-, rfl⟩
  · exact ⟨[.word word], rfl, .of_shows (.word plain)⟩
  · exact ⟨[], rfl, .nil⟩

/-- A keyword that may be missing. -/
theorem flag {word : String} {k : Tree → Parser β} (plain : isPlainWord word = true)
    (next : ∀ present, Faithful (k (Tree.flag word present)) before result) :
    Faithful (keywordTree word >>= k) before result := by
  rw [Parser.keywordTree, map_eq_pure_bind]
  simp only [bind_assoc, pure_bind]
  exact .skip (keyword? plain) next

theorem name : Faithful name [] .silent := guardAt fun _ found => anyWord_at (atPlain_of_atName found)

theorem lifetime : Faithful lifetime [] .bare := by
  refine fun tokens => .of_taken fun value rest run => ?_
  unfold Parser.lifetime at run
  split at run
  · next joint text more =>
    cases run
    exact ⟨by simp, [.punct '\'' joint, .word text], rfl, by
      simpa using Reads.of_shows (.lifetime joint text)⟩
  · cases run

theorem lifetime? : Faithful lifetime? [] .bare :=
  test lifetime (.pure (by simp) (.of_eq (by simp)))

theorem literal : Faithful literal [] .bare := by
  refine fun tokens => .of_taken fun value rest run => ?_
  unfold Parser.literal at run
  split at run
  · next text more =>
    cases run
    exact ⟨by simp, [.literal text], rfl, by simpa using Reads.of_shows (.literal text)⟩
  · next text more =>
    split at run
    · next truth =>
      cases run
      have plain : isPlainWord text := by rcases truth with rfl | rfl <;> decide
      exact ⟨by simp, [.word text], rfl, by simpa using Reads.of_shows (.word plain)⟩
    · cases run
  · next joint text more =>
    split at run
    · cases run
      refine ⟨by simp, [.punct '-' joint, .literal text], rfl, ?_⟩
      simpa using (Reads.of_shows (.punct joint (by decide))).append (.of_shows (.literal text))
    · cases run
  · cases run

/-! ### Operators -/

theorem dropOperator? {operator : List Char} {tokens rest : Tokens}
    (plain : operator.contains '\'' = false)
    (found : tokens.dropOperator? operator = some rest) :
    ∃ taken, tokens = taken ++ rest ∧ Reads taken [] := by
  fun_induction Tokens.dropOperator? operator tokens with
  | case1 c joint more =>
    cases found
    exact ⟨[.punct c joint], rfl, .of_shows (.punct joint (by simpa [eq_comm] using plain))⟩
  | case2 => cases found
  | case3 c more d joint tokens _ same ih =>
    obtain ⟨apart, plain⟩ : '\'' ≠ c ∧ more.contains '\'' = false := by simpa using plain
    obtain ⟨taken, rfl, reads⟩ := ih plain found
    obtain ⟨rfl, -⟩ := same
    exact ⟨.punct c joint :: taken, rfl, (Reads.of_shows (.punct joint (Ne.symm apart))).append reads⟩
  | case4 | case5 => cases found

theorem operator {text : String} (plain : text.toList.contains '\'' = false) :
    Faithful (operator text) [] .silent := by
  refine fun tokens => .of_taken fun value rest run => ⟨trivial, ?_⟩
  obtain ⟨_, found, ⟨⟩⟩ := Option.map_eq_some_iff.mp run
  exact dropOperator? plain found

theorem operator? {text : String} (plain : text.toList.contains '\'' = false) :
    Faithful (operator? text) [] .silent := by
  refine fun tokens => .of_taken fun value rest run => ⟨trivial, ?_⟩
  unfold Parser.operator? at run
  split at run
  · next found =>
    cases run
    exact dropOperator? plain found
  · cases run
    exact ⟨[], rfl, .nil⟩

/-! ### Groups -/

theorem within {body : Tokens} {value : α} (h : Faithful p [] account)
    (run : within p body = some value) : account.holds value ∧ Reads body (account.marks value) := by
  unfold Parser.within at run
  split at run
  · next found =>
    cases run
    obtain ⟨holds, taken, rfl, reads⟩ := (h body).taken found
    exact ⟨holds, by simpa using reads⟩
  · cases run

theorem group {delimiter : Delimiter} (h : Faithful p [] account) :
    Faithful (group delimiter p) [] account := by
  refine fun tokens => .of_taken fun value rest run => ?_
  obtain ⟨body, rfl, found⟩ := group_eq_some run
  obtain ⟨holds, reads⟩ := h.within found
  exact ⟨holds, [.group delimiter body], rfl, reads.group delimiter⟩

theorem parens (h : Faithful p [] account) : Faithful (parens p) [] account := h.group

theorem brackets (h : Faithful p [] account) : Faithful (brackets p) [] account := h.group

theorem braces (h : Faithful p [] account) : Faithful (braces p) [] account := h.group

theorem anyGroup : Faithful anyGroup [] (.treeWith fun tree => ∃ body, tree = .tokens body) := by
  refine fun tokens => .of_taken fun value rest run => ?_
  unfold Parser.anyGroup at run
  split at run
  · next d body more =>
    cases run
    exact ⟨by simp, [.group d body], rfl, by simpa using Reads.of_shows (.kept d body)⟩
  · cases run

/-- A group that is passed over counts as kept. -/
theorem anyGroupOf {delimiter : Delimiter} : Faithful (anyGroupOf delimiter) [] .kept := by
  refine fun tokens => .of_taken fun value rest run => ?_
  unfold Parser.anyGroupOf at run
  split at run
  · next d body more =>
    split at run
    · cases run
      exact ⟨trivial, [.group d body], rfl, .of_shows (.kept d body)⟩
    · cases run
  · cases run

/-! ### Repetition -/

/-- A parser that goes on for as long as there are tokens. -/
theorem of_fuel {go : Nat → Parser α} (h : ∀ fuel, Faithful (go fuel) before account)
    (same : ∀ tokens, p tokens = go (tokens.length + 1) tokens) : Faithful p before account := by
  intro tokens value rest run
  rw [same] at run
  exact h _ tokens value rest run

theorem some_of (h : Faithful p [] account) : Faithful (some <$> p) [] account.option :=
  h.map fun _ holds => ⟨by simpa using holds, .of_eq (by simp)⟩

theorem cons_of {p : Parser (List α)} {value : α} (holds : account.holds value)
    (h : Faithful p [] account.each) :
    Faithful ((value :: ·) <$> p) (account.marks value) account.each :=
  h.map fun rest all => ⟨by simpa [holds] using all, .of_eq (by simp)⟩

theorem repeatStep {step : Parser (Option α)} (h : Faithful step [] account.option) :
    Faithful (repeatStep step) [] account.each := by
  have fueled : ∀ fuel, Faithful (repeatFuel step fuel) [] account.each := fun fuel => by
    induction fuel with
    | zero => exact fail
    | succ fuel ih =>
      unfold repeatFuel
      refine h.bind fun value holds => ?_
      cases value with
      | none => exact .pure (by simp) (.of_eq (by simp))
      | some value => simpa using cons_of (by simpa using holds) ih
  exact .of_fuel fueled fun _ => rfl

theorem whileAt {test : Tokens → Bool} (h : Faithful p [] account) :
    Faithful (whileAt test p) [] account.each :=
  repeatStep (.test h.some_of (.pure (by simp) (.of_eq (by simp))))

theorem untilEnd (h : Faithful p [] account) : Faithful (untilEnd p) [] account.each := h.whileAt

theorem separated {stop : Tokens → Bool} {separator : Parser Unit}
    (between : Faithful separator [] .silent) (h : Faithful p [] account) :
    Faithful (separated stop separator p) [] account.each := by
  have fueled : ∀ fuel, Faithful (separatedFuel stop separator p fuel) [] account.each := fun fuel => by
    induction fuel with
    | zero => exact fail
    | succ fuel ih =>
      unfold separatedFuel
      refine .test (.pure (by simp) (.of_eq (by simp))) ?_
      refine h.bind fun value holds => ?_
      refine .test (.pure (by simpa using holds) (.of_eq (by simp))) ?_
      refine .skip between fun _ => ?_
      exact (ih.cons_of holds)
  exact .of_fuel fueled fun _ => rfl

theorem commaSeparated (h : Faithful p [] account) :
    Faithful (commaSeparated p) [] account.each :=
  separated (operator rfl) h

theorem joined {stop : Tokens → Bool} {joint : String} (plain : joint.toList.contains '\'' = false)
    (h : Faithful p [] account) : Faithful (joined stop joint p) [] account.each := by
  have fueled : ∀ fuel, Faithful (joinedFuel stop joint p fuel) [] account.each := fun fuel => by
    induction fuel with
    | zero => exact fail
    | succ fuel ih =>
      unfold joinedFuel
      refine .test (.pure (by simp) (.of_eq (by simp))) ?_
      refine h.bind fun value holds => ?_
      refine .skip (operator? plain) fun _ => ?_
      refine .ite (ih.cons_of holds) (.pure (by simpa using holds) (.of_eq (by simp)))
  exact .of_fuel fueled fun _ => rfl

end Faithful

end Parser

end Scaffold.Rust
