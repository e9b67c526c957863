import Scaffold.Proofs.Rust.Mark

/-!
How tokens are read. `Shows` says which marks the tokens show from first to last, `Becomes` how
marks may be listed otherwise than they are read, and `Reads` puts the two together.
-/

namespace Scaffold.Rust

/-! ### Tokens that show marks -/

/-- Words that open a declaration wherever a word follows them. -/
def openingWords : List (String × DeclarationKind) :=
  [("struct", .struct), ("enum", .enum), ("trait", .trait), ("mod", .module)]

/-- Words right before the name that they declare. -/
def declaringWords : List (String × DeclarationKind) :=
  openingWords ++ [("union", .union), ("type", .typeAlias), ("fn", .function), ("const", .const),
    ("static", .static)]

/-- Whether a word may be passed over. -/
def isPlainWord (word : String) : Bool := !(openingWords.map Prod.fst).contains word

/-- The marks that tokens show. Every token is read; only groups can be left as they are, and a
word that opens declarations is not passed over. -/
inductive Shows : Tokens → List Mark → Prop
  | nil : Shows [] []
  | append {first second : Tokens} {x y : List Mark} :
    Shows first x → Shows second y → Shows (first ++ second) (x ++ y)
  | word {text : String} : isPlainWord text → Shows [.word text] []
  | literal (text : String) : Shows [.literal text] []
  | punct {char : Char} (joint : Bool) : char ≠ '\'' → Shows [.punct char joint] []
  | lifetime (joint : Bool) (text : String) : Shows [.punct '\'' joint, .word text] []
  | group (delimiter : Delimiter) {body : Tokens} {x : List Mark} :
    Shows body x → Shows [.group delimiter body] x
  | kept (delimiter : Delimiter) (body : Tokens) : Shows [.group delimiter body] [.kept]
  | keyword {word : String} {kind : DeclarationKind} (name : String) :
    (word, kind) ∈ declaringWords → Shows [.word word, .word name] [.declared kind name false]
  | mutable (name : String) :
    Shows [.word "static", .word "mut", .word name] [.declared .static name false]
  | field (name : String) (joint : Bool) :
    Shows [.word name, .punct ':' joint] [.declared .field name false]
  | variant (name : String) : Shows [.word name] [.declared .variant name false]
  /-- another name for bounds is no trait -/
  | traitAlias (name : String) (joint : Bool) {parameters : Tokens} {x : List Mark} :
    Shows parameters x →
    Shows (.word "trait" :: .word name :: (parameters ++ [.punct '=' joint])) x
  | nameless {word : String} {body : Tokens} {x : List Mark} :
    Shows body x → Shows [.word word, .group .brace body] x
  | aside {tokens : Tokens} {x : List Mark} : Shows tokens x → Shows tokens (x.map Mark.setAside)

/-! ### Marks that are listed otherwise than they are read -/

/-- What may be listed for the marks that were read: those aside change their places, and a part
that is kept as tokens is not looked into. -/
inductive Becomes : List Mark → List Mark → Prop
  | rearranged {x y : List Mark} :
    x.filter Mark.isFixed = y.filter Mark.isFixed → x.Perm y → Becomes x y
  | kept (x : List Mark) : Becomes x [.kept]
  | append {x y z w : List Mark} : Becomes x z → Becomes y w → Becomes (x ++ y) (z ++ w)
  | trans {x y z : List Mark} : Becomes x y → Becomes y z → Becomes x z

namespace Becomes

variable {x y z : List Mark}

theorem refl (x : List Mark) : Becomes x x := .rearranged rfl (.refl x)

theorem of_eq (same : x = y) : Becomes x y := same ▸ refl x

theorem of_counts (fixed : x.filter Mark.isFixed = y.filter Mark.isFixed)
    (counts : ∀ mark, x.count mark = y.count mark) : Becomes x y :=
  .rearranged fixed (List.perm_iff_count.mpr counts)

theorem left (z : List Mark) (h : Becomes x y) : Becomes (z ++ x) (z ++ y) := .append (refl z) h

theorem right (z : List Mark) (h : Becomes x y) : Becomes (x ++ z) (y ++ z) := .append h (refl z)

/-- Marks whose places are not fixed pass others. -/
theorem swap (aside : AllAside x ∨ AllAside y) : Becomes (x ++ y) (y ++ x) := by
  refine .rearranged ?_ List.perm_append_comm
  rcases aside with h | h <;> simp only [AllAside] at h <;> simp [h]

/-- Marks whose places are not fixed come to the front. -/
theorem pass (aside : AllAside y) (x z : List Mark) : Becomes (x ++ (y ++ z)) (y ++ (x ++ z)) := by
  simpa using (swap (.inr aside)).right z

/-- A mark passes those before it whose places are not fixed. -/
theorem front (aside : AllAside x) (mark : Mark) (y : List Mark) :
    Becomes (x ++ mark :: y) (mark :: (x ++ y)) := by
  simpa using (swap (y := [mark]) (.inl aside)).right y

theorem map_setAside (h : Becomes x y) :
    Becomes (x.map Mark.setAside) (y.map Mark.setAside) := by
  induction h with
  | @rearranged x y same perm =>
    exact .rearranged ((allAside_map x).trans (allAside_map y).symm) (perm.map _)
  | kept x => exact .kept _
  | append _ _ ihx ihy => simpa using ihx.append ihy
  | trans _ _ ihx ihy => exact ihx.trans ihy

/-- What keeps its place is listed as it was read, but for what is not looked into. -/
theorem fixed_sublist (h : Becomes x y) :
    (y.filter Mark.isFixed).Sublist (x.filter Mark.isFixed) := by
  induction h with
  | rearranged same _ => rw [same]
  | kept x => simp [Mark.isFixed]
  | append _ _ ihx ihy => simpa using ihx.append ihy
  | trans _ _ ihx ihy => exact ihy.trans ihx

/-- All that is listed was read. -/
theorem declarations_subperm (h : Becomes x y) :
    (y.filterMap Mark.declaration?).Subperm (x.filterMap Mark.declaration?) := by
  induction h with
  | rearranged _ perm => exact (perm.symm.filterMap _).subperm
  | kept x => exact List.nil_subperm
  | append _ _ ihx ihy => simpa using ihx.append ihy
  | trans _ _ ihx ihy => exact ihy.trans ihx

/-- Where everything is looked into, all that was read is listed. -/
theorem rearranged_of_open (h : Becomes x y) (opened : .kept ∉ y) :
    x.filter Mark.isFixed = y.filter Mark.isFixed ∧ x.Perm y := by
  induction h with
  | rearranged same perm => exact ⟨same, perm⟩
  | kept x => simp at opened
  | append _ _ ihx ihy =>
    rw [List.mem_append, not_or] at opened
    obtain ⟨⟨sx, px⟩, sy, py⟩ := And.intro (ihx opened.1) (ihy opened.2)
    exact ⟨by rw [List.filter_append, List.filter_append, sx, sy], px.append py⟩
  | trans _ _ ihx ihy =>
    obtain ⟨sy, py⟩ := ihy opened
    obtain ⟨sx, px⟩ := ihx fun h => opened (py.mem_iff.mp h)
    exact ⟨sx.trans sy, px.trans py⟩

end Becomes

/-! ### Reading -/

/-- The marks may be listed for the tokens. -/
def Reads (tokens : Tokens) (listed : List Mark) : Prop :=
  ∃ seen, Shows tokens seen ∧ Becomes seen listed

namespace Reads

variable {tokens first second : Tokens} {x y : List Mark}

theorem of_shows (h : Shows tokens x) : Reads tokens x := ⟨x, h, .refl x⟩

theorem nil : Reads [] [] := of_shows .nil

theorem becomes (h : Reads tokens x) (step : Becomes x y) : Reads tokens y :=
  let ⟨seen, shows, listed⟩ := h
  ⟨seen, shows, listed.trans step⟩

theorem append (hx : Reads first x) (hy : Reads second y) : Reads (first ++ second) (x ++ y) :=
  let ⟨seen, shows, listed⟩ := hx
  let ⟨more, shows₂, listed₂⟩ := hy
  ⟨seen ++ more, shows.append shows₂, listed.append listed₂⟩

theorem group (delimiter : Delimiter) (h : Reads tokens x) : Reads [.group delimiter tokens] x :=
  let ⟨seen, shows, listed⟩ := h
  ⟨seen, shows.group delimiter, listed⟩

theorem nameless (word : String) (h : Reads tokens x) :
    Reads [.word word, .group .brace tokens] x :=
  let ⟨seen, shows, listed⟩ := h
  ⟨seen, shows.nameless, listed⟩

theorem aside (h : Reads tokens x) : Reads tokens (x.map Mark.setAside) :=
  let ⟨seen, shows, listed⟩ := h
  ⟨seen.map Mark.setAside, shows.aside, listed.map_setAside⟩

end Reads

end Scaffold.Rust
