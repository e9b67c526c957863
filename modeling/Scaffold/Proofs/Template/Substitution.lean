import Scaffold.Proofs.Template.Builtin
import Scaffold.Proofs.Text

/-! Rendering as substitution. A template of texts with insertions between them renders to the texts with
the feature between them, character by character, whatever it is called and whatever the feature holds.
All that is asked is that no text looks like a tag, or makes one with the insertion behind it. -/

namespace Scaffold.Template

open Text

/-- Texts in which no tag starts. Of those with an insertion behind them none ends in a brace, which
would start a tag with the braces of the insertion. -/
structure Untagged (texts : List (List Char)) : Prop where
  within : ∀ text ∈ texts, ∀ mark ∈ ['\x7b', '%', '#'], contains ['\x7b', mark] text = false
  ends : ∀ text ∈ texts.dropLast, text.getLast? ≠ some '\x7b'

instance (texts : List (List Char)) : Decidable (Untagged texts) :=
  decidable_of_iff
    ((texts.all fun text => ['\x7b', '%', '#'].all fun mark => contains ['\x7b', mark] text == false) ∧
      texts.dropLast.all fun text => text.getLast? != some '\x7b')
    ⟨fun ⟨within, ends⟩ => ⟨by simpa using within, by simpa using ends⟩,
      fun untagged => ⟨by simpa using untagged.within, by simpa using untagged.ends⟩⟩

theorem opensTag_iff {mark : Char} : opensTag mark = true ↔ mark ∈ ['\x7b', '%', '#'] := by
  simp [opensTag, or_assoc]

theorem isQuiet_of_contains {next text : List Char}
    (within : ∀ mark ∈ ['\x7b', '%', '#'], contains ['\x7b', mark] text = false)
    (ends : text.getLast? = some '\x7b' → next = []) : isQuiet next text = true := by
  induction text with
  | nil => rfl
  | cons c text ih =>
    have split : ∀ mark ∈ ['\x7b', '%', '#'],
        ('\x7b' == c && text.head? == some mark) = false ∧ contains ['\x7b', mark] text = false := by
      intro mark member
      have plain := within mark member
      rw [contains_pair_cons] at plain
      exact Bool.or_eq_false_iff.mp plain
    refine isQuiet_cons.mpr ⟨fun mark rest same => ?_, ih (fun mark member => (split mark member).2) ?_⟩
    · obtain ⟨brace, same⟩ := List.cons.inj same
      rw [← Bool.not_eq_true, opensTag_iff]
      intro member
      cases text with
      | nil => simp [ends (by simp [brace])] at same
      | cons d text =>
        obtain ⟨rfl, -⟩ := List.cons.inj same
        simpa [brace] using (split d member).1
    · intro last
      refine ends ?_
      cases text with
      | nil => contradiction
      | cons d text => rwa [List.getLast?_cons_cons]

theorem Untagged.areQuiet {texts : List (List Char)} (untagged : Untagged texts) :
    areQuiet texts = true := by
  induction texts with
  | nil => rfl
  | cons text more ih =>
    have here := untagged.within text List.mem_cons_self
    cases more with
    | nil => exact isQuiet_of_contains here fun _ => rfl
    | cons next more =>
      refine Bool.and_eq_true_iff.mpr ⟨isQuiet_of_contains here fun last => ?_, ih ⟨?_, ?_⟩⟩
      · exact absurd last (untagged.ends text (by simp))
      · exact fun other member => untagged.within other (List.mem_cons_of_mem _ member)
      · exact fun other member => untagged.ends other (by simp [member])

/-- A template by its texts, in which insertions stand for the feature. -/
structure Spelling where
  name : String
  texts : List (List Char)
  fileTexts : List (List Char)

namespace Spelling

def spec (spelling : Spelling) : TemplateSpec :=
  ⟨spelling.name, String.ofList (spelled spelling.texts), String.ofList (spelled spelling.fileTexts)⟩

/-- The file with the feature in the place of the insertions. -/
def artifact (spelling : Spelling) (feature : String) : Artifact :=
  ⟨filled feature spelling.fileTexts, filled feature spelling.texts⟩

structure Plain (spelling : Spelling) : Prop where
  texts : Untagged spelling.texts
  fileTexts : Untagged spelling.fileTexts

end Spelling

namespace Builtin

/-! ### No tag is left -/

/-- Characters that may follow each other where no tag of a template is. -/
def Follows (c next : Char) : Prop :=
  ¬(c = '\x7b' ∧ (next = '\x7b' ∨ next = '%')) ∧ ¬(c = '\x7d' ∧ next = '\x7d')

theorem contains_of_isChain {text : List Char} (chain : text.IsChain Follows) {first second : Char}
    (apart : ¬Follows first second) : contains [first, second] text = false := by
  induction text with
  | nil => rfl
  | cons c text ih =>
    obtain ⟨follows, chain⟩ := List.isChain_cons.mp chain
    rw [contains_pair_cons, ih chain, Bool.or_false, ← Bool.not_eq_true]
    intro both
    obtain ⟨rfl, behind⟩ : first = c ∧ text.head? = some second := by simpa using both
    exact apart (follows second behind)

/-- Whether the braces of a line of the sketch end the line, and nothing else of it stands for one. -/
def hasLastBraces : List Char → Bool
  | [] => true
  | '‹' :: '›' :: rest => hasLastBraces rest
  | '⟨' :: rest => rest.isEmpty || rest == ['⟩']
  | '⟩' :: rest => rest.isEmpty
  | c :: rest => ! ['‹', '›', '\x7b', '\x7d'].contains c && hasLastBraces rest

theorem isChain_plain {text : List Char} (plain : ∀ c ∈ text, c ≠ '\x7b' ∧ c ≠ '\x7d') :
    text.IsChain Follows := by
  induction text with
  | nil => exact .nil
  | cons c text ih =>
    obtain ⟨⟨opening, closing⟩, plain⟩ := List.forall_mem_cons.mp plain
    exact List.isChain_cons.mpr ⟨fun _ _ => ⟨by simp [opening], by simp [closing]⟩, ih plain⟩

theorem isChain_fill {feature : List Char} (plain : ∀ c ∈ feature, c ≠ '\x7b' ∧ c ≠ '\x7d')
    {line : List Char} (last : hasLastBraces line = true) : (fill feature line).IsChain Follows := by
  fun_induction hasLastBraces line with
  | case1 => exact .nil
  | case2 rest ih =>
    refine List.isChain_append.mpr ⟨isChain_plain plain, ih last, fun c final next _ => ?_⟩
    obtain ⟨opening, closing⟩ := plain c (List.mem_of_getLast? final)
    exact ⟨by simp [opening], by simp [closing]⟩
  | case3 rest =>
    have ends : rest = [] ∨ rest = ['⟩'] := by simpa using last
    rcases ends with rfl | rfl
    · exact List.isChain_singleton _
    · exact List.isChain_cons_cons.mpr ⟨by simp [Follows], List.isChain_singleton _⟩
  | case4 rest =>
    obtain rfl := List.isEmpty_iff.mp last
    exact List.isChain_singleton _
  | case5 c rest mark opening closing ih =>
    obtain ⟨other, last⟩ := Bool.and_eq_true_iff.mp last
    obtain ⟨first, second, brace, brace'⟩ : c ≠ '‹' ∧ c ≠ '›' ∧ c ≠ '\x7b' ∧ c ≠ '\x7d' := by
      simpa using other
    have same : unfold c = [c] := by
      unfold unfold
      split <;> first | contradiction | rfl
    rw [fill.eq_3 _ _ _ mark, same]
    exact List.isChain_cons.mpr ⟨fun _ _ => ⟨by simp [brace], by simp [brace']⟩, ih last⟩

set_option maxRecDepth 10000 in
theorem hasLastBraces_sketch : ∀ line ∈ sketch, hasLastBraces line.toList = true := by
  have of_letters : ∀ {letters : List Char}, hasLastBraces letters = true →
      hasLastBraces (String.ofList letters).toList = true := by simp
  unfold sketch
  repeat (refine List.forall_mem_cons.mpr ⟨of_letters ?_, ?_⟩; · decide +kernel)
  exact List.forall_mem_nil _

/-- Whatever feature without braces is inserted, what follows each other in the built-in template makes no
tag. -/
theorem isChain_rendering {feature : String} (plain : ∀ c ∈ feature.toList, c ≠ '\x7b' ∧ c ≠ '\x7d') :
    (rendering feature).toList.IsChain Follows := by
  refine isChain_lines (by simp [Follows]) (by simp [Follows]) ?_
  rw [List.forall_mem_map]
  intro line member
  rw [Builtin.line, String.toList_ofList]
  exact isChain_fill plain (hasLastBraces_sketch line member)

end Builtin

end Scaffold.Template

namespace Scaffold.Renderer

open Template TemplateSpec

/-- A template by its texts is rendered by substitution in every renderer that keeps it, whatever other
templates there are. -/
theorem renderSpec_spelling {specs : List TemplateSpec} {renderer : Renderer}
    (made : ofSpecs specs = .ok renderer) {spelling : Spelling} (plain : spelling.Plain)
    (kept : Kept specs spelling.spec) (feature : String) :
    renderer.renderSpec feature spelling.spec = .ok (spelling.artifact feature) := by
  obtain ⟨-, -, added⟩ := ofSpecs_eq_ok.mp made
  have body : renderer.library.find? spelling.spec.name = some (parsedOf spelling.name spelling.texts) := by
    rw [find?_addSpecs added, kept.1]
    exact ofSource?_spelled _ plain.texts.areQuiet
  have pattern : renderer.library.find? spelling.spec.fileNameKey =
      some (parsedOf spelling.spec.fileNameKey spelling.fileTexts) := by
    rw [find?_addSpecs added, kept.2]
    exact ofSource?_spelled _ plain.fileTexts.areQuiet
  exact renderSpec_eq_ok.mpr ⟨render_parsedOf body feature, render_parsedOf pattern feature⟩

/-- A template of texts with insertions between them is accepted under every name and renders to the texts
with the feature between them, for every feature. Among other templates it does so too, if they leave it its
names. The built-in template is of this form: it gives one file for every feature, and no tag is left in it
if the feature brings none. -/
theorem renders_by_substitution :
    (∀ spelling : Spelling, spelling.Plain → ∃ renderer, ofSpecs [spelling.spec] = .ok renderer ∧
      ∀ feature, renderer.render feature = .ok [spelling.artifact feature]) ∧
    (∀ specs renderer, ofSpecs specs = .ok renderer → ∀ spelling : Spelling, spelling.Plain →
      Kept specs spelling.spec → ∀ feature,
        renderer.renderSpec feature spelling.spec = .ok (spelling.artifact feature)) ∧
    ∃ renderer, ofSpecs [.builtin] = .ok renderer ∧
      ∀ feature, ∃ text, renderer.render feature = .ok [⟨feature ++ ".g.rs", text⟩] ∧
        ((∀ c ∈ feature.toList, c ≠ '\x7b' ∧ c ≠ '\x7d') →
          ∀ tag ∈ [['\x7b', '\x7b'], ['\x7d', '\x7d'], ['\x7b', '%']],
            Text.contains tag text.toList = false) := by
  refine ⟨fun spelling plain => ?_, fun specs renderer made spelling plain kept feature => ?_, ?_⟩
  · exact ofSpecs_spelled rfl rfl plain.texts.areQuiet plain.fileTexts.areQuiet
  · exact renderSpec_spelling made plain kept feature
  · obtain ⟨renderer, made, rendered⟩ := Builtin.renders
    refine ⟨renderer, made, fun feature => ⟨_, rendered feature, fun plain tag listed => ?_⟩⟩
    have chain := Builtin.isChain_rendering plain
    simp only [List.mem_cons, List.not_mem_nil, or_false] at listed
    rcases listed with rfl | rfl | rfl <;>
      exact Builtin.contains_of_isChain chain (by simp [Builtin.Follows])

theorem renders_by_substitution_page :
    let page : Spelling := ⟨"page.html", ["\x7d\x7d \x7b ".toList, "%\x7d <&> \x7b ".toList, "\x7b".toList],
      [[], ".g.rs".toList]⟩
    let other : TemplateSpec := ⟨"other", "\x7b% set x = feature %\x7d\x7b\x7b x \x7d\x7d", "other.rs"⟩
    page.Plain ∧
      (∃ renderer, ofSpecs [page.spec] = .ok renderer ∧ renderer.render "\x7b\x7b x" =
        .ok [⟨"\x7b\x7b x.g.rs", "\x7d\x7d \x7b \x7b\x7b x%\x7d <&> \x7b \x7b\x7b x\x7b"⟩]) ∧
      (∃ renderer, ofSpecs [page.spec, other] = .ok renderer ∧ Kept [page.spec, other] page.spec ∧
        renderer.renderSpec "<a>" page.spec =
          .ok ⟨"<a>.g.rs", "\x7d\x7d \x7b <a>%\x7d <&> \x7b <a>\x7b"⟩) ∧
      ∃ renderer text, ofSpecs [.builtin] = .ok renderer ∧
        renderer.render "Order" = .ok [⟨"Order.g.rs", text⟩] ∧
        Text.contains ['\x7b', '\x7b'] text.toList = false := by
  intro page other
  have plain : page.Plain := ⟨by decide +kernel, by decide +kernel⟩
  obtain ⟨alone, among, renderer, made, rendered⟩ := renders_by_substitution
  refine ⟨plain, ?_, ?_, ?_⟩
  · obtain ⟨single, made, rendered⟩ := alone page plain
    refine ⟨single, made, (rendered "\x7b\x7b x").trans ?_⟩
    decide +kernel
  · have registered : (ofSpecs [page.spec, other]).toOption.isSome = true := by decide +kernel
    obtain ⟨both, made⟩ := Option.isSome_iff_exists.mp registered
    have made := Except.toOption_eq_some_iff.mp made
    have kept : Kept [page.spec, other] page.spec := kept_of_nodup (by decide +kernel) (by simp)
    refine ⟨both, made, kept, (among _ both made page plain kept "<a>").trans ?_⟩
    decide +kernel
  · obtain ⟨text, rendered, untagged⟩ := rendered "Order"
    exact ⟨renderer, text, made, rendered, untagged (by simp) _ (by simp)⟩

end Scaffold.Renderer
