import Mathlib.Data.List.Chain
import Scaffold.Proofs.Digest
import Scaffold.Proofs.Template.Fingerprint
import Scaffold.Proofs.Template.Placeholder
import Scaffold.Proofs.Text

/-! The built-in template only inserts the feature. What it renders to is its sketch, line by line, with
the feature filled in. -/

namespace Scaffold.Template.Builtin

/-! ### The texts of a sketch -/

/-- The texts of a sketch, between which the feature is inserted. -/
def pieces : List Char → List (List Char)
  | [] => [[]]
  | '‹' :: '›' :: rest => [] :: pieces rest
  | c :: rest => (pieces rest).modifyHead (unfold c ++ ·)

/-- A sketch with the feature filled in. -/
def fill (feature : List Char) : List Char → List Char
  | [] => []
  | '‹' :: '›' :: rest => feature ++ fill feature rest
  | c :: rest => unfold c ++ fill feature rest

/-- Whether the marks of a sketch stand where they may: those of the feature next to each other, and
nothing of a tag after a brace. -/
def isSound : List Char → Bool
  | [] => true
  | '‹' :: '›' :: rest => isSound rest
  | '⟨' :: rest => rest.head?.all (fun c => c == '\n' || c == '⟩') && isSound rest
  | c :: rest => c != '‹' && c != '›' && c != '\x7b' && isSound rest

theorem pieces_ne_nil (sketch : List Char) : pieces sketch ≠ [] := by
  fun_induction pieces sketch with
  | case1 => simp
  | case2 rest ih => simp
  | case3 c rest other ih => simpa using ih

theorem intercalate_modifyHead (between start : List Char) {texts : List (List Char)}
    (some_text : texts ≠ []) :
    between.intercalate (texts.modifyHead (start ++ ·)) = start ++ between.intercalate texts := by
  match texts with
  | [text] => simp
  | text :: next :: more => simp [List.intercalate]

theorem intercalate_pieces (feature sketch : List Char) :
    feature.intercalate (pieces sketch) = fill feature sketch := by
  fun_induction pieces sketch with
  | case1 => simp [fill]
  | case2 rest ih =>
    obtain ⟨first, more, split⟩ := List.exists_cons_of_ne_nil (pieces_ne_nil rest)
    rw [fill, ← ih, split]
    simp [List.intercalate]
  | case3 c rest other ih => rw [fill.eq_3 _ _ _ other, ← ih, intercalate_modifyHead _ _ (pieces_ne_nil rest)]

/-- The template is its sketch with insertions filled in. -/
theorem flatMap_unfold (sketch : List Char) : sketch.flatMap unfold = spelled (pieces sketch) := by
  rw [spelled, intercalate_pieces]
  fun_induction fill insertion sketch with
  | case1 => rfl
  | case2 rest ih =>
    rw [List.flatMap_cons, List.flatMap_cons, ih]
    rfl
  | case3 c rest other ih => rw [List.flatMap_cons, ih]

theorem areQuiet_modifyHead {c : Char} {texts : List (List Char)} (some_text : texts ≠ [])
    (quiet : areQuiet texts = true)
    (closed : c = '\x7b' → (spelled texts).head?.any opensTag = false) :
    areQuiet (texts.modifyHead (c :: ·)) = true := by
  match texts with
  | [text] =>
    refine Bool.and_eq_true_iff.mpr ⟨?_, quiet⟩
    by_cases brace : c = '\x7b'
    · simpa [brace] using closed brace
    · simp [brace]
  | text :: next :: more =>
    obtain ⟨here, later⟩ := Bool.and_eq_true_iff.mp quiet
    refine Bool.and_eq_true_iff.mpr ⟨Bool.and_eq_true_iff.mpr ⟨?_, here⟩, later⟩
    by_cases brace : c = '\x7b'
    · have closed := closed brace
      rw [spelled_cons_cons] at closed
      cases text with
      | nil => simp [insertion, opensTag] at closed
      | cons c text => simpa [brace] using closed
    · simp [brace]

theorem areQuiet_pieces {sketch : List Char} (sound : isSound sketch = true) :
    areQuiet (pieces sketch) = true := by
  fun_induction isSound sketch with
  | case1 => rfl
  | case2 rest ih =>
    obtain ⟨first, more, split⟩ := List.exists_cons_of_ne_nil (pieces_ne_nil rest)
    have later := ih sound
    rw [split] at later
    rw [pieces, split]
    exact later
  | case3 rest ih =>
    obtain ⟨follows, sound⟩ := Bool.and_eq_true_iff.mp sound
    refine areQuiet_modifyHead (pieces_ne_nil rest) (ih sound) fun _ => ?_
    rw [← flatMap_unfold]
    cases rest with
    | nil => rfl
    | cons c rest =>
      have ends : c = '\n' ∨ c = '⟩' := by simpa using follows
      rcases ends with rfl | rfl <;> rfl
  | case4 c rest other brace ih =>
    simp only [Bool.and_eq_true, bne_iff_ne] at sound
    obtain ⟨⟨⟨opening, closing⟩, plain⟩, sound⟩ := sound
    have single : ∃ x, unfold c = [x] ∧ x ≠ '\x7b' := by
      unfold unfold
      split
      · contradiction
      · contradiction
      · contradiction
      · exact ⟨_, rfl, by decide⟩
      · exact ⟨c, rfl, plain⟩
    obtain ⟨x, same, plain⟩ := single
    rw [pieces.eq_3 _ _ other, same]
    exact areQuiet_modifyHead (pieces_ne_nil rest) (ih sound) fun named => absurd named plain

/-! ### Line by line -/

theorem isSound_lines {first rest : List Char} (sound : isSound first = true)
    (later : isSound rest = true) : isSound (first ++ '\n' :: rest) = true := by
  fun_induction isSound first with
  | case1 => exact later
  | case2 first ih => exact ih sound
  | case3 first ih =>
    obtain ⟨follows, sound⟩ := Bool.and_eq_true_iff.mp sound
    refine Bool.and_eq_true_iff.mpr ⟨?_, ih sound⟩
    cases first with
    | nil => rfl
    | cons c first => exact follows
  | case4 c first other brace ih =>
    have kept := sound
    simp only [Bool.and_eq_true, bne_iff_ne] at kept
    obtain ⟨⟨⟨opening, closing⟩, plain⟩, kept⟩ := kept
    rw [List.cons_append, isSound.eq_4 _ _ (fun _ mark _ => opening mark) brace, ih kept]
    simp [opening, closing, plain]

theorem fill_lines (feature : List Char) {first rest : List Char} (sound : isSound first = true) :
    fill feature (first ++ '\n' :: rest) = fill feature first ++ '\n' :: fill feature rest := by
  fun_induction isSound first with
  | case1 => rfl
  | case2 first ih => simp [fill, ih sound]
  | case3 first ih =>
    obtain ⟨-, sound⟩ := Bool.and_eq_true_iff.mp sound
    exact congrArg _ (ih sound)
  | case4 c first other brace ih =>
    simp only [Bool.and_eq_true, bne_iff_ne] at sound
    obtain ⟨⟨⟨opening, -⟩, -⟩, sound⟩ := sound
    rw [List.cons_append, fill.eq_3 _ _ _ fun _ mark _ => opening mark, ih sound,
      fill.eq_3 _ _ _ fun _ mark _ => opening mark, List.append_assoc]

/-- A line of a sketch with the feature filled in. -/
def line (feature line : String) : String := String.ofList (fill feature.toList line.toList)

/-- What the built-in template renders to. -/
def rendering (feature : String) : String := "\n".intercalate (sketch.map (line feature))

theorem sound_lines {lines : List String} (sound : ∀ line ∈ lines, isSound line.toList = true) :
    isSound ("\n".intercalate lines).toList = true ∧ ∀ feature,
      fill feature.toList ("\n".intercalate lines).toList =
        ("\n".intercalate (lines.map (line feature))).toList := by
  induction lines with
  | nil => exact ⟨rfl, fun _ => rfl⟩
  | cons first more ih =>
    obtain ⟨here, sound⟩ := List.forall_mem_cons.mp sound
    obtain ⟨later, filled⟩ := ih sound
    cases more with
    | nil => simpa [line] using here
    | cons next more =>
      have split : ("\n".intercalate (first :: next :: more)).toList =
          first.toList ++ '\n' :: ("\n".intercalate (next :: more)).toList := by
        simp [String.intercalate_cons_cons]
      rw [split]
      refine ⟨isSound_lines here later, fun feature => ?_⟩
      rw [fill_lines _ here, filled]
      simp [String.intercalate_cons_cons, line]

set_option maxRecDepth 10000 in
theorem sound_sketch : ∀ line ∈ sketch, isSound line.toList = true := by
  have of_letters : ∀ {letters : List Char}, isSound letters = true →
      isSound (String.ofList letters).toList = true := by simp
  unfold sketch
  repeat (refine List.forall_mem_cons.mpr ⟨of_letters ?_, ?_⟩; · decide +kernel)
  exact List.forall_mem_nil _

/-- The built-in template makes one file for each feature. -/
theorem renders : ∃ renderer, Renderer.ofSpecsOrBuiltin [] = .ok renderer ∧ ∀ feature,
    renderer.render feature = .ok [⟨feature ++ ".g.rs", rendering feature⟩] := by
  obtain ⟨sound, lines⟩ := sound_lines sound_sketch
  have source_eq : source = String.ofList (spelled (pieces ("\n".intercalate sketch).toList)) := by
    rw [source, flatMap_unfold]
  have fileName_eq : TemplateSpec.defaultFileName =
      String.ofList (spelled [[], ['.', 'g', '.', 'r', 's']]) := rfl
  obtain ⟨renderer, made, rendered⟩ := @Renderer.ofSpecs_spelled .builtin _ _ source_eq fileName_eq
    (areQuiet_pieces sound) rfl
  refine ⟨renderer, made, fun feature => ?_⟩
  have text : filled feature (pieces ("\n".intercalate sketch).toList) = rendering feature := by
    rw [filled, intercalate_pieces, lines, String.ofList_toList, rendering]
  have name : filled feature [[], ['.', 'g', '.', 'r', 's']] = feature ++ ".g.rs" := by
    rw [← String.toList_inj]
    simp [filled]
  rw [rendered, text, name]

theorem exists_of_mem_intercalate {line : String} {lines : List String} (member : line ∈ lines) :
    ∃ before after, "\n".intercalate lines = before ++ line ++ after := by
  induction lines with
  | nil => contradiction
  | cons first more ih =>
    cases more with
    | nil =>
      obtain rfl := List.mem_singleton.mp member
      exact ⟨"", "", by simp⟩
    | cons next more =>
      rw [String.intercalate_cons_cons]
      rcases List.mem_cons.mp member with rfl | later
      · exact ⟨"", "\n" ++ "\n".intercalate (next :: more), by simp [String.append_assoc]⟩
      · obtain ⟨before, after, split⟩ := ih later
        exact ⟨first ++ "\n" ++ before, after, by rw [split]; simp [String.append_assoc]⟩

/-- What holds of the characters that follow each other in lines holds in the text of the lines. -/
theorem isChain_lines {follows : Char → Char → Prop} {lines : List String}
    (before : ∀ c, follows c '\n') (after : ∀ c, follows '\n' c)
    (chains : ∀ line ∈ lines, line.toList.IsChain follows) :
    ("\n".intercalate lines).toList.IsChain follows := by
  induction lines with
  | nil => exact .nil
  | cons first more ih =>
    obtain ⟨chain, chains⟩ := List.forall_mem_cons.mp chains
    cases more with
    | nil => simpa using chain
    | cons next more =>
      have later := ih chains
      rw [String.intercalate_cons_cons, String.toList_append, String.toList_append, List.append_assoc]
      refine List.isChain_append.mpr ⟨chain, List.isChain_cons.mpr ⟨fun _ _ => after _, later⟩, ?_⟩
      intro c _ d first
      obtain rfl : '\n' = d := by simpa using first
      exact before c

/-- Text without marks stays as it is. -/
theorem fill_plain (feature : List Char) {text rest : List Char}
    (plain : text.all (fun c => !(['‹', '›', '⟨', '⟩'].contains c)) = true) :
    fill feature (text ++ rest) = text ++ fill feature rest := by
  induction text with
  | nil => rfl
  | cons c text ih =>
    rw [List.all_cons, Bool.and_eq_true] at plain
    obtain ⟨opening, closing, brace, brace'⟩ : c ≠ '‹' ∧ c ≠ '›' ∧ c ≠ '⟨' ∧ c ≠ '⟩' := by
      simpa using plain.1
    have same : unfold c = [c] := by
      unfold unfold
      split <;> first | contradiction | rfl
    rw [List.cons_append, fill.eq_3 _ _ _ fun _ mark _ => opening mark, same, ih plain.2]
    rfl

theorem line_import (feature : String) : line feature "        use super::super::‹›Aggregate;" =
    "        " ++ ("use super::super::" ++ feature ++ "Aggregate;") := by
  have letters : "        use super::super::‹›Aggregate;".toList =
      "        use super::super::".toList ++ ('‹' :: '›' :: ("Aggregate;".toList ++ [])) := by simp
  rw [← String.toList_inj, line, String.toList_ofList, letters, fill_plain _ (by simp), fill,
    fill_plain _ (by simp), fill]
  simp

/-- Whatever the suffix of the convention is, the built-in template imports the feature followed by the
default suffix. -/
theorem rendering_imports (feature : String) : ∃ before after,
    rendering feature = before ++ ("use super::super::" ++ feature ++ "Aggregate;") ++ after := by
  have member : line feature "        use super::super::‹›Aggregate;" ∈ sketch.map (line feature) :=
    List.mem_map_of_mem (List.mem_of_getElem? (by rfl : sketch[7]? = some _))
  obtain ⟨before, after, split⟩ := exists_of_mem_intercalate member
  rw [line_import] at split
  exact ⟨before ++ "        ", after, by rw [rendering, split]; simp [String.append_assoc]⟩

/-! ### The fingerprint -/

theorem letters_cons {letters : List Char} {more : List (List Char)} {lines : List String}
    (rest : lines = more.map String.ofList) :
    String.ofList letters :: lines = (letters :: more).map String.ofList := by
  rw [rest, List.map_cons]

/-- The text that is digested, with the lines of the sketch as lists of characters. -/
def identityOf (lines : List (List Char)) : List Char :=
  [['a', 'g', 'g', 'r', 'e', 'g', 'a', 't', 'e', '.', 'r', 's'], spelled [[], ['.', 'g', '.', 'r', 's']],
    (['\n'].intercalate lines).flatMap unfold].flatMap (· ++ ['\x00'])

theorem toList_identity {lines : List (List Char)} (same : sketch = lines.map String.ofList) :
    (TemplateSpec.identities [.builtin]).toList = identityOf lines := by
  have text : ("\n".intercalate sketch).toList = ['\n'].intercalate lines := by
    rw [same, String.toList_intercalate]
    simp
  have source_eq : TemplateSpec.builtin.source.toList = (['\n'].intercalate lines).flatMap unfold := by
    rw [← text]
    exact String.toList_ofList
  have name_eq : TemplateSpec.builtin.name.toList =
      ['a', 'g', 'g', 'r', 'e', 'g', 'a', 't', 'e', '.', 'r', 's'] := String.toList_ofList
  have fileName_eq : TemplateSpec.builtin.fileName.toList = spelled [[], ['.', 'g', '.', 'r', 's']] :=
    String.toList_ofList
  rw [TemplateSpec.toList_identities, List.flatMap_singleton, TemplateSpec.texts, source_eq, name_eq,
    fileName_eq, identityOf]

set_option maxRecDepth 10000 in
theorem digest_identityOf : ∃ lines : List (List Char), sketch = lines.map String.ofList ∧
    Digest.Sha256.Numeral.digest ((identityOf lines).flatMap String.utf8EncodeChar) =
      ⟨0xc04c9807, 0xb8e7bfdd, 0xa0306d54, 0x9cb4626e, 0x106a1fe5, 0xbb818873, 0xae77cd4e, 0x2104691e⟩ := by
  apply Exists.intro
  apply And.intro
  · unfold sketch
    repeat apply letters_cons
    exact List.map_nil.symm
  · decide +kernel

/-- The fingerprint that is recorded where no templates are given. -/
theorem fingerprint_eq {renderer : Renderer} (made : Renderer.ofSpecsOrBuiltin [] = .ok renderer) :
    renderer.fingerprint = "c04c9807b8e7bfdda0306d549cb4626e106a1fe5bb818873ae77cd4e2104691e" := by
  obtain ⟨lines, same, digested⟩ := digest_identityOf
  obtain ⟨-, specs, -⟩ := Renderer.ofSpecs_eq_ok.mp made
  rw [Renderer.fingerprint, specs, Digest.Sha256.hexOfText_eq, Text.toList_toUTF8]
  change String.ofList (Digest.Sha256.digits (Digest.Sha256.Numeral.digest
    ((TemplateSpec.identities [.builtin]).toList.flatMap String.utf8EncodeChar))) = _
  rw [toList_identity same, digested]
  rfl

end Scaffold.Template.Builtin
