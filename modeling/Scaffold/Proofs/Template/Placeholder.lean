import Scaffold.Proofs.Template.Renderer

/-! Templates in which the feature is inserted, and nothing else is done. Such a template is a list of
texts between which the feature stands. Its tags are found if no text looks like the start of one, and
then it renders to the texts with the feature between them. -/

namespace Scaffold.Template

open Text Reader ExpressionReader NodeReader

/-! ### Readers -/

section Readers

variable {α β : Type} {reader : Reader α} {text rest : List Char} {value : α}

theorem bind_eq_none {next : α → Reader β} (fails : reader text = none) :
    (reader >>= next) text = none := by
  change (reader text).bind _ = none
  rw [fails]
  rfl

theorem bind_eq_some {next : α → Reader β} (reads : reader text = some (value, rest)) :
    (reader >>= next) text = next value rest := by
  change (reader text).bind _ = _
  rw [reads]
  rfl

theorem firstOf_of_none {more : List (Reader α)} (fails : reader text = none) :
    firstOf (reader :: more) text = firstOf more text := by
  change (reader text <|> firstOf more text) = _
  rw [fails]
  rfl

theorem firstOf_of_some {more : List (Reader α)} (reads : reader text = some (value, rest)) :
    firstOf (reader :: more) text = some (value, rest) := by
  change (reader text <|> firstOf more text) = _
  rw [reads]
  rfl

end Readers

/-! ### Texts and insertions -/

/-- The tag that inserts the feature. -/
def insertion : List Char :=
  ['\x7b', '\x7b', ' ', 'f', 'e', 'a', 't', 'u', 'r', 'e', ' ', '\x7d', '\x7d']

/-- Whether a character makes a tag of a brace before it. -/
def opensTag (c : Char) : Bool := c == '\x7b' || c == '%' || c == '#'

/-- Whether no tag starts within a text, if it is followed by another one. -/
def isQuiet (next : List Char) : List Char → Bool
  | [] => true
  | c :: rest => !(c == '\x7b' && (rest ++ next).head?.any opensTag) && isQuiet next rest

/-- A template of this many texts, with insertions between them. -/
def spelled (texts : List (List Char)) : List Char := insertion.intercalate texts

/-- Whether no tag starts within any of the texts. -/
def areQuiet : List (List Char) → Bool
  | [] => true
  | [last] => isQuiet [] last
  | text :: more => isQuiet insertion text && areQuiet more

@[simp] theorem spelled_singleton (text : List Char) : spelled [text] = text := by simp [spelled]

theorem spelled_cons_cons (text next : List Char) (more : List (List Char)) :
    spelled (text :: next :: more) = text ++ (insertion ++ spelled (next :: more)) := by
  simp [spelled, List.intercalate, List.intersperse]

/-! ### Reading -/

/-- Only a brace with a second character of its own starts a tag. -/
theorem dashed_eq_none {withDash without : String} {mark : Char} {text : List Char}
    (long : withDash.toList = ['\x7b', mark, '-']) (short : without.toList = ['\x7b', mark])
    (other : ∀ rest, text ≠ '\x7b' :: mark :: rest) : dashed withDash without text = none := by
  have fails : ∀ tail, ('\x7b' :: mark :: tail).isPrefixOf text = false := by
    intro tail
    rw [← Bool.not_eq_true, List.isPrefixOf_iff_prefix]
    rintro ⟨rest, same⟩
    exact other (tail ++ rest) same.symm
  have first : literal withDash text = none := by
    rw [literal, long, fails]
    rfl
  have second : literal without text = none := by
    rw [literal, short, fails]
    rfl
  rw [dashed, firstOf_of_none (bind_eq_none first), firstOf_of_none (bind_eq_none second)]
  rfl

theorem starts_eq_none {text : List Char}
    (quiet : ∀ mark rest, text = '\x7b' :: mark :: rest → opensTag mark = false) :
    outputStart text = none ∧ tagStart text = none ∧ commentStart text = none := by
  have other : ∀ mark, opensTag mark = true → ∀ rest, text ≠ '\x7b' :: mark :: rest := by
    intro mark opens rest same
    rw [quiet mark rest same] at opens
    contradiction
  exact ⟨dashed_eq_none (by simp) (by simp) (other '\x7b' rfl),
    dashed_eq_none (by simp) (by simp) (other '%' rfl),
    dashed_eq_none (by simp) (by simp) (other '#' rfl)⟩

theorem isQuiet_cons {next text : List Char} {c : Char} : isQuiet next (c :: text) = true ↔
    (∀ mark rest, c :: (text ++ next) = '\x7b' :: mark :: rest → opensTag mark = false) ∧
      isQuiet next text = true := by
  rw [isQuiet, Bool.and_eq_true, and_congr_left_iff]
  intro _
  cases text ++ next with
  | nil => simp
  | cons mark rest => by_cases brace : c = '\x7b' <;> simp [brace]

theorem isQuiet_insertion (text rest : List Char) :
    isQuiet (insertion ++ rest) text = isQuiet insertion text := by
  induction text with
  | nil => rfl
  | cons c text ih =>
    rw [isQuiet, isQuiet, ih]
    cases text <;> rfl

/-- Where a text ends: at the start of a tag, or at the end of the template. -/
def Ends (next : List Char) : Prop :=
  next = [] ∨ (firstOf [outputStart, tagStart, commentStart] next).isSome = true

theorem ends_insertion (rest : List Char) : Ends (insertion ++ rest) := .inr rfl

theorem before_eq {text next : List Char} (ends : Ends next) (quiet : isQuiet next text = true) :
    before (firstOf [outputStart, tagStart, commentStart]) (text ++ next) = some (text, next) := by
  induction text with
  | nil =>
    rcases ends with rfl | starts
    · rfl
    · cases next with
      | nil => rfl
      | cons c rest => rw [List.nil_append, before, if_pos starts]
  | cons c text ih =>
    obtain ⟨unmarked, quiet⟩ := isQuiet_cons.mp quiet
    obtain ⟨output, tag, comment⟩ := starts_eq_none unmarked
    have fails : firstOf [outputStart, tagStart, commentStart] (c :: (text ++ next)) = none := by
      rw [firstOf_of_none output, firstOf_of_none tag, firstOf_of_none comment]
      rfl
    rw [List.cons_append, before, fails, ih quiet]
    rfl

theorem node_text (bodies : Bodies) (nested : Nested) {text next : List Char} (ends : Ends next)
    (quiet : isQuiet next text = true) (some_text : text ≠ []) :
    NodeReader.node bodies nested .outside (text ++ next) =
      some (⟨⟨false, false⟩, .text (String.ofList text)⟩, next) := by
  have reads : plainText (text ++ next) =
      some (⟨⟨false, false⟩, .text (String.ofList text)⟩, next) := by
    rw [plainText, bind_eq_some (before_eq ends quiet), List.isEmpty_eq_false_iff.mpr some_text]
    rfl
  exact firstOf_of_some reads

theorem node_insertion (bodies : Bodies) (depth : Nat) (rest : List Char) :
    NodeReader.node bodies (Nested.level (depth + 1)) .outside (insertion ++ rest) =
      some (⟨⟨false, false⟩, .output (.plain (.variable ⟨placeholder, []⟩))⟩, rest) := by
  rfl

/-- The nodes of a text: none, if it is empty. -/
def textNodes (text : List Char) : List Node :=
  if text = [] then [] else [.text (String.ofList text)]

/-- The node that inserts the feature. -/
def inserted : Node := .output (.plain (.variable ⟨placeholder, []⟩))

/-- The nodes of a template of this many texts. -/
def nodesOf (texts : List (List Char)) : List Node := [inserted].intercalate (texts.map textNodes)

def unedged (node : Node) : EdgedNode := ⟨⟨false, false⟩, node⟩

@[simp] theorem nodesOf_singleton (text : List Char) : nodesOf [text] = textNodes text := by
  simp [nodesOf]

theorem nodesOf_cons_cons (text next : List Char) (more : List (List Char)) :
    nodesOf (text :: next :: more) = textNodes text ++ inserted :: nodesOf (next :: more) := by
  simp [nodesOf, List.intercalate]

theorem manyUpTo_textNodes (bodies : Bodies) (nested : Nested) {text next : List Char} {count : Nat}
    {nodes : List EdgedNode} {rest : List Char} (ends : Ends next) (quiet : isQuiet next text = true)
    (later : ∀ count, next.length ≤ count →
      manyUpTo (NodeReader.node bodies nested .outside) count next = some (nodes, rest))
    (room : (text ++ next).length ≤ count) :
    manyUpTo (NodeReader.node bodies nested .outside) count (text ++ next) =
      some ((textNodes text).map unedged ++ nodes, rest) := by
  by_cases empty : text = []
  · subst empty
    exact later count room
  · obtain ⟨c, more, rfl⟩ := List.exists_cons_of_ne_nil empty
    cases count with
    | zero => simp at room
    | succ count =>
      have left : next.length ≤ count := by
        simp only [List.length_append, List.length_cons] at room
        omega
      simp only [manyUpTo, node_text bodies nested ends quiet empty, later count left]
      simp [textNodes, unedged]

theorem manyUpTo_spelled (bodies : Bodies) (depth : Nat) {texts : List (List Char)} {count : Nat}
    (quiet : areQuiet texts = true) (room : (spelled texts).length ≤ count) :
    manyUpTo (NodeReader.node bodies (Nested.level (depth + 1)) .outside) count (spelled texts) =
      some ((nodesOf texts).map unedged, []) := by
  have finished : ∀ count, manyUpTo (NodeReader.node bodies (Nested.level (depth + 1)) .outside) count
      [] = some ([], []) := by
    intro count
    cases count <;> rfl
  induction texts generalizing count with
  | nil => exact finished count
  | cons text more ih =>
    cases more with
    | nil =>
      have room : (text ++ []).length ≤ count := by simpa using room
      have read := manyUpTo_textNodes bodies (Nested.level (depth + 1)) (.inl rfl) quiet
        (fun count _ => finished count) room
      simpa using read
    | cons next more =>
      obtain ⟨here, quiet⟩ := Bool.and_eq_true_iff.mp quiet
      rw [spelled_cons_cons] at room ⊢
      rw [nodesOf_cons_cons, List.map_append]
      refine manyUpTo_textNodes bodies _ (ends_insertion _) ((isQuiet_insertion _ _).trans here) ?_ room
      intro count room
      cases count with
      | zero => simp [insertion] at room
      | succ count =>
        have left : (spelled (next :: more)).length ≤ count := by
          simp only [insertion, List.length_append, List.length_cons, List.length_nil] at room
          omega
        simp only [manyUpTo, node_insertion, ih quiet left]
        rfl

/-- No tag is at the start of a template, or after its first blanks, that is not an insertion. -/
theorem starts_spelled {texts : List (List Char)} (quiet : areQuiet texts = true) :
    tagStart ((spelled texts).dropWhile isGap) = none ∧ commentStart (spelled texts) = none := by
  have first : ∀ text next : List Char, isQuiet next text = true → commentStart next = none →
      tagStart (next.dropWhile isGap) = none →
      tagStart ((text ++ next).dropWhile isGap) = none ∧ commentStart (text ++ next) = none := by
    intro text next quiet comment tag
    induction text with
    | nil => exact ⟨tag, comment⟩
    | cons c text ih =>
      obtain ⟨unmarked, quiet⟩ := isQuiet_cons.mp quiet
      obtain ⟨-, tag', comment'⟩ := starts_eq_none unmarked
      refine ⟨?_, comment'⟩
      rw [List.cons_append, List.dropWhile_cons]
      split
      · exact (ih quiet).1
      · exact tag'
  match texts with
  | [] => exact ⟨rfl, rfl⟩
  | [text] =>
    have alone := first text [] quiet rfl rfl
    rwa [List.append_nil, ← spelled_singleton text] at alone
  | text :: next :: more =>
    obtain ⟨here, -⟩ := Bool.and_eq_true_iff.mp quiet
    rw [spelled_cons_cons]
    exact first text _ ((isQuiet_insertion _ _).trans here) rfl rfl

theorem many_eq_nil {α : Type} {reader : Reader α} {text : List Char} (fails : reader text = none) :
    many reader text = some ([], text) := by
  cases text with
  | nil => rfl
  | cons c rest => simp only [many, List.length_cons, manyUpTo, fails]

/-- Without dashes nothing is trimmed. -/
theorem body_unedged {nodes : List Node} (own : ∀ node ∈ nodes, node ≠ .inherited) :
    Trim.body false (nodes.map unedged) false = nodes := by
  induction nodes with
  | nil => rfl
  | cons node rest ih =>
    have ih := ih fun other member => own other (List.mem_cons_of_mem _ member)
    have own := own node List.mem_cons_self
    cases node with
    | inherited => contradiction
    | text value =>
      cases rest with
      | nil => simp [Trim.body, unedged, Trim.trimmedText]
      | cons next rest =>
        rw [List.map_cons] at ih ⊢
        simp only [List.map_cons, unedged] at ih ⊢
        simp [Trim.body, Trim.trimmedText, ih]
    | _ => exact congrArg _ ih

theorem mem_nodesOf {texts : List (List Char)} {node : Node} (member : node ∈ nodesOf texts) :
    node = inserted ∨ ∃ text, node = .text text := by
  have of_text : ∀ text, node ∈ textNodes text → ∃ text, node = .text text := by
    intro text member
    unfold textNodes at member
    split at member
    · simp at member
    · exact ⟨_, List.mem_singleton.mp member⟩
  induction texts with
  | nil => simp [nodesOf] at member
  | cons text more ih =>
    cases more with
    | nil => exact .inr (of_text text (by simpa using member))
    | cons next more =>
      rw [nodesOf_cons_cons, List.mem_append, List.mem_cons] at member
      rcases member with here | rfl | later
      · exact .inr (of_text text here)
      · exact .inl rfl
      · exact ih later

theorem read?_spelled {texts : List (List Char)} (quiet : areQuiet texts = true) :
    read? (String.ofList (spelled texts)) = some (nodesOf texts) := by
  obtain ⟨tag, comment⟩ := starts_spelled quiet
  have comments : many NodeReader.comment (spelled texts) = some ([], spelled texts) :=
    many_eq_nil (bind_eq_none comment)
  have extension : attempt NodeReader.extension (spelled texts) = some (none, spelled texts) := by
    have gap : gap (spelled texts) = some ((), (spelled texts).dropWhile isGap) := rfl
    have fails : NodeReader.extension (spelled texts) = none :=
      (bind_eq_some gap).trans (bind_eq_none (bind_eq_none (bind_eq_none tag)))
    rw [attempt, fails]
  have own : ∀ node ∈ nodesOf texts, node ≠ .inherited := by
    intro node member
    rcases mem_nodesOf member with rfl | ⟨text, rfl⟩ <;> simp [inserted]
  have rest : ∀ bodies depth, many (NodeReader.node bodies (Nested.level (depth + 1)) .outside)
      (spelled texts) = some ((nodesOf texts).map unedged, []) :=
    fun bodies depth => manyUpTo_spelled bodies depth quiet (Nat.le_refl _)
  unfold read?
  simp only [String.toList_ofList, whole?]
  rw [bind_eq_some comments, bind_eq_some extension]
  rw [NodeReader.bodies, bind_eq_some (rest _ _)]
  exact congrArg some (body_unedged own)

/-! ### Rendering -/

/-- A template that inserts the feature, after it was read. -/
def parsedOf (name : String) (texts : List (List Char)) : Parsed :=
  ⟨name, String.ofList (spelled texts), nodesOf texts, none, [], [], []⟩

theorem blocksOf_nodesOf (texts : List (List Char)) : Parsed.blocksOf (nodesOf texts) = [] := by
  have none_in : ∀ nodes : List Node, (∀ node ∈ nodes, Parsed.blocksIn node = []) →
      Parsed.blocksOf nodes = [] := by
    intro nodes
    induction nodes with
    | nil => exact fun _ => rfl
    | cons node rest ih =>
      intro none
      rw [Parsed.blocksOf, none node List.mem_cons_self,
        ih fun other member => none other (List.mem_cons_of_mem _ member)]
      rfl
  refine none_in _ fun node member => ?_
  rcases mem_nodesOf member with rfl | ⟨text, rfl⟩ <;> rfl

theorem ofSource?_spelled (name : String) {texts : List (List Char)} (quiet : areQuiet texts = true) :
    Parsed.ofSource? name (String.ofList (spelled texts)) = some (parsedOf name texts) := by
  have macros : (nodesOf texts).filterMap Parsed.macroOf? = [] := by
    refine List.filterMap_eq_nil_iff.mpr fun node member => ?_
    rcases mem_nodesOf member with rfl | ⟨text, rfl⟩ <;> rfl
  have imports : (nodesOf texts).filterMap Parsed.importOf? = [] := by
    refine List.filterMap_eq_nil_iff.mpr fun node member => ?_
    rcases mem_nodesOf member with rfl | ⟨text, rfl⟩ <;> rfl
  have parent : (nodesOf texts).findSome? Parsed.parentOf? = none := by
    refine List.findSome?_eq_none_iff.mpr fun node member => ?_
    rcases mem_nodesOf member with rfl | ⟨text, rfl⟩ <;> rfl
  simp [Parsed.ofSource?, read?_spelled quiet, blocksOf_nodesOf, macros, imports, parent, parsedOf]

/-- The text of a template with the feature filled in. -/
def filled (feature : String) (texts : List (List Char)) : String :=
  String.ofList (feature.toList.intercalate texts)

section Rendering

variable (library : Library) (template : Parsed) (feature : String)

/-- In what a template is rendered that has no parent. -/
def outerSetting : Setting := ⟨library, [(placeholder, .text feature)], template, template⟩

/-- Where the rendering of a template starts. -/
def outerProgress : Progress := ⟨[⟨template, [], none, true⟩], []⟩

theorem node_inserted (depth : Nat) :
    (((Evaluator.level (depth + 1)).node inserted).run (outerSetting library template feature)).run
      (outerProgress template) = some ((feature, .normal), outerProgress template) := rfl

/-- One node, and then the others. -/
theorem bodyOf_cons {inner : Evaluator} {node : Node} {nodes : List Node} {setting : Setting}
    {progress : Progress} {first later : String}
    (here : ((inner.node node).run setting).run progress = some ((first, .normal), progress))
    (rest : ((inner.bodyOf nodes).run setting).run progress = some ((later, .normal), progress)) :
    ((inner.bodyOf (node :: nodes)).run setting).run progress =
      some ((first ++ later, .normal), progress) := by
  rw [Evaluator.bodyOf]
  simp [ReaderT.run_bind, StateT.run_bind, here, rest]

theorem filled_cons_cons (text next : List Char) (more : List (List Char)) :
    filled feature (text :: next :: more) =
      String.ofList text ++ (feature ++ filled feature (next :: more)) := by
  rw [← String.toList_inj]
  simp [filled, List.intercalate]

theorem bodyOf_nodesOf (depth : Nat) (texts : List (List Char)) :
    (((Evaluator.level (depth + 1)).bodyOf (nodesOf texts)).run (outerSetting library template feature)).run
      (outerProgress template) = some ((filled feature texts, .normal), outerProgress template) := by
  have text_first : ∀ (text : List Char) (nodes : List Node) (later : String),
      (((Evaluator.level (depth + 1)).bodyOf nodes).run (outerSetting library template feature)).run
        (outerProgress template) = some ((later, .normal), outerProgress template) →
      (((Evaluator.level (depth + 1)).bodyOf (textNodes text ++ nodes)).run
        (outerSetting library template feature)).run (outerProgress template) =
        some ((String.ofList text ++ later, .normal), outerProgress template) := by
    intro text nodes later rest
    unfold textNodes
    split
    · rename_i empty
      subst empty
      simpa using rest
    · exact bodyOf_cons rfl rest
  induction texts with
  | nil => rfl
  | cons text more ih =>
    cases more with
    | nil =>
      have last := text_first text [] "" rfl
      simpa [filled] using last
    | cons next more =>
      rw [nodesOf_cons_cons, filled_cons_cons]
      exact text_first text _ _ (bodyOf_cons (node_inserted library template feature depth) ih)

end Rendering

theorem render_parsedOf {library : Library} {name own : String} {texts : List (List Char)}
    (found : library.find? name = some (parsedOf own texts)) (feature : String) :
    library.render name [(placeholder, .text feature)] = .ok (filled feature texts) := by
  have above : library.ancestors (parsedOf own texts) = .ok [] := library.ancestors_of_top rfl
  have body := bodyOf_nodesOf library (parsedOf own texts) feature 999998 texts
  have text : library.text? name [(placeholder, .text feature)] = some (filled feature texts) := by
    simp only [Library.text?, found, Option.bind_eq_bind, Option.bind_some, above, Except.toOption]
    exact congrArg (Option.bind · fun (result : (String × Flow) × Progress) => some result.1.1) body
  rw [Library.render, text]

/-- A template that inserts the feature refers to nothing. -/
theorem alone_parsedOf (name : String) (texts : List (List Char)) :
    (Library.mk [parsedOf name texts]).Alone (parsedOf name texts) where
  found := by simp [Library.find?]
  top := rfl
  own _ _ other found := List.mem_singleton.mp (Library.mem_of_find? found)
  imports _ _ member := by simp [parsedOf] at member

end Scaffold.Template

namespace Scaffold.Renderer

open Template

/-- A template that inserts the feature in its text and in the name of its file can be registered, and
renders to one file. -/
theorem ofSpecs_spelled {spec : TemplateSpec} {texts fileTexts : List (List Char)}
    (source : spec.source = String.ofList (spelled texts))
    (fileName : spec.fileName = String.ofList (spelled fileTexts))
    (quiet : areQuiet texts = true) (quiet_name : areQuiet fileTexts = true) :
    ∃ renderer, ofSpecs [spec] = .ok renderer ∧
      ∀ feature, renderer.render feature = .ok [⟨filled feature fileTexts, filled feature texts⟩] := by
  have read : Parsed.ofSource? spec.name spec.source = some (parsedOf spec.name texts) := by
    rw [source, ofSource?_spelled _ quiet]
  have read_name : Parsed.ofSource? spec.fileNameKey spec.fileName =
      some (parsedOf spec.fileNameKey fileTexts) := by
    rw [fileName, ofSource?_spelled _ quiet_name]
  obtain ⟨middle, first, plain⟩ := Library.plain_empty.add (alone_parsedOf _ _) read
  obtain ⟨library, second, -⟩ := plain.add (alone_parsedOf _ _) read_name
  have added : addSpec .empty spec = .ok library := addSpec_eq_ok.mpr ⟨middle, first, second⟩
  have body : library.find? spec.name = some (parsedOf spec.name texts) := by
    rw [Library.find?_add second, if_neg (TemplateSpec.fileNameKey_ne spec).symm, Library.find?_add first,
      if_pos rfl, read]
  have pattern : library.find? spec.fileNameKey = some (parsedOf spec.fileNameKey fileTexts) := by
    rw [Library.find?_add second, if_pos rfl, read_name]
  refine ⟨⟨[spec], library⟩, ofSpecs_eq_ok.mpr ⟨by simp, rfl, ?_⟩, fun feature => ?_⟩
  · rw [List.foldlM_cons, added]
    rfl
  · have made : (Renderer.mk [spec] library).renderSpec feature spec =
        .ok ⟨filled feature fileTexts, filled feature texts⟩ :=
      renderSpec_eq_ok.mpr ⟨render_parsedOf body feature, render_parsedOf pattern feature⟩
    rw [render, List.mapM_cons, made]
    rfl

end Scaffold.Renderer
