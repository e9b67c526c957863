import Scaffold.Path

/-! Steps of a path below a directory, and the names that stand for exactly one entry of it. -/

namespace Scaffold.Path

/-! ### Pieces -/

theorem pieces_slash (rest : List Char) : pieces ('/' :: rest) = [] :: pieces rest := rfl

theorem pieces_ne_nil (text : List Char) : pieces text ≠ [] := by
  fun_cases pieces text <;> simp

theorem pieces_cons {c : Char} (rest : List Char) (other : c ≠ '/') :
    ∃ piece more, pieces rest = piece :: more ∧ pieces (c :: rest) = (c :: piece) :: more := by
  cases found : pieces rest with
  | nil => exact absurd found (pieces_ne_nil rest)
  | cons piece more => exact ⟨piece, more, rfl, by rw [pieces, found]; exact other⟩

theorem pieces_of_no_slash {text : List Char} (plain : '/' ∉ text) : pieces text = [text] := by
  induction text with
  | nil => rfl
  | cons c rest ih =>
    obtain ⟨other, plain⟩ := not_or.mp (mt List.mem_cons.mpr plain)
    obtain ⟨piece, more, found, split⟩ := pieces_cons rest (Ne.symm other)
    rw [ih plain] at found
    obtain ⟨rfl, rfl⟩ := List.cons.inj found
    exact split

theorem pieces_append_slash (first second : List Char) :
    pieces (first ++ '/' :: second) = pieces first ++ pieces second := by
  induction first with
  | nil => rfl
  | cons c rest ih =>
    by_cases slash : c = '/'
    · subst slash
      simp only [List.cons_append, pieces_slash, ih]
    · obtain ⟨piece, more, found, split⟩ := pieces_cons rest slash
      obtain ⟨piece', more', found', split'⟩ := pieces_cons (rest ++ '/' :: second) slash
      rw [ih, found, List.cons_append] at found'
      obtain ⟨rfl, rfl⟩ := List.cons.inj found'
      rw [List.cons_append, split', split, List.cons_append]

theorem pieces_of_slash {text : List Char} (slash : '/' ∈ text) :
    ∃ first next rest, pieces text = first :: next :: rest := by
  obtain ⟨before, after, rfl⟩ := List.append_of_mem slash
  obtain ⟨first, more, front⟩ := List.exists_cons_of_ne_nil (pieces_ne_nil before)
  obtain ⟨last, others, back⟩ := List.exists_cons_of_ne_nil (pieces_ne_nil after)
  rw [pieces_append_slash, front, back]
  cases more with
  | nil => exact ⟨_, _, _, rfl⟩
  | cons next more => exact ⟨_, _, _, rfl⟩

theorem no_slash_of_mem_pieces {text piece : List Char} (member : piece ∈ pieces text) :
    '/' ∉ piece := by
  induction text generalizing piece with
  | nil =>
    obtain rfl : piece = [] := by simpa [pieces] using member
    simp
  | cons c rest ih =>
    by_cases slash : c = '/'
    · subst slash
      rcases List.mem_cons.mp member with rfl | later
      · simp
      · exact ih later
    · obtain ⟨first, more, found, split⟩ := pieces_cons rest slash
      rw [split] at member
      rcases List.mem_cons.mp member with rfl | later
      · have clean : '/' ∉ first := ih (by simp [found])
        simp [clean, Ne.symm slash]
      · exact ih (by simp [found, later])

theorem head_pieces_eq_nil {text : List Char} {rest : List (List Char)}
    (split : pieces text = [] :: rest) : text = [] ∨ ∃ after, text = '/' :: after := by
  cases text with
  | nil => exact .inl rfl
  | cons c after =>
    by_cases slash : c = '/'
    · exact .inr ⟨after, by rw [slash]⟩
    · obtain ⟨piece, more, -, split'⟩ := pieces_cons after slash
      rw [split] at split'
      exact absurd (List.cons.inj split').1 (by simp)

/-- The pieces of a text are what stands before its first slash, and the pieces behind that slash. -/
theorem pieces_split (text : List Char) :
    (text.dropWhile (· != '/') = [] ∧ pieces text = [text.takeWhile (· != '/')]) ∨
      ∃ after, text.dropWhile (· != '/') = '/' :: after ∧
        pieces text = text.takeWhile (· != '/') :: pieces after := by
  induction text with
  | nil => exact .inl ⟨rfl, rfl⟩
  | cons c text ih =>
    by_cases slash : c = '/'
    · subst slash
      exact .inr ⟨text, rfl, rfl⟩
    · obtain ⟨piece, more, found, split⟩ := pieces_cons text slash
      have differs : (c != '/') = true := by simpa using slash
      simp only [List.dropWhile_cons, List.takeWhile_cons, differs, if_true, split]
      rcases ih with ⟨nothing, pieces⟩ | ⟨after, behind, pieces⟩
      · obtain ⟨rfl, rfl⟩ := List.cons.inj (found.symm.trans pieces)
        exact .inl ⟨nothing, rfl⟩
      · obtain ⟨rfl, rfl⟩ := List.cons.inj (found.symm.trans pieces)
        exact .inr ⟨after, behind, rfl⟩

/-! ### Names of entries -/

/-- A name that is neither empty nor dots and has no slash. -/
structure EntryName (name : String) : Prop where
  no_slash : '/' ∉ name.toList
  not_empty : name.toList ≠ []
  not_dot : name.toList ≠ ['.']
  not_dots : name.toList ≠ ['.', '.']

instance (name : String) : Decidable (EntryName name) :=
  decidable_of_iff ('/' ∉ name.toList ∧ name.toList ≠ [] ∧ name.toList ≠ ['.'] ∧ name.toList ≠ ['.', '.'])
    ⟨fun ⟨no_slash, not_empty, not_dot, not_dots⟩ => ⟨no_slash, not_empty, not_dot, not_dots⟩,
      fun ⟨no_slash, not_empty, not_dot, not_dots⟩ => ⟨no_slash, not_empty, not_dot, not_dots⟩⟩

/-- What a name says before its first slash. -/
def entryName (name : String) : String := String.ofList (name.toList.takeWhile (· != '/'))

theorem entryName_of_no_slash {name : String} (clean : '/' ∉ name.toList) : entryName name = name := by
  have whole : pieces name.toList = [name.toList] := pieces_of_no_slash clean
  rw [entryName]
  rcases pieces_split name.toList with ⟨-, split⟩ | ⟨after, -, split⟩
  all_goals rw [← (List.cons.inj (whole.symm.trans split)).1, String.ofList_toList]

theorem components_of_relative {path : Path} (relative : ∀ after, path.text.toList ≠ '/' :: after) :
    path.components = (if (pieces path.text.toList).head? = some ['.'] then [.current] else []) ++
      (pieces path.text.toList).filterMap component? := by
  cases letters : path.text.toList with
  | nil => simp [components, letters]
  | cons c after =>
    have other : c ≠ '/' := fun same => relative after (by rw [letters, same])
    simp [components, letters, other]

theorem EntryName.relative {name : String} (entry : EntryName name) (after : List Char) :
    name.toList ≠ '/' :: after := fun absolute => entry.no_slash (by simp [absolute])

theorem EntryName.component? {name : String} (entry : EntryName name) :
    Path.component? name.toList = some (.name name) := by
  simp [Path.component?, entry.not_empty, entry.not_dot, entry.not_dots]

theorem EntryName.isPlainName {name : String} (entry : EntryName name) :
    (Path.mk name).isPlainName = true := by
  rw [Path.isPlainName, components_of_relative entry.relative, pieces_of_no_slash entry.no_slash]
  simp [entry.not_dot, entry.component?]

/-- What a plain name is made of: a step into an entry, and after it slashes and single dots only. -/
theorem isPlainName_spec {name : String} (plain : (Path.mk name).isPlainName = true) :
    ∃ rest, pieces name.toList = (entryName name).toList :: rest ∧ EntryName (entryName name) ∧
      ∀ piece ∈ rest, piece = [] ∨ piece = ['.'] := by
  have relative : ∀ after, name.toList ≠ '/' :: after := by
    intro after absolute
    simp [isPlainName, components, absolute] at plain
  rw [isPlainName, components_of_relative relative] at plain
  obtain ⟨rest, split⟩ : ∃ rest, pieces name.toList = (entryName name).toList :: rest := by
    rw [entryName, String.toList_ofList]
    rcases pieces_split name.toList with ⟨-, split⟩ | ⟨after, -, split⟩
    · exact ⟨_, split⟩
    · exact ⟨_, split⟩
  have entry : EntryName (entryName name) := by
    refine ⟨no_slash_of_mem_pieces (by rw [split]; exact List.mem_cons_self), fun nothing => ?_,
      fun dot => ?_, fun dots => ?_⟩
    · rw [nothing] at split
      rcases head_pieces_eq_nil split with empty | ⟨after, absolute⟩
      · simp [empty, pieces, component?] at plain
      · exact relative after absolute
    · simp only [split, dot, List.head?_cons, if_true, List.cons_append] at plain
      contradiction
    · simp [split, dots, component?] at plain
  refine ⟨rest, split, entry, fun piece member => ?_⟩
  simp only [split, List.head?_cons, Option.some.injEq, entry.not_dot, if_false, List.nil_append,
    List.filterMap_cons, entry.component?] at plain
  have nothing : rest.filterMap component? = [] := by
    split at plain
    · rename_i single
      exact (List.cons.inj single).2
    · contradiction
  have none : component? piece = none := List.filterMap_eq_nil_iff.mp nothing piece member
  unfold component? at none
  split at none
  · assumption
  · split at none <;> contradiction

/-- A plain name without a slash is the name of an entry. -/
theorem entryName_of_isPlainName {name : String} (plain : (Path.mk name).isPlainName = true)
    (clean : '/' ∉ name.toList) : EntryName name := by
  obtain ⟨-, -, entry, -⟩ := isPlainName_spec plain
  rwa [entryName_of_no_slash clean] at entry

/-- The only step of such a name is the one into its entry. -/
theorem steps_of_idle {name : String} {rest : List (List Char)}
    (split : pieces name.toList = (entryName name).toList :: rest) (entry : EntryName (entryName name))
    (idle : ∀ piece ∈ rest, piece = [] ∨ piece = ['.']) :
    (∀ after, name.toList ≠ '/' :: after) ∧ (pieces name.toList).head? ≠ some ['.'] ∧
      (pieces name.toList).filterMap component? = [.name (entryName name)] := by
  refine ⟨fun after absolute => ?_, ?_, ?_⟩
  · rw [absolute, pieces_slash] at split
    exact entry.not_empty (List.cons.inj split).1.symm
  · simpa [split] using entry.not_dot
  · have nothing : rest.filterMap component? = [] :=
      List.filterMap_eq_nil_iff.mpr fun piece member => by simp [component?, idle piece member]
    rw [split, List.filterMap_cons_some entry.component?, nothing]

/-! ### Below a directory -/

/-- The path to look for a directory at; the empty path stands for the working directory. -/
def orHere (path : Path) : Path := if path.text.isEmpty then ⟨"."⟩ else path

/-- What stands before a name below a directory. -/
def lead (directory : Path) : String :=
  if directory.text.isEmpty || directory.text.toList.getLast? == some '/' then directory.text
  else directory.text ++ "/"

theorem isAbsolute_eq_false {text : String} (relative : ∀ after, text.toList ≠ '/' :: after) :
    (Path.mk text).isAbsolute = false := by
  cases letters : text.toList with
  | nil => simp [isAbsolute, letters]
  | cons c after =>
    have other : c ≠ '/' := fun same => relative after (by rw [letters, same])
    simp [isAbsolute, letters, other]

theorem join_of_absolute {base path : Path} (absolute : path.isAbsolute = true) :
    base.join path = path := by
  rw [join, if_pos absolute]

theorem join_of_relative {base path : Path} (relative : path.isAbsolute = false) :
    base.join path = ⟨base.lead ++ path.text⟩ := by
  rw [join, lead, relative]
  split <;> split <;> first | rfl | contradiction

theorem child_text (directory : Path) {name : String} (relative : ∀ after, name.toList ≠ '/' :: after) :
    (directory.child name).text = directory.lead ++ name := by
  rw [child, join_of_relative (isAbsolute_eq_false relative)]

/-- The lead of a directory is empty for the empty path only, and else it ends with one more slash
than the steps to the directory need. -/
theorem lead_spec (directory : Path) :
    directory.text = "" ∧ directory.lead = "" ∨
      ∃ start, directory.lead.toList = start ++ ['/'] ∧
        (directory.text.toList = start ∧ start ≠ [] ∨ directory.text.toList = start ++ ['/']) := by
  unfold lead
  by_cases empty : directory.text = ""
  · exact .inl ⟨empty, by simp [empty]⟩
  · right
    cases last : directory.text.toList.getLast? with
    | none => simp [List.getLast?_eq_none_iff, empty] at last
    | some c =>
      obtain ⟨start, letters⟩ := List.getLast?_eq_some_iff.mp last
      by_cases slash : c = '/'
      · subst slash
        exact ⟨start, by simp [letters], .inr letters⟩
      · refine ⟨directory.text.toList, ?_, .inl ⟨rfl, by simpa using empty⟩⟩
        simp [empty, slash]

theorem lead_begins (directory : Path) : ∃ rest, directory.lead = directory.text ++ rest := by
  unfold lead
  split
  · exact ⟨"", String.append_empty.symm⟩
  · exact ⟨"/", rfl⟩

/-- A text in front of another begins the whole, if it is not empty. -/
theorem isAbsolute_append (front rest : String) :
    (Path.mk (front ++ rest)).isAbsolute =
      if front.isEmpty then (Path.mk rest).isAbsolute else (Path.mk front).isAbsolute := by
  cases letters : front.toList with
  | nil => simp [String.toList_eq_nil_iff.mp letters]
  | cons c more =>
    have nonempty : front ≠ "" := by simp [← String.toList_eq_nil_iff, letters]
    simp [isAbsolute, letters, nonempty]

/-- What stands before a name below a directory has the beginning of the directory. -/
theorem isAbsolute_lead (directory : Path) :
    (Path.mk directory.lead).isAbsolute = directory.isAbsolute := by
  rw [lead]
  split
  · rfl
  · rename_i closed
    rw [isAbsolute_append]
    simp_all

theorem lead_eq_empty_iff (directory : Path) : directory.lead = "" ↔ directory.text = "" := by
  rcases lead_spec directory with ⟨empty, lead⟩ | ⟨start, lead, begun⟩
  · simp [empty, lead]
  · have leads : directory.lead ≠ "" := by simp [← String.toList_eq_nil_iff, lead]
    have named : directory.text ≠ "" := by
      rw [Ne, ← String.toList_eq_nil_iff]
      rcases begun with ⟨same, nonempty⟩ | same
      · rwa [same]
      · simp [same]
    simp [leads, named]

theorem isAbsolute_join (base path : Path) :
    (base.join path).isAbsolute = (base.isAbsolute || path.isAbsolute) := by
  cases absolute : path.isAbsolute with
  | true => rw [join_of_absolute absolute, absolute, Bool.or_true]
  | false =>
    rw [join_of_relative absolute, isAbsolute_append, isAbsolute_lead, Bool.or_false]
    split
    · rename_i empty
      have unnamed : base.text = "" := (lead_eq_empty_iff base).mp (by simpa using empty)
      rw [absolute, isAbsolute, unnamed]
      rfl
    · rfl

theorem isAbsolute_child (directory : Path) {name : String}
    (relative : ∀ after, name.toList ≠ '/' :: after) :
    (directory.child name).isAbsolute = directory.isAbsolute := by
  rw [child, isAbsolute_join, isAbsolute_eq_false relative, Bool.or_false]

/-! ### Components below a directory -/

/-- The steps of a path behind a slash come after those of the path up to it. -/
theorem components_append_slash {path start : Path} {front rest : List Char}
    (letters : path.text.toList = front ++ '/' :: rest) (begun : start.text.toList = front ++ ['/']) :
    path.components = start.components ++ (pieces rest).filterMap component? := by
  have nothing : (pieces []).filterMap component? = [] := by simp [pieces, component?]
  cases front with
  | nil => simp [components, letters, begun, nothing]
  | cons c front =>
    by_cases slash : c = '/'
    · subst slash
      simp [components, letters, begun, pieces_append_slash, nothing]
    · have whole := @components_of_relative path (by simp [letters, slash])
      have start := @components_of_relative start (by simp [begun, slash])
      rw [whole, start, letters, begun, pieces_append_slash, pieces_append_slash, List.filterMap_append,
        List.filterMap_append, nothing, List.append_nil, List.append_assoc]
      obtain ⟨piece, more, -, split⟩ := pieces_cons front slash
      simp [split]

/-- A slash at the end of a path is no step. -/
theorem components_trailing_slash {path start : Path} (letters : path.text.toList = start.text.toList ++ ['/'])
    (nonempty : start.text.toList ≠ []) : path.components = start.components := by
  have nothing : (pieces []).filterMap component? = [] := by simp [pieces, component?]
  cases front : start.text.toList with
  | nil => exact absurd front nonempty
  | cons c rest =>
    rw [front] at letters
    by_cases slash : c = '/'
    · subst slash
      simp [components, letters, front, pieces_append_slash, nothing]
    · have whole := @components_of_relative path (by simp [letters, slash])
      have start := @components_of_relative start (by simp [front, slash])
      rw [whole, start, letters, front, pieces_append_slash, List.filterMap_append, nothing,
        List.append_nil]
      obtain ⟨piece, more, -, split⟩ := pieces_cons rest slash
      simp [split]

/-- The steps of a path below a directory come after those of the directory. -/
theorem components_child_eq (directory : Path) {name : String}
    (relative : ∀ after, name.toList ≠ '/' :: after)
    (undotted : (pieces name.toList).head? ≠ some ['.']) :
    (directory.child name).components =
      directory.components ++ (pieces name.toList).filterMap component? := by
  have text := child_text directory relative
  obtain ⟨empty, lead⟩ | ⟨start, lead, begun⟩ := lead_spec directory
  · have here : directory.components = [] := by simp [components, empty, pieces, component?]
    have letters : (directory.child name).text = name := by simp [text, lead]
    rw [here, components_of_relative (by simpa [letters] using relative), letters, if_neg undotted]
  · have letters : (directory.child name).text.toList = start ++ '/' :: name.toList := by
      simp [text, lead]
    have behind : (directory.child name).components = (⟨String.ofList (start ++ ['/'])⟩ : Path).components ++
        (pieces name.toList).filterMap component? := components_append_slash letters (by simp)
    rw [behind]
    congr 1
    rcases begun with ⟨same, nonempty⟩ | same
    · exact components_trailing_slash (by simp [same]) (by simp [same, nonempty])
    · rw [← same, String.ofList_toList]

/-- The path to a plain name in a directory has one more step than the directory. -/
theorem components_child {name : String} (plain : (Path.mk name).isPlainName = true) (directory : Path) :
    (directory.child name).components = directory.components ++ [.name (entryName name)] := by
  obtain ⟨rest, split, entry, idle⟩ := isPlainName_spec plain
  obtain ⟨relative, undotted, steps⟩ := steps_of_idle split entry idle
  rw [components_child_eq directory relative undotted, steps]

/-! ### Paths made of names -/

/-- The names that lead from a directory to an entry below it, written as a path. -/
def ofNames (names : List String) : String := "/".intercalate names

theorem pieces_ofNames {names : List String} (some : names ≠ []) (entries : ∀ name ∈ names, EntryName name) :
    pieces (ofNames names).toList = names.map String.toList := by
  induction names with
  | nil => exact absurd rfl some
  | cons name rest ih =>
    have clean := pieces_of_no_slash (entries name (by simp)).no_slash
    cases rest with
    | nil => rw [ofNames, String.intercalate_singleton, clean, List.map_singleton]
    | cons next rest =>
      have later := ih (by simp) fun other member => entries other (by simp [member])
      have letters : (ofNames (name :: next :: rest)).toList =
          name.toList ++ '/' :: (ofNames (next :: rest)).toList := by
        simp [ofNames, String.intercalate_cons_cons]
      rw [letters, pieces_append_slash, clean, later, List.singleton_append, ← List.map_cons]

theorem relative_ofNames {names : List String} (some : names ≠ [])
    (entries : ∀ name ∈ names, EntryName name) (after : List Char) :
    (ofNames names).toList ≠ '/' :: after := by
  intro absolute
  have split := pieces_ofNames some entries
  rw [absolute, pieces_slash] at split
  cases names with
  | nil => exact some rfl
  | cons name rest => exact (entries name (by simp)).not_empty (List.cons.inj split).1.symm

theorem filterMap_component? {names : List String} (entries : ∀ name ∈ names, EntryName name) :
    (names.map String.toList).filterMap component? = names.map .name := by
  induction names with
  | nil => rfl
  | cons name rest ih =>
    have entry : EntryName name := entries name (by simp)
    have later := ih fun other member => entries other (by simp [member])
    rw [List.map_cons, List.filterMap_cons, entry.component?, later, List.map_cons]

theorem undotted_ofNames {names : List String} (some : names ≠ [])
    (entries : ∀ name ∈ names, EntryName name) :
    (pieces (ofNames names).toList).head? ≠ Option.some ['.'] := by
  cases names with
  | nil => exact absurd rfl some
  | cons name rest => simpa [pieces_ofNames some entries] using (entries name (by simp)).not_dot

theorem components_ofNames {names : List String} (some : names ≠ [])
    (entries : ∀ name ∈ names, EntryName name) : (Path.mk (ofNames names)).components = names.map .name := by
  rw [@components_of_relative ⟨ofNames names⟩ (relative_ofNames some entries),
    if_neg (undotted_ofNames some entries), pieces_ofNames some entries, filterMap_component? entries,
    List.nil_append]

/-- The steps to an entry below a directory are those to the directory and then the names. -/
theorem components_child_ofNames (directory : Path) {names : List String} (some : names ≠ [])
    (entries : ∀ name ∈ names, EntryName name) :
    (directory.child (ofNames names)).components = directory.components ++ names.map .name := by
  rw [components_child_eq directory (relative_ofNames some entries) (undotted_ofNames some entries),
    pieces_ofNames some entries, filterMap_component? entries]

end Scaffold.Path
