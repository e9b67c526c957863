import Scaffold.Json.Parser
import Scaffold.Json.Printer

/-! What is written as JSON is read back as it was. -/

namespace Scaffold.Json

open Text

/-! ### Strings -/

theorem hexDigits : ∀ n < 16, (Hex.digit? (Hex.digitChar n)) = some n := by decide

/-- A character below the blank as a Unicode escape. -/
theorem hexUnit?_low {n : Nat} (low : n < 0x20) (rest : List Char) :
    hexUnit? ('0' :: '0' :: Hex.digitChar (n / 16) :: Hex.digitChar (n % 16) :: rest) =
      some (n, rest) := by
  have high := hexDigits (n / 16) (by omega)
  have last := hexDigits (n % 16) (by omega)
  have zero : Hex.digit? '0' = some 0 := by decide
  have value : Hex.value ['0', '0', Hex.digitChar (n / 16), Hex.digitChar (n % 16)] = n := by
    simp only [Hex.value, List.foldl_cons, List.foldl_nil, zero, high, last, Option.getD_some]
    omega
  simp [hexUnit?, Hex.isDigit, zero, high, last, value]

theorem stringBody?_escaped (fuel : Nat) (done : List (Option Char)) (c : Char) (rest : List Char) :
    stringBody? (fuel + 1) done (escaped c ++ rest) = stringBody? fuel (some c :: done) rest := by
  unfold escaped
  split
  case h_8 =>
    split
    · rename_i low
      have read : escape? ('u' :: '0' :: '0' :: Hex.digitChar (c.toNat / 16) ::
          Hex.digitChar (c.toNat % 16) :: rest) = some (some c, rest) := by
        simp [escape?, unicodeEscape?, hexUnit?_low low]
        omega
      simp [stringBody?, read]
    · rename_i high
      simp [stringBody?, high]
  all_goals rfl

theorem length_escaped_pos (c : Char) : 0 < (escaped c).length := by
  unfold escaped
  split
  case h_8 => split <;> simp
  all_goals simp

theorem stringBody?_written (chars : List Char) (fuel : Nat) (done : List (Option Char))
    (rest : List Char) (enough : (chars.flatMap escaped).length < fuel) :
    stringBody? fuel done (chars.flatMap escaped ++ '"' :: rest) =
      some (done.reverse ++ chars.map some, rest) := by
  induction chars generalizing fuel done with
  | nil =>
    obtain ⟨fuel, rfl⟩ := Nat.exists_eq_succ_of_ne_zero (Nat.ne_zero_of_lt enough)
    simp [stringBody?]
  | cons c chars ih =>
    obtain ⟨fuel, rfl⟩ := Nat.exists_eq_succ_of_ne_zero (Nat.ne_zero_of_lt enough)
    have longer := length_escaped_pos c
    rw [List.flatMap_cons, List.length_append] at enough
    rw [List.flatMap_cons, List.append_assoc, stringBody?_escaped, ih _ _ (by omega)]
    simp

/-- A quoted text is read back after its opening quote. -/
theorem string?_quoted (text : String) (rest : List Char) (fuel : Nat)
    (enough : (text.toList.flatMap escaped).length < fuel) :
    string? fuel (text.toList.flatMap escaped ++ '"' :: rest) = some (some text, rest) := by
  have whole : ∀ chars : List Char, (chars.map some).mapM id = some chars := by
    intro chars
    induction chars with
    | nil => rfl
    | cons c chars ih => simp [ih]
  rw [string?, stringBody?_written _ _ _ _ enough]
  simp [whole]

theorem quoted_append (text : String) (rest : List Char) :
    quoted text ++ rest = '"' :: (text.toList.flatMap escaped ++ '"' :: rest) := by
  simp [quoted]

/-! ### Blanks -/

/-- A text that is skipped. -/
def Blank (text : List Char) : Prop := ∀ c ∈ text, isSpace c = true

theorem skipSpace_append {blank : List Char} (spaces : Blank blank) (rest : List Char) :
    skipSpace (blank ++ rest) = skipSpace rest := by
  induction blank with
  | nil => rfl
  | cons c blank ih =>
    rw [List.cons_append, skipSpace, List.dropWhile_cons, if_pos (spaces c (by simp))]
    exact ih fun other member => spaces other (by simp [member])

theorem skipSpace_of_not_space {c : Char} (solid : isSpace c = false) (rest : List Char) :
    skipSpace (c :: rest) = c :: rest := by
  simp [skipSpace, solid]

theorem value?_append {blank : List Char} (spaces : Blank blank) (fuel : Nat) (rest : List Char) :
    value? fuel (blank ++ rest) = value? fuel rest := by
  cases fuel with
  | zero => rfl
  | succ fuel => rw [value?, value?, skipSpace_append spaces]

theorem blank_indentation (depth : Nat) : Blank ('\n' :: indentation depth) := by
  intro c member
  rcases List.mem_cons.mp member with rfl | member
  · decide
  · rw [List.eq_of_mem_replicate member]
    decide

/-! ### Spellings -/

/-- A document is read back from a spelling, whatever follows. -/
def Reads (spelling : List Char) (document : Document) : Prop := ∀ (fuel : Nat) (rest : List Char),
  spelling.length ≤ fuel → value? fuel (spelling ++ rest) = some (document, rest)

theorem Reads.blank {blank spelling : List Char} {document : Document} (spaces : Blank blank)
    (reads : Reads spelling document) : Reads (blank ++ spelling) document := by
  intro fuel rest enough
  rw [List.length_append] at enough
  rw [List.append_assoc, value?_append spaces, reads fuel rest (by omega)]

/-- What is read as a document is not the end of a list. -/
theorem Reads.begins {spelling : List Char} {document : Document} (reads : Reads spelling document)
    (rest : List Char) : ∃ c more, skipSpace (spelling ++ rest) = c :: more ∧ c ≠ ']' := by
  have read := reads (spelling.length + 1) rest (by omega)
  rw [value?] at read
  cases start : skipSpace (spelling ++ rest) with
  | nil =>
    rw [start] at read
    contradiction
  | cons c more =>
    refine ⟨c, more, rfl, ?_⟩
    rintro rfl
    rw [start] at read
    simp [word?] at read

/-- Spellings with commas between them. -/
def separated : List (List Char) → List Char
  | [] => []
  | spelling :: rest => spelling ++ (if rest.isEmpty then [] else [',']) ++ separated rest

section

variable {spell : Document → List Char} {blank tail : List Char}

theorem items?_separated {items : List Document} (each : ∀ item ∈ items, Reads (spell item) item)
    (some_item : items ≠ []) (spaces : Blank tail) (fuel : Nat) (rest : List Char)
    (enough : (separated (items.map spell)).length < fuel) :
    items? fuel (separated (items.map spell) ++ (tail ++ ']' :: rest)) = some (items, rest) := by
  induction items generalizing fuel with
  | nil => exact absurd rfl some_item
  | cons item others ih =>
    rw [List.map_cons, separated] at enough ⊢
    simp only [List.length_append] at enough
    obtain ⟨fuel, rfl⟩ := Nat.exists_eq_succ_of_ne_zero (n := fuel) (by omega)
    have first := fun rest => each item (by simp) fuel rest (by omega)
    simp only [List.append_assoc]
    rw [items?, first]
    cases others with
    | nil =>
      simp [separated, skipSpace_append spaces, skipSpace_of_not_space (c := ']') (by decide)]
    | cons next more =>
      simp only [List.map_cons, List.isEmpty_cons, Bool.false_eq_true, if_false, List.length_singleton]
        at enough
      have later := ih (fun other member => each other (by simp [member])) (by simp) fuel
        (by rw [List.map_cons]; omega)
      rw [List.map_cons] at later
      simp [skipSpace_of_not_space (c := ',') (by decide), later]

/-- An entry with its key, after blanks. -/
def spellEntry (blank : List Char) (spell : Document → List Char) (entry : String × Document) : List Char :=
  blank ++ quoted entry.1 ++ ':' :: spell entry.2

theorem entries?_separated {entries : List (String × Document)}
    (each : ∀ entry ∈ entries, Reads (spell entry.2) entry.2) (some_entry : entries ≠ [])
    (spaces : Blank blank) (spaces' : Blank tail) (fuel : Nat) (rest : List Char)
    (enough : (separated (entries.map (spellEntry blank spell))).length < fuel) :
    entries? fuel (separated (entries.map (spellEntry blank spell)) ++ (tail ++ '}' :: rest)) =
      some (entries, rest) := by
  induction entries generalizing fuel with
  | nil => exact absurd rfl some_entry
  | cons entry others ih =>
    obtain ⟨key, value⟩ := entry
    rw [List.map_cons, separated] at enough ⊢
    simp only [spellEntry, List.length_append, List.length_cons] at enough
    obtain ⟨fuel, rfl⟩ := Nat.exists_eq_succ_of_ne_zero (n := fuel) (by omega)
    have spelled : Reads (spell value) value := each (key, value) (by simp)
    have first := fun rest => spelled fuel rest (by omega)
    simp only [spellEntry, List.append_assoc, List.cons_append]
    rw [entries?, skipSpace_append spaces, quoted_append, skipSpace_of_not_space (by decide)]
    split
    case h_2 none => exact absurd rfl (none _)
    case h_1 after same =>
      obtain rfl := (List.cons.inj same).2
      rw [string?_quoted key]
      case enough =>
        simp only [List.length_append, List.length_cons]
        omega
      simp only [Option.bind_eq_bind, Option.bind_some, skipSpace_of_not_space (c := ':') (by decide), first]
      cases others with
      | nil =>
        simp [separated, skipSpace_append spaces', skipSpace_of_not_space (c := '}') (by decide)]
      | cons next more =>
        simp only [List.map_cons, List.isEmpty_cons, Bool.false_eq_true, if_false, List.length_singleton]
          at enough
        have later := ih (fun other member => each other (by simp [member])) (by simp) fuel
          (by rw [List.map_cons]; omega)
        rw [List.map_cons] at later
        simp [skipSpace_of_not_space (c := ',') (by decide), later]

theorem value?_bracket {fuel : Nat} {rest more : List Char} {c : Char}
    (inside : skipSpace rest = c :: more) (other : c ≠ ']') :
    value? (fuel + 1) ('[' :: rest) = (items? fuel rest).map fun (items, after) =>
      (.list items, after) := by
  rw [value?, skipSpace_of_not_space (by decide)]
  simp [inside, other]

theorem value?_brace {fuel : Nat} {rest more : List Char} {c : Char}
    (inside : skipSpace rest = c :: more) (other : c ≠ '}') :
    value? (fuel + 1) ('\x7b' :: rest) = (entries? fuel rest).map fun (entries, after) =>
      (.table entries, after) := by
  rw [value?, skipSpace_of_not_space (by decide)]
  simp [inside, other]

theorem reads_list {items : List Document} (each : ∀ item ∈ items, Reads (spell item) item)
    (some_item : items ≠ []) (spaces : Blank tail) :
    Reads ('[' :: separated (items.map spell) ++ tail ++ [']']) (.list items) := by
  intro fuel rest enough
  simp only [List.length_append, List.length_cons, List.length_nil] at enough
  obtain ⟨fuel, rfl⟩ := Nat.exists_eq_succ_of_ne_zero (n := fuel) (by omega)
  have inner := items?_separated each some_item spaces fuel rest (by omega)
  have inside : ∃ c more, skipSpace (separated (items.map spell) ++ (tail ++ ']' :: rest)) = c :: more ∧
      c ≠ ']' := by
    cases items with
    | nil => exact absurd rfl some_item
    | cons item others =>
      rw [List.map_cons, separated, List.append_assoc, List.append_assoc]
      exact (each item (by simp)).begins _
  obtain ⟨c, more, inside, other⟩ := inside
  simp only [List.cons_append, List.append_assoc, List.nil_append]
  rw [value?_bracket inside other, inner]
  rfl

theorem reads_table {entries : List (String × Document)}
    (each : ∀ entry ∈ entries, Reads (spell entry.2) entry.2) (some_entry : entries ≠ [])
    (spaces : Blank blank) (spaces' : Blank tail) :
    Reads ('\x7b' :: separated (entries.map (spellEntry blank spell)) ++ tail ++ ['}']) (.table entries) := by
  intro fuel rest enough
  simp only [List.length_append, List.length_cons, List.length_nil] at enough
  obtain ⟨fuel, rfl⟩ := Nat.exists_eq_succ_of_ne_zero (n := fuel) (by omega)
  have inner := entries?_separated each some_entry spaces spaces' fuel rest (by omega)
  have inside : ∃ more, skipSpace (separated (entries.map (spellEntry blank spell)) ++
      (tail ++ '}' :: rest)) = '"' :: more := by
    cases entries with
    | nil => exact absurd rfl some_entry
    | cons entry others =>
      simp only [List.map_cons, separated, spellEntry, List.append_assoc]
      rw [skipSpace_append spaces, quoted_append, skipSpace_of_not_space (by decide)]
      exact ⟨_, rfl⟩
  obtain ⟨more, inside⟩ := inside
  simp only [List.cons_append, List.append_assoc, List.nil_append]
  rw [value?_brace inside (by decide), inner]
  rfl

end

theorem reads_empty_list : Reads ['[', ']'] (.list []) := by
  intro fuel rest enough
  obtain ⟨fuel, rfl⟩ := Nat.exists_eq_succ_of_ne_zero (n := fuel) (Nat.ne_zero_of_lt enough)
  simp [value?, skipSpace, isSpace]

theorem reads_empty_table : Reads ['\x7b', '}'] (.table []) := by
  intro fuel rest enough
  obtain ⟨fuel, rfl⟩ := Nat.exists_eq_succ_of_ne_zero (n := fuel) (Nat.ne_zero_of_lt enough)
  simp [value?, skipSpace, isSpace]

theorem word?_append (word : String) (value : Document) (rest : List Char) :
    word? word value (word.toList ++ rest) = some (value, rest) := by
  have leading : word.toList.isPrefixOf (word.toList ++ rest) = true :=
    List.isPrefixOf_iff_prefix.mpr (List.prefix_append _ _)
  rw [word?, if_pos leading, ← String.length_toList, List.drop_left]

theorem reads_null : Reads "null".toList .null := by
  intro fuel rest enough
  obtain ⟨fuel, rfl⟩ := Nat.exists_eq_succ_of_ne_zero (n := fuel) (Nat.ne_zero_of_lt enough)
  have read := word?_append "null" .null rest
  simp at read
  simp [value?, skipSpace, isSpace, read]

theorem reads_boolean (value : Bool) :
    Reads (if value then "true" else "false").toList (.boolean value) := by
  intro fuel rest enough
  obtain ⟨fuel, rfl⟩ : ∃ before, fuel = before + 1 :=
    Nat.exists_eq_succ_of_ne_zero (by cases value <;> exact Nat.ne_zero_of_lt enough)
  cases value with
  | true =>
    have read := word?_append "true" (.boolean true) rest
    have other : word? "null" .null ('t' :: 'r' :: 'u' :: 'e' :: rest) = none := by simp [word?]
    simp at read
    simp [value?, skipSpace, isSpace, read, other]
  | false =>
    have read := word?_append "false" (.boolean false) rest
    have other : word? "null" .null ('f' :: 'a' :: 'l' :: 's' :: 'e' :: rest) = none := by
      simp [word?]
    have other' : word? "true" (.boolean true) ('f' :: 'a' :: 'l' :: 's' :: 'e' :: rest) = none := by
      simp [word?]
    simp at read
    simp [value?, skipSpace, isSpace, read, other, other']

theorem value?_quote (fuel : Nat) (rest : List Char) :
    value? (fuel + 1) ('"' :: rest) = (string? (rest.length + 1) rest).map fun (value, after) =>
      ((value.map Document.text).getD .brokenText, after) := rfl

theorem reads_text (value : String) : Reads (quoted value) (.text value) := by
  intro fuel rest enough
  obtain ⟨fuel, rfl⟩ := Nat.exists_eq_succ_of_ne_zero (n := fuel) (Nat.ne_zero_of_lt enough)
  rw [quoted_append, value?_quote, string?_quoted value]
  · rfl
  · simp only [List.length_append, List.length_cons]
    omega

/-! ### Documents -/

/-- Documents that JSON has a form of its own for, numbers left out. -/
inductive Canonical : Document → Prop where
  | null : Canonical .null
  | boolean (value : Bool) : Canonical (.boolean value)
  | text (value : String) : Canonical (.text value)
  | list {items : List Document} (each : ∀ item ∈ items, Canonical item) : Canonical (.list items)
  | table {entries : List (String × Document)} (each : ∀ entry ∈ entries, Canonical entry.2) :
    Canonical (.table entries)

theorem writeItems_eq (depth : Nat) (items : List Document) :
    writeItems depth items =
      separated (items.map fun item => '\n' :: indentation (depth + 1) ++ write (depth + 1) item) := by
  induction items with
  | nil => rw [writeItems, List.map_nil, separated]
  | cons item rest ih => simp [writeItems, separated, ih]

theorem writeEntries_eq (depth : Nat) (entries : List (String × Document)) :
    writeEntries depth entries = separated (entries.map
      (spellEntry ('\n' :: indentation (depth + 1)) fun value => [' '] ++ write (depth + 1) value)) := by
  induction entries with
  | nil => rw [writeEntries, List.map_nil, separated]
  | cons entry rest ih => simp [writeEntries, separated, spellEntry, ih]

theorem writeCompactItems_eq (items : List Document) :
    writeCompactItems items = separated (items.map writeCompact) := by
  induction items with
  | nil => rw [writeCompactItems, List.map_nil, separated]
  | cons item rest ih => simp [writeCompactItems, separated, ih]

theorem writeCompactEntries_eq (entries : List (String × Document)) :
    writeCompactEntries entries = separated (entries.map (spellEntry [] writeCompact)) := by
  induction entries with
  | nil => rw [writeCompactEntries, List.map_nil, separated]
  | cons entry rest ih => simp [writeCompactEntries, separated, spellEntry, ih]

/-- Every canonical document is read back from its text with one entry on each line. -/
theorem Canonical.reads_write {document : Document} (canonical : Canonical document) :
    ∀ depth, Reads (write depth document) document := by
  induction canonical with
  | null => exact fun _ => reads_null
  | boolean value => exact fun _ => reads_boolean value
  | text value => exact fun _ => reads_text value
  | @list items each ih =>
    intro depth
    cases items with
    | nil => exact reads_empty_list
    | cons item others =>
      have spelled := reads_list (fun item member => (ih item member (depth + 1)).blank
        (blank_indentation (depth + 1))) (List.cons_ne_nil item others) (blank_indentation depth)
      rw [← writeItems_eq] at spelled
      simpa [write] using spelled
  | @table entries each ih =>
    intro depth
    cases entries with
    | nil => exact reads_empty_table
    | cons entry others =>
      have space : Blank [' '] := by simp [Blank, isSpace]
      let spell := fun value => [' '] ++ write (depth + 1) value
      have values : ∀ entry' ∈ entry :: others, Reads (spell entry'.2) entry'.2 :=
        fun entry' member => (ih entry' member (depth + 1)).blank space
      have spelled := reads_table values (List.cons_ne_nil entry others) (blank_indentation (depth + 1))
        (blank_indentation depth)
      rw [← writeEntries_eq] at spelled
      simpa [write] using spelled

/-- Every canonical document is read back from its text without blanks. -/
theorem Canonical.reads_writeCompact {document : Document} (canonical : Canonical document) :
    Reads (writeCompact document) document := by
  have nothing : Blank [] := by simp [Blank]
  induction canonical with
  | null => exact reads_null
  | boolean value => exact reads_boolean value
  | text value => exact reads_text value
  | @list items each ih =>
    cases items with
    | nil => exact reads_empty_list
    | cons item others =>
      have spelled := reads_list ih (List.cons_ne_nil item others) nothing
      rw [← writeCompactItems_eq] at spelled
      simpa [writeCompact] using spelled
  | @table entries each ih =>
    cases entries with
    | nil => exact reads_empty_table
    | cons entry others =>
      have spelled := reads_table ih (List.cons_ne_nil entry others) nothing nothing
      rw [← writeCompactEntries_eq] at spelled
      simpa [writeCompact] using spelled

theorem parse_of_reads {spelling : List Char} {document : Document} (reads : Reads spelling document) :
    parse (String.ofList spelling) = some document := by
  have read := reads (2 * spelling.length + 2) [] (by omega)
  rw [List.append_nil] at read
  simp [parse, read, skipSpace]

theorem parse_print {document : Document} (canonical : Canonical document) :
    parse (print document) = some document := parse_of_reads (canonical.reads_write 0)

theorem parse_printCompact {document : Document} (canonical : Canonical document) :
    parse (printCompact document) = some document := parse_of_reads canonical.reads_writeCompact

/-! ### What is read -/

/-- Documents as JSON has them, in which nothing is untyped or marked. -/
inductive Value : Document → Prop where
  | null : Value .null
  | boolean (value : Bool) : Value (.boolean value)
  | number (text : String) : Value (.number text)
  | text (value : String) : Value (.text value)
  | brokenText : Value .brokenText
  | list {items : List Document} (each : ∀ item ∈ items, Value item) : Value (.list items)
  | table {entries : List (String × Document)} (each : ∀ entry ∈ entries, Value entry.2) :
    Value (.table entries)

theorem Canonical.value {document : Document} (canonical : Canonical document) : Value document := by
  induction canonical with
  | null => exact .null
  | boolean value => exact .boolean value
  | text value => exact .text value
  | list each ih => exact .list ih
  | table each ih => exact .table ih

/-- What is read with some fuel consists of values. -/
structure ReadsValues (fuel : Nat) : Prop where
  value : ∀ {text rest : List Char} {document : Document},
    value? fuel text = some (document, rest) → Value document
  items : ∀ {text rest : List Char} {items : List Document},
    items? fuel text = some (items, rest) → ∀ item ∈ items, Value item
  entries : ∀ {text rest : List Char} {entries : List (String × Document)},
    entries? fuel text = some (entries, rest) → ∀ entry ∈ entries, Value entry.2

theorem value_of_word? {word : String} {value document : Document} {text rest : List Char}
    (read : word? word value text = some (document, rest)) : document = value := by
  unfold word? at read
  split at read
  · exact (Prod.mk.inj (Option.some.inj read)).1.symm
  · contradiction

theorem ReadsValues.value_succ {fuel : Nat} (reads : ReadsValues fuel) {text rest : List Char}
    {document : Document} (read : value? (fuel + 1) text = some (document, rest)) : Value document := by
  rw [value?] at read
  split at read
  · contradiction
  · obtain ⟨⟨value, after⟩, -, same⟩ := Option.map_eq_some_iff.mp read
    obtain ⟨rfl, -⟩ := Prod.mk.inj same
    cases value with
    | none => exact .brokenText
    | some value => exact .text value
  · split at read
    · obtain ⟨rfl, -⟩ := Prod.mk.inj (Option.some.inj read)
      exact .list (by simp)
    · obtain ⟨⟨items, after⟩, inner, same⟩ := Option.map_eq_some_iff.mp read
      obtain ⟨rfl, -⟩ := Prod.mk.inj same
      exact .list (reads.items inner)
  · split at read
    · obtain ⟨rfl, -⟩ := Prod.mk.inj (Option.some.inj read)
      exact .table (by simp)
    · obtain ⟨⟨entries, after⟩, inner, same⟩ := Option.map_eq_some_iff.mp read
      obtain ⟨rfl, -⟩ := Prod.mk.inj same
      exact .table (reads.entries inner)
  · split at read
    · obtain ⟨after, -, same⟩ := Option.map_eq_some_iff.mp read
      obtain ⟨rfl, -⟩ := Prod.mk.inj same
      exact .number _
    · rcases Option.or_eq_some_iff.mp read with null | ⟨-, read⟩
      · exact value_of_word? null ▸ .null
      · rcases Option.or_eq_some_iff.mp read with yes | ⟨-, no⟩
        · exact value_of_word? yes ▸ .boolean true
        · exact value_of_word? no ▸ .boolean false

theorem ReadsValues.items_succ {fuel : Nat} (reads : ReadsValues fuel) {text rest : List Char}
    {items : List Document} (read : items? (fuel + 1) text = some (items, rest)) :
    ∀ item ∈ items, Value item := by
  rw [items?] at read
  obtain ⟨⟨item, middle⟩, first, read⟩ := Option.bind_eq_some_iff.mp read
  dsimp only at read
  split at read
  · obtain ⟨⟨others, after⟩, later, same⟩ := Option.map_eq_some_iff.mp read
    obtain ⟨rfl, -⟩ := Prod.mk.inj same
    exact List.forall_mem_cons.mpr ⟨reads.value first, reads.items later⟩
  · obtain ⟨rfl, -⟩ := Prod.mk.inj (Option.some.inj read)
    exact List.forall_mem_singleton.mpr (reads.value first)
  · contradiction

theorem ReadsValues.entries_succ {fuel : Nat} (reads : ReadsValues fuel) {text rest : List Char}
    {entries : List (String × Document)} (read : entries? (fuel + 1) text = some (entries, rest)) :
    ∀ entry ∈ entries, Value entry.2 := by
  rw [entries?] at read
  split at read
  · obtain ⟨⟨key, after⟩, -, read⟩ := Option.bind_eq_some_iff.mp read
    obtain ⟨key, -, read⟩ := Option.bind_eq_some_iff.mp read
    dsimp only at read
    split at read
    · obtain ⟨⟨value, middle⟩, first, read⟩ := Option.bind_eq_some_iff.mp read
      dsimp only at read
      split at read
      · obtain ⟨⟨others, after⟩, later, same⟩ := Option.map_eq_some_iff.mp read
        obtain ⟨rfl, -⟩ := Prod.mk.inj same
        exact List.forall_mem_cons.mpr ⟨reads.value first, reads.entries later⟩
      · obtain ⟨rfl, -⟩ := Prod.mk.inj (Option.some.inj read)
        exact List.forall_mem_singleton.mpr (reads.value first)
      · contradiction
    · contradiction
  · contradiction

theorem readsValues (fuel : Nat) : ReadsValues fuel := by
  induction fuel with
  | zero => exact ⟨fun read => by simp [value?] at read, fun read => by simp [items?] at read,
      fun read => by simp [entries?] at read⟩
  | succ fuel ih => exact ⟨ih.value_succ, ih.items_succ, ih.entries_succ⟩

theorem value_of_parse {text : String} {document : Document} (read : parse text = some document) :
    Value document := by
  unfold parse at read
  dsimp only at read
  split at read
  · rename_i found
    split at read
    · exact Option.some.inj read ▸ (readsValues _).value found
    · contradiction
  · contradiction

end Scaffold.Json
