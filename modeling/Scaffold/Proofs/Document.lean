import Mathlib.Data.List.Nodup
import Scaffold.Document

/-!
Records in structured data. The fields of a record are the entries of a table, in any order, or the items
of a list; of those that are known each is there once at most.
-/

namespace Scaffold.Document

/-- The entries of a record: those of a table, or the items of a list under the known names in order. -/
inductive Entries (known : List String) : Document → (positional : Bool) →
    List (String × Document) → Prop where
  | table (entries : List (String × Document)) : Entries known (.table entries) false entries
  | list {items : List Document} (fit : items.length ≤ known.length) :
    Entries known (.list items) true (known.zip items)
  | named {name : String} {content : Document} {positional : Bool} {entries : List (String × Document)} :
    Entries known content positional entries → Entries known (.named name content) positional entries

theorem Entries.of_table {known : List String} {own entries : List (String × Document)}
    {positional : Bool} (has : Entries known (.table own) positional entries) : entries = own := by
  cases has
  rfl

/-- A document is one record at most. -/
theorem Entries.unique {known : List String} {document : Document} {positional positional' : Bool}
    {entries entries' : List (String × Document)} (has : Entries known document positional entries)
    (has' : Entries known document positional' entries') : positional = positional' ∧ entries = entries' := by
  induction has with
  | table | list =>
    cases has'
    exact ⟨rfl, rfl⟩
  | named _ same =>
    cases has' with
    | named has' => exact same has'

theorem Entries.of_list {known : List String} {items : List Document} {entries : List (String × Document)}
    {positional : Bool} (has : Entries known (.list items) positional entries) :
    items.length ≤ known.length ∧ entries = known.zip items := by
  cases has with
  | list fit => exact ⟨fit, rfl⟩

section

variable (entries : List (String × Document)) (key : String)

/-- No entry has a key. -/
def Absent : Prop := ∀ entry ∈ entries, entry.1 ≠ key

/-- One entry has a key, and no other one. -/
def Sole (document : Document) : Prop :=
  ∃ before after, entries = before ++ (key, document) :: after ∧ Absent before key ∧ Absent after key

end

/-- None of the known keys occurs twice. -/
def Distinct (known : List String) (entries : List (String × Document)) : Prop :=
  ∀ key ∈ known, Absent entries key ∨ ∃ document, Sole entries key document

variable {known : List String} {entries : List (String × Document)} {key : String} {document : Document}

/-- The entries with a key. -/
def withKey (entries : List (String × Document)) (key : String) : List (String × Document) :=
  entries.filter (·.1 == key)

theorem absent_iff : Absent entries key ↔ withKey entries key = [] := by
  simp [Absent, withKey, List.filter_eq_nil_iff]

theorem sole_iff : Sole entries key document ↔ withKey entries key = [(key, document)] := by
  rw [withKey, List.filter_eq_cons_iff]
  simp only [Sole, Absent, List.filter_eq_nil_iff, beq_iff_eq]
  grind

theorem Sole.unique {other : Document} (sole : Sole entries key document)
    (sole' : Sole entries key other) : document = other := by
  rw [sole_iff] at sole sole'
  simpa using sole.symm.trans sole'

theorem Sole.not_absent (sole : Sole entries key document) : ¬ Absent entries key := by
  rw [absent_iff, sole_iff.mp sole]
  simp

theorem length_withKey_le_one_iff : (withKey entries key).length ≤ 1 ↔
    Absent entries key ∨ ∃ document, Sole entries key document := by
  rw [absent_iff]
  simp only [sole_iff]
  rcases found : withKey entries key with - | ⟨⟨key', document⟩, - | ⟨next, rest⟩⟩
  · simp
  · have member : (key', document) ∈ withKey entries key := by simp [found]
    obtain rfl : key' = key := by simpa using (List.mem_filter.mp member).2
    simp
  · simp

/-- The entries under known keys. -/
def among (known : List String) (entries : List (String × Document)) : List (String × Document) :=
  entries.filter fun entry => known.contains entry.1

/-- Among the known entries a known key is looked up as among all of them. -/
theorem withKey_among (member : key ∈ known) :
    withKey (among known entries) key = withKey entries key := by
  rw [withKey, withKey, among, List.filter_filter]
  refine List.filter_congr fun entry _ => ?_
  by_cases same : entry.1 = key <;> simp [same, member]

theorem withKey_among_unknown (strange : key ∉ known) : withKey (among known entries) key = [] := by
  refine List.filter_eq_nil_iff.mpr fun entry member same => strange ?_
  have found := (List.mem_filter.mp member).2
  rw [← beq_iff_eq.mp same]
  simpa using found

theorem nodup_among_iff : ((among known entries).map (·.1)).Nodup ↔ Distinct known entries := by
  have counts : ∀ key, List.count key ((among known entries).map (·.1)) =
      (withKey (among known entries) key).length := by
    intro key
    rw [List.count, List.countP_map, List.countP_eq_length_filter]
    rfl
  rw [List.nodup_iff_count_le_one]
  refine forall_congr' fun key => ?_
  rw [counts, ← length_withKey_le_one_iff]
  by_cases member : key ∈ known
  · simp only [withKey_among member, member, true_imp_iff]
  · simp [withKey_among_unknown member, member]

theorem length_among_iff :
    (among known entries).length = entries.length ↔ ∀ entry ∈ entries, entry.1 ∈ known := by
  rw [among, List.length_filter_eq_length_iff]
  simp

/-! ### Fields -/

/-- A document whose fields are these: the known ones among its entries, none of them twice. A closed
record has no others. -/
structure Record (known : List String) (closed : Bool) (document : Document) (fields : Fields)
    (entries : List (String × Document)) : Prop where
  has : Entries known document fields.positional entries
  distinct : Distinct known entries
  onlyKnown : closed = true → ∀ entry ∈ entries, entry.1 ∈ known
  found : fields.entries = among known entries

theorem fields?_table {closed : Bool} {fields : Fields} :
    (table entries).fields? known closed = some fields ↔ Record known closed (.table entries) fields entries := by
  have opened : (closed && (among known entries).length != entries.length) = true ↔
      ¬ (closed = true → ∀ entry ∈ entries, entry.1 ∈ known) := by
    rw [Bool.and_eq_true, bne_iff_ne, Ne, length_among_iff, Classical.not_imp]
  have refused : ((closed && (among known entries).length != entries.length) ||
      !decide ((among known entries).map (·.1)).Nodup) = true ↔
      ¬ ((closed = true → ∀ entry ∈ entries, entry.1 ∈ known) ∧ Distinct known entries) := by
    rw [Bool.or_eq_true, opened, Bool.not_eq_true', decide_eq_false_iff_not, nodup_among_iff,
      Classical.not_and_iff_not_or_not]
  unfold fields?
  dsimp only
  split
  · rename_i odd
    have odd := refused.mp odd
    exact ⟨fun none => by contradiction, fun record => absurd ⟨record.onlyKnown, record.distinct⟩ odd⟩
  · rename_i even
    obtain ⟨onlyKnown, distinct⟩ := Classical.not_not.mp (mt refused.mpr even)
    constructor
    · intro same
      obtain rfl := Option.some.inj same
      exact ⟨.table entries, distinct, onlyKnown, rfl⟩
    · rintro ⟨has, -, -, found⟩
      obtain ⟨positional, kept⟩ := fields
      cases has
      rw [show kept = _ from found]
      rfl

theorem keys_zip_sublist (known : List String) (items : List Document) :
    ((known.zip items).map (·.1)).Sublist known := by
  induction known generalizing items with
  | nil => simp
  | cons name rest ih =>
    cases items with
    | nil => simp
    | cons item others => simpa using ih others

theorem fields?_list (nodup : known.Nodup) {items : List Document} {closed : Bool} {fields : Fields} :
    (list items).fields? known closed = some fields ↔
      items.length ≤ known.length ∧ Record known closed (.list items) fields (known.zip items) := by
  have sub := keys_zip_sublist known items
  have onlyKnown : ∀ entry ∈ known.zip items, entry.1 ∈ known :=
    fun entry member => sub.subset (List.mem_map_of_mem member)
  have all : among known (known.zip items) = known.zip items :=
    List.filter_eq_self.mpr fun entry member => by simpa using onlyKnown entry member
  have distinct : Distinct known (known.zip items) :=
    nodup_among_iff.mp (by rw [all]; exact nodup.sublist sub)
  unfold fields?
  split
  · rename_i fit
    rw [Option.some.injEq]
    constructor
    · rintro rfl
      exact ⟨fit, .list fit, distinct, fun _ => onlyKnown, all.symm⟩
    · rintro ⟨-, has, -, -, found⟩
      obtain ⟨positional, kept⟩ := fields
      cases has
      rw [show kept = _ from found, all]
  · rename_i long
    exact ⟨fun none => by contradiction, fun ⟨fit, _⟩ => absurd fit long⟩

/-- Marks on a record do not matter. -/
theorem record_named {name : String} {closed : Bool} {fields : Fields} :
    Record known closed (.named name document) fields entries ↔ Record known closed document fields entries := by
  constructor
  · rintro ⟨has, distinct, onlyKnown, found⟩
    cases has with
    | named has => exact ⟨has, distinct, onlyKnown, found⟩
  · rintro ⟨has, distinct, onlyKnown, found⟩
    exact ⟨.named has, distinct, onlyKnown, found⟩

/-- The fields of a document are those of the record that it is. -/
theorem fields?_eq_some_iff (nodup : known.Nodup) {closed : Bool} {fields : Fields} :
    (document : Document) → (document.fields? known closed = some fields ↔
      ∃ entries, Record known closed document fields entries)
  | .table entries => by
    rw [fields?_table]
    constructor
    · exact fun record => ⟨entries, record⟩
    · rintro ⟨entries', record⟩
      obtain rfl := record.has.of_table
      exact record
  | .list items => by
    rw [fields?_list nodup]
    constructor
    · exact fun ⟨_, record⟩ => ⟨_, record⟩
    · rintro ⟨entries', record⟩
      obtain ⟨fit, rfl⟩ := record.has.of_list
      exact ⟨fit, record⟩
  | .named name content => by
    rw [fields?, fields?_eq_some_iff nodup content]
    exact exists_congr fun entries => record_named.symm
  | .null | .boolean _ | .number _ | .text _ | .brokenText | .plain _ => by
    constructor
    · intro none
      contradiction
    · rintro ⟨entries, record⟩
      nomatch record.has

/-! ### Values of fields -/

variable {α : Type}

/-- What entries say about a value that may be left out: nothing, or what one entry stands for. -/
inductive Tells (entries : List (String × Document)) (key : String) (standsFor : Document → α → Prop) :
    Option α → Prop where
  | absent : Absent entries key → Tells entries key standsFor none
  | null {document : Document} : Sole entries key document → document.isNull = true →
    Tells entries key standsFor none
  | value {document : Document} {value : α} : Sole entries key document → document.isNull = false →
    standsFor document value → Tells entries key standsFor (some value)

theorem Sole.mem (sole : Sole entries key document) : (key, document) ∈ entries := by
  obtain ⟨before, after, rfl, -⟩ := sole
  simp

theorem Tells.mono {standsFor standsFor' : Document → α → Prop} {result : Option α}
    (told : Tells entries key standsFor result)
    (weaker : ∀ entry ∈ entries, ∀ value, standsFor entry.2 value → standsFor' entry.2 value) :
    Tells entries key standsFor' result := by
  cases told with
  | absent absent => exact .absent absent
  | null sole empty => exact .null sole empty
  | value sole given stands => exact .value sole given (weaker _ sole.mem _ stands)

/-- What is said about a key is said once. -/
theorem Tells.distinct {standsFor : Document → α → Prop} {result : Option α}
    (told : Tells entries key standsFor result) : Absent entries key ∨ ∃ document, Sole entries key document := by
  cases told with
  | absent absent => exact .inl absent
  | null sole | value sole => exact .inr ⟨_, sole⟩

namespace Record

variable {closed : Bool} {fields : Fields} {value? : Document → Option α}

theorem find?_eq (record : Record known closed document fields entries) (member : key ∈ known) :
    fields.find? key = (withKey entries key).head?.map (·.2) := by
  rw [Fields.find?, record.found, ← List.head?_filter]
  exact congrArg (fun found => found.head?.map (·.2)) (withKey_among member)

theorem find?_eq_none_iff (record : Record known closed document fields entries) (member : key ∈ known) :
    fields.find? key = none ↔ Absent entries key := by
  rw [record.find?_eq member, Option.map_eq_none_iff, List.head?_eq_none_iff, absent_iff]

theorem find?_eq_some_iff (record : Record known closed document fields entries) (member : key ∈ known)
    {found : Document} : fields.find? key = some found ↔ Sole entries key found := by
  rw [record.find?_eq member]
  rcases record.distinct key member with absent | ⟨held, sole⟩
  · rw [absent_iff.mp absent]
    exact ⟨fun none => by contradiction, fun sole => absurd absent sole.not_absent⟩
  · rw [sole_iff.mp sole, List.head?_cons, Option.map_some, Option.some.injEq]
    exact ⟨fun same => same ▸ sole, fun sole' => sole.unique sole'⟩

theorem required?_eq_some_iff (record : Record known closed document fields entries) (member : key ∈ known)
    {value : α} : fields.required? key value? = some value ↔
      ∃ held, Sole entries key held ∧ value? held = some value := by
  rw [Fields.required?, Option.bind_eq_some_iff]
  simp only [record.find?_eq_some_iff member]

theorem optionalOrMissing?_eq_some_iff (record : Record known closed document fields entries)
    (member : key ∈ known) {result : Option α} :
    fields.optionalOrMissing? key value? = some result ↔
      Tells entries key (fun held value => value? held = some value) result := by
  unfold Fields.optionalOrMissing?
  cases found : fields.find? key with
  | none =>
    have absent := (record.find?_eq_none_iff member).mp found
    rw [Option.some.injEq]
    constructor
    · rintro rfl
      exact .absent absent
    · rintro (_ | ⟨sole, -⟩ | ⟨sole, -, -⟩)
      · rfl
      all_goals exact absurd absent sole.not_absent
  | some held =>
    have sole := (record.find?_eq_some_iff member).mp found
    dsimp only
    constructor
    · intro read
      split at read
      · rename_i empty
        obtain rfl := Option.some.inj read
        exact .null sole empty
      · rename_i given
        obtain ⟨value, valued, rfl⟩ := Option.map_eq_some_iff.mp read
        exact .value sole (by simpa using given) valued
    · rintro (absent | ⟨sole', empty⟩ | ⟨sole', given, read⟩)
      · exact absurd absent sole.not_absent
      all_goals obtain rfl := sole.unique sole'
      · rw [if_pos empty]
      · rw [if_neg (by simp [given]), read, Option.map_some]

theorem optional?_eq_some_iff (record : Record known closed document fields entries)
    (member : key ∈ known) {result : Option α} :
    fields.optional? key value? = some result ↔
      (fields.positional = true → ¬ Absent entries key) ∧
        Tells entries key (fun held value => value? held = some value) result := by
  rw [← record.optionalOrMissing?_eq_some_iff member, ← record.find?_eq_none_iff member]
  unfold Fields.optional? Fields.optionalOrMissing?
  cases found : fields.find? key <;> cases fields.positional <;> simp

end Record

end Scaffold.Document
