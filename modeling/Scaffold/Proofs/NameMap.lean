import Mathlib.Data.List.Dedup
import Scaffold.NameMap

/-! Laws of tables: look-up after each operation, and that a table is determined by what is found in it. -/

namespace Scaffold.NameMap

variable {α : Type}

/-! ### Look-up -/

theorem find?_insertInto (key other : String) (value : α) (entries : List (String × α)) :
    ((insertInto key value entries).find? (·.1 == other)).map (·.2) =
      if other = key then some value else (entries.find? (·.1 == other)).map (·.2) := by
  induction entries with
  | nil => by_cases same : other = key <;> simp [insertInto, same, Ne.symm]
  | cons entry rest ih =>
    obtain ⟨name, kept⟩ := entry
    rw [insertInto]
    split
    · by_cases same : other = key <;> simp [same, Ne.symm]
    · split
      · rename_i equal
        subst equal
        by_cases same : other = key <;> simp [same, Ne.symm]
      · rename_i different
        by_cases here : name = other
        · subst here
          simp [Ne.symm different]
        · simpa [List.find?_cons, here] using ih

theorem find?_insert (map : NameMap α) (key other : String) (value : α) :
    (map.insert key value).find? other = if other = key then some value else map.find? other :=
  find?_insertInto key other value map.entries

@[simp] theorem find?_insert_self (map : NameMap α) (key : String) (value : α) :
    (map.insert key value).find? key = some value := by simp [find?_insert]

theorem find?_insert_of_ne (map : NameMap α) {key other : String} (value : α) (different : other ≠ key) :
    (map.insert key value).find? other = map.find? other := by simp [find?_insert, different]

@[simp] theorem find?_empty (key : String) : (empty : NameMap α).find? key = none := rfl

/-- Insertions one after the other: the last one for a key counts. -/
theorem find?_foldl_insert (entries : List (String × α)) (map : NameMap α) (key : String) :
    (entries.foldl (fun map (name, value) => map.insert name value) map).find? key =
      ((entries.reverse.find? (·.1 == key)).map (·.2)).or (map.find? key) := by
  induction entries generalizing map with
  | nil => simp
  | cons entry rest ih =>
    rw [List.foldl_cons, ih, find?_insert, List.reverse_cons, List.find?_append]
    cases found : rest.reverse.find? (·.1 == key) with
    | some last => simp
    | none => by_cases same : key = entry.1 <;> simp [same, Ne.symm]

theorem find?_ofList (entries : List (String × α)) (key : String) :
    (ofList entries).find? key = (entries.reverse.find? (·.1 == key)).map (·.2) := by
  rw [ofList, find?_foldl_insert]
  simp

theorem isSome_find?_ofList (entries : List (String × α)) (key : String) :
    ((ofList entries).find? key).isSome = true ↔ key ∈ entries.map (·.1) := by
  rw [find?_ofList, Option.isSome_map, List.find?_isSome, List.mem_map]
  simp

theorem contains_iff_mem_keys (map : NameMap α) (key : String) :
    map.contains key = true ↔ key ∈ map.keys := by
  simp [contains, find?, keys]

theorem length_insertInto_of_new {key : String} (value : α) {entries : List (String × α)}
    (new : key ∉ entries.map (·.1)) : (insertInto key value entries).length = entries.length + 1 := by
  induction entries with
  | nil => rfl
  | cons entry rest ih =>
    obtain ⟨different, later⟩ : key ≠ entry.1 ∧ key ∉ rest.map (·.1) := by simpa using new
    rw [insertInto]
    split
    · rfl
    · rw [List.length_cons, List.length_cons, ih later]

theorem size_insert_of_new {map : NameMap α} {key : String} (new : map.find? key = none) (value : α) :
    (map.insert key value).size = map.size + 1 := by
  refine length_insertInto_of_new value fun member => ?_
  have found := (contains_iff_mem_keys map key).mpr member
  simp [contains, new] at found

theorem size_insert_le (map : NameMap α) (key : String) (value : α) :
    (map.insert key value).size ≤ map.size + 1 := by
  have grows : ∀ entries : List (String × α),
      (insertInto key value entries).length ≤ entries.length + 1 := by
    intro entries
    induction entries with
    | nil => simp [insertInto]
    | cons entry rest ih =>
      rw [insertInto]
      split
      · simp
      · split
        · simp
        · simpa using ih
  exact grows map.entries

/-! ### Order -/

theorem insertInto_of_last {key : String} (value : α) {entries : List (String × α)}
    (last : ∀ entry ∈ entries, entry.1 < key) :
    insertInto key value entries = entries ++ [(key, value)] := by
  induction entries with
  | nil => rfl
  | cons first rest ih =>
    obtain ⟨name, kept⟩ := first
    have before : name < key := last (name, kept) (by simp)
    have notBefore : ¬ key < name := fun after => String.lt_irrefl key (String.lt_trans after before)
    have different : key ≠ name := fun same => String.lt_irrefl name (same ▸ before)
    rw [insertInto, if_neg notBefore, if_neg different, ih fun entry member => last entry (by simp [member])]
    rfl

/-- A list in order is the list of entries of its table. -/
theorem ofList_of_ascending {entries : List (String × α)}
    (ascending : entries.Pairwise fun first second => first.1 < second.1) :
    ofList entries = ⟨entries, ascending⟩ := by
  suffices step : ∀ (done : NameMap α), (done.entries ++ entries).Pairwise
      (fun first second => first.1 < second.1) →
      (entries.foldl (fun map (name, value) => map.insert name value) done).entries =
        done.entries ++ entries from
    NameMap.ext (step empty (by simpa [empty] using ascending))
  clear ascending
  induction entries with
  | nil => simp
  | cons entry rest ih =>
    intro done ascending
    obtain ⟨name, value⟩ := entry
    have last : ∀ other ∈ done.entries, other.1 < name := fun other member =>
      (List.pairwise_append.mp ascending).2.2 other member (name, value) (by simp)
    have inserted : (done.insert name value).entries = done.entries ++ [(name, value)] :=
      insertInto_of_last value last
    rw [List.foldl_cons]
    dsimp only
    rw [ih _ (by simpa [inserted] using ascending), inserted]
    simp

theorem ofList_entries (map : NameMap α) : ofList map.entries = map :=
  ofList_of_ascending map.ascending

theorem nodup_keys (map : NameMap α) : map.keys.Nodup := by
  refine List.Pairwise.map _ ?_ map.ascending
  intro first second before same
  exact String.lt_irrefl second.1 (same ▸ before)

/-- The keys of a table that has just these are these without repetitions. -/
theorem keys_perm_dedup (map : NameMap α) {names : List String}
    (listed : ∀ key, (map.find? key).isSome = true ↔ key ∈ names) : map.keys.Perm names.dedup := by
  refine (List.perm_ext_iff_of_nodup map.nodup_keys names.nodup_dedup).mpr fun key => ?_
  rw [← contains_iff_mem_keys, contains, listed, List.mem_dedup]

theorem find?_eq_some_iff {map : NameMap α} {key : String} {value : α} :
    map.find? key = some value ↔ (key, value) ∈ map.entries := by
  constructor
  · intro found
    obtain ⟨⟨name, kept⟩, first, rfl⟩ := Option.map_eq_some_iff.mp found
    obtain rfl : name = key := by simpa using List.find?_some first
    exact List.mem_of_find?_eq_some first
  · intro member
    obtain ⟨before, after, split⟩ := List.append_of_mem member
    have ascending := map.ascending
    rw [split] at ascending
    have unmet : ∀ other ∈ before, ¬ (other.1 == key) = true := by
      intro other earlier same
      have lower := (List.pairwise_append.mp ascending).2.2 other earlier (key, value) (by simp)
      rw [show other.1 = key by simpa using same] at lower
      exact String.lt_irrefl key lower
    rw [find?, split, List.find?_append, List.find?_eq_none.mpr unmet]
    simp

/-- Two tables are the same if the same is found in them. -/
theorem eq_of_find? {map map' : NameMap α} (same : ∀ key, map'.find? key = map.find? key) :
    map' = map := by
  have distinct : ∀ map : NameMap α, map.entries.Nodup := fun map =>
    List.Nodup.of_map _ map.nodup_keys
  have members : map'.entries.Perm map.entries := by
    refine (List.perm_ext_iff_of_nodup (distinct map') (distinct map)).mpr fun (key, value) => ?_
    rw [← find?_eq_some_iff, ← find?_eq_some_iff, same]
  exact NameMap.ext (members.eq_of_pairwise (fun first second _ _ before after =>
    absurd (String.lt_trans before after) (String.lt_irrefl first.1)) map'.ascending map.ascending)

theorem insert_of_find? {map : NameMap α} {key : String} {value : α} (found : map.find? key = some value) :
    map.insert key value = map := by
  refine eq_of_find? fun other => ?_
  rw [find?_insert]
  split
  · rename_i same
    rw [same, found]
  · rfl

/-- A filter that keeps every key that is there changes nothing. -/
theorem filter_key_eq_self {map : NameMap α} {keeps : String → Bool}
    (all : ∀ key ∈ map.keys, keeps key = true) : (map.filter fun name _ => keeps name) = map :=
  NameMap.ext (List.filter_eq_self.mpr fun entry member => all entry.1 (List.mem_map_of_mem member))

end Scaffold.NameMap
