/-! Tables with texts as keys, in the order of their characters. Each key occurs once. -/

namespace Scaffold

/-- Entries with keys that ascend. -/
@[ext]
structure NameMap (α : Type) where
  entries : List (String × α)
  ascending : entries.Pairwise fun first second => first.1 < second.1
  deriving Repr, DecidableEq

namespace NameMap

variable {α : Type}

def empty : NameMap α := ⟨[], .nil⟩

def keys (map : NameMap α) : List String := map.entries.map (·.1)

def values (map : NameMap α) : List α := map.entries.map (·.2)

def size (map : NameMap α) : Nat := map.entries.length

def find? (map : NameMap α) (key : String) : Option α :=
  (map.entries.find? (·.1 == key)).map (·.2)

def contains (map : NameMap α) (key : String) : Bool := (map.find? key).isSome

def insertInto (key : String) (value : α) : List (String × α) → List (String × α)
  | [] => [(key, value)]
  | (other, kept) :: rest =>
    if key < other then (key, value) :: (other, kept) :: rest
    else if key = other then (key, value) :: rest
    else (other, kept) :: insertInto key value rest

theorem mem_insertInto {key : String} {value : α} {entries : List (String × α)} {entry : String × α}
    (member : entry ∈ insertInto key value entries) : entry = (key, value) ∨ entry ∈ entries := by
  induction entries with
  | nil => simpa [insertInto] using member
  | cons first rest ih =>
    obtain ⟨name, kept⟩ := first
    rw [insertInto] at member
    split at member
    · simpa using member
    · split at member
      · rcases List.mem_cons.mp member with same | later
        · exact .inl same
        · exact .inr (List.mem_cons_of_mem _ later)
      · rcases List.mem_cons.mp member with same | later
        · exact .inr (by simp [same])
        · exact (ih later).imp id (List.mem_cons_of_mem _)

theorem pairwise_insertInto (key : String) (value : α) {entries : List (String × α)}
    (ascending : entries.Pairwise fun first second => first.1 < second.1) :
    (insertInto key value entries).Pairwise fun first second => first.1 < second.1 := by
  induction entries with
  | nil => simp [insertInto]
  | cons first rest ih =>
    obtain ⟨name, kept⟩ := first
    obtain ⟨above, rest⟩ := List.pairwise_cons.mp ascending
    rw [insertInto]
    split
    · rename_i before
      refine List.pairwise_cons.mpr ⟨?_, ascending⟩
      intro entry member
      rcases List.mem_cons.mp member with rfl | later
      · exact before
      · exact String.lt_trans before (above entry later)
    · split
      · rename_i same
        subst same
        exact List.pairwise_cons.mpr ⟨above, rest⟩
      · rename_i notBefore different
        have after : name < key := Decidable.byContradiction fun notAfter =>
          different (String.le_antisymm (String.not_lt.mp notAfter) (String.not_lt.mp notBefore))
        refine List.pairwise_cons.mpr ⟨?_, ih rest⟩
        intro entry member
        rcases mem_insertInto member with rfl | old
        · exact after
        · exact above entry old

/-- The table with a value for a key; one that the key had is replaced. -/
def insert (map : NameMap α) (key : String) (value : α) : NameMap α :=
  ⟨insertInto key value map.entries, pairwise_insertInto key value map.ascending⟩

/-- The table with the value of a key changed, or first set from nothing. -/
def alter (map : NameMap α) (key : String) (f : Option α → α) : NameMap α :=
  map.insert key (f (map.find? key))

def filter (map : NameMap α) (keeps : String → α → Bool) : NameMap α :=
  ⟨map.entries.filter fun (key, value) => keeps key value, map.ascending.filter _⟩

def ofList (entries : List (String × α)) : NameMap α :=
  entries.foldl (fun map (key, value) => map.insert key value) empty

end NameMap

end Scaffold
