import Mathlib.Algebra.BigOperators.Group.List.Lemmas
import Mathlib.Algebra.GroupWithZero.Nat
import Mathlib.Data.List.Induction
import Scaffold.Proofs.NameMap

/-! Tables of values that are gathered by their keys. Every value that is listed with a key is in the
table once, so the table is as long as there are keys, and what it holds as long as the list. -/

namespace Scaffold.NameMap

variable {α : Type}

/-- The values of each key, in the order in which they are listed. -/
def gather (entries : List (String × α)) : NameMap (List α) :=
  entries.foldl (fun map (name, value) => map.alter name fun before => before.getD [] ++ [value]) empty

/-- The values listed with a key. -/
def valuesOf (entries : List (String × α)) (key : String) : List α :=
  (entries.filter (·.1 == key)).map (·.2)

theorem find?_gather (entries : List (String × α)) (key : String) :
    (gather entries).find? key =
      if valuesOf entries key = [] then none else some (valuesOf entries key) := by
  induction entries using List.reverseRecOn with
  | nil => rfl
  | append_singleton entries entry ih =>
    obtain ⟨name, value⟩ := entry
    have last : gather (entries ++ [(name, value)]) =
        (gather entries).alter name fun before => before.getD [] ++ [value] := by
      rw [gather, List.foldl_append]
      rfl
    have values : valuesOf (entries ++ [(name, value)]) key =
        valuesOf entries key ++ if name = key then [value] else [] := by
      by_cases same : name = key <;> simp [valuesOf, same]
    rw [last, alter, find?_insert, values]
    by_cases same : key = name
    · subst same
      rw [ih]
      by_cases none : valuesOf entries key = [] <;> simp [none]
    · simp [same, Ne.symm same, ih]

theorem valuesOf_eq_nil_iff {entries : List (String × α)} {key : String} :
    valuesOf entries key = [] ↔ key ∉ entries.map (·.1) := by
  rw [valuesOf, List.map_eq_nil_iff, List.filter_eq_nil_iff, List.mem_map, not_exists]
  simp

theorem find?_gather_eq_some_iff {entries : List (String × α)} {key : String} {values : List α} :
    (gather entries).find? key = some values ↔ values = valuesOf entries key ∧ values ≠ [] := by
  rw [find?_gather]
  split
  · rename_i none
    simp only [none, reduceCtorEq, false_iff, not_and, not_not]
    exact id
  · rename_i some
    rw [Option.some.injEq]
    exact ⟨fun same => ⟨same.symm, same ▸ some⟩, fun listed => listed.1.symm⟩

theorem keys_gather (entries : List (String × α)) :
    (gather entries).keys.Perm (entries.map (·.1)).dedup := by
  refine (gather entries).keys_perm_dedup fun key => ?_
  rw [find?_gather]
  split
  · rename_i none
    simpa using valuesOf_eq_nil_iff.mp none
  · rename_i some
    simpa using mt valuesOf_eq_nil_iff.mpr some

theorem mem_gather {entries : List (String × α)} {entry : String × List α}
    (member : entry ∈ (gather entries).entries) :
    entry.2 = valuesOf entries entry.1 ∧ entry.2 ≠ [] :=
  find?_gather_eq_some_iff.mp (find?_eq_some_iff.mpr member)

theorem sum_length_gather (entries : List (String × α)) :
    ((gather entries).values.map List.length).sum = entries.length := by
  rw [← List.length_map (·.1), ← List.sum_map_count_dedup_eq_length (entries.map (·.1)),
    ← ((keys_gather entries).map _).sum_eq, values, keys, List.map_map, List.map_map]
  refine congrArg List.sum (List.map_congr_left fun entry member => ?_)
  rw [Function.comp_apply, (mem_gather member).1, Function.comp_apply, valuesOf, List.length_map,
    ← List.countP_eq_length_filter, List.count, List.countP_map]
  rfl

/-- Lists that are not empty count one each, and what is over in those that have several. -/
theorem sum_length_eq {lists : List (List α)} (some : ∀ list ∈ lists, list ≠ []) :
    (lists.map List.length).sum =
      lists.length + ((lists.filter fun list => list.length > 1).map fun list => list.length - 1).sum := by
  induction lists with
  | nil => rfl
  | cons first rest ih =>
    obtain ⟨here, later⟩ := List.forall_mem_cons.mp some
    have one := List.length_pos_iff.mpr here
    rw [List.map_cons, List.sum_cons, List.length_cons, ih later, List.filter_cons]
    split
    · rw [List.map_cons, List.sum_cons]
      omega
    · rename_i single
      have single : ¬ first.length > 1 := by simpa using single
      omega

/-- Whatever is listed is either the one that its key is there for or is over. -/
theorem length_eq_of_gather (entries : List (String × α)) :
    entries.length = (gather entries).size +
      (((gather entries).values.filter fun list => list.length > 1).map fun list => list.length - 1).sum := by
  have some : ∀ list ∈ (gather entries).values, list ≠ [] := by
    intro list member
    obtain ⟨entry, listed, rfl⟩ := List.mem_map.mp member
    exact (mem_gather listed).2
  have size : (gather entries).values.length = (gather entries).size := by rw [values, List.length_map, size]
  rw [← sum_length_gather, sum_length_eq some, size]

end Scaffold.NameMap
