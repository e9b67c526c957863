import Scaffold.Path

/-! The order of paths: total, and equal only for paths of the same components. -/

namespace Scaffold.Path

namespace Component

/-- The text by which names are ordered. -/
def label : Component → String
  | name text => text
  | root | current | parent => ""

theorem compare_eq_compareLex :
    Component.compare = compareLex (compareOn rank) (compareOn label) := by
  funext a b
  cases a <;> cases b <;> rfl

instance : Std.TransCmp Component.compare := by
  rw [compare_eq_compareLex]
  infer_instance

instance : Std.LawfulEqCmp Component.compare := by
  constructor
  intro a b same
  rw [compare_eq_compareLex, compareLex_eq_eq, compareOn, compareOn] at same
  obtain ⟨ranks, labels⟩ := same
  have ranks := Std.LawfulEqCmp.eq_of_compare ranks
  have labels := Std.LawfulEqCmp.eq_of_compare labels
  cases a <;> cases b <;> simp_all [rank, label]

end Component

theorem compareComponents_eq_compareLex :
    compareComponents = List.compareLex Component.compare := by
  funext first second
  induction first generalizing second with
  | nil => cases second <;> rfl
  | cons a rest ih =>
    cases second with
    | nil => rfl
    | cons b rest' =>
      rw [compareComponents, List.compareLex, ih]
      cases a.compare b <;> rfl

instance : Std.TransCmp compareComponents := by
  rw [compareComponents_eq_compareLex]
  infer_instance

instance : Std.LawfulEqCmp compareComponents := by
  rw [compareComponents_eq_compareLex]
  infer_instance

instance : Std.TransCmp Path.compare where
  eq_swap {p q} := @Std.OrientedCmp.eq_swap _ compareComponents _ p.components q.components
  isLE_trans {p q r} :=
    @Std.TransCmp.isLE_trans _ compareComponents _ p.components q.components r.components

theorem compare_eq_eq_iff {p q : Path} : compare p q = .eq ↔ Same p q := by
  rw [Same, compare]
  exact Std.LawfulEqCmp.compare_eq_iff_eq

/-- One path comes strictly before another. -/
def Before (p q : Path) : Prop := compare p q = .lt

theorem Before.trans {p q r : Path} (first : Before p q) (second : Before q r) : Before p r :=
  Std.TransCmp.lt_trans first second

theorem Before.not_same {p q : Path} (before : Before p q) : ¬ Same p q := by
  intro same
  have equal := compare_eq_eq_iff.mpr same
  rw [Before] at before
  rw [before] at equal
  contradiction

theorem precedes_iff {p q : Path} : precedes p q = true ↔ Before p q ∨ Same p q := by
  rw [precedes, Before, ← compare_eq_eq_iff]
  cases compare p q <;> simp

theorem precedes_trans (p q r : Path) (first : precedes p q = true) (second : precedes q r = true) :
    precedes p r = true := by
  have isLE : ∀ {p q : Path}, precedes p q = true ↔ (compare p q).isLE = true := by
    intro p q
    rw [precedes]
    cases compare p q <;> simp
  rw [isLE] at first second ⊢
  exact Std.TransCmp.isLE_trans first second

theorem Before.of_precedes {p q r : Path} (before : Before p q) (next : precedes q r = true) :
    Before p r := by
  rcases precedes_iff.mp next with later | same
  · exact before.trans later
  · rw [Before, compare, ← same]
    exact before

theorem precedes_total (p q : Path) : (precedes p q || precedes q p) = true := by
  have swapped : compare q p = (compare p q).swap := Std.OrientedCmp.eq_swap
  rw [precedes, precedes, swapped]
  cases compare p q <;> simp

end Scaffold.Path
