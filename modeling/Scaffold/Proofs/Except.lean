import Mathlib.Data.List.Forall2

/-! Successful results, of one action and of an action on each of some values. -/

namespace Scaffold.Except

theorem bind_eq_ok {ε α β : Type} {result : Except ε α} {next : α → Except ε β} {value : β} :
    (result >>= next) = .ok value ↔ ∃ middle, result = .ok middle ∧ next middle = .ok value := by
  cases result with
  | error error => simp [bind, Except.bind]
  | ok middle => simp [bind, Except.bind]

theorem toOption_eq_some_iff {ε α : Type} {result : Except ε α} {value : α} :
    result.toOption = some value ↔ result = .ok value := by
  cases result <;> simp [Except.toOption]

theorem forM_eq_ok {ε α : Type} {check : α → Except ε Unit} {values : List α} :
    values.forM check = .ok () ↔ ∀ value ∈ values, check value = .ok () := by
  induction values with
  | nil => simp [pure, Except.pure]
  | cons value rest ih =>
    rw [List.forM_eq_forM, List.forM_cons, bind_eq_ok, ← List.forM_eq_forM, List.forall_mem_cons,
      ← ih]
    exact ⟨fun ⟨(), first, later⟩ => ⟨first, later⟩, fun ⟨first, later⟩ => ⟨(), first, later⟩⟩

theorem forall₂_of_mapM {ε α β : Type} {f : α → Except ε β} {values : List α} {found : List β}
    (done : values.mapM f = .ok found) :
    List.Forall₂ (fun value result => f value = .ok result) values found := by
  induction values generalizing found with
  | nil =>
    obtain rfl := Except.ok.inj done
    exact .nil
  | cons value rest ih =>
    rw [List.mapM_cons, bind_eq_ok] at done
    obtain ⟨first, here, done⟩ := done
    rw [bind_eq_ok] at done
    obtain ⟨later, there, same⟩ := done
    obtain rfl := Except.ok.inj same
    exact .cons here (ih there)

theorem mapM_eq_ok {ε α β : Type} {f : α → Except ε β} {g : α → β} {values : List α}
    (each : ∀ value ∈ values, f value = .ok (g value)) : values.mapM f = .ok (values.map g) := by
  induction values with
  | nil => rfl
  | cons value rest ih =>
    rw [List.mapM_cons, each value (by simp), ih fun other member => each other (by simp [member])]
    rfl

theorem exists_mapM {ε α β : Type} {f : α → Except ε β} {values : List α}
    (each : ∀ value ∈ values, ∃ result, f value = .ok result) : ∃ found, values.mapM f = .ok found := by
  induction values with
  | nil => exact ⟨[], rfl⟩
  | cons value rest ih =>
    obtain ⟨result, first⟩ := each value (by simp)
    obtain ⟨found, later⟩ := ih fun other member => each other (by simp [member])
    exact ⟨result :: found, by rw [List.mapM_cons, first, later]; rfl⟩

theorem exists_of_mapM_error {ε α β : Type} {f : α → Except ε β} {values : List α} {error : ε}
    (failed : values.mapM f = .error error) : ∃ value ∈ values, f value = .error error := by
  induction values with
  | nil => contradiction
  | cons value rest ih =>
    rw [List.mapM_cons] at failed
    cases first : f value with
    | error refused =>
      rw [first] at failed
      exact ⟨value, by simp, by rw [first, Except.error.inj failed]⟩
    | ok result =>
      rw [first] at failed
      cases others : rest.mapM f with
      | error refused =>
        rw [others] at failed
        obtain ⟨other, member, later⟩ := ih (others.trans failed)
        exact ⟨other, by simp [member], later⟩
      | ok results =>
        rw [others] at failed
        contradiction

theorem mapM_spec {ε α β : Type} {f : α → Except ε β} {values : List α} {found : List β}
    (done : values.mapM f = .ok found) :
    (∀ value ∈ values, ∃ result ∈ found, f value = .ok result) ∧
      ∀ result ∈ found, ∃ value ∈ values, f value = .ok result := by
  have pairs := forall₂_of_mapM done
  clear done
  induction pairs with
  | nil => simp
  | cons first _ ih =>
    obtain ⟨forward, backward⟩ := ih
    constructor
    · refine List.forall_mem_cons.mpr ⟨⟨_, List.mem_cons_self, first⟩, fun value member => ?_⟩
      obtain ⟨result, listed, same⟩ := forward value member
      exact ⟨result, List.mem_cons_of_mem _ listed, same⟩
    · refine List.forall_mem_cons.mpr ⟨⟨_, List.mem_cons_self, first⟩, fun result member => ?_⟩
      obtain ⟨value, listed, same⟩ := backward result member
      exact ⟨value, List.mem_cons_of_mem _ listed, same⟩

theorem mapM_congr {ε α β : Type} {f g : α → Except ε β} {values : List α}
    (same : ∀ value ∈ values, f value = g value) : values.mapM f = values.mapM g := by
  induction values with
  | nil => rfl
  | cons value rest ih =>
    rw [List.mapM_cons, List.mapM_cons, same value (by simp), ih fun other member =>
      same other (by simp [member])]

/-- Where all failures are of one kind, a failure is of that kind. -/
theorem mapM_eq_error {ε α β : Type} {f : α → Except ε β} {values : List α} {error : ε}
    (failed : ∃ value ∈ values, f value = .error error)
    (only : ∀ value ∈ values, ∀ other, f value = .error other → other = error) :
    values.mapM f = .error error := by
  obtain ⟨value, member, stopped⟩ := failed
  cases done : values.mapM f with
  | error other =>
    obtain ⟨value', member', stopped'⟩ := exists_of_mapM_error done
    rw [only value' member' other stopped']
  | ok found =>
    obtain ⟨result, -, same⟩ := (mapM_spec done).1 value member
    exact absurd (stopped.symm.trans same) (by simp)

end Scaffold.Except
