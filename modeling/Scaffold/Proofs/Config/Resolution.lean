import Mathlib.Data.List.Forall2
import Scaffold.Config
import Scaffold.Proofs.Path

/-!
Paths below paths, and configurations with their paths below a directory. Joining is associative, so that
two resolutions are one against both bases joined, and one against an absolute base settles all paths.
-/

namespace Scaffold

namespace Path

theorem lead_lead (directory : Path) : (Path.mk directory.lead).lead = directory.lead := by
  rcases lead_spec directory with ⟨-, lead⟩ | ⟨start, lead, -⟩
  · rw [lead]
    rfl
  · have slash : directory.lead.toList.getLast? = some '/' := by simp [lead]
    rw [Path.lead, slash]
    simp

/-- Whether a slash is missing is told by the end of a text. -/
theorem lead_append (front : String) {text : String} (nonempty : text ≠ "") :
    (Path.mk (front ++ text)).lead = front ++ (Path.mk text).lead := by
  have last : (front ++ text).toList.getLast? = text.toList.getLast? := by
    have letters : text.toList ≠ [] := by simpa using nonempty
    rw [String.toList_append, List.getLast?_append, List.getLast?_eq_some_getLast letters, Option.some_or]
  have whole : front ++ text ≠ "" := by simp [nonempty]
  rw [lead, lead, last]
  split <;> split <;> simp_all [String.append_assoc]

/-- Behind a directory and then behind a relative path in it. -/
theorem lead_join (outer : Path) {inner : Path} (relative : inner.isAbsolute = false) :
    (outer.join inner).lead = outer.lead ++ inner.lead := by
  rw [join_of_relative relative]
  by_cases empty : inner.text = ""
  · rw [(lead_eq_empty_iff inner).mpr empty, empty, String.append_empty, lead_lead]
  · exact lead_append outer.lead empty

theorem join_assoc (outer inner path : Path) :
    (outer.join inner).join path = outer.join (inner.join path) := by
  cases absolute : path.isAbsolute with
  | true =>
    rw [join_of_absolute absolute, join_of_absolute absolute, join_of_absolute absolute]
  | false =>
    cases within : inner.isAbsolute with
    | true =>
      have whole : (inner.join path).isAbsolute = true := by rw [isAbsolute_join, within, Bool.true_or]
      rw [join_of_absolute within, join_of_absolute whole]
    | false =>
      have whole : (inner.join path).isAbsolute = false := by rw [isAbsolute_join, within, absolute]; rfl
      rw [join_of_relative absolute, lead_join outer within, join_of_relative whole,
        join_of_relative absolute, String.append_assoc]

end Path

namespace Config

/-- The paths that a configuration names. -/
def paths (config : Config) : List Path :=
  config.sourceRoots ++ config.outDir :: config.templates.map (·.path)

theorem paths_resolvePaths (config : Config) (base : Path) :
    (config.resolvePaths base).paths = config.paths.map base.join := by
  simp [paths, resolvePaths]

/-- What a resolution leaves as it is: absolute paths, and all that is no path. -/
structure Kept (config resolved : Config) : Prop where
  sourceRoots : List.Forall₂ (fun before after => before.isAbsolute = true → after = before)
    config.sourceRoots resolved.sourceRoots
  outDir : config.outDir.isAbsolute = true → resolved.outDir = config.outDir
  templates : List.Forall₂ (fun before after => after.fileName = before.fileName ∧
    (before.path.isAbsolute = true → after = before)) config.templates resolved.templates
  suffix : resolved.suffix = config.suffix
  includes : resolved.includes = config.includes
  excludes : resolved.excludes = config.excludes
  validation : resolved.validation = config.validation
  format : resolved.format = config.format
  cleanOrphans : resolved.cleanOrphans = config.cleanOrphans

theorem kept_resolvePaths (config : Config) (base : Path) : Kept config (config.resolvePaths base) where
  sourceRoots := by
    refine List.forall₂_map_right_iff.mpr (List.forall₂_same.mpr fun root _ absolute => ?_)
    exact Path.join_of_absolute absolute
  outDir := Path.join_of_absolute
  templates := by
    refine List.forall₂_map_right_iff.mpr (List.forall₂_same.mpr fun template _ => ⟨rfl, ?_⟩)
    intro absolute
    rw [Path.join_of_absolute absolute]
  suffix := rfl
  includes := rfl
  excludes := rfl
  validation := rfl
  format := rfl
  cleanOrphans := rfl

theorem resolvePaths_join (config : Config) (inner outer : Path) :
    (config.resolvePaths inner).resolvePaths outer = config.resolvePaths (outer.join inner) := by
  have below : outer.join ∘ inner.join = (outer.join inner).join :=
    funext fun path => (Path.join_assoc outer inner path).symm
  simp only [resolvePaths, List.map_map, below, Path.join_assoc, Function.comp_def]

/-- Resolutions compose as their bases do. Against an absolute base the paths become absolute, which a
second time does not change, and no resolution touches what is absolute or no path. -/
theorem resolvePaths_compose (config : Config) (inner outer : Path) :
    (config.resolvePaths inner).resolvePaths outer = config.resolvePaths (outer.join inner) ∧
    (inner.isAbsolute = true →
      (config.resolvePaths inner).resolvePaths inner = config.resolvePaths inner ∧
      ∀ path ∈ (config.resolvePaths inner).paths, path.isAbsolute = true) ∧
    Kept config (config.resolvePaths inner) := by
  refine ⟨resolvePaths_join config inner outer, fun absolute => ⟨?_, fun path member => ?_⟩,
    kept_resolvePaths config inner⟩
  · rw [resolvePaths_join, Path.join_of_absolute absolute]
  · rw [paths_resolvePaths] at member
    obtain ⟨given, -, rfl⟩ := List.mem_map.mp member
    rw [Path.isAbsolute_join, absolute, Bool.true_or]

/-- A package's settings, brought below its directory: the roots `src` and `/shared`, which is absolute. -/
theorem resolvePaths_compose_package :
    let config : Config := { Config.default with
      sourceRoots := [⟨"src"⟩, ⟨"/shared"⟩, ⟨""⟩]
      templates := [⟨⟨"t/unit.tera"⟩, "\x7b\x7b feature \x7d\x7d.rs"⟩] }
    let base : Path := ⟨"/work/orders"⟩
    base.isAbsolute = true ∧
    (config.resolvePaths ⟨"orders"⟩).resolvePaths ⟨"/work/"⟩ = config.resolvePaths base ∧
    (config.resolvePaths base).resolvePaths base = config.resolvePaths base ∧
    (config.resolvePaths base).paths = [⟨"/work/orders/src"⟩, ⟨"/shared"⟩, ⟨"/work/orders/"⟩,
      ⟨"/work/orders/generated"⟩, ⟨"/work/orders/t/unit.tera"⟩] := by
  intro config base
  have absolute : base.isAbsolute = true := by decide
  exact ⟨absolute, (resolvePaths_compose config ⟨"orders"⟩ ⟨"/work/"⟩).1,
    ((resolvePaths_compose config base base).2.1 absolute).1, by decide⟩

end Config

end Scaffold
