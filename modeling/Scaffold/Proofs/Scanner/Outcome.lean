import Scaffold.Proofs.Scanner

/-! The outcome of a scan from what was found in each file: the first failure that is no file's own
fault, or else the declarations in order, the counts and the skipped files. -/

namespace Scaffold.Scanner

open Path

namespace Outcome

/-- What came of a file: its declarations and whether they were known already, or why there are none. -/
abbrev Result := Except Fault (List Declaration × Bool)

/-- The failure that ends a scan. -/
def fatal? {α : Type} : Except Fault α → Option Fault
  | .ok _ => none
  | .error fault => if fault.isRecoverable then none else some fault

/-- The failure for which a file is skipped. -/
def skipped? {α : Type} : Except Fault α → Option Fault
  | .ok _ => none
  | .error fault => if fault.isRecoverable then some fault else none

def declarationsOf : Result → List Declaration
  | .ok (declarations, _) => declarations
  | .error _ => []

def isReused : Result → Bool
  | .ok (_, reused) => reused
  | .error _ => false

def isParsed : Result → Bool
  | .ok (_, reused) => !reused
  | .error _ => false

@[simp] theorem fatal?_map {α β : Type} (f : α → β) (result : Except Fault α) :
    fatal? (result.map f) = fatal? result := by cases result <;> rfl

@[simp] theorem skipped?_map {α β : Type} (f : α → β) (result : Except Fault α) :
    skipped? (result.map f) = skipped? result := by cases result <;> rfl

/-- An outcome with what came of some more files, none of which ended the scan. -/
def extended (start : ScanOutcome) (files : List Path) (result : Path → Result) : ScanOutcome where
  files := start.files
  declarations := start.declarations ++ files.flatMap fun path => declarationsOf (result path)
  parsed := start.parsed + files.countP fun path => isParsed (result path)
  reused := start.reused + files.countP fun path => isReused (result path)
  skipped := start.skipped ++ files.filterMap fun path =>
    (skipped? (result path)).map fun fault => (path, fault)

theorem added_eq (start : ScanOutcome) (path : Path) (result : Path → Result) :
    added start path (result path) = match fatal? (result path) with
      | some fault => .error fault
      | none => .ok (extended start [path] result) := by
  unfold extended
  cases found : result path with
  | ok known =>
    obtain ⟨declarations, reused⟩ := known
    cases reused <;>
      simp [added, fatal?, skipped?, declarationsOf, isReused, isParsed, found]
  | error fault =>
    cases recoverable : fault.isRecoverable <;>
      simp [added, fatal?, skipped?, declarationsOf, isReused, isParsed, found, recoverable]

theorem extended_cons (start : ScanOutcome) (path : Path) (rest : List Path) (result : Path → Result) :
    extended (extended start [path] result) rest result = extended start (path :: rest) result := by
  simp only [extended, List.flatMap_cons, List.flatMap_nil, List.countP_cons, List.countP_nil,
    List.filterMap_cons, List.filterMap_nil, List.append_assoc, List.append_nil, ScanOutcome.mk.injEq]
  refine ⟨trivial, trivial, by omega, by omega, ?_⟩
  cases skipped? (result path) <;> simp

theorem collected_eq (start : ScanOutcome) (files : List Path) (result : Path → Result) :
    collected start (files.map fun path => (path, result path)) =
      match files.findSome? fun path => fatal? (result path) with
      | some fault => .error fault
      | none => .ok (extended start files result) := by
  induction files generalizing start with
  | nil =>
    simp [collected, extended]
    rfl
  | cons path rest ih =>
    rw [List.map_cons, collected_cons, added_eq, List.findSome?_cons]
    cases fatal? (result path) with
    | some fault => rfl
    | none =>
      refine (ih (extended start [path] result)).trans ?_
      rw [extended_cons]

theorem declarationsOf_congr {result result' : Result}
    (alike : result'.map Prod.fst = result.map Prod.fst) :
    declarationsOf result' = declarationsOf result := by
  have read : ∀ result : Result, declarationsOf result = ((result.map Prod.fst).toOption).getD [] := by
    intro result
    cases result <;> rfl
  rw [read, read, alike]

/-- The declarations that are collected, or the failure to collect them, depend on the declarations of
each file only. -/
theorem declarations_collected_congr {files : List Path} {result result' : Path → Result}
    (alike : ∀ path ∈ files, (result' path).map Prod.fst = (result path).map Prod.fst)
    (start : ScanOutcome) :
    (collected start (files.map fun path => (path, result' path))).map ScanOutcome.declarations =
      (collected start (files.map fun path => (path, result path))).map ScanOutcome.declarations := by
  have fatal : files.findSome? (fun path => fatal? (result' path)) =
      files.findSome? fun path => fatal? (result path) := by
    have listed : ∀ result : Path → Result, (files.findSome? fun path => fatal? (result path)) =
        (files.map fun path => fatal? (result path)).findSome? id := by
      intro result
      rw [List.findSome?_map, Function.id_comp]
    rw [listed, listed]
    refine congrArg (List.findSome? id) (List.map_congr_left fun path member => ?_)
    rw [← fatal?_map Prod.fst, alike path member, fatal?_map]
  rw [collected_eq, collected_eq, fatal]
  cases files.findSome? fun path => fatal? (result path) with
  | some fault => rfl
  | none =>
    have found : (files.flatMap fun path => declarationsOf (result' path)) =
        files.flatMap fun path => declarationsOf (result path) :=
      List.flatMap_congr fun path member => declarationsOf_congr (alike path member)
    simp only [Except.map, extended, found]

theorem one_of_each {result : Result} (harmless : fatal? result = none) :
    (if isParsed result then 1 else 0) + (if isReused result then 1 else 0) +
      (if (skipped? result).isSome then 1 else 0) = 1 := by
  cases result with
  | ok known => cases reused : known.2 <;> simp [isParsed, isReused, skipped?, reused]
  | error fault =>
    cases recoverable : fault.isRecoverable with
    | false => simp [fatal?, recoverable] at harmless
    | true => simp [isParsed, isReused, skipped?, recoverable]

/-- Every file that does not end a scan is parsed, reused or skipped. -/
theorem length_extended {files : List Path} {result : Path → Result}
    (none_fatal : files.findSome? (fun path => fatal? (result path)) = none) :
    let outcome := extended (start files) files result
    outcome.parsed + outcome.reused + outcome.skipped.length = outcome.files.length := by
  suffices counted : files.countP (fun path => isParsed (result path)) +
      files.countP (fun path => isReused (result path)) +
      (files.filterMap fun path => (skipped? (result path)).map fun fault => (path, fault)).length =
      files.length by
    simpa [extended, start] using counted
  induction files with
  | nil => rfl
  | cons path rest ih =>
    rw [List.findSome?_cons] at none_fatal
    have harmless : fatal? (result path) = none := by
      cases ended : fatal? (result path) with
      | none => rfl
      | some fault => simp [ended] at none_fatal
    have counted := ih (by simpa [harmless] using none_fatal)
    have once := one_of_each harmless
    rw [List.countP_cons, List.countP_cons, List.filterMap_cons, List.length_cons]
    cases skipped : skipped? (result path) with
    | none =>
      simp only [skipped, Option.isSome_none, Bool.false_eq_true, if_false] at once
      simp only [Option.map_none]
      omega
    | some fault =>
      simp only [skipped, Option.isSome_some, if_true] at once
      simp only [Option.map_some, List.length_cons]
      omega

end Outcome

/-- A scan collects what it finds in each of the files by itself. -/
theorem scan_result (scanner : Scanner) (disk : Disk) :
    ((scan disk).perform scanner).1 = (scanner.discover disk).bind fun files =>
      Outcome.collected (Outcome.start files) (files.map fun path => (path, scanner.tracked disk path)) := by
  have ends := scan_ends scanner disk
  cases found : scanner.discover disk with
  | error fault =>
    rw [found] at ends
    obtain ⟨reports, performed⟩ := ends.perform
    rw [performed]
    rfl
  | ok files =>
    have distinct := (pairwise_discover found).imp Before.not_same
    rw [found] at ends
    dsimp only at ends
    rw [results_eq_map disk scanner distinct] at ends
    simp only [Except.bind]
    cases made : Outcome.collected (Outcome.start files)
        (files.map fun path => (path, scanner.tracked disk path)) with
    | error fault =>
      rw [made] at ends
      obtain ⟨reports, performed⟩ := ends.perform
      rw [performed]
    | ok outcome =>
      rw [made] at ends
      obtain ⟨reports, performed⟩ := ends.perform
      rw [performed]

end Scaffold.Scanner
