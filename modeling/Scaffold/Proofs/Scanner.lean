import Scaffold.Proofs.Disk
import Scaffold.Proofs.Path.Order
import Scaffold.Proofs.Task
import Scaffold.Scanner

/-! What a scan finds, file by file. What is found in one file does not depend on the others, and a
second scan of the same files finds the same. -/

namespace Scaffold.Scanner

open Path

/-! ### Discovery -/

theorem mem_of_mem_withoutRepeats {path : Path} {paths : List Path}
    (member : path ∈ withoutRepeats paths) : path ∈ paths := by
  fun_induction withoutRepeats paths with
  | case1 first second rest same ih =>
    rcases List.mem_cons.mp (ih member) with rfl | later
    · simp
    · simp [later]
  | case2 first second rest different ih =>
    rcases List.mem_cons.mp member with rfl | later
    · simp
    · exact List.mem_cons_of_mem _ (ih later)
  | case3 paths short => exact member

/-- In sorted paths the first one comes before all others if it comes before the next one. -/
theorem before_of_sorted {first second : Path} {rest : List Path}
    (sorted : (first :: second :: rest).Pairwise fun p q => precedes p q = true)
    (different : ¬ Same first second) : ∀ other ∈ second :: rest, Before first other := by
  obtain ⟨above, sorted⟩ := List.pairwise_cons.mp sorted
  have before : Before first second :=
    (precedes_iff.mp (above second (by simp))).resolve_right different
  intro other member
  rcases List.mem_cons.mp member with rfl | later
  · exact before
  · exact before.of_precedes ((List.pairwise_cons.mp sorted).1 other later)

theorem pairwise_withoutRepeats {paths : List Path}
    (sorted : paths.Pairwise fun p q => precedes p q = true) :
    (withoutRepeats paths).Pairwise Before := by
  fun_induction withoutRepeats paths with
  | case1 first second rest same ih =>
    exact ih (sorted.sublist ((List.sublist_cons_self second rest).cons_cons first))
  | case2 first second rest different ih =>
    refine List.pairwise_cons.mpr ⟨fun other member => ?_, ih (List.pairwise_cons.mp sorted).2⟩
    exact before_of_sorted sorted different other (mem_of_mem_withoutRepeats member)
  | case3 paths short =>
    match paths, short with
    | [], _ => exact List.Pairwise.nil
    | [path], _ => simp
    | first :: second :: rest, short => exact absurd rfl (short first second rest)

/-- The files that are found ascend, so that no two of them are the same. -/
theorem pairwise_discover {scanner : Scanner} {disk : Disk} {files : List Path}
    (found : scanner.discover disk = .ok files) : files.Pairwise Before := by
  rw [discover, Except.bind_eq_ok] at found
  obtain ⟨roots, -, made⟩ := found
  obtain rfl := Except.ok.inj made
  exact pairwise_withoutRepeats (List.pairwise_mergeSort precedes_trans precedes_total _)

/-- The first of some paths that is the same as a given one. -/
def firstLike? (path : Path) (paths : List Path) : Option Path :=
  paths.find? fun other => decide (Same path other)

theorem firstLike?_cons (path first : Path) (rest : List Path) :
    firstLike? path (first :: rest) = if Same path first then some first else firstLike? path rest := by
  rw [firstLike?, List.find?_cons]
  by_cases here : Same path first
  · rw [decide_eq_true here, if_pos here]
  · rw [decide_eq_false here, if_neg here, firstLike?]

/-- A path is the first of those like it where it is in front, or where none like it is in front. -/
theorem firstLike?_cons_eq_self_iff {path first : Path} {rest : List Path} :
    firstLike? path (first :: rest) = some path ↔
      path = first ∨ ¬ Same path first ∧ firstLike? path rest = some path := by
  rw [firstLike?_cons]
  by_cases here : Same path first
  · simp [here, eq_comm]
  · have other : path ≠ first := by
      rintro rfl
      exact here rfl
    simp [here, other]

theorem firstLike?_congr_same {path other : Path} (same : Same path other) {paths : List Path} :
    firstLike? other paths = firstLike? path paths := by
  have alike : (fun third => decide (Same other third)) = fun third => decide (Same path third) :=
    funext fun third => decide_eq_decide.mpr ⟨same.trans, same.symm.trans⟩
  rw [firstLike?, firstLike?, alike]

theorem exists_firstLike? {path : Path} {paths : List Path} (member : path ∈ paths) :
    ∃ first, firstLike? path paths = some first ∧ Same path first := by
  cases found : firstLike? path paths with
  | none => exact absurd (List.find?_eq_none.mp found path member) (by simp [Same])
  | some first => exact ⟨first, rfl, by simpa using List.find?_some found⟩

/-- Of the same files in two orders the same one is found, if no two of them are the same. -/
theorem firstLike?_congr_members {path : Path} {paths paths' : List Path}
    (members : ∀ other, other ∈ paths' ↔ other ∈ paths)
    (unique : ∀ first ∈ paths, ∀ second ∈ paths, Same first second → first = second) :
    firstLike? path paths' = firstLike? path paths := by
  have read : ∀ {paths : List Path} {first}, firstLike? path paths = some first →
      first ∈ paths ∧ Same path first := fun found =>
    ⟨List.mem_of_find?_eq_some found, by simpa using List.find?_some found⟩
  cases found : firstLike? path paths with
  | none =>
    refine List.find?_eq_none.mpr fun other member => ?_
    exact List.find?_eq_none.mp found other ((members other).mp member)
  | some first =>
    obtain ⟨listed, same⟩ := read found
    obtain ⟨second, found', -⟩ := exists_firstLike? ((members first).mpr listed)
    rw [firstLike?_congr_same same] at found'
    obtain ⟨listed', same'⟩ := read found'
    rw [found', unique second ((members second).mp listed') first listed (same'.symm.trans same)]

theorem firstLike?_flatMap_congr {α : Type} {path : Path} {values : List α} {f g : α → List Path}
    (same : ∀ value ∈ values, firstLike? path (f value) = firstLike? path (g value)) :
    firstLike? path (values.flatMap f) = firstLike? path (values.flatMap g) := by
  induction values with
  | nil => rfl
  | cons value rest ih =>
    have here := same value (by simp)
    have later := ih fun other member => same other (by simp [member])
    unfold firstLike? at here later ⊢
    rw [List.flatMap_cons, List.flatMap_cons, List.find?_append, List.find?_append, here, later]

/-- Sorting leaves the first of the same paths the first of them. -/
theorem firstLike?_mergeSort (path : Path) (paths : List Path) :
    firstLike? path (paths.mergeSort precedes) = firstLike? path paths := by
  have alike : (paths.filter fun other => decide (Same path other)).Pairwise
      fun p q => precedes p q = true := by
    refine List.pairwise_of_forall_mem_list fun p first q second => precedes_iff.mpr (.inr ?_)
    have first : Same path p := by simpa using (List.mem_filter.mp first).2
    have second : Same path q := by simpa using (List.mem_filter.mp second).2
    exact first.symm.trans second
  -- The sort is stable, so it keeps the row of all that are the same as the path.
  have kept := List.sublist_mergeSort precedes_trans precedes_total alike List.filter_sublist
  have sorted := kept.filter fun other => decide (Same path other)
  rw [List.filter_filter] at sorted
  simp only [Bool.and_self] at sorted
  have lengths := ((List.mergeSort_perm paths precedes).filter
    fun other => decide (Same path other)).length_eq
  rw [firstLike?, firstLike?, ← List.head?_filter, ← List.head?_filter,
    ← sorted.eq_of_length lengths.symm]

/-- Of the paths that are the same, the first one stays. -/
theorem mem_withoutRepeats_iff {path : Path} {paths : List Path}
    (sorted : paths.Pairwise fun p q => precedes p q = true) :
    path ∈ withoutRepeats paths ↔ firstLike? path paths = some path := by
  fun_induction withoutRepeats paths with
  | case1 first second rest same ih =>
    rw [ih (sorted.sublist ((List.sublist_cons_self second rest).cons_cons first))]
    simp only [firstLike?_cons]
    by_cases here : Same path first
    · rw [if_pos here, if_pos here]
    · have there : ¬ Same path second := fun there => here (there.trans same.symm)
      rw [if_neg here, if_neg here, if_neg there]
  | case2 first second rest different ih =>
    rw [List.mem_cons, ih (List.pairwise_cons.mp sorted).2, @firstLike?_cons_eq_self_iff path first]
    refine or_congr_right (and_iff_right_of_imp fun found same => ?_).symm
    have later := before_of_sorted sorted different path (List.mem_of_find?_eq_some found)
    exact later.not_same same.symm
  | case3 paths short =>
    match paths, short with
    | [], _ => simp [firstLike?]
    | [only], _ =>
      rw [List.mem_singleton, firstLike?_cons_eq_self_iff]
      simp [firstLike?]
    | first :: second :: rest, short => exact absurd rfl (short first second rest)

theorem mem_sorted_iff {path : Path} {paths : List Path} :
    path ∈ withoutRepeats (paths.mergeSort precedes) ↔ firstLike? path paths = some path := by
  rw [mem_withoutRepeats_iff (List.pairwise_mergeSort precedes_trans precedes_total paths),
    firstLike?_mergeSort]

/-- What is left after sorting depends on the first of each of the same paths only. -/
theorem sorted_congr {paths paths' : List Path}
    (firsts : ∀ path, firstLike? path paths' = firstLike? path paths) :
    withoutRepeats (paths'.mergeSort precedes) = withoutRepeats (paths.mergeSort precedes) := by
  have ascending : ∀ paths : List Path, (withoutRepeats (paths.mergeSort precedes)).Pairwise Before :=
    fun paths => pairwise_withoutRepeats (List.pairwise_mergeSort precedes_trans precedes_total paths)
  have distinct : ∀ paths : List Path, (withoutRepeats (paths.mergeSort precedes)).Nodup := by
    intro paths
    refine (ascending paths).imp fun before => ?_
    rintro rfl
    exact before.not_same rfl
  have members := (List.perm_ext_iff_of_nodup (distinct paths') (distinct paths)).mpr fun path => by
    rw [mem_sorted_iff, mem_sorted_iff, firsts]
  refine List.Perm.eq_of_pairwise ?_ (ascending paths') (ascending paths) members
  intro p q _ _ before after
  exact absurd rfl (before.trans after).not_same

/-! ### One file -/

/-- What is found in a file, and whether it was known already. -/
def tracked (scanner : Scanner) (disk : Disk) (path : Path) : Except Fault (List Declaration × Bool) :=
  match disk.readText path with
  | .error refusal => .error (.io path refusal)
  | .ok source =>
    match scanner.cached? path (Digest.Sha256.hexOfText source) with
    | some file => .ok (file.declarations, true)
    | none =>
      match Declaration.ofSource? path source with
      | some declarations => .ok (declarations, false)
      | none => .error (.parse path)

/-- The scanner after the scan of a file. -/
def afterFile (disk : Disk) (scanner : Scanner) (path : Path) : Scanner :=
  match disk.readText path with
  | .error _ => scanner
  | .ok source =>
    match scanner.cached? path (Digest.Sha256.hexOfText source), Declaration.ofSource? path source with
    | none, some declarations =>
      scanner.remember ⟨path, Digest.Sha256.hexOfText source, declarations⟩
    | _, _ => scanner

theorem scanTracked_ends (scanner : Scanner) (disk : Disk) (path : Path) :
    (scanTracked disk path).Ends scanner (scanner.tracked disk path)
      (afterFile disk scanner path) := by
  unfold scanTracked tracked afterFile
  cases disk.readText path with
  | error refusal => exact Task.ends_throw _ _
  | ok source =>
    refine (Task.ends_current scanner).bind ?_
    dsimp only
    cases scanner.cached? path (Digest.Sha256.hexOfText source) with
    | some file => exact Task.ends_pure _ _
    | none =>
      cases Declaration.ofSource? path source with
      | none => exact Task.ends_throw _ _
      | some declarations => exact (Task.ends_change _ _).bind (Task.ends_pure _ _)

/-! ### The cache -/

theorem cached?_remember (scanner : Scanner) (file : CachedFile) (path : Path) (contentHash : String) :
    (scanner.remember file).cached? path contentHash =
      if Same file.path path then (if file.contentHash = contentHash then some file else none)
      else scanner.cached? path contentHash := by
  unfold cached? remember
  rw [List.find?_cons]
  by_cases same : Same file.path path
  · by_cases hash : file.contentHash = contentHash
    · simp [same, hash]
    · have other : (decide (Same file.path path) && file.contentHash == contentHash) = false := by
        simp [hash]
      simp only [other, if_pos same, if_neg hash]
      rw [List.find?_eq_none]
      intro other member there
      have apart := (List.mem_filter.mp member).2
      simp only [Bool.not_eq_true', decide_eq_false_iff_not] at apart
      simp only [Bool.and_eq_true, decide_eq_true_eq] at there
      exact apart (there.1.trans same.symm)
  · have other : (decide (Same file.path path) && file.contentHash == contentHash) = false := by
      simp [same]
    simp only [other, if_neg same]
    rw [List.find?_filter]
    congr 1
    funext other
    by_cases there : Same other.path path
    · have apart : ¬ Same other.path file.path := fun here => same (here.symm.trans there)
      by_cases hash : other.contentHash = contentHash <;> simp [there, apart, hash]
    · simp [there]

/-- Among ascending paths the search finds all that are there. -/
theorem isAmong_eq_any (path : Path) {paths : List Path} (ascending : paths.Pairwise Before) :
    isAmong path paths = paths.any fun other => decide (Same path other) := by
  have cut : ∀ paths : List Path, paths = paths.take (paths.length / 2) ++ paths.drop (paths.length / 2) :=
    fun paths => (List.take_append_drop _ paths).symm
  fun_induction isAmong path paths with
  | case1 paths upper =>
    have lengths := congrArg List.length upper
    rw [List.length_drop, List.length_nil] at lengths
    have none : paths = [] := List.length_eq_zero_iff.mp (by omega)
    simp [none]
  | case2 paths middle above upper equal =>
    have same : Same path middle := (compare_eq_eq_iff.mp equal).symm
    have member : middle ∈ paths := List.mem_of_mem_drop (upper ▸ List.mem_cons_self)
    exact (List.any_eq_true.mpr ⟨middle, member, by simpa using same⟩).symm
  | case3 paths middle above upper less ih =>
    have split := cut paths
    rw [upper] at split
    rw [split] at ascending ⊢
    obtain ⟨-, higher, below⟩ := List.pairwise_append.mp ascending
    -- The path comes after the middle one, and so after all those below it.
    have apart : ∀ other ∈ paths.take (paths.length / 2) ++ [middle], ¬ Same path other := by
      intro other member same
      rcases List.mem_append.mp member with lower | here
      · exact ((below other lower middle (by simp)).trans less).not_same same.symm
      · rw [List.mem_singleton.mp here] at same
        exact Before.not_same less same.symm
    have none : (paths.take (paths.length / 2) ++ [middle]).any (fun other => decide (Same path other))
        = false := List.any_eq_false.mpr fun other member => by simpa using apart other member
    rw [List.append_cons, List.any_append, none, Bool.false_or]
    exact ih (List.pairwise_cons.mp higher).2
  | case4 paths middle above upper greater ih =>
    have split := cut paths
    rw [upper] at split
    rw [split] at ascending
    obtain ⟨lower, higher, -⟩ := List.pairwise_append.mp ascending
    have before : Before path middle := Std.OrientedCmp.lt_of_gt greater
    have none : (middle :: above).any (fun other => decide (Same path other)) = false := by
      refine List.any_eq_false.mpr fun other member => ?_
      rcases List.mem_cons.mp member with rfl | later
      · simpa using before.not_same
      · simpa using (before.trans ((List.pairwise_cons.mp higher).1 other later)).not_same
    rw [ih lower]
    conv => rhs; rw [split, List.any_append, none, Bool.or_false]

theorem cached?_retain (scanner : Scanner) {files : List Path} {path : Path}
    (ascending : files.Pairwise Before) (listed : path ∈ files) (contentHash : String) :
    (scanner.retain files).cached? path contentHash = scanner.cached? path contentHash := by
  unfold cached? retain
  rw [List.find?_filter]
  congr 1
  funext other
  rw [isAmong_eq_any _ ascending]
  by_cases there : Same other.path path
  · have kept : files.any (fun file => decide (Same other.path file)) = true :=
      List.any_eq_true.mpr ⟨path, listed, by simpa using there⟩
    by_cases hash : other.contentHash = contentHash <;> simp [there, kept, hash]
  · simp [there]

/-- The scan of a file does not touch what is known of others. -/
theorem cached?_afterFile_of_not_same (scanner : Scanner) (disk : Disk) {path other : Path}
    (apart : ¬ Same path other) (contentHash : String) :
    (afterFile disk scanner path).cached? other contentHash = scanner.cached? other contentHash := by
  unfold afterFile
  split
  · rfl
  · split
    · rw [cached?_remember, if_neg apart]
    · rfl

/-- What is known of a file after its scan depends on what was known of that file only. -/
theorem cached?_afterFile_congr {scanner scanner' : Scanner} {disk : Disk} {path : Path}
    (known : ∀ contentHash, scanner'.cached? path contentHash = scanner.cached? path contentHash)
    (contentHash : String) :
    (afterFile disk scanner' path).cached? path contentHash =
      (afterFile disk scanner path).cached? path contentHash := by
  unfold afterFile
  cases disk.readText path with
  | error refusal => exact known contentHash
  | ok source =>
    dsimp only
    rw [known]
    split
    · rw [cached?_remember, cached?_remember, known]
    · exact known contentHash

theorem tracked_congr {scanner scanner' : Scanner} {disk disk' : Disk} {path : Path}
    (text : disk'.readText path = disk.readText path)
    (known : ∀ contentHash, scanner'.cached? path contentHash = scanner.cached? path contentHash) :
    scanner'.tracked disk' path = scanner.tracked disk path := by
  unfold tracked
  rw [text]
  cases disk.readText path with
  | error refusal => rfl
  | ok source =>
    dsimp only
    rw [known]

/-- Scanned again, a file has the same declarations. -/
theorem tracked_afterFile (scanner : Scanner) (disk : Disk) (path : Path) :
    ((afterFile disk scanner path).tracked disk path).map Prod.fst =
      (scanner.tracked disk path).map Prod.fst := by
  unfold tracked afterFile
  cases disk.readText path with
  | error refusal => rfl
  | ok source =>
    dsimp only
    cases known : scanner.cached? path (Digest.Sha256.hexOfText source) with
    | some file => simp [known]
    | none =>
      cases Declaration.ofSource? path source with
      | none => simp [known]
      | some declarations => simp [cached?_remember, Path.Same, Except.map]

/-! ### All files -/

/-- What is found in some files one after the other. -/
def results (disk : Disk) : Scanner → List Path →
    List (Path × Except Fault (List Declaration × Bool))
  | _, [] => []
  | scanner, path :: rest =>
    (path, scanner.tracked disk path) :: results disk (afterFile disk scanner path) rest

theorem mapM_scanTracked_ends (disk : Disk) (scanner : Scanner) (files : List Path) :
    (files.mapM fun path => do return (path, ← Task.outcome (scanTracked disk path)) :
      Task Fault Scanner (List (Path × Except Fault (List Declaration × Bool)))).Ends scanner
      (.ok (results disk scanner files)) (files.foldl (afterFile disk) scanner) := by
  induction files generalizing scanner with
  | nil => exact Task.ends_pure _ _
  | cons path rest ih =>
    have first : Task.Ends (do return (path, ← Task.outcome (scanTracked disk path)) :
        Task Fault Scanner (Path × Except Fault (List Declaration × Bool))) scanner
        (.ok (path, scanner.tracked disk path)) (afterFile disk scanner path) :=
      (scanTracked_ends scanner disk path).outcome.bind (Task.ends_pure _ _)
    rw [List.mapM_cons]
    exact first.bind ((ih _).bind (Task.ends_pure _ _))

theorem cached?_foldl_afterFile (disk : Disk) (scanner : Scanner) {files : List Path} {path : Path}
    (apart : ∀ file ∈ files, ¬ Same file path) (contentHash : String) :
    (files.foldl (afterFile disk) scanner).cached? path contentHash =
      scanner.cached? path contentHash := by
  induction files generalizing scanner with
  | nil => rfl
  | cons file rest ih =>
    rw [List.foldl_cons, ih _ fun other member => apart other (by simp [member])]
    exact cached?_afterFile_of_not_same scanner disk (apart file (by simp)) contentHash

/-- Of files no two of which are the same, each leaves in the cache what it leaves by itself. -/
theorem cached?_foldl_afterFile_of_mem (disk : Disk) (scanner : Scanner) {files : List Path}
    {path : Path} (distinct : files.Pairwise fun p q => ¬ Same p q) (listed : path ∈ files)
    (contentHash : String) :
    (files.foldl (afterFile disk) scanner).cached? path contentHash =
      (afterFile disk scanner path).cached? path contentHash := by
  induction files generalizing scanner with
  | nil => simp at listed
  | cons first rest ih =>
    obtain ⟨apart, distinct⟩ := List.pairwise_cons.mp distinct
    rw [List.foldl_cons]
    rcases List.mem_cons.mp listed with rfl | later
    · exact cached?_foldl_afterFile disk _ (fun file member same => apart file member same.symm) _
    · rw [ih _ distinct later]
      exact cached?_afterFile_congr (cached?_afterFile_of_not_same scanner disk (apart path later)) _

/-- Of files no two of which are the same, each is scanned as if it were the only one. -/
theorem results_eq_map (disk : Disk) (scanner : Scanner) {files : List Path}
    (distinct : files.Pairwise fun p q => ¬ Same p q) :
    results disk scanner files = files.map fun path => (path, scanner.tracked disk path) := by
  induction files generalizing scanner with
  | nil => rfl
  | cons path rest ih =>
    obtain ⟨apart, distinct⟩ := List.pairwise_cons.mp distinct
    rw [results, ih _ distinct, List.map_cons]
    congr 1
    refine List.map_congr_left fun other member => ?_
    rw [tracked_congr rfl fun contentHash =>
      cached?_afterFile_of_not_same scanner disk (apart other member) contentHash]

/-- After a scan each file has the declarations that it had then. -/
theorem tracked_foldl_afterFile (disk : Disk) (scanner : Scanner) {files : List Path} {path : Path}
    (distinct : files.Pairwise fun p q => ¬ Same p q) (listed : path ∈ files) :
    ((files.foldl (afterFile disk) scanner).tracked disk path).map Prod.fst =
      (scanner.tracked disk path).map Prod.fst := by
  rw [tracked_congr rfl (cached?_foldl_afterFile_of_mem disk scanner distinct listed)]
  exact tracked_afterFile scanner disk path

/-! ### The outcome -/

namespace Outcome

/-- An outcome with what came of one more file. -/
def added (outcome : ScanOutcome) (path : Path) (result : Except Fault (List Declaration × Bool)) :
    Except Fault ScanOutcome :=
  match result with
  | .ok (declarations, reused) => .ok { outcome with
      declarations := outcome.declarations ++ declarations
      parsed := outcome.parsed + (if reused then 0 else 1)
      reused := outcome.reused + (if reused then 1 else 0) }
  | .error fault =>
    if fault.isRecoverable then .ok { outcome with skipped := outcome.skipped ++ [(path, fault)] }
    else .error fault

theorem add_ends (outcome : ScanOutcome) (path : Path)
    (result : Except Fault (List Declaration × Bool)) (scanner : Scanner) :
    (add outcome path result).Ends scanner (added outcome path result) scanner := by
  unfold add added
  cases result with
  | ok found => exact Task.ends_pure _ _
  | error fault =>
    dsimp only
    split
    · exact (Task.ends_warn _ _).bind (Task.ends_pure _ _)
    · exact Task.ends_throw _ _

/-- An outcome with what came of several files. -/
def collected (outcome : ScanOutcome)
    (results : List (Path × Except Fault (List Declaration × Bool))) : Except Fault ScanOutcome :=
  results.foldlM (fun outcome (path, result) => added outcome path result) outcome

theorem collected_cons (outcome : ScanOutcome) (path : Path)
    (result : Except Fault (List Declaration × Bool))
    (rest : List (Path × Except Fault (List Declaration × Bool))) :
    collected outcome ((path, result) :: rest) =
      added outcome path result >>= fun outcome => collected outcome rest := rfl

theorem foldlM_add_ends (outcome : ScanOutcome)
    (results : List (Path × Except Fault (List Declaration × Bool))) (scanner : Scanner) :
    (results.foldlM (fun outcome (path, result) => add outcome path result) outcome).Ends scanner
      (collected outcome results) scanner := by
  induction results generalizing outcome with
  | nil => exact Task.ends_pure _ _
  | cons first rest ih =>
    obtain ⟨path, result⟩ := first
    have first := add_ends outcome path result scanner
    rw [List.foldlM_cons, collected_cons]
    dsimp only
    cases done : added outcome path result with
    | error fault =>
      rw [done] at first
      exact first.bind_error
    | ok outcome' =>
      rw [done] at first
      exact first.bind (ih outcome')

theorem added_congr {start start' outcome : ScanOutcome} {path : Path}
    {result result' : Except Fault (List Declaration × Bool)}
    (same : result'.map Prod.fst = result.map Prod.fst)
    (begun : start'.declarations = start.declarations) (made : added start path result = .ok outcome) :
    ∃ outcome', added start' path result' = .ok outcome' ∧
      outcome'.declarations = outcome.declarations := by
  cases result with
  | ok found =>
    cases result' with
    | error fault => simp [Except.map] at same
    | ok found' =>
      obtain ⟨declarations, reused⟩ := found
      obtain ⟨declarations', reused'⟩ := found'
      simp only [Except.map, Except.ok.injEq] at same
      obtain rfl := Except.ok.inj made
      exact ⟨_, rfl, by simp [begun, same]⟩
  | error fault =>
    cases result' with
    | ok found => simp [Except.map] at same
    | error fault' =>
      simp only [Except.map, Except.error.injEq] at same
      subst same
      unfold added at made ⊢
      dsimp only at made ⊢
      split at made
      · rename_i recoverable
        obtain rfl := Except.ok.inj made
        rw [if_pos recoverable]
        exact ⟨_, rfl, begun⟩
      · contradiction

/-- The declarations of an outcome depend on the declarations of each file only. -/
theorem collected_congr {files : List Path}
    {found found' : Path → Except Fault (List Declaration × Bool)} {start start' outcome : ScanOutcome}
    (same : ∀ path ∈ files, (found' path).map Prod.fst = (found path).map Prod.fst)
    (begun : start'.declarations = start.declarations)
    (made : collected start (files.map fun path => (path, found path)) = .ok outcome) :
    ∃ outcome', collected start' (files.map fun path => (path, found' path)) = .ok outcome' ∧
      outcome'.declarations = outcome.declarations := by
  induction files generalizing start start' with
  | nil =>
    obtain rfl := Except.ok.inj made
    exact ⟨start', rfl, begun⟩
  | cons path rest ih =>
    rw [List.map_cons, collected_cons, Except.bind_eq_ok] at made
    obtain ⟨middle, first, made⟩ := made
    obtain ⟨middle', first', begun⟩ := added_congr (same path (by simp)) begun first
    obtain ⟨outcome', made', listed⟩ :=
      ih (fun other member => same other (by simp [member])) begun made
    refine ⟨outcome', ?_, listed⟩
    rw [List.map_cons, collected_cons, first']
    exact made'

end Outcome

/-! ### Scans -/

theorem scan_ends (scanner : Scanner) (disk : Disk) :
    match scanner.discover disk with
    | .error fault => (scan disk).Ends scanner (.error fault) scanner
    | .ok files =>
      match Outcome.collected (Outcome.start files) (results disk scanner files) with
      | .error fault => (scan disk).Ends scanner (.error fault) (files.foldl (afterFile disk) scanner)
      | .ok outcome =>
        (scan disk).Ends scanner (.ok outcome) ((files.foldl (afterFile disk) scanner).retain files) := by
  have found := Task.ends_ofExcept (scanner.discover disk) scanner
  cases discovered : scanner.discover disk with
  | error fault =>
    rw [discovered] at found
    refine (Task.ends_current scanner).bind (Task.Ends.bind_error ?_)
    rw [discovered]
    exact found
  | ok files =>
    rw [discovered] at found
    have begun : ∀ {result after}, Task.Ends (do
        let results ← files.mapM fun path => do return (path, ← Task.outcome (scanTracked disk path))
        let outcome ← results.foldlM (fun outcome (path, result) => Outcome.add outcome path result)
          (Outcome.start files)
        Task.change fun scanner => scanner.retain files
        return outcome) scanner result after → (scan disk).Ends scanner result after := by
      intro result after ends
      refine (Task.ends_current scanner).bind ?_
      rw [discovered]
      exact found.bind ends
    have read := mapM_scanTracked_ends disk scanner files
    have added := Outcome.foldlM_add_ends (Outcome.start files) (results disk scanner files)
      (files.foldl (afterFile disk) scanner)
    dsimp only
    cases made : Outcome.collected (Outcome.start files) (results disk scanner files) with
    | error fault =>
      rw [made] at added
      exact begun (read.bind added.bind_error)
    | ok outcome =>
      rw [made] at added
      exact begun (read.bind (added.bind ((Task.ends_change _ _).bind (Task.ends_pure _ _))))

theorem blind_scan (disk : Disk) : (scan disk).Blind := by
  intro scanner
  have ends := scan_ends scanner disk
  split at ends
  · exact ⟨_, _, ends⟩
  · split at ends
    · exact ⟨_, _, ends⟩
    · exact ⟨_, _, ends⟩

theorem scan_ends_ok_iff {scanner after : Scanner} {disk : Disk} {outcome : ScanOutcome} :
    (scan disk).Ends scanner (.ok outcome) after ↔ ∃ files, scanner.discover disk = .ok files ∧
      Outcome.collected (Outcome.start files) (results disk scanner files) = .ok outcome ∧
      after = (files.foldl (afterFile disk) scanner).retain files := by
  have ends := scan_ends scanner disk
  constructor
  · intro ended
    split at ends
    · exact absurd (ended.unique ends).1 (by simp)
    · rename_i files found
      split at ends
      · exact absurd (ended.unique ends).1 (by simp)
      · rename_i outcome' made
        obtain ⟨same, rfl⟩ := ended.unique ends
        obtain rfl := Except.ok.inj same
        exact ⟨files, found, made, rfl⟩
  · rintro ⟨files, found, made, rfl⟩
    rw [found] at ends
    dsimp only at ends
    rw [made] at ends
    exact ends

/-! ### Scanning again -/

/-- A scanner sees the same sources on two disks. -/
structure SameSources (scanner : Scanner) (disk later : Disk) : Prop where
  files : scanner.discover later = scanner.discover disk
  texts : ∀ files, scanner.discover disk = .ok files → ∀ file ∈ files,
    later.readText file = disk.readText file

theorem discover_afterScan (scanner : Scanner) (disk later : Disk) (files files' : List Path) :
    ((files.foldl (afterFile disk) scanner).retain files').discover later = scanner.discover later := by
  have kept : ∀ (scanner : Scanner) path, ∃ cache,
      afterFile disk scanner path = { scanner with cache } := by
    intro scanner path
    unfold afterFile
    split
    · exact ⟨_, rfl⟩
    · split <;> exact ⟨_, rfl⟩
  induction files generalizing scanner with
  | nil => rfl
  | cons path rest ih =>
    obtain ⟨cache, same⟩ := kept scanner path
    rw [List.foldl_cons, ih, same]
    rfl

theorem results_congr {scanner : Scanner} {disk later : Disk} {files : List Path}
    (distinct : files.Pairwise fun p q => ¬ Same p q)
    (texts : ∀ file ∈ files, later.readText file = disk.readText file) :
    results later scanner files = results disk scanner files := by
  rw [results_eq_map later scanner distinct, results_eq_map disk scanner distinct]
  refine List.map_congr_left fun path member => ?_
  rw [tracked_congr (texts path member) fun _ => rfl]

/-- A scan of the same sources, by the scanner as it was or as it is now, finds the same
declarations. -/
theorem scan_again {scanner after : Scanner} {disk later : Disk} {outcome : ScanOutcome}
    (scanned : (scan disk).Ends scanner (.ok outcome) after) (same : SameSources scanner disk later) :
    (∃ after', (scan later).Ends scanner (.ok outcome) after') ∧
      ∃ outcome' after', (scan later).Ends after (.ok outcome') after' ∧
        outcome'.declarations = outcome.declarations := by
  obtain ⟨files, found, made, rfl⟩ := scan_ends_ok_iff.mp scanned
  have texts := same.texts files found
  have distinct : files.Pairwise fun p q => ¬ Same p q :=
    (pairwise_discover found).imp Before.not_same
  have found' : scanner.discover later = .ok files := same.files.trans found
  constructor
  · rw [← results_congr distinct texts] at made
    exact ⟨_, scan_ends_ok_iff.mpr ⟨files, found', made, rfl⟩⟩
  · have alike : ∀ path ∈ files,
        (((files.foldl (afterFile disk) scanner).retain files).tracked later path).map Prod.fst =
          (scanner.tracked disk path).map Prod.fst := by
      intro path member
      rw [← tracked_foldl_afterFile disk scanner distinct member]
      rw [tracked_congr (texts path member) (cached?_retain _ (pairwise_discover found) member)]
    rw [results_eq_map disk scanner distinct] at made
    obtain ⟨outcome', made', listed⟩ := Outcome.collected_congr alike rfl made
    rw [← results_eq_map later _ distinct] at made'
    exact ⟨outcome', _, scan_ends_ok_iff.mpr
      ⟨files, (discover_afterScan scanner disk later files files).trans found', made', rfl⟩, listed⟩

end Scaffold.Scanner
