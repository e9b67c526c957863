import Scaffold.Proofs.Disk.Inside

/-! Making the directories on a path. Directories come to be where nothing was, and all else stays. A
path that leads to a directory already needs none. -/

namespace Scaffold.Disk

open Path

/-- The second disk has more directories at most. -/
structure Grown (before after : Disk) : Prop where
  working : after.workingDirectory = before.workingDirectory
  entry : ∀ location, after.entryAt? location = before.entryAt? location ∨
    before.entryAt? location = none ∧ after.entryAt? location = some .directory

theorem Grown.refl (disk : Disk) : Grown disk disk := ⟨rfl, fun _ => .inl rfl⟩

theorem Grown.trans {first second third : Disk} (grown : Grown first second)
    (grown' : Grown second third) : Grown first third := by
  refine ⟨grown'.working.trans grown.working, fun location => ?_⟩
  rcases grown'.entry location with same | ⟨free, made⟩
  · rw [same]
    exact grown.entry location
  · rcases grown.entry location with same | ⟨free', made'⟩
    · exact .inr ⟨same.symm.trans free, made⟩
    · exact .inr ⟨free', made⟩

theorem Grown.keeps {before after : Disk} (grown : Grown before after) :
    KeepsDirectories before after := by
  refine ⟨grown.working, fun location found => ?_⟩
  rcases grown.entry location with same | ⟨free, made⟩
  · rw [same, found]
  · exact made

theorem Grown.file_iff {before after : Disk} (grown : Grown before after) (location : Location)
    (content : ByteArray) : after.entryAt? location = some (.file content) ↔
      before.entryAt? location = some (.file content) := by
  rcases grown.entry location with same | ⟨free, made⟩
  · rw [same]
  · simp [free, made]

theorem grown_makeDirectory {disk made : Disk} {path : Path}
    (done : disk.makeDirectory path = .ok made) : Grown disk made := by
  rw [makeDirectory, Except.bind_eq_ok] at done
  obtain ⟨location, -, done⟩ := done
  cases found : disk.entryAt? location with
  | some entry => simp [found] at done
  | none =>
    simp only [found, Except.ok.injEq] at done
    subst done
    have inner : location ≠ [] := by
      rintro rfl
      simp [entryAt?] at found
    refine ⟨rfl, fun other => ?_⟩
    rw [entryAt?_set disk inner]
    by_cases same : other = location
    · subst same
      exact .inr ⟨found, by simp⟩
    · exact .inl (by simp [same])

/-- Whether all directories could be made or not, those that were made are all that is new. -/
theorem grown_makeDirectoriesUpTo (disk : Disk) (path : Path) (depth : Nat) :
    Grown disk (disk.makeDirectoriesUpTo path depth).2 := by
  induction depth generalizing disk path with
  | zero => exact .refl disk
  | succ depth ih =>
    rw [makeDirectoriesUpTo]
    split
    · exact .refl disk
    · split
      · rename_i made first
        exact grown_makeDirectory first
      · rename_i parent _ _
        have outer := ih disk parent
        split
        · rename_i refusal around inner
          rwa [inner] at outer
        · rename_i around inner
          rw [inner] at outer
          split
          · rename_i made last
            exact outer.trans (grown_makeDirectory last)
          · exact outer
      · exact .refl disk

theorem grown_makeDirectories {disk made : Disk} {path : Path} {result : Except Refusal Unit}
    (done : disk.makeDirectories path = (result, made)) : Grown disk made := by
  have grown := grown_makeDirectoriesUpTo disk path (path.components.length + 1)
  rwa [← makeDirectories, done] at grown

/-! ### Where nothing is missing -/

theorem pieces_slashes {slashes : List Char} (only : ∀ c ∈ slashes, c = '/') :
    ∀ piece ∈ pieces slashes, piece = [] := by
  induction slashes with
  | nil => simp [pieces]
  | cons c rest ih =>
    obtain rfl := only c (by simp)
    rw [pieces_slash]
    simpa using ih fun other member => only other (by simp [member])

/-- A path is what stays without the slashes at its end, and those slashes. -/
theorem trailing_slashes (path : Path) : ∃ kept slashes : List Char,
    path.text.toList = kept ++ slashes ∧ (∀ c ∈ slashes, c = '/') ∧
      withoutTrailingSlashes path =
        if kept = [] then ⟨(path.text.take 1).toString⟩ else ⟨String.ofList kept⟩ := by
  refine ⟨(path.text.toList.reverse.dropWhile (· == '/')).reverse,
    (path.text.toList.reverse.takeWhile (· == '/')).reverse, ?_, ?_, rfl⟩
  · rw [← List.reverse_append, List.takeWhile_append_dropWhile, List.reverse_reverse]
  · intro c member
    have slash := List.all_eq_true.mp List.all_takeWhile c (List.mem_reverse.mp member)
    simpa using slash

theorem locate_slash (disk : Disk) : disk.locate ⟨"/"⟩ = .ok [] := by
  have accepts : Accepts "/" := ⟨by decide, by decide, by decide⟩
  refine locate_eq_ok_iff.mpr ⟨accepts, ?_⟩
  have split : pieces "/".toList = [[], []] := by decide
  have origin : disk.start ⟨"/"⟩ = [] := by simp [Disk.start, isAbsolute]
  have stays : disk.step [] [] = .ok [] := step_eq_ok_iff.mpr ⟨by simp [entryAt?], by simp [target?]⟩
  rw [split, origin, List.foldlM_cons, stays]
  exact Except.bind_eq_ok.mpr ⟨[], rfl, Except.bind_eq_ok.mpr ⟨[], stays, rfl⟩⟩

/-- Slashes at the end of a path are followed where the steps before them have led. -/
theorem walk_of_trailing_slash {disk : Disk} {path : Path} {kept rest : List Char} {place : Location}
    (letters : path.text.toList = kept ++ '/' :: rest) (only : ∀ c ∈ rest, c = '/')
    (found : disk.locate path = .ok place) :
    (pieces kept).foldlM disk.step (disk.start path) = .ok place := by
  have idle : ∀ piece ∈ pieces rest, piece = [] ∨ piece = ['.'] :=
    fun piece member => .inl (pieces_slashes only piece member)
  obtain ⟨-, walked⟩ := locate_eq_ok_iff.mp found
  rw [letters, pieces_append_slash, foldlM_append_eq_ok] at walked
  obtain ⟨middle, walked, slashed⟩ := walked
  obtain ⟨rfl, -⟩ := walk_idle idle (pieces_ne_nil rest) slashed
  exact walked

/-- Slashes alone lead to the root. -/
theorem eq_root_of_slashes {disk : Disk} {path : Path} {rest : List Char} {place : Location}
    (letters : path.text.toList = '/' :: rest) (only : ∀ c ∈ rest, c = '/')
    (found : disk.locate path = .ok place) : place = [] := by
  have origin : disk.start path = [] := by simp [Disk.start, isAbsolute, letters]
  have walked := @walk_of_trailing_slash disk path [] rest place letters only found
  simp only [pieces, origin, List.foldlM_cons, List.foldlM_nil, Except.bind_eq_ok, step_eq_ok_iff,
    target?, true_or, if_true, Option.some.injEq] at walked
  obtain ⟨_, ⟨-, rfl⟩, walked⟩ := walked
  exact (Except.ok.inj walked).symm

/-- Slashes at the end of a path do not matter where it leads to a directory. -/
theorem locate_withoutTrailingSlashes {disk : Disk} {path : Path} {place : Location}
    (found : disk.locate path = .ok place) :
    disk.locate (withoutTrailingSlashes path) = .ok place := by
  obtain ⟨accepts, -⟩ := locate_eq_ok_iff.mp found
  obtain ⟨kept, slashes, letters, only, cut⟩ := trailing_slashes path
  rw [cut]
  cases slashes with
  | nil =>
    rw [List.append_nil] at letters
    rw [if_neg (letters ▸ accepts.not_empty), ← letters, String.ofList_toList]
    exact found
  | cons c rest =>
    obtain ⟨rfl, further⟩ := List.forall_mem_cons.mp only
    by_cases none : kept = []
    · -- Of slashes alone the first one stays.
      subst none
      have root : (path.text.take 1).toString = "/" := by
        apply String.toList_inj.mp
        have first := String.toList_copy_take (s := path.text) (n := 1)
        rw [letters] at first
        exact first
      rw [if_pos rfl, root, locate_slash, eq_root_of_slashes letters further found]
    · have spelled : path.text = String.ofList kept ++ String.ofList ('/' :: rest) := by
        apply String.toList_inj.mp
        simp [letters]
      have origin : disk.start ⟨String.ofList kept⟩ = disk.start path := by
        have same := isAbsolute_append (String.ofList kept) (String.ofList ('/' :: rest))
        rw [← spelled, if_neg (by simpa using none)] at same
        rw [Disk.start, Disk.start, ← same]
      rw [spelled] at accepts
      rw [if_neg none]
      refine locate_eq_ok_iff.mpr ⟨accepts.beginning (by simpa using none), ?_⟩
      rw [origin, String.toList_ofList]
      exact walk_of_trailing_slash letters further found

theorem makeDirectories_of_leads {disk : Disk} {path : Path} {place : Location}
    (leads : disk.Leads path place) : disk.makeDirectories path = (.ok (), disk) := by
  rw [makeDirectories, makeDirectoriesUpTo]
  split
  · rfl
  · rename_i some
    have there : path.orHere = path := by simp [orHere, some]
    obtain ⟨located, directory⟩ := leads
    rw [there] at located
    have exists_already : disk.makeDirectory path = .error .exists := by
      simp [makeDirectory, locate_withoutTrailingSlashes located, directory, bind, Except.bind]
    have is : disk.isDirectory path = true := by
      simp [isDirectory, find, located, directory, bind, Except.bind]
    simp [exists_already, unlessDirectory, is]

end Scaffold.Disk
