import Scaffold.Proofs.Disk.Tree

/-! What the operations on a disk make of a tree. A path leads to a directory, or to a name in one, and
only what is no directory is replaced or removed, so that a tree stays one. -/

namespace Scaffold.Disk

open Path

variable {disk : Disk}

theorem Tree.parent (tree : disk.Tree) {place : Location} (found : disk.entryAt? place = some .directory) :
    disk.entryAt? place.dropLast = some .directory := by
  by_cases root : place = []
  · rwa [root] at found ⊢
  · exact tree.inside _ (mem_of_entryAt? root found)

/-- A walk ends at a directory, or with a name in one. -/
theorem Tree.walk_ends (tree : disk.Tree) {pieces : List (List Char)} {start location : Location}
    (some : pieces ≠ []) (clean : ∀ piece ∈ pieces, '/' ∉ piece)
    (walked : pieces.foldlM disk.step start = .ok location) :
    disk.entryAt? location = .some .directory ∨ ∃ place name, location = place ++ [name] ∧
      disk.entryAt? place = .some .directory ∧ EntryName name := by
  -- Only the last step counts.
  rw [← List.dropLast_append_getLast some, foldlM_append_eq_ok] at walked
  obtain ⟨place, -, stepped⟩ := walked
  rw [List.foldlM_cons, Except.bind_eq_ok] at stepped
  obtain ⟨next, stepped, same⟩ := stepped
  obtain rfl := Except.ok.inj same
  obtain ⟨directory, target⟩ := step_eq_ok_iff.mp stepped
  have last := clean _ (List.getLast_mem some)
  generalize pieces.getLast some = piece at target last
  unfold target? at target
  split at target
  · exact .inl (Option.some.inj target ▸ directory)
  · rename_i named
    split at target
    · exact .inl (Option.some.inj target ▸ tree.parent directory)
    · rename_i undotted
      split at target
      · contradiction
      · refine .inr ⟨place, _, (Option.some.inj target).symm, directory, ?_⟩
        rw [not_or] at named
        exact ⟨by rwa [String.toList_ofList], by rw [String.toList_ofList]; exact named.1,
          by rw [String.toList_ofList]; exact named.2, by rwa [String.toList_ofList]⟩

/-- A tree with something new where a path leads, and no directory is. -/
theorem Tree.set_located (tree : disk.Tree) {path : Path} {location : Location}
    (located : disk.locate path = .ok location) (free : disk.entryAt? location ≠ some .directory)
    (entry : Entry) : (disk.set location entry).Tree := by
  obtain ⟨-, walked⟩ := locate_eq_ok_iff.mp located
  rcases tree.walk_ends (pieces_ne_nil _) (fun _ => no_slash_of_mem_pieces) walked with directory |
    ⟨place, name, rfl, parent, named⟩
  · exact absurd directory free
  · exact tree.set parent named free entry

theorem Tree.makeDirectory (tree : disk.Tree) {path : Path} {made : Disk}
    (done : disk.makeDirectory path = .ok made) : made.Tree := by
  obtain ⟨location, located, done⟩ := Except.bind_eq_ok.mp done
  cases found : disk.entryAt? location with
  | some entry => simp [found] at done
  | none =>
    simp only [found, Except.ok.injEq] at done
    exact done ▸ tree.set_located located (by simp [found]) .directory

/-- Also those directories that were made before a refusal leave a tree. -/
theorem Tree.makeDirectoriesUpTo (tree : disk.Tree) (path : Path) (depth : Nat) :
    (disk.makeDirectoriesUpTo path depth).2.Tree := by
  induction depth generalizing disk path with
  | zero => exact tree
  | succ depth ih =>
    rw [Disk.makeDirectoriesUpTo]
    split
    · exact tree
    · split
      · rename_i made first
        exact tree.makeDirectory first
      · rename_i parent _ _
        have outer := ih tree parent
        split
        · rename_i refusal around inner
          rwa [inner] at outer
        · rename_i around inner
          rw [inner] at outer
          split
          · rename_i made last
            exact outer.makeDirectory last
          · exact outer
      · exact tree

theorem Tree.makeDirectories (tree : disk.Tree) (path : Path) : (disk.makeDirectories path).2.Tree :=
  tree.makeDirectoriesUpTo path _

theorem Tree.write (tree : disk.Tree) {path : Path} {content : ByteArray} {written : Disk}
    (done : disk.write path content = .ok written) : written.Tree := by
  obtain ⟨location, located, done⟩ := Except.bind_eq_ok.mp done
  split at done
  · cases done
  · rename_i free
    exact Except.ok.inj done ▸ tree.set_located located free _

theorem Tree.moveInto (tree : disk.Tree) {path : Path} {content : ByteArray} {moved : Disk}
    (done : disk.moveInto path content = .ok moved) : moved.Tree := by
  obtain ⟨location, located, done⟩ := Except.bind_eq_ok.mp done
  split at done
  · cases done
  · split at done
    · cases done
    · split at done
      · cases done
      · rename_i free
        exact Except.ok.inj done ▸ tree.set_located located free _

theorem Tree.removeFile (tree : disk.Tree) {path : Path} {removed : Disk}
    (done : disk.removeFile path = .ok removed) : removed.Tree := by
  obtain ⟨⟨location, entry⟩, found, done⟩ := Except.bind_eq_ok.mp done
  obtain ⟨-, found⟩ := find_eq_ok_iff.mp found
  cases entry with
  | directory => contradiction
  | file content => exact Except.ok.inj done ▸ tree.without (by simp [found])

end Scaffold.Disk
