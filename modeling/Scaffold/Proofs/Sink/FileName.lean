import Mathlib.Data.List.TakeWhile
import Scaffold.Proofs.Disk.Inside
import Scaffold.Proofs.Sink.Refinement

/-!
Which names a directory accepts for its files, over all texts. These are the names of single entries, and
such names with slashes and single dots behind them, under which the same entry is meant.
-/

namespace Scaffold

namespace Path

/-- Slashes and single dots behind slashes. They lead nowhere. -/
inductive Idle : List Char → Prop where
  | nil : Idle []
  | slash {rest : List Char} : Idle rest → Idle ('/' :: rest)
  | dot {rest : List Char} : Idle rest → Idle ('/' :: '.' :: rest)

/-- A name from its first slash on. -/
def behindEntry (name : String) : List Char := name.toList.dropWhile (· != '/')

theorem Idle.of_pieces {rest : List Char} (idle : ∀ piece ∈ pieces rest, piece = [] ∨ piece = ['.']) :
    Idle ('/' :: rest) := by
  -- A dot takes two characters at once, so that the induction is on the length.
  induction length : rest.length using Nat.strongRecOn generalizing rest with
  | ind _ ih =>
  cases rest with
  | nil => exact .slash .nil
  | cons c rest =>
    by_cases slash : c = '/'
    · subst slash
      refine .slash (ih rest.length (by simp [← length]) (fun piece member => idle piece ?_) rfl)
      exact List.mem_cons_of_mem _ member
    · obtain ⟨piece, more, found, split⟩ := pieces_cons rest slash
      rw [split] at idle
      obtain ⟨rfl, rfl⟩ : c = '.' ∧ piece = [] := by simpa using idle (c :: piece) (by simp)
      rcases head_pieces_eq_nil found with rfl | ⟨after, rfl⟩
      · exact .dot .nil
      · obtain ⟨-, rfl⟩ := List.cons.inj ((pieces_slash after).symm.trans found)
        exact .dot (ih after.length (by rw [← length, List.length_cons, List.length_cons]; omega)
          (fun piece member => idle piece (by simp [member])) rfl)

theorem Idle.pieces {text : List Char} (idle : Idle text) :
    text = [] ∨ ∃ rest, text = '/' :: rest ∧ ∀ piece ∈ pieces rest, piece = [] ∨ piece = ['.'] := by
  induction idle with
  | nil => exact .inl rfl
  | @slash rest _ ih =>
    refine .inr ⟨rest, rfl, ?_⟩
    rcases ih with rfl | ⟨after, rfl, ih⟩
    · simp [Path.pieces]
    · simpa [pieces_slash] using ih
  | @dot rest _ ih =>
    refine .inr ⟨'.' :: rest, rfl, ?_⟩
    rcases ih with rfl | ⟨after, rfl, ih⟩
    · simp [Path.pieces]
    · simpa [Path.pieces] using ih

section

variable {name : String}

theorem pieces_of_idle (idle : Idle (behindEntry name)) :
    ∃ rest, pieces name.toList = (entryName name).toList :: rest ∧
      ∀ piece ∈ rest, piece = [] ∨ piece = ['.'] := by
  rw [entryName, String.toList_ofList]
  rcases pieces_split name.toList with ⟨-, split⟩ | ⟨after, behind, split⟩
  · exact ⟨[], split, by simp⟩
  · rw [behindEntry, behind] at idle
    obtain ⟨rest, same, idle⟩ := idle.pieces.resolve_left (by simp)
    obtain ⟨-, rfl⟩ := List.cons.inj same
    exact ⟨_, split, idle⟩

/-- The plain names are those that begin with the name of an entry and go on idly. -/
theorem isPlainName_iff : (Path.mk name).isPlainName = true ↔
    EntryName (entryName name) ∧ Idle (behindEntry name) := by
  constructor
  · intro plain
    obtain ⟨rest, split, entry, idle⟩ := isPlainName_spec plain
    refine ⟨entry, ?_⟩
    rw [behindEntry]
    rcases pieces_split name.toList with ⟨nothing, -⟩ | ⟨after, behind, same⟩
    · exact nothing ▸ .nil
    · obtain ⟨-, rfl⟩ := List.cons.inj (split.symm.trans same)
      exact behind ▸ .of_pieces idle
  · rintro ⟨entry, idle⟩
    obtain ⟨rest, split, idle⟩ := pieces_of_idle idle
    obtain ⟨relative, undotted, steps⟩ := steps_of_idle split entry idle
    rw [isPlainName, components_of_relative relative, if_neg undotted, steps]
    rfl

/-- Below one directory two plain names mean the same place if they begin with the same entry. -/
theorem same_child_iff {other : String} (plain : (Path.mk name).isPlainName = true)
    (plain' : (Path.mk other).isPlainName = true) (directory : Path) :
    Same (directory.child name) (directory.child other) ↔ entryName name = entryName other := by
  rw [Same, components_child plain, components_child plain', List.append_cancel_left_eq]
  simp

theorem behindEntry_of_no_slash (clean : '/' ∉ name.toList) : behindEntry name = [] :=
  List.dropWhile_eq_nil_iff.mpr fun c member => by
    simpa using ne_of_mem_of_not_mem member clean

theorem entryName_iff (clean : '/' ∉ name.toList) :
    EntryName name ↔ name ≠ "" ∧ name ≠ "." ∧ name ≠ ".." := by
  have letters : ∀ text : String, name.toList = text.toList ↔ name = text := fun text => String.toList_inj
  have empty := letters ""
  have dot := letters "."
  have dots := letters ".."
  constructor
  · rintro ⟨-, not_empty, not_dot, not_dots⟩
    exact ⟨mt empty.mpr not_empty, mt dot.mpr not_dot, mt dots.mpr not_dots⟩
  · rintro ⟨not_empty, not_dot, not_dots⟩
    exact ⟨clean, mt empty.mp not_empty, mt dot.mp not_dot, mt dots.mp not_dots⟩

end

end Path

namespace Disk

open Path

/-- Whatever a plain name leads to below a directory is the entry that it begins with. -/
theorem locate_plain_eq {disk : Disk} {directory : Path} {name : String} {place location : Location}
    (plain : (Path.mk name).isPlainName = true) (leads : disk.Leads directory place)
    (found : disk.locate (directory.child name) = .ok location) :
    location = place ++ [entryName name] := by
  obtain ⟨-, -, place', leads', same, -⟩ := locate_plain_spec plain found
  obtain rfl := leads.unique leads'
  exact same

end Disk

namespace DirectorySink

open Path

theorem checkFileName_refused {name : String} (odd : checkFileName name ≠ .ok ()) :
    checkFileName name = .error (.config (.notAFileName name)) := by
  rw [Ne, checkFileName_ok_iff] at odd
  rw [checkFileName, if_neg odd]

/-- A name is accepted just if it begins with the name of an entry and goes on idly, and it then means that
entry. So the accepted names without a slash are the texts other than none and dots, and each of them
means another entry. -/
theorem accepted_file_names (name : String) :
    (checkFileName name = .ok () ↔ EntryName (entryName name) ∧ Idle (behindEntry name)) ∧
    (checkFileName name ≠ .ok () → checkFileName name = .error (.config (.notAFileName name))) ∧
    ('/' ∉ name.toList →
      (checkFileName name = .ok () ↔ name ≠ "" ∧ name ≠ "." ∧ name ≠ "..") ∧
      entryName name = name) ∧
    ∀ directory other, checkFileName name = .ok () → checkFileName other = .ok () →
      (Same (directory.child name) (directory.child other) ↔ entryName name = entryName other) ∧
      ∀ (disk : Disk) place location, disk.Leads directory place →
        disk.locate (directory.child name) = .ok location → location = place ++ [entryName name] := by
  refine ⟨checkFileName_ok_iff.trans isPlainName_iff, checkFileName_refused, fun clean => ⟨?_, ?_⟩, ?_⟩
  · rw [checkFileName_ok_iff, isPlainName_iff, entryName_of_no_slash clean, behindEntry_of_no_slash clean,
      entryName_iff clean, and_iff_left Idle.nil]
  · exact entryName_of_no_slash clean
  · intro directory other accepted accepted'
    have plain := checkFileName_ok_iff.mp accepted
    exact ⟨same_child_iff plain (checkFileName_ok_iff.mp accepted') directory,
      fun disk place location leads found => Disk.locate_plain_eq plain leads found⟩

/-- Below any directory a dotted ending says nothing, while another name is told apart. -/
theorem accepted_file_names_order :
    checkFileName "Order.g.rs/./" = .ok () ∧ checkFileName "Order.g.rs" = .ok () ∧
      checkFileName "order.g.rs" = .ok () ∧ ∀ directory : Path,
        Same (directory.child "Order.g.rs/./") (directory.child "Order.g.rs") ∧
        ¬ Same (directory.child "Order.g.rs/./") (directory.child "order.g.rs") := by
  have behind : behindEntry "Order.g.rs/./" = ['/', '.', '/'] := by decide
  have dotted : checkFileName "Order.g.rs/./" = .ok () :=
    (accepted_file_names _).1.mpr ⟨by decide, behind ▸ .dot (.slash .nil)⟩
  have clean := ((accepted_file_names "Order.g.rs").2.2.1 (by decide)).1.mpr (by decide)
  have lower := ((accepted_file_names "order.g.rs").2.2.1 (by decide)).1.mpr (by decide)
  refine ⟨dotted, clean, lower, fun directory => ⟨?_, ?_⟩⟩
  · exact ((accepted_file_names _).2.2.2 directory _ dotted clean).1.mpr (by decide)
  · rw [((accepted_file_names _).2.2.2 directory _ dotted lower).1]
    decide

/-- A slash at the end is accepted, and then two accepted names mean one entry. -/
theorem slash_accepted :
    checkFileName "Order.g.rs/" = .ok () ∧ '/' ∈ "Order.g.rs/".toList ∧
    (¬ ∀ name, checkFileName name = .ok () ↔
      name ≠ "" ∧ name ≠ "." ∧ name ≠ ".." ∧ '/' ∉ name.toList) ∧
    checkFileName "Order.g.rs" = .ok () ∧ "Order.g.rs" ≠ "Order.g.rs/" ∧
      ∀ directory : Path, Same (directory.child "Order.g.rs/") (directory.child "Order.g.rs") := by
  have plain : (Path.mk "Order.g.rs/").isPlainName = true := by decide
  have plain' : (Path.mk "Order.g.rs").isPlainName = true := by decide
  have accepted := checkFileName_ok_iff.mpr plain
  have slash : '/' ∈ "Order.g.rs/".toList := by decide
  refine ⟨accepted, slash, fun exact' => ((exact' _).mp accepted).2.2.2 slash,
    checkFileName_ok_iff.mpr plain', by decide, fun directory => ?_⟩
  exact (same_child_iff plain plain' directory).mpr (by decide)

end DirectorySink

end Scaffold
