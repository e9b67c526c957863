import Scaffold.Proofs.Disk.Editing
import Scaffold.Proofs.Disk.Making
import Scaffold.Proofs.Sink.Journal
import Scaffold.Sink.Directory

/-! What emission does to a directory: the last text of each name is there, and nothing else changes. -/

namespace Scaffold

open Disk Path

namespace Disk.Edit

/-- The edit that leaves the last text of each name. -/
def ofJournal (journal : Journal) : Edit := fun name =>
  (lastText? journal name).map fun text => some text.toUTF8

theorem ofJournal_cons (artifact : Artifact) (journal : Journal) :
    ofJournal (artifact :: journal) =
      (only artifact.fileName (some artifact.source.toUTF8)).followedBy (ofJournal journal) := by
  funext name
  rw [ofJournal, lastText?_cons, followedBy, ofJournal, only]
  cases lastText? journal name with
  | some text => rfl
  | none => by_cases same : name = artifact.fileName <;> simp [same]

end Disk.Edit

namespace Disk

/-- A disk after files were put into a directory: each name has its text there, every other file is as
before, and no directory is lost. -/
structure Stored (directory : Path) (text? : String → Option String) (before after : Disk) : Prop where
  texts : ∀ name text, text? name = some text →
    EntryName name ∧ after.readText (directory.child name) = .ok text
  others : ∀ location content, (∀ place name, after.Leads directory place →
      location = place ++ [name] → text? name = none) →
    (after.entryAt? location = some (.file content) ↔ before.entryAt? location = some (.file content))
  directories : KeepsDirectories before after

theorem stored_of_grown {before after : Disk} (directory : Path) (grown : Grown before after) :
    Stored directory (fun _ => none) before after :=
  ⟨by simp, fun location content _ => grown.file_iff location content, grown.keeps⟩

/-- Files are replaced at most. -/
theorem Stored.fileAt {directory : Path} {text? : String → Option String} {before after : Disk}
    (stored : Stored directory text? before after) {location : Location} (there : before.FileAt location) :
    after.FileAt location := by
  by_cases named : ∃ place name, after.Leads directory place ∧ location = place ++ [name] ∧
      text? name ≠ none
  · obtain ⟨place, name, leads, rfl, given⟩ := named
    obtain ⟨text, given⟩ := Option.ne_none_iff_exists'.mp given
    obtain ⟨entry, found⟩ := stored.texts name text given
    exact ⟨text.toUTF8, ((readText_at leads entry.isPlainName).mp found).2⟩
  · obtain ⟨content, there⟩ := there
    refine ⟨content, (stored.others location content fun place name leads same => ?_).mpr there⟩
    exact Classical.byContradiction fun given => named ⟨place, name, leads, same, given⟩

end Disk

namespace DirectorySink

/-- Where a new file is prepared before it is moved into the directory. -/
def temporary (directory : Path) : Path :=
  if directory.text.isEmpty then ⟨"."⟩ else directory.child "new"

/-- The disk with a new file in the place of what was there. -/
def replaced (directory path : Path) (text : String) (disk : Disk) : Except Fault Disk :=
  match disk.locate (temporary directory) with
  | .error refusal => .error (.io directory refusal)
  | .ok _ => (disk.moveInto path text.toUTF8).mapError (.io path)

/-- The disk after the emission of a file. -/
def put (directory : Path) (disk : Disk) (artifact : Artifact) : Except Fault Disk :=
  let path := directory.child artifact.fileName
  if (Path.mk artifact.fileName).isPlainName = false then
    .error (.config (.notAFileName artifact.fileName))
  else if holds disk path artifact.source then .ok disk
  else replaced directory path artifact.source disk

/-- The sink after the emission of a file. -/
def noted (sink : DirectorySink) (artifact : Artifact) : DirectorySink :=
  { sink with
    emitted := sink.emitted.insert artifact.fileName (Digest.Sha256.hexOfText artifact.source) }

theorem make_ends (directory : Path) (disk : Disk) :
    match disk.makeDirectories directory with
    | (.ok (), made) => (make directory).Ends disk (.ok ⟨directory, .empty⟩) made
    | (.error refusal, made) => (make directory).Ends disk (.error (.io directory refusal)) made := by
  rcases found : disk.makeDirectories directory with ⟨refusal | ⟨⟩, made⟩
  case error =>
    refine (Task.ends_current disk).bind ?_
    rw [found]
    exact (Task.ends_replace _ _).bind (Task.ends_throw _ _)
  case ok =>
    refine (Task.ends_current disk).bind ?_
    rw [found]
    exact (Task.ends_replace _ _).bind (Task.ends_pure _ _)

theorem replaceFile_ends (directory path : Path) (text : String) (disk : Disk) :
    match replaced directory path text disk with
    | .ok after => (replaceFile directory path text).Ends disk (.ok ()) after
    | .error fault => (replaceFile directory path text).Ends disk (.error fault) disk := by
  unfold replaced
  cases located : disk.locate (temporary directory) with
  | error refusal =>
    rw [temporary] at located
    refine (Task.ends_current disk).bind ?_
    simp only [located]
    exact Task.ends_throw _ _
  | ok location =>
    rw [temporary] at located
    cases moved : disk.moveInto path text.toUTF8 with
    | error refusal =>
      refine (Task.ends_current disk).bind ?_
      simp only [located, moved]
      exact Task.ends_throw _ _
    | ok after =>
      refine (Task.ends_current disk).bind ?_
      simp only [located, moved]
      exact Task.ends_replace _ _

theorem pathFor_of_plain (sink : DirectorySink) {name : String}
    (plain : (Path.mk name).isPlainName = true) :
    sink.pathFor name = .ok (sink.directory.child name) := by
  rw [pathFor, checkFileName, if_pos plain]
  rfl

theorem pathFor_of_not_plain (sink : DirectorySink) {name : String}
    (odd : (Path.mk name).isPlainName = false) :
    sink.pathFor name = .error (.config (.notAFileName name)) := by
  rw [pathFor, checkFileName, if_neg (Bool.eq_false_iff.mp odd)]
  rfl

theorem emit_ends (artifact : Artifact) (disk : Disk) (sink : DirectorySink) :
    match put sink.directory disk artifact with
    | .ok after => (emit artifact.fileName artifact.source).Ends (disk, sink) (.ok ())
        (after, sink.noted artifact)
    | .error fault => (emit artifact.fileName artifact.source).Ends (disk, sink) (.error fault)
        (disk, sink) := by
  have noting : ∀ after : Disk, Task.Ends (Task.onSecond (Task.change fun sink : DirectorySink =>
      sink.noted artifact) : Task Fault (Disk × DirectorySink) Unit)
      (after, sink) (.ok ()) (after, sink.noted artifact) :=
    fun after => (Task.ends_change _ sink).onSecond
  have named := Task.ends_ofExcept (sink.pathFor artifact.fileName) (disk, sink)
  cases plain : (Path.mk artifact.fileName).isPlainName with
  | false =>
    have refused := pathFor_of_not_plain sink plain
    rw [refused] at named
    simp only [put, plain, if_true]
    refine (Task.ends_current _).bind (Task.Ends.bind_error ?_)
    rw [refused]
    exact named
  | true =>
    have accepted := pathFor_of_plain sink plain
    rw [accepted] at named
    have opened : ∀ {result after}, Task.Ends (if !holds disk (sink.directory.child artifact.fileName)
          artifact.source then
        Task.onFirst (replaceFile sink.directory (sink.directory.child artifact.fileName)
          artifact.source) >>= fun _ => Task.onSecond (Task.change fun sink => sink.noted artifact)
        else Task.onSecond (Task.change fun sink => sink.noted artifact)) (disk, sink) result after →
        (emit artifact.fileName artifact.source).Ends (disk, sink) result after := by
      intro result after ends
      refine (Task.ends_current _).bind ?_
      dsimp only
      rw [accepted]
      exact named.bind ends
    have replaces := replaceFile_ends sink.directory (sink.directory.child artifact.fileName)
      artifact.source disk
    cases held : holds disk (sink.directory.child artifact.fileName) artifact.source with
    | true =>
      simp only [put, plain, held, if_true, Bool.true_eq_false, if_false]
      exact opened (by rw [held]; exact noting disk)
    | false =>
      simp only [put, plain, held, Bool.true_eq_false, Bool.false_eq_true, if_false]
      cases replacing : replaced sink.directory (sink.directory.child artifact.fileName)
          artifact.source disk with
      | error fault =>
        rw [replacing] at replaces
        exact opened (by rw [held]; exact replaces.onFirst.bind_error)
      | ok after =>
        rw [replacing] at replaces
        exact opened (by rw [held]; exact replaces.onFirst.bind (noting after))

theorem blind_emit (name text : String) : (emit name text).Blind := by
  rintro ⟨disk, sink⟩
  have ends := emit_ends ⟨name, text⟩ disk sink
  split at ends
  · exact ⟨_, _, ends⟩
  · exact ⟨_, _, ends⟩

/-! ### Several files -/

/-- The disk after the emission of some files in order. -/
def putAll (directory : Path) (disk : Disk) (journal : Journal) : Except Fault Disk :=
  journal.foldlM (put directory) disk

theorem putAll_cons (directory : Path) (disk : Disk) (artifact : Artifact) (rest : Journal) :
    putAll directory disk (artifact :: rest) =
      put directory disk artifact >>= fun middle => putAll directory middle rest := rfl

/-- The digests of the last texts of a journal. -/
def digests (journal : Journal) (before : NameMap String) : NameMap String :=
  journal.foldl (fun digests artifact =>
    digests.insert artifact.fileName (Digest.Sha256.hexOfText artifact.source)) before

theorem emitted_foldl_noted (sink : DirectorySink) (journal : Journal) :
    (journal.foldl noted sink).emitted = digests journal sink.emitted := by
  induction journal generalizing sink with
  | nil => rfl
  | cons artifact rest ih => exact ih (sink.noted artifact)

theorem find?_digests (journal : Journal) (before : NameMap String) (name : String) :
    (digests journal before).find? name =
      ((lastText? journal name).map Digest.Sha256.hexOfText).or (before.find? name) := by
  induction journal generalizing before with
  | nil => rfl
  | cons artifact rest ih =>
    rw [digests, List.foldl_cons, ← digests, ih, lastText?_cons, NameMap.find?_insert]
    cases lastText? rest name with
    | some text => rfl
    | none => by_cases same : name = artifact.fileName <;> simp [same]

theorem emitAll_ends_of_putAll {sink : DirectorySink} {disk after : Disk} {journal : Journal}
    (stored : putAll sink.directory disk journal = .ok after) :
    (DirectorySink.sink.emitAll journal).Ends (disk, sink) (.ok ()) (after, journal.foldl noted sink) := by
  induction journal generalizing disk sink with
  | nil =>
    obtain rfl := Except.ok.inj stored
    exact Task.ends_pure _ _
  | cons artifact rest ih =>
    rw [putAll_cons, Except.bind_eq_ok] at stored
    obtain ⟨middle, first, stored⟩ := stored
    have ends := emit_ends artifact disk sink
    rw [first] at ends
    exact ends.bind (ih stored)

theorem putAll_of_emitAll_ends {sink : DirectorySink} {disk : Disk} {after : Disk × DirectorySink}
    {journal : Journal}
    (ends : (DirectorySink.sink.emitAll journal).Ends (disk, sink) (.ok ()) after) :
    putAll sink.directory disk journal = .ok after.1 ∧ after.2 = journal.foldl noted sink := by
  induction journal generalizing disk sink with
  | nil =>
    obtain ⟨-, rfl⟩ := ends.unique (Task.ends_pure _ _)
    exact ⟨rfl, rfl⟩
  | cons artifact rest ih =>
    rw [Sink.emitAll_cons] at ends
    obtain ⟨_, ⟨middle, sink'⟩, begun, finished⟩ := ends.of_bind (blind_emit _ _)
      fun _ => Sink.blind_emitAll blind_emit rest
    have step := emit_ends artifact disk sink
    split at step
    · rename_i middle' first
      obtain ⟨-, same⟩ := begun.unique step
      obtain ⟨rfl, rfl⟩ := Prod.mk.inj same
      obtain ⟨stored, noted⟩ := ih finished
      exact ⟨by rw [putAll_cons, first]; exact stored, noted⟩
    · exact absurd (begun.unique step).1 (by simp)

/-! ### What is in the directory -/

theorem holds_iff {disk : Disk} {path : Path} {text : String} :
    holds disk path text = true ↔ disk.readText path = .ok text := by
  unfold holds
  cases disk.readText path with
  | error refusal => simp
  | ok found => simp

theorem put_spec {directory : Path} {disk after : Disk} {artifact : Artifact}
    (stored : put directory disk artifact = .ok after) :
    Fits directory artifact.fileName ∧ ∃ place, disk.Leads directory place ∧
      disk.entryAt? (place ++ [artifact.fileName]) ≠ some .directory ∧
      Edited place (.only artifact.fileName (some artifact.source.toUTF8)) disk after := by
  unfold put at stored
  dsimp only at stored
  split at stored
  · simp at stored
  · rename_i plain
    rw [Bool.not_eq_false] at plain
    split at stored
    · rename_i held
      obtain rfl := Except.ok.inj stored
      obtain ⟨fits, place, leads, found⟩ := (readText_eq_ok_iff plain).mp (holds_iff.mp held)
      exact ⟨fits, place, leads, by simp [found], edited_unchanged found⟩
    · unfold replaced at stored
      split at stored
      · simp at stored
      · cases moved : disk.moveInto (directory.child artifact.fileName) artifact.source.toUTF8 with
        | error refusal =>
          rw [moved] at stored
          cases stored
        | ok after' =>
          rw [moved] at stored
          obtain rfl := Except.ok.inj stored
          obtain ⟨fits, place, leads, free, rfl⟩ := (moveInto_eq_ok_iff plain).mp moved
          exact ⟨fits, place, leads, free, edited_set _ free⟩

/-- Where a file of a long enough name can be written, new files can be prepared. -/
theorem locate_temporary {disk : Disk} {directory : Path} {place : Location}
    (leads : disk.Leads directory place) (room : Fits directory "new") :
    ∃ location, disk.locate (temporary directory) = .ok location := by
  unfold temporary
  split
  · rename_i empty
    have here : directory.orHere = ⟨"."⟩ := by simp [orHere, empty]
    exact ⟨place, here ▸ leads.1⟩
  · exact ⟨_, locate_child_of_fits leads room⟩

theorem exists_put {directory : Path} {disk : Disk} {artifact : Artifact} {place : Location}
    (leads : disk.Leads directory place) (room : Fits directory "new")
    (fits : Fits directory artifact.fileName)
    (free : disk.entryAt? (place ++ [artifact.fileName]) ≠ some .directory) :
    ∃ after, put directory disk artifact = .ok after := by
  have plain := fits.entry.isPlainName
  obtain ⟨location, located⟩ := locate_temporary leads room
  have moved : disk.moveInto (directory.child artifact.fileName) artifact.source.toUTF8 =
      .ok (disk.set (place ++ [artifact.fileName]) (.file artifact.source.toUTF8)) :=
    (moveInto_eq_ok_iff plain).mpr ⟨fits, place, leads, free, rfl⟩
  have replacing : replaced directory (directory.child artifact.fileName) artifact.source disk =
      .ok (disk.set (place ++ [artifact.fileName]) (.file artifact.source.toUTF8)) := by
    unfold replaced
    rw [located]
    dsimp only
    rw [moved]
    rfl
  simp only [put, plain, replacing, Bool.true_eq_false, if_false]
  split
  · exact ⟨_, rfl⟩
  · exact ⟨_, rfl⟩

/-- After an emission the last text of each name is in the directory. -/
theorem putAll_spec {directory : Path} {disk after : Disk} {journal : Journal}
    (stored : putAll directory disk journal = .ok after) :
    (∀ artifact ∈ journal, Fits directory artifact.fileName) ∧ SameDirectories disk after ∧
      ∀ place, disk.Leads directory place → Edited place (.ofJournal journal) disk after := by
  induction journal generalizing disk with
  | nil =>
    obtain rfl := Except.ok.inj stored
    exact ⟨by simp, .refl disk, fun place _ => .refl place disk⟩
  | cons artifact rest ih =>
    rw [putAll_cons, Except.bind_eq_ok] at stored
    obtain ⟨middle, first, stored⟩ := stored
    obtain ⟨fits, place, leads, -, edited⟩ := put_spec first
    obtain ⟨fits', same', edited'⟩ := ih stored
    refine ⟨List.forall_mem_cons.mpr ⟨fits, fits'⟩, edited.same.trans same', ?_⟩
    intro place' leads'
    obtain rfl := leads.unique leads'
    have later := edited' place (edited.same.leads_iff.mpr leads)
    exact Edit.ofJournal_cons artifact rest ▸ edited.trans later

/-- An emission into a directory leaves the last text of each name there. -/
theorem stored_of_putAll {directory : Path} {disk made after : Disk} {journal : Journal}
    (grown : Grown disk made) (stored : putAll directory made journal = .ok after) :
    Stored directory (lastText? journal) disk after := by
  obtain ⟨fits, same, inside⟩ := putAll_spec stored
  cases journal with
  | nil =>
    obtain rfl := Except.ok.inj stored
    exact stored_of_grown directory grown
  | cons artifact rest =>
  rw [putAll_cons, Except.bind_eq_ok] at stored
  obtain ⟨middle, first, -⟩ := stored
  obtain ⟨-, place, leads, -⟩ := put_spec first
  have edited := inside place leads
  have leads' := same.leads_iff.mpr leads
  refine ⟨fun name text last => ?_, fun location content other => ?_,
    grown.keeps.trans same.keeps⟩
  · have room := fits _ (mem_of_lastText? last)
    refine ⟨room.entry, (readText_at leads' room.entry.isPlainName).mpr ⟨room, ?_⟩⟩
    exact edited.inside_some (by rw [Edit.ofJournal, last]; rfl)
  · rw [← grown.file_iff]
    by_cases kept : after.entryAt? location = made.entryAt? location
    · rw [kept]
    · obtain ⟨name, rfl, spoken⟩ := edited.of_changed kept
      rw [Edit.ofJournal, other place name leads' rfl] at spoken
      contradiction

theorem exists_putAll {directory : Path} {disk : Disk} {journal : Journal} {place : Location}
    (leads : disk.Leads directory place) (room : Fits directory "new")
    (fits : ∀ artifact ∈ journal, Fits directory artifact.fileName)
    (free : ∀ artifact ∈ journal, disk.entryAt? (place ++ [artifact.fileName]) ≠ some .directory) :
    ∃ after, putAll directory disk journal = .ok after := by
  induction journal generalizing disk with
  | nil => exact ⟨disk, rfl⟩
  | cons artifact rest ih =>
    obtain ⟨middle, first⟩ := exists_put leads room (fits artifact (by simp)) (free artifact (by simp))
    obtain ⟨-, place', leads', -, edited⟩ := put_spec first
    obtain ⟨after, stored⟩ := ih (edited.same.leads_iff.mpr leads)
      (fun other member => fits other (by simp [member]))
      (fun other member directory => free other (by simp [member])
        ((edited.same.directory _).mp directory))
    exact ⟨after, by rw [putAll_cons, first]; exact stored⟩

end DirectorySink

end Scaffold
