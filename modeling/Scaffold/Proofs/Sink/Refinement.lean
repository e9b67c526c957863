import Scaffold.Proofs.Sink.Directory

/-! A directory sink keeps what a table of texts keeps that gets the files which the directory accepts.
A file that is refused, or that is there already, leaves the disk alone. -/

namespace Scaffold

open Disk Path

namespace NameMap

variable {α β : Type}

theorem insertInto_map (f : α → β) (key : String) (value : α) (entries : List (String × α)) :
    insertInto key (f value) (entries.map fun (name, kept) => (name, f kept)) =
      (insertInto key value entries).map fun (name, kept) => (name, f kept) := by
  induction entries with
  | nil => rfl
  | cons entry rest ih =>
    obtain ⟨name, kept⟩ := entry
    rw [List.map_cons, insertInto, insertInto]
    split
    · rfl
    · split
      · rfl
      · rw [ih, List.map_cons]

end NameMap

namespace Sink

variable {σ : Type}

/-- Emits files one after the other, whether the ones before them were accepted or not. -/
def emitEach (sink : Sink σ) (artifacts : List Artifact) : Task Fault σ (List (Except Fault Unit)) :=
  artifacts.mapM fun artifact => Task.outcome (sink.emit artifact.fileName artifact.source)

end Sink

/-- The files whose emission was successful. -/
def Journal.accepted (calls : Journal) (results : List (Except Fault Unit)) : Journal :=
  (calls.zip results).filterMap fun (artifact, result) =>
    match result with
    | .ok () => some artifact
    | .error _ => none

namespace DirectorySink

/-- The digests of a sink are those of the texts that a table keeps of the same files. -/
theorem entries_digests (journal : Journal) {before : NameMap String} {texts : MemorySink}
    (same : before.entries = texts.entries.map fun (name, text) => (name, Digest.Sha256.hexOfText text)) :
    (digests journal before).entries =
      (journal.foldl (fun texts artifact => texts.insert artifact.fileName artifact.source)
        texts).entries.map fun (name, text) => (name, Digest.Sha256.hexOfText text) := by
  induction journal generalizing before texts with
  | nil => exact same
  | cons artifact rest ih =>
    have inserted := NameMap.insertInto_map Digest.Sha256.hexOfText artifact.fileName artifact.source
      texts.entries
    rw [← same] at inserted
    exact ih inserted

theorem emitEach_ends (calls : Journal) (disk : Disk) (sink : DirectorySink) :
    ∃ results after, (DirectorySink.sink.emitEach calls).Ends (disk, sink) (.ok results)
        (after, (calls.accepted results).foldl noted sink) ∧
      results.length = calls.length ∧
      putAll sink.directory disk (calls.accepted results) = .ok after := by
  induction calls generalizing disk sink with
  | nil => exact ⟨[], disk, Task.ends_pure _ _, rfl, rfl⟩
  | cons artifact rest ih =>
    have step := emit_ends artifact disk sink
    cases first : put sink.directory disk artifact with
    | error fault =>
      rw [first] at step
      obtain ⟨results, after, ends, same, stored⟩ := ih disk sink
      refine ⟨.error fault :: results, after, ?_, by simp [same], stored⟩
      rw [Sink.emitEach, List.mapM_cons]
      exact step.outcome.bind (ends.bind (Task.ends_pure _ _))
    | ok middle =>
      rw [first] at step
      obtain ⟨results, after, ends, same, stored⟩ := ih middle (sink.noted artifact)
      refine ⟨.ok () :: results, after, ?_, by simp [same], ?_⟩
      · rw [Sink.emitEach, List.mapM_cons]
        exact step.outcome.bind (ends.bind (Task.ends_pure _ _))
      · exact (congrArg (· >>= _) first).trans stored

theorem make_spec {directory : Path} {disk start : Disk} {sink : DirectorySink} {reports : List Warning}
    (made : (make directory).perform disk = (.ok sink, start, reports)) :
    sink = ⟨directory, .empty⟩ ∧ Grown disk start := by
  have ends := make_ends directory disk
  split at ends
  · rename_i start' directories
    obtain ⟨reports', performed⟩ := ends.perform
    rw [made] at performed
    obtain ⟨same, rfl, -⟩ := by simpa using performed
    exact ⟨same, grown_makeDirectories directories⟩
  · obtain ⟨reports', performed⟩ := ends.perform
    rw [made] at performed
    simp at performed

theorem checkFileName_ok_iff {name : String} :
    checkFileName name = .ok () ↔ (Path.mk name).isPlainName = true := by
  unfold checkFileName
  split <;> simp_all

/-- An emission that fails changes nothing, one of a text that is there already does not touch the disk,
and one under a name that fits is refused for no reason but a directory of that name. -/
structure Careful (name text : String) (before : Disk × DirectorySink) (result : Except Fault Unit)
    (after : Disk × DirectorySink) : Prop where
  failed : ∀ fault, result = .error fault → after = before
  unchanged : before.1.readText (before.2.directory.child name) = .ok text →
    after.1 = before.1 ∧ (checkFileName name = .ok () → result = .ok ())
  accepted : ∀ place, before.1.Leads before.2.directory place → Fits before.2.directory name →
    Fits before.2.directory "new" → before.1.entryAt? (place ++ [name]) ≠ some .directory → result = .ok ()

theorem emit_careful (name text : String) (before : Disk × DirectorySink) :
    ∃ result after reports, (emit name text).perform before = (result, after, reports) ∧
      Careful name text before result after := by
  obtain ⟨disk, sink⟩ := before
  have ends := emit_ends ⟨name, text⟩ disk sink
  cases stored : put sink.directory disk ⟨name, text⟩ with
  | error fault =>
    rw [stored] at ends
    obtain ⟨reports, performed⟩ := ends.perform
    refine ⟨_, _, reports, performed, fun _ _ => rfl, fun held => ⟨rfl, fun named => ?_⟩, ?_⟩
    · simp [put, checkFileName_ok_iff.mp named, holds_iff.mpr held] at stored
    · intro place leads fits room free
      obtain ⟨after, accepted⟩ := @exists_put _ _ ⟨name, text⟩ _ leads room fits free
      rw [stored] at accepted
      contradiction
  | ok after =>
    rw [stored] at ends
    obtain ⟨reports, performed⟩ := ends.perform
    refine ⟨_, _, reports, performed, by simp, fun held => ⟨?_, fun _ => rfl⟩, fun _ _ _ _ _ => rfl⟩
    unfold put at stored
    dsimp only at stored
    rw [holds_iff.mpr held] at stored
    split at stored
    · contradiction
    · exact (Except.ok.inj stored).symm

/-- What a sink records and leaves on the disk is what a table of texts has after it got the files that
the sink accepted: the same names, each with the digest of its text, and the texts in the directory. All
other files are as they were on the first disk. -/
def RefinesMemory (disk : Disk) (start : Disk × DirectorySink) (calls : Journal) : Prop :=
  ∃ results after sink reports texts reports',
    (DirectorySink.sink.emitEach calls).perform start = (.ok results, (after, sink), reports) ∧
    results.length = calls.length ∧
    (MemorySink.sink.emitAll (calls.accepted results)).perform .empty = (.ok (), texts, reports') ∧
    sink.emitted.entries = texts.entries.map (fun (name, text) => (name, Digest.Sha256.hexOfText text)) ∧
    Stored start.2.directory texts.find? disk after

/-- Any emissions into a new sink for a directory come to what they come to in memory, as far as they
are accepted, and each emission in any state is careful. -/
theorem refines_memory_sink {directory : Path} {disk start : Disk} {sink : DirectorySink}
    {reports : List Warning}
    (made : (make directory).perform disk = (.ok sink, start, reports)) (calls : Journal) :
    sink.directory = directory ∧ RefinesMemory disk (start, sink) calls ∧
      ∀ name text before, ∃ result after reports,
        (emit name text).perform before = (result, after, reports) ∧
        Careful name text before result after := by
  obtain ⟨rfl, grown⟩ := make_spec made
  refine ⟨rfl, ?_, emit_careful⟩
  obtain ⟨results, after, ends, same, stored⟩ := emitEach_ends calls start ⟨directory, .empty⟩
  obtain ⟨reports', performed⟩ := ends.perform
  obtain ⟨reports'', gathered⟩ := (MemorySink.emitAll_ends (calls.accepted results) .empty).perform
  refine ⟨results, after, _, reports', _, reports'', performed, same, gathered, ?_, ?_⟩
  · rw [emitted_foldl_noted]
    exact entries_digests _ rfl
  · have texts := stored_of_putAll grown stored
    have looked : lastText? (calls.accepted results) = ((calls.accepted results).foldl
        (fun texts artifact => texts.insert artifact.fileName artifact.source)
        (.empty : MemorySink)).find? := by
      funext name
      simp [find?_foldl_artifacts]
    exact looked ▸ texts

theorem refines_memory_sink_order :
    let disk : Disk := ⟨[(["out"], .directory), (["out", "Item.g.rs"], .directory),
      (["out", "Order.g.rs"], .file "mod old;".toUTF8)], []⟩
    let calls : Journal := [⟨"Order.g.rs", "mod order;"⟩, ⟨"a/b", "mod b;"⟩, ⟨"Item.g.rs", "mod item;"⟩,
      ⟨"Order.g.rs", "mod last;"⟩]
    ∃ sink start reports, (make ⟨"out"⟩).perform disk = (.ok sink, start, reports) ∧
      RefinesMemory disk (start, sink) calls := by
  intro disk calls
  have makes : ((make ⟨"out"⟩).perform disk).1.toOption.isSome = true := by decide +kernel
  obtain ⟨sink, made⟩ := Option.isSome_iff_exists.mp makes
  have made : (make ⟨"out"⟩).perform disk = (.ok sink, _, _) :=
    Prod.ext (Except.toOption_eq_some_iff.mp made) rfl
  obtain ⟨-, refined, -⟩ := refines_memory_sink made calls
  exact ⟨sink, _, _, made, refined⟩

end DirectorySink

end Scaffold
