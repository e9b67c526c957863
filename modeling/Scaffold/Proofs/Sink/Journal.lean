import Scaffold.Pipeline
import Scaffold.Proofs.NameMap
import Scaffold.Proofs.Task
import Scaffold.Sink

/-! Emission as a list of files in order. A journal is such a list, and for each name the last file of
that name counts. -/

namespace Scaffold

/-- The text that was emitted last under a name. -/
def lastText? (journal : List Artifact) (name : String) : Option String :=
  (journal.reverse.find? (·.fileName == name)).map (·.source)

theorem lastText?_cons (artifact : Artifact) (journal : List Artifact) (name : String) :
    lastText? (artifact :: journal) name =
      (lastText? journal name).or (if name = artifact.fileName then some artifact.source else none) := by
  unfold lastText?
  rw [List.reverse_cons, List.find?_append]
  cases journal.reverse.find? (·.fileName == name) with
  | some last => rfl
  | none =>
    by_cases same : name = artifact.fileName
    · simp [same]
    · simp [same, Ne.symm same]

theorem lastText?_eq_none_iff {journal : List Artifact} {name : String} :
    lastText? journal name = none ↔ ∀ artifact ∈ journal, artifact.fileName ≠ name := by
  simp [lastText?]

theorem mem_of_lastText? {journal : List Artifact} {name text : String}
    (last : lastText? journal name = some text) : Artifact.mk name text ∈ journal := by
  obtain ⟨artifact, found, rfl⟩ := Option.map_eq_some_iff.mp last
  obtain rfl : artifact.fileName = name := by simpa using List.find?_some found
  exact List.mem_reverse.mp (List.mem_of_find?_eq_some found)

theorem exists_lastText? {journal : List Artifact} {artifact : Artifact} (member : artifact ∈ journal) :
    ∃ text, lastText? journal artifact.fileName = some text :=
  Option.ne_none_iff_exists'.mp fun none => lastText?_eq_none_iff.mp none artifact member rfl

/-- Where a name stands for one file only, it does not matter which one is the last. -/
theorem lastText?_eq_some_iff {journal : List Artifact} {name text : String}
    (single : ∀ first ∈ journal, ∀ second ∈ journal, first.fileName = second.fileName →
      first = second) : lastText? journal name = some text ↔ Artifact.mk name text ∈ journal := by
  refine ⟨mem_of_lastText?, fun member => ?_⟩
  obtain ⟨text', last⟩ := exists_lastText? member
  have same := single _ (mem_of_lastText? last) _ member rfl
  rw [last, (Artifact.mk.inj same).2]

/-- Files as a table in which later ones replace earlier ones. -/
theorem find?_foldl_artifacts (journal : List Artifact) (texts : NameMap String) (name : String) :
    (journal.foldl (fun texts artifact => texts.insert artifact.fileName artifact.source) texts).find?
      name = (lastText? journal name).or (texts.find? name) := by
  induction journal generalizing texts with
  | nil => rfl
  | cons artifact rest ih =>
    rw [List.foldl_cons, ih, lastText?_cons, NameMap.find?_insert]
    cases lastText? rest name with
    | some text => rfl
    | none => by_cases same : name = artifact.fileName <;> simp [same]

theorem foldl_artifacts_eq_ofList (journal : List Artifact) :
    (journal.foldl (fun texts artifact => texts.insert artifact.fileName artifact.source) .empty) =
      NameMap.ofList (journal.map fun artifact => (artifact.fileName, artifact.source)) := by
  rw [NameMap.ofList, List.foldl_map]

/-! ### Sinks -/

namespace Sink

variable {σ : Type}

/-- Emits files one after the other. -/
def emitAll (sink : Sink σ) (artifacts : List Artifact) : Task Fault σ Unit :=
  artifacts.forM fun artifact => sink.emit artifact.fileName artifact.source

theorem emitAll_cons (sink : Sink σ) (artifact : Artifact) (rest : List Artifact) :
    sink.emitAll (artifact :: rest) =
      sink.emit artifact.fileName artifact.source >>= fun _ => sink.emitAll rest := rfl

theorem emitAll_append (sink : Sink σ) (first second : List Artifact) :
    sink.emitAll (first ++ second) = sink.emitAll first >>= fun _ => sink.emitAll second := by
  induction first with
  | nil => simp [emitAll]
  | cons artifact rest ih => rw [List.cons_append, emitAll_cons, emitAll_cons, ih, bind_assoc]

/-- The files of some units are emitted in order. -/
theorem forM_emitUnit (sink : Sink σ) (units : List PreparedUnit) :
    units.forM (Pipeline.emitUnit sink) = sink.emitAll (units.flatMap (·.artifacts)) := by
  induction units with
  | nil => rfl
  | cons unit rest ih =>
    rw [List.flatMap_cons, emitAll_append, ← ih]
    rfl

theorem blind_emitAll {sink : Sink σ} (blind : ∀ name text, (sink.emit name text).Blind)
    (artifacts : List Artifact) : (sink.emitAll artifacts).Blind := by
  induction artifacts with
  | nil => exact Task.blind_pure _
  | cons artifact rest ih => exact (blind _ _).bind fun _ => ih

/-- A sink that only changes its state takes all files. -/
theorem emitAll_ends_of_change {sink : Sink σ} {change : σ → Artifact → σ}
    (takes : ∀ state artifact, (sink.emit artifact.fileName artifact.source).Ends state (.ok ())
      (change state artifact)) (artifacts : List Artifact) (state : σ) :
    (sink.emitAll artifacts).Ends state (.ok ()) (artifacts.foldl change state) := by
  induction artifacts generalizing state with
  | nil => exact Task.ends_pure _ _
  | cons artifact rest ih => exact (takes state artifact).bind (ih _)

end Sink

/-- What was emitted, in order. -/
abbrev Journal := List Artifact

namespace Journal

/-- A sink that takes every file and writes it down. -/
def sink : Sink Journal where
  emit fileName source := Task.change fun journal => journal ++ [⟨fileName, source⟩]

theorem emit_ends (artifact : Artifact) (journal : Journal) :
    (sink.emit artifact.fileName artifact.source).Ends journal (.ok ()) (journal ++ [artifact]) :=
  Task.ends_change (fun journal : Journal => journal ++ [artifact]) journal

theorem blind_emit (name text : String) : (sink.emit name text).Blind :=
  fun journal => ⟨_, _, emit_ends ⟨name, text⟩ journal⟩

theorem emitAll_ends (journal before : Journal) :
    (sink.emitAll journal).Ends before (.ok ()) (before ++ journal) := by
  induction journal generalizing before with
  | nil =>
    rw [List.append_nil]
    exact Task.ends_pure _ _
  | cons artifact rest ih =>
    rw [List.append_cons]
    exact (emit_ends artifact before).bind (ih (before ++ [artifact]))

end Journal

namespace MemorySink

theorem emit_ends (artifact : Artifact) (texts : MemorySink) :
    (sink.emit artifact.fileName artifact.source).Ends texts (.ok ())
      (texts.insert artifact.fileName artifact.source) :=
  Task.ends_change (fun texts : MemorySink => texts.insert artifact.fileName artifact.source) texts

theorem blind_emit (name text : String) : (sink.emit name text).Blind :=
  fun texts => ⟨_, _, emit_ends ⟨name, text⟩ texts⟩

theorem emitAll_ends (journal : Journal) (texts : MemorySink) :
    (sink.emitAll journal).Ends texts (.ok ()) (journal.foldl
      (fun texts artifact => texts.insert artifact.fileName artifact.source) texts) :=
  Sink.emitAll_ends_of_change (fun texts artifact => emit_ends artifact texts) journal texts

end MemorySink

end Scaffold
