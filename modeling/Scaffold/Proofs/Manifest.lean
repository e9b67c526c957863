import Scaffold.Manifest
import Scaffold.Proofs.Json
import Scaffold.Proofs.NameMap

/-! A manifest is read back from its text, with its artifacts in order. -/

namespace Scaffold.Manifest

theorem canonical_toDocument (manifest : Manifest) : Json.Canonical manifest.toDocument := by
  have entry : ∀ kept : ManifestEntry, Json.Canonical (entryToDocument kept) := by
    intro kept
    refine .table fun field member => ?_
    simp only [List.mem_cons, List.not_mem_nil, or_false] at member
    rcases member with rfl | rfl
    · exact .text kept.feature
    · exact .text kept.contentHash
  refine .table fun field member => ?_
  simp only [List.mem_cons, List.not_mem_nil, or_false] at member
  rcases member with rfl | rfl | rfl | rfl
  · exact .text _
  · exact .text _
  · exact .text _
  · refine .table fun field member => ?_
    obtain ⟨⟨name, kept⟩, -, rfl⟩ := List.mem_map.mp member
    exact entry kept

theorem entryOfDocument?_entryToDocument (entry : ManifestEntry) :
    entryOfDocument? (entryToDocument entry) = some entry := by
  simp [entryOfDocument?, entryToDocument, Document.fields?, Document.Fields.required?,
    Document.Fields.find?, Document.asText?]

theorem artifactsOfDocument?_table (entries : List (String × ManifestEntry)) :
    artifactsOfDocument? (.table (entries.map fun (name, entry) => (name, entryToDocument entry))) =
      some (.ofList entries) := by
  have read : (entries.map fun named => (named.1, entryToDocument named.2)).mapM
      (fun named => (entryOfDocument? named.2).bind fun entry => some (named.1, entry)) =
      some entries := by
    induction entries with
    | nil => rfl
    | cons first rest ih =>
      obtain ⟨name, entry⟩ := first
      rw [List.map_cons, List.mapM_cons, ih]
      simp [entryOfDocument?_entryToDocument]
  rw [artifactsOfDocument?]
  exact congrArg (fun found => found.bind fun entries => some (NameMap.ofList entries)) read

theorem ofDocument?_toDocument (manifest : Manifest) : ofDocument? manifest.toDocument = some manifest := by
  have artifacts := artifactsOfDocument?_table manifest.artifacts.entries
  rw [NameMap.ofList_entries] at artifacts
  simp [ofDocument?, toDocument, Document.fields?, Document.Fields.required?,
    Document.Fields.find?, Document.asText?, artifacts]

theorem parse_print (manifest : Manifest) : parse manifest.print = some manifest := by
  rw [parse, print, Json.parse_print manifest.canonical_toDocument]
  exact ofDocument?_toDocument manifest

end Scaffold.Manifest
