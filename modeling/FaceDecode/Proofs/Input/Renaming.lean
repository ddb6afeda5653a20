import FaceDecode.Proofs.Input.Contents
import FaceDecode.Proofs.Storage.Renaming

namespace FaceDecode.FrameFolders

/-- New names for the tensor files in a folder, all of them different. Under its new name each can be
found and has the extension of the format, so that it is read; what else is in the folder keeps its
name. -/
structure Renames (d : Disk) (format : TensorFormat) (folder : String) (p : Place)
    (σ : String → String) : Prop where
  found : d.folder? folder = some p
  named : ∀ name ∈ d.namesIn p, Path.IsName name
  distinct : Set.InjOn σ {name | name ∈ d.namesIn p}
  kept : ∀ name ∈ d.namesIn p, tensor? d format folder name = none → σ name = name
  fits : ∀ name ∈ d.namesIn p, tensor? d format folder name ≠ none → Path.IsName (σ name) ∧
    Path.hasExtension (σ name) format.extension = true ∧
    (Path.join folder (σ name)).utf8ByteSize ≤ Path.maxBytes

variable {s : FrameFolders} {d : Disk} {format : TensorFormat} {folder name : String} {p : Place}
  {σ : String → String}

namespace Renames

theorem solid (h : Renames d format folder p σ) (name : String)
    (inside : d.isFolder (p ++ [name]) = true) : σ name = name := by
  have node := Disk.isFolder_iff.1 inside
  have listed := Disk.mem_namesIn.2 (Disk.mem_of_node? node (by simp))
  apply h.kept name listed
  rw [Option.eq_none_iff_forall_ne_some]
  intro content held
  obtain ⟨-, -, node'⟩ := (tensor?_eq_some_iff h.found (h.named name listed)).1 held
  rw [node] at node'
  cases node'

theorem tensor?_rename (h : Renames d format folder p σ) (listed : name ∈ d.namesIn p) :
    tensor? (d.rename p σ) format folder (σ name) = tensor? d format folder name := by
  have found : (d.rename p σ).folder? folder = some p :=
    (Disk.folder?_rename h.distinct h.solid folder).trans h.found
  have node : (d.rename p σ).node? (p ++ [σ name]) = d.node? (p ++ [name]) := by
    rw [← Disk.node?_rename h.distinct (Disk.mem_namesIn.1 listed), Disk.moved_concat]
  have old := h.named name listed
  cases held : tensor? d format folder name with
  | none =>
    have same := h.kept name listed held
    rw [same] at node ⊢
    rw [Option.eq_none_iff_forall_ne_some] at held ⊢
    intro content
    rw [ne_eq, tensor?_eq_some_iff found old, node, ← tensor?_eq_some_iff h.found old]
    exact held content
  | some content =>
    obtain ⟨new, extension, short⟩ := h.fits name listed (by simp [held])
    obtain ⟨-, -, there⟩ := (tensor?_eq_some_iff h.found old).1 held
    rw [tensor?_eq_some_iff found new, node]
    exact ⟨extension, Disk.isPath_join h.found new short, there⟩

theorem contents_rename (h : Renames d format folder p σ) :
    contents (d.rename p σ) format folder p = contents d format folder p := by
  rw [contents, contents, Disk.namesIn_rename, List.filterMap_map]
  exact List.filterMap_congr fun name listed ↦ h.tensor?_rename listed

end Renames

/-- A frame does not depend on the names of its tensor files: they may be renamed so that they are read
in any other order, and the folder holds the same frame, or none as before. -/
theorem loadFrame_rename (h : Renames d s.format folder p σ) (log log' : Log) :
    ((s.loadFrame (d.rename p σ) folder).run.run log').1.toOption =
      ((s.loadFrame d folder).run.run log).1.toOption := by
  have found : (d.rename p σ).folder? folder = some p :=
    (Disk.folder?_rename h.distinct h.solid folder).trans h.found
  obtain ⟨_, before, -⟩ := (s.quiet_loadFrame d folder).shown_eq log
  obtain ⟨_, after, -⟩ := (s.quiet_loadFrame (d.rename p σ) folder).shown_eq log'
  rw [before, after, toOption_loaded found, toOption_loaded h.found, h.contents_rename]

theorem renames_sampleDisk (content : Slot → ByteArray) :
    Renames (sampleDisk content) .raw "/f" ["f"] (Equiv.swap "0.bin" "8.bin") := by
  have listed (name : String) (h : name ∈ (sampleDisk content).namesIn ["f"]) :
      ∃ stem slot, (stem, slot) ∈ sampleFiles ∧ name = stem ++ "." ++ "bin" := by
    rw [namesIn_sampleDisk] at h
    obtain ⟨⟨stem, slot⟩, there, rfl⟩ := List.mem_map.1 h
    exact ⟨stem, slot, there, rfl⟩
  have swapped : ∀ file ∈ sampleFiles, ∃ file' ∈ sampleFiles,
      Equiv.swap "0.bin" "8.bin" (file.1 ++ "." ++ "bin") = file'.1 ++ "." ++ "bin" := by
    decide
  refine ⟨folder?_sampleDisk content, ?_, (Equiv.injective _).injOn, ?_, ?_⟩
  · intro name h
    obtain ⟨stem, slot, there, rfl⟩ := listed name h
    exact (sample_names there).2.1
  · intro name h bare
    obtain ⟨stem, slot, there, rfl⟩ := listed name h
    rw [tensor?_sampleDisk content there] at bare
    cases bare
  · intro name h _
    obtain ⟨stem, slot, there, rfl⟩ := listed name h
    obtain ⟨⟨stem', slot'⟩, there', same⟩ := swapped _ there
    obtain ⟨begun, named, short⟩ := sample_names there'
    rw [same]
    exact ⟨named, hasExtension_dot .raw begun named,
      (Path.utf8ByteSize_join_le _ _).trans short⟩

theorem loadFrame_rename_swapped :
    ∃ (s : FrameFolders) (d d' : Disk) (f : Frame),
      Renames d s.format "/f" ["f"] (Equiv.swap "0.bin" "8.bin") ∧
      d' = d.rename ["f"] (Equiv.swap "0.bin" "8.bin") ∧
      d'.node? ["f", "0.bin"] = d.node? ["f", "8.bin"] ∧
      ∀ log, ((s.loadFrame d "/f").run.run log).1 = .ok f ∧
        ((s.loadFrame d' "/f").run.run log).1 = .ok f := by
  obtain ⟨content, sized⟩ : ∃ content : Slot → ByteArray,
      ∀ slot, (content slot).size = 4 * slot.length #v[1, 3, 4] :=
    ⟨fun slot ↦ ⟨.replicate (4 * slot.length #v[1, 3, 4]) 0⟩, fun slot ↦ Array.size_replicate⟩
  let s : FrameFolders := ⟨.raw, #v[1, 3, 4], []⟩
  obtain ⟨f, loaded⟩ : ∃ f, s.loaded (sampleDisk content) "/f" = .ok f :=
    exists_loaded_sampleDisk (by decide) [] sized
  have renames : Renames (sampleDisk content) s.format "/f" ["f"] (Equiv.swap "0.bin" "8.bin") :=
    renames_sampleDisk content
  refine ⟨s, sampleDisk content, _, f, renames, rfl, rfl, fun log ↦ ?_⟩
  obtain ⟨_, ran, -⟩ := (s.quiet_loadFrame (sampleDisk content) "/f").shown_eq log
  have same := loadFrame_rename renames log log
  rw [ran, loaded] at same ⊢
  exact ⟨rfl, toOption_eq_some_iff.1 same⟩

end FaceDecode.FrameFolders
