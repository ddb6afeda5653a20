import FaceDecode.Proofs.Input.Loading
import FaceDecode.Proofs.Storage.Paths
import FaceDecode.Proofs.Tensor.Building
import FaceDecode.Proofs.TensorFile.Words
import Mathlib

namespace FaceDecode

theorem toList_loop (content : ByteArray) (i : Nat) (before : List UInt8) :
    ByteArray.toList.loop content i before = before.reverse ++ content.data.toList.drop i := by
  fun_induction ByteArray.toList.loop content i before with
  | case1 i before inside ih =>
    have here : content.get! i = content.data.toList[i] := by
      simp [ByteArray.get!, inside]
    rw [ih, List.drop_eq_getElem_cons inside, here]
    simp
  | case2 i before outside =>
    rw [List.drop_of_length_le (by simpa using outside), List.append_nil]

theorem length_toList (content : ByteArray) : content.toList.length = content.size := by
  rw [ByteArray.toList, toList_loop]
  rfl

namespace TensorFormat

/-- The elements that a content stands for, if it is well-formed. -/
def elements? (format : TensorFormat) (content : ByteArray) : Option (Array Float32) :=
  (format.decode "" content.toList).toOption.map (·.map Float32.ofBits)

theorem toOption_decode (format : TensorFormat) (path path' : String) (content : List UInt8) :
    (format.decode path content).toOption = (format.decode path' content).toOption := by
  cases format with
  | raw =>
    simp only [decode]
    split <;> rfl
  | npy =>
    simp only [decode]
    split <;> rfl

theorem toOption_read (format : TensorFormat) (d : Disk) (path : String) :
    (format.read d path).toOption = (d.read? path).bind format.elements? := by
  unfold read
  cases d.read? path with
  | none => rfl
  | some content =>
    rw [Option.bind_some, elements?, toOption_decode format "" path]
    dsimp only
    cases format.decode path content.toList <;> rfl

theorem exists_raw_elements {content : ByteArray} {n : Nat} (h : content.size = 4 * n) :
    ∃ values, raw.elements? content = some values ∧ values.size = n := by
  have sizes := ByteOrder.little.size_collect #[] content.toList
  rcases collected : ByteOrder.little.collect #[] content.toList with ⟨words, rest⟩
  rw [collected, length_toList, h, Nat.mul_mod_right, Nat.mul_div_right n (by decide)] at sizes
  obtain rfl := List.length_eq_zero_iff.1 sizes.2
  refine ⟨words.map Float32.ofBits, ?_, by simpa using sizes.1⟩
  rw [elements?, decode, ByteOrder.decode?, collected]
  rfl

theorem elements?_zeros (n : Nat) :
    raw.elements? ⟨.replicate (4 * n) 0⟩ = some (.replicate n 0) := by
  have bytes : (ByteArray.mk (.replicate (4 * n) 0)).toList = List.replicate (4 * n) 0 := by
    rw [ByteArray.toList, toList_loop]
    simp
  have words : ByteOrder.little.encode (.replicate n 0) = List.replicate (4 * n) 0 := by
    have word : ByteOrder.little.bytes 0 = List.replicate 4 0 := rfl
    rw [ByteOrder.encode, Array.toList_replicate, List.flatMap_replicate, word,
      List.flatten_replicate_replicate, Nat.mul_comm]
  have blank : Float32.ofBits 0 = 0 := rfl
  rw [elements?, bytes, decode, ByteOrder.little.decode?_eq_some_iff_encode.2 words]
  simp [Except.toOption, blank]

end TensorFormat

namespace FrameFolders

variable {s : FrameFolders} {d : Disk} {format : TensorFormat} {folder name : String} {p : Place}
  {content : ByteArray}

/-- The content of the tensor file with a given name, if there is one in the folder. -/
def tensor? (d : Disk) (format : TensorFormat) (folder name : String) : Option ByteArray :=
  if Path.hasExtension (Path.join folder name) format.extension then d.read? (Path.join folder name)
  else none

def contents (d : Disk) (format : TensorFormat) (folder : String) (p : Place) : List ByteArray :=
  (d.namesIn p).filterMap (tensor? d format folder)

/-- The frame that some contents make up. -/
def composed? (s : FrameFolders) (contents : List ByteArray) : Option Frame := do
  (Frame.recognize s.cells (← contents.mapM s.format.elements?)).toOption

theorem read?_of_tensor? (h : tensor? d format folder name = some content) :
    d.read? (Path.join folder name) = some content := (Option.ite_none_right_eq_some.1 h).2

theorem tensor?_eq_some_iff (found : d.folder? folder = some p) (h : Path.IsName name) :
    tensor? d format folder name = some content ↔ Path.hasExtension name format.extension = true ∧
      Disk.isPath (Path.join folder name) = true ∧ d.node? (p ++ [name]) = some (.file content) := by
  rw [tensor?, Option.ite_none_right_eq_some, Path.hasExtension_join h, Disk.read?_join found h]

theorem hasExtension_dot {stem : String} (format : TensorFormat) (begun : stem ≠ "")
    (h : Path.IsName (stem ++ "." ++ format.extension)) :
    Path.hasExtension (stem ++ "." ++ format.extension) format.extension = true := by
  have dotless : '.' ∉ format.extension.toList := by cases format <;> decide
  have small : format.extension.map Char.toLower = format.extension := by
    rw [← String.toList_inj, String.toList_map]
    cases format <;> decide
  rw [Path.hasExtension, Path.extension?_dot h begun dotless, Option.any_some, small]
  exact beq_self_eq_true _

theorem composed?_eq_some_iff {contents : List ByteArray} {f : Frame} :
    s.composed? contents = some f ↔ ∃ tensors, contents.mapM s.format.elements? = some tensors ∧
      Frame.recognize s.cells tensors = .ok f := by
  rw [composed?, Option.bind_eq_bind, Option.bind_eq_some_iff]
  simp only [toOption_eq_some_iff]

theorem composed?_of_perm {contents contents' : List ByteArray} {f : Frame}
    (same : contents'.Perm contents) (h : s.composed? contents = some f) :
    s.composed? contents' = some f := by
  obtain ⟨tensors, read, recognized⟩ := composed?_eq_some_iff.1 h
  obtain ⟨tensors', read', perm⟩ := exists_mapM_perm same read
  obtain ⟨cells, distinct, slots⟩ := Frame.recognize_eq_ok_iff.1 recognized
  refine composed?_eq_some_iff.2 ⟨tensors', read', ?_⟩
  exact Frame.recognize_eq_ok_iff.2 ⟨cells, distinct, perm.trans slots⟩

theorem composed?_perm {contents contents' : List ByteArray} (same : contents'.Perm contents) :
    s.composed? contents' = s.composed? contents :=
  Option.ext fun _ ↦ ⟨composed?_of_perm same.symm, composed?_of_perm same⟩

theorem composed?_nil : s.composed? [] = none := by
  rw [Option.eq_none_iff_forall_ne_some]
  intro f h
  obtain ⟨tensors, read, recognized⟩ := composed?_eq_some_iff.1 h
  obtain rfl : [] = tensors := Option.some.inj read
  obtain ⟨-, -, slots⟩ := Frame.recognize_eq_ok_iff.1 recognized
  have none : Slot.all = [] := List.map_eq_nil_iff.1 slots.nil_eq.symm
  exact absurd none (List.ne_nil_of_mem (Slot.mem_all ⟨0, .confidence⟩))

theorem exists_tensorFiles (format : TensorFormat) (found : d.folder? folder = some p) :
    ∃ names : List String, tensorFiles d format folder = .ok (names.map (Path.join folder)) ∧
      (∀ name ∈ names, (tensor? d format folder name).isSome) ∧
      (names.filterMap (tensor? d format folder)).Perm (contents d format folder p) := by
  have held (name : String) : (tensor? d format folder name).isSome =
      ((d.read? (Path.join folder name)).isSome &&
        Path.hasExtension (Path.join folder name) format.extension) := by
    unfold tensor?
    cases Path.hasExtension (Path.join folder name) format.extension <;> simp
  refine ⟨((d.namesIn p).mergeSort fun a b ↦ decide (a ≤ b)).filter
    fun name ↦ (tensor? d format folder name).isSome, ?_, fun name h ↦ (List.mem_filter.1 h).2, ?_⟩
  · unfold tensorFiles
    rw [found]
    dsimp only
    rw [paths, List.filter_map]
    simp only [held, Function.comp_def]
  · have whole (name : String) : (if (tensor? d format folder name).isSome = true then
        tensor? d format folder name else none) = tensor? d format folder name := by
      cases tensor? d format folder name <;> rfl
    rw [List.filterMap_filter, contents]
    simp only [whole]
    exact (List.mergeSort_perm _ _).filterMap _

theorem toOption_mapM_read {names : List String}
    (held : ∀ name ∈ names, (tensor? d format folder name).isSome) :
    ((names.map (Path.join folder)).mapM (format.read d)).toOption =
      (names.filterMap (tensor? d format folder)).mapM format.elements? := by
  rw [toOption_mapM, List.mapM_map]
  induction names with
  | nil => rfl
  | cons name names ih =>
    obtain ⟨content, here⟩ := Option.isSome_iff_exists.1 (held name List.mem_cons_self)
    rw [List.mapM_cons, List.filterMap_cons_some here, List.mapM_cons,
      ← ih fun name' h ↦ held name' (List.mem_cons_of_mem name h), Function.comp_apply,
      TensorFormat.toOption_read, read?_of_tensor? here, Option.bind_some]

/-- A folder holds the frame that the contents of its tensor files make up, whatever their names. -/
theorem toOption_loaded (found : d.folder? folder = some p) :
    (s.loaded d folder).toOption = s.composed? (contents d s.format folder p) := by
  obtain ⟨names, listed, held, perm⟩ := exists_tensorFiles s.format found
  rw [← composed?_perm perm, loaded, listed]
  cases names with
  | nil => exact composed?_nil.symm
  | cons name names =>
    rw [composed?, ← toOption_mapM_read held]
    change (((name :: names).map (Path.join folder)).mapM (s.format.read d) >>= fun tensors ↦
      (Frame.recognize s.cells tensors).mapError (InputError.layout folder)).toOption = _
    rw [toOption_bind]
    exact Option.bind_congr fun tensors _ ↦ toOption_mapError _ _

theorem exists_composed (raw : s.format = .raw)
    (distinct : (Slot.all.map (Slot.length s.cells)).Nodup) {files : List ByteArray}
    (sizes : (files.map (·.size)).Perm (Slot.all.map fun slot ↦ 4 * slot.length s.cells)) :
    ∃ f, s.composed? files = some f := by
  let values (content : ByteArray) : Array Float32 := (s.format.elements? content).getD #[]
  have read (content : ByteArray) (h : content ∈ files) :
      s.format.elements? content = some (values content) ∧
        (values content).size = content.size / 4 := by
    obtain ⟨slot, -, size⟩ := List.mem_map.1 (sizes.mem_iff.1 (List.mem_map_of_mem h))
    obtain ⟨elements, read, count⟩ := TensorFormat.exists_raw_elements size.symm
    simp only [values, raw, read, Option.getD_some, true_and]
    omega
  have counts : ((files.map values).map (·.size)).Perm (Slot.all.map (Slot.length s.cells)) := by
    have quarter := sizes.map (· / 4)
    simp only [List.map_map, Function.comp_def, Nat.mul_div_right _ (show 0 < 4 by decide)] at quarter
    have counted : files.map ((·.size) ∘ values) = files.map (·.size / 4) :=
      List.map_congr_left fun content h ↦ (read content h).2
    rwa [List.map_map, counted]
  obtain ⟨f, recognized⟩ := Frame.exists_recognize_eq_ok distinct counts
  have ran : files.mapM s.format.elements? = some (files.map values) :=
    mapM_eq_pure fun content h ↦ (read content h).1
  exact ⟨f, composed?_eq_some_iff.2 ⟨_, ran, recognized⟩⟩

/-- Raw tensor files with the sizes of the tensors of a frame hold a frame, in any order. -/
theorem exists_loaded (raw : s.format = .raw)
    (distinct : (Slot.all.map (Slot.length s.cells)).Nodup) (found : d.folder? folder = some p)
    (sizes : ((contents d .raw folder p).map (·.size)).Perm
      (Slot.all.map fun slot ↦ 4 * slot.length s.cells)) : ∃ f, s.loaded d folder = .ok f := by
  obtain ⟨f, composed⟩ := exists_composed raw distinct sizes
  rw [← raw, ← toOption_loaded found] at composed
  exact ⟨f, toOption_eq_some_iff.1 composed⟩

def sampleFiles : List (String × Slot) := ["0", "1", "2", "3", "4", "5", "6", "7", "8"].zip Slot.all

def sampleDisk (content : Slot → ByteArray) : Disk where
  nodes := (["f"], .folder) :: (["e"], .folder) ::
    sampleFiles.map fun (stem, slot) ↦ (["f", stem ++ "." ++ "bin"], .file (content slot))

theorem sample_names {stem : String} {slot : Slot} (h : (stem, slot) ∈ sampleFiles) :
    stem ≠ "" ∧ Path.IsName (stem ++ "." ++ "bin") ∧
      "/f".utf8ByteSize + 1 + (stem ++ "." ++ "bin").utf8ByteSize ≤ Path.maxBytes := by
  have every : ∀ file ∈ sampleFiles, file.1 ≠ "" ∧ Path.IsName (file.1 ++ "." ++ "bin") ∧
      "/f".utf8ByteSize + 1 + (file.1 ++ "." ++ "bin").utf8ByteSize ≤ Path.maxBytes := by
    decide
  exact every _ h

section Sample

variable (content : Slot → ByteArray)

theorem folder?_sampleDisk : (sampleDisk content).folder? "/f" = some ["f"] := by
  cbv

theorem namesIn_sampleDisk : (sampleDisk content).namesIn ["f"] =
    sampleFiles.map fun (stem, _) ↦ stem ++ "." ++ "bin" := rfl

theorem tensor?_sampleDisk {stem : String} {slot : Slot} (h : (stem, slot) ∈ sampleFiles) :
    tensor? (sampleDisk content) .raw "/f" (stem ++ "." ++ "bin") = some (content slot) := by
  obtain ⟨begun, named, short⟩ := sample_names h
  refine (tensor?_eq_some_iff (folder?_sampleDisk content) named).2
    ⟨hasExtension_dot .raw begun named, ?_, ?_⟩
  · apply Disk.isPath_join (folder?_sampleDisk content) named
    exact (Path.utf8ByteSize_join_le _ _).trans short
  · have files : sampleFiles = [("0", ⟨0, .confidence⟩), ("1", ⟨0, .location⟩),
        ("2", ⟨0, .landmarks⟩), ("3", ⟨1, .confidence⟩), ("4", ⟨1, .location⟩),
        ("5", ⟨1, .landmarks⟩), ("6", ⟨2, .confidence⟩), ("7", ⟨2, .location⟩),
        ("8", ⟨2, .landmarks⟩)] := rfl
    simp only [files, List.mem_cons, Prod.mk.injEq, List.not_mem_nil, or_false] at h
    rcases h with ⟨rfl, rfl⟩ | ⟨rfl, rfl⟩ | ⟨rfl, rfl⟩ | ⟨rfl, rfl⟩ | ⟨rfl, rfl⟩ | ⟨rfl, rfl⟩ |
      ⟨rfl, rfl⟩ | ⟨rfl, rfl⟩ | ⟨rfl, rfl⟩
    all_goals rfl

theorem contents_sampleDisk :
    contents (sampleDisk content) .raw "/f" ["f"] = Slot.all.map content := by
  have slots : Slot.all = sampleFiles.map Prod.snd := rfl
  rw [contents, namesIn_sampleDisk, List.filterMap_map, slots, List.map_map,
    ← List.filterMap_eq_map]
  exact List.filterMap_congr fun file h ↦ tensor?_sampleDisk content h

variable {content} {cells : Vector Nat scaleCount}
  (distinct : (Slot.all.map (Slot.length cells)).Nodup) (folders : List String)
include distinct

theorem exists_loaded_sampleDisk (sized : ∀ slot, (content slot).size = 4 * slot.length cells) :
    ∃ f, loaded ⟨.raw, cells, folders⟩ (sampleDisk content) "/f" = .ok f := by
  refine exists_loaded rfl distinct (folder?_sampleDisk content) ?_
  rw [contents_sampleDisk, List.map_map]
  simp only [Function.comp_def, sized]
  exact .refl _

theorem loaded_sampleDisk_zeros
    (zeros : ∀ slot, content slot = ⟨.replicate (4 * slot.length cells) 0⟩) :
    loaded ⟨.raw, cells, folders⟩ (sampleDisk content) "/f" = .ok (.zeros cells) := by
  have read : (Slot.all.map content).mapM TensorFormat.raw.elements? =
      some (Slot.all.map (Frame.zeros cells).contents) := by
    rw [List.mapM_map]
    refine mapM_eq_pure fun slot _ ↦ ?_
    rw [Function.comp_apply, zeros, TensorFormat.elements?_zeros, Frame.contents_zeros]
    rfl
  refine toOption_eq_some_iff.1 ?_
  rw [toOption_loaded (folder?_sampleDisk content), contents_sampleDisk, composed?_eq_some_iff]
  exact ⟨_, read, Frame.recognize_eq_ok_iff.2 ⟨Frame.cells_zeros cells, distinct, .refl _⟩⟩

end Sample

end FrameFolders

end FaceDecode
