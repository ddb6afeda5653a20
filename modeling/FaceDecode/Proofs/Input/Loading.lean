import FaceDecode.Input.Folders
import FaceDecode.Proofs.Logging
import FaceDecode.Proofs.Steps
import FaceDecode.Proofs.Tensor.Recognition

namespace FaceDecode.FrameFolders

variable (s : FrameFolders) (d : Disk) (folder : String)

/-- The frame in a folder, or why there is none. -/
def loaded : Except InputError Frame := do
  let files ← tensorFiles d s.format folder
  if files.isEmpty then .error (.noTensors folder)
  else
    let tensors ← files.mapM (s.format.read d)
    (Frame.recognize s.cells tensors).mapError (.layout folder)

def loadable (folders : List String) : List String :=
  folders.filter fun folder ↦ (s.loaded d folder).toOption.isSome

theorem quiet_loadTensor (path : String) :
    Quiet (loadTensor d s.format path) (s.format.read d path) := by
  have read : Quiet (loadTensor d s.format path) (s.format.read d path >>= pure) :=
    (Quiet.ofExcept _).bind fun values ↦ (Quiet.debug _).bind fun _ ↦ .pure values
  rwa [bind_pure] at read

theorem quiet_loadFrame : Quiet (s.loadFrame d folder) (s.loaded d folder) := by
  refine (Quiet.ofExcept _).bind fun files ↦ ?_
  split
  case isTrue => exact .throw _
  case isFalse =>
    exact (Quiet.mapM (s.quiet_loadTensor d) files).bind fun tensors ↦ .ofExcept _

def skippedLine (e : InputError) : Line := ⟨.error, s!"跳过无法加载的帧 {folder}: {e.message}"⟩

variable {s d folder}

theorem run_loadFrame?_of_ok {f : Frame} (h : s.loaded d folder = .ok f) (log : Log) :
    ∃ log', (s.loadFrame? d folder).run log = (some f, log') ∧ shown log' = shown log := by
  obtain ⟨log', ran, same⟩ := (s.quiet_loadFrame d folder).shown_eq log
  rw [h] at ran
  exact ⟨log', run_bind_of_eq ran, same⟩

theorem run_loadFrame?_of_error {e : InputError} (h : s.loaded d folder = .error e) (log : Log) :
    ∃ log', (s.loadFrame? d folder).run log = (none, log') ∧
      shown log' = shown log ++ [skippedLine folder e] := by
  obtain ⟨log', ran, same⟩ := (s.quiet_loadFrame d folder).shown_eq log
  rw [h] at ran
  refine ⟨log'.push (skippedLine folder e), run_bind_of_eq ran, ?_⟩
  rw [shown_push _ _ rfl, same]

theorem loaded_of_loadFrame? {log : Log} {f : Frame}
    (h : ((s.loadFrame? d folder).run log).1 = some f) : s.loaded d folder = .ok f := by
  cases found : s.loaded d folder with
  | ok f' =>
    obtain ⟨log', ran, -⟩ := run_loadFrame?_of_ok found log
    rw [ran] at h
    exact congrArg _ (Option.some.inj h)
  | error e =>
    obtain ⟨log', ran, -⟩ := run_loadFrame?_of_error found log
    rw [ran] at h
    cases h

theorem loadable_cons_of_ok {f : Frame} (h : s.loaded d folder = .ok f) (folders : List String) :
    s.loadable d (folder :: folders) = folder :: s.loadable d folders :=
  List.filter_cons_of_pos (by rw [h]; rfl)

theorem loadable_cons_of_error {e : InputError} (h : s.loaded d folder = .error e)
    (folders : List String) : s.loadable d (folder :: folders) = s.loadable d folders :=
  List.filter_cons_of_neg (by rw [h]; exact Bool.false_ne_true)

theorem cells_of_loaded {f : Frame} (h : s.loaded d folder = .ok f) : f.cells = s.cells := by
  obtain ⟨files, -, h⟩ := bind_eq_ok.1 h
  split at h
  case isTrue => cases h
  case isFalse =>
    obtain ⟨tensors, -, h⟩ := bind_eq_ok.1 h
    cases found : Frame.recognize s.cells tensors with
    | error e =>
      rw [found] at h
      cases h
    | ok f' =>
      rw [found] at h
      cases h
      exact (Frame.recognize_eq_ok_iff.1 found).1

theorem cells_of_advance {folders rest : List String} {log log' : Log} {f : Frame}
    (h : (s.advance d folders).run log = ((some f, rest), log')) : f.cells = s.cells := by
  induction folders generalizing log with
  | nil => cases h
  | cons folder folders ih =>
    cases found : s.loaded d folder with
    | ok f' =>
      obtain ⟨log₁, ran, -⟩ := run_loadFrame?_of_ok found log
      rw [advance, run_bind_of_eq ran] at h
      cases h
      exact cells_of_loaded found
    | error e =>
      obtain ⟨log₁, ran, -⟩ := run_loadFrame?_of_error found log
      rw [advance, run_bind_of_eq ran] at h
      exact ih h

theorem advance_of_next {rest : FrameFolders} {found : Option Frame} {log log' : Log}
    (h : (s.next d).run log = ((found, rest), log')) :
    ∃ folders, rest = { s with folders } ∧
      (s.advance d s.folders).run log = ((found, folders), log') := by
  rcases advanced : (s.advance d s.folders).run log with ⟨⟨found', folders⟩, log₁⟩
  rw [next, run_bind_of_eq advanced] at h
  cases h
  exact ⟨folders, rfl, rfl⟩

/-- The frames that a source gives one after the other. The disk and the log may change in between. -/
inductive Yields : FrameFolders → Frame → Prop
  | here {s rest : FrameFolders} {d : Disk} {log log' : Log} {f : Frame}
      (read : (s.next d).run log = ((some f, rest), log')) : Yields s f
  | later {s rest : FrameFolders} {d : Disk} {log log' : Log} {found : Option Frame} {f : Frame}
      (read : (s.next d).run log = ((found, rest), log')) (more : Yields rest f) : Yields s f

theorem cells_of_yields {f : Frame} (h : s.Yields f) : f.cells = s.cells := by
  induction h with
  | here read =>
    obtain ⟨folders, -, advanced⟩ := advance_of_next read
    exact cells_of_advance advanced
  | later read more ih =>
    obtain ⟨folders, rfl, -⟩ := advance_of_next read
    exact ih

/-- How the frames under a folder are listed: as the folder itself where it holds tensor files, else as
the folders in it in order of their names. -/
inductive Listing (d : Disk) (format : TensorFormat) (root : String) : List String → Prop
  | frame {file : String} {files : List String} (held : tensorFiles d format root = .ok (file :: files)) :
      Listing d format root [root]
  | sequence {p : Place} {names : List String} (bare : tensorFiles d format root = .ok [])
      (found : d.folder? root = some p)
      (listed : names.Perm
        ((d.namesIn p).filter fun name ↦ (d.folder? (Path.join root name)).isSome))
      (ordered : names.Pairwise (· ≤ ·)) :
      Listing d format root (names.map (Path.join root))

variable {format : TensorFormat} {root : String} {folders : List String}

theorem pairwise_sorted (names : List String) :
    (names.mergeSort fun a b ↦ decide (a ≤ b)).Pairwise (· ≤ ·) := by
  have sorted : (names.mergeSort fun a b ↦ decide (a ≤ b)).Pairwise
      fun a b ↦ decide (a ≤ b) = true := by
    refine List.pairwise_mergeSort (fun a b c hab hbc ↦ ?_) (fun a b ↦ ?_) names
    · exact decide_eq_true (String.le_trans (of_decide_eq_true hab) (of_decide_eq_true hbc))
    · rw [← Bool.decide_or]
      exact decide_eq_true (String.le_total a b)
  exact sorted.imp of_decide_eq_true

theorem listing_of_framesIn (h : framesIn d format root = .ok folders) :
    Listing d format root folders := by
  unfold framesIn at h
  split at h
  case h_1 => cases h
  case h_2 p found =>
    obtain ⟨files, held, chosen⟩ := bind_eq_ok.1 h
    cases files with
    | cons file files =>
      cases chosen
      exact .frame held
    | nil =>
      have inside : subfolders d root p = _ := List.filter_map
      change (if (subfolders d root p).isEmpty then _ else _) = _ at chosen
      split at chosen
      case isTrue => cases chosen
      case isFalse =>
        cases chosen
        rw [inside]
        exact .sequence held found ((List.mergeSort_perm _ _).filter _)
          ((pairwise_sorted _).filter _)

theorem framesIn_of_openAt {log log' : Log}
    (opened : (openAt d format root).run.run log = (.ok s, log')) :
    framesIn d format root = .ok s.folders ∧ s.format = format ∧
      s.cells = AnchorTable.input.cells := by
  cases framed : framesIn d format root with
  | error e =>
    rw [openAt, framed] at opened
    cases opened
  | ok folders =>
    rw [openAt, framed] at opened
    cases opened
    exact ⟨rfl, rfl, rfl⟩

theorem opened_source {l : Locator} {log log' : Log}
    (h : (ofAnyLocator d l).run.run log = (.ok s, log')) :
    s.cells = AnchorTable.input.cells ∧ Listing d s.format l.decodedPath s.folders := by
  unfold ofAnyLocator at h
  split at h
  case h_2 => cases h
  case h_1 format named =>
    unfold ofLocator at h
    split at h
    case isFalse => cases h
    case isTrue =>
      obtain ⟨framed, rfl, cells⟩ := framesIn_of_openAt h
      exact ⟨cells, listing_of_framesIn framed⟩

end FaceDecode.FrameFolders
