import FaceDecode.Proofs.Input.Contents

namespace FaceDecode.FrameFolders

/-- A frame that a source gives, how many folders are left then, and the lines shown up to then. -/
structure Delivery where
  frame : Frame
  remaining : Nat
  told : List Line

/-- A source is asked for frames until it gives none. -/
inductive Iterates (d : Disk) : FrameFolders → Log → List Delivery → FrameFolders → Log → Prop
  | give {s s' rest : FrameFolders} {log log' log'' : Log} {f : Frame} {later : List Delivery}
      (read : (s.next d).run log = ((some f, s'), log'))
      (more : Iterates d s' log' later rest log'') :
      Iterates d s log (⟨f, s'.folders.length, shown log'⟩ :: later) rest log''
  | stop {s rest : FrameFolders} {log log' : Log} (read : (s.next d).run log = ((none, rest), log')) :
      Iterates d s log [] rest log'

variable {s : FrameFolders} {d : Disk}

/-- What comes of asking a source follows from the answer to the first question. -/
theorem Iterates.congr {s' rest : FrameFolders} {log log' log'' : Log} {given : List Delivery}
    (h : Iterates d s log given rest log'') (same : (s'.next d).run log' = (s.next d).run log) :
    Iterates d s' log' given rest log'' := by
  cases h with
  | give read more => exact .give (same.trans read) more
  | stop read => exact .stop (same.trans read)

theorem Iterates.unique {rest rest' : FrameFolders} {log log' log'' : Log}
    {given given' : List Delivery} (h : Iterates d s log given rest log')
    (h' : Iterates d s log given' rest' log'') : given' = given ∧ rest' = rest ∧ log'' = log' := by
  induction h generalizing given' with
  | give read _ ih =>
    cases h' with
    | give read' more' =>
      rw [read] at read'
      cases read'
      obtain ⟨rfl, rfl, rfl⟩ := ih more'
      exact ⟨rfl, rfl, rfl⟩
    | stop read' =>
      rw [read] at read'
      cases read'
  | stop read =>
    cases h' with
    | give read' =>
      rw [read] at read'
      cases read'
    | stop read' =>
      rw [read] at read'
      cases read'
      exact ⟨rfl, rfl, rfl⟩

theorem advance_congr (folders left : List String) :
    ({ s with folders := left } : FrameFolders).advance d folders = s.advance d folders := by
  induction folders with
  | nil => rfl
  | cons folder folders ih =>
    rw [advance, advance, ih]
    rfl

theorem run_next (folders : List String) (log : Log) :
    (({ s with folders } : FrameFolders).next d).run log =
      (((s.advance d folders).run log).1.map id fun folders ↦ { s with folders },
        ((s.advance d folders).run log).2) := by
  rw [next, advance_congr]
  rfl

variable {folder : String} {folders : List String}

theorem next_cons_of_ok {f : Frame} (h : s.loaded d folder = .ok f) (folders : List String)
    (log : Log) :
    ∃ log', (({ s with folders := folder :: folders } : FrameFolders).next d).run log =
        ((some f, { s with folders }), log') ∧ shown log' = shown log := by
  obtain ⟨log', ran, same⟩ := run_loadFrame?_of_ok h log
  refine ⟨log', ?_, same⟩
  rw [run_next, advance, run_bind_of_eq ran]
  rfl

theorem next_cons_of_error {e : InputError} (h : s.loaded d folder = .error e)
    (folders : List String) (log : Log) :
    ∃ log', (({ s with folders := folder :: folders } : FrameFolders).next d).run log =
        (({ s with folders } : FrameFolders).next d).run log' ∧
      shown log' = shown log ++ [skippedLine folder e] := by
  obtain ⟨log', ran, same⟩ := run_loadFrame?_of_error h log
  refine ⟨log', ?_, same⟩
  rw [run_next, run_next, advance, run_bind_of_eq ran]

variable (s d)

def skippedLines (folders : List String) : List Line :=
  folders.filterMap fun folder ↦
    match s.loaded d folder with
    | .ok _ => none
    | .error e => some (skippedLine folder e)

def deliveries (before : List Line) (folders : List String) : List Delivery :=
  folders.zipIdx.filterMap fun (folder, i) ↦
    (s.loaded d folder).toOption.map fun frame ↦
      ⟨frame, folders.length - (i + 1), before ++ s.skippedLines d (folders.take i)⟩

variable {s d}

theorem skippedLines_cons_of_ok {f : Frame} (h : s.loaded d folder = .ok f) :
    s.skippedLines d (folder :: folders) = s.skippedLines d folders :=
  List.filterMap_cons_none (by rw [h])

theorem skippedLines_cons_of_error {e : InputError} (h : s.loaded d folder = .error e) :
    s.skippedLines d (folder :: folders) = skippedLine folder e :: s.skippedLines d folders :=
  List.filterMap_cons_some (by rw [h])

theorem skippedLines_cons (folders : List String) :
    s.skippedLines d (folder :: folders) = s.skippedLines d [folder] ++ s.skippedLines d folders :=
  List.filterMap_append (l := [folder])

theorem deliveries_cons (before : List Line) :
    s.deliveries d before (folder :: folders) =
      ((s.loaded d folder).toOption.map (⟨·, folders.length, before⟩)).toList ++
        s.deliveries d (before ++ s.skippedLines d [folder]) folders := by
  have first : before ++ s.skippedLines d [] = before := List.append_nil before
  have later (i : Nat) : s.skippedLines d [folder] ++ s.skippedLines d (folders.take i) =
      s.skippedLines d ((folder :: folders).take (i + 1)) := (skippedLines_cons _).symm
  simp only [deliveries, List.zipIdx_cons', List.filterMap_cons, List.filterMap_map,
    Function.comp_def, List.length_cons, Nat.add_sub_add_right, List.append_assoc, later,
    List.take_zero, first]
  cases s.loaded d folder <;> rfl

theorem deliveries_cons_of_ok {f : Frame} (h : s.loaded d folder = .ok f) (before : List Line) :
    s.deliveries d before (folder :: folders) =
      ⟨f, folders.length, before⟩ :: s.deliveries d before folders := by
  rw [deliveries_cons, skippedLines_cons_of_ok h, h]
  exact congrArg (⟨f, folders.length, before⟩ :: s.deliveries d · folders) (List.append_nil before)

theorem deliveries_cons_of_error {e : InputError} (h : s.loaded d folder = .error e)
    (before : List Line) :
    s.deliveries d before (folder :: folders) =
      s.deliveries d (before ++ [skippedLine folder e]) folders := by
  rw [deliveries_cons, skippedLines_cons_of_error h, h]
  rfl

/-- A source gives what its folders hold and is empty then. -/
theorem iterates_folders (folders : List String) (log : Log) :
    ∃ log', Iterates d { s with folders } log (s.deliveries d (shown log) folders)
        { s with folders := [] } log' ∧
      shown log' = shown log ++ s.skippedLines d folders := by
  induction folders generalizing log with
  | nil => exact ⟨log, .stop rfl, (List.append_nil _).symm⟩
  | cons folder folders ih =>
    cases found : s.loaded d folder with
    | ok f =>
      obtain ⟨log₁, read, same⟩ := next_cons_of_ok found folders log
      obtain ⟨log₂, later, told⟩ := ih log₁
      refine ⟨log₂, ?_, ?_⟩
      · rw [deliveries_cons_of_ok found, ← same]
        exact .give read later
      · rw [told, same, skippedLines_cons_of_ok found]
    | error e =>
      obtain ⟨log₁, passed, same⟩ := next_cons_of_error found folders log
      obtain ⟨log₂, later, told⟩ := ih log₁
      refine ⟨log₂, ?_, ?_⟩
      · rw [deliveries_cons_of_error found, ← same]
        exact later.congr passed
      · rw [told, same, skippedLines_cons_of_error found, List.append_assoc]
        rfl

theorem nodup_namesIn (distinct : (d.nodes.map Prod.fst).Nodup) (p : Place) :
    (d.namesIn p).Nodup := by
  have places : d.namesIn p =
      (d.nodes.map Prod.fst).filterMap fun q ↦ if q.dropLast = p then q.getLast? else none := by
    rw [List.filterMap_map]
    rfl
  rw [places]
  refine List.Nodup.filterMap (fun q q' name hq hq' ↦ ?_) distinct
  rw [Option.mem_def, Option.ite_none_right_eq_some] at hq hq'
  rw [← List.dropLast_append_getLast? name hq.2, ← List.dropLast_append_getLast? name hq'.2, hq.1,
    hq'.1]

theorem Listing.nodup {format : TensorFormat} {root : String} {folders : List String}
    (h : Listing d format root folders) (distinct : (d.nodes.map Prod.fst).Nodup) :
    folders.Nodup := by
  cases h with
  | frame => exact List.nodup_singleton root
  | @sequence p names _ _ listed _ =>
    have once := listed.nodup_iff.2 ((nodup_namesIn distinct p).filter _)
    exact once.map fun a b ↦ Path.join_inj.1

/-- A source that was opened lists its folders, and asked for frames it gives those of the folders
that have one: in their order, each with the folders after it left, and with a line for each folder
that was passed over. Then it is empty, and whatever the disk holds later, it gives no more. -/
theorem iterates_opened {format : TensorFormat} {root : String} {log log' : Log}
    (opened : (openAt d format root).run.run log = (.ok s, log')) (cells : Vector Nat scaleCount)
    (log₀ : Log) :
    Listing d format root s.folders ∧ ((d.nodes.map Prod.fst).Nodup → s.folders.Nodup) ∧
    (∀ folder, Quiet (({ s with cells } : FrameFolders).loadFrame d folder)
      (({ s with cells } : FrameFolders).loaded d folder)) ∧
    ∃ rest log₁,
      (∀ given rest' log', Iterates d { s with cells } log₀ given rest' log' ↔
        given = ({ s with cells } : FrameFolders).deliveries d (shown log₀) s.folders ∧
          rest' = rest ∧ log' = log₁) ∧
      shown log₁ = shown log₀ ++ ({ s with cells } : FrameFolders).skippedLines d s.folders ∧
      rest.folders = [] ∧ ∀ d' log, (rest.next d').run log = ((none, rest), log) := by
  obtain ⟨framed, -, -⟩ := framesIn_of_openAt opened
  have listing := listing_of_framesIn framed
  obtain ⟨log₁, asked, told⟩ :=
    iterates_folders (s := { s with cells }) (d := d) s.folders log₀
  refine ⟨listing, listing.nodup, fun folder ↦ quiet_loadFrame _ d folder, _, log₁,
    fun given rest' log' ↦ ⟨asked.unique, ?_⟩, told, rfl, fun _ _ ↦ rfl⟩
  rintro ⟨rfl, rfl, rfl⟩
  exact asked

theorem iterates_opened_empty_then_frame :
    ∃ (d : Disk) (source rest : FrameFolders) (log₀ log₁ : Log) (f : Frame),
      (d.nodes.map Prod.fst).Nodup ∧ (openAt d .raw "/").run.run #[] = (.ok source, log₀) ∧
      source.folders = ["/e", "/f"] ∧ source.folders.Nodup ∧
      Iterates d { source with cells := #v[1, 3, 4] } log₀
        [⟨f, 0, shown log₀ ++ [skippedLine "/e" (.noTensors "/e")]⟩] rest log₁ ∧
      rest.folders = [] := by
  obtain ⟨content, sized⟩ : ∃ content : Slot → ByteArray,
      ∀ slot, (content slot).size = 4 * slot.length #v[1, 3, 4] :=
    ⟨fun slot ↦ ⟨.replicate (4 * slot.length #v[1, 3, 4]) 0⟩, fun slot ↦ Array.size_replicate⟩
  let d : Disk := sampleDisk content
  let source : FrameFolders := ⟨.raw, AnchorTable.input.cells, ["/e", "/f"]⟩
  let s : FrameFolders := { source with cells := #v[1, 3, 4] }
  have distinct : (d.nodes.map Prod.fst).Nodup := by
    have places : d.nodes.map Prod.fst =
        ["f"] :: ["e"] :: sampleFiles.map fun file ↦ ["f", file.1 ++ "." ++ "bin"] := rfl
    rw [places]
    decide
  have framed : framesIn d .raw "/" = .ok ["/e", "/f"] := by
    cbv
  obtain ⟨log₀, opened⟩ : ∃ log₀, (openAt d .raw "/").run.run #[] = (.ok source, log₀) := by
    rw [openAt, framed]
    exact ⟨_, rfl⟩
  have bare : s.loaded d "/e" = .error (.noTensors "/e") := by
    have none : tensorFiles d .raw "/e" = .ok [] := by cbv
    rw [loaded, none]
    rfl
  obtain ⟨f, held⟩ : ∃ f, s.loaded d "/f" = .ok f := exists_loaded_sampleDisk (by decide) _ sized
  obtain ⟨-, once, -, rest, log₁, iterates, -, done, -⟩ := iterates_opened opened #v[1, 3, 4] log₀
  refine ⟨d, source, rest, log₀, log₁, f, distinct, opened, rfl, once distinct, ?_, done⟩
  rw [iterates]
  refine ⟨?_, rfl, rfl⟩
  show _ = s.deliveries d (shown log₀) ["/e", "/f"]
  rw [deliveries_cons_of_error bare, deliveries_cons_of_ok held]
  rfl

end FaceDecode.FrameFolders
