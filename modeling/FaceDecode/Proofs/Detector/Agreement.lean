import FaceDecode.Proofs.Detector.Report
import FaceDecode.Proofs.Tensor.Building

namespace FaceDecode

theorem AnchorTable.cells_input : input.cells = #v[1600, 400, 100] := by
  simp [input, ofGrids, inputGrids, Grid.cells]

namespace ExposureAxis

variable (a : ExposureAxis)

theorem place_lt_iff (picture : a.model ≠ 0) (sensor : a.sensor ≠ 0) (offset : a.offset = 0) {x : Int}
    (low : 0 ≤ x) (high : x ≤ a.model.toNat) : a.place x < a.sensor.toNat ↔ x ≠ a.model.toNat := by
  have pos {n : UInt32} (hn : n ≠ 0) : 0 < (n.toNat : Int) := by
    have : n.toNat ≠ 0 := mt (UInt32.toNat_inj (b := 0)).1 hn
    omega
  have whole : max a.model.toNat 1 = a.model.toNat := by
    have := pos picture
    omega
  have carried : a.place x = x * a.sensor.toNat / a.model.toNat := by
    rw [place, offset, max_eq_left low, whole]
    exact Int.add_zero _
  rw [carried, Int.ediv_lt_iff_lt_mul (pos picture), Int.mul_comm, Int.mul_lt_mul_left (pos sensor)]
  omega

end ExposureAxis

namespace Detection

variable (f : Frame) (table : AnchorTable) (s : DetectSettings) (log : Log)

def skippedLine : Line :=
  ⟨.warn, s!"张量网格数 {cellsText f.cells} 与锚框表 {cellsText table.cells} 不一致, 跳过检测"⟩

variable {f table}

theorem run_detectLogged_of_ne (differ : f.cells ≠ table.cells) :
    (detectLogged f table s).run.run log = (.ok [], log.push (skippedLine f table)) := by
  have none : detect f table s = .ok [] := if_pos differ
  rw [detectLogged, if_pos differ, none]
  rfl

theorem run_detectLogged_of_eq (same : f.cells = table.cells) :
    (detectLogged f table s).run.run log = (detect f table s, log) := by
  rw [detectLogged, if_neg (not_not_intro same)]
  rfl

end Detection

namespace Detector

variable {f : Frame} {d : Detector} {draft : DetectorDraft}

/-- The first scale of a frame that does not have the cells of the anchors. -/
structure FirstMismatch (f : Frame) (scale : Fin scaleCount) : Prop where
  differs : f.cells.get scale ≠ AnchorTable.input.cells.get scale
  same_before : ∀ earlier < scale, f.cells.get earlier = AnchorTable.input.cells.get earlier

theorem firstMismatch_of_mismatch? {scale : Fin scaleCount} (h : mismatch? f = some scale) :
    FirstMismatch f scale := by
  obtain ⟨here, i, hi, place, before⟩ := List.find?_eq_some_iff_getElem.1 h
  rw [List.getElem_finRange] at place
  obtain rfl := place
  refine ⟨fun same ↦ ?_, fun earlier he ↦ ?_⟩
  · rw [bne_iff_ne] at here
    exact here same.symm
  · have passed := before earlier he
    rw [List.getElem_finRange, Bool.not_eq_true', bne_eq_false_iff_eq] at passed
    exact passed.symm

theorem cells_eq_iff : f.cells = AnchorTable.input.cells ↔
    ∀ scale, f.cells.get scale = AnchorTable.input.cells.get scale := by
  rw [Frame.cells_eq_iff]
  simp only [Frame.get_cells]

theorem run_infer_of_ne (differ : f.cells ≠ AnchorTable.input.cells) (log : Log) :
    ∃ scale, FirstMismatch f scale ∧ (d.infer f).run.run log =
      (.error (.gridMismatch scale (AnchorTable.input.cells.get scale) (f.cells.get scale)), log) := by
  cases found : mismatch? f with
  | none => exact absurd (mismatch?_eq_none_iff.1 found) differ
  | some scale =>
    refine ⟨scale, firstMismatch_of_mismatch? found, ?_⟩
    rw [infer, found]
    rfl

variable (d) in
theorem sides_ne_zero : (d.exposure.horizontal.model ≠ 0 ∧ d.exposure.vertical.model ≠ 0) ∧
    d.exposure.horizontal.sensor ≠ 0 ∧ d.exposure.vertical.sensor ≠ 0 := by
  have sizes := (d.draft.fault?_eq_none_iff.1 d.fault_eq_none).2
  simp only [DetectorDraft.sizes, List.forall_mem_cons] at sizes
  exact ⟨⟨sizes.1, sizes.2.1⟩, sizes.2.2.1, sizes.2.2.2.1⟩

theorem onSensor_iff (across : d.draft.exposure.horizontal.offset = 0)
    (down : d.draft.exposure.vertical.offset = 0) {b : PixelBox}
    (within : b.Within (min d.detect.width.toNat 0x7fffffff) (min d.detect.height.toNat 0x7fffffff)) :
    d.exposure.OnSensor b ↔
      b.x1.toInt ≠ d.detect.width.toNat ∧ b.y1.toInt ≠ d.detect.height.toNat := by
  obtain ⟨left, wide, right, top, high, bottom⟩ := within
  obtain ⟨⟨width, height⟩, sensorWidth, sensorHeight⟩ := d.sides_ne_zero
  refine and_congr ?_ ?_
  · exact d.exposure.horizontal.place_lt_iff width sensorWidth across (by omega)
      (show b.x1.toInt ≤ d.detect.width.toNat by omega)
  · exact d.exposure.vertical.place_lt_iff height sensorHeight down (by omega)
      (show b.y1.toInt ≤ d.detect.height.toNat by omega)

/-- The windows of faces inside the picture, where the exposure is not shifted. -/
theorem windows_of_faces (across : d.draft.exposure.horizontal.offset = 0)
    (down : d.draft.exposure.vertical.offset = 0) {faces : List Face}
    (within : ∀ face ∈ faces, face.box.Within (min d.detect.width.toNat 0x7fffffff)
      (min d.detect.height.toNat 0x7fffffff)) :
    List.Forall₂ (fun face w ↦ d.exposure.window? face.box = some { w with weight := 0 })
      ((faces.take maxWindows).filter fun face ↦
        face.box.x1.toInt ≠ (d.detect.width.toNat : Int) ∧
        face.box.y1.toInt ≠ (d.detect.height.toNat : Int))
      (d.exposure.windows (faces.map (·.box))) := by
  have inside : (faces.take maxWindows).filter (fun face ↦ d.exposure.OnSensor face.box) =
      (faces.take maxWindows).filter fun face ↦
        face.box.x1.toInt ≠ (d.detect.width.toNat : Int) ∧
        face.box.y1.toInt ≠ (d.detect.height.toNat : Int) := by
    refine List.filter_congr fun face hface ↦ decide_eq_decide.2 ?_
    exact onSensor_iff across down (within face (List.mem_of_mem_take hface))
  have built := d.exposure.windows_forall₂ (faces.map (·.box))
  rw [← List.map_take, List.filter_map, List.forall₂_map_left_iff] at built
  exact inside ▸ built

theorem exists_report (same : f.cells = AnchorTable.input.cells) (log : Log) :
    ∃ report log', (d.infer f).run.run log = (.ok report, log') ∧
      Detection.detect f .input d.detect = .ok report.faces ∧
      (d.draft.exposure.enabled = false → report.exposure = none) ∧
      (d.draft.exposure.enabled = true →
        report.exposure = some (d.exposure.windows report.boxes) ∧
        (d.exposure.build report.boxes : Logging InferError _).run.run log =
          (.ok (d.exposure.windows report.boxes), log')) := by
  have found := Detection.detect_eq same d.detect
  have ran := run_infer same found log
  cases on : d.draft.exposure.enabled with
  | false =>
    rw [if_neg (show ¬ d.exposure.enabled = true from Bool.eq_false_iff.1 on)] at ran
    exact ⟨_, _, ran, found, fun _ ↦ rfl, Bool.noConfusion⟩
  | true =>
    rw [if_pos (show d.exposure.enabled = true from on)] at ran
    exact ⟨_, _, ran, found, Bool.noConfusion, fun _ ↦ ⟨rfl, d.exposure.run_build _ log⟩⟩

def farRight : List ScaleTensors.Writing := [
  ⟨0, 0, .confidence, #v[0, 10]⟩,
  ⟨0, 0, .landmarks, #v[1000000000, 0, 0, 0, 0, 0, 0, 0, 0, 0]⟩]

theorem last_farRight (cell anchor : Nat) :
    ScaleTensors.Writing.last farRight .confidence cell anchor =
      if cell = 0 ∧ anchor = 0 then #v[0, 10] else .replicate _ 0 := by
  simp only [ScaleTensors.Writing.last, farRight, List.reverse_cons, List.reverse_nil, List.nil_append,
    List.singleton_append, List.findSome?_cons, List.findSome?_nil, ScaleTensors.Writing.valuesFor?]
  by_cases first : cell = 0 ∧ anchor = 0
  · obtain ⟨rfl, rfl⟩ := first
    rfl
  · have other : ¬ (0 = cell ∧ 0 = anchor) := by omega
    simp [first, other]

theorem writeAll_farRight : ∃ s, (ScaleTensors.zeros 1600).writeAll farRight = .ok s ∧
    s.cells = 1600 ∧ ∀ kind cell anchor, cell < 1600 →
      (s.tensor kind).valuesOf cell anchor = ScaleTensors.Writing.last farRight kind cell anchor := by
  refine ScaleTensors.writeAll_spec (fun kind ↦ ?_) ?_ (ScaleTensors.valuesOf_zeros 1600)
  · cases kind <;> decide
  · simp [farRight, ScaleTensors.Writing.Within, ScaleTensors.zeros]

theorem passing_farRight {f : Frame} (cells : (f.scales.get 0).cells = 1600)
    (holds : ∀ cell anchor, cell < 1600 → (f.scales.get 0).conf.valuesOf cell anchor =
      ScaleTensors.Writing.last farRight .confidence cell anchor)
    (blank : ∀ scale ≠ 0, ∃ n, f.scales.get scale = .zeros n) : f.passing 0.6 = [⟨0, 0, 0⟩] := by
  have fails {s : ScaleTensors} {cell anchor : Nat}
      (zeros : s.conf.valuesOf cell anchor = .replicate _ 0) : ¬ 0.6 ≤ s.probability cell anchor := by
    rw [ScaleTensors.probability, zeros]
    decide +kernel
  have passes : 0.6 ≤ (f.scales.get 0).probability 0 0 := by
    rw [ScaleTensors.probability, holds 0 0 (by decide), last_farRight]
    decide +kernel
  rw [← List.perm_singleton, List.perm_ext_iff_of_nodup]
  · rintro ⟨scale, cell, anchor⟩
    rw [Frame.mem_passing, Frame.Has, Frame.probability, List.mem_singleton, Frame.Place.mk.injEq]
    constructor
    · rintro ⟨has, pass⟩
      by_cases first : scale = 0
      · subst first
        have zeros := (holds cell anchor (has.trans_eq cells)).trans (last_farRight cell anchor)
        by_contra other
        rw [if_neg fun here ↦ other ⟨rfl, here.1, Fin.ext here.2⟩] at zeros
        exact fails zeros pass
      · obtain ⟨n, zeros⟩ := blank scale first
        rw [zeros] at pass
        exact absurd pass (fails (ScaleTensors.valuesOf_zeros n .confidence cell anchor))
    · rintro ⟨rfl, rfl, rfl⟩
      exact ⟨cells.symm ▸ Nat.zero_lt_succ _, passes⟩
  · exact (f.passing_pairwise _).imp fun lt same ↦ Nat.ne_of_lt lt (congrArg _ same)
  · exact List.nodup_singleton _

/-- With these values written, the first anchor is the only one that passes. -/
theorem exists_farRight : ∃ (s : ScaleTensors) (f : Frame),
    (ScaleTensors.zeros 1600).writeAll farRight = .ok s ∧ f = ⟨#v[s, .zeros 400, .zeros 100]⟩ ∧
    f.cells = AnchorTable.input.cells ∧ f.passing 0.6 = [⟨0, 0, 0⟩] ∧
    f.valuesOf ⟨0, 0, 0⟩ .location = .replicate 4 0 ∧
    f.valuesOf ⟨0, 0, 0⟩ .landmarks = #v[1000000000, 0, 0, 0, 0, 0, 0, 0, 0, 0] := by
  obtain ⟨s, written, cells, holds⟩ := writeAll_farRight
  obtain ⟨f, made⟩ : ∃ f : Frame, f = ⟨#v[s, .zeros 400, .zeros 100]⟩ := ⟨_, rfl⟩
  have first : f.scales.get 0 = s := by
    rw [made]
    rfl
  refine ⟨s, f, written, made, ?_, ?_, ?_, ?_⟩
  · rw [AnchorTable.cells_input, made]
    simp [Frame.cells, cells, ScaleTensors.zeros]
  · rw [← first] at cells holds
    refine passing_farRight cells (holds .confidence) fun scale later ↦ ?_
    rw [made]
    have scales : ∀ scale : Fin scaleCount, scale = 0 ∨ scale = 1 ∨ scale = 2 := by decide
    rcases scales scale with rfl | rfl | rfl
    · exact absurd rfl later
    · exact ⟨400, rfl⟩
    · exact ⟨100, rfl⟩
  · rw [Frame.valuesOf, first]
    exact holds .location 0 0 (by decide)
  · rw [Frame.valuesOf, first]
    exact holds .landmarks 0 0 (by decide)

theorem anchor_zero : AnchorTable.input.anchor 0 =
    AnchorTable.Site.box AnchorTable.inputSide AnchorTable.inputSide AnchorTable.inputGrids
      ⟨0, 0, 0, 0⟩ := by
  have made : AnchorTable.ofGrids? AnchorTable.inputSide AnchorTable.inputSide AnchorTable.inputGrids =
      some AnchorTable.input := AnchorTable.ofGrids?_eq_some.2 ⟨_, rfl⟩
  have here := AnchorTable.box_of_ofGrids? made (p := ⟨0, 0, 0, 0⟩) (by decide)
  rw [AnchorTable.get_eq_ok] at here
  change AnchorTable.input.anchors[0]? = _ at here
  rw [AnchorTable.anchor, Array.getD_eq_getD_getElem?, here, Option.getD_some]

theorem begins_farRight {f : Frame} (shifts : f.valuesOf ⟨0, 0, 0⟩ .location = .replicate 4 0) :
    (Detection.faceOfPlace f .input (.ofSize 1280 720) ⟨0, 0, 0⟩).box.x1.toInt ≠ 1280 ∧
      (Detection.faceOfPlace f .input (.ofSize 1280 720) ⟨0, 0, 0⟩).box.y1.toInt ≠ 720 := by
  have number : f.number ⟨0, 0, 0⟩ = 0 := rfl
  have box : (Detection.faceOfPlace f .input (.ofSize 1280 720) ⟨0, 0, 0⟩).box =
      (Letterbox.ofSize 1280 720).mapBox ((AnchorTable.Site.box AnchorTable.inputSide
        AnchorTable.inputSide AnchorTable.inputGrids ⟨0, 0, 0, 0⟩).decode (.replicate 4 0)) := by
    rw [Detection.faceOfPlace, shifts, number, anchor_zero]
  rw [box]
  decide +kernel

/-- A built detector refuses a frame just where some scale has other cells than the anchors, and
names the first such scale; plain detection finds no faces there and says why. It answers all other
frames with the faces of plain detection, and with the exposure that is built from their boxes, if
any is asked for. -/
theorem infer_agrees {log log' : Log} (built : (build draft).run.run log = (.ok d, log'))
    (f : Frame) (later : Log) :
    d.exposure = { draft.exposure with
      horizontal.model := draft.detect.width, vertical.model := draft.detect.height } ∧
    ((∃ e later', (d.infer f).run.run later = (.error e, later')) ↔
      ∃ scale, f.cells.get scale ≠ AnchorTable.input.cells.get scale) ∧
    ((Detection.detectLogged f .input draft.detect).run.run later =
        (.ok [], later.push (Detection.skippedLine f .input)) ↔
      ∃ scale, f.cells.get scale ≠ AnchorTable.input.cells.get scale) ∧
    (∀ e later', (d.infer f).run.run later = (.error e, later') →
      ∃ scale, FirstMismatch f scale ∧
        e = .gridMismatch scale (AnchorTable.input.cells.get scale) (f.cells.get scale)) ∧
    ((∀ scale, f.cells.get scale = AnchorTable.input.cells.get scale) →
      ∃ report later',
        (d.infer f).run.run later = (.ok report, later') ∧
        (Detection.detectLogged f .input draft.detect).run.run later = (.ok report.faces, later) ∧
        (draft.exposure.enabled = false → report.exposure = none) ∧
        (draft.exposure.enabled = true → ∃ windows, report.exposure = some windows ∧
          (d.exposure.build report.boxes : Logging InferError _).run.run later =
            (.ok windows, later') ∧
          (draft.exposure.horizontal.offset = 0 → draft.exposure.vertical.offset = 0 →
            (report.faces.Pairwise fun a b ↦ b.score ≤ a.score) ∧
            List.Forall₂ (fun face w ↦ d.exposure.window? face.box = some { w with weight := 0 })
              ((report.faces.take 8).filter fun face ↦
                face.box.x1.toInt ≠ (draft.detect.width.toNat : Int) ∧
                face.box.y1.toInt ≠ (draft.detect.height.toNat : Int)) windows))) := by
  obtain rfl := draft_of_build built
  have differs : f.cells ≠ AnchorTable.input.cells ↔
      ∃ scale, f.cells.get scale ≠ AnchorTable.input.cells.get scale := by
    rw [Ne, cells_eq_iff, not_forall]
  rw [← differs, ← cells_eq_iff]
  by_cases same : f.cells = AnchorTable.input.cells
  · obtain ⟨report, later', ran, found, off, on⟩ := exists_report (d := d) same later
    have plain := Detection.run_detectLogged_of_eq d.detect later same
    rw [found] at plain
    have answered : ¬ ∃ e later', (d.infer f).run.run later = (.error e, later') := by
      rintro ⟨e, _, refused⟩
      rw [ran] at refused
      cases refused
    have silent : later ≠ later.push (Detection.skippedLine f .input) := by
      intro h
      simpa using congrArg Array.size h
    refine ⟨rfl, iff_of_false answered (not_not_intro same), iff_of_false ?_ (not_not_intro same),
      fun e log h ↦ absurd ⟨e, log, h⟩ answered,
      fun _ ↦ ⟨report, later', ran, plain, off, fun enabled ↦ ?_⟩⟩
    · exact fun h ↦ silent (congrArg Prod.snd (plain.symm.trans h))
    · obtain ⟨exposed, built⟩ := on enabled
      obtain ⟨⟨width, height⟩, -⟩ := d.sides_ne_zero
      exact ⟨_, exposed, built, fun across down ↦ ⟨Detection.scores_fall found,
        windows_of_faces across down (Detection.boxes_within width height found)⟩⟩
  · obtain ⟨scale, first, refused⟩ := run_infer_of_ne (d := d) same later
    have plain := Detection.run_detectLogged_of_ne d.detect later same
    refine ⟨rfl, iff_of_true ⟨_, _, refused⟩ same, iff_of_true plain same, ?_, fun h ↦ absurd h same⟩
    intro e later' h
    rw [refused] at h
    cases h
    exact ⟨scale, first, rfl⟩

theorem infer_agrees_farRight :
    ∃ s f d log', (ScaleTensors.zeros 1600).writeAll farRight = .ok s ∧
      f = ⟨#v[s, .zeros 400, .zeros 100]⟩ ∧ (build {}).run.run #[] = (.ok d, log') ∧
      (∃ e later', (d.infer (.zeros #v[1600, 400, 101])).run.run #[] = (.error e, later')) ∧
      ∃ report later' face w, (d.infer f).run.run #[] = (.ok report, later') ∧
        (Detection.detectLogged f .input {}).run.run #[] = (.ok report.faces, #[]) ∧
        report.faces = [face] ∧ report.exposure = some [w] ∧
        d.exposure.window? face.box = some { w with weight := 0 } := by
  obtain ⟨s, f, written, made, same, alone, shifts, -⟩ := exists_farRight
  have sound : ({} : DetectorDraft).fault? = none :=
    ({} : DetectorDraft).fault?_eq_none_iff.2 (by decide)
  have built := run_build sound #[]
  have differs : (Frame.zeros #v[1600, 400, 101]).cells.get 2 ≠ AnchorTable.input.cells.get 2 := by
    rw [Frame.get_cells, Frame.zeros_cells, AnchorTable.cells_input]
    decide
  obtain ⟨-, refused, -⟩ := infer_agrees built (.zeros #v[1600, 400, 101]) #[]
  obtain ⟨-, -, -, -, answered⟩ := infer_agrees built f #[]
  obtain ⟨report, later', ran, plain, -, on⟩ := answered (cells_eq_iff.1 same)
  have found := Detection.detect_of_passing_singleton (s := {}) same alone
  obtain ⟨face, placed⟩ : ∃ face, face = Detection.faceOfPlace f .input (.ofSize 1280 720) ⟨0, 0, 0⟩ :=
    ⟨_, rfl⟩
  have only : report.faces = [face] := by
    rw [Detection.run_detectLogged_of_eq _ _ same, Prod.mk.injEq] at plain
    rw [placed]
    exact Except.ok.inj (plain.1.symm.trans found)
  obtain ⟨windows, exposed, -, unshifted⟩ := on rfl
  obtain ⟨-, each⟩ := unshifted rfl rfl
  have begins := begins_farRight shifts
  rw [← placed] at begins
  have inside : (List.take 8 [face]).filter (fun face ↦ face.box.x1.toInt ≠ (1280 : Int) ∧
      face.box.y1.toInt ≠ (720 : Int)) = [face] := by
    simpa using begins
  rw [only] at each
  obtain ⟨w, rest, here, none, rfl⟩ := List.forall₂_cons_left_iff.1 (inside ▸ each)
  obtain rfl := List.forall₂_nil_left_iff.1 none
  exact ⟨s, f, _, _, written, made, built, refused.2 ⟨2, differs⟩, report, later', face, w, ran,
    plain, only, exposed, here⟩

end Detector

end FaceDecode
