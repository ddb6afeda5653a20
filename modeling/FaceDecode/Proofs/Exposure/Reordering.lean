import FaceDecode.Proofs.Exposure.Areas

namespace FaceDecode.ExposureSettings

theorem covered_perm {windows windows' : List ExposureWindow} (h : windows'.Perm windows) :
    covered windows' = covered windows := by
  induction h with
  | nil => rfl
  | cons w _ ih => rw [covered, covered, ih]
  | swap w v windows =>
    simp only [covered]
    omega
  | trans _ _ ih ih' => exact ih.trans ih'

variable (s : ExposureSettings) {boxes boxes' : List PixelBox}

/-- The window that a box gives, weighted among those of all boxes. -/
def windowAmong (boxes : List PixelBox) (b : PixelBox) : Option ExposureWindow :=
  let found := boxes.filterMap s.window?
  (s.window? b).map fun w ↦ { w with weight := weight (.ofNat (covered found)) found.length w }

theorem windows_eq (boxes : List PixelBox) :
    s.windows boxes =
      (boxes.take maxWindows).filterMap (s.windowAmong (boxes.take maxWindows)) := by
  rw [windows, weighted_eq, List.map_filterMap]
  rfl

theorem windowAmong_perm (h : boxes'.Perm boxes) : s.windowAmong boxes' = s.windowAmong boxes := by
  have found := h.filterMap s.window?
  funext b
  rw [windowAmong, windowAmong, covered_perm found, found.length_eq]

theorem windowAmong_isSome_iff {b : PixelBox} :
    (s.windowAmong boxes b).isSome ↔ s.OnSensor b := by
  rw [windowAmong, Option.isSome_map, window?_isSome_iff]

theorem frames_of_windowAmong {b : PixelBox} {w : ExposureWindow}
    (h : s.windowAmong boxes b = some w) : s.Frames b w := by
  obtain ⟨v, found, rfl⟩ := Option.map_eq_some_iff.1 h
  have frames := s.frames_of_window? found
  exact ⟨frames.across, frames.down⟩

/-- Building gives the window of each box, and drops a box without a window with a line. -/
def BuildsEach (window : PixelBox → Option ExposureWindow) (boxes : List PixelBox) : Prop :=
  ∀ (ε : Type) (log : Log),
    (s.build boxes : Logging ε (List ExposureWindow)).run.run log =
      (.ok (boxes.filterMap window),
        log ++ ((boxes.filter fun b ↦ (window b).isNone).map droppedLine).toArray)

theorem buildsEach_of_few (few : boxes.length ≤ maxWindows) :
    s.BuildsEach (s.windowAmong boxes) boxes := by
  have dropped : s.dropped boxes = boxes.filter fun b ↦ (s.windowAmong boxes b).isNone := by
    rw [ExposureSettings.dropped, List.take_of_length_le few]
    refine List.filter_congr fun b _ ↦ ?_
    rw [windowAmong, Option.isNone_map]
  intro ε log
  rw [run_build, windows_eq, dropped, List.take_of_length_le few]

/-- Up to eight boxes in another order give the same windows in the same other order: whatever its
place, each box gives one window with one weight, or none. Of more boxes only the first eight count. -/
theorem build_reordered :
    (∀ boxes boxes' : List PixelBox, boxes.length ≤ 8 → boxes'.Perm boxes →
      ∃ window : PixelBox → Option ExposureWindow,
        (∀ b, (window b).isSome ↔ s.OnSensor b) ∧ (∀ b w, window b = some w → s.Frames b w) ∧
        s.BuildsEach window boxes ∧ s.BuildsEach window boxes') ∧
    ∀ (ε : Type) (boxes : List PixelBox),
      (s.build boxes : Logging ε (List ExposureWindow)) = s.build (boxes.take 8) := by
  refine ⟨fun boxes boxes' few same ↦ ?_, fun ε boxes ↦ ?_⟩
  · refine ⟨s.windowAmong boxes, fun b ↦ s.windowAmong_isSome_iff,
      fun b w ↦ s.frames_of_windowAmong, s.buildsEach_of_few few, ?_⟩
    rw [← s.windowAmong_perm same]
    exact s.buildsEach_of_few (same.length_eq ▸ few)
  · have first : (boxes.take 8).take maxWindows = boxes.take maxWindows := List.take_take
    rw [build, build, windows, windows, dropped, dropped, first]

theorem build_reordered_three :
    let off : PixelBox := ⟨1280, 0, 1300, 20⟩
    let thin : PixelBox := ⟨5, 5, 5, 9⟩
    let wide : PixelBox := ⟨300, 300, 400, 400⟩
    [off, thin, wide].length ≤ 8 ∧ [wide, off, thin].Perm [off, thin, wide] ∧
      ∃ v w log log',
        (build {} [off, thin, wide] : Logging Unit (List ExposureWindow)).run.run #[] =
          (.ok [v, w], log) ∧
        (build {} [wide, off, thin] : Logging Unit (List ExposureWindow)).run.run #[] =
          (.ok [w, v], log') ∧ v.width = 0 ∧ w.left = 450 := by
  intro off thin wide
  have few : [off, thin, wide].length ≤ 8 := by decide
  have same : [wide, off, thin].Perm [off, thin, wide] := by decide
  obtain ⟨window, seen, frames, built, built'⟩ := (build_reordered {}).1 _ _ few same
  have none : window off = none := by
    rw [← Option.not_isSome_iff_eq_none, seen]
    decide +kernel
  obtain ⟨v, hv⟩ := Option.isSome_iff_exists.1 ((seen thin).2 (by decide +kernel))
  obtain ⟨w, hw⟩ := Option.isSome_iff_exists.1 ((seen wide).2 (by decide +kernel))
  have here := built Unit #[]
  have there := built' Unit #[]
  simp only [List.filterMap_cons, none, hv, hw, List.filterMap_nil] at here there
  refine ⟨few, same, v, w, _, _, here, there, ?_, ?_⟩
  · obtain ⟨begins, -, -, ends⟩ := (frames thin v hv).across
    rw [Int.max_self, ← begins] at ends
    rw [← UInt32.toNat_inj, UInt32.toNat_zero]
    omega
  · have begins := (frames wide w hw).across.first_eq
    have place : ExposureAxis.place { model := 1280, sensor := 1920 } wide.x1.toInt = 450 := by
      decide
    rw [place] at begins
    rw [← UInt32.toNat_inj]
    exact Int.ofNat_inj.1 begins

end FaceDecode.ExposureSettings
